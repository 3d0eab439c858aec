import RankAdvisor.Binary64.Basic
import RankAdvisor.Json.Value
import RankAdvisor.Fault

/-! # Advice

What the advice provider is asked for about one stock: a recommendation to buy or to sell,
a confidence between zero and one, a one-sentence summary, and the narrative before it.
An answer that cannot be read becomes advice marked unreadable, with confidence zero, a
fixed summary, and the whole answer as narrative.
-/

namespace RankAdvisor

/-- The recommendation of a piece of advice. -/
inductive Recommendation where
  | buy
  | sell
  | unreadable
  deriving DecidableEq, Repr, Inhabited

namespace Recommendation

def word : Recommendation → String
  | .buy => "BUY"
  | .sell => "SELL"
  | .unreadable => "ERROR"

def ofWord? : String → Option Recommendation
  | "BUY" => some .buy
  | "SELL" => some .sell
  | "ERROR" => some .unreadable
  | _ => none

def label : Recommendation → String
  | .buy => "买入"
  | .sell => "卖出"
  | .unreadable => "解析失败"

def mark : Recommendation → String
  | .buy => "🟢"
  | .sell => "🔴"
  | .unreadable => "⚠️"

/-- The recommendation a value names by its wire word; any other value is refused, quoted
as a literal. -/
def ofValue (v : Json) : Except Fault Recommendation :=
  match (match v with
    | .str s => ofWord? s
    | _ => none) with
  | some r => .ok r
  | none =>
    let shown := v.literal
    .error (Fault.badValue s!"{shown} is not a valid RecommendationStatus")

theorem ofWord?_word (r : Recommendation) : ofWord? r.word = some r := by
  cases r <;> rfl

end Recommendation

def unreadableSummary : String := "分析结果解析失败"

/-- One piece of advice. The summary and narrative read from an answer are texts; advice
handed in from elsewhere keeps them as they were given. -/
structure Advice where
  recommendation : Recommendation
  confidence : Binary64
  summary : Json
  narrative : Json
  deriving Repr, Inhabited

namespace Advice

/-- The advice for an answer that could not be read: the whole answer is kept. -/
def unreadable (raw : String) : Advice :=
  ⟨.unreadable, Binary64.zero false, .str unreadableSummary, .str raw⟩

def isUnreadable (a : Advice) : Bool := a.recommendation == .unreadable

/-- The structured part, as the provider is asked to write it. -/
def payload (a : Advice) : Json :=
  .obj [("recommendation", .str a.recommendation.word), ("confidence", .num a.confidence),
    ("summary", a.summary)]

end Advice

end RankAdvisor
