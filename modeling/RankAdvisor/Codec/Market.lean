import RankAdvisor.Codec.Value
import RankAdvisor.Market.Dataset

/-! # Market values as JSON

Entries, bars and datasets in their JSON forms. An entry's prices become doubles and its
volume, amount and rank whole numbers (the name defaults to empty, the rank to 1), its
code and name stay as given; a bar takes the code of its stock unless it names one; a
dataset is an entry, its bars (none when not given) and the analysis date, the bars
sorted by date.
-/

namespace RankAdvisor

namespace Codec

open Market

/-- The day analyses are made for when none is given. -/
def defaultDay : Date := ⟨2024, 3, 20⟩

def entryOf (v : Json) : Except Fault Entry := do
  pure {
    code := ← need v "code"
    name := (opt v "name").getD (.str "")
    price := ← toDouble (← need v "current_price")
    changePercent := ← toDouble (← need v "change_percent")
    volume := ← toWhole (← need v "trading_volume")
    amount := ← toWhole (← need v "trading_amount")
    rank := ← match opt v "rank" with
      | some r => Json.int <$> toWhole r
      | none => pure (.int 1) }

def barOf (code : Json) (v : Json) : Except Fault Bar := do
  pure {
    code := (opt v "code").getD code
    date := ← readDate (← need v "trade_date")
    openPrice := ← toDouble (← need v "open")
    closePrice := ← toDouble (← need v "close")
    highPrice := ← toDouble (← need v "high")
    lowPrice := ← toDouble (← need v "low")
    volume := ← toWhole (← need v "volume") }

/-- The bars of a value's `points`, none when it has none. -/
def barsOf (code : Json) (v : Json) : Except Fault (List Bar) := do
  (← listOf ((opt v "points").getD (.arr []))).mapM (barOf code)

/-- A date member, the default day when absent or null. -/
def dayOf (v : Json) (k : String) : Except Fault Date :=
  match opt v k with
  | some .null | none => .ok defaultDay
  | some d => readDate d

/-- A dataset from its JSON form: entry, points and analysis date. -/
def datasetOf (v : Json) : Except Fault Dataset := do
  let e ← entryOf (← need v "entry")
  let bars ← barsOf e.code v
  pure (Dataset.ofBars e bars (← dayOf v "analysis_date"))

def datasetView (d : Dataset) : Json :=
  .obj [("entry", d.entry.toJson), ("points", .arr (d.bars.map Bar.toJson)),
    ("window_high", .num d.windowHigh), ("window_low", .num d.windowLow),
    ("analysis_date", .str d.analysisDate.iso)]

end Codec

end RankAdvisor
