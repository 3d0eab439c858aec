import RankAdvisor.Market.Dataset
import RankAdvisor.Analysis.Job
import RankAdvisor.Binary64.Significant

/-! # Stored rows

The store keeps three tables: daily bars (one row per stock and day), snapshots of ranked
stocks, and advice records. Values are bound to columns by their column's kind:

* a text column keeps a text as it is, a whole number in decimal, a switch as `1` or `0`,
  a double with fifteen significant digits (`Binary64.significant`), and null as missing;
* a real column keeps no NaN, which is stored as missing, and no sign on zero;
* a whole-number column holds signed 64-bit values and switches;
* a whole number beyond 64 bits is refused with an overflow, and a list or an object
  cannot be bound to any column.

A row's values are bound in its columns' order, so the first value that cannot be bound
names the failure; a required column left missing breaks the table once all are bound.
-/

namespace RankAdvisor

namespace Store

/-- The value a real column keeps: none for NaN, and zero without its sign. -/
def real (x : Binary64) : Option Binary64 :=
  if x.isNaN then none
  else if x.isZero then some (Binary64.zero false)
  else some x

/-- Whether a whole number fits a signed 64-bit column. -/
def fitsWhole (n : Int) : Bool := -9223372036854775808 ≤ n && n < 9223372036854775808

def tooLarge : Fault := Fault.overflow "Python int too large to convert to SQLite INTEGER"

def checkWhole (ns : List Int) : Except Fault Unit :=
  if ns.all fitsWhole then .ok () else .error tooLarge

def violated (what : String) : Fault := ⟨.integrity, what, none⟩

def unbindable (v : Json) : Fault :=
  ⟨.programming, s!"Error binding parameter: type {Json.quoteLiteral v.kindName} is not supported", none⟩

/-- The text a text column keeps for a value; none for a missing value. -/
def columnText (v : Json) : Except Fault (Option String) :=
  match v with
  | .null => .ok none
  | .str s => .ok (some s)
  | .bool b => .ok (some (if b then "1" else "0"))
  | .int n => if fitsWhole n then .ok (some (toString n)) else .error tooLarge
  | .num x => .ok (Binary64.significant 15 x)
  | v => .error (unbindable v)

/-- The whole number a whole-number column keeps for a value. -/
def columnWhole (v : Json) : Except Fault Int :=
  match v with
  | .int n => if fitsWhole n then .ok n else .error tooLarge
  | .bool b => .ok (if b then 1 else 0)
  | v => .error (unbindable v)

def requiredText (what : String) (v : Option String) : Except Fault String :=
  match v with
  | some t => .ok t
  | none => .error (violated s!"NOT NULL constraint failed: {what}")

/-- A stored daily bar. -/
structure PriceRow where
  code : String
  date : Date
  openPrice : Option Binary64
  closePrice : Option Binary64
  highPrice : Option Binary64
  lowPrice : Option Binary64
  volume : Int
  deriving Repr, Inhabited

def PriceRow.ofBar (code : String) (b : Market.Bar) : PriceRow :=
  ⟨code, b.date, real b.openPrice, real b.closePrice, real b.highPrice, real b.lowPrice, b.volume⟩

/-- A stored snapshot: the ranked entry, the window range, the bars and the analysis date. -/
structure SnapshotRow where
  code : String
  name : Option String
  price : Option Binary64
  changeRate : Option Binary64
  volume : Int
  amount : Int
  rank : Int
  windowHigh : Option Binary64
  windowLow : Option Binary64
  bars : List Market.Bar
  analysisDate : Date
  deriving Repr, Inhabited

/-- The snapshot of a dataset, its values bound in column order. -/
def SnapshotRow.ofDataset (d : Market.Dataset) : Except Fault SnapshotRow := do
  let e := d.entry
  let code ← columnText e.code
  let name ← columnText e.name
  let volume ← columnWhole (.int e.volume)
  let amount ← columnWhole (.int e.amount)
  let rank ← columnWhole e.rank
  let code ← requiredText "stock_data.stock_code" code
  pure ⟨code, name, real e.price, real e.changePercent, volume, amount, rank,
    real d.windowHigh, real d.windowLow, d.bars, d.analysisDate⟩

/-- A stored advice record and the time it was stored for. -/
structure AdviceRow where
  stockCode : String
  stockName : Option String
  analysisDate : Date
  recommendation : Recommendation
  confidence : Option Binary64
  summary : Option String
  narrative : Option String
  createdAt : DateTime
  deriving Repr, Inhabited

/-- The row of a record, stored at `now` unless it carries its own time, which the column
keeps as its wall-clock reading without an offset; its values are bound in column order, and
a record without a stock code is refused. -/
def AdviceRow.ofRecord (now : DateTime) (r : Record) : Except Fault AdviceRow := do
  let code ← columnText r.stockCode
  let name ← columnText r.stockName
  let narrative ← columnText r.narrative
  let summary ← columnText r.summary
  let code ← requiredText "llm_analysis_results.stock_code" code
  pure ⟨code, name, r.analysisDate, r.recommendation, real r.confidence, summary, narrative,
    { r.createdAt.getD now with offset := none }⟩

def AdviceRow.confidenceOrZero (r : AdviceRow) : Binary64 :=
  r.confidence.getD (Binary64.zero false)

/-- The record a row reads back as: missing texts are empty, a missing confidence zero, a
missing name null. -/
def AdviceRow.toRecord (r : AdviceRow) : Record :=
  ⟨.str r.stockCode, (r.stockName.map Json.str).getD .null, r.analysisDate, r.recommendation,
    r.confidenceOrZero, .str (r.summary.getD ""), .str (r.narrative.getD ""), some r.createdAt⟩

end Store

end RankAdvisor
