import RankAdvisor.Market.Basic
import RankAdvisor.Json.Write
import RankAdvisor.Json.Order

/-! # Datasets

`Dataset.ofBars` sorts the bars by date, keeping bars of one date in the order given, and
takes the window range: the highest high and the lowest low, each found by a left-to-right
scan that replaces the current value only by a strictly greater (smaller) one, so a NaN in
first place stays and later NaNs are passed over. An empty window has range `(0, 0)`.
-/

namespace RankAdvisor

namespace Market

/-- The highest high and lowest low of the bars, by left-to-right scans; zeros when there
are none. -/
def windowRange (bars : List Bar) : Binary64 × Binary64 :=
  match bars with
  | [] => (Binary64.zero false, Binary64.zero false)
  | b :: rest =>
    (rest.foldl (fun m x => m.maxLeft x.highPrice) b.highPrice,
      rest.foldl (fun m x => m.minLeft x.lowPrice) b.lowPrice)

/-- Bars in date order; bars of one date keep their order. -/
def sortBars (bars : List Bar) : List Bar :=
  bars.mergeSort fun a b => compare a.date b.date != .gt

namespace Dataset

/-- The dataset of an entry and its bars for an analysis date. -/
def ofBars (entry : Entry) (bars : List Bar) (day : Date) : Dataset :=
  let sorted := sortBars bars
  let (hi, lo) := windowRange sorted
  ⟨entry, sorted, hi, lo, day⟩

def code (d : Dataset) : Json := d.entry.code

def name (d : Dataset) : Json := d.entry.name

/-- The last `limit` bars, in date order; none for a limit of zero or below. A limit that
is not a number cannot be set against zero, and a double cannot count bars. -/
def recent (d : Dataset) (limit : Json := .int 10) : Except Fault (List Bar) :=
  match limit.number?, limit.index? with
  | none, _ => .error (Json.unordered "<=" limit (.int 0))
  | some n, k? =>
    if (Number.whole 0).ge n then .ok []
    else match k? with
      | some k => .ok (d.bars.drop (d.bars.length - k.toNat))
      | none => .error Json.notIndex

/-- The key of cached advice: code and analysis date. -/
def cacheKey (d : Dataset) : String := d.code.plainText ++ ":" ++ d.analysisDate.iso

end Dataset

/-- A bar as a JSON object: code, date, open, close, high, low, volume. -/
def Bar.toJson (b : Bar) : Json :=
  .obj [("code", b.code), ("trade_date", .str b.date.iso), ("open", .num b.openPrice),
    ("close", .num b.closePrice), ("high", .num b.highPrice), ("low", .num b.lowPrice),
    ("volume", .int b.volume)]

def Entry.toJson (e : Entry) : Json :=
  .obj [("code", e.code), ("name", e.name), ("current_price", .num e.price),
    ("change_percent", .num e.changePercent), ("trading_volume", .int e.volume),
    ("trading_amount", .int e.amount), ("rank", e.rank)]

/-- The bars of a dataset as JSON text, characters beyond ASCII kept as they are. -/
def Dataset.barsText (d : Dataset) : String := Json.write false (.arr (d.bars.map Bar.toJson))

end Market

end RankAdvisor
