import RankAdvisor.Codec.Analysis
import RankAdvisor.Codec.Market
import RankAdvisor.Store.Basic

/-! # Stored rows as JSON

A bar row is shown with its stock code, day, prices and volume, a missing price as null;
a snapshot with the stock's columns, the window range and its bars; an advice row as a
record, its missing confidence as zero and missing texts as empty, a missing name as null.
-/

namespace RankAdvisor

namespace Codec

open Store

/-- A real column's value, null when missing. -/
def realView (x : Option Binary64) : Json := (x.map Json.num).getD .null

/-- A text column's value, null when missing. -/
def textView (t : Option String) : Json := (t.map Json.str).getD .null

def priceRowView (r : PriceRow) : Json :=
  .obj [("code", .str r.code), ("trade_date", .str r.date.iso), ("open", realView r.openPrice),
    ("close", realView r.closePrice), ("high", realView r.highPrice), ("low", realView r.lowPrice),
    ("volume", .int r.volume)]

def snapshotRowView (r : SnapshotRow) : Json :=
  .obj [("stock_code", .str r.code), ("stock_name", textView r.name),
    ("current_price", realView r.price), ("change_rate", realView r.changeRate),
    ("volume", .int r.volume), ("trading_value", .int r.amount), ("volume_rank", .int r.rank),
    ("price_high_52week", realView r.windowHigh), ("price_low_52week", realView r.windowLow),
    ("daily_prices", .arr (r.bars.map Market.Bar.toJson)),
    ("analysis_date", .str r.analysisDate.iso)]

/-- An advice row as the record it reads back as. -/
def adviceRowView (r : AdviceRow) : Json :=
  .obj [("stock_code", .str r.stockCode), ("stock_name", textView r.stockName),
    ("analysis_date", .str r.analysisDate.iso), ("recommendation", .str r.recommendation.word),
    ("confidence", .num r.confidenceOrZero), ("summary", .str (r.summary.getD "")),
    ("narrative", .str (r.narrative.getD ""))]

/-- The store's contents for a day: all bar rows by code and day, the day's snapshots, and
all its records, newest first. -/
def storeView (s : Store) (day : Date) : Json :=
  .obj [("daily_prices", .arr (s.pricesByCode.map priceRowView)),
    ("snapshots", .arr ((s.snapshotsOn day).map snapshotRowView)),
    ("latest", .arr ((s.findTopN day none).map adviceRowView))]

end Codec

end RankAdvisor
