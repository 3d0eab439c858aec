import RankAdvisor.MarketData.Client
import RankAdvisor.Market.Rows
import RankAdvisor.Market.Dataset
import RankAdvisor.Market.TradingDay
import RankAdvisor.Calendar.Zone
import RankAdvisor.Calendar.Pattern
import RankAdvisor.Calendar.Fault

/-! # Ranking and chart feeds

Two queries of the market data service. The volume ranking gives the top entries, at most
ten; the daily chart gives the bars of one stock over a window of calendar days ending on
the last trading day.

Both degrade instead of failing: a transport failure or an answer that cannot be read
gives no entries or no bars, so one bad stock is left out rather than stopping a run. A
refused credential and any other failure pass through.
-/

namespace RankAdvisor

namespace MarketData

open Market

def rankingPath : String := "/uapi/domestic-stock/v1/quotations/volume-rank"

def rankingTrId : String := "FHPST01710000"

def maxRankSize : Nat := 10

/-- The ranking query's parameters: all stocks of the main market, ranked by volume. -/
def rankingParams : Json :=
  .obj [("FID_COND_MRKT_DIV_CODE", .str "J"), ("FID_COND_SCR_DIV_CODE", .str "20171"),
    ("FID_INPUT_ISCD", .str "0002"), ("FID_DIV_CLS_CODE", .str "0"), ("FID_BLNG_CLS_CODE", .str "0"),
    ("FID_TRGT_CLS_CODE", .str "111111111"), ("FID_TRGT_EXLS_CLS_CODE", .str "000000"),
    ("FID_INPUT_PRICE_1", .str "0"), ("FID_INPUT_PRICE_2", .str "0"), ("FID_VOL_CNT", .str "0"),
    ("FID_INPUT_DATE_1", .str "0")]

def chartPath : String := "/uapi/domestic-stock/v1/quotations/inquire-daily-itemchartprice"

def chartTrId : String := "FHKST03010100"

/-- The rows under a member of an answer: none when the member is missing or empty, the
items when it is a list; anything else cannot be read, and `malformed` says so. -/
def rowsOf (payload : Json) (key : String) (malformed : String → String) : Except Fault (List Json) :=
  let v := payload.getD key .null
  if v.isEmptyish then .ok []
  else match v with
    | .arr rows => .ok rows
    | v => .error (Fault.parse (malformed v.kindName))

/-- Runs a fetch, turning a transport failure or an unreadable answer into `fallback`. -/
def degrade {m : Type → Type} [Monad m] {α : Type} (fallback : α) (x : ExceptT Fault m α) :
    ExceptT Fault m α :=
  tryCatch x fun f => if f.kind == .transport || f.kind == .parse then pure fallback else throw f

/-- How many entries a ranking gives when `n` are asked for: `n` held between zero and
ten, or ten when `n` is null. `n` may be any value; one that cannot be set against the
bounds fails. -/
def rankLimit (n : Json) : Except Fault Json :=
  match n with
  | .null => .ok (.int maxRankSize)
  | n => do Json.larger (.int 0) (← Json.smaller n (.int maxRankSize))

/-- The top `n` entries of the volume ranking (ten when `n` is null), ranked from 1. The
rows are cut at the limit once they have arrived, so a limit that cannot cut a list fails
after the query. -/
def fetchRanking {m : Type → Type} [Monad m] [MonadStateOf TokenCache m] (w : Http.Wire m)
    (clock : m Number) (c : Client) (n : Json := .null) : ExceptT Fault m (List Entry) := do
  let limit ← ExceptT.mk (pure (rankLimit n))
  degrade [] do
    let payload ← c.get w clock rankingPath rankingParams rankingTrId
    let rows ← ExceptT.mk (pure (rowsOf payload "output"
      fun k => s!"排行数据 output 字段格式异常: {k}"))
    let rows ← ExceptT.mk (pure (Json.sliceTo rows limit))
    rows.zipIdx.mapM fun (row, i) => ExceptT.mk (pure (Entry.ofRow row (.int (i + 1))))

/-- The chart settings: the market's closing time and time zone. -/
structure ChartFeed where
  close : TimeOfDay := TradingDay.defaultClose
  zone : String := "Asia/Seoul"
  deriving Repr

/-- The market's closing time from its `HH:MM` text, blanks around it allowed. -/
def readCloseTime (s : String) : Except Fault TimeOfDay :=
  match Pattern.readHourMinute (Text.trimBlank s) with
  | .ok t => .ok t
  | .error e => .error e.fault

/-- The closing time given as a value of any kind; only a text can be trimmed. -/
def closeTimeOf (v : Json) : Except Fault TimeOfDay :=
  match v with
  | .str s => readCloseTime s
  | v => .error (Fault.noAttribute v.kindName "strip")

/-- A chart feed; the time zone must be known. -/
def ChartFeed.create (close : TimeOfDay := TradingDay.defaultClose) (zone : String := "Asia/Seoul") :
    Except Fault ChartFeed := do
  Zone.check zone
  pure { close := close, zone := zone }

def ChartFeed.endDate (f : ChartFeed) (now : DateTime) : Except Fault Date :=
  TradingDay.last now f.close

def chartParams (code : Json) (first last : Date) : Json :=
  .obj [("FID_COND_MRKT_DIV_CODE", .str "J"), ("FID_INPUT_ISCD", code),
    ("FID_INPUT_DATE_1", .str first.compact), ("FID_INPUT_DATE_2", .str last.compact),
    ("FID_PERIOD_DIV_CODE", .str "D"), ("FID_ORG_ADJ_PRC", .str "0")]

/-- The bars of a stock over `days` calendar days up to the last trading day, by date. -/
def fetchChart {m : Type → Type} [Monad m] [MonadStateOf TokenCache m] (w : Http.Wire m)
    (clock : m Number) (now : m DateTime) (c : Client) (f : ChartFeed) (code : Json)
    (days : Json) : ExceptT Fault m (List Bar) := do
  let last ← ExceptT.mk (pure (f.endDate (← ExceptT.lift now)))
  let (first, last) ← ExceptT.mk (pure (TradingDay.window last days))
  degrade [] do
    let payload ← c.get w clock chartPath (chartParams code first last) chartTrId
    let shown := code.plainText
    let rows ← ExceptT.mk (pure (rowsOf payload "output2"
      fun k => s!"[{shown}] 日线数据 output2 字段格式异常: {k}"))
    let bars ← rows.filterMapM fun row => ExceptT.mk (pure (Bar.ofRow code row))
    pure (sortBars bars)

end MarketData

end RankAdvisor
