import RankAdvisor.Market.Basic
import RankAdvisor.Market.Field

/-! # Rows of the market data service

The ranking and the daily chart come as rows of text fields. A ranking row needs a stock
code of six capital letters or digits and the price, change, volume and amount fields; a
chart row with an empty date is a placeholder and gives no bar.
-/

namespace RankAdvisor

namespace Market

/-- The trimmed text of a field that counts as present, or the empty text. -/
def presentText (row : Json) (k : String) : String :=
  match row.get? k with
  | some v => if v.isEmptyish then "" else Text.trimBlank v.plainText
  | none => ""

/-- A field of a row, null when missing. -/
def fieldOf (row : Json) (k : String) : Json := (row.get? k).getD .null

/-- The ranking entry of a row at a rank; the rank is kept as given. -/
def Entry.ofRow (row : Json) (rank : Json) : Except Fault Entry := do
  match row with
  | .obj _ => pure ()
  | _ => throw (Fault.parse s!"排行数据行格式异常: {row.literal}")
  let code := presentText row "mksc_shrn_iscd"
  if !Field.isStockCode code then
    throw (Fault.parse s!"排行数据行股票代码无效: {row.literal}")
  pure {
    code := .str code
    name := .str (presentText row "hts_kor_isnm")
    price := ← Field.readDecimal (fieldOf row "stck_prpr") "stck_prpr"
    changePercent := ← Field.readDecimal (fieldOf row "prdy_ctrt") "prdy_ctrt"
    volume := ← Field.readWhole (fieldOf row "acml_vol") "acml_vol"
    amount := ← Field.readWhole (fieldOf row "acml_tr_pbmn") "acml_tr_pbmn"
    rank := rank }

/-- The bar of a chart row for a stock; `none` for a row without a date. -/
def Bar.ofRow (code : Json) (row : Json) : Except Fault (Option Bar) := do
  match row with
  | .obj _ => pure ()
  | _ =>
    let shown := code.plainText
    throw (Fault.parse s!"[{shown}] 日线数据行格式异常: {row.literal}")
  if (presentText row "stck_bsop_date").isEmpty then return none
  pure (some {
    code := code
    date := ← Field.readTradeDate (fieldOf row "stck_bsop_date") "stck_bsop_date"
    openPrice := ← Field.readDecimal (fieldOf row "stck_oprc") "stck_oprc"
    closePrice := ← Field.readDecimal (fieldOf row "stck_clpr") "stck_clpr"
    highPrice := ← Field.readDecimal (fieldOf row "stck_hgpr") "stck_hgpr"
    lowPrice := ← Field.readDecimal (fieldOf row "stck_lwpr") "stck_lwpr"
    volume := ← Field.readWhole (fieldOf row "acml_vol") "acml_vol" })

end Market

end RankAdvisor
