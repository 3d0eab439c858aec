import RankAdvisor.Market.Dataset
import RankAdvisor.Market.Figures

/-! # The advice prompt

The prompt for one stock is determined by its dataset: the same dataset gives the same
text. It shows the stock, its quote, the window's high and low with the rise above the
low, a table of the most recent bars, and the rules for the answer's last line.
-/

namespace RankAdvisor

namespace Prompt

/-- How many recent bars the prompt shows unless told otherwise. -/
def recentLimit : Json := .int 10

def answerRules : String :=
  "## 输出要求\n" ++
  "1. 先给出分析正文：走势判断、量价关系、相对区间高低点的位置、主要风险。\n" ++
  "2. 分析正文之后，最后一行必须是一个 JSON 对象，格式如下：\n" ++
  "\x7b\"recommendation\": \"BUY\", \"confidence\": 0.75, \"summary\": \"一句话结论\"\x7d\n" ++
  "3. recommendation 只能是 BUY 或 SELL；confidence 为 0.0 到 1.0 之间的小数；summary 为一句话摘要。\n" ++
  "4. JSON 必须位于最后一行，不要使用 ``` 代码块包裹，JSON 之后不要再输出任何内容。"

/-- The rise of the price above the window's low, in percent; zero when the low counts as
false (null, zero, or an empty text, list or object). -/
def percentAboveLow (price low : Json) : Except Fault Number :=
  if low.isEmptyish then .ok (.double (Binary64.zero false))
  else match price.number?, low.number? with
    | some p, some l => do (← (← p.sub l).div l).mul (.whole 100)
    | _, _ => .error (Json.noMinus price low)

def groupedWhole (n : Int) : String :=
  (if n < 0 then "-" else "") ++ Binary64.groupThousands (Nat.repr n.natAbs)

def priceText (x : Binary64) : String := Binary64.fixed { places := 0, group := true } x

def barTable (bars : List Market.Bar) : String :=
  let rows := bars.map fun b =>
    s!"| {b.date.iso} | {priceText b.openPrice} | {priceText b.closePrice} | " ++
      s!"{priceText b.highPrice} | {priceText b.lowPrice} | {groupedWhole b.volume} |"
  "\n".intercalate (["| 日期 | 开盘 | 收盘 | 最高 | 最低 | 成交量 |",
    "|------|------|------|------|------|--------|"] ++ rows)

def build (d : Market.Dataset) (limit : Json := recentLimit) : Except Fault String := do
  let e := d.entry
  let recent ← d.recent limit
  let rise ← percentAboveLow (.num e.price) (.num d.windowLow)
  let price ← Figures.price (.double e.price)
  let change ← Figures.percentage (.double e.changePercent) 2 true
  let volume ← Figures.volume (.whole e.volume)
  let amount ← Figures.amount (.whole e.amount)
  let high ← Figures.price (.double d.windowHigh)
  let low ← Figures.price (.double d.windowLow)
  let riseText ← Figures.percentage rise
  let name := e.name.plainText
  let code := e.code.plainText
  let rank := e.rank.plainText
  pure <|
    s!"你是一名专注于韩国股市（KOSPI/KOSDAQ）的证券分析师。请基于以下数据，对 {name}({code}) 给出交易建议。\n\n" ++
    "## 基本信息\n" ++
    s!"- 股票名称: {name}\n" ++
    s!"- 股票代码: {code}\n" ++
    s!"- 成交量排名: 第 {rank} 名\n\n" ++
    "## 当前行情\n" ++
    s!"- 当前价: {price} 韩元\n" ++
    s!"- 涨跌幅: {change}\n" ++
    s!"- 成交量: {volume}\n" ++
    s!"- 成交额: {amount}\n\n" ++
    s!"## 区间统计（近 {d.bars.length} 个交易日）\n" ++
    s!"- 52周最高价: {high} 韩元\n" ++
    s!"- 52周最低价: {low} 韩元\n" ++
    s!"- 较52周最低价涨幅: {riseText}\n\n" ++
    s!"## 最近 {recent.length} 个交易日\n" ++
    barTable recent ++ "\n\n" ++
    answerRules ++ "\n"

end Prompt

end RankAdvisor
