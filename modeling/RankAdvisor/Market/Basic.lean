import RankAdvisor.Json.Value
import RankAdvisor.Calendar.Date

/-! # Market data

The nouns of market data: an entry of the volume ranking, a daily bar of one stock, and a
dataset, which joins an entry to its daily bars in date order with the highest high and
lowest low of the window.

A stock's code and name and an entry's rank are kept as they were given. The market data
service gives texts and whole numbers, but a caller may give any value, and such a value
is carried through unchanged and shown as its text where text is needed.
-/

namespace RankAdvisor

namespace Market

/-- A stock in the volume ranking. -/
structure Entry where
  code : Json
  name : Json
  price : Binary64
  changePercent : Binary64
  volume : Int
  amount : Int
  rank : Json
  deriving Repr, Inhabited

/-- One trading day of one stock. -/
structure Bar where
  code : Json
  date : Date
  openPrice : Binary64
  closePrice : Binary64
  highPrice : Binary64
  lowPrice : Binary64
  volume : Int
  deriving Repr, Inhabited

/-- A ranked stock with its daily bars in date order, the window's highest high and lowest
low, and the day it is analysed for. -/
structure Dataset where
  entry : Entry
  bars : List Bar
  windowHigh : Binary64
  windowLow : Binary64
  analysisDate : Date
  deriving Repr, Inhabited

end Market

end RankAdvisor
