import RankAdvisor.Store.Row

/-! # The store

A `Store` holds the three tables, each in the order its rows were first written. Every
write is one transaction: it either succeeds whole or leaves the store as it was.

* `savePrices` writes a stock's bars under the code's text. A bar of a day the stock
  already has replaces that row (the last such bar wins); the others are new rows, and
  their count is the answer. The replaced rows are written first, then the new rows one by
  one: a row's whole numbers are checked as it is written, and a new bar of a day an
  earlier new bar took breaks the table's uniqueness.
* `saveSnapshot` adds a dataset's snapshot; `saveCollected` saves each dataset's bars and
  snapshot in turn and stops at the first failure, keeping what was saved before it.
* `saveAll` adds advice records, all or none.
* Reads: `snapshotsOn` by rank (rows of one rank in writing order); `newest` by storing
  time, newest first, later rows first among equal times.
-/

namespace RankAdvisor

/-- The tables of the store. -/
structure Store where
  prices : List Store.PriceRow := []
  snapshots : List Store.SnapshotRow := []
  advice : List Store.AdviceRow := []
  deriving Repr, Inhabited

namespace Store

/-- Whether the store has a bar row of a stock on a day. -/
def hasPrice (s : Store) (code : String) (day : Date) : Bool :=
  s.prices.any fun r => r.code == code && r.date == day

/-- The bars of a batch split into replacements of stored days (the last bar of a day
wins) and new bars, both in the batch's order. -/
def splitBatch (s : Store) (code : String) (bars : List Market.Bar) :
    List Market.Bar × List Market.Bar :=
  bars.foldl (fun (acc : List Market.Bar × List Market.Bar) b =>
    if s.hasPrice code b.date then
      if acc.1.any (·.date == b.date) then
        (acc.1.map fun x => if x.date == b.date then b else x, acc.2)
      else (acc.1 ++ [b], acc.2)
    else (acc.1, acc.2 ++ [b])) ([], [])

/-- Checks new bars as they are written one by one: each bar's whole numbers, then its day
against the bars written before it. -/
def checkFresh : List Market.Bar → List Market.Bar → Except Fault Unit
  | _, [] => .ok ()
  | before, b :: rest => do
    checkWhole [b.volume]
    if before.any (·.date == b.date) then
      throw (violated "UNIQUE constraint failed: daily_prices.code, daily_prices.trade_date")
    checkFresh (b :: before) rest

/-- Writes a stock's bars; the answer is the number of new rows. The store is an SQLAlchemy
session with autoflush off: each bar is looked up among the rows written before the batch
only, so a second new bar of one day is added again, and the commit writes the updated rows
before the new ones. -/
def savePrices (s : Store) (code : Json) (bars : List Market.Bar) : Except Fault (Nat × Store) := do
  if bars.isEmpty then return (0, s)
  let code ← match ← columnText code, bars with
    | some code, _ => pure code
    | none, [] => return (0, s)
    | none, b :: _ => do
      checkWhole [b.volume]
      throw (violated "NOT NULL constraint failed: daily_prices.code")
  let (replaced, fresh) := s.splitBatch code bars
  checkWhole (replaced.map (·.volume))
  checkFresh [] fresh
  let prices := s.prices.map fun r =>
    if r.code == code then
      match replaced.find? (·.date == r.date) with
      | some b => PriceRow.ofBar code b
      | none => r
    else r
  pure (fresh.length, { s with prices := prices ++ fresh.map (PriceRow.ofBar code) })

/-- Adds the snapshot of a dataset. -/
def saveSnapshot (s : Store) (d : Market.Dataset) : Except Fault Store := do
  pure { s with snapshots := s.snapshots ++ [← SnapshotRow.ofDataset d] }

/-- Saves each dataset's bars, then its snapshot, stopping at the first failure; the store
keeps what was saved before it. -/
def saveCollected (s : Store) : List Market.Dataset → Except Fault Unit × Store
  | [] => (.ok (), s)
  | d :: rest =>
    match s.savePrices d.code d.bars with
    | .error f => (.error f, s)
    | .ok (_, s) => match s.saveSnapshot d with
      | .error f => (.error f, s)
      | .ok s => s.saveCollected rest

/-- Adds advice records, stored at `now` unless they carry their own time; the answer is
their number. -/
def saveAll (s : Store) (now : DateTime) (records : List Record) : Except Fault (Nat × Store) := do
  if records.isEmpty then return (0, s)
  let rows ← records.mapM (AdviceRow.ofRecord now)
  pure (records.length, { s with advice := s.advice ++ rows })

/-- The snapshots of an analysis date by rank; rows of one rank in writing order. -/
def snapshotsOn (s : Store) (day : Date) : List SnapshotRow :=
  (s.snapshots.filter (·.analysisDate == day)).mergeSort fun a b => a.rank ≤ b.rank

/-- Rows newest first by storing time, the later written first among equal times. -/
def newest (rows : List AdviceRow) : List AdviceRow :=
  rows.reverse.mergeSort fun a b => b.createdAt.toMicros ≤ a.createdAt.toMicros

/-- The newest record of a stock for an analysis date, the code compared as the text its
column would keep. -/
def findByCodeAndDate (s : Store) (code : Json) (day : Date) : Except Fault (Option AdviceRow) := do
  let key ← columnText code
  pure (newest (s.advice.filter fun r => some r.stockCode == key && r.analysisDate == day)).head?

/-- The newest `n` records of an analysis date; all of them when `n` is missing or
negative. -/
def findTopN (s : Store) (day : Date) (n : Option Int) : List AdviceRow :=
  let rows := newest (s.advice.filter (·.analysisDate == day))
  match n with
  | some k => if k < 0 then rows else rows.take k.toNat
  | none => rows

/-- The bar rows by stock code, then day. -/
def pricesByCode (s : Store) : List PriceRow :=
  s.prices.mergeSort fun a b => a.code < b.code || (a.code == b.code && compare a.date b.date != .gt)

end Store

end RankAdvisor
