import RankAdvisor.Calendar.Clock
import RankAdvisor.Calendar.Error

/-! # ISO 8601 text

Reading dates, times of day and instants from ISO 8601 text. The readers look at the text's
UTF-8 bytes; every field is ASCII, and only the separator between date and time may be any
character.

* A date is `YYYY-MM-DD` or `YYYYMMDD`, or a week date `YYYY-Www-D` or `YYYYWwwD`; a week
  date without its day is the Monday of the week.
* A time of day is `HH`, `HH:MM` or `HH:MM:SS` (or the same without colons), then an
  optional fraction after `.` or `,` of which the first six digits count, then an optional
  offset: `Z`, or a sign and a time of day. A NUL byte where the text may end ends it.
* An instant is a date, one separator character, and a time of day. Where the separator
  stands follows from the date's form alone (`separatorAt`).

The text is read first and the fields are checked afterwards, so a well-formed text with a
month 13 fails with the month's range rather than as malformed text. The offset is checked
first (it lies strictly within a day either way), then the date, then the time of day.
-/

namespace RankAdvisor

namespace Iso

/-! ## Bytes -/

/-- The ASCII code of `-`, between date fields and before a westward offset. -/
def dash : UInt8 := 45

/-- The ASCII code of `:`, between time fields. -/
def colon : UInt8 := 58

/-- The ASCII code of `W`, before the week of a week date. -/
def weekMark : UInt8 := 87

/-- The ASCII code of `Z`, the offset of UTC. -/
def zulu : UInt8 := 90

/-- The ASCII code of `+`, before an eastward offset. -/
def plus : UInt8 := 43

/-- The ASCII code of `T`, which may stand before a time of day. -/
def timeMark : UInt8 := 84

/-- The byte at the head, or NUL past the end. -/
def peek : List UInt8 → UInt8
  | [] => 0
  | b :: _ => b

def digitOf? (b : UInt8) : Option Nat :=
  if 48 ≤ b ∧ b ≤ 57 then some (b.toNat - 48) else none

def isDigit (b : UInt8) : Bool := (digitOf? b).isSome

/-- The value of the first `n` bytes if all are ASCII digits, and the rest. -/
def takeDigits : Nat → List UInt8 → Option (Nat × List UInt8)
  | 0, bs => some (0, bs)
  | _ + 1, [] => none
  | n + 1, b :: bs => do
    let d ← digitOf? b
    let (v, rest) ← takeDigits n bs
    pure (d * Nat.pow 10 n + v, rest)

/-- The rest after a `-`, when the text is dashed; the text itself otherwise. -/
def skipDash (dashed : Bool) (bs : List UInt8) : Option (List UInt8) :=
  if !dashed then some bs
  else if peek bs == dash then some (bs.drop 1)
  else none

/-- The number of bytes of the character a UTF-8 lead byte starts. -/
def charWidth (b : UInt8) : Nat :=
  if b < 0x80 then 1
  else if b &&& 0xf0 == 0xe0 then 3
  else if b &&& 0xf0 == 0xf0 then 4
  else 2

/-! ## Checked fields -/

/-- The checked date of year, month and day fields. -/
def checkDate (y m d : Nat) : Except CalendarError Date :=
  if y < 1 ∨ 9999 < y then .error (.yearRange y)
  else if m < 1 ∨ 12 < m then .error .monthRange
  else if d < 1 ∨ Date.daysInMonth y m < d then .error .dayRange
  else .ok ⟨y, m, d⟩

def checkTime (h m s us : Nat) : Except CalendarError TimeOfDay :=
  if 23 < h then .error .hourRange
  else if 59 < m then .error .minuteRange
  else if 59 < s then .error .secondRange
  else if 999999 < us then .error .microRange
  else .ok ⟨h, m, s, us⟩

def dayMicros : Int := 86400000000

/-- An offset, in microseconds, lies strictly within a day either way. -/
def checkOffset : Option Int → Except CalendarError Unit
  | some u => if u ≤ -dayMicros ∨ dayMicros ≤ u then .error (.offsetRange u) else .ok ()
  | none => .ok ()

/-! ## Week dates -/

/-- The day number of January 1 of year `y`, 0001-01-01 being day one, so that the days of
year 0 have day numbers of zero and below. -/
def yearStart (y : Nat) : Int :=
  let p : Int := (y : Int) - 1
  p * 365 + p / 4 - p / 100 + p / 400 + 1

/-- The weekday of January 1 of year `y`, Monday being zero. -/
def yearStartWeekday (y : Nat) : Int := (yearStart y + 6) % 7

/-- The day number of the Monday of ISO week 1 of year `y`, the week that holds the year's
first Thursday. -/
def weekOneMonday (y : Nat) : Int :=
  let wd := yearStartWeekday y
  if 3 < wd then yearStart y - wd + 7 else yearStart y - wd

/-- ISO year `y` has 53 weeks: it starts on a Thursday, or it is a leap year that starts on
a Wednesday. -/
def hasWeek53 (y : Nat) : Bool :=
  let wd := yearStartWeekday y
  wd == 3 || (wd == 2 && Date.isLeap y)

/-- The day number of day `d` (Monday one) of ISO week `w` of year `y`; `none` when the year
has no such week or `d` is not 1 to 7. -/
def weekDay (y w d : Nat) : Option Int :=
  if w < 1 ∨ 53 < w ∨ (w = 53 ∧ hasWeek53 y = false) then none
  else if d < 1 ∨ 7 < d then none
  else some (weekOneMonday y + (((w - 1) * 7 + (d - 1) : Nat) : Int))

/-! ## Dates -/

/-- A date as read, before its fields are checked: calendar fields, or the day number of a
week date. -/
inductive DateText where
  | calendar (year month day : Nat)
  | week (dayNumber : Int)
  deriving DecidableEq, Repr

/-- The checked date a read date stands for. A week date before 0001-01-01 fails with the
month's range, one after 9999-12-31 with the year's. -/
def DateText.check : DateText → Except CalendarError Date
  | .calendar y m d => checkDate y m d
  | .week n =>
    if n < 1 then .error .monthRange
    else
      let d := Date.ofOrdinal n.toNat
      checkDate d.year d.month d.day

/-- Reads a date from the start of `bs`, whose first `len` bytes are the date's text: four
year digits and an optional `-`, then either `W`, two week digits and, when the date's text
goes on, the same separator and a day digit, or two month digits, the same separator and
two day digits. Bytes after the fields are not looked at. -/
def readDateText (bs : List UInt8) (len : Nat) : Option DateText := do
  let (y, r) ← takeDigits 4 bs
  let dashed := peek r == dash
  let r := if dashed then r.drop 1 else r
  if peek r == weekMark then
    let (w, r) ← takeDigits 2 (r.drop 1)
    let read := if dashed then 8 else 7
    let d ← if read < len then do
        let (d, _) ← takeDigits 1 (← skipDash dashed r)
        pure d
      else pure 1
    DateText.week <$> weekDay y w d
  else
    let (m, r) ← takeDigits 2 r
    let (d, _) ← takeDigits 2 (← skipDash dashed r)
    pure (.calendar y m d)

/-- Where the separator between date and time stands, from the date's form: after
`YYYY-MM-DD` (10), `YYYYMMDD` (8), `YYYY-Www` (8), `YYYY-Www-D` (10), `YYYYWww` (7) or
`YYYYWwwD` (8). After `YYYY-Www` a `-` and a digit are taken for the separator and an hour;
after `YYYYWww` a run of digits holds the day when its end is at an odd place. `none` for a
dashed week date cut off after its second `-`. -/
def separatorAt (bs : List UInt8) : Option Nat :=
  let n := bs.length
  let byteAt := fun i => peek (bs.drop i)
  if n == 7 then some 7
  else if byteAt 4 == dash then
    if byteAt 5 == weekMark then
      if 8 < n && byteAt 8 == dash then
        if n == 9 then none
        else if 10 < n && isDigit (byteAt 10) then some 8
        else some 10
      else some 8
    else some 10
  else if byteAt 4 == weekMark then
    let stop := 7 + ((bs.drop 7).takeWhile isDigit).length
    if stop < 9 then some stop
    else if stop % 2 == 0 then some 7
    else some 8
  else some 8

/-! ## Times of day -/

/-- The fields of a time of day read from `seg`, and whether something is left after them;
`marked` tells whether an offset's mark follows the segment. Returns `none` for a malformed
segment. -/
def timeFields (seg : List UInt8) (marked : Bool) :
    Option ((Nat × Nat × Nat × Nat) × Bool) :=
  -- hours, minutes, seconds: each two digits, then `:` (when the first one was `:`)
  let rec hms : Nat → Bool → List Nat → List UInt8 →
      Option (Sum ((List Nat) × Bool) (List Nat × List UInt8))
    | 0, _, vals, r => some (.inr (vals, r))
    | fuel + 1, hasSep, vals, r => do
      let (v, r) ← takeDigits 2 r
      let vals := vals ++ [v]
      let isFirst := vals.length == 1
      match r with
      | [] => some (.inl (vals, marked))
      | c :: r' =>
        let hasSep := if isFirst then c == colon else hasSep
        let isPoint := c == 46 || c == 44
        if r'.isEmpty then some (.inl (vals, c != 0))
        else if hasSep && c == colon then hms fuel hasSep vals r'
        else if isPoint then some (.inr (vals, r'))
        else if !hasSep then hms fuel hasSep vals (c :: r')
        else none
  let pad := fun (vals : List Nat) => (vals.getD 0 0, vals.getD 1 0, vals.getD 2 0)
  match hms 3 false [] seg with
  | none => none
  | some (.inl (vals, junk)) =>
    let (h, m, s) := pad vals
    some ((h, m, s, 0), junk)
  | some (.inr (vals, r)) =>
    let (h, m, s) := pad vals
    let n := min r.length 6
    match takeDigits n r with
    | none => none
    | some (f, rest) =>
      let us := f * Nat.pow 10 (6 - n)
      let junk := match rest.dropWhile isDigit with
        | [] => marked
        | b :: _ => b != 0
      some ((h, m, s, us), junk)

/-- A mark that starts an offset: `Z`, `+` or `-`. -/
def isMark (b : UInt8) : Bool := b == zulu || b == plus || b == dash

/-- A time of day with an optional offset in microseconds, as ISO text after the date. An
offset of under a second either way is no offset from UTC. -/
def readClock (bs : List UInt8) : Option ((Nat × Nat × Nat × Nat) × Option Int) :=
  let seg := bs.takeWhile fun b => !isMark b
  match bs.dropWhile fun b => !isMark b with
  | [] =>
    match timeFields seg false with
    | some (f, false) => some (f, none)
    | _ => none
  | mark :: tz => do
    let (f, _) ← timeFields seg true
    if mark == zulu then
      if peek tz == 0 then some (f, some 0) else none
    else
      let ((h, m, s, us), junk) ← timeFields tz false
      if junk then none
      else
        let secs : Int := ((h * 3600 + m * 60 + s : Nat) : Int)
        let size := if secs == 0 then 0 else secs * 1000000 + us
        some (f, some (if mark == dash then -size else size))

/-! ## Readers -/

/-- Reads an ISO date: the text has 7, 8 or 10 bytes and starts with a date. -/
def readDate (s : String) : Except CalendarError Date := do
  let bs := s.toUTF8.toList
  let n := bs.length
  if !(n == 7 || n == 8 || n == 10) then throw (.notIso s)
  match readDateText bs n with
  | none => throw (.notIso s)
  | some d => d.check

/-- Reads an ISO instant: at least seven characters, a date, and, when the text goes on
past the separator's place, the separator character and a time of day. -/
def readDateTime (s : String) : Except CalendarError DateTime := do
  let bs := s.toUTF8.toList
  if s.length < 7 then throw (.notIso s)
  let some sepAt := separatorAt bs | throw (.notIso s)
  let some date := readDateText bs sepAt | throw (.notIso s)
  let (fields, off) ← match bs.drop sepAt with
    | [] => pure ((0, 0, 0, 0), none)
    | b :: _ =>
      match readClock (bs.drop (sepAt + charWidth b)) with
      | some r => pure r
      | none => throw (.notIso s)
  checkOffset off
  let date ← date.check
  let (h, mi, se, us) := fields
  let time ← checkTime h mi se us
  pure ⟨date, time, off⟩

/-- Reads an ISO time of day with its offset, if it has one, after an optional leading `T`. -/
def readTime (s : String) : Except CalendarError OffsetTime := do
  let bs := s.toUTF8.toList
  let bs := if peek bs == timeMark then bs.drop 1 else bs
  match readClock bs with
  | none => throw (.notIso s)
  | some ((h, m, se, us), off) =>
    checkOffset off
    pure ⟨← checkTime h m se us, off⟩

end Iso

end RankAdvisor
