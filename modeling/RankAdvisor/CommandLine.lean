import RankAdvisor.Text.Numeral
import RankAdvisor.Text.Digit

/-! # The command line

The options of the command line: `--debug`, `--top N`, `--async`, `--poll-interval S`,
`--schedule`, `--latest`, and help (`-h`, `--help`).

Each word is first sorted: a known option (a long option may be shortened to a prefix
that names only it, and may carry its value after `=`; `-h` may carry more letters), an
argument (a word not starting with `-`, a lone `-`, a negative number, a word with a
space, every word after `--`), or an unknown option. A prefix naming several options
stops the reading at once with status 2.

The words are then read from left to right. An option that needs a value takes the next
word if that is an argument. A missing value, a value that does not read as a number and
a value given to a switch stop the reading with status 2; help stops it with status 0. Short
options may be run together after `-h`, but `-h` is the only one, so `-hh` asks for help and
`-hx` stops with status 2.
Arguments and unknown options are set aside, and if any were set aside the reading ends
with status 2.
-/

namespace RankAdvisor

/-- What the command line asks for. -/
structure Options where
  debug : Bool := false
  top : Option Int := none
  runAsync : Bool := false
  pollInterval : Binary64 := Binary64.ofDecimal false 2 0
  schedule : Bool := false
  latest : Bool := false
  deriving Repr

namespace CommandLine

def longOptions : List (String × Bool) :=
  [("--help", false), ("--debug", false), ("--top", true), ("--async", false),
    ("--poll-interval", true), ("--schedule", false), ("--latest", false)]

def takesValue (name : String) : Bool := (longOptions.lookup name).getD false

/-- How a word is sorted. `sep` says whether the value came after `=`. -/
inductive Word where
  | option (name : String) (sep : Bool) (value : Option String)
  | argument
  | unknown
  deriving Repr

abbrev Stop := Nat

/-- Whether a word reads as a negative number: `-`, then digits, or digits, a point and
digits (the first digits may be absent); one line break may follow. -/
def looksNegative (w : String) : Bool :=
  let cs := match w.toList.reverse with
    | '\n' :: rest => rest.reverse
    | _ => w.toList
  let isDigit (c : Char) : Bool := (Text.digitValue? c).isSome
  match cs with
  | '-' :: rest =>
    match rest.span (· != '.') with
    | (before, []) => !before.isEmpty && before.all isDigit
    | (before, _ :: frac) => before.all isDigit && !frac.isEmpty && frac.all isDigit
  | _ => false

/-- The text before the first `=`, and what follows it if there is one. -/
def splitValue (w : String) : String × Option String :=
  match w.splitOn "=" with
  | n :: v :: rest => (n, some ("=".intercalate (v :: rest)))
  | _ => (w, none)

/-- Sorts a word that comes before any `--`; `none` when it names several options. -/
def classify (w : String) : Option Word :=
  if w.isEmpty || !w.startsWith "-" then some .argument
  else if w == "-h" then some (.option "--help" false none)
  else if (longOptions.lookup w).isSome then some (.option w false none)
  else if w.length == 1 then some .argument
  else
    let (name, value) := splitValue w
    if value.isSome && name == "-h" then some (.option "--help" true value)
    else if value.isSome && (longOptions.lookup name).isSome then some (.option name true value)
    else if w.startsWith "--" then
      match longOptions.filter (·.1.startsWith name) with
      | [(o, _)] => some (.option o value.isSome value)
      | _ :: _ :: _ => none
      | [] => some (if w.any (· == ' ') then .argument else .unknown)
    else if w.startsWith "-h" then some (.option "--help" false (some (String.ofList (w.toList.drop 2))))
    else if looksNegative w || w.any (· == ' ') then some .argument
    else some .unknown

/-- Sorts all words; every word after `--` is an argument, and `--` itself is set aside. -/
def classifyAll : List String → Option (List Word)
  | [] => some []
  | "--" :: rest => some (Word.unknown :: rest.map fun _ => Word.argument)
  | w :: rest => do pure ((← classify w) :: (← classifyAll rest))

def setValue (o : Options) (name v : String) : Except Stop Options :=
  match name with
  | "--top" => match Numeral.readWhole? v with
    | some n => .ok { o with top := some n }
    | none => .error 2
  | _ => match Numeral.readDecimal? v with
    | some x => .ok { o with pollInterval := x }
    | none => .error 2

/-- Sets a switch; help stops the reading. -/
def setSwitch (o : Options) (name : String) : Except Stop Options :=
  match name with
  | "--help" => .error 0
  | "--debug" => .ok { o with debug := true }
  | "--async" => .ok { o with runAsync := true }
  | "--schedule" => .ok { o with schedule := true }
  | _ => .ok { o with latest := true }

/-- The letters after `-h` in one word: each must be another `h`, which asks for help again;
any other letter names a short option that does not exist, and the reading stops with
status 2 before help is given. -/
def helpTail (cs : List Char) : Stop := if cs.all (· == 'h') then 0 else 2

/-- Reads the sorted words from `o` on; `aside` says whether a word was set aside. -/
def readFrom (o : Options) (aside : Bool) : List (String × Word) → Except Stop Options
  | [] => if aside then .error 2 else .ok o
  | (_, .argument) :: rest => readFrom o true rest
  | (_, .unknown) :: rest => readFrom o true rest
  | (_, .option name sep value) :: rest =>
    if takesValue name then
      match value with
      | some v => do readFrom (← setValue o name v) aside rest
      | none =>
        match rest with
        | (v, .argument) :: rest' => do readFrom (← setValue o name v) aside rest'
        | _ => .error 2
    else
      match value with
      | none => do readFrom (← setSwitch o name) aside rest
      | some v =>
        if name == "--help" && !sep && !v.isEmpty then .error (helpTail v.toList)
        else .error 2

def read (words : List String) : Except Stop Options :=
  match classifyAll words with
  | none => .error 2
  | some ws => readFrom {} false (words.zip ws)

end CommandLine

end RankAdvisor
