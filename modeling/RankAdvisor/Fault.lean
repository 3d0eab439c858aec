import RankAdvisor.Json.Literal

/-! # Faults

Every way an operation of this library can fail, as a kind and a text. The first kinds are
the library's own: a malformed response or field (`parse`), a transport failure
(`transport`, with the status when an answer came), a refused credential (`auth`), a
request the service turned down (`request`, with its status), a failed pipeline run, an
unknown job, a bad setting, an unknown time zone, a bad schedule. The others are the general failures that operations on values
report (a bad value, a missing key, a wrong kind of value, a number out of range, a
division by zero, a broken store constraint), and the failures of the HTTP session.
-/

namespace RankAdvisor

/-- How an HTTP exchange failed before an answer was read. The connect timeout is both a
timeout and a connection failure. -/
inductive WireFailure where
  | timeout
  | connectTimeout
  | readTimeout
  | connection
  | badStatus
  | other
  deriving DecidableEq, Repr

def WireFailure.isTimeout : WireFailure → Bool
  | .timeout | .connectTimeout | .readTimeout => true
  | _ => false

/-- The kind of a failure. -/
inductive FaultKind where
  | parse
  | transport
  | auth
  | request
  | pipeline
  | jobNotFound
  | config
  | badValue
  | missingKey
  | wrongType
  | overflow
  | missingAttribute
  | divisionByZero
  | indexRange
  | runtime
  | integrity
  | unknownZone
  | schedule
  | exit
  | recursion
  | programming
  | unencodable
  | system
  | wire (w : WireFailure)
  deriving DecidableEq, Repr

def FaultKind.isAnalysis : FaultKind → Bool
  | .parse | .transport | .auth | .request | .pipeline | .jobNotFound => true
  | _ => false

/-- The kinds that a caller of the HTTP session sees as a failed request. -/
def FaultKind.isWire : FaultKind → Bool
  | .wire _ => true
  | _ => false

def FaultKind.className : FaultKind → String
  | .parse => "ParseError"
  | .transport => "TransportError"
  | .auth => "AuthError"
  | .request => "RequestError"
  | .pipeline => "PipelineError"
  | .jobNotFound => "JobNotFoundError"
  | .config => "ConfigError"
  | .badValue => "ValueError"
  | .missingKey => "KeyError"
  | .wrongType => "TypeError"
  | .overflow => "OverflowError"
  | .missingAttribute => "AttributeError"
  | .divisionByZero => "ZeroDivisionError"
  | .indexRange => "IndexError"
  | .runtime => "RuntimeError"
  | .integrity => "IntegrityError"
  | .unknownZone => "ZoneInfoNotFoundError"
  | .schedule => "ScheduleValueError"
  | .exit => "SystemExit"
  | .recursion => "RecursionError"
  | .programming => "ProgrammingError"
  | .unencodable => "UnicodeEncodeError"
  | .system => "OSError"
  | .wire .timeout => "Timeout"
  | .wire .connectTimeout => "ConnectTimeout"
  | .wire .readTimeout => "ReadTimeout"
  | .wire .connection => "ConnectionError"
  | .wire .badStatus => "HTTPError"
  | .wire .other => "RequestException"

/-- The failure kinds a script may ask a collaborator to raise, by name. -/
def FaultKind.scripted? : String → Option FaultKind
  | "Timeout" => some (.wire .timeout)
  | "ConnectTimeout" => some (.wire .connectTimeout)
  | "ReadTimeout" => some (.wire .readTimeout)
  | "ConnectionError" => some (.wire .connection)
  | "HTTPError" => some (.wire .badStatus)
  | "RequestException" => some (.wire .other)
  | "ValueError" => some .badValue
  | "RuntimeError" => some .runtime
  | "KeyError" => some .missingKey
  | "TransportError" => some .transport
  | "AuthError" => some .auth
  | "RequestError" => some .request
  | "ParseError" => some .parse
  | "PipelineError" => some .pipeline
  | _ => none

/-- A failure: its kind, its text, and the HTTP status it carries, if any. -/
structure Fault where
  kind : FaultKind
  text : String
  status : Option Json := none
  deriving Repr

namespace Fault

def parse (t : String) : Fault := ⟨.parse, t, none⟩
def badValue (t : String) : Fault := ⟨.badValue, t, none⟩
def overflow (t : String) : Fault := ⟨.overflow, t, none⟩
def wrongType (t : String) : Fault := ⟨.wrongType, t, none⟩

def noAttribute (kind attr : String) : Fault :=
  ⟨.missingAttribute, s!"'{kind}' object has no attribute '{attr}'", none⟩

/-- The failure of searching a value of kind `kind` with a text pattern. -/
def notText (kind : String) : Fault :=
  ⟨.wrongType, s!"expected string or bytes-like object, got {Json.quoteLiteral kind}", none⟩

/-- A missing key: the text is the key quoted as a literal. -/
def missingKey (k : String) : Fault := ⟨.missingKey, Json.quoteLiteral k, none⟩

end Fault

end RankAdvisor
