import RankAdvisor.Json.Read
import RankAdvisor.Json.Write
import RankAdvisor.Json.Order

/-! # HTTP exchanges

A request, the answer it may get, and the wire through which requests go out. The wire is
a function in any monad, so a service can be run against a real connection, a script, or
a model of every possible answer.

An answer is *ok* unless its status is a client error (400–499) or a server error
(500–599), as the requests library's `Response.ok` has it; `Response.statusText` is the
text of the `HTTPError` that its `raise_for_status` raises for such a status. A
status is kept as it came, a number of either kind or even another value, and compared
by the rules of `Json.Order`; a status that cannot be set against the bounds fails.
-/

namespace RankAdvisor

namespace Http

/-- One outgoing request. -/
structure Request where
  method : String
  url : String
  /-- Query parameters of a `GET`. -/
  params : Option Json := none
  /-- JSON body of a `POST`. -/
  body : Option Json := none
  headers : Option (List (String × Json)) := none
  /-- The timeout as it was given. -/
  timeout : Json
  deriving Repr, Inhabited

/-- An answer: status, body text, reason phrase and the URL it came from. -/
structure Response where
  status : Json
  body : String
  reason : String := ""
  url : String := ""
  deriving Repr, Inhabited

/-- What a request led to: an answer, or a failure raised before one was read. -/
inductive Outcome where
  | answer (r : Response)
  | failure (f : Fault)
  deriving Repr, Inhabited

/-- The wire through which requests are sent. -/
structure Wire (m : Type → Type) where
  send : Request → m Outcome

namespace Response

/-- Whether the status lies in `[lo, hi)`; the upper bound is looked at only when the
lower one holds. -/
def statusWithin (r : Response) (lo hi : Int) : Except Fault Bool := do
  if ← Json.le (.int lo) r.status then Json.lt r.status (.int hi) else pure false

/-- The text of the error a client or server error status raises. -/
def statusText (r : Response) : Except Fault (Option String) := do
  let shown := r.status.plainText
  if ← r.statusWithin 400 500 then
    pure (some s!"{shown} Client Error: {r.reason} for url: {r.url}")
  else if ← r.statusWithin 500 600 then
    pure (some s!"{shown} Server Error: {r.reason} for url: {r.url}")
  else pure none

def ok (r : Response) : Except Fault Bool := do pure (← r.statusText).isNone

def json (r : Response) : Except Json.ReadFailure Json := Json.read r.body

def head (r : Response) (n : Nat := 200) : String := String.ofList (r.body.toList.take n)

end Response

/-- A request as a JSON record: method, URL, parameters or body, headers, timeout. -/
def Request.toJson (q : Request) : Json :=
  let headers : Json := match q.headers with
    | some hs => .obj hs
    | none => .null
  .obj ([("method", .str q.method), ("url", .str q.url)] ++
    (match q.params with
     | some p => [("params", p)]
     | none => []) ++
    (match q.body with
     | some b => [("json", b)]
     | none => []) ++
    [("headers", headers), ("timeout", q.timeout)])

def trimSlashes (url : String) : String :=
  String.ofList (url.toList.reverse.dropWhile (· == '/')).reverse

/-- A service address given as a value of any kind, without its trailing slashes; only a
text has them. -/
def baseOf (url : Json) : Except Fault String :=
  match url with
  | .str s => .ok (trimSlashes s)
  | v => .error (Fault.noAttribute v.kindName "rstrip")

end Http

end RankAdvisor
