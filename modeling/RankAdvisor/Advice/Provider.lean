import RankAdvisor.Http.Exchange
import RankAdvisor.Text.Blank
import RankAdvisor.Json.Literal

/-! # Advice providers

A provider takes a prompt over HTTP and answers with text. Two kinds are known: the
messages service (text in `content[].text` of blocks of type `text`) and the chat
completions service (text in `choices[0].message.content`).

`Provider.complete` sorts every failure into a kind: a timeout or a failed connection, a
429 and a server error are transport failures worth another try; 401 and 403 are refused
credentials; any other client error is a refused request; a body that is not JSON, that
lacks the text, or whose text is blank cannot be read.
-/

namespace RankAdvisor

/-- The two provider services. -/
inductive ProviderKind where
  | messages
  | chat
  deriving DecidableEq, Repr, Inhabited

/-- A configured provider. The key, model, token limit and timeout are kept as they were
given and sent as they are; only the address must be a text. -/
structure Provider where
  kind : ProviderKind
  apiKey : Json
  model : Json
  /-- Base URL without trailing slashes. -/
  baseUrl : String
  maxTokens : Json
  timeout : Json
  deriving Repr, Inhabited

namespace Provider

def name (p : Provider) : String :=
  match p.kind with
  | .messages => "Claude"
  | .chat => "GPT"

def apiVersion : String := "2023-06-01"

def endpoint (p : Provider) : String :=
  match p.kind with
  | .messages => p.baseUrl ++ "/v1/messages"
  | .chat => p.baseUrl ++ "/chat/completions"

/-- A key is set unless it is empty, a `your_` placeholder, or at most ten characters. A
key that counts as empty is not set; any other key that is not a text cannot be looked
at. -/
def isAvailable (p : Provider) : Except Fault Bool :=
  match p.apiKey with
  | .str k => .ok (!k.isEmpty && !k.startsWith "your_" && 10 < k.length)
  | k => if k.isEmptyish then .ok false else .error (Fault.noAttribute k.kindName "startswith")

def headers (p : Provider) : List (String × Json) :=
  [("Authorization", .str ("Bearer " ++ p.apiKey.plainText)),
    ("Content-Type", .str "application/json")] ++
    match p.kind with
    | .messages => [("x-api-key", p.apiKey), ("anthropic-version", .str apiVersion)]
    | .chat => []

/-- The request body for a prompt, which is sent as it was given. -/
def body (p : Provider) (prompt : Json) : Json :=
  .obj [("model", p.model), ("max_tokens", p.maxTokens),
    ("messages", .arr [.obj [("role", .str "user"), ("content", prompt)]])]

/-! ## Finding the text in a payload -/

/-- The failure of looking up a text key in a value that is not an object. -/
def notSubscriptable (v : Json) : Fault :=
  match v with
  | .str _ => Fault.wrongType "string indices must be integers, not 'str'"
  | .arr _ => Fault.wrongType "list indices must be integers or slices, not str"
  | v => Fault.wrongType s!"{Json.quoteLiteral v.kindName} object is not subscriptable"

def member (v : Json) (key : String) : Except Fault Json :=
  match v with
  | .obj _ => match v.get? key with
    | some x => .ok x
    | none => .error (Fault.missingKey key)
  | _ => .error (notSubscriptable v)

def first (v : Json) : Except Fault Json :=
  match v with
  | .arr (x :: _) => .ok x
  | .arr [] => .error ⟨.indexRange, "list index out of range", none⟩
  | .str s => match s.toList with
    | c :: _ => .ok (.str (String.singleton c))
    | [] => .error ⟨.indexRange, "string index out of range", none⟩
  | .obj _ => .error ⟨.missingKey, "0", none⟩
  | v => .error (Fault.wrongType s!"{Json.quoteLiteral v.kindName} object is not subscriptable")

def getOr (v : Json) (key : String) (d : Json) : Except Fault Json :=
  match v with
  | .obj _ => .ok (v.getD key d)
  | _ => .error ⟨.missingAttribute, s!"{Json.quoteLiteral v.kindName} object has no attribute 'get'", none⟩

/-- The items of an iterable value: a list's items, a text's characters, an object's
names. -/
def items (v : Json) : Except Fault (List Json) :=
  match v with
  | .arr xs => .ok xs
  | .str s => .ok (s.toList.map fun c => .str (String.singleton c))
  | .obj kvs => .ok (kvs.map fun (k, _) => .str k)
  | v => .error (Fault.wrongType s!"{Json.quoteLiteral v.kindName} object is not iterable")

/-- Joins text pieces; a piece that is not text fails, naming its place. -/
def joinTexts (pieces : List Json) : Except Fault String :=
  let rec go : List Json → Nat → Except Fault String
    | [], _ => .ok ""
    | .str s :: rest, i => do pure (s ++ (← go rest (i + 1)))
    | v :: _, i => .error (Fault.wrongType s!"sequence item {i}: expected str instance, {v.kindName} found")
  go pieces 0

/-- The text of a messages payload: the texts of the blocks of type `text`, joined. -/
def messagesText (payload : Json) : Except Fault Json := do
  let blocks ← items (← member payload "content")
  let texts ← blocks.filterMapM fun b => do
    let t ← getOr b "type" (.str "text")
    match t with
    | .str "text" => pure (some (← getOr b "text" (.str "")))
    | _ => pure none
  pure (.str (← joinTexts texts))

/-- The text of a chat payload: `choices[0].message.content`. -/
def chatText (payload : Json) : Except Fault Json := do
  member (← member (← first (← member payload "choices")) "message") "content"

/-- The text of a payload, whatever its kind of value. -/
def textOf (p : Provider) (payload : Json) : Except Fault Json :=
  match p.kind with
  | .messages => messagesText payload
  | .chat => chatText payload

/-- Whether a failure of finding the text is a malformed payload (a missing key or index,
a wrong kind of value, a missing method). -/
def isShapeFault (f : Fault) : Bool :=
  match f.kind with
  | .missingKey | .indexRange | .wrongType | .missingAttribute => true
  | _ => false

def request (p : Provider) (prompt : Json) : Http.Request :=
  { method := "POST", url := p.endpoint, body := some (p.body prompt),
    headers := some p.headers, timeout := p.timeout }

/-- Sends a prompt and returns the answer's text. -/
def complete {m : Type → Type} [Monad m] (w : Http.Wire m) (p : Provider) (prompt : Json) :
    ExceptT Fault m String := do
  let out ← (w.send (p.request prompt) : m Http.Outcome)
  let r ← match out with
    | .failure f =>
      match f.kind with
      | .wire wf =>
        if wf.isTimeout then throw ⟨.transport, s!"[{p.name}] 请求超时: {f.text}", none⟩
        else throw ⟨.transport, s!"[{p.name}] 请求失败: {f.text}", none⟩
      | _ => throw f
    | .answer r => pure r
  let shown := r.status.plainText
  if Json.sameValue r.status (.int 401) || Json.sameValue r.status (.int 403) then
    throw ⟨.auth, s!"[{p.name}] 认证失败 HTTP {shown}: {r.head}", none⟩
  if (← ExceptT.mk (pure (r.statusWithin 400 500))) && !Json.sameValue r.status (.int 429) then
    throw ⟨.request, s!"[{p.name}] 请求被拒绝 HTTP {shown}: {r.head}", some r.status⟩
  if !(← ExceptT.mk (pure r.ok)) then
    throw ⟨.transport, s!"[{p.name}] HTTP {shown}: {r.head}", some r.status⟩
  let payload ← match r.json with
    | .ok v => pure v
    | .error e =>
      if let some f := e.passOn? then throw f
      else throw (Fault.parse s!"[{p.name}] 响应不是合法 JSON: {e.message r.body}")
  let text ← match p.textOf payload with
    | .ok t => pure t
    | .error f =>
      if isShapeFault f then throw (Fault.parse s!"[{p.name}] 响应结构异常: {f.text}") else throw f
  match text with
  | .str s =>
    if Text.isAllBlank s then throw (Fault.parse s!"[{p.name}] 返回空响应") else pure s
  | v =>
    if v.isEmptyish then throw (Fault.parse s!"[{p.name}] 返回空响应")
    else throw (Fault.noAttribute v.kindName "strip")

end Provider

end RankAdvisor
