import RankAdvisor.Http.Exchange
import RankAdvisor.MarketData.Token

/-! # Market data client

The client of the market data service. It obtains access tokens (`issueToken`, a `POST`
of the app's key and secret) and sends authorised queries (`get`, a `GET` naming the
query's transaction id), sharing one token through a `TokenCache`.

Failures are sorted by kind: a failed token request is a refused credential; a query that
timed out, failed to connect or got an error status is a transport failure; a query whose
answer is not a JSON object cannot be read.
-/

namespace RankAdvisor

namespace MarketData

def tokenPath : String := "/oauth2/tokenP"

/-- A client's settings: the service address (without trailing slashes), the app's key
and secret, the timeout of each request, and the lease of a token. -/
structure Client where
  baseUrl : String
  appKey : Json
  appSecret : Json
  timeout : Json := .num 10
  tokenLease : Json := .int 86400
  deriving Repr, Inhabited

namespace Client

/-- A client; trailing slashes of the address are dropped. -/
def create (baseUrl : String) (appKey appSecret : Json) (timeout : Json := .num 10)
    (tokenLease : Json := .int 86400) : Client :=
  { baseUrl := Http.trimSlashes baseUrl, appKey := appKey, appSecret := appSecret,
    timeout := timeout, tokenLease := tokenLease }

def tokenRequest (c : Client) : Http.Request :=
  { method := "POST", url := c.baseUrl ++ tokenPath,
    body := some (.obj [("grant_type", .str "client_credentials"), ("appkey", c.appKey),
      ("appsecret", c.appSecret)]),
    timeout := c.timeout }

/-- The token in an issue answer: the non-empty `access_token` member of an object. -/
def tokenOf (payload : Json) : Except Fault Json :=
  match payload with
  | .obj _ =>
    match payload.get? "access_token" with
    | some t => if t.isEmptyish then missing else .ok t
    | none => missing
  | _ => missing
where
  missing : Except Fault Json :=
    .error ⟨.auth, s!"令牌签发响应缺少 access_token: {String.ofList (payload.plainText.toList.take 200)}", none⟩

/-- Asks the service for a new token. The answer is read as the requests library reads it:
a body that is not JSON raises its `JSONDecodeError`, which is also a request error, so the
token is refused; a number too long to convert is only a value error, an unreadable answer;
a nesting too deep is passed on. -/
def issueToken {m : Type → Type} [Monad m] (w : Http.Wire m) (c : Client) :
    ExceptT Fault m Json := do
  let refused (t : String) : Fault := ⟨.auth, s!"令牌签发请求失败: {t}", none⟩
  let unreadable (t : String) : Fault := ⟨.auth, s!"令牌签发响应不是合法 JSON: {t}", none⟩
  let out ← ExceptT.lift (w.send c.tokenRequest)
  let r ← match out with
    | .answer r => pure r
    | .failure f =>
      if f.kind.isWire then throw (refused f.text)
      else if f.kind == .badValue then throw (unreadable f.text)
      else throw f
  if let some t ← ExceptT.mk (pure r.statusText) then throw (refused t)
  match r.json with
  | .ok payload => ExceptT.mk (pure (tokenOf payload))
  | .error e =>
    if let some f := e.passOn? then throw f
    else if e.isMalformed then throw (refused (e.message r.body))
    else throw (unreadable (e.message r.body))

def queryHeaders (c : Client) (token : Json) (trId : String) : List (String × Json) :=
  [("content-type", .str "application/json; charset=utf-8"),
    ("authorization", .str ("Bearer " ++ token.plainText)), ("appkey", c.appKey),
    ("appsecret", c.appSecret), ("tr_id", .str trId), ("custtype", .str "P")]

def queryRequest (c : Client) (token : Json) (path : String) (params : Json) (trId : String) :
    Http.Request :=
  { method := "GET", url := c.baseUrl ++ path, params := some params,
    headers := some (c.queryHeaders token trId), timeout := c.timeout }

/-- Sends an authorised query and returns its answer, which must be a JSON object. -/
def get {m : Type → Type} [Monad m] [MonadStateOf TokenCache m] (w : Http.Wire m)
    (clock : m Number) (c : Client) (path : String) (params : Json) (trId : String) :
    ExceptT Fault m Json := do
  let token ← TokenCache.get (c.issueToken w).run clock
  let out ← ExceptT.lift (w.send (c.queryRequest token path params trId))
  let r ← match out with
    | .answer r => pure r
    | .failure f =>
      match f.kind with
      | .wire wf =>
        if wf.isTimeout then throw ⟨.transport, s!"[{trId}] 请求超时: {f.text}", none⟩
        else throw ⟨.transport, s!"[{trId}] 请求失败: {f.text}", none⟩
      | _ => throw f
  if !(← ExceptT.mk (pure r.ok)) then
    let shown := r.status.plainText
    throw ⟨.transport, s!"[{trId}] HTTP {shown}: {r.head}", some r.status⟩
  match r.json with
  | .ok payload@(.obj _) => pure payload
  | .ok payload => throw (Fault.parse s!"[{trId}] 响应结构异常: {payload.kindName}")
  | .error e =>
    if let some f := e.passOn? then throw f
    else throw (Fault.parse s!"[{trId}] 响应不是合法 JSON: {e.message r.body}")

end Client

end MarketData

end RankAdvisor
