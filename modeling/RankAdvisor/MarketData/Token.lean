import RankAdvisor.Json.Order

/-! # Access tokens

The market data service lets a key obtain a token about once a minute, so all callers share
one token. `TokenCache.get` returns the cached token while it is live; otherwise it calls
the issuer once, counts the issue, and keeps the token for the lease from the moment it
was issued. The lease is kept as it was given; one that cannot be added to the clock
reading fails the call after the count. An issuer that fails, or returns an empty token,
makes the call fail with a refused credential and leaves the cache as it was; the next
call tries again.

When several callers ask at once, one of them issues and all receive that round's token
or failure (`TokenCache.getShared`).
-/

namespace RankAdvisor

/-- A token and the clock reading at which it lapses. -/
structure AccessToken where
  value : Json
  expiresAt : Number
  deriving Repr, Inhabited

/-- A token is live while its value is non-empty and the clock is before its lapse. -/
def AccessToken.isLive (t : AccessToken) (now : Number) : Bool :=
  !t.value.isEmptyish && now.lt t.expiresAt

/-- The same rule for a value, a clock reading and a lapse of any kind: an empty value is
not live whatever the readings, and otherwise the reading must be before the lapse. -/
def AccessToken.liveAt (value now expiresAt : Json) : Except Fault Bool :=
  if value.isEmptyish then .ok false else Json.lt now expiresAt

/-- The shared token: its lease, the current token, and how many tokens were issued. -/
structure TokenCache where
  lease : Json
  token : Option AccessToken := none
  issued : Nat := 0
  deriving Repr, Inhabited

namespace TokenCache

def create (lease : Json) : TokenCache := { lease := lease }

/-- The lapse of a token issued at a clock reading: the reading plus the lease. -/
def lapse (c : TokenCache) (now : Number) : Except Fault Number :=
  match c.lease.number? with
  | some l => now.add l
  | none => .error (Json.noPlus (Json.ofNumber now) c.lease)

/-- The live token at a clock reading, if any. -/
def live? (c : TokenCache) (now : Number) : Option Json :=
  match c.token with
  | some t => if t.isLive now then some t.value else none
  | none => none

/-- The failure of an issue round: refused credentials pass as they are, anything else
becomes a refused credential naming the cause. -/
def roundFault (f : Fault) : Fault :=
  if f.kind == .auth then f else ⟨.auth, s!"访问令牌签发失败: {f.text}", none⟩

/-- One issue round: call the issuer, check the token, keep it for the lease. -/
def issue {m : Type → Type} [Monad m] [MonadStateOf TokenCache m]
    (issuer : m (Except Fault Json)) (clock : m Number) : ExceptT Fault m Json := do
  let r ← ExceptT.lift issuer
  let v ← match r with
    | Except.ok v => pure v
    | Except.error f => throw (roundFault f)
  if v.isEmptyish then throw ⟨.auth, "访问令牌签发失败: 返回的令牌为空", none⟩
  let now ← ExceptT.lift clock
  let c ← getThe TokenCache
  set { c with issued := c.issued + 1 }
  let expiresAt ← ExceptT.mk (pure (c.lapse now))
  set { c with token := some ⟨v, expiresAt⟩, issued := c.issued + 1 }
  pure v

/-- The live token, or a newly issued one. -/
def get {m : Type → Type} [Monad m] [MonadStateOf TokenCache m]
    (issuer : m (Except Fault Json)) (clock : m Number) : ExceptT Fault m Json := do
  let now ← ExceptT.lift clock
  match (← getThe TokenCache).live? now with
  | some v => pure v
  | none => issue issuer clock

/-- `n` callers asking at once: the first finding no live token issues, and every caller
gets that round's outcome. -/
def getShared {m : Type → Type} [Monad m] [MonadStateOf TokenCache m]
    (issuer : m (Except Fault Json)) (clock : m Number) (n : Nat) : m (List (Except Fault Json)) := do
  let r ← (get issuer clock).run
  pure (List.replicate n r)

/-- Drops the token; the next call issues a new one. -/
def invalidate (c : TokenCache) : TokenCache := { c with token := none }

end TokenCache

end RankAdvisor
