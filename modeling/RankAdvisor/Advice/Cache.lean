import RankAdvisor.Advice.Basic
import RankAdvisor.Calendar.Duration

/-! # The advice cache

Advice is kept per key (a stock code and an analysis date) for a time to live, so a stock
is not sent to the provider twice in that time. An entry is dropped when it is read at or
after its time to live; storing under a key that is present replaces the advice and
restarts its time in place.
-/

namespace RankAdvisor

/-- Cached advice: the time to live and the entries, oldest key first, each with the
instant it was stored. -/
structure ResultCache where
  ttl : Duration
  entries : List (String × Advice × DateTime) := []
  deriving Repr, Inhabited

namespace ResultCache

def create (ttl : Duration) : ResultCache := { ttl := ttl }

/-- Whether an entry stored at `stored` has lived out its time at `now`. -/
def expired (c : ResultCache) (stored now : DateTime) : Bool := c.ttl.micros ≤ (now.since stored).micros

/-- The advice under a key at `now`, and the cache with the entry dropped if it expired. -/
def lookup (c : ResultCache) (key : String) (now : DateTime) : Option Advice × ResultCache :=
  match c.entries.lookup key with
  | none => (none, c)
  | some (a, stored) =>
    if c.expired stored now then (none, { c with entries := c.entries.filter (·.1 != key) })
    else (some a, c)

def store (c : ResultCache) (key : String) (a : Advice) (now : DateTime) : ResultCache :=
  if c.entries.any (·.1 == key) then
    { c with entries := c.entries.map fun e => if e.1 == key then (key, a, now) else e }
  else { c with entries := c.entries ++ [(key, a, now)] }

def drop (c : ResultCache) (key : String) : ResultCache :=
  { c with entries := c.entries.filter (·.1 != key) }

def clear (c : ResultCache) : ResultCache := { c with entries := [] }

/-- The number of entries, expired ones that were not read included. -/
def size (c : ResultCache) : Nat := c.entries.length

/-- Stores advice under a key at `now` when there is advice; without advice nothing
changes, not even an entry already under the key. -/
def put (c : ResultCache) (key : String) (a : Option Advice) (now : DateTime) : ResultCache :=
  match a with
  | some a => c.store key a now
  | none => c

/-- The calls a cache answers. -/
inductive Step where
  | set (key : String) (advice : Option Advice)
  | get (key : String)
  | invalidate (key : String)
  | clear
  deriving Repr

/-- One call at the clock reading `now`: the advice it answers and the cache after it. -/
def step (c : ResultCache) (now : DateTime) : Step → Option Advice × ResultCache
  | .set key a => (none, c.put key a now)
  | .get key => c.lookup key now
  | .invalidate key => (none, c.drop key)
  | .clear => (none, c.clear)

end ResultCache

end RankAdvisor
