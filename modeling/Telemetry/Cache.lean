/-
A read cache whose entries expire.

A cache looks at its clock once in every look-up, and once whenever a value is stored. How much time passes before each of
these looks belongs to the clock: what holds for every clock holds however time passes, between two operations on a cache or
in the midst of an operation that uses it. A stored entry is found as long as the clock has not reached its expiry; after
that it is still counted until a look-up comes across it and drops it. An entry whose expiry is beyond the last instant of
the clock is not stored at all.
-/
namespace Telemetry

/-- an instant, and the time that passes before each of the next looks at the clock, all in nanoseconds; once these are used
up, no more time passes -/
structure Clock where
  /-- half a year from where it counts, unless told otherwise -/
  now : Nat := 16777215000000000
  passes : List Nat := []
  deriving DecidableEq, Repr

namespace Clock

/-- the clock after a look at it: it shows an instant that is later by the time that has passed -/
def look (clock : Clock) : Clock :=
  ⟨clock.now + clock.passes.headD 0, clock.passes.tail⟩

/-- the last instant of a clock: its seconds are 64-bit integers -/
def last : Nat := 9223372036854775808 * 1000000000 - 1

end Clock

/-- a stored value, which is found before its expiry -/
structure Cache.Entry (α : Type) where
  value : α
  expiresAt : Nat
  deriving DecidableEq, Repr

/-- stored values by key; the time to live is in nanoseconds -/
structure Cache (α : Type) where
  ttl : Nat
  entries : List (String × Cache.Entry α) := []
  clock : Clock := {}
  deriving Repr

namespace Cache

variable {α : Type}

def greatestSeconds : Nat := 18446744073709551615

def new (seconds nanos : Nat) : Cache α :=
  { ttl := seconds * 1000000000 + nanos }

/-- an empty cache with a time to live in hours -/
def withHours (hours : Nat) : Cache α :=
  new (min (hours * 3600) greatestSeconds) 0

def without (key : String) (entries : List (String × Entry α)) : List (String × Entry α) :=
  entries.filter fun entry => entry.1 != key

/-- the value stored under a key, and the cache after an expired one is dropped -/
def get (c : Cache α) (key : String) : Option α × Cache α :=
  let clock := c.clock.look
  match c.entries.lookup key with
  | none => (none, { c with clock })
  | some entry =>
    if clock.now < entry.expiresAt then (some entry.value, { c with clock })
    else (none, { c with clock, entries := without key c.entries })

/-- the cache with a value stored under a key, unless its expiry is beyond the clock -/
def set (c : Cache α) (key : String) (value : α) : Cache α :=
  let clock := c.clock.look
  let expiresAt := clock.now + c.ttl
  if Clock.last < expiresAt then { c with clock }
  else { c with clock, entries := (key, ⟨value, expiresAt⟩) :: without key c.entries }

def invalidate (c : Cache α) (key : String) : Cache α :=
  { c with entries := without key c.entries }

/-- the number of entries, expired ones included -/
def size (c : Cache α) : Nat :=
  c.entries.length

/-- there is no entry, not even an expired one -/
def isEmpty (c : Cache α) : Bool :=
  c.size == 0

end Cache

/-- a cache, or none: then nothing is ever found -/
inductive ReadCache (α : Type) where
  | absent
  | present (cache : Cache α)
  deriving Repr

namespace ReadCache

variable {α : Type}

/-- the value stored under a key, and the cache afterwards -/
def get : ReadCache α → String → Option α × ReadCache α
  | .absent, _ => (none, .absent)
  | .present c, key => let (found, c) := c.get key; (found, .present c)

/-- the cache with a value stored under a key -/
def set : ReadCache α → String → α → ReadCache α
  | .absent, _, _ => .absent
  | .present c, key, value => .present (c.set key value)

def invalidate : ReadCache α → String → ReadCache α
  | .absent, _ => .absent
  | .present c, key => .present (c.invalidate key)

/-- the number of entries, if there is a cache -/
def size? : ReadCache α → Option Nat
  | .absent => none
  | .present c => some c.size

end ReadCache

end Telemetry
