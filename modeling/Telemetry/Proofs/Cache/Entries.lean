import Telemetry.Cache
/-
What a cache holds, and what it finds.

`ReadCache.Holds` speaks of the stored entries, whether they have expired or not, so it says the same for every time to live
and every clock. Each operation on a cache changes what is held under one key only, and a look-up answers with what is held.
What is found depends on the time as well: as long as none passes, an operation leaves what is found under other keys as it
was.

- `get_fst`, `lookup_get`, `lookup_set`: what is found, and the entries after an operation;
- `get_found`, `holds_of_get`: a look-up finds held values and adds none;
- `holds_set`, `holds_invalidate`, `holds_invalidateAll`: what is held after an entry is stored, and after keys are dropped;
- `get_after_get`, `get_after_set`, `get_after_set_self`: while no time passes, a look-up finds the same after another look-up,
  and after a value is stored, but for this value.
-/
namespace Telemetry

/-- no time passes any more -/
def Clock.Still (clock : Clock) : Prop := ∀ pass ∈ clock.passes, pass = 0

instance (clock : Clock) : Decidable clock.Still :=
  inferInstanceAs (Decidable (∀ pass ∈ clock.passes, pass = 0))

theorem Clock.Still.look_now {clock : Clock} (h : clock.Still) : clock.look.now = clock.now := by
  obtain ⟨now, passes⟩ := clock
  cases passes with
  | nil => rfl
  | cons pass passes =>
    have hpass : pass = 0 := h pass List.mem_cons_self
    rw [hpass]
    rfl

theorem Clock.Still.look {clock : Clock} (h : clock.Still) : clock.look.Still :=
  fun pass hpass => h pass (List.mem_of_mem_tail hpass)

/-- two looks in a row show the same -/
theorem Clock.Still.look_look_now {clock : Clock} (h : clock.Still) : clock.look.look.now = clock.look.now :=
  h.look.look_now

namespace Cache

variable {α : Type}

theorem mem_without {key : String} {entries : List (String × Entry α)} {entry : String × Entry α} :
    entry ∈ without key entries ↔ entry ∈ entries ∧ entry.1 ≠ key := by
  simp [without]

theorem mem_of_lookup {β : Type} {key : String} {entries : List (String × β)} {value : β}
    (h : entries.lookup key = some value) : (key, value) ∈ entries := by
  obtain ⟨before, after, rfl, -⟩ := List.lookup_eq_some_iff.1 h
  simp

theorem lookup_without {key dropped : String} (hkey : key ≠ dropped) (entries : List (String × Entry α)) :
    (without dropped entries).lookup key = entries.lookup key := by
  induction entries with
  | nil => rfl
  | cons entry entries ih =>
    obtain ⟨k, value⟩ := entry
    by_cases hk : k = dropped
    · have hdropped : without dropped ((k, value) :: entries) = without dropped entries := by simp [without, hk]
      rw [hdropped, ih, List.lookup_cons, hk, beq_false_of_ne hkey]
    · have hkept : without dropped ((k, value) :: entries) = (k, value) :: without dropped entries := by simp [without, hk]
      rw [hkept, List.lookup_cons, List.lookup_cons, ih]

/-- dropping a key leaves nothing under it, and everything else as it is -/
theorem lookup_without_eq (key dropped : String) (entries : List (String × Entry α)) :
    (without dropped entries).lookup key = if key = dropped then none else entries.lookup key := by
  by_cases hkey : key = dropped
  · rw [if_pos hkey, List.lookup_eq_none_iff]
    intro entry hentry
    rw [bne_iff_ne, hkey]
    exact (mem_without.1 hentry).2.symm
  · rw [if_neg hkey, lookup_without hkey]

/-! ## What is found -/

/-- the value stored under a key, if its expiry is after an instant -/
def foundAt (c : Cache α) (now : Nat) (key : String) : Option α :=
  (c.entries.lookup key).bind fun entry => if now < entry.expiresAt then some entry.value else none

/-- a look-up finds what has not expired by the time it looks at the clock -/
theorem get_fst (c : Cache α) (key : String) : (c.get key).1 = c.foundAt c.clock.look.now key := by
  unfold get foundAt
  cases c.entries.lookup key with
  | none => rfl
  | some entry =>
    rw [Option.bind_some]
    dsimp only
    split <;> rfl

/-- a look-up that finds nothing leaves nothing under the key; any other leaves the entries as they are -/
theorem get_entries (c : Cache α) (key : String) :
    (c.get key).2.entries = if (c.get key).1.isSome then c.entries else without key c.entries := by
  unfold get
  cases hlookup : c.entries.lookup key with
  | none =>
    have hsame : without key c.entries = c.entries := by
      refine List.filter_eq_self.2 fun entry hentry => ?_
      rw [bne_comm]
      exact List.lookup_eq_none_iff.1 hlookup entry hentry
    exact hsame.symm
  | some entry =>
    dsimp only
    split <;> rfl

@[simp] theorem get_clock (c : Cache α) (key : String) : (c.get key).2.clock = c.clock.look := by
  unfold get
  split
  · rfl
  · dsimp only
    split <;> rfl

@[simp] theorem get_ttl (c : Cache α) (key : String) : (c.get key).2.ttl = c.ttl := by
  unfold get
  split
  · rfl
  · dsimp only
    split <;> rfl

@[simp] theorem set_clock (c : Cache α) (key : String) (value : α) : (c.set key value).clock = c.clock.look := by
  unfold set
  dsimp only
  split <;> rfl

@[simp] theorem set_ttl (c : Cache α) (key : String) (value : α) : (c.set key value).ttl = c.ttl := by
  unfold set
  dsimp only
  split <;> rfl

theorem lookup_get (c : Cache α) (asked key : String) : (c.get asked).2.entries.lookup key =
    if key = asked ∧ (c.get asked).1 = none then none else c.entries.lookup key := by
  rw [get_entries]
  cases hfound : (c.get asked).1 with
  | none => simp [lookup_without_eq]
  | some value => simp

theorem lookup_set (c : Cache α) (stored key : String) (new : α) : (c.set stored new).entries.lookup key =
    if key = stored ∧ c.clock.look.now + c.ttl ≤ Clock.last then some ⟨new, c.clock.look.now + c.ttl⟩
    else c.entries.lookup key := by
  unfold set
  dsimp only
  split
  · rename_i hbeyond
    rw [if_neg fun h => Nat.not_le.2 hbeyond h.2]
  · rename_i hclock
    rw [List.lookup_cons, lookup_without_eq]
    by_cases hkey : key = stored
    · simp [hkey, Nat.not_lt.1 hclock]
    · simp [hkey, beq_false_of_ne hkey]

theorem lookup_invalidate (c : Cache α) (dropped key : String) : (c.invalidate dropped).entries.lookup key =
    if key = dropped then none else c.entries.lookup key :=
  lookup_without_eq key dropped c.entries

end Cache

namespace ReadCache

variable {α : Type}

/-! ## What is held -/

/-- a value is stored under a key, expired or not -/
def Holds : ReadCache α → String → α → Prop
  | .absent, _, _ => False
  | .present c, key, value => ∃ entry ∈ c.entries, entry.1 = key ∧ entry.2.value = value

instance [DecidableEq α] (c : ReadCache α) (key : String) (value : α) : Decidable (c.Holds key value) :=
  match c with
  | .absent => isFalse id
  | .present c => inferInstanceAs (Decidable (∃ entry ∈ c.entries, entry.1 = key ∧ entry.2.value = value))

theorem not_holds_absent (key : String) (value : α) : ¬ (ReadCache.absent : ReadCache α).Holds key value := id

theorem not_holds_empty (ttl : Nat) (clock : Clock) (key : String) (value : α) :
    ¬ (ReadCache.present { ttl, clock } : ReadCache α).Holds key value := by
  rintro ⟨entry, hentry, -⟩
  exact List.not_mem_nil hentry

/-- a look-up finds what is held -/
theorem get_found {c : ReadCache α} {key : String} {value : α} (h : (c.get key).1 = some value) : c.Holds key value := by
  cases c with
  | absent => cases h
  | present c =>
    have hfound : c.foundAt c.clock.look.now key = some value := (c.get_fst key).symm.trans h
    obtain ⟨entry, hlookup, hlives⟩ := Option.bind_eq_some_iff.1 hfound
    refine ⟨_, Cache.mem_of_lookup hlookup, rfl, ?_⟩
    simpa using (Option.ite_none_right_eq_some.1 hlives).2

/-- a look-up adds nothing -/
theorem holds_of_get {c : ReadCache α} {asked key : String} {value : α} (h : (c.get asked).2.Holds key value) :
    c.Holds key value := by
  cases c with
  | absent => exact h
  | present c =>
    obtain ⟨entry, hentry, hholds⟩ := h
    have hmem : entry ∈ (c.get asked).2.entries := hentry
    rw [Cache.get_entries] at hmem
    split at hmem
    · exact ⟨entry, hmem, hholds⟩
    · exact ⟨entry, (Cache.mem_without.1 hmem).1, hholds⟩

/-- storing an entry adds nothing but this entry -/
theorem holds_set {c : ReadCache α} {stored key : String} {new value : α} (h : (c.set stored new).Holds key value) :
    (key = stored ∧ value = new) ∨ c.Holds key value := by
  cases c with
  | absent => exact Or.inr h
  | present c =>
    obtain ⟨entry, hentry, hkey, hvalue⟩ := h
    simp only [Cache.set] at hentry
    split at hentry
    · exact Or.inr ⟨entry, hentry, hkey, hvalue⟩
    · rcases List.mem_cons.1 hentry with rfl | hmem
      · exact Or.inl ⟨hkey.symm, hvalue.symm⟩
      · exact Or.inr ⟨entry, (Cache.mem_without.1 hmem).1, hkey, hvalue⟩

/-- dropping a key leaves nothing under it, and adds nothing -/
theorem holds_invalidate {c : ReadCache α} {dropped key : String} {value : α}
    (h : (c.invalidate dropped).Holds key value) : key ≠ dropped ∧ c.Holds key value := by
  cases c with
  | absent => exact h.elim
  | present c =>
    obtain ⟨entry, hentry, hkey, hvalue⟩ := h
    obtain ⟨hmem, hne⟩ := Cache.mem_without.1 hentry
    exact ⟨hkey ▸ hne, entry, hmem, hkey, hvalue⟩

/-- dropping several keys leaves nothing under any of them, and adds nothing -/
theorem holds_invalidateAll {dropped : List String} {c : ReadCache α} {key : String} {value : α}
    (h : (dropped.foldl invalidate c).Holds key value) : key ∉ dropped ∧ c.Holds key value := by
  induction dropped generalizing c with
  | nil => exact ⟨List.not_mem_nil, h⟩
  | cons first rest ih =>
    obtain ⟨hrest, hheld⟩ := ih h
    obtain ⟨hne, hbefore⟩ := holds_invalidate hheld
    exact ⟨List.not_mem_cons_of_ne_of_not_mem hne hrest, hbefore⟩

/-! ## While no time passes -/

/-- no time passes any more for the cache -/
def Still : ReadCache α → Prop
  | .absent => True
  | .present c => c.clock.Still

theorem Still.get {c : ReadCache α} (h : c.Still) (asked : String) : (c.get asked).2.Still := by
  cases c with
  | absent => exact h
  | present c =>
    change (c.get asked).2.clock.Still
    rw [Cache.get_clock]
    exact Clock.Still.look h

theorem Still.set {c : ReadCache α} (h : c.Still) (stored : String) (new : α) : (c.set stored new).Still := by
  cases c with
  | absent => exact h
  | present c =>
    change (c.set stored new).clock.Still
    rw [Cache.set_clock]
    exact Clock.Still.look h

/-- a look-up finds the same after any look-up -/
theorem get_after_get {c : ReadCache α} (h : c.Still) (asked key : String) :
    ((c.get asked).2.get key).1 = (c.get key).1 := by
  cases c with
  | absent => rfl
  | present c =>
    have hclock : c.clock.look.look.now = c.clock.look.now := Clock.Still.look_look_now h
    change ((c.get asked).2.get key).1 = (c.get key).1
    by_cases hdropped : key = asked ∧ (c.get asked).1 = none
    · rw [Cache.get_fst, Cache.foundAt, Cache.lookup_get, if_pos hdropped, hdropped.1, hdropped.2]
      rfl
    · rw [Cache.get_fst, Cache.foundAt, Cache.lookup_get, if_neg hdropped, Cache.get_clock, hclock, Cache.get_fst,
        Cache.foundAt]

/-- what a look-up finds after a value is stored where it found none: this value, unless it has expired at once -/
theorem get_after_set_self {c : ReadCache α} (h : c.Still) {stored : String} (hmiss : (c.get stored).1 = none) (new : α) :
    ((c.set stored new).get stored).1 = none ∨ ((c.set stored new).get stored).1 = some new := by
  cases c with
  | absent => exact Or.inl rfl
  | present c =>
    have hclock : c.clock.look.look.now = c.clock.look.now := Clock.Still.look_look_now h
    have hnone : c.foundAt c.clock.look.now stored = none := (c.get_fst stored).symm.trans hmiss
    change ((c.set stored new).get stored).1 = none ∨ ((c.set stored new).get stored).1 = some new
    rw [Cache.get_fst, Cache.foundAt, Cache.lookup_set, Cache.set_clock, hclock]
    split
    · rw [Option.bind_some]
      split
      · exact Or.inr rfl
      · exact Or.inl rfl
    · exact Or.inl hnone

/-- a look-up finds the same after a value is stored under another key -/
theorem get_after_set {c : ReadCache α} (h : c.Still) {stored key : String} (hkey : key ≠ stored) (new : α) :
    ((c.set stored new).get key).1 = (c.get key).1 := by
  cases c with
  | absent => rfl
  | present c =>
    have hclock : c.clock.look.look.now = c.clock.look.now := Clock.Still.look_look_now h
    change ((c.set stored new).get key).1 = (c.get key).1
    rw [Cache.get_fst, Cache.foundAt, Cache.lookup_set, if_neg fun hstored => hkey hstored.1, Cache.set_clock, hclock,
      Cache.get_fst, Cache.foundAt]

end ReadCache

end Telemetry
