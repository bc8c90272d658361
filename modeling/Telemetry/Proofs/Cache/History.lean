import Mathlib.Logic.Function.Basic
import Telemetry.Proofs.Cache.Entries
/-
What a cache answers after a history of operations.

While no time passes, a look-up finds what was stored under its key last, unless something else has happened to the key
since, entries expire at once or their expiry is beyond the clock. An entry that has expired is still counted until a look-up
for its key drops it, so what is counted depends on more of the history than what is found.

- `lastStored_concat_iff`: what one more operation does to the last value of a key;
- `Reflects.after`: one operation keeps the entries to their history;
- `reflects_foldl`: so does a run;
- `answers_in_history`: what is found, and what is counted, after any run, and what the look-ups of a run answer.
-/
namespace Telemetry

/-- an operation on a cache -/
inductive Cache.Operation (α : Type) where
  | get (key : String)
  | set (key : String) (value : α)
  | invalidate (key : String)

open Cache (Operation)

variable {α : Type}

def Cache.after (c : Cache α) : Operation α → Cache α
  | .get key => (c.get key).2
  | .set key value => c.set key value
  | .invalidate key => c.invalidate key

/-- what the look-ups among some operations answer, one operation after the other -/
def ReadCache.answers : ReadCache α → List (Operation α) → List (Option α)
  | _, [] => []
  | c, .get key :: ops => (c.get key).1 :: (c.get key).2.answers ops
  | c, .set key value :: ops => (c.set key value).answers ops
  | c, .invalidate key :: ops => (c.invalidate key).answers ops

/-- what the same look-ups answer from a table -/
def tableAnswers : (String → Option α) → List (Operation α) → List (Option α)
  | _, [] => []
  | table, .get key :: ops => table key :: tableAnswers table ops
  | table, .set key value :: ops => tableAnswers (Function.update table key (some value)) ops
  | table, .invalidate key :: ops => tableAnswers (Function.update table key none) ops

namespace Cache

variable {c fresh : Cache α} {key : String} {value : α} {op : Operation α} {past since : List (Operation α)}

/-! ## Histories -/

/-- the operation stores something under the key or drops what is there -/
def Operation.Changes : Operation α → String → Prop
  | .get _, _ => False
  | .set stored _, key => key = stored
  | .invalidate dropped, key => key = dropped

/-- the last operation that changed a key stored a value, and these have come since -/
structure LastStored (past : List (Operation α)) (key : String) (value : α) (since : List (Operation α)) : Prop where
  stored : ∃ before, past = before ++ .set key value :: since
  unchanged : ∀ op ∈ since, ¬ op.Changes key

/-- with one more operation, it is this one that stored the value, or it leaves the key as it was -/
theorem lastStored_concat_iff : LastStored (past ++ [op]) key value since ↔
    (op = .set key value ∧ since = []) ∨
      ∃ earlier, since = earlier ++ [op] ∧ ¬ op.Changes key ∧ LastStored past key value earlier := by
  constructor
  · rintro ⟨⟨before, hpast⟩, hunchanged⟩
    rcases List.eq_nil_or_concat since with rfl | ⟨earlier, last, rfl⟩
    · obtain ⟨-, hop⟩ := List.append_inj' hpast rfl
      exact Or.inl ⟨List.singleton_inj.1 hop, rfl⟩
    · rw [List.concat_eq_append] at hpast hunchanged ⊢
      rw [← List.cons_append, ← List.append_assoc] at hpast
      obtain ⟨rfl, hop⟩ := List.append_inj' hpast rfl
      obtain rfl := List.singleton_inj.1 hop
      refine Or.inr ⟨earlier, rfl, hunchanged op (by simp), ⟨before, rfl⟩, fun o ho => hunchanged o (by simp [ho])⟩
  · rintro (⟨rfl, rfl⟩ | ⟨earlier, rfl, hop, ⟨before, rfl⟩, hunchanged⟩)
    · exact ⟨⟨past, rfl⟩, by simp⟩
    · refine ⟨⟨before, by simp⟩, fun o ho => ?_⟩
      rcases List.mem_append.1 ho with ho | ho
      · exact hunchanged o ho
      · rw [List.mem_singleton.1 ho]
        exact hop

/-- by its history a cache that was empty at first holds a value under a key while no time passes: the value was stored last,
its expiry is on the clock, and if it expires at once, no look-up has dropped it -/
def Held (fresh : Cache α) (past : List (Operation α)) (key : String) (value : α) : Prop :=
  fresh.clock.now + fresh.ttl ≤ Clock.last ∧
    ∃ since, LastStored past key value since ∧ (fresh.ttl = 0 → .get key ∉ since)

theorem not_lastStored_nil : ¬ LastStored [] key value since := by
  intro h
  obtain ⟨before, hpast⟩ := h.stored
  simp at hpast

theorem not_held_nil : ¬ Held fresh [] key value :=
  fun ⟨_, _, hstored, _⟩ => not_lastStored_nil hstored

theorem held_concat_iff : Held fresh (past ++ [op]) key value ↔
    (op = .set key value ∧ fresh.clock.now + fresh.ttl ≤ Clock.last) ∨
      (¬ op.Changes key ∧ (fresh.ttl = 0 → op ≠ .get key) ∧ Held fresh past key value) := by
  simp only [Held, lastStored_concat_iff]
  constructor
  · rintro ⟨hclock, since, ⟨rfl, rfl⟩ | ⟨earlier, rfl, hop, hstored⟩, hkept⟩
    · exact Or.inl ⟨rfl, hclock⟩
    · simp only [List.mem_append, List.mem_singleton, not_or] at hkept
      have hasked : fresh.ttl = 0 → op ≠ .get key := fun hexpired h => (hkept hexpired).2 h.symm
      exact Or.inr ⟨hop, hasked, hclock, earlier, hstored, fun hexpired => (hkept hexpired).1⟩
  · rintro (⟨rfl, hclock⟩ | ⟨hop, hasked, hclock, earlier, hstored, hkept⟩)
    · exact ⟨hclock, [], Or.inl ⟨rfl, rfl⟩, by simp⟩
    · refine ⟨hclock, earlier ++ [op], Or.inr ⟨earlier, rfl, hop, hstored⟩, fun hexpired => ?_⟩
      simp only [List.mem_append, List.mem_singleton, not_or]
      exact ⟨hkept hexpired, fun h => hasked hexpired h.symm⟩

/-! ## Entries after one operation -/

theorem after_ttl (c : Cache α) (op : Operation α) : (c.after op).ttl = c.ttl := by
  cases op with
  | get key => exact get_ttl c key
  | set key value => exact set_ttl c key value
  | invalidate key => rfl

/-- an operation lets no time pass if there is none to pass -/
theorem after_clock (hstill : c.clock.Still) (op : Operation α) :
    (c.after op).clock.Still ∧ (c.after op).clock.now = c.clock.now := by
  have hlook : c.clock.look.Still ∧ c.clock.look.now = c.clock.now := ⟨hstill.look, hstill.look_now⟩
  cases op with
  | get key =>
    rw [after, get_clock]
    exact hlook
  | set key value =>
    rw [after, set_clock]
    exact hlook
  | invalidate key => exact ⟨hstill, rfl⟩

def keys (c : Cache α) : List String := c.entries.map Prod.fst

theorem mem_keys_iff : key ∈ c.keys ↔ ∃ value, c.entries.lookup key = some value := by
  rw [← Option.ne_none_iff_exists', Ne, List.lookup_eq_none_iff]
  simp [keys]

theorem keys_without_nodup (dropped : String) (h : c.keys.Nodup) : ((without dropped c.entries).map Prod.fst).Nodup :=
  h.sublist (List.filter_sublist.map _)

/-- no operation stores a second entry under a key -/
theorem keys_after_nodup (h : c.keys.Nodup) (op : Operation α) : (c.after op).keys.Nodup := by
  cases op with
  | get key =>
    rw [after, keys, get_entries]
    split
    · exact h
    · exact keys_without_nodup key h
  | set key value =>
    simp only [after, set]
    split
    · exact h
    · refine List.nodup_cons.2 ⟨?_, keys_without_nodup key h⟩
      intro hmem
      obtain ⟨entry, hentry, hkey⟩ := List.mem_map.1 hmem
      exact (mem_without.1 hentry).2 hkey
  | invalidate key => exact keys_without_nodup key h

/-! ## Entries after a run -/

/-- the entries of a cache that was empty at first, and for which no time passes, are what its history makes them -/
structure Reflects (fresh : Cache α) (past : List (Operation α)) (c : Cache α) : Prop where
  ttl : c.ttl = fresh.ttl
  still : c.clock.Still
  now : c.clock.now = fresh.clock.now
  lookup_iff : ∀ key entry, c.entries.lookup key = some entry ↔
    entry.expiresAt = fresh.clock.now + fresh.ttl ∧ Held fresh past key entry.value
  nodup : c.keys.Nodup

theorem reflects_nil (hempty : fresh.entries = []) (hstill : fresh.clock.Still) : Reflects fresh [] fresh := by
  refine ⟨rfl, hstill, rfl, fun key entry => ?_, ?_⟩
  · simp [hempty, not_held_nil]
  · simp [keys, hempty]

namespace Reflects

/-- a look-up finds an entry, unless it has expired at once -/
theorem get_eq (h : Reflects fresh past c) (key : String) :
    (c.get key).1 = if fresh.ttl = 0 then none else (c.entries.lookup key).map Entry.value := by
  rw [get_fst, foundAt, h.still.look_now, h.now]
  cases hlookup : c.entries.lookup key with
  | none => simp
  | some entry =>
    obtain ⟨hexpires, -⟩ := (h.lookup_iff key entry).1 hlookup
    simp [hexpires, Nat.pos_iff_ne_zero]

/-- a look-up drops nothing but an entry that expires at once -/
theorem lookup_get (h : Reflects fresh past c) (asked key : String) : (c.get asked).2.entries.lookup key =
    if fresh.ttl = 0 ∧ key = asked then none else c.entries.lookup key := by
  rw [Cache.lookup_get, h.get_eq]
  by_cases hexpired : fresh.ttl = 0
  · simp [hexpired]
  · by_cases hkey : key = asked
    · rw [hkey]
      cases hlookup : c.entries.lookup asked <;> simp [hexpired]
    · simp [hkey]

theorem lookup_set (h : Reflects fresh past c) (stored key : String) (new : α) : (c.set stored new).entries.lookup key =
    if key = stored ∧ fresh.clock.now + fresh.ttl ≤ Clock.last then some ⟨new, fresh.clock.now + fresh.ttl⟩
    else c.entries.lookup key := by
  rw [Cache.lookup_set, h.still.look_now, h.now, h.ttl]

/-- nothing is held if its expiry would be beyond the clock -/
theorem lookup_eq_none (h : Reflects fresh past c) (hbeyond : ¬ fresh.clock.now + fresh.ttl ≤ Clock.last) (key : String) :
    c.entries.lookup key = none := by
  refine Option.eq_none_iff_forall_ne_some.2 fun entry hlookup => ?_
  exact hbeyond ((h.lookup_iff key entry).1 hlookup).2.1

/-- one operation keeps the entries to their history -/
theorem after (h : Reflects fresh past c) (op : Operation α) : Reflects fresh (past ++ [op]) (c.after op) := by
  obtain ⟨hstill, hnow⟩ := after_clock h.still op
  refine ⟨(c.after_ttl op).trans h.ttl, hstill, hnow.trans h.now, fun key entry => ?_, keys_after_nodup h.nodup op⟩
  rw [held_concat_iff]
  cases op with
  | get asked =>
    rw [Cache.after, h.lookup_get]
    by_cases hdropped : fresh.ttl = 0 ∧ key = asked
    · simp [Operation.Changes, hdropped]
    · have hkept : fresh.ttl = 0 → asked ≠ key := fun hexpired hasked => hdropped ⟨hexpired, hasked.symm⟩
      rw [if_neg hdropped, h.lookup_iff]
      simpa [Operation.Changes] using fun _ _ => hkept
  | set stored new =>
    obtain ⟨value, expiresAt⟩ := entry
    rw [Cache.after, h.lookup_set]
    by_cases hkey : key = stored
    · by_cases hstored : fresh.clock.now + fresh.ttl ≤ Clock.last
      · simp [Operation.Changes, hkey, hstored, and_comm, eq_comm]
      · simp [Operation.Changes, hkey, hstored, h.lookup_eq_none hstored]
    · simp [Operation.Changes, hkey, Ne.symm hkey, h.lookup_iff]
  | invalidate dropped =>
    rw [Cache.after, lookup_invalidate]
    by_cases hkey : key = dropped
    · simp [Operation.Changes, hkey]
    · simp [Operation.Changes, hkey, h.lookup_iff]

end Reflects

/-- a run keeps them to it -/
theorem reflects_foldl (h : Reflects fresh past c) (ops : List (Operation α)) :
    Reflects fresh (past ++ ops) (ops.foldl Cache.after c) := by
  induction ops generalizing past c with
  | nil => rwa [List.append_nil]
  | cons op ops ih =>
    rw [List.append_cons]
    exact ih (h.after op)

/-! ## Answers -/

/-- a look-up finds what is held, unless it has expired -/
theorem Reflects.get_iff (h : Reflects fresh past c) : (c.get key).1 = some value ↔
    fresh.ttl ≠ 0 ∧ fresh.clock.now + fresh.ttl ≤ Clock.last ∧ ∃ since, LastStored past key value since := by
  rw [h.get_eq]
  by_cases hexpired : fresh.ttl = 0
  · simp [hexpired]
  · rw [if_neg hexpired, Option.map_eq_some_iff]
    calc (∃ entry, c.entries.lookup key = some entry ∧ entry.value = value)
        ↔ Held fresh past key value := by
          simp only [h.lookup_iff]
          exact ⟨fun ⟨_, ⟨_, hheld⟩, hvalue⟩ => hvalue ▸ hheld, fun hheld => ⟨⟨value, _⟩, ⟨rfl, hheld⟩, rfl⟩⟩
      _ ↔ fresh.ttl ≠ 0 ∧ fresh.clock.now + fresh.ttl ≤ Clock.last ∧ ∃ since, LastStored past key value since := by
          simp [Held, hexpired]

/-- as long as entries are stored and live, look-ups answer like a table -/
theorem Reflects.answers_eq_tableAnswers {table : String → Option α} (h : Reflects fresh past c) (hlives : fresh.ttl ≠ 0)
    (hclock : fresh.clock.now + fresh.ttl ≤ Clock.last)
    (htable : ∀ key, (c.entries.lookup key).map Entry.value = table key) (ops : List (Operation α)) :
    (ReadCache.present c).answers ops = tableAnswers table ops := by
  -- the table and the entries change in step
  induction ops generalizing past c table with
  | nil => rfl
  | cons op ops ih =>
    have hrest (table' : String → Option α)
        (htable' : ∀ key, ((c.after op).entries.lookup key).map Entry.value = table' key) :
        (ReadCache.present (c.after op)).answers ops = tableAnswers table' ops := ih (h.after op) htable'
    cases op with
    | get asked =>
      have hfound : (c.get asked).1 = table asked := by rw [h.get_eq, if_neg hlives, htable]
      refine congrArg₂ List.cons hfound (hrest table fun key => ?_)
      rw [Cache.after, h.lookup_get, if_neg fun hexpired => hlives hexpired.1, htable]
    | set stored new =>
      refine hrest (Function.update table stored (some new)) fun key => ?_
      rw [Cache.after, h.lookup_set, Function.update_apply, ← htable]
      by_cases hkey : key = stored
      · simp [hkey, hclock]
      · simp [hkey]
    | invalidate dropped =>
      refine hrest (Function.update table dropped none) fun key => ?_
      rw [Cache.after, lookup_invalidate, Function.update_apply, ← htable]
      by_cases hkey : key = dropped
      · simp [hkey]
      · simp [hkey]

/-- if entries expire at once, or none is ever stored, look-ups answer as if there were no cache -/
theorem Reflects.answers_eq_absent (h : Reflects fresh past c) (ops : List (Operation α))
    (hnone : fresh.ttl = 0 ∨ ¬ fresh.clock.now + fresh.ttl ≤ Clock.last) :
    (ReadCache.present c).answers ops = ReadCache.absent.answers ops := by
  induction ops generalizing past c with
  | nil => rfl
  | cons op ops ih =>
    have hrest := ih (h.after op)
    cases op with
    | get key =>
      have hmissed : (c.get key).1 = none := by
        refine Option.eq_none_iff_forall_ne_some.2 fun value hfound => ?_
        obtain ⟨hlives, hclock, -⟩ := h.get_iff.1 hfound
        exact hnone.elim hlives fun hbeyond => hbeyond hclock
      exact congrArg₂ List.cons hmissed hrest
    | set key value => exact hrest
    | invalidate key => exact hrest

/-! ## Sizes -/

theorem Reflects.mem_keys_iff (h : Reflects fresh past c) : key ∈ c.keys ↔ ∃ value, Held fresh past key value := by
  rw [Cache.mem_keys_iff]
  simp only [h.lookup_iff]
  exact ⟨fun ⟨entry, _, hheld⟩ => ⟨entry.value, hheld⟩, fun ⟨value, hheld⟩ => ⟨⟨value, _⟩, rfl, hheld⟩⟩

theorem length_keys (c : Cache α) : c.keys.length = c.size := by
  rw [keys, List.length_map, size]

/-- there is no entry exactly if nothing is held -/
theorem Reflects.isEmpty_iff (h : Reflects fresh past c) : c.isEmpty = true ↔ ∀ key value, ¬ Held fresh past key value := by
  rw [isEmpty, beq_iff_eq, ← length_keys, List.length_eq_zero_iff, List.eq_nil_iff_forall_not_mem]
  simp only [h.mem_keys_iff, not_exists]

/-! ## Any time to live -/

theorem new_ttl_eq_zero_iff {seconds nanos : Nat} :
    (new seconds nanos : Cache α).ttl = 0 ↔ seconds = 0 ∧ nanos = 0 := by
  change seconds * 1000000000 + nanos = 0 ↔ seconds = 0 ∧ nanos = 0
  omega

/-- **What a cache answers after any history.** Whatever the time to live, and whatever the clock shows, as long as no time
passes: a look-up finds a value exactly if the time to live is positive, its end is on the clock, and the last operation that
changed the key stored this value. With such a time to live the look-ups of a run answer like those in a table, and with any
other like those without a cache. The entries that are counted belong to different keys: the keys that a value was stored
under last, as long as its expiry is on the clock, without those that have been looked up since, if entries expire at once.
The cache is empty exactly if there are none of these. -/
theorem answers_in_history (seconds nanos : Nat) (clock : Clock) (hstill : clock.Still) (past : List (Operation α)) :
    let fresh : Cache α := { Cache.new seconds nanos with clock }
    let c := past.foldl Cache.after fresh
    (fresh.ttl = 0 ↔ seconds = 0 ∧ nanos = 0) ∧
    (∀ key value, (c.get key).1 = some value ↔
      fresh.ttl ≠ 0 ∧ clock.now + fresh.ttl ≤ Clock.last ∧ ∃ since, LastStored past key value since) ∧
    (fresh.ttl ≠ 0 → clock.now + fresh.ttl ≤ Clock.last →
      (ReadCache.present fresh).answers past = tableAnswers (fun _ => none) past) ∧
    (fresh.ttl = 0 ∨ ¬ clock.now + fresh.ttl ≤ Clock.last →
      (ReadCache.present fresh).answers past = ReadCache.absent.answers past) ∧
    (∃ keys : List String, keys.Nodup ∧ c.size = keys.length ∧
      ∀ key, key ∈ keys ↔ ∃ value, Held fresh past key value) ∧
    (c.isEmpty = true ↔ ∀ key value, ¬ Held fresh past key value) := by
  intro fresh c
  have hfresh : Reflects fresh [] fresh := reflects_nil rfl hstill
  have hc : Reflects fresh past c := reflects_foldl hfresh past
  refine ⟨new_ttl_eq_zero_iff (α := α), fun key value => hc.get_iff, ?_, hfresh.answers_eq_absent past, ?_, hc.isEmpty_iff⟩
  · intro hlives hclock
    exact hfresh.answers_eq_tableAnswers hlives hclock (fun _ => rfl) past
  · exact ⟨c.keys, hc.nodup, c.length_keys.symm, fun key => hc.mem_keys_iff⟩

/-- with a time to live of a nanosecond, which ends with the clock, a value is found as long as its key is left alone; with
none at all its entry is only counted, until it is looked up -/
theorem answers_in_history_nanosecond :
    let past : List (Operation Nat) := [.set "load" 7, .set "flow" 8, .invalidate "flow", .set "torque" 9, .get "load"]
    let clock : Clock := ⟨Clock.last - 1, []⟩
    let lives : Cache Nat := { Cache.new 0 1 with clock }
    let expires : Cache Nat := { Cache.new 0 0 with clock }
    (ReadCache.present lives).answers past = [some 7] ∧ (past.foldl after lives).size = 2 ∧
      (ReadCache.present expires).answers past = [none] ∧ (past.foldl after expires).size = 1 := by
  intro past clock lives expires
  have hstill : clock.Still := by decide
  obtain ⟨-, -, htable, -, -, -⟩ := answers_in_history 0 1 clock hstill past
  obtain ⟨-, -, -, hnone, -, -⟩ := answers_in_history 0 0 clock hstill past
  exact ⟨htable (by decide) (by decide), by decide +kernel, hnone (Or.inl rfl), by decide +kernel⟩

end Cache

end Telemetry
