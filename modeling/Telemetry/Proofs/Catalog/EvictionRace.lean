import Telemetry.Proofs.Catalog.Transparency
import Telemetry.Proofs.Program.Race
/-
A definition is looked up while it is changed.

The look-up asks the cache, fetches from the store and caches what it fetched, in three calls; the change stores or removes
the definition and drops what is cached under its code, in two calls that come last. In an `EvictionRace` the calls of both
are mixed in any way, and any of them may fail.

- `Reads`, `Writes`: what is left of the two programs, step by step;
- `Standing`: what a race has come to, by how far the change has got;
- `eviction_race`: the cache is coherent in the end unless the look-up was overtaken, fetching before the change and caching
  after the eviction;
- `overtaken_look_up`: such a look-up leaves a definition in the cache that is no longer stored.
-/
namespace Telemetry.Catalog

open Channel Program

/-- what is cached under the code is what is stored under it -/
def CoherentAt (code : String) (w : World) : Prop :=
  ∀ d, w.channelCache.Holds code d → w.definitions.get? (.code code) = some d

/-! ## The look-up -/

variable {α : Type} {code : String} {w : World}

/-- what is left of a look-up, and the definition that it is about to cache -/
inductive Reads (code : String) : Action (Option Definition) → Option Definition → Prop
  | asking : Reads code (get code .cached) none
  | fetching : Reads code (fetch code) none
  | caching (d : Definition) : Reads code (cache code d >>= fun _ => pure (some d)) (some d)
  | ended {p : Action (Option Definition)} (h : p.Ended) : Reads code p none

/-- what a call of a look-up does: it stores nothing, caches what was to be cached, and fetches what is stored -/
structure ReadStep (code : String) (w w' : World) (c : Call) (pending pending' : Option Definition) : Prop where
  definitions : w'.definitions = w.definitions
  held : ∀ d, w'.channelCache.Holds code d → w.channelCache.Holds code d ∨ pending = some d ∧ c = .channelCacheSet code d
  fetched : ∀ d, pending' = some d → c = .channelGet (.code code) ∧ w.definitions.get? (.code code) = some d

theorem Reads.step {p : Action (Option Definition)} {pending : Option Definition} (h : Reads code p pending) (w : World) :
    p.Ended ∨ ∃ c next pending', p = .step c next ∧ Reads code (next (w.answer c).1) pending' ∧
      ReadStep code w (w.answer c).2 c pending pending' := by
  cases h with
  | ended h => exact Or.inl h
  | asking =>
    have hnothing : ReadStep code w (w.answer (.channelCacheGet code)).2 (.channelCacheGet code) none none :=
      ⟨rfl, fun d hd => Or.inl (ReadCache.holds_of_get hd), by simp⟩
    refine Or.inr ⟨.channelCacheGet code, _, none, rfl, ?_, hnothing⟩
    cases (w.answer (.channelCacheGet code)).1 with
    | some d => exact .ended trivial
    | none => exact .fetching
  | fetching =>
    rcases hfault : w.faults.repository w.calls (.channelGet (.code code)) with _ | e
    · have hanswer : w.answer (.channelGet (.code code)) =
          (.ok (w.definitions.get? (.code code)), { w with calls := w.calls ++ [.channelGet (.code code)] }) := by
        simp only [World.answer, World.onRepository, hfault]
      refine Or.inr ⟨.channelGet (.code code), _, w.definitions.get? (.code code), rfl, ?_, ?_⟩
      · rw [hanswer]
        cases w.definitions.get? (.code code) with
        | none => exact .ended trivial
        | some d => exact .caching d
      · rw [hanswer]
        exact ⟨rfl, fun d hd => Or.inl hd, fun d hd => ⟨rfl, hd⟩⟩
    · have hanswer : w.answer (.channelGet (.code code)) =
          (.error e, { w with calls := w.calls ++ [.channelGet (.code code)] }) := by
        simp only [World.answer, World.onRepository, hfault]
      refine Or.inr ⟨.channelGet (.code code), _, none, rfl, ?_, ?_⟩
      · rw [hanswer]
        exact .ended trivial
      · rw [hanswer]
        exact ⟨rfl, fun d hd => Or.inl hd, by simp⟩
  | caching d =>
    refine Or.inr ⟨.channelCacheSet code d, _, none, rfl, .ended trivial, rfl, fun found hfound => ?_, by simp⟩
    rcases ReadCache.holds_set hfound with ⟨-, rfl⟩ | hheld
    · exact Or.inr ⟨rfl, rfl⟩
    · exact Or.inl hheld

/-! ## The change -/

/-- drops what is cached under the code, and ends -/
def EvictsNext (code : String) (p : Action α) : Prop :=
  ∃ next : Unit → Action α, p = .step (.channelCacheDrop code) next ∧ ∀ a, (next a).Ended

/-- inspects, may then change the stored definitions once, and drops what is cached under the code if it does -/
def Writes (code : String) : Action α → Prop
  | .step (.channelUpsert d) next => (∀ e, (next (.error e)).Ended) ∧ EvictsNext code (next (.ok d))
  | .step (.channelDelete _) next => (∀ e, (next (.error e)).Ended) ∧ ∀ count, EvictsNext code (next (.ok count))
  | .step c next => c.Inspects ∧ ∀ a, Writes code (next a)
  | _ => True

theorem writes_of_ended {p : Action α} (h : p.Ended) : Writes code p := by
  cases p with
  | done a => trivial
  | fail e => trivial
  | step c next => exact h.elim

theorem writes_bind {β : Type} {p : Action α} {f : α → Action β} (hp : p.Only Call.Inspects)
    (hf : ∀ a, Writes code (f a)) : Writes code (p >>= f) := by
  induction p with
  | done a => exact hf a
  | fail e => trivial
  | step c next ih =>
    cases c with
    | channelUpsert | channelDelete => exact hp.1.elim
    | _ => exact ⟨hp.1, fun a => ih a (hp.2 a)⟩

/-- what a call of a change does: it inspects, or changes the stored definitions, which are then evicted -/
theorem Writes.step {p : Action α} (h : Writes code p) (w : World) :
    p.Ended ∨ ∃ c next, p = .step c next ∧
      (Writes code (next (w.answer c).1) ∧ (w.answer c).2.definitions = w.definitions ∧
          (w.answer c).2.channelCache = w.channelCache ∨
        c.changes = some .definitions ∧ EvictsNext code (next (w.answer c).1)) := by
  cases p with
  | done _ | fail _ => exact Or.inl trivial
  | step c next =>
    refine Or.inr ⟨c, next, rfl, ?_⟩
    cases c with
    | channelUpsert d =>
      obtain ⟨hfailed, hstored⟩ := h
      simp only [World.answer, World.onRepository, World.upsertChannel]
      rcases w.faults.repository w.calls (.channelUpsert d) with _ | e
      · rcases w.definitions.upsert d with e | definitions
        · exact Or.inl ⟨writes_of_ended (hfailed e), rfl, rfl⟩
        · exact Or.inr ⟨rfl, hstored⟩
      · exact Or.inl ⟨writes_of_ended (hfailed e), rfl, rfl⟩
    | channelDelete filter =>
      obtain ⟨hfailed, hremoved⟩ := h
      simp only [World.answer, World.onRepository, World.deleteChannels]
      rcases w.faults.repository w.calls (.channelDelete filter) with _ | e
      · exact Or.inr ⟨rfl, hremoved _⟩
      · exact Or.inl ⟨writes_of_ended (hfailed e), rfl, rfl⟩
    | _ => exact Or.inl ⟨h.2 _, World.inspects_answer w h.1⟩

/-- an operation that changes the definition under a code, and no other -/
def Operation.Rewrites (code : String) : Operation → Prop
  | .create d | .update d => d.code = code
  | .delete removed => removed = code
  | _ => False

theorem store_writes (d : Definition) :
    Writes d.code (Channel.upsert d >>= fun stored => evict stored.code >>= fun _ => (pure stored : Action _)) :=
  ⟨fun _ => trivial, _, rfl, fun _ => trivial⟩

theorem Operation.writes {op : Operation} (hop : op.Rewrites code) : Writes code op.action := by
  cases op with
  | create d =>
    cases hop
    rw [Operation.action, create_eq]
    refine writes_bind (examine_inspects d) fun _ => ?_
    exact writes_bind (only_step trivial fun _ => trivial) fun id => store_writes { d with id := some id }
  | update d =>
    cases hop
    rw [Operation.action, update_eq]
    exact writes_bind (examineStored_inspects d) fun existing => store_writes { d with id := existing.id }
  | delete removed =>
    cases hop
    refine ⟨fun _ => trivial, fun count => ⟨_, rfl, fun _ => ?_⟩⟩
    change Program.Ended (if count = 0 then _ else _)
    split <;> trivial
  | _ => exact hop.elim

/-! ## The race -/

/-- a look-up on the left, a change on the right -/
abbrev EvictionRace (α : Type) := Race World ServiceError (Option Definition) α

/-- the race before any call -/
def EvictionRace.start (code : String) (op : Operation) (w : World) : EvictionRace op.Answer :=
  { left := get code .cached, right := op.action, state := w }

/-- a fetch, a change, the eviction that belongs to it, and the caching of what was fetched -/
def overtaking (code : String) (change : Call) (d : Definition) : List (Side × Call) :=
  [(.left, .channelGet (.code code)), (.right, change), (.right, .channelCacheDrop code), (.left, .channelCacheSet code d)]

/-- the look-up fetches before a change of the stored definitions, and caches what it fetched after the code is evicted -/
def Overtaken (code : String) (calls : List (Side × Call)) : Prop :=
  ∃ change d, change.changes = some .definitions ∧ (overtaking code change d).Sublist calls

def cachedDefinition? : Call → Option Definition
  | .channelCacheSet _ d => some d
  | _ => none

instance (code : String) (calls : List (Side × Call)) : Decidable (Overtaken code calls) :=
  decidable_of_iff
    (∃ change ∈ calls.map Prod.snd, ∃ d ∈ (calls.map Prod.snd).filterMap cachedDefinition?,
      change.changes = some .definitions ∧ (overtaking code change d).Sublist calls) <| by
    constructor
    · rintro ⟨change, -, d, -, h⟩
      exact ⟨change, d, h⟩
    · rintro ⟨change, d, hchange, hcalls⟩
      have hchanged : (Side.right, change) ∈ calls := hcalls.subset (by simp [overtaking])
      have hcached : (Side.left, Call.channelCacheSet code d) ∈ calls := hcalls.subset (by simp [overtaking])
      exact ⟨change, List.mem_map_of_mem hchanged, d, List.mem_filterMap.2 ⟨_, List.mem_map_of_mem hcached, rfl⟩, hchange,
        hcalls⟩

/-- what a race has come to, while the look-up is about to cache a definition or not -/
inductive Standing (code : String) (r : EvictionRace α) (pending : Option Definition) : Prop
  /-- nothing is changed so far -/
  | unchanged (hright : Writes code r.right) (hcoherent : CoherentAt code r.state)
      (hpending : ∀ d, pending = some d → r.state.definitions.get? (.code code) = some d ∧
        [(.left, .channelGet (.code code))].Sublist r.calls)
  /-- the stored definitions are changed, and the code is to be evicted -/
  | changed (hright : EvictsNext code r.right)
      (hpending : ∀ d, pending = some d → r.state.definitions.get? (.code code) = some d ∨
        ∃ change, change.changes = some .definitions ∧
          [(.left, .channelGet (.code code)), (.right, change)].Sublist r.calls)
  /-- the code is evicted -/
  | evicted (hright : r.right.Ended) (hcoherent : CoherentAt code r.state ∨ Overtaken code r.calls)
      (hpending : ∀ d, pending = some d → r.state.definitions.get? (.code code) = some d ∨
        ∃ change, change.changes = some .definitions ∧
          [(.left, .channelGet (.code code)), (.right, change), (.right, .channelCacheDrop code)].Sublist r.calls)

/-- what a race preserves -/
def Stands (code : String) (r : EvictionRace α) : Prop :=
  ∃ pending, Reads code r.left pending ∧ Standing code r pending

variable {r : EvictionRace α} {pending pending' : Option Definition}

theorem Overtaken.append {calls : List (Side × Call)} (h : Overtaken code calls) (later : List (Side × Call)) :
    Overtaken code (calls ++ later) := by
  obtain ⟨change, d, hchange, hcalls⟩ := h
  exact ⟨change, d, hchange, hcalls.trans (List.sublist_append_left _ _)⟩

/-- a call of the look-up leaves what is cached as it was, or caches what is about to be cached -/
theorem ReadStep.coherentAt {w' : World} {c : Call} (h : ReadStep code w w' c pending pending') (hw : CoherentAt code w) :
    CoherentAt code w' ∨ ∃ d, pending = some d ∧ c = .channelCacheSet code d ∧ w.definitions.get? (.code code) ≠ some d := by
  by_cases hafter : CoherentAt code w'
  · exact Or.inl hafter
  · obtain ⟨d, hd⟩ := not_forall.1 hafter
    obtain ⟨hheld, hstored⟩ := Classical.not_imp.1 hd
    rw [h.definitions] at hstored
    rcases h.held d hheld with hbefore | ⟨hpending, hc⟩
    · exact absurd (hw d hbefore) hstored
    · exact Or.inr ⟨d, hpending, hc, hstored⟩

theorem Standing.step_left {c : Call} {next : c.Answer → Action (Option Definition)} (h : Standing code r pending)
    (hleft : r.left = .step c next) (hread : ReadStep code r.state (r.state.answer c).2 c pending pending') :
    Standing code (r.step World.answer .left) pending' := by
  have hcalls : (r.step World.answer .left).calls = _ := Race.calls_step_left hleft
  have hstep : r.step World.answer .left = _ := Race.step_left hleft
  have hstate : (r.step World.answer .left).state = (r.state.answer c).2 := by rw [hstep]
  have hright : (r.step World.answer .left).right = r.right := by rw [hstep]
  -- what the call fetches is stored
  have hfetched : ∀ d, pending' = some d → (r.step World.answer .left).state.definitions.get? (.code code) = some d := by
    intro d hd
    rw [hstate, hread.definitions]
    exact (hread.fetched d hd).2
  cases h with
  | unchanged hwrites hcoherent hpending =>
    refine .unchanged (hright ▸ hwrites) ?_ fun d hd => ⟨hfetched d hd, ?_⟩
    · rw [hstate]
      rcases hread.coherentAt hcoherent with hafter | ⟨d, hd, -, hstale⟩
      · exact hafter
      · exact absurd (hpending d hd).1 hstale
    · rw [hcalls, (hread.fetched d hd).1]
      exact List.sublist_append_right _ _
  | changed hevicts _ => exact .changed (hright ▸ hevicts) fun d hd => Or.inl (hfetched d hd)
  | evicted hended hcoherent hpending =>
    refine .evicted (hright ▸ hended) ?_ fun d hd => Or.inl (hfetched d hd)
    rw [hstate, hcalls]
    rcases hcoherent with hcoherent | hovertaken
    · rcases hread.coherentAt hcoherent with hafter | ⟨d, hd, rfl, hstale⟩
      · exact Or.inl hafter
      · obtain ⟨change, hchange, hsublist⟩ := (hpending d hd).resolve_left hstale
        exact Or.inr ⟨change, d, hchange, hsublist.append (List.Sublist.refl [_])⟩
    · exact Or.inr (hovertaken.append _)

theorem Standing.step_right (h : Standing code r pending) : Standing code (r.step World.answer .right) pending := by
  cases h with
  | unchanged hwrites hcoherent hpending =>
    rcases hwrites.step r.state with hended | ⟨c, next, hright, hafter⟩
    · rw [Race.step_right_of_ended hended]
      exact .unchanged hwrites hcoherent hpending
    · have hcalls : (r.step World.answer .right).calls = _ := Race.calls_step_right hright
      have hstep : r.step World.answer .right = _ := Race.step_right hright
      rcases hafter with ⟨hwrites', hdefinitions, hcache⟩ | ⟨hchange, hevicts⟩
      · refine .unchanged (by rw [hstep]; exact hwrites') ?_ fun d hd => ?_
        · intro d hd
          rw [hstep] at hd ⊢
          rw [hdefinitions]
          exact hcoherent d (hcache ▸ hd)
        · obtain ⟨hstored, hsublist⟩ := hpending d hd
          rw [hcalls, hstep, hdefinitions]
          exact ⟨hstored, hsublist.trans (List.sublist_append_left _ _)⟩
      · refine .changed (by rw [hstep]; exact hevicts) fun d hd => Or.inr ⟨c, hchange, ?_⟩
        rw [hcalls]
        exact (hpending d hd).2.append (List.Sublist.refl [_])
  | changed hevicts hpending =>
    obtain ⟨next, hright, hended⟩ := hevicts
    have hcalls : (r.step World.answer .right).calls = _ := Race.calls_step_right hright
    have hstep : r.step World.answer .right = _ := Race.step_right hright
    refine .evicted (by rw [hstep]; exact hended _) (Or.inl fun d hd => ?_) fun d hd => ?_
    · rw [hstep] at hd
      exact absurd rfl (ReadCache.holds_invalidate hd).1
    · rw [hcalls, hstep]
      refine (hpending d hd).imp id fun ⟨change, hchange, hsublist⟩ => ⟨change, hchange, ?_⟩
      exact hsublist.append (List.Sublist.refl [_])
  | evicted hended hcoherent hpending =>
    rw [Race.step_right_of_ended hended]
    exact .evicted hended hcoherent hpending

theorem Stands.step (h : Stands code r) (side : Side) : Stands code (r.step World.answer side) := by
  obtain ⟨pending, hreads, hstanding⟩ := h
  cases side with
  | left =>
    rcases hreads.step r.state with hended | ⟨c, next, pending', hleft, hreads', hread⟩
    · rw [Race.step_left_of_ended hended]
      exact ⟨pending, hreads, hstanding⟩
    · exact ⟨pending', by rw [Race.step_left hleft]; exact hreads', hstanding.step_left hleft hread⟩
  | right => exact ⟨pending, by rw [Race.step_right_left]; exact hreads, hstanding.step_right⟩

/-- **Eviction while a definition is looked up.** Take a world with a coherent cache, a look-up of a code through the cache
and an operation that changes the definition under this code, their calls in any order until both have ended, and any
failures on the way. Unless the look-up was overtaken, fetching before the change and caching what it fetched after the
code was evicted, all that is cached under the code is what is stored under it; so a further look-up through the cache
answers with what is stored, if the store does not fail it. -/
theorem eviction_race (w : World) (code : String) (op : Operation) (schedule : List Side) (hw : Coherent w)
    (hop : op.Rewrites code) (hover : ((EvictionRace.start code op w).run World.answer schedule).Over)
    (hcalls : ¬ Overtaken code ((EvictionRace.start code op w).run World.answer schedule).calls) :
    let s := ((EvictionRace.start code op w).run World.answer schedule).state
    CoherentAt code s ∧
      (s.faults.repository s.calls (.channelGet (.code code)) = none →
        ((get code .cached).run s).1 = .ok (s.definitions.get? (.code code))) := by
  intro s
  have hstart : Stands code (EvictionRace.start code op w) :=
    ⟨none, .asking, .unchanged (op.writes hop) (fun d hd => hw code d hd) (by simp)⟩
  obtain ⟨pending, -, hstanding⟩ :=
    Race.run_invariant (I := Stands code) (fun r side hr => hr.step side) schedule hstart
  have hcoherent : CoherentAt code s := by
    cases hstanding with
    | unchanged _ hcoherent _ => exact hcoherent
    | changed hright _ =>
      obtain ⟨next, hnext, -⟩ := hright
      have hended := hover.2
      rw [hnext] at hended
      exact hended.elim
    | evicted _ hcoherent _ => exact hcoherent.resolve_right hcalls
  refine ⟨hcoherent, fun hfault => ?_⟩
  have hlooked := lookedUp s code
  generalize (get code .cached).run s = x at hlooked ⊢
  cases hlooked with
  | hit d hheld => rw [hcoherent d hheld]
  | failed e hfailed => rw [hfault] at hfailed; cases hfailed
  | missing hnone => rw [hnone]
  | found d hfound => rw [hfound]

def storedLoad (unit : String) : Definition := { id := some (.ofNat 1), code := "load", dimension := "power", unit }

/-- the plant with the load stored in kilowatts, and an empty cache -/
def loadPlant : World :=
  { plant with definitions := [storedLoad "kW"], channelCache := .present (.withHours 24) }

/-- the load is looked up while its unit changes to watts -/
def loadRace (schedule : List Side) : EvictionRace Definition :=
  (EvictionRace.start "load" (.update (storedLoad "W")) loadPlant).run World.answer schedule

/-- a look-up that fetches after the change may cache after the eviction -/
theorem eviction_race_load :
    let r := loadRace [.left, .right, .right, .left, .right, .left]
    Coherent loadPlant ∧ r.Over ∧ ¬ Overtaken "load" r.calls ∧ r.state.channelCache.Holds "load" (storedLoad "W") ∧
      ((get "load" .cached).run r.state).1 = .ok (some (storedLoad "W")) := by
  intro r
  have hcoherent : Coherent loadPlant := coherent_of_empty rfl
  have hover : r.Over := by decide +kernel
  have hcalls : ¬ Overtaken "load" r.calls := by decide +kernel
  obtain ⟨-, hanswer⟩ := eviction_race loadPlant "load" (.update (storedLoad "W"))
    [.left, .right, .right, .left, .right, .left] hcoherent rfl hover hcalls
  have hstored : r.state.definitions.get? (.code "load") = some (storedLoad "W") := by decide +kernel
  exact ⟨hcoherent, hover, hcalls, by decide +kernel, (hanswer rfl).trans (congrArg _ hstored)⟩

/-- a look-up that fetches before the change and caches after the eviction: the old unit is found from then on -/
theorem overtaken_look_up :
    let r := loadRace [.left, .left, .right, .right, .right, .left]
    Coherent loadPlant ∧ r.Over ∧ r.state.definitions.get? (.code "load") = some (storedLoad "W") ∧
      ((get "load" .cached).run r.state).1 = .ok (some (storedLoad "kW")) :=
  ⟨coherent_of_empty rfl, by decide +kernel, by decide +kernel, by decide +kernel⟩

end Telemetry.Catalog
