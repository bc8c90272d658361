import Telemetry.Proofs.Catalog.Operations
/-
The cache of the catalog cannot be told from no cache.

A world is coherent if each cached definition is the one that is stored under its code. Operations that change definitions
drop what is cached under the codes they touch, and look-ups cache what they find, so a run keeps a world coherent. Beside it
runs a world without a cache: both answer alike, since a look-up through a coherent cache finds what is stored.

- `Operation.coherent_step`: every operation keeps a world coherent, whether it succeeds or fails;
- `Operation.answers_alike`: and answers as it does without a cache;
- `cache_transparent`: so both hold at every point of a run.
-/
namespace Telemetry

open Program

/-- a call that is made alike with a cache and without one -/
def Call.isNoLookUp : Call → Bool
  | .channelGet _ => false
  | _ => true

theorem World.absent_run {ε α : Type} (p : Program ε α) {w : World} (hw : w.channelCache = .absent) :
    (p.run w).2.channelCache = .absent := by
  induction p generalizing w with
  | done a => exact hw
  | fail e => exact hw
  | step c next ih =>
    refine ih _ ?_
    cases c <;> simp only [World.answer, World.onRepository, World.onHierarchy, World.onHistorian, World.upsertChannel,
      World.deleteChannels, World.provision, hw, ReadCache.get, ReadCache.set, ReadCache.invalidate] <;> repeat' split
    all_goals rfl

namespace Catalog

open Channel

/-- each cached definition is the one that is stored under its code -/
def Coherent (w : World) : Prop :=
  ∀ code d, w.channelCache.Holds code d → w.definitions.get? (.code code) = some d

variable {α β : Type} {w w' : World}

/-! ## Looking up -/

/-- all that a look-up through the cache may come to -/
inductive LookedUp (w : World) (code : String) : Except ServiceError (Option Definition) × World → Prop
  | hit (d : Definition) (hheld : w.channelCache.Holds code d) :
      LookedUp w code (.ok (some d), { w with channelCache := (w.channelCache.get code).2 })
  | failed (e : RepositoryError) (hfault : w.faults.repository w.calls (.channelGet (.code code)) = some e) :
      LookedUp w code (.error (.repository e),
        { w with channelCache := (w.channelCache.get code).2, calls := w.calls ++ [.channelGet (.code code)] })
  | missing (hnone : w.definitions.get? (.code code) = none) :
      LookedUp w code (.ok none,
        { w with channelCache := (w.channelCache.get code).2, calls := w.calls ++ [.channelGet (.code code)] })
  | found (d : Definition) (hfound : w.definitions.get? (.code code) = some d) (hmiss : (w.channelCache.get code).1 = none)
      (hreads : w.faults.repository w.calls (.channelGet (.code code)) = none) : LookedUp w code (.ok (some d),
        { w with
          channelCache := (w.channelCache.get code).2.set code d, calls := w.calls ++ [.channelGet (.code code)] })

/-- what a look-up does that the cache does not answer -/
def fetch (code : String) : Action (Option Definition) := do
  match ← Channel.find (.code code) with
  | some d =>
    cache code d
    return some d
  | none => return none

theorem get_of_hit {code : String} {d : Definition} (h : (w.channelCache.get code).1 = some d) :
    (get code .cached).run w = (.ok (some d), { w with channelCache := (w.channelCache.get code).2 }) := by
  have hcached : (cached code).run w = (.ok (some d), { w with channelCache := (w.channelCache.get code).2 }) := by
    rw [← h]
    rfl
  exact World.run_bind_of_ok hcached

theorem get_of_miss {code : String} (h : (w.channelCache.get code).1 = none) :
    (get code .cached).run w = (fetch code).run { w with channelCache := (w.channelCache.get code).2 } := by
  have hcached : (cached code).run w = (.ok none, { w with channelCache := (w.channelCache.get code).2 }) := by
    rw [← h]
    rfl
  exact World.run_bind_of_ok hcached

theorem lookedUp (w : World) (code : String) : LookedUp w code ((get code .cached).run w) := by
  let w1 : World := { w with channelCache := (w.channelCache.get code).2 }
  rcases hhit : (w.channelCache.get code).1 with _ | d
  · rw [get_of_miss hhit]
    change LookedUp w code ((fetch code).run w1)
    rw [fetch]
    rcases hfault : w1.faults.repository w1.calls (.channelGet (.code code)) with _ | e
    · rw [World.run_bind_of_ok (find_of_no_fault hfault)]
      rcases hfound : w1.definitions.get? (.code code) with _ | d
      · exact .missing hfound
      · exact .found d hfound hhit hfault
    · rw [World.run_bind_of_error (find_of_fault hfault)]
      exact .failed e hfault
  · rw [get_of_hit hhit]
    exact .hit d (ReadCache.get_found hhit)

/-- programs made of look-ups through the cache and of inspections -/
inductive LooksUp : {α : Type} → Action α → Prop
  | inspection {α : Type} {p : Action α} (hp : p.Only Call.Inspects) : LooksUp p
  | lookUp (code : String) : LooksUp (get code .cached)
  | bind {α β : Type} {p : Action α} {f : α → Action β} (hp : LooksUp p) (hf : ∀ a, LooksUp (f a)) : LooksUp (p >>= f)

theorem get_looksUp (code : String) (mode : Mode) : LooksUp (get code mode) := by
  cases mode with
  | cached => exact .lookUp code
  | bypass => exact .inspection (find_inspects _)

theorem require_looksUp (code : String) (mode : Mode) : LooksUp (require code mode) :=
  .bind (get_looksUp code mode) fun _ => .inspection (only_orFail _ _)

theorem requireAll_looksUp (mode : Mode) (codes : List String) : LooksUp (requireAll mode codes) := by
  induction codes with
  | nil => exact .inspection (only_pure _)
  | cons code codes ih =>
    exact .bind (require_looksUp code mode) fun _ => .bind ih fun _ => .inspection (only_pure _)

theorem describeKnown_looksUp (names : List String) : LooksUp (describeKnown names) := by
  induction names with
  | nil => exact .inspection (only_pure _)
  | cons name names ih =>
    refine .bind (get_looksUp _ .cached) fun found => ?_
    cases found with
    | some d => exact .inspection (only_pure _)
    | none => exact ih

theorem describe_looksUp (column : String) : LooksUp (describe column) := by
  refine .bind (describeKnown_looksUp _) fun found => ?_
  cases found <;> exact .inspection (only_pure _)

theorem Operation.looksUp {op : Operation} (hop : ¬ op.Mutates) : LooksUp op.action := by
  cases op with
  | create | update | delete | reassign => exact absurd trivial hop
  | get code mode => exact get_looksUp code mode
  | require code mode => exact require_looksUp code mode
  | requireAll mode codes => exact requireAll_looksUp mode codes
  | fieldName code => exact .bind (require_looksUp code .cached) fun _ => .inspection (only_ofExcept _)
  | describe column => exact describe_looksUp column
  | list => exact .inspection (select_inspects _)
  | forEquipment equipmentCode => exact .inspection (select_inspects _)
  | checkEquipmentCodes codes => exact .inspection (checkEquipmentCodes_inspects codes)

/-! ## Coherence -/

theorem Changed.coherent {cs : List Change} (h : Changed w cs w') (hs : w.definitions.Distinct) (hw : Coherent w) :
    Coherent w' := by
  intro code d hd
  obtain ⟨hheld, hcodes⟩ := h.cache code d hd
  rw [h.definitions.get?_code hs hcodes]
  exact hw code d hheld

/-- what is cached after a look-up was cached before, or is what is stored -/
theorem LookedUp.holds {code key : String} {d : Definition} {x : Except ServiceError (Option Definition) × World}
    (h : LookedUp w code x) (hd : x.2.channelCache.Holds key d) :
    w.channelCache.Holds key d ∨ w.definitions.get? (.code key) = some d := by
  cases h with
  | hit | failed | missing => exact Or.inl (ReadCache.holds_of_get hd)
  | found stored hfound =>
    rcases ReadCache.holds_set hd with ⟨rfl, rfl⟩ | hheld
    · exact Or.inr hfound
    · exact Or.inl (ReadCache.holds_of_get hheld)

/-- a look-up changes no definition -/
theorem LookedUp.definitions {code : String} {x : Except ServiceError (Option Definition) × World} (h : LookedUp w code x) :
    x.2.definitions = w.definitions := by
  cases h <;> rfl

theorem LookedUp.coherent {code : String} {x : Except ServiceError (Option Definition) × World} (h : LookedUp w code x)
    (hw : Coherent w) : Coherent x.2 := by
  intro key d hd
  rw [h.definitions]
  exact (h.holds hd).elim (hw key d) id

theorem LooksUp.coherent {p : Action α} (hp : LooksUp p) (hw : Coherent w) : Coherent (p.run w).2 := by
  induction hp generalizing w with
  | inspection hp =>
    intro code d hd
    have hsame := changed_of_inspects hp w
    rw [hsame.definitions_eq]
    exact hw code d (hsame.cache code d hd).1
  | lookUp code => exact (lookedUp w code).coherent hw
  | @bind _ _ p f _ _ ihp ihf =>
    have hmid := ihp hw
    rcases hrun : p.run w with ⟨e | a, w1⟩ <;> rw [hrun] at hmid
    · rw [World.run_bind_of_error hrun]
      exact hmid
    · rw [World.run_bind_of_ok hrun]
      exact ihf a hmid

/-- every operation keeps a world coherent, whether it succeeds or fails -/
theorem Operation.coherent_step (op : Operation) (hs : w.definitions.Distinct) (hw : Coherent w)
    (hfresh : ∀ m ∈ op.action.moments World.answer w, World.DrawsNewId m) :
    (op.action.run w).2.definitions.Distinct ∧ Coherent (op.action.run w).2 := by
  by_cases hop : op.Mutates
  · obtain ⟨⟨cs, hchanged, -⟩, -⟩ := op.outcome hop hs hfresh
    exact ⟨hchanged.definitions.distinct hs, hchanged.coherent hs hw⟩
  · refine ⟨?_, (op.looksUp hop).coherent hw⟩
    rw [op.definitions_of_quiet hop]
    exact hs

theorem runAll_coherent (ops : List Operation) (hs : w.definitions.Distinct) (hw : Coherent w)
    (hfresh : DrawsNewIds ops w) : Coherent (runAll ops w) := by
  induction ops generalizing w with
  | nil => exact hw
  | cons op ops ih =>
    obtain ⟨hop, hops⟩ := hfresh.cons
    obtain ⟨hs', hw'⟩ := op.coherent_step hs hw hop
    rw [runAll_cons]
    exact ih hs' hw' hops

/-! ## Beside a world without a cache -/

theorem coherent_of_absent (h : w.channelCache = .absent) : Coherent w := by
  intro code d hd
  rw [h] at hd
  exact (ReadCache.not_holds_absent code d hd).elim

theorem coherent_of_empty {ttl : Nat} {clock : Clock} (h : w.channelCache = .present { ttl, clock }) : Coherent w := by
  intro code d hd
  rw [h] at hd
  exact (ReadCache.not_holds_empty ttl clock code d hd).elim

/-- a look-up through a coherent cache answers with what is stored -/
theorem LookedUp.answers {code : String} {x : Except ServiceError (Option Definition) × World} (h : LookedUp w code x)
    (hw : Coherent w) (hstores : w.faults.StoresNeverFail) :
    x.1 = .ok (w.definitions.get? (.code code)) ∧ World.Alike Call.isNoLookUp w x.2 := by
  cases h with
  | hit d hheld =>
    rw [hw code d hheld]
    exact ⟨rfl, _, _, _, rfl, rfl⟩
  | failed e hfault =>
    rw [hstores] at hfault
    cases hfault
  | missing hnone =>
    rw [hnone]
    exact ⟨rfl, _, _, _, rfl, by simp [Call.isNoLookUp]⟩
  | found d hfound =>
    rw [hfound]
    exact ⟨rfl, _, _, _, rfl, by simp [Call.isNoLookUp]⟩

/-- a coherent world and one without a cache, alike otherwise, where no store fails -/
structure Mirrors (w bare : World) : Prop where
  alike : World.Alike Call.isNoLookUp w bare
  coherent : Coherent w
  absent : bare.channelCache = .absent
  stores : w.faults.StoresNeverFail
  faults : w.faults.DependOn Call.isNoLookUp

theorem Mirrors.run {bare : World} (h : Mirrors w bare) {p : Action α}
    (hp : World.AnswersAlike Call.isNoLookUp (p.run w) (p.run bare)) (hw : Coherent (p.run w).2) :
    Mirrors (p.run w).2 (p.run bare).2 := by
  refine ⟨hp.2, hw, World.absent_run p h.absent, ?_, ?_⟩
  · rw [(World.run_fixed p w).2]
    exact h.stores
  · rw [(World.run_fixed p w).2]
    exact h.faults

theorem LooksUp.answers_alike {p : Action α} (hp : LooksUp p) {bare : World} (h : Mirrors w bare) :
    World.AnswersAlike Call.isNoLookUp (p.run w) (p.run bare) := by
  induction hp generalizing w bare with
  | inspection hp => exact h.alike.run (only_mono (fun _ => Call.Inspects.uncached) hp) h.faults
  | lookUp code =>
    obtain ⟨hanswer, halike⟩ := (lookedUp w code).answers h.coherent h.stores
    obtain ⟨hanswer', halike'⟩ := (lookedUp bare code).answers (coherent_of_absent h.absent) (by
      rw [h.alike.faults]
      exact h.stores)
    refine ⟨?_, (halike.symm.trans h.alike).trans halike'⟩
    rw [hanswer, hanswer', h.alike.definitions]
  | @bind _ _ p f hp _ ihp ihf =>
    -- after the first part the one world is still coherent and the other without a cache
    have hmid := ihp h
    have hnext := h.run hmid (hp.coherent h.coherent)
    obtain ⟨hanswer, halike⟩ := hmid
    rcases hrun : p.run w with ⟨e | a, w1⟩ <;> rcases hrun' : p.run bare with ⟨e' | a', bare1⟩ <;>
      rw [hrun, hrun'] at hanswer hnext <;> cases hanswer
    · rw [World.run_bind_of_error hrun, World.run_bind_of_error hrun']
      exact ⟨rfl, hnext.alike⟩
    · rw [World.run_bind_of_ok hrun, World.run_bind_of_ok hrun']
      exact ihf a hnext

theorem storeEach_uncached (edit : Definition → Definition) (ds : List Definition) :
    (storeEach edit ds).Only Call.Uncached := by
  induction ds with
  | nil => exact only_pure _
  | cons d ds ih =>
    refine only_bind (only_step trivial only_repositoryAnswer) fun _ => ?_
    exact only_bind (only_step trivial fun _ => trivial) fun _ => only_bind ih fun _ => only_pure _

theorem store_uncached (d : Definition) :
    (Channel.upsert d >>= fun stored => evict stored.code >>= fun _ => (pure stored : Action _)).Only Call.Uncached :=
  only_bind (only_step trivial only_repositoryAnswer) fun _ =>
    only_bind (only_step trivial fun _ => trivial) fun _ => only_pure _

/-- operations that change definitions do not ask the cache -/
theorem Operation.uncached {op : Operation} (hop : op.Mutates) : op.action.Only Call.Uncached := by
  have huncached {γ : Type} {p : Action γ} (hp : p.Only Call.Inspects) : p.Only Call.Uncached :=
    only_mono (fun _ => Call.Inspects.uncached) hp
  cases op with
  | create d =>
    rw [Operation.action, create_eq]
    refine only_bind (huncached (examine_inspects d)) fun _ => ?_
    exact only_bind (only_step trivial fun _ => trivial) fun _ => store_uncached _
  | update d =>
    rw [Operation.action, update_eq]
    exact only_bind (huncached (examineStored_inspects d)) fun _ => store_uncached _
  | delete code =>
    refine only_bind (only_step trivial only_repositoryAnswer) fun count => ?_
    refine only_bind (only_step trivial fun _ => trivial) fun _ => ?_
    split
    · trivial
    · exact only_pure _
  | reassign equipmentCode desired =>
    rw [Operation.action, reassign_eq]
    refine only_bind (huncached (survey_inspects _ _)) fun found => ?_
    exact only_bind (storeEach_uncached _ _) fun _ => only_bind (storeEach_uncached _ _) fun _ => only_pure _
  | _ => exact hop.elim

/-- every operation answers with a coherent cache as it does without a cache -/
theorem Operation.answers_alike (op : Operation) {bare : World} (h : Mirrors w bare) :
    World.AnswersAlike Call.isNoLookUp (op.action.run w) (op.action.run bare) := by
  by_cases hop : op.Mutates
  · exact h.alike.run (op.uncached hop) h.faults
  · exact (op.looksUp hop).answers_alike h

theorem runAll_mirrors (ops : List Operation) {bare : World} (h : Mirrors w bare) (hs : w.definitions.Distinct)
    (hfresh : DrawsNewIds ops w) : Mirrors (runAll ops w) (runAll ops bare) := by
  induction ops generalizing w bare with
  | nil => exact h
  | cons op ops ih =>
    obtain ⟨hop, hops⟩ := hfresh.cons
    obtain ⟨hs', hw'⟩ := op.coherent_step hs h.coherent hop
    rw [runAll_cons, runAll_cons]
    exact ih (h.run (op.answers_alike h) hw') hs' hops

/-- **The cache of the catalog is transparent.** Take any run of operations from a store without repeated ids and codes and
from an empty cache of any time to live, where every id drawn is new. However much time passes on the way and whatever fails,
each definition in the cache at the end is the one stored under its code. If the stores do not fail, and the hierarchy fails
depending on other calls than the look-ups that the cache saves, then every code is answered the same from the cache as past
it, and the run leaves the definitions that it leaves without a cache, where every operation answers the same. -/
theorem cache_transparent (ops : List Operation) (w : World) (ttl : Nat) (clock : Clock)
    (hcache : w.channelCache = .present { ttl, clock }) (hs : w.definitions.Distinct) (hfresh : DrawsNewIds ops w) :
    let s := runAll ops w
    let bare := runAll ops { w with channelCache := .absent }
    (∀ code d, s.channelCache.Holds code d → s.definitions.get? (.code code) = some d) ∧
    (w.faults.StoresNeverFail → ∀ code, ((get code .cached).run s).1 = ((get code .bypass).run s).1) ∧
    (w.faults.StoresNeverFail → w.faults.DependOn Call.isNoLookUp →
      s.definitions = bare.definitions ∧ ∀ op : Operation, (op.action.run s).1 = (op.action.run bare).1) := by
  intro s bare
  have hw : Coherent w := coherent_of_empty hcache
  have hcoherent : Coherent s := runAll_coherent ops hs hw hfresh
  refine ⟨hcoherent, fun hstores code => ?_, fun hstores hfaults => ?_⟩
  · have hs : s.faults.StoresNeverFail := by
      rw [(runAll_fixed ops w).2]
      exact hstores
    rw [((lookedUp s code).answers hcoherent hs).1, get, find_of_no_fault (hs _ _)]
  · have hmirrors : Mirrors s bare := by
      refine runAll_mirrors ops ⟨?_, hw, rfl, hstores, hfaults⟩ hs hfresh
      exact World.Alike.withCaches w .absent w.mappingCache
    exact ⟨hmirrors.alike.definitions.symm, fun op => (op.answers_alike hmirrors).1⟩

/-- the plant with an empty cache, on whose clock a day passes before the eighth look -/
def agingPlant : World :=
  { emptyPlant with
    channelCache := .present { Cache.withHours 24 with clock := { passes := [0, 0, 0, 0, 0, 0, 0, 86400000000000] } } }

/-- the load's unit has changed and has been cached; a day later the entry has expired in the midst of the run, and the next
look-up finds and caches what is stored, as it does without a cache -/
theorem cache_transparent_load :
    let aged := runAll loadRun agingPlant
    let s := runAll (loadRun ++ [.fieldName "load"]) agingPlant
    DrawsNewIds (loadRun ++ [.fieldName "load"]) agingPlant ∧
      aged.channelCache.size? = some 1 ∧ (aged.channelCache.get "load").1 = none ∧ (s.channelCache.get "load").1.isSome ∧
      (∀ code d, s.channelCache.Holds code d → s.definitions.get? (.code code) = some d) ∧
      ((get "load" .cached).run s).1 = ((get "load" .bypass).run s).1 ∧ ((fieldName "load").run s).1 = .ok "load.W" := by
  intro aged s
  have hfresh : DrawsNewIds (loadRun ++ [.fieldName "load"]) agingPlant := by decide +kernel
  have hfaults : agingPlant.faults.DependOn Call.isNoLookUp := ⟨fun _ _ => rfl, fun _ _ => rfl, fun _ _ => rfl⟩
  have hexpired : aged.channelCache.size? = some 1 ∧ (aged.channelCache.get "load").1 = none := by decide +kernel
  have hcached : (s.channelCache.get "load").1.isSome := by decide +kernel
  obtain ⟨hcoherent, hmodes, halike⟩ := cache_transparent _ agingPlant _ _ rfl Store.Distinct.nil hfresh
  obtain ⟨-, hanswers⟩ := halike (fun _ _ => rfl) hfaults
  refine ⟨hfresh, hexpired.1, hexpired.2, hcached, hcoherent, hmodes (fun _ _ => rfl) "load", ?_⟩
  have hbare : ((fieldName "load").run
      (runAll (loadRun ++ [.fieldName "load"]) { agingPlant with channelCache := .absent })).1 = .ok "load.W" := by
    decide +kernel
  exact (hanswers (.fieldName "load")).trans hbare

end Catalog

end Telemetry
