import Telemetry.Proofs.Alike
import Telemetry.Proofs.Cache.Entries
import Telemetry.Proofs.Channel.Changes
import Telemetry.Proofs.Quiet
/-
What the operations of the catalog do to the stored definitions and to their cache.

`Changed` says of two worlds that fitting changes lead from the definitions of one to those of the other, and that nothing
is cached afterwards under the codes they touched. Each operation that changes anything is a part that only inspects, followed
by changes whose codes it drops at once.

- `storeThenEvict_cases`: storing a definition and dropping its code, whatever comes after;
- `create_outcome`, `update_outcome`, `delete_outcome`, `reassign_outcome`: all that these operations may come to.
-/
namespace Telemetry

open Program

/-- a call that asks no cache, and leaves the stored definitions and their cache alone -/
def Call.Inspects : Call → Prop
  | .channelUpsert _ | .channelDelete _ | .channelCacheGet _ | .channelCacheSet .. | .channelCacheDrop _
  | .mappingCacheGet _ => False
  | _ => True

theorem Call.Inspects.uncached {c : Call} (h : c.Inspects) : c.Uncached := by
  cases c with
  | channelCacheGet | mappingCacheGet => exact h.elim
  | _ => trivial

theorem World.inspects_answer (w : World) {c : Call} (hc : c.Inspects) :
    (w.answer c).2.definitions = w.definitions ∧ (w.answer c).2.channelCache = w.channelCache := by
  cases c with
  | channelUpsert | channelDelete | channelCacheGet | channelCacheSet | channelCacheDrop | mappingCacheGet => exact hc.elim
  | mappingCacheSet | mappingCacheDrop | freshId => exact ⟨rfl, rfl⟩
  | _ =>
    simp only [World.answer, World.onRepository, World.onHierarchy, World.onHistorian, World.provision]
    split <;> exact ⟨rfl, rfl⟩

theorem World.inspects_run {ε α : Type} {p : Program ε α} (hp : p.Only Call.Inspects) (w : World) :
    (p.run w).2.definitions = w.definitions ∧ (p.run w).2.channelCache = w.channelCache := by
  refine perform_invariant (I := fun v : World => v.definitions = w.definitions ∧ v.channelCache = w.channelCache) ?_ hp
    ⟨rfl, rfl⟩
  intro v c hc hv
  obtain ⟨hdefinitions, hcache⟩ := World.inspects_answer v hc
  exact ⟨hdefinitions.trans hv.1, hcache.trans hv.2⟩

/-- an id that is drawn is that of no stored definition -/
def World.DrawsNewId (m : Moment World) : Prop :=
  m.call = .freshId → ∀ d ∈ m.state.definitions, d.id ≠ some (m.state.ids m.state.idsTaken)

instance (m : Moment World) : Decidable (World.DrawsNewId m) := by
  unfold World.DrawsNewId
  infer_instance

namespace Catalog

open Channel Text

variable {ε α β : Type} {w w' w'' : World} {cs cs' : List Change}

/-! ## Worlds before and after -/

/-- fitting changes lead from one world's definitions to the other's, and nothing is cached under their codes -/
structure Changed (w : World) (cs : List Change) (w' : World) : Prop where
  nodes : w'.nodes = w.nodes
  faults : w'.faults = w.faults
  definitions : Applied w.definitions cs w'.definitions
  cache : ∀ code d, w'.channelCache.Holds code d → w.channelCache.Holds code d ∧ ∀ c ∈ cs, code ≠ c.code

theorem Changed.trans (h : Changed w cs w') (h' : Changed w' cs' w'') : Changed w (cs ++ cs') w'' := by
  refine ⟨h'.nodes.trans h.nodes, h'.faults.trans h.faults, h.definitions.append h'.definitions, ?_⟩
  intro code d hd
  obtain ⟨hmid, hcs'⟩ := h'.cache code d hd
  obtain ⟨hbefore, hcs⟩ := h.cache code d hmid
  exact ⟨hbefore, List.forall_mem_append.2 ⟨hcs, hcs'⟩⟩

theorem Changed.definitions_eq (h : Changed w [] w') : w'.definitions = w.definitions :=
  h.definitions.eq_of_nil

/-- a program that only inspects changes nothing -/
theorem changed_of_inspects {p : Program ε α} (hp : p.Only Call.Inspects) (w : World) : Changed w [] (p.run w).2 := by
  obtain ⟨hnodes, hfaults⟩ := World.run_fixed p w
  have hsame := World.inspects_run hp w
  refine ⟨hnodes, hfaults, ?_, ?_⟩
  · rw [hsame.1]
    exact .nil _
  · intro code d hd
    rw [hsame.2] at hd
    exact ⟨hd, by simp⟩

theorem changed_of_run {p : Program ε α} (hp : p.Only Call.Inspects) {r : Except ε α} {w w' : World} (h : p.run w = (r, w')) :
    Changed w [] w' := by
  have hsame := changed_of_inspects hp w
  rwa [h] at hsame

/-- the definition is filled in, and the hierarchy knows its equipment codes -/
structure Complete (w : World) (d : Definition) : Prop where
  code : isBlankText d.code = false
  dimension : isBlankText d.dimension = false
  unit : isBlankText d.unit = false
  equipmentCodes : ∀ code ∈ d.equipmentCodes, ∃ node, w.node code = .ok node

theorem Complete.fieldName {d : Definition} (h : Complete w d) : d.fieldName = .ok (encodeFieldName d.code d.unit) := by
  rw [Definition.fieldName, Channel.fieldName, h.unit]
  rfl

theorem node_of_nodes (h : w'.nodes = w.nodes) (code : String) : w'.node code = w.node code := by
  unfold World.node
  rw [h]

theorem complete_of_nodes (h : w'.nodes = w.nodes) {d : Definition} : Complete w' d ↔ Complete w d := by
  constructor <;> rintro ⟨hcode, hdimension, hunit, hcodes⟩ <;> refine ⟨hcode, hdimension, hunit, ?_⟩
  · simpa only [node_of_nodes h] using hcodes
  · simpa only [node_of_nodes h] using hcodes

/-- all that an operation may come to: fitting changes after which everything is as complete as before, and no change at
all if it fails for another reason than a store's fault or a missing id -/
structure Outcome (w : World) (x : Except ServiceError α × World) : Prop where
  changes : ∃ cs, Changed w cs x.2 ∧ ∀ d, .put d ∈ cs → (∀ stored ∈ w.definitions, Complete w stored) → Complete w d
  undone : ∀ e, x.1 = .error e → w.faults.StoresNeverFail → (∀ d ∈ w.definitions, d.id ≠ none) →
    x.2.definitions = w.definitions

theorem outcome_of_changed {x : Except ServiceError α × World} (h : Changed w [] x.2) : Outcome w x :=
  ⟨⟨[], h, by simp⟩, fun _ _ _ _ => h.definitions_eq⟩

/-- what comes after an inspection decides -/
theorem outcome_bind {p : Action α} {f : α → Action β} (hp : p.Only Call.Inspects)
    (hf : ∀ a w1, p.run w = (.ok a, w1) → Changed w [] w1 → Outcome w1 ((f a).run w1)) :
    Outcome w ((p >>= f).run w) := by
  have hsame := changed_of_inspects hp w
  rcases hrun : p.run w with ⟨e | a, w1⟩
  · rw [hrun] at hsame
    rw [World.run_bind_of_error hrun]
    exact outcome_of_changed hsame
  · rw [hrun] at hsame
    rw [World.run_bind_of_ok hrun]
    obtain ⟨⟨cs, hchanged, hputs⟩, hundone⟩ := hf a w1 hrun hsame
    rw [hsame.definitions_eq] at hputs hundone
    simp only [complete_of_nodes hsame.nodes] at hputs
    rw [hsame.faults] at hundone
    exact ⟨⟨cs, hsame.trans hchanged, hputs⟩, hundone⟩

/-! ## Inspections -/

theorem find_inspects (filter : Filter) : (Channel.find filter).Only Call.Inspects :=
  only_step trivial only_repositoryAnswer

theorem select_inspects (filter : Filter) : (Channel.select filter).Only Call.Inspects :=
  only_step trivial only_repositoryAnswer

theorem require_inspects (code : String) : (require code .bypass).Only Call.Inspects :=
  only_bind (find_inspects _) fun _ => only_orFail _ _

theorem checkEquipmentCodes_only {allowed : Call → Prop} (hallowed : ∀ code, allowed (.hierarchyNode code))
    (codes : List String) : (checkEquipmentCodes codes).Only allowed := by
  induction codes with
  | nil => exact only_pure _
  | cons code codes ih => exact only_bind (only_step (hallowed code) only_hierarchyAnswer) fun _ => ih

theorem checkEquipmentCodes_inspects (codes : List String) : (checkEquipmentCodes codes).Only Call.Inspects :=
  checkEquipmentCodes_only (fun _ => trivial) codes

theorem requireAll_inspects (codes : List String) : (requireAll .bypass codes).Only Call.Inspects := by
  induction codes with
  | nil => exact only_pure _
  | cons code codes ih => exact only_bind (require_inspects code) fun _ => only_bind ih fun _ => only_pure _

theorem find_of_no_fault {filter : Filter} (h : w.faults.repository w.calls (.channelGet filter) = none) :
    (Channel.find filter).run w = (.ok (w.definitions.get? filter), { w with calls := w.calls ++ [.channelGet filter] }) := by
  simp only [Channel.find, Program.run, perform, World.answer, World.onRepository, h, repositoryAnswer]

theorem find_of_fault {filter : Filter} {e : RepositoryError}
    (h : w.faults.repository w.calls (.channelGet filter) = some e) :
    (Channel.find filter).run w = (.error (.repository e), { w with calls := w.calls ++ [.channelGet filter] }) := by
  simp only [Channel.find, Program.run, perform, World.answer, World.onRepository, h, repositoryAnswer]

theorem find_ok {filter : Filter} {found : Option Definition} (h : (Channel.find filter).run w = (.ok found, w')) :
    found = w.definitions.get? filter := by
  rcases hfault : w.faults.repository w.calls (.channelGet filter) with _ | e
  · rw [find_of_no_fault hfault] at h
    cases h
    rfl
  · rw [find_of_fault hfault] at h
    cases h

theorem select_ok {filter : Filter} {found : List Definition} (h : (Channel.select filter).run w = (.ok found, w')) :
    found = w.definitions.select filter := by
  simp only [Channel.select, Program.run, perform, World.answer, World.onRepository] at h
  cases hfault : w.faults.repository w.calls (.channelSelect filter) with
  | some e => rw [hfault] at h; cases h
  | none => rw [hfault] at h; cases h; rfl

theorem resolve_ok {code : String} {node : Hierarchy.Node} (h : (Hierarchy.resolve code).run w = (.ok node, w')) :
    w.node code = .ok node := by
  simp only [Hierarchy.resolve, Program.run, perform, World.answer, World.onHierarchy] at h
  cases hfault : w.faults.hierarchy w.calls (.hierarchyNode code) with
  | some e => rw [hfault] at h; cases h
  | none =>
    rw [hfault] at h
    cases hnode : w.node code with
    | error e => rw [hnode] at h; cases h
    | ok found => rw [hnode] at h; cases h; rfl

theorem require_ok {code : String} {d : Definition} (h : (require code .bypass).run w = (.ok d, w')) :
    w.definitions.get? (.code code) = some d := by
  obtain ⟨found, w1, hfind, hsome⟩ := World.run_bind_ok.1 h
  rw [← find_ok hfind]
  cases found with
  | none => cases hsome
  | some found => cases hsome; rfl

theorem checkEquipmentCodes_ok {codes : List String} (h : (checkEquipmentCodes codes).run w = (.ok (), w')) :
    ∀ code ∈ codes, ∃ node, w.node code = .ok node := by
  induction codes generalizing w with
  | nil => simp
  | cons code codes ih =>
    obtain ⟨node, w1, hresolve, hrest⟩ := World.run_bind_ok.1 h
    have hnodes : w1.nodes = w.nodes := by
      have := (World.run_fixed (Hierarchy.resolve code) w).1
      rwa [hresolve] at this
    refine List.forall_mem_cons.2 ⟨⟨node, resolve_ok hresolve⟩, ?_⟩
    simpa only [node_of_nodes hnodes] using ih hrest

theorem requireAll_ok {codes : List String} {ds : List Definition}
    (h : (requireAll .bypass codes).run w = (.ok ds, w')) : ∀ d ∈ ds, d ∈ w.definitions := by
  induction codes generalizing w ds with
  | nil => cases h; simp
  | cons code codes ih =>
    obtain ⟨d, w1, hrequire, hrest⟩ := World.run_bind_ok.1 h
    obtain ⟨rest, w2, hall, hpure⟩ := World.run_bind_ok.1 hrest
    cases hpure
    have hsame := (changed_of_inspects (require_inspects code) w).definitions_eq
    rw [hrequire] at hsame
    refine List.forall_mem_cons.2 ⟨List.mem_of_find?_eq_some (require_ok hrequire), ?_⟩
    rw [← hsame]
    exact ih hall

theorem checkDefinition_ok {d : Definition} (h : checkDefinition d = .ok ()) :
    isBlankText d.code = false ∧ isBlankText d.dimension = false ∧ isBlankText d.unit = false := by
  unfold checkDefinition at h
  split_ifs at h with hcode hdimension hunit
  exact ⟨by simpa using hcode, by simpa using hdimension, by simpa using hunit⟩

/-! ## Storing -/

/-- storing a definition and dropping what is cached under its code, whatever comes after -/
theorem storeThenEvict_cases {d : Definition} (code : Definition → String) (rest : Definition → Action α)
    (hcode : code d = d.code) (hfits : d.id ≠ none → Change.Fits w.definitions (.put d)) :
    let p := Channel.upsert d >>= fun stored => evict (code stored) >>= fun _ => rest stored
    (∃ e w', p.run w = (.error e, w') ∧ Changed w [] w' ∧ (w.faults.StoresNeverFail → d.id = none)) ∨
      ∃ w', p.run w = (rest d).run w' ∧ Changed w [.put d] w' := by
  intro p
  have hp : p.run w = ((repositoryAnswer (w.answer (.channelUpsert d)).1).bind fun stored =>
      evict (code stored) >>= fun _ => rest stored).run (w.answer (.channelUpsert d)).2 := rfl
  rcases hfault : w.faults.repository w.calls (.channelUpsert d) with _ | e
  · rcases hid : d.id with _ | id
    · have hanswer : w.answer (.channelUpsert d) =
          (.error (.missingId d.code), { w with calls := w.calls ++ [.channelUpsert d] }) := by
        simp only [World.answer, World.onRepository, hfault, World.upsertChannel, Store.upsert, hid]
      rw [hanswer] at hp
      exact Or.inl ⟨_, _, hp, ⟨rfl, rfl, .nil _, fun _ _ hd => ⟨hd, by simp⟩⟩, fun _ => rfl⟩
    · have hanswer : w.answer (.channelUpsert d) = (.ok d, { w with
          calls := w.calls ++ [.channelUpsert d], definitions := Change.apply w.definitions (.put d) }) := by
        simp only [World.answer, World.onRepository, hfault, World.upsertChannel, Store.upsert, hid, Change.apply]
      rw [hanswer] at hp
      refine Or.inr ⟨_, hp, rfl, rfl, .cons (hfits (by simp [hid])) (.nil _), ?_⟩
      intro key found hheld
      obtain ⟨hne, hbefore⟩ := ReadCache.holds_invalidate hheld
      rw [hcode] at hne
      exact ⟨hbefore, by simpa [Change.code] using hne⟩
  · have hanswer : w.answer (.channelUpsert d) = (.error e, { w with calls := w.calls ++ [.channelUpsert d] }) := by
      simp only [World.answer, World.onRepository, hfault]
    rw [hanswer] at hp
    refine Or.inl ⟨_, _, hp, ⟨rfl, rfl, .nil _, fun _ _ hd => ⟨hd, by simp⟩⟩, fun hnever => ?_⟩
    rw [hnever] at hfault
    cases hfault

/-- a single definition is stored, or nothing is -/
theorem outcome_store {d : Definition} (hfits : d.id ≠ none → Change.Fits w.definitions (.put d))
    (hcomplete : (∀ stored ∈ w.definitions, Complete w stored) → Complete w d) :
    Outcome w ((Channel.upsert d >>= fun stored => evict stored.code >>= fun _ => (pure stored : Action _)).run w) := by
  rcases storeThenEvict_cases (·.code) pure rfl hfits with ⟨e, w', hrun, hsame, hnever⟩ | ⟨w', hrun, hchanged⟩
  · rw [hrun]
    exact outcome_of_changed hsame
  · rw [hrun]
    refine ⟨⟨_, hchanged, ?_⟩, ?_⟩
    · intro put hput
      cases List.mem_singleton.1 hput
      exact hcomplete
    · intro e he
      cases he

/-- what is looked at before a definition is added -/
def examine (d : Definition) : Action Unit := do
  if let some id := d.id then .fail (.idAlreadyAssigned d.code id)
  .ofExcept (checkDefinition d)
  checkEquipmentCodes d.equipmentCodes
  let existing ← Channel.find (.code d.code)
  if existing.isSome then .fail (.duplicateChannelCode d.code)

theorem create_eq (d : Definition) :
    create d = examine d >>= fun _ => Uuid.fresh >>= fun id =>
      Channel.upsert { d with id := some id } >>= fun stored => evict stored.code >>= fun _ => pure stored := by
  unfold create examine
  cases d.id with
  | some id => rfl
  | none =>
    simp only [LawfulMonad.bind_assoc]
    refine bind_congr fun _ => bind_congr fun _ => bind_congr fun existing => ?_
    split <;> rfl

theorem examine_inspects (d : Definition) : (examine d).Only Call.Inspects := by
  unfold examine
  cases d.id with
  | some id => trivial
  | none =>
    refine only_bind (only_ofExcept _) fun _ => only_bind (checkEquipmentCodes_inspects _) fun _ => ?_
    refine only_bind (find_inspects _) fun existing => ?_
    split
    · trivial
    · exact only_pure _

/-- a definition is checked, and so are its equipment codes -/
theorem checks_ok {d : Definition} {f : Unit → Action α} {a : α}
    (h : (Program.ofExcept (checkDefinition d) >>= fun _ => checkEquipmentCodes d.equipmentCodes >>= f).run w = (.ok a, w')) :
    Complete w d ∧ ∃ w1, Changed w [] w1 ∧ (f ()).run w1 = (.ok a, w') := by
  obtain ⟨_, w0, hexcept, hrest⟩ := World.run_bind_ok.1 h
  obtain ⟨hcheck, rfl⟩ := perform_ofExcept_ok.1 hexcept
  obtain ⟨_, w1, hcodes, hrest⟩ := World.run_bind_ok.1 hrest
  have hsame := changed_of_inspects (checkEquipmentCodes_inspects d.equipmentCodes) w
  rw [hcodes] at hsame
  obtain ⟨hcode, hdimension, hunit⟩ := checkDefinition_ok hcheck
  exact ⟨⟨hcode, hdimension, hunit, checkEquipmentCodes_ok hcodes⟩, w1, hsame, hrest⟩

theorem examine_ok {d : Definition} (h : (examine d).run w = (.ok (), w')) :
    Complete w d ∧ ∀ stored ∈ w.definitions, stored.code ≠ d.code := by
  unfold examine at h
  cases hid : d.id with
  | some id => rw [hid] at h; cases h
  | none =>
    rw [hid] at h
    obtain ⟨hcomplete, w1, hsame, hrest⟩ := checks_ok h
    refine ⟨hcomplete, ?_⟩
    obtain ⟨existing, w2, hfind, hnew⟩ := World.run_bind_ok.1 hrest
    rw [← hsame.definitions_eq, ← Store.get?_code_eq_none, ← find_ok hfind]
    cases existing with
    | none => rfl
    | some existing => cases hnew

theorem create_outcome (d : Definition) (hfresh : ∀ m ∈ (create d).moments World.answer w, World.DrawsNewId m) :
    Outcome w ((create d).run w) := by
  rw [create_eq] at hfresh ⊢
  refine outcome_bind (examine_inspects d) fun _ w1 hexamine hsame => ?_
  have hdraws : World.DrawsNewId ⟨w1, .freshId⟩ :=
    hfresh _ (mem_moments_bind_right hexamine (mem_moments_bind_left List.mem_cons_self))
  refine outcome_bind (only_step trivial fun _ => trivial) fun id w2 hid hsame2 => ?_
  have hdefinitions := hsame2.definitions_eq
  cases hid
  obtain ⟨hcomplete, hcodes⟩ := examine_ok hexamine
  rw [← hsame.definitions_eq] at hcodes
  refine outcome_store (fun _ => ⟨by simp, Or.inr ⟨?_, ?_⟩⟩) fun _ => ?_
  · exact hdraws rfl
  · exact hcodes
  · rw [complete_of_nodes hsame2.nodes, complete_of_nodes hsame.nodes]
    exact ⟨hcomplete.code, hcomplete.dimension, hcomplete.unit, hcomplete.equipmentCodes⟩

/-- what is looked at before a definition is replaced: the stored one is found -/
def examineStored (d : Definition) : Action Definition := do
  .ofExcept (checkDefinition d)
  checkEquipmentCodes d.equipmentCodes
  require d.code .bypass

theorem update_eq (d : Definition) :
    update d = examineStored d >>= fun existing => Channel.upsert { d with id := existing.id } >>= fun stored =>
      evict stored.code >>= fun _ => pure stored := by
  simp only [update, examineStored, LawfulMonad.bind_assoc]

theorem examineStored_inspects (d : Definition) : (examineStored d).Only Call.Inspects :=
  only_bind (only_ofExcept _) fun _ => only_bind (checkEquipmentCodes_inspects _) fun _ => require_inspects _

theorem update_outcome (d : Definition) : Outcome w ((update d).run w) := by
  rw [update_eq]
  refine outcome_bind (examineStored_inspects d) fun existing w1 hexamine hsame => ?_
  obtain ⟨hcomplete, w2, hsame2, hrequire⟩ := checks_ok hexamine
  have hfound := require_ok hrequire
  rw [hsame2.definitions_eq] at hfound
  refine outcome_store (fun hid => ⟨hid, Or.inl ⟨existing, ?_, rfl, ?_⟩⟩) fun _ => ?_
  · rw [hsame.definitions_eq]
    exact List.mem_of_find?_eq_some hfound
  · exact Store.code_of_get? hfound
  · rw [complete_of_nodes hsame.nodes]
    exact ⟨hcomplete.code, hcomplete.dimension, hcomplete.unit, hcomplete.equipmentCodes⟩

/-! ## Removing -/

/-- removing what is stored under a code, where the store does not fail -/
theorem delete_run {code : String} (hfault : w.faults.repository w.calls (.channelDelete (.code code)) = none) :
    (Catalog.delete code).run w =
      (if w.definitions.length - (w.definitions.delete (.code code)).length = 0 then .error (.channelNotFound code)
        else .ok (),
        { w with
          calls := w.calls ++ [.channelDelete (.code code)]
          definitions := Change.apply w.definitions (.remove code)
          channelCache := w.channelCache.invalidate code }) := by
  have hanswer : w.answer (.channelDelete (.code code)) =
      (.ok (w.definitions.length - (w.definitions.delete (.code code)).length), { w with
        calls := w.calls ++ [.channelDelete (.code code)], definitions := Change.apply w.definitions (.remove code) }) := by
    simp only [World.answer, World.onRepository, hfault, World.deleteChannels, Change.apply]
  change ((repositoryAnswer (w.answer (.channelDelete (.code code))).1).bind fun count => evict code >>= fun _ =>
    if count = 0 then .fail (.channelNotFound code) else pure ()).run (w.answer (.channelDelete (.code code))).2 = _
  rw [hanswer]
  simp only [repositoryAnswer, Program.bind]
  split <;> rfl

theorem delete_outcome (code : String) : Outcome w ((Catalog.delete code).run w) := by
  rcases hfault : w.faults.repository w.calls (.channelDelete (.code code)) with _ | e
  · rw [delete_run hfault]
    refine ⟨⟨[.remove code], ⟨rfl, rfl, .cons trivial (.nil _), ?_⟩, by simp⟩, ?_⟩
    · intro key d hheld
      obtain ⟨hne, hbefore⟩ := ReadCache.holds_invalidate hheld
      exact ⟨hbefore, by simpa [Change.code] using hne⟩
    · -- the operation fails if nothing was removed
      intro e he _ _
      split at he
      · rename_i hcount
        have hlength := List.length_filter_le (fun d => !(Filter.code code).accepts d) w.definitions
        refine List.filter_eq_self.2 (List.length_filter_eq_length_iff.1 ?_)
        simp only [Store.delete] at hcount
        omega
      · cases he
  · have hrun : (Catalog.delete code).run w =
        (.error (.repository e), { w with calls := w.calls ++ [.channelDelete (.code code)] }) := by
      change ((repositoryAnswer (w.answer (.channelDelete (.code code))).1).bind _).run
        (w.answer (.channelDelete (.code code))).2 = _
      simp only [World.answer, World.onRepository, hfault]
      rfl
    rw [hrun]
    exact outcome_of_changed ⟨rfl, rfl, .nil _, fun _ _ hd => ⟨hd, by simp⟩⟩

/-! ## Reassigning -/

/-- stores definitions, edited, one after another, and tells their codes -/
def storeEach (edit : Definition → Definition) : List Definition → Action (List String)
  | [] => return []
  | d :: ds => do
    let _ ← Channel.upsert (edit d)
    evict d.code
    let codes ← storeEach edit ds
    return d.code :: codes

def withoutEquipment (equipmentCode : String) (d : Definition) : Definition :=
  { d with equipmentCodes := d.equipmentCodes.filter (· != equipmentCode) }

def withEquipment (equipmentCode : String) (d : Definition) : Definition :=
  { d with equipmentCodes := d.equipmentCodes ++ [equipmentCode] }

theorem withdraw_eq (equipmentCode : String) (ds : List Definition) :
    withdraw equipmentCode ds = storeEach (withoutEquipment equipmentCode) ds := by
  induction ds with
  | nil => rfl
  | cons d ds ih => simp only [withdraw, storeEach, withoutEquipment, ih]

theorem assign_eq (equipmentCode : String) (ds : List Definition) :
    assign equipmentCode ds = storeEach (withEquipment equipmentCode) ds := by
  induction ds with
  | nil => rfl
  | cons d ds ih => simp only [assign, storeEach, withEquipment, ih]

/-- editing stored definitions under their ids and codes: fitting changes, and a failure has an outer reason -/
theorem storeEach_changed (edit : Definition → Definition) (hid : ∀ d, (edit d).id = d.id)
    (hcode : ∀ d, (edit d).code = d.code) {ds : List Definition} {w : World} (hs : w.definitions.Distinct)
    (hds : ∀ d ∈ ds, ∃ old ∈ w.definitions, old.id = d.id ∧ old.code = d.code) :
    ∃ cs, Changed w cs ((storeEach edit ds).run w).2 ∧ (∀ c ∈ cs, ∃ d ∈ ds, c = .put (edit d)) ∧
      ∀ e, ((storeEach edit ds).run w).1 = .error e → w.faults.StoresNeverFail → ∃ d ∈ ds, d.id = none := by
  induction ds generalizing w with
  | nil => exact ⟨[], changed_of_inspects (only_pure _) w, by simp, fun e he => by cases he⟩
  | cons d ds ih =>
    rw [List.forall_mem_cons] at hds
    have hfits : (edit d).id ≠ none → Change.Fits w.definitions (.put (edit d)) := by
      intro hsome
      rw [← hid d, ← hcode d] at hds
      exact ⟨hsome, Or.inl hds.1⟩
    have hstep := storeThenEvict_cases (w := w) (fun _ => d.code)
      (fun _ => storeEach edit ds >>= fun codes => pure (d.code :: codes)) (hcode d).symm hfits
    rw [storeEach]
    rcases hstep with ⟨e, w1, hrun, hsame, hnever⟩ | ⟨w1, hrun, hchanged⟩
    · rw [hrun]
      rw [hid] at hnever
      exact ⟨[], hsame, by simp, fun _ _ hfaults => ⟨d, by simp, hnever hfaults⟩⟩
    · obtain ⟨cs, hrest, hputs, hfailed⟩ := ih (hchanged.definitions.distinct hs) fun other hother => by
        obtain ⟨old, hold, holdid, holdcode⟩ := hds.2 other hother
        obtain ⟨new, hnew, hnewid, hnewcode⟩ := hchanged.definitions.retains hs (by simp) old hold
        exact ⟨new, hnew, hnewid.trans holdid, hnewcode.trans holdcode⟩
      rw [hrun, World.run_bind_pure]
      refine ⟨.put (edit d) :: cs, hchanged.trans hrest, ?_, ?_⟩
      · refine List.forall_mem_cons.2 ⟨⟨d, by simp, rfl⟩, fun c hc => ?_⟩
        obtain ⟨other, hother, rfl⟩ := hputs c hc
        exact ⟨other, List.mem_cons_of_mem _ hother, rfl⟩
      · intro e he hnever
        rcases hr : ((storeEach edit ds).run w1).1 with e' | codes
        · rw [← hchanged.faults] at hnever
          obtain ⟨other, hother, hnone⟩ := hfailed e' hr hnever
          exact ⟨other, List.mem_cons_of_mem _ hother, hnone⟩
        · rw [hr] at he
          cases he

/-- what is looked at before channels are reassigned: the definitions that lose the equipment code, and those that get it -/
def survey (equipmentCode : String) (desired : List String) : Action (List Definition × List Definition) := do
  checkEquipmentCodes [equipmentCode]
  let wanted ← requireAll .bypass desired.eraseDups
  let current ← forEquipment equipmentCode
  return (current.filter fun d => !desired.eraseDups.contains d.code,
    wanted.filter fun d => !(current.map (·.code)).contains d.code)

theorem survey_inspects (equipmentCode : String) (desired : List String) :
    (survey equipmentCode desired).Only Call.Inspects :=
  only_bind (checkEquipmentCodes_inspects _) fun _ => only_bind (requireAll_inspects _) fun _ =>
    only_bind (select_inspects _) fun _ => only_pure _

theorem reassign_eq (equipmentCode : String) (desired : List String) :
    reassign equipmentCode desired = survey equipmentCode desired >>= fun found =>
      storeEach (withoutEquipment equipmentCode) found.1 >>= fun removed =>
        storeEach (withEquipment equipmentCode) found.2 >>= fun added => pure ⟨equipmentCode, added, removed⟩ := by
  simp only [reassign, survey, withdraw_eq, assign_eq, LawfulMonad.bind_assoc, pure_bind]

theorem survey_ok {equipmentCode : String} {desired : List String} {found : List Definition × List Definition}
    (h : (survey equipmentCode desired).run w = (.ok found, w')) :
    (∃ node, w.node equipmentCode = .ok node) ∧ (∀ d ∈ found.1, d ∈ w.definitions) ∧ ∀ d ∈ found.2, d ∈ w.definitions := by
  obtain ⟨_, w1, hcheck, hrest⟩ := World.run_bind_ok.1 h
  obtain ⟨wanted, w2, hwanted, hrest⟩ := World.run_bind_ok.1 hrest
  obtain ⟨current, w3, hcurrent, hpure⟩ := World.run_bind_ok.1 hrest
  have hsame1 := (changed_of_inspects (checkEquipmentCodes_inspects [equipmentCode]) w).definitions_eq
  have hsame2 := (changed_of_inspects (requireAll_inspects desired.eraseDups) w1).definitions_eq
  rw [hcheck] at hsame1
  rw [hwanted, hsame1] at hsame2
  have hall := requireAll_ok hwanted
  have hselect := select_ok hcurrent
  rw [hsame1] at hall
  rw [hsame2] at hselect
  cases hpure
  refine ⟨checkEquipmentCodes_ok hcheck equipmentCode (by simp), fun d hd => ?_, fun d hd => ?_⟩
  · rw [hselect] at hd
    exact (List.mem_filter.1 (List.mem_filter.1 hd).1).1
  · exact hall d (List.mem_filter.1 hd).1

theorem complete_withoutEquipment {equipmentCode : String} {d : Definition} (h : Complete w d) :
    Complete w (withoutEquipment equipmentCode d) :=
  ⟨h.code, h.dimension, h.unit, fun code hcode => h.equipmentCodes code (List.mem_filter.1 hcode).1⟩

theorem complete_withEquipment {equipmentCode : String} {d : Definition} (h : Complete w d)
    (hnode : ∃ node, w.node equipmentCode = .ok node) : Complete w (withEquipment equipmentCode d) :=
  ⟨h.code, h.dimension, h.unit, List.forall_mem_append.2 ⟨h.equipmentCodes, by simpa using hnode⟩⟩

theorem reassign_outcome (equipmentCode : String) (desired : List String) (hs : w.definitions.Distinct) :
    Outcome w ((reassign equipmentCode desired).run w) := by
  rw [reassign_eq]
  refine outcome_bind (survey_inspects _ _) fun found w1 hsurvey hsame => ?_
  obtain ⟨hnode, hremoved, hadded⟩ := survey_ok hsurvey
  simp only [← hsame.definitions_eq, ← node_of_nodes hsame.nodes] at hs hnode hremoved hadded
  obtain ⟨cs, hchanged, hputs, hfailed⟩ :=
    storeEach_changed (withoutEquipment equipmentCode) (fun _ => rfl) (fun _ => rfl) hs
      fun d hd => ⟨d, hremoved d hd, rfl, rfl⟩
  have hputs1 : ∀ d, .put d ∈ cs → (∀ stored ∈ w1.definitions, Complete w1 stored) → Complete w1 d := by
    intro put hput hall
    obtain ⟨d, hd, heq⟩ := hputs _ hput
    cases heq
    exact complete_withoutEquipment (hall d (hremoved d hd))
  rcases hrun : (storeEach (withoutEquipment equipmentCode) found.1).run w1 with ⟨e | removed, w2⟩
  · rw [hrun] at hchanged hfailed
    rw [World.run_bind_of_error hrun]
    refine ⟨⟨cs, hchanged, hputs1⟩, fun _ _ hnever hids => ?_⟩
    obtain ⟨d, hd, hnone⟩ := hfailed e rfl hnever
    exact absurd hnone (hids d (hremoved d hd))
  · rw [hrun] at hchanged
    rw [World.run_bind_of_ok hrun, World.run_bind_pure]
    -- the definitions that get the code are still stored under their ids and codes
    obtain ⟨cs', hchanged', hputs', hfailed'⟩ :=
      storeEach_changed (withEquipment equipmentCode) (fun _ => rfl) (fun _ => rfl)
        (hchanged.definitions.distinct hs) fun d hd =>
          hchanged.definitions.retains hs (fun c hc => by
            obtain ⟨old, -, rfl⟩ := hputs c hc
            exact ⟨_, rfl⟩) d (hadded d hd)
    refine ⟨⟨cs ++ cs', hchanged.trans hchanged', ?_⟩, fun e he hnever hids => ?_⟩
    · intro put hput hall
      rcases List.mem_append.1 hput with hput | hput
      · exact hputs1 put hput hall
      · obtain ⟨d, hd, heq⟩ := hputs' _ hput
        cases heq
        exact complete_withEquipment (hall d (hadded d hd)) hnode
    · rcases hr : ((storeEach (withEquipment equipmentCode) found.2).run w2).1 with e' | added
      · rw [← hchanged.faults] at hnever
        obtain ⟨d, hd, hnone⟩ := hfailed' e' hr hnever
        exact absurd hnone (hids d (hadded d hd))
      · rw [hr] at he
        cases he

end Catalog

end Telemetry
