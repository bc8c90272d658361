import Telemetry.Catalog.Seed
import Telemetry.Proofs.Catalog.Changes
import Telemetry.Proofs.Payload.RowCounts
/-
Loading a seed into a catalog.

The channels of a seed are entries laid over the stored definitions (`overlay`): of the entries of one code the last counts,
and the definition keeps its id. What is stored once a seed is loaded is the entries laid over what was stored before and
what was created (`SeedRun.closed`). Laying them over once more changes nothing, although a second loading goes through other
stores on its way: it begins with the first entry of a code where the last one is stored.

- `SeedRun`: channels loaded one after another, at the store alone;
- `loadChannel_run`, `loadChannel_refused`: what becomes of one channel;
- `seed_loads`: when a seed is loaded, and what is stored then.
-/
namespace Telemetry.Catalog

open Channel Program Text

/-! ## Entries laid over definitions -/

/-- a definition with the entries of its code laid over it, one after another: they replace all but the id -/
def overlay : List Definition → Definition → Definition
  | [], d => d
  | entry :: entries, d => overlay entries (if entry.code = d.code then { entry with id := d.id } else d)

variable {entries : List Definition} {d entry : Definition}

theorem overlay_single (entry d : Definition) :
    overlay [entry] d = if entry.code = d.code then { entry with id := d.id } else d := rfl

theorem overlay_cons (entry : Definition) (entries : List Definition) (d : Definition) :
    overlay (entry :: entries) d = overlay entries (overlay [entry] d) := rfl

theorem overlay_single_code (entry d : Definition) : (overlay [entry] d).code = d.code := by
  rw [overlay_single]
  split
  · assumption
  · rfl

theorem overlay_single_id (entry d : Definition) : (overlay [entry] d).id = d.id := by
  rw [overlay_single]
  split <;> rfl

theorem overlay_code (entries : List Definition) (d : Definition) : (overlay entries d).code = d.code := by
  induction entries generalizing d with
  | nil => rfl
  | cons entry entries ih => rw [overlay_cons, ih, overlay_single_code]

theorem overlay_id (entries : List Definition) (d : Definition) : (overlay entries d).id = d.id := by
  induction entries generalizing d with
  | nil => rfl
  | cons entry entries ih => rw [overlay_cons, ih, overlay_single_id]

/-- entries of other codes -/
theorem overlay_of_other (h : ∀ entry ∈ entries, entry.code ≠ d.code) : overlay entries d = d := by
  induction entries with
  | nil => rfl
  | cons entry entries ih =>
    rw [List.forall_mem_cons] at h
    rw [overlay_cons, overlay_single, if_neg h.1, ih h.2]

/-- the last entry of the code counts -/
theorem overlay_last {before after : List Definition} (hcode : entry.code = d.code) (hlast : ∀ later ∈ after, later.code ≠ d.code) :
    overlay (before ++ entry :: after) d = { entry with id := d.id } := by
  induction before generalizing d with
  | nil =>
    rw [List.nil_append, overlay_cons, overlay_single, if_pos hcode]
    exact overlay_of_other fun later hlater => hcode ▸ hlast later hlater
  | cons first before ih =>
    have hsame := overlay_single_code first d
    rw [List.cons_append, overlay_cons, ih (hcode.trans hsame.symm) (by rwa [hsame]), overlay_single_id]

theorem exists_last_entry (h : ∃ entry ∈ entries, entry.code = d.code) :
    ∃ before entry after, entries = before ++ entry :: after ∧ entry.code = d.code ∧ ∀ later ∈ after, later.code ≠ d.code := by
  induction entries with
  | nil => obtain ⟨_, hmem, -⟩ := h; cases hmem
  | cons first entries ih =>
    by_cases hlater : ∃ entry ∈ entries, entry.code = d.code
    · obtain ⟨before, entry, after, rfl, hcode, hlast⟩ := ih hlater
      exact ⟨first :: before, entry, after, rfl, hcode, hlast⟩
    · obtain ⟨entry, hmem, hcode⟩ := h
      rcases List.mem_cons.1 hmem with rfl | hmem
      · exact ⟨[], entry, entries, rfl, hcode, fun later hmem heq => hlater ⟨later, hmem, heq⟩⟩
      · exact absurd ⟨entry, hmem, hcode⟩ hlater

/-- entries that are laid over are not seen when they are laid over once more -/
theorem overlay_overlay (entries : List Definition) (d : Definition) : overlay entries (overlay entries d) = overlay entries d := by
  by_cases hcodes : ∃ entry ∈ entries, entry.code = d.code
  · obtain ⟨before, entry, after, rfl, hcode, hlast⟩ := exists_last_entry hcodes
    have hsame := overlay_code (before ++ entry :: after) d
    rw [overlay_last (hcode.trans hsame.symm) (by rwa [hsame]), overlay_id, overlay_last hcode hlast]
  · have hother : ∀ entry ∈ entries, entry.code ≠ d.code := fun entry hentry heq => hcodes ⟨entry, hentry, heq⟩
    rw [overlay_of_other hother, overlay_of_other hother]

/-! ## Channels one after another -/

variable {s t : Store} {outcomes : List SeedOutcome}

def createdIn (outcomes : List SeedOutcome) : List Definition :=
  (outcomes.filter (·.action = .created)).map (·.definition)

/-- a store before and after a channel is loaded: it takes the place of the definition with its code, or comes last under a
new id -/
inductive SeedStep (s : Store) (d : Definition) : SeedOutcome → Store → Prop
  | updated {old : Definition} (hold : s.get? (.code d.code) = some old) :
      SeedStep s d ⟨{ d with id := old.id }, .updated⟩ (s.map (overlay [d]))
  | created (id : Uuid) (hnew : s.get? (.code d.code) = none) :
      SeedStep s d ⟨{ d with id := some id }, .created⟩ (s ++ [{ d with id := some id }])

/-- a store before and after channels are loaded, one after another -/
inductive SeedRun : Store → List Definition → List SeedOutcome → Store → Prop
  | nil (s : Store) : SeedRun s [] [] s
  | cons {s s1 t : Store} {d : Definition} {o : SeedOutcome} {ds : List Definition} {outcomes : List SeedOutcome}
      (hstep : SeedStep s d o s1) (hrest : SeedRun s1 ds outcomes t) : SeedRun s (d :: ds) (o :: outcomes) t

theorem map_code_overlay (entries : List Definition) (s : Store) :
    (s.map (overlay entries)).map (·.code) = s.map (·.code) := by
  rw [List.map_map]
  exact List.map_congr_left fun d _ => overlay_code entries d

theorem code_mem_of_get? {old : Definition} {code : String} (h : s.get? (.code code) = some old) : code ∈ s.map (·.code) :=
  List.mem_map.2 ⟨old, List.mem_of_find?_eq_some h, Store.code_of_get? h⟩

theorem code_not_mem_of_get? {code : String} (h : s.get? (.code code) = none) : code ∉ s.map (·.code) := by
  rintro hmem
  obtain ⟨old, hold, hcode⟩ := List.mem_map.1 hmem
  exact Store.get?_code_eq_none.1 h old hold hcode

namespace SeedRun

/-- each outcome is of the channel at its place, under an id -/
theorem in_order (h : SeedRun s entries outcomes t) :
    List.Forall₂ (fun entry outcome => outcome.definition = { entry with id := outcome.definition.id }) entries outcomes := by
  induction h with
  | nil s => exact .nil
  | cons hstep _ ih =>
    cases hstep with
    | updated | created => exact .cons rfl ih

/-- a channel is created if its code is neither stored nor that of an earlier one -/
theorem actions (h : SeedRun s entries outcomes t) :
    outcomes.map (·.action) = entries.mapIdx fun i entry =>
      if entry.code ∈ (s ++ entries.take i).map (·.code) then .updated else .created := by
  induction h with
  | nil s => rfl
  | @cons s s1 t d o ds outcomes hstep _ ih =>
    cases hstep with
    | updated hold =>
      have hmem := code_mem_of_get? hold
      rw [List.map_cons, ih, List.mapIdx_cons, if_pos (by simpa using hmem)]
      refine congrArg _ (congrArg (ds.mapIdx ·) (funext fun i => funext fun entry => if_congr ?_ rfl rfl))
      rw [List.map_append, List.map_append, map_code_overlay, List.take_succ_cons, List.map_cons, List.mem_append,
        List.mem_append, List.mem_cons]
      refine or_congr_right' fun hnot => (or_iff_right ?_).symm
      rintro heq
      exact hnot (heq ▸ hmem)
    | created id hnew =>
      have hnot := code_not_mem_of_get? hnew
      rw [List.map_cons, ih, List.mapIdx_cons, if_neg (by simpa using hnot)]
      refine congrArg _ (congrArg (ds.mapIdx ·) (funext fun i => funext fun entry => if_congr ?_ rfl rfl))
      simp only [List.take_succ_cons, List.map_append, List.map_cons, List.append_assoc, List.singleton_append]

/-- created definitions have new codes, and every code of a channel is stored or created -/
theorem created_codes (h : SeedRun s entries outcomes t) :
    (∀ c ∈ createdIn outcomes, c.code ∉ s.map (·.code)) ∧
      ∀ entry ∈ entries, entry.code ∈ (s ++ createdIn outcomes).map (·.code) := by
  induction h with
  | nil s => exact ⟨by simp [createdIn], by simp⟩
  | @cons s s1 t d o ds outcomes hstep _ ih =>
    cases hstep with
    | updated hold =>
      rw [List.map_append, map_code_overlay, ← List.map_append] at ih
      exact ⟨ih.1, List.forall_mem_cons.2 ⟨by simpa using Or.inl (code_mem_of_get? hold), ih.2⟩⟩
    | created id hnew =>
      obtain ⟨hcreated, hstored⟩ := ih
      refine ⟨List.forall_mem_cons.2 ⟨code_not_mem_of_get? hnew, fun c hc hmem => hcreated c hc ?_⟩, ?_⟩
      · rw [List.map_append]
        exact List.mem_append_left _ hmem
      · rw [List.append_assoc] at hstored
        exact List.forall_mem_cons.2 ⟨by simp [createdIn], hstored⟩

/-- the entries are laid over what was stored and what was created -/
theorem closed (h : SeedRun s entries outcomes t) : t = (s ++ createdIn outcomes).map (overlay entries) := by
  induction h with
  | nil s =>
    rw [createdIn, List.filter_nil, List.map_nil, List.append_nil]
    exact (List.map_id s).symm
  | @cons s s1 t d o ds outcomes hstep hrest ih =>
    have hcreated := hrest.created_codes.1
    rw [ih]
    cases hstep with
    | updated hold =>
      -- what is created later has another code than this channel
      have hsame : ∀ c ∈ createdIn outcomes, overlay ds c = overlay (d :: ds) c := by
        intro c hc
        have hcode := hcreated c hc
        rw [map_code_overlay] at hcode
        have hne : d.code ≠ c.code := by
          intro heq
          rw [← heq] at hcode
          exact hcode (code_mem_of_get? hold)
        rw [overlay_cons, overlay_single, if_neg hne]
      rw [List.map_append, List.map_map, List.map_congr_left hsame]
      exact (List.map_append ..).symm
    | created id hnew =>
      have hsame : ∀ x ∈ s ++ [{ d with id := some id }] ++ createdIn outcomes, overlay ds x = overlay (d :: ds) x := by
        intro x hx
        rw [overlay_cons, overlay_single]
        split
        · rename_i heq
          rcases List.mem_append.1 hx with hx | hx
          · rcases List.mem_append.1 hx with hx | hx
            · exact absurd heq.symm (Store.get?_code_eq_none.1 hnew x hx)
            · rw [List.mem_singleton.1 hx]
          · exact absurd (by simp [heq]) (hcreated x hx)
        · rfl
      rw [List.map_congr_left hsame, List.append_assoc]
      rfl

theorem mem_createdIn {c : Definition} : c ∈ createdIn outcomes ↔ ∃ o ∈ outcomes, o.action = .created ∧ o.definition = c := by
  simp [createdIn, and_assoc]

/-- where every code is stored, channels are only updated -/
theorem known (h : SeedRun s entries outcomes t) (hknown : ∀ entry ∈ entries, entry.code ∈ s.map (·.code)) :
    (∀ o ∈ outcomes, o.action = .updated) ∧ t = s.map (overlay entries) := by
  have hupdated : ∀ o ∈ outcomes, o.action = .updated := by
    intro o ho
    have haction : o.action ∈ outcomes.map (·.action) := List.mem_map_of_mem ho
    rw [h.actions, List.mem_mapIdx] at haction
    obtain ⟨i, hi, haction⟩ := haction
    rw [← haction, List.map_append]
    exact if_pos (List.mem_append_left _ (hknown _ (List.getElem_mem hi)))
  have hnone : createdIn outcomes = [] := by
    refine List.eq_nil_iff_forall_not_mem.2 fun c hc => ?_
    obtain ⟨o, ho, hcreated, -⟩ := mem_createdIn.1 hc
    rw [hupdated o ho] at hcreated
    cases hcreated
  have hclosed := h.closed
  rw [hnone, List.append_nil] at hclosed
  exact ⟨hupdated, hclosed⟩

/-- the same channels once more are only updated, and change nothing -/
theorem again {t' : Store} {outcomes' : List SeedOutcome} (h : SeedRun s entries outcomes t)
    (h' : SeedRun t entries outcomes' t') : (∀ o ∈ outcomes', o.action = .updated) ∧ t' = t := by
  have hcodes : t.map (·.code) = (s ++ createdIn outcomes).map (·.code) := by
    rw [h.closed, map_code_overlay]
  obtain ⟨hupdated, hlaid⟩ := h'.known (by rw [hcodes]; exact h.created_codes.2)
  refine ⟨hupdated, ?_⟩
  rw [hlaid, h.closed, List.map_map]
  exact List.map_congr_left fun d _ => overlay_overlay entries d

end SeedRun

/-- all that loading the channels of a seed comes to, at the store -/
structure Seeded (s : Store) (channels : List Definition) (outcomes : List SeedOutcome) (t : Store) : Prop where
  in_order : List.Forall₂ (fun d o => o.definition = { d with id := o.definition.id }) channels outcomes
  /-- a channel is created if its code is neither stored nor that of an earlier channel -/
  actions : outcomes.map (·.action) = channels.mapIdx fun i d =>
    if d.code ∈ (s ++ channels.take i).map (·.code) then .updated else .created
  /-- the last channel of a code is stored, under the id that was there or that the code got when it was created -/
  stored : ∀ before d after, channels = before ++ d :: after → (∀ later ∈ after, later.code ≠ d.code) →
    ∃ id, t.get? (.code d.code) = some { d with id := id } ∧ (∀ old ∈ s, old.code = d.code → id = old.id) ∧
      ((∀ old ∈ s, old.code ≠ d.code) → ∃ o ∈ outcomes, o.action = .created ∧ o.definition.code = d.code ∧ o.definition.id = id)
  others : t.filter (·.code ∉ channels.map (·.code)) = s.filter (·.code ∉ channels.map (·.code))
  distinct : t.Distinct

theorem get?_overlay (entries : List Definition) (s : Store) (code : String) :
    Store.get? (s.map (overlay entries)) (.code code) = (s.get? (.code code)).map (overlay entries) := by
  have haccepts : (Filter.code code).accepts ∘ overlay entries = (Filter.code code).accepts :=
    funext fun d => by simp only [Function.comp_apply, Filter.accepts, overlay_code]
  rw [Store.get?, List.find?_map, haccepts]
  rfl

theorem SeedRun.seeded (h : SeedRun s entries outcomes t) (hs : s.Distinct) (ht : t.Distinct) : Seeded s entries outcomes t := by
  have hcreated : ∀ c ∈ createdIn outcomes, c.code ∈ entries.map (·.code) := by
    intro c hc
    obtain ⟨o, ho, -, rfl⟩ := mem_createdIn.1 hc
    obtain ⟨entry, hentry, heq⟩ := exists_of_forall₂ h.in_order ho
    exact List.mem_map.2 ⟨entry, hentry, (congrArg (·.code) heq).symm⟩
  refine ⟨h.in_order, h.actions, ?_, ?_, ht⟩
  · rintro before d after rfl hlast
    have hlaid : ∀ found : Definition, found.code = d.code → overlay (before ++ d :: after) found = { d with id := found.id } :=
      fun found hcode => overlay_last hcode.symm (by rwa [hcode])
    have hfound : t.get? (.code d.code) = ((s.get? (.code d.code)).or (Store.get? (createdIn outcomes) (.code d.code))).map
        (overlay (before ++ d :: after)) := by
      rw [h.closed, get?_overlay, Store.get?, List.find?_append]
      rfl
    rcases hold : s.get? (.code d.code) with _ | old
    · -- the code has been created
      rw [hold, Option.none_or] at hfound
      have hcode := h.created_codes.2 d (by simp)
      rw [List.map_append, List.mem_append, or_iff_right (code_not_mem_of_get? hold)] at hcode
      obtain ⟨c, hc⟩ : ∃ c, Store.get? (createdIn outcomes) (.code d.code) = some c := by
        refine Option.ne_none_iff_exists'.1 fun hnone => ?_
        exact code_not_mem_of_get? hnone hcode
      have hccode := Store.code_of_get? hc
      obtain ⟨o, ho, haction, rfl⟩ := mem_createdIn.1 (List.mem_of_find?_eq_some hc)
      rw [hc, Option.map_some, hlaid _ hccode] at hfound
      refine ⟨_, hfound, fun old hmem heq => ?_, fun _ => ⟨o, ho, haction, hccode, rfl⟩⟩
      exact absurd heq (Store.get?_code_eq_none.1 hold old hmem)
    · have hcode := Store.code_of_get? hold
      have hmem := List.mem_of_find?_eq_some hold
      rw [hold, Option.some_or, Option.map_some, hlaid _ hcode] at hfound
      refine ⟨_, hfound, fun other hother heq => ?_, fun hnone => absurd hcode (hnone old hmem)⟩
      rw [List.inj_on_of_nodup_map hs.codes hother hmem (heq.trans hcode.symm)]
  · rw [h.closed, List.filter_map]
    have hsame : (fun d : Definition => decide (d.code ∉ entries.map (·.code))) ∘ overlay entries =
        fun d => decide (d.code ∉ entries.map (·.code)) :=
      funext fun d => by simp only [Function.comp_apply, overlay_code]
    have hnone : (createdIn outcomes).filter (·.code ∉ entries.map (·.code)) = [] :=
      List.filter_eq_nil_iff.2 fun c hc => by simpa using hcreated c hc
    rw [hsame, List.filter_append, hnone, List.append_nil]
    refine (List.map_congr_left fun d hd => ?_).trans (List.map_id _)
    have hother : d.code ∉ entries.map (·.code) := by simpa using (List.mem_filter.1 hd).2
    exact overlay_of_other fun entry hentry heq => hother (List.mem_map.2 ⟨entry, hentry, heq⟩)

/-! ## One channel -/

/-- neither the stores nor the hierarchy fail -/
structure Reliable (w : World) : Prop where
  stores : w.faults.StoresNeverFail
  hierarchy : ∀ calls c, w.faults.hierarchy calls c = none

variable {w w' : World}

theorem Reliable.of_faults (h : Reliable w) (hfaults : w'.faults = w.faults) : Reliable w' := by
  refine ⟨?_, ?_⟩ <;> rw [hfaults]
  · exact h.stores
  · exact h.hierarchy

theorem checkEquipmentCodes_run (hw : Reliable w) {codes : List String} (h : ∀ code ∈ codes, ∃ node, w.node code = .ok node) :
    ∃ w1, (checkEquipmentCodes codes).run w = (.ok (), w1) := by
  induction codes generalizing w with
  | nil => exact ⟨w, rfl⟩
  | cons code codes ih =>
    rw [List.forall_mem_cons] at h
    obtain ⟨node, hnode⟩ := h.1
    have hresolve : (Hierarchy.resolve code).run w = (.ok node, (w.answer (.hierarchyNode code)).2) := by
      simp only [Hierarchy.resolve, Program.run, perform, World.answer, World.onHierarchy, hw.hierarchy, hnode, hierarchyAnswer]
    obtain ⟨hnodes, hfaults⟩ := World.answer_fixed w (.hierarchyNode code)
    obtain ⟨w2, hrest⟩ := ih (hw.of_faults hfaults) (by simpa only [node_of_nodes hnodes] using h.2)
    exact ⟨w2, by rw [checkEquipmentCodes, World.run_bind_of_ok hresolve, hrest]⟩

theorem checkDefinition_of_complete (h : Complete w d) : checkDefinition d = .ok () := by
  rw [checkDefinition, h.code, h.dimension, h.unit]
  rfl

theorem find_run (hw : Reliable w) (code : String) :
    ∃ w1, (Channel.find (.code code)).run w = (.ok (w.definitions.get? (.code code)), w1) ∧ Changed w [] w1 := by
  have hfind := find_of_no_fault (hw.stores w.calls (.channelGet (.code code)))
  exact ⟨_, hfind, changed_of_run (find_inspects (.code code)) hfind⟩

/-- a complete definition passes its checks, and its code is looked up next -/
theorem checks_run (hw : Reliable w) (hd : Complete w d) :
    ∃ w1, Changed w [] w1 ∧ ∀ {α : Type} (f : Unit → Action α),
      (Program.ofExcept (checkDefinition d) >>= fun _ => checkEquipmentCodes d.equipmentCodes >>= f).run w = (f ()).run w1 := by
  obtain ⟨w1, hcodes⟩ := checkEquipmentCodes_run hw hd.equipmentCodes
  refine ⟨w1, changed_of_run (checkEquipmentCodes_inspects d.equipmentCodes) hcodes, fun f => ?_⟩
  rw [checkDefinition_of_complete hd]
  exact World.run_bind_of_ok hcodes

theorem examine_run (hw : Reliable w) (hid : d.id = none) (hd : Complete w d) (hnew : w.definitions.get? (.code d.code) = none) :
    ∃ w1, (examine d).run w = (.ok (), w1) ∧ Changed w [] w1 := by
  obtain ⟨w1, hsame, hchecks⟩ := checks_run hw hd
  obtain ⟨w2, hfind, hsame2⟩ := find_run (hw.of_faults hsame.faults) d.code
  rw [hsame.definitions_eq, hnew] at hfind
  refine ⟨w2, ?_, hsame.trans hsame2⟩
  rw [examine, hid]
  exact (hchecks _).trans (World.run_bind_of_ok hfind)

theorem examineStored_run {old : Definition} (hw : Reliable w) (hd : Complete w d)
    (hold : w.definitions.get? (.code d.code) = some old) :
    ∃ w1, (examineStored d).run w = (.ok old, w1) ∧ Changed w [] w1 := by
  obtain ⟨w1, hsame, hchecks⟩ := checks_run hw hd
  obtain ⟨w2, hfind, hsame2⟩ := find_run (hw.of_faults hsame.faults) d.code
  rw [hsame.definitions_eq, hold] at hfind
  refine ⟨w2, ?_, hsame.trans hsame2⟩
  rw [examineStored]
  exact (hchecks _).trans (World.run_bind_of_ok hfind)

theorem store_run (hw : Reliable w) (hfits : Change.Fits w.definitions (.put d)) :
    ∃ w', (Channel.upsert d >>= fun stored => evict stored.code >>= fun _ => (pure stored : Action _)).run w = (.ok d, w') ∧
      Changed w [.put d] w' := by
  rcases storeThenEvict_cases (w := w) (·.code) (pure : Definition → Action Definition) rfl fun _ => hfits with
    ⟨e, w', -, -, hnever⟩ | ⟨w', hrun, hchanged⟩
  · exact absurd (hnever hw.stores) hfits.1
  · exact ⟨w', hrun, hchanged⟩

theorem update_run {old : Definition} (hw : Reliable w) (hs : w.definitions.Distinct) (hids : ∀ d ∈ w.definitions, d.id ≠ none)
    (hd : Complete w d) (hold : w.definitions.get? (.code d.code) = some old) :
    ∃ w', (update d).run w = (.ok { d with id := old.id }, w') ∧ w'.definitions.Distinct ∧
      w'.definitions = w.definitions.map (overlay [d]) := by
  obtain ⟨w1, hexamine, hsame⟩ := examineStored_run hw hd hold
  have hmem := List.mem_of_find?_eq_some hold
  have hcode := Store.code_of_get? hold
  have hfits : Change.Fits w1.definitions (.put { d with id := old.id }) := by
    rw [hsame.definitions_eq]
    exact ⟨hids old hmem, Or.inl ⟨old, hmem, rfl, hcode⟩⟩
  obtain ⟨w', hstore, hchanged⟩ := store_run (hw.of_faults hsame.faults) hfits
  have hs1 : w1.definitions.Distinct := by
    rw [hsame.definitions_eq]
    exact hs
  refine ⟨w', ?_, hchanged.definitions.distinct hs1, ?_⟩
  · rw [update_eq, World.run_bind_of_ok hexamine, hstore]
  · rw [(hchanged.definitions.of_cons).2.eq_of_nil, hfits.put_stored hs1 ⟨old, by rw [hsame.definitions_eq]; exact hmem, hcode⟩,
      hsame.definitions_eq]
    refine List.map_congr_left fun x hx => ?_
    rw [overlay_single]
    by_cases hx' : x.code = d.code
    · obtain rfl : x = old := List.inj_on_of_nodup_map hs.codes hx hmem (hx'.trans hcode.symm)
      rw [if_pos hx', if_pos hx'.symm]
    · rw [if_neg hx', if_neg (Ne.symm hx')]

theorem create_run (hw : Reliable w) (hs : w.definitions.Distinct) (hid : d.id = none) (hd : Complete w d)
    (hnew : w.definitions.get? (.code d.code) = none)
    (hfresh : ∀ m ∈ (create d).moments World.answer w, World.DrawsNewId m) :
    ∃ id w', (create d).run w = (.ok { d with id := some id }, w') ∧ w'.definitions.Distinct ∧
      w'.definitions = w.definitions ++ [{ d with id := some id }] := by
  obtain ⟨w1, hexamine, hsame⟩ := examine_run hw hid hd hnew
  have hdraws : World.DrawsNewId ⟨w1, .freshId⟩ := by
    rw [create_eq] at hfresh
    exact hfresh _ (mem_moments_bind_right hexamine (mem_moments_bind_left List.mem_cons_self))
  have hdraw : Uuid.fresh.run w1 = (.ok (w1.ids w1.idsTaken), (w1.answer .freshId).2) := rfl
  have hcodes : ∀ old ∈ w1.definitions, old.code ≠ d.code := by
    rw [hsame.definitions_eq]
    exact Store.get?_code_eq_none.1 hnew
  have hfits : Change.Fits (w1.answer .freshId).2.definitions (.put { d with id := some (w1.ids w1.idsTaken) }) :=
    ⟨by simp, Or.inr ⟨hdraws rfl, hcodes⟩⟩
  obtain ⟨w', hstore, hchanged⟩ := store_run ((hw.of_faults hsame.faults).of_faults (World.answer_fixed w1 .freshId).2) hfits
  have hs1 : (w1.answer .freshId).2.definitions.Distinct := by
    change w1.definitions.Distinct
    rw [hsame.definitions_eq]
    exact hs
  refine ⟨w1.ids w1.idsTaken, w', ?_, hchanged.definitions.distinct hs1, ?_⟩
  · rw [create_eq, World.run_bind_of_ok hexamine, World.run_bind_of_ok hdraw, hstore]
  · rw [(hchanged.definitions.of_cons).2.eq_of_nil, hfits.put_new hs1 hcodes]
    change w1.definitions ++ _ = _
    rw [hsame.definitions_eq]

/-- an operation on a channel's definition as a part of loading it -/
def seeding (d : Definition) (p : Action Definition) (action : SeedAction) : Program Failure SeedOutcome := do
  let stored ← p.mapError fun e => (Failure.ofService e).during s!"failed to seed channel '{d.code}'"
  return ⟨stored, action⟩

theorem loadChannel_eq (d : Definition) :
    loadChannel d = (get d.code .bypass).mapError .ofService >>= fun existing =>
      if existing.isSome then seeding d (update d) .updated else seeding d (create d) .created := rfl

theorem seeding_run {p : Action Definition} {stored : Definition} {action : SeedAction} (h : p.run w = (.ok stored, w')) :
    (seeding d p action).run w = (.ok ⟨stored, action⟩, w') :=
  World.run_bind_of_ok (perform_mapError_ok.2 h)

/-- a channel's code is looked up first, and nothing is changed by that -/
theorem loadChannel_run_eq (hw : Reliable w) (d : Definition) :
    ∃ w1, Changed w [] w1 ∧ (loadChannel d).run w = ((if (w.definitions.get? (.code d.code)).isSome then
      seeding d (update d) .updated else seeding d (create d) .created).run w1) ∧
      ∀ m ∈ (if (w.definitions.get? (.code d.code)).isSome then
        seeding d (update d) .updated else seeding d (create d) .created).moments World.answer w1,
        m ∈ (loadChannel d).moments World.answer w := by
  obtain ⟨w1, hfind, hsame⟩ := find_run hw d.code
  have hget : ((get d.code .bypass).mapError Failure.ofService).run w = (.ok (w.definitions.get? (.code d.code)), w1) :=
    perform_mapError_ok.2 hfind
  rw [loadChannel_eq]
  exact ⟨w1, hsame, World.run_bind_of_ok hget, fun m hm => mem_moments_bind_right hget hm⟩

theorem loadChannel_run (hw : Reliable w) (hs : w.definitions.Distinct) (hids : ∀ d ∈ w.definitions, d.id ≠ none)
    (hid : d.id = none) (hd : Complete w d)
    (hfresh : d.code ∈ w.definitions.map (·.code) ∨ ∀ m ∈ (loadChannel d).moments World.answer w, World.DrawsNewId m) :
    ∃ o w', (loadChannel d).run w = (.ok o, w') ∧ SeedStep w.definitions d o w'.definitions ∧ w'.definitions.Distinct := by
  obtain ⟨w1, hsame, hrun, hmoments⟩ := loadChannel_run_eq hw d
  have hdefinitions := hsame.definitions_eq
  have hw1 := hw.of_faults hsame.faults
  rw [hrun]
  rw [← hdefinitions] at hs hids hmoments ⊢
  rw [← complete_of_nodes hsame.nodes] at hd
  rcases hold : w1.definitions.get? (.code d.code) with _ | old
  · rw [hold] at hmoments
    have hdraws : ∀ m ∈ (create d).moments World.answer w1, World.DrawsNewId m := by
      intro m hm
      rw [← hdefinitions, or_iff_right (code_not_mem_of_get? hold)] at hfresh
      refine hfresh m (hmoments m ?_)
      exact mem_moments_bind_left (by rwa [moments_mapError])
    obtain ⟨id, w', hcreate, hdistinct, hstored⟩ := create_run hw1 hs hid hd hold hdraws
    refine ⟨_, w', seeding_run hcreate, ?_, hdistinct⟩
    rw [hstored]
    exact .created id hold
  · obtain ⟨w', hupdate, hdistinct, hstored⟩ := update_run hw1 hs hids hd hold
    refine ⟨_, w', seeding_run hupdate, ?_, hdistinct⟩
    rw [hstored]
    exact .updated hold

/-- what only inspects and does not succeed changes nothing -/
theorem refused_of_inspects {α β : Type} {p : Action α} {f : α → Action β} (hp : p.Only Call.Inspects)
    (h : ∀ a w1, p.run w ≠ (.ok a, w1)) : ∃ e w', (p >>= f).run w = (.error e, w') ∧ w'.definitions = w.definitions := by
  rcases hrun : p.run w with ⟨e | a, w'⟩
  · exact ⟨e, w', World.run_bind_of_error hrun, (changed_of_run hp hrun).definitions_eq⟩
  · exact absurd hrun (h a w')

theorem seeding_refused {p : Action Definition} {action : SeedAction}
    (h : ∃ e w', p.run w = (.error e, w') ∧ w'.definitions = w.definitions) :
    ∃ e w', (seeding d p action).run w =
      (.error ((Failure.ofService e).during s!"failed to seed channel '{d.code}'"), w') ∧ w'.definitions = w.definitions := by
  obtain ⟨e, w', hrun, hsame⟩ := h
  refine ⟨e, w', World.run_bind_of_error ?_, hsame⟩
  rw [Program.run, perform_mapError]
  change ((p.run w).1.mapError _, (p.run w).2) = _
  rw [hrun]
  rfl

theorem loadChannel_refused (hw : Reliable w) (hd : ¬ Complete w d) :
    ∃ e w', (loadChannel d).run w = (.error ((Failure.ofService e).during s!"failed to seed channel '{d.code}'"), w') ∧
      w'.definitions = w.definitions := by
  obtain ⟨w1, hsame, hrun, -⟩ := loadChannel_run_eq hw d
  rw [← complete_of_nodes hsame.nodes] at hd
  rw [hrun, ← hsame.definitions_eq]
  split
  · rw [update_eq]
    exact seeding_refused (refused_of_inspects (examineStored_inspects d) fun a w2 h => hd (checks_ok h).1)
  · rw [create_eq]
    exact seeding_refused (refused_of_inspects (examine_inspects d) fun a w2 h => hd (examine_ok h).1)

/-! ## Loading -/

theorem SeedStep.ids {o : SeedOutcome} (h : SeedStep s d o t) (hs : ∀ x ∈ s, x.id ≠ none) : ∀ x ∈ t, x.id ≠ none := by
  cases h with
  | updated hold =>
    intro x hx
    obtain ⟨old, hmem, rfl⟩ := List.mem_map.1 hx
    rw [overlay_single_id]
    exact hs old hmem
  | created id hnew => exact List.forall_mem_append.2 ⟨hs, by simp⟩

/-- what is stored is only replaced or added to -/
theorem SeedStep.codes {o : SeedOutcome} (h : SeedStep s d o t) {code : String} (hcode : code ∈ s.map (·.code)) :
    code ∈ t.map (·.code) := by
  cases h with
  | updated hold => rwa [map_code_overlay]
  | created id hnew =>
    rw [List.map_append]
    exact List.mem_append_left _ hcode

theorem load_append (before after : List Definition) :
    load (before ++ after) = load before >>= fun outcomes => load after >>= fun later => pure (outcomes ++ later) := by
  induction before with
  | nil => exact (bind_pure (load after)).symm
  | cons d before ih => simp only [List.cons_append, load, ih, LawfulMonad.bind_assoc, pure_bind]

/-- complete channels are all loaded -/
theorem load_run (hw : Reliable w) (hs : w.definitions.Distinct) (hids : ∀ d ∈ w.definitions, d.id ≠ none)
    {channels : List Definition} (hnone : ∀ d ∈ channels, d.id = none) (hcomplete : ∀ d ∈ channels, Complete w d)
    (hfresh : (∀ d ∈ channels, d.code ∈ w.definitions.map (·.code)) ∨
      ∀ m ∈ (load channels).moments World.answer w, World.DrawsNewId m) :
    ∃ outcomes w', (load channels).run w = (.ok outcomes, w') ∧ SeedRun w.definitions channels outcomes w'.definitions ∧
      w'.definitions.Distinct ∧ ∀ d ∈ w'.definitions, d.id ≠ none := by
  induction channels generalizing w with
  | nil => exact ⟨[], w, rfl, .nil _, hs, hids⟩
  | cons d channels ih =>
    rw [List.forall_mem_cons] at hnone hcomplete
    obtain ⟨o, w1, hchannel, hstep, hs1⟩ := loadChannel_run hw hs hids hnone.1 hcomplete.1
      (hfresh.imp (fun h => h d List.mem_cons_self) fun h m hm => h m (mem_moments_bind_left hm))
    obtain ⟨hnodes, hfaults⟩ := World.run_fixed (loadChannel d) w
    rw [hchannel] at hnodes hfaults
    obtain ⟨outcomes, w', hrest, hrun, hs', hids'⟩ := ih (hw.of_faults hfaults) hs1 (hstep.ids hids) hnone.2
      (fun c hc => (complete_of_nodes hnodes).2 (hcomplete.2 c hc))
      (hfresh.imp (fun h c hc => hstep.codes (h c (List.mem_cons_of_mem _ hc))) fun h m hm =>
        h m (mem_moments_bind_right hchannel (mem_moments_bind_left hm)))
    refine ⟨o :: outcomes, w', ?_, .cons hstep hrun, hs', hids'⟩
    rw [load, World.run_bind_of_ok hchannel, World.run_bind_of_ok hrest]
    rfl

theorem exists_first_refused {channels : List Definition} (h : ¬ ∀ d ∈ channels, Complete w d) :
    ∃ before d after, channels = before ++ d :: after ∧ (∀ c ∈ before, Complete w c) ∧ ¬ Complete w d := by
  induction channels with
  | nil => exact absurd (by simp) h
  | cons first channels ih =>
    by_cases hfirst : Complete w first
    · obtain ⟨before, d, after, rfl, hbefore, hd⟩ := ih fun hrest => h (List.forall_mem_cons.2 ⟨hfirst, hrest⟩)
      exact ⟨first :: before, d, after, rfl, List.forall_mem_cons.2 ⟨hfirst, hbefore⟩, hd⟩
    · exact ⟨[], first, channels, rfl, by simp, hfirst⟩

/-- the first channel that is not complete ends the loading, after those before it are stored -/
theorem load_refused (hw : Reliable w) (hs : w.definitions.Distinct) (hids : ∀ d ∈ w.definitions, d.id ≠ none)
    {before after : List Definition} (hnone : ∀ c ∈ before, c.id = none) (hcomplete : ∀ c ∈ before, Complete w c)
    (hd : ¬ Complete w d) (hfresh : ∀ m ∈ (load (before ++ d :: after)).moments World.answer w, World.DrawsNewId m) :
    ∃ e w' outcomes w1, (load (before ++ d :: after)).run w =
        (.error ((Failure.ofService e).during s!"failed to seed channel '{d.code}'"), w') ∧
      (load before).run w = (.ok outcomes, w1) ∧ SeedRun w.definitions before outcomes w1.definitions ∧
      w'.definitions = w1.definitions := by
  rw [load_append] at hfresh ⊢
  obtain ⟨outcomes, w1, hbefore, hrun, -⟩ := load_run hw hs hids hnone hcomplete
    (Or.inr fun m hm => hfresh m (mem_moments_bind_left hm))
  obtain ⟨hnodes, hfaults⟩ := World.run_fixed (load before) w
  rw [hbefore] at hnodes hfaults
  obtain ⟨e, w', hrefused, hsame⟩ := loadChannel_refused (hw.of_faults hfaults) (mt (complete_of_nodes hnodes).1 hd)
  refine ⟨e, w', outcomes, w1, ?_, hbefore, hrun, hsame⟩
  rw [World.run_bind_of_ok hbefore, load]
  exact World.run_bind_of_error (World.run_bind_of_error hrefused)

namespace Seed

/-- a world in which a seed is loaded: the hierarchy is that of the seed, and nothing fails -/
structure Hosts (seed : Seed) (w : World) : Prop extends Reliable w where
  nodes : w.nodes = seed.nodes.reverse

theorem hosts_world (seed : Seed) (definitions : Store) : seed.Hosts (seed.world definitions) :=
  ⟨⟨fun _ _ => rfl, fun _ _ => rfl⟩, rfl⟩

/-- the channel is filled in, and its equipment codes are those of nodes of the seed -/
structure Accepts (seed : Seed) (d : Definition) : Prop where
  code : isBlankText d.code = false
  dimension : isBlankText d.dimension = false
  unit : isBlankText d.unit = false
  equipmentCodes : ∀ code ∈ d.equipmentCodes, ∃ node ∈ seed.nodes, node.code = code

instance (seed : Seed) (d : Definition) : Decidable (seed.Accepts d) :=
  decidable_of_iff
    (isBlankText d.code = false ∧ isBlankText d.dimension = false ∧ isBlankText d.unit = false ∧
      ∀ code ∈ d.equipmentCodes, ∃ node ∈ seed.nodes, node.code = code)
    ⟨fun ⟨hcode, hdimension, hunit, hcodes⟩ => ⟨hcode, hdimension, hunit, hcodes⟩,
      fun h => ⟨h.code, h.dimension, h.unit, h.equipmentCodes⟩⟩

theorem accepts_iff {seed : Seed} (hw : seed.Hosts w) : seed.Accepts d ↔ Complete w d := by
  have hnode (code : String) : (∃ node ∈ seed.nodes, node.code = code) ↔ ∃ node, w.node code = .ok node := by
    rw [World.node, hw.nodes]
    rcases hfound : seed.nodes.reverse.find? fun n => n.code == code with _ | node <;> simp only [hfound]
    · simpa using hfound
    · have hmem := List.mem_of_find?_eq_some hfound
      have hcode := List.find?_some hfound
      exact ⟨fun _ => ⟨node, rfl⟩, fun _ => ⟨node, List.mem_reverse.1 hmem, beq_iff_eq.1 hcode⟩⟩
  constructor
  · rintro ⟨hcode, hdimension, hunit, hcodes⟩
    exact ⟨hcode, hdimension, hunit, fun code hmem => (hnode code).1 (hcodes code hmem)⟩
  · rintro ⟨hcode, hdimension, hunit, hcodes⟩
    exact ⟨hcode, hdimension, hunit, fun code hmem => (hnode code).2 (hcodes code hmem)⟩

theorem channel?_id {v : Toml.Value} (h : channel? v = some d) : d.id = none := by
  simp only [channel?, Option.bind_eq_bind, Option.bind_eq_some_iff] at h
  obtain ⟨fields, -, code, -, dimension, -, unit, -, displayName, -, classification, -, codes, -, hdone⟩ := h
  cases hdone
  rfl

/-- channels that are read have no ids -/
theorem ofToml_ids {content : String} {seed : Seed} (h : ofToml content = .ok seed) : ∀ d ∈ seed.channels, d.id = none := by
  unfold ofToml at h
  split at h
  · rename_i found hread
    cases h
    obtain ⟨entries, -, hentries⟩ := Option.bind_eq_some_iff.1 hread
    simp only [ofEntries?, Option.bind_eq_bind, Option.bind_eq_some_iff] at hentries
    obtain ⟨nodes, -, channels, hchannels, hdone⟩ := hentries
    cases hdone
    intro d hd
    unfold Toml.Fields.withDefault at hchannels
    split at hchannels
    · rename_i v _
      cases v with
      | array items =>
        obtain ⟨item, hitem⟩ := exists_of_mem_mapM hchannels d hd
        exact channel?_id hitem
      | _ => cases hchannels
    · cases hchannels
      cases hd
  · cases h

end Seed

/-- a seed that has been loaded is loaded again without a change -/
theorem load_again {channels : List Definition} (hrun : SeedRun s channels outcomes w.definitions) (hw : Reliable w)
    (hs : w.definitions.Distinct) (hids : ∀ d ∈ w.definitions, d.id ≠ none) (hnone : ∀ d ∈ channels, d.id = none)
    (hcomplete : ∀ d ∈ channels, Complete w d) :
    ∃ outcomes' w', (load channels).run w = (.ok outcomes', w') ∧ (∀ o ∈ outcomes', o.action = .updated) ∧
      w'.definitions = w.definitions := by
  have hknown : ∀ d ∈ channels, d.code ∈ w.definitions.map (·.code) := by
    rw [hrun.closed, map_code_overlay]
    exact hrun.created_codes.2
  obtain ⟨outcomes', w', hload, hrun', -⟩ := load_run hw hs hids hnone hcomplete (Or.inl hknown)
  exact ⟨outcomes', w', hload, hrun.again hrun'⟩

/-- **Loading a seed.** Take any seed that is read from a file, and definitions that are apart in id and code, in a world
where the hierarchy is that of the seed, nothing fails, and every id drawn is new. Loading succeeds if and only if every
channel is filled in and names nodes of the seed alone. If it succeeds, the outcomes are those of the channels in their
order, a channel is created if it is the first of a code that was not stored and updated otherwise; the last channel of each
code is stored, under the id that was there or that its code was created with; and definitions under other codes are as they
were. Loading the seed again then updates every channel and changes nothing. If it fails, it does so at the first channel
that is not accepted, tells its code, and stores what loading the channels before it stores. -/
theorem seed_loads (content : String) (seed : Seed) (w : World) (hread : Seed.ofToml content = .ok seed) (hw : seed.Hosts w)
    (hs : w.definitions.Distinct) (hids : ∀ d ∈ w.definitions, d.id ≠ none)
    (hfresh : ∀ m ∈ (load seed.channels).moments World.answer w, World.DrawsNewId m) :
    ((∃ outcomes w', (load seed.channels).run w = (.ok outcomes, w')) ↔ ∀ d ∈ seed.channels, seed.Accepts d) ∧
    (∀ outcomes w', (load seed.channels).run w = (.ok outcomes, w') →
      Seeded w.definitions seed.channels outcomes w'.definitions ∧
        ∀ u, seed.Hosts u → u.definitions = w'.definitions →
          ∃ outcomes' u', (load seed.channels).run u = (.ok outcomes', u') ∧ (∀ o ∈ outcomes', o.action = .updated) ∧
            u'.definitions = u.definitions) ∧
    ∀ e w', (load seed.channels).run w = (.error e, w') →
      ∃ before d after outcomes w1, seed.channels = before ++ d :: after ∧ (∀ c ∈ before, seed.Accepts c) ∧
        ¬ seed.Accepts d ∧ (∃ cause, e = (Failure.ofService cause).during s!"failed to seed channel '{d.code}'") ∧
        (load before).run w = (.ok outcomes, w1) ∧ w'.definitions = w1.definitions := by
  have hnone := Seed.ofToml_ids hread
  have haccepts : (∀ d ∈ seed.channels, seed.Accepts d) ↔ ∀ d ∈ seed.channels, Complete w d :=
    forall₂_congr fun d _ => Seed.accepts_iff hw
  by_cases hcomplete : ∀ d ∈ seed.channels, Complete w d
  · obtain ⟨outcomes, w', hload, hrun, hs', hids'⟩ := load_run hw.toReliable hs hids hnone hcomplete (Or.inr hfresh)
    refine ⟨iff_of_true ⟨outcomes, w', hload⟩ (haccepts.2 hcomplete), fun outcomes' w'' h => ?_, fun e w'' h => ?_⟩
    · cases hload.symm.trans h
      refine ⟨hrun.seeded hs hs', fun u hu hsame => ?_⟩
      rw [← hsame] at hrun hs' hids'
      exact load_again hrun hu.toReliable hs' hids' hnone fun d hd =>
        (Seed.accepts_iff hu).1 (haccepts.2 hcomplete d hd)
    · cases hload.symm.trans h
  · obtain ⟨before, d, after, hsplit, hbefore, hd⟩ := exists_first_refused hcomplete
    rw [hsplit] at hfresh
    obtain ⟨e, w', outcomes, w1, hload, hstored, -, hsame⟩ := load_refused hw.toReliable hs hids
      (fun c hc => hnone c (by rw [hsplit]; exact List.mem_append_left _ hc)) hbefore hd hfresh
    rw [← hsplit] at hload
    refine ⟨iff_of_false ?_ (mt haccepts.1 hcomplete), fun outcomes' w'' h => ?_, fun e' w'' h => ?_⟩
    · rintro ⟨outcomes', w'', h⟩
      cases hload.symm.trans h
    · cases hload.symm.trans h
    · cases hload.symm.trans h
      exact ⟨before, d, after, outcomes, w1, hsplit, fun c hc => (Seed.accepts_iff hw).2 (hbefore c hc),
        mt (Seed.accepts_iff hw).1 hd, ⟨e, rfl⟩, hstored, hsame⟩

def storedPair : Store :=
  [{ id := some (.ofNat 7), code := "load", dimension := "power", unit := "kW", equipmentCodes := ["T1"] },
    { id := some (.ofNat 8), code := "speed", dimension := "frequency", unit := "Hz" }]

/-- a flow, a load, and the flow once more with another unit -/
def pairFile : String :=
  "node=[\x7bwk_id=\"B1\",name=\"acme\"\x7d]\nchannel=[\n" ++
  "\x7bcode=\"flow\",dimension=\"flow\",unit=\"l/s\"\x7d,\n" ++
  "\x7bcode=\"load\",dimension=\"power\",unit=\"W\",equipment_codes=[\"B1\"]\x7d,\n" ++
  "\x7bcode=\"flow\",dimension=\"flow\",unit=\"m3/h\"\x7d]"

def pairSeed : Seed :=
  { nodes := [⟨"B1", "acme", []⟩]
    channels :=
      [{ code := "flow", dimension := "flow", unit := "l/s" },
        { code := "load", dimension := "power", unit := "W", equipmentCodes := ["B1"] },
        { code := "flow", dimension := "flow", unit := "m3/h" }] }

theorem pairFile_read : Seed.ofToml pairFile = .ok pairSeed := by decide +kernel

/-- the world after the seed is loaded beside the pair -/
def seededWorld : World := ((load pairSeed.channels).run (pairSeed.world storedPair)).2

/-- the flow is created and then updated, the load keeps its id, and the speed is as it was -/
theorem seed_loads_pair :
    Seed.ofToml pairFile = .ok pairSeed ∧ storedPair.Distinct ∧ (∀ d ∈ storedPair, d.id ≠ none) ∧
      ((∃ outcomes w', (load pairSeed.channels).run (pairSeed.world storedPair) = (.ok outcomes, w')) ↔
        ∀ d ∈ pairSeed.channels, pairSeed.Accepts d) ∧
      (∃ outcomes, Seeded storedPair pairSeed.channels outcomes seededWorld.definitions ∧
        outcomes.map (·.action) = [.created, .updated, .updated]) ∧
      seededWorld.definitions =
        [{ id := some (.ofNat 7), code := "load", dimension := "power", unit := "W", equipmentCodes := ["B1"] },
          { id := some (.ofNat 8), code := "speed", dimension := "frequency", unit := "Hz" },
          { id := some (.ofNat 0), code := "flow", dimension := "flow", unit := "m3/h" }] ∧
      ∃ outcomes u, (load pairSeed.channels).run (pairSeed.world seededWorld.definitions) = (.ok outcomes, u) ∧
        (∀ o ∈ outcomes, o.action = .updated) ∧ u.definitions = seededWorld.definitions := by
  have hs : storedPair.Distinct := ⟨by decide +kernel, by decide +kernel⟩
  have hids : ∀ d ∈ storedPair, d.id ≠ none := by decide +kernel
  have hfresh : ∀ m ∈ (load pairSeed.channels).moments World.answer (pairSeed.world storedPair), World.DrawsNewId m := by
    decide +kernel
  obtain ⟨hiff, hloaded, -⟩ :=
    seed_loads pairFile pairSeed (pairSeed.world storedPair) pairFile_read (pairSeed.hosts_world storedPair) hs hids hfresh
  have haccepts : ∀ d ∈ pairSeed.channels, pairSeed.Accepts d := by decide +kernel
  obtain ⟨outcomes, w', hload⟩ := hiff.2 haccepts
  obtain rfl : seededWorld = w' := congrArg Prod.snd hload
  obtain ⟨hseeded, hagain⟩ := hloaded _ _ hload
  refine ⟨pairFile_read, hs, hids, hiff, ⟨outcomes, hseeded, hseeded.actions.trans (by decide +kernel)⟩, by decide +kernel, ?_⟩
  exact hagain _ (pairSeed.hosts_world _) rfl

end Telemetry.Catalog
