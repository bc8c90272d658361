import Telemetry.Proofs.Catalog.Changes
/-
What a reassignment leaves.

A reassignment looks everything up before it stores anything, and then goes through the definitions it found, which are not
those that are stored by then. It still edits each of them as it is stored: no definition is edited twice, since the first
loop is over definitions that list the equipment code and the second over others, and no code is met twice in either.

- `Applied.edited`: editing some of the stored definitions, one after another, is editing them all at once;
- `Surveyed`: what is looked up;
- `reassign_ok`: one map over the definitions, and what the cache loses;
- `reassign_settles`: the channels that list the equipment code are the desired ones, and nothing else is different.
-/
namespace Telemetry

open Program

namespace Channel

/-- editing stored definitions under their ids and codes, one after another, each as it was at first -/
theorem Applied.edited (edit : Definition → Definition) (hcode : ∀ d, (edit d).code = d.code) {ds : List Definition}
    {s t : Store} (hs : s.Distinct) (hds : ∀ d ∈ ds, d ∈ s) (hcodes : (ds.map (·.code)).Nodup)
    (h : Applied s (ds.map fun d => .put (edit d)) t) :
    t = s.map fun d => if d.code ∈ ds.map (·.code) then edit d else d := by
  induction ds generalizing s with
  | nil =>
    rw [h.eq_of_nil]
    simp
  | cons d ds ih =>
    obtain ⟨hfits, hrest⟩ := h.of_cons
    rw [List.forall_mem_cons] at hds
    rw [List.map_cons, List.nodup_cons] at hcodes
    have hput := hfits.put_stored hs ⟨d, hds.1, (hcode d).symm⟩
    have hothers : ∀ other ∈ ds, other ∈ Change.apply s (.put (edit d)) := by
      intro other hother
      have hne : other.code ≠ (edit d).code := fun heq =>
        hcodes.1 (List.mem_map.2 ⟨other, hother, heq.trans (hcode d)⟩)
      rw [hput]
      exact List.mem_map.2 ⟨other, hds.2 other hother, if_neg hne⟩
    rw [ih (hfits.distinct hs) hothers hcodes.2 hrest, hput, List.map_map]
    refine List.map_congr_left fun old hold => ?_
    by_cases hd : old.code = d.code
    · obtain rfl : old = d := List.inj_on_of_nodup_map hs.codes hold hds.1 hd
      simp only [Function.comp_apply, hcode, if_true, hcodes.1, if_false, List.map_cons, List.mem_cons, true_or]
    · simp only [Function.comp_apply, hcode, hd, if_false, List.map_cons, List.mem_cons, false_or]

end Channel

namespace Catalog

open Channel

variable {w w' u : World} {equipmentCode : String} {desired : List String} {d : Definition}

/-! ## Definitions that list an equipment code -/

/-- the codes of the definitions that list an equipment code, in the order they are stored -/
def associated (equipmentCode : String) (s : Store) : List String :=
  (s.select (.equipmentCode equipmentCode)).map (·.code)

theorem mem_select_equipment {s : Store} :
    d ∈ s.select (.equipmentCode equipmentCode) ↔ d ∈ s ∧ equipmentCode ∈ d.equipmentCodes := by
  simp [Store.select, Filter.accepts]

theorem mem_associated {s : Store} {code : String} :
    code ∈ associated equipmentCode s ↔ ∃ d ∈ s, equipmentCode ∈ d.equipmentCodes ∧ d.code = code := by
  simp only [associated, List.mem_map, mem_select_equipment, and_assoc]

theorem code_mem_associated {s : Store} (hs : s.Distinct) (hd : d ∈ s) :
    d.code ∈ associated equipmentCode s ↔ equipmentCode ∈ d.equipmentCodes := by
  rw [mem_associated]
  constructor
  · rintro ⟨other, hother, hlists, hcode⟩
    rwa [← List.inj_on_of_nodup_map hs.codes hother hd hcode]
  · exact fun hlists => ⟨d, hd, hlists, rfl⟩

theorem eraseDups_nodup (codes : List String) : codes.eraseDups.Nodup := by
  cases codes with
  | nil => exact List.nodup_nil
  | cons code codes =>
    rw [List.eraseDups_cons, List.nodup_cons, List.mem_eraseDups]
    exact ⟨by simp, eraseDups_nodup (codes.filter fun other => !other == code)⟩
termination_by codes.length
decreasing_by exact Nat.lt_succ_of_le (List.length_filter_le _ _)

theorem withoutEquipment_of_not_mem (h : equipmentCode ∉ d.equipmentCodes) : withoutEquipment equipmentCode d = d := by
  have hsame : d.equipmentCodes.filter (· != equipmentCode) = d.equipmentCodes :=
    List.filter_eq_self.2 fun code hcode => by
      rw [bne_iff_ne]
      rintro rfl
      exact h hcode
  rw [withoutEquipment, hsame]

/-- what a reassignment makes of a definition -/
def reassigned (equipmentCode : String) (desired : List String) (d : Definition) : Definition :=
  if d.code ∉ desired then withoutEquipment equipmentCode d
  else if equipmentCode ∈ d.equipmentCodes then d
  else withEquipment equipmentCode d

theorem reassigned_code (d : Definition) : (reassigned equipmentCode desired d).code = d.code := by
  unfold reassigned
  split
  · rfl
  · split <;> rfl

theorem mem_reassigned : equipmentCode ∈ (reassigned equipmentCode desired d).equipmentCodes ↔ d.code ∈ desired := by
  unfold reassigned
  split
  · simp_all [withoutEquipment]
  · split <;> simp_all [withEquipment]

/-- nothing of a definition changes but how it lists the equipment code -/
theorem withoutEquipment_reassigned (d : Definition) :
    withoutEquipment equipmentCode (reassigned equipmentCode desired d) = withoutEquipment equipmentCode d := by
  unfold reassigned
  split
  · simp [withoutEquipment]
  · split
    · rfl
    · simp [withoutEquipment, withEquipment]

/-- a definition that lists the equipment code if it is desired stays as it is -/
theorem reassigned_of_settled (h : equipmentCode ∈ d.equipmentCodes ↔ d.code ∈ desired) :
    reassigned equipmentCode desired d = d := by
  unfold reassigned
  split
  · rename_i hnot
    exact withoutEquipment_of_not_mem (mt h.1 hnot)
  · rename_i hdesired
    exact if_pos (h.2 (not_not.1 hdesired))

/-! ## What is looked up -/

theorem require_run (hw : w.faults.StoresNeverFail) {code : String} (hd : w.definitions.get? (.code code) = some d) :
    ∃ w1, (require code .bypass).run w = (.ok d, w1) := by
  have hfind := find_of_no_fault (hw w.calls (.channelGet (.code code)))
  rw [hd] at hfind
  exact ⟨_, World.run_bind_of_ok hfind⟩

theorem requireAll_codes {codes : List String} {ds : List Definition} (h : (requireAll .bypass codes).run w = (.ok ds, w')) :
    ds.map (·.code) = codes := by
  induction codes generalizing w ds with
  | nil => cases h; rfl
  | cons code codes ih =>
    obtain ⟨d, w1, hrequire, hrest⟩ := World.run_bind_ok.1 h
    obtain ⟨rest, w2, hall, hpure⟩ := World.run_bind_ok.1 hrest
    cases hpure
    rw [List.map_cons, ih hall, Store.code_of_get? (require_ok hrequire)]

theorem requireAll_run (hw : w.faults.StoresNeverFail) (codes : List String)
    (h : ∀ code ∈ codes, ∃ d ∈ w.definitions, d.code = code) : ∃ ds w1, (requireAll .bypass codes).run w = (.ok ds, w1) := by
  induction codes generalizing w with
  | nil => exact ⟨[], w, rfl⟩
  | cons code codes ih =>
    rw [List.forall_mem_cons] at h
    obtain ⟨d, hd⟩ : ∃ d, w.definitions.get? (.code code) = some d := by
      obtain ⟨d, hd, hcode⟩ := h.1
      exact Option.ne_none_iff_exists'.1 fun hnone => Store.get?_code_eq_none.1 hnone d hd hcode
    obtain ⟨w1, hrequire⟩ := require_run hw hd
    have hsame := changed_of_run (require_inspects code) hrequire
    obtain ⟨ds, w2, hall⟩ := ih (w := w1) (by rw [hsame.faults]; exact hw) (by rw [hsame.definitions_eq]; exact h.2)
    rw [requireAll, World.run_bind_of_ok hrequire, World.run_bind_of_ok hall]
    exact ⟨_, _, rfl⟩

/-- the definitions that lose an equipment code, and those that get it, each in their order -/
structure Surveyed (s : Store) (equipmentCode : String) (desired : List String) (found : List Definition × List Definition) :
    Prop where
  mem_removed : ∀ d, d ∈ found.1 ↔ d ∈ s ∧ equipmentCode ∈ d.equipmentCodes ∧ d.code ∉ desired
  removed : found.1.map (·.code) = (associated equipmentCode s).filter (· ∉ desired)
  mem_added : ∀ d, d ∈ found.2 ↔ d ∈ s ∧ equipmentCode ∉ d.equipmentCodes ∧ d.code ∈ desired
  added : found.2.map (·.code) = desired.eraseDups.filter (· ∉ associated equipmentCode s)
  desired_stored : ∀ code ∈ desired, ∃ d ∈ s, d.code = code

namespace Surveyed

variable {s : Store} {found : List Definition × List Definition}

theorem codes_nodup (h : Surveyed s equipmentCode desired found) (hs : s.Distinct) :
    (found.1.map (·.code)).Nodup ∧ (found.2.map (·.code)).Nodup := by
  rw [h.removed, h.added]
  have hassociated : (associated equipmentCode s).Nodup := hs.codes.sublist (List.filter_sublist.map _)
  exact ⟨hassociated.filter _, (eraseDups_nodup desired).filter _⟩

theorem code_mem_removed (h : Surveyed s equipmentCode desired found) (hs : s.Distinct) (hd : d ∈ s) :
    d.code ∈ found.1.map (·.code) ↔ equipmentCode ∈ d.equipmentCodes ∧ d.code ∉ desired := by
  simp only [h.removed, List.mem_filter, code_mem_associated hs hd, decide_eq_true_iff]

theorem code_mem_added (h : Surveyed s equipmentCode desired found) (hs : s.Distinct) (hd : d ∈ s) :
    d.code ∈ found.2.map (·.code) ↔ d.code ∈ desired ∧ equipmentCode ∉ d.equipmentCodes := by
  simp only [h.added, List.mem_filter, List.mem_eraseDups, code_mem_associated hs hd, decide_eq_true_iff]

/-- what is edited in two rounds is edited once -/
theorem edits (h : Surveyed s equipmentCode desired found) (hs : s.Distinct) (hd : d ∈ s) :
    ((fun d => if d.code ∈ found.2.map (·.code) then withEquipment equipmentCode d else d) ∘
      fun d => if d.code ∈ found.1.map (·.code) then withoutEquipment equipmentCode d else d) d =
      reassigned equipmentCode desired d := by
  rw [Function.comp_apply, reassigned]
  by_cases hremoved : d.code ∈ found.1.map (·.code)
  · obtain ⟨-, hdesired⟩ := (h.code_mem_removed hs hd).1 hremoved
    have hnot : d.code ∉ found.2.map (·.code) := fun hadded => hdesired ((h.code_mem_added hs hd).1 hadded).1
    rw [if_pos hremoved, if_pos hdesired]
    exact if_neg hnot
  · rw [if_neg hremoved]
    by_cases hadded : d.code ∈ found.2.map (·.code)
    · obtain ⟨hdesired, hlists⟩ := (h.code_mem_added hs hd).1 hadded
      rw [if_pos hadded, if_neg (not_not.2 hdesired), if_neg hlists]
    · rw [if_neg hadded]
      by_cases hdesired : d.code ∈ desired
      · have hlists : equipmentCode ∈ d.equipmentCodes := by
          by_contra hlists
          exact hadded ((h.code_mem_added hs hd).2 ⟨hdesired, hlists⟩)
        rw [if_neg (not_not.2 hdesired), if_pos hlists]
      · have hlists : equipmentCode ∉ d.equipmentCodes :=
          fun hlists => hremoved ((h.code_mem_removed hs hd).2 ⟨hlists, hdesired⟩)
        rw [if_pos hdesired, withoutEquipment_of_not_mem hlists]

/-- the definitions that get the code are not among those that lost it, so they are stored as they were looked up -/
theorem kept (h : Surveyed s equipmentCode desired found) (hs : s.Distinct) :
    ∀ d ∈ found.2, d ∈ s.map fun d => if d.code ∈ found.1.map (·.code) then withoutEquipment equipmentCode d else d := by
  intro d hd
  obtain ⟨hstored, hlists, -⟩ := (h.mem_added d).1 hd
  refine List.mem_map.2 ⟨d, hstored, if_neg fun hremoved => ?_⟩
  exact hlists ((h.code_mem_removed hs hstored).1 hremoved).1

end Surveyed

theorem survey_surveyed {found : List Definition × List Definition} (hs : w.definitions.Distinct)
    (h : (survey equipmentCode desired).run w = (.ok found, w')) : Surveyed w.definitions equipmentCode desired found := by
  obtain ⟨_, w1, hcheck, hrest⟩ := World.run_bind_ok.1 h
  obtain ⟨wanted, w2, hwanted, hrest⟩ := World.run_bind_ok.1 hrest
  obtain ⟨current, w3, hcurrent, hpure⟩ := World.run_bind_ok.1 hrest
  have hsame1 := (changed_of_run (checkEquipmentCodes_inspects [equipmentCode]) hcheck).definitions_eq
  have hsame2 := (changed_of_run (requireAll_inspects desired.eraseDups) hwanted).definitions_eq
  rw [hsame1] at hsame2
  have hstored := requireAll_ok hwanted
  have hcodes := requireAll_codes hwanted
  have hselect := select_ok hcurrent
  rw [hsame1] at hstored
  rw [hsame2] at hselect
  cases hpure
  subst hselect
  have hmem (d : Definition) : d ∈ wanted ↔ d ∈ w.definitions ∧ d.code ∈ desired := by
    rw [← List.mem_eraseDups (l := desired), ← hcodes]
    refine ⟨fun hd => ⟨hstored d hd, List.mem_map_of_mem hd⟩, fun ⟨hd, hcode⟩ => ?_⟩
    obtain ⟨other, hother, heq⟩ := List.mem_map.1 hcode
    rwa [← List.inj_on_of_nodup_map hs.codes (hstored other hother) hd heq]
  have hnew (d : Definition) :
      (!((w.definitions.select (.equipmentCode equipmentCode)).map (·.code)).contains d.code) =
        decide (d.code ∉ associated equipmentCode w.definitions) := by
    rw [List.contains_eq_mem, decide_not]
    rfl
  refine ⟨fun d => ?_, ?_, fun d => ?_, ?_, fun code hcode => ?_⟩
  · simp [mem_select_equipment, and_assoc]
  · simp [associated, List.filter_map, Function.comp_def]
  · rw [List.mem_filter, hmem, hnew, decide_eq_true_iff]
    constructor
    · rintro ⟨⟨hd, hdesired⟩, hnot⟩
      exact ⟨hd, fun hlists => hnot ((code_mem_associated hs hd).2 hlists), hdesired⟩
    · rintro ⟨hd, hnot, hdesired⟩
      exact ⟨⟨hd, hdesired⟩, fun hlists => hnot ((code_mem_associated hs hd).1 hlists)⟩
  · rw [← hcodes, List.filter_map]
    exact congrArg _ (List.filter_congr fun d _ => hnew d)
  · rw [← List.mem_eraseDups (l := desired), ← hcodes] at hcode
    obtain ⟨d, hd, heq⟩ := List.mem_map.1 hcode
    exact ⟨d, hstored d hd, heq⟩

theorem select_run (hw : w.faults.StoresNeverFail) (filter : Filter) :
    ∃ found w1, (Channel.select filter).run w = (.ok found, w1) := by
  simp only [Channel.select, Program.run, perform, World.answer, World.onRepository, hw w.calls]
  exact ⟨_, _, rfl⟩

theorem checkEquipmentCodes_single :
    (∃ w1, (checkEquipmentCodes [equipmentCode]).run w = (.ok (), w1)) ↔
      ∃ node w1, (Hierarchy.resolve equipmentCode).run w = (.ok node, w1) := by
  constructor
  · rintro ⟨w1, h⟩
    obtain ⟨node, w2, hresolve, -⟩ := World.run_bind_ok.1 h
    exact ⟨node, w2, hresolve⟩
  · rintro ⟨node, w1, hresolve⟩
    exact ⟨w1, World.run_bind_of_ok hresolve⟩

/-- what is looked up is found if the hierarchy knows the equipment code, and the desired channels exist -/
theorem survey_succeeds_iff (hs : w.definitions.Distinct) (hw : w.faults.StoresNeverFail) :
    (∃ found w', (survey equipmentCode desired).run w = (.ok found, w')) ↔
      (∃ node w1, (Hierarchy.resolve equipmentCode).run w = (.ok node, w1)) ∧
        ∀ code ∈ desired, ∃ d ∈ w.definitions, d.code = code := by
  constructor
  · rintro ⟨found, w', h⟩
    obtain ⟨_, w1, hcheck, -⟩ := World.run_bind_ok.1 h
    exact ⟨checkEquipmentCodes_single.1 ⟨w1, hcheck⟩, (survey_surveyed hs h).desired_stored⟩
  · rintro ⟨hresolve, hdesired⟩
    obtain ⟨w1, hcheck⟩ := checkEquipmentCodes_single.2 hresolve
    have hsame := changed_of_run (checkEquipmentCodes_inspects [equipmentCode]) hcheck
    have hw1 : w1.faults.StoresNeverFail := by
      rw [hsame.faults]
      exact hw
    obtain ⟨wanted, w2, hwanted⟩ := requireAll_run hw1 desired.eraseDups fun code hcode => by
      rw [hsame.definitions_eq]
      exact hdesired code (List.mem_eraseDups.1 hcode)
    have hsame2 := (changed_of_run (requireAll_inspects desired.eraseDups) hwanted).faults
    obtain ⟨current, w3, hcurrent⟩ := select_run (w := w2) (by rw [hsame2]; exact hw1) (.equipmentCode equipmentCode)
    rw [survey, World.run_bind_of_ok hcheck, World.run_bind_of_ok hwanted, forEquipment, World.run_bind_of_ok hcurrent]
    exact ⟨_, _, rfl⟩

/-! ## What is stored -/

/-- definitions that are edited, one after another: what has changed when all are stored -/
theorem storeEach_ok (edit : Definition → Definition) (hid : ∀ d, (edit d).id = d.id) (hcode : ∀ d, (edit d).code = d.code)
    {ds : List Definition} {codes : List String} (hs : w.definitions.Distinct)
    (hds : ∀ d ∈ ds, ∃ old ∈ w.definitions, old.id = d.id ∧ old.code = d.code)
    (h : (storeEach edit ds).run w = (.ok codes, w')) :
    codes = ds.map (·.code) ∧ Changed w (ds.map fun d => .put (edit d)) w' := by
  induction ds generalizing w codes with
  | nil =>
    cases h
    exact ⟨rfl, rfl, rfl, .nil _, fun _ _ hheld => ⟨hheld, by simp⟩⟩
  | cons d ds ih =>
    rw [List.forall_mem_cons] at hds
    have hfits : (edit d).id ≠ none → Change.Fits w.definitions (.put (edit d)) := by
      intro hsome
      rw [← hid d, ← hcode d] at hds
      exact ⟨hsome, Or.inl hds.1⟩
    have hstep := storeThenEvict_cases (w := w) (fun _ => d.code)
      (fun _ => storeEach edit ds >>= fun codes => pure (d.code :: codes)) (hcode d).symm hfits
    rw [storeEach] at h
    rcases hstep with ⟨e, w1, hrun, -⟩ | ⟨w1, hrun, hchanged⟩
    · cases hrun.symm.trans h
    · obtain ⟨rest, w2, hrest, hpure⟩ := World.run_bind_ok.1 (hrun.symm.trans h)
      cases hpure
      obtain ⟨rfl, hlater⟩ := ih (hchanged.definitions.distinct hs) (fun other hother => by
        obtain ⟨old, hold, holdid, holdcode⟩ := hds.2 other hother
        obtain ⟨new, hnew, hnewid, hnewcode⟩ := hchanged.definitions.retains hs (by simp) old hold
        exact ⟨new, hnew, hnewid.trans holdid, hnewcode.trans holdcode⟩) hrest
      exact ⟨rfl, hchanged.trans hlater⟩

/-- stored definitions that are edited, one after another, are edited all at once, and nothing is cached under their codes -/
theorem storeEach_edited (edit : Definition → Definition) (hid : ∀ d, (edit d).id = d.id)
    (hcode : ∀ d, (edit d).code = d.code) {ds : List Definition} {codes : List String} (hs : w.definitions.Distinct)
    (hds : ∀ d ∈ ds, d ∈ w.definitions) (hcodes : (ds.map (·.code)).Nodup)
    (h : (storeEach edit ds).run w = (.ok codes, w')) :
    codes = ds.map (·.code) ∧ w'.definitions.Distinct ∧
      w'.definitions = (w.definitions.map fun d => if d.code ∈ ds.map (·.code) then edit d else d) ∧
      ∀ code d, w'.channelCache.Holds code d → w.channelCache.Holds code d ∧ code ∉ codes := by
  obtain ⟨rfl, hchanged⟩ := storeEach_ok edit hid hcode hs (fun d hd => ⟨d, hds d hd, rfl, rfl⟩) h
  refine ⟨rfl, hchanged.definitions.distinct hs, hchanged.definitions.edited edit hcode hs hds hcodes, fun code d hheld => ?_⟩
  obtain ⟨hbefore, hothers⟩ := hchanged.cache code d hheld
  refine ⟨hbefore, fun hmem => ?_⟩
  obtain ⟨edited, hedited, rfl⟩ := List.mem_map.1 hmem
  exact hothers _ (List.mem_map_of_mem hedited) (hcode edited).symm

/-- storing definitions succeeds where they are stored under their ids and codes -/
theorem storeEach_run (edit : Definition → Definition) (hid : ∀ d, (edit d).id = d.id) (hcode : ∀ d, (edit d).code = d.code)
    {ds : List Definition} (hs : w.definitions.Distinct) (hw : w.faults.StoresNeverFail)
    (hds : ∀ d ∈ ds, d ∈ w.definitions) (hids : ∀ d ∈ ds, d.id ≠ none) :
    ∃ codes w', (storeEach edit ds).run w = (.ok codes, w') := by
  obtain ⟨-, -, -, hfailed⟩ := storeEach_changed edit hid hcode hs fun d hd => ⟨d, hds d hd, rfl, rfl⟩
  rcases hrun : (storeEach edit ds).run w with ⟨e | codes, w'⟩
  · rw [hrun] at hfailed
    obtain ⟨d, hd, hnone⟩ := hfailed e rfl hw
    exact absurd hnone (hids d hd)
  · exact ⟨codes, w', rfl⟩

/-- all that a reassignment has done: the channels that list the equipment code are the desired ones, and nothing else of any
definition has changed -/
structure Settled (w : World) (equipmentCode : String) (desired : List String) (r : Reassignment) (w' : World) : Prop where
  answered : r.equipmentCode = equipmentCode
  listed : ∀ code, (∃ d ∈ w'.definitions, d.code = code ∧ equipmentCode ∈ d.equipmentCodes) ↔ code ∈ desired
  /-- each once, in the order of their first occurrences -/
  added : r.added = desired.eraseDups.filter (· ∉ associated equipmentCode w.definitions)
  /-- in the order they are stored -/
  removed : r.removed = (associated equipmentCode w.definitions).filter (· ∉ desired)
  kept : w'.definitions.map (withoutEquipment equipmentCode) = w.definitions.map (withoutEquipment equipmentCode)
  untouched : ∀ d ∈ w.definitions, d.code ∉ r.added ++ r.removed → d ∈ w'.definitions
  cache : ∀ code ∈ r.added ++ r.removed, ∀ d, ¬ w'.channelCache.Holds code d

theorem reassign_ok {r : Reassignment} (hs : w.definitions.Distinct)
    (h : (reassign equipmentCode desired).run w = (.ok r, w')) : Settled w equipmentCode desired r w' := by
  rw [reassign_eq] at h
  obtain ⟨found, w1, hsurvey, h⟩ := World.run_bind_ok.1 h
  obtain ⟨removed, w2, hremove, h⟩ := World.run_bind_ok.1 h
  obtain ⟨added, w3, hadd, hpure⟩ := World.run_bind_ok.1 h
  cases hpure
  have hsame := changed_of_run (survey_inspects equipmentCode desired) hsurvey
  have hfound := survey_surveyed hs hsurvey
  have hw1 : w1.definitions = w.definitions := hsame.definitions_eq
  rw [← hw1] at hs hfound
  obtain ⟨hremoved, hadded⟩ := hfound.codes_nodup hs
  obtain ⟨rfl, hs2, hedited, hdropped⟩ := storeEach_edited (withoutEquipment equipmentCode) (fun _ => rfl) (fun _ => rfl) hs
    (fun d hd => ((hfound.mem_removed d).1 hd).1) hremoved hremove
  obtain ⟨rfl, -, hedited2, hdropped2⟩ := storeEach_edited (withEquipment equipmentCode) (fun _ => rfl) (fun _ => rfl) hs2
    (by rw [hedited]; exact hfound.kept hs) hadded hadd
  have hdefinitions : w'.definitions = w1.definitions.map (reassigned equipmentCode desired) := by
    rw [hedited2, hedited, List.map_map]
    exact List.map_congr_left fun d hd => hfound.edits hs hd
  refine ⟨rfl, fun code => ?_, hw1 ▸ hfound.added, hw1 ▸ hfound.removed, ?_, fun d hd hnot => ?_, fun code hcode d hheld => ?_⟩
  · rw [hdefinitions]
    constructor
    · rintro ⟨new, hnew, rfl, hlists⟩
      obtain ⟨d, hd, rfl⟩ := List.mem_map.1 hnew
      rw [reassigned_code]
      exact mem_reassigned.1 hlists
    · intro hcode
      obtain ⟨d, hd, rfl⟩ := hfound.desired_stored code hcode
      exact ⟨_, List.mem_map_of_mem hd, reassigned_code d, mem_reassigned.2 hcode⟩
  · rw [hdefinitions, hw1, List.map_map]
    exact List.map_congr_left fun d _ => withoutEquipment_reassigned d
  · rw [← hw1] at hd
    rw [List.mem_append, not_or, hfound.code_mem_added hs hd, hfound.code_mem_removed hs hd] at hnot
    rw [hdefinitions]
    exact List.mem_map.2 ⟨d, hd, reassigned_of_settled (by tauto)⟩
  · obtain ⟨hheld, hnotAdded⟩ := hdropped2 code d hheld
    obtain ⟨-, hnotRemoved⟩ := hdropped code d hheld
    exact (List.mem_append.1 hcode).elim hnotAdded hnotRemoved

theorem reassign_succeeds_iff (hs : w.definitions.Distinct) (hw : w.faults.StoresNeverFail)
    (hids : ∀ d ∈ w.definitions, d.id ≠ none) :
    (∃ r w', (reassign equipmentCode desired).run w = (.ok r, w')) ↔
      (∃ node w1, (Hierarchy.resolve equipmentCode).run w = (.ok node, w1)) ∧
        ∀ code ∈ desired, ∃ d ∈ w.definitions, d.code = code := by
  rw [← survey_succeeds_iff hs hw, reassign_eq]
  constructor
  · rintro ⟨r, w', h⟩
    obtain ⟨found, w1, hsurvey, -⟩ := World.run_bind_ok.1 h
    exact ⟨found, w1, hsurvey⟩
  · rintro ⟨found, w1, hsurvey⟩
    have hsame := changed_of_run (survey_inspects equipmentCode desired) hsurvey
    have hfound := survey_surveyed hs hsurvey
    have hw1 : w1.definitions = w.definitions := hsame.definitions_eq
    have hnever : w1.faults.StoresNeverFail := by
      rw [hsame.faults]
      exact hw
    rw [← hw1] at hs hfound hids
    have hstored : ∀ d ∈ found.1, d ∈ w1.definitions := fun d hd => ((hfound.mem_removed d).1 hd).1
    obtain ⟨removed, w2, hremove⟩ := storeEach_run (withoutEquipment equipmentCode) (fun _ => rfl) (fun _ => rfl) hs hnever
      hstored fun d hd => hids d (hstored d hd)
    obtain ⟨-, hs2, hedited, -⟩ := storeEach_edited (withoutEquipment equipmentCode) (fun _ => rfl) (fun _ => rfl) hs hstored
      (hfound.codes_nodup hs).1 hremove
    have hnever2 : w2.faults.StoresNeverFail := by
      have hfixed := (World.run_fixed (storeEach (withoutEquipment equipmentCode) found.1) w1).2
      rw [hremove] at hfixed
      rw [hfixed]
      exact hnever
    obtain ⟨added, w3, hadd⟩ := storeEach_run (withEquipment equipmentCode) (fun _ => rfl) (fun _ => rfl) hs2 hnever2
      (by rw [hedited]; exact hfound.kept hs) fun d hd => hids d ((hfound.mem_added d).1 hd).1
    rw [World.run_bind_of_ok hsurvey, World.run_bind_of_ok hremove, World.run_bind_of_ok hadd]
    exact ⟨_, _, rfl⟩

/-- where the desired channels are those that list the equipment code, nothing is looked up to be edited -/
theorem reassign_idle (hs : w.definitions.Distinct) (hw : w.faults.StoresNeverFail)
    (hlisted : ∀ code, (∃ d ∈ w.definitions, d.code = code ∧ equipmentCode ∈ d.equipmentCodes) ↔ code ∈ desired)
    (hresolve : ∃ node w1, (Hierarchy.resolve equipmentCode).run w = (.ok node, w1)) :
    ∃ u, (reassign equipmentCode desired).run w = (.ok ⟨equipmentCode, [], []⟩, u) ∧
      u.definitions = w.definitions ∧ u.channelCache = w.channelCache := by
  have hstored : ∀ code ∈ desired, ∃ d ∈ w.definitions, d.code = code := by
    intro code hcode
    obtain ⟨d, hd, heq, -⟩ := (hlisted code).2 hcode
    exact ⟨d, hd, heq⟩
  obtain ⟨found, u, hsurvey⟩ := (survey_succeeds_iff hs hw).2 ⟨hresolve, hstored⟩
  have hsame := World.inspects_run (survey_inspects equipmentCode desired) w
  rw [hsurvey] at hsame
  have hfound := survey_surveyed hs hsurvey
  have hremoved : found.1 = [] := by
    refine List.eq_nil_iff_forall_not_mem.2 fun d hd => ?_
    obtain ⟨hmem, hlists, hnot⟩ := (hfound.mem_removed d).1 hd
    exact hnot ((hlisted d.code).1 ⟨d, hmem, rfl, hlists⟩)
  have hadded : found.2 = [] := by
    refine List.eq_nil_iff_forall_not_mem.2 fun d hd => ?_
    obtain ⟨hmem, hnot, hdesired⟩ := (hfound.mem_added d).1 hd
    obtain ⟨other, hother, hcode, hlists⟩ := (hlisted d.code).2 hdesired
    rw [List.inj_on_of_nodup_map hs.codes hother hmem hcode] at hlists
    exact hnot hlists
  refine ⟨u, ?_, hsame⟩
  rw [reassign_eq, World.run_bind_of_ok hsurvey, hremoved, hadded]
  rfl

/-- **A reassignment settles which channels an equipment code has.** Take definitions that are apart in id and code, an
equipment code, and any list of desired channels, with repetitions or without. If the reassignment succeeds, the channels
that list the code are the desired ones. It tells of the desired ones that did not list it, each once, in order of first
occurrence, and of those that listed it and are not desired, in the order they are stored. No definition has changed but in
how it lists this code, those it does not tell of have not changed at all, and nothing is cached under the others' codes.
Where the store does not fail, the same reassignment made again, with the code still resolved, tells of no channel and
changes nothing; and if all definitions have their ids, a reassignment succeeds if and only if the hierarchy resolves the
equipment code and all desired channels exist. -/
theorem reassign_settles (w : World) (equipmentCode : String) (desired : List String) (hs : w.definitions.Distinct) :
    (∀ r w', (reassign equipmentCode desired).run w = (.ok r, w') →
      Settled w equipmentCode desired r w' ∧
        (w.faults.StoresNeverFail → (∃ node w1, (Hierarchy.resolve equipmentCode).run w' = (.ok node, w1)) →
          ∃ u, (reassign equipmentCode desired).run w' = (.ok ⟨equipmentCode, [], []⟩, u) ∧
            u.definitions = w'.definitions ∧ u.channelCache = w'.channelCache)) ∧
    (w.faults.StoresNeverFail → (∀ d ∈ w.definitions, d.id ≠ none) →
      ((∃ r w', (reassign equipmentCode desired).run w = (.ok r, w')) ↔
        (∃ node w1, (Hierarchy.resolve equipmentCode).run w = (.ok node, w1)) ∧
          ∀ code ∈ desired, ∃ d ∈ w.definitions, d.code = code)) := by
  refine ⟨fun r w' h => ?_, reassign_succeeds_iff hs⟩
  have hsettled := reassign_ok hs h
  obtain ⟨⟨cs, hchanged, -⟩, -⟩ := reassign_outcome equipmentCode desired hs
  rw [h] at hchanged
  refine ⟨hsettled, fun hw => reassign_idle (hchanged.definitions.distinct hs) ?_ hsettled.listed⟩
  rw [hchanged.faults]
  exact hw

/-- the load of a pump, which lists a brand twice -/
def brandLoad : Definition :=
  { id := some (.ofNat 0), code := "load", dimension := "power", unit := "kW", equipmentCodes := ["B1", "T1", "B1"] }

/-- a plant where the flow does not list the brand and the speed does, with the load in the cache -/
def brandPlant : World :=
  { plant with
    definitions :=
      [brandLoad, { id := some (.ofNat 1), code := "flow", dimension := "flow", unit := "l/s", equipmentCodes := ["T1"] },
        { id := some (.ofNat 2), code := "speed", dimension := "frequency", unit := "Hz", equipmentCodes := ["B1"] }]
    channelCache := .present { ttl := 86400000000000, entries := [("load", ⟨brandLoad, Clock.last⟩)] } }

/-- the plant once the brand has the flow, told of twice, and the speed -/
def settledPlant : World := ((reassign "B1" ["flow", "speed", "flow"]).run brandPlant).2

/-- the load loses the brand and is not cached any more, the flow gets it, the speed keeps it; after that nothing is left
to do, and there is no torque to give to the brand -/
theorem reassign_settles_brand :
    brandPlant.definitions.Distinct ∧ brandPlant.faults.StoresNeverFail ∧ (∀ d ∈ brandPlant.definitions, d.id ≠ none) ∧
      brandPlant.channelCache.Holds "load" brandLoad ∧
      ((reassign "B1" ["flow", "speed", "flow"]).run brandPlant).1 = .ok ⟨"B1", ["flow"], ["load"]⟩ ∧
      Settled brandPlant "B1" ["flow", "speed", "flow"] ⟨"B1", ["flow"], ["load"]⟩ settledPlant ∧
      (∃ u, (reassign "B1" ["flow", "speed", "flow"]).run settledPlant = (.ok ⟨"B1", [], []⟩, u) ∧
        u.definitions = settledPlant.definitions ∧ u.channelCache = settledPlant.channelCache) ∧
      ¬ ∃ r w', (reassign "B1" ["flow", "torque"]).run brandPlant = (.ok r, w') := by
  have hs : brandPlant.definitions.Distinct := ⟨by decide +kernel, by decide +kernel⟩
  have hanswer : ((reassign "B1" ["flow", "speed", "flow"]).run brandPlant).1 = .ok ⟨"B1", ["flow"], ["load"]⟩ := by
    decide +kernel
  have hresolve : ((Hierarchy.resolve "B1").run settledPlant).1 = .ok ⟨"B1", "acme", []⟩ := by decide +kernel
  obtain ⟨hsettles, -⟩ := reassign_settles brandPlant "B1" ["flow", "speed", "flow"] hs
  obtain ⟨hsettled, hagain⟩ := hsettles _ settledPlant (Prod.ext hanswer rfl)
  have hids : ∀ d ∈ brandPlant.definitions, d.id ≠ none := by decide +kernel
  have hunknown : ¬ ∃ d ∈ brandPlant.definitions, d.code = "torque" := by decide +kernel
  refine ⟨hs, fun _ _ => rfl, hids, by decide +kernel, hanswer, hsettled,
    hagain (fun _ _ => rfl) ⟨_, _, Prod.ext hresolve rfl⟩, ?_⟩
  rw [(reassign_settles brandPlant "B1" ["flow", "torque"] hs).2 (fun _ _ => rfl) hids]
  rintro ⟨-, hdesired⟩
  exact hunknown (hdesired "torque" (by simp))

end Catalog

end Telemetry
