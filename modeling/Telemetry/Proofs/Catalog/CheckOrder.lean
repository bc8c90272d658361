import Telemetry.Proofs.Catalog.Declarable
import Telemetry.Proofs.Point.Acceptance
/-
In which order declared channels are checked.

Repeated codes are found before anything else. Look-ups and comparisons are not kept apart after that: each channel is looked
up and compared with its definition before the next one is looked up. So the first channel that is not matched decides what
is reported, and a channel that disagrees with its definition hides an undefined one behind it.

- `firstRepeated_eq_none_iff`, `firstRepeated_eq_some_iff`: the first code that has been seen;
- `matchFound_decided`, `matchAll_decided`: what is matched, and what is reported of the first channel that is not;
- `lookUp_onHand`: what the channels are matched with, when entries may expire in between;
- `InOrder`: what three rounds of checks over all channels would come to;
- `checks_in_order`: when matching comes to this;
- `mismatch_before_undefined`: channels of which it does not.
-/
namespace Telemetry

namespace Catalog

open Channel Payload Text

variable {seen : List String} {cs : List DeclaredChannel} {c : DeclaredChannel} {d : Definition} {e : ServiceError} {w : World}
  {entries : String → Option Definition}

/-! ## Repeated codes -/

/-- the codes of declared channels, up to case -/
def foldedCodes (cs : List DeclaredChannel) : List String :=
  cs.map fun c => foldCase c.code

theorem firstRepeated_cons_of_seen (h : foldCase c.code ∈ seen) : firstRepeated seen (c :: cs) = some c := by
  rw [firstRepeated, if_pos (List.contains_iff_mem.2 h)]

theorem firstRepeated_cons_of_new (h : foldCase c.code ∉ seen) :
    firstRepeated seen (c :: cs) = firstRepeated (foldCase c.code :: seen) cs := by
  rw [firstRepeated, if_neg (mt List.contains_iff_mem.1 h)]

/-- no code is repeated if all are different, and none was seen before -/
theorem firstRepeated_eq_none_iff :
    firstRepeated seen cs = none ↔ (foldedCodes cs).Nodup ∧ ∀ code ∈ foldedCodes cs, code ∉ seen := by
  induction cs generalizing seen with
  | nil => simp [firstRepeated, foldedCodes]
  | cons c cs ih =>
    have hcodes : foldedCodes (c :: cs) = foldCase c.code :: foldedCodes cs := rfl
    rw [hcodes, List.nodup_cons, List.forall_mem_cons]
    by_cases hseen : foldCase c.code ∈ seen
    · rw [firstRepeated_cons_of_seen hseen]
      simp [hseen]
    · rw [firstRepeated_cons_of_new hseen, ih]
      constructor
      · rintro ⟨hnodup, hnew⟩
        refine ⟨⟨fun hmem => hnew _ hmem List.mem_cons_self, hnodup⟩, hseen, ?_⟩
        intro code hcode hold
        exact hnew code hcode (List.mem_cons_of_mem _ hold)
      · rintro ⟨⟨hfirst, hnodup⟩, -, hnew⟩
        refine ⟨hnodup, ?_⟩
        intro code hcode hold
        rcases List.mem_cons.1 hold with rfl | hold
        · exact hfirst hcode
        · exact hnew code hcode hold

/-- the first repeated code stands behind codes that are not, and is one of them or was seen before -/
theorem firstRepeated_eq_some_iff : firstRepeated seen cs = some c ↔ ∃ before after, cs = before ++ c :: after ∧
    firstRepeated seen before = none ∧ (foldCase c.code ∈ seen ∨ foldCase c.code ∈ foldedCodes before) := by
  -- over the channels; the code of the first one joins those that have been seen
  induction cs generalizing seen with
  | nil => simp [firstRepeated]
  | cons first cs ih =>
    by_cases hseen : foldCase first.code ∈ seen
    · rw [firstRepeated_cons_of_seen hseen]
      constructor
      · intro h
        cases h
        exact ⟨[], cs, rfl, rfl, Or.inl hseen⟩
      · rintro ⟨before, after, hsplit, hnone, -⟩
        cases before with
        | nil =>
          cases hsplit
          rfl
        | cons b before =>
          cases hsplit
          rw [firstRepeated_cons_of_seen hseen] at hnone
          cases hnone
    · rw [firstRepeated_cons_of_new hseen, ih]
      constructor
      · rintro ⟨before, after, rfl, hnone, hrepeats⟩
        refine ⟨first :: before, after, rfl, (firstRepeated_cons_of_new hseen).trans hnone, ?_⟩
        rcases hrepeats with hold | hbefore
        · rcases List.mem_cons.1 hold with hfirst | hold
          · exact Or.inr (List.mem_cons.2 (Or.inl hfirst))
          · exact Or.inl hold
        · exact Or.inr (List.mem_cons_of_mem _ hbefore)
      · rintro ⟨before, after, hsplit, hnone, hrepeats⟩
        cases before with
        | nil =>
          cases hsplit
          rcases hrepeats with hold | hbefore
          · exact absurd hold hseen
          · cases hbefore
        | cons b before =>
          cases hsplit
          rw [firstRepeated_cons_of_new hseen] at hnone
          refine ⟨before, after, rfl, hnone, ?_⟩
          rcases hrepeats with hold | hbefore
          · exact Or.inl (List.mem_cons_of_mem _ hold)
          · rcases List.mem_cons.1 hbefore with hfirst | hbefore
            · exact Or.inl (List.mem_cons.2 (Or.inl hfirst))
            · exact Or.inr hbefore

/-! ## One channel -/

/-- the channel agrees with a definition in dimension and unit, up to case -/
structure Agrees (c : DeclaredChannel) (d : Definition) : Prop where
  dimension : sameIgnoringCase d.dimension c.dimension = true
  unit : sameIgnoringCase d.unit c.unit = true

/-- what is reported of a channel that does not agree with a definition: the dimension comes before the unit -/
inductive Disagrees (c : DeclaredChannel) (d : Definition) : ServiceError → Prop
  | dimension (h : sameIgnoringCase d.dimension c.dimension = false) :
      Disagrees c d (.channelMismatch c.code "dimension" d.dimension c.dimension)
  | unit (hdimension : sameIgnoringCase d.dimension c.dimension = true) (h : sameIgnoringCase d.unit c.unit = false) :
      Disagrees c d (.channelMismatch c.code "unit" d.unit c.unit)

/-- the channel has an entry that it agrees with, and the entry has a unit -/
def Matched (entries : String → Option Definition) (c : DeclaredChannel) : Prop :=
  ∃ d, entries c.code = some d ∧ Agrees c d ∧ isBlankText d.unit = false

/-- why a channel is not matched with its entry -/
inductive Unmatched (entries : String → Option Definition) (c : DeclaredChannel) : ServiceError → Prop
  | undefined (h : entries c.code = none) : Unmatched entries c (.undefinedChannel c.code)
  | disagrees {d : Definition} {e : ServiceError} (h : entries c.code = some d) (hd : Disagrees c d e) :
      Unmatched entries c e
  | noUnit {d : Definition} (h : entries c.code = some d) (hagrees : Agrees c d) (hunit : isBlankText d.unit = true) :
      Unmatched entries c (.missingChannelField d.code "unit")

theorem Disagrees.not_agrees (h : Disagrees c d e) : ¬ Agrees c d := by
  rintro ⟨hdimension, hunit⟩
  cases h with
  | dimension h =>
    rw [hdimension] at h
    cases h
  | unit _ h =>
    rw [hunit] at h
    cases h

/-- a channel agrees with a definition, or something is reported -/
theorem agrees_or_disagrees (c : DeclaredChannel) (d : Definition) : Agrees c d ∨ ∃ e, Disagrees c d e := by
  cases hdimension : sameIgnoringCase d.dimension c.dimension with
  | false => exact Or.inr ⟨_, .dimension hdimension⟩
  | true =>
    cases hunit : sameIgnoringCase d.unit c.unit with
    | false => exact Or.inr ⟨_, .unit hdimension hunit⟩
    | true => exact Or.inl ⟨hdimension, hunit⟩

theorem Disagrees.matchDefinition (h : Disagrees c d e) : matchDefinition c d = .error e := by
  cases h with
  | dimension h => simp [Channel.matchDefinition, checkMatches, h, bind, Except.bind]
  | unit hdimension h => simp [Channel.matchDefinition, checkMatches, hdimension, h, bind, Except.bind]

theorem Agrees.matchDefinition (h : Agrees c d) : matchDefinition c d = Resolved.of c.index d := by
  simp [Channel.matchDefinition, checkMatches, h.dimension, h.unit, bind, Except.bind]

theorem resolved_of_unit (index : Nat) (hunit : isBlankText d.unit = false) :
    Resolved.of index d = .ok ⟨index, d, encodeFieldName d.code d.unit⟩ := by
  simp [Resolved.of, Definition.fieldName, Channel.fieldName, hunit, Except.map]

theorem resolved_of_noUnit (index : Nat) (hunit : isBlankText d.unit = true) :
    Resolved.of index d = .error (.missingChannelField d.code "unit") := by
  simp [Resolved.of, Definition.fieldName, Channel.fieldName, hunit, Except.map]

/-- a channel is matched with its entry, or it is reported why not -/
theorem matchFound_decided (entries : String → Option Definition) (c : DeclaredChannel) :
    Decided (matchFound c (entries c.code)) (Matched entries c) (Unmatched entries c) := by
  apply Decided.of
  · rintro ⟨d, hd, hagrees, hunit⟩
    rw [hd]
    exact ⟨_, hagrees.matchDefinition.trans (resolved_of_unit c.index hunit)⟩
  · intro e h
    cases h with
    | undefined h =>
      rw [h]
      rfl
    | disagrees h hd =>
      rw [h]
      exact hd.matchDefinition
    | noUnit h hagrees hunit =>
      rw [h]
      exact hagrees.matchDefinition.trans (resolved_of_noUnit c.index hunit)
  · cases hd : entries c.code with
    | none => exact Or.inr ⟨_, .undefined hd⟩
    | some d =>
      rcases agrees_or_disagrees c d with hagrees | ⟨e, he⟩
      · cases hunit : isBlankText d.unit with
        | false => exact Or.inl ⟨d, hd, hagrees, hunit⟩
        | true => exact Or.inr ⟨_, .noUnit hd hagrees hunit⟩
      · exact Or.inr ⟨e, .disagrees hd he⟩

/-! ## All channels -/

/-- the channel with its entry, at its index -/
structure EntryOf (entries : String → Option Definition) (c : DeclaredChannel) (r : Resolved) : Prop where
  index : r.index = c.index
  entry : entries c.code = some r.definition
  fieldName : r.fieldName = encodeFieldName r.definition.code r.definition.unit

theorem entryOf_of_matchFound {r : Resolved} (h : matchFound c (entries c.code) = .ok r) : EntryOf entries c r := by
  obtain ⟨hentry, hindex, hname⟩ := matchFound_ok h
  exact ⟨hindex, hentry, fieldName_ok hname⟩

theorem matchAll_eq_eachFrom (entries : String → Option Definition) (i : Nat) (cs : List DeclaredChannel) :
    matchAll (fun code => .ok (entries code)) cs = eachFrom (fun _ c => matchFound c (entries c.code)) i cs := by
  induction cs generalizing i with
  | nil => rfl
  | cons c cs ih =>
    rw [matchAll, eachFrom, ← ih (i + 1)]
    rfl

/-- declared channels are matched if each of them is; else the first that is not is reported -/
theorem matchAll_decided (entries : String → Option Definition) (cs : List DeclaredChannel) :
    Decided (matchAll (fun code => .ok (entries code)) cs) (∀ c ∈ cs, Matched entries c) fun e =>
      ∃ before c after, cs = before ++ c :: after ∧ (∀ b ∈ before, Matched entries b) ∧ Unmatched entries c e := by
  rw [matchAll_eq_eachFrom entries 0 cs]
  exact Point.eachFrom_decided (fun _ c => matchFound_decided entries c) 0 cs

/-- what the catalog has for a code: what the cache finds, else what is stored -/
def entry (w : World) (code : String) : Option Definition :=
  (w.channelCache.get code).1.or (w.definitions.get? (.code code))

theorem content_entry (hreads : w.faults.LookUpsSucceed) : content w = fun code => .ok (entry w code) := by
  funext code
  rw [content, get_answer, hreads, entry]
  cases (w.channelCache.get code).1 <;> rfl

/-! ## Entries that may expire -/

/-- the entry of a code is what is stored there, or what is cached there -/
def OnHand (w : World) (entries : String → Option Definition) : Prop :=
  ∀ code, entries code = w.definitions.get? (.code code) ∨ ∃ d, w.channelCache.Holds code d ∧ entries code = some d

theorem onHand_entry (w : World) : OnHand w (entry w) := by
  intro code
  rw [entry]
  cases hfound : (w.channelCache.get code).1 with
  | none => exact Or.inl rfl
  | some d => exact Or.inr ⟨d, ReadCache.get_found hfound, rfl⟩

/-- where each cached definition is the stored one, the entries are what is stored -/
theorem OnHand.of_coherent (h : OnHand w entries) (hw : Coherent w) (code : String) :
    entries code = w.definitions.get? (.code code) := by
  rcases h code with hstored | ⟨d, hheld, hentry⟩
  · exact hstored
  · rw [hentry, hw code d hheld]

/-- entries on hand after a look-up were on hand before it -/
theorem OnHand.before {code : String} {x : Except ServiceError (Option Definition) × World} (hx : LookedUp w code x)
    (h : OnHand x.2 entries) : OnHand w entries := by
  intro key
  rw [← hx.definitions]
  rcases h key with hstored | ⟨d, hheld, hentry⟩
  · exact Or.inl hstored
  · rcases hx.holds hheld with hbefore | hstored
    · exact Or.inr ⟨d, hbefore, hentry⟩
    · rw [hentry, hx.definitions]
      exact Or.inl hstored.symm

/-- channels of different codes are matched with entries on hand, whenever what is cached expires: each code is looked up once,
so it does not matter that its entry may change later -/
theorem lookUp_onHand (hreads : w.faults.LookUpsSucceed) (hcodes : (cs.map (·.code)).Nodup) :
    ∃ entries, OnHand w entries ∧ ((Channel.lookUp cs).run w).1 = matchAll (fun code => .ok (entries code)) cs := by
  induction cs generalizing w with
  | nil => exact ⟨entry w, onHand_entry w, rfl⟩
  | cons c cs ih =>
    rw [List.map_cons, List.nodup_cons] at hcodes
    have hx := lookedUp w c.code
    have hanswer : ((get c.code .cached).run w).1 = .ok (entry w c.code) := congrFun (content_entry hreads) c.code
    rcases hget : (get c.code .cached).run w with ⟨answer, u⟩
    rw [hget] at hx hanswer
    cases hanswer
    have hreads' : u.faults.LookUpsSucceed := by
      rw [hx.kept.1]
      exact hreads
    obtain ⟨entries, honhand, hrest⟩ := ih hreads' hcodes.2
    -- the first code has the entry that it has now, whatever the others find under it
    refine ⟨Function.update entries c.code (entry w c.code), ?_, ?_⟩
    · intro code
      by_cases hcode : code = c.code
      · rw [hcode, Function.update_self]
        exact onHand_entry w c.code
      · rw [Function.update_of_ne hcode]
        exact honhand.before hx code
    · have hothers : ∀ d ∈ cs, Function.update entries c.code (entry w c.code) d.code = entries d.code :=
        fun d hd => Function.update_of_ne (fun hcode => hcodes.1 (List.mem_map.2 ⟨d, hd, hcode⟩)) _ _
      have hsame : matchAll (fun code => .ok (Function.update entries c.code (entry w c.code) code)) cs =
          matchAll (fun code => .ok (entries code)) cs := matchAll_congr fun d hd => congrArg Except.ok (hothers d hd)
      have hfirst : (.ok (Function.update entries c.code (entry w c.code) c.code) : Except ServiceError _) =
          .ok (entry w c.code) := congrArg Except.ok (Function.update_self ..)
      rw [lookUp_of_get hget, matchAll_cons hfirst, hsame, ← hrest]
      cases matchFound c (entry w c.code) <;> rfl

/-! ## The order of the checks -/

/-- what three rounds of checks come to: no code repeated, then an entry for every channel, then agreement of all -/
inductive InOrder (entries : String → Option Definition) (cs : List DeclaredChannel) :
    Except ServiceError (List Resolved) → Prop
  | repeated {before after : List DeclaredChannel} {c : DeclaredChannel} (hcs : cs = before ++ c :: after)
      (hbefore : (foldedCodes before).Nodup) (h : foldCase c.code ∈ foldedCodes before) :
      InOrder entries cs (.error (.duplicateChannel c.code))
  | undefined {before after : List DeclaredChannel} {c : DeclaredChannel} (hcodes : (foldedCodes cs).Nodup)
      (hcs : cs = before ++ c :: after) (hbefore : ∀ b ∈ before, entries b.code ≠ none) (h : entries c.code = none) :
      InOrder entries cs (.error (.undefinedChannel c.code))
  | mismatch {before after : List DeclaredChannel} {c : DeclaredChannel} {d : Definition} {e : ServiceError}
      (hcodes : (foldedCodes cs).Nodup) (hdefined : ∀ c ∈ cs, entries c.code ≠ none) (hcs : cs = before ++ c :: after)
      (hbefore : ∀ b ∈ before, ∃ d, entries b.code = some d ∧ Agrees b d) (h : entries c.code = some d)
      (hd : Disagrees c d e) : InOrder entries cs (.error e)
  | matched {rs : List Resolved} (hcodes : (foldedCodes cs).Nodup)
      (hagree : ∀ c ∈ cs, ∃ d, entries c.code = some d ∧ Agrees c d) (h : List.Forall₂ (EntryOf entries) cs rs) :
      InOrder entries cs (.ok rs)

/-- the first channel that is not matched is reported too early: it disagrees with its entry while one behind it is undefined,
or it agrees with an entry that has no unit -/
inductive ReportedEarly (entries : String → Option Definition) (cs : List DeclaredChannel) : Prop
  | mismatch {before after : List DeclaredChannel} {c u : DeclaredChannel} {d : Definition} (hcodes : (foldedCodes cs).Nodup)
      (hcs : cs = before ++ c :: after) (hbefore : ∀ b ∈ before, Matched entries b) (h : entries c.code = some d)
      (hd : ¬ Agrees c d) (hu : u ∈ after) (hundefined : entries u.code = none)
  | noUnit {before after : List DeclaredChannel} {c : DeclaredChannel} {d : Definition} (hcodes : (foldedCodes cs).Nodup)
      (hcs : cs = before ++ c :: after) (hbefore : ∀ b ∈ before, Matched entries b) (h : entries c.code = some d)
      (hd : Agrees c d) (hunit : isBlankText d.unit = true)

theorem Matched.agrees (h : Matched entries c) : ∃ d, entries c.code = some d ∧ Agrees c d := by
  obtain ⟨d, hd, hagrees, -⟩ := h
  exact ⟨d, hd, hagrees⟩

theorem Matched.defined (h : Matched entries c) : entries c.code ≠ none := by
  obtain ⟨d, hd, -⟩ := h
  rw [hd]
  exact Option.some_ne_none d

/-- matching without a repeated code -/
theorem resolveIn_of_nodup (hcodes : (foldedCodes cs).Nodup) (answers : String → Except ServiceError (Option Definition)) :
    resolveIn answers cs = matchAll answers cs := by
  have hnone : firstRepeated [] cs = none := firstRepeated_eq_none_iff.2 ⟨hcodes, fun _ _ => List.not_mem_nil⟩
  rw [resolveIn, hnone]

/-- a repeated code is reported, and nothing else -/
theorem exists_repeated (hcodes : ¬ (foldedCodes cs).Nodup) (answers : String → Except ServiceError (Option Definition)) :
    ∃ before c after, cs = before ++ c :: after ∧ (foldedCodes before).Nodup ∧ foldCase c.code ∈ foldedCodes before ∧
      resolveIn answers cs = .error (.duplicateChannel c.code) := by
  cases hfirst : firstRepeated [] cs with
  | none => exact absurd (firstRepeated_eq_none_iff.1 hfirst).1 hcodes
  | some c =>
    obtain ⟨before, after, hcs, hbefore, hrepeats⟩ := firstRepeated_eq_some_iff.1 hfirst
    refine ⟨before, c, after, hcs, (firstRepeated_eq_none_iff.1 hbefore).1, hrepeats.resolve_left List.not_mem_nil, ?_⟩
    rw [resolveIn, hfirst]

/-- a channel that is reported too early is not reported in order -/
theorem ReportedEarly.not_inOrder (h : ReportedEarly entries cs) :
    ¬ InOrder entries cs (resolveIn (fun code => .ok (entries code)) cs) := by
  intro hinOrder
  cases h with
  | @mismatch before after c u d hcodes hcs hbefore hentry hd hu hundefined =>
    obtain ⟨e, he⟩ := (agrees_or_disagrees c d).resolve_left hd
    rw [resolveIn_of_nodup hcodes, (matchAll_decided entries cs).error_iff e |>.2
      ⟨before, c, after, hcs, hbefore, .disagrees hentry he⟩] at hinOrder
    -- a mismatch is reported in the third round only, where all are defined
    cases hinOrder with
    | repeated => cases he
    | undefined => cases he
    | mismatch _ hdefined =>
      refine hdefined u ?_ hundefined
      rw [hcs]
      exact List.mem_append_right _ (List.mem_cons_of_mem _ hu)
  | @noUnit before after c d hcodes hcs hbefore hentry hd hunit =>
    rw [resolveIn_of_nodup hcodes, (matchAll_decided entries cs).error_iff _ |>.2
      ⟨before, c, after, hcs, hbefore, .noUnit hentry hd hunit⟩] at hinOrder
    cases hinOrder with
    | mismatch _ _ _ _ _ he => cases he

/-- where no channel is reported too early, the order is kept -/
theorem inOrder_of_not_reportedEarly (h : ¬ ReportedEarly entries cs) :
    InOrder entries cs (resolveIn (fun code => .ok (entries code)) cs) := by
  by_cases hcodes : (foldedCodes cs).Nodup
  · rw [resolveIn_of_nodup hcodes]
    have hdecided := matchAll_decided entries cs
    cases hmatch : matchAll (fun code => .ok (entries code)) cs with
    | ok rs =>
      refine .matched hcodes (fun c hc => (hdecided.ok_iff.1 ⟨rs, hmatch⟩ c hc).agrees) ?_
      rw [matchAll_eq_eachFrom entries 0] at hmatch
      exact (eachFrom_forall₂ hmatch).imp fun c r ⟨_, hr⟩ => entryOf_of_matchFound hr
    | error e =>
      obtain ⟨before, c, after, hcs, hbefore, hunmatched⟩ := (hdecided.error_iff e).1 hmatch
      cases hunmatched with
      | undefined hnone => exact .undefined hcodes hcs (fun b hb => (hbefore b hb).defined) hnone
      | noUnit hentry hagrees hunit => exact absurd (.noUnit hcodes hcs hbefore hentry hagrees hunit) h
      | @disagrees d e hentry hd =>
        refine .mismatch hcodes ?_ hcs (fun b hb => (hbefore b hb).agrees) hentry hd
        -- an undefined one would stand behind it, and it would be reported too early
        intro u hu hundefined
        rw [hcs] at hu
        rcases List.mem_append.1 hu with hu | hu
        · exact (hbefore u hu).defined hundefined
        · rcases List.mem_cons.1 hu with rfl | hu
          · rw [hentry] at hundefined
            cases hundefined
          · exact h (.mismatch hcodes hcs hbefore hentry hd.not_agrees hu hundefined)
  · obtain ⟨before, c, after, hcs, hbefore, hrepeats, hresolve⟩ := exists_repeated hcodes fun code => .ok (entries code)
    rw [hresolve]
    exact .repeated hcs hbefore hrepeats

theorem codes_nodup (hcodes : (foldedCodes cs).Nodup) : (cs.map (·.code)).Nodup := by
  refine List.Nodup.of_map foldCase ?_
  rwa [List.map_map]

/-- matching declared channels with the catalog is matching them with entries on hand -/
theorem resolve_onHand (hreads : w.faults.LookUpsSucceed) (cs : List DeclaredChannel) :
    ∃ entries, OnHand w entries ∧ (Lasting w → entries = entry w) ∧
      ((Channel.resolve cs).run w).1 = resolveIn (fun code => .ok (entries code)) cs := by
  by_cases hlasting : Lasting w
  · refine ⟨entry w, onHand_entry w, fun _ => rfl, ?_⟩
    rw [(resolve_content hreads.steady hlasting cs).1, content_entry hreads]
  · unfold Channel.resolve resolveIn
    cases hfirst : firstRepeated [] cs with
    | some c => exact ⟨entry w, onHand_entry w, fun _ => rfl, rfl⟩
    | none =>
      obtain ⟨hcodes, -⟩ := firstRepeated_eq_none_iff.1 hfirst
      obtain ⟨entries, honhand, hlookUp⟩ := lookUp_onHand hreads (codes_nodup hcodes)
      exact ⟨entries, honhand, fun h => absurd h hlasting, hlookUp⟩

/-- **When channels are checked in three rounds.** Take any catalog, with anything cached, whose look-ups the store does not
fail, and any declared channels. Each of their codes has an entry, the stored definition or a cached one. The channels come to
what is told by three rounds of checks (codes repeated up to case, then an entry for every channel, then dimensions and units)
exactly unless the first channel that is not matched disagrees with its entry while one behind it is undefined, or has an
entry without a unit. In any case the first repeated code is reported if there is one, and else the first channel that is not
matched. The entries are what is stored if nothing else is cached; and if no time passes, they are what the cache finds, else
what is stored. -/
theorem checks_in_order (w : World) (cs : List DeclaredChannel) (hreads : w.faults.LookUpsSucceed) :
    ∃ entries, OnHand w entries ∧ (Lasting w → entries = entry w) ∧
      (Coherent w → ∀ code, entries code = w.definitions.get? (.code code)) ∧
      (InOrder entries cs ((Channel.resolve cs).run w).1 ↔ ¬ ReportedEarly entries cs) ∧
      (¬ (foldedCodes cs).Nodup → ∃ before c after, cs = before ++ c :: after ∧ (foldedCodes before).Nodup ∧
        foldCase c.code ∈ foldedCodes before ∧ ((Channel.resolve cs).run w).1 = .error (.duplicateChannel c.code)) ∧
      ((foldedCodes cs).Nodup →
        ((∃ rs, ((Channel.resolve cs).run w).1 = .ok rs) ↔ ∀ c ∈ cs, Matched entries c) ∧
        ∀ e, ((Channel.resolve cs).run w).1 = .error e ↔
          ∃ before c after, cs = before ++ c :: after ∧ (∀ b ∈ before, Matched entries b) ∧ Unmatched entries c e) := by
  obtain ⟨entries, honhand, hlasts, hresolve⟩ := resolve_onHand hreads cs
  refine ⟨entries, honhand, hlasts, honhand.of_coherent, ?_⟩
  rw [hresolve]
  refine ⟨⟨fun hinOrder hearly => hearly.not_inOrder hinOrder, inOrder_of_not_reportedEarly⟩, ?_, ?_⟩
  · intro hcodes
    exact exists_repeated hcodes _
  · intro hcodes
    rw [resolveIn_of_nodup hcodes]
    have hdecided := matchAll_decided entries cs
    exact ⟨hdecided.ok_iff, hdecided.error_iff⟩

def plantWithLoad : World := ((create pumpLoad).run emptyPlant).2

/-- the load, declared in another unit -/
def loadInWatts : DeclaredChannel := ⟨0, "load", "W", "power"⟩

/-- a channel that the plant does not define -/
def flowChannel : DeclaredChannel := ⟨1, "flow", "m3/h", "flow"⟩

/-- the undefined channel in front of the load: it is reported, as it should be -/
theorem checks_in_order_flow :
    plantWithLoad.faults.LookUpsSucceed ∧
      ((Channel.resolve [flowChannel, loadInWatts]).run plantWithLoad).1 = .error (.undefinedChannel "flow") ∧
      InOrder (entry plantWithLoad) [flowChannel, loadInWatts] (.error (.undefinedChannel "flow")) ∧
      ¬ ReportedEarly (entry plantWithLoad) [flowChannel, loadInWatts] := by
  have hreads : plantWithLoad.faults.LookUpsSucceed := fun _ _ => rfl
  have hcodes : (foldedCodes [flowChannel, loadInWatts]).Nodup := by decide +kernel
  have hflow : entry plantWithLoad flowChannel.code = none := by decide +kernel
  have hinOrder : InOrder (entry plantWithLoad) [flowChannel, loadInWatts] (.error (.undefinedChannel flowChannel.code)) :=
    .undefined hcodes (List.nil_append _).symm (List.forall_mem_nil _) hflow
  obtain ⟨entries, -, hentries, -, hiff, -, hfirst⟩ := checks_in_order plantWithLoad [flowChannel, loadInWatts] hreads
  have hlasting : Lasting plantWithLoad := lasting_of_coherent (coherent_of_empty rfl) hreads
  rw [hentries hlasting] at hiff hfirst
  have hreported : ((Channel.resolve [flowChannel, loadInWatts]).run plantWithLoad).1 = .error (.undefinedChannel "flow") :=
    ((hfirst hcodes).2 _).2 ⟨[], flowChannel, [loadInWatts], rfl, List.forall_mem_nil _, .undefined hflow⟩
  refine ⟨hreads, hreported, hinOrder, hiff.1 ?_⟩
  rw [hreported]
  exact hinOrder

/-- the load in front of the undefined channel: its unit is reported, though the other one has no entry -/
theorem mismatch_before_undefined :
    let result := ((Channel.resolve [loadInWatts, flowChannel]).run plantWithLoad).1
    plantWithLoad.faults.LookUpsSucceed ∧ Coherent plantWithLoad ∧ plantWithLoad.definitions.get? (.code "flow") = none ∧
      result = .error (.channelMismatch "load" "unit" "kW" "W") ∧
      ¬ InOrder (entry plantWithLoad) [loadInWatts, flowChannel] result := by
  intro result
  have hreads : plantWithLoad.faults.LookUpsSucceed := fun _ _ => rfl
  have hcoherent : Coherent plantWithLoad := coherent_of_empty rfl
  have hstored : plantWithLoad.definitions.get? (.code "flow") = none := by decide +kernel
  have hreported : result = .error (.channelMismatch "load" "unit" "kW" "W") := by decide +kernel
  refine ⟨hreads, hcoherent, hstored, hreported, ?_⟩
  rw [hreported]
  intro hinOrder
  cases hinOrder with
  | mismatch _ hdefined =>
    apply hdefined flowChannel (List.mem_cons_of_mem _ List.mem_cons_self)
    exact ((onHand_entry plantWithLoad).of_coherent hcoherent "flow").trans hstored

end Catalog

end Telemetry
