import Telemetry.Proofs.Payload.Groups
/-
Which row of which group a refused payload is refused for.

The groups of a payload are held to its format one after another, so the error names the group of the first row that does not
fit and the row's position in it. The format is told before that, by the rows of all groups in order, and a row that is no
array and stands behind empty rows alone is met there: the error then has the position among all rows, and no group.

- `exists_detectFormat_iff`: which rows tell a format;
- `firstOfGroups_of_rows`: the first row of all, as a row of its group;
- `parseGroups_error`: groups held to a format;
- `culprit_named`: the error of a refused payload, with a group or without one;
- `scalar_behind_empty_row`: a payload whose error names no group.
-/
namespace Telemetry.Payload

open Json

/-- a row behind empty rows alone is an array -/
def Opened (rows : List Value) : Prop :=
  ∀ before row after, rows = before ++ row :: after → (∀ r ∈ before, r = .array []) → ∃ items, row = .array items

/-- a row is accepted in the format that rows tell, or in any if they tell none -/
def AcceptedAmong (rows : List Value) (row : Value) : Prop :=
  ∃ format : Format, (∀ told, detectFormat rows = .ok told → format = told) ∧ format.Fits row

/-- of the rows of all groups in order, the first without a property is that at an index of a group -/
structure FirstOfGroups (P : Value → Prop) (groups before : List Group) (g : Group) (index : Nat) : Prop where
  groups : ∃ after, groups = before ++ g :: after
  before : ∀ b ∈ before, ∀ row ∈ b.rows, P row
  row : FirstWithout P g.rows index

variable {rows : List Value} {row : Value} {format told : Format} {groups : List Group} {e : ParserError} {P Q : Value → Prop}
  {index : Nat}

/-! ## Telling the format -/

theorem detectFormatFrom_of_blanks {before : List Value} (hblank : ∀ r ∈ before, r = .array []) (i : Nat) (rows : List Value) :
    detectFormatFrom i (before ++ rows) = detectFormatFrom (i + before.length) rows := by
  induction before generalizing i with
  | nil => rfl
  | cons r before ih =>
    obtain ⟨rfl, hrest⟩ := List.forall_mem_cons.1 hblank
    rw [List.cons_append, detectFormatFrom_blank, ih hrest, List.length_cons, Nat.add_comm before.length, Nat.add_assoc]

/-- rows tell a format unless one behind empty rows alone is no array -/
theorem exists_detectFormat_iff : (∃ told, detectFormat rows = .ok told) ↔ Opened rows := by
  constructor
  · rintro ⟨told, htold⟩ before row after rfl hblank
    rw [detectFormat, detectFormatFrom_of_blanks hblank] at htold
    obtain ⟨values, hvalues, -⟩ := bind_eq_ok_iff.1 htold
    exact ⟨values, rowValues_eq_ok_iff.1 hvalues⟩
  · intro hopened
    cases hdetect : detectFormat rows with
    | ok told => exact ⟨told, rfl⟩
    | error refusal =>
      obtain ⟨before, row, after, reason, rfl, hblank, hrow, -⟩ := detectFormatFrom_error hdetect
      obtain ⟨items, hitems⟩ := hopened before row after rfl hblank
      exact absurd hitems (hrow items)

theorem acceptedAmong_of_told (h : detectFormat rows = .ok told) : AcceptedAmong rows row ↔ told.Fits row := by
  constructor
  · rintro ⟨format, hformat, hfits⟩
    rwa [← hformat told h]
  · intro hfits
    refine ⟨told, fun other hother => ?_, hfits⟩
    rw [h] at hother
    cases hother
    rfl

theorem acceptedAmong_of_untold (h : ∀ told, detectFormat rows ≠ .ok told) :
    AcceptedAmong rows row ↔ ∃ format : Format, format.Fits row :=
  exists_congr fun _ => and_iff_right fun told htold => absurd htold (h told)

/-! ## The first row of all groups -/

/-- the first row of all without a property is one of a group, behind the rows of the groups before it -/
theorem firstOfGroups_of_rows (h : FirstWithout P (groups.flatMap Group.rows) index) :
    ∃ before g i, FirstOfGroups P groups before g i ∧ index = (before.flatMap Group.rows).length + i := by
  induction groups generalizing index with
  | nil =>
    obtain ⟨before, row, after, hsplit, -⟩ := h
    cases before <;> cases hsplit
  | cons g groups ih =>
    -- in a later group, if the rows of this one all have the property
    have hlater {skipped : List Value} {row : Value} {after : List Value}
        (hsplit : groups.flatMap Group.rows = skipped ++ row :: after) (hg : ∀ r ∈ g.rows, P r) (hskipped : ∀ r ∈ skipped, P r)
        (hrow : ¬ P row) : ∃ before g' i, FirstOfGroups P (g :: groups) before g' i ∧
          g.rows.length + skipped.length = (before.flatMap Group.rows).length + i := by
      obtain ⟨before, g', i, ⟨⟨rest, hgroups⟩, hbefore, hfirst⟩, hindex⟩ := ih ⟨skipped, row, after, hsplit, rfl, hskipped, hrow⟩
      refine ⟨g :: before, g', i, ⟨⟨rest, by rw [hgroups, List.cons_append]⟩, ?_, hfirst⟩, ?_⟩
      · exact List.forall_mem_cons.2 ⟨hg, hbefore⟩
      · rw [hindex, List.flatMap_cons, List.length_append, Nat.add_assoc]
    obtain ⟨before, row, after, hsplit, rfl, hbefore, hrow⟩ := h
    rw [List.flatMap_cons] at hsplit
    rcases List.append_eq_append_iff.1 hsplit with ⟨skipped, rfl, hrest⟩ | ⟨own, hown, hrest⟩
    · rw [List.forall_mem_append] at hbefore
      rw [List.length_append]
      exact hlater hrest hbefore.1 hbefore.2 hrow
    · cases own with
      | nil =>
        rw [List.append_nil] at hown
        rw [List.nil_append] at hrest
        rw [← hown] at hbefore ⊢
        exact hlater hrest.symm hbefore (List.forall_mem_nil _) hrow
      | cons first own =>
        obtain ⟨rfl, -⟩ := List.cons_eq_cons.1 hrest
        exact ⟨[], g, before.length, ⟨⟨groups, rfl⟩, List.forall_mem_nil _, before, row, own, hown, rfl, hbefore, hrow⟩, by simp⟩

/-- groups held to a format stop at the first row of all that does not fit, and name its group -/
theorem parseGroups_error (h : parseGroups format groups = .error e) :
    ∃ before g index reason, FirstOfGroups format.Fits groups before g index ∧
      e = .inEquipment g.equipmentId (.malformedRow index reason) := by
  induction groups with
  | nil => cases h
  | cons g groups ih =>
    cases hrows : Rows.parse g.rows format with
    | error refusal =>
      obtain ⟨index, reason, rfl, hfirst⟩ := Rows.parse_error hrows
      simp only [parseGroups, Group.parse, hrows, Bind.bind, Except.bind] at h
      cases h
      exact ⟨[], g, index, reason, ⟨⟨groups, rfl⟩, List.forall_mem_nil _, hfirst⟩, rfl⟩
    | ok parsed =>
      have hg : ∀ row ∈ g.rows, format.Fits row := Rows.exists_parse_iff.1 ⟨parsed, hrows⟩
      have hparse : g.parse format = .ok ⟨g.equipmentId, parsed⟩ := Group.parse_eq_ok_iff.2 ⟨rfl, hrows⟩
      rcases bind_eq_error_iff.1 h with hrefused | ⟨_, -, hrest⟩
      · rw [hparse] at hrefused
        cases hrefused
      rcases bind_eq_error_iff.1 hrest with hrest | ⟨_, -, hdone⟩
      · obtain ⟨before, g', index, reason, ⟨⟨after, hgroups⟩, hbefore, hfirst⟩, rfl⟩ := ih hrest
        refine ⟨g :: before, g', index, reason, ⟨⟨after, by rw [hgroups, List.cons_append]⟩, ?_, hfirst⟩, rfl⟩
        exact List.forall_mem_cons.2 ⟨hg, hbefore⟩
      · cases hdone

theorem FirstWithout.congr (h : FirstWithout P rows index) (hPQ : ∀ row, P row ↔ Q row) : FirstWithout Q rows index := by
  obtain ⟨before, row, after, hsplit, hindex, hbefore, hrow⟩ := h
  exact ⟨before, row, after, hsplit, hindex, fun r hr => (hPQ r).1 (hbefore r hr), fun hQ => hrow ((hPQ row).2 hQ)⟩

theorem FirstOfGroups.congr {before : List Group} {g : Group} (h : FirstOfGroups P groups before g index)
    (hPQ : ∀ row, P row ↔ Q row) : FirstOfGroups Q groups before g index :=
  ⟨h.groups, fun b hb row hrow => (hPQ row).1 (h.before b hb row hrow), h.row.congr hPQ⟩

/-- where no format is told, the row that is reported is the first that no format accepts -/
theorem detectFormat_error_fits (h : detectFormat rows = .error e) :
    ∃ index reason, e = .malformedRow index reason ∧ FirstWithout (fun row => ∃ format : Format, format.Fits row) rows index := by
  obtain ⟨before, row, after, reason, rfl, hblank, hrow, rfl⟩ := detectFormatFrom_error h
  refine ⟨_, reason, rfl, before, row, after, rfl, (Nat.zero_add _).symm, fun r hr => ?_, ?_⟩
  · rw [hblank r hr]
    exact ⟨.implicit, Format.fits_blank .implicit⟩
  · rintro ⟨format, hfits⟩
    obtain ⟨items, hitems⟩ := hfits.isArray
    exact hrow items hitems

/-- **Which row a payload for several equipments is refused for.** Let a payload with well declared channels be refused. Some
row is the first of all, in order, that is not accepted: in the format that the rows tell, or in any format if they tell none.
If rows that stand behind empty rows alone are arrays, then a format is told, and the error names the equipment of the group
of that row and its position in this group. Otherwise the error has the position of that row among the rows of all groups,
and names no equipment. -/
theorem culprit_named (wire : List WireChannel) (groups : List Group) (declared : List DeclaredChannel) (e : ParserError)
    (hwire : parseChannels wire = .ok declared) (hrefused : Bulk.parse ⟨wire, groups⟩ = .error e) :
    ∃ before g index reason, FirstOfGroups (AcceptedAmong (groups.flatMap Group.rows)) groups before g index ∧
      (Opened (groups.flatMap Group.rows) → e = .inEquipment g.equipmentId (.malformedRow index reason)) ∧
      (¬ Opened (groups.flatMap Group.rows) → e = .malformedRow ((before.flatMap Group.rows).length + index) reason) := by
  rcases bind_eq_error_iff.1 hrefused with hfailed | ⟨_, -, hrest⟩
  · rw [hwire] at hfailed
    cases hfailed
  rcases bind_eq_error_iff.1 hrest with huntold | ⟨told, htold, hrest⟩
  · have hnone : ∀ told, detectFormat (groups.flatMap Group.rows) ≠ .ok told := by
      intro told htold
      rw [huntold] at htold
      cases htold
    have hclosed : ¬ Opened (groups.flatMap Group.rows) := by
      rw [← exists_detectFormat_iff]
      exact fun ⟨told, htold⟩ => hnone told htold
    obtain ⟨index, reason, rfl, hfirst⟩ := detectFormat_error_fits huntold
    obtain ⟨before, g, i, hgroup, rfl⟩ := firstOfGroups_of_rows hfirst
    exact ⟨before, g, i, reason, hgroup.congr fun row => (acceptedAmong_of_untold hnone).symm,
      fun hopened => absurd hopened hclosed, fun _ => rfl⟩
  · have hopened : Opened (groups.flatMap Group.rows) := exists_detectFormat_iff.1 ⟨told, htold⟩
    rcases bind_eq_error_iff.1 hrest with hparse | ⟨_, -, hdone⟩
    · obtain ⟨before, g, index, reason, hgroup, rfl⟩ := parseGroups_error hparse
      exact ⟨before, g, index, reason, hgroup.congr fun row => (acceptedAmong_of_told htold).symm, fun _ => rfl,
        fun hclosed => absurd hopened hclosed⟩
    · cases hdone

/-- a group with an empty row and a row of a number, and a group whose second row is of a pair -/
def mixedGroups : List Group :=
  [⟨"M0:S0", [.array [], .array [.ofNat 3]]⟩, ⟨"M1:S1", [.array [.ofNat 4], .array [.array [.ofNat 0, .ofNat 5]]]⟩]

/-- the first group tells that rows are implicit, and the second row of the second group is refused for it -/
theorem culprit_named_pair :
    (∃ reason, Bulk.parse ⟨[], mixedGroups⟩ = .error (.inEquipment "M1:S1" (.malformedRow 1 reason))) ∧
      Opened (mixedGroups.flatMap Group.rows) ∧
      ∃ before g, FirstOfGroups (AcceptedAmong (mixedGroups.flatMap Group.rows)) mixedGroups before g 1 ∧
        g.equipmentId = "M1:S1" := by
  obtain ⟨reason, hrefused⟩ :
      ∃ reason, Bulk.parse ⟨[], mixedGroups⟩ = .error (.inEquipment "M1:S1" (.malformedRow 1 reason)) := ⟨_, rfl⟩
  have hopened : Opened (mixedGroups.flatMap Group.rows) := exists_detectFormat_iff.1 ⟨.implicit, rfl⟩
  obtain ⟨before, g, index, reason', hgroup, hnamed, -⟩ := culprit_named [] mixedGroups [] _ rfl hrefused
  have hsame := hnamed hopened
  injection hsame with hid hrow
  injection hrow with hindex
  subst hindex
  exact ⟨⟨reason, hrefused⟩, hopened, before, g, hgroup, hid.symm⟩

/-- a group with an empty row, and a group with a number for a row -/
def scalarGroups : List Group :=
  [⟨"M0:S0", [.array []]⟩, ⟨"M1:S1", [.ofNat 5]⟩]

/-- the first row of the second group is no array, and is reported as the second row of no equipment -/
theorem scalar_behind_empty_row :
    FirstOfGroups (AcceptedAmong (scalarGroups.flatMap Group.rows)) scalarGroups [⟨"M0:S0", [.array []]⟩] ⟨"M1:S1", [.ofNat 5]⟩ 0 ∧
      ∃ reason, Bulk.parse ⟨[], scalarGroups⟩ = .error (.malformedRow 1 reason) := by
  have huntold : ∀ told, detectFormat (scalarGroups.flatMap Group.rows) ≠ .ok told := by
    intro told h
    cases h
  refine ⟨⟨⟨[], rfl⟩, ?_, [], .ofNat 5, [], rfl, rfl, List.forall_mem_nil _, ?_⟩, _, rfl⟩
  · simp only [List.forall_mem_singleton, acceptedAmong_of_untold huntold]
    exact ⟨.implicit, Format.fits_blank .implicit⟩
  · rw [acceptedAmong_of_untold huntold]
    rintro ⟨format, hfits⟩
    obtain ⟨items, hitems⟩ := hfits.isArray
    cases hitems

end Telemetry.Payload
