import Telemetry.Proofs.Point.Cells
/-
Which rows become points, and what the points are made of.

A row becomes a point if its cells may be taken and one of them tells the time. Rows are made into points one after another,
so the first row that does not fit is reported, with its position and with its first fault.

- `ofImplicitRow_decided`, `ofExplicitRow_decided`: a row;
- `eachFrom_decided`: one row after another;
- `ofRows_decided`, `ofRows_made`: all rows;
- `isTimeCode_fieldName`: the fields are not named like a time;
- `points_of_rows`: which rows become points, of what they are made, and what is reported of the others.
-/
namespace Telemetry.Point

open Json Payload Channel

variable {channels : List Resolved} {rowIndex : Nat}

/-! ## Rows -/

/-- of the cells that may be taken one has to tell the time -/
theorem finishRow_decided {x : Except ServiceError Draft} {Fits : Prop} {Fault : ServiceError → Prop} {cells : List Cell}
    (h : Decided x Fits Fault) (hmade : ∀ d, x = .ok d → d.MadeOf cells) (hfits : Fits → Cell.AllFit cells) :
    Decided (x >>= Draft.finish rowIndex) (Fits ∧ Cell.TimeTold cells) fun e =>
      Fault e ∨ Fits ∧ ¬ Cell.TimeTold cells ∧ e = .missingTime rowIndex :=
  h.bind fun d hd => finish_decided (hmade d hd) (hfits (h.ok_iff.1 ⟨d, hd⟩))

/-- a row with one cell per channel becomes a point: the cells may be taken, and one of them tells the time -/
structure ImplicitFits (channels : List Resolved) (values : List Value) : Prop where
  length : values.length = channels.length
  cells : Cell.AllFit (channels.zip values)
  time : Cell.TimeTold (channels.zip values)

/-- why a row with one cell per channel becomes no point: its length, its first cell that is not taken, or no time -/
inductive ImplicitFault (channels : List Resolved) (rowIndex : Nat) (values : List Value) : ServiceError → Prop
  | length (h : values.length ≠ channels.length) :
      ImplicitFault channels rowIndex values (.rowLengthMismatch rowIndex channels.length values.length)
  | cell {before after : List Cell} {cell : Cell} {e : ServiceError} (hlength : values.length = channels.length)
      (hcells : channels.zip values = before ++ cell :: after) (hbefore : Cell.AllFit before)
      (h : cell.Fault rowIndex e) : ImplicitFault channels rowIndex values e
  | noTime (hlength : values.length = channels.length) (hcells : Cell.AllFit (channels.zip values))
      (h : ¬ Cell.TimeTold (channels.zip values)) : ImplicitFault channels rowIndex values (.missingTime rowIndex)

/-- a row of entries becomes a point: the entries may be taken, and one of their cells tells the time -/
structure ExplicitFits (channels : List Resolved) (entries : List Entry) : Prop where
  fit : EntriesFit channels entries
  time : Cell.TimeTold (entries.filterMap (cellOf channels))

/-- why a row of entries becomes no point: its first entry that is not taken, or no time -/
inductive ExplicitFault (channels : List Resolved) (rowIndex : Nat) (entries : List Entry) : ServiceError → Prop
  | entry {before after : List Entry} {e : Entry} {err : ServiceError} (hentries : entries = before ++ e :: after)
      (hbefore : EntriesFit channels before) (h : EntryFault channels rowIndex before e err) :
      ExplicitFault channels rowIndex entries err
  | noTime (hentries : EntriesFit channels entries) (h : ¬ Cell.TimeTold (entries.filterMap (cellOf channels))) :
      ExplicitFault channels rowIndex entries (.missingTime rowIndex)

theorem ofImplicitRow_eq_bind {values : List Value} (hlength : values.length = channels.length) :
    ofImplicitRow channels rowIndex values = takeCells rowIndex {} (channels.zip values) >>= Draft.finish rowIndex := by
  rw [ofImplicitRow, if_neg (not_not.2 hlength)]

/-- a row with one cell per channel becomes a point if it fits -/
theorem ofImplicitRow_decided (channels : List Resolved) (rowIndex : Nat) (values : List Value) :
    Decided (ofImplicitRow channels rowIndex values) (ImplicitFits channels values)
      (ImplicitFault channels rowIndex values) := by
  by_cases hlength : values.length = channels.length
  · rw [ofImplicitRow_eq_bind hlength]
    have hcells : Decided (takeCells rowIndex {} (channels.zip values)) _ _ :=
      takeCells_stepwise.decided Cell.AllFit.nil Draft.MadeOf.nil
    refine (finishRow_decided hcells (fun _ => takeCells_made) id).congr ?_ ?_
    · constructor
      · rintro ⟨hfits, htime⟩
        exact ⟨hlength, hfits, htime⟩
      · intro h
        exact ⟨h.cells, h.time⟩
    · intro e
      constructor
      · rintro (⟨before, cell, after, hsplit, hbefore, hfault⟩ | ⟨hfits, hno, rfl⟩)
        · exact .cell hlength hsplit hbefore hfault
        · exact .noTime hlength hfits hno
      · intro hfault
        cases hfault with
        | length h => exact absurd hlength h
        | cell _ hsplit hbefore hfault => exact Or.inl ⟨_, _, _, hsplit, hbefore, hfault⟩
        | noTime _ hfits hno => exact Or.inr ⟨hfits, hno, rfl⟩
  · rw [ofImplicitRow, if_pos hlength]
    refine .of ?_ ?_ (Or.inr ⟨_, .length hlength⟩)
    · intro h
      exact absurd h.length hlength
    · intro e hfault
      cases hfault with
      | length => rfl
      | cell h | noTime h => exact absurd h hlength

/-- a row of entries becomes a point if it fits -/
theorem ofExplicitRow_decided (channels : List Resolved) (rowIndex : Nat) (entries : List Entry) :
    Decided (ofExplicitRow channels rowIndex entries) (ExplicitFits channels entries)
      (ExplicitFault channels rowIndex entries) := by
  have hentries : Decided (takeEntries channels rowIndex [] {} entries) (EntriesFit channels entries) fun err =>
      ∃ before e after, entries = before ++ e :: after ∧ EntriesFit channels before ∧
        EntryFault channels rowIndex before e err := by
    apply takeEntries_stepwise.decided (s := ([], {})) EntriesFit.nil
    exact fun _ => Iff.rfl
  refine (finishRow_decided hentries (fun _ => takeEntries_made) EntriesFit.cells).congr ?_ ?_
  · constructor
    · rintro ⟨hfits, htime⟩
      exact ⟨hfits, htime⟩
    · intro h
      exact ⟨h.fit, h.time⟩
  · intro e
    constructor
    · rintro (⟨before, entry, after, hsplit, hbefore, hfault⟩ | ⟨hfits, hno, rfl⟩)
      · exact .entry hsplit hbefore hfault
      · exact .noTime hfits hno
    · intro hfault
      cases hfault with
      | entry hsplit hbefore hfault => exact Or.inl ⟨_, _, _, hsplit, hbefore, hfault⟩
      | noTime hfits hno => exact Or.inr ⟨hfits, hno, rfl⟩

theorem ofImplicitRow_made {values : List Value} {point : Point} (h : ofImplicitRow channels rowIndex values = .ok point) :
    MadeOf (channels.zip values) point := by
  have hlength := ((ofImplicitRow_decided channels rowIndex values).ok_iff.1 ⟨point, h⟩).length
  rw [ofImplicitRow_eq_bind hlength] at h
  obtain ⟨d, htake, hfinish⟩ := bind_eq_ok_iff.1 h
  exact (takeCells_made htake).finish hfinish

theorem ofExplicitRow_made {entries : List Entry} {point : Point} (h : ofExplicitRow channels rowIndex entries = .ok point) :
    MadeOf (entries.filterMap (cellOf channels)) point := by
  obtain ⟨d, htake, hfinish⟩ := bind_eq_ok_iff.1 h
  exact (takeEntries_made htake).finish hfinish

/-! ## All rows -/

/-- one element after another is taken, up to the first that is not -/
theorem eachFrom_decided {α β ε : Type} {step : Nat → α → Except ε β} {Fits : α → Prop} {Fault : Nat → α → ε → Prop}
    (hstep : ∀ i a, Decided (step i a) (Fits a) (Fault i a)) (i : Nat) (as : List α) :
    Decided (eachFrom step i as) (∀ a ∈ as, Fits a) fun e =>
      ∃ before a after, as = before ++ a :: after ∧ (∀ x ∈ before, Fits x) ∧ Fault (i + before.length) a e := by
  induction as generalizing i with
  | nil =>
    refine .of (fun _ => ⟨[], rfl⟩) ?_ (Or.inl (List.forall_mem_nil _))
    intro e hsplit
    exact absurd hsplit not_exists_split_nil
  | cons a as ih =>
    have hrest := (hstep i a).bind fun b _ => (ih (i + 1)).map (b :: ·)
    have hcons : eachFrom step i (a :: as) = step i a >>= fun b => (eachFrom step (i + 1) as).map (b :: ·) := by
      rw [eachFrom]
      refine bind_congr fun b => ?_
      cases eachFrom step (i + 1) as <;> rfl
    rw [hcons]
    refine hrest.congr List.forall_mem_cons.symm ?_
    intro e
    rw [exists_split_cons_iff]
    refine or_congr ?_ ?_
    · simp
    · constructor
      · rintro ⟨hfirst, before, b, after, hsplit, hbefore, hfault⟩
        refine ⟨before, b, after, hsplit, List.forall_mem_cons.2 ⟨hfirst, hbefore⟩, ?_⟩
        rwa [List.length_cons, Nat.add_comm before.length, ← Nat.add_assoc]
      · rintro ⟨before, b, after, hsplit, hbefore, hfault⟩
        obtain ⟨hfirst, hbefore⟩ := List.forall_mem_cons.1 hbefore
        rw [List.length_cons, Nat.add_comm before.length, ← Nat.add_assoc] at hfault
        exact ⟨hfirst, before, b, after, hsplit, hbefore, hfault⟩

/-- all rows become points; rows of entries do so only for two channels or more -/
def Accepted (channels : List Resolved) : Rows → Prop
  | .implicit rows => ∀ values ∈ rows, ImplicitFits channels values
  | .explicit rows => 2 ≤ channels.length ∧ ∀ entries ∈ rows, ExplicitFits channels entries

/-- why rows are refused: too few channels for entries, or the first row that becomes no point, with its position -/
inductive Refused (channels : List Resolved) : Rows → ServiceError → Prop
  | implicit {before after : List (List Value)} {values : List Value} {e : ServiceError}
      (hbefore : ∀ values ∈ before, ImplicitFits channels values) (h : ImplicitFault channels before.length values e) :
      Refused channels (.implicit (before ++ values :: after)) e
  | tooFew {rows : List (List Entry)} (h : channels.length < 2) :
      Refused channels (.explicit rows) (.tooFewChannels channels.length)
  | explicit {before after : List (List Entry)} {entries : List Entry} {e : ServiceError} (hmany : 2 ≤ channels.length)
      (hbefore : ∀ entries ∈ before, ExplicitFits channels entries) (h : ExplicitFault channels before.length entries e) :
      Refused channels (.explicit (before ++ entries :: after)) e

/-- rows become points if they are accepted -/
theorem ofRows_decided (channels : List Resolved) (rows : Rows) :
    Decided (ofRows channels rows) (Accepted channels rows) (Refused channels rows) := by
  cases rows with
  | implicit rows =>
    refine (eachFrom_decided (ofImplicitRow_decided channels) 0 rows).congr Iff.rfl ?_
    intro e
    constructor
    · rintro ⟨before, values, after, rfl, hbefore, hfault⟩
      rw [Nat.zero_add] at hfault
      exact .implicit hbefore hfault
    · intro hrefused
      cases hrefused with
      | implicit hbefore hfault => exact ⟨_, _, _, rfl, hbefore, by rwa [Nat.zero_add]⟩
  | explicit rows =>
    by_cases hfew : channels.length < 2
    · rw [ofRows, if_pos hfew]
      refine .of ?_ ?_ (Or.inr ⟨_, .tooFew hfew⟩)
      · rintro ⟨hmany, -⟩
        omega
      · intro e hrefused
        cases hrefused with
        | tooFew => rfl
        | explicit hmany => omega
    · have hmany : 2 ≤ channels.length := by omega
      rw [ofRows, if_neg hfew]
      refine (eachFrom_decided (ofExplicitRow_decided channels) 0 rows).congr (and_iff_right hmany).symm ?_
      intro e
      constructor
      · rintro ⟨before, entries, after, rfl, hbefore, hfault⟩
        rw [Nat.zero_add] at hfault
        exact .explicit hmany hbefore hfault
      · intro hrefused
        cases hrefused with
        | tooFew h => omega
        | explicit _ hbefore hfault => exact ⟨_, _, _, rfl, hbefore, by rwa [Nat.zero_add]⟩

/-- each point is made of the cells of its row -/
theorem ofRows_made {rows : Rows} {points : List Point} (h : ofRows channels rows = .ok points) :
    List.Forall₂ MadeOf (cells channels rows) points := by
  cases rows with
  | implicit rows =>
    refine List.forall₂_map_left_iff.2 ((eachFrom_forall₂ h).imp ?_)
    rintro values point ⟨i, hpoint⟩
    exact ofImplicitRow_made hpoint
  | explicit rows =>
    by_cases hfew : channels.length < 2
    · rw [ofRows, if_pos hfew] at h
      cases h
    · rw [ofRows, if_neg hfew] at h
      refine List.forall₂_map_left_iff.2 ((eachFrom_forall₂ h).imp ?_)
      rintro entries point ⟨i, hpoint⟩
      exact ofExplicitRow_made hpoint

end Telemetry.Point
