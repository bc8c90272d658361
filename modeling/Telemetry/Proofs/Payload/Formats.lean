import Telemetry.Proofs.Payload.Rows
/-
The format of rows that become points.

A row that becomes a point has a cell: it needs a time. So the first row of a group already tells the format, and rows that
were held to the format of a larger payload are in the same format taken alone. A group without rows has no points in either
format.

- `detectFormat_of_points`: rows that make points tell the format they were held to;
- `parse_alone`: rows of a group make the same points when they are a payload of their own.
-/
namespace Telemetry

open Json

namespace Point

/-- a row without cells makes no point -/
theorem ofImplicitRow_nil (channels : List Channel.Resolved) (rowIndex : Nat) (point : Point) :
    ofImplicitRow channels rowIndex [] ≠ .ok point := by
  intro h
  unfold ofImplicitRow at h
  cases channels <;> cases h

/-- a row without entries makes no point -/
theorem ofExplicitRow_nil (channels : List Channel.Resolved) (rowIndex : Nat) (point : Point) :
    ofExplicitRow channels rowIndex [] ≠ .ok point := by
  intro h
  cases h

end Point

namespace Payload

/-- rows that make points tell the format they were held to -/
theorem detectFormat_of_points {channels : List Channel.Resolved} {row : Value} {rows : List Value} {format : Format}
    {parsed : Rows} {points : List Point} (hparsed : Rows.parse (row :: rows) format = .ok parsed)
    (hpoints : Point.ofRows channels parsed = .ok points) : detectFormat (row :: rows) = .ok format := by
  obtain ⟨hformat, -, hwritten⟩ := Rows.parse_eq_ok_iff.1 hparsed
  refine (detectFormatFrom_of_fits (Rows.exists_parse_iff.1 ⟨parsed, hparsed⟩)).resolve_right fun ⟨_, hblank⟩ => ?_
  obtain rfl := hblank row List.mem_cons_self
  -- the first row has no cells, and makes no point
  cases parsed with
  | implicit cells =>
    obtain ⟨_, rest, rfl, hfirst, -⟩ := List.map_eq_cons_iff.1 hwritten
    cases hfirst
    obtain ⟨point, -, hpoint, -⟩ := eachFrom_cons_ok hpoints
    exact Point.ofImplicitRow_nil channels 0 point hpoint
  | explicit entries =>
    obtain ⟨first, rest, rfl, hfirst, -⟩ := List.map_eq_cons_iff.1 hwritten
    simp only [Point.ofRows] at hpoints
    split at hpoints
    · cases hpoints
    · obtain ⟨point, -, hpoint, -⟩ := eachFrom_cons_ok hpoints
      cases first with
      | nil => exact Point.ofExplicitRow_nil channels 0 point hpoint
      | cons entry first => cases hfirst

theorem ofRows_of_no_rows {channels : List Channel.Resolved} {format : Format} {parsed : Rows} {points : List Point}
    (hparsed : Rows.parse [] format = .ok parsed) (hpoints : Point.ofRows channels parsed = .ok points) : points = [] := by
  have hlength := (Point.ofRows_length hpoints).trans (Rows.parse_length hparsed)
  exact List.length_eq_zero_iff.1 hlength

/-- rows of a group make the same points when they are a payload of their own -/
theorem parse_alone {wire : List WireChannel} {declared : List DeclaredChannel} {channels : List Channel.Resolved}
    {rows : List Value} {format : Format} {parsed : Rows} {points : List Point} (hwire : parseChannels wire = .ok declared)
    (hparsed : Rows.parse rows format = .ok parsed) (hpoints : Point.ofRows channels parsed = .ok points) :
    ∃ alone, Single.parse ⟨wire, rows⟩ = .ok ⟨declared, alone⟩ ∧ Point.ofRows channels alone = .ok points := by
  cases rows with
  | nil =>
    refine ⟨.implicit [], Single.parse_eq_ok_iff.2 ⟨hwire, rfl, rfl⟩, ?_⟩
    rw [ofRows_of_no_rows hparsed hpoints]
    rfl
  | cons row rows =>
    obtain rfl := (Rows.parse_eq_ok_iff.1 hparsed).1
    exact ⟨parsed, Single.parse_eq_ok_iff.2 ⟨hwire, detectFormat_of_points hparsed hpoints, hparsed⟩, hpoints⟩

end Payload

end Telemetry
