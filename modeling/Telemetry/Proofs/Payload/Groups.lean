import Telemetry.Proofs.Payload.Rows
/-
A payload for several equipments beside one payload with all their rows.

The format is told by the rows of all groups in order, then each group is held to it. Since a row fits a format wherever it
stands, cutting rows into groups changes neither what is accepted nor what is read (`Rows.parse_join`), and a group without
rows, or without cells, is in whatever format the others tell.

- `Bulk.parse_eq_ok_iff`: what reading groups asks;
- `bulk_agrees`: the two payloads are accepted together, and say the same.
-/
namespace Telemetry.Payload

open Json

namespace Rows

def cells : Rows → List (List Value)
  | .implicit rows => rows
  | .explicit _ => []

def entries : Rows → List (List Entry)
  | .implicit _ => []
  | .explicit rows => rows

/-- rows of one format, one part after another -/
def join : Format → List Rows → Rows
  | .implicit, parts => .implicit (parts.flatMap cells)
  | .explicit, parts => .explicit (parts.flatMap entries)

variable {format : Format} {parts : List Rows} {sent : List (List Value)}

@[simp] theorem format_join (format : Format) (parts : List Rows) : (join format parts).format = format := by
  cases format <;> rfl

theorem written_join (h : ∀ part ∈ parts, part.format = format) : (join format parts).written = parts.flatMap written := by
  cases format with
  | implicit =>
    rw [join, written, List.map_flatMap]
    refine List.flatMap_congr fun part hpart => ?_
    cases part with
    | implicit rows => rfl
    | explicit rows => cases h _ hpart
  | explicit =>
    rw [join, written, List.map_flatMap]
    refine List.flatMap_congr fun part hpart => ?_
    cases part with
    | implicit rows => cases h _ hpart
    | explicit rows => rfl

theorem flat_join (h : ∀ part ∈ parts, part.Flat) : (join format parts).Flat := by
  cases format with
  | implicit =>
    intro row hrow
    obtain ⟨part, hpart, hrow⟩ := List.mem_flatMap.1 hrow
    cases part with
    | implicit rows => exact h _ hpart row hrow
    | explicit rows => cases hrow
  | explicit => trivial

/-- rows held to a format part by part are the rows of all parts held to it -/
theorem parse_join (h : List.Forall₂ (fun rows part => Rows.parse rows format = .ok part) sent parts) :
    Rows.parse sent.flatten format = .ok (join format parts) := by
  have hread (part : Rows) (hpart : part ∈ parts) : part.format = format ∧ part.Flat := by
    obtain ⟨rows, -, hrows⟩ := exists_of_forall₂ h hpart
    obtain ⟨hformat, hflat, -⟩ := Rows.parse_eq_ok_iff.1 hrows
    exact ⟨hformat, hflat⟩
  have hwritten : parts.map written = sent.map id :=
    map_eq_of_forall₂ h fun rows part hrows => (Rows.parse_eq_ok_iff.1 hrows).2.2
  refine Rows.parse_eq_ok_iff.2 ⟨format_join format parts, flat_join fun part hpart => (hread part hpart).2, ?_⟩
  rw [written_join fun part hpart => (hread part hpart).1, List.flatMap_def, hwritten, List.map_id]

end Rows

/-! ## Reading groups -/

variable {format : Format} {groups : List Group}

theorem Group.parse_eq_ok_iff {g : Group} {p : ParsedGroup} :
    g.parse format = .ok p ↔ p.equipmentId = g.equipmentId ∧ Rows.parse g.rows format = .ok p.rows := by
  refine ⟨Group.parse_eq_ok, fun ⟨hid, hrows⟩ => ?_⟩
  unfold Group.parse
  rw [hrows, ← hid]

theorem parseGroups_eq_ok_iff {parsed : List ParsedGroup} :
    parseGroups format groups = .ok parsed ↔ List.Forall₂ (fun g p => g.parse format = .ok p) groups parsed := by
  refine ⟨parseGroups_ok, fun h => ?_⟩
  induction h with
  | nil => rfl
  | cons hg _ ih => exact bind_eq_ok_iff.2 ⟨_, hg, bind_eq_ok_iff.2 ⟨_, ih, rfl⟩⟩

theorem Bulk.parse_eq_ok_iff {payload : Bulk} {parsed : ParsedBulk} :
    payload.parse = .ok parsed ↔ parseChannels payload.channels = .ok parsed.channels ∧
      detectFormat (payload.groups.flatMap Group.rows) = .ok parsed.format ∧
      parseGroups parsed.format payload.groups = .ok parsed.groups := by
  constructor
  · intro h
    obtain ⟨channels, hchannels, h⟩ := bind_eq_ok_iff.1 h
    obtain ⟨format, hformat, h⟩ := bind_eq_ok_iff.1 h
    obtain ⟨groups, hgroups, hdone⟩ := bind_eq_ok_iff.1 h
    cases hdone
    exact ⟨hchannels, hformat, hgroups⟩
  · rintro ⟨hchannels, hformat, hgroups⟩
    exact bind_eq_ok_iff.2 ⟨_, hchannels, bind_eq_ok_iff.2 ⟨_, hformat, bind_eq_ok_iff.2 ⟨_, hgroups, rfl⟩⟩⟩

/-! ## Groups and their rows -/

/-- groups are accepted in a format if the rows of all of them are -/
theorem exists_parseGroups_iff :
    (∃ parsed, parseGroups format groups = .ok parsed) ↔ ∃ rows, Rows.parse (groups.flatMap Group.rows) format = .ok rows := by
  have hgroup (g : Group) : (∃ p, g.parse format = .ok p) ↔ ∀ row ∈ g.rows, format.Fits row := by
    rw [← Rows.exists_parse_iff]
    constructor
    · rintro ⟨p, hp⟩
      exact ⟨p.rows, (Group.parse_eq_ok hp).2⟩
    · rintro ⟨rows, hrows⟩
      exact ⟨⟨g.equipmentId, rows⟩, Group.parse_eq_ok_iff.2 ⟨rfl, hrows⟩⟩
  simp only [parseGroups_eq_ok_iff, exists_forall₂_iff, hgroup, Rows.exists_parse_iff, List.mem_flatMap]
  constructor
  · rintro h row ⟨g, hg, hrow⟩
    exact h g hg row hrow
  · intro h g hg row hrow
    exact h row ⟨g, hg, hrow⟩

/-- the rows of all groups, held to the format of the groups -/
theorem parse_rows_of_groups {parsed : List ParsedGroup} (h : parseGroups format groups = .ok parsed) :
    Rows.parse (groups.flatMap Group.rows) format = .ok (Rows.join format (parsed.map (·.rows))) := by
  rw [List.flatMap_def]
  refine Rows.parse_join ?_
  rw [List.forall₂_map_left_iff, List.forall₂_map_right_iff]
  exact (parseGroups_ok h).imp fun g p hp => (Group.parse_eq_ok hp).2

/-- **One payload for several equipments, or one with all their rows.** Let channels be declared in any way, and let groups
have any equipment ids and rows. The payload with these groups is accepted if and only if the payload with the same channels
and the rows of all groups in order is. Then both have the same channels and the same format, there is one checked group for
each group, in order, with its equipment id and its number of rows, all in the one format, and the rows of the checked groups
together are the rows of the other payload. -/
theorem bulk_agrees (wire : List WireChannel) (groups : List Group) :
    ((∃ bulk, Bulk.parse ⟨wire, groups⟩ = .ok bulk) ↔
      ∃ single, Single.parse ⟨wire, groups.flatMap Group.rows⟩ = .ok single) ∧
    ∀ bulk single, Bulk.parse ⟨wire, groups⟩ = .ok bulk → Single.parse ⟨wire, groups.flatMap Group.rows⟩ = .ok single →
      bulk.channels = single.channels ∧ bulk.format = single.rows.format ∧
      bulk.groups.map (·.equipmentId) = groups.map (·.equipmentId) ∧
      bulk.groups.map (·.rows.length) = groups.map (·.rows.length) ∧
      (∀ g ∈ bulk.groups, g.rows.format = bulk.format) ∧
      Rows.join bulk.format (bulk.groups.map (·.rows)) = single.rows := by
  refine ⟨⟨?_, ?_⟩, fun bulk single hbulk hsingle => ?_⟩
  · rintro ⟨bulk, hbulk⟩
    obtain ⟨hchannels, hformat, hgroups⟩ := Bulk.parse_eq_ok_iff.1 hbulk
    refine ⟨⟨bulk.channels, Rows.join bulk.format (bulk.groups.map (·.rows))⟩, Single.parse_eq_ok_iff.2 ⟨hchannels, ?_⟩⟩
    rw [Rows.format_join]
    exact ⟨hformat, parse_rows_of_groups hgroups⟩
  · rintro ⟨single, hsingle⟩
    obtain ⟨hchannels, hformat, hrows⟩ := Single.parse_eq_ok_iff.1 hsingle
    obtain ⟨parsed, hparsed⟩ := exists_parseGroups_iff.2 ⟨_, hrows⟩
    exact ⟨⟨single.channels, single.rows.format, parsed⟩, Bulk.parse_eq_ok_iff.2 ⟨hchannels, hformat, hparsed⟩⟩
  · obtain ⟨hchannels, hformat, hgroups⟩ := Bulk.parse_eq_ok_iff.1 hbulk
    obtain ⟨hchannels', hformat', hrows⟩ := Single.parse_eq_ok_iff.1 hsingle
    have hsame : bulk.format = single.rows.format := Except.ok.inj (hformat.symm.trans hformat')
    have hchecked := parseGroups_ok hgroups
    have hjoined := parse_rows_of_groups hgroups
    rw [← hsame] at hrows
    refine ⟨Except.ok.inj (hchannels.symm.trans hchannels'), hsame, ?_, ?_, fun p hp => ?_, ?_⟩
    · exact map_eq_of_forall₂ hchecked fun g p hp => (Group.parse_ok hp).equipmentId
    · exact map_eq_of_forall₂ hchecked fun g p hp => (Group.parse_ok hp).rows
    · obtain ⟨g, -, hg⟩ := exists_of_forall₂ hchecked hp
      exact (Rows.parse_eq_ok_iff.1 (Group.parse_eq_ok hg).2).1
    · exact Except.ok.inj (hjoined.symm.trans hrows)

end Telemetry.Payload
