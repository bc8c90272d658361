import Mathlib.Data.List.Forall2
import Telemetry.Point.OfRows
import Telemetry.Proofs.Except
/-
Checking a payload keeps its groups and their rows, one for one, and mapping rows makes one point of each.

- `Bulk.parse_groups`, `Bulk.parse_ok`: a checked group has the equipment id and as many rows as the group it comes from;
- `ofRows_length`: there are as many points as rows.
-/
namespace Telemetry

/-- what corresponding elements have in common, lists of them have in common -/
theorem map_eq_of_forall₂ {α β γ : Type} {R : α → β → Prop} {f : α → γ} {g : β → γ} {as : List α} {bs : List β}
    (h : List.Forall₂ R as bs) (heq : ∀ a b, R a b → g b = f a) : bs.map g = as.map f := by
  induction h with
  | nil => rfl
  | cons hab _ ih => rw [List.map_cons, List.map_cons, heq _ _ hab, ih]

/-- every element of the second list corresponds to one of the first -/
theorem exists_of_forall₂ {α β : Type} {R : α → β → Prop} {as : List α} {bs : List β} (h : List.Forall₂ R as bs) {b : β}
    (hb : b ∈ bs) : ∃ a ∈ as, R a b := by
  induction h with
  | nil => cases hb
  | cons hab _ ih =>
    rcases List.mem_cons.1 hb with rfl | hb
    · exact ⟨_, List.mem_cons_self, hab⟩
    · obtain ⟨a, ha, hR⟩ := ih hb
      exact ⟨a, List.mem_cons_of_mem _ ha, hR⟩

/-- what a list is read into has been read element by element -/
theorem exists_of_mem_mapM {α β : Type} {read : α → Option β} {as : List α} {bs : List β} (h : as.mapM read = some bs) :
    ∀ b ∈ bs, ∃ a, read a = some b := by
  induction as generalizing bs with
  | nil => cases h; simp
  | cons a as ih =>
    rw [List.mapM_cons] at h
    obtain ⟨b, hb, h⟩ := Option.bind_eq_some_iff.1 h
    obtain ⟨rest, hrest, h⟩ := Option.bind_eq_some_iff.1 h
    cases h
    exact List.forall_mem_cons.2 ⟨⟨a, hb⟩, ih hrest⟩

/-- a traversal that succeeds has taken each element -/
theorem forall₂_of_mapM {α β ε : Type} {step : α → Except ε β} {as : List α} {bs : List β} (h : as.mapM step = .ok bs) :
    List.Forall₂ (fun a b => step a = .ok b) as bs := by
  induction as generalizing bs with
  | nil => cases h; exact .nil
  | cons a as ih =>
    rw [List.mapM_cons] at h
    obtain ⟨b, hb, h⟩ := bind_eq_ok_iff.1 h
    obtain ⟨rest, hrest, h⟩ := bind_eq_ok_iff.1 h
    cases h
    exact .cons hb (ih hrest)

namespace Payload

theorem eachFrom_cons_ok {α β ε : Type} {step : Nat → α → Except ε β} {i : Nat} {a : α} {as : List α} {bs : List β}
    (h : eachFrom step i (a :: as) = .ok bs) :
    ∃ b rest, step i a = .ok b ∧ eachFrom step (i + 1) as = .ok rest ∧ bs = b :: rest := by
  obtain ⟨b, hb, hrest⟩ := bind_eq_ok_iff.1 h
  obtain ⟨rest, htail, hdone⟩ := bind_eq_ok_iff.1 hrest
  cases hdone
  exact ⟨b, rest, hb, htail, rfl⟩

theorem eachFrom_forall₂ {α β ε : Type} {step : Nat → α → Except ε β} {i : Nat} {as : List α} {bs : List β}
    (h : eachFrom step i as = .ok bs) : List.Forall₂ (fun a b => ∃ j, step j a = .ok b) as bs := by
  induction as generalizing i bs with
  | nil => cases h; exact .nil
  | cons a as ih =>
    obtain ⟨b, rest, hb, htail, rfl⟩ := eachFrom_cons_ok h
    exact .cons ⟨i, hb⟩ (ih htail)

theorem eachFrom_length {α β ε : Type} {step : Nat → α → Except ε β} {i : Nat} {as : List α} {bs : List β}
    (h : eachFrom step i as = .ok bs) : bs.length = as.length :=
  (eachFrom_forall₂ h).length_eq.symm

theorem Rows.parse_length {rows : List Json.Value} {format : Format} {parsed : Rows}
    (h : Rows.parse rows format = .ok parsed) : parsed.length = rows.length := by
  cases format with
  | implicit =>
    obtain ⟨values, hvalues, rfl⟩ := map_eq_ok_iff.1 h
    exact eachFrom_length hvalues
  | explicit =>
    obtain ⟨entries, hentries, rfl⟩ := map_eq_ok_iff.1 h
    exact eachFrom_length hentries

/-- the checked form of a group: the same equipment, and a row for each row -/
structure Group.Checked (g : Group) (p : ParsedGroup) : Prop where
  equipmentId : p.equipmentId = g.equipmentId
  rows : p.rows.length = g.rows.length

theorem Group.parse_eq_ok {format : Format} {g : Group} {p : ParsedGroup} (h : g.parse format = .ok p) :
    p.equipmentId = g.equipmentId ∧ Rows.parse g.rows format = .ok p.rows := by
  unfold Group.parse at h
  split at h
  · rename_i rows hrows
    cases h
    exact ⟨rfl, hrows⟩
  · cases h

theorem Group.parse_ok {format : Format} {g : Group} {p : ParsedGroup} (h : g.parse format = .ok p) : g.Checked p := by
  obtain ⟨hid, hrows⟩ := Group.parse_eq_ok h
  exact ⟨hid, Rows.parse_length hrows⟩

theorem parseGroups_ok {format : Format} {groups : List Group} {parsed : List ParsedGroup}
    (h : parseGroups format groups = .ok parsed) : List.Forall₂ (fun g p => g.parse format = .ok p) groups parsed := by
  induction groups generalizing parsed with
  | nil => cases h; exact .nil
  | cons g gs ih =>
    obtain ⟨p, hp, hrest⟩ := bind_eq_ok_iff.1 h
    obtain ⟨ps, hps, hdone⟩ := bind_eq_ok_iff.1 hrest
    cases hdone
    exact .cons hp (ih hps)

/-- every group is held to one format, and has the channels declared for all -/
theorem Bulk.parse_groups {payload : Bulk} {parsed : ParsedBulk} (h : payload.parse = .ok parsed) :
    parseChannels payload.channels = .ok parsed.channels ∧
      List.Forall₂ (fun g p => g.parse parsed.format = .ok p) payload.groups parsed.groups := by
  obtain ⟨channels, hchannels, hrest⟩ := bind_eq_ok_iff.1 h
  obtain ⟨format, -, hrest⟩ := bind_eq_ok_iff.1 hrest
  obtain ⟨groups, hgroups, hdone⟩ := bind_eq_ok_iff.1 hrest
  cases hdone
  exact ⟨hchannels, parseGroups_ok hgroups⟩

theorem Bulk.parse_ok {payload : Bulk} {parsed : ParsedBulk} (h : payload.parse = .ok parsed) :
    List.Forall₂ Group.Checked payload.groups parsed.groups :=
  (Bulk.parse_groups h).2.imp fun _ _ => Group.parse_ok

end Payload

/-- there are as many points as rows -/
theorem Point.ofRows_length {channels : List Channel.Resolved} {rows : Payload.Rows} {points : List Point}
    (h : Point.ofRows channels rows = .ok points) : points.length = rows.length := by
  unfold Point.ofRows at h
  split at h
  · exact Payload.eachFrom_length h
  · split at h
    · cases h
    · exact Payload.eachFrom_length h

end Telemetry
