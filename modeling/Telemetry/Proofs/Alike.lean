import Telemetry.Proofs.Surroundings
/-
Worlds that are alike except for what their caches hold.

Two worlds are alike if they differ at most in their caches and in logged calls that do not count. Where faults too depend
on the calls that count alone, a call that does not ask a cache is answered the same in both and leaves them alike
(`Alike.answer`), and so does a program of such calls (`Alike.run`). What is left to prove about a cache is then only what
its own look-ups answer.
-/
namespace Telemetry

open Program

namespace Call

/-- a call that reads, fills or clears a cache -/
def OnCache : Call → Prop
  | .channelCacheGet _ | .channelCacheSet .. | .channelCacheDrop _ | .mappingCacheGet _ | .mappingCacheSet ..
  | .mappingCacheDrop _ => True
  | _ => False

/-- a call whose answer does not come from a cache -/
def Uncached : Call → Prop
  | .channelCacheGet _ | .mappingCacheGet _ => False
  | _ => True

end Call

/-- of the calls before a call, only those that count decide whether and how it fails -/
structure Faults.DependOn (f : Faults) (counts : Call → Bool) : Prop where
  repository : ∀ {calls calls'} (c : Call), calls.filter counts = calls'.filter counts →
    f.repository calls c = f.repository calls' c
  hierarchy : ∀ {calls calls'} (c : Call), calls.filter counts = calls'.filter counts →
    f.hierarchy calls c = f.hierarchy calls' c
  historian : ∀ {calls calls'} (c : Call), calls.filter counts = calls'.filter counts →
    f.historian calls c = f.historian calls' c

/-- a store fails for no reason of its own -/
def Faults.StoresNeverFail (f : Faults) : Prop := ∀ calls c, f.repository calls c = none

/-- a collaborator fails a call always or never -/
abbrev Faults.Steady (f : Faults) : Prop := f.DependOn fun _ => false

theorem noneCounts (calls calls' : List Call) : calls.filter (fun _ => false) = calls'.filter fun _ => false := by
  rw [List.filter_eq_nil_iff.2 (by simp), List.filter_eq_nil_iff.2 (by simp)]

theorem Faults.Steady.same_repository {f : Faults} (h : f.Steady) (calls calls' : List Call) (c : Call) :
    f.repository calls c = f.repository calls' c :=
  h.repository c (noneCounts calls calls')

theorem Faults.Steady.same_hierarchy {f : Faults} (h : f.Steady) (calls calls' : List Call) (c : Call) :
    f.hierarchy calls c = f.hierarchy calls' c :=
  h.hierarchy c (noneCounts calls calls')

theorem Faults.dependOn_all (f : Faults) : f.DependOn fun _ => true := by
  constructor <;> intro calls calls' c h <;> simp only [List.filter_eq_self.2, implies_true] at h <;> rw [h]

namespace World

variable {counts : Call → Bool} {w w' : World}

/-- the worlds differ in caches and in logged calls that do not count, at most -/
def Alike (counts : Call → Bool) (w w' : World) : Prop :=
  ∃ channelCache mappingCache calls, w' = { w with channelCache, mappingCache, calls } ∧
    calls.filter counts = w.calls.filter counts

namespace Alike

theorem symm (h : Alike counts w w') : Alike counts w' w := by
  obtain ⟨channelCache, mappingCache, calls, rfl, hcalls⟩ := h
  exact ⟨w.channelCache, w.mappingCache, w.calls, rfl, hcalls.symm⟩

theorem trans {w'' : World} (h : Alike counts w w') (h' : Alike counts w' w'') : Alike counts w w'' := by
  obtain ⟨channelCache, mappingCache, calls, rfl, hcalls⟩ := h
  obtain ⟨channelCache', mappingCache', calls', rfl, hcalls'⟩ := h'
  exact ⟨channelCache', mappingCache', calls', rfl, hcalls'.trans hcalls⟩

/-- whatever the caches hold -/
theorem withCaches (w : World) (channelCache : ReadCache Channel.Definition) (mappingCache : ReadCache Storage.Mapping) :
    Alike counts w { w with channelCache, mappingCache } :=
  ⟨channelCache, mappingCache, w.calls, rfl, rfl⟩

theorem definitions (h : Alike counts w w') : w'.definitions = w.definitions := by
  obtain ⟨channelCache, mappingCache, calls, rfl, -⟩ := h
  rfl

theorem mappings (h : Alike counts w w') : w'.mappings = w.mappings := by
  obtain ⟨channelCache, mappingCache, calls, rfl, -⟩ := h
  rfl

theorem writes (h : Alike counts w w') : w'.writes = w.writes := by
  obtain ⟨channelCache, mappingCache, calls, rfl, -⟩ := h
  rfl

theorem directory (h : Alike counts w w') : w'.directory = w.directory := by
  obtain ⟨channelCache, mappingCache, calls, rfl, -⟩ := h
  rfl

theorem faults (h : Alike counts w w') : w'.faults = w.faults := by
  obtain ⟨channelCache, mappingCache, calls, rfl, -⟩ := h
  rfl

/-- a call on a cache changes nothing else -/
theorem onCache (w : World) {c : Call} (hc : c.OnCache) : Alike counts w (w.answer c).2 := by
  cases c with
  | channelCacheGet | channelCacheSet | channelCacheDrop | mappingCacheGet | mappingCacheSet | mappingCacheDrop =>
    exact ⟨_, _, _, rfl, rfl⟩
  | _ => exact hc.elim

/-- a call is logged in both worlds -/
theorem log (h : Alike counts w w') (c : Call) :
    Alike counts { w with calls := w.calls ++ [c] } { w' with calls := w'.calls ++ [c] } := by
  obtain ⟨channelCache, mappingCache, calls, rfl, hcalls⟩ := h
  exact ⟨channelCache, mappingCache, calls ++ [c], rfl, by simp only [List.filter_append, hcalls]⟩

end Alike

/-! ## Calls -/

/-- the same answer, in worlds that are alike afterwards -/
def AnswersAlike {α : Type} (counts : Call → Bool) (x x' : α × World) : Prop :=
  x.1 = x'.1 ∧ Alike counts x.2 x'.2

namespace Alike

theorem onRepository {α : Type} (h : Alike counts w w') (hfaults : w.faults.DependOn counts) (c : Call)
    {act : World → Except RepositoryError α × World}
    (hact : ∀ v v', Alike counts v v' → AnswersAlike counts (act v) (act v')) :
    AnswersAlike counts (w.onRepository c act) (w'.onRepository c act) := by
  have hlog := h.log c
  obtain ⟨channelCache, mappingCache, calls, rfl, hcalls⟩ := h
  simp only [World.onRepository, hfaults.repository c hcalls]
  cases w.faults.repository w.calls c with
  | none => exact hact _ _ hlog
  | some e => exact ⟨rfl, hlog⟩

theorem onHierarchy {α : Type} (h : Alike counts w w') (hfaults : w.faults.DependOn counts) (c : Call)
    (r : Except HierarchyError α) : AnswersAlike counts (w.onHierarchy c r) (w'.onHierarchy c r) := by
  have hlog := h.log c
  obtain ⟨channelCache, mappingCache, calls, rfl, hcalls⟩ := h
  simp only [World.onHierarchy, hfaults.hierarchy c hcalls]
  cases w.faults.hierarchy w.calls c <;> exact ⟨rfl, hlog⟩

theorem onHistorian {α : Type} (h : Alike counts w w') (hfaults : w.faults.DependOn counts) (c : Call)
    {act : World → α × World} (hact : ∀ v v', Alike counts v v' → AnswersAlike counts (act v) (act v')) :
    AnswersAlike counts (w.onHistorian c act) (w'.onHistorian c act) := by
  have hlog := h.log c
  obtain ⟨channelCache, mappingCache, calls, rfl, hcalls⟩ := h
  simp only [World.onHistorian, hfaults.historian c hcalls]
  cases w.faults.historian w.calls c with
  | none =>
    obtain ⟨hanswer, halike⟩ := hact _ _ hlog
    exact ⟨congrArg Except.ok hanswer, halike⟩
  | some e => exact ⟨rfl, hlog⟩

theorem upsertChannel (d : Channel.Definition) (v v' : World) (h : Alike counts v v') :
    AnswersAlike counts (World.upsertChannel d v) (World.upsertChannel d v') := by
  obtain ⟨channelCache, mappingCache, calls, rfl, hcalls⟩ := h
  unfold World.upsertChannel
  cases v.definitions.upsert d <;> exact ⟨rfl, channelCache, mappingCache, calls, rfl, hcalls⟩

/-- a call that does not ask a cache is answered the same, and leaves the worlds alike -/
theorem answer (h : Alike counts w w') (hfaults : w.faults.DependOn counts) {c : Call} (hc : c.Uncached) :
    AnswersAlike counts (w.answer c) (w'.answer c) := by
  cases c with
  | channelUpsert d => exact h.onRepository hfaults _ (upsertChannel d)
  | channelGet | channelSelect | channelDelete | mappingGet | mappingSelect | mappingUpsert | mappingProvision =>
    simp only [World.answer]
    refine h.onRepository hfaults _ ?_
    rintro v _ ⟨channelCache, mappingCache, calls, rfl, hcalls⟩
    exact ⟨rfl, channelCache, mappingCache, calls, rfl, hcalls⟩
  | hierarchyNode code =>
    have hnode := h.onHierarchy hfaults (.hierarchyNode code) (w.node code)
    obtain ⟨channelCache, mappingCache, calls, rfl, hcalls⟩ := h
    exact hnode
  | equipmentRecord wkeid =>
    have hrecord := h.onHierarchy hfaults (.equipmentRecord wkeid) (.ok (w.directory.lookup wkeid))
    obtain ⟨channelCache, mappingCache, calls, rfl, hcalls⟩ := h
    exact hrecord
  | historianRows | historianSeries | historianLatest | historianWrite =>
    simp only [World.answer]
    refine h.onHistorian hfaults _ ?_
    rintro v _ ⟨channelCache, mappingCache, calls, rfl, hcalls⟩
    exact ⟨rfl, channelCache, mappingCache, calls, rfl, hcalls⟩
  | freshId =>
    obtain ⟨channelCache, mappingCache, calls, rfl, hcalls⟩ := h
    exact ⟨rfl, channelCache, mappingCache, calls, rfl, hcalls⟩
  | channelCacheSet | channelCacheDrop | mappingCacheSet | mappingCacheDrop =>
    exact ⟨rfl, ((onCache w (by trivial)).symm.trans h).trans (onCache w' (by trivial))⟩
  | channelCacheGet | mappingCacheGet => exact hc.elim

end Alike

/-! ## Runs -/

section Run

variable {ε α β : Type}

theorem run_bind_of_ok {p : Program ε α} {f : α → Program ε β} {w w1 : World} {a : α} (h : p.run w = (.ok a, w1)) :
    (p >>= f).run w = (f a).run w1 :=
  perform_bind_of_ok h

theorem run_bind_of_error {p : Program ε α} {f : α → Program ε β} {w w1 : World} {e : ε} (h : p.run w = (.error e, w1)) :
    (p >>= f).run w = (.error e, w1) :=
  perform_bind_of_error h

theorem run_bind_ok {p : Program ε α} {f : α → Program ε β} {w w' : World} {b : β} :
    (p >>= f).run w = (.ok b, w') ↔ ∃ a w1, p.run w = (.ok a, w1) ∧ (f a).run w1 = (.ok b, w') :=
  perform_bind_ok

theorem run_bind_error {p : Program ε α} {f : α → Program ε β} {w w' : World} {e : ε} :
    (p >>= f).run w = (.error e, w') ↔ p.run w = (.error e, w') ∨
      ∃ a w1, p.run w = (.ok a, w1) ∧ (f a).run w1 = (.error e, w') :=
  perform_bind_error

theorem run_bind_pure (p : Program ε α) (f : α → β) (w : World) :
    (p >>= fun a => pure (f a)).run w = ((p.run w).1.map f, (p.run w).2) :=
  perform_bind_pure p f w

end Run

/-! ## What never changes -/

/-- calls change neither the hierarchy nor the faults -/
theorem answer_fixed (w : World) (c : Call) : (w.answer c).2.nodes = w.nodes ∧ (w.answer c).2.faults = w.faults := by
  refine ⟨?_, ?_⟩ <;> cases c <;> simp only [World.answer, World.onRepository, World.onHierarchy, World.onHistorian,
    World.upsertChannel, World.deleteChannels, World.provision] <;> repeat' split
  all_goals rfl

theorem run_fixed {ε α : Type} (p : Program ε α) (w : World) : (p.run w).2.nodes = w.nodes ∧ (p.run w).2.faults = w.faults := by
  induction p generalizing w with
  | done a => exact ⟨rfl, rfl⟩
  | fail e => exact ⟨rfl, rfl⟩
  | step c next ih =>
    obtain ⟨hnodes, hfaults⟩ := answer_fixed w c
    obtain ⟨hnodes', hfaults'⟩ := ih (w.answer c).1 (w.answer c).2
    exact ⟨hnodes'.trans hnodes, hfaults'.trans hfaults⟩

/-- calls do not change the directory -/
theorem answer_directory (w : World) (c : Call) : (w.answer c).2.directory = w.directory := by
  cases c <;> simp only [World.answer, World.onRepository, World.onHierarchy, World.onHistorian, World.upsertChannel,
    World.deleteChannels, World.provision] <;> repeat' split
  all_goals rfl

theorem run_directory {ε α : Type} (p : Program ε α) (w : World) : (p.run w).2.directory = w.directory := by
  induction p generalizing w with
  | done a => rfl
  | fail e => rfl
  | step c next ih => exact (ih _ _).trans (answer_directory w c)

/-- calls do not change what the historian answers -/
theorem answer_historian (w : World) (c : Call) : (w.answer c).2.historian = w.historian := by
  cases c <;> simp only [World.answer, World.onRepository, World.onHierarchy, World.onHistorian, World.upsertChannel,
    World.deleteChannels, World.provision] <;> repeat' split
  all_goals rfl

theorem run_historian {ε α : Type} (p : Program ε α) (w : World) : (p.run w).2.historian = w.historian := by
  induction p generalizing w with
  | done a => rfl
  | fail e => rfl
  | step c next ih => exact (ih _ _).trans (answer_historian w c)

theorem performAll_fixed {ε α : Type} (ps : List (Program ε α)) (w : World) :
    (performAll World.answer ps w).nodes = w.nodes ∧ (performAll World.answer ps w).faults = w.faults := by
  induction ps generalizing w with
  | nil => exact ⟨rfl, rfl⟩
  | cons p ps ih =>
    obtain ⟨hnodes, hfaults⟩ := run_fixed p w
    rw [performAll, ← hnodes, ← hfaults]
    exact ih _

/-- a program that does not ask a cache ends the same in worlds that are alike, and leaves them alike -/
theorem Alike.run {ε α : Type} {p : Program ε α} (hp : p.Only Call.Uncached) (h : Alike counts w w')
    (hfaults : w.faults.DependOn counts) : AnswersAlike counts (p.run w) (p.run w') := by
  induction p generalizing w w' with
  | done a => exact ⟨rfl, h⟩
  | fail e => exact ⟨rfl, h⟩
  | step c next ih =>
    obtain ⟨hanswer, halike⟩ := h.answer hfaults hp.1
    have hfaults' : (w.answer c).2.faults.DependOn counts := by rw [(answer_fixed w c).2]; exact hfaults
    change AnswersAlike counts ((next (w.answer c).1).run _) ((next (w'.answer c).1).run _)
    rw [← hanswer]
    exact ih _ (hp.2 _) halike hfaults'

/-! ## What was written before -/

/-- a call that does not write is answered the same whatever was written before -/
theorem answer_withWrites (w : World) (writes : List Write) {c : Call} (hc : c.changes ≠ some .writes) :
    World.answer { w with writes } c = ((w.answer c).1, { (w.answer c).2 with writes }) := by
  cases c with
  | historianWrite => exact absurd rfl hc
  | _ =>
    simp only [World.answer, World.onRepository, World.onHierarchy, World.onHistorian, World.upsertChannel,
      World.deleteChannels, World.provision]
    repeat' split
    all_goals rfl

theorem run_withWrites {ε α : Type} {p : Program ε α} (hp : p.Only fun c => c.changes ≠ some .writes) (w : World)
    (writes : List Write) : p.run { w with writes } = ((p.run w).1, { (p.run w).2 with writes }) := by
  induction p generalizing w with
  | done a => rfl
  | fail e => rfl
  | step c next ih =>
    change (next (World.answer { w with writes } c).1).run (World.answer { w with writes } c).2 = _
    rw [answer_withWrites w writes hp.1]
    exact ih _ (hp.2 _) _

end World

end Telemetry
