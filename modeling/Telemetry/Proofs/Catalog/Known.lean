import Mathlib.Data.List.Forall2
import Telemetry.Proofs.Cache.Entries
import Telemetry.Proofs.Quiet
/-
What is known of channels: definitions stored or cached under a code.

`CatalogSurroundings` are collaborators of any behaviour whose stored definitions are a store in memory, behind a cache that
may drop anything and holds nothing that was not put into it. A look-up finds what is known (`get_known`), and teaches
nothing: afterwards no more is known than before, although more may be cached.

- `NothingNew`: no stored definition has changed, and everything known was known;
- `requireAll_known`: definitions found under codes were known under them, before the first look-up.
-/
namespace Telemetry

open Program

/-- collaborators of any behaviour, whose definitions are a store in memory behind a cache -/
structure CatalogSurroundings extends Surroundings where
  definitions : State → Channel.Store
  /-- the cache may answer with the definition when asked for the code -/
  Cached : State → String → Channel.Definition → Prop
  definitions_kept : ∀ s c, c.changes ≠ some .definitions → definitions (answer s c).2 = definitions s
  channel_found : ∀ {s s' filter found}, answer s (.channelGet filter) = (.ok found, s') →
    found = (definitions s).get? filter
  cached_found : ∀ {s s' code d}, answer s (.channelCacheGet code) = (some d, s') → Cached s code d
  cached_kept : ∀ {s c code d}, Cached (answer s c).2 code d → Cached s code d ∨ c = .channelCacheSet code d

namespace CatalogSurroundings

variable (S : CatalogSurroundings) {s s' s'' : S.State}

/-- the definition is stored or cached under the code -/
def Known (s : S.State) (code : String) (d : Channel.Definition) : Prop :=
  S.Cached s code d ∨ (S.definitions s).get? (.code code) = some d

/-- the stored definitions are the same, and everything known was known -/
structure NothingNew (s s' : S.State) : Prop where
  definitions : S.definitions s' = S.definitions s
  known : ∀ code d, S.Known s' code d → S.Known s code d

variable {S}

theorem NothingNew.refl (s : S.State) : S.NothingNew s s :=
  ⟨rfl, fun _ _ h => h⟩

theorem NothingNew.trans (h : S.NothingNew s s') (h' : S.NothingNew s' s'') : S.NothingNew s s'' :=
  ⟨h'.definitions.trans h.definitions, fun code d hd => h.known code d (h'.known code d hd)⟩

theorem definitions_perform {ε α : Type} {p : Program ε α} (hp : p.Only fun c => c.changes ≠ some .definitions)
    (s : S.State) : S.definitions (p.perform S.answer s).2 = S.definitions s :=
  perform_invariant (I := fun t => S.definitions t = S.definitions s)
    (fun t c hc ht => (S.definitions_kept t c hc).trans ht) hp rfl

/-- a call that changes no definition, and caches only what is known -/
theorem nothingNew_answer {c : Call} (hc : c.changes ≠ some .definitions)
    (hset : ∀ code d, c = .channelCacheSet code d → S.Known s code d) : S.NothingNew s (S.answer s c).2 := by
  have hdefinitions := S.definitions_kept s c hc
  refine ⟨hdefinitions, fun code d hd => ?_⟩
  rcases hd with hcached | hstored
  · rcases S.cached_kept hcached with hcached | hput
    · exact Or.inl hcached
    · exact hset code d hput
  · rw [hdefinitions] at hstored
    exact Or.inr hstored

/-- a call that is not about channels -/
def NoChannel (c : Call) : Prop :=
  c.changes ≠ some .definitions ∧ ∀ code d, c ≠ .channelCacheSet code d

theorem nothingNew_perform {ε α : Type} {p : Program ε α} (hp : p.Only NoChannel) (s : S.State) :
    S.NothingNew s (p.perform S.answer s).2 :=
  perform_invariant (I := S.NothingNew s)
    (fun _ _ hc hs => hs.trans (nothingNew_answer hc.1 fun code d hput => absurd hput (hc.2 code d))) hp (NothingNew.refl s)

end CatalogSurroundings

/-! ## Looking up -/

namespace Catalog

variable {S : CatalogSurroundings} {s s' : S.State}

/-- asking the store finds what is stored -/
theorem find_known {code : String} {r : Except ServiceError (Option Channel.Definition)}
    (h : (Channel.find (.code code)).perform S.answer s = (r, s')) :
    S.NothingNew s s' ∧ ∀ d, r = .ok (some d) → (S.definitions s').get? (.code code) = some d := by
  unfold Channel.find at h
  simp only [perform] at h
  have hnew : S.NothingNew s (S.answer s (.channelGet (.code code))).2 :=
    S.nothingNew_answer (by simp [Call.changes]) fun _ _ hput => by cases hput
  rcases hanswer : S.answer s (.channelGet (.code code)) with ⟨failure | found, s1⟩ <;> rw [hanswer] at h hnew <;> cases h
  · exact ⟨hnew, fun d hd => by cases hd⟩
  · refine ⟨hnew, fun d hd => ?_⟩
    rw [hnew.definitions, ← S.channel_found hanswer]
    exact Except.ok.inj hd

/-- asking for a definition teaches nothing, and finds what is known -/
theorem get_known {code : String} {r : Except ServiceError (Option Channel.Definition)}
    (h : (get code .cached).perform S.answer s = (r, s')) :
    S.NothingNew s s' ∧ ∀ d, r = .ok (some d) → S.Known s code d := by
  have hcached : (Channel.cached code).perform S.answer s = (.ok (S.answer s (.channelCacheGet code)).1,
      (S.answer s (.channelCacheGet code)).2) := rfl
  have hnew : S.NothingNew s (S.answer s (.channelCacheGet code)).2 :=
    S.nothingNew_answer (by simp [Call.changes]) fun _ _ hput => by cases hput
  rw [get, perform_bind_of_ok hcached] at h
  rcases hanswer : S.answer s (.channelCacheGet code) with ⟨_ | d, s1⟩ <;> rw [hanswer] at h hnew
  · rcases hfind : (Channel.find (.code code)).perform S.answer s1 with ⟨failure | found, s2⟩
    · rw [perform_bind_of_error hfind] at h
      cases h
      exact ⟨hnew.trans (find_known hfind).1, fun d hd => by cases hd⟩
    obtain ⟨hnew2, hfound⟩ := find_known hfind
    rw [perform_bind_of_ok hfind] at h
    cases found with
    | none =>
      cases h
      exact ⟨hnew.trans hnew2, fun d hd => by cases hd⟩
    | some d =>
      cases h
      have hstored : S.Known s2 code d := Or.inr (hfound d rfl)
      have hput : S.NothingNew s2 (S.answer s2 (.channelCacheSet code d)).2 :=
        S.nothingNew_answer (by simp [Call.changes]) fun code' d' hput => by
          cases hput
          exact hstored
      have hbefore := hnew.trans hnew2
      refine ⟨hbefore.trans hput, fun d' hd => ?_⟩
      cases hd
      exact hbefore.known code d hstored
  · cases h
    refine ⟨hnew, fun d' hd => ?_⟩
    cases hd
    exact Or.inl (S.cached_found hanswer)

/-- definitions found under codes were known under them from the beginning -/
theorem requireAll_known {codes : List String} {ds : List Channel.Definition}
    (h : (requireAll .cached codes).perform S.answer s = (.ok ds, s')) :
    S.NothingNew s s' ∧ List.Forall₂ (S.Known s) codes ds := by
  induction codes generalizing s ds with
  | nil =>
    cases h
    exact ⟨.refl _, .nil⟩
  | cons code codes ih =>
    obtain ⟨d, s1, hrequire, h⟩ := perform_bind_ok.1 h
    obtain ⟨rest, s2, hrest, h⟩ := perform_bind_ok.1 h
    obtain ⟨found, s3, hget, hfound⟩ := perform_bind_ok.1 hrequire
    obtain ⟨hnew, hknown⟩ := get_known hget
    cases found with
    | none => cases hfound
    | some found =>
      cases hfound
      cases h
      obtain ⟨hnewRest, hrestKnown⟩ := ih hrest
      refine ⟨hnew.trans hnewRest, .cons (hknown d rfl) ?_⟩
      exact hrestKnown.imp fun code d hd => hnew.known code d hd

end Catalog

/-! ## The world -/

namespace World

def catalog : CatalogSurroundings where
  toSurroundings := surroundings.toSurroundings
  definitions := World.definitions
  Cached w code d := w.channelCache.Holds code d
  definitions_kept := definitions_answer
  channel_found := by
    intro w w' filter found h
    simp only [surroundings, answer, onRepository] at h
    split at h
    · cases h
    · cases h; rfl
  cached_found := by
    intro w w' code d h
    exact ReadCache.get_found (congrArg Prod.fst h)
  cached_kept := by
    intro w c code d h
    cases c with
    | channelCacheGet asked => exact Or.inl (ReadCache.holds_of_get h)
    | channelCacheDrop dropped => exact Or.inl (ReadCache.holds_invalidate h).2
    | channelCacheSet stored new =>
      rcases ReadCache.holds_set h with ⟨rfl, rfl⟩ | hheld
      · exact Or.inr rfl
      · exact Or.inl hheld
    | _ =>
      refine Or.inl ?_
      simp only [surroundings, answer, onRepository, onHierarchy, onHistorian, upsertChannel, deleteChannels, provision] at h
      repeat' split at h
      all_goals exact h

end World

end Telemetry
