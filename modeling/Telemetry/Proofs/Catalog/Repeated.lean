import Telemetry.Channel.Resolve
import Telemetry.Proofs.Catalog.Transparency
/-
Looking channels up once more.

Where the store fails a look-up always or never, it is answered as it would have been before any other look-up. Either no
time passes: then what was cached still is, and what has been cached since is what the store answered. Or entries may expire
at any time, but then they agree with the store, which answers in their place. So what a catalog answers (`content`) decides
what declared channels are matched with, every time, as long as the stored definitions and the cache change by look-ups alone.

- `Lasting`: no time passes, or what is cached is what the store would answer;
- `get_same`: a look-up leaves every look-up's answer as it was;
- `resolve_content`: matching declared channels is matching them with the content of the catalog, which stays as it was;
- `SameLookUps.resolve`: so it ends the same once more.
-/
namespace Telemetry

/-- the store fails a look-up of a definition always or never -/
def Faults.LookUpsSteady (f : Faults) : Prop :=
  ∀ calls calls' filter, f.repository calls (.channelGet filter) = f.repository calls' (.channelGet filter)

theorem Faults.Steady.lookUps {f : Faults} (h : f.Steady) : f.LookUpsSteady :=
  fun calls calls' _ => h.same_repository calls calls' _

/-- the store fails no look-up of a definition -/
def Faults.LookUpsSucceed (f : Faults) : Prop :=
  ∀ calls filter, f.repository calls (.channelGet filter) = none

theorem Faults.LookUpsSucceed.steady {f : Faults} (h : f.LookUpsSucceed) : f.LookUpsSteady :=
  fun calls calls' filter => (h calls filter).trans (h calls' filter).symm

namespace Catalog

open Program Channel

variable {ε α : Type} {w u v : World}

theorem fetch_answer (w : World) (code : String) :
    ((fetch code).run w).1 =
      match w.faults.repository w.calls (.channelGet (.code code)) with
      | some e => .error (.repository e)
      | none => .ok (w.definitions.get? (.code code)) := by
  rw [fetch]
  rcases hfault : w.faults.repository w.calls (.channelGet (.code code)) with _ | e
  · rw [World.run_bind_of_ok (find_of_no_fault hfault)]
    rcases w.definitions.get? (.code code) with _ | d <;> rfl
  · rw [World.run_bind_of_error (find_of_fault hfault)]

/-- what a look-up answers: what is cached, else what the store does -/
theorem get_answer (w : World) (code : String) :
    ((get code .cached).run w).1 =
      match (w.channelCache.get code).1, w.faults.repository w.calls (.channelGet (.code code)) with
      | some d, _ => .ok (some d)
      | none, some e => .error (.repository e)
      | none, none => .ok (w.definitions.get? (.code code)) := by
  rcases hfound : (w.channelCache.get code).1 with _ | d
  · rw [get_of_miss hfound, fetch_answer]
    rcases w.faults.repository w.calls (.channelGet (.code code)) with _ | e <;> rfl
  · rw [get_of_hit hfound]

/-- where a store fails a call always or never, a look-up depends on what the cache finds and what is stored -/
theorem answer_eq (hsteady : w.faults.LookUpsSteady) (hfaults : u.faults = w.faults) (hdefinitions : u.definitions = w.definitions)
    {code : String} (hfound : (u.channelCache.get code).1 = (w.channelCache.get code).1) :
    ((get code .cached).run u).1 = ((get code .cached).run w).1 := by
  rw [get_answer, get_answer, hfound, hfaults, hdefinitions, hsteady u.calls w.calls]

/-! ## Time -/

/-- what is cached is what the store would answer -/
def Current (w : World) : Prop :=
  ∀ code d, w.channelCache.Holds code d → w.definitions.get? (.code code) = some d ∧
    ∀ calls, w.faults.repository calls (.channelGet (.code code)) = none

/-- no look-up's answer depends on when an entry expires: no time passes, or the store answers the same -/
def Lasting (w : World) : Prop := w.channelCache.Still ∨ Current w

theorem lasting_of_coherent (hw : Coherent w) (hreads : w.faults.LookUpsSucceed) : Lasting w :=
  Or.inr fun code d hd => ⟨hw code d hd, fun calls => hreads calls _⟩

theorem lasting_of_absent (h : w.channelCache = .absent) : Lasting w := by
  refine Or.inl ?_
  rw [h]
  trivial

theorem Current.answer (h : Current w) (code : String) :
    ((get code .cached).run w).1 = ((fetch code).run w).1 := by
  rw [get_answer, fetch_answer]
  cases hfound : (w.channelCache.get code).1 with
  | none => cases w.faults.repository w.calls (.channelGet (.code code)) <;> rfl
  | some d =>
    obtain ⟨hstored, hreads⟩ := h code d (ReadCache.get_found hfound)
    rw [hreads, hstored]

/-- a look-up changes nothing but a cache and the log -/
theorem LookedUp.kept {code : String} {x : Except ServiceError (Option Definition) × World} (hx : LookedUp w code x) :
    x.2.faults = w.faults ∧ World.Alike (fun _ => false) w x.2 := by
  cases hx <;> exact ⟨rfl, _, _, _, rfl, noneCounts _ _⟩

/-- what is cached by a look-up is what the store would answer as well -/
theorem LookedUp.current {code : String} {x : Except ServiceError (Option Definition) × World} (hx : LookedUp w code x)
    (hsteady : w.faults.LookUpsSteady) (h : Current w) : Current x.2 := by
  intro key d hd
  cases hx with
  | hit | failed | missing => exact h key d (ReadCache.holds_of_get hd)
  | found stored hfound _ hreads =>
    rcases ReadCache.holds_set hd with ⟨rfl, rfl⟩ | hheld
    · exact ⟨hfound, fun calls => (hsteady calls w.calls _).trans hreads⟩
    · exact h key d (ReadCache.holds_of_get hheld)

/-! ## Worlds with the same look-ups -/

/-- look-ups are answered the same in both worlds, and in the second one they go on to be -/
structure SameLookUps (w u : World) : Prop where
  definitions : u.definitions = w.definitions
  faults : u.faults = w.faults
  answers : ∀ code, ((get code .cached).run u).1 = ((get code .cached).run w).1
  lasting : Lasting u

theorem SameLookUps.refl (h : Lasting w) : SameLookUps w w :=
  ⟨rfl, rfl, fun _ => rfl, h⟩

theorem SameLookUps.trans (h : SameLookUps w u) (h' : SameLookUps u v) : SameLookUps w v :=
  ⟨h'.definitions.trans h.definitions, h'.faults.trans h.faults, fun code => (h'.answers code).trans (h.answers code),
    h'.lasting⟩

/-- while no time passes, a look-up leaves what the cache finds as it was, but for what it stores there -/
theorem LookedUp.same {code : String} {x : Except ServiceError (Option Definition) × World} (hx : LookedUp w code x)
    (hrun : (get code .cached).run w = x) (hsteady : w.faults.LookUpsSteady) (hstill : w.channelCache.Still) :
    SameLookUps w x.2 := by
  have hafter (key : String) : ((w.channelCache.get code).2.get key).1 = (w.channelCache.get key).1 :=
    ReadCache.get_after_get hstill code key
  cases hx with
  | hit | failed | missing =>
    refine ⟨rfl, rfl, fun key => ?_, Or.inl (hstill.get code)⟩
    refine answer_eq hsteady ?_ ?_ (hafter key) <;> rfl
  | found d hfound hmiss hreads =>
    refine ⟨rfl, rfl, fun key => ?_, Or.inl ((hstill.get code).set code d)⟩
    by_cases hkey : key = code
    · -- what has been cached is what this look-up answered
      rw [hkey, hrun, get_answer]
      rcases ReadCache.get_after_set_self (hstill.get code) ((hafter code).trans hmiss) d with hnone | hsome
      · rw [hnone, hsteady _ w.calls, hreads, hfound]
      · rw [hsome]
    · have hsame := (ReadCache.get_after_set (hstill.get code) hkey d).trans (hafter key)
      refine answer_eq hsteady ?_ ?_ hsame <;> rfl

/-- a look-up leaves every look-up's answer as it was, and changes nothing but a cache and the log -/
theorem get_same (hsteady : w.faults.LookUpsSteady) (hlasting : Lasting w) (code : String) :
    SameLookUps w ((get code .cached).run w).2 ∧ World.Alike (fun _ => false) w ((get code .cached).run w).2 := by
  have hx := lookedUp w code
  obtain ⟨hfaults, halike⟩ := hx.kept
  refine ⟨?_, halike⟩
  rcases hlasting with hstill | hcurrent
  · exact hx.same rfl hsteady hstill
  · have hcurrent' := hx.current hsteady hcurrent
    refine ⟨hx.definitions, hfaults, fun key => ?_, Or.inr hcurrent'⟩
    rw [hcurrent.answer, hcurrent'.answer, fetch_answer, fetch_answer, hx.definitions, hfaults, hsteady _ w.calls]

/-- a declared channel with what was looked up for it -/
def matchFound (c : Payload.DeclaredChannel) : Option Definition → Except ServiceError Resolved
  | none => .error (.undefinedChannel c.code)
  | some d => matchDefinition c d

theorem lookUp_cons (c : Payload.DeclaredChannel) (cs : List Payload.DeclaredChannel) :
    Channel.lookUp (c :: cs) = (do
      let found ← get c.code .cached
      let r ← .ofExcept (matchFound c found)
      let rs ← Channel.lookUp cs
      return r :: rs) := by
  rw [Channel.lookUp]
  refine bind_congr fun found => ?_
  cases found <;> rfl

/-! ## Matching -/

/-- what a look-up answers, for each code -/
def content (w : World) (code : String) : Except ServiceError (Option Definition) := ((get code .cached).run w).1

/-- where no store fails and the cache is coherent, that is what is stored -/
theorem content_of_coherent (hw : Coherent w) (hstores : w.faults.StoresNeverFail) :
    content w = fun code => .ok (w.definitions.get? (.code code)) :=
  funext fun code => ((lookedUp w code).answers hw hstores).1

theorem SameLookUps.content (h : SameLookUps w u) : content u = content w := funext h.answers

/-- declared channels matched with what is answered for their codes, up to the first failure -/
def matchAll (answers : String → Except ServiceError (Option Definition)) :
    List Payload.DeclaredChannel → Except ServiceError (List Resolved)
  | [] => .ok []
  | c :: cs => do
    let found ← answers c.code
    let r ← matchFound c found
    let rs ← matchAll answers cs
    return r :: rs

theorem matchAll_cons {answers : String → Except ServiceError (Option Definition)} {c : Payload.DeclaredChannel}
    {found : Option Definition} (h : answers c.code = .ok found) (cs : List Payload.DeclaredChannel) :
    matchAll answers (c :: cs) = match matchFound c found with
      | .error e => .error e
      | .ok r => (matchAll answers cs).map (r :: ·) := by
  rw [matchAll, h]
  cases hfound : matchFound c found with
  | error e => simp [Bind.bind, Except.bind, hfound]
  | ok r => cases matchAll answers cs <;> simp [Bind.bind, Except.bind, hfound, Except.map, Pure.pure, Except.pure]

theorem matchAll_congr {answers answers' : String → Except ServiceError (Option Definition)}
    {channels : List Payload.DeclaredChannel} (h : ∀ c ∈ channels, answers c.code = answers' c.code) :
    matchAll answers channels = matchAll answers' channels := by
  induction channels with
  | nil => rfl
  | cons c cs ih =>
    have hrest : matchAll answers cs = matchAll answers' cs := ih fun d hd => h d (List.mem_cons_of_mem _ hd)
    rw [matchAll, matchAll, h c List.mem_cons_self, hrest]

/-- declared channels matched with what is answered for their codes, if no code is repeated -/
def resolveIn (answers : String → Except ServiceError (Option Definition)) (channels : List Payload.DeclaredChannel) :
    Except ServiceError (List Resolved) :=
  match firstRepeated [] channels with
  | some c => .error (.duplicateChannel c.code)
  | none => matchAll answers channels

theorem SameLookUps.steady (h : SameLookUps w u) (hsteady : w.faults.LookUpsSteady) : u.faults.LookUpsSteady := by
  rw [h.faults]
  exact hsteady

/-- once a channel has been looked up, it is matched with what was found, and the others are looked up -/
theorem lookUp_of_get {c : Payload.DeclaredChannel} {found : Option Definition}
    (hget : (get c.code .cached).run w = (.ok found, u)) (cs : List Payload.DeclaredChannel) :
    (Channel.lookUp (c :: cs)).run w = match matchFound c found with
      | .error e => (.error e, u)
      | .ok r => (((Channel.lookUp cs).run u).1.map (r :: ·), ((Channel.lookUp cs).run u).2) := by
  rw [lookUp_cons, World.run_bind_of_ok hget]
  cases hfound : matchFound c found with
  | error e => rfl
  | ok r =>
    change (Channel.lookUp cs >>= fun rs => pure (r :: rs)).run u = _
    rw [World.run_bind_pure]

/-- looking up declared channels is matching them with the content of the catalog, which stays as it was -/
theorem lookUp_content (hsteady : w.faults.LookUpsSteady) (hlasting : Lasting w) (channels : List Payload.DeclaredChannel) :
    ((Channel.lookUp channels).run w).1 = matchAll (content w) channels ∧
      SameLookUps w ((Channel.lookUp channels).run w).2 ∧
      World.Alike (fun _ => false) w ((Channel.lookUp channels).run w).2 := by
  induction channels generalizing w with
  | nil => exact ⟨rfl, .refl hlasting, World.Alike.withCaches w _ _⟩
  | cons c cs ih =>
    obtain ⟨hsame, halike⟩ := get_same hsteady hlasting c.code
    have hanswer : content w c.code = ((get c.code .cached).run w).1 := rfl
    rcases hget : (get c.code .cached).run w with ⟨e | found, u⟩ <;> rw [hget] at hsame halike hanswer
    · rw [lookUp_cons, World.run_bind_of_error hget, matchAll, hanswer]
      exact ⟨rfl, hsame, halike⟩
    · rw [lookUp_of_get hget, matchAll_cons hanswer]
      cases matchFound c found with
      | error e => exact ⟨rfl, hsame, halike⟩
      | ok r =>
        obtain ⟨hrest, hlater, hchanged⟩ := ih (hsame.steady hsteady) hsame.lasting
        rw [hsame.content] at hrest
        exact ⟨congrArg (Except.map (r :: ·)) hrest, hsame.trans hlater, halike.trans hchanged⟩

/-- matching declared channels with the catalog is matching them with its content, which stays as it was -/
theorem resolve_content (hsteady : w.faults.LookUpsSteady) (hlasting : Lasting w) (channels : List Payload.DeclaredChannel) :
    ((Channel.resolve channels).run w).1 = resolveIn (content w) channels ∧
      SameLookUps w ((Channel.resolve channels).run w).2 ∧
      World.Alike (fun _ => false) w ((Channel.resolve channels).run w).2 := by
  unfold Channel.resolve resolveIn
  rcases firstRepeated [] channels with _ | c
  · exact lookUp_content hsteady hlasting channels
  · exact ⟨rfl, .refl hlasting, World.Alike.withCaches w _ _⟩

/-- declared channels are matched alike with catalogs of one content, whatever else differs -/
theorem resolve_of_content (hw : w.faults.LookUpsSteady) (hwlasts : Lasting w) (hu : u.faults.LookUpsSteady)
    (hulasts : Lasting u) (hcontent : content u = content w) (channels : List Payload.DeclaredChannel) :
    ((Channel.resolve channels).run u).1 = ((Channel.resolve channels).run w).1 := by
  rw [(resolve_content hu hulasts channels).1, (resolve_content hw hwlasts channels).1, hcontent]

namespace SameLookUps

/-- a program that only inspects leaves every look-up's answer as it was -/
theorem inspects (h : SameLookUps w u) (hsteady : w.faults.LookUpsSteady) {p : Program ε α} (hp : p.Only Call.Inspects) :
    SameLookUps w (p.run u).2 := by
  obtain ⟨hdefinitions, hcache⟩ : (p.run u).2.definitions = u.definitions ∧ (p.run u).2.channelCache = u.channelCache :=
    World.inspects_run hp u
  have hfaults := (World.run_fixed p u).2
  refine h.trans ⟨hdefinitions, hfaults, fun code => ?_, ?_⟩
  · exact answer_eq (h.steady hsteady) hfaults hdefinitions (by rw [hcache])
  · have hlasting := h.lasting
    unfold Lasting Current at hlasting ⊢
    rwa [hdefinitions, hcache, hfaults]

/-- matching declared channels with the catalog ends the same once more -/
theorem resolve (hsteady : w.faults.LookUpsSteady) (hlasting : Lasting w) (channels : List Payload.DeclaredChannel)
    (h : SameLookUps w u) :
    ((Channel.resolve channels).run u).1 = ((Channel.resolve channels).run w).1 ∧
      SameLookUps w ((Channel.resolve channels).run u).2 ∧
      World.Alike (fun _ => false) u ((Channel.resolve channels).run u).2 := by
  obtain ⟨-, hlater, hchanged⟩ := resolve_content (h.steady hsteady) h.lasting channels
  exact ⟨resolve_of_content hsteady hlasting (h.steady hsteady) h.lasting h.content channels, h.trans hlater, hchanged⟩

end SameLookUps

end Catalog

end Telemetry
