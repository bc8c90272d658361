import Telemetry.Proofs.Payload.RowCounts
import Telemetry.Proofs.Query.Rendering
import Telemetry.Proofs.Service.Stages
/-
Reading, stage by stage.

A read locates the equipment, its path and the channels without the historian (`locate`), and then asks the historian up to
three times: for the latest point if no period is given, for the stored fields if channels are named, and for the series.
Each stage has one lemma about the calls it makes and one about what it takes to pass it, in surroundings of any behaviour.

- `read_eq`: the read is these stages one after another;
- `periodFor_ok`, `selectStored_ok`: what it takes to have a period, and something to select;
- `read_pipeline`: which calls a read makes, when it makes the last one, and what this one says.
-/
namespace Telemetry

open Program

/-! ## Inquiries -/

namespace Surroundings

variable (S : Surroundings) {ε α β : Type}

/-- the calls on the historian that a program makes, in order -/
def inquiries (p : Program ε α) (s : S.State) : List Call :=
  ((p.moments S.answer s).map (·.call)).filter Call.onHistorian

theorem inquiries_eq_nil {p : Program ε α} (hp : p.Only fun c => c.onHistorian = false) (s : S.State) :
    S.inquiries p s = [] := by
  refine List.filter_eq_nil_iff.2 fun c hc => ?_
  obtain ⟨m, hm, rfl⟩ := List.mem_map.1 hc
  simp [call_of_mem_moments hp hm]

theorem inquiries_bind_of_ok {p : Program ε α} {f : α → Program ε β} {s s1 : S.State} {a : α}
    (h : p.perform S.answer s = (.ok a, s1)) : S.inquiries (p >>= f) s = S.inquiries p s ++ S.inquiries (f a) s1 := by
  unfold inquiries
  rw [moments_bind_of_ok h, List.map_append, List.filter_append]

theorem inquiries_bind_of_error {p : Program ε α} {f : α → Program ε β} {s s1 : S.State} {e : ε}
    (h : p.perform S.answer s = (.error e, s1)) : S.inquiries (p >>= f) s = S.inquiries p s := by
  unfold inquiries
  rw [moments_bind_of_error h]

/-- a call on the historian, and nothing asked after it -/
theorem inquiries_ask {c : Call} {next : c.Answer → Program ε α} (hc : c.onHistorian = true)
    (hnext : ∀ a, (next a).Only fun c => c.onHistorian = false) (s : S.State) : S.inquiries (.step c next) s = [c] := by
  have hrest := S.inquiries_eq_nil (hnext (S.answer s c).1) (S.answer s c).2
  unfold inquiries at hrest ⊢
  rw [moments, List.map_cons, List.filter_cons_of_pos hc, hrest]

/-- a program asks nothing before another one -/
theorem inquiries_bind_of_silent {p : Program ε α} {f : α → Program ε β} (hp : p.Only fun c => c.onHistorian = false)
    {s s1 : S.State} {a : α} (h : p.perform S.answer s = (.ok a, s1)) :
    S.inquiries (p >>= f) s = S.inquiries (f a) s1 := by
  rw [S.inquiries_bind_of_ok h, S.inquiries_eq_nil hp, List.nil_append]

/-- a program asks nothing after another one -/
theorem inquiries_bind_silent (p : Program ε α) {f : α → Program ε β} (hf : ∀ a, (f a).Only fun c => c.onHistorian = false)
    (s : S.State) : S.inquiries (p >>= f) s = S.inquiries p s := by
  rcases h : p.perform S.answer s with ⟨e | a, s1⟩
  · exact S.inquiries_bind_of_error h
  · rw [S.inquiries_bind_of_ok h, S.inquiries_eq_nil (hf a), List.append_nil]

end Surroundings

/-! ## The stages -/

namespace Query

/-- the selection of some named fields, if there are any -/
def Selection.of : List String → Option Selection
  | [] => none
  | [name] => some (.field name)
  | names => some (.fields names)

theorem Selection.of_cases {names : List String} {selection : Selection} (h : Selection.of names = some selection) :
    (∃ name, selection = .field name) ∨ ∃ name name' rest, selection = .fields (name :: name' :: rest) := by
  rcases names with _ | ⟨name, _ | ⟨name', names⟩⟩ <;> cases h
  · exact Or.inl ⟨name, rfl⟩
  · exact Or.inr ⟨name, name', names, rfl⟩

theorem Selection.exists_of {names : List String} (h : names ≠ []) : ∃ selection, Selection.of names = some selection := by
  rcases names with _ | ⟨name, _ | ⟨name', names⟩⟩
  · exact absurd rfl h
  · exact ⟨_, rfl⟩
  · exact ⟨_, rfl⟩

theorem Selection.of_names {names : List String} {selection : Selection} (h : Selection.of names = some selection) :
    selection.names = names := by
  rcases names with _ | ⟨name, _ | ⟨name', names⟩⟩ <;> cases h <;> rfl

end Query

namespace Service

/-- finds the path and the definitions that a read is about -/
def locate (service : Service) (request : ReadRequest) : Action (Option (Storage.Path × List Channel.Definition)) := do
  let equipment ← equipmentFor request.wkeid
  match ← Storage.routeRead service.supportContact equipment with
  | none => return none
  | some path =>
    let definitions ← Catalog.requireAll .cached request.channels
    return some (path, definitions)

/-- the query that a read comes down to -/
def finalDraft (request : ReadRequest) (path : Storage.Path) (period : Time.Period) (selection : Query.Selection) :
    Query.Draft where
  database := path.database
  measurement := path.measurement
  instanceId := some request.wkeid
  selection := some selection
  aggregation := request.aggregation
  period := some period
  episode := request.episode
  groupBy := request.groupBy

/-- asks for the series, if there is something to select -/
def answerSelected (request : ReadRequest) (path : Storage.Path) (period : Time.Period) :
    Option Query.Draft → Action ReadResponse
  | none => return { wkeid := request.wkeid, path := some path, period := some period }
  | some draft => do
    let query ← .ofExcept (refine (draft.during period) request).read
    respond request.wkeid path period query

/-- asks for the stored fields and the series, if there is a period -/
def answerWithin (request : ReadRequest) (path : Storage.Path) (named : List String) :
    Option Time.Period → Action ReadResponse
  | none => return { wkeid := request.wkeid, path := some path }
  | some period => do
    let selected ← selectStored (draftFor path request.wkeid) named
    answerSelected request path period selected

/-- asks the historian about what was located -/
def answerLocated (service : Service) (request : ReadRequest) :
    Option (Storage.Path × List Channel.Definition) → Action ReadResponse
  | none => return { wkeid := request.wkeid }
  | some (path, definitions) => do
    let named ← .ofExcept (fieldNames definitions)
    let found ← service.periodFor (draftFor path request.wkeid) request.period
    answerWithin request path named found

/-- a read locates what it is about, and then asks the historian -/
theorem read_eq (service : Service) (request : ReadRequest) :
    service.read request = service.locate request >>= service.answerLocated request := by
  unfold read locate
  rw [LawfulMonad.bind_assoc]
  refine bind_congr fun equipment => ?_
  rw [LawfulMonad.bind_assoc]
  refine bind_congr fun found => ?_
  cases found with
  | none => rfl
  | some path =>
    simp only [LawfulMonad.bind_assoc]
    refine bind_congr fun definitions => ?_
    refine bind_congr fun named => ?_
    refine bind_congr fun period => ?_
    cases period with
    | none => rfl
    | some period =>
      refine bind_congr fun selected => ?_
      cases selected <;> rfl

variable {S : Surroundings} {service : Service} {draft : Query.Draft}

/-- what it takes to locate: the equipment, a path, and the definition of every channel -/
theorem locate_ok {request : ReadRequest} {path : Storage.Path} {definitions : List Channel.Definition} {s s' : S.State} :
    (service.locate request).perform S.answer s = (.ok (some (path, definitions)), s') ↔
      ∃ equipment s1 s2, (equipmentFor request.wkeid).perform S.answer s = (.ok equipment, s1) ∧
        (Storage.routeRead service.supportContact equipment).perform S.answer s1 = (.ok (some path), s2) ∧
        (Catalog.requireAll .cached request.channels).perform S.answer s2 = (.ok definitions, s') := by
  unfold locate
  constructor
  · intro h
    obtain ⟨equipment, s1, hequipment, h⟩ := perform_bind_ok.1 h
    obtain ⟨found, s2, hroute, h⟩ := perform_bind_ok.1 h
    cases found with
    | none => cases h
    | some found =>
      obtain ⟨ds, s3, hdefinitions, h⟩ := perform_bind_ok.1 h
      cases h
      exact ⟨equipment, s1, s2, hequipment, hroute, hdefinitions⟩
  · rintro ⟨equipment, s1, s2, hequipment, hroute, hdefinitions⟩
    rw [perform_bind_of_ok hequipment, perform_bind_of_ok hroute]
    exact perform_bind_ok.2 ⟨definitions, s', hdefinitions, rfl⟩

/-! ## A period -/

/-- the period to read: the one that is given, or the window before the latest point -/
inductive PeriodFound (S : Surroundings) (service : Service) (draft : Query.Draft) (s : S.State) :
    Option Time.Period → Time.Period → S.State → Prop
  | given (period : Time.Period) : PeriodFound S service draft s (some period) period s
  | trailing {query : Query.Statement} {stop : Time.Instant} {period : Time.Period} {s' : S.State}
      (hquery : draft.latest = .ok query) (hanswer : S.answer s (.historianLatest query) = (.ok (some stop), s'))
      (hperiod : Time.Period.trailing stop service.defaultWindowHours = .ok period) :
      PeriodFound S service draft s none period s'

/-- the window before the latest point, if there is a point -/
def windowBefore (service : Service) : Option Time.Instant → Action (Option Time.Period)
  | none => return none
  | some stop => do
    let period ← .ofExcept (Time.Period.trailing stop service.defaultWindowHours)
    return some period

theorem periodFor_none {query : Query.Statement} (hquery : draft.latest = .ok query) :
    service.periodFor draft none = Historian.latest query >>= service.windowBefore := by
  unfold periodFor
  rw [hquery]
  refine (bind_congr fun stop => ?_ : Historian.latest query >>= _ = _)
  cases stop <;> rfl

theorem windowBefore_only {allowed : Call → Prop} (stop : Option Time.Instant) :
    (service.windowBefore stop).Only allowed := by
  cases stop with
  | none => exact only_pure _
  | some stop => exact only_bind (only_ofExcept _) fun _ => only_pure _

/-- asking for the latest point ends as the historian answers -/
theorem perform_latest {query : Query.Statement} {r : Except HistorianError (Option Time.Instant)} {s s' : S.State}
    (h : S.answer s (.historianLatest query) = (r, s')) :
    (Historian.latest query).perform S.answer s = (r.mapError .historian, s') := by
  rw [Historian.latest, perform, h]
  cases r <;> rfl

variable (S service draft) in
/-- the latest point is asked for exactly if no period is given -/
theorem periodFor_inquiries {query : Query.Statement} (hquery : draft.latest = .ok query) (requested : Option Time.Period)
    (s : S.State) :
    S.inquiries (service.periodFor draft requested) s = if requested = none then [.historianLatest query] else [] := by
  cases requested with
  | some period => exact S.inquiries_eq_nil (only_pure _) s
  | none =>
    rw [periodFor_none hquery, S.inquiries_bind_silent _ windowBefore_only]
    exact S.inquiries_ask rfl (fun _ => only_historianAnswer _) s

/-- there is a period exactly if one is given or there is a latest point with a window before it -/
theorem periodFor_ok (hinstance : ∃ query, draft.latest = .ok query) {requested : Option Time.Period} {period : Time.Period}
    {s s' : S.State} :
    (service.periodFor draft requested).perform S.answer s = (.ok (some period), s') ↔
      PeriodFound S service draft s requested period s' := by
  obtain ⟨query, hquery⟩ := hinstance
  constructor
  · intro h
    cases requested with
    | some requested =>
      cases h
      exact .given period
    | none =>
      rw [periodFor_none hquery] at h
      obtain ⟨stop, s1, hlatest, hwindow⟩ := perform_bind_ok.1 h
      rcases hanswer : S.answer s (.historianLatest query) with ⟨failure | found, s2⟩ <;>
        rw [perform_latest hanswer] at hlatest
      · cases hlatest
      · cases hlatest
        cases stop with
        | none => cases hwindow
        | some stop =>
          obtain ⟨window, s3, htrailing, hdone⟩ := perform_bind_ok.1 hwindow
          obtain ⟨hperiod, rfl⟩ := perform_ofExcept_ok.1 htrailing
          cases hdone
          exact .trailing hquery hanswer hperiod
  · intro h
    cases h with
    | given => rfl
    | @trailing query' stop _ _ hquery' hanswer hperiod =>
      rw [periodFor_none hquery', perform_bind_of_ok (perform_latest hanswer), windowBefore, hperiod]
      rfl

/-- among some calls, one for the latest point that the historian tells, before which the window is refused -/
def WindowRefused (S : Surroundings) (service : Service) (calls : List (Moment S.State)) (e : ServiceError) : Prop :=
  ∃ m ∈ calls, ∃ query stop s', m.call = .historianLatest query ∧
    S.answer m.state (.historianLatest query) = (.ok (some stop), s') ∧
    Time.Period.trailing stop service.defaultWindowHours = .error e

theorem WindowRefused.mono {calls calls' : List (Moment S.State)} {e : ServiceError} (h : WindowRefused S service calls e)
    (hcalls : ∀ m ∈ calls, m ∈ calls') : WindowRefused S service calls' e := by
  obtain ⟨m, hm, hrefused⟩ := h
  exact ⟨m, hcalls m hm, hrefused⟩

/-- there is no period because the historian fails, or because the window is refused -/
theorem periodFor_error (hinstance : ∃ query, draft.latest = .ok query) {requested : Option Time.Period} {e : ServiceError}
    {s s' : S.State} (h : (service.periodFor draft requested).perform S.answer s = (.error e, s')) :
    e.IsPlain ∨ requested = none ∧ WindowRefused S service ((service.periodFor draft requested).moments S.answer s) e := by
  obtain ⟨query, hquery⟩ := hinstance
  cases requested with
  | some period => cases h
  | none =>
    rw [periodFor_none hquery] at h ⊢
    rcases hanswer : S.answer s (.historianLatest query) with ⟨failure | found, s1⟩
    · rw [perform_bind_of_error (perform_latest hanswer)] at h
      cases h
      exact Or.inl trivial
    · rw [perform_bind_of_ok (perform_latest hanswer)] at h
      cases found with
      | none => cases h
      | some stop =>
        refine Or.inr ⟨rfl, ⟨s, .historianLatest query⟩, ?_, query, stop, s1, rfl, hanswer, ?_⟩
        · exact mem_moments_bind_left List.mem_cons_self
        · rcases perform_bind_error.1 h with hrefused | ⟨period, s2, -, hdone⟩
          · exact (perform_ofExcept_error.1 hrefused).1
          · cases hdone

/-! ## Something to select -/

/-- what is to be selected: everything if nothing is named, else those of the named fields that the historian has, in the
order in which they are named -/
inductive Selected (S : Surroundings) (draft : Query.Draft) (s : S.State) :
    List String → Query.Selection → S.State → Prop
  | all : Selected S draft s [] .allFields s
  | stored {named : List String} {selection : Query.Selection} {rows : List Historian.Row} {s' : S.State}
      (hnamed : named ≠ []) (hanswer : S.answer s (.historianRows draft.fieldKeys) = (.ok rows, s'))
      (hselection : Query.Selection.of (named.filter (rows.filterMap fieldKeyOf).contains) = some selection) :
      Selected S draft s named selection s'

/-- the draft with those of the named fields that are stored -/
def selecting (draft : Query.Draft) (named stored : List String) : Option Query.Draft :=
  (Query.Selection.of (named.filter stored.contains)).map fun selection => { draft with selection := some selection }

theorem selectStored_of_named {named : List String} (hnamed : named ≠ []) :
    selectStored draft named = storedFields draft >>= fun stored => pure (selecting draft named stored) := by
  have hfull : named.isEmpty = false := by simpa using hnamed
  unfold selectStored
  rw [hfull]
  refine bind_congr fun stored => ?_
  unfold selecting
  rcases named.filter stored.contains with _ | ⟨name, _ | ⟨name', names⟩⟩ <;> rfl

variable (S draft) in
theorem storedFields_inquiries (s : S.State) : S.inquiries (storedFields draft) s = [.historianRows draft.fieldKeys] := by
  rw [storedFields, S.inquiries_bind_silent _ fun _ => only_pure _]
  exact S.inquiries_ask rfl (fun _ => only_historianAnswer _) s

variable (S draft) in
/-- the stored fields are asked for exactly if fields are named -/
theorem selectStored_inquiries (named : List String) (s : S.State) :
    S.inquiries (selectStored draft named) s = if named = [] then [] else [.historianRows draft.fieldKeys] := by
  by_cases hnamed : named = []
  · subst hnamed
    exact S.inquiries_eq_nil (only_pure _) s
  · rw [if_neg hnamed, selectStored_of_named hnamed, S.inquiries_bind_silent _ fun _ => only_pure _, storedFields_inquiries]

theorem storedFields_ok {stored : List String} {s s' : S.State} :
    (storedFields draft).perform S.answer s = (.ok stored, s') ↔
      ∃ rows, S.answer s (.historianRows draft.fieldKeys) = (.ok rows, s') ∧ stored = rows.filterMap fieldKeyOf := by
  unfold storedFields
  rw [perform_bind_pure, Historian.rows, perform]
  rcases hanswer : S.answer s (.historianRows draft.fieldKeys) with ⟨failure | rows, s1⟩
  · simp [historianAnswer, perform, Except.map]
  · simp only [historianAnswer, perform, Except.map, Prod.mk.injEq, Except.ok.injEq]
    constructor
    · rintro ⟨rfl, rfl⟩
      exact ⟨rows, ⟨rfl, rfl⟩, rfl⟩
    · rintro ⟨rows', ⟨rfl, rfl⟩, rfl⟩
      exact ⟨rfl, rfl⟩

/-- there is something to select exactly if nothing is named or some named field is stored -/
theorem selectStored_ok {named : List String} {chosen : Query.Draft} {s s' : S.State} :
    (selectStored draft named).perform S.answer s = (.ok (some chosen), s') ↔
      ∃ selection, Selected S draft s named selection s' ∧ chosen = { draft with selection := some selection } := by
  by_cases hnamed : named = []
  · subst hnamed
    constructor
    · intro h
      cases h
      exact ⟨.allFields, .all, rfl⟩
    · rintro ⟨selection, hselected, rfl⟩
      cases hselected with
      | all => rfl
      | stored hnamed _ _ => exact absurd rfl hnamed
  rw [selectStored_of_named hnamed, perform_bind_ok]
  constructor
  · rintro ⟨stored, s1, hstored, hdone⟩
    obtain ⟨rows, hanswer, rfl⟩ := storedFields_ok.1 hstored
    obtain ⟨hchosen, rfl⟩ := Prod.mk.inj hdone
    obtain ⟨selection, hselection, rfl⟩ := Option.map_eq_some_iff.1 (Except.ok.inj hchosen)
    exact ⟨selection, .stored hnamed hanswer hselection, rfl⟩
  · rintro ⟨selection, hselected, rfl⟩
    cases hselected with
    | all => exact absurd rfl hnamed
    | @stored _ _ rows _ hnamed hanswer hselection =>
      refine ⟨_, s', storedFields_ok.2 ⟨rows, hanswer, rfl⟩, ?_⟩
      rw [selecting, hselection]
      rfl

/-! ## The final query -/

theorem refine_finalDraft (request : ReadRequest) (path : Storage.Path) (period : Time.Period) (selection : Query.Selection) :
    refine (Query.Draft.during { draftFor path request.wkeid with selection := some selection } period) request =
      finalDraft request path period selection := by
  simp only [refine, Query.Draft.during, draftFor, Query.Draft.forPath, Query.Draft.withInstance, Query.Draft.new, finalDraft,
    Option.or_none]

/-- what the last query of a read says: it runs on the path's database, and asks for a selection of the equipment's fields on
the path's measurement, within a period, as the request wants them; without aggregation and episodes its quoted parts are the
selected fields in their order, the measurement and the equipment -/
structure AsksFor (request : ReadRequest) (path : Storage.Path) (period : Time.Period) (selection : Query.Selection)
    (query : Query.Statement) : Prop where
  read : (finalDraft request path period selection).read = .ok query
  database : query.database = path.database
  tells : (finalDraft request path period selection).Tells query
  within : ∃ before, query.text = before ++ " AND time >= " ++ toString period.startNanos ++ " AND time <= " ++
    toString period.stopNanos ++ (finalDraft request path period selection).groupClause
  raw : request.aggregation = none → request.episode = none → (∀ g, request.groupBy = some g → g.Made) →
    '\\' ∉ path.measurement.toList → (∀ name ∈ selection.names, '\\' ∉ name.toList) →
    (Query.scan query.text).state = .outside ∧ (Query.scan query.text).tokens =
      selection.names.map Query.Token.identifier ++ [.identifier path.measurement, .value request.wkeid]

theorem asksFor_of_read {request : ReadRequest} {path : Storage.Path} {period : Time.Period} {selection : Query.Selection}
    {query : Query.Statement} (hmath : ∀ left function right, selection ≠ .math left function right)
    (hread : (finalDraft request path period selection).read = .ok query) : AsksFor request path period selection query := by
  have htells := Query.Draft.tells_of_read hread
  refine ⟨hread, htells.database, htells, Query.Draft.period_of_read rfl hread, ?_⟩
  intro hraw hepisode hgroup hmeasurement hnames
  have hscan := htells.scanned hgroup hmeasurement fun chosen hchosen name hname => by
    cases hchosen
    exact hnames name hname
  rw [hscan, Query.Draft.tokens_of_raw rfl hmath hraw hepisode rfl]
  exact ⟨rfl, rfl⟩

/-- nothing is selected that cannot be asked for: no empty list, and no arithmetic -/
theorem Selected.shape {named : List String} {selection : Query.Selection} {s s' : S.State}
    (h : Selected S draft s named selection s') :
    selection ≠ .fields [] ∧ ∀ left function right, selection ≠ .math left function right := by
  cases h with
  | all => exact ⟨nofun, fun _ _ _ => nofun⟩
  | stored _ _ hselection =>
    rcases Query.Selection.of_cases hselection with ⟨name, rfl⟩ | ⟨name, name', rest, rfl⟩
    · exact ⟨nofun, fun _ _ _ => nofun⟩
    · exact ⟨nofun, fun _ _ _ => nofun⟩

/-- what is selected can be asked for -/
theorem Selected.readable {named : List String} {selection : Query.Selection} {s s' : S.State}
    (h : Selected S draft s named selection s') (request : ReadRequest) (path : Storage.Path) (period : Time.Period) :
    ∃ query, (finalDraft request path period selection).read = .ok query := by
  obtain ⟨hfields, hmath⟩ := h.shape
  refine Query.Draft.read_ok_iff.2 ⟨⟨_, rfl⟩, selection, rfl, hfields, fun left function right hchosen => ?_⟩
  exact absurd hchosen (hmath left function right)

theorem Selected.asksFor {named : List String} {selection : Query.Selection} {s s' : S.State}
    (h : Selected S draft s named selection s') {request : ReadRequest} {path : Storage.Path} {period : Time.Period}
    {query : Query.Statement} (hread : (finalDraft request path period selection).read = .ok query) :
    AsksFor request path period selection query :=
  asksFor_of_read h.shape.2 hread

theorem answerSelected_eq {request : ReadRequest} {path : Storage.Path} {period : Time.Period}
    {selection : Query.Selection} {query : Query.Statement}
    (hquery : (finalDraft request path period selection).read = .ok query) :
    answerSelected request path period (some { draftFor path request.wkeid with selection := some selection }) =
      respond request.wkeid path period query := by
  rw [answerSelected, refine_finalDraft, hquery]
  rfl

variable (S) in
/-- the series are asked for, and nothing after them -/
theorem respond_inquiries (wkeid : String) (path : Storage.Path) (period : Time.Period) (query : Query.Statement)
    (s : S.State) : S.inquiries (respond wkeid path period query) s = [.historianSeries query] := by
  rw [respond, S.inquiries_bind_silent]
  · exact S.inquiries_ask rfl (fun _ => only_historianAnswer _) s
  · intro series
    refine only_bind ?_ fun _ => only_pure _
    exact only_mono (fun _ => Call.FindsChannels.not_onHistorian) (describeSeries_within series).only

/-- with a selection the series are asked for -/
theorem answerSelected_inquiries {request : ReadRequest} {path : Storage.Path} {period : Time.Period}
    {selection : Query.Selection} {query : Query.Statement}
    (hquery : (finalDraft request path period selection).read = .ok query) (s : S.State) :
    S.inquiries (answerSelected request path period (some { draftFor path request.wkeid with selection := some selection })) s =
      [.historianSeries query] := by
  rw [answerSelected_eq hquery, respond_inquiries]

/-! ## The whole read -/

section Pipeline

variable {S : CatalogSurroundings} {service : Service} {request : ReadRequest} {s : S.State}

/-- the name of a definition's field, its unit taken as it is -/
def fieldOf (d : Channel.Definition) : String := Channel.encodeFieldName d.code d.unit

theorem fieldNames_ok {ds : List Channel.Definition} (h : ∀ d ∈ ds, d.fieldName = .ok (fieldOf d)) :
    fieldNames ds = .ok (ds.map fieldOf) := by
  induction ds with
  | nil => rfl
  | cons d ds ih =>
    obtain ⟨hd, hds⟩ := List.forall_mem_cons.1 h
    rw [fieldNames, hd, ih hds]
    rfl

/-- definitions that are known have fields, where everything known has a unit -/
theorem fieldNames_of_known (hunits : ∀ code d, S.Known s code d → Text.isBlankText d.unit = false) {codes : List String}
    {ds : List Channel.Definition} (h : List.Forall₂ (S.Known s) codes ds) : fieldNames ds = .ok (ds.map fieldOf) := by
  refine fieldNames_ok fun d hd => ?_
  obtain ⟨code, -, hknown⟩ := exists_of_forall₂ h hd
  rw [Channel.Definition.fieldName, Channel.fieldName, hunits code d hknown]
  rfl

/-- locating asks the historian nothing -/
theorem locate_within (service : Service) (request : ReadRequest) :
    (service.locate request).Within (fun c => c.onHistorian = false) ServiceError.IsPlain := by
  refine within_bind ?_ fun equipment => within_bind ?_ fun path => ?_
  · exact (equipmentFor_within _).mono (fun _ => Call.Locates.not_onHistorian) fun _ => id
  · exact (Storage.routeRead_within _ equipment).mono (fun _ => Call.Locates.not_onHistorian) fun _ => id
  · cases path with
    | none => exact within_pure _
    | some path =>
      refine within_bind ?_ fun _ => within_pure _
      exact (Catalog.requireAll_within _).mono (fun _ => Call.FindsChannels.not_onHistorian) fun _ => id

theorem locate_silent (service : Service) (request : ReadRequest) :
    (service.locate request).Only fun c => c.onHistorian = false :=
  (locate_within service request).only

/-- the definitions located are known under the codes asked for -/
theorem locate_known {path : Storage.Path} {definitions : List Channel.Definition} {s' : S.State}
    (h : (service.locate request).perform S.answer s = (.ok (some (path, definitions)), s')) :
    List.Forall₂ (S.Known s) request.channels definitions := by
  obtain ⟨equipment, s1, s2, hequipment, hroute, hdefinitions⟩ := locate_ok.1 h
  have hfirst := S.nothingNew_perform (only_mono (fun _ => Call.Locates.noChannel) (equipmentFor_within request.wkeid).only) s
  have hsecond := S.nothingNew_perform
    (only_mono (fun _ => Call.Locates.noChannel) (Storage.routeRead_within service.supportContact equipment).only) s1
  rw [hequipment] at hfirst
  rw [hroute] at hsecond
  refine (Catalog.requireAll_known hdefinitions).2.imp fun code d hd => ?_
  exact hfirst.known code d (hsecond.known code d hd)

/-- without anything located, nothing is asked -/
theorem inquiries_of_not_located
    (h : ∀ path definitions s1, (service.locate request).perform S.answer s ≠ (.ok (some (path, definitions)), s1)) :
    S.inquiries (service.read request) s = [] := by
  rw [read_eq]
  rcases hlocate : (service.locate request).perform S.answer s with ⟨failure | found, s1⟩
  · rw [S.inquiries_bind_of_error hlocate, S.inquiries_eq_nil (locate_silent service request)]
  · rw [S.inquiries_bind_of_silent (locate_silent service request) hlocate]
    rcases found with _ | ⟨path, definitions⟩
    · exact S.inquiries_eq_nil (only_pure _) s1
    · exact absurd hlocate (h path definitions s1)

/-- everything that a read needs for its last query: what it is about, a period, and something to select -/
def Answerable (S : CatalogSurroundings) (service : Service) (request : ReadRequest) (s : S.State) (path : Storage.Path)
    (definitions : List Channel.Definition) (period : Time.Period) (selection : Query.Selection) : Prop :=
  ∃ s1 s2 s3, (service.locate request).perform S.answer s = (.ok (some (path, definitions)), s1) ∧
    PeriodFound S.toSurroundings service (draftFor path request.wkeid) s1 request.period period s2 ∧
    Selected S.toSurroundings (draftFor path request.wkeid) s2 (definitions.map fieldOf) selection s3

/-- the calls that come before the last one: the latest point if there is no period, the stored fields if channels are
named -/
def preparations (request : ReadRequest) (path : Storage.Path) (latest : Query.Statement) : List Call :=
  (if request.period = none then [.historianLatest latest] else []) ++
    if request.channels = [] then [] else [.historianRows (draftFor path request.wkeid).fieldKeys]

/-- what is asked before the last query: the equipment's latest point on the path, and the names of the fields there -/
structure AsksFirst (path : Storage.Path) (wkeid : String) (latest : Query.Statement) : Prop where
  read : (draftFor path wkeid).latest = .ok latest
  database : latest.database = path.database
  latest : Query.Composed latest.text [.identifier path.measurement, .value wkeid]
    "SELECT * FROM  WHERE EquipmentInstance= ORDER BY time DESC LIMIT 1"
  keysDatabase : (draftFor path wkeid).fieldKeys.database = path.database
  keys : Query.Composed (draftFor path wkeid).fieldKeys.text [.identifier path.measurement] "SHOW FIELD KEYS FROM "

theorem asksFirst_of_latest {path : Storage.Path} {wkeid : String} {latest : Query.Statement}
    (h : (draftFor path wkeid).latest = .ok latest) : AsksFirst path wkeid latest := by
  obtain ⟨hdatabase, hlatest⟩ := Query.Draft.composed_latest rfl h
  exact ⟨h, hdatabase, hlatest, rfl, Query.Draft.composed_fieldKeys _⟩

/-- all that a read may ask -/
inductive Inquired (S : CatalogSurroundings) (service : Service) (request : ReadRequest) (s : S.State) : List Call → Prop
  /-- something is missing before the last query -/
  | stopped {calls : List Call} (path : Storage.Path) (latest : Query.Statement)
      (hlatest : (draftFor path request.wkeid).latest = .ok latest) (hcalls : calls <+: preparations request path latest)
      (hmissing : ∀ path definitions period selection, ¬ Answerable S service request s path definitions period selection) :
      Inquired S service request s calls
  /-- the last query is asked -/
  | answered (path : Storage.Path) (latest : Query.Statement) (definitions : List Channel.Definition) (period : Time.Period)
      (selection : Query.Selection) (query : Query.Statement)
      (hlatest : (draftFor path request.wkeid).latest = .ok latest)
      (h : Answerable S service request s path definitions period selection)
      (hquery : (finalDraft request path period selection).read = .ok query) :
      Inquired S service request s (preparations request path latest ++ [.historianSeries query])

/-- what a read has is found where it locates what it is about -/
theorem Answerable.found {path path' : Storage.Path} {definitions definitions' : List Channel.Definition}
    {period : Time.Period} {selection : Query.Selection} {s1 : S.State}
    (h : Answerable S service request s path' definitions' period selection)
    (hlocate : (service.locate request).perform S.answer s = (.ok (some (path, definitions)), s1)) :
    ∃ s2 s3, (service.periodFor (draftFor path request.wkeid) request.period).perform S.answer s1 = (.ok (some period), s2) ∧
      Selected S.toSurroundings (draftFor path request.wkeid) s2 (definitions.map fieldOf) selection s3 := by
  obtain ⟨s1', s2, s3, hlocate', hperiod, hselected⟩ := h
  rw [hlocate] at hlocate'
  cases hlocate'
  exact ⟨s2, s3, (periodFor_ok ⟨_, rfl⟩).2 hperiod, hselected⟩

/-- the stored fields are asked for if channels are named, and the series if there is something to select -/
theorem answerWithin_inquiries (S : Surroundings) (request : ReadRequest) (path : Storage.Path) (named : List String)
    (period : Time.Period) (s : S.State) :
    (∃ selection s' query, Selected S (draftFor path request.wkeid) s named selection s' ∧
        (finalDraft request path period selection).read = .ok query ∧
        S.inquiries (answerWithin request path named (some period)) s =
          S.inquiries (selectStored (draftFor path request.wkeid) named) s ++ [.historianSeries query]) ∨
      (∀ selection s', ¬ Selected S (draftFor path request.wkeid) s named selection s') ∧
        S.inquiries (answerWithin request path named (some period)) s =
          S.inquiries (selectStored (draftFor path request.wkeid) named) s := by
  rcases hselect : (selectStored (draftFor path request.wkeid) named).perform S.answer s with ⟨failure | chosen, s1⟩
  · refine Or.inr ⟨fun selection s' hselected => ?_, S.inquiries_bind_of_error hselect⟩
    have hok := selectStored_ok.2 ⟨selection, hselected, rfl⟩
    rw [hselect] at hok
    cases hok
  have hinquiries := S.inquiries_bind_of_ok (f := answerSelected request path period) hselect
  cases chosen with
  | none =>
    rw [answerSelected, S.inquiries_eq_nil (only_pure _), List.append_nil] at hinquiries
    refine Or.inr ⟨fun selection s' hselected => ?_, hinquiries⟩
    have hok := selectStored_ok.2 ⟨selection, hselected, rfl⟩
    rw [hselect] at hok
    cases hok
  | some chosen =>
    obtain ⟨selection, hselected, rfl⟩ := selectStored_ok.1 hselect
    obtain ⟨query, hquery⟩ := hselected.readable request path period
    rw [answerSelected_inquiries hquery] at hinquiries
    exact Or.inl ⟨selection, s1, query, hselected, hquery, hinquiries⟩

/-- once everything is located, a read asks one of these -/
theorem inquired_of_located (hunits : ∀ code d, S.Known s code d → Text.isBlankText d.unit = false) {path : Storage.Path}
    {definitions : List Channel.Definition} {s1 : S.State}
    (hlocate : (service.locate request).perform S.answer s = (.ok (some (path, definitions)), s1)) :
    Inquired S service request s (S.inquiries (service.read request) s) := by
  obtain ⟨latest, hlatest⟩ : ∃ latest, (draftFor path request.wkeid).latest = .ok latest := ⟨_, rfl⟩
  have hknown := locate_known hlocate
  have hempty : definitions.map fieldOf = [] ↔ request.channels = [] := by
    rw [List.map_eq_nil_iff, ← List.length_eq_zero_iff, ← hknown.length_eq, List.length_eq_zero_iff]
  have hread : S.inquiries (service.read request) s = S.inquiries (service.periodFor (draftFor path request.wkeid)
      request.period >>= answerWithin request path (definitions.map fieldOf)) s1 := by
    rw [read_eq, S.inquiries_bind_of_silent (locate_silent service request) hlocate, answerLocated,
      fieldNames_of_known hunits hknown]
    rfl
  have hfirst := periodFor_inquiries S.toSurroundings service (draftFor path request.wkeid) hlatest request.period s1
  have hsecond := selectStored_inquiries S.toSurroundings (draftFor path request.wkeid) (definitions.map fieldOf)
  rw [hread]
  rcases hperiod : (service.periodFor (draftFor path request.wkeid) request.period).perform S.answer s1 with
    ⟨failure | _ | period, s2⟩
  -- no period: at most the latest point was asked for
  · rw [S.inquiries_bind_of_error hperiod, hfirst]
    refine .stopped path latest hlatest (List.prefix_append _ _) fun _ _ _ _ h => ?_
    obtain ⟨_, _, hfound, -⟩ := h.found hlocate
    rw [hperiod] at hfound
    cases hfound
  · rw [S.inquiries_bind_of_ok hperiod, hfirst, answerWithin, S.inquiries_eq_nil (only_pure _), List.append_nil]
    refine .stopped path latest hlatest (List.prefix_append _ _) fun _ _ _ _ h => ?_
    obtain ⟨_, _, hfound, -⟩ := h.found hlocate
    rw [hperiod] at hfound
    cases hfound
  rw [S.inquiries_bind_of_ok hperiod, hfirst]
  rcases answerWithin_inquiries S.toSurroundings request path (definitions.map fieldOf) period s2 with
    ⟨selection, s3, query, hselected, hquery, hrest⟩ | ⟨hnone, hrest⟩
  · have hanswerable : Answerable S service request s path definitions period selection :=
      ⟨s1, s2, s3, hlocate, (periodFor_ok ⟨latest, hlatest⟩).1 hperiod, hselected⟩
    have hcalls := Inquired.answered path latest definitions period selection query hlatest hanswerable hquery
    rw [hrest, hsecond, ← List.append_assoc]
    simpa only [preparations, hempty] using hcalls
  · rw [hrest, hsecond]
    refine .stopped path latest hlatest ?_ fun _ _ _ _ h => ?_
    · simp only [preparations, hempty, List.prefix_refl]
    · obtain ⟨_, _, hfound, hselected⟩ := h.found hlocate
      rw [hperiod] at hfound
      cases hfound
      exact hnone _ _ hselected

/-- a read of channels with units asks one of these -/
theorem read_inquired (service : Service) (request : ReadRequest)
    (hunits : ∀ code d, S.Known s code d → Text.isBlankText d.unit = false) :
    Inquired S service request s (S.inquiries (service.read request) s) := by
  by_cases hlocated : ∃ path definitions s1,
      (service.locate request).perform S.answer s = (.ok (some (path, definitions)), s1)
  · obtain ⟨path, definitions, s1, hlocate⟩ := hlocated
    exact inquired_of_located hunits hlocate
  · have hnot : ∀ path definitions s1, (service.locate request).perform S.answer s ≠ (.ok (some (path, definitions)), s1) :=
      fun path definitions s1 h => hlocated ⟨path, definitions, s1, h⟩
    rw [inquiries_of_not_located hnot]
    refine .stopped ⟨"", "", ""⟩ _ rfl List.nil_prefix ?_
    rintro path definitions period selection ⟨s1, s2, s3, hlocate, -, -⟩
    exact hnot path definitions s1 hlocate

/-! ## Failures and changes -/

/-- if a read fails, then neither the query nor the configuration is to blame, or the window is refused -/
theorem read_failure {s' : S.State} {e : ServiceError}
    (h : (service.read request).perform S.answer s = (.error e, s')) :
    e.IsPlain ∨
      request.period = none ∧ WindowRefused S.toSurroundings service ((service.read request).moments S.answer s) e := by
  rw [read_eq] at h ⊢
  rcases perform_bind_error.1 h with h | ⟨found, s1, hlocate, h⟩
  · exact Or.inl ((locate_within service request).failure (congrArg Prod.fst h))
  rcases found with _ | ⟨path, definitions⟩
  · cases h
  rcases perform_bind_error.1 h with h | ⟨named, s2, hnamed, h⟩
  · exact Or.inl ((named_within definitions).failure (congrArg Prod.fst h))
  rcases perform_bind_error.1 h with h | ⟨found, s3, -, h⟩
  · refine (periodFor_error ⟨_, rfl⟩ h).imp_right fun ⟨hnone, hrefused⟩ => ⟨hnone, hrefused.mono fun m hm => ?_⟩
    exact mem_moments_bind_right hlocate (mem_moments_bind_right hnamed (mem_moments_bind_left hm))
  rcases found with _ | period
  · cases h
  rcases perform_bind_error.1 h with h | ⟨chosen, s4, hselect, h⟩
  · exact Or.inl ((selectStored_within _ named).failure (congrArg Prod.fst h))
  rcases chosen with _ | chosen
  · cases h
  -- what was chosen can be asked for, so only the historian and the catalog may still fail
  obtain ⟨selection, hselected, rfl⟩ := selectStored_ok.1 hselect
  obtain ⟨query, hquery⟩ := hselected.readable request path period
  rw [answerSelected_eq hquery] at h
  exact Or.inl ((respond_within request.wkeid path period query).failure (congrArg Prod.fst h))

/-- two fields can be combined within any period -/
theorem combination_readable (path : Storage.Path) (wkeid : String) (period : Time.Period) (left right : String)
    (function : Query.MathFunction) :
    ∃ query, (((draftFor path wkeid).during period).selectMath left function right).read = .ok query :=
  Query.Draft.read_ok_iff.2 ⟨⟨_, rfl⟩, _, rfl, nofun, fun _ _ _ _ => rfl⟩

/-- if a combined read fails, then neither the query nor the configuration is to blame, or the window is refused -/
theorem readMath_failure {combined : MathRequest} {s' : S.State} {e : ServiceError}
    (h : (service.readMath combined).perform S.answer s = (.error e, s')) :
    e.IsPlain ∨
      combined.period = none ∧ WindowRefused S.toSurroundings service ((service.readMath combined).moments S.answer s) e := by
  unfold readMath at h ⊢
  rcases perform_bind_error.1 h with h | ⟨equipment, s1, hequipment, h⟩
  · exact Or.inl ((equipmentFor_within _).failure (congrArg Prod.fst h))
  rcases perform_bind_error.1 h with h | ⟨found, s2, hroute, h⟩
  · exact Or.inl ((Storage.routeRead_within _ equipment).failure (congrArg Prod.fst h))
  rcases found with _ | path
  · cases h
  rcases perform_bind_error.1 h with h | ⟨leftDefinition, s3, hleft, h⟩
  · exact Or.inl ((Catalog.require_within _).failure (congrArg Prod.fst h))
  rcases perform_bind_error.1 h with h | ⟨rightDefinition, s4, hright, h⟩
  · exact Or.inl ((Catalog.require_within _).failure (congrArg Prod.fst h))
  rcases perform_bind_error.1 h with h | ⟨left, s5, hleftName, h⟩
  · exact Or.inl (fieldName_error (perform_ofExcept_error.1 h).1)
  rcases perform_bind_error.1 h with h | ⟨right, s6, hrightName, h⟩
  · exact Or.inl (fieldName_error (perform_ofExcept_error.1 h).1)
  rcases perform_bind_error.1 h with h | ⟨found, s7, -, h⟩
  · refine (periodFor_error ⟨_, rfl⟩ h).imp_right fun ⟨hnone, hrefused⟩ => ⟨hnone, hrefused.mono fun m hm => ?_⟩
    refine mem_moments_bind_right hequipment (mem_moments_bind_right hroute (mem_moments_bind_right hleft ?_))
    refine mem_moments_bind_right hright (mem_moments_bind_right hleftName (mem_moments_bind_right hrightName ?_))
    exact mem_moments_bind_left hm
  rcases found with _ | period
  · cases h
  rcases perform_bind_error.1 h with h | ⟨stored, s8, -, h⟩
  · exact Or.inl ((storedFields_within _).failure (congrArg Prod.fst h))
  split at h
  · obtain ⟨query, hquery⟩ := combination_readable path combined.wkeid period left right combined.function
    rw [hquery] at h
    exact Or.inl ((respond_within _ _ _ query).failure (congrArg Prod.fst h))
  · cases h

/-- a read never asks for what cannot be said -/
theorem read_error {s' : S.State} {e : ServiceError}
    (h : (service.read request).perform S.answer s = (.error e, s')) : e.IsSupported := by
  rcases read_failure h with hplain | ⟨-, m, -, query, stop, s1, -, -, hrefused⟩
  · exact hplain.isSupported
  · exact trailing_error hrefused

/-- nothing is asked about what is not there: the equipment, its path, or a channel -/
theorem inquiries_of_missing
    (h : checkEquipmentId request.wkeid ≠ .ok () ∨ (S.answer s (.equipmentRecord request.wkeid)).1 = .ok none ∨
      (∃ equipment s1, (equipmentFor request.wkeid).perform S.answer s = (.ok equipment, s1) ∧
        ∀ path, ((Storage.routeRead service.supportContact equipment).perform S.answer s1).1 ≠ .ok (some path)) ∨
      ∃ code ∈ request.channels, ∀ d, ¬ S.Known s code d) :
    S.inquiries (service.read request) s = [] := by
  refine inquiries_of_not_located fun path definitions s' hlocate => ?_
  obtain ⟨equipment, s1, s2, hequipment, hroute, hdefinitions⟩ := locate_ok.1 hlocate
  obtain ⟨_, s0, hcheck, hrecord⟩ := perform_bind_ok.1 hequipment
  obtain ⟨hvalid, rfl⟩ := perform_ofExcept_ok.1 hcheck
  rcases h with hinvalid | hunknown | ⟨equipment', s1', hequipment', hnone⟩ | ⟨code, hcode, hunknown⟩
  · exact hinvalid hvalid
  · obtain ⟨found, s3, hfind, hfound⟩ := perform_bind_ok.1 hrecord
    rw [Equipment.find, perform, hunknown] at hfind
    cases hfind
    cases hfound
  · rw [hequipment] at hequipment'
    cases hequipment'
    exact hnone path (congrArg Prod.fst hroute)
  · obtain ⟨i, hi, hget⟩ := List.getElem_of_mem hcode
    have hknown := locate_known hlocate
    have hlength := hknown.length_eq
    have hd := List.forall₂_iff_get.1 hknown |>.2 i hi (by omega)
    rw [List.get_eq_getElem, hget] at hd
    exact hunknown _ hd

end Pipeline

theorem latest_not_series {request : ReadRequest} {path : Storage.Path} {latest query : Query.Statement} :
    .historianSeries query ∉ preparations request path latest := by
  unfold preparations
  split <;> split <;> simp

/-- **What a read asks, and when.** Take any request, collaborators of any behaviour, and a catalog where everything stored or
cached has a unit. The calls on the historian are a prefix of: the latest point (if the request has no period), the stored
fields (if it names channels), the series. None is made about an id that is invalid or unknown, without a path, or if a
channel is unknown. The last one is made exactly if everything is located, there is a period, and there is something to
select. It runs on the database of the path found and asks for the request's equipment on its measurement, within that period,
and for the fields of the requested channels that are stored, in the order of the request: these are the quoted parts of its
text. A read never fails for a query that cannot be said, and it changes neither the definitions nor the mappings nor what has
been written. -/
theorem read_pipeline (S : CatalogSurroundings) (service : Service) (request : ReadRequest) (s : S.State)
    (hunits : ∀ code d, S.Known s code d → Text.isBlankText d.unit = false) :
    (∃ path latest final, AsksFirst path request.wkeid latest ∧
      S.inquiries (service.read request) s <+: preparations request path latest ++ [.historianSeries final]) ∧
    ((checkEquipmentId request.wkeid ≠ .ok () ∨ (S.answer s (.equipmentRecord request.wkeid)).1 = .ok none ∨
        (∃ equipment s1, (equipmentFor request.wkeid).perform S.answer s = (.ok equipment, s1) ∧
          ∀ path, ((Storage.routeRead service.supportContact equipment).perform S.answer s1).1 ≠ .ok (some path)) ∨
        ∃ code ∈ request.channels, ∀ d, ¬ S.Known s code d) →
      S.inquiries (service.read request) s = []) ∧
    ((∃ query, .historianSeries query ∈ S.inquiries (service.read request) s) ↔
      ∃ path definitions period selection, Answerable S service request s path definitions period selection) ∧
    (∀ query, .historianSeries query ∈ S.inquiries (service.read request) s →
      ∃ path definitions period selection, Answerable S service request s path definitions period selection ∧
        List.Forall₂ (S.Known s) request.channels definitions ∧ AsksFor request path period selection query) ∧
    (∀ reason, ((service.read request).perform S.answer s).1 ≠ .error (.unsupportedQuery reason)) ∧
    S.definitions ((service.read request).perform S.answer s).2 = S.definitions s ∧
    S.mappings ((service.read request).perform S.answer s).2 = S.mappings s ∧
    S.writes ((service.read request).perform S.answer s).2 = S.writes s := by
  have hquiet := read_quiet service request
  have hinquired := read_inquired (s := s) service request hunits
  have hlast : ∀ query, .historianSeries query ∈ S.inquiries (service.read request) s →
      ∃ path definitions period selection, Answerable S service request s path definitions period selection ∧
        List.Forall₂ (S.Known s) request.channels definitions ∧ AsksFor request path period selection query := by
    intro query hmem
    generalize S.inquiries (service.read request) s = calls at hinquired hmem
    cases hinquired with
    | stopped path latest hlatest hcalls hmissing => exact absurd (hcalls.subset hmem) latest_not_series
    | answered path latest definitions period selection final hlatest h hfinal =>
      rcases List.mem_append.1 hmem with hmem | hmem
      · exact absurd hmem latest_not_series
      · obtain rfl : query = final := Call.historianSeries.inj (List.mem_singleton.1 hmem)
        obtain ⟨s1, s2, s3, hlocate, -, hselected⟩ := id h
        exact ⟨path, definitions, period, selection, h, locate_known hlocate, hselected.asksFor hfinal⟩
  refine ⟨?_, inquiries_of_missing, ⟨?_, ?_⟩, hlast, ?_, ?_, ?_, ?_⟩
  · generalize S.inquiries (service.read request) s = calls at hinquired
    cases hinquired with
    | stopped path latest hlatest hcalls hmissing =>
      exact ⟨path, latest, latest, asksFirst_of_latest hlatest, hcalls.trans (List.prefix_append _ _)⟩
    | answered path latest definitions period selection query hlatest h hquery =>
      exact ⟨path, latest, query, asksFirst_of_latest hlatest, List.prefix_refl _⟩
  · rintro ⟨query, hmem⟩
    obtain ⟨path, definitions, period, selection, h, -⟩ := hlast query hmem
    exact ⟨path, definitions, period, selection, h⟩
  · rintro ⟨path, definitions, period, selection, h⟩
    generalize S.inquiries (service.read request) s = calls at hinquired
    cases hinquired with
    | stopped path' latest hlatest hcalls hmissing => exact absurd h (hmissing path definitions period selection)
    | answered path' latest _ _ _ query => exact ⟨query, List.mem_append_right _ List.mem_cons_self⟩
  · intro reason hfailure
    exact read_error (perform_of_fst hfailure) reason rfl
  · exact S.definitions_perform (only_mono (fun _ hc => hc.keeps .definitions) hquiet) s
  · exact S.mappings_perform (only_mono (fun _ hc => hc.keeps .mappings) hquiet) s
  · exact S.writes_perform (only_mono (fun _ hc => hc.keeps .writes) hquiet) s

/-! ## A read in a world -/

/-- the plant when the historian has loads, the latest on the first of May -/
def loadedPlant : World :=
  { enabledPlant with
    historian :=
      { rows := fun _ => [[("fieldKey", .string "load.kW")]]
        latest := fun _ => some (Time.Instant.ofDate ⟨2024, 5, 1⟩) } }

/-- the pump's load, in the window before the latest point -/
def latestLoad : ReadRequest := { wkeid := "M1:S1", channels := ["load"] }

/-- the day before the first of May -/
def dayBefore : Time.Period := ⟨Time.Instant.ofDate ⟨2024, 4, 30⟩, Time.Instant.ofDate ⟨2024, 5, 1⟩⟩

/-- the plant's definitions have units -/
theorem loadedPlant_units (code : String) (d : Channel.Definition) (h : World.catalog.Known loadedPlant code d) :
    Text.isBlankText d.unit = false := by
  rcases h with hcached | hstored
  · exact hcached.elim
  · have hmem := List.mem_of_find?_eq_some hstored
    have hall : ∀ d ∈ plant.definitions, Text.isBlankText d.unit = false := by decide +kernel
    exact hall d hmem

/-- all three calls are made, and the last one selects the load within the day before the latest point -/
theorem read_pipeline_load :
    (World.catalog.inquiries ((⟨"ops", 24⟩ : Service).read latestLoad) loadedPlant).length = 3 ∧
      (∃ query path definitions period selection,
        .historianSeries query ∈ World.catalog.inquiries ((⟨"ops", 24⟩ : Service).read latestLoad) loadedPlant ∧
        Answerable World.catalog ⟨"ops", 24⟩ latestLoad loadedPlant path definitions period selection ∧
        AsksFor latestLoad path period selection query ∧ query.database = "PUMP" ∧
        (Query.scan query.text).tokens = [.identifier "load.kW", .identifier "ACME", .value "M1:S1"]) ∧
      World.catalog.writes (((⟨"ops", 24⟩ : Service).read latestLoad).perform World.catalog.answer loadedPlant).2 = [] := by
  obtain ⟨query, hquery⟩ : ∃ query,
      (finalDraft latestLoad ⟨"PUMP", "ACME", "E1"⟩ dayBefore (.field "load.kW")).read = .ok query := ⟨_, rfl⟩
  have hmade : .historianSeries query ∈ World.catalog.inquiries ((⟨"ops", 24⟩ : Service).read latestLoad) loadedPlant := by
    cases hquery
    decide +kernel
  have htokens : query.database = "PUMP" ∧
      (Query.scan query.text).tokens = [.identifier "load.kW", .identifier "ACME", .value "M1:S1"] := by
    cases hquery
    decide +kernel
  obtain ⟨-, -, -, hlast, -, -, -, hwrites⟩ := read_pipeline World.catalog ⟨"ops", 24⟩ latestLoad loadedPlant loadedPlant_units
  obtain ⟨path, definitions, period, selection, hanswerable, -, hasks⟩ := hlast query hmade
  exact ⟨by decide +kernel, ⟨query, path, definitions, period, selection, hmade, hanswerable, hasks, htokens.1, htokens.2⟩,
    hwrites⟩

end Service

end Telemetry
