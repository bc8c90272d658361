import Telemetry.CommandLine.Operator
import Telemetry.Proofs.Service.ReadPipeline
/-
The query that is shown is the query that is asked.

An operator describes a query in words, and the service is given it as a request: two ways to the same draft. They differ in
where the fields come from (the words name them, the request names channels) and in how one field, several, all, and two
combined are told apart. `Tells`, `TellsRead` and `TellsMath` say part by part that words tell of a request; it follows that
both come to one draft, and so to one statement.

- `selected_fields`, `selected_math`, `aggregated_ok`, `within_ok`, `grouped_ok`, `ofEpisode_ok`: what each part of the words
  does to a draft;
- `Tells.statement_eq`: the draft that words come to;
- `read_inquiries`, `readMath_inquiries`: what a read asks that gets as far as its last query (`Ready`);
- `shown_query_asked`: so the last query is the one that is shown.
-/
namespace Telemetry

open Program

/-! ## Requests in words -/

namespace Query

variable {α : Type} {r : Request} {d : Draft}

/-- a text is given exactly if there is a value, and reads as this value -/
def ReadsAs (read : String → Except ServiceError α) : Option String → Option α → Prop
  | none, none => True
  | some text, some a => read text = .ok a
  | _, _ => False

namespace Request

/-- the words tell of these episodes -/
def TellsEpisode (r : Request) : Option EpisodeFilter → Prop
  | none => r.episodeId = none ∧ r.episode = false
  | some .any => r.episodeId = none ∧ r.episode = true
  | some (.id episode) => r.episodeId = some episode

/-- the words tell of these fields: every one, or one or more by their names -/
def TellsFields (r : Request) (names : List String) : Prop :=
  r.math = none ∧ (names = [] ∧ r.allFields = true ∨ names ≠ [] ∧ r.allFields = false ∧ r.fields = names)

/-- the selection of every field, or of one or more by their names -/
def selectionOf : List String → Selection
  | [] => .allFields
  | [name] => .field name
  | names => .fields names

theorem selected_fields {names : List String} (h : r.TellsFields names) :
    r.selected d = .ok { d with selection := some (selectionOf names) } := by
  obtain ⟨hmath, ⟨rfl, hall⟩ | ⟨hnames, hall, hfields⟩⟩ := h
  · rw [selected, hmath, hall]
    rfl
  · rw [selected, hmath, hall, hfields]
    rcases names with _ | ⟨name, _ | ⟨name', names⟩⟩
    · exact absurd rfl hnames
    · rfl
    · rfl

theorem selected_math {left text right : String} {function : MathFunction} (hmath : r.math = some [left, text, right])
    (hread : MathFunction.read text = .ok function) :
    r.selected d = .ok { d with selection := some (.math left function right) } := by
  rw [selected, hmath]
  simp only [hread]
  rfl

theorem aggregated_ok {aggregation : Option Aggregation} (h : ReadsAs Aggregation.read r.aggregation aggregation) :
    r.aggregated d = .ok { d with aggregation := aggregation.or d.aggregation } := by
  unfold aggregated
  rcases hword : r.aggregation with _ | word <;> rcases aggregation with _ | f <;> rw [hword] at h
  · rfl
  · exact h.elim
  · exact h.elim
  · have hread : Aggregation.read word = .ok f := h
    simp only [hread]
    rfl

theorem within_ok {start stop : String} {period : Time.Period} (hstart : r.start = some start) (hstop : r.stop = some stop)
    (hread : Time.Period.read start stop = .ok period) : r.within d = .ok { d with period := some period } := by
  rw [within, hstart, hstop]
  simp only [hread]
  rfl

theorem grouped_ok {groupBy : Option GroupBy} (h : ReadsAs (GroupBy.read · r.fill) r.groupBy groupBy) :
    r.grouped d = .ok { d with groupBy := groupBy.or d.groupBy } := by
  unfold grouped
  rcases hword : r.groupBy with _ | word <;> rcases groupBy with _ | g <;> rw [hword] at h
  · rfl
  · exact h.elim
  · exact h.elim
  · have hread : GroupBy.read word r.fill = .ok g := h
    simp only [hread]
    rfl

theorem ofEpisode_ok {episode : Option EpisodeFilter} (h : r.TellsEpisode episode) :
    r.ofEpisode d = { d with episode := episode.or d.episode } := by
  unfold ofEpisode
  rcases episode with _ | _ | episode
  · rw [h.1, h.2]
    rfl
  · rw [h.1, h.2]
    rfl
  · have hid : r.episodeId = some episode := h
    rw [hid]
    rfl

/-- the words are about the equipment's points on a path, within a period -/
structure Tells (r : Request) (wkeid : String) (path : Storage.Path) (period : Time.Period) : Prop where
  database : r.database = path.database
  measurement : r.measurement = path.measurement
  wkeid : r.wkeid = some wkeid
  period : ∃ start stop, r.start = some start ∧ r.stop = some stop ∧ Time.Period.read start stop = .ok period
  showFieldKeys : r.showFieldKeys = false
  latest : r.latest = false

/-- words come to the draft that they tell of -/
theorem Tells.statement_eq {wkeid : String} {path : Storage.Path} {period : Time.Period} {selection : Selection}
    {aggregation : Option Aggregation} {groupBy : Option GroupBy} {episode : Option EpisodeFilter}
    (h : r.Tells wkeid path period) (hselected : ∀ d, r.selected d = .ok { d with selection := some selection })
    (haggregation : ReadsAs Aggregation.read r.aggregation aggregation)
    (hgroup : ReadsAs (GroupBy.read · r.fill) r.groupBy groupBy) (hepisode : r.TellsEpisode episode) :
    r.statement = told (Draft.read
      { database := path.database, measurement := path.measurement, instanceId := some wkeid, selection := some selection,
        aggregation, period := some period, episode, groupBy }) := by
  obtain ⟨start, stop, hstart, hstop, hread⟩ := h.period
  have hdraft : r.draft = { database := path.database, measurement := path.measurement, instanceId := some wkeid } := by
    rw [draft, h.wkeid, h.database, h.measurement]
    rfl
  have hpoints : r.points = told (r.ofEpisode { r.draft with
      selection := some selection
      aggregation := aggregation.or r.draft.aggregation
      period := some period
      groupBy := groupBy.or r.draft.groupBy }).read := by
    simp only [points, hselected, aggregated_ok haggregation, within_ok hstart hstop hread, grouped_ok hgroup, Except.bind,
      Bind.bind]
  rw [statement, h.showFieldKeys, h.latest, if_neg (by decide), if_neg (by decide), hpoints, ofEpisode_ok hepisode, hdraft]
  simp only [Option.or_none]

end Request

end Query

/-! ## Reads that get as far as their last query -/

/-- the read of both channels, not combined -/
def MathRequest.both (request : MathRequest) : ReadRequest where
  wkeid := request.wkeid
  channels := [request.left, request.right]
  period := request.period

namespace Service

variable {S : Surroundings} {service : Service} {s : S.State} {path : Storage.Path} {names : List String} {period : Time.Period}

/-- a read gets as far as its last query, with a given period: the equipment and its path are found, the channels are known,
and their fields have these names and are stored, all of them, if there are any -/
structure Ready (S : Surroundings) (service : Service) (request : ReadRequest) (s : S.State) (path : Storage.Path)
    (names : List String) (period : Time.Period) : Prop where
  located : ∃ definitions s1, (service.locate request).perform S.answer s = (.ok (some (path, definitions)), s1) ∧
    fieldNames definitions = .ok names ∧
    (names = [] ∨ ∃ rows s2, S.answer s1 (.historianRows (draftFor path request.wkeid).fieldKeys) = (.ok rows, s2) ∧
      ∀ name ∈ names, name ∈ rows.filterMap fieldKeyOf)
  period : request.period = some period

/-- named fields that are all stored are all selected -/
theorem selected_of_stored {draft : Query.Draft} (h : names = [] ∨ ∃ rows s2,
    S.answer s (.historianRows draft.fieldKeys) = (.ok rows, s2) ∧ ∀ name ∈ names, name ∈ rows.filterMap fieldKeyOf) :
    ∃ s2, Selected S draft s names (Query.Request.selectionOf names) s2 := by
  rcases h with rfl | ⟨rows, s2, hanswer, hstored⟩
  · exact ⟨s, .all⟩
  rcases names with _ | ⟨name, names⟩
  · exact ⟨s, .all⟩
  have hall : (name :: names).filter (rows.filterMap fieldKeyOf).contains = name :: names :=
    List.filter_eq_self.2 fun field hfield => by simpa using hstored field hfield
  refine ⟨s2, .stored (by simp) hanswer ?_⟩
  rw [hall]
  rcases names with _ | ⟨name', names⟩ <;> rfl

/-- the fields are asked for if there are any, and then the series -/
theorem read_inquiries {request : ReadRequest} (h : Ready S service request s path names period) :
    ∃ query, (finalDraft request path period (Query.Request.selectionOf names)).read = .ok query ∧
      S.inquiries (service.read request) s =
        (if names = [] then [] else [.historianRows (draftFor path request.wkeid).fieldKeys]) ++ [.historianSeries query] := by
  obtain ⟨⟨definitions, s1, hlocate, hnames, hstored⟩, hperiod⟩ := h
  obtain ⟨s2, hselected⟩ := selected_of_stored hstored
  obtain ⟨query, hquery⟩ := hselected.readable request path period
  have hfound : (selectStored (draftFor path request.wkeid) names).perform S.answer s1 = _ :=
    selectStored_ok.2 ⟨_, hselected, rfl⟩
  refine ⟨query, hquery, ?_⟩
  rw [read_eq, S.inquiries_bind_of_silent (locate_silent service request) hlocate, answerLocated, hnames, hperiod]
  change S.inquiries (answerWithin request path names (some period)) s1 = _
  rw [answerWithin, S.inquiries_bind_of_ok hfound, selectStored_inquiries, answerSelected_inquiries hquery]

/-! ## Two channels combined -/

/-- the query that two combined fields come down to -/
def combinedDraft (request : MathRequest) (path : Storage.Path) (period : Time.Period) (left right : String) : Query.Draft where
  database := path.database
  measurement := path.measurement
  instanceId := some request.wkeid
  selection := some (.math left request.function right)
  period := some period

/-- asks for the stored fields, and for two of them combined if there is a period and both are stored -/
def answerCombined (service : Service) (request : MathRequest) (path : Storage.Path) (left right : String) :
    Action ReadResponse := do
  match ← service.periodFor (draftFor path request.wkeid) request.period with
  | none => return { wkeid := request.wkeid, path := some path }
  | some period =>
    let stored ← storedFields (draftFor path request.wkeid)
    if stored.contains left && stored.contains right then
      let query ← .ofExcept (combinedDraft request path period left right).read
      respond request.wkeid path period query
    else return { wkeid := request.wkeid, path := some path, period := some period }

theorem fieldNames_cons_ok {definitions : List Channel.Definition} {name : String} {names : List String}
    (h : fieldNames definitions = .ok (name :: names)) :
    ∃ d ds, definitions = d :: ds ∧ d.fieldName = .ok name ∧ fieldNames ds = .ok names := by
  cases definitions with
  | nil => cases h
  | cons d ds =>
    obtain ⟨name', hname, h⟩ := bind_eq_ok_iff.1 h
    obtain ⟨names', hnames, h⟩ := bind_eq_ok_iff.1 h
    cases h
    exact ⟨d, ds, rfl, hname, hnames⟩

/-- two channels are located one after the other, as in a read of both, and then their fields are combined -/
theorem readMath_located {request : MathRequest} {definitions : List Channel.Definition} {left right : String} {s1 : S.State}
    (hlocate : (service.locate request.both).perform S.answer s = (.ok (some (path, definitions)), s1))
    (hnames : fieldNames definitions = .ok [left, right]) :
    S.inquiries (service.readMath request) s = S.inquiries (service.answerCombined request path left right) s1 := by
  obtain ⟨equipment, t1, t2, hequipment, hroute, hdefinitions⟩ := locate_ok.1 hlocate
  change (equipmentFor request.wkeid).perform S.answer s = _ at hequipment
  obtain ⟨dl, t3, hfirst, hrest⟩ := perform_bind_ok.1 hdefinitions
  obtain ⟨ds, t4, hothers, hdone⟩ := perform_bind_ok.1 hrest
  obtain ⟨dr, t5, hsecond, hlast⟩ := perform_bind_ok.1 hothers
  cases hlast
  cases hdone
  obtain ⟨_, _, heq, hleft, hnames⟩ := fieldNames_cons_ok hnames
  cases heq
  obtain ⟨_, _, heq, hright, -⟩ := fieldNames_cons_ok hnames
  cases heq
  have hrequire : ∀ code, (Catalog.require code .cached).Only fun c => c.onHistorian = false := fun code =>
    only_mono (fun _ => Call.FindsChannels.not_onHistorian) (Catalog.require_within code).only
  rw [readMath, S.inquiries_bind_of_silent (only_mono (fun _ => Call.Locates.not_onHistorian) (equipmentFor_within _).only)
      hequipment,
    S.inquiries_bind_of_silent (only_mono (fun _ => Call.Locates.not_onHistorian) (Storage.routeRead_within _ _).only) hroute]
  dsimp only
  rw [S.inquiries_bind_of_silent (hrequire _) hfirst, S.inquiries_bind_of_silent (hrequire _) hsecond, hleft, hright]
  rfl

/-- the stored fields are asked for, and then the series of the combination -/
theorem readMath_inquiries {request : MathRequest} {left right : String}
    (h : Ready S service request.both s path [left, right] period) :
    ∃ query, (combinedDraft request path period left right).read = .ok query ∧
      S.inquiries (service.readMath request) s =
        [.historianRows (draftFor path request.wkeid).fieldKeys, .historianSeries query] := by
  obtain ⟨⟨definitions, s1, hlocate, hnames, hstored⟩, hperiod⟩ := h
  obtain ⟨rows, s2, hanswer, hall⟩ := hstored.resolve_left (by simp)
  have hboth : ((rows.filterMap fieldKeyOf).contains left && (rows.filterMap fieldKeyOf).contains right) = true := by
    rw [List.contains_iff_mem.2 (hall left (by simp)), List.contains_iff_mem.2 (hall right (by simp))]
    rfl
  obtain ⟨query, hquery⟩ : ∃ query, (combinedDraft request path period left right).read = .ok query :=
    combination_readable path request.wkeid period left right request.function
  refine ⟨query, hquery, ?_⟩
  have hgiven : request.period = some period := hperiod
  have hfields : (storedFields (draftFor path request.wkeid)).perform S.answer s1 = _ := storedFields_ok.2 ⟨rows, hanswer, rfl⟩
  rw [readMath_located hlocate hnames, answerCombined, hgiven]
  change S.inquiries (storedFields (draftFor path request.wkeid) >>= _) s1 = _
  rw [S.inquiries_bind_of_ok hfields, storedFields_inquiries, if_pos hboth, hquery]
  change [_] ++ S.inquiries (respond request.wkeid path period query) s2 = _
  rw [respond_inquiries]
  rfl

/-! ## The query in words and the query asked -/

/-- the words tell of a read: of the fields with these names, on a path, within a period -/
structure TellsRead (r : Query.Request) (request : ReadRequest) (path : Storage.Path) (names : List String)
    (period : Time.Period) : Prop where
  points : r.Tells request.wkeid path period
  fields : r.TellsFields names
  aggregation : Query.ReadsAs Query.Aggregation.read r.aggregation request.aggregation
  groupBy : Query.ReadsAs (Query.GroupBy.read · r.fill) r.groupBy request.groupBy
  episode : r.TellsEpisode request.episode

/-- the words tell of a combination: of these two fields, on a path, within a period, and of nothing else -/
structure TellsMath (r : Query.Request) (request : MathRequest) (path : Storage.Path) (left right : String)
    (period : Time.Period) : Prop where
  points : r.Tells request.wkeid path period
  math : ∃ text, r.math = some [left, text, right] ∧ Query.MathFunction.read text = .ok request.function
  aggregation : r.aggregation = none
  groupBy : r.groupBy = none
  episode : r.TellsEpisode none

theorem TellsRead.statement_eq {r : Query.Request} {request : ReadRequest} (h : TellsRead r request path names period) :
    r.statement = told (finalDraft request path period (Query.Request.selectionOf names)).read :=
  h.points.statement_eq (fun _ => Query.Request.selected_fields h.fields) h.aggregation h.groupBy h.episode

theorem TellsMath.statement_eq {r : Query.Request} {request : MathRequest} {left right : String}
    (h : TellsMath r request path left right period) :
    r.statement = told (combinedDraft request path period left right).read := by
  obtain ⟨text, hmath, hread⟩ := h.math
  have haggregation : Query.ReadsAs Query.Aggregation.read r.aggregation none := by
    rw [h.aggregation]
    trivial
  have hgroup : Query.ReadsAs (Query.GroupBy.read · r.fill) r.groupBy none := by
    rw [h.groupBy]
    trivial
  exact h.points.statement_eq (fun _ => Query.Request.selected_math hmath hread) haggregation hgroup h.episode

/-- what the words come to is what is shown -/
theorem shown_of_statement {r : Query.Request} {draft : Query.Draft} {query : Query.Statement}
    (h : r.statement = told draft.read) (hquery : draft.read = .ok query) (m : CommandLine.Machine) :
    r.statement = .ok query ∧ (CommandLine.OperatorTask.renderQuery r).run m = .ok (CommandLine.shownQuery query) := by
  have hstatement : r.statement = .ok query := by
    rw [h, hquery]
    rfl
  refine ⟨hstatement, ?_⟩
  rw [CommandLine.OperatorTask.run, hstatement]
  rfl

/-- **The query that is shown is the query that is asked.** Take collaborators of any behaviour, and a read that is located,
whose fields are all stored (all of the measurement, if it names no channels), and that gives its period. Words that tell of
the same path, equipment, fields, aggregation, period, grouping and episode come to a query, the operator's tool shows it, and
the read's last call on the historian asks this very query: same database, same text. So it is with two channels combined. -/
theorem shown_query_asked (S : Surroundings) (service : Service) (s : S.State) (m : CommandLine.Machine) (r : Query.Request)
    (path : Storage.Path) (period : Time.Period) :
    (∀ request names, Ready S service request s path names period → TellsRead r request path names period →
      ∃ query, r.statement = .ok query ∧
        (CommandLine.OperatorTask.renderQuery r).run m = .ok (CommandLine.shownQuery query) ∧
        S.inquiries (service.read request) s =
          (if names = [] then [] else [.historianRows (draftFor path request.wkeid).fieldKeys]) ++ [.historianSeries query]) ∧
    (∀ request left right, Ready S service (MathRequest.both request) s path [left, right] period →
      TellsMath r request path left right period →
      ∃ query, r.statement = .ok query ∧
        (CommandLine.OperatorTask.renderQuery r).run m = .ok (CommandLine.shownQuery query) ∧
        S.inquiries (service.readMath request) s =
          [.historianRows (draftFor path request.wkeid).fieldKeys, .historianSeries query]) := by
  constructor
  · intro request names hready htells
    obtain ⟨query, hquery, hinquiries⟩ := read_inquiries hready
    obtain ⟨hstatement, hshown⟩ := shown_of_statement htells.statement_eq hquery m
    exact ⟨query, hstatement, hshown, hinquiries⟩
  · intro request left right hready htells
    obtain ⟨query, hquery, hinquiries⟩ := readMath_inquiries hready
    obtain ⟨hstatement, hshown⟩ := shown_of_statement htells.statement_eq hquery m
    exact ⟨query, hstatement, hshown, hinquiries⟩

/-- the hourly mean of the pump's load in one episode -/
def hourlyLoad : ReadRequest where
  wkeid := "M1:S1"
  channels := ["load"]
  aggregation := some .mean
  period := some dayBefore
  groupBy := some ⟨"1h", .previous⟩
  episode := some (.id "E7")

def hourlyLoadInWords : Query.Request where
  database := "PUMP"
  measurement := "ACME"
  wkeid := some "M1:S1"
  fields := ["load.kW"]
  aggregation := some " Mean"
  start := some "2024-04-30"
  stop := some "2024-05-01T00:00:00Z"
  groupBy := some "1h "
  fill := some "PREVIOUS"
  episodeId := some "E7"

/-- the pump's load over itself -/
def loadRatio : MathRequest where
  wkeid := "M1:S1"
  left := "load"
  function := .divide
  right := "load"
  period := some dayBefore

def loadRatioInWords : Query.Request where
  database := "PUMP"
  measurement := "ACME"
  wkeid := some "M1:S1"
  math := some ["load.kW", "/", "load.kW"]
  start := some "2024-04-30"
  stop := some "2024-05-01T00:00:00Z"

theorem hourlyLoad_ready :
    Ready World.catalog.toSurroundings ⟨"ops", 24⟩ hourlyLoad loadedPlant ⟨"PUMP", "ACME", "E1"⟩ ["load.kW"] dayBefore where
  located := ⟨_, _, rfl, rfl, Or.inr ⟨_, _, rfl, by decide +kernel⟩⟩
  period := rfl

theorem hourlyLoadInWords_tells :
    TellsRead hourlyLoadInWords hourlyLoad ⟨"PUMP", "ACME", "E1"⟩ ["load.kW"] dayBefore where
  points :=
    { database := rfl, measurement := rfl, wkeid := rfl, showFieldKeys := rfl, latest := rfl,
      period := ⟨_, _, rfl, rfl, by decide +kernel⟩ }
  fields := ⟨rfl, Or.inr ⟨by decide, rfl, rfl⟩⟩
  aggregation := show Query.Aggregation.read " Mean" = .ok .mean by decide +kernel
  groupBy := show Query.GroupBy.read "1h " (some "PREVIOUS") = .ok ⟨"1h", .previous⟩ by decide +kernel
  episode := rfl

theorem loadRatio_ready :
    Ready World.catalog.toSurroundings ⟨"ops", 24⟩ loadRatio.both loadedPlant ⟨"PUMP", "ACME", "E1"⟩ ["load.kW", "load.kW"]
      dayBefore where
  located := ⟨_, _, rfl, rfl, Or.inr ⟨_, _, rfl, by decide +kernel⟩⟩
  period := rfl

theorem loadRatioInWords_tells :
    TellsMath loadRatioInWords loadRatio ⟨"PUMP", "ACME", "E1"⟩ "load.kW" "load.kW" dayBefore where
  points :=
    { database := rfl, measurement := rfl, wkeid := rfl, showFieldKeys := rfl, latest := rfl,
      period := ⟨_, _, rfl, rfl, by decide +kernel⟩ }
  math := ⟨"/", rfl, by decide +kernel⟩
  aggregation := rfl
  groupBy := rfl
  episode := ⟨rfl, rfl⟩

/-- a machine without files and variables -/
def bareMachine : CommandLine.Machine := ⟨fun _ => none, fun _ => none⟩

/-- the hourly mean of the load, and its ratio to itself: each is asked last as it is shown -/
theorem shown_query_asked_load :
    hourlyLoadInWords.statement.map (·.text) = .ok
      ("SELECT mean(\"load.kW\") AS \"mean_load.kW\" FROM \"ACME\" WHERE EquipmentInstance='M1:S1' AND Episode='E7'" ++
        " AND time >= 1714435200000000000 AND time <= 1714521600000000000 GROUP BY time(1h) FILL(previous)") ∧
    ∃ mean ratio : Query.Statement,
      (CommandLine.OperatorTask.renderQuery hourlyLoadInWords).run bareMachine = .ok (CommandLine.shownQuery mean) ∧
      (World.catalog.inquiries ((⟨"ops", 24⟩ : Service).read hourlyLoad) loadedPlant).getLast? = some (.historianSeries mean) ∧
      (CommandLine.OperatorTask.renderQuery loadRatioInWords).run bareMachine = .ok (CommandLine.shownQuery ratio) ∧
      (World.catalog.inquiries ((⟨"ops", 24⟩ : Service).readMath loadRatio) loadedPlant).getLast? =
        some (.historianSeries ratio) := by
  obtain ⟨mean, -, hshown, hasked⟩ := (shown_query_asked World.catalog.toSurroundings ⟨"ops", 24⟩ loadedPlant bareMachine
    hourlyLoadInWords _ _).1 hourlyLoad _ hourlyLoad_ready hourlyLoadInWords_tells
  obtain ⟨ratio, -, hshown', hasked'⟩ := (shown_query_asked World.catalog.toSurroundings ⟨"ops", 24⟩ loadedPlant bareMachine
    loadRatioInWords _ _).2 loadRatio _ _ loadRatio_ready loadRatioInWords_tells
  refine ⟨by decide +kernel, mean, ratio, hshown, ?_, hshown', ?_⟩
  · rw [hasked]
    rfl
  · rw [hasked']
    rfl

end Service

end Telemetry
