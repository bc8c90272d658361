import Telemetry.Proofs.Query.Scan
/-
What a rendered query says: its quoted parts, in order, and the text around them.

`Draft.tokens` and `Draft.skeleton` are read off a draft without rendering it. The first lists the names and values that the
query is to quote, the second is the text with the quoted parts left out; it is made of words of the language, numbers and
an interval alone.

- `composed_columns`: the selected columns, put together from their quoted parts;
- `verbatim_columnTokens`: which of these parts are read as they are;
- `read_ok_iff`: which drafts have a query;
- `composed_read`: a query, put together from the tokens of its draft;
- `tells_of_read`: a query runs on the database of its draft and says what the draft says;
- `read_tokens`: a query quotes exactly the tokens of its draft, and says no more around them than its skeleton.
-/
namespace Telemetry.Query

open Channel (decodeFieldName)
open Text (joinWith)

/-! ## What a query is to say -/

/-- the names in a selection -/
def Selection.names : Selection → List String
  | .field name => [name]
  | .fields names => names
  | .allFields => []
  | .math left _ right => [left, right]

def resultName (left : String) (function : MathFunction) (right : String) : String :=
  (decodeFieldName left).code ++ "_" ++ function.name ++ "_" ++ (decodeFieldName right).code

/-- a field, followed by its alias when aggregated -/
def fieldTokens (aggregation : Option Aggregation) (name : String) : List Token :=
  match aggregation with
  | none => [.identifier name]
  | some f => [.identifier name, .identifier (f.name ++ "_" ++ name)]

/-- what is around the quoted parts of a field -/
def fieldSkeleton (aggregation : Option Aggregation) : String :=
  match aggregation with
  | none => ""
  | some f => f.name ++ "() AS "

namespace Draft

/-- the fields to show: the episode tag comes last when episodes are asked for and raw points are shown without it -/
def shownNames (d : Draft) (names : List String) : List String :=
  if d.aggregation = none ∧ d.episode.isSome ∧ episodeTag ∉ names then names ++ [episodeTag] else names

/-- the quoted parts of the columns -/
def columnTokens (d : Draft) : List Token :=
  match d.selection with
  | some (.field name) => (d.shownNames [name]).flatMap (fieldTokens d.aggregation)
  | some (.fields names) => (d.shownNames names).flatMap (fieldTokens d.aggregation)
  | some (.math left function right) =>
    [.identifier left, .identifier right, .identifier (resultName left function right)]
  | some .allFields | none => []

/-- what is around the quoted parts of the columns -/
def columnSkeleton (d : Draft) : String :=
  match d.selection with
  | some (.field name) => joinWith "," ((d.shownNames [name]).map fun _ => fieldSkeleton d.aggregation)
  | some (.fields names) => joinWith "," ((d.shownNames names).map fun _ => fieldSkeleton d.aggregation)
  | some (.math _ function _) => " " ++ function.operator ++ " " ++ " AS "
  | some .allFields =>
    match d.aggregation with
    | none => "*"
    | some f => f.name ++ "(*)"
  | none => ""

/-- the episode that the query is about, if it is one -/
def episodeTokens (d : Draft) : List Token :=
  match d.episode with
  | some (.id episode) => [.value episode]
  | _ => []

def episodeSkeleton (d : Draft) : String :=
  match d.episode with
  | some (.id _) => " AND " ++ episodeTag ++ "="
  | _ => ""

/-- the quoted parts of the query: columns, measurement, equipment and episode -/
def tokens (d : Draft) : List Token :=
  d.columnTokens ++ [.identifier d.measurement] ++ d.instanceId.toList.map Token.value ++ d.episodeTokens

/-- what is around the quoted parts of the query -/
def skeleton (d : Draft) : String :=
  "SELECT " ++ d.columnSkeleton ++ " FROM " ++ " WHERE " ++ "EquipmentInstance=" ++ d.episodeSkeleton ++ d.periodClause
    ++ d.groupClause

/-- the draft has all that a query needs, and no more than a query can say -/
structure Complete (d : Draft) : Prop where
  instanceId : ∃ wkeid, d.instanceId = some wkeid
  selection : ∃ selection, d.selection = some selection ∧ selection ≠ .fields [] ∧
    ∀ left function right, selection = .math left function right → d.aggregation = none

/-! ## Which drafts have a query -/

theorem fieldColumns_ok_iff {d : Draft} {names : List String} :
    (∃ columns, d.fieldColumns names = .ok columns) ↔ names ≠ [] := by
  unfold fieldColumns
  cases names with
  | nil => simp
  | cons name names => simp

theorem columns_ok_iff {d : Draft} :
    (∃ columns, d.columns = .ok columns) ↔ ∃ selection, d.selection = some selection ∧ selection ≠ .fields [] ∧
      ∀ left function right, selection = .math left function right → d.aggregation = none := by
  unfold columns
  rcases hselection : d.selection with _ | (name | names | _ | ⟨left, function, right⟩)
  · simp
  · simp [fieldColumns_ok_iff]
  · simp [fieldColumns_ok_iff]
  · cases d.aggregation <;> simp
  · cases d.aggregation <;> simp

theorem instanceFilter_ok_iff {d : Draft} :
    (∃ filter, d.instanceFilter = .ok filter) ↔ ∃ wkeid, d.instanceId = some wkeid := by
  unfold instanceFilter
  cases d.instanceId <;> simp

/-- a draft has a query exactly if it is complete -/
theorem read_ok_iff {d : Draft} : (∃ query, d.read = .ok query) ↔ d.Complete := by
  constructor
  · rintro ⟨query, h⟩
    obtain ⟨columns, hcolumns, hrest⟩ := bind_eq_ok_iff.1 h
    obtain ⟨filter, hfilter, -⟩ := bind_eq_ok_iff.1 hrest
    exact ⟨instanceFilter_ok_iff.1 ⟨filter, hfilter⟩, columns_ok_iff.1 ⟨columns, hcolumns⟩⟩
  · intro h
    obtain ⟨columns, hcolumns⟩ := columns_ok_iff.2 h.selection
    obtain ⟨filter, hfilter⟩ := instanceFilter_ok_iff.2 h.instanceId
    exact ⟨_, bind_eq_ok_iff.2 ⟨columns, hcolumns, bind_eq_ok_iff.2 ⟨filter, hfilter, rfl⟩⟩⟩

/-! ## Columns -/

/-- a field, and its alias after it -/
theorem composed_fieldColumn (aggregation : Option Aggregation) (name : String) :
    Composed (fieldColumn aggregation name) (fieldTokens aggregation name) (fieldSkeleton aggregation) := by
  cases aggregation with
  | none => exact .name name
  | some f =>
    have hname : Composed (f.name ++ "(" ++ quoteIdentifier name) _ _ :=
      ((Composed.plain f.plain_name).append (.plain (by decide))).append (.name name)
    have hcolumn := (hname.append (.plain (by decide : Plain ") AS ".toList))).append (.name (f.name ++ "_" ++ name))
    simpa [fieldColumn, fieldTokens, fieldSkeleton, String.append_assoc] using hcolumn

theorem fieldColumns_ok {d : Draft} {names : List String} {columns : String} (h : d.fieldColumns names = .ok columns) :
    columns = joinWith "," ((d.shownNames names).map (fieldColumn d.aggregation)) := by
  unfold fieldColumns at h
  split at h
  · cases h
  · cases h
    unfold shownNames
    -- where the tag is shown there is no aggregation, so a quoted name is a column like the others
    by_cases hshown : d.aggregation = none ∧ d.episode.isSome ∧ episodeTag ∉ names
    · obtain ⟨hraw, hepisode, htag⟩ := hshown
      simp [hraw, hepisode, htag, fieldColumn]
    · have hhidden : (d.aggregation.isNone && d.episode.isSome && !names.contains episodeTag) = false := by
        rw [Bool.eq_false_iff]
        intro hall
        simp only [Bool.and_eq_true, Option.isNone_iff_eq_none, Bool.not_eq_true', List.contains_eq_mem,
          decide_eq_false_iff_not] at hall
        exact hshown ⟨hall.1.1, hall.1.2, hall.2⟩
      rw [if_neg hshown, hhidden]
      rfl

/-- the columns of a list of fields -/
theorem composed_fieldColumns {d : Draft} {names : List String} {columns : String} (h : d.fieldColumns names = .ok columns) :
    Composed columns ((d.shownNames names).flatMap (fieldTokens d.aggregation))
      (joinWith "," ((d.shownNames names).map fun _ => fieldSkeleton d.aggregation)) := by
  rw [fieldColumns_ok h]
  exact Composed.join (by decide) fun name _ => composed_fieldColumn d.aggregation name

/-- arithmetic: both fields, and the name of the result after them -/
theorem composed_mathColumn (left : String) (function : MathFunction) (right : String) :
    Composed (mathColumn left function right)
      [.identifier left, .identifier right, .identifier (resultName left function right)]
      (" " ++ function.operator ++ " " ++ " AS ") := by
  have hspace : Composed " " [] " " := .plain (by decide)
  have hoperator := ((Composed.name left).append hspace).append (.plain function.plain_operator)
  have hoperands := (hoperator.append hspace).append (.name right)
  have hcolumn := (hoperands.append (.plain (by decide : Plain " AS ".toList))).append (.name (resultName left function right))
  simpa [mathColumn, resultName, String.append_assoc] using hcolumn

/-- the selected columns -/
theorem composed_columns {d : Draft} {columns : String} (h : d.columns = .ok columns) :
    Composed columns d.columnTokens d.columnSkeleton := by
  unfold Draft.columns at h
  unfold columnTokens columnSkeleton
  rcases hselection : d.selection with _ | (name | names | _ | ⟨left, function, right⟩)
  · rw [hselection] at h
    cases h
  · rw [hselection] at h
    exact composed_fieldColumns h
  · rw [hselection] at h
    exact composed_fieldColumns h
  · rw [hselection] at h
    cases haggregation : d.aggregation with
    | none =>
      rw [haggregation] at h
      obtain rfl := Except.ok.inj h
      exact .plain (by decide)
    | some f =>
      rw [haggregation] at h
      obtain rfl := Except.ok.inj h
      exact (Composed.plain f.plain_name).append (.plain (by decide : Plain "(*)".toList))
  · rw [hselection] at h
    cases haggregation : d.aggregation with
    | none =>
      rw [haggregation] at h
      obtain rfl := Except.ok.inj h
      exact composed_mathColumn left function right
    | some f =>
      rw [haggregation] at h
      cases h

/-! ## Names without backslashes -/

theorem verbatim_fieldTokens (aggregation : Option Aggregation) {name : String} (h : '\\' ∉ name.toList) :
    ∀ t ∈ fieldTokens aggregation name, t.Verbatim := by
  cases aggregation with
  | none => simpa [fieldTokens, verbatim_identifier_iff] using h
  | some f =>
    have hf : '\\' ∉ f.name.toList := by cases f <;> decide
    simp [fieldTokens, verbatim_identifier_iff, String.toList_append, h, hf]

theorem verbatim_shownNames {d : Draft} {names : List String} (h : ∀ name ∈ names, '\\' ∉ name.toList) :
    ∀ t ∈ (d.shownNames names).flatMap (fieldTokens d.aggregation), t.Verbatim := by
  intro t ht
  obtain ⟨name, hname, ht⟩ := List.mem_flatMap.1 ht
  refine verbatim_fieldTokens d.aggregation ?_ t ht
  unfold shownNames at hname
  split at hname
  · rcases List.mem_append.1 hname with hname | hname
    · exact h name hname
    · rw [List.mem_singleton.1 hname]
      decide
  · exact h name hname

theorem verbatim_resultName {left right : String} (function : MathFunction) (hleft : '\\' ∉ left.toList)
    (hright : '\\' ∉ right.toList) : '\\' ∉ (resultName left function right).toList := by
  have hfunction : '\\' ∉ function.name.toList := by cases function <;> decide
  have hleft' : '\\' ∉ (decodeFieldName left).code.toList := fun hc => hleft (Channel.mem_of_mem_code hc)
  have hright' : '\\' ∉ (decodeFieldName right).code.toList := fun hc => hright (Channel.mem_of_mem_code hc)
  simp [resultName, String.toList_append, hfunction, hleft', hright']

/-- aliases and results have no backslash that no selected field has -/
theorem verbatim_columnTokens {d : Draft}
    (h : ∀ selection, d.selection = some selection → ∀ name ∈ selection.names, '\\' ∉ name.toList) :
    ∀ t ∈ d.columnTokens, t.Verbatim := by
  unfold columnTokens
  rcases hselection : d.selection with _ | (name | names | _ | ⟨left, function, right⟩)
  · simp
  · exact verbatim_shownNames (h _ hselection)
  · exact verbatim_shownNames (h _ hselection)
  · simp
  · have hleft := h _ hselection left (by simp [Selection.names])
    have hright := h _ hselection right (by simp [Selection.names])
    simp [verbatim_identifier_iff, hleft, hright, verbatim_resultName function hleft hright]

/-! ## Clauses -/

theorem composed_instanceFilter {d : Draft} {filter : String} (h : d.instanceFilter = .ok filter) :
    Composed filter (d.instanceId.toList.map Token.value) "EquipmentInstance=" := by
  unfold instanceFilter at h
  cases hid : d.instanceId with
  | none => rw [hid] at h; cases h
  | some wkeid =>
    rw [hid] at h
    obtain rfl := Except.ok.inj h
    have hfilter := (Composed.plain (by decide : Plain "EquipmentInstance=".toList)).append (.value wkeid)
    simpa using hfilter

theorem verbatim_instanceId (d : Draft) : ∀ t ∈ d.instanceId.toList.map Token.value, t.Verbatim := by
  intro t ht
  obtain ⟨wkeid, -, rfl⟩ := List.mem_map.1 ht
  exact verbatim_value wkeid

theorem composed_episodeClause (d : Draft) : Composed d.episodeClause d.episodeTokens d.episodeSkeleton := by
  unfold episodeClause episodeTokens episodeSkeleton
  rcases d.episode with _ | (_ | episode)
  · exact .plain (by decide)
  · exact .plain (by decide)
  · have htag : Plain (" AND " ++ episodeTag ++ "=").toList := by decide
    have hclause := (Composed.plain htag).append (.value episode)
    simpa using hclause

theorem verbatim_episodeTokens (d : Draft) : ∀ t ∈ d.episodeTokens, t.Verbatim := by
  unfold episodeTokens
  rcases d.episode with _ | (_ | episode)
  · simp
  · simp
  · simpa using verbatim_value episode

theorem plain_periodClause (d : Draft) : Plain d.periodClause.toList := by
  unfold periodClause
  cases d.period with
  | none => decide
  | some p =>
    simp only [String.toList_append]
    exact (((by decide : Plain " AND time >= ".toList).append (Decimal.plain_int _)).append (by decide)).append
      (Decimal.plain_int _)

theorem plain_groupClause {d : Draft} (h : ∀ g, d.groupBy = some g → g.Made) : Plain d.groupClause.toList := by
  unfold groupClause
  cases hgroup : d.groupBy with
  | none => decide
  | some g =>
    have hinterval := plain_of_isInterval (h g hgroup).isInterval
    simp only [String.toList_append]
    exact ((((by decide : Plain " GROUP BY time(".toList).append hinterval).append (by decide)).append
      g.fill.plain_token).append (by decide)

/-! ## The query -/

variable {d : Draft} {query : Statement}

/-- up to its grouping, a query is put together from the tokens of its draft, with the skeleton around them -/
theorem composed_body (h : d.read = .ok query) : ∃ body skeleton, query.text = body ++ d.groupClause ∧
    d.skeleton = skeleton ++ d.groupClause ∧ Composed body d.tokens skeleton := by
  obtain ⟨columns, hcolumns, hrest⟩ := bind_eq_ok_iff.1 h
  obtain ⟨filter, hfilter, hquery⟩ := bind_eq_ok_iff.1 hrest
  cases hquery
  have hselect : Composed ("SELECT " ++ columns) _ _ := (Composed.plain (by decide)).append (composed_columns hcolumns)
  have hfrom := (hselect.append (.plain (by decide : Plain " FROM ".toList))).append (.name d.measurement)
  have hwhere := (hfrom.append (.plain (by decide : Plain " WHERE ".toList))).append (composed_instanceFilter hfilter)
  have hclauses := (hwhere.append d.composed_episodeClause).append (.plain d.plain_periodClause)
  refine ⟨_, _, rfl, ?_, by simpa [tokens] using hclauses⟩
  simp [skeleton, String.append_assoc]

/-- a query is put together from the tokens of its draft, with its skeleton around them -/
theorem composed_read (hgroup : ∀ g, d.groupBy = some g → g.Made) (h : d.read = .ok query) :
    Composed query.text d.tokens d.skeleton := by
  obtain ⟨body, skeleton, htext, hskeleton, hbody⟩ := composed_body h
  have hall := hbody.append (.plain (plain_groupClause hgroup))
  rwa [← htext, ← hskeleton, List.append_nil] at hall

/-- the names in a query have no backslash if the measurement and the selected fields have none -/
theorem verbatim_tokens (hmeasurement : '\\' ∉ d.measurement.toList)
    (hnames : ∀ selection, d.selection = some selection → ∀ name ∈ selection.names, '\\' ∉ name.toList) :
    ∀ t ∈ d.tokens, t.Verbatim := by
  unfold tokens
  simp only [List.forall_mem_append, List.forall_mem_singleton, verbatim_identifier_iff]
  exact ⟨⟨⟨verbatim_columnTokens hnames, hmeasurement⟩, d.verbatim_instanceId⟩, d.verbatim_episodeTokens⟩

/-- where no name has a backslash, a scan of a query finds the tokens of its draft and the skeleton -/
theorem scan_read (hgroup : ∀ g, d.groupBy = some g → g.Made) (h : d.read = .ok query)
    (hmeasurement : '\\' ∉ d.measurement.toList)
    (hnames : ∀ selection, d.selection = some selection → ∀ name ∈ selection.names, '\\' ∉ name.toList) :
    scan query.text = ⟨.outside, d.tokens, d.skeleton.toList⟩ :=
  ((composed_read hgroup h).reads (verbatim_tokens hmeasurement hnames)).scan

/-- the query runs on the draft's database and says what the draft says: up to the grouping it is put together from the
draft's tokens with the skeleton around them, and if no name in it has a backslash, this is what a scan finds -/
structure Tells (d : Draft) (query : Statement) : Prop where
  database : query.database = d.database
  composed : ∃ body skeleton, query.text = body ++ d.groupClause ∧ d.skeleton = skeleton ++ d.groupClause ∧
    Composed body d.tokens skeleton
  scanned : (∀ g, d.groupBy = some g → g.Made) → '\\' ∉ d.measurement.toList →
    (∀ selection, d.selection = some selection → ∀ name ∈ selection.names, '\\' ∉ name.toList) →
    scan query.text = ⟨.outside, d.tokens, d.skeleton.toList⟩

theorem database_of_read (h : d.read = .ok query) : query.database = d.database := by
  obtain ⟨columns, -, hrest⟩ := bind_eq_ok_iff.1 h
  obtain ⟨filter, -, hquery⟩ := bind_eq_ok_iff.1 hrest
  cases hquery
  rfl

theorem tells_of_read (h : d.read = .ok query) : d.Tells query :=
  ⟨database_of_read h, composed_body h, fun hgroup => scan_read hgroup h⟩

/-- without aggregation and episodes, the quoted parts of a query are the selected fields, the measurement and the equipment -/
theorem tokens_of_raw {selection : Selection} {wkeid : String} (hselection : d.selection = some selection)
    (hmath : ∀ left function right, selection ≠ .math left function right) (hraw : d.aggregation = none)
    (hepisode : d.episode = none) (hid : d.instanceId = some wkeid) :
    d.tokens = selection.names.map Token.identifier ++ [.identifier d.measurement, .value wkeid] := by
  have hfields (names : List String) :
      (d.shownNames names).flatMap (fieldTokens d.aggregation) = names.map Token.identifier := by
    have hshown : d.shownNames names = names := by simp [shownNames, hepisode]
    rw [hshown, hraw, List.map_eq_flatMap]
    rfl
  have hcolumns : d.columnTokens = selection.names.map Token.identifier := by
    unfold columnTokens
    rw [hselection]
    cases selection with
    | field name => exact hfields [name]
    | fields names => exact hfields names
    | allFields => rfl
    | math left function right => exact absurd rfl (hmath left function right)
  rw [tokens, hcolumns, hid, episodeTokens, hepisode]
  simp

/-- a query with a period ends with it, but for the grouping -/
theorem period_of_read {p : Time.Period} (hp : d.period = some p) (h : d.read = .ok query) : ∃ before, query.text =
    before ++ " AND time >= " ++ toString p.startNanos ++ " AND time <= " ++ toString p.stopNanos ++ d.groupClause := by
  obtain ⟨columns, -, hrest⟩ := bind_eq_ok_iff.1 h
  obtain ⟨filter, -, hquery⟩ := bind_eq_ok_iff.1 hrest
  cases hquery
  refine ⟨"SELECT " ++ columns ++ " FROM " ++ quoteIdentifier d.measurement ++ " WHERE " ++ filter ++ d.episodeClause, ?_⟩
  simp [periodClause, hp, String.append_assoc]

/-- the query for the latest point is put together from the measurement and the equipment, in words of its own -/
theorem composed_latest {wkeid : String} (hid : d.instanceId = some wkeid) (h : d.latest = .ok query) :
    query.database = d.database ∧ Composed query.text [.identifier d.measurement, .value wkeid]
      "SELECT * FROM  WHERE EquipmentInstance= ORDER BY time DESC LIMIT 1" := by
  obtain ⟨filter, hfilter, hquery⟩ := bind_eq_ok_iff.1 h
  cases hquery
  have hfrom := (Composed.plain (by decide : Plain "SELECT * FROM ".toList)).append (.name d.measurement)
  have hwhere := (hfrom.append (.plain (by decide : Plain " WHERE ".toList))).append (composed_instanceFilter hfilter)
  have hall := hwhere.append (.plain (by decide : Plain " ORDER BY time DESC LIMIT 1".toList))
  rw [hid] at hall
  exact ⟨rfl, by simpa using hall⟩

/-- the query for the names of stored fields is put together from the measurement, in words of its own -/
theorem composed_fieldKeys (d : Draft) :
    Composed d.fieldKeys.text [.identifier d.measurement] "SHOW FIELD KEYS FROM " := by
  have hwords : Composed "SHOW FIELD KEYS FROM " [] "SHOW FIELD KEYS FROM " := .plain (by decide)
  simpa [fieldKeys] using hwords.append (.name d.measurement)

/-- **A query says what its draft says.** There is a query exactly if the draft is complete. If the measurement and the
selected fields have no backslash in their names, a scan of the query ends outside quotes, its tokens are the names and
values of the draft, each in its place and as it is, and around them stands the draft's skeleton, in which no name and no
value occurs. -/
theorem read_tokens (d : Draft) (hgroup : ∀ g, d.groupBy = some g → g.Made) :
    ((∃ query, d.read = .ok query) ↔ d.Complete) ∧
    ∀ query, d.read = .ok query → '\\' ∉ d.measurement.toList →
      (∀ selection, d.selection = some selection → ∀ name ∈ selection.names, '\\' ∉ name.toList) →
      scan query.text = ⟨.outside, d.tokens, d.skeleton.toList⟩ := by
  exact ⟨read_ok_iff, fun query h => scan_read hgroup h⟩

/-- a draft with quotes and backslashes where they may be -/
def quotedDraft : Draft :=
  { database := "plant", measurement := "odd\"name", instanceId := some "1:' OR '\\", selection := some (.field "a\"b"),
    aggregation := some .mean, episode := some (.id "\\'"), groupBy := some ⟨"5m", .previous⟩ }

/-- none of its names and values gets out of its quotes -/
theorem read_tokens_quotedDraft :
    (∀ g, quotedDraft.groupBy = some g → g.Made) ∧
    ∃ query, quotedDraft.read = .ok query ∧ (scan query.text).state = .outside ∧
      (scan query.text).tokens =
        [.identifier "a\"b", .identifier "mean_a\"b", .identifier "odd\"name", .value "1:' OR '\\", .value "\\'"] := by
  have hgroup : ∀ g, quotedDraft.groupBy = some g → g.Made := by
    intro g hg
    cases hg
    exact Or.inr ⟨" 5m", some "Previous", rfl⟩
  obtain ⟨hcomplete, hscan⟩ := read_tokens quotedDraft hgroup
  obtain ⟨query, hquery⟩ := hcomplete.2 ⟨⟨_, rfl⟩, _, rfl, by simp, by simp⟩
  have hread := hscan query hquery (by decide) fun selection hselection name hname => by
    cases hselection
    rw [List.mem_singleton.1 hname]
    decide
  refine ⟨hgroup, query, hquery, ?_, ?_⟩
  · rw [hread]
  · rw [hread]
    decide

end Draft

end Telemetry.Query
