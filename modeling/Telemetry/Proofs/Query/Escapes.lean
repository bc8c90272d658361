import Mathlib.Algebra.GroupWithZero.Nat
import Telemetry.Proofs.Query.Rendering
/-
Which names stay inside their quotes.

In a name a backslash stands before a quote to keep it inside, but none before a backslash that the name itself has. So a scan
takes such a backslash for an escape: it takes fewer characters of the name than the name has, or leaves the token early, or
never.

The proof counts characters. A scan reads a character of a token in one step, or in two if it is a quote of the token's kind
or a backslash (`Token.cost`), so it can come to have read no more than there are characters (`scan_cost`). A name that is
written with fewer characters than that is not read as what it is.

- `scan_cost`: a scan pays for all it has read;
- `Composed.length_add`: what quoted names lack is one character for each backslash in them;
- `Composed.scan_eq_iff`: which texts are read as what they stand for;
- `names_closed_iff`: the names in queries that stay in their quotes are those without a backslash;
- `trailing_words_outside`: a name of which a part is read as text of the query.
-/
namespace Telemetry.Query

/-! ## What a scan pays -/

/-- the characters it takes to read a character of a token: a quote or a backslash is read after a backslash -/
def charCost (quote c : Char) : Nat := if c = '\\' ∨ c = quote then 2 else 1

/-- the characters it takes to read the content of a token -/
def Token.cost (t : Token) : Nat := (t.content.map (charCost t.quote)).sum

/-- what a scan has paid for the token it stands in -/
def ScanState.cost : ScanState → Nat
  | .outside => 0
  | .inside t => t.cost + 1
  | .escaped t => t.cost + 2

/-- what a scan has paid: tokens with both their quotes, the text around them, and the token it stands in -/
def Scan.cost (s : Scan) : Nat :=
  (s.tokens.map fun t => t.cost + 2).sum + s.skeleton.length + s.state.cost

theorem Token.cost_push (t : Token) (c : Char) : (t.push c).cost = t.cost + charCost t.quote c := by
  simp [Token.cost, Token.push]

theorem charCost_le (quote c : Char) : charCost quote c ≤ 2 := by
  unfold charCost
  split <;> omega

/-- a step pays one character at most -/
theorem Scan.next_cost (s : Scan) (c : Char) : (s.next c).cost ≤ s.cost + 1 := by
  unfold Scan.next
  cases hstate : s.state with
  | outside =>
    by_cases hquote : c = '"' ∨ c = '\''
    · simp [Scan.cost, hstate, hquote, ScanState.cost, Token.cost]
    · simp [Scan.cost, hstate, hquote, ScanState.cost]
      omega
  | inside t =>
    by_cases hescape : c = '\\'
    · simp [Scan.cost, hstate, hescape, ScanState.cost]
      omega
    · by_cases hquote : c = t.quote
      · subst hquote
        simp [Scan.cost, hstate, hescape, ScanState.cost]
        omega
      · simp [Scan.cost, hstate, hescape, hquote, ScanState.cost, Token.cost_push, charCost]
        omega
  | escaped t =>
    have hc := charCost_le t.quote c
    simp [Scan.cost, hstate, ScanState.cost, Token.cost_push]
    omega

theorem Scan.foldl_cost (cs : List Char) (s : Scan) : (cs.foldl Scan.next s).cost ≤ s.cost + cs.length := by
  induction cs generalizing s with
  | nil => simp
  | cons c cs ih =>
    have hstep := s.next_cost c
    have hrest := ih (s.next c)
    rw [List.foldl_cons, List.length_cons]
    omega

/-- a scan pays for all it has read -/
theorem scan_cost (text : String) : (scan text).cost ≤ text.toList.length := by
  have h := Scan.foldl_cost text.toList {}
  simpa [scan, Scan.cost, ScanState.cost] using h

/-! ## What is written -/

/-- the characters that are missing in a quoted token: a backslash before each backslash of a name -/
def Token.missing (t : Token) : Nat := if t.quote = '"' then t.content.count '\\' else 0

theorem Token.missing_eq_zero_iff {t : Token} : t.missing = 0 ↔ t.Verbatim := by
  unfold Token.missing Token.Verbatim
  split
  · rename_i hquote
    simp [hquote, List.count_eq_zero]
  · rename_i hquote
    simp [hquote]

theorem length_identifier_add (cs : List Char) :
    (cs.flatMap identifierChar).length + cs.count '\\' = (cs.map (charCost '"')).sum := by
  induction cs with
  | nil => rfl
  | cons c cs ih =>
    rw [List.flatMap_cons, List.length_append, List.map_cons, List.sum_cons, ← ih]
    by_cases hescape : c = '\\'
    · subst hescape
      simp [identifierChar, charCost]
      omega
    · by_cases hquote : c = '"'
      · subst hquote
        simp [identifierChar, charCost]
        omega
      · simp [identifierChar, charCost, hescape, hquote]
        omega

theorem length_value (cs : List Char) : (cs.flatMap valueChar).length = (cs.map (charCost '\'')).sum := by
  induction cs with
  | nil => rfl
  | cons c cs ih =>
    rw [List.flatMap_cons, List.length_append, List.map_cons, List.sum_cons, ← ih]
    by_cases hescape : c = '\\'
    · simp [valueChar, charCost, hescape]
    · by_cases hquote : c = '\''
      · simp [valueChar, charCost, hquote]
      · simp [valueChar, charCost, hescape, hquote]

variable {text skeleton : String} {tokens : List Token}

/-- a text put together from its pieces has the characters it takes to read them, but for those that are missing in names -/
theorem Composed.length_add (h : Composed text tokens skeleton) :
    text.toList.length + (tokens.map Token.missing).sum =
      (tokens.map fun t => t.cost + 2).sum + skeleton.toList.length := by
  induction h with
  | plain h => simp
  | name name =>
    have hname := length_identifier_add name.toList
    simp only [quoteIdentifier, String.toList_ofList, List.length_append, List.length_cons, List.length_nil, Token.missing,
      Token.cost, Token.identifier, List.map_cons, List.map_nil, List.sum_cons, List.sum_nil, if_true, String.toList_empty]
    omega
  | value value =>
    have hvalue := length_value value.toList
    have hmissing : (Token.value value).missing = 0 := Token.missing_eq_zero_iff.2 (verbatim_value value)
    simp only [quoteValue, String.toList_ofList, List.length_append, List.length_cons, List.length_nil, Token.cost,
      Token.value, List.map_cons, List.map_nil, List.sum_cons, List.sum_nil, String.toList_empty] at hmissing ⊢
    omega
  | append _ _ ih1 ih2 =>
    simp only [String.toList_append, List.length_append, List.map_append, List.sum_append]
    omega

/-- a text put together from its pieces is read as what they stand for exactly if no name in it has a backslash -/
theorem Composed.scan_eq_iff (h : Composed text tokens skeleton) :
    scan text = ⟨.outside, tokens, skeleton.toList⟩ ↔ ∀ t ∈ tokens, t.Verbatim := by
  constructor
  · intro hscan
    have hpaid := scan_cost text
    have hwritten := h.length_add
    simp only [hscan, Scan.cost, ScanState.cost] at hpaid
    have hmissing : (tokens.map Token.missing).sum = 0 := by omega
    intro t ht
    apply Token.missing_eq_zero_iff.1
    exact List.sum_eq_zero_iff_forall_eq_nat.1 hmissing _ (List.mem_map_of_mem ht)
  · intro hnames
    exact (h.reads hnames).scan

/-- a quoted name is one token, from the first character to the last, exactly if it has no backslash -/
theorem scan_quoteIdentifier_iff (name : String) :
    scan (quoteIdentifier name) = ⟨.outside, [.identifier name], []⟩ ↔ '\\' ∉ name.toList := by
  have h := (Composed.name name).scan_eq_iff
  simpa [verbatim_identifier_iff] using h

/-! ## Queries -/

namespace Draft

variable {d : Draft} {query : Statement}

/-- a selected name is one of those that are quoted in the columns -/
theorem identifier_mem_columnTokens {selection : Selection} (h : d.selection = some selection) {name : String}
    (hname : name ∈ selection.names) : Token.identifier name ∈ d.columnTokens := by
  have hfield (names : List String) (hnames : name ∈ names) :
      Token.identifier name ∈ (d.shownNames names).flatMap (fieldTokens d.aggregation) := by
    refine List.mem_flatMap.2 ⟨name, ?_, ?_⟩
    · unfold shownNames
      split
      · exact List.mem_append_left _ hnames
      · exact hnames
    · cases d.aggregation <;> simp [fieldTokens]
  unfold columnTokens
  rw [h]
  cases selection with
  | field other => exact hfield [other] hname
  | fields names => exact hfield names hname
  | allFields => cases hname
  | math left function right =>
    have hside : name = left ∨ name = right := by simpa [Selection.names] using hname
    rcases hside with rfl | rfl
    · exact List.mem_cons_self
    · exact List.mem_cons_of_mem _ List.mem_cons_self

/-- the names in a query have no backslash if the measurement and the selected fields have none -/
theorem verbatim_tokens_iff (d : Draft) : (∀ t ∈ d.tokens, t.Verbatim) ↔ '\\' ∉ d.measurement.toList ∧
    ∀ selection, d.selection = some selection → ∀ name ∈ selection.names, '\\' ∉ name.toList := by
  constructor
  · intro h
    simp only [tokens, List.forall_mem_append, List.forall_mem_singleton, verbatim_identifier_iff] at h
    obtain ⟨⟨⟨hcolumns, hmeasurement⟩, -⟩, -⟩ := h
    refine ⟨hmeasurement, ?_⟩
    intro selection hselection name hname
    exact verbatim_identifier_iff.1 (hcolumns _ (identifier_mem_columnTokens hselection hname))
  · intro h
    exact verbatim_tokens h.1 h.2

/-- **Which names stay in their quotes.** The query for the names of stored fields ends with the measurement in quotes. A
quoted name, be it of a measurement or of a field, is read as one token from its first character to its last that stands for
the name, if and only if the name has no backslash. So the query for field names is read as its words and the measurement
exactly if the measurement has none; and a query for points is read as what its draft says exactly if neither the measurement
nor any selected field has one. -/
theorem names_closed_iff (d : Draft) (hgroup : ∀ g, d.groupBy = some g → g.Made) :
    d.fieldKeys.text = "SHOW FIELD KEYS FROM " ++ quoteIdentifier d.measurement ∧
    (∀ name, scan (quoteIdentifier name) = ⟨.outside, [.identifier name], []⟩ ↔ '\\' ∉ name.toList) ∧
    (scan d.fieldKeys.text = ⟨.outside, [.identifier d.measurement], "SHOW FIELD KEYS FROM ".toList⟩ ↔
      '\\' ∉ d.measurement.toList) ∧
    ∀ query, d.read = .ok query → (scan query.text = ⟨.outside, d.tokens, d.skeleton.toList⟩ ↔
      '\\' ∉ d.measurement.toList ∧
        ∀ selection, d.selection = some selection → ∀ name ∈ selection.names, '\\' ∉ name.toList) := by
  refine ⟨rfl, scan_quoteIdentifier_iff, ?_, ?_⟩
  · rw [d.composed_fieldKeys.scan_eq_iff, List.forall_mem_singleton, verbatim_identifier_iff]
  · intro query hquery
    rw [(composed_read hgroup hquery).scan_eq_iff, verbatim_tokens_iff]

/-- a draft with backslashes in its names, one of them before a quote -/
def backslashDraft : Draft :=
  { database := "plant", measurement := "acme\\\" LIMIT 1", instanceId := some "1:A", selection := some (.field "load\\"),
    groupBy := some ⟨"5m", .null⟩ }

/-- its query is not read as what it says, while a name with a quote alone stays in its quotes -/
theorem names_closed_iff_backslashDraft :
    (∀ g, backslashDraft.groupBy = some g → g.Made) ∧
      scan (quoteIdentifier "odd\"name") = ⟨.outside, [.identifier "odd\"name"], []⟩ ∧
      ∃ query, backslashDraft.read = .ok query ∧
        scan query.text ≠ ⟨.outside, backslashDraft.tokens, backslashDraft.skeleton.toList⟩ := by
  have hgroup : ∀ g, backslashDraft.groupBy = some g → g.Made := by
    intro g hg
    cases hg
    exact Or.inr ⟨"5m", none, rfl⟩
  obtain ⟨-, hname, -, hread⟩ := names_closed_iff backslashDraft hgroup
  refine ⟨hgroup, (hname _).2 (by decide), _, rfl, ?_⟩
  intro hscan
  have hmeasurement := ((hread _ rfl).1 hscan).1
  exact hmeasurement (by decide)

/-- the measurement's backslash undoes the one that is to keep its quote inside: the rest of its name is read as words of the
query, and the quote at the end opens a token that never closes -/
theorem trailing_words_outside :
    backslashDraft.fieldKeys.text = "SHOW FIELD KEYS FROM \"acme\\\\\" LIMIT 1\"" ∧
      scan backslashDraft.fieldKeys.text =
        ⟨.inside ⟨'"', []⟩, [.identifier "acme\\"], "SHOW FIELD KEYS FROM  LIMIT 1".toList⟩ ∧
      scan (quoteIdentifier backslashDraft.measurement) ≠ ⟨.outside, [.identifier backslashDraft.measurement], []⟩ := by
  refine ⟨by decide +kernel, by decide +kernel, by decide +kernel⟩

end Draft

end Telemetry.Query
