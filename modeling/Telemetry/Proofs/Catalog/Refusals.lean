import Telemetry.Proofs.Catalog.CheckOrder
import Telemetry.Proofs.Catalog.Integrity
import Telemetry.Proofs.Payload.Declarations
import Telemetry.Proofs.Payload.Groups
/-
What a checked payload may still be refused for.

Some checks are made twice. Reading a payload keeps the codes of its channels apart, and takes no array and no object for a
cell of an implicit row; the catalog takes no definition without a unit. So the checks that stand once more where channels
are matched and cells are taken never fail for what has come that far.

- `lookUp_refused`: what is reported of looked up channels, whatever the store fails;
- `firstRepeated_of_parse`: the codes of a read payload are not repeated;
- `rowsRefused_of_error`: what is reported of rows without nested cells;
- `refusals_of_parsed`: both, of every payload that has been read and every catalog that operations have led to.
-/
namespace Telemetry.Catalog

open Channel Payload Program Text Json

variable {w w' : World} {cs : List DeclaredChannel} {e : ServiceError} {channels : List Resolved}

/-! ## Channels -/

/-- why channels of a payload are refused: one of them has no definition, or does not agree with it, or the store fails -/
inductive ChannelsRefused (w : World) (cs : List DeclaredChannel) : ServiceError → Prop
  | undefined {c : DeclaredChannel} (hc : c ∈ cs) (h : w.definitions.get? (.code c.code) = none) :
      ChannelsRefused w cs (.undefinedChannel c.code)
  | mismatch {c : DeclaredChannel} {d : Definition} {property expected actual : String} (hc : c ∈ cs)
      (hd : w.definitions.get? (.code c.code) = some d)
      (h : Disagrees c d (.channelMismatch c.code property expected actual)) :
      ChannelsRefused w cs (.channelMismatch c.code property expected actual)
  | unanswered {calls : List Call} {filter : Filter} {source : RepositoryError}
      (h : w.faults.repository calls (.channelGet filter) = some source) : ChannelsRefused w cs (.repository source)

/-- channels are refused for what one of them is refused for, among more channels and in a world with the same definitions -/
theorem ChannelsRefused.mono {ds : List DeclaredChannel} (h : ChannelsRefused w' cs e) (hcs : ∀ c ∈ cs, c ∈ ds)
    (hdefinitions : w'.definitions = w.definitions) (hfaults : w'.faults = w.faults) : ChannelsRefused w ds e := by
  cases h with
  | undefined hc h => exact .undefined (hcs _ hc) (hdefinitions ▸ h)
  | mismatch hc hd h => exact .mismatch (hcs _ hc) (hdefinitions ▸ hd) h
  | unanswered h => exact .unanswered (hfaults ▸ h)

/-- a channel that is not matched with a definition that has a unit is undefined, or does not agree with it -/
theorem channelsRefused_of_unmatched {c : DeclaredChannel} (hunits : ∀ d ∈ w.definitions, isBlankText d.unit = false)
    (hc : c ∈ cs) (h : Unmatched (fun code => w.definitions.get? (.code code)) c e) : ChannelsRefused w cs e := by
  cases h with
  | undefined h => exact .undefined hc h
  | @disagrees d e hd h =>
    cases h with
    | dimension hdimension => exact .mismatch hc hd (.dimension hdimension)
    | unit hdimension hunit => exact .mismatch hc hd (.unit hdimension hunit)
  | noUnit hd hagrees hunit =>
    rw [hunits _ (List.mem_of_find?_eq_some hd)] at hunit
    cases hunit

/-- a look-up that succeeds answers what is stored -/
theorem LookedUp.eq_stored {code : String} {found : Option Definition} (hw : Coherent w)
    (h : LookedUp w code (.ok found, w')) : found = w.definitions.get? (.code code) := by
  cases h with
  | hit d hheld => exact (hw code d hheld).symm
  | missing hnone => exact hnone.symm
  | found d hfound => exact hfound.symm

/-- the error of a look-up is one of the store -/
theorem LookedUp.error {code : String} (h : LookedUp w code (.error e, w')) : ChannelsRefused w cs e := by
  cases h with
  | failed source hfault => exact .unanswered hfault

/-- channels that are looked up in a coherent world, with a unit in every definition, are refused for one of three reasons -/
theorem lookUp_refused (hw : Coherent w) (hunits : ∀ d ∈ w.definitions, isBlankText d.unit = false)
    (h : (Channel.lookUp cs).run w = (.error e, w')) : ChannelsRefused w cs e := by
  -- over the channels; a look-up leaves the definitions as they are, and the world coherent
  induction cs generalizing w with
  | nil => cases h
  | cons c cs ih =>
    rw [lookUp_cons] at h
    have hlookedUp := lookedUp w c.code
    rcases World.run_bind_error.1 h with hfailed | ⟨found, w1, hget, hrest⟩
    · rw [hfailed] at hlookedUp
      exact hlookedUp.error
    have hfaults := (World.run_fixed (get c.code .cached) w).2
    rw [hget] at hlookedUp hfaults
    obtain rfl := hlookedUp.eq_stored hw
    rcases World.run_bind_error.1 hrest with hrefused | ⟨r, w2, hmatch, hrest⟩
    · refine channelsRefused_of_unmatched hunits List.mem_cons_self ?_
      have hmatch := (perform_ofExcept_error.1 hrefused).1
      exact ((matchFound_decided (fun code => w.definitions.get? (.code code)) c).error_iff e).1 hmatch
    obtain ⟨-, rfl⟩ := perform_ofExcept_ok.1 hmatch
    rcases World.run_bind_error.1 hrest with hlater | ⟨rs, w3, -, hdone⟩
    · have hdefinitions : w1.definitions = w.definitions := hlookedUp.definitions
      have hrefused := ih (hlookedUp.coherent hw) (hdefinitions ▸ hunits) hlater
      exact hrefused.mono (fun _ hmem => List.mem_cons_of_mem _ hmem) hdefinitions hfaults
    · cases hdone

/-- no code of a read payload is repeated -/
theorem firstRepeated_of_parse {wire : List WireChannel} (h : parseChannels wire = .ok cs) : firstRepeated [] cs = none := by
  have hwell : WellDeclared wire := (declareFrom_stepwise.decided WellDeclared.nil rfl).ok_iff.1 ⟨cs, h⟩
  obtain ⟨_, rfl, hdone⟩ := declareFrom_stepwise.end_reached WellDeclared.nil rfl h
  cases hdone
  refine firstRepeated_eq_none_iff.2 ⟨?_, fun _ _ => List.not_mem_nil⟩
  have hcodes := hwell.distinctCodes
  rwa [← declarations_codes] at hcodes

/-- channels of a read payload are refused for none of what they have been checked for -/
theorem resolve_refused {wire : List WireChannel} (hw : Coherent w) (hcatalogued : Catalogued w)
    (hparse : parseChannels wire = .ok cs) (h : ((Channel.resolve cs).run w).1 = .error e) : ChannelsRefused w cs e := by
  rw [Channel.resolve, firstRepeated_of_parse hparse] at h
  exact lookUp_refused hw (fun d hd => (hcatalogued.complete d hd).unit) (Prod.ext h rfl)

/-! ## Rows -/

/-- why rows of a payload are refused, with any channels: their length, or the number of channels, an index that is there twice
or not declared, and in either format a time that cannot be read or is not there; a nested value only in a pair -/
inductive RowsRefused (channels : List Resolved) : Rows → ServiceError → Prop
  | length {rows : List (List Value)} (i expected actual : Nat) :
      RowsRefused channels (.implicit rows) (.rowLengthMismatch i expected actual)
  | tooFew {rows : List (List Entry)} (count : Nat) : RowsRefused channels (.explicit rows) (.tooFewChannels count)
  | repeated {rows : List (List Entry)} (i index : Nat) : RowsRefused channels (.explicit rows) (.duplicateIndex i index)
  | undeclared {rows : List (List Entry)} (i index : Nat) : RowsRefused channels (.explicit rows) (.undeclaredIndex i index)
  | noInstant {rows : Rows} (value reason : String) : RowsRefused channels rows (.invalidTimestamp value reason)
  | noTime {rows : Rows} (i : Nat) : RowsRefused channels rows (.missingTime i)
  | nested {rows : List (List Entry)} {i : Nat} {entries : List Entry} {entry : Entry} {c : Resolved}
      (hrow : rows[i]? = some entries) (hentry : entry ∈ entries) (hc : Point.channelAt channels entry.index = some c)
      (hfield : c.isTime = false) (h : entry.value.isNested = true) :
      RowsRefused channels (.explicit rows) (.unsupportedValue i c.definition.code)

theorem instantOf_error {s : String} (h : Time.instantOf s = .error e) : ∃ reason, e = .invalidTimestamp s reason := by
  rw [Time.instantOf] at h
  split at h
  · cases h
  · cases h
    exact ⟨_, rfl⟩

/-- a cell of a row is refused for its time, or for being nested -/
theorem cell_refused {rows : Rows} {i : Nat} {cell : Point.Cell} (h : cell.Fault i e)
    (hnested : cell.1.isTime = false → cell.2.isNested = true →
      RowsRefused channels rows (.unsupportedValue i cell.1.definition.code)) : RowsRefused channels rows e := by
  cases h with
  | notText => exact .noInstant _ _
  | noInstant _ h =>
    obtain ⟨reason, rfl⟩ := instantOf_error h
    exact .noInstant _ reason
  | nested hfield h => exact hnested hfield h

/-- rows without a nested cell are refused for none of what has been checked -/
theorem rowsRefused_of_error {rows : Rows} (hflat : rows.Flat) (h : Point.ofRows channels rows = .error e) :
    RowsRefused channels rows e := by
  have hrefused := ((Point.ofRows_decided channels rows).error_iff e).1 h
  cases hrefused with
  | @implicit before after values e _ hfault =>
    cases hfault with
    | length => exact .length _ _ _
    | noTime => exact .noTime _
    | @cell _ _ cell _ _ hcells _ hcell =>
      refine cell_refused hcell fun _ hnested => ?_
      have hmem : cell ∈ channels.zip values := hcells ▸ List.mem_append_right _ List.mem_cons_self
      have hscalar := hflat values (List.mem_append_right _ List.mem_cons_self) cell.2 (List.of_mem_zip hmem).2
      rw [hnested] at hscalar
      cases hscalar
  | tooFew => exact .tooFew _
  | @explicit before after entries e _ _ hfault =>
    cases hfault with
    | noTime => exact .noTime _
    | entry hentries _ hentry =>
      cases hentry with
      | repeated => exact .repeated _ _
      | undeclared => exact .undeclared _ _
      | cell _ hc hcell =>
        have hrow : (before ++ entries :: after)[before.length]? = some entries := by simp
        exact cell_refused hcell fun hfield hnested =>
          .nested hrow (hentries ▸ List.mem_append_right _ List.mem_cons_self) hc hfield hnested

/-! ## Payloads -/

theorem flat_of_parse {payload : Single} {parsed : Parsed} (h : payload.parse = .ok parsed) : parsed.rows.Flat :=
  (Rows.parse_eq_ok_iff.1 (Single.parse_eq_ok_iff.1 h).2.2).2.1

theorem flat_of_parseBulk {payload : Bulk} {bulk : ParsedBulk} (h : payload.parse = .ok bulk) {g : ParsedGroup}
    (hg : g ∈ bulk.groups) : g.rows.Flat := by
  obtain ⟨-, -, hgroups⟩ := Bulk.parse_eq_ok_iff.1 h
  obtain ⟨sent, -, hsent⟩ := exists_of_forall₂ (parseGroups_eq_ok_iff.1 hgroups) hg
  exact (Rows.parse_eq_ok_iff.1 (Group.parse_eq_ok_iff.1 hsent).2).2.1

theorem points_error {parsed : Parsed} (h : (parsed.points.run w).1 = .error e) :
    ((Channel.resolve parsed.channels).run w).1 = .error e ∨
      ∃ channels, ((Channel.resolve parsed.channels).run w).1 = .ok channels ∧
        Point.ofRows channels parsed.rows = .error e := by
  have hrun : parsed.points.run w = (.error e, (parsed.points.run w).2) := Prod.ext h rfl
  rcases World.run_bind_error.1 hrun with hresolve | ⟨channels, w1, hresolve, hrows⟩
  · exact Or.inl (congrArg Prod.fst hresolve)
  · exact Or.inr ⟨channels, congrArg Prod.fst hresolve, (perform_ofExcept_error.1 hrows).1⟩

/-- **What is checked once does not fail later.** Take any run of operations on the catalog from an empty store, where any
call may fail, the cache is coherent and every id drawn is new, and any payload that is read, for one equipment or for
several. Its channels are refused only if one is not defined, or does not agree with its definition, or a look-up fails:
never for a repeated code or a missing unit. Its rows are refused, with any channels, only for their lengths, for too few
channels, for an index that is repeated or not declared, for a time that is missing or not read, or for a pair whose value
is an array or an object. -/
theorem refusals_of_parsed (ops : List Operation) (w : World) (hempty : w.definitions = []) (hcache : Coherent w)
    (hfresh : DrawsNewIds ops w) :
    (∀ payload parsed, Single.parse payload = .ok parsed →
      (∀ e, ((Channel.resolve parsed.channels).run (runAll ops w)).1 = .error e →
        ChannelsRefused (runAll ops w) parsed.channels e) ∧
      (∀ channels e, Point.ofRows channels parsed.rows = .error e → RowsRefused channels parsed.rows e) ∧
      ∀ e, (parsed.points.run (runAll ops w)).1 = .error e → ChannelsRefused (runAll ops w) parsed.channels e ∨
        ∃ channels, ((Channel.resolve parsed.channels).run (runAll ops w)).1 = .ok channels ∧
          RowsRefused channels parsed.rows e) ∧
    ∀ payload bulk, Bulk.parse payload = .ok bulk →
      (∀ e, ((Channel.resolve bulk.channels).run (runAll ops w)).1 = .error e →
        ChannelsRefused (runAll ops w) bulk.channels e) ∧
      ∀ g ∈ bulk.groups, ∀ channels e, Point.ofRows channels g.rows = .error e → RowsRefused channels g.rows e := by
  have hw : Catalogued w := .of_empty hempty
  have hcatalogued : Catalogued (runAll ops w) := runAll_catalogued ops hw hfresh
  have hcoherent : Coherent (runAll ops w) := runAll_coherent ops hw.distinct hcache hfresh
  constructor
  · intro payload parsed hparse
    have hchannels := (Single.parse_eq_ok_iff.1 hparse).1
    refine ⟨fun e h => resolve_refused hcoherent hcatalogued hchannels h,
      fun channels e h => rowsRefused_of_error (flat_of_parse hparse) h, ?_⟩
    intro e h
    rcases points_error h with hresolve | ⟨channels, hresolve, hrows⟩
    · exact Or.inl (resolve_refused hcoherent hcatalogued hchannels hresolve)
    · exact Or.inr ⟨channels, hresolve, rowsRefused_of_error (flat_of_parse hparse) hrows⟩
  · intro payload bulk hparse
    have hchannels := (Bulk.parse_eq_ok_iff.1 hparse).1
    exact ⟨fun e h => resolve_refused hcoherent hcatalogued hchannels h,
      fun g hg channels e h => rowsRefused_of_error (flat_of_parseBulk hparse hg) h⟩

/-- a time and a load, whose value is an array -/
def nestedLoad : Single :=
  ⟨[⟨none, "time", "s", "time"⟩, ⟨none, "load", "kW", "power"⟩],
    [.array [.array [.ofNat 0, .string "2024-01-01T00:00:00Z"], .array [.ofNat 1, .array []]]]⟩

/-- the payload as it is read -/
def nestedParsed : Parsed :=
  ⟨[⟨0, "time", "s", "time"⟩, ⟨1, "load", "kW", "power"⟩],
    .explicit [[⟨0, .string "2024-01-01T00:00:00Z"⟩, ⟨1, .array []⟩]]⟩

/-- the payload is read, its channels are matched, and the array is what it is refused for -/
theorem refusals_of_parsed_nested :
    DrawsNewIds meanRun emptyPlant ∧ nestedLoad.parse = .ok nestedParsed ∧
      (nestedParsed.points.run (runAll meanRun emptyPlant)).1 = .error (.unsupportedValue 0 "load") ∧
      ∃ channels, ((Channel.resolve nestedParsed.channels).run (runAll meanRun emptyPlant)).1 = .ok channels ∧
        RowsRefused channels nestedParsed.rows (.unsupportedValue 0 "load") := by
  have hfresh : DrawsNewIds meanRun emptyPlant := by decide +kernel
  have hparse : nestedLoad.parse = .ok nestedParsed := rfl
  have hpoints : (nestedParsed.points.run (runAll meanRun emptyPlant)).1 = .error (.unsupportedValue 0 "load") := by
    decide +kernel
  obtain ⟨hsingle, -⟩ := refusals_of_parsed meanRun emptyPlant rfl (coherent_of_empty rfl) hfresh
  obtain ⟨-, -, hrefused⟩ := hsingle nestedLoad nestedParsed hparse
  rcases hrefused _ hpoints with hchannels | hrows
  · cases hchannels
  · exact ⟨hfresh, hparse, hpoints, hrows⟩

end Telemetry.Catalog
