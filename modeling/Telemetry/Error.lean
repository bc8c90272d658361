import Telemetry.Time.Instant
import Telemetry.Uuid
/-
Failures, by cause.

A payload is refused for a defect of its own before it meets the catalog (`ParserError`). Collaborators fail in few ways
(`RepositoryError`, `HierarchyError`, `HistorianError`); `ServiceError` is what a caller sees. Each has a stable `code`, a
`kind` that says whose fault it is, and a `message`.
-/
namespace Telemetry.Payload

/-- a defect of a payload -/
inductive ParserError where
  /-- no JSON of the wanted shape -/
  | json
  | emptyChannelCode (position : Nat)
  | duplicateChannel (code : String)
  | invalidChannelIndex (code : String) (index : Int)
  | duplicateChannelIndex (index : Nat) (first second : String)
  | malformedRow (rowIndex : Nat) (reason : String)
  /-- a defect in the rows of one equipment -/
  | inEquipment (equipmentId : String) (source : ParserError)
  deriving DecidableEq, Repr

def ParserError.message : ParserError → String
  | .json => "payload is not valid JSON"
  | .emptyChannelCode position => s!"channel at position {position} has an empty code"
  | .duplicateChannel code => s!"duplicate channel '{code}' declared in meta"
  | .invalidChannelIndex code index => s!"channel '{code}' declares invalid index {index}"
  | .duplicateChannelIndex index first second =>
    s!"channel index {index} is declared by both '{first}' and '{second}'"
  | .malformedRow rowIndex reason => s!"row {rowIndex} is malformed: {reason}"
  | .inEquipment equipmentId source => s!"equipment '{equipmentId}': {source.message}"

end Telemetry.Payload

namespace Telemetry

/-- how a store of records fails -/
inductive RepositoryError where
  | backend (detail : String)
  | invalidRecord (detail : String)
  | missingId (detail : String)
  deriving DecidableEq, Repr

/-- how the equipment hierarchy fails -/
inductive HierarchyError where
  | notFound (code : String)
  | transport (detail : String)
  deriving DecidableEq, Repr

/-- how the historian fails -/
inductive HistorianError where
  | transport (detail : String)
  | invalidResponse (detail : String)
  deriving DecidableEq, Repr

def RepositoryError.message : RepositoryError → String
  | .backend detail => s!"backend error: {detail}"
  | .invalidRecord detail => s!"stored record is invalid: {detail}"
  | .missingId detail => s!"record is missing an id: {detail}"

def HistorianError.message : HistorianError → String
  | .transport detail => s!"historian transport failure: {detail}"
  | .invalidResponse detail => s!"historian returned an unexpected response: {detail}"

/-- who has to act on a failure -/
inductive ErrorKind where
  /-- the request is wrong -/
  | validation
  | notFound
  /-- something behind the service failed -/
  | server
  deriving DecidableEq, Repr

def ErrorKind.name : ErrorKind → String
  | .validation => "validation"
  | .notFound => "not_found"
  | .server => "server"

def ErrorKind.status : ErrorKind → Nat
  | .validation => 400
  | .notFound => 404
  | .server => 500

/-- why an operation of the service fails -/
inductive ServiceError where
  | emptyChannelCode
  | missingChannelField (code field : String)
  | idAlreadyAssigned (code : String) (id : Uuid)
  | duplicateChannelCode (code : String)
  | duplicateChannel (code : String)
  | undefinedChannel (code : String)
  | channelMismatch (code field expected actual : String)
  | rowLengthMismatch (rowIndex expected actual : Nat)
  | tooFewChannels (count : Nat)
  | duplicateIndex (rowIndex index : Nat)
  | undeclaredIndex (rowIndex index : Nat)
  | unsupportedValue (rowIndex : Nat) (code : String)
  | missingTime (rowIndex : Nat)
  | invalidTimestamp (value reason : String)
  | invalidPeriod (start stop : Time.Instant)
  | invalidFillPolicy (token : String)
  | invalidGroupInterval (interval : String)
  | invalidAggregation (name : String)
  | invalidMathFunction (name : String)
  | invalidEquipmentId (wkeid : String)
  | inactiveMapping (wkeid equipmentCode supportContact : String)
  | payload (source : Payload.ParserError)
  | channelNotFound (code : String)
  | hierarchyCodeNotFound (code : String)
  | equipmentNotFound (wkeid : String)
  | noStoragePath (wkeid : String)
  | mappingNotFound (equipmentCode : String)
  | unsupportedQuery (reason : String)
  | repository (source : RepositoryError)
  | hierarchy (detail : String)
  | historian (source : HistorianError)
  | provisioningFailed (equipmentCode reason : String)
  | config (detail : String)
  /-- a configuration text that is no TOML of the wanted shape -/
  | malformedConfig
  deriving DecidableEq, Repr

namespace ServiceError

def kind : ServiceError → ErrorKind
  | .channelNotFound _ | .hierarchyCodeNotFound _ | .equipmentNotFound _ | .noStoragePath _ | .mappingNotFound _ =>
    .notFound
  | .unsupportedQuery _ | .repository _ | .hierarchy _ | .historian _ | .provisioningFailed .. | .config _
  | .malformedConfig => .server
  | _ => .validation

/-- the stable name a caller can test for -/
def code : ServiceError → String
  | .emptyChannelCode => "EMPTY_CHANNEL_CODE"
  | .missingChannelField .. => "MISSING_CHANNEL_FIELD"
  | .idAlreadyAssigned .. => "ID_ALREADY_ASSIGNED"
  | .duplicateChannelCode _ => "DUPLICATE_CHANNEL_CODE"
  | .duplicateChannel _ => "DUPLICATE_CHANNEL"
  | .undefinedChannel _ => "UNDEFINED_CHANNEL"
  | .channelMismatch .. => "CHANNEL_MISMATCH"
  | .rowLengthMismatch .. => "ROW_LENGTH_MISMATCH"
  | .tooFewChannels _ => "TOO_FEW_CHANNELS"
  | .duplicateIndex .. => "DUPLICATE_INDEX"
  | .undeclaredIndex .. => "UNDECLARED_INDEX"
  | .unsupportedValue .. => "UNSUPPORTED_VALUE"
  | .missingTime _ => "MISSING_TIME"
  | .invalidTimestamp .. => "INVALID_TIMESTAMP"
  | .invalidPeriod .. => "INVALID_PERIOD"
  | .invalidFillPolicy _ => "INVALID_FILL_POLICY"
  | .invalidGroupInterval _ => "INVALID_GROUP_INTERVAL"
  | .invalidAggregation _ => "INVALID_AGGREGATION"
  | .invalidMathFunction _ => "INVALID_MATH_FUNCTION"
  | .invalidEquipmentId _ => "INVALID_EQUIPMENT_ID"
  | .inactiveMapping .. => "INACTIVE_MAPPING"
  | .payload _ => "INVALID_PAYLOAD"
  | .channelNotFound _ => "CHANNEL_NOT_FOUND"
  | .hierarchyCodeNotFound _ => "HIERARCHY_CODE_NOT_FOUND"
  | .equipmentNotFound _ => "EQUIPMENT_NOT_FOUND"
  | .noStoragePath _ => "NO_STORAGE_PATH"
  | .mappingNotFound _ => "MAPPING_NOT_FOUND"
  | .unsupportedQuery _ => "UNSUPPORTED_QUERY"
  | .repository _ => "REPOSITORY_FAILURE"
  | .hierarchy _ => "HIERARCHY_FAILURE"
  | .historian _ => "HISTORIAN_FAILURE"
  | .provisioningFailed .. => "PROVISIONING_FAILED"
  | .config _ | .malformedConfig => "CONFIGURATION_ERROR"

def message : ServiceError → String
  | .emptyChannelCode => "channel code must not be empty"
  | .missingChannelField code field => s!"channel '{code}' must declare a non-empty {field}"
  | .idAlreadyAssigned code id => s!"channel '{code}' already carries id {id.text}; ids are assigned on create"
  | .duplicateChannelCode code => s!"channel code '{code}' already exists in the channel catalog"
  | .duplicateChannel code => s!"duplicate channel '{code}' declared in meta"
  | .undefinedChannel code => s!"channel '{code}' is not defined in the channel catalog"
  | .channelMismatch code field expected actual =>
    s!"channel '{code}' {field} mismatch: expected '{expected}', got '{actual}'"
  | .rowLengthMismatch rowIndex expected actual =>
    s!"row {rowIndex} has {actual} values but {expected} channels were declared"
  | .tooFewChannels count => s!"explicit rows require at least two declared channels, found {count}"
  | .duplicateIndex rowIndex index => s!"row {rowIndex} repeats channel index {index}"
  | .undeclaredIndex rowIndex index => s!"row {rowIndex} references undeclared channel index {index}"
  | .unsupportedValue rowIndex code => s!"row {rowIndex} has an unsupported value for channel '{code}'"
  | .missingTime rowIndex => s!"row {rowIndex} has no time value"
  | .invalidTimestamp value reason => s!"invalid timestamp '{value}': {reason}"
  | .invalidPeriod start stop => s!"time period start {start.display} is after end {stop.display}"
  | .invalidFillPolicy token => s!"invalid fill policy '{token}'"
  | .invalidGroupInterval interval => s!"invalid group-by interval '{interval}'"
  | .invalidAggregation name => s!"unknown aggregation function '{name}'"
  | .invalidMathFunction name => s!"unknown math function '{name}'"
  | .invalidEquipmentId wkeid => s!"invalid equipment id '{wkeid}': expected '<material>:<serial>'"
  | .inactiveMapping wkeid equipmentCode supportContact =>
    s!"storage mapping for equipment '{wkeid}' (equipment code '{equipmentCode}') is inactive; contact {supportContact} to enable writes"
  | .payload source => s!"payload rejected: {source.message}"
  | .channelNotFound code => s!"channel '{code}' was not found"
  | .hierarchyCodeNotFound code => s!"code '{code}' was not found in the equipment hierarchy"
  | .equipmentNotFound wkeid => s!"equipment '{wkeid}' was not found"
  | .noStoragePath wkeid => s!"no storage path can be resolved for equipment '{wkeid}'"
  | .mappingNotFound equipmentCode => s!"no storage mapping exists for equipment code '{equipmentCode}'"
  | .unsupportedQuery reason => s!"unsupported query: {reason}"
  | .repository source => s!"repository failure: {source.message}"
  | .hierarchy detail => s!"hierarchy lookup failed: {detail}"
  | .historian source => s!"historian failure: {source.message}"
  | .provisioningFailed equipmentCode reason =>
    s!"could not provision a storage mapping for equipment code '{equipmentCode}': {reason}"
  | .config detail => s!"configuration error: {detail}"
  | .malformedConfig => "configuration error: invalid configuration"

/-- a refused payload; a duplicate channel keeps its own name -/
def ofParser : Payload.ParserError → ServiceError
  | .duplicateChannel code => .duplicateChannel code
  | other => .payload other

def ofHierarchy : HierarchyError → ServiceError
  | .notFound code => .hierarchyCodeNotFound code
  | .transport detail => .hierarchy detail

end ServiceError

end Telemetry
