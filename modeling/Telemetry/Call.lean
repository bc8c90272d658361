import Telemetry.Channel.Store
import Telemetry.Equipment
import Telemetry.Point
import Telemetry.Query.Statement
import Telemetry.Storage.Store
/-
Calls: the single steps by which the service acts on what is around it.

Around it are the stores of channel definitions and storage mappings, the equipment hierarchy and directory, the historian
and its writer, two caches, and a supply of ids. Each call is one atomic step and has one type of answer. Collaborators may
answer with a failure of their own; caches and the supply of ids never fail.
-/
namespace Telemetry

/-- one step -/
inductive Call where
  | channelGet (filter : Channel.Filter)
  | channelSelect (filter : Channel.Filter)
  | channelUpsert (definition : Channel.Definition)
  | channelDelete (filter : Channel.Filter)
  | mappingGet (filter : Storage.Filter)
  | mappingSelect (filter : Storage.Filter)
  | mappingUpsert (mapping : Storage.Mapping)
  | mappingProvision (candidate : Storage.Candidate)
  | hierarchyNode (code : String)
  | equipmentRecord (wkeid : String)
  | historianRows (query : Query.Statement)
  | historianSeries (query : Query.Statement)
  | historianLatest (query : Query.Statement)
  | historianWrite (path : Storage.Path) (wkeid : String) (points : List Point)
  | channelCacheGet (code : String)
  | channelCacheSet (code : String) (definition : Channel.Definition)
  | channelCacheDrop (code : String)
  | mappingCacheGet (equipmentCode : String)
  | mappingCacheSet (equipmentCode : String) (mapping : Storage.Mapping)
  | mappingCacheDrop (equipmentCode : String)
  | freshId
  deriving DecidableEq, Repr

namespace Call

abbrev Answer : Call → Type
  | .channelGet _ => Except RepositoryError (Option Channel.Definition)
  | .channelSelect _ => Except RepositoryError (List Channel.Definition)
  | .channelUpsert _ => Except RepositoryError Channel.Definition
  | .channelDelete _ => Except RepositoryError Nat
  | .mappingGet _ => Except RepositoryError (Option Storage.Mapping)
  | .mappingSelect _ => Except RepositoryError (List Storage.Mapping)
  | .mappingUpsert _ => Except RepositoryError Storage.Mapping
  | .mappingProvision _ => Except RepositoryError Storage.ProvisionOutcome
  | .hierarchyNode _ => Except HierarchyError Hierarchy.Node
  | .equipmentRecord _ => Except HierarchyError (Option Equipment)
  | .historianRows _ => Except HistorianError (List Historian.Row)
  | .historianSeries _ => Except HistorianError (List Historian.Series)
  | .historianLatest _ => Except HistorianError (Option Time.Instant)
  | .historianWrite .. => Except HistorianError Unit
  | .channelCacheGet _ => Option Channel.Definition
  | .channelCacheSet .. => Unit
  | .channelCacheDrop _ => Unit
  | .mappingCacheGet _ => Option Storage.Mapping
  | .mappingCacheSet .. => Unit
  | .mappingCacheDrop _ => Unit
  | .freshId => Uuid

end Call

end Telemetry
