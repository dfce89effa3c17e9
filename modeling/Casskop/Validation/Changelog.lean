import Casskop.Api.Topology
import Casskop.Library.SliceDiff

/-!
# Changelog of a topology edit

`diff.Diff` pairs the elements of a slice by deep equality.  Unpaired elements
are compared position by position: an update for each differing field where both
sides have the position, a creation or a deletion for each field otherwise.
`hasChange` then filters the changelog on the paths that end in a name.
-/

namespace Casskop

open SliceDiff

inductive ChangeType where
  | create
  | update
  | delete
  deriving DecidableEq, Repr

/-- A component of the path of a change: a field name or a slice position. -/
inductive PathItem where
  | field (name : String)
  | index (position : Nat)
  deriving DecidableEq, Repr

structure Change where
  type : ChangeType
  path : List PathItem
  deriving DecidableEq, Repr

/-! ## The differ -/

/-- One change for each field of `fields` marked as differing. -/
def updatesAt (path : List PathItem) (fields : List (String × Bool)) : List Change :=
  (fields.filter (fun field => field.2)).map fun field =>
    { type := .update, path := path ++ [.field field.1] }

/-- One change of the given type for each field. -/
def changesAt (type : ChangeType) (path : List PathItem) (fields : List String) :
    List Change :=
  fields.map fun field => { type := type, path := path ++ [.field field] }

def rackFields : List String :=
  ["Name", "Labels", "Config", "RollingRestart", "RollingPartition"]

/-- Fields of a DC that follow its racks. -/
def dcFields : List String :=
  ["NodesPerRacks", "DataCapacity", "DataStorageClass", "Resources"]

def rackUpdates (path : List PathItem) (old new : Rack) : List Change :=
  updatesAt path
    [("Name", decide (old.name ≠ new.name)),
      ("Labels", decide (old.labels ≠ new.labels)),
      ("Config", decide (old.config ≠ new.config)),
      ("RollingRestart", decide (old.rollingRestart ≠ new.rollingRestart)),
      ("RollingPartition", decide (old.rollingPartition ≠ new.rollingPartition))]

/-- Changes between the rack lists of two DCs at one position. -/
def diffRacks (path : List PathItem) (old new : List Rack) : List Change :=
  compareSlices (fun position old new => rackUpdates (path ++ [.index position]) old new)
    (fun position _ => changesAt .delete (path ++ [.index position]) rackFields)
    (fun position _ => changesAt .create (path ++ [.index position]) rackFields)
    old new

/-- Changes between two DCs at one position. -/
def diffDC (path : List PathItem) (old new : DC) : List Change :=
  updatesAt path
      [("Name", decide (old.name ≠ new.name)),
        ("Labels", decide (old.labels ≠ new.labels)),
        ("Config", decide (old.config ≠ new.config))] ++
    diffRacks (path ++ [.field "Rack"]) old.rack new.rack ++
    updatesAt path
      [("NodesPerRacks", decide (old.nodesPerRacks ≠ new.nodesPerRacks)),
        ("DataCapacity", decide (old.dataCapacity ≠ new.dataCapacity)),
        ("DataStorageClass", decide (old.dataStorageClass ≠ new.dataStorageClass)),
        ("Resources", decide (old.resources ≠ new.resources))]

/-- Changes for a DC that exists on one side only. -/
def wholeDC (type : ChangeType) (path : List PathItem) (dc : DC) : List Change :=
  changesAt type path ["Name", "Labels", "Config"] ++
    (List.range dc.rack.length).flatMap (fun rack =>
      changesAt type (path ++ [.field "Rack", .index rack]) rackFields) ++
    changesAt type path dcFields

/-- `diff.Diff` on two topologies. -/
def diffTopology (old new : Topology) : List Change :=
  compareSlices (fun position old new => diffDC [.field "DC", .index position] old new)
    (fun position dc => wholeDC .delete [.field "DC", .index position] dc)
    (fun position dc => wholeDC .create [.field "DC", .index position] dc)
    old.dc new.dc

/-! ## Filtering -/

/-- Components 0, 2, 4, … of a path without the last of them: the path
`lookForFilter` rebuilds. -/
def filterPath : List PathItem → List PathItem
  | item :: _ :: next :: rest => item :: filterPath (next :: rest)
  | _ => []

/-- `lookForFilter`: the filters found so far, extended by those that match. -/
def lookForFilter (path : List PathItem) (filters found : List (List String)) :
    List (List String) :=
  filters.foldl
    (fun found filter =>
      if 2 * filter.length + 1 = path.length ∧ filterPath path = filter.map .field
      then found.insert filter else found)
    found

/-- Only changes on the name of a DC or of a rack are scanned. -/
def isNameChange (path : List PathItem) : Bool :=
  path[2]? == some (.field "Name") || path[4]? == some (.field "Name")

/-- Counters `hasChange` keeps for the position it is looking at. -/
structure FilterState where
  idx : Option PathItem := none
  included : List (List String) := []
  excluded : List (List String) := []

/-- The scan of `hasChange`; the counters start afresh at a new position. -/
def scanChanges (changeType : ChangeType) (includeFilters excludeFilters :
    List (List String)) : FilterState → List Change → Bool
  | _, [] => false
  | state, change :: rest =>
    if change.type = changeType ∧ isNameChange change.path then
      let state :=
        if change.path[1]? ≠ state.idx then { idx := change.path[1]? } else state
      let included := lookForFilter change.path includeFilters state.included
      let excluded := lookForFilter change.path excludeFilters state.excluded
      if included.length = includeFilters.length ∧ excluded.length = 0 then true
      else
        scanChanges changeType includeFilters excludeFilters
          { idx := state.idx, included := included, excluded := excluded } rest
    else scanChanges changeType includeFilters excludeFilters state rest

/-- `hasChange`.  The paths of the source are given already split into those
that must be found and those that must not; without any, each change on a name
of the right type counts. -/
def hasChange (changelog : List Change) (changeType : ChangeType)
    (includeFilters excludeFilters : List (List String)) : Bool :=
  if includeFilters.isEmpty && excludeFilters.isEmpty then
    changelog.any fun change =>
      change.type == changeType && isNameChange change.path
  else scanChanges changeType includeFilters excludeFilters {} changelog

end Casskop
