import Casskop.Api.Types
import Mathlib.Algebra.GroupWithZero.Nat

/-!
# Accessors of the topology

The functions of `cassandracluster_types.go` that read the declared topology.
None of them looks at anything but the spec, so they are stated on it.  Loops
over `GetDCSize` and `GetRackSize` become recursions over the declared lists.
-/

namespace Casskop

def defaultCassandraDC : String := "dc1"

def defaultCassandraRack : String := "rack1"

/-! ## Names -/

private def isLowerAlpha (c : Char) : Bool := 'a' ≤ c && c ≤ 'z'

private def isLabelChar (c : Char) : Bool := isLowerAlpha c || c.isDigit

/-- `regexDCRackName`, i.e. `^[a-z]([-a-z0-9]*[a-z0-9])?$`. -/
def regexDCRackName (name : String) : Bool :=
  match name.toList with
  | [] => false
  | first :: rest =>
    isLowerAlpha first &&
      match rest.getLast? with
      | none => true
      | some final =>
        isLabelChar final && rest.all (fun c => c == '-' || isLabelChar c)

theorem regexDCRackName_chars {name : String} (valid : regexDCRackName name = true) :
    ∀ c ∈ name.toList, c = '-' ∨ ('a' ≤ c ∧ c ≤ 'z') ∨ c.isDigit = true := by
  intro c member
  unfold regexDCRackName at valid
  cases chars : name.toList with
  | nil =>
    rw [chars] at valid
    cases valid
  | cons first rest =>
    rw [chars] at valid member
    simp only [Bool.and_eq_true] at valid
    rcases List.mem_cons.mp member with rfl | later
    · exact .inr (.inl (by simpa [isLowerAlpha] using valid.1))
    · cases final : rest.getLast? with
      | none =>
        rw [List.getLast?_eq_none_iff.mp final] at later
        cases later
      | some last =>
        have every := valid.2
        rw [final] at every
        simp only [Bool.and_eq_true, List.all_eq_true] at every
        simpa [isLabelChar, isLowerAlpha] using every.2 c later

/-- `GetDCRackName`: the empty string when the joined name is no DNS label. -/
def getDCRackName (dcName rackName : String) : String :=
  let dcRackName := dcName ++ "-" ++ rackName
  if regexDCRackName dcRackName then dcRackName else ""

/-- The three spellings of a rack that `api.CompleteRackName` carries. -/
structure CompleteRackName where
  dcName : String
  rackName : String
  dcRackName : String
  deriving DecidableEq, Repr

namespace CassandraClusterSpec

/-! ## Sizes and positions -/

def getDCSize (spec : CassandraClusterSpec) : Nat := spec.topology.dc.length

def getRackSize (spec : CassandraClusterSpec) (dc : Nat) : Nat :=
  match spec.topology.dc[dc]? with
  | some storeDC => storeDC.rack.length
  | none => 0

def getDCRackSize (spec : CassandraClusterSpec) : Nat :=
  ((List.range spec.getDCSize).map spec.getRackSize).sum

def getDCName (spec : CassandraClusterSpec) (dc : Nat) : String :=
  match spec.topology.dc[dc]? with
  | some storeDC => storeDC.name
  | none => defaultCassandraDC

def getRackName (spec : CassandraClusterSpec) (dc rack : Nat) : String :=
  match spec.topology.dc[dc]? with
  | some storeDC =>
    match storeDC.rack[rack]? with
    | some storeRack => storeRack.name
    | none => defaultCassandraRack
  | none => defaultCassandraRack

def getDCNodesPerRacksFromIndex (spec : CassandraClusterSpec) (dc : Nat) : Int :=
  match spec.topology.dc[dc]? with
  | some storeDC => storeDC.nodesPerRacks.getD spec.nodesPerRacks
  | none => spec.nodesPerRacks

/-- `GetDCIndexFromDCName`; `none` is the result `-1`. -/
def getDCIndexFromDCName (spec : CassandraClusterSpec) (dcName : String) :
    Option Nat :=
  spec.topology.dc.findIdx? (fun dc => dc.name == dcName)

/-! ## Per-DC settings -/

def getDataCapacityFromDCName (spec : CassandraClusterSpec) (dcName : String) :
    String :=
  match spec.topology.dc.find? (fun dc => dc.name == dcName) with
  | some dc => if dc.dataCapacity ≠ "" then dc.dataCapacity else spec.dataCapacity
  | none => spec.dataCapacity

/-- `GetDataStorageClassFromDCName`.  The guard really reads the capacity of the
DC, not its storage class. -/
def getDataStorageClassFromDCName (spec : CassandraClusterSpec)
    (dcName : String) : String :=
  match spec.topology.dc.find? (fun dc => dc.name == dcName) with
  | some dc =>
    if dc.dataCapacity ≠ "" then dc.dataStorageClass else spec.dataStorageClass
  | none => spec.dataStorageClass

/-- The loop of `GetDCRackNames`; a DC without racks ends it. -/
def dcRackNamesFrom : List DC → List String
  | [] => []
  | dc :: rest =>
    if dc.rack.isEmpty then []
    else dc.rack.map (fun rack => getDCRackName dc.name rack.name) ++ dcRackNamesFrom rest

def getDCRackNames (spec : CassandraClusterSpec) : List String :=
  dcRackNamesFrom spec.topology.dc

/-- The loop of `GetDCNodesPerRacksFromDCRackName`; a DC without racks ends the
search with the global value. -/
def nodesPerRacksFrom (spec : CassandraClusterSpec) (dcRackName : String) :
    List DC → Int
  | [] => spec.nodesPerRacks
  | dc :: rest =>
    if dc.rack.isEmpty then spec.nodesPerRacks
    else if dc.rack.any (fun rack => dcRackName == getDCRackName dc.name rack.name)
    then dc.nodesPerRacks.getD spec.nodesPerRacks
    else spec.nodesPerRacksFrom dcRackName rest

def getNodesPerRacks (spec : CassandraClusterSpec) (dcRackName : String) : Int :=
  spec.nodesPerRacksFrom dcRackName spec.topology.dc

/-- The loop of `GetRollingPartitionPerRacks`. -/
def rollingPartitionFrom (dcRackName : String) : List DC → Int
  | [] => 0
  | dc :: rest =>
    if dc.rack.isEmpty then 0
    else
      match dc.rack.find? (fun rack => dcRackName == getDCRackName dc.name rack.name) with
      | some rack => rack.rollingPartition
      | none => rollingPartitionFrom dcRackName rest

def getRollingPartitionPerRacks (spec : CassandraClusterSpec) (dcRackName : String) :
    Int :=
  rollingPartitionFrom dcRackName spec.topology.dc

def getDCNodesPerRacksFromName (spec : CassandraClusterSpec) (dctarget : String) :
    Bool × Int :=
  match spec.topology.dc.find? (fun dc => dctarget == dc.name) with
  | some dc => (true, dc.nodesPerRacks.getD spec.nodesPerRacks)
  | none => (false, spec.nodesPerRacks)

/-- `FindDCWithNodesTo0`: the first DC whose node count is exactly 0. -/
def findDCWithNodesTo0 (spec : CassandraClusterSpec) : Option (String × Nat) :=
  match (List.range spec.getDCSize).find?
      (fun dc => spec.getDCNodesPerRacksFromIndex dc == 0) with
  | some dc => some (spec.getDCName dc, dc)
  | none => none

/-- `GetRemovedDCName`: the first position of the old topology whose name is not
the name at the same position of the new one. -/
def getRemovedDCName (spec oldSpec : CassandraClusterSpec) : String :=
  match (List.range oldSpec.getDCSize).find?
      (fun dc => oldSpec.getDCName dc ≠ spec.getDCName dc) with
  | some dc => oldSpec.getDCName dc
  | none => ""

def initTopology (spec : CassandraClusterSpec) (dcName rackName : String) :
    CassandraClusterSpec :=
  { spec with topology := { dc := [{ name := dcName, rack := [{ name := rackName }] }] } }

/-- The racks of the topology in loop order, with their positions. -/
def rackPositions (spec : CassandraClusterSpec) : List (Nat × Nat) :=
  (List.range spec.getDCSize).flatMap fun dc =>
    (List.range (spec.getRackSize dc)).map fun rack => (dc, rack)

/-- Names of the rack at a position, as the loops of the operator compute them. -/
def completeRackName (spec : CassandraClusterSpec) (dc rack : Nat) :
    CompleteRackName :=
  { dcName := spec.getDCName dc
    rackName := spec.getRackName dc rack
    dcRackName := getDCRackName (spec.getDCName dc) (spec.getRackName dc rack) }

end CassandraClusterSpec

def DC.rackNames (dc : DC) : List String :=
  dc.rack.map fun rack => getDCRackName dc.name rack.name

/-- Racks the topology declares, by name. -/
def CassandraClusterSpec.declaredRacks (spec : CassandraClusterSpec) : List String :=
  spec.topology.dc.flatMap fun dc =>
    dc.rack.map fun rack => getDCRackName dc.name rack.name

/-! ## Rack statuses -/

/-- The status `InitCassandraRackStatus` writes. -/
def initialRackStatus : CassandraRackStatus :=
  { phase := .initializing
    cassandraLastAction := { name := .initializing, status := .ongoing } }

def initCassandraRackStatus (racks : GoMap CassandraRackStatus)
    (dcName rackName : String) : GoMap CassandraRackStatus :=
  racks.insert (getDCRackName dcName rackName) initialRackStatus

/-- What `InitCassandraRackList` carries through its loop. -/
structure RackListState where
  spec : CassandraClusterSpec
  racks : GoMap CassandraRackStatus
  nbRack : Nat

/-- One iteration of the loop of `InitCassandraRackList`.  A DC without racks
replaces the whole topology while the loop still runs over the old size. -/
def initCassandraRackListStep (state : RackListState) (dc : Nat) : RackListState :=
  let dcName := state.spec.getDCName dc
  let racksize := state.spec.getRackSize dc
  if racksize < 1 then
    { spec := state.spec.initTopology dcName defaultCassandraRack
      racks := initCassandraRackStatus state.racks dcName defaultCassandraRack
      nbRack := state.nbRack + 1 }
  else
    (List.range racksize).foldl
      (fun acc rack =>
        { acc with
          racks := initCassandraRackStatus acc.racks dcName
            (state.spec.getRackName dc rack)
          nbRack := acc.nbRack + 1 })
      state

def initCassandraRackList (spec : CassandraClusterSpec) : RackListState :=
  if spec.getDCSize < 1 then
    { spec := spec.initTopology defaultCassandraDC defaultCassandraRack
      racks := initCassandraRackStatus ∅ defaultCassandraDC defaultCassandraRack
      nbRack := 1 }
  else
    (List.range spec.getDCSize).foldl initCassandraRackListStep
      { spec := spec, racks := ∅, nbRack := 0 }

/-! ## Seed list -/

/-- `addNewSeed`. -/
def newSeed (name ns dcName rackName : String) (indice : Nat) : String :=
  name ++ "-" ++ getDCRackName dcName rackName ++ "-" ++ toString indice ++ "." ++
    name ++ "." ++ ns

/-- Seeds of a DC declared with racks.  `racksize` fixes how many seeds a rack
may hold and `nbSeedInDC` counts those already taken. -/
def seedsOfRacks (spec : CassandraClusterSpec) (name ns dcName : String)
    (racksize : Nat) : List Rack → Nat → List String
  | [], _ => []
  | rack :: rest, nbSeedInDC =>
    let nodesPerRacks := spec.getNodesPerRacks (getDCRackName dcName rack.name)
    let taken :=
      if racksize ≤ 2 then
        min nodesPerRacks.toNat (min (4 - racksize) (3 - nbSeedInDC))
      else if nbSeedInDC < 3 then 1 else 0
    (List.range taken).map (newSeed name ns dcName rack.name) ++
      seedsOfRacks spec name ns dcName racksize rest (nbSeedInDC + taken)

def initSeedList (metadata : ObjectMeta) (spec : CassandraClusterSpec) : List String :=
  let defaults := fun dcName =>
    (List.range (min spec.nodesPerRacks.toNat 3)).map
      (newSeed metadata.name metadata.ns dcName defaultCassandraRack)
  if spec.topology.dc.isEmpty then defaults defaultCassandraDC
  else
    spec.topology.dc.flatMap fun dc =>
      if dc.rack.isEmpty then defaults dc.name
      else seedsOfRacks spec metadata.name metadata.ns dc.name dc.rack.length dc.rack 0

def mergeSlice (old new : List String) : List String :=
  old.filter (fun item => new.contains item) ++
    new.filter (fun item => !old.contains item)

end Casskop
