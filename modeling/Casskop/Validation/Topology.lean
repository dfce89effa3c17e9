import Mathlib.Data.Finset.Sort
import Mathlib.Data.String.Basic
import Casskop.Validation.Changelog

/-!
# Accepting or refusing a topology edit

`CheckTopologyChanges`, `deleteDCObjects` and `FixCassandraRackList`.  The Go
code ranges over a map, so the order in which racks are visited is a parameter.
-/

namespace Casskop

/-- An order in which a range over a Go map visits its keys. -/
structure MapOrder {α : Type} (entries : GoMap α) where
  keys : List String
  nodup : keys.Nodup
  mem_keys_iff : ∀ key, key ∈ keys ↔ key ∈ entries

/-- The map with the given entries; the first of several entries for a key wins. -/
def GoMap.ofList {α : Type} (entries : List (String × α)) : GoMap α :=
  entries.foldr (fun entry rest => rest.insert entry.1 entry.2) ∅

theorem GoMap.mem_ofList {α : Type} {entries : List (String × α)} {key : String} :
    key ∈ GoMap.ofList entries ↔ key ∈ entries.map Prod.fst := by
  induction entries with
  | nil => simp [GoMap.ofList, Finmap.notMem_empty]
  | cons entry entries induction =>
    have step : GoMap.ofList (entry :: entries) =
        (GoMap.ofList entries).insert entry.1 entry.2 := rfl
    rw [step, Finmap.mem_insert, induction, List.map_cons, List.mem_cons]

theorem GoMap.eq_of_lookup_singleton {α : Type} {key name : String} {value found : α}
    (lookup : (GoMap.ofList [(key, value)]).lookup name = some found) : found = value := by
  change ((∅ : GoMap α).insert key value).lookup name = some found at lookup
  by_cases same : name = key
  · rw [same, Finmap.lookup_insert, Option.some.injEq] at lookup
    exact lookup.symm
  · rw [Finmap.lookup_insert_of_ne _ same] at lookup
    simp at lookup

/-- The order in which the entries are listed. -/
def MapOrder.ofList {α : Type} (entries : List (String × α))
    (nodup : (entries.map Prod.fst).Nodup) : MapOrder (GoMap.ofList entries) :=
  { keys := entries.map Prod.fst
    nodup := nodup
    mem_keys_iff := fun _ => GoMap.mem_ofList.symm }

/-- The order of the names. -/
def MapOrder.sorted {α : Type} (entries : GoMap α) : MapOrder entries :=
  { keys := entries.keys.sort
    nodup := Finset.sort_nodup _ _
    mem_keys_iff := fun key => by simp [Finmap.mem_keys] }

/-- Objects whose deletion `deleteDCObjects` requests.  StatefulSets are recorded
by the `dc-rack` part of their name. -/
structure DCDeletion where
  statefulSets : List String := []
  services : List String := []
  /-- A name without a dash makes `GetDCNameAndRackNameFromDCRackName` fault. -/
  fault : Bool := false
  deriving DecidableEq, Repr

/-- `FixCassandraRackList`: the racks of the status that the re-initialised rack
list no longer has. -/
def fixCassandraRackList (cc : CassandraCluster)
    (order : MapOrder cc.status.cassandraRackStatus) : List String :=
  order.keys.filter fun dcRackName =>
    dcRackName ∉ (initCassandraRackList cc.spec).racks

/-- `GetDCNameFromDCRackName`; `none` is the index fault of `dc[1]`. -/
def getDCNameFromDCRackName (dcRackName : String) : Option String :=
  match dcRackName.toList.splitOn '-' with
  | dc :: _ :: _ => some (String.ofList dc)
  | _ => none

/-- The loop of `deleteDCObjects`. -/
def deleteRackObjects (name : String) : List String → DCDeletion
  | [] => {}
  | dcRackName :: rest =>
    match getDCNameFromDCRackName dcRackName with
    | none => { statefulSets := [dcRackName], fault := true }
    | some dcName =>
      let later := deleteRackObjects name rest
      { statefulSets := dcRackName :: later.statefulSets
        services := [name ++ "-" ++ dcName, name ++ "-" ++ dcRackName,
          name ++ "-" ++ dcName ++ "-exporter-jmx"] ++ later.services
        fault := later.fault }

/-- Result of `CheckTopologyChanges` and of `deleteDCObjects`. -/
structure TopologyVerdict where
  changed : Bool
  action : ActionName
  status : CassandraClusterStatus
  deletion : DCDeletion := {}

def deleteDCObjects (cc : CassandraCluster) (status : CassandraClusterStatus)
    (order : MapOrder cc.status.cassandraRackStatus) : TopologyVerdict :=
  let dcRackNameToDeleteList := fixCassandraRackList cc order
  let status :=
    { status with
      cassandraRackStatus :=
        dcRackNameToDeleteList.foldl (fun racks name => racks.erase name)
          status.cassandraRackStatus }
  if dcRackNameToDeleteList.isEmpty then
    { changed := false, action := .unset, status := status }
  else
    { changed := true
      action := .deleteDC
      status := status
      deletion := deleteRackObjects cc.metadata.name dcRackNameToDeleteList }

/-- The first test of `CheckTopologyChanges`. -/
def topologyChangeRefused (old new : Topology) : Bool :=
  let changelog := diffTopology old new
  hasChange changelog .update [] [] ||
    hasChange changelog .delete [["DC", "Rack"]] [["DC"]] ||
      hasChange changelog .create [["DC", "Rack"]] [["DC"]]

/-- A scale down is recorded for the cluster and not finished. -/
def scaleDownRunning (cc : CassandraCluster) : Bool :=
  cc.status.lastClusterAction == .scaleDown &&
    cc.status.lastClusterActionStatus != .done

/-- The DC that the positional search takes for the removed one has nodes. -/
def removedDCHasNodes (cc : CassandraCluster) (oldSpec : CassandraClusterSpec) : Bool :=
  let (found, nbNodes) :=
    oldSpec.getDCNodesPerRacksFromName (cc.spec.getRemovedDCName oldSpec)
  found && decide (0 < nbNodes)

def checkTopologyChanges (cc : CassandraCluster) (status : CassandraClusterStatus)
    (oldSpec : CassandraClusterSpec)
    (order : MapOrder cc.status.cassandraRackStatus) : TopologyVerdict :=
  let refuse : TopologyVerdict :=
    { changed := true, action := .correctCRDConfig, status := status }
  if topologyChangeRefused oldSpec.topology cc.spec.topology then refuse
  else if cc.spec.getDCSize + 1 < oldSpec.getDCSize then refuse
  else if cc.spec.getDCRackSize < oldSpec.getDCRackSize then
    if scaleDownRunning cc then refuse
    else if removedDCHasNodes cc oldSpec then refuse
    else deleteDCObjects cc status order
  else { changed := false, action := .unset, status := status }

/-- One of the tests refuses the edit. -/
def EditRefused (cc : CassandraCluster) (oldSpec : CassandraClusterSpec) : Prop :=
  topologyChangeRefused oldSpec.topology cc.spec.topology = true ∨
    cc.spec.getDCSize + 1 < oldSpec.getDCSize ∨
    (cc.spec.getDCRackSize < oldSpec.getDCRackSize ∧
      (scaleDownRunning cc = true ∨ removedDCHasNodes cc oldSpec = true))

/-- The edit is taken for the removal of a DC. -/
structure RemovesDC (cc : CassandraCluster) (oldSpec : CassandraClusterSpec) : Prop where
  topology : topologyChangeRefused oldSpec.topology cc.spec.topology = false
  single : oldSpec.getDCSize ≤ cc.spec.getDCSize + 1
  fewer : cc.spec.getDCRackSize < oldSpec.getDCRackSize
  settled : scaleDownRunning cc = false
  empty : removedDCHasNodes cc oldSpec = false

theorem RemovesDC.not_refused {cc : CassandraCluster} {oldSpec : CassandraClusterSpec}
    (removes : RemovesDC cc oldSpec) : ¬ EditRefused cc oldSpec := by
  rintro (refused | several | ⟨_, running | nodes⟩)
  · exact absurd refused (Bool.eq_false_iff.mp removes.topology)
  · exact absurd removes.single (Nat.not_le.mpr several)
  · exact absurd running (Bool.eq_false_iff.mp removes.settled)
  · exact absurd nodes (Bool.eq_false_iff.mp removes.empty)

/-- `CheckTopologyChanges` refuses the edit, removes a DC, or lets the edit through. -/
@[elab_as_elim]
theorem checkTopologyChanges_elim {motive : TopologyVerdict → Prop} (cc : CassandraCluster)
    (status : CassandraClusterStatus) (oldSpec : CassandraClusterSpec)
    (order : MapOrder cc.status.cassandraRackStatus)
    (refuses : EditRefused cc oldSpec →
      motive { changed := true, action := .correctCRDConfig, status := status })
    (removes : RemovesDC cc oldSpec → motive (deleteDCObjects cc status order))
    (keeps : ¬ EditRefused cc oldSpec → ¬ cc.spec.getDCRackSize < oldSpec.getDCRackSize →
      motive { changed := false, action := .unset, status := status }) :
    motive (checkTopologyChanges cc status oldSpec order) := by
  unfold checkTopologyChanges
  dsimp only
  split
  · rename_i refused
    exact refuses (.inl refused)
  rename_i accepted
  split
  · rename_i several
    exact refuses (.inr (.inl several))
  rename_i single
  split
  · rename_i fewer
    split
    · rename_i running
      exact refuses (.inr (.inr ⟨fewer, .inl running⟩))
    rename_i settled
    split
    · rename_i nodes
      exact refuses (.inr (.inr ⟨fewer, .inr nodes⟩))
    · rename_i empty
      exact removes ⟨Bool.eq_false_iff.mpr accepted, Nat.not_lt.mp single, fewer,
        Bool.eq_false_iff.mpr settled, Bool.eq_false_iff.mpr empty⟩
  · rename_i enough
    refine keeps ?_ enough
    rintro (refused | several | ⟨fewer, _⟩)
    · exact accepted refused
    · exact single several
    · exact enough fewer

end Casskop
