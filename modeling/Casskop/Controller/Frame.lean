import Casskop.Controller.ReconcileRack
import Casskop.Library.Positions

/-!
# What handling a rack leaves alone

Everything an iteration of the rack loop does is confined to the status of its own
rack.  Names, node counts and metadata stay as they are, and the StatefulSet
writes are listed.
-/

namespace Casskop

/-! ## The part of a spec that a pass never edits -/

def Rack.settled (rack : Rack) : Rack := { rack with rollingRestart := false }

def DC.settled (dc : DC) : DC := { dc with rack := dc.rack.map Rack.settled }

/-- The spec without the two flags the operator resets on its own. -/
def CassandraClusterSpec.settled (spec : CassandraClusterSpec) : CassandraClusterSpec :=
  { spec with
    unlockNextOperation := false
    topology := { dc := spec.topology.dc.map DC.settled } }

namespace CassandraClusterSpec

variable (spec : CassandraClusterSpec)

theorem getDCName_settled (dc : Nat) : spec.settled.getDCName dc = spec.getDCName dc := by
  cases found : spec.topology.dc[dc]? <;> simp [getDCName, settled, found, DC.settled]

theorem getRackName_settled (dc rack : Nat) :
    spec.settled.getRackName dc rack = spec.getRackName dc rack := by
  cases found : spec.topology.dc[dc]? with
  | none => simp [getRackName, settled, found]
  | some storeDC =>
    cases foundRack : storeDC.rack[rack]? <;>
      simp [getRackName, settled, found, DC.settled, foundRack, Rack.settled]

theorem completeRackName_settled (dc rack : Nat) :
    spec.settled.completeRackName dc rack = spec.completeRackName dc rack := by
  simp [completeRackName, getDCName_settled, getRackName_settled]

theorem find?_settled (dcName : String) :
    spec.settled.topology.dc.find? (fun dc => dc.name == dcName) =
      (spec.topology.dc.find? fun dc => dc.name == dcName).map DC.settled :=
  List.find?_map ..

theorem getNodesPerRacks_settled (dcRackName : String) :
    spec.settled.getNodesPerRacks dcRackName = spec.getNodesPerRacks dcRackName := by
  have general : ∀ dcs : List DC,
      spec.settled.nodesPerRacksFrom dcRackName (dcs.map DC.settled) =
        spec.nodesPerRacksFrom dcRackName dcs := by
    intro dcs
    induction dcs with
    | nil => rfl
    | cons dc dcs induction =>
      simp only [List.map_cons, nodesPerRacksFrom, induction]
      simp [DC.settled, settled, Function.comp_def, Rack.settled]
  exact general spec.topology.dc

theorem getNodesPerRacks_of_settled {spec spec' : CassandraClusterSpec}
    (settled : spec'.settled = spec.settled) : spec'.getNodesPerRacks = spec.getNodesPerRacks := by
  funext dcRackName
  rw [← getNodesPerRacks_settled, settled, getNodesPerRacks_settled]

end CassandraClusterSpec

theorem settled_clearRollingRestart (spec : CassandraClusterSpec) (dc rack : Nat) :
    (clearRollingRestart spec dc rack).settled = spec.settled := by
  have racks : ∀ storeDC : DC, DC.settled
      { storeDC with
        rack := storeDC.rack.modify rack fun storeRack =>
          { storeRack with rollingRestart := false } } = storeDC.settled := by
    intro storeDC
    simp only [DC.settled]
    rw [Positions.map_modify_same]
    intro storeRack
    rfl
  simp only [clearRollingRestart, CassandraClusterSpec.settled]
  rw [Positions.map_modify_same _ _ _ _ racks]

/-! ## Frames -/

/-- The part of a status that no rack changes. -/
def CassandraClusterStatus.cluster (status : CassandraClusterStatus) :
    Phase × ActionName × ActionStatus :=
  (status.phase, status.lastClusterAction, status.lastClusterActionStatus)

/-- From `before` to `after` only the rack `dcRackName` was handled, and
`written` are the StatefulSet writes made meanwhile. -/
structure Frame (dcRackName : String) (written : List Effect) (before after : Pass) :
    Prop where
  others : ∀ other, other ≠ dcRackName → after.rackStatus other = before.rackStatus other
  metadata : after.cc.metadata = before.cc.metadata
  spec : after.cc.spec.settled = before.cc.spec.settled
  unlock : after.cc.spec.unlockNextOperation = true →
    before.cc.spec.unlockNextOperation = true
  cluster : after.status.cluster = before.status.cluster
  writes : after.writes = before.writes ++ written

namespace Frame

variable {dcRackName : String} {written written' : List Effect} {before middle after : Pass}

theorem refl (dcRackName : String) (pass : Pass) : Frame dcRackName [] pass pass :=
  ⟨fun _ _ => rfl, rfl, rfl, id, rfl, by simp⟩

theorem append (first : Frame dcRackName written before middle)
    (second : Frame dcRackName written' middle after) :
    Frame dcRackName (written ++ written') before after :=
  ⟨fun other different => (second.others other different).trans
      (first.others other different),
    second.metadata.trans first.metadata, second.spec.trans first.spec,
    fun unlocked => first.unlock (second.unlock unlocked),
    second.cluster.trans first.cluster,
    by rw [second.writes, first.writes, List.append_assoc]⟩

theorem trans (first : Frame dcRackName [] before middle)
    (second : Frame dcRackName written middle after) : Frame dcRackName written before after :=
  first.append second

theorem transQuiet (first : Frame dcRackName written before middle)
    (second : Frame dcRackName [] middle after) : Frame dcRackName written before after :=
  List.append_nil written ▸ first.append second

section

variable (frame : Frame dcRackName written before after)

include frame

theorem setRackStatus (rack : CassandraRackStatus) :
    Frame dcRackName written before (after.setRackStatus dcRackName rack) :=
  ⟨fun other different => (Pass.rackStatus_setRackStatus_ne after rack different).trans
      (frame.others other different),
    frame.metadata, frame.spec, frame.unlock, frame.cluster, frame.writes⟩

theorem emit (effects : List Effect) :
    Frame dcRackName
      (written ++ effects.filter fun effect => effect.writtenRack.isSome) before
      (after.emit effects) :=
  ⟨frame.others, frame.metadata, frame.spec, frame.unlock, frame.cluster, by
    have writes := frame.writes
    simp only [Pass.writes] at writes
    simp only [Pass.writes, Pass.effects_emit, List.filter_append, writes,
      List.append_assoc]⟩

theorem emitQuiet {effects : List Effect} (quiet : ∀ effect ∈ effects, effect.writtenRack = none) :
    Frame dcRackName written before (after.emit effects) := by
  have none : (effects.filter fun effect => effect.writtenRack.isSome) = [] := by
    apply List.filter_eq_nil_iff.mpr
    intro effect member
    simp [quiet effect member]
  have emitted := frame.emit effects
  rwa [none, List.append_nil] at emitted

end

theorem congr (frame : Frame dcRackName written before middle)
    (status : after.status.cassandraRackStatus = middle.status.cassandraRackStatus)
    (cluster : after.status.cluster = middle.status.cluster)
    (metadata : after.cc.metadata = middle.cc.metadata)
    (spec : after.cc.spec.settled = middle.cc.spec.settled)
    (unlock : after.cc.spec.unlockNextOperation = true →
      middle.cc.spec.unlockNextOperation = true)
    (effects : after.effects = middle.effects) :
    Frame dcRackName written before after :=
  ⟨fun other different => by
      rw [← frame.others other different, Pass.rackStatus, Pass.rackStatus, status],
    metadata.trans frame.metadata, spec.trans frame.spec,
    fun unlocked => frame.unlock (unlock unlocked),
    cluster.trans frame.cluster, by
      rw [← frame.writes, Pass.writes, Pass.writes, effects]⟩

end Frame

theorem CassandraCluster.received_metadata (cc : CassandraCluster)
    (answer : Except ApiError Nat) : (cc.received answer).metadata = cc.metadata := by
  cases answer <;> rfl

theorem CassandraCluster.received_spec (cc : CassandraCluster)
    (answer : Except ApiError Nat) : (cc.received answer).spec = cc.spec := by
  cases answer <;> rfl

/-- Neither the metadata nor the spec is changed by writing the status, and no
StatefulSet is written. -/
theorem updateCassandraStatus_quiet (needUpdate : Bool) (cc : CassandraCluster)
    (status : CassandraClusterStatus) (answer : WriteAnswer) :
    let write := updateCassandraStatus needUpdate cc status answer
    write.cc.metadata = cc.metadata ∧ write.cc.spec = cc.spec ∧
      ∀ effect ∈ write.effects, effect.writtenRack = none := by
  simp only [updateCassandraStatus]
  split
  · simp
  · simp [CassandraCluster.received_metadata, CassandraCluster.received_spec,
      Effect.writtenRack]

theorem Frame.updateCassandraStatus {dcRackName : String} {written : List Effect}
    {before after : Pass} (frame : Frame dcRackName written before after) (answer : WriteAnswer) :
    Frame dcRackName written before (after.updateCassandraStatus answer) := by
  obtain ⟨metadata, spec, quiet⟩ := updateCassandraStatus_quiet after.needUpdate
    after.cc after.status answer
  refine (frame.emitQuiet quiet).congr rfl rfl metadata ?_ ?_ rfl
  · exact congrArg CassandraClusterSpec.settled spec
  · have same := congrArg CassandraClusterSpec.unlockNextOperation spec
    exact fun unlocked => same.symm.trans unlocked

theorem finalizeLoop_mem {status : CassandraClusterStatus} {label effect : Effect}
    (attempts : List FinalizeAttempt) :
    ∀ (cc : CassandraCluster) (needUpdate : Bool),
      effect ∈ (finalizeLoop status label attempts cc needUpdate).effects →
      effect = label ∨ ∃ needUpdate cc answer,
        effect ∈ (updateCassandraStatus needUpdate cc status answer).effects := by
  induction attempts with
  | nil =>
    intro cc needUpdate member
    cases member
  | cons attempt attempts induction =>
    intro cc needUpdate member
    unfold finalizeLoop at member
    split at member
    · exact induction cc needUpdate member
    · dsimp only at member
      split at member
      · rcases List.mem_cons.mp member with labels | written
        · exact Or.inl labels
        · exact Or.inr ⟨_, _, _, written⟩
      · rcases List.mem_cons.mp member with labels | member
        · exact Or.inl labels
        rcases List.mem_append.mp member with written | later
        · exact Or.inr ⟨_, _, _, written⟩
        · exact induction _ _ later

end Casskop
