import Casskop.Controller.Reconcile
import Casskop.Library.Runs

/-!
# Runs of the operator

The world is the CassandraCluster and the StatefulSets as the API server stores
them, and the memory of the operator process.  Users edit the object, the process
restarts, and reconcile passes issue their effects in order.
-/

namespace Casskop

/-! ## Storing a status -/

/-- The map with every value changed. -/
def GoMap.mapValues {α β : Type} (change : α → β) (entries : GoMap α) : GoMap β :=
  ⟨entries.entries.map fun entry => ⟨entry.1, change entry.2⟩, by
    have nodup := Multiset.nodup_keys.mpr entries.nodupKeys
    refine Multiset.nodup_keys.mp ?_
    rw [Multiset.keys, Multiset.map_map]
    exact nodup⟩

theorem GoMap.lookup_mapValues {α β : Type} (change : α → β) (entries : GoMap α) (key : String) :
    (entries.mapValues change).lookup key = (entries.lookup key).map change := by
  have onLists : ∀ items : List (Sigma fun _ : String => α),
      (items.map fun entry => (⟨entry.1, change entry.2⟩ : Sigma fun _ : String => β)).dlookup
        key = (items.dlookup key).map change := by
    intro items
    induction items with
    | nil => rfl
    | cons entry items induction =>
      obtain ⟨name, value⟩ := entry
      by_cases same : key = name
      · subst same
        simp
      · simp only [List.map_cons]
        rw [List.dlookup_cons_ne _ _ same, List.dlookup_cons_ne _ _ same, induction]
  induction entries using Finmap.induction_on with
  | H entries => exact onLists entries.entries

/-- Empty slices are omitted when an object is stored. -/
def omitEmpty (items : Option (List String)) : Option (List String) :=
  if items = some [] then none else items

def CassandraRackStatus.serialized (rack : CassandraRackStatus) : CassandraRackStatus :=
  setOperation rack fun operation =>
    { operation with
      pods := omitEmpty operation.pods
      podsOK := omitEmpty operation.podsOK
      podsKO := omitEmpty operation.podsKO }

def CassandraClusterStatus.serialized (status : CassandraClusterStatus) :
    CassandraClusterStatus :=
  { status with
    cassandraRackStatus := status.cassandraRackStatus.mapValues CassandraRackStatus.serialized }

/-! ## The world -/

/-- What stays in the process after a pass. -/
def Pass.memory (pass : Pass) : Memory :=
  { needUpdate := pass.needUpdate
    storedPdb := pass.storedPdb
    storedStatefulSet := pass.storedStatefulSet }

/-- The memory of a process that has just started; its budget is not used before
it is read. -/
def Memory.empty : Memory := { storedPdb := { name := "", ns := "" } }

structure World where
  cluster : CassandraCluster
  /-- By dc-rack name. -/
  statefulSets : String → Option StatefulSet
  memory : Memory

inductive Event where
  | edit (metadata : ObjectMeta) (spec : CassandraClusterSpec)
  | restart
  | pass (answers : ReconcileAnswers)

namespace World

def setStatefulSet (world : World) (dcRackName : String) (sts : Option StatefulSet) : World :=
  { world with statefulSets := Function.update world.statefulSets dcRackName sts }

/-- What an effect changes; a call that failed changes nothing. -/
def applyEffect (world : World) : Effect → World
  | .createStatefulSet rack sts true => world.setStatefulSet rack (some sts)
  | .updateStatefulSet rack _ sts true => world.setStatefulSet rack (some sts)
  | .recreateStatefulSet rack sts true => world.setStatefulSet rack (some sts)
  | .deleteStatefulSet rack true => world.setStatefulSet rack none
  | .orphanStatefulSet rack true => world.setStatefulSet rack none
  | .updateCluster lastApplied true =>
    { world with
      cluster :=
        { world.cluster with
          metadata := lastApplied.metadata
          spec := lastApplied.spec
          annotation := .config lastApplied } }
  | .updateObject metadata spec true =>
    { world with cluster := { world.cluster with metadata := metadata, spec := spec } }
  | .updateClusterStatus status true =>
    { world with cluster := { world.cluster with status := status.serialized } }
  | _ => world

def applyEffects (world : World) (effects : List Effect) : World :=
  effects.foldl applyEffect world

theorem applyEffects_append (world : World) (first second : List Effect) :
    world.applyEffects (first ++ second) = (world.applyEffects first).applyEffects second :=
  List.foldl_append

/-- The pass the operator makes on the stored object. -/
def pass (platform : Platform) (world : World) (answers : ReconcileAnswers) : Pass :=
  reconcile platform world.memory world.cluster answers

def step (platform : Platform) (world : World) : Event → World
  | .edit metadata spec =>
    { world with cluster := { world.cluster with metadata := metadata, spec := spec } }
  | .restart => { world with memory := Memory.empty }
  | .pass answers =>
    let pass := world.pass platform answers
    { world.applyEffects pass.effects with memory := pass.memory }

def rackStatus (world : World) (dcRackName : String) : Option CassandraRackStatus :=
  world.cluster.status.cassandraRackStatus.lookup dcRackName

end World

end Casskop
