import Casskop.Controller.Reconcile
import Casskop.Validation.ChangeFacts

/-!
# When racks count as ready

A rack that initializes is running once its last pod is, and a new seed list is rolled out
once every rack waits for it.  The two tests that decide this look at less than that: the
pod is taken from a list by its position, and of each DC only the first rack that does not
wait is looked at.
-/

namespace Casskop

/-! ## The last pod -/

theorem length_sortPodsList (pods : List Pod) : (sortPodsList pods).length = pods.length :=
  List.length_insertionSort _ _

theorem podAtCount_eq_none_iff (pods : List Pod) (nodesPerRacks : Int) :
    podAtCount (sortPodsList pods) nodesPerRacks = none ↔
      nodesPerRacks < 1 ∨ (pods.length : Int) < nodesPerRacks := by
  unfold podAtCount
  split
  · rename_i few
    simp [few]
  · rename_i enough
    rw [List.getElem?_eq_none_iff, length_sortPodsList]
    omega

/-- The indices are in range, and a rack that stops initializing has its last pod. -/
structure PodIndexing (now : Nat) (cc : CassandraCluster) (dcRackName : String)
    (sts : StatefulSet) (rack : CassandraRackStatus) (pods : Except ApiError (List Pod))
    (ended : EndAnswers) : Prop where
  phase : updateCassandraRackStatusPhase now cc.spec dcRackName sts rack pods ≠ .fault
  ended : rack.cassandraLastAction.name = .scaleUp →
    updateStatusIfActionEnded now cc dcRackName sts rack ended ≠ .fault
  running : rack.phase = .initializing → ∀ rack',
    updateCassandraRackStatusPhase now cc.spec dcRackName sts rack pods = .updated rack' →
    rack'.phase = .running →
    isStatefulSetReady sts = true ∧ ∃ listed, pods = .ok listed ∧
      ∃ pod ∈ listed, (endingNumber pod.name : Int) = cc.spec.getNodesPerRacks dcRackName - 1 ∧
        pod.isReady = true

section Indexing

variable {now : Nat} {cc : CassandraCluster} {dcRackName : String} {sts : StatefulSet}
  {rack : CassandraRackStatus} {pods : Except ApiError (List Pod)} {ended : EndAnswers}

theorem phaseFromReadiness_ready (ready : isStatefulSetReady sts = true)
    (rack : CassandraRackStatus) : (phaseFromReadiness sts rack).phase = .running := by
  unfold phaseFromReadiness
  rw [if_neg (by simp [isStatefulSetNotReady, ready])]
  by_cases running : rack.phase = .running
  · simp [running]
  · simp [running]

/-- The rack initializes, its StatefulSet is ready and the list has a pod. -/
structure LooksForLast (cc : CassandraCluster) (dcRackName : String) (sts : StatefulSet)
    (rack : CassandraRackStatus) (pods : Except ApiError (List Pod)) (listed : List Pod) :
    Prop where
  initializing : rack.phase = .initializing
  nodes : 0 < cc.spec.getNodesPerRacks dcRackName
  ready : isStatefulSetReady sts = true
  read : pods = .ok listed
  some : listed ≠ []

/-- Then the pod is looked up, and found or not the rack is running. -/
theorem LooksForLast.phase {listed : List Pod}
    (looks : LooksForLast cc dcRackName sts rack pods listed) :
    (updateCassandraRackStatusPhase now cc.spec dcRackName sts rack pods = .fault ∧
        (listed.length : Int) < cc.spec.getNodesPerRacks dcRackName) ∨
      (∃ rack', updateCassandraRackStatusPhase now cc.spec dcRackName sts rack pods =
          .updated rack' ∧ rack'.phase = .running) ∧
        cc.spec.getNodesPerRacks dcRackName ≤ listed.length := by
  obtain ⟨initializing, nodes, ready, read, some⟩ := looks
  have notEmpty : ¬ listed.length < 1 := by simpa using some
  have isReady : ¬ isStatefulSetNotReady sts = true := by simp [isStatefulSetNotReady, ready]
  unfold updateCassandraRackStatusPhase
  rw [if_pos initializing, read]
  dsimp only
  rw [if_neg (by omega), if_neg isReady, if_neg notEmpty]
  cases found : podAtCount (sortPodsList listed) (cc.spec.getNodesPerRacks dcRackName) with
  | none =>
    have short := (podAtCount_eq_none_iff _ _).mp found
    exact Or.inl ⟨rfl, by omega⟩
  | some pod =>
    have long : ¬ (cc.spec.getNodesPerRacks dcRackName < 1 ∨
        (listed.length : Int) < cc.spec.getNodesPerRacks dcRackName) := by
      intro short
      rw [(podAtCount_eq_none_iff _ _).mpr short] at found
      cases found
    exact Or.inr ⟨⟨_, rfl, phaseFromReadiness_ready ready _⟩, by omega⟩

theorem updateCassandraRackStatusPhase_waits (initializing : rack.phase = .initializing)
    (other : ∀ listed, ¬ LooksForLast cc dcRackName sts rack pods listed) :
    ∃ rack', updateCassandraRackStatusPhase now cc.spec dcRackName sts rack pods =
      .updated rack' ∧ rack'.phase ≠ .running := by
  unfold updateCassandraRackStatusPhase
  rw [if_pos initializing]
  dsimp only
  split
  · exact ⟨_, rfl, by simp [setDecommissionStatus]⟩
  rename_i nodes
  split
  · exact ⟨_, rfl, by simp [initializing]⟩
  rename_i ready
  split
  · exact ⟨_, rfl, by simp [initializing]⟩
  rename_i listed
  split
  · exact ⟨_, rfl, by simp [initializing]⟩
  rename_i some
  refine absurd ⟨initializing, by omega, ?_, rfl, ?_⟩ (other listed)
  · simpa [isStatefulSetNotReady] using ready
  · simpa using some

theorem updateCassandraRackStatusPhase_later (later : rack.phase ≠ .initializing) :
    updateCassandraRackStatusPhase now cc.spec dcRackName sts rack pods ≠ .fault := by
  unfold updateCassandraRackStatusPhase
  rw [if_neg later]
  simp

/-- A scale up looks its last pod up, and there is no pod of that place. -/
structure ScaleUpWithoutNodes (cc : CassandraCluster) (dcRackName : String) (sts : StatefulSet)
    (rack : CassandraRackStatus) (ended : EndAnswers) : Prop where
  running : rack.cassandraLastAction.status = .ongoing ∨
    rack.cassandraLastAction.status = .continue
  scaling : rack.cassandraLastAction.name = .scaleUp
  reached : cc.spec.getNodesPerRacks dcRackName = sts.status.replicas
  listed : ∃ listed, ended.pods = .ok listed ∧ listed ≠ []
  nodes : cc.spec.getNodesPerRacks dcRackName ≤ 0

theorem updateStatusIfActionEnded_fault_iff (scaling : rack.cassandraLastAction.name = .scaleUp) :
    updateStatusIfActionEnded now cc dcRackName sts rack ended = .fault ↔
      ScaleUpWithoutNodes cc dcRackName sts rack ended := by
  unfold updateStatusIfActionEnded
  dsimp only
  rw [scaling]
  dsimp only
  constructor
  · intro faults
    split at faults
    · rename_i running
      split at faults
      · rename_i reached
        unfold scaleUpEnded at faults
        split at faults
        · cases faults
        rename_i listed read
        split at faults
        · cases faults
        rename_i some
        split at faults
        · cases faults
        rename_i long
        split at faults
        · rename_i missing
          have short := (podAtCount_eq_none_iff _ _).mp missing
          exact ⟨running, scaling, reached, ⟨listed, read, by simpa using some⟩, by omega⟩
        · split at faults
          · split at faults <;> cases faults
          · cases faults
      · cases faults
    · cases faults
  · rintro ⟨running, _, reached, ⟨listed, read, some⟩, nodes⟩
    rw [if_pos running, if_pos reached]
    unfold scaleUpEnded
    have notEmpty : ¬ listed.length < 1 := by simpa using some
    rw [read]
    dsimp only
    rw [if_neg notEmpty, if_neg (by omega),
      (podAtCount_eq_none_iff _ _).mpr (Or.inl (by omega))]

end Indexing

/-- What the lists have to hold: a ready pod with the last ordinal, at its place, for a rack
that initializes, and a node for a scale up. -/
theorem podIndexing_iff (now : Nat) (cc : CassandraCluster) (dcRackName : String)
    (sts : StatefulSet) (rack : CassandraRackStatus) (pods : Except ApiError (List Pod))
    (ended : EndAnswers) :
    PodIndexing now cc dcRackName sts rack pods ended ↔
      (∀ listed, LooksForLast cc dcRackName sts rack pods listed →
        cc.spec.getNodesPerRacks dcRackName ≤ listed.length ∧
          ∃ pod ∈ listed,
            (endingNumber pod.name : Int) = cc.spec.getNodesPerRacks dcRackName - 1 ∧
              pod.isReady = true) ∧
        ¬ ScaleUpWithoutNodes cc dcRackName sts rack ended := by
  constructor
  · rintro ⟨phase, noFault, running⟩
    refine ⟨fun listed looks => ?_, fun scaling => ?_⟩
    · rcases looks.phase with ⟨faults, _⟩ | ⟨⟨rack', updated, isRunning⟩, long⟩
      · exact absurd faults phase
      · obtain ⟨_, read, same, pod⟩ := running looks.initializing rack' updated isRunning
        rw [looks.read] at same
        cases same
        exact ⟨long, pod⟩
    · exact noFault scaling.scaling ((updateStatusIfActionEnded_fault_iff scaling.scaling).mpr
        scaling)
  · rintro ⟨lists, nodes⟩
    refine ⟨?_, fun scaling faults => ?_, fun initializing rack' updated isRunning => ?_⟩
    · by_cases initializing : rack.phase = .initializing
      · by_cases looking : ∃ listed, LooksForLast cc dcRackName sts rack pods listed
        · obtain ⟨listed, looks⟩ := looking
          have long := (lists listed looks).1
          rcases looks.phase with ⟨_, short⟩ | ⟨⟨rack', updated, _⟩, _⟩
          · omega
          · rw [updated]
            simp
        · obtain ⟨rack', updated, _⟩ := updateCassandraRackStatusPhase_waits initializing
            (not_exists.mp looking)
          rw [updated]
          simp
      · exact updateCassandraRackStatusPhase_later initializing
    · exact nodes ((updateStatusIfActionEnded_fault_iff scaling).mp faults)
    · by_cases looking : ∃ listed, LooksForLast cc dcRackName sts rack pods listed
      · obtain ⟨listed, looks⟩ := looking
        exact ⟨looks.ready, listed, looks.read, (lists listed looks).2⟩
      · obtain ⟨waiting, waits, notRunning⟩ := updateCassandraRackStatusPhase_waits initializing
          (not_exists.mp looking)
        rw [waits] at updated
        cases updated
        exact absurd isRunning notRunning

/-- A cluster whose rack is to have three nodes, while its StatefulSet still has one. -/
def grownCluster : CassandraCluster :=
  { metadata := { name := "cassandra", ns := "default" }
    spec :=
      { nodesPerRacks := 3
        topology := { dc := [{ name := "dc1", rack := [{ name := "rack1" }] }] } } }

def readyWithOne : StatefulSet :=
  { name := "cassandra-dc1-rack1"
    spec := { replicas := 1 }
    status := { replicas := 1, readyReplicas := 1 } }

def firstPod : List Pod := [{ name := "cassandra-dc1-rack1-0" }]

def endAnswers : EndAnswers :=
  { pods := .ok firstPod
    joining := { podsOfRack := fun _ => .ok firstPod, joiningNodes := .ok false }
    labelled := .ok [] }

/-- The message about a StatefulSet that is scaling up does not keep the code from taking the
third pod. -/
theorem podIndexing_grown :
    ¬ PodIndexing 0 grownCluster "dc1-rack1" readyWithOne initialRackStatus (.ok firstPod)
      endAnswers := by
  have looks : LooksForLast grownCluster "dc1-rack1" readyWithOne initialRackStatus
      (.ok firstPod) firstPod := ⟨rfl, by decide, rfl, rfl, by simp [firstPod]⟩
  intro indexing
  rcases looks.phase with ⟨faults, _⟩ | ⟨_, long⟩
  · exact indexing.phase faults
  · revert long
    decide

/-! ## Racks that wait for the seed list -/

/-- The rack has been told to configure its seed list. -/
def configures (racks : GoMap CassandraRackStatus) (dcRackName : String) : Bool :=
  (racks.lookup dcRackName).any fun rack =>
    rack.cassandraLastAction.name == .updateSeedList &&
      rack.cassandraLastAction.status == .configuring

/-- The first rack of a DC that has not. -/
def firstOther (racks : GoMap CassandraRackStatus) (dcRackNames : List String) : Option String :=
  dcRackNames.find? fun dcRackName => !configures racks dcRackName

/-- The names of the racks, DC by DC. -/
def CassandraClusterSpec.racksByDC (spec : CassandraClusterSpec) : List (List String) :=
  (List.range spec.getDCSize).map spec.racksOfDC

/-- The cluster as a whole configures its seed list. -/
def CassandraClusterStatus.SeedListConfigured (status : CassandraClusterStatus) : Prop :=
  status.lastClusterAction = .updateSeedList ∧ status.lastClusterActionStatus = .configuring

/-- Every rack has a status, and one for which this holds. -/
def EveryRack (spec : CassandraClusterSpec) (racks : GoMap CassandraRackStatus)
    (holds : CassandraRackStatus → Prop) : Prop :=
  ∀ dcRackName ∈ spec.racksInOrder, ∃ rack, racks.lookup dcRackName = some rack ∧ holds rack

/-- The rollout starts when all racks are ready for it, on those that are not initializing. -/
structure RollsOutSeedList (spec : CassandraClusterSpec) (status : CassandraClusterStatus) :
    Prop where
  returns : (ensureSeedListIsUpdatedWhenRequired spec status).2 = false
  ready : (ensureSeedListIsUpdatedWhenRequired spec status).1 ≠ status →
    EveryRack spec status.cassandraRackStatus fun rack =>
      (rack.cassandraLastAction.name = .updateSeedList ∧
          rack.cassandraLastAction.status = .configuring) ∨
        rack.phase = .initializing
  started : (ensureSeedListIsUpdatedWhenRequired spec status).1 ≠ status →
    ∃ racks, (ensureSeedListIsUpdatedWhenRequired spec status).1 =
        { status with cassandraRackStatus := racks } ∧
      ∀ name, racks.lookup name =
        if name ∈ spec.racksInOrder then
          (status.cassandraRackStatus.lookup name).map fun rack =>
            if rack.phase = .initializing then rack
            else
              { rack with
                cassandraLastAction :=
                  { rack.cassandraLastAction with name := .updateSeedList, status := .toDo } }
        else status.cassandraRackStatus.lookup name

section SeedList

variable {racks : GoMap CassandraRackStatus}

theorem dcIsConfiguring_eq (dcRackNames : List String) :
    dcIsConfiguring racks dcRackNames =
      match firstOther racks dcRackNames with
      | none => some true
      | some other =>
        (racks.lookup other).map fun rack => rack.cassandraLastAction.name == .initializing := by
  induction dcRackNames with
  | nil => rfl
  | cons dcRackName rest induction =>
    unfold dcIsConfiguring firstOther
    rw [List.find?_cons]
    cases found : racks.lookup dcRackName with
    | none => simp [configures, found]
    | some rack =>
      by_cases waits : rack.cassandraLastAction.name = .updateSeedList ∧
          rack.cassandraLastAction.status = .configuring
      · have configured : configures racks dcRackName = true := by
          simp [configures, found, waits]
        rw [configured]
        simp only [if_pos waits, Bool.not_true]
        exact induction
      · have other : configures racks dcRackName = false := by
          rw [← Bool.not_eq_true]
          simpa [configures, found] using waits
        rw [other]
        simp [waits, found]

theorem allConfiguring_isSome_iff (dcs : List (List String)) :
    (allConfiguring racks dcs).isSome = true ↔
      ∀ dcRackNames ∈ dcs, (dcIsConfiguring racks dcRackNames).isSome = true := by
  induction dcs with
  | nil => simp [allConfiguring]
  | cons dcRackNames rest induction =>
    unfold allConfiguring
    cases first : dcIsConfiguring racks dcRackNames with
    | none => simp [first]
    | some configuring =>
      dsimp only
      rw [Option.isSome_map, induction]
      simp [first]

theorem allConfiguring_true_iff (dcs : List (List String)) :
    allConfiguring racks dcs = some true ↔
      ∀ dcRackNames ∈ dcs, dcIsConfiguring racks dcRackNames = some true := by
  induction dcs with
  | nil => simp [allConfiguring]
  | cons dcRackNames rest induction =>
    unfold allConfiguring
    cases first : dcIsConfiguring racks dcRackNames with
    | none => simp [first]
    | some configuring =>
      rw [List.forall_mem_cons, first, ← induction]
      cases configuring <;> simp

theorem seedListToDo_seedListToDo (rack : CassandraRackStatus) :
    seedListToDo (seedListToDo rack) = seedListToDo rack := by
  unfold seedListToDo
  by_cases initializing : rack.phase = .initializing
  · simp [initializing]
  · simp [initializing]

theorem flagSeedList_eq (dcRackNames : List String) (racks : GoMap CassandraRackStatus) :
    flagSeedList dcRackNames racks = updateAll seedListToDo dcRackNames racks := by
  induction dcRackNames generalizing racks with
  | nil => rfl
  | cons dcRackName rest induction =>
    unfold flagSeedList updateAll
    cases racks.lookup dcRackName with
    | none => rfl
    | some rack => exact induction _

theorem flagSeedList_returns_iff (dcRackNames : List String) (racks : GoMap CassandraRackStatus) :
    (flagSeedList dcRackNames racks).2 = false ↔
      ∀ name ∈ dcRackNames, (racks.lookup name).isSome = true := by
  rw [flagSeedList_eq]
  exact updateAll_returns_iff _ _ _

theorem flagSeedList_lookup (dcRackNames : List String) (racks : GoMap CassandraRackStatus)
    (returns : (flagSeedList dcRackNames racks).2 = false) (name : String) :
    (flagSeedList dcRackNames racks).1.lookup name =
      if name ∈ dcRackNames then (racks.lookup name).map seedListToDo
      else racks.lookup name := by
  rw [flagSeedList_eq] at returns ⊢
  exact updateAll_lookup seedListToDo_seedListToDo _ _ returns name

/-- The first loop comes to its end. -/
def FirstOthersListed (spec : CassandraClusterSpec) (racks : GoMap CassandraRackStatus) : Prop :=
  ∀ dcRackNames ∈ spec.racksByDC, ∀ other, firstOther racks dcRackNames = some other →
    (racks.lookup other).isSome = true

/-- It finds no rack it objects to. -/
def FirstOthersInitial (spec : CassandraClusterSpec) (racks : GoMap CassandraRackStatus) : Prop :=
  ∀ dcRackNames ∈ spec.racksByDC, ∀ other, firstOther racks dcRackNames = some other →
    ∃ rack, racks.lookup other = some rack ∧ rack.cassandraLastAction.name = .initializing

theorem allConfiguring_isSome_racksByDC (spec : CassandraClusterSpec) :
    (allConfiguring racks spec.racksByDC).isSome = true ↔ FirstOthersListed spec racks := by
  rw [allConfiguring_isSome_iff]
  refine forall₂_congr fun dcRackNames _ => ?_
  rw [dcIsConfiguring_eq]
  cases firstOther racks dcRackNames <;> simp

theorem allConfiguring_true_racksByDC (spec : CassandraClusterSpec) :
    allConfiguring racks spec.racksByDC = some true ↔ FirstOthersInitial spec racks := by
  rw [allConfiguring_true_iff]
  refine forall₂_congr fun dcRackNames _ => ?_
  rw [dcIsConfiguring_eq]
  cases firstOther racks dcRackNames <;> simp

section Rollout

variable {spec : CassandraClusterSpec} {status : CassandraClusterStatus}

theorem ensureSeedListIsUpdatedWhenRequired_eq (configured : status.SeedListConfigured) :
    ensureSeedListIsUpdatedWhenRequired spec status =
      match allConfiguring status.cassandraRackStatus spec.racksByDC with
      | none => (status, true)
      | some false => (status, false)
      | some true =>
        ({ status with
            cassandraRackStatus :=
              (flagSeedList spec.racksInOrder status.cassandraRackStatus).1 },
          (flagSeedList spec.racksInOrder status.cassandraRackStatus).2) :=
  if_pos configured

/-- Unless the loop comes to its end without objection, nothing is changed. -/
theorem ensureSeedListIsUpdatedWhenRequired_objects (configured : status.SeedListConfigured)
    (objects : ¬ FirstOthersInitial spec status.cassandraRackStatus) :
    (ensureSeedListIsUpdatedWhenRequired spec status).1 = status ∧
      ((ensureSeedListIsUpdatedWhenRequired spec status).2 = false ↔
        FirstOthersListed spec status.cassandraRackStatus) := by
  rw [← allConfiguring_isSome_racksByDC, ensureSeedListIsUpdatedWhenRequired_eq configured]
  rw [← allConfiguring_true_racksByDC] at objects
  cases all : allConfiguring status.cassandraRackStatus spec.racksByDC with
  | none => simp
  | some configuring =>
    cases configuring with
    | false => simp
    | true => exact absurd all objects

theorem seedListToDo_eq_self_iff (rack : CassandraRackStatus) :
    seedListToDo rack = rack ↔
      rack.phase = .initializing ∨
        (rack.cassandraLastAction.name = .updateSeedList ∧
          rack.cassandraLastAction.status = .toDo) := by
  obtain ⟨phase, ⟨actionStatus, name, startTime, endTime⟩, operation, snapshot⟩ := rack
  unfold seedListToDo
  by_cases initializing : phase = .initializing
  · simp [initializing]
  · simp [initializing, eq_comm, and_comm]

/-- Flagging the racks leaves the status as it was when none has anything to be set. -/
theorem flagSeedList_same_iff (racks : GoMap CassandraRackStatus)
    (returns : (flagSeedList spec.racksInOrder racks).2 = false) :
    (flagSeedList spec.racksInOrder racks).1 = racks ↔
      EveryRack spec racks fun rack =>
        rack.phase = .initializing ∨
          (rack.cassandraLastAction.name = .updateSeedList ∧
            rack.cassandraLastAction.status = .toDo) := by
  have listed := (flagSeedList_returns_iff _ _).mp returns
  constructor
  · intro same dcRackName member
    obtain ⟨rack, found⟩ := Option.isSome_iff_exists.mp (listed dcRackName member)
    refine ⟨rack, found, (seedListToDo_eq_self_iff rack).mp ?_⟩
    have flagged := flagSeedList_lookup spec.racksInOrder racks returns dcRackName
    rw [same, if_pos member, found] at flagged
    exact (Option.some.inj flagged).symm
  · intro settled
    refine Finmap.ext_lookup fun name => ?_
    rw [flagSeedList_lookup _ _ returns]
    split
    · rename_i member
      obtain ⟨rack, found, same⟩ := settled name member
      rw [found, Option.map_some, (seedListToDo_eq_self_iff rack).mpr same]
    · rfl

end Rollout

end SeedList

/-- The rollout is right when the racks the first loop stops at have a status, and when, if it
objects to none of them, all racks are ready or none has anything to be set. -/
theorem rollsOutSeedList_iff (spec : CassandraClusterSpec) (status : CassandraClusterStatus) :
    RollsOutSeedList spec status ↔
      (status.SeedListConfigured →
        FirstOthersListed spec status.cassandraRackStatus ∧
          (FirstOthersInitial spec status.cassandraRackStatus →
            (EveryRack spec status.cassandraRackStatus fun rack =>
              (rack.cassandraLastAction.name = .updateSeedList ∧
                  rack.cassandraLastAction.status = .configuring) ∨
                rack.phase = .initializing) ∨
              EveryRack spec status.cassandraRackStatus fun rack =>
                rack.phase = .initializing ∨
                  (rack.cassandraLastAction.name = .updateSeedList ∧
                    rack.cassandraLastAction.status = .toDo))) := by
  by_cases configured : status.SeedListConfigured
  · by_cases initial : FirstOthersInitial spec status.cassandraRackStatus
    · have result : ensureSeedListIsUpdatedWhenRequired spec status = _ :=
        ensureSeedListIsUpdatedWhenRequired_eq configured
      rw [(allConfiguring_true_racksByDC spec).mpr initial] at result
      have listed : FirstOthersListed spec status.cassandraRackStatus := by
        intro dcRackNames member other first
        obtain ⟨rack, found, _⟩ := initial dcRackNames member other first
        rw [found]
        rfl
      constructor
      · rintro ⟨returns, ready, _⟩ _
        refine ⟨listed, fun _ => ?_⟩
        rw [result] at returns ready
        by_cases same :
            (flagSeedList spec.racksInOrder status.cassandraRackStatus).1 =
              status.cassandraRackStatus
        · exact Or.inr ((flagSeedList_same_iff _ returns).mp same)
        · refine Or.inl (ready fun unchanged => same ?_)
          exact congrArg CassandraClusterStatus.cassandraRackStatus unchanged
      · intro condition
        have racks := (condition configured).2 initial
        have returns : (flagSeedList spec.racksInOrder status.cassandraRackStatus).2 = false := by
          refine (flagSeedList_returns_iff _ _).mpr fun name member => ?_
          rcases racks with ready | settled
          · obtain ⟨rack, found, _⟩ := ready name member
            rw [found]
            rfl
          · obtain ⟨rack, found, _⟩ := settled name member
            rw [found]
            rfl
        rw [← flagSeedList_same_iff _ returns] at racks
        refine ⟨by rw [result]; exact returns, fun changed => ?_, fun _ => ?_⟩
        · rcases racks with ready | same
          · exact ready
          · rw [result, same] at changed
            exact absurd rfl changed
        · rw [result]
          exact ⟨_, rfl, flagSeedList_lookup _ _ returns⟩
    · obtain ⟨same, returns⟩ := ensureSeedListIsUpdatedWhenRequired_objects configured initial
      constructor
      · intro rollsOut _
        exact ⟨returns.mp rollsOut.returns, fun isInitial => absurd isInitial initial⟩
      · intro condition
        exact ⟨returns.mpr (condition configured).1, fun changed => absurd same changed,
          fun changed => absurd same changed⟩
  · have result : ensureSeedListIsUpdatedWhenRequired spec status = (status, false) :=
      if_neg configured
    refine ⟨fun _ isConfigured => absurd isConfigured configured, fun _ => ?_⟩
    refine ⟨by rw [result], fun changed => ?_, fun changed => ?_⟩
    · rw [result] at changed
      exact absurd rfl changed
    · rw [result] at changed
      exact absurd rfl changed

/-- Behind a rack that initializes, one scales up. -/
def seedListCluster : CassandraClusterSpec :=
  { topology := { dc := [{ name := "dc1", rack := [{ name := "rack1" }, { name := "rack2" }] }] } }

def scalingBehind : CassandraClusterStatus :=
  { lastClusterAction := .updateSeedList
    lastClusterActionStatus := .configuring
    cassandraRackStatus :=
      ((∅ : GoMap CassandraRackStatus).insert "dc1-rack1" initialRackStatus).insert "dc1-rack2"
        { phase := .running, cassandraLastAction := { name := .scaleUp, status := .ongoing } } }

/-- The `break` at the first rack hides the second, whose scale up is overwritten. -/
theorem rollsOutSeedList_hidden : ¬ RollsOutSeedList seedListCluster scalingBehind := by
  have overwritten :
      ((ensureSeedListIsUpdatedWhenRequired seedListCluster
        scalingBehind).1.cassandraRackStatus.lookup "dc1-rack2").map
          (fun rack => rack.cassandraLastAction.name) = some .updateSeedList := by decide +kernel
  intro rollsOut
  have changed : (ensureSeedListIsUpdatedWhenRequired seedListCluster scalingBehind).1 ≠
      scalingBehind := by
    intro same
    rw [same] at overwritten
    revert overwritten
    decide +kernel
  obtain ⟨rack, found, ready⟩ := rollsOut.ready changed "dc1-rack2" (by decide +kernel)
  have stored : scalingBehind.cassandraRackStatus.lookup "dc1-rack2" =
      some
        { phase := .running, cassandraLastAction := { name := .scaleUp, status := .ongoing } } := by
    decide +kernel
  rw [stored] at found
  cases found
  simp at ready

end Casskop
