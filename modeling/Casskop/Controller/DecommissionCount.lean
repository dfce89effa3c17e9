import Mathlib.Data.Int.Interval
import Casskop.Controller.Shrinking

/-!
# How many nodes are decommissioned

`ensureDecommissionToDo` takes the last pod there is.  Whether that pod is to go at all
depends on how the record came to be To-Do, or Continue: the number of nodes that is wanted
is not looked at again.
-/

namespace Casskop

/-! ## Starting a decommission -/

/-- A decommission that was started, and the nodes that were wanted then. -/
structure StartedDecommission where
  dcRackName : String
  pod : String
  nodesPerRacks : Int
  deriving DecidableEq

def Effect.started : Effect → Option StartedDecommission
  | .startDecommission dcRackName pod nodesPerRacks => some ⟨dcRackName, pod, nodesPerRacks⟩
  | _ => none

theorem Effect.isDecommission_of_started {effect : Effect} {started : StartedDecommission}
    (starts : effect.started = some started) : effect.isDecommission = true := by
  cases effect <;> first | rfl | cases starts

theorem Effect.started_of_isOuter {effect : Effect} {started : StartedDecommission}
    (outer : effect.isOuter = true) : effect.started ≠ some started := by
  intro starts
  have uninvolved := isDecommission_of_isOuter outer
  rw [isDecommission_of_started starts] at uninvolved
  cases uninvolved

/-- A decommission was started on the rack, whose record asked for it. -/
structure StartsDecommission (answers : RackAnswers) (spec : CassandraClusterSpec)
    (dcRackName : String) (rack : CassandraRackStatus) (started : StartedDecommission) : Prop where
  here : started.dcRackName = dcRackName
  wanted : started.nodesPerRacks = spec.getNodesPerRacks dcRackName
  asked : ∃ sts rack', answers.statefulSet = .ok sts ∧
    ObservedChanges spec dcRackName answers rack rack' ∧ weAreScalingDown rack' = true ∧
    (rack'.podLastOperation.status = .toDo ∨ rack'.podLastOperation.status = .continue)
  last : ∃ pods lastPod, answers.handle.decommission.podsList = .ok pods ∧
    getLastOrFirstPodItem pods true = some lastPod ∧ started.pod = lastPod.name

section Iteration

variable {platform : Platform} {answers : RackAnswers} {pass : Pass} {effect : Effect}
  {started : StartedDecommission}

theorem FromDecommission.starts {names : CompleteRackName} {rack : CassandraRackStatus}
    {step : RackStep} (called : FromDecommission platform answers names rack pass step effect)
    (starts : effect.started = some started) :
    StartsDecommission answers pass.cc.spec names.dcRackName rack started := by
  cases called with
  | call sts rack' middle result read changes moves found scaling called new member made =>
    have emitted : ∀ (changed : Pass) (effects : List Effect),
        changed.effects = middle.effects → effect ∈ (changed.emit effects).effects →
        effect ∈ effects := by
      intro changed effects same member
      exact (List.mem_append.mp member).resolve_left (same ▸ new)
    cases called with
    | wait | fault | retry | more => exact absurd member new
    | otherOperation | unknownStatus | bypass =>
      rw [List.mem_singleton.mp (emitted _ _ rfl member)] at starts
      cases starts
    | start pods lastPod mode named asked listed last observed =>
      rcases List.mem_cons.mp (emitted _ _ rfl member) with rfl | started
      · cases starts
      · rw [List.mem_singleton.mp started] at starts
        cases starts
        refine ⟨rfl, ?_, ⟨sts, rack', read, changes, scaling, asked⟩,
          ⟨pods, lastPod, listed, last, rfl⟩⟩
        dsimp only
        rw [← CassandraClusterSpec.getNodesPerRacks_settled, moves.frame.spec,
          CassandraClusterSpec.getNodesPerRacks_settled]
    | left =>
      rcases List.mem_append.mp member with logged | written
      · rw [List.mem_singleton.mp (emitted _ _ rfl logged)] at starts
        cases starts
      · have uninvolved := updateCassandraStatus_uninvolved written
        rw [Effect.isDecommission_of_started starts] at uninvolved
        cases uninvolved
    | finish podName others effects finalizing pods claim =>
      rw [claim effect (emitted _ _ rfl member)] at starts
      cases starts

theorem IterationCase.starts {position : Nat × Nat} {step : RackStep}
    (iteration : IterationCase platform answers position.1 position.2 pass step)
    (member : effect ∈ step.pass.effects) (starts : effect.started = some started) :
    effect ∈ pass.effects ∨ ∃ rack ∈ pass.rackStatus (pass.cc.spec.rackNameAt position),
      StartsDecommission answers pass.cc.spec (pass.cc.spec.rackNameAt position) rack started := by
  rcases iteration.decommission member (Effect.isDecommission_of_started starts) with
    old | ⟨_, deleted⟩ | ⟨rack, found, called⟩
  · exact Or.inl old
  · obtain ⟨_, rfl⟩ := deletePVCs_quiet answers _ deleted
    cases starts
  · exact Or.inr ⟨rack, found, called.starts starts⟩

end Iteration

/-! ## Why the node is one too many -/

/-- The last pod listed is the one of the highest ordinal the StatefulSet asks for. -/
def DecommissionAnswers.EndsAt (answers : DecommissionAnswers) (podOf : Nat → String)
    (replicas : Int) : Prop :=
  ∀ pods lastPod, answers.podsList = .ok pods → getLastOrFirstPodItem pods true = some lastPod →
    lastPod.name = podOf (endingNumber lastPod.name) ∧
      (endingNumber lastPod.name : Int) + 1 = replicas

/-- The StatefulSet of a rack that waits for a decommission is larger than it is to be. -/
def WaitsRightly (nodesPerRacks : Int) (sts : StatefulSet) (rack : CassandraRackStatus) : Prop :=
  weAreScalingDown rack = true →
    rack.podLastOperation.status = .toDo ∨ rack.podLastOperation.status = .continue →
    nodesPerRacks < sts.spec.replicas

theorem ObservedChanges.record_cases {spec : CassandraClusterSpec} {dcRackName : String}
    {answers : RackAnswers} {rack rack' : CassandraRackStatus}
    (changes : ObservedChanges spec dcRackName answers rack rack') :
    RecordKept rack rack' ∨ answers.ScalesDown spec dcRackName := by
  induction changes with
  | refl => exact Or.inl ⟨rfl, id⟩
  | tail _ change induction =>
    rcases change.record_cases with kept | ⟨asked, _⟩
    · refine induction.imp_left fun before => ⟨kept.record.trans before.record, fun scaling => ?_⟩
      exact before.scaling (kept.scaling scaling)
    · exact Or.inr asked

/-- The pod is beyond the nodes that are wanted, and the last one the StatefulSet asks for. -/
structure Surplus (answers : RackAnswers) (podOf : Nat → String)
    (started : StartedDecommission) : Prop where
  surplus : started.nodesPerRacks ≤ endingNumber started.pod
  name : started.pod = podOf (endingNumber started.pod)
  replicas : ∃ sts, answers.statefulSet = .ok sts ∧
    (endingNumber started.pod : Int) + 1 = sts.spec.replicas

theorem StartsDecommission.surplus {answers : RackAnswers} {spec : CassandraClusterSpec}
    {dcRackName : String} {rack : CassandraRackStatus} {started : StartedDecommission}
    {podOf : Nat → String} (starts : StartsDecommission answers spec dcRackName rack started)
    (ends : ∀ sts, answers.statefulSet = .ok sts →
      answers.handle.decommission.EndsAt podOf sts.spec.replicas)
    (rightly : ∀ sts, answers.statefulSet = .ok sts →
      WaitsRightly (spec.getNodesPerRacks dcRackName) sts rack) :
    Surplus answers podOf started := by
  obtain ⟨sts, rack', read, changes, scaling, asked⟩ := starts.asked
  obtain ⟨pods, lastPod, listed, last, pod⟩ := starts.last
  obtain ⟨name, ordinal⟩ := ends sts read pods lastPod listed last
  rw [← pod] at name ordinal
  refine ⟨?_, name, sts, read, ordinal⟩
  rw [starts.wanted]
  rcases changes.record_cases with kept | ⟨sts', read', fewer⟩
  · rw [kept.record] at asked
    have fewer := rightly sts read (kept.scaling scaling) asked
    omega
  · obtain rfl : sts' = sts := Except.ok.inj (read'.symm.trans read)
    omega

/-! ## The pass -/

/-- In every rack of the pass the last pod listed ends its StatefulSet, and the racks that
wait for a decommission do so rightly. -/
structure World.CountsDown (podOf : String → Nat → String) (world : World)
    (answers : ReconcileAnswers) : Prop where
  distinct : (world.cluster.spec.rackPositions.map world.cluster.spec.rackNameAt).Nodup
  ends : ∀ position ∈ world.cluster.spec.rackPositions,
    ∀ sts, (answers.racks position).statefulSet = .ok sts →
      (answers.racks position).handle.decommission.EndsAt
        (podOf (world.cluster.spec.rackNameAt position)) sts.spec.replicas
  rightly : ∀ position ∈ world.cluster.spec.rackPositions,
    ∀ sts, (answers.racks position).statefulSet = .ok sts →
      ∀ rack ∈ world.rackStatus (world.cluster.spec.rackNameAt position),
        WaitsRightly
          (world.cluster.spec.getNodesPerRacks (world.cluster.spec.rackNameAt position)) sts rack

/-- The decommissions a step of the run starts. -/
def World.started (platform : Platform) (world : World) : Event → List StartedDecommission
  | .pass answers => (world.pass platform answers).effects.filterMap Effect.started
  | _ => []

/-- A start in one of the racks of the pass, on a pod that is to go. -/
def World.StartsRightly (podOf : String → Nat → String) (world : World)
    (answers : ReconcileAnswers) (started : StartedDecommission) : Prop :=
  ∃ position ∈ world.cluster.spec.rackPositions,
    started.dcRackName = world.cluster.spec.rackNameAt position ∧
    started.nodesPerRacks = world.cluster.spec.getNodesPerRacks started.dcRackName ∧
    Surplus (answers.racks position) (podOf started.dcRackName) started

section Pass

variable {platform : Platform} {podOf : String → Nat → String}

theorem reconcileRacks_startsRightly {answers : ReconcileAnswers} {world : World}
    {start ready : Pass} (started : Started world.cluster start)
    (isReady : Ready start answers ready) (counts : world.CountsDown podOf answers) :
    ∀ effect ∈ (ready.looped platform answers).effects, ∀ begun, effect.started = some begun →
      world.StartsRightly podOf answers begun := by
  have spec : ready.cc.spec = world.cluster.spec.checkDefaults := isReady.spec.trans started.spec
  have positions : ready.cc.spec.rackPositions = world.cluster.spec.rackPositions := by
    rw [spec, world.cluster.spec.checkDefaults_topology.1]
  have names : ready.cc.spec.rackNameAt = world.cluster.spec.rackNameAt := by
    rw [spec, world.cluster.spec.checkDefaults_topology.2]
  have nodes : ready.cc.spec.getNodesPerRacks = world.cluster.spec.getNodesPerRacks := by
    funext dcRackName
    rw [spec, CassandraClusterSpec.checkDefaults_nodes]
  refine @reconcileRacks_visits
    (fun pass => ∀ effect ∈ pass.effects, ∀ begun, effect.started = some begun →
      world.StartsRightly podOf answers begun) (fun _ _ => True) platform
    answers.racks ready ready.cc.spec.rackPositions
    (by rw [positions, names]; exact counts.distinct)
    (fun position member pass visiting _ holds => ⟨?_, fun _ _ _ => trivial⟩)
    (fun effect member begun starts => ?_) (fun _ _ => trivial) false
  · intro effect isEmitted begun starts
    have iteration := reconcileRackAt_case platform (answers.racks position) position.1 position.2
      pass
    rcases iteration.starts isEmitted starts with old | ⟨rack, found, begins⟩
    · exact holds effect old begun starts
    rw [visiting.rackNameAt, visiting.rack] at found
    rw [visiting.rackNameAt] at begins
    rw [positions] at member
    refine ⟨position, member, ?_, ?_, ?_⟩
    · rw [begins.here, names]
    · rw [begins.wanted, begins.here, visiting.getNodesPerRacks, nodes]
    · rw [begins.here, names]
      refine begins.surplus (counts.ends position member) fun sts read => ?_
      rw [visiting.getNodesPerRacks, nodes, names]
      have flagged := isReady.flagged (ready.cc.spec.rackNameAt position)
      rw [started.status] at flagged
      rcases flagged with kept | ⟨old, now, _, _, changed⟩
      · refine counts.rightly position member sts read rack ?_
        rw [← names]
        exact kept.symm.trans found
      · obtain rfl : flagUpdateResources now old = rack :=
          Option.some.inj (changed.symm.trans found)
        intro scaling
        simp [weAreScalingDown_eq, flagUpdateResources] at scaling
  · rw [isReady.effects] at member
    exact absurd starts (Effect.started_of_isOuter (started.outer effect member).1)

theorem World.pass_startsRightly {world : World} {answers : ReconcileAnswers}
    (counts : world.CountsDown podOf answers) :
    ∀ begun ∈ world.started platform (.pass answers), world.StartsRightly podOf answers begun := by
  intro begun isBegun
  obtain ⟨effect, member, starts⟩ := List.mem_filterMap.mp isBegun
  cases reconcile_loopCase platform world.memory world.cluster answers with
  | quiet outer => exact absurd starts (Effect.started_of_isOuter (outer effect member))
  | loop start ready started isReady last outer effects =>
    rw [World.pass, effects] at member
    rcases List.mem_append.mp member with inLoop | after
    · exact reconcileRacks_startsRightly started isReady counts effect inLoop begun starts
    · exact absurd starts (Effect.started_of_isOuter (outer effect after).1)

end Pass

/-! ## Runs -/

def World.CountsDownIn (podOf : String → Nat → String) (world : World) : Event → Prop
  | .pass answers => world.CountsDown podOf answers
  | _ => True

/-- As many nodes are wanted in the rack, and no more are found in its StatefulSet. -/
def World.Wants (dcRackName : String) (nodesPerRacks most : Int) (world : World) : Event → Prop
  | .pass answers =>
    world.cluster.spec.getNodesPerRacks dcRackName = nodesPerRacks ∧
      ∀ position ∈ world.cluster.spec.rackPositions,
        world.cluster.spec.rackNameAt position = dcRackName →
        ∀ sts, (answers.racks position).statefulSet = .ok sts → sts.spec.replicas ≤ most
  | _ => True

/-- The pods of a rack that decommissions were started on. -/
def startedPods (dcRackName : String) (begun : List StartedDecommission) : Finset String :=
  ((begun.filter fun started => started.dcRackName = dcRackName).map
    StartedDecommission.pod).toFinset

theorem startedPods_card {podOf : Nat → String} {dcRackName : String} {nodesPerRacks most : Int}
    {begun : List StartedDecommission}
    (each : ∀ started ∈ begun, started.dcRackName = dcRackName →
      nodesPerRacks ≤ endingNumber started.pod ∧ (endingNumber started.pod : Int) < most ∧
        started.pod = podOf (endingNumber started.pod)) :
    (startedPods dcRackName begun).card ≤ (most - nodesPerRacks).toNat := by
  have within : startedPods dcRackName begun ⊆
      (Finset.Ico nodesPerRacks most).image fun ordinal => podOf ordinal.toNat := by
    intro pod member
    obtain ⟨started, isBegun, rfl⟩ := List.mem_map.mp (List.mem_toFinset.mp member)
    obtain ⟨isBegun, here⟩ := List.mem_filter.mp isBegun
    obtain ⟨least, greatest, name⟩ := each started isBegun (by simpa using here)
    refine Finset.mem_image.mpr ⟨endingNumber started.pod, Finset.mem_Ico.mpr ⟨least, greatest⟩, ?_⟩
    exact name.symm
  calc (startedPods dcRackName begun).card
      ≤ ((Finset.Ico nodesPerRacks most).image fun ordinal => podOf ordinal.toNat).card :=
        Finset.card_le_card within
    _ ≤ (Finset.Ico nodesPerRacks most).card := Finset.card_image_le
    _ = (most - nodesPerRacks).toNat := Int.card_Ico nodesPerRacks most

/-- When all passes count down, decommissions are started on pods that are to go only, and
while a number of nodes is wanted in a rack, on no more pods than are to go. -/
theorem no_over_decommission (platform : Platform) (podOf : String → Nat → String)
    (start : World) (events : List Event)
    (counts : Runs.Meets (World.step platform) (World.CountsDownIn podOf) start events) :
    let begun := Runs.collect (World.step platform) (World.started platform) start events
    (∀ started ∈ begun, started.nodesPerRacks ≤ endingNumber started.pod) ∧
      ∀ dcRackName nodesPerRacks stored, start.statefulSets dcRackName = some stored →
        Runs.Meets (World.step platform)
          (World.Wants dcRackName nodesPerRacks stored.spec.replicas) start events →
        (startedPods dcRackName begun).card ≤ (stored.spec.replicas - nodesPerRacks).toNat := by
  intro begun
  refine ⟨counts.collect fun world event counts started member => ?_,
    fun dcRackName nodesPerRacks stored _ wants => ?_⟩
  · cases event with
    | edit => cases member
    | restart => cases member
    | pass answers =>
      obtain ⟨_, _, _, _, surplus⟩ := World.pass_startsRightly counts started member
      exact surplus.surplus
  · refine @startedPods_card (podOf dcRackName) _ _ _ _ ((counts.and wants).collect
      fun world event both started member here => ?_)
    cases event with
    | edit => cases member
    | restart => cases member
    | pass answers =>
      obtain ⟨counts, wanted, atMost⟩ := both
      obtain ⟨position, isPosition, rack, nodes, surplus⟩ :=
        World.pass_startsRightly counts started member
      obtain ⟨sts, read, ordinal⟩ := surplus.replicas
      have most := atMost position isPosition (rack.symm.trans here) sts read
      have least := surplus.surplus
      rw [nodes, here, wanted] at least
      exact ⟨least, by omega, here ▸ surplus.name⟩

/-! ## A StatefulSet that is not ready -/

def stockedWorld : World :=
  { oneRackWorld with statefulSets := fun _ => some oneRackStatefulSet }

def oneToGo : World :=
  Runs.run (World.step seededPlatform) stockedWorld (runningThen (oneRackSpec "cassandra:4" 1))

def oneRackPod (_ : String) (ordinal : Nat) : String :=
  "demo-dc1-rack1-" ++ toString ordinal

theorem oneToGo_countsDown :
    oneToGo.CountsDown oneRackPod (oneRackPass 300 (lastPodIn .normal)) := by
  have spec : oneToGo.cluster.spec = oneRackSpec "cassandra:4" 1 := rfl
  have positions : (oneRackSpec "cassandra:4" 1).rackPositions = [(0, 0)] := by decide
  have idle : (oneToGo.rackStatus "dc1-rack1").map weAreScalingDown = some false := by
    decide +kernel
  have last : getLastOrFirstPodItem (firstPods "dc1-rack1" 2) true =
      some (readyPod "demo-dc1-rack1-1") := by decide
  constructor
  · rw [spec]
    decide
  · intro position _ sts read pods lastPod listed isLast
    cases read
    cases listed
    obtain rfl := Option.some.inj (last.symm.trans isLast)
    change "demo-dc1-rack1-1" = oneRackPod "" (endingNumber "demo-dc1-rack1-1") ∧
      (endingNumber "demo-dc1-rack1-1" : Int) + 1 = 2
    decide
  · intro position member sts _ rack found scaling
    rw [spec, positions, List.mem_singleton] at member
    subst member
    change oneToGo.rackStatus "dc1-rack1" = some rack at found
    rw [found] at idle
    simp only [Option.map_some, Option.some.injEq] at idle
    simp [idle] at scaling

theorem oneToGo_one_decommission :
    let begun := Runs.collect (World.step seededPlatform) (World.started seededPlatform) oneToGo
      [.pass (oneRackPass 300 (lastPodIn .normal))]
    begun = [⟨"dc1-rack1", "demo-dc1-rack1-1", 1⟩] ∧
      (∀ started ∈ begun, started.nodesPerRacks ≤ endingNumber started.pod) ∧
      (startedPods "dc1-rack1" begun).card ≤ 1 := by
  obtain ⟨surplus, counted⟩ := no_over_decommission seededPlatform oneRackPod oneToGo
    [.pass (oneRackPass 300 (lastPodIn .normal))] ⟨oneToGo_countsDown, trivial⟩
  refine ⟨by decide +kernel, surplus, counted "dc1-rack1" 1 oneRackStatefulSet rfl ⟨⟨?_, ?_⟩,
    trivial⟩⟩
  · decide +kernel
  · intro position _ _ sts read
    cases read
    exact Int.le_refl _

/-- A pass over the rack when its StatefulSet has one pod left. -/
def shrunkPass (now : Nat) (ready : Int)
    (decommission : DecommissionAnswers → DecommissionAnswers) : ReconcileAnswers :=
  let sts : StatefulSet :=
    { oneRackStatefulSet with
      spec := { oneRackStatefulSet.spec with replicas := 1 }
      status := { replicas := 1, readyReplicas := ready } }
  let calm := calmAnswers now fun _ => sts
  { calm with
    racks := fun position =>
      { calm.racks position with
        handle :=
          { (calm.racks position).handle with
            decommission := decommission (calm.racks position).handle.decommission } } }

def firstPodIn (mode : OperationMode) (answers : DecommissionAnswers) : DecommissionAnswers :=
  { answers with podsList := .ok (firstPods "dc1-rack1" 1), operationMode := .ok mode }

/-- While the second pod goes the first one is not ready. -/
def unreadyShrink : List Event :=
  [.pass (oneRackPass 300 (lastPodIn .normal)), .pass (oneRackPass 400 (lastPodIn .decommissioned)),
    .pass (shrunkPass 500 0 id), .pass (shrunkPass 600 1 (firstPodIn .normal))]

/-- The second decommission takes the node that is to stay. -/
theorem unready_decommissions_too_many :
    Runs.collect (World.step seededPlatform) (World.started seededPlatform) oneToGo unreadyShrink =
      [⟨"dc1-rack1", "demo-dc1-rack1-1", 1⟩, ⟨"dc1-rack1", "demo-dc1-rack1-0", 1⟩] ∧
      endingNumber "demo-dc1-rack1-0" < 1 ∧
      (oneToGo.statefulSets "dc1-rack1").map (fun stored => stored.spec.replicas) = some 2 := by
  obtain ⟨begun, stored⟩ :
      Runs.collect (World.step seededPlatform) (World.started seededPlatform) oneToGo
          unreadyShrink =
        [⟨"dc1-rack1", "demo-dc1-rack1-1", 1⟩, ⟨"dc1-rack1", "demo-dc1-rack1-0", 1⟩] ∧
      (oneToGo.statefulSets "dc1-rack1").map (fun stored => stored.spec.replicas) = some 2 := by
    decide +kernel
  exact ⟨begun, by decide, stored⟩

end Casskop
