import Casskop.Controller.PassInvariants

/-!
# Initialized clusters stay initialized

A pass starts over when the cluster has no phase.  Once the cluster and its racks
have one, no pass takes it away.
-/

namespace Casskop

/-! ## Racks -/

/-- Every rack has a phase. -/
def Phased (racks : RackStatuses) : Prop :=
  ∀ name rack, racks.lookup name = some rack → rack.phase ≠ .unset

variable {racks : RackStatuses}

theorem Phased.insert (phased : Phased racks) {name : String} {rack : CassandraRackStatus}
    (phase : rack.phase ≠ .unset) : Phased (racks.insert name rack) := by
  intro other found lookup
  by_cases same : other = name
  · subst same
    rw [Finmap.lookup_insert, Option.some.injEq] at lookup
    exact lookup ▸ phase
  · rw [Finmap.lookup_insert_of_ne racks same] at lookup
    exact phased other found lookup

section Changes

variable {spec : CassandraClusterSpec} {dcRackName : String} {answers : RackAnswers}
  {rack rack' : CassandraRackStatus}

theorem ObservedChange.phase_eq (change : ObservedChange spec dcRackName answers rack rack') :
    rack'.phase = rack.phase ∨ rack'.phase = .pending ∨ rack'.phase = .running := by
  cases change with
  | phase phase started => exact Or.inr started
  | abortInitializing | scaleDown | upsize => exact Or.inr (Or.inl rfl)
  | startResources =>
    unfold startUpdateResources
    split <;> exact Or.inl rfl
  | initialized | ended | detected | revisionChanged => exact Or.inl rfl

theorem UpdateChange.phase_eq (change : UpdateChange answers rack rack') :
    rack'.phase = rack.phase := by
  cases change with
  | started => rfl
  | written noCheckStsAreEqual =>
    unfold actionOnWrite
    dsimp only
    repeat' split
    all_goals rfl

theorem RackChange.phase_eq (change : RackChange spec dcRackName answers rack rack') :
    rack'.phase = rack.phase ∨ rack'.phase = .pending ∨ rack'.phase = .running := by
  cases change with
  | ordinary change =>
    cases change with
    | observed change => exact change.phase_eq
    | decommission change => cases change <;> exact Or.inl rfl
    | operation change => cases change; exact Or.inl rfl
    | update change => exact Or.inl change.phase_eq
  | upsize change =>
    cases change with
    | pending => exact Or.inr (Or.inl rfl)
    | saved => exact Or.inl rfl
    | finalized => exact Or.inl rfl

end Changes

theorem phased_stable (spec : CassandraClusterSpec) (dcRackName : String) (answers : RackAnswers) :
    Stable (.handling spec dcRackName answers) dcRackName Phased Phased := by
  refine ⟨fun racks phased _ => phased.insert (by simp [initialRackStatus]),
    fun racks rack rack' phased found change => phased.insert ?_, fun racks phased => phased,
    fun racks name rack op phased found => phased.insert (phased name rack found)⟩
  rcases change.phase_eq with same | pending | running
  · rw [same]
    exact phased dcRackName rack found
  · simp [pending]
  · simp [running]

theorem seedListToDo_phase (rack : CassandraRackStatus) :
    (seedListToDo rack).phase = rack.phase := by
  unfold seedListToDo
  split <;> rfl

theorem phased_seed (racks : RackStatuses) (name : String) (rack : CassandraRackStatus)
    (phased : Phased racks) (found : racks.lookup name = some rack) :
    Phased (racks.insert name (seedListToDo rack)) := by
  refine phased.insert ?_
  rw [seedListToDo_phase]
  exact phased name rack found

theorem Phased.ofFlagged {flags : Prop} {racks' : RackStatuses} (phased : Phased racks)
    (flagged : FromFlagged flags racks racks') : Phased racks' := by
  intro name rack found
  rcases flagged name rack found with kept | ⟨old, now, _, present, rfl⟩
  · exact phased name rack kept
  · exact phased name old present

theorem Phased.serialized (phased : Phased racks) :
    Phased (racks.mapValues CassandraRackStatus.serialized) := by
  intro name rack found
  rw [GoMap.lookup_mapValues, Option.map_eq_some_iff] at found
  obtain ⟨stored, present, rfl⟩ := found
  exact phased name stored present

/-! ## The loop keeps what no rack changes -/

/-- All copies of the status agree on the cluster. -/
structure AgreesOn (cluster : Phase × ActionName × ActionStatus) (pass : Pass) : Prop where
  working : pass.status.cluster = cluster
  object : pass.cc.status.cluster = cluster
  written : ∀ status succeeded, .updateClusterStatus status succeeded ∈ pass.effects →
    status.cluster = cluster

namespace AgreesOn

variable {cluster : Phase × ActionName × ActionStatus} {part : Part} {dcRackName : String}
  {answers : RackAnswers} {before after : Pass}

variable (agrees : AgreesOn cluster before)

include agrees

theorem emit {effects : List Effect}
    (quiet : ∀ status succeeded, Effect.updateClusterStatus status succeeded ∉ effects) :
    AgreesOn cluster (before.emit effects) := by
  refine ⟨agrees.working, agrees.object, fun status succeeded member => ?_⟩
  rcases List.mem_append.mp member with old | new
  · exact agrees.written status succeeded old
  · exact absurd new (quiet status succeeded)

theorem updateCassandraStatus (answer : WriteAnswer) :
    AgreesOn cluster (before.updateCassandraStatus answer) := by
  refine ⟨agrees.working, ?_, fun status succeeded member => ?_⟩
  · rcases updateCassandraStatus_object before.needUpdate before.cc before.status answer
      with same | new
    · exact (congrArg CassandraClusterStatus.cluster same).trans agrees.object
    · exact (congrArg CassandraClusterStatus.cluster new).trans agrees.working
  · rcases List.mem_append.mp member with old | new
    · exact agrees.written status succeeded old
    · rw [updateCassandraStatus_written new]
      exact agrees.working

theorem finalizeOperation (op : FinalizedOp) (attempts : List FinalizeAttempt) :
    AgreesOn cluster (finalizeOperation before op attempts).pass := by
  unfold Casskop.finalizeOperation
  split
  · exact agrees.emit (by simp)
  · refine ⟨agrees.working, agrees.object, fun status succeeded member => ?_⟩
    rcases List.mem_append.mp member with old | new
    · exact agrees.written status succeeded old
    · rcases List.mem_cons.mp new with impossible | later
      · cases impossible
      · rw [finalizeLoop_written (by simp) attempts _ _ later]
        exact agrees.object

theorem move (move : Move part dcRackName answers before after) : AgreesOn cluster after := by
  cases move with
  | init | rack | pdb => exact ⟨agrees.working, agrees.object, agrees.written⟩
  | emit emits =>
    refine agrees.emit fun status succeeded member => ?_
    rw [← List.mem_singleton.mp member] at emits
    cases part.isLocal emits
  | statusWrite answer records => exact agrees.updateCassandraStatus answer
  | finalize op attempts known records => exact agrees.finalizeOperation op attempts
  | memory status same object settled unlock kept =>
    refine ⟨same.trans agrees.working, ?_, ?_⟩
    · rw [object.1]
      exact agrees.object
    · rw [kept.2]
      exact agrees.written

theorem moves (moves : Moves part dcRackName answers before after) : AgreesOn cluster after := by
  induction moves with
  | refl => exact agrees
  | tail _ move induction => exact induction.move move

theorem iteration {written : List Effect}
    (iteration : Iteration part dcRackName answers written before after) :
    AgreesOn cluster after := by
  obtain ⟨middle, first, reasons, second⟩ := iteration.split
  refine ((agrees.moves first).emit fun status succeeded member => ?_).moves second
  cases reasons _ member

end AgreesOn

variable {answers : ReconcileAnswers}

theorem Ready.agreesOn {start ready : Pass} (isReady : Ready start answers ready)
    (unwritten : start.Unwritten) (platform : Platform) :
    AgreesOn start.cc.status.cluster (ready.looped platform answers) := by
  have begins : AgreesOn start.cc.status.cluster ready := by
    refine ⟨?_, ?_, fun status succeeded member => ?_⟩
    · rw [isReady.status]
      rfl
    · rw [isReady.object]
    · rw [isReady.effects] at member
      exact absurd member (unwritten status succeeded)
  refine reconcileRacks_invariant platform answers.racks _ ?_ ready false begins
  intro position _ pass step agrees iteration
  cases iteration with
  | nameless => exact agrees
  | added => exact ⟨agrees.working, agrees.object, agrees.written⟩
  | deleting =>
    exact agrees.emit deletePVCs_unwritten
  | handled rackStatus written step found alive handled path =>
    exact agrees.iteration handled.iteration

/-! ## The phase of the cluster -/

theorem scanRackPhases_phase (names : List String) :
    ∀ (status : CassandraClusterStatus) (unfinished : Bool), status.phase ≠ .unset →
      Phased status.cassandraRackStatus →
      (scanRackPhases names status unfinished).1.phase ≠ .unset := by
  induction names with
  | nil => exact fun status unfinished phase phased => phase
  | cons name names induction =>
    intro status unfinished phase phased
    unfold scanRackPhases
    split
    · exact induction status unfinished phase phased
    · rename_i rack found
      dsimp only
      split
      · exact phased name rack found
      · split
        · exact induction _ _ phase phased
        · exact induction _ _ phase phased

variable {status : CassandraClusterStatus}

theorem updateCassandraClusterStatusPhase_phase (spec : CassandraClusterSpec)
    (phase : status.phase ≠ .unset) (phased : Phased status.cassandraRackStatus) :
    (updateCassandraClusterStatusPhase spec status).phase ≠ .unset := by
  have scanned := scanRackPhases_phase spec.racksInOrder status false phase phased
  unfold updateCassandraClusterStatusPhase
  generalize scanRackPhases spec.racksInOrder status false = scan at scanned
  obtain ⟨status', unfinished, ended⟩ := scan
  dsimp only at scanned ⊢
  repeat' split
  all_goals first | exact scanned | simp

theorem ensureSeedListIsUpdatedWhenRequired_phase (spec : CassandraClusterSpec)
    (status : CassandraClusterStatus) :
    (ensureSeedListIsUpdatedWhenRequired spec status).1.phase = status.phase := by
  unfold ensureSeedListIsUpdatedWhenRequired
  repeat' split
  all_goals rfl

/-- The working status and all statuses written have a phase. -/
structure HasPhase (pass : Pass) : Prop where
  working : pass.status.phase ≠ .unset
  written : ∀ status succeeded, .updateClusterStatus status succeeded ∈ pass.effects →
    status.phase ≠ .unset

section Passes

variable (platform : Platform) (answers : ReconcileAnswers) {start ready : Pass}

theorem Ready.phased (isReady : Ready start answers ready) (unwritten : start.Unwritten)
    (phased : Phased start.cc.status.cassandraRackStatus) :
    Throughout Phased (ready.looped platform answers) := by
  have begins : Throughout Phased ready := by
    refine ⟨phased.ofFlagged isReady.flagged.fromFlagged, ?_, fun status succeeded member => ?_⟩
    · rw [isReady.object]
      exact phased
    · rw [isReady.effects] at member
      exact absurd member (unwritten status succeeded)
  refine reconcileRacks_invariant platform answers.racks _ ?_ ready false begins
  intro position _ pass step satisfies iteration
  cases iteration with
  | nameless => exact satisfies
  | added absent =>
    exact ⟨satisfies.working.insert (by simp [initialRackStatus]), satisfies.object,
      satisfies.written⟩
  | deleting => exact satisfies.deletePVCs
  | handled rackStatus written step found alive handled path =>
    exact handled.iteration.satisfies (phased_stable _ _ _) satisfies

theorem reconcileRacksAndPhase_hasPhase (isReady : Ready start answers ready)
    (unwritten : start.Unwritten) (phase : start.cc.status.phase ≠ .unset)
    (phased : Phased start.cc.status.cassandraRackStatus) :
    HasPhase (reconcileRacksAndPhase platform answers ready).1 := by
  have agrees := isReady.agreesOn unwritten platform
  have kept : ∀ status : CassandraClusterStatus,
      status.cluster = start.cc.status.cluster → status.phase ≠ .unset :=
    fun status same => (congrArg Prod.fst same).trans_ne phase
  obtain ⟨status, _, _, last, effects, updates⟩ := @reconcileRack_fields platform answers ready
  unfold reconcileRacksAndPhase
  dsimp only
  generalize reconcileRack platform answers.racks answers.removeFinalizers ready = ran
    at status effects updates
  have run : HasPhase ran.pass := by
    refine ⟨?_, fun written succeeded member => ?_⟩
    · rw [status]
      exact kept _ agrees.working
    · rw [effects] at member
      rcases List.mem_append.mp member with old | new
      · exact kept _ (agrees.written written succeeded old)
      · cases updates _ new
  have racks : Phased ran.pass.status.cassandraRackStatus := by
    rw [status]
    exact (isReady.phased platform answers unwritten phased).working
  split
  · exact run
  · exact run
  · exact run
  all_goals
    have seeded := (ensureSeedListIsUpdatedWhenRequired_phase ran.pass.cc.spec
      ran.pass.status).trans_ne run.working
    split
    · exact ⟨seeded, run.written⟩
    · refine ⟨updateCassandraClusterStatusPhase_phase _ seeded ?_, run.written⟩
      exact ensureSeedListIsUpdatedWhenRequired_keeps phased_seed _ racks

theorem reconcileDeferred_hasPhase (unwritten : start.Unwritten)
    (phase : start.cc.status.phase ≠ .unset) (phased : Phased start.cc.status.cassandraRackStatus) :
    HasPhase (reconcileDeferred platform answers start) := by
  have checked : HasPhase
      (reconcileChecked platform answers { start with status := start.cc.status }).1 := by
    have checkedCase := reconcileChecked_case platform answers start
    generalize reconcileChecked platform answers { start with status := start.cc.status } =
      result at checkedCase
    cases checkedCase with
    | stopped stopped deletions object racks whole same effects deletes =>
      refine ⟨same.trans_ne phase, fun status succeeded member => ?_⟩
      rw [effects] at member
      rcases List.mem_append.mp member with old | new
      · exact absurd old (unwritten status succeeded)
      · obtain ⟨_, _, impossible⟩ := deletes _ new
        cases impossible
    | loop ready isReady =>
      exact reconcileRacksAndPhase_hasPhase platform answers isReady unwritten phase phased
  unfold reconcileDeferred
  dsimp only
  split
  · exact checked
  · refine ⟨checked.working, fun status succeeded member => ?_⟩
    rcases List.mem_append.mp member with old | new
    · exact checked.written status succeeded old
    · rw [updateCassandraStatus_written new]
      exact checked.working

theorem reconcileDeferred_phased (unwritten : start.Unwritten)
    (phased : Phased start.cc.status.cassandraRackStatus) :
    Throughout Phased (reconcileDeferred platform answers start) :=
  reconcileDeferred_satisfies platform answers unwritten
    (fun _ flagged _ => phased.ofFlagged flagged)
    (fun _ isReady => isReady.phased platform answers unwritten phased)
    (fun _ isReady => ensureSeedListIsUpdatedWhenRequired_keeps phased_seed _
      (isReady.phased platform answers unwritten phased).working)

end Passes

/-! ## Runs -/

theorem AllInitial.phased (initial : AllInitial racks) : Phased racks := by
  intro name rack found
  rw [initial name rack found]
  simp [initialRackStatus]

namespace World

variable (platform : Platform) {world : World}

/-- All racks of the stored status have a phase. -/
def Phased (world : World) : Prop :=
  Casskop.Phased world.cluster.status.cassandraRackStatus

/-- A status is written at the first pass of a cluster, or by the reconciliation that starts
from the stored status. -/
theorem pass_written {succeeded : Bool}
    (member : .updateClusterStatus status succeeded ∈ (world.pass platform answers).effects) :
    world.cluster.status.phase = .unset ∧ AllInitial status.cassandraRackStatus ∨
      ∃ start : Pass, start.Unwritten ∧ start.cc.status = world.cluster.status ∧
        .updateClusterStatus status succeeded ∈
          (reconcileDeferred platform answers start).effects := by
  have passCase := reconcile_case platform world.memory world.cluster answers
  change _ ∈ (reconcile platform world.memory world.cluster answers).effects at member
  generalize reconcile platform world.memory world.cluster answers = pass at passCase member
  cases passCase with
  | initializing pass unset same fresh =>
    exact Or.inl ⟨unset, initializeCluster_written fresh member⟩
  | refused pass sent metadata spec only => simp [only] at member
  | deferred start started =>
    exact Or.inr ⟨start, started.unwritten, started.status, member⟩

theorem pass_phased (phased : world.Phased) {succeeded : Bool}
    (member : .updateClusterStatus status succeeded ∈ (world.pass platform answers).effects) :
    Casskop.Phased status.cassandraRackStatus := by
  rcases pass_written platform member with ⟨_, initial⟩ | ⟨start, unwritten, same, later⟩
  · exact initial.phased
  · rw [World.Phased, ← same] at phased
    exact (reconcileDeferred_phased platform answers unwritten phased).written _ _ later

theorem pass_initialized (phased : world.Phased) (phase : world.cluster.status.phase ≠ .unset)
    {succeeded : Bool}
    (member : .updateClusterStatus status succeeded ∈ (world.pass platform answers).effects) :
    status.phase ≠ .unset := by
  rcases pass_written platform member with ⟨unset, _⟩ | ⟨start, unwritten, same, later⟩
  · exact absurd unset phase
  · rw [World.Phased, ← same] at phased
    rw [← same] at phase
    exact (reconcileDeferred_hasPhase platform answers unwritten phase phased).written _ _ later

theorem step_phased (event : Event) (phased : world.Phased) :
    (world.step platform event).Phased := by
  cases event with
  | edit | restart => exact phased
  | pass answers =>
    exact pass_racks platform world answers phased (fun _ good => good.serialized)
      fun _ _ member => pass_phased platform phased member

theorem step_initialized (event : Event) (phased : world.Phased)
    (phase : world.cluster.status.phase ≠ .unset) :
    (world.step platform event).cluster.status.phase ≠ .unset := by
  cases event with
  | edit | restart => exact phase
  | pass answers =>
    change (world.applyEffects (world.pass platform answers).effects).cluster.status.phase ≠ _
    rcases applyEffects_status (world.pass platform answers).effects world with
      same | ⟨status, member, last⟩
    · rw [same]
      exact phase
    · rw [last]
      have kept : status.phase ≠ .unset := pass_initialized platform phased phase member
      exact kept

end World

end Casskop
