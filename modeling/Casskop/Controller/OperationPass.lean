import Casskop.Controller.OneOngoing
import Casskop.Controller.OperationSteps

/-!
# Whole passes keep the books

The rules for single calls are carried through the rack loop, which finds every rack as
the pass read it, and through the rest of the pass.
-/

namespace Casskop

/-! ## Assumptions on a pass -/

/-- The answers for one rack, against the process as it was before the pass. -/
structure OrderlyAt (kinds durable : Prop) (process : Process) (dcRackName : String)
    (answers : RackAnswers) : Prop where
  works : ∀ rack, process.racks.lookup dcRackName = some rack →
    Works kinds durable process dcRackName answers.handle.operations rack.podLastOperation
  /-- No scale down is asked for while operations are in flight. -/
  scaling : answers.ScalesDown process.world.cluster.spec dcRackName →
    process.books.Idle kinds dcRackName
  /-- No pod leaves the rack without a decommission. -/
  scheduled : kinds → ∀ pods lastPod, answers.handle.decommission.podsList = .ok pods →
    getLastOrFirstPodItem pods true = some lastPod → lastPod.phase ≠ .pending

/-- Every status write succeeds, and no result waits in the channel. -/
structure ReconcileAnswers.Accepted (answers : ReconcileAnswers) : Prop where
  operations : ∀ position, (answers.racks position).handle.operations.Accepted
  decommission : ∀ position,
    Except.succeeded (answers.racks position).handle.decommission.write.statusUpdate = true
  write : Except.succeeded answers.write.statusUpdate = true

structure Process.Orderly (kinds : Prop) (process : Process) (answers : ReconcileAnswers) :
    Prop where
  distinct : (process.world.cluster.spec.rackPositions.map
    process.world.cluster.spec.rackNameAt).Nodup
  racks : ∀ position ∈ process.world.cluster.spec.rackPositions,
    OrderlyAt kinds answers.Accepted process
      (process.world.cluster.spec.rackNameAt position) (answers.racks position)
  /-- No rack is removed while operations are in flight on it. -/
  dropped : ∀ dcRackName, process.world.cluster.defaulted.Drops dcRackName →
    process.books.Idle kinds dcRackName

variable {platform : Platform}

namespace Tracked

variable {kinds durable : Prop} {start : Process} {pass : Pass} {dcRackName : String}
  {rack : CassandraRackStatus} {answers : RackAnswers}

/-! ## Decommissions -/

theorem decommission {ready : Bool} {result : PodOperationResult}
    (tracked : Tracked kinds durable start pass)
    (found : pass.rackStatus dcRackName = some rack) (scaling : weAreScalingDown rack = true)
    (scheduled : kinds → ∀ pods lastPod, answers.handle.decommission.podsList = .ok pods →
      getLastOrFirstPodItem pods true = some lastPod → lastPod.phase ≠ .pending)
    (accepted : durable →
      Except.succeeded answers.handle.decommission.write.statusUpdate = true)
    (step : DecommissionStep answers.now pass dcRackName rack answers.handle.decommission ready
      result) : Tracked kinds durable start result.pass := by
  have idle : ∀ {books : Books}, Fits kinds books dcRackName (some rack) →
      books.Idle kinds dcRackName := fun fits => fits.idle_of_scaling scaling
  have changed : ∀ {rack' : CassandraRackStatus},
      (∀ {books : Books}, Fits kinds books dcRackName (some rack) →
        Fits kinds books dcRackName (some rack')) →
      Tracked kinds durable start (pass.setRackStatus dcRackName rack') := by
    intro rack' fits
    exact tracked.rack fun _ before => fits (found ▸ before)
  cases step with
  | wait | fault => exact tracked
  | otherOperation | unknownStatus => exact tracked.emit (by simp [Effect.isCalm])
  | start pods lastPod mode named asked listed last observed =>
    have labelled : Tracked kinds durable start (pass.emit [.labelPod lastPod.name
        [("operation-status", "Ongoing"), ("operation-name", "decommission")]]) :=
      tracked.emit (by simp [Effect.isCalm])
    refine labelled.single (List.append_cons _ _ _) fun _ accounted _ => ?_
    refine ⟨accounted.balanced.attempt, fun other => ?_,
      fun other => (accounted.object other).attempt _,
      fun other => (accounted.stored other).attempt _, accounted.agrees⟩
    have fits := accounted.working other
    by_cases same : other = dcRackName
    · subst same
      rw [Pass.rackStatus_emit, found] at fits
      rw [Pass.rackStatus_emit, Pass.rackStatus_setRackStatus]
      exact Fits.begun (idle fits) lastPod.name named
    · rw [Pass.rackStatus_emit, Pass.rackStatus_setRackStatus_ne _ _ same]
      exact fits.attempt _
  | bypass pods lastPod named asked listed last pending =>
    have mixed : ¬ kinds := fun kind => scheduled kind pods lastPod listed last pending
    exact (changed fun fits => Fits.bypassed (idle fits) lastPod.name mixed).emit
      (by simp [Effect.isCalm])
  | retry ongoing =>
    refine changed fun fits => ?_
    exact fits.restatus (idle fits) rfl rfl fun _ _ done => by cases done
  | left podName others mode ongoing pods gone =>
    refine Tracked.updateCassandraStatus (emit (changed fun fits => ?_) ?_) accepted
    · exact fits.restatus (idle fits) rfl rfl fun _ _ done => by cases done
    · simp [Effect.isCalm]
  | finish podName others effects finalizing pods claim =>
    refine emit (changed fun fits => ?_) fun effect member => ?_
    · exact fits.finished (idle fits) pods rfl rfl rfl rfl
    · rw [claim effect member]
      rfl
  | more done => exact changed fun fits => fits.congr (.ofEq rfl) fun _ => scaling

/-! ## One iteration -/

theorem afterOperation (platform : Platform) (names : CompleteRackName)
    {result : PodOperationResult} (tracked : Tracked kinds durable start result.pass) :
    Tracked kinds durable start (afterOperation platform answers names result).pass := by
  unfold Casskop.afterOperation
  split
  · exact tracked
  · exact tracked
  · exact tracked.applyRack platform names
  · split <;> exact tracked

/-- What the pass knows when it comes to a rack. -/
structure Meeting (kinds durable : Prop) (start : Process) (dcRackName : String)
    (answers : RackAnswers) (pass : Pass) : Prop where
  tracked : Tracked kinds durable start pass
  pending : Pending start dcRackName pass
  orderly : OrderlyAt kinds durable start dcRackName answers
  operations : durable → answers.handle.operations.Accepted
  decommission : durable →
    Except.succeeded answers.handle.decommission.write.statusUpdate = true
  nodes : pass.cc.spec.getNodesPerRacks dcRackName =
    start.world.cluster.spec.getNodesPerRacks dcRackName

theorem observing_keeps {spec : CassandraClusterSpec}
    (nodes : spec.getNodesPerRacks dcRackName =
      start.world.cluster.spec.getNodesPerRacks dcRackName)
    (orderly : OrderlyAt kinds durable start dcRackName answers) :
    Keeps (.observing spec dcRackName answers) kinds
      (fun books => start.books.jobsAt dcRackName = 0 → start.books.Untouched dcRackName books)
      dcRackName := by
  refine ⟨Effect.isCalm_of_isPlain, rfl, fun known change fits => ?_⟩
  refine ObservedChange.fits change (fun down => ?_) fits
  have asked : answers.ScalesDown start.world.cluster.spec dcRackName := by
    unfold RackAnswers.ScalesDown at down ⊢
    rw [← nodes]
    exact down
  have idle := orderly.scaling asked
  exact (known idle.jobs).idle idle

theorem operatePath {names : CompleteRackName} {sts : StatefulSet} {step : RackStep}
    (process : platform.podName = start.podName) (tracked : Tracked kinds durable start pass)
    (pending : Pending start names.dcRackName pass)
    (found : pass.rackStatus names.dcRackName = some rack)
    (works : Works kinds durable start names.dcRackName answers.handle.operations
      rack.podLastOperation)
    (scheduled : kinds → ∀ pods lastPod, answers.handle.decommission.podsList = .ok pods →
      getLastOrFirstPodItem pods true = some lastPod → lastPod.phase ≠ .pending)
    (operations : durable → answers.handle.operations.Accepted)
    (decommissions : durable →
      Except.succeeded answers.handle.decommission.write.statusUpdate = true)
    (path : OperatePath platform answers names sts rack pass step) :
    Tracked kinds durable start step.pass := by
  cases path with
  | initializing phase => exact tracked.applyRack platform names
  | decommission result scaling step =>
    exact afterOperation platform names
      (tracked.decommission found scaling scheduled decommissions step)
  | operation result idle made moves kept =>
    refine afterOperation platform names ?_
    rw [made]
    exact tracked.handlePodOperation platform answers.now process found idle works operations
      pending _

theorem rackPath {position : Nat × Nat} {step : RackStep}
    (process : platform.podName = start.podName)
    (meeting : Meeting kinds durable start (pass.cc.spec.rackNameAt position) answers pass)
    (found : pass.rackStatus (pass.cc.spec.rackNameAt position) = some rack)
    (stored : ∃ read, start.racks.lookup (pass.cc.spec.rackNameAt position) = some read ∧
      rack.podLastOperation = read.podLastOperation)
    (path : RackPath platform answers position.1 position.2
      (pass.cc.spec.completeRackName position.1 position.2) rack pass step) :
    Tracked kinds durable start step.pass := by
  cases path with
  | unread failed => exact meeting.tracked.applyRack platform _
  | phaseFault => exact meeting.tracked
  | observed sts phased next read phase action step path =>
    obtain ⟨moves, changes⟩ := observed_moves platform position.1 position.2 rfl read found phase
      action
    obtain ⟨reached, pending⟩ := meeting.tracked.moves
      (observing_keeps meeting.nodes meeting.orderly) meeting.pending moves
    rcases path with ⟨_, rfl⟩ | path
    · exact reached
    · obtain ⟨stored, present, same⟩ := stored
      have works := (meeting.orderly.works stored present).congr
        fun ongoing => (changes.record ongoing).trans same
      exact reached.operatePath process pending (Pass.rackStatus_applyNext _ _ _) works
        meeting.orderly.scheduled meeting.operations meeting.decommission path

theorem reconcileRackAt (platform : Platform) (position : Nat × Nat)
    (process : platform.podName = start.podName)
    (meeting : Meeting kinds durable start (pass.cc.spec.rackNameAt position) answers pass)
    (stored : ∀ rack, pass.rackStatus (pass.cc.spec.rackNameAt position) = some rack →
      ∃ read, start.racks.lookup (pass.cc.spec.rackNameAt position) = some read ∧
        rack.podLastOperation = read.podLastOperation) :
    Tracked kinds durable start
      (reconcileRackAt platform answers position.1 position.2 pass).pass := by
  have iteration := reconcileRackAt_case platform answers position.1 position.2 pass
  generalize Casskop.reconcileRackAt platform answers position.1 position.2 pass = step
    at iteration
  cases iteration with
  | nameless empty => exact meeting.tracked
  | added absent =>
    refine meeting.tracked.rack fun _ fits => ?_
    rw [absent] at fits
    exact fits.initial
  | deleting deletes =>
    refine meeting.tracked.emit fun effect member => ?_
    obtain ⟨_, rfl⟩ := deletePVCs_quiet answers effect member
    rfl
  | handled rackStatus written step found alive handled path =>
    exact rackPath process meeting found (stored rackStatus found) path

end Tracked

/-! ## The loop -/

variable {flags : Prop} {before after : RackStatuses} {name : String} {pass : Pass}

section Loop

variable {kinds : Prop} {process : Process} {answers : ReconcileAnswers} {start ready : Pass}

theorem FlaggedAt.record (flagged : FlaggedAt flags before after name) {rack : CassandraRackStatus}
    (found : after.lookup name = some rack) :
    ∃ read, before.lookup name = some read ∧ rack.podLastOperation = read.podLastOperation := by
  rcases flagged with kept | ⟨read, now, _, present, changed⟩
  · exact ⟨rack, kept ▸ found, rfl⟩
  · refine ⟨read, present, ?_⟩
    rw [changed, Option.some.injEq] at found
    rw [← found]
    rfl

theorem FromFlagged.flaggedAt {rack : CassandraRackStatus}
    (flagged : FromFlagged flags before after) (found : after.lookup name = some rack) :
    FlaggedAt flags before after name := by
  rcases flagged name rack found with kept | ⟨old, now, asked, present, changed⟩
  · exact Or.inl (found.trans kept.symm)
  · exact Or.inr ⟨old, now, asked, present, found.trans (congrArg some changed)⟩

theorem Fits.flagged {books : Books} (fits : Fits kinds books name (before.lookup name))
    (flagged : FlaggedAt flags before after name) : Fits kinds books name (after.lookup name) := by
  rcases flagged with kept | ⟨read, now, _, present, changed⟩
  · rw [kept]
    exact fits
  · rw [present] at fits
    rw [changed]
    refine fits.congr (.ofEq rfl) fun scaling => ?_
    simp [weAreScalingDown_eq, flagUpdateResources] at scaling

theorem Ready.tracked {durable : Prop} (isReady : Ready start answers ready)
    (tracked : Tracked kinds durable process { start with status := start.cc.status }) :
    Tracked kinds durable process ready :=
  tracked.rework isReady.effects (by rw [isReady.object]) fun _ name fits =>
    fits.flagged (isReady.flagged name)

theorem Pending.ofQuiet (quiet : ∀ effect ∈ pass.effects, effect.spawnedRack = none)
    (dcRackName : String) : Pending process dcRackName pass := by
  intro meets none
  refine Books.Untouched.run (fun effect member => by simp [quiet effect member]) ?_ meets
  exact ⟨none, fun _ _ => le_rfl, fun _ _ => rfl, fun _ member => member⟩

theorem Started.quiet (started : Started process.world.cluster start) :
    ∀ effect ∈ start.effects, effect.isCalm = true ∧ effect.spawnedRack = none := by
  rcases started.effects with none | ⟨sent, version, metadata, only⟩
  · simp [none]
  · simp [only, Effect.isCalm, Effect.spawnedRack]

theorem CassandraClusterSpec.checkDefaults_nodes (spec : CassandraClusterSpec)
    (dcRackName : String) :
    spec.checkDefaults.getNodesPerRacks dcRackName = spec.getNodesPerRacks dcRackName := by
  have general : ∀ (image : String) (dcs : List DC),
      nodesPerRacksFrom { spec with cassandraImage := image } dcRackName dcs =
        spec.nodesPerRacksFrom dcRackName dcs := by
    intro image dcs
    induction dcs with
    | nil => rfl
    | cons dc dcs induction => simp only [nodesPerRacksFrom, induction]
  unfold checkDefaults
  split
  · exact general _ spec.topology.dc
  · rfl

theorem Ready.looped_tracked (podName : platform.podName = process.podName)
    (orderly : process.Orderly kinds answers) (started : Started process.world.cluster start)
    (isReady : Ready start answers ready) (tracked : Tracked kinds answers.Accepted process ready) :
    Tracked kinds answers.Accepted process (ready.looped platform answers) := by
  have spec : ready.cc.spec = process.world.cluster.spec.checkDefaults :=
    isReady.spec.trans started.spec
  obtain ⟨positions, names⟩ := process.world.cluster.spec.checkDefaults_topology
  rw [← spec] at positions names
  refine @reconcileRacks_visits _ (Pending process) platform answers.racks ready
    ready.cc.spec.rackPositions ?_ (fun position member pass visiting pending tracked =>
      ⟨?_, fun name different waits => ?_⟩) tracked (fun position _ => Pending.ofQuiet ?_ _) false
  · rw [positions, names]
    exact orderly.distinct
  · have here := visiting.rackNameAt
    refine Tracked.reconcileRackAt platform position podName ?_ fun rack found => ?_
    · rw [here]
      refine ⟨tracked, pending, ?_, fun accepted => accepted.operations position,
        fun accepted => accepted.decommission position, ?_⟩
      · rw [names]
        exact orderly.racks position (positions ▸ member)
      · rw [visiting.getNodesPerRacks, spec]
        exact CassandraClusterSpec.checkDefaults_nodes _ _
    · rw [here] at found ⊢
      rw [visiting.rack] at found
      have stored := (isReady.flagged (ready.cc.spec.rackNameAt position)).record found
      rw [started.status] at stored
      exact stored
  · have spawns := SpawnsAt.reconcileRackAt platform (answers.racks position) position pass
    rw [visiting.rackNameAt] at spawns
    exact waits.spawnsAt spawns different
  · rw [isReady.effects]
    exact fun effect member => (started.quiet effect member).2

/-! ## The pass -/

theorem reconcileRacksAndPhase_tracked (tracked :
      Tracked kinds answers.Accepted process (ready.looped platform answers)) :
    Tracked kinds answers.Accepted process
      (reconcileRacksAndPhase platform answers ready).1 := by
  obtain ⟨racks, object, last, effects, updates⟩ :=
    @reconcileRacksAndPhase_fields platform answers ready
  have seeded : ∀ {books : Books}, (∀ name, Fits kinds books name
        ((ready.looped platform answers).rackStatus name)) →
      ∀ name, Fits kinds books name ((ensureSeedListIsUpdatedWhenRequired
        (ready.looped platform answers).cc.spec
        (ready.looped platform answers).status).1.cassandraRackStatus.lookup name) := by
    intro books fits
    refine @ensureSeedListIsUpdatedWhenRequired_keeps (fun racks => ∀ name,
      Fits kinds books name (racks.lookup name)) (fun racks dcRackName rack fits found name => ?_)
      _ _ fits
    by_cases same : name = dcRackName
    · subst same
      have before := fits name
      rw [found] at before
      rw [Finmap.lookup_insert]
      unfold seedListToDo
      split
      · exact before
      · refine before.congr (.ofEq rfl) fun scaling => ?_
        simp [weAreScalingDown_eq] at scaling
    · rw [Finmap.lookup_insert_of_ne _ same]
      exact fits name
  have written : Tracked kinds answers.Accepted process
      ((ready.looped platform answers).emit last) :=
    tracked.emit fun effect member => Effect.isCalm_of_isObjectWrite (updates effect member)
  constructor
  · rw [effects]
    exact written.along
  · rw [effects]
    intro meets
    have accounted := written.accounted meets
    refine ⟨accounted.balanced, fun name => ?_, ?_, accounted.stored, ?_⟩
    · unfold Pass.rackStatus
      rcases racks with same | seeds
      · rw [same]
        exact accounted.working name
      · rw [seeds]
        exact seeded accounted.working name
    · rw [object]
      exact accounted.object
    · rw [object]
      exact accounted.agrees

theorem reconcileDeferred_tracked (podName : platform.podName = process.podName)
    (orderly : process.Orderly kinds answers) (started : Started process.world.cluster start)
    (tracked : Tracked kinds answers.Accepted process { start with status := start.cc.status }) :
    Tracked kinds answers.Accepted process (reconcileDeferred platform answers start) := by
  have checkedCase := reconcileChecked_case platform answers start
  unfold reconcileDeferred
  dsimp only
  generalize reconcileChecked platform answers { start with status := start.cc.status } =
    result at checkedCase
  have checked : Tracked kinds answers.Accepted process result.1 := by
    cases checkedCase with
    | stopped stopped deletions object racks whole phase effects deletes =>
      have deleted : Tracked kinds answers.Accepted process
          ({ start with status := start.cc.status }.emit deletions) := by
        refine tracked.emit fun effect member => ?_
        obtain ⟨_, _, rfl⟩ := deletes effect member
        rfl
      refine deleted.rework effects (by rw [object]; rfl) fun meets name fits => ?_
      by_cases drops : start.cc.Drops name
      · -- What is left of a dropped rack comes from the old status.
        have quiet : ∀ effect ∈ start.effects ++ deletions, effect.spawnedRack = none := by
          intro effect member
          rcases List.mem_append.mp member with old | new
          · exact (started.quiet effect old).2
          · obtain ⟨_, _, rfl⟩ := deletes effect new
            rfl
        have before := orderly.dropped name (started.drops drops)
        have idle := (@Pending.ofQuiet
          ({ start with status := start.cc.status }.emit deletions) process quiet name meets
          before.jobs).idle before
        unfold Pass.rackStatus
        cases found : stopped.status.cassandraRackStatus.lookup name with
        | none => exact idle
        | some rack =>
          rw [← found]
          exact fits.flagged (racks.flaggedAt found)
      · exact fits.flagged (whole name drops)
    | loop ready isReady =>
      exact reconcileRacksAndPhase_tracked (isReady.looped_tracked podName orderly started
        (isReady.tracked tracked))
  split
  · exact checked
  · exact checked.updateCassandraStatus fun accepted => accepted.write

theorem Tracked.begin (balanced : process.books.Balanced)
    (fits : ∀ name, Fits kinds process.books name (process.racks.lookup name))
    (calm : ∀ effect ∈ pass.effects, effect.isCalm = true)
    (working : pass.status.cassandraRackStatus = process.racks)
    (object : pass.cc.status.cassandraRackStatus = process.racks) :
    Tracked kinds durable process pass := by
  constructor
  · intro first rest split _ _
    obtain ⟨books, racks⟩ := Process.run_calm
      (fun effect member => calm effect (split ▸ List.mem_append_left rest member)) process
    rw [books, racks]
    exact ⟨balanced, fits⟩
  · intro _
    obtain ⟨books, racks⟩ := Process.run_calm calm process
    refine ⟨?_, fun name => ?_, fun name => ?_, fun name => ?_, fun _ => Or.inl ?_⟩
    · rw [books]
      exact balanced
    · rw [books, Pass.rackStatus, working]
      exact fits name
    · rw [books, object]
      exact fits name
    · rw [books, racks]
      exact fits name
    · rw [racks, object]

theorem AllInitial.fits {racks : RackStatuses} (initial : AllInitial racks) {books : Books}
    (fresh : books.jobs = 0 ∧ (kinds → books.lost = 0)) (name : String) :
    Fits kinds books name (racks.lookup name) := by
  have idle : books.Idle kinds name := by
    constructor
    · unfold Books.jobsAt
      rw [fresh.1]
      rfl
    · intro kind
      unfold Books.lostAt
      rw [fresh.2 kind]
      rfl
  cases found : racks.lookup name with
  | none => exact idle
  | some rack =>
    rw [initial name rack found]
    exact .ofEmpty idle rfl

/-- The books are kept in a pass that initializes the cluster, when nothing is in flight
yet. -/
theorem initializeCluster_along (none : pass.effects = []) (balanced : process.books.Balanced)
    (fits : ∀ name, Fits kinds process.books name (process.racks.lookup name))
    (fresh : process.books.jobs = 0 ∧ (kinds → process.books.lost = 0)) :
    Runs.Always Process.apply Process.Delivers (Sound kinds) process
      (initializeCluster answers pass).effects := by
  have begins : ∀ effects : List Effect, (∀ effect ∈ effects, effect.isCalm = true) →
      Tracked kinds False process { pass with
        cc := process.world.cluster, status := process.world.cluster.status,
        effects := effects } :=
    fun effects calm => .begin balanced fits calm rfl rfl
  have written : ∀ (effects : List Effect) (status : CassandraClusterStatus) (succeeded : Bool),
      (∀ effect ∈ effects, effect.isCalm = true) → AllInitial status.cassandraRackStatus →
      Runs.Always Process.apply Process.Delivers (Sound kinds) process
        (effects ++ [.updateClusterStatus status succeeded]) := by
    intro effects status succeeded calm initial
    have stored : Tracked kinds False process { pass with
        cc := { process.world.cluster with status := status },
        status := process.world.cluster.status,
        effects := effects ++ [.updateClusterStatus status succeeded] } := by
      refine (begins effects calm).single rfl fun _ accounted _ => ?_
      refine accounted.store (initial.fits ?_) rfl rfl False.elim
      rw [(Process.run_calm calm process).1]
      exact fresh
    exact stored.along
  have initial : AllInitial (updateDeletePvcStrategy
      pass.cc.setDefaults).status.cassandraRackStatus := initCassandraRackList_initial _
  unfold initializeCluster
  dsimp only
  split
  all_goals rw [Pass.effects_emit, none, List.nil_append]
  · exact (begins _ (by simp [Effect.isCalm])).along
  · exact written [_, _, _] _ _ (by simp [Effect.isCalm]) initial

/-- A pass keeps the books of a process that has nothing in flight before the cluster is
initialized. -/
theorem Process.pass_along (orderly : process.Orderly kinds answers)
    (balanced : process.books.Balanced)
    (fits : ∀ name, Fits kinds process.books name (process.racks.lookup name))
    (fresh : process.world.cluster.status.phase = .unset →
      process.books.jobs = 0 ∧ (kinds → process.books.lost = 0)) :
    Runs.Always Process.apply Process.Delivers (Sound kinds) process
      (process.pass platform answers).effects := by
  have passCase := reconcile_case { platform with podName := process.podName }
    process.world.memory process.world.cluster answers
  unfold Process.pass World.pass
  generalize reconcile { platform with podName := process.podName } process.world.memory
    process.world.cluster answers = pass at passCase
  cases passCase with
  | initializing pass unset same none =>
    exact initializeCluster_along none balanced fits (fresh unset)
  | refused pass sent metadata spec only =>
    have begins : Tracked kinds False process { pass with
        cc := process.world.cluster, status := process.world.cluster.status } := by
      refine .begin balanced fits ?_ rfl rfl
      simp [only, Effect.isCalm]
    exact begins.along
  | deferred start started =>
    have same : start.cc.status.cassandraRackStatus = process.racks :=
      congrArg CassandraClusterStatus.cassandraRackStatus started.status
    refine (reconcileDeferred_tracked rfl orderly started ?_).along
    exact .begin balanced fits (fun effect member => (started.quiet effect member).1) same same

end Loop

end Casskop
