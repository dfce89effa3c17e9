import Casskop.Controller.FinalizeLoop
import Casskop.Controller.OperationPass

/-!
# Operations over whole runs

Users edit the cluster and label pods, operations end, passes follow each other, and the
process dies and comes back under another name.  While the labels and the records are in
order, the books stay in order through all of this.
-/

namespace Casskop

namespace PodLastOperation

variable (operation : PodLastOperation)

/-- The three lists of pods have no duplicates and no pod in common. -/
structure Separate : Prop where
  pods : (operation.pods.getD []).Nodup
  podsOK : (operation.podsOK.getD []).Nodup
  podsKO : (operation.podsKO.getD []).Nodup
  running_succeeded : (operation.pods.getD []).Disjoint (operation.podsOK.getD [])
  running_failed : (operation.pods.getD []).Disjoint (operation.podsKO.getD [])
  succeeded_failed : (operation.podsOK.getD []).Disjoint (operation.podsKO.getD [])

variable {operation}

theorem Separate.ofListed (distinct : operation.listed.Nodup) : operation.Separate := by
  unfold listed at distinct
  obtain ⟨pods, others, apart⟩ := List.nodup_append'.mp distinct
  obtain ⟨podsOK, podsKO, apart'⟩ := List.nodup_append'.mp others
  obtain ⟨succeeded, failed⟩ := List.disjoint_append_right.mp apart
  exact ⟨pods, podsOK, podsKO, succeeded, failed, apart'⟩

end PodLastOperation

variable {answers : ReconcileAnswers}

namespace Process

variable {kinds : Prop} {platform : Platform} {process : Process}

/-! ## Events -/

/-- The environment of a step: results come from operations in flight. -/
def Feasible (platform : Platform) (process : Process) : Event → Prop
  | .pass answers => Runs.Meets apply Delivers process (process.pass platform answers).effects
  | .crash answers calls _ =>
    Runs.Meets apply Delivers process ((process.pass platform answers).effects.take calls)
  | _ => True

instance (platform : Platform) (process : Process) (event : Event) :
    Decidable (process.Feasible platform event) := by
  unfold Feasible
  split <;> infer_instance

/-- The passes are orderly.  Where kinds matter, the process does not die between listing
a pod and starting its operation. -/
def Lawful (kinds : Prop) (platform : Platform) (process : Process) : Event → Prop
  | .pass answers => process.Orderly kinds answers
  | .crash answers calls _ => process.Orderly kinds answers ∧
      (kinds → ∀ dcRackName pod operation,
        ((process.pass platform answers).effects.drop calls).head? ≠
          some (.startOperation dcRackName pod operation))
  | _ => True

/-- A cluster on which no operation was started yet. -/
structure Fresh (process : Process) : Prop where
  books : process.books = {}
  records : ∀ dcRackName rack, process.racks.lookup dcRackName = some rack →
    rack.podLastOperation.listed = []
  phased : process.world.Phased

structure InOrder (kinds : Prop) (process : Process) : Prop where
  balanced : process.books.Balanced
  fits : ∀ name, Fits kinds process.books name (process.racks.lookup name)
  phased : process.world.Phased
  blank : process.world.cluster.status.phase = .unset →
    process.books.jobs = 0 ∧ process.books.lost = 0

theorem Fresh.inOrder (fresh : process.Fresh) : process.InOrder kinds := by
  have idle : ∀ name, process.books.Idle kinds name := by
    rw [fresh.books]
    exact fun name => ⟨rfl, fun _ => rfl⟩
  refine ⟨?_, fun name => ?_, fresh.phased, fun _ => ?_⟩
  · rw [fresh.books]
    exact fun _ => le_rfl
  · cases found : process.racks.lookup name with
    | none => exact idle name
    | some rack => exact .ofEmpty (idle name) (fresh.records name rack found)
  · rw [fresh.books]
    exact ⟨rfl, rfl⟩

/-! ## Steps -/

theorem run_books {effects : List Effect}
    (unrecorded : ∀ effect ∈ effects, ∀ books : Books, books.record effect = books) :
    ∀ process : Process, (Runs.run apply process effects).books = process.books := by
  induction effects with
  | nil => exact fun process => rfl
  | cons effect effects induction =>
    intro process
    exact (induction (fun other member => unrecorded other (List.mem_cons_of_mem _ member))
      (process.apply effect)).trans (unrecorded effect List.mem_cons_self process.books)

theorem pass_unrecorded (unset : process.world.cluster.status.phase = .unset) {effect : Effect}
    (member : effect ∈ (process.pass platform answers).effects) (books : Books) :
    books.record effect = books := by
  have passCase := reconcile_case { platform with podName := process.podName }
    process.world.memory process.world.cluster answers
  unfold Process.pass World.pass at member
  generalize reconcile { platform with podName := process.podName } process.world.memory
    process.world.cluster answers = pass at passCase member
  cases passCase with
  | initializing pass unset same none =>
    unfold initializeCluster at member
    dsimp only at member
    split at member
    all_goals
      simp only [Pass.effects_emit, none, List.nil_append, List.mem_cons, List.not_mem_nil,
        or_false] at member
    · rcases member with rfl | rfl <;> rfl
    · rcases member with rfl | rfl | rfl | rfl <;> rfl
  | refused pass sent metadata spec only =>
    simp only [only, List.mem_cons, List.not_mem_nil, or_false] at member
    rcases member with rfl | rfl <;> rfl
  | deferred start started => exact absurd unset started.phase

theorem pass_phases {first rest : List Effect}
    (split : (process.pass platform answers).effects = first ++ rest)
    (phased : process.world.Phased)
    (blank : process.world.cluster.status.phase = .unset → process.books.jobs = 0 ∧
      process.books.lost = 0) :
    let after := Runs.run apply process first
    after.world.Phased ∧ (after.world.cluster.status.phase = .unset →
      after.books.jobs = 0 ∧ after.books.lost = 0) := by
  have within : ∀ effect ∈ first, effect ∈ (process.pass platform answers).effects := by
    intro effect member
    rw [split]
    exact List.mem_append_left rest member
  dsimp only
  rw [run_apply_world]
  constructor
  · unfold World.Phased
    rcases World.applyEffects_status first process.world with same | ⟨status, member, last⟩
    · rw [same]
      exact phased
    · rw [last]
      exact Phased.serialized (World.pass_phased _ phased (within _ member))
  · intro unset
    have before : process.world.cluster.status.phase = .unset := by
      by_contra phase
      rcases World.applyEffects_status first process.world with same | ⟨status, member, last⟩
      · rw [same] at unset
        exact phase unset
      · rw [last] at unset
        exact World.pass_initialized _ phased phase (within _ member) unset
    rw [run_books fun effect member => pass_unrecorded before (within effect member)]
    exact blank before

theorem InOrder.pass (inOrder : process.InOrder kinds) (orderly : process.Orderly kinds answers)
    {first rest : List Effect} (split : (process.pass platform answers).effects = first ++ rest)
    (delivers : Runs.Meets apply Delivers process first)
    (listed : kinds → ∀ dcRackName pod operation, rest.head? ≠ some (.startOperation dcRackName pod
      operation)) : (Runs.run apply process first).InOrder kinds := by
  have blank := fun unset => (inOrder.blank unset).imp_right fun none (_ : kinds) => none
  have along : Runs.Always apply Delivers (Sound kinds) process
      (process.pass platform answers).effects :=
    pass_along orderly inOrder.balanced inOrder.fits blank
  obtain ⟨balanced, fits⟩ := along first rest split delivers listed
  obtain ⟨phased, blank⟩ := pass_phases split inOrder.phased inOrder.blank
  exact ⟨balanced, fits, phased, blank⟩

theorem InOrder.restarted (inOrder : process.InOrder kinds) (podName : String) :
    (process.restarted podName).InOrder kinds := by
  refine ⟨inOrder.balanced.lose, fun name => (inOrder.fits name).lose, inOrder.phased,
    fun unset => ⟨rfl, ?_⟩⟩
  obtain ⟨jobs, lost⟩ := inOrder.blank unset
  change process.books.lost + process.books.jobs = 0
  rw [jobs, lost]
  rfl

theorem InOrder.step (inOrder : process.InOrder kinds) (event : Event)
    (feasible : process.Feasible platform event) (lawful : process.Lawful kinds platform event) :
    (process.step platform event).InOrder kinds := by
  cases event with
  | edit metadata spec => exact ⟨inOrder.balanced, inOrder.fits, inOrder.phased, inOrder.blank⟩
  | expire job =>
    refine ⟨inOrder.balanced, fun name => (inOrder.fits name).expire job, inOrder.phased,
      fun unset => ?_⟩
    obtain ⟨jobs, lost⟩ := inOrder.blank unset
    refine ⟨jobs, ?_⟩
    change process.books.lost.filter _ = 0
    rw [lost]
    rfl
  | restart podName => exact inOrder.restarted podName
  | pass answers =>
    have ends := inOrder.pass lawful (List.append_nil _).symm feasible (by simp)
    exact ⟨ends.balanced, ends.fits, ends.phased, ends.blank⟩
  | crash answers calls podName =>
    exact (inOrder.pass lawful.1 (List.take_append_drop calls _).symm feasible
      lawful.2).restarted podName

theorem run_inOrder (fresh : process.Fresh) {events : List Event}
    (feasible : Runs.Meets (step platform) (Feasible platform) process events)
    (lawful : Runs.Meets (step platform) (Lawful kinds platform) process events) :
    (Runs.run (step platform) process events).InOrder kinds :=
  (feasible.and lawful).keeps fresh.inOrder fun _ event inOrder ⟨possible, allowed⟩ =>
    inOrder.step event possible allowed

/-- The lists of every record stay separate, and no operation is finalized more often than
it was started. -/
theorem run_bookkeeping (platform : Platform) (process : Process) (fresh : process.Fresh)
    (events : List Event)
    (feasible : Runs.Meets (step platform) (Feasible platform) process events)
    (lawful : Runs.Meets (step platform) (Lawful False platform) process events) :
    let after := Runs.run (step platform) process events
    (∀ dcRackName rack, after.racks.lookup dcRackName = some rack →
        rack.podLastOperation.Separate) ∧
      ∀ job, after.books.finalized.count job ≤ after.books.started.count job := by
  have inOrder := run_inOrder fresh feasible lawful
  refine ⟨fun dcRackName rack found => ?_, fun job => ?_⟩
  · have fits := inOrder.fits dcRackName
    rw [found] at fits
    exact .ofListed fits.1.separate
  · exact (Nat.le_add_right _ _).trans (inOrder.balanced job)

/-- Every record is of one kind, and it is done only when none of its pods is at work. -/
theorem run_one_kind (platform : Platform) (process : Process) (fresh : process.Fresh)
    (events : List Event)
    (feasible : Runs.Meets (step platform) (Feasible platform) process events)
    (lawful : Runs.Meets (step platform) (Lawful True platform) process events) :
    let after := Runs.run (step platform) process events
    ∀ dcRackName rack, after.racks.lookup dcRackName = some rack →
      (∀ pod ∈ rack.podLastOperation.listed,
          ⟨dcRackName, pod, rack.podLastOperation.name⟩ ∈ after.books.started) ∧
        (∀ job ∈ after.books.jobs + after.books.lost, job.dcRackName = dcRackName →
          job.operation = rack.podLastOperation.name ∧
            job.pod ∈ rack.podLastOperation.running) ∧
        (rack.podLastOperation.status = .done →
          (∀ job ∈ after.books.jobs + after.books.lost, job.dcRackName ≠ dcRackName) ∧
            (rack.podLastOperation.name = .decommission →
              rack.podLastOperation.running = [])) := by
  intro after dcRackName rack found
  have fits := (run_inOrder fresh feasible lawful).fits dcRackName
  rw [found] at fits
  have named := fits.2 trivial
  have atWork : ∀ job ∈ after.books.jobs + after.books.lost, job.dcRackName = dcRackName →
      job ∈ after.books.jobsAt dcRackName ∨ job ∈ after.books.lostAt dcRackName := by
    intro job member here
    rcases Multiset.mem_add.mp member with flying | lost
    · exact Or.inl (Books.mem_jobsAt.mpr ⟨flying, here⟩)
    · exact Or.inr (Books.mem_lostAt.mpr ⟨lost, here⟩)
  refine ⟨named.ran, fun job member here => ?_, fun done => ⟨fun job member here => ?_,
    fun decommission => named.left decommission done⟩⟩
  · rcases atWork job member here with flying | lost
    · exact ⟨named.same job flying, fits.1.listed job flying⟩
    · exact ⟨(named.orphans job lost).operation, (named.orphans job lost).running⟩
  · have idle := fits.idle_of_status (by rw [done]; decide)
    rcases atWork job member here with flying | lost
    · rw [idle.jobs] at flying
      cases flying
    · rw [idle.lost trivial] at lost
      cases lost

/-- No two goroutines work on one pod.  Each works on a pod that the record of its rack lists as
running, and none while the rack scales down. -/
theorem run_exclusive (platform : Platform) (process : Process) (fresh : process.Fresh)
    (events : List Event)
    (feasible : Runs.Meets (step platform) (Feasible platform) process events)
    (lawful : Runs.Meets (step platform) (Lawful False platform) process events) :
    let after := Runs.run (step platform) process events
    (after.books.jobs.map fun job => (job.dcRackName, job.pod)).Nodup ∧
      ∀ job ∈ after.books.jobs, ∃ rack, after.racks.lookup job.dcRackName = some rack ∧
        job.pod ∈ rack.podLastOperation.running ∧ rack.podLastOperation.status = .ongoing ∧
        weAreScalingDown rack = false := by
  intro after
  have inOrder : after.InOrder False := run_inOrder fresh feasible lawful
  have tidy : ∀ job ∈ after.books.jobs, ∃ rack, after.racks.lookup job.dcRackName = some rack ∧
      Tidy (after.books.jobsAt job.dcRackName) rack := by
    intro job member
    have fits := inOrder.fits job.dcRackName
    have here := Books.mem_jobsAt.mpr ⟨member, rfl⟩
    cases found : after.racks.lookup job.dcRackName with
    | none =>
      rw [found] at fits
      rw [fits.jobs] at here
      cases here
    | some rack =>
      rw [found] at fits
      exact ⟨rack, rfl, fits.1⟩
  refine ⟨Multiset.nodup_iff_count_le_one.mpr ?_, fun job member => ?_⟩
  · rintro ⟨dcRackName, pod⟩
    by_cases some : ∃ job ∈ after.books.jobs, job.dcRackName = dcRackName
    · obtain ⟨job, member, rfl⟩ := some
      obtain ⟨rack, _, tidy⟩ := tidy job member
      have once := Multiset.nodup_iff_count_le_one.mp tidy.distinct pod
      rw [Multiset.count_map, Books.jobsAt, Multiset.filter_filter] at once
      rw [Multiset.count_map]
      simpa only [Prod.mk.injEq, and_comm, eq_comm] using once
    · rw [Multiset.count_map, Multiset.card_eq_zero.mpr]
      · exact Nat.zero_le 1
      · exact Multiset.filter_eq_nil.mpr fun job member same =>
          some ⟨job, member, (Prod.mk.inj same).1.symm⟩
  · obtain ⟨rack, found, tidy⟩ := tidy job member
    have here := Books.mem_jobsAt.mpr ⟨member, rfl⟩
    have busy : after.books.jobsAt job.dcRackName ≠ 0 := by
      intro none
      rw [none] at here
      cases here
    exact ⟨rack, found, tidy.listed job here, tidy.ongoing busy,
      Bool.eq_false_iff.mpr fun down => busy (tidy.idle down)⟩

end Process

/-! ## A cleanup on one of two pods -/

def pairSpec : CassandraClusterSpec :=
  { nodesPerRacks := 2
    cassandraImage := "cassandra:4"
    topology := { dc := [{ name := "dc1", rack := [{ name := "rack1" }] }] } }

/-- A rack with two pods, under the operator `casskop-0`. -/
def pairProcess : Process :=
  { world :=
      { cluster :=
          { metadata := demoMeta
            annotation := .config { metadata := demoMeta, spec := pairSpec }
            spec := pairSpec
            status :=
              { phase := .running
                lastClusterActionStatus := .done
                cassandraRackStatus := GoMap.ofList [("dc1-rack1", idleRack)] } }
        statefulSets := fun _ => some (demoStatefulSet "dc1-rack1" "cassandra:4" 2)
        memory := { storedPdb := { name := "demo", ns := "default" } } }
    podName := "casskop-0" }

/-- A pass that picks the operation.  All pods are ready, and the given ones wait. -/
def picks (operation : OperationName) (waiting : List Pod) : OperationAnswers :=
  { operation := operation
    channel := []
    toDoPods := .ok waiting
    pod := fun name => .ok (readyPod name)
    write := writesSucceed
    start := fun _ => (true, writesSucceed) }

def pairPass (operations : OperationAnswers) : ReconcileAnswers :=
  let healthy := healthyAnswers 100 (.ok (demoStatefulSet "dc1-rack1" "cassandra:4" 2))
  { twoRackAnswers with
    racks := fun _ => { healthy with handle := { healthy.handle with operations := operations } } }

/-- Results wait, and the object the pass works on is outdated once the first one is
recorded. -/
def drainingPass (waiting : Nat) : ReconcileAnswers :=
  let result := (finishedCleanup,
    [{ labelled := true, write := writesSucceed, refreshed := none }])
  { pairPass { picks .rebuild [] with channel := List.replicate waiting result } with
    write := { update := .error .conflict, statusUpdate := .error .conflict } }

def twiceWatched : List Process.Event :=
  [.pass (pairPass (picks .cleanup [readyPod "demo-dc1-rack1-0"])), .restart "casskop-1",
    .pass (pairPass (picks .cleanup [])), .pass (pairPass (picks .cleanup [])),
    .pass (drainingPass 2), .pass (drainingPass 1)]

/-- The pod is recorded twice, for one cleanup. -/
theorem Process.cleanup_recorded_twice :
    let after := Runs.run (Process.step demoPlatform) pairProcess twiceWatched
    Runs.Meets (Process.step demoPlatform) (Process.Feasible demoPlatform) pairProcess
        twiceWatched ∧
      ((after.racks.lookup "dc1-rack1").map fun rack => rack.podLastOperation.podsOK) =
        some (some ["demo-dc1-rack1-0", "demo-dc1-rack1-0"]) ∧
      after.books.started.count finishedCleanup.job = 1 ∧
      after.books.finalized.count finishedCleanup.job = 2 := by
  decide +kernel

/-- A rebuild is asked for on the second pod while the first one is cleaned up. -/
def rebuildDuringCleanup : List Process.Event :=
  [.pass (pairPass (picks .cleanup [readyPod "demo-dc1-rack1-0"])),
    .pass (pairPass (picks .rebuild [readyPod "demo-dc1-rack1-1"]))]

/-- The record of the cleanup lists a pod that was never cleaned up. -/
theorem Process.rebuild_listed_as_cleanup :
    let after := Runs.run (Process.step demoPlatform) pairProcess rebuildDuringCleanup
    Runs.Meets (Process.step demoPlatform) (Process.Feasible demoPlatform) pairProcess
        rebuildDuringCleanup ∧
      ((after.racks.lookup "dc1-rack1").map fun rack =>
          (rack.podLastOperation.name, rack.podLastOperation.pods)) =
        some (.cleanup, some ["demo-dc1-rack1-0", "demo-dc1-rack1-1"]) ∧
      ⟨"dc1-rack1", "demo-dc1-rack1-1", .cleanup⟩ ∉ after.books.started ∧
      ⟨"dc1-rack1", "demo-dc1-rack1-1", .rebuild⟩ ∈ after.books.jobs := by
  decide +kernel

/-! ## A cleanup that outlives its operator -/

/-- The cleanup is lost, watched by the new operator and recorded. -/
def watchedOnce : List Process.Event :=
  [.pass (pairPass (picks .cleanup [readyPod "demo-dc1-rack1-0"])), .restart "casskop-1",
    .pass (pairPass (picks .cleanup [])), .pass (drainingPass 1)]

theorem pairProcess_fresh : pairProcess.Fresh := by
  refine ⟨rfl, fun dcRackName rack found => ?_, fun dcRackName rack found => ?_⟩
  · rw [GoMap.eq_of_lookup_singleton found]
    rfl
  · rw [GoMap.eq_of_lookup_singleton found]
    decide

theorem pairSpec_keeps {cc : CassandraCluster} (spec : cc.spec = pairSpec)
    (applied : cc.annotation = .config { metadata := demoMeta, spec := pairSpec })
    (dcRackName : String) : ¬ cc.defaulted.Drops dcRackName := by
  rintro ⟨⟨old, recorded, fewer⟩, _⟩
  change cc.annotation = _ at recorded
  rw [applied] at recorded
  cases recorded
  change cc.spec.checkDefaults.getDCRackSize < _ at fewer
  rw [spec] at fewer
  exact absurd fewer (by decide)

theorem pairPass_orderly {kinds : Prop} {process : Process} {operations : OperationAnswers}
    (racks : answers.racks = (pairPass operations).racks)
    (spec : process.world.cluster.spec = pairSpec)
    (applied : process.world.cluster.annotation = .config { metadata := demoMeta, spec := pairSpec
      })
    (works : ∀ rack, process.racks.lookup "dc1-rack1" = some rack → Works kinds answers.Accepted
      process "dc1-rack1" operations rack.podLastOperation) : process.Orderly kinds answers := by
  refine ⟨?_, fun position member => ?_, fun dcRackName drops =>
    absurd drops (pairSpec_keeps spec applied dcRackName)⟩
  · rw [spec]
    decide
  · have only : position = (0, 0) := by
      rw [spec, show pairSpec.rackPositions = [(0, 0)] from rfl] at member
      exact List.mem_singleton.mp member
    have name : process.world.cluster.spec.rackNameAt position = "dc1-rack1" := by
      rw [spec, only]
      rfl
    rw [name, racks]
    refine ⟨works, ?_, ?_⟩
    · rintro ⟨sts, read, fewer⟩
      cases read
      rw [spec] at fewer
      exact absurd fewer (by decide)
    · intro _ pods lastPod listed last
      cases listed
      cases last

theorem pairPass_accepted (operation : OperationName) (waiting : List Pod) :
    (pairPass (picks operation waiting)).Accepted :=
  ⟨fun _ => ⟨rfl, rfl, fun _ => rfl⟩, fun _ => rfl, rfl⟩

def cleanupRecord : PodLastOperation :=
  { name := .cleanup
    status := .ongoing
    startTime := some 100
    operatorName := "casskop-0"
    pods := some ["demo-dc1-rack1-0"] }

theorem watchedOnce_lawful (kinds : Prop) :
    Runs.Meets (Process.step demoPlatform) (Process.Lawful kinds demoPlatform) pairProcess
      watchedOnce := by
  have asked : ∀ name pod, (Except.ok (readyPod name) : Except ApiError Pod) = .ok pod →
      pod.name = name := by
    rintro name pod ⟨⟩
    rfl
  have recorded : ∀ {process : Process} {record : PodLastOperation} {rack : CassandraRackStatus},
      process.racks.lookup "dc1-rack1" = some rack →
      (process.racks.lookup "dc1-rack1").map CassandraRackStatus.podLastOperation =
        some record → rack.podLastOperation = record := by
    intro process record rack found stored
    rw [found] at stored
    exact Option.some.inj stored
  refine ⟨?_, trivial, ?_, ?_, trivial⟩
  · refine pairPass_orderly rfl rfl rfl fun rack found => ?_
    rw [recorded found (show _ = some {} by decide +kernel)]
    refine ⟨asked, by decide, nofun, nofun, fun _ => nofun, fun taken => ?_,
      fun _ taken => ?_, fun _ => pairPass_accepted _ _⟩
    · cases taken.2.1
    · cases taken.2.1
  · refine pairPass_orderly rfl rfl rfl fun rack found => ?_
    rw [recorded found (show _ = some cleanupRecord by decide +kernel)]
    exact ⟨asked, by decide, nofun, fun _ _ none => absurd rfl none, fun _ => nofun,
      fun _ => by decide +kernel, fun _ _ => by decide +kernel,
      fun _ => pairPass_accepted _ _⟩
  · refine pairPass_orderly rfl rfl rfl fun rack found => ?_
    rw [recorded found (show _ = some cleanupRecord by decide +kernel)]
    refine ⟨asked, by decide, nofun, fun _ _ none => absurd rfl none, fun _ => nofun,
      fun taken => ?_, fun _ taken => ?_, fun some => ?_⟩
    · cases taken.1
    · cases taken.1
    · rcases some with waiting | ⟨taken, _⟩
      · exact absurd rfl waiting
      · cases taken.1

theorem Process.watchedOnce_bookkeeping :
    let after := Runs.run (Process.step demoPlatform) pairProcess watchedOnce
    (∀ dcRackName rack, after.racks.lookup dcRackName = some rack →
        rack.podLastOperation.Separate) ∧
      ∀ job, after.books.finalized.count job ≤ after.books.started.count job :=
  Process.run_bookkeeping demoPlatform pairProcess pairProcess_fresh watchedOnce
    (by decide +kernel) (watchedOnce_lawful False)

theorem Process.watchedOnce_one_kind :
    let after := Runs.run (Process.step demoPlatform) pairProcess watchedOnce
    ∀ dcRackName rack, after.racks.lookup dcRackName = some rack →
      (∀ pod ∈ rack.podLastOperation.listed,
          ⟨dcRackName, pod, rack.podLastOperation.name⟩ ∈ after.books.started) ∧
        (∀ job ∈ after.books.jobs + after.books.lost, job.dcRackName = dcRackName →
          job.operation = rack.podLastOperation.name ∧
            job.pod ∈ rack.podLastOperation.running) ∧
        (rack.podLastOperation.status = .done →
          (∀ job ∈ after.books.jobs + after.books.lost, job.dcRackName ≠ dcRackName) ∧
            (rack.podLastOperation.name = .decommission →
              rack.podLastOperation.running = [])) :=
  Process.run_one_kind demoPlatform pairProcess pairProcess_fresh watchedOnce
    (by decide +kernel) (watchedOnce_lawful True)

theorem Process.watchedOnce_exclusive :
    let after := Runs.run (Process.step demoPlatform) pairProcess watchedOnce
    (after.books.jobs.map fun job => (job.dcRackName, job.pod)).Nodup :=
  (Process.run_exclusive demoPlatform pairProcess pairProcess_fresh watchedOnce
    (by decide +kernel) (watchedOnce_lawful False)).1

end Casskop
