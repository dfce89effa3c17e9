import Casskop.Controller.Initialized
import Casskop.Controller.Visits

/-!
# Operations in flight

An operation on a pod runs in a goroutine that outlives the pass which started it.
Its result goes through a channel to some later pass.  The books list the operations
in flight, those whose goroutine died with its process, and all that were started and
finalized so far.
-/

namespace Casskop

/-! ## Books -/

structure Job where
  dcRackName : String
  pod : String
  operation : OperationName
  deriving DecidableEq

def FinalizedOp.job (op : FinalizedOp) : Job :=
  { dcRackName := op.dcRackName, pod := op.pod, operation := op.operation }

structure Books where
  /-- The goroutine runs, or its result waits in the channel. -/
  jobs : Multiset Job := 0
  /-- The goroutine is gone, but the pod may still be at work. -/
  lost : Multiset Job := 0
  started : Multiset Job := 0
  finalized : Multiset Job := 0

namespace Books

variable (books : Books)

def jobsAt (dcRackName : String) : Multiset Job :=
  books.jobs.filter fun job => job.dcRackName = dcRackName

def lostAt (dcRackName : String) : Multiset Job :=
  books.lost.filter fun job => job.dcRackName = dcRackName

def start (job : Job) : Books :=
  { books with jobs := job ::ₘ books.jobs, started := job ::ₘ books.started }

/-- A decommission runs inside Cassandra; no goroutine reports its end. -/
def attempt (job : Job) : Books := { books with started := job ::ₘ books.started }

/-- The pod ends a lost operation, or dies. -/
def expire (job : Job) : Books := { books with lost := books.lost.filter (· ≠ job) }

def monitor (job : Job) : Books := { books.expire job with jobs := job ::ₘ books.jobs }

def finish (job : Job) : Books :=
  { books with jobs := books.jobs.erase job, finalized := job ::ₘ books.finalized }

/-- The goroutines and the channel are gone with the process. -/
def lose : Books := { books with jobs := 0, lost := books.lost + books.jobs }

def record : Effect → Books
  | .startOperation dcRackName pod operation => books.start ⟨dcRackName, pod, operation⟩
  | .monitorOperation dcRackName pod operation => books.monitor ⟨dcRackName, pod, operation⟩
  | .startDecommission dcRackName pod _ => books.attempt ⟨dcRackName, pod, .decommission⟩
  | .finalizeOperation op _ => books.finish op.job
  | _ => books

variable {books} {job : Job} {dcRackName : String}

theorem mem_jobsAt : job ∈ books.jobsAt dcRackName ↔
    job ∈ books.jobs ∧ job.dcRackName = dcRackName :=
  Multiset.mem_filter

theorem mem_lostAt : job ∈ books.lostAt dcRackName ↔
    job ∈ books.lost ∧ job.dcRackName = dcRackName :=
  Multiset.mem_filter

theorem mem_lostAt_expire {other : Job} :
    other ∈ (books.expire job).lostAt dcRackName ↔
      other ∈ books.lostAt dcRackName ∧ other ≠ job := by
  rw [mem_lostAt, mem_lostAt]
  change other ∈ books.lost.filter (· ≠ job) ∧ _ ↔ _
  rw [Multiset.mem_filter]
  exact and_right_comm

theorem jobsAt_start_self :
    (books.start job).jobsAt job.dcRackName = job ::ₘ books.jobsAt job.dcRackName :=
  Multiset.filter_cons_of_pos _ rfl

theorem jobsAt_start_of_ne (other : job.dcRackName ≠ dcRackName) :
    (books.start job).jobsAt dcRackName = books.jobsAt dcRackName :=
  Multiset.filter_cons_of_neg _ other

theorem jobsAt_monitor_self :
    (books.monitor job).jobsAt job.dcRackName = job ::ₘ books.jobsAt job.dcRackName :=
  Multiset.filter_cons_of_pos _ rfl

theorem jobsAt_monitor_of_ne (other : job.dcRackName ≠ dcRackName) :
    (books.monitor job).jobsAt dcRackName = books.jobsAt dcRackName :=
  Multiset.filter_cons_of_neg _ other

theorem jobsAt_attempt : (books.attempt job).jobsAt dcRackName = books.jobsAt dcRackName := rfl

theorem jobsAt_finish :
    (books.finish job).jobsAt dcRackName = (books.jobsAt dcRackName).erase job := by
  change (books.jobs.erase job).filter _ = (books.jobs.filter _).erase job
  by_cases own : job.dcRackName = dcRackName
  · rw [← Multiset.sub_singleton, ← Multiset.sub_singleton, Multiset.filter_sub,
      Multiset.filter_singleton, if_pos own]
  · have absent : job ∉ books.jobs.filter fun job => job.dcRackName = dcRackName :=
      fun member => own (Multiset.mem_filter.mp member).2
    rw [Multiset.erase_of_notMem absent, ← Multiset.sub_singleton, Multiset.filter_sub,
      Multiset.filter_singleton, if_neg own]
    exact tsub_zero _

theorem jobsAt_lose : books.lose.jobsAt dcRackName = 0 := rfl

theorem lostAt_lose :
    books.lose.lostAt dcRackName = books.lostAt dcRackName + books.jobsAt dcRackName :=
  Multiset.filter_add _ _ _

/-- Nothing is in flight on the rack.  Where kinds matter nothing is lost either. -/
structure Idle (kinds : Prop) (books : Books) (dcRackName : String) : Prop where
  jobs : books.jobsAt dcRackName = 0
  lost : kinds → books.lostAt dcRackName = 0

/-- Each operation in flight, and each one finalized, was started. -/
def Balanced (books : Books) : Prop :=
  ∀ job, books.finalized.count job + books.jobs.count job ≤ books.started.count job

end Books

/-! ## The process -/

/-- The world with the books, and the `POD_NAME` of the process. -/
structure Process where
  world : World
  podName : String
  books : Books := {}

namespace Process

def apply (process : Process) (effect : Effect) : Process :=
  { process with
    world := process.world.applyEffect effect
    books := process.books.record effect }

def pass (platform : Platform) (process : Process) (answers : ReconcileAnswers) : Pass :=
  process.world.pass { platform with podName := process.podName } answers

inductive Event where
  | edit (metadata : ObjectMeta) (spec : CassandraClusterSpec)
  | expire (job : Job)
  | restart (podName : String)
  | pass (answers : ReconcileAnswers)
  /-- The process dies within a pass, after some of its calls. -/
  | crash (answers : ReconcileAnswers) (calls : Nat) (podName : String)

/-- A new process under a new name. -/
def restarted (process : Process) (podName : String) : Process :=
  { world := { process.world with memory := Memory.empty }
    podName := podName
    books := process.books.lose }

def step (platform : Platform) (process : Process) : Event → Process
  | .edit metadata spec =>
    { process with
      world :=
        { process.world with
          cluster := { process.world.cluster with metadata := metadata, spec := spec } } }
  | .expire job => { process with books := process.books.expire job }
  | .restart podName => process.restarted podName
  | .pass answers =>
    let pass := process.pass platform answers
    let after := Runs.run apply process pass.effects
    { after with world := { after.world with memory := pass.memory } }
  | .crash answers calls podName =>
    (Runs.run apply process ((process.pass platform answers).effects.take calls)).restarted
      podName

/-- The channel delivers nothing but results of operations in flight. -/
def Delivers (process : Process) : Effect → Prop
  | .finalizeOperation op _ => op.job ∈ process.books.jobs
  | _ => True

instance (process : Process) (effect : Effect) : Decidable (process.Delivers effect) := by
  unfold Delivers
  split <;> infer_instance

variable {process : Process}

theorem run_apply_world (effects : List Effect) :
    (Runs.run apply process effects).world = process.world.applyEffects effects := by
  induction effects generalizing process with
  | nil => rfl
  | cons effect effects induction => exact induction

def racks (process : Process) : RackStatuses :=
  process.world.cluster.status.cassandraRackStatus

end Process

/-! ## Whose goroutines a pass starts -/

/-- The goroutines started between the two points are for one rack. -/
def SpawnsAt (dcRackName : String) (before after : Pass) : Prop :=
  ∃ more, after.effects = before.effects ++ more ∧
    ∀ effect ∈ more, effect.spawnedRack = none ∨ effect.spawnedRack = some dcRackName

theorem updateCassandraStatus_spawnedRack {needUpdate : Bool} {cc : CassandraCluster}
    {status : CassandraClusterStatus} {answer : WriteAnswer} {effect : Effect}
    (member : effect ∈ (updateCassandraStatus needUpdate cc status answer).effects) :
    effect.spawnedRack = none := by
  obtain ⟨outer, _⟩ := updateCassandraStatus_outer needUpdate cc status answer effect member
  cases effect <;> first | rfl | cases outer

theorem finalizeOperation_spawnedRack (pass : Pass) (op : FinalizedOp)
    (attempts : List FinalizeAttempt) :
    ∃ more, (finalizeOperation pass op attempts).pass.effects = pass.effects ++ more ∧
      ∀ effect ∈ more, effect.spawnedRack = none := by
  unfold finalizeOperation
  split
  · exact ⟨_, rfl, by simp [Effect.spawnedRack]⟩
  · refine ⟨_, rfl, fun effect member => ?_⟩
    rcases List.mem_cons.mp member with rfl | later
    · rfl
    · rcases finalizeLoop_mem attempts _ _ later with rfl | ⟨_, _, _, written⟩
      · rfl
      · exact updateCassandraStatus_spawnedRack written

theorem finalizeAll_spawnedRack (ops : List (FinalizedOp × List FinalizeAttempt)) :
    ∀ pass : Pass, ∃ more, (finalizeAll pass ops).pass.effects = pass.effects ++ more ∧
      ∀ effect ∈ more, effect.spawnedRack = none := by
  induction ops with
  | nil => exact fun pass => ⟨[], by simp [finalizeAll], by simp⟩
  | cons op ops induction =>
    intro pass
    obtain ⟨first, effects, quiet⟩ := finalizeOperation_spawnedRack pass op.1 op.2
    unfold finalizeAll
    dsimp only
    split
    · obtain ⟨later, effects', quiet'⟩ := induction (finalizeOperation pass op.1 op.2).pass
      refine ⟨first ++ later, by rw [effects', effects, List.append_assoc],
        fun effect member => ?_⟩
      exact (List.mem_append.mp member).elim (quiet effect) (quiet' effect)
    · exact ⟨first, effects, quiet⟩

namespace SpawnsAt

variable {part : Part} {dcRackName : String} {answers : RackAnswers}
  {before middle after : Pass}

theorem refl (pass : Pass) : SpawnsAt dcRackName pass pass := ⟨[], by simp, by simp⟩

theorem trans (first : SpawnsAt dcRackName before middle)
    (second : SpawnsAt dcRackName middle after) : SpawnsAt dcRackName before after := by
  obtain ⟨more, effects, own⟩ := first
  obtain ⟨later, effects', own'⟩ := second
  refine ⟨more ++ later, by rw [effects', effects, List.append_assoc], fun effect member => ?_⟩
  rcases List.mem_append.mp member with old | new
  · exact own effect old
  · exact own' effect new

theorem emit (pass : Pass) {effects : List Effect}
    (own : ∀ effect ∈ effects,
      effect.spawnedRack = none ∨ effect.spawnedRack = some dcRackName) :
    SpawnsAt dcRackName pass (pass.emit effects) :=
  ⟨effects, rfl, own⟩

theorem move (move : Move part dcRackName answers before after)
    (within : ∀ {effect}, part.emits effect = true → effect.isLocalTo dcRackName = true) :
    SpawnsAt dcRackName before after := by
  cases move with
  | init | rack | pdb => exact refl _
  | emit emits =>
    refine emit before fun effect member => ?_
    rw [List.mem_singleton.mp member]
    have own := (Bool.and_eq_true_iff.mp (within emits)).2
    revert own
    cases Effect.spawnedRack _ with
    | none => exact fun _ => Or.inl rfl
    | some rack => simp
  | statusWrite answer records =>
    exact ⟨_, rfl, fun effect member => Or.inl (updateCassandraStatus_spawnedRack member)⟩
  | finalize op attempts known records =>
    obtain ⟨more, effects, quiet⟩ := finalizeOperation_spawnedRack before op attempts
    exact ⟨more, effects, fun effect member => Or.inl (quiet effect member)⟩
  | memory status cluster object settled unlock kept => exact ⟨[], by simp [kept.2], by simp⟩

theorem moves (moves : Moves part dcRackName answers before after)
    (within : ∀ {effect}, part.emits effect = true → effect.isLocalTo dcRackName = true) :
    SpawnsAt dcRackName before after := by
  induction moves with
  | refl => exact refl before
  | tail _ step induction => exact induction.trans (move step within)

theorem iteration {written : List Effect}
    (iteration : Iteration part dcRackName answers written before after)
    (within : ∀ {effect}, part.emits effect = true → effect.isLocalTo dcRackName = true) :
    SpawnsAt dcRackName before after := by
  obtain ⟨middle, first, reasons, second⟩ := iteration.split
  refine (moves first within).trans ((emit middle fun effect member => Or.inl ?_).trans
    (moves second within))
  cases reasons effect member <;> rfl

theorem iterationCase {platform : Platform} {position : Nat × Nat} {pass : Pass} {step : RackStep}
    (iterated : IterationCase platform answers position.1 position.2 pass step) :
    SpawnsAt (pass.cc.spec.rackNameAt position) pass step.pass := by
  cases iterated with
  | nameless | added => exact refl _
  | deleting =>
    refine emit pass fun effect member => ?_
    obtain ⟨_, rfl⟩ := deletePVCs_quiet answers effect member
    exact Or.inl rfl
  | handled rackStatus written step found alive handled path =>
    exact iteration handled.iteration id

theorem reconcileRackAt (platform : Platform) (answers : RackAnswers) (position : Nat × Nat)
    (pass : Pass) :
    SpawnsAt (pass.cc.spec.rackNameAt position) pass
      (reconcileRackAt platform answers position.1 position.2 pass).pass :=
  iterationCase (reconcileRackAt_case platform answers position.1 position.2 pass)

end SpawnsAt

end Casskop
