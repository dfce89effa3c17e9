import Casskop.Controller.OneOngoing

/-!
# The disruption gate

`CreateOrUpdateStatefulSet` trusts the budget in the reconciler.  The pass stores
what its own read returned, and goroutines left behind by earlier passes, of any
cluster, may store what theirs return.
-/

namespace Casskop

/-! ## Where the budget comes from -/

section Provenance

variable (unlock : Bool) (known : PdbRead → Prop)

/-- The unlock flag, or a known read whose result shows no disruption. -/
def GateReason : Prop :=
  unlock = true ∨ ∃ read, known read ∧ hasNoPodDisruption read.stored = true

/-- The stored budget is the result of a known read, and what has been written so
far had a reason. -/
structure Guarded (pass : Pass) : Prop where
  pdb : ∃ read, known read ∧ pass.storedPdb = read.stored
  unlocked : pass.cc.spec.unlockNextOperation = true → unlock = true
  gated : ∀ effect ∈ pass.effects, effect.isGated = true → GateReason unlock known

variable {unlock known} {part : Part} {dcRackName : String}
  {answers : RackAnswers} {before after : Pass}

theorem Guarded.emit (guarded : Guarded unlock known before) {effects : List Effect}
    (reason : ∀ effect ∈ effects, effect.isGated = true → GateReason unlock known) :
    Guarded unlock known (before.emit effects) := by
  refine ⟨guarded.pdb, guarded.unlocked, fun effect member => ?_⟩
  rcases List.mem_append.mp member with old | new
  · exact guarded.gated effect old
  · exact reason effect new

theorem Effect.isGated_writtenRack {effect : Effect} (gated : effect.isGated = true) :
    effect.writtenRack ≠ none := by
  cases effect <;> simp_all [Effect.isGated, Effect.writtenRack]

/-- A part of the pass that writes no StatefulSet keeps the guard. -/
theorem Guarded.ofFrame {name : String} (guarded : Guarded unlock known before)
    (frame : Frame name [] before after) (pdb : after.storedPdb = before.storedPdb) :
    Guarded unlock known after := by
  refine ⟨by rw [pdb]; exact guarded.pdb, fun set => guarded.unlocked (frame.unlock set), ?_⟩
  intro effect member gated
  have written : effect ∈ after.writes := by
    have named := Effect.isGated_writtenRack gated
    exact List.mem_filter.mpr ⟨member, by simpa [Option.isSome_iff_ne_none] using named⟩
  rw [frame.writes, List.append_nil] at written
  exact guarded.gated effect (List.mem_filter.mp written).1 gated

theorem Move.guarded (move : Move part dcRackName answers before after)
    (leftover : ∀ read, answers.leftover.beforeDetection = some read ∨
      answers.leftover.beforeWrite = some read → known read)
    (guarded : Guarded unlock known before) : Guarded unlock known after := by
  have frame := move.frame
  cases move with
  | init absent => exact guarded.ofFrame frame rfl
  | rack found changes => exact guarded.ofFrame frame rfl
  | emit emits => exact guarded.ofFrame frame rfl
  | statusWrite answer records => exact guarded.ofFrame frame rfl
  | finalize op attempts _ _ =>
    refine guarded.ofFrame frame ?_
    unfold finalizeOperation
    split <;> rfl
  | pdb knownRead =>
    exact ⟨⟨_, leftover _ knownRead, rfl⟩, guarded.unlocked, guarded.gated⟩
  | memory status cluster object settled unlocked kept => exact guarded.ofFrame frame kept.1

theorem Moves.guarded (moves : Moves part dcRackName answers before after)
    (leftover : ∀ read, answers.leftover.beforeDetection = some read ∨
      answers.leftover.beforeWrite = some read → known read)
    (guarded : Guarded unlock known before) : Guarded unlock known after := by
  induction moves with
  | refl => exact guarded
  | tail _ move induction => exact move.guarded leftover induction

theorem Guarded.reason (guarded : Guarded unlock known before) (gate : before.GateOpen) :
    GateReason unlock known := by
  rcases gate with free | unlocked
  · obtain ⟨read, isKnown, stored⟩ := guarded.pdb
    exact Or.inr ⟨read, isKnown, stored ▸ free⟩
  · exact Or.inl (guarded.unlocked unlocked)

theorem Iteration.guarded {written : List Effect}
    (iteration : Iteration part dcRackName answers written before after)
    (leftover : ∀ read, answers.leftover.beforeDetection = some read ∨
      answers.leftover.beforeWrite = some read → known read)
    (guarded : Guarded unlock known before) : Guarded unlock known after := by
  obtain ⟨middle, first, reasons, second⟩ := iteration.split
  have reached := first.guarded leftover guarded
  refine second.guarded leftover (reached.emit fun effect member gated => ?_)
  cases reasons effect member with
  | create sts gate => exact reached.reason gate
  | update stored sts gate => exact reached.reason gate
  | recreate => cases gated
  | orphan => cases gated

theorem reconcileRacks_guarded (platform : Platform) (racks : Nat × Nat → RackAnswers)
    (leftover : ∀ position read, (racks position).leftover.beforeDetection = some read ∨
      (racks position).leftover.beforeWrite = some read → known read)
    (positions : List (Nat × Nat)) {pass : Pass} (newStatus : Bool)
    (guarded : Guarded unlock known pass) :
    Guarded unlock known (reconcileRacks platform racks positions pass newStatus).pass := by
  refine reconcileRacks_invariant platform racks positions ?_ pass newStatus guarded
  intro position _ pass step guarded iteration
  cases iteration with
  | nameless empty => exact guarded
  | added absent => exact ⟨guarded.pdb, guarded.unlocked, guarded.gated⟩
  | deleting deletes =>
    refine guarded.emit fun effect member gated => ?_
    obtain ⟨_, rfl⟩ := deletePVCs_quiet _ _ member
    cases gated
  | handled rackStatus written step found alive handled _ =>
    exact handled.iteration.guarded (leftover position) guarded

end Provenance

/-! ## The pass -/

/-- The reads of the budget during a pass: its own, and those of the goroutines. -/
def KnownRead (cc : CassandraCluster) (answers : ReconcileAnswers) (read : PdbRead) : Prop :=
  read = pdbRead cc answers.pdb ∨
    ∃ position, (answers.racks position).leftover.beforeDetection = some read ∨
      (answers.racks position).leftover.beforeWrite = some read

theorem CassandraClusterSpec.checkDefaults_unlock (spec : CassandraClusterSpec) :
    spec.checkDefaults.unlockNextOperation = spec.unlockNextOperation := by
  unfold checkDefaults
  split <;> rfl

/-- Every create and update of a pass has the unlock flag or a known read behind
it. -/
theorem reconcile_gated (platform : Platform) (answers : ReconcileAnswers) (memory : Memory)
    (cc : CassandraCluster) :
    ∀ effect ∈ (reconcile platform memory cc answers).effects, effect.isGated = true →
      GateReason cc.spec.unlockNextOperation (KnownRead cc answers) := by
  have quiet : ∀ effect : Effect, effect.isOuter = true → effect.isGated = false := by
    intro effect outer
    cases effect <;> first | rfl | cases outer
  intro effect member gated
  cases reconcile_loopCase platform memory cc answers with
  | quiet outer => simp [quiet effect (outer effect member)] at gated
  | loop start ready started isReady last outer effects =>
    have begins : Guarded cc.spec.unlockNextOperation (KnownRead cc answers) ready := by
      refine ⟨⟨_, Or.inl rfl, ?_⟩, fun set => ?_, fun effect member gated => ?_⟩
      · rw [isReady.pdb]
        simp only [pdbRead, started.named.1, started.named.2.1]
      · rwa [isReady.spec, started.spec, CassandraClusterSpec.checkDefaults_unlock] at set
      · rw [isReady.effects] at member
        simp [quiet effect (started.outer effect member).1] at gated
    rw [effects] at member
    rcases List.mem_append.mp member with inLoop | after
    · exact (reconcileRacks_guarded platform answers.racks
        (fun position read isLeft => Or.inr ⟨position, isLeft⟩) _ false begins).gated effect
        inLoop gated
    · simp [quiet effect (outer effect after).1] at gated

/-! ## The operator with its goroutines -/

/-- The operator process: its memory and the clusters its goroutines watch, as name
and namespace. -/
structure Operator where
  memory : Memory
  monitors : List (String × String)

inductive OperatorEvent where
  | pass (cc : CassandraCluster) (answers : ReconcileAnswers)
  /-- A goroutine stores what it read, between two passes. -/
  | tick (read : PdbRead)
  | restart

def Effect.startsMonitor : Effect → Bool
  | .waitForStatefulSet .. => true
  | _ => false

def Operator.step (platform : Platform) (operator : Operator) : OperatorEvent → Operator
  | .pass cc answers =>
    let pass := reconcile platform operator.memory cc answers
    { memory := pass.memory
      monitors := operator.monitors ++ (pass.effects.filter Effect.startsMonitor).map
        fun _ => (cc.metadata.name, cc.metadata.ns) }
  | .tick read =>
    { operator with memory := { operator.memory with storedPdb := read.stored } }
  | .restart => { memory := Memory.empty, monitors := [] }

def PdbRead.cluster (read : PdbRead) : String × String := (read.name, read.ns)

/-- Only goroutines that were started store budgets. -/
def MonitorsAct (operator : Operator) : OperatorEvent → Prop
  | .pass _ answers => ∀ position read,
      (answers.racks position).leftover.beforeDetection = some read ∨
        (answers.racks position).leftover.beforeWrite = some read →
      read.cluster ∈ operator.monitors
  | .tick read => read.cluster ∈ operator.monitors
  | .restart => True

/-- What is claimed of a create or update: the unlock flag is set, or a budget of
this very cluster was found not to exist or read and seen to allow a disruption. -/
def GateRespected (cc : CassandraCluster) (answers : ReconcileAnswers)
    (effects : List Effect) : Prop :=
  ∀ effect ∈ effects, effect.isGated = true →
    cc.spec.unlockNextOperation = true ∨
      ∃ read, KnownRead cc answers read ∧
        read.cluster = (cc.metadata.name, cc.metadata.ns) ∧
        (read.answer = .error .notFound ∨
          ∃ pdb, read.answer = .ok pdb ∧ hasNoPodDisruption pdb = true)

/-- No goroutine of another cluster is left, and no read of the pass fails except
for a budget that does not exist. -/
def ReadsSucceed (operator : Operator) : OperatorEvent → Prop
  | .pass cc answers =>
    (∀ monitor ∈ operator.monitors, monitor = (cc.metadata.name, cc.metadata.ns)) ∧
      ∀ read, KnownRead cc answers read → ∀ error, read.answer = .error error →
        error = .notFound
  | _ => True

theorem gateRespected_of_reads {platform : Platform} {operator : Operator} {cc : CassandraCluster}
    {answers : ReconcileAnswers} (act : MonitorsAct operator (.pass cc answers))
    (succeed : ReadsSucceed operator (.pass cc answers)) :
    GateRespected cc answers (reconcile platform operator.memory cc answers).effects := by
  intro effect member gated
  rcases reconcile_gated platform answers operator.memory cc effect member gated with
    unlocked | ⟨read, known, free⟩
  · exact Or.inl unlocked
  · refine Or.inr ⟨read, known, ?_, ?_⟩
    · rcases known with rfl | ⟨position, leftover⟩
      · rfl
      · exact succeed.1 _ (act position read leftover)
    · cases answer : read.answer with
      | error error => exact Or.inl (by rw [succeed.2 read known error answer])
      | ok pdb =>
        refine Or.inr ⟨pdb, rfl, ?_⟩
        simpa only [PdbRead.stored, answer, hasNoPodDisruption] using free

/-- In every run all of whose steps have successful reads and no goroutine of another
cluster, every pass respects the gate. -/
theorem Operator.run_respects_gate (platform : Platform) (start : Operator)
    (before after : List OperatorEvent) (cc : CassandraCluster) (answers : ReconcileAnswers)
    (meets : Runs.Meets (Operator.step platform)
      (fun operator event => MonitorsAct operator event ∧ ReadsSucceed operator event) start
      (before ++ .pass cc answers :: after)) :
    GateRespected cc answers
      (reconcile platform (Runs.run (Operator.step platform) start before).memory cc
        answers).effects := by
  obtain ⟨_, met, _⟩ := Runs.Meets.append.mp meets
  exact gateRespected_of_reads met.1 met.2

/-! ## A read that fails -/

def newImageCluster : CassandraCluster :=
  { twoRackWorld.cluster with spec := { twoRackSpec with cassandraImage := "cassandra:5" } }

def failedBudgetRead : ReconcileAnswers := { twoRackAnswers with pdb := .error .other }

/-- The StatefulSet is updated in a pass that could not read the budget. -/
theorem Operator.failed_read_opens_gate :
    let start : Operator := { memory := Memory.empty, monitors := [] }
    let effects := (reconcile demoPlatform start.memory newImageCluster
      failedBudgetRead).effects
    MonitorsAct start (.pass newImageCluster failedBudgetRead) ∧
      (effects.any Effect.isGated) = true ∧
      ¬ GateRespected newImageCluster failedBudgetRead effects := by
  intro start effects
  have leftover : ∀ position read,
      ¬ ((failedBudgetRead.racks position).leftover.beforeDetection = some read ∨
        (failedBudgetRead.racks position).leftover.beforeWrite = some read) := by
    simp [failedBudgetRead, twoRackAnswers, calmAnswers, healthyAnswers]
  have written : (effects.any Effect.isGated) = true := by decide
  refine ⟨fun position read isLeft => absurd isLeft (leftover position read), written, ?_⟩
  intro respected
  obtain ⟨effect, member, gated⟩ := List.any_eq_true.mp written
  rcases respected effect member gated with unlocked | ⟨read, known, _, answered⟩
  · revert unlocked
    decide
  · rcases known with rfl | ⟨position, isLeft⟩
    · simp [pdbRead, failedBudgetRead] at answered
    · exact leftover position read isLeft

/-- The same edit with a budget that could be read. -/
theorem Operator.new_image_respects_gate :
    let start : Operator := { memory := Memory.empty, monitors := [] }
    let effects := (reconcile demoPlatform start.memory newImageCluster
      twoRackAnswers).effects
    (effects.any Effect.isGated) = true ∧
      GateRespected newImageCluster twoRackAnswers effects := by
  have leftover : ∀ position read,
      ¬ ((twoRackAnswers.racks position).leftover.beforeDetection = some read ∨
        (twoRackAnswers.racks position).leftover.beforeWrite = some read) := by
    simp [twoRackAnswers, calmAnswers, healthyAnswers]
  refine ⟨by decide, Operator.run_respects_gate demoPlatform
    { memory := Memory.empty, monitors := [] } [] [] newImageCluster twoRackAnswers
    ⟨⟨fun position read isLeft => absurd isLeft (leftover position read), by simp, ?_⟩,
      trivial⟩⟩
  intro read known error answer
  rcases known with rfl | ⟨position, isLeft⟩
  · simp [pdbRead, twoRackAnswers, calmAnswers] at answer
  · exact absurd isLeft (leftover position read)

end Casskop
