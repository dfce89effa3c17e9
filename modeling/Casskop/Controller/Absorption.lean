import Casskop.Controller.ResourceVersions
import Casskop.Validation.Containment

/-!
# What a pass records as last applied

The deferred update records the spec the check of the edit has left, up to the two flags a
pass resets.  `finalizeOperation` records the same spec, and after a conflict whatever it
reads from the API server, unchecked.
-/

namespace Casskop

/-! ## Records -/

/-- The last-applied configuration a call stores. -/
def Effect.recorded : Effect → Option LastApplied
  | .updateCluster lastApplied true => some lastApplied
  | _ => none

def recordings (effects : List Effect) : List LastApplied := effects.filterMap Effect.recorded

/-- What the annotation holds from the first write of a pass on, or the old configuration
where nothing is written. -/
def LeavesApplied (old : LastApplied) (effects : List Effect) (lastApplied : LastApplied) : Prop :=
  lastApplied ∈ recordings effects ∨ recordings effects = [] ∧ lastApplied = old

theorem recordings_append (first second : List Effect) :
    recordings (first ++ second) = recordings first ++ recordings second :=
  List.filterMap_append

theorem Effect.recorded_of_isLocal {effect : Effect} (isLocal : effect.isLocal = true) :
    effect.recorded = none := by
  cases effect <;> first | rfl | cases isLocal

theorem Effect.recorded_of_writtenRack {effect : Effect} {dcRackName : String}
    (writes : effect.writtenRack = some dcRackName) : effect.recorded = none := by
  cases effect <;> first | rfl | cases writes

theorem recordings_eq_nil {effects : List Effect}
    (none : ∀ effect ∈ effects, effect.recorded = none) : recordings effects = [] :=
  List.filterMap_eq_nil_iff.mpr none

/-- A property of specs that does not look at the two flags. -/
def Unflagged (good : CassandraClusterSpec → Prop) : Prop :=
  ∀ spec spec' : CassandraClusterSpec, spec'.settled = spec.settled → good spec → good spec'

/-- The object of the pass and all it has recorded is good. -/
structure RecordsOnly (good : CassandraClusterSpec → Prop) (cc : CassandraCluster)
    (effects : List Effect) : Prop where
  object : good cc.spec
  recorded : ∀ lastApplied ∈ recordings effects, good lastApplied.spec

/-- What the API server gives to `finalizeOperation` is good. -/
def RackAnswers.Rereads (good : CassandraClusterSpec → Prop) (answers : RackAnswers) : Prop :=
  ∀ result ∈ answers.handle.operations.channel, ∀ attempt ∈ result.2,
    ∀ refreshed ∈ attempt.refreshed, good refreshed.spec

def ReconcileAnswers.Rereads (good : CassandraClusterSpec → Prop)
    (answers : ReconcileAnswers) : Prop :=
  ∀ position, (answers.racks position).Rereads good

variable {answers : ReconcileAnswers}

section Records

variable {good : CassandraClusterSpec → Prop} {cc cc' : CassandraCluster}
  {effects more : List Effect}

namespace RecordsOnly

theorem quiet (records : RecordsOnly good cc effects)
    (none : ∀ effect ∈ more, effect.recorded = none) (object : good cc'.spec) :
    RecordsOnly good cc' (effects ++ more) := by
  refine ⟨object, ?_⟩
  rw [recordings_append, recordings_eq_nil none, List.append_nil]
  exact records.recorded

theorem append (records : RecordsOnly good cc effects)
    (recorded : ∀ lastApplied ∈ recordings more, good lastApplied.spec) (object : good cc'.spec) :
    RecordsOnly good cc' (effects ++ more) := by
  refine ⟨object, fun lastApplied member => ?_⟩
  rw [recordings_append] at member
  exact (List.mem_append.mp member).elim (records.recorded lastApplied) (recorded lastApplied)

end RecordsOnly

/-- Unless there is nothing to write, an accepted write records the object. -/
theorem updateCassandraStatus_recordings (needUpdate : Bool) (cc : CassandraCluster)
    (status : CassandraClusterStatus) (answer : WriteAnswer) :
    recordings (updateCassandraStatus needUpdate cc status answer).effects =
      if !needUpdate && cc.status == status &&
          cc.annotation == .config cc.computeLastAppliedConfiguration then []
      else if Except.succeeded answer.update then [cc.computeLastAppliedConfiguration] else [] := by
  unfold updateCassandraStatus
  dsimp only
  split
  · rfl
  · cases Except.succeeded answer.update <;> rfl

theorem updateCassandraStatus_records (needUpdate : Bool) (cc : CassandraCluster)
    (status : CassandraClusterStatus) (answer : WriteAnswer) :
    ∀ lastApplied ∈ recordings (updateCassandraStatus needUpdate cc status answer).effects,
      lastApplied = cc.computeLastAppliedConfiguration := by
  intro lastApplied member
  rw [updateCassandraStatus_recordings] at member
  split at member
  · cases member
  split at member
  · exact List.mem_singleton.mp member
  · cases member

theorem RecordsOnly.updateCassandraStatus (records : RecordsOnly good cc effects)
    (needUpdate : Bool) (status : CassandraClusterStatus) (answer : WriteAnswer) :
    RecordsOnly good (updateCassandraStatus needUpdate cc status answer).cc
      (effects ++ (updateCassandraStatus needUpdate cc status answer).effects) := by
  refine records.append (fun lastApplied member => ?_) ?_
  · rw [updateCassandraStatus_records needUpdate cc status answer lastApplied member]
    exact records.object
  · rw [(updateCassandraStatus_quiet needUpdate cc status answer).2.1]
    exact records.object

/-- The retry loop records the object it is called with and those it reads. -/
theorem finalizeLoop_records {status : CassandraClusterStatus} {label : Effect}
    (labels : label.recorded = none) (attempts : List FinalizeAttempt)
    (rereads : ∀ attempt ∈ attempts, ∀ refreshed ∈ attempt.refreshed, good refreshed.spec) :
    ∀ (cc : CassandraCluster) (needUpdate : Bool), good cc.spec →
      ∀ lastApplied ∈ recordings (finalizeLoop status label attempts cc needUpdate).effects,
        good lastApplied.spec := by
  have skips : ∀ effects, recordings (label :: effects) = recordings effects :=
    fun effects => List.filterMap_cons_none labels
  induction attempts with
  | nil =>
    intro cc needUpdate _ lastApplied member
    cases member
  | cons attempt attempts induction =>
    intro cc needUpdate object lastApplied member
    have later := induction fun other known => rereads other (List.mem_cons_of_mem _ known)
    have written := updateCassandraStatus_records needUpdate cc status attempt.write lastApplied
    unfold finalizeLoop at member
    split at member
    · exact later cc needUpdate object lastApplied member
    dsimp only at member
    split at member
    · rw [skips] at member
      rw [written member]
      exact object
    · rw [skips, recordings_append] at member
      rcases List.mem_append.mp member with first | rest
      · rw [written first]
        exact object
      · refine later _ _ ?_ lastApplied rest
        cases read : attempt.refreshed with
        | some refreshed => exact rereads attempt List.mem_cons_self refreshed read
        | none =>
          rw [Option.getD_none, (updateCassandraStatus_quiet _ _ _ _).2.1]
          exact object

theorem RecordsOnly.finalizeOperation {pass : Pass}
    (records : RecordsOnly good pass.cc pass.effects) (op : FinalizedOp)
    (attempts : List FinalizeAttempt)
    (rereads : ∀ attempt ∈ attempts, ∀ refreshed ∈ attempt.refreshed, good refreshed.spec) :
    RecordsOnly good (finalizeOperation pass op attempts).pass.cc
      (finalizeOperation pass op attempts).pass.effects := by
  unfold Casskop.finalizeOperation
  split
  · exact records.quiet (by simp [Effect.recorded]) records.object
  · refine records.append (fun lastApplied member => ?_) records.object
    exact finalizeLoop_records rfl attempts rereads pass.cc pass.needUpdate records.object
      lastApplied member

/-! ## The racks -/

section Racks

variable {answers : RackAnswers} {part : Part} {dcRackName : String} {before after : Pass}

theorem Move.recordsOnly (unflagged : Unflagged good) (rereads : answers.Rereads good)
    (move : Move part dcRackName answers before after)
    (records : RecordsOnly good before.cc before.effects) :
    RecordsOnly good after.cc after.effects := by
  cases move with
  | init | rack | pdb => exact records
  | emit emits =>
    refine records.quiet (fun effect member => ?_) records.object
    rw [List.mem_singleton.mp member]
    exact Effect.recorded_of_isLocal (part.isLocal emits)
  | statusWrite answer _ =>
    exact records.updateCassandraStatus before.needUpdate before.status answer
  | finalize op attempts known _ =>
    exact records.finalizeOperation op attempts (rereads (op, attempts) known)
  | memory status cluster object settled unlock kept read =>
    rw [kept.2]
    exact ⟨unflagged _ _ settled records.object, records.recorded⟩

theorem Moves.recordsOnly (unflagged : Unflagged good) (rereads : answers.Rereads good)
    (moves : Moves part dcRackName answers before after)
    (records : RecordsOnly good before.cc before.effects) :
    RecordsOnly good after.cc after.effects := by
  induction moves with
  | refl => exact records
  | tail _ move induction => exact move.recordsOnly unflagged rereads induction

theorem Iteration.recordsOnly {written : List Effect} (unflagged : Unflagged good)
    (rereads : answers.Rereads good)
    (iteration : Iteration part dcRackName answers written before after)
    (records : RecordsOnly good before.cc before.effects) :
    RecordsOnly good after.cc after.effects := by
  obtain ⟨middle, first, reasons, second⟩ := iteration.split
  have reached := first.recordsOnly unflagged rereads records
  refine second.recordsOnly unflagged rereads (reached.quiet ?_ reached.object)
  exact fun effect member => Effect.recorded_of_writtenRack (reasons effect member).writtenRack

end Racks

theorem reconcileRack_recordsOnly (platform : Platform) {ready : Pass} (unflagged : Unflagged good)
    (rereads : answers.Rereads good) (records : RecordsOnly good ready.cc ready.effects) :
    RecordsOnly good
      (reconcileRack platform answers.racks answers.removeFinalizers ready).pass.cc
      (reconcileRack platform answers.racks answers.removeFinalizers ready).pass.effects := by
  have looped : RecordsOnly good (ready.looped platform answers).cc
      (ready.looped platform answers).effects := by
    refine @reconcileRacks_invariant (fun pass => RecordsOnly good pass.cc pass.effects)
      platform answers.racks _ ?_ ready false records
    intro position member pass step kept iteration
    cases iteration with
    | nameless | added => exact kept
    | deleting =>
      refine kept.quiet (fun effect member => ?_) kept.object
      obtain ⟨_, rfl⟩ := deletePVCs_quiet _ _ member
      rfl
    | handled rackStatus written step found alive handled path =>
      exact handled.iteration.recordsOnly unflagged (rereads position) kept
  unfold reconcileRack
  dsimp only
  split
  · split
    · exact looped
    split
    · refine looped.quiet (by simp [Effect.recorded]) ?_
      change good (CassandraCluster.received _ _).spec
      rw [CassandraCluster.received_spec]
      exact looped.object
    · exact looped
  · exact looped

/-! ## Whole passes -/

section Passes

variable (platform : Platform) {answers : ReconcileAnswers} {start : Pass}

/-- The spec that is left by the check at the beginning of a pass. -/
def Pass.checkedSpec (changes : ChangeAnswers) (start : Pass) : CassandraClusterSpec :=
  (checkNonAllowedChanges platform start.needUpdate start.cc start.cc.status changes).spec

theorem reconcileChecked_recordsOnly (unflagged : Unflagged good)
    (rereads : answers.Rereads good) (fresh : recordings start.effects = [])
    (checked : good (start.checkedSpec platform answers.changes)) :
    let result := reconcileChecked platform answers { start with status := start.cc.status }
    RecordsOnly good result.1.cc result.1.effects := by
  have outcome := checkNonAllowedChanges_outcome platform start.needUpdate start.cc
    start.cc.status answers.changes
  have silent : recordings (start.effects ++ (checkNonAllowedChanges platform start.needUpdate
      start.cc start.cc.status answers.changes).effects) = [] := by
    rw [recordings_append, fresh, recordings_eq_nil fun effect member => ?_]
    · rfl
    · obtain ⟨_, _, rfl⟩ := outcome.effects effect member
      rfl
  have none : ∀ lastApplied ∈ recordings (start.effects ++ (checkNonAllowedChanges platform
      start.needUpdate start.cc start.cc.status answers.changes).effects),
      good lastApplied.spec := by
    intro lastApplied member
    rw [silent] at member
    cases member
  unfold reconcileChecked
  dsimp only
  split
  · exact ⟨checked, none⟩
  split
  · exact ⟨checked, none⟩
  · obtain ⟨object, effects, _⟩ := @reconcileRacksAndPhase_object platform answers _
    rw [object, effects]
    exact reconcileRack_recordsOnly platform unflagged rereads ⟨checked, none⟩

theorem reconcileDeferred_recordsOnly (unflagged : Unflagged good)
    (rereads : answers.Rereads good) (fresh : recordings start.effects = [])
    (checked : good (start.checkedSpec platform answers.changes)) :
    ∀ lastApplied ∈ recordings (reconcileDeferred platform answers start).effects,
      good lastApplied.spec := by
  have records := reconcileChecked_recordsOnly platform unflagged rereads fresh checked
  unfold reconcileDeferred
  dsimp only at records ⊢
  split
  · exact records.recorded
  · exact (records.updateCassandraStatus _ _ _).recorded

end Passes

end Records

variable {cc : CassandraCluster} {start : Pass}

theorem Started.unrecorded (started : Started cc start) : recordings start.effects = [] := by
  rcases started.effects with none | ⟨sent, version, metadata, only⟩
  · rw [none]
    rfl
  · rw [only]
    rfl

variable {memory : Memory}

theorem reconcile_undeferred (platform : Platform)
    (undeferred : deferredStart memory cc answers = none) :
    recordings (reconcile platform memory cc answers).effects = [] := by
  unfold deferredStart at undeferred
  unfold reconcile
  dsimp only at undeferred ⊢
  split
  · unfold initializeCluster
    dsimp only
    split
    · rfl
    · rfl
  rename_i phase
  rw [if_neg phase] at undeferred
  split
  · rename_i changed
    rw [if_pos changed] at undeferred
    split at undeferred
    · cases undeferred
    · rename_i refused
      rw [if_neg refused]
      rfl
  · rename_i unchanged
    rw [if_neg unchanged] at undeferred
    cases undeferred

/-! ## A pass that ends behind the check -/

/-- The budget that is read has no `MaxUnavailable`, and the pass faults. -/
def faultyBudget (changes : ChangeAnswers) (update : Except ApiError Nat) : ReconcileAnswers :=
  { calmAnswers 0 fun _ => demoStatefulSet "dc1-rack1" "cassandra:4" 1 with
    changes := changes
    pdb := .ok { name := "demo", ns := "default", maxUnavailable := none }
    write := { update := update, statusUpdate := .ok 1 } }

section Faulty

variable (platform : Platform) {changes : ChangeAnswers} {update : Except ApiError Nat}

theorem faultyBudget_rereads (good : CassandraClusterSpec → Prop) (changes : ChangeAnswers)
    (update : Except ApiError Nat) : (faultyBudget changes update).Rereads good := by
  intro position result waits
  cases waits

theorem reconcileChecked_faultyBudget (changes : ChangeAnswers) (update : Except ApiError Nat)
    (start : Pass) :
    let result := reconcileChecked platform (faultyBudget changes update)
      { start with status := start.cc.status }
    result.2 = false ∧
      result.1.cc = { start.cc with spec := start.checkedSpec platform changes } ∧
      recordings result.1.effects = recordings start.effects := by
  have silent : recordings (checkNonAllowedChanges platform start.needUpdate start.cc
      start.cc.status changes).effects = [] := by
    refine recordings_eq_nil fun effect member => ?_
    obtain ⟨_, _, rfl⟩ := (checkNonAllowedChanges_outcome platform start.needUpdate start.cc
      start.cc.status changes).effects effect member
    rfl
  have effects : recordings (start.effects ++ (checkNonAllowedChanges platform start.needUpdate
      start.cc start.cc.status changes).effects) = recordings start.effects := by
    rw [recordings_append, silent, List.append_nil]
  unfold reconcileChecked
  dsimp only
  split
  · exact ⟨rfl, rfl, effects⟩
  split
  · exact ⟨rfl, rfl, effects⟩
  · rename_i readable
    exact absurd rfl readable

theorem reconcileDeferred_faultyBudget (fresh : recordings start.effects = [])
    (changes : ChangeAnswers) (update : Except ApiError Nat) :
    ∃ needUpdate status, recordings (reconcileDeferred platform (faultyBudget changes update)
        start).effects =
      recordings (updateCassandraStatus needUpdate
        { start.cc with spec := start.checkedSpec platform changes } status
        { update := update, statusUpdate := .ok 1 }).effects := by
  obtain ⟨returns, object, silent⟩ := reconcileChecked_faultyBudget platform changes update start
  unfold reconcileDeferred
  dsimp only at returns object silent ⊢
  generalize reconcileChecked platform (faultyBudget changes update)
    { start with status := start.cc.status } = result at *
  refine ⟨result.1.needUpdate, result.1.status, ?_⟩
  rw [returns, if_neg Bool.false_ne_true, ← object]
  unfold Pass.updateCassandraStatus
  dsimp only
  rw [recordings_append, silent, fresh, List.nil_append]
  rfl

theorem faultyBudget_leaves {old : LastApplied} (fresh : recordings start.effects = [])
    (applied : start.cc.annotation = .config old) (changes : ChangeAnswers) :
    ∃ lastApplied, LeavesApplied old
        (reconcileDeferred platform (faultyBudget changes (.ok 1)) start).effects lastApplied ∧
      lastApplied.spec = start.checkedSpec platform changes := by
  obtain ⟨needUpdate, status, recorded⟩ :=
    reconcileDeferred_faultyBudget platform fresh changes (.ok 1)
  rw [updateCassandraStatus_recordings] at recorded
  refine ⟨{ metadata := start.cc.metadata, spec := start.checkedSpec platform changes }, ?_, rfl⟩
  unfold LeavesApplied
  rw [recorded]
  split
  · rename_i unwritten
    have same := (Bool.and_eq_true_iff.mp unwritten).2
    rw [beq_iff_eq] at same
    have stored := LastAppliedAnnotation.config.inj (applied.symm.trans same)
    exact Or.inr ⟨rfl, stored.symm⟩
  · exact Or.inl List.mem_cons_self

theorem faultyBudget_silent (memory : Memory) (cc : CassandraCluster) (changes : ChangeAnswers) :
    recordings (reconcile platform memory cc
      (faultyBudget changes (.error .conflict))).effects = [] := by
  cases starts : deferredStart memory cc (faultyBudget changes (.error .conflict)) with
  | none => exact reconcile_undeferred platform starts
  | some start =>
    obtain ⟨started, same⟩ := deferredStart_some platform starts
    obtain ⟨needUpdate, status, recorded⟩ := reconcileDeferred_faultyBudget platform
      started.unrecorded changes (.error .conflict)
    rw [same, recorded, updateCassandraStatus_recordings]
    split
    · rfl
    · rfl

theorem faultyBudget_starts (phase : cc.status.phase ≠ .unset) (memory : Memory)
    (changes : ChangeAnswers) (update : Except ApiError Nat) :
    ∃ start, deferredStart memory cc (faultyBudget changes update) = some start := by
  unfold deferredStart
  dsimp only
  rw [if_neg phase]
  split
  · exact ⟨_, rfl⟩
  · exact ⟨_, rfl⟩

end Faulty

/-! ## The flags a pass resets -/

namespace CassandraClusterSpec

variable (spec : CassandraClusterSpec)

theorem getDataStorageClassFromDCName_settled (dcName : String) :
    spec.settled.getDataStorageClassFromDCName dcName =
      spec.getDataStorageClassFromDCName dcName := by
  unfold getDataStorageClassFromDCName
  rw [find?_settled]
  cases spec.topology.dc.find? fun dc => dc.name == dcName <;> rfl

theorem dcNames_settled : spec.settled.dcNames = spec.dcNames :=
  List.map_map ..

theorem dcNodes_settled : spec.settled.dcNodes = spec.dcNodes :=
  List.map_map ..

theorem getDCNodesPerRacksFromName_settled (dcName : String) :
    spec.settled.getDCNodesPerRacksFromName dcName = spec.getDCNodesPerRacksFromName dcName := by
  rw [getDCNodesPerRacksFromName_eq, getDCNodesPerRacksFromName_eq, dcNames_settled,
    dcNodes_settled]
  rfl

end CassandraClusterSpec

theorem AbsorbsNothing.settled_iff {platform : Platform} {accepted : String → Prop}
    {oldSpec recorded : CassandraClusterSpec} :
    AbsorbsNothing platform accepted oldSpec recorded.settled ↔
      AbsorbsNothing platform accepted oldSpec recorded := by
  have names := recorded.dcNames_settled
  have counts := recorded.getDCNodesPerRacksFromName_settled
  have capacities := recorded.getDataCapacityFromDCName_settled
  have classes := recorded.getDataStorageClassFromDCName_settled
  constructor
  · rintro ⟨declared, populated, enough, same, nodes⟩
    simp only [names, counts, classes, AsksForLess, capacities] at declared populated enough same
    exact ⟨declared, populated, enough, same, nodes⟩
  · rintro ⟨declared, populated, enough, same, nodes⟩
    simp only [← names, ← counts, ← classes, AsksForLess, ← capacities]
      at declared populated enough same
    exact ⟨declared, populated, enough, same, nodes⟩

theorem AbsorbsNothing.unflagged (platform : Platform) (accepted : String → Prop)
    (oldSpec : CassandraClusterSpec) : Unflagged (AbsorbsNothing platform accepted oldSpec) := by
  intro spec spec' settled absorbs
  rw [← settled_iff, settled, settled_iff]
  exact absorbs

/-! ## The law -/

theorem deferredStart_needUpdate (starts : deferredStart memory cc answers = some start) :
    start.needUpdate = memory.needUpdate := by
  unfold deferredStart at starts
  dsimp only at starts
  split at starts
  · cases starts
  split at starts
  · split at starts
    · cases starts
      rfl
    · cases starts
  · cases starts
    rfl

/-- The spec the check leaves, for the edit of the object that was read. -/
theorem Started.absorbsNothing_iff {platform : Platform} {changes : ChangeAnswers}
    {old : LastApplied} (started : Started cc start)
    (needUpdate : start.needUpdate = memory.needUpdate) (applied : cc.annotation = .config old)
    (nodes : old.spec.nodesPerRacks ≠ 0) :
    AbsorbsNothing platform
        (ScaleDownAccepted platform memory.needUpdate cc.defaulted old.spec changes) old.spec
        (start.checkedSpec platform changes) ↔
      EditContained platform memory.needUpdate cc.defaulted old.spec changes := by
  have spec : start.cc.spec = cc.defaulted.spec := started.spec
  have status : start.cc.status = cc.defaulted.status := started.status
  have applied' : start.cc.annotation = .config old := started.applied.trans applied
  have contained : EditContained platform memory.needUpdate start.cc old.spec changes ↔
      EditContained platform memory.needUpdate cc.defaulted old.spec changes :=
    ⟨fun contained => contained.congr spec.symm status.symm,
      fun contained => contained.congr spec status⟩
  unfold Pass.checkedSpec
  rw [needUpdate, ← contained]
  rw [← checkNonAllowedChanges_absorbsNothing_iff applied' nodes start.cc.status]
  exact ⟨fun absorbs => absorbs.mono fun _ accepted => accepted.congr spec status,
    fun absorbs => absorbs.mono fun _ accepted => accepted.congr spec.symm status.symm⟩

/-- Where what is read again is unobjectionable, passes record nothing that is to be refused
exactly when the edit is contained. -/
theorem reconcile_absorbs_nothing_iff (platform : Platform) (memory : Memory)
    (cc : CassandraCluster) (changes : ChangeAnswers) (old : LastApplied)
    (applied : cc.annotation = .config old) :
    (∀ answers : ReconcileAnswers, answers.changes = changes →
        answers.Rereads (AbsorbsNothing platform
          (ScaleDownAccepted platform memory.needUpdate cc.defaulted old.spec changes) old.spec) →
        ∀ lastApplied, LeavesApplied old (reconcile platform memory cc answers).effects
            lastApplied →
          AbsorbsNothing platform
            (ScaleDownAccepted platform memory.needUpdate cc.defaulted old.spec changes) old.spec
            lastApplied.spec) ↔
      old.spec.nodesPerRacks ≠ 0 ∧
        (cc.status.phase ≠ .unset →
          EditContained platform memory.needUpdate cc.defaulted old.spec changes) := by
  constructor
  · intro law
    have nodes := (law (faultyBudget changes (.error .conflict)) rfl (faultyBudget_rereads _ _ _)
      old (Or.inr ⟨faultyBudget_silent platform memory cc changes, rfl⟩)).nodes
    refine ⟨nodes, fun phase => ?_⟩
    obtain ⟨start, starts⟩ := faultyBudget_starts phase memory changes (.ok 1)
    obtain ⟨started, same⟩ := deferredStart_some platform starts
    obtain ⟨lastApplied, left, spec⟩ := faultyBudget_leaves platform started.unrecorded
      (started.applied.trans applied) changes
    rw [← same] at left
    have absorbs := law _ rfl (faultyBudget_rereads _ _ _) lastApplied left
    rw [spec] at absorbs
    exact (started.absorbsNothing_iff (deferredStart_needUpdate starts) applied nodes).mp absorbs
  · rintro ⟨nodes, contained⟩ answers rfl rereads lastApplied left
    rcases left with recorded | ⟨_, rfl⟩
    · cases starts : deferredStart memory cc answers with
      | none =>
        rw [reconcile_undeferred platform starts] at recorded
        cases recorded
      | some start =>
        obtain ⟨started, same⟩ := deferredStart_some platform starts
        rw [same] at recorded
        have checked := (started.absorbsNothing_iff (deferredStart_needUpdate starts) applied
          nodes).mpr (contained started.phase)
        exact reconcileDeferred_recordsOnly platform (AbsorbsNothing.unflagged _ _ _) rereads
          started.unrecorded checked lastApplied recorded
    · exact .refl nodes

/-! ## Edits that are refused and recorded -/

def twoDCsApplied (dcs : List DC) : LastApplied :=
  { metadata := demoMeta
    spec :=
      { nodesPerRacks := 1
        cassandraImage := "cassandra:4"
        dataCapacity := "10Gi"
        topology := { dc := dcs } } }

def twoDCsOld : LastApplied :=
  twoDCsApplied
    [{ name := "dc1", rack := [{ name := "rack1" }], dataCapacity := "20Gi" },
      { name := "dc2", rack := [{ name := "rack1" }] }]

def twoDCsEdited (dcs : List DC) : CassandraCluster :=
  { metadata := demoMeta
    spec := (twoDCsApplied dcs).spec
    status := { phase := .running }
    annotation := .config twoDCsOld }

def twoDCsMemory : Memory := { storedPdb := { name := "demo", ns := "default" } }

def lessForFirst : CassandraCluster :=
  twoDCsEdited
    [{ name := "dc1", rack := [{ name := "rack1" }], dataCapacity := "10Gi" },
      { name := "dc2", rack := [{ name := "rack1" }] }]

theorem lessForFirst_contained :
    EditContained capacityPlatform false lessForFirst.defaulted twoDCsOld.spec capacityAnswers := by
  have back : (checkNonAllowedChanges capacityPlatform false lessForFirst.defaulted
      lessForFirst.status capacityAnswers).spec = twoDCsOld.spec := by
    decide +kernel
  refine (checkNonAllowedChanges_absorbsNothing_iff rfl (by decide)
    lessForFirst.status).mp ?_
  rw [back]
  exact .refl (by decide)

theorem lessForFirst_absorbs_nothing :
    lessForFirst.annotation = .config twoDCsOld ∧
      ∀ answers : ReconcileAnswers, answers.changes = capacityAnswers →
        answers.Rereads (AbsorbsNothing capacityPlatform (ScaleDownAccepted capacityPlatform
          twoDCsMemory.needUpdate lessForFirst.defaulted twoDCsOld.spec capacityAnswers)
          twoDCsOld.spec) →
        ∀ lastApplied, LeavesApplied twoDCsOld
            (reconcile capacityPlatform twoDCsMemory lessForFirst answers).effects lastApplied →
          AbsorbsNothing capacityPlatform (ScaleDownAccepted capacityPlatform
            twoDCsMemory.needUpdate lessForFirst.defaulted twoDCsOld.spec capacityAnswers)
            twoDCsOld.spec lastApplied.spec :=
  ⟨rfl, (reconcile_absorbs_nothing_iff capacityPlatform twoDCsMemory lessForFirst capacityAnswers
    twoDCsOld rfl).mpr ⟨by decide, fun _ => lessForFirst_contained⟩⟩

/-- And `dc2`, which has a node, is dropped in the same edit. -/
def lessAndDropped : CassandraCluster :=
  twoDCsEdited [{ name := "dc1", rack := [{ name := "rack1" }], dataCapacity := "10Gi" }]

/-- The capacity is put back, and `dc2` is gone. -/
def firstDCLeft : LastApplied :=
  twoDCsApplied [{ name := "dc1", rack := [{ name := "rack1" }], dataCapacity := "20Gi" }]

/-- While a pass finishes a cleanup, the user asks for 0 nodes. -/
def rereadPass : ReconcileAnswers :=
  let conflict : WriteAnswer :=
    { update := .error .conflict, statusUpdate := .error .conflict }
  let cluster := pairProcess.world.cluster
  let attempts : List FinalizeAttempt :=
    [{ labelled := true, write := conflict,
       refreshed := some { cluster with spec := { cluster.spec with nodesPerRacks := 0 } } },
      { labelled := true, write := writesSucceed, refreshed := none }]
  { pairPass { picks .rebuild [] with channel := [(finishedCleanup, attempts)] } with
    write := conflict }

/-- A DC that has nodes is dropped, and a spec that is read again is not checked. -/
theorem refused_changes_recorded :
    (recordings (reconcile capacityPlatform twoDCsMemory lessAndDropped
        (faultyBudget capacityAnswers (.ok 1))).effects =
          [firstDCLeft] ∧
      ¬ AbsorbsNothing capacityPlatform (ScaleDownAccepted capacityPlatform
        twoDCsMemory.needUpdate lessAndDropped.defaulted twoDCsOld.spec capacityAnswers)
        twoDCsOld.spec firstDCLeft.spec) ∧
    (recordings (reconcile demoPlatform pairProcess.world.memory pairProcess.world.cluster
        rereadPass).effects =
          [{ metadata := demoMeta, spec := { pairSpec with nodesPerRacks := 0 } }] ∧
      ¬ AbsorbsNothing demoPlatform (ScaleDownAccepted demoPlatform
        pairProcess.world.memory.needUpdate pairProcess.world.cluster.defaulted pairSpec
        rereadPass.changes) pairSpec { pairSpec with nodesPerRacks := 0 }) := by
  refine ⟨⟨by decide +kernel, fun absorbs => ?_⟩, ⟨by decide +kernel, fun absorbs => ?_⟩⟩
  · have declared := absorbs.declared "dc2" 1 (by decide) (by decide)
    exact absurd declared (by decide)
  · exact absorbs.nodes rfl

end Casskop
