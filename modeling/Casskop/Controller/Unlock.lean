import Casskop.Controller.Visits
import Casskop.Controller.OneOngoing

/-!
# The unlock flag

`spec.unlockNextOperation` lets one operation start although a disruption is reported.
The loop resets it behind every call of `ensureCassandraStatefulSet` that returns, so it
depends on the racks listed first whether it is still there for the rack it was set for.
-/

namespace Casskop

/-! ## The spec during pod operations -/

theorem Pass.updateCassandraStatus_spec (pass : Pass) (answer : WriteAnswer) :
    (pass.updateCassandraStatus answer).cc.spec = pass.cc.spec :=
  (updateCassandraStatus_quiet pass.needUpdate pass.cc pass.status answer).2.1

variable {pass : Pass} {dcRackName : String} {rack : CassandraRackStatus}

theorem DecommissionStep.spec {now : Nat} {answers : DecommissionAnswers} {ready : Bool}
    {result : PodOperationResult}
    (step : DecommissionStep now pass dcRackName rack answers ready result) :
    result.pass.cc.spec = pass.cc.spec := by
  cases step with
  | left => exact Pass.updateCassandraStatus_spec _ _
  | _ => rfl

theorem finalizeOperation_spec (pass : Pass) (op : FinalizedOp) (attempts : List FinalizeAttempt) :
    (finalizeOperation pass op attempts).pass.cc.spec = pass.cc.spec := by
  unfold finalizeOperation
  split <;> rfl

theorem finalizeAll_spec (ops : List (FinalizedOp × List FinalizeAttempt)) :
    ∀ pass : Pass, (finalizeAll pass ops).pass.cc.spec = pass.cc.spec := by
  induction ops with
  | nil => exact fun pass => rfl
  | cons entry ops induction =>
    intro pass
    have first := finalizeOperation_spec pass entry.1 entry.2
    unfold finalizeAll
    dsimp only
    split
    · exact (induction _).trans first
    · exact first

section Operations

variable (platform : Platform) (now : Nat) (dcRackName : String) (rack : CassandraRackStatus)
  (answers : OperationAnswers)

theorem initOperation_spec (pass : Pass) :
    (initOperation now pass dcRackName rack answers).1.cc.spec = pass.cc.spec := by
  unfold initOperation
  dsimp only
  repeat' split
  all_goals first | rfl | exact Pass.updateCassandraStatus_spec _ _

theorem getPodsToWorkOn_spec (pass : Pass) :
    (getPodsToWorkOn platform now pass dcRackName rack answers).1.cc.spec = pass.cc.spec := by
  unfold getPodsToWorkOn
  dsimp only
  split
  · rfl
  split
  · rw [Pass.updateCassandraStatus_spec]
    split <;> rfl
  · exact initOperation_spec now dcRackName rack answers pass

theorem startOperation_spec (operation : OperationName) (pod : Pod)
    (answer : Bool × WriteAnswer) (pass : Pass) :
    (startOperation platform pass dcRackName operation pod answer).cc.spec = pass.cc.spec := by
  unfold startOperation
  split
  · rfl
  dsimp only
  split
  · rfl
  · exact Pass.updateCassandraStatus_spec _ _

theorem ensureOperation_spec (pass : Pass) :
    (ensureOperation platform now pass dcRackName rack answers).cc.spec = pass.cc.spec := by
  have chosen := getPodsToWorkOn_spec platform now dcRackName rack answers pass
  unfold ensureOperation
  generalize getPodsToWorkOn platform now pass dcRackName rack answers = work at chosen ⊢
  obtain ⟨middle, pods, checkOnly⟩ := work
  dsimp only at chosen ⊢
  rw [← chosen]
  clear chosen
  induction pods generalizing middle with
  | nil => rfl
  | cons pod pods induction =>
    rw [List.foldl_cons, induction]
    split
    · rfl
    · exact startOperation_spec platform dcRackName _ _ _ _

end Operations

theorem handlePodOperation_spec (platform : Platform) (now : Nat) (pass : Pass)
    (dcRackName : String) (rack : CassandraRackStatus) (answers : HandleAnswers) (ready : Bool) :
    (handlePodOperation platform now pass dcRackName rack answers ready).pass.cc.spec =
      pass.cc.spec := by
  unfold handlePodOperation
  split
  · exact ensureDecommission_step.spec
  split
  · rfl
  · rfl
  split
  · have finalized := finalizeAll_spec (answers.operations.channel.take
      (drainedCount answers.operations.channel.length)) pass
    unfold finalizeOperations
    dsimp only
    split
    · exact (ensureOperation_spec platform now dcRackName rack answers.operations _).trans
        finalized
    · exact finalized
  · rfl

/-! ## Calls of ensureCassandraStatefulSet -/

def Pass.unlocked (pass : Pass) : Bool := pass.cc.spec.unlockNextOperation

/-- A call of `ensureCassandraStatefulSet` in the loop. -/
structure EnsureCall where
  dcRackName : String
  pass : Pass
  rack : CassandraRackStatus
  answers : RackAnswers
  found : pass.rackStatus dcRackName = some rack

def EnsureCall.result (platform : Platform) (call : EnsureCall) : PodOperationResult :=
  ensureCassandraStatefulSet platform call.answers.now call.pass call.dcRackName call.rack
    call.answers.ensure

def applyCall (answers : RackAnswers) (names : CompleteRackName) (pass : Pass) :
    Option EnsureCall :=
  match found : pass.rackStatus names.dcRackName with
  | none => none
  | some rack =>
    if isStorageUpsizeStarted rack then none
    else some ⟨names.dcRackName, pass.receivePdb answers.leftover.beforeWrite, rack, answers,
      found⟩

def operateCall (platform : Platform) (answers : RackAnswers) (names : CompleteRackName)
    (sts : StatefulSet) (rack : CassandraRackStatus) (pass : Pass) : Option EnsureCall :=
  if rack.phase = .initializing then applyCall answers names pass
  else
    let result := handlePodOperation platform answers.now pass names.dcRackName rack
      answers.handle (isStatefulSetReady sts)
    match result.flow with
    | .continueResyncLoop => applyCall answers names result.pass
    | _ => none

def observeCall (platform : Platform) (answers : RackAnswers) (dc rack : Nat)
    (names : CompleteRackName) (sts : StatefulSet) (rackStatus : CassandraRackStatus)
    (pass : Pass) : Option EnsureCall :=
  match updateCassandraRackStatusPhase answers.now pass.cc.spec names.dcRackName sts
      rackStatus answers.phasePods with
  | .fault => none
  | .updated phased =>
    let next := getNextCassandraClusterStatus platform answers.now
      (pass.phased answers names.dcRackName phased) dc rack sts phased answers.next
    if next.fault then none
    else
      operateCall platform answers names sts next.rack
        (pass.detected answers names.dcRackName phased next)

/-- The call the iteration at a position makes. -/
def ensureCallAt (platform : Platform) (answers : RackAnswers) (dc rack : Nat) (pass : Pass) :
    Option EnsureCall :=
  let names := pass.cc.spec.completeRackName dc rack
  if names.dcRackName = "" then none
  else
    match pass.rackStatus names.dcRackName with
    | none => none
    | some rackStatus =>
      if deletesPVCs pass.cc then none
      else
        match answers.statefulSet with
        | .error _ => applyCall answers names pass
        | .ok sts => observeCall platform answers dc rack names sts rackStatus pass

def ensureCalls (platform : Platform) (answers : Nat × Nat → RackAnswers) :
    List (Nat × Nat) → Pass → List EnsureCall
  | [], _ => []
  | position :: rest, pass =>
    let step := reconcileRackAt platform (answers position) position.1 position.2 pass
    (ensureCallAt platform (answers position) position.1 position.2 pass).toList ++
      match step.flow with
      | .nextRack => ensureCalls platform answers rest step.pass
      | _ => []

/-- An iteration keeps the flag, or it ends with the call. -/
inductive CallCase (platform : Platform) (pass : Pass) : Option EnsureCall → RackStep → Prop where
  | quiet (step : RackStep) (kept : step.pass.unlocked = pass.unlocked) :
      CallCase platform pass none step
  | called (call : EnsureCall) (kept : call.pass.unlocked = pass.unlocked) :
      CallCase platform pass (some call)
        (afterEnsure call.dcRackName (call.result platform))

variable {platform : Platform} {step : RackStep}

section Cases

variable {answers : RackAnswers}

theorem CallCase.after {middle : Pass} {call : Option EnsureCall}
    (calls : CallCase platform middle call step) (kept : middle.unlocked = pass.unlocked) :
    CallCase platform pass call step := by
  cases calls with
  | quiet step same => exact .quiet step (same.trans kept)
  | called call same => exact .called call (same.trans kept)

theorem CallCase.of_some {call : EnsureCall} (calls : CallCase platform pass (some call) step) :
    step = afterEnsure call.dcRackName (call.result platform) ∧
      call.pass.unlocked = pass.unlocked := by
  cases calls with
  | called call kept => exact ⟨rfl, kept⟩

theorem Pass.unlocked_of_spec {pass' : Pass} (same : pass'.cc.spec = pass.cc.spec) :
    pass'.unlocked = pass.unlocked :=
  congrArg CassandraClusterSpec.unlockNextOperation same

theorem upsizeRack_unlocked (names : CompleteRackName) (rack : CassandraRackStatus) (pass : Pass) :
    (upsizeRack platform answers names rack pass).pass.unlocked = pass.unlocked := by
  unfold upsizeRack reconcileStorageUpsize
  split <;> rfl

theorem applyRack_call (names : CompleteRackName) (pass : Pass) :
    CallCase platform pass (applyCall answers names pass)
      (applyRack platform answers names pass) := by
  unfold applyRack
  split
  · rename_i absent
    unfold applyCall
    split
    · exact .quiet _ rfl
    · rename_i found
      rw [absent] at found
      cases found
  · rename_i rack found
    unfold applyCall
    split
    · rename_i absent
      rw [absent] at found
      cases found
    · rename_i rack' found'
      obtain rfl : rack' = rack := Option.some.inj (found'.symm.trans found)
      split
      · exact .quiet _ (upsizeRack_unlocked names rack' pass)
      · exact .called ⟨names.dcRackName, pass.receivePdb answers.leftover.beforeWrite, rack',
          answers, found'⟩ rfl

theorem operateRack_call (names : CompleteRackName) (sts : StatefulSet)
    (rack : CassandraRackStatus) (pass : Pass) :
    CallCase platform pass (operateCall platform answers names sts rack pass)
      (operateRack platform answers names sts rack pass) := by
  unfold operateCall operateRack
  split
  · exact applyRack_call names pass
  · have kept := Pass.unlocked_of_spec (handlePodOperation_spec platform answers.now pass
      names.dcRackName rack answers.handle (isStatefulSetReady sts))
    generalize handlePodOperation platform answers.now pass names.dcRackName rack answers.handle
      (isStatefulSetReady sts) = result at kept ⊢
    unfold afterOperation
    dsimp only
    cases result.flow with
    | continueResyncLoop => exact (applyRack_call names result.pass).after kept
    | breakResyncLoop =>
      dsimp only
      split
      · exact .quiet _ kept
      · exact .quiet _ kept
    | fault => exact .quiet _ kept
    | hang => exact .quiet _ kept

theorem observeRack_call {sts : StatefulSet} (read : answers.statefulSet = .ok sts)
    (dc rack : Nat) (names : CompleteRackName) (rackStatus : CassandraRackStatus) (pass : Pass) :
    CallCase platform pass (observeCall platform answers dc rack names sts rackStatus pass)
      (observeRack platform answers dc rack names sts rackStatus pass) := by
  unfold observeCall observeRack
  cases updateCassandraRackStatusPhase answers.now pass.cc.spec names.dcRackName sts rackStatus
      answers.phasePods with
  | fault => exact .quiet _ rfl
  | updated phased =>
    have kept : (pass.detected answers names.dcRackName phased
        (getNextCassandraClusterStatus platform answers.now
          (pass.phased answers names.dcRackName phased) dc rack sts phased
          answers.next)).unlocked = pass.unlocked :=
      (getNextCassandraClusterStatus_changes platform
        (pass.phased answers names.dcRackName phased) dc rack phased read).2.2.2
    dsimp only
    split
    · rename_i faulty
      rw [Pass.phased] at faulty
      rw [if_pos faulty]
      exact .quiet _ kept
    · rename_i sound
      rw [Pass.phased] at sound
      rw [if_neg sound]
      exact (operateRack_call names sts _ _).after kept

theorem reconcileRackAt_call (dc rack : Nat) (pass : Pass) :
    CallCase platform pass (ensureCallAt platform answers dc rack pass)
      (reconcileRackAt platform answers dc rack pass) := by
  unfold ensureCallAt reconcileRackAt
  dsimp only
  by_cases nameless : (pass.cc.spec.completeRackName dc rack).dcRackName = ""
  · rw [if_pos nameless, if_pos nameless]
    exact .quiet _ rfl
  rw [if_neg nameless, if_neg nameless]
  cases pass.rackStatus (pass.cc.spec.completeRackName dc rack).dcRackName with
  | none => exact .quiet _ rfl
  | some rackStatus =>
    dsimp only
    by_cases deletes : deletesPVCs pass.cc = true
    · rw [if_pos deletes, if_pos deletes]
      exact .quiet _ rfl
    rw [if_neg deletes, if_neg deletes]
    cases read : answers.statefulSet with
    | error error => exact applyRack_call _ pass
    | ok sts => exact observeRack_call read dc rack _ rackStatus pass

end Cases

/-! ## What a call does -/

/-- Some rack is in an action it was not in, and that is not done. -/
def GotAction (racks : GoMap CassandraRackStatus) (pass : Pass) : Prop :=
  ∃ name rack, pass.rackStatus name = some rack ∧ rack.cassandraLastAction.status ≠ .done ∧
    ∀ old, racks.lookup name = some old →
      (rack.cassandraLastAction.name, rack.cassandraLastAction.status) ≠
        (old.cassandraLastAction.name, old.cassandraLastAction.status)

/-- The StatefulSet of a rack as it is compared with the stored one, unless a nil
dereference comes first. -/
def wantedStatefulSet (rack : CassandraRackStatus) (stored sts : StatefulSet) :
    Option StatefulSet :=
  (keepStoredSeeds stored (withStored stored sts)).bind fun sts =>
    revertAnyStorageUpsize rack stored
      (withReplicas sts (stepReplicas stored.spec.replicas sts.spec.replicas))

namespace EnsureCall

variable (platform : Platform) (call : EnsureCall)

/-- The call finds nothing to write and nothing to start. -/
def idle : Bool :=
  match generateCassandraStatefulSet platform call.pass.cc call.pass.status call.dcRackName with
  | none => true
  | some sts =>
    match call.answers.ensure.stored with
    | .error .notFound => false
    | .error _ => true
    | .ok stored =>
      !updatesSeedList call.rack && !restarts call.rack &&
        !call.pass.cc.spec.noCheckStsAreEqual &&
        (wantedStatefulSet call.rack stored sts).any (statefulSetsAreEqual platform stored)

def Returns : Prop :=
  (call.result platform).flow = .continueResyncLoop ∨
    (call.result platform).flow = .breakResyncLoop

/-- When the call has returned, the pass that the loop started from `ready` has written a
StatefulSet or moved a rack to a new action. -/
def Acts (ready : Pass) : Prop :=
  (call.result platform).pass.writes ≠ call.pass.writes ∨
    GotAction ready.cc.status.cassandraRackStatus call.pass ∨
    GotAction call.pass.status.cassandraRackStatus (call.result platform).pass

end EnsureCall

theorem Pass.setRackStatus_same (found : pass.rackStatus dcRackName = some rack) (name : String) :
    (pass.setRackStatus dcRackName rack).rackStatus name = pass.rackStatus name := by
  by_cases same : name = dcRackName
  · rw [same, Pass.rackStatus_setRackStatus, found]
  · exact Pass.rackStatus_setRackStatus_ne pass rack same

theorem Pass.writes_emit_write (pass : Pass) {effect : Effect}
    (write : effect.writtenRack.isSome = true) : (pass.emit [effect]).writes ≠ pass.writes := by
  simp [Pass.writes, write]

section Call

variable {call : EnsureCall}

theorem writeStatefulSet_cases (now : Nat) (pass : Pass) (dcRackName : String)
    (rack : CassandraRackStatus) (stored sts : StatefulSet) (answers : StatefulSetAnswers) :
    let result := writeStatefulSet platform now pass dcRackName rack stored sts answers
    let wanted := revertAnyStorageUpsize rack stored
      (withReplicas sts (stepReplicas stored.spec.replicas sts.spec.replicas))
    result.flow = .fault ∨ result.pass.writes ≠ pass.writes ∨
      ∃ sts, wanted = some sts ∧ pass.cc.spec.noCheckStsAreEqual = false ∧
        statefulSetsAreEqual platform stored (startRestart now rack sts).2 = true ∧
        result = ⟨pass.setRackStatus dcRackName (startRestart now rack sts).1,
          .continueResyncLoop⟩ := by
  unfold writeStatefulSet
  dsimp only
  split
  · exact Or.inl rfl
  rename_i sts wanted
  right
  split
  · rename_i equal
    exact Or.inr ⟨sts, wanted, equal.1, equal.2, rfl⟩
  · exact Or.inl (Pass.writes_emit_write _ rfl)

theorem writeStatefulSet_unlocked (now : Nat) (pass : Pass) (dcRackName : String)
    (rack : CassandraRackStatus) (stored sts : StatefulSet) (answers : StatefulSetAnswers) :
    (writeStatefulSet platform now pass dcRackName rack stored sts answers).pass.unlocked =
      pass.unlocked := by
  unfold writeStatefulSet
  dsimp only
  repeat' split
  all_goals rfl

theorem gotAction_of_started {rack' : CassandraRackStatus}
    (found : pass.rackStatus dcRackName = some rack)
    (started : rack'.cassandraLastAction.status = .ongoing)
    (waited : rack.cassandraLastAction.status ≠ .ongoing) (pass' : Pass)
    (now : pass'.rackStatus dcRackName = some rack') :
    GotAction pass.status.cassandraRackStatus pass' := by
  refine ⟨dcRackName, rack', now, by simp [started], fun old before same => ?_⟩
  obtain rfl : old = rack := Option.some.inj (before.symm.trans found)
  exact waited ((Prod.mk.inj same).2 ▸ started)

theorem not_gotAction_of_same {racks : GoMap CassandraRackStatus}
    (same : ∀ name, racks.lookup name = pass.rackStatus name) : ¬ GotAction racks pass := by
  rintro ⟨name, rack, now, _, differs⟩
  exact differs rack ((same name).trans now) rfl

theorem restarts_toDo (asked : restarts rack = true) : rack.cassandraLastAction.status = .toDo := by
  simp only [restarts, Bool.and_eq_true, beq_iff_eq] at asked
  exact asked.2

theorem startRestart_of_not (kept : restarts rack = false) (now : Nat) (sts : StatefulSet) :
    startRestart now rack sts = (rack, sts) := by
  unfold startRestart
  rw [if_neg (by simp [kept])]

namespace EnsureCall

theorem unchanged_of_idle (idle : call.idle platform = true) :
    call.Returns platform ∧ (call.result platform).pass.writes = call.pass.writes ∧
      ∀ name, (call.result platform).pass.rackStatus name = call.pass.rackStatus name := by
  unfold EnsureCall.idle at idle
  unfold Returns result ensureCassandraStatefulSet
  rcases built : generateCassandraStatefulSet platform call.pass.cc call.pass.status
    call.dcRackName with _ | sts
  · exact ⟨Or.inr rfl, rfl, fun _ => rfl⟩
  rw [built] at idle
  dsimp only at idle ⊢
  unfold createOrUpdateStatefulSet
  split
  · exact ⟨Or.inl rfl, rfl, fun _ => rfl⟩
  rcases read : call.answers.ensure.stored with error | stored
  · rw [read] at idle
    cases error with
    | notFound => cases idle
    | _ => exact ⟨Or.inl rfl, rfl, fun _ => rfl⟩
  rw [read] at idle
  dsimp only at idle ⊢
  simp only [Bool.and_eq_true, Bool.not_eq_true'] at idle
  obtain ⟨⟨⟨noSeeds, noRestart⟩, checks⟩, equal⟩ := idle
  rw [if_neg (by simp [noSeeds])]
  unfold wantedStatefulSet at equal
  split
  · rename_i faulty
    rw [faulty] at equal
    cases equal
  · rename_i seeded seeds
    rw [seeds, Option.bind_some] at equal
    unfold writeStatefulSet
    dsimp only
    split
    · rename_i faulty
      rw [faulty] at equal
      cases equal
    · rename_i wanted reverts
      rw [reverts] at equal
      rw [startRestart_of_not noRestart]
      dsimp only
      rw [if_pos ⟨checks, equal⟩]
      exact ⟨Or.inl rfl, rfl, Pass.setRackStatus_same call.found⟩

theorem acts_iff_of_idle (ready : Pass) (idle : call.idle platform = true) :
    call.Acts platform ready ↔ GotAction ready.cc.status.cassandraRackStatus call.pass := by
  obtain ⟨_, writes, racks⟩ := unchanged_of_idle idle
  constructor
  · rintro (wrote | got | moved)
    · exact absurd writes wrote
    · exact got
    · exact absurd moved (not_gotAction_of_same fun name => (racks name).symm)
  · exact fun got => Or.inr (Or.inl got)

theorem acts_of_not_idle (ready : Pass) (unlocked : call.pass.unlocked = true)
    (busy : call.idle platform = false) (returns : call.Returns platform) :
    call.Acts platform ready := by
  unfold EnsureCall.idle at busy
  unfold Returns at returns
  unfold Acts
  rw [or_left_comm]
  right
  unfold result ensureCassandraStatefulSet at returns ⊢
  rcases built : generateCassandraStatefulSet platform call.pass.cc call.pass.status
    call.dcRackName with _ | sts
  · rw [built] at busy
    cases busy
  rw [built] at busy returns
  dsimp only at busy returns ⊢
  have opened : ¬ (hasNoPodDisruption call.pass.storedPdb = false ∧
      call.pass.cc.spec.unlockNextOperation = false) := by
    rintro ⟨_, locked⟩
    rw [Pass.unlocked, locked] at unlocked
    cases unlocked
  unfold createOrUpdateStatefulSet at returns ⊢
  rw [if_neg opened] at returns ⊢
  rcases read : call.answers.ensure.stored with error | stored
  · rw [read] at busy
    cases error with
    | notFound => exact Or.inl (Pass.writes_emit_write _ rfl)
    | _ => cases busy
  rw [read] at busy returns
  dsimp only at busy returns ⊢
  by_cases seeds : updatesSeedList call.rack = true
  · rw [if_pos seeds] at returns ⊢
    have waited : call.rack.cassandraLastAction.status ≠ .ongoing := by
      intro ongoing
      simp [updatesSeedList, ongoing] at seeds
    rcases @writeStatefulSet_cases platform call.answers.now
        { call.pass with storedStatefulSet := some stored } call.dcRackName
        (startAction call.answers.now call.rack) stored (withStored stored sts)
        call.answers.ensure with fault | wrote | ⟨wanted, _, _, _, same⟩
    · rw [fault] at returns
      simp at returns
    · exact Or.inl wrote
    · rw [same]
      refine Or.inr (gotAction_of_started call.found ?_ waited _
        (Pass.rackStatus_setRackStatus _ _ _))
      unfold startRestart
      split <;> rfl
  rw [if_neg seeds] at returns ⊢
  split at returns
  · simp at returns
  rename_i kept keeps
  rcases @writeStatefulSet_cases platform call.answers.now
      { call.pass with storedStatefulSet := some stored } call.dcRackName call.rack stored kept
      call.answers.ensure with fault | wrote | ⟨wanted, reverts, checks, equal, same⟩
  · rw [fault] at returns
    simp at returns
  · exact Or.inl wrote
  by_cases restart : restarts call.rack = true
  · have waits := restarts_toDo restart
    rw [same]
    refine Or.inr (gotAction_of_started call.found ?_ (by simp [waits]) _
      (Pass.rackStatus_setRackStatus _ _ _))
    unfold startRestart
    rw [if_pos restart]
    rfl
  · have noRestart := Bool.eq_false_iff.mpr restart
    rw [startRestart_of_not noRestart] at equal
    have noSeeds := Bool.eq_false_iff.mpr seeds
    have notChecked : call.pass.cc.spec.noCheckStsAreEqual = false := checks
    simp [noSeeds, noRestart, notChecked, wantedStatefulSet, keeps, reverts, equal] at busy

theorem result_unlocked : (call.result platform).pass.unlocked = call.pass.unlocked := by
  unfold result ensureCassandraStatefulSet
  split
  · rfl
  unfold createOrUpdateStatefulSet
  dsimp only
  repeat' split
  all_goals first | rfl | exact writeStatefulSet_unlocked _ _ _ _ _ _ _

theorem reset_of_returns (returns : call.Returns platform) :
    (afterEnsure call.dcRackName (call.result platform)).pass.unlocked = false := by
  have reset : ∀ pass : Pass, pass.resetUnlock.unlocked = false := by
    intro pass
    unfold Pass.resetUnlock Pass.unlocked
    split
    · rfl
    · rename_i locked
      exact Bool.eq_false_iff.mpr locked
  have waits : ∀ pass : Pass, (pass.waitIfConfiguring call.dcRackName).unlocked =
      pass.unlocked := by
    intro pass
    unfold Pass.waitIfConfiguring
    split <;> rfl
  unfold afterEnsure
  rcases returns with continues | breaks
  · rw [continues]
    dsimp only
    split <;> exact reset _
  · rw [breaks]
    exact (waits _).trans (reset _)

theorem returns_of_reset (unlocked : call.pass.unlocked = true)
    (locked : (afterEnsure call.dcRackName (call.result platform)).pass.unlocked = false) :
    call.Returns platform := by
  have kept := (@result_unlocked platform call).trans unlocked
  unfold Returns
  unfold afterEnsure at locked
  split at locked
  · rw [kept] at locked
    cases locked
  · rw [kept] at locked
    cases locked
  · rename_i breaks
    exact Or.inr breaks
  · rename_i continues
    exact Or.inl continues

theorem returns_of_nextRack
    (next : (afterEnsure call.dcRackName (call.result platform)).flow = .nextRack) :
    call.Returns platform := by
  unfold Returns
  unfold afterEnsure at next
  split at next
  · cases next
  · cases next
  · cases next
  · rename_i continues
    exact Or.inl continues

end EnsureCall

end Call

/-! ## The loop -/

section Loop

variable {answers : Nat × Nat → RackAnswers}

theorem CallCase.next_unlocked {call : Option EnsureCall} (calls : CallCase platform pass call step)
    (next : step.flow = .nextRack) (unlocked : step.pass.unlocked = true) :
    call = none ∧ pass.unlocked = true := by
  cases calls with
  | quiet step kept => exact ⟨rfl, kept.symm.trans unlocked⟩
  | called call kept =>
    rw [EnsureCall.reset_of_returns (EnsureCall.returns_of_nextRack next)] at unlocked
    cases unlocked

theorem ensureCalls_unlocked (positions : List (Nat × Nat)) :
    ∀ (pass : Pass), ∀ call ∈ ensureCalls platform answers positions pass,
      call.pass.unlocked = true → pass.unlocked = true := by
  induction positions with
  | nil =>
    intro pass call member
    cases member
  | cons position rest induction =>
    intro pass call member unlocked
    have calls := @reconcileRackAt_call platform (answers position) position.1 position.2 pass
    unfold ensureCalls at member
    dsimp only at member
    rcases List.mem_append.mp member with here | later
    · rw [Option.mem_toList] at here
      rw [here] at calls
      exact calls.of_some.2.symm.trans unlocked
    · split at later
      · rename_i next
        exact (calls.next_unlocked next (induction _ call later unlocked)).2
      · cases later

theorem reconcileRacks_reset (positions : List (Nat × Nat)) :
    ∀ (pass : Pass) (newStatus : Bool), pass.unlocked = true →
      (reconcileRacks platform answers positions pass newStatus).pass.unlocked = false →
      ∃ call ∈ ensureCalls platform answers positions pass,
        call.pass.unlocked = true ∧ call.Returns platform := by
  induction positions with
  | nil =>
    intro pass newStatus unlocked locked
    rw [reconcileRacks, unlocked] at locked
    cases locked
  | cons position rest induction =>
    intro pass newStatus unlocked locked
    have calls := @reconcileRackAt_call platform (answers position) position.1 position.2 pass
    unfold ensureCalls
    unfold reconcileRacks at locked
    dsimp only at locked ⊢
    generalize reconcileRackAt platform (answers position) position.1 position.2 pass = step
      at calls locked ⊢
    generalize ensureCallAt platform (answers position) position.1 position.2 pass = made
      at calls
    cases calls with
    | called call kept =>
      have flagged := kept.trans unlocked
      refine ⟨call, by simp, flagged, ?_⟩
      split at locked
      · rename_i next
        exact EnsureCall.returns_of_nextRack next
      · exact EnsureCall.returns_of_reset flagged locked
    | quiet step kept =>
      have still := kept.trans unlocked
      by_cases next : step.flow = .nextRack
      · rw [next] at locked ⊢
        obtain ⟨call, member, found⟩ := induction _ _ still locked
        exact ⟨call, by simpa using member, found⟩
      · split at locked
        · rename_i goesOn
          exact absurd goesOn next
        · change step.pass.unlocked = false at locked
          rw [still] at locked
          cases locked

theorem ensureCalls_of_start {visited positions : List (Nat × Nat)}
    (start : visited <+: positions) :
    ∀ pass, ∀ call ∈ ensureCalls platform answers visited pass,
      call ∈ ensureCalls platform answers positions pass := by
  induction visited generalizing positions with
  | nil =>
    intro pass call member
    cases member
  | cons position visited induction =>
    obtain ⟨rest, rfl⟩ := start
    intro pass call member
    unfold ensureCalls at member
    rw [List.cons_append]
    unfold ensureCalls
    dsimp only at member ⊢
    rcases List.mem_append.mp member with here | later
    · exact List.mem_append_left _ here
    · refine List.mem_append_right _ ?_
      split at later
      · exact induction (List.prefix_append visited rest) _ call later
      · cases later

theorem ensureCalls_first (positions : List (Nat × Nat)) :
    ∀ (pass : Pass), ∀ call ∈ ensureCalls platform answers positions pass,
      call.pass.unlocked = true →
      ∃ visited, visited <+: positions ∧
        ensureCalls platform answers visited pass = [call] ∧
        ∀ newStatus, (reconcileRacks platform answers visited pass newStatus).pass =
          (afterEnsure call.dcRackName (call.result platform)).pass := by
  induction positions with
  | nil =>
    intro pass call member
    cases member
  | cons position rest induction =>
    intro pass call member unlocked
    have calls := @reconcileRackAt_call platform (answers position) position.1 position.2 pass
    unfold ensureCalls at member
    dsimp only at member
    rcases List.mem_append.mp member with here | later
    · rw [Option.mem_toList] at here
      rw [here] at calls
      refine ⟨[position], List.prefix_append [position] rest, ?_, fun newStatus => ?_⟩
      · unfold ensureCalls
        dsimp only
        rw [here]
        unfold ensureCalls
        split <;> rfl
      · unfold reconcileRacks
        dsimp only
        rw [calls.of_some.1]
        split <;> rfl
    · split at later
      · rename_i next
        have flag := ensureCalls_unlocked rest _ call later unlocked
        have none := (calls.next_unlocked next flag).1
        obtain ⟨visited, start, only, ends⟩ := induction _ call later unlocked
        refine ⟨position :: visited, List.cons_prefix_cons.mpr ⟨rfl, start⟩, ?_,
          fun newStatus => ?_⟩
        · unfold ensureCalls
          dsimp only
          rw [none, next]
          exact only
        · unfold reconcileRacks
          dsimp only
          rw [next]
          exact ends _
      · cases later

end Loop

/-! ## Consuming the flag -/

section Consumed

variable (platform : Platform) (answers : Nat × Nat → RackAnswers) (ready : Pass)

/-- Once the flag is gone, a call made so far has acted. -/
def UnlockConsumed : Prop :=
  ready.unlocked = true → ∀ visited, visited <+: ready.cc.spec.rackPositions →
    (reconcileRacks platform answers visited ready false).pass.unlocked = false →
    ∃ call ∈ ensureCalls platform answers visited ready, call.Acts platform ready

/-- The loop comes to no rack with the flag whose StatefulSet is left as it is, unless a
rack has got a new action before. -/
def UnlockNeeded : Prop :=
  ∀ call ∈ ensureCalls platform answers ready.cc.spec.rackPositions ready,
    call.pass.unlocked = true → call.idle platform = true →
    GotAction ready.cc.status.cassandraRackStatus call.pass

end Consumed

/-! ## A healthy rack before the stuck one -/

/-- `dc2` was to get a second node, which cannot be scheduled. -/
def stuckSpec (nodes : Int) (unlock : Bool) : CassandraClusterSpec :=
  { nodesPerRacks := 1
    cassandraImage := "cassandra:4"
    unlockNextOperation := unlock
    topology :=
      { dc := [{ name := "dc1", rack := [{ name := "rack1" }] },
          { name := "dc2", rack := [{ name := "rack1" }], nodesPerRacks := some nodes }] } }

/-- The user goes back to one node and sets the flag. -/
def stuckCluster : CassandraCluster :=
  { metadata := demoMeta
    annotation := .config { metadata := demoMeta, spec := stuckSpec 2 false }
    spec := stuckSpec 1 true
    status :=
      { phase := .running
        lastClusterAction := .scaleUp
        lastClusterActionStatus := .ongoing
        cassandraRackStatus := GoMap.ofList
          [("dc1-rack1", idleRack),
            ("dc2-rack1",
              { phase := .pending
                cassandraLastAction := { name := .scaleUp, status := .ongoing } })] } }

/-- The second pod of `dc2` waits, and no disruption is allowed. -/
def stuckAnswers : ReconcileAnswers :=
  let calm := calmAnswers 100 fun position =>
    if position = (0, 0) then demoStatefulSet "dc1-rack1" "cassandra:4" 1
    else
      { demoStatefulSet "dc2-rack1" "cassandra:4" 2 with
        status := { replicas := 2, readyReplicas := 1 } }
  { calm with
    pdb := .ok { name := "demo", ns := "default", maxUnavailable := some 1,
                 disruptionsAllowed := 0, expectedPods := 3 }
    racks := fun position =>
      { calm.racks position with
        next :=
          { (calm.racks position).next with
            unschedulable := .ok
              (if position = (0, 0) then []
              else
                [{ name := "demo-dc2-rack1-1"
                   phase := .pending
                   conditions :=
                     some [{ type := "PodScheduled", reason := "Unschedulable" }] }]) } } }

def stuckPass : Pass :=
  { cc := stuckCluster
    status := stuckCluster.status
    storedPdb := (pdbRead stuckCluster stuckAnswers.pdb).stored }

end Casskop
