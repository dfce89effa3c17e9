import Casskop.Controller.OneOngoing

/-!
# The retry loop of `finalizeOperation`

A finished operation is recorded by labelling its pod and writing the status, over
and over until both succeed.  Whether that ever happens depends on the objects that
still exist.
-/

namespace Casskop

/-! ## Rounds -/

variable {status : CassandraClusterStatus} {label : Effect}

/-- A labelled round whose status update succeeds ends the loop, if an earlier one does
not. -/
theorem finalizeLoop_finishes {good : FinalizeAttempt} (labelled : good.labelled = true)
    (succeeded : Except.succeeded good.write.statusUpdate = true)
    (attempts : List FinalizeAttempt) :
    ∀ (cc : CassandraCluster) (needUpdate : Bool), good ∈ attempts →
      (finalizeLoop status label attempts cc needUpdate).finished = true := by
  induction attempts with
  | nil =>
    intro cc needUpdate member
    cases member
  | cons attempt attempts induction =>
    intro cc needUpdate member
    unfold finalizeLoop
    split
    · rename_i unlabelled
      refine induction cc needUpdate ?_
      rcases List.mem_cons.mp member with rfl | later
      · rw [labelled] at unlabelled
        cases unlabelled
      · exact later
    · dsimp only
      split
      · rfl
      · rename_i error failed
        refine induction _ _ ?_
        rcases List.mem_cons.mp member with rfl | later
        · have written : (updateCassandraStatus needUpdate cc status good.write).error =
              none := by
            unfold updateCassandraStatus
            dsimp only
            split
            · rfl
            · cases answer : good.write.statusUpdate with
              | ok version => rfl
              | error error =>
                rw [answer] at succeeded
                cases succeeded
          rw [written] at failed
          cases failed
        · exact later

theorem finalizeLoop_unlabelled (attempts : List FinalizeAttempt) (cc : CassandraCluster)
    (needUpdate : Bool) (unlabelled : ∀ attempt ∈ attempts, attempt.labelled = false) :
    (finalizeLoop status label attempts cc needUpdate).finished = false := by
  induction attempts with
  | nil => rfl
  | cons attempt attempts induction =>
    unfold finalizeLoop
    rw [if_pos (unlabelled attempt List.mem_cons_self)]
    exact induction fun other member => unlabelled other (List.mem_cons_of_mem _ member)

/-- The object holds all that `updateCassandraStatus` would write. -/
def CassandraCluster.UpToDate (cc : CassandraCluster) (status : CassandraClusterStatus) : Prop :=
  cc.status = status ∧ cc.annotation = .config cc.computeLastAppliedConfiguration

/-- After a write, successful or not, the object at hand is up to date. -/
theorem updateCassandraStatus_upToDate (needUpdate : Bool) (cc : CassandraCluster)
    (status : CassandraClusterStatus) (answer : WriteAnswer)
    (failed : (updateCassandraStatus needUpdate cc status answer).error ≠ none) :
    (updateCassandraStatus needUpdate cc status answer).cc.UpToDate status ∧
      (updateCassandraStatus needUpdate cc status answer).needUpdate = false := by
  unfold updateCassandraStatus at failed ⊢
  dsimp only at failed ⊢
  split
  · rename_i nothing
    rw [if_pos nothing] at failed
    exact absurd rfl failed
  · refine ⟨?_, rfl⟩
    obtain ⟨update, statusUpdate⟩ := answer
    cases update <;> cases statusUpdate <;> exact ⟨rfl, rfl⟩

theorem updateCassandraStatus_of_upToDate {cc : CassandraCluster} (upToDate : cc.UpToDate status)
    (answer : WriteAnswer) : (updateCassandraStatus false cc status answer).error = none := by
  unfold updateCassandraStatus
  dsimp only
  rw [if_pos (by simp [upToDate.1, upToDate.2])]

/-- When the object cannot be read again, two labelled rounds are enough: the second
finds nothing left to write. -/
theorem finalizeLoop_gone (attempts : List FinalizeAttempt) :
    ∀ (cc : CassandraCluster) (needUpdate : Bool),
      (∀ attempt ∈ attempts, attempt.refreshed = none) →
      2 ≤ attempts.countP FinalizeAttempt.labelled ∨
        (cc.UpToDate status ∧ needUpdate = false ∧
          1 ≤ attempts.countP FinalizeAttempt.labelled) →
      (finalizeLoop status label attempts cc needUpdate).finished = true := by
  induction attempts with
  | nil =>
    intro cc needUpdate _ enough
    simp at enough
  | cons attempt attempts induction =>
    intro cc needUpdate gone enough
    have goneLater : ∀ other ∈ attempts, other.refreshed = none :=
      fun other member => gone other (List.mem_cons_of_mem _ member)
    unfold finalizeLoop
    split
    · rename_i unlabelled
      rw [List.countP_cons_of_neg (by simp [unlabelled])] at enough
      exact induction cc needUpdate goneLater enough
    · rename_i labelled
      rw [List.countP_cons_of_pos (by simpa using labelled)] at enough
      dsimp only
      split
      · rfl
      · rename_i error failed
        refine induction _ _ goneLater (Or.inr ?_)
        rw [gone attempt List.mem_cons_self, Option.getD_none]
        obtain ⟨upToDate, noUpdate⟩ := updateCassandraStatus_upToDate needUpdate cc status
          attempt.write (by simp [failed])
        refine ⟨upToDate, noUpdate, ?_⟩
        rcases enough with two | ⟨already, rfl, _⟩
        · omega
        · rw [updateCassandraStatus_of_upToDate already] at failed
          cases failed

/-! ## Objects that exist or not -/

/-- The rounds there can be, given whether the pod and the CassandraCluster exist: a
call on an existing object succeeds after finitely many retries, a call on a deleted
one never does. -/
structure RoundsOf (pod cluster : Bool) (rounds : Nat → FinalizeAttempt) : Prop where
  labelled : pod = true → ∀ round, ∃ later, round ≤ later ∧ (rounds later).labelled = true
  unlabelled : pod = false → ∀ round, (rounds round).labelled = false
  written : pod = true → cluster = true → ∀ round, ∃ later, round ≤ later ∧
    (rounds later).labelled = true ∧
      Except.succeeded (rounds later).write.statusUpdate = true
  gone : cluster = false → ∀ round, (rounds round).write.update = .error .notFound ∧
    (rounds round).write.statusUpdate = .error .notFound ∧ (rounds round).refreshed = none

def firstRounds (rounds : Nat → FinalizeAttempt) (count : Nat) : List FinalizeAttempt :=
  (List.range count).map rounds

theorem mem_firstRounds {rounds : Nat → FinalizeAttempt} {round count : Nat}
    (early : round < count) : rounds round ∈ firstRounds rounds count :=
  List.mem_map_of_mem (List.mem_range.mpr early)

theorem countP_firstRounds_succ (rounds : Nat → FinalizeAttempt) (count : Nat) :
    (firstRounds rounds (count + 1)).countP FinalizeAttempt.labelled =
      (firstRounds rounds count).countP FinalizeAttempt.labelled +
        if (rounds count).labelled then 1 else 0 := by
  rw [firstRounds, List.range_succ, List.map_append, List.countP_append]
  simp [firstRounds, List.countP_cons]

theorem exists_labelledRounds {rounds : Nat → FinalizeAttempt}
    (often : ∀ round, ∃ later, round ≤ later ∧ (rounds later).labelled = true) (number : Nat) :
    ∃ count, number ≤ (firstRounds rounds count).countP FinalizeAttempt.labelled := by
  induction number with
  | zero => exact ⟨0, Nat.zero_le _⟩
  | succ number induction =>
    obtain ⟨count, enough⟩ := induction
    obtain ⟨later, after, labelled⟩ := often count
    have mono : (firstRounds rounds count).countP FinalizeAttempt.labelled ≤
        (firstRounds rounds later).countP FinalizeAttempt.labelled := by
      refine Nat.le_induction le_rfl (fun point _ below => ?_) later after
      rw [countP_firstRounds_succ]
      omega
    refine ⟨later + 1, ?_⟩
    rw [countP_firstRounds_succ, if_pos labelled]
    omega

/-- `finalizeOperation` returns after finitely many rounds, for all rounds there can
be. -/
def FinalizeReturns (pass : Pass) (op : FinalizedOp) (pod cluster : Bool) : Prop :=
  ∀ rounds, RoundsOf pod cluster rounds →
    ∃ count, (finalizeOperation pass op (firstRounds rounds count)).flow = .continueResyncLoop

/-- Rounds in which every call on an existing object succeeds at once. -/
def promptRounds (pod cluster : Bool) (_ : Nat) : FinalizeAttempt :=
  { labelled := pod
    write :=
      if cluster then { update := .ok 1, statusUpdate := .ok 1 }
      else { update := .error .notFound, statusUpdate := .error .notFound }
    refreshed := none }

theorem promptRounds_roundsOf (pod cluster : Bool) :
    RoundsOf pod cluster (promptRounds pod cluster) := by
  refine ⟨fun exist round => ⟨round, le_rfl, exist⟩, fun deleted _ => deleted, ?_, ?_⟩
  · rintro exist rfl round
    exact ⟨round, le_rfl, exist, rfl⟩
  · rintro rfl round
    exact ⟨rfl, rfl, rfl⟩

/-- Finalizing an operation returns exactly if its rack has a status and its pod still
exists; whether the CassandraCluster exists does not matter. -/
theorem finalizeOperation_returns_iff (pass : Pass) (op : FinalizedOp) (pod cluster : Bool) :
    FinalizeReturns pass op pod cluster ↔
      (pass.cc.status.cassandraRackStatus.lookup op.dcRackName).isSome = true ∧ pod = true := by
  unfold FinalizeReturns finalizeOperation
  cases found : pass.cc.status.cassandraRackStatus.lookup op.dcRackName with
  | none =>
    refine ⟨fun returns => ?_, fun condition => by simp at condition⟩
    obtain ⟨count, impossible⟩ := returns _ (promptRounds_roundsOf pod cluster)
    cases impossible
  | some rack =>
    constructor
    · intro returns
      refine ⟨rfl, ?_⟩
      cases pod with
      | true => rfl
      | false =>
        obtain ⟨count, returned⟩ := returns _ (promptRounds_roundsOf false cluster)
        have never : ∀ attempt ∈ firstRounds (promptRounds false cluster) count,
            attempt.labelled = false := by
          intro attempt member
          obtain ⟨round, _, rfl⟩ := List.mem_map.mp member
          rfl
        dsimp only at returned
        rw [finalizeLoop_unlabelled _ _ _ never] at returned
        cases returned
    · rintro ⟨_, rfl⟩ rounds allowed
      cases cluster with
      | true =>
        obtain ⟨round, _, labelled, succeeded⟩ := allowed.written rfl rfl 0
        refine ⟨round + 1, ?_⟩
        dsimp only
        rw [finalizeLoop_finishes labelled succeeded _ _ _
          (mem_firstRounds (Nat.lt_succ_self round)), if_pos rfl]
      | false =>
        obtain ⟨count, enough⟩ := exists_labelledRounds (allowed.labelled rfl) 2
        refine ⟨count, ?_⟩
        dsimp only
        rw [finalizeLoop_gone _ _ _ ?_ (Or.inl enough), if_pos rfl]
        intro attempt member
        obtain ⟨round, _, rfl⟩ := List.mem_map.mp member
        exact (allowed.gone rfl round).2.2

/-! ## A deleted pod -/

def finishedCleanup : FinalizedOp :=
  { failed := false, dcRackName := "dc1-rack1", pod := "demo-dc1-rack1-0", operation := .cleanup }

def cleanupPass : Pass :=
  { cc := twoRackWorld.cluster
    status := twoRackWorld.cluster.status
    storedPdb := { name := "demo", ns := "default" } }

/-- When the pod is gone, the pass hangs however often it tries. -/
theorem finalizeOperation_hangs_on_deleted_pod :
    RoundsOf false true (promptRounds false true) ∧
      ∀ count, (finalizeOperation cleanupPass finishedCleanup
        (firstRounds (promptRounds false true) count)).flow = .hang := by
  refine ⟨promptRounds_roundsOf false true, fun count => ?_⟩
  have never : ∀ attempt ∈ firstRounds (promptRounds false true) count,
      attempt.labelled = false := by
    intro attempt member
    obtain ⟨round, _, rfl⟩ := List.mem_map.mp member
    rfl
  have present : cleanupPass.cc.status.cassandraRackStatus.lookup
      finishedCleanup.dcRackName = some idleRack := by decide
  unfold finalizeOperation
  rw [present]
  dsimp only
  rw [finalizeLoop_unlabelled _ _ _ never]
  rfl

/-! ## Draining the channel -/

/-- The loop of `finalizeOperations` on a queue: what it takes and what it leaves.  The bound
is the length the queue has at each turn. -/
def drainLoop {α : Type} : Nat → List α → List α × List α
  | _, [] => ([], [])
  | chanOp, op :: rest =>
    if chanOp < rest.length + 1 then
      let (taken, left) := drainLoop (chanOp + 1) rest
      (op :: taken, left)
    else ([], op :: rest)

/-- At each turn the distance between counter and length shrinks by two. -/
theorem drainLoop_eq {α : Type} (queue : List α) :
    ∀ chanOp, drainLoop chanOp queue =
      (queue.take (drainedCount (queue.length - chanOp)),
        queue.drop (drainedCount (queue.length - chanOp))) := by
  induction queue with
  | nil =>
    intro chanOp
    simp [drainLoop]
  | cons op rest induction =>
    intro chanOp
    unfold drainLoop
    by_cases more : chanOp < rest.length + 1
    · have turns : drainedCount ((op :: rest).length - chanOp) =
          drainedCount (rest.length - (chanOp + 1)) + 1 := by
        unfold drainedCount
        simp only [List.length_cons]
        omega
      rw [if_pos more, induction, turns]
      rfl
    · have none : drainedCount ((op :: rest).length - chanOp) = 0 := by
        unfold drainedCount
        simp only [List.length_cons]
        omega
      rw [if_neg more, none]
      rfl

/-- The result an effect takes from the channel. -/
def Effect.finalizedOp : Effect → Option FinalizedOp
  | .finalizeOperation op _ => some op
  | _ => none

theorem updateCassandraStatus_finalizedOp (needUpdate : Bool) (cc : CassandraCluster)
    (status : CassandraClusterStatus) (answer : WriteAnswer) :
    ∀ effect ∈ (updateCassandraStatus needUpdate cc status answer).effects,
      effect.finalizedOp = none := by
  unfold updateCassandraStatus
  dsimp only
  split
  · simp
  · simp [Effect.finalizedOp]

theorem finalizeOperation_finalizedOps {pass : Pass} {op : FinalizedOp}
    {attempts : List FinalizeAttempt} :
    (finalizeOperation pass op attempts).pass.effects.filterMap Effect.finalizedOp =
      pass.effects.filterMap Effect.finalizedOp ++ [op] := by
  unfold finalizeOperation
  split
  · simp [Effect.finalizedOp]
  · rename_i rack found
    dsimp only
    have quiet : ∀ (status : CassandraClusterStatus) (labels : List (String × String)),
        (finalizeLoop status (.labelPod op.pod labels) attempts pass.cc
          pass.needUpdate).effects.filterMap Effect.finalizedOp = [] := by
      intro status labels
      rw [List.filterMap_eq_nil_iff]
      intro effect member
      rcases finalizeLoop_mem attempts pass.cc pass.needUpdate member with
        rfl | ⟨_, _, _, written⟩
      · rfl
      · exact updateCassandraStatus_finalizedOp _ _ _ _ effect written
    have taken : ∀ recorded, (Effect.finalizeOperation op recorded).finalizedOp = some op :=
      fun _ => rfl
    rw [List.filterMap_append, List.filterMap_cons_some (taken _), quiet]

/-- Results that are all finalized are finalized once each, in their order. -/
theorem finalizeAll_finalizedOps (ops : List (FinalizedOp × List FinalizeAttempt)) :
    ∀ pass : Pass, (finalizeAll pass ops).flow = .continueResyncLoop →
      (finalizeAll pass ops).pass.effects.filterMap Effect.finalizedOp =
        pass.effects.filterMap Effect.finalizedOp ++ ops.map Prod.fst := by
  induction ops with
  | nil => simp [finalizeAll]
  | cons head rest induction =>
    obtain ⟨op, attempts⟩ := head
    intro pass returns
    unfold finalizeAll at returns ⊢
    dsimp only at returns ⊢
    cases flow : (finalizeOperation pass op attempts).flow with
    | continueResyncLoop =>
      rw [flow] at returns
      dsimp only at returns ⊢
      rw [induction _ returns, finalizeOperation_finalizedOps, List.append_assoc]
      rfl
    | _ =>
      rw [flow] at returns
      dsimp only at returns
      rw [flow] at returns
      cases returns

/-- The call takes the first half of the results, rounded up, finalizes each of them once if
the finalizations return, and leaves the other half: nothing is left only if at most one was
waiting. -/
theorem finalizeOperations_drains_iff (pass : Pass)
    (channel : List (FinalizedOp × List FinalizeAttempt)) :
    finalizeOperations pass channel = finalizeAll pass (drainLoop 0 channel).1 ∧
      ((finalizeOperations pass channel).flow = .continueResyncLoop →
        (finalizeOperations pass channel).pass.effects.filterMap Effect.finalizedOp =
          pass.effects.filterMap Effect.finalizedOp ++ (drainLoop 0 channel).1.map Prod.fst) ∧
      ((drainLoop 0 channel).1 = channel ∧ (drainLoop 0 channel).2 = [] ↔
        channel.length ≤ 1) := by
  have drained : drainLoop 0 channel = (channel.take (drainedCount channel.length),
      channel.drop (drainedCount channel.length)) := drainLoop_eq channel 0
  rw [drained]
  refine ⟨rfl, finalizeAll_finalizedOps _ pass, ?_⟩
  rw [List.drop_eq_nil_iff, List.take_eq_self_iff, and_self]
  unfold drainedCount
  omega

/-- Of two cleanups that have finished the second stays in the channel. -/
theorem finalizeOperations_leaves_second :
    let attempts : List FinalizeAttempt :=
      [{ labelled := true
         write := { update := .ok 1, statusUpdate := .ok 2 }
         refreshed := none }]
    let second := { finishedCleanup with pod := "demo-dc1-rack1-1" }
    let channel := [(finishedCleanup, attempts), (second, attempts)]
    (finalizeOperations cleanupPass channel).flow = .continueResyncLoop ∧
      (finalizeOperations cleanupPass channel).pass.effects.filterMap Effect.finalizedOp =
        [finishedCleanup] ∧
      (drainLoop 0 channel).2.map Prod.fst = [second] := by
  decide +kernel

end Casskop
