import Casskop.Controller.Frame

/-!
# What a decommission step can do

`ensureDecommission` answers in one of a dozen ways.  They are listed once, with
what was observed, and everything later is read off the list.
-/

namespace Casskop

section Steps

variable (now : Nat) (pass : Pass) (dcRackName : String) (rack : CassandraRackStatus)
  (answers : DecommissionAnswers) (ready : Bool)

inductive DecommissionStep : PodOperationResult → Prop where
  | wait : DecommissionStep ⟨pass, .breakResyncLoop⟩
  | fault : DecommissionStep ⟨pass, .fault⟩
  | otherOperation (other : rack.podLastOperation.name ≠ .decommission) :
      DecommissionStep
        ⟨pass.emit [.passDecommission dcRackName "" .otherOperation], .continueResyncLoop⟩
  | unknownStatus
      (unknown : rack.podLastOperation.status ∉
        [ActionStatus.toDo, .continue, .finalizing, .ongoing, .done]) :
      DecommissionStep
        ⟨pass.emit [.passDecommission dcRackName "" .unknownStatus], .continueResyncLoop⟩
  | start (pods : List Pod) (lastPod : Pod) (mode : OperationMode)
      (named : rack.podLastOperation.name = .decommission)
      (asked : rack.podLastOperation.status = .toDo ∨
        rack.podLastOperation.status = .continue)
      (listed : answers.podsList = .ok pods)
      (last : getLastOrFirstPodItem pods true = some lastPod)
      (observed : answers.operationMode = .ok mode) :
      DecommissionStep
        ⟨(pass.setRackStatus dcRackName (startDecommission lastPod.name rack)).emit
            [.labelPod lastPod.name
                [("operation-status", "Ongoing"), ("operation-name", "decommission")],
              .startDecommission dcRackName lastPod.name
                (pass.cc.spec.getNodesPerRacks dcRackName)],
          .breakResyncLoop⟩
  | bypass (pods : List Pod) (lastPod : Pod)
      (named : rack.podLastOperation.name = .decommission)
      (asked : rack.podLastOperation.status = .toDo ∨
        rack.podLastOperation.status = .continue)
      (listed : answers.podsList = .ok pods)
      (last : getLastOrFirstPodItem pods true = some lastPod)
      (pending : lastPod.phase = .pending)
      (reason : ∃ condition conditions, lastPod.conditions = some (condition :: conditions) ∧
        condition.reason = "Unschedulable") :
      DecommissionStep
        ⟨(pass.setRackStatus dcRackName (bypassDecommission lastPod.name rack)).emit
            [.passDecommission dcRackName lastPod.name .unschedulable],
          .continueResyncLoop⟩
  | retry (ongoing : rack.podLastOperation.status = .ongoing) :
      DecommissionStep
        ⟨pass.setRackStatus dcRackName
            (setOperation rack fun operation => { operation with status := .toDo }),
          .breakResyncLoop⟩
  | left (podName : String) (others : List String) (mode : OperationMode)
      (ongoing : rack.podLastOperation.status = .ongoing)
      (pods : rack.podLastOperation.pods = some (podName :: others))
      (gone : mode = .decommissioned ∨ mode = .unknown)
      (observed : answers.operationMode = .ok mode) :
      DecommissionStep
        ⟨((pass.setRackStatus dcRackName
            (setOperation rack fun operation =>
              { operation with status := .finalizing })).emit
            [.passDecommission dcRackName podName (.leftRing mode)]).updateCassandraStatus
            answers.write, .continueResyncLoop⟩
  | finish (podName : String) (others : List String) (effects : List Effect)
      (finalizing : rack.podLastOperation.status = .finalizing)
      (pods : rack.podLastOperation.pods = some (podName :: others))
      (claim : ∀ effect ∈ effects, effect = .deletePVC (dataPVCName ++ "-" ++ podName))
      (named : rack.podLastOperation.name = .decommission) :
      DecommissionStep
        ⟨(pass.setRackStatus dcRackName
            (setOperation rack fun operation =>
              { operation with
                status := if ready then .done else .continue
                podsOK := some [podName]
                endTime := some now
                pods := some [] })).emit effects, .breakResyncLoop⟩
  | more (done : rack.podLastOperation.status = .done) :
      DecommissionStep
        ⟨pass.setRackStatus dcRackName (setActionStatus rack .continue), .breakResyncLoop⟩

variable {now pass dcRackName rack answers ready}

section

variable (named : rack.podLastOperation.name = .decommission)

include named

private theorem deletePodPVC_step {podName : String} {others : List String}
    (finalizing : rack.podLastOperation.status = .finalizing)
    (pods : rack.podLastOperation.pods = some (podName :: others)) :
    DecommissionStep now pass dcRackName rack answers ready
      (deletePodPVC now pass dcRackName rack podName answers ready) := by
  unfold deletePodPVC
  cases answers.pvc with
  | ok claim => exact .finish podName others _ finalizing pods (by simp) named
  | error error =>
    cases error with
    | notFound =>
      dsimp only
      rw [← Pass.emit_nil (pass.setRackStatus dcRackName _)]
      exact .finish podName others [] finalizing pods (by simp) named
    | alreadyExists => exact .wait
    | conflict => exact .wait
    | other => exact .wait

private theorem decommissionRunningPod_step {pods : List Pod} {lastPod : Pod}
    (asked : rack.podLastOperation.status = .toDo ∨
      rack.podLastOperation.status = .continue)
    (listed : answers.podsList = .ok pods)
    (last : getLastOrFirstPodItem pods true = some lastPod) :
    DecommissionStep now pass dcRackName rack answers ready
      (decommissionRunningPod pass dcRackName rack lastPod answers.operationMode) := by
  unfold decommissionRunningPod
  cases observed : answers.operationMode with
  | error error => exact .wait
  | ok mode =>
    dsimp only
    split
    · exact .wait
    · exact .start pods lastPod mode named asked listed last observed

private theorem ensureDecommissionToDo_step
    (asked : rack.podLastOperation.status = .toDo ∨
      rack.podLastOperation.status = .continue) :
    DecommissionStep now pass dcRackName rack answers ready
      (ensureDecommissionToDo pass dcRackName rack answers) := by
  unfold ensureDecommissionToDo
  cases listed : answers.podsList with
  | error error => exact .wait
  | ok pods =>
    cases last : getLastOrFirstPodItem pods true with
    | none =>
      simp only [last]
      exact .wait
    | some lastPod =>
      have running : DecommissionStep now pass dcRackName rack answers ready
          (if lastPod.phase ≠ .running ∨ lastPod.deletionTimestamp then
            ⟨pass, .breakResyncLoop⟩
          else
            decommissionRunningPod pass dcRackName rack lastPod
              answers.operationMode) := by
        split
        · exact .wait
        · exact decommissionRunningPod_step named asked listed last
      simp only [last]
      split
      · exact .fault
      · rename_i condition conditions pending present
        split
        · rename_i unschedulable
          exact .bypass pods lastPod named asked listed last pending
            ⟨condition, conditions, present, unschedulable⟩
        · exact running
      · exact running

end

private theorem followDecommission_step {podName : String} {others : List String}
    (ongoing : rack.podLastOperation.status = .ongoing)
    (pods : rack.podLastOperation.pods = some (podName :: others)) :
    DecommissionStep now pass dcRackName rack answers ready
      (followDecommission now pass dcRackName rack podName answers) := by
  unfold followDecommission
  cases answers.pod with
  | error error => exact .wait
  | ok pod =>
    cases observed : answers.operationMode with
    | error error => exact .wait
    | ok mode =>
      dsimp only
      split
      · split
        · exact .wait
        · exact .retry ongoing
      · split
        · rename_i gone
          exact .left podName others mode ongoing pods gone observed
        · exact .wait

theorem ensureDecommission_step :
    DecommissionStep now pass dcRackName rack answers ready
      (ensureDecommission now pass dcRackName rack answers ready) := by
  unfold ensureDecommission
  by_cases other : rack.podLastOperation.name ≠ .decommission
  · simp only [if_pos other]
    exact .otherOperation other
  · simp only [if_neg other]
    have named := not_not.mp other
    cases status : rack.podLastOperation.status with
    | toDo => exact ensureDecommissionToDo_step named (Or.inl status)
    | «continue» => exact ensureDecommissionToDo_step named (Or.inr status)
    | finalizing =>
      cases pods : rack.podLastOperation.pods with
      | none => exact .fault
      | some names =>
        cases names with
        | nil => exact .fault
        | cons podName others =>
          dsimp only
          split
          · exact deletePodPVC_step named status pods
          · exact .wait
    | ongoing =>
      cases pods : rack.podLastOperation.pods with
      | none => exact .wait
      | some names =>
        cases names with
        | nil => exact .fault
        | cons podName others =>
          dsimp only
          split
          · exact .wait
          · exact followDecommission_step status pods
    | done =>
      cases rack.podLastOperation.podsOK with
      | none => exact .wait
      | some names =>
        cases names with
        | nil => exact .fault
        | cons podName others =>
          dsimp only
          split
          · exact .wait
          · exact .more status
    | unset => exact .unknownStatus (by simp [status])
    | configuring => exact .unknownStatus (by simp [status])
    | manual => exact .unknownStatus (by simp [status])
    | error => exact .unknownStatus (by simp [status])

end Steps

end Casskop
