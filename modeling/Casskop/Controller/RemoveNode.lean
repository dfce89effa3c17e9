import Casskop.Controller.Seeds

/-!
# Removing a node

The argument of a remove operation is `[Name][_IP]`.  `runRemove` accepts that the pod is gone if
its IP is given, and so does `postRunRemove` when it looks for the pod.  It then deletes the pod
all the same, and that the pod was not found is an error.
-/

namespace Casskop

/-- Answers to the calls of a remove operation, in the order of the calls. -/
structure RemoveAnswers where
  lostPod : Except ApiError Pod
  /-- Host ids by IP, unless there is no Jolokia client or it does not answer. -/
  hostIDMap : Except Unit (GoMap String)
  nodeRemove : String → Except Unit Unit
  pvc : Except ApiError Unit
  deletePVC : Except ApiError Unit
  lostPodAgain : Except ApiError Unit
  deletePod : Except ApiError Unit

inductive RemoveCall where
  | nodeRemove (hostID : String)
  | deletePVC (name : String) (answer : Except ApiError Unit)
  | forceDeletePod (name : String) (answer : Except ApiError Unit)

inductive RemoveError where
  | argumentNeeded
  | noneFound
  | notAnIP (podIP : String)
  | getPod (name : String) (error : ApiError)
  | ipNeeded (name : String)
  | noIPAssigned (name : String)
  | jolokia
  | hostNotFound (podIP : String)
  | deletePVC (error : ApiError)
  | deletePod (error : ApiError)

structure RemoveRun where
  calls : List RemoveCall := []
  error : Option RemoveError := none

section Operation

variable (parseIP : String → Bool) (argument : Option String) (answers : RemoveAnswers)

/-- The IP of the node: the one that was given, or the one of the pod. -/
def lostIP (podToRemove podIPToRemove : String) : Except RemoveError String :=
  if podToRemove = "" then .ok podIPToRemove
  else
    match answers.lostPod with
    | .error .notFound =>
      if podIPToRemove = "" then .error (.ipNeeded podToRemove) else .ok podIPToRemove
    | .error error => .error (.getPod podToRemove error)
    | .ok lostPod =>
      if podIPToRemove ≠ "" then .ok podIPToRemove
      else if lostPod.podIP = "" then .error (.noIPAssigned podToRemove)
      else .ok lostPod.podIP

def runRemove : RemoveRun :=
  match argument with
  | none => { error := some .argumentNeeded }
  | some label =>
    let val := splitText '_' label
    let podToRemove := val.headD ""
    let podIPToRemove := if val.length = 2 then val.getD 1 "" else ""
    if podToRemove = "" ∧ podIPToRemove = "" then { error := some .noneFound }
    else if podIPToRemove ≠ "" ∧ parseIP podIPToRemove = false then
      { error := some (.notAnIP podIPToRemove) }
    else
      match lostIP answers podToRemove podIPToRemove with
      | .error error => { error := some error }
      | .ok podIP =>
        match answers.hostIDMap with
        | .error () => { error := some .jolokia }
        | .ok hostIDMap =>
          match hostIDMap.lookup podIP with
          | none => { error := some (.hostNotFound podIP) }
          | some hostID =>
            { calls := [.nodeRemove hostID]
              error := match answers.nodeRemove hostID with
                | .ok () => none
                | .error () => some .jolokia }

def forceDeletePod (podToRemove : String) (before : List RemoveCall) : RemoveRun :=
  { calls := before ++ [.forceDeletePod podToRemove answers.deletePod]
    error := match answers.deletePod with
      | .ok () => none
      | .error error => some (.deletePod error) }

/-- The end of `postRunRemove`. -/
def deleteLostPod (podToRemove : String) (before : List RemoveCall) : RemoveRun :=
  match answers.lostPodAgain with
  | .ok () | .error .notFound => forceDeletePod answers podToRemove before
  | .error error => { calls := before, error := some (.getPod podToRemove error) }

/-- That the claim is still there when `waitUntilPvcIsDeleted` gives up is ignored. -/
def postRunRemove : RemoveRun :=
  match argument with
  | none => { error := some .argumentNeeded }
  | some label =>
    let podToRemove := (splitText '_' label).headD ""
    if podToRemove = "" then {}
    else
      match answers.pvc with
      | .error _ => deleteLostPod answers podToRemove []
      | .ok () =>
        let delete : RemoveCall := .deletePVC ("data-" ++ podToRemove) answers.deletePVC
        match answers.deletePVC with
        | .ok () | .error .notFound => deleteLostPod answers podToRemove [delete]
        | .error error => { calls := [delete], error := some (.deletePVC error) }

variable (dcRackName pod : String)

/-- `runOperation` on a remove. -/
def runRemoveOperation : List RemoveCall × FinalizedOp :=
  let action := runRemove parseIP argument answers
  let done (failed : Bool) : FinalizedOp :=
    { failed := failed, dcRackName := dcRackName, pod := pod, operation := .remove }
  match action.error with
  | some _ => (action.calls, done true)
  | none =>
    let post := postRunRemove argument answers
    (action.calls ++ post.calls, done post.error.isSome)

/-- Neither function fails, a claim that is there is deleted, and the pod that was operated on
is recorded in `PodsOK`. -/
structure Removes (name : String) : Prop where
  removed : (runRemove parseIP argument answers).error = none
  cleaned : (postRunRemove argument answers).error = none
  claim : name ≠ "" → answers.pvc = .ok () → RemoveCall.deletePVC ("data-" ++ name)
    answers.deletePVC ∈ (runRemoveOperation parseIP argument answers dcRackName pod).1
  recorded : ∀ record, (updatePodLastOperation
    (runRemoveOperation parseIP argument answers dcRackName pod).2 record).podsOK =
      appendString record.podsOK pod

/-- The argument gives an IP that is in the map, Jolokia answers, and so does the API but for
objects that are missing. -/
structure Removable (label name podIP : String) : Prop where
  split : splitText '_' label = [name, podIP]
  given : podIP ≠ ""
  parses : parseIP podIP = true
  host : ∃ hostIDMap hostID, answers.hostIDMap = .ok hostIDMap ∧
    hostIDMap.lookup podIP = some hostID ∧ answers.nodeRemove hostID = .ok ()
  lostPod : ∀ error, answers.lostPod = .error error → error = .notFound
  deletePVC : ∀ error, answers.deletePVC = .error error → error = .notFound
  lostPodAgain : ∀ error, answers.lostPodAgain = .error error → error = .notFound

section Removable

variable {parseIP answers} {label name podIP : String}
  (removable : Removable parseIP answers label name podIP)

include removable

theorem Removable.runRemove_error : (runRemove parseIP (some label) answers).error = none := by
  obtain ⟨hostIDMap, hostID, map, host, removed⟩ := removable.host
  have given := removable.given
  have found : lostIP answers name podIP = .ok podIP := by
    unfold lostIP
    split
    · rfl
    cases lost : answers.lostPod with
    | ok lostPod => simp
    | error error => rw [removable.lostPod error lost]
  simp [runRemove, removable.split, given, removable.parses, found, map, host, removed]

/-- Only the deletion of the pod may fail. -/
theorem Removable.postRunRemove_eq (named : name ≠ "") : ∃ before,
    postRunRemove (some label) answers = forceDeletePod answers name before ∧
      (answers.pvc = .ok () → .deletePVC ("data-" ++ name) answers.deletePVC ∈ before) := by
  have last : ∀ before, deleteLostPod answers name before = forceDeletePod answers name before := by
    intro before
    unfold deleteLostPod
    cases again : answers.lostPodAgain with
    | ok => rfl
    | error error => rw [removable.lostPodAgain error again]
  simp only [postRunRemove, removable.split, List.headD_cons, if_neg named]
  cases answers.pvc with
  | error => exact ⟨[], last [], fun found => by cases found⟩
  | ok =>
    refine ⟨[_], ?_, fun _ => List.mem_singleton_self _⟩
    cases deleted : answers.deletePVC with
    | ok => exact last _
    | error error =>
      rw [removable.deletePVC error deleted]
      exact last _

end Removable

/-- A node is removed if no pod is named, or the pod is still there to be deleted. -/
theorem removes_iff (label name podIP : String)
    (removable : Removable parseIP answers label name podIP) :
    Removes parseIP (some label) answers dcRackName pod name ↔
      name = "" ∨ answers.deletePod = .ok () := by
  have ran := removable.runRemove_error
  by_cases unnamed : name = ""
  · have post : postRunRemove (some label) answers = {} := by
      simp [postRunRemove, removable.split, unnamed]
    refine iff_of_true ⟨ran, by rw [post], fun named => absurd unnamed named, ?_⟩ (Or.inl unnamed)
    intro record
    simp [runRemoveOperation, ran, post, updatePodLastOperation]
  obtain ⟨before, post, claim⟩ := removable.postRunRemove_eq unnamed
  unfold forceDeletePod at post
  cases deleted : answers.deletePod with
  | ok =>
    rw [deleted] at post
    refine iff_of_true ⟨ran, by rw [post], fun _ found => ?_, fun record => ?_⟩ (Or.inr rfl)
    · simp [runRemoveOperation, ran, post, claim found]
    · simp [runRemoveOperation, ran, post, updatePodLastOperation]
  | error error =>
    refine iff_of_false (fun removes => ?_) (by simp [unnamed])
    have cleaned := removes.cleaned
    rw [post, deleted] at cleaned
    cases cleaned

end Operation

/-! ## A pod that is gone -/

/-- The pod is missing, its claim is not. -/
def goneAnswers : RemoveAnswers :=
  { lostPod := .error .notFound
    hostIDMap := .ok (Finmap.singleton "10.0.0.7" "host-7")
    nodeRemove := fun _ => .ok ()
    pvc := .ok ()
    deletePVC := .ok ()
    lostPodAgain := .error .notFound
    deletePod := .error .notFound }

theorem gone_not_removes :
    ¬ Removes (fun _ => true) (some "demo-dc1-rack1-1_10.0.0.7") goneAnswers "dc1-rack1"
      "demo-dc1-rack1-0" "demo-dc1-rack1-1" := by
  have removable : Removable (fun _ => true) goneAnswers "demo-dc1-rack1-1_10.0.0.7"
      "demo-dc1-rack1-1" "10.0.0.7" := by
    refine ⟨by decide +kernel, by decide, rfl,
      ⟨_, "host-7", rfl, by decide +kernel, rfl⟩, ?_, ?_, ?_⟩
    · rintro _ ⟨⟩
      rfl
    · rintro _ ⟨⟩
    · rintro _ ⟨⟩
      rfl
  rw [removes_iff _ _ _ _ _ _ _ removable]
  simp [goneAnswers]

end Casskop
