import Casskop.Controller.OperationPass
import Casskop.Controller.RackLaws
import Casskop.Controller.Snapshots

/-!
# The record of a decommission

`ensureDecommission` takes the first pod of the record without counting them.  The record
is shared with the other pod operations, whose results are entered into the object by
whatever rack drains the channel next.  Only the status of the last cluster action keeps
them away from a rack that is scaling down.
-/

namespace Casskop

/-! ## The shape of a record -/

/-- The record as `ensureDecommission` expects it. -/
structure DecommissionShape (operation : PodLastOperation) : Prop where
  running : operation.status = .ongoing ∨ operation.status = .finalizing →
    ∃ pod, pod ≠ "" ∧ operation.pods = some [pod]
  finished : operation.status = .done → ∃ pod, pod ≠ "" ∧ operation.podsOK = some [pod]

theorem DecommissionShape.ofToDo {operation : PodLastOperation}
    (toDo : operation.status = .toDo) : DecommissionShape operation := by
  constructor
  · rintro (ongoing | finalizing)
    · cases toDo.symm.trans ongoing
    · cases toDo.symm.trans finalizing
  · intro done
    cases toDo.symm.trans done

def CassandraRackStatus.DecommissionSound (rack : CassandraRackStatus) : Prop :=
  weAreScalingDown rack = true → rack.podLastOperation.name = .decommission →
    DecommissionShape rack.podLastOperation

/-- The record is sound, and a rack with results `waiting` is not scaling down. -/
structure Shaped (waiting : String → Prop) (name : String) (rack : CassandraRackStatus) :
    Prop where
  sound : rack.DecommissionSound
  idle : waiting name → weAreScalingDown rack = false

def noResults (_ : String) : Prop := False

def AllShaped (waiting : String → Prop) (racks : RackStatuses) : Prop :=
  ∀ name rack, racks.lookup name = some rack → Shaped waiting name rack

variable {waiting : String → Prop} {rack rack' : CassandraRackStatus} {dcRackName : String}
  {pass : Pass}

section Records

variable {name : String} {racks : RackStatuses}

theorem Shaped.ofIdle (idle : weAreScalingDown rack = false) : Shaped waiting name rack :=
  ⟨fun scaling => by simp [idle] at scaling, fun _ => idle⟩

theorem Shaped.recordKept (shaped : Shaped waiting name rack) (kept : RecordKept rack rack') :
    Shaped waiting name rack' := by
  constructor
  · intro scaling named
    rw [kept.record] at named ⊢
    exact shaped.sound (kept.scaling scaling) named
  · intro waits
    cases scaling : weAreScalingDown rack' with
    | false => rfl
    | true => exact (kept.scaling scaling).symm.trans (shaped.idle waits)

theorem Shaped.scaled (shaped : Shaped waiting name rack) (scaling : weAreScalingDown rack = true)
    (sound : rack'.DecommissionSound) : Shaped waiting name rack' :=
  ⟨sound, fun waits => by simp [shaped.idle waits] at scaling⟩

theorem Shaped.serialized (shaped : Shaped waiting name rack) :
    Shaped waiting name rack.serialized := by
  refine ⟨fun scaling named => ?_, shaped.idle⟩
  have shape := shaped.sound scaling named
  have kept : ∀ pod : String, omitEmpty (some [pod]) = some [pod] := fun pod => rfl
  constructor
  · intro runs
    obtain ⟨pod, nonempty, pods⟩ := shape.running runs
    exact ⟨pod, nonempty, (congrArg omitEmpty pods).trans (kept pod)⟩
  · intro done
    obtain ⟨pod, nonempty, pods⟩ := shape.finished done
    exact ⟨pod, nonempty, (congrArg omitEmpty pods).trans (kept pod)⟩

theorem ObservedChanges.decommissionSound {spec : CassandraClusterSpec} {answers : RackAnswers}
    (changes : ObservedChanges spec dcRackName answers rack rack')
    (sound : rack.DecommissionSound) :
    rack'.DecommissionSound := by
  induction changes with
  | refl => exact sound
  | tail _ change induction =>
    rcases change.record_cases with kept | ⟨_, old, record⟩
    · intro scaling named
      rw [kept.record] at named ⊢
      exact induction (kept.scaling scaling) named
    · intro _ _
      rw [record]
      exact .ofToDo rfl

theorem shaped_law (waiting : String → Prop) : RecordLaw (Shaped waiting) :=
  ⟨fun _ => .ofIdle rfl, fun _ _ _ kept shaped => shaped.recordKept kept,
    fun _ _ shaped => shaped.serialized⟩

theorem AllShaped.insert (holds : AllShaped waiting racks) (shaped : Shaped waiting name rack) :
    AllShaped waiting (racks.insert name rack) :=
  AllRacks.insert holds shaped

theorem AllShaped.mono {fewer : String → Prop} (holds : AllShaped waiting racks)
    (within : ∀ name, fewer name → waiting name) : AllShaped fewer racks :=
  fun name rack found =>
    ⟨(holds name rack found).sound, fun waits => (holds name rack found).idle (within name waits)⟩

theorem Satisfies.shapedMono {fewer : String → Prop}
    (satisfies : Throughout (AllShaped waiting) pass) (within : ∀ name, fewer name → waiting name) :
    Throughout (AllShaped fewer) pass :=
  satisfies.mono (fun _ holds => holds.mono within) fun _ holds => holds.mono within

end Records

/-! ## Steps of a decommission -/

theorem mem_of_getLastOrFirstPodItem {pods : List Pod} {last : Bool} {pod : Pod}
    (found : getLastOrFirstPodItem pods last = some pod) : pod ∈ pods := by
  unfold getLastOrFirstPodItem at found
  have sorted : pod ∈ sortPodsList pods := by
    split at found
    · exact List.mem_of_getLast? found
    · exact List.mem_of_head? found
  exact (List.mem_insertionSort _).mp sorted

/-- The pods that are listed have names. -/
def DecommissionAnswers.Named (answers : DecommissionAnswers) : Prop :=
  ∀ pods, answers.podsList = .ok pods → ∀ pod ∈ pods, pod.name ≠ ""

variable {now : Nat} {ready : Bool}

section Steps

theorem DecommissionStep.shaped {answers : DecommissionAnswers} {result : PodOperationResult}
    (step : DecommissionStep now pass dcRackName rack answers ready result)
    (found : pass.rackStatus dcRackName = some rack) (scaling : weAreScalingDown rack = true)
    (named : answers.Named) (satisfies : Throughout (AllShaped waiting) pass) :
    Throughout (AllShaped waiting) result.pass := by
  have shaped := satisfies.working dcRackName rack found
  have changed : ∀ rack' : CassandraRackStatus, rack'.DecommissionSound →
      Throughout (AllShaped waiting) (pass.setRackStatus dcRackName rack') :=
    fun rack' sound => satisfies.setRackStatus
      (satisfies.working.insert (shaped.scaled scaling sound))
  cases step with
  | wait | fault => exact satisfies
  | otherOperation | unknownStatus => exact satisfies.emit (by simp)
  | start pods lastPod mode isNamed asked listed last observed =>
    have nonempty := named pods listed lastPod (mem_of_getLastOrFirstPodItem last)
    refine (changed _ fun _ _ => ⟨fun _ => ⟨lastPod.name, nonempty, rfl⟩, ?_⟩).emit (by simp)
    exact fun done => by cases done
  | bypass pods lastPod isNamed asked listed last pending =>
    have nonempty := named pods listed lastPod (mem_of_getLastOrFirstPodItem last)
    refine (changed _ fun _ _ => ⟨fun _ => ⟨lastPod.name, nonempty, rfl⟩, ?_⟩).emit (by simp)
    exact fun done => by cases done
  | retry ongoing => exact changed _ fun _ _ => .ofToDo rfl
  | left podName others mode ongoing pods gone =>
    refine ((changed _ fun _ isDecommission => ?_).emit (by simp)).updateCassandraStatus
      (fun _ holds => holds) _
    have shape := shaped.sound scaling isDecommission
    exact ⟨fun _ => shape.running (Or.inl ongoing), fun done => by cases done⟩
  | finish podName others effects finalizing pods claim =>
    refine (changed _ fun _ isDecommission => ?_).emit fun status succeeded member => ?_
    · obtain ⟨pod, nonempty, only⟩ :=
        (shaped.sound scaling isDecommission).running (Or.inr finalizing)
      rw [pods, Option.some.injEq, List.cons.injEq] at only
      refine ⟨?_, fun _ => ⟨podName, only.1 ▸ nonempty, rfl⟩⟩
      cases ready
      all_goals
        rintro (ongoing | finalizing)
        · cases ongoing
        · cases finalizing
    · cases claim _ member
  | more done => exact changed _ fun _ isDecommission => shaped.sound scaling isDecommission

end Steps

/-! ## The second half of an iteration -/

variable {platform : Platform} {names : CompleteRackName} {sts : StatefulSet} {step : RackStep}

section Apply

variable {waiting : String → Prop} {answers : RackAnswers} {pass : Pass}

/-! ## Pod operations -/

/-- Results the rack drains from the channel are among those `waiting`. -/
def RackAnswers.Drains (answers : RackAnswers) (waiting : String → Prop) : Prop :=
  ∀ op attempts, (op, attempts) ∈ answers.handle.operations.channel → waiting op.dcRackName

theorem operating_shaped (dcRackName : String) (drains : answers.Drains waiting) :
    StableFor (.operating dcRackName) dcRackName answers (AllShaped waiting)
      (AllShaped waiting) := by
  refine ⟨fun racks holds _ => holds.insert (.ofIdle rfl), fun racks rack rack' holds found change
    => ?_, fun racks holds => holds, fun _ racks rack op attempts known holds found => ?_⟩
  · cases change with
    | operate operation idle => exact holds.insert (.ofIdle idle)
  · exact holds.insert (.ofIdle ((holds _ rack found).idle (drains op attempts known)))

/-- Results are taken from the channel when the last cluster action is done. -/
theorem handlePodOperation_undrained {handle : HandleAnswers} (idle : weAreScalingDown rack = false)
    (unfinished : pass.status.lastClusterActionStatus ≠ .done) :
    (handlePodOperation platform now pass dcRackName rack handle ready).pass = pass := by
  unfold handlePodOperation
  rw [if_neg (by simp [idle])]
  split
  · rfl
  · rfl
  · rw [if_neg unfinished]

theorem OperatePath.shaped (path : OperatePath platform answers names sts rack pass step)
    (found : pass.rackStatus names.dcRackName = some rack)
    (named : answers.handle.decommission.Named)
    (drains : weAreScalingDown rack = false → pass.status.lastClusterActionStatus = .done →
      answers.Drains waiting) (satisfies : Throughout (AllShaped waiting) pass) :
    Throughout (AllShaped waiting) step.pass := by
  cases path with
  | initializing phase => exact (shaped_law waiting).applyRack names satisfies
  | decommission result scaling step =>
    exact (shaped_law waiting).afterOperation names (step.shaped found scaling named satisfies)
  | operation result idle made moves kept =>
    refine (shaped_law waiting).afterOperation names ?_
    by_cases finished : pass.status.lastClusterActionStatus = .done
    · exact moves.satisfiesFor (operating_shaped _ (drains idle finished)) satisfies
    · rw [made, handlePodOperation_undrained idle finished]
      exact satisfies

end Apply

/-! ## A scale down ends the loop -/

section Detection

variable {answers : RackAnswers} {pass : Pass} {rack : CassandraRackStatus}

theorem phaseFromReadiness_scaling (sts : StatefulSet) (rack : CassandraRackStatus) :
    weAreScalingDown (phaseFromReadiness sts rack) = weAreScalingDown rack := by
  unfold phaseFromReadiness
  split
  · rfl
  · split <;> rfl

theorem updateCassandraRackStatusPhase_scaling {spec : CassandraClusterSpec}
    {pods : Except ApiError (List Pod)} {phased : CassandraRackStatus}
    (updated : updateCassandraRackStatusPhase now spec dcRackName sts rack pods = .updated phased)
    (scaling : weAreScalingDown phased = true) :
    weAreScalingDown rack = true ∨ phased.phase = .pending := by
  unfold updateCassandraRackStatusPhase at updated
  split at updated
  · dsimp only at updated
    split at updated
    · cases updated
      exact Or.inr rfl
    · left
      split at updated
      · cases updated
        exact scaling
      · split at updated
        · cases updated
          exact scaling
        · split at updated
          · cases updated
            exact scaling
          · split at updated
            · cases updated
            · cases updated
              rw [phaseFromReadiness_scaling] at scaling
              split at scaling
              · simp [weAreScalingDown_eq] at scaling
              · exact scaling
  · cases updated
    rw [phaseFromReadiness_scaling] at scaling
    exact Or.inl scaling

/-- A rack whose scale down has just been found is pending. -/
def FindsPending (rack rack' : CassandraRackStatus) : Prop :=
  weAreScalingDown rack' = true →
    rack'.phase = .pending ∨ weAreScalingDown rack = true ∧ rack'.phase = rack.phase

theorem FindsPending.of_name (other : rack'.cassandraLastAction.name ≠ .scaleDown) :
    FindsPending rack rack' :=
  fun scaling => absurd ((weAreScalingDown_eq _).mp scaling).1 other

theorem FindsPending.startUpdateResources (now : Nat) :
    FindsPending rack (startUpdateResources now rack) := by
  unfold Casskop.startUpdateResources
  split
  · rename_i resources
    exact .of_name (by simp [resources.2])
  · exact fun scaling => Or.inr ⟨scaling, rfl⟩

theorem detectNewAction_findsPending (platform : Platform) (now dcAt rackAt : Nat)
    (sts : StatefulSet) :
    FindsPending rack (detectNewAction platform now pass dcAt rackAt sts rack).rack := by
  unfold detectNewAction
  dsimp only
  split
  · rename_i changed found
    simp only [updateStatusIfconfigMapHasChanged, Option.ite_none_right_eq_some,
      Option.some.injEq] at found
    obtain ⟨_, rfl⟩ := found
    exact .of_name (by simp [setAction])
  split
  · rename_i changed found
    simp only [updateStatusIfDockerImageHasChanged, Option.ite_none_right_eq_some,
      Option.some.injEq] at found
    obtain ⟨_, rfl⟩ := found
    exact .of_name (by simp [setAction])
  split
  · rename_i changed found
    simp only [updateStatusIfStorageUpsize, Option.ite_none_right_eq_some,
      Option.some.injEq] at found
    obtain ⟨_, rfl⟩ := found
    exact .of_name (by simp [startUpsizeAction])
  split
  · rename_i changed found
    simp only [updateStatusIfScaling] at found
    split at found
    · cases found
    · split at found
      · cases found
        exact .of_name (by simp [setAction])
      · cases found
        exact fun _ => Or.inl rfl
  split
  · rename_i changed found
    simp only [updateStatusIfSeedListHasChanged, Option.ite_none_right_eq_some,
      Option.some.injEq] at found
    obtain ⟨_, rfl⟩ := found
    exact .of_name (by simp [setAction])
  split
  · exact .of_name (by simp [setAction])
  split
  · rename_i changed found
    simp only [updateStatusIfStatefulSetChanged, Option.ite_none_right_eq_some,
      Option.some.injEq] at found
    obtain ⟨_, rfl⟩ := found
    exact .of_name (by simp)
  · exact .startUpdateResources now

theorem getNextCassandraClusterStatus_findsPending (platform : Platform) (dcAt rackAt : Nat)
    (sts : StatefulSet) :
    FindsPending rack (getNextCassandraClusterStatus platform answers.now pass dcAt rackAt sts
      rack answers.next).rack := by
  have same : FindsPending rack rack := fun scaling => Or.inr ⟨scaling, rfl⟩
  have left : ∀ {rack'}, FindsPending (leaveInitial rack) rack' → FindsPending rack rack' := by
    intro rack' finds scaling
    rcases finds scaling with pending | ⟨before, phase⟩
    · exact Or.inl pending
    · rw [phase]
      unfold leaveInitial at before ⊢
      split
      · exact Or.inl rfl
      · rename_i initialized
        rw [if_neg initialized] at before
        exact Or.inr ⟨before, rfl⟩
  unfold getNextCassandraClusterStatus
  dsimp only
  split
  · exact same
  split
  · exact same
  · rename_i ended effects found
    obtain ⟨_, _, rfl, _⟩ := updateStatusIfActionEnded_ended found
    intro scaling
    simp [weAreScalingDown_eq, endAction] at scaling
  split
  · exact same
  split
  · exact left (detectNewAction_findsPending platform answers.now dcAt rackAt sts)
  · exact left (.startUpdateResources answers.now)

/-- No rack of this name is running. -/
def NotRunning (dcRackName : String) (racks : RackStatuses) : Prop :=
  ∀ rack, racks.lookup dcRackName = some rack → rack.phase ≠ .running

def anyRacks (_ : RackStatuses) : Prop := True

theorem NotRunning.insert (racks : RackStatuses) (phase : rack.phase ≠ .running) :
    NotRunning dcRackName (racks.insert dcRackName rack) := by
  intro found present
  rw [Finmap.lookup_insert, Option.some.injEq] at present
  exact present ▸ phase

theorem notRunning_stable {part : Part} (dcRackName : String)
    (phase : ∀ {rack rack'}, part.change rack rack' → rack'.phase = rack.phase) :
    StableFor part dcRackName answers (NotRunning dcRackName) anyRacks := by
  refine ⟨fun racks holds _ => .insert racks (by simp [initialRackStatus]),
    fun racks rack rack' holds found change => .insert racks ?_, fun _ _ => trivial,
    fun _ _ _ _ _ _ _ _ => trivial⟩
  rw [phase change]
  exact holds rack found

theorem UpdateChange.phase (change : UpdateChange answers rack rack') :
    rack'.phase = rack.phase := by
  cases change with
  | started => rfl
  | written =>
    unfold actionOnWrite
    dsimp only
    repeat' split
    all_goals rfl

theorem DecommissionChange.phase (change : DecommissionChange answers rack rack') :
    rack'.phase = rack.phase := by
  cases change <;> rfl

theorem applyRack_stops (platform : Platform) (names : CompleteRackName)
    (waits : Satisfies (NotRunning names.dcRackName) anyRacks pass) :
    (applyRack platform answers names pass).flow ≠ .nextRack := by
  have outcome := @applyRack_outcome answers platform names pass
  generalize applyRack platform answers names pass = step at outcome
  intro next
  cases outcome with
  | ordinary written step handled gated =>
    obtain ⟨rack, found, running, _⟩ := handled.settled next
    have after := handled.iteration.satisfiesFor
      (notRunning_stable names.dcRackName fun change => UpdateChange.phase change) waits
    exact after.working rack found running
  | upsize middle rack living made moves found upsizing seen steps =>
    dsimp only at next
    cases result : made.result <;> simp [result, upsizeFlow] at next

theorem OperatePath.stops (path : OperatePath platform answers names sts rack pass step)
    (found : pass.rackStatus names.dcRackName = some rack) (scaling : weAreScalingDown rack = true)
    (pending : rack.phase = .pending) : step.flow ≠ .nextRack := by
  have waits : Satisfies (NotRunning names.dcRackName) anyRacks pass := by
    refine ⟨fun other present => ?_, trivial, fun _ _ _ => trivial⟩
    rw [Pass.rackStatus, present, Option.some.injEq] at found
    rw [found, pending]
    simp
  cases path with
  | initializing phase => simp [pending] at phase
  | operation result idle => simp [scaling] at idle
  | decommission result _ step =>
    have after := (step.moves found scaling).satisfiesFor
      (notRunning_stable names.dcRackName fun change => DecommissionChange.phase change) waits
    unfold afterOperation
    split
    · simp
    · simp
    · exact applyRack_stops platform names after
    · split
      · simp
      · rename_i current present
        have blocked : waitsForNextPass current = true := by
          simp [waitsForNextPass, after.working current present]
        simp [blocked]

end Detection

/-! ## One iteration -/

variable {dc : Nat}

section Iteration

variable {waiting : String → Prop} {platform : Platform} {answers : RackAnswers} {pass : Pass}

/-- After an iteration that goes on, no rack with results is scaling down. -/
def StaysShaped (waiting : String → Prop) (step : RackStep) : Prop :=
  Satisfies (AllShaped noResults) (AllShaped noResults) step.pass ∧
    (step.flow = .nextRack → Satisfies (AllShaped waiting) (AllShaped waiting) step.pass)

theorem StaysShaped.of_satisfies (satisfies : Throughout (AllShaped waiting) step.pass) :
    StaysShaped waiting step :=
  ⟨satisfies.shapedMono fun _ => False.elim, fun _ => satisfies⟩

theorem RackPath.staysShaped {rack : Nat} {names : CompleteRackName}
    {rackStatus : CassandraRackStatus}
    (path : RackPath platform answers dc rack names rackStatus pass step)
    (here : pass.cc.spec.completeRackName dc rack = names)
    (found : pass.rackStatus names.dcRackName = some rackStatus)
    (named : answers.handle.decommission.Named)
    (drains : pass.status.lastClusterActionStatus = .done → answers.Drains waiting)
    (satisfies : Throughout (AllShaped waiting) pass) : StaysShaped waiting step := by
  cases path with
  | unread failed => exact .of_satisfies ((shaped_law waiting).applyRack _ satisfies)
  | phaseFault => exact .of_satisfies satisfies
  | observed sts phased next read phase action step path =>
    obtain ⟨_, changes⟩ := observed_moves platform dc rack here read found phase action
    obtain ⟨_, plain, _⟩ := getNextCassandraClusterStatus_changes platform
      (pass.phased answers names.dcRackName phased) dc rack
      phased read
    rw [action] at plain
    have shaped := satisfies.working _ rackStatus found
    have sound := changes.decommissionSound shaped.sound
    -- A scale down found now may have results waiting, but the loop ends with it.
    let expected (other : String) : Prop := waiting other ∧
      (other = names.dcRackName →
        weAreScalingDown next.rack = false)
    have within : ∀ other, expected other → waiting other := fun _ both => both.1
    have reached : Throughout (AllShaped expected)
        (pass.detected answers names.dcRackName phased next) :=
      (satisfies.shapedMono within).detected plain
        ((satisfies.working.mono within).insert ⟨sound, fun both => both.2 rfl⟩)
    rcases path with ⟨_, rfl⟩ | path
    · exact ⟨reached.shapedMono fun _ => False.elim, fun goesOn => by cases goesOn⟩
    · have current := Pass.rackStatus_applyNext
        (pass.phased answers names.dcRackName phased)
        names.dcRackName next
      have after := path.shaped current named
        (fun idle done op attempts known => ⟨drains done op attempts known, fun _ => idle⟩)
        reached
      refine ⟨after.shapedMono fun _ => False.elim, fun goesOn =>
        after.shapedMono fun other waits => ⟨waits, ?_⟩⟩
      rintro rfl
      cases scaling : weAreScalingDown next.rack with
      | false => rfl
      | true =>
        have finds := @getNextCassandraClusterStatus_findsPending answers
          (pass.phased answers names.dcRackName phased)
          phased platform dc rack sts
        rw [action] at finds
        have idle := shaped.idle waits
        have pending : next.rack.phase = .pending := by
          rcases finds scaling with pending | ⟨before, kept⟩
          · exact pending
          · rcases updateCassandraRackStatusPhase_scaling phase before with old | pending
            · simp [idle] at old
            · exact kept.trans pending
        exact absurd goesOn (path.stops current scaling pending)

theorem IterationCase.staysShaped {rack : Nat}
    (iteration : IterationCase platform answers dc rack pass step)
    (named : answers.handle.decommission.Named)
    (drains : pass.status.lastClusterActionStatus = .done → answers.Drains waiting)
    (satisfies : Throughout (AllShaped waiting) pass) : StaysShaped waiting step := by
  cases iteration with
  | nameless empty => exact .of_satisfies satisfies
  | added absent =>
    exact .of_satisfies (satisfies.setRackStatus (satisfies.working.insert (.ofIdle rfl)))
  | deleting deletes => exact .of_satisfies satisfies.deletePVCs
  | handled rackStatus written step found alive handled path =>
    exact path.staysShaped rfl found named drains satisfies

end Iteration

/-! ## Calls of `ensureDecommission` -/

/-- A call with its arguments. -/
structure DecommissionCall where
  now : Nat
  pass : Pass
  dcRackName : String
  rack : CassandraRackStatus
  answers : DecommissionAnswers
  statefulsetIsReady : Bool

def DecommissionCall.result (call : DecommissionCall) : PodOperationResult :=
  ensureDecommission call.now call.pass call.dcRackName call.rack call.answers
    call.statefulsetIsReady

def operateDecommission (answers : RackAnswers) (names : CompleteRackName) (sts : StatefulSet)
    (rack : CassandraRackStatus) (pass : Pass) : Option DecommissionCall :=
  if rack.phase = .initializing then none
  else if weAreScalingDown rack then
    some
      { now := answers.now
        pass := pass
        dcRackName := names.dcRackName
        rack := rack
        answers := answers.handle.decommission
        statefulsetIsReady := isStatefulSetReady sts }
  else none

def observeDecommission (platform : Platform) (answers : RackAnswers) (dc rack : Nat)
    (names : CompleteRackName) (sts : StatefulSet) (rackStatus : CassandraRackStatus)
    (pass : Pass) : Option DecommissionCall :=
  match updateCassandraRackStatusPhase answers.now pass.cc.spec names.dcRackName sts
      rackStatus answers.phasePods with
  | .fault => none
  | .updated phased =>
    let pass := pass.phased answers names.dcRackName phased
    let next := getNextCassandraClusterStatus platform answers.now pass dc rack sts phased
      answers.next
    if next.fault then none
    else operateDecommission answers names sts next.rack (pass.applyNext names.dcRackName next)

/-- The call of one iteration. -/
def decommissionAt (platform : Platform) (answers : RackAnswers) (dc rack : Nat) (pass : Pass) :
    Option DecommissionCall :=
  let names := pass.cc.spec.completeRackName dc rack
  if names.dcRackName = "" then none
  else
    match pass.rackStatus names.dcRackName with
    | none => none
    | some rackStatus =>
      if deletesPVCs pass.cc then none
      else
        match answers.statefulSet with
        | .error _ => none
        | .ok sts => observeDecommission platform answers dc rack names sts rackStatus pass

def decommissions (platform : Platform) (answers : Nat × Nat → RackAnswers) :
    List (Nat × Nat) → Pass → List DecommissionCall
  | [], _ => []
  | position :: rest, pass =>
    let step := reconcileRackAt platform (answers position) position.1 position.2 pass
    (decommissionAt platform (answers position) position.1 position.2 pass).toList ++
      match step.flow with
      | .nextRack => decommissions platform answers rest step.pass
      | _ => []

section Calls

variable {answers : RackAnswers} {call : DecommissionCall}

theorem operateDecommission_some
    (called : operateDecommission answers names sts rack pass = some call) :
    operateRack platform answers names sts rack pass =
        afterOperation platform answers names call.result ∧
      call.rack = rack ∧ weAreScalingDown rack = true := by
  unfold operateDecommission at called
  split at called
  · cases called
  · rename_i initialized
    split at called
    · rename_i scaling
      cases called
      refine ⟨?_, rfl, scaling⟩
      unfold operateRack handlePodOperation
      rw [if_neg initialized, if_pos scaling]
      rfl
    · cases called

/-- The call is the one the iteration makes, on the rack as it was observed. -/
theorem decommissionAt_some {rack : Nat}
    (called : decommissionAt platform answers dc rack pass = some call) :
    let names := pass.cc.spec.completeRackName dc rack
    reconcileRackAt platform answers dc rack pass =
        afterOperation platform answers names call.result ∧
      weAreScalingDown call.rack = true ∧
      ∃ rackStatus, pass.rackStatus names.dcRackName = some rackStatus ∧
        ObservedChanges pass.cc.spec names.dcRackName answers rackStatus call.rack := by
  intro names
  unfold decommissionAt at called
  unfold reconcileRackAt
  dsimp only at called ⊢
  by_cases nameless : (pass.cc.spec.completeRackName dc rack).dcRackName = ""
  · rw [if_pos nameless] at called
    cases called
  rw [if_neg nameless] at called ⊢
  cases found : pass.rackStatus (pass.cc.spec.completeRackName dc rack).dcRackName with
  | none =>
    rw [found] at called
    cases called
  | some rackStatus =>
    rw [found] at called
    dsimp only at called ⊢
    by_cases deletes : deletesPVCs pass.cc = true
    · rw [if_pos deletes] at called
      cases called
    rw [if_neg deletes] at called ⊢
    cases read : answers.statefulSet with
    | error error =>
      rw [read] at called
      cases called
    | ok sts =>
      rw [read] at called
      dsimp only at called ⊢
      unfold observeDecommission at called
      unfold observeRack
      cases phase : updateCassandraRackStatusPhase answers.now pass.cc.spec
          (pass.cc.spec.completeRackName dc rack).dcRackName sts rackStatus
          answers.phasePods with
      | fault =>
        rw [phase] at called
        cases called
      | updated phased =>
        rw [phase] at called
        dsimp only at called ⊢
        obtain ⟨_, changes⟩ := observed_moves platform dc rack rfl read found phase rfl
        split at called
        · cases called
        · rename_i sound
          rw [Pass.phased] at sound
          rw [if_neg sound]
          obtain ⟨made, same, scaling⟩ := @operateDecommission_some _ _ platform _ _ _ _
            called
          refine ⟨made, same ▸ scaling, rackStatus, rfl, ?_⟩
          rw [same]
          exact changes

end Calls

/-! ## The loop -/

section Loop

variable {waiting : String → Prop} {platform : Platform} {answers : Nat × Nat → RackAnswers}
  {positions : List (Nat × Nat)} {last : ActionStatus}

/-- Between two iterations of a pass that has read the last cluster action as `last`. -/
structure Between (waiting : String → Prop) (last : ActionStatus) (pass : Pass) : Prop where
  shaped : Satisfies (AllShaped waiting) (AllShaped waiting) pass
  last : pass.status.lastClusterActionStatus = last

/-- What the answers for one rack may bring. -/
structure RackAnswers.Undisturbing (waiting : String → Prop) (last : ActionStatus)
    (answers : RackAnswers) : Prop where
  named : answers.handle.decommission.Named
  drains : last = .done → answers.Drains waiting

theorem Between.staysShaped {position : Nat × Nat} (between : Between waiting last pass)
    (undisturbing : (answers position).Undisturbing waiting last)
    (iteration : IterationCase platform (answers position) position.1 position.2 pass step) :
    StaysShaped waiting step :=
  iteration.staysShaped undisturbing.named
    (fun done => undisturbing.drains (between.last.symm.trans done)) between.shaped

theorem Between.next {position : Nat × Nat} (between : Between waiting last pass)
    (undisturbing : (answers position).Undisturbing waiting last)
    (iteration : IterationCase platform (answers position) position.1 position.2 pass step)
    (goesOn : step.flow = .nextRack) : Between waiting last step.pass := by
  obtain ⟨written, frame, _⟩ := iteration.frame
  refine ⟨(between.staysShaped undisturbing iteration).2 goesOn, ?_⟩
  have cluster := congrArg (fun cluster => cluster.2.2) frame.cluster
  exact cluster.trans between.last

theorem reconcileRacks_shaped
    (undisturbing : ∀ position ∈ positions, (answers position).Undisturbing waiting last)
    (between : Between waiting last pass) (newStatus : Bool) :
    Throughout (AllShaped noResults)
      (reconcileRacks platform answers positions pass newStatus).pass := by
  refine reconcileRacks_ends platform answers positions
    (fun position member pass step between iteration goesOn =>
      between.next (undisturbing position member) iteration goesOn)
    (fun position member pass step between iteration _ =>
      (between.staysShaped (undisturbing position member) iteration).1)
    (fun pass between => between.shaped.shapedMono fun _ => False.elim) pass newStatus between

theorem decommissions_sound
    (undisturbing : ∀ position ∈ positions, (answers position).Undisturbing waiting last) :
    ∀ {pass : Pass}, Between waiting last pass →
      ∀ call ∈ decommissions platform answers positions pass,
        weAreScalingDown call.rack = true ∧ call.rack.DecommissionSound := by
  induction positions with
  | nil =>
    intro pass _ call member
    cases member
  | cons position rest induction =>
    intro pass between call member
    unfold decommissions at member
    dsimp only at member
    rcases List.mem_append.mp member with here | later
    · obtain ⟨_, scaling, rackStatus, found, changes⟩ :=
        decommissionAt_some (Option.mem_toList.mp here)
      exact ⟨scaling, changes.decommissionSound
        (between.shaped.working _ rackStatus found).sound⟩
    · split at later
      · rename_i goesOn
        have iteration := reconcileRackAt_case platform (answers position) position.1
          position.2 pass
        exact induction (fun other member => undisturbing other (List.mem_cons_of_mem _ member))
          (between.next (undisturbing position List.mem_cons_self) iteration goesOn) call later
      · cases later

end Loop

/-! ## The pass -/

variable {world : World}

section Pass

variable {platform : Platform} {answers : ReconcileAnswers}

/-- The pass when the rack loop starts, if it does. -/
def loopStart (platform : Platform) (memory : Memory) (cc : CassandraCluster)
    (answers : ReconcileAnswers) : Option Pass :=
  (deferredStart memory cc answers).bind fun start =>
    checkedStart platform answers { start with status := start.cc.status }

def World.decommissions (platform : Platform) (world : World) (answers : ReconcileAnswers) :
    List DecommissionCall :=
  match loopStart platform world.memory world.cluster answers with
  | none => []
  | some ready => Casskop.decommissions platform answers.racks ready.cc.spec.rackPositions ready

/-- Racks some result is waiting for while the pass is made. -/
def ReconcileAnswers.Results (answers : ReconcileAnswers) (spec : CassandraClusterSpec)
    (dcRackName : String) : Prop :=
  ∃ position ∈ spec.rackPositions, ∃ result ∈ (answers.racks position).handle.operations.channel,
    result.1.dcRackName = dcRackName

/-- The pods that are listed have names, and while the last cluster action is done no result
is waiting for a rack that is scaling down. -/
structure World.KeepsApart (world : World) (answers : ReconcileAnswers) : Prop where
  named : ∀ position ∈ world.cluster.spec.rackPositions,
    (answers.racks position).handle.decommission.Named
  results : world.cluster.status.lastClusterActionStatus = .done →
    ∀ dcRackName rack, answers.Results world.cluster.spec dcRackName →
      world.rackStatus dcRackName = some rack → weAreScalingDown rack = false

section Ready

variable {world : World} {start ready : Pass}

/-- The results that a pass can drain. -/
def World.drained (world : World) (answers : ReconcileAnswers) (dcRackName : String) : Prop :=
  world.cluster.status.lastClusterActionStatus = .done ∧
    answers.Results world.cluster.spec dcRackName

theorem Ready.between (started : Started world.cluster start)
    (isReady : Ready start answers ready) (apart : world.KeepsApart answers)
    (holds : AllShaped noResults world.cluster.status.cassandraRackStatus) :
    Between (world.drained answers) world.cluster.status.lastClusterActionStatus ready := by
  have stored : AllShaped (world.drained answers) start.cc.status.cassandraRackStatus := by
    rw [started.status]
    intro name rack found
    exact ⟨(holds name rack found).sound,
      fun drains => apart.results drains.1 name rack drains.2 found⟩
  refine ⟨⟨AllRacks.flagged stored (shaped_law _) isReady.flagged.fromFlagged, ?_,
    fun status succeeded member => ?_⟩, ?_⟩
  · rw [isReady.object]
    exact stored
  · rw [isReady.effects] at member
    exact absurd member (started.unwritten status succeeded)
  · rw [isReady.status, started.status]

theorem Ready.undisturbing (started : Started world.cluster start)
    (isReady : Ready start answers ready) (apart : world.KeepsApart answers) :
    ∀ position ∈ ready.cc.spec.rackPositions, (answers.racks position).Undisturbing
      (world.drained answers) world.cluster.status.lastClusterActionStatus := by
  have spec : ready.cc.spec = world.cluster.spec.checkDefaults := isReady.spec.trans started.spec
  rw [spec, world.cluster.spec.checkDefaults_topology.1]
  intro position member
  exact ⟨apart.named position member, fun done op attempts known =>
    ⟨done, position, member, (op, attempts), known, rfl⟩⟩

end Ready

theorem World.decommissions_sound (apart : world.KeepsApart answers)
    (holds : AllShaped noResults world.cluster.status.cassandraRackStatus) :
    ∀ call ∈ world.decommissions platform answers,
      weAreScalingDown call.rack = true ∧ call.rack.DecommissionSound := by
  intro call member
  unfold decommissions at member
  split at member
  · cases member
  · rename_i ready found
    obtain ⟨start, starts, checks⟩ := Option.bind_eq_some_iff.mp found
    obtain ⟨started, _⟩ := deferredStart_some platform starts
    obtain ⟨isReady, _⟩ := checkedStart_some checks
    exact Casskop.decommissions_sound (isReady.undisturbing started apart)
      (isReady.between started apart holds) call member

theorem World.pass_allShaped (apart : world.KeepsApart answers)
    (holds : AllShaped noResults world.cluster.status.cassandraRackStatus) :
    AllShaped noResults
      (world.step platform (.pass answers)).cluster.status.cassandraRackStatus := by
  refine world.pass_allRacks_of_loop (shaped_law noResults) platform answers holds
    fun start ready _ started isReady _ => ?_
  exact reconcileRacks_shaped (isReady.undisturbing started apart)
    (isReady.between started apart holds) false

end Pass

/-! ## Runs -/

/-- Passes are to keep the results of other operations apart. -/
def World.Separates (world : World) : Event → Prop
  | .pass answers => world.KeepsApart answers
  | _ => True

theorem World.step_allShaped (platform : Platform) (world : World) (event : Event)
    (holds : AllShaped noResults world.cluster.status.cassandraRackStatus)
    (separates : world.Separates event) :
    AllShaped noResults (world.step platform event).cluster.status.cassandraRackStatus := by
  cases event with
  | edit metadata spec => exact holds
  | restart => exact holds
  | pass answers => exact World.pass_allShaped separates holds

/-- With a record of this shape no pod is indexed that is not there. -/
theorem DecommissionShape.indexed {answers : DecommissionAnswers}
    (shape : DecommissionShape rack.podLastOperation)
    (named : rack.podLastOperation.name = .decommission)
    (fault : (ensureDecommission now pass dcRackName rack answers ready).flow = .fault) :
    rack.podLastOperation.status = .toDo ∨ rack.podLastOperation.status = .continue := by
  unfold ensureDecommission at fault
  rw [if_neg (by simp [named])] at fault
  cases status : rack.podLastOperation.status with
  | toDo => exact Or.inl rfl
  | «continue» => exact Or.inr rfl
  | finalizing =>
    obtain ⟨pod, _, pods⟩ := shape.running (Or.inr status)
    simp only [status, pods] at fault
    split at fault
    · unfold deletePodPVC at fault
      repeat' split at fault
      all_goals cases fault
    · cases fault
  | ongoing =>
    obtain ⟨pod, nonempty, pods⟩ := shape.running (Or.inl status)
    simp only [status, pods, if_neg nonempty] at fault
    unfold followDecommission at fault
    dsimp only at fault
    repeat' split at fault
    all_goals cases fault
  | done =>
    obtain ⟨pod, nonempty, pods⟩ := shape.finished status
    simp only [status, pods, if_neg nonempty] at fault
    cases fault
  | _ => simp [status] at fault

/-- In a run from a fresh status whose passes keep results apart, `ensureDecommission` finds
the pods it looks for. -/
theorem decommission_record_shape (platform : Platform) (start : World)
    (fresh : start.cluster.status.cassandraRackStatus = ∅) (events : List Event)
    (answers : ReconcileAnswers)
    (separates : Runs.Meets (World.step platform) World.Separates start
      (events ++ [.pass answers])) :
    ∀ call ∈ (Runs.run (World.step platform) start events).decommissions platform answers,
      call.rack.podLastOperation.name = .decommission →
        DecommissionShape call.rack.podLastOperation ∧
          (call.result.flow = .fault → call.rack.podLastOperation.status = .toDo ∨
            call.rack.podLastOperation.status = .continue) := by
  have empty : AllShaped noResults start.cluster.status.cassandraRackStatus := by
    rw [fresh]
    intro name rack found
    simp at found
  obtain ⟨holds, apart⟩ := separates.at_step empty fun world event holds separates =>
    world.step_allShaped platform event holds separates
  intro call member named
  obtain ⟨scaling, sound⟩ := World.decommissions_sound apart holds call member
  have shape := sound scaling named
  exact ⟨shape, shape.indexed named⟩

/-! ## A rack that leaves the topology while it is scaling down -/

def twoDCSpec (nodes : Int) : CassandraClusterSpec :=
  { nodesPerRacks := 1
    cassandraImage := "cassandra:4"
    topology :=
      { dc := [{ name := "dc1", rack := [{ name := "rack1" }] },
          { name := "dc2", rack := [{ name := "rack1" }], nodesPerRacks := some nodes }] } }

/-- `dc2` is gone, and as many racks are declared as before. -/
def movedSpec : CassandraClusterSpec :=
  { nodesPerRacks := 1
    cassandraImage := "cassandra:4"
    topology :=
      { dc := [{ name := "dc3", rack := [{ name := "rack1" }] },
          { name := "dc1", rack := [{ name := "rack1" }] }] } }

def seededTemplate (image : String) (seeds : List String) : PodTemplate :=
  { initContainers :=
      [{ name := "bootstrap"
         env := [{ name := cassandraSeeds, value := String.intercalate "," seeds }] }]
    containers := some [{ name := "cassandra", image := image }] }

/-- `demoPlatform` with the seeds of the status. -/
def seededPlatform : Platform :=
  { demoPlatform with
    generate := fun cc status _ =>
      some (seededTemplate cc.spec.cassandraImage status.seedList, []) }

def seededStatefulSet (dcRackName : String) (replicas : Int) : StatefulSet :=
  { demoStatefulSet dcRackName "cassandra:4" replicas with
    spec :=
      { replicas := replicas
        template := seededTemplate "cassandra:4" (initSeedList demoMeta (twoDCSpec 2)) } }

def firstPods (dcRackName : String) (nodes : Nat) : List Pod :=
  (["-0", "-1"].take nodes).map fun ordinal => readyPod ("demo-" ++ dcRackName ++ ordinal)

/-- A pass over racks that are ready; `dc2` has as many nodes as given, the others one. -/
def readyPass (now : Nat) (spec : CassandraClusterSpec) (nodes : Nat)
    (change : String → HandleAnswers → HandleAnswers) : ReconcileAnswers :=
  let size (dcRackName : String) : Nat := if dcRackName = "dc2-rack1" then nodes else 1
  let calm := calmAnswers now fun position =>
    seededStatefulSet (spec.rackNameAt position) (size (spec.rackNameAt position))
  { calm with
    racks := fun position =>
      let name := spec.rackNameAt position
      { calm.racks position with
        phasePods := .ok (firstPods name (size name))
        handle := change name (calm.racks position).handle } }

/-- A cleanup is asked for on the second pod of `dc2`. -/
def cleansUp (dcRackName : String) (answers : HandleAnswers) : HandleAnswers :=
  if dcRackName = "dc2-rack1" then
    { answers with
      operations :=
        { answers.operations with toDoPods := .ok [readyPod "demo-dc2-rack1-1"] } }
  else answers

/-- The second pod of `dc2` is the last one, and is found in this mode. -/
def shrinks (mode : OperationMode) (dcRackName : String) (answers : HandleAnswers) :
    HandleAnswers :=
  if dcRackName = "dc2-rack1" then
    { answers with
      decommission :=
        { answers.decommission with
          podsList := .ok (firstPods dcRackName 2)
          pod := .ok (readyPod "demo-dc2-rack1-1")
          operationMode := .ok mode } }
  else answers

/-- The cleanup has failed, and `dc1` drains its result. -/
def drainsCleanup (dcRackName : String) (answers : HandleAnswers) : HandleAnswers :=
  if dcRackName = "dc1-rack1" then
    { answers with
      operations :=
        { answers.operations with
          channel :=
            [({ failed := true, dcRackName := "dc2-rack1", pod := "demo-dc2-rack1-1",
                operation := .cleanup },
              [{ labelled := true, write := writesSucceed, refreshed := none }])] } }
  else answers

def asTheyAre (_ : String) (answers : HandleAnswers) : HandleAnswers := answers

def freshWorld : World :=
  { cluster := { metadata := demoMeta, spec := twoDCSpec 2 }
    statefulSets := fun _ => none
    memory := Memory.empty }

def scaleDownOnly : List Event :=
  [.pass (readyPass 0 (twoDCSpec 2) 2 asTheyAre), .pass (readyPass 100 (twoDCSpec 2) 2 asTheyAre),
    .edit demoMeta (twoDCSpec 1), .pass (readyPass 300 (twoDCSpec 1) 2 (shrinks .normal))]

theorem World.KeepsApart.of_quiet {answers : ReconcileAnswers}
    (named : ∀ position, (answers.racks position).handle.decommission.Named)
    (quiet : ∀ position, (answers.racks position).handle.operations.channel = []) :
    world.KeepsApart answers := by
  refine ⟨fun position _ => named position, fun _ dcRackName rack results => ?_⟩
  obtain ⟨position, _, result, waiting, _⟩ := results
  rw [quiet position] at waiting
  cases waiting

theorem readyPass_keepsApart (world : World) (now : Nat) (spec : CassandraClusterSpec)
    (nodes : Nat) : world.KeepsApart (readyPass now spec nodes asTheyAre) := by
  refine .of_quiet (fun position pods listed => ?_) fun position => rfl
  cases listed
  simp

theorem shrinks_keepsApart (world : World) (now : Nat) (spec : CassandraClusterSpec) (nodes : Nat)
    (mode : OperationMode) : world.KeepsApart (readyPass now spec nodes (shrinks mode)) := by
  have nonempty : ∀ pod ∈ firstPods "dc2-rack1" 2, pod.name ≠ "" := by decide
  refine .of_quiet (fun position pods listed => ?_) fun position => ?_
  · change (shrinks mode (spec.rackNameAt position) _).decommission.podsList = _ at listed
    unfold shrinks at listed
    split at listed
    · rename_i here
      rw [here] at listed
      cases listed
      exact nonempty
    · cases listed
      simp
  · change (shrinks mode (spec.rackNameAt position) _).operations.channel = _
    unfold shrinks
    split <;> rfl

/-- The pass after the start of the decommission finds the pod in the record. -/
theorem scaleDownOnly_record_shape :
    ((Runs.run (World.step seededPlatform) freshWorld scaleDownOnly).decommissions seededPlatform
        (readyPass 400 (twoDCSpec 1) 2 (shrinks .leaving))).map
          (fun call => (call.rack.podLastOperation.name, call.rack.podLastOperation.status,
            call.rack.podLastOperation.pods)) =
        [(.decommission, .ongoing, some ["demo-dc2-rack1-1"])] ∧
      ∀ call ∈ (Runs.run (World.step seededPlatform) freshWorld scaleDownOnly).decommissions
          seededPlatform (readyPass 400 (twoDCSpec 1) 2 (shrinks .leaving)),
        call.rack.podLastOperation.name = .decommission →
          DecommissionShape call.rack.podLastOperation ∧
            (call.result.flow = .fault → call.rack.podLastOperation.status = .toDo ∨
              call.rack.podLastOperation.status = .continue) := by
  refine ⟨by decide +kernel, decommission_record_shape seededPlatform freshWorld rfl
    scaleDownOnly _ ?_⟩
  exact ⟨readyPass_keepsApart _ _ _ _, readyPass_keepsApart _ _ _ _, trivial,
    shrinks_keepsApart _ _ _ _ _, shrinks_keepsApart _ _ _ _ _, trivial⟩

/-- A cleanup runs on the pod that a scale down then takes away.  `dc2` is dropped from the
topology, so that the last cluster action is done before `dc2` is declared again, and the
last write of the pass that drains the result fails. -/
def droppedRack : List Event :=
  [.pass (readyPass 0 (twoDCSpec 2) 2 asTheyAre), .pass (readyPass 100 (twoDCSpec 2) 2 asTheyAre),
    .pass (readyPass 200 (twoDCSpec 2) 2 cleansUp), .edit demoMeta (twoDCSpec 1),
    .pass (readyPass 300 (twoDCSpec 1) 2 (shrinks .normal)),
    .pass (readyPass 400 (twoDCSpec 1) 2 (shrinks .decommissioned)), .edit demoMeta movedSpec,
    .pass (readyPass 500 movedSpec 1 asTheyAre), .pass (readyPass 600 movedSpec 1 asTheyAre),
    .pass
      { readyPass 700 movedSpec 1 drainsCleanup with
        write := { update := .ok 1, statusUpdate := .error .other } },
    .edit demoMeta (twoDCSpec 1)]

/-- `ensureDecommission` finalizes a decommission whose record has no pod, and faults. -/
theorem dropped_rack_loses_pod :
    freshWorld.cluster.status.cassandraRackStatus = ∅ ∧
      ((Runs.run (World.step seededPlatform) freshWorld droppedRack).decommissions seededPlatform
        (readyPass 800 (twoDCSpec 1) 1 asTheyAre)).map
          (fun call => (call.dcRackName, call.rack.podLastOperation.name,
            call.rack.podLastOperation.status, call.rack.podLastOperation.pods,
            call.result.flow)) = [("dc2-rack1", .decommission, .finalizing, none, .fault)] := by
  refine ⟨rfl, ?_⟩
  decide +kernel

end Casskop
