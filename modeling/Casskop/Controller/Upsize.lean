import Casskop.Controller.OneOngoing

/-!
# The steps of a storage upsize, one after the other

What the steps ask of the StatefulSet before they delete, rebuild or finalize it,
and what that means for the passes of one upsize.
-/

namespace Casskop

/-! ## Finalization -/

/-- The action is ended or the snapshot is cleared. -/
def UpsizeFinalizes (rack rack' : CassandraRackStatus) : Prop :=
  (rack.cassandraLastAction.status ≠ .done ∧ rack'.cassandraLastAction.status = .done) ∨
    (rack.statefulSetSnapshotBeforeStorageResize ≠ none ∧
      rack'.statefulSetSnapshotBeforeStorageResize = none)

section Finalization

variable {platform : Platform} {now : Nat} {spec : CassandraClusterSpec}
  {names : CompleteRackName} {living : Option StatefulSet} {rack : CassandraRackStatus}
  {answers : UpsizeAnswers} {made : UpsizeStep}

theorem UpsizeFinalizes.irrefl (rack : CassandraRackStatus) : ¬ UpsizeFinalizes rack rack := by
  intro finalizes
  rcases finalizes with ⟨busy, done⟩ | ⟨kept, cleared⟩
  · exact busy done
  · exact kept cleared

theorem UpsizeCase.finalizes (steps : UpsizeCase platform now spec names living rack answers made)
    (finalizes : UpsizeFinalizes rack made.rack) :
    ∃ sts, living = some sts ∧ doesStatefulSetHaveNewCapacity platform spec sts = true ∧
      UpsizeFinished (spec.requestedCapacity platform names.dcName) sts answers ∧
      made = { rack := finalizeUpsizeAction now rack, result := .pass } := by
  cases steps with
  | finalized sts snapshot alive kept current finished =>
    exact ⟨sts, alive, current, finished, rfl⟩
  | saved sts alive unsaved =>
    rcases finalizes with ⟨busy, done⟩ | ⟨kept, cleared⟩
    · exact absurd done busy
    · cases cleared
  | lost | orphaned | unbuildable | recreated | waiting =>
    exact absurd finalizes (UpsizeFinalizes.irrefl rack)

end Finalization

/-- An upsize is finalized only when the StatefulSet lives and is ready, all its data
claims ask for and have the capacity of the DC, and all its pods are ready.  Such a
pass of the steps calls nothing. -/
theorem reconcileUpsizeSteps_finalizes (platform : Platform) (now : Nat)
    (spec : CassandraClusterSpec) (names : CompleteRackName) (living : Option StatefulSet)
    (rack : CassandraRackStatus) (answers : UpsizeAnswers)
    (finalizes : UpsizeFinalizes rack
      (reconcileUpsizeSteps platform now spec names living rack answers).rack) :
    ∃ sts listed pods, living = some sts ∧
      answers.claims = .ok listed ∧
      ((dataClaims sts listed).length : Int) = sts.spec.replicas ∧
      (∀ claim ∈ dataClaims sts listed,
        (storageOf claim).value = (spec.requestedCapacity platform names.dcName).value ∧
          (capacityOf claim).value = (spec.requestedCapacity platform names.dcName).value) ∧
      isStatefulSetReady sts = true ∧
      answers.pods = .ok pods ∧ (pods.length : Int) = sts.spec.replicas ∧
      (∀ pod ∈ pods, pod.isReady = true) ∧
      (reconcileUpsizeSteps platform now spec names living rack answers).effects = [] := by
  obtain ⟨sts, alive, _, finished, made⟩ :=
    (reconcileUpsizeSteps_case living).finalizes finalizes
  obtain ⟨listed, answer, complete, sized⟩ := finished.claims
  obtain ⟨pods, podAnswer, counted, ready⟩ := finished.pods
  refine ⟨sts, listed, pods, alive, answer, complete, fun claim member => ?_, finished.ready,
    podAnswer, counted, ready, ?_⟩
  · obtain ⟨asked, resized⟩ := sized claim member
    exact ⟨congrArg Quantity.value asked, resized⟩
  · rw [made]

/-! ## The data template -/

/-- The StatefulSet has a template for its data claims, with requests to write into. -/
def StatefulSet.hasDataRequests (sts : StatefulSet) : Bool :=
  (sts.spec.volumeClaimTemplates.find? fun template => template.name == dataPVCName).any
    fun template => template.requests.isSome

theorem setNewDataCapacity_updated_iff (sts : StatefulSet) (quantity : Quantity) :
    (∃ updated, setNewDataCapacity sts quantity = .updated updated) ↔
      sts.hasDataRequests = true := by
  unfold setNewDataCapacity StatefulSet.hasDataRequests
  rw [List.find?_eq_getElem?_findIdx]
  split
  · rename_i absent
    rw [List.findIdx?_eq_none_iff_findIdx_eq] at absent
    simp [absent]
  · rename_i index found
    obtain ⟨bound, rfl⟩ := List.findIdx?_eq_some_iff_findIdx_eq.mp found
    rw [List.getElem?_eq_getElem bound]
    simp only [Option.any_some]
    generalize sts.spec.volumeClaimTemplates[List.findIdx _ _].requests = requests
    cases requests with
    | none => simp
    | some requests => simp

theorem findIdx?_modify_setStorageRequest (quantity : Quantity)
    (templates : List PersistentVolumeClaim) (index : Nat) :
    (templates.modify index (setStorageRequest quantity)).findIdx?
        (fun template => template.name == dataPVCName) =
      templates.findIdx? fun template => template.name == dataPVCName := by
  induction templates generalizing index with
  | nil => simp
  | cons first rest induction =>
    cases index with
    | zero =>
      rw [List.modify_zero_cons, List.findIdx?_cons, List.findIdx?_cons]
      rfl
    | succ index => rw [List.modify_succ_cons, List.findIdx?_cons, List.findIdx?_cons, induction]

theorem dataCapacity_setNewDataCapacity {sts updated : StatefulSet} {quantity : Quantity}
    (set : setNewDataCapacity sts quantity = .updated updated) :
    dataCapacity updated.spec.volumeClaimTemplates = quantity := by
  unfold setNewDataCapacity at set
  split at set
  · cases set
  rename_i index found
  split at set
  · cases set
  cases set
  obtain ⟨bound, _⟩ := List.findIdx?_eq_some_iff_findIdx_eq.mp found
  have template : (sts.spec.volumeClaimTemplates.modify index
      (setStorageRequest quantity))[index]? =
        some (setStorageRequest quantity sts.spec.volumeClaimTemplates[index]) := by
    rw [List.getElem?_modify_eq, List.getElem?_eq_getElem bound]
    rfl
  unfold dataCapacity findDataCapacity
  dsimp only
  rw [findIdx?_modify_setStorageRequest, found]
  dsimp only
  rw [template]
  simp [setStorageRequest]

/-! ## Deleted StatefulSets are rebuilt -/

/-- The StatefulSet is saved in one pass and deleted in a later one; then a pass whose
create call succeeds rebuilds it, whatever the user changed in between. -/
def Rebuilds (platform : Platform) (spec : CassandraClusterSpec) (names : CompleteRackName)
    (sts : StatefulSet) : Prop :=
  ∀ (rack : CassandraRackStatus) (later : CassandraClusterSpec) (now : Nat)
    (first second third : UpsizeAnswers),
    rack.statefulSetSnapshotBeforeStorageResize = none →
    let saved := reconcileUpsizeSteps platform now spec names (some sts) rack first
    let deleted := reconcileUpsizeSteps platform now spec names (some sts) saved.rack second
    .orphanStatefulSet names.dcRackName true ∈ deleted.effects →
    Except.succeeded third.create = true →
    let rebuilt := reconcileUpsizeSteps platform now later names none deleted.rack third
    rebuilt.result = .breakLoop ∧
      ∃ updated, rebuilt.effects = [.recreateStatefulSet names.dcRackName updated true]

section Rebuild

variable {platform : Platform} {now : Nat} {spec : CassandraClusterSpec}
  {names : CompleteRackName} {rack : CassandraRackStatus} {answers : UpsizeAnswers}
  {sts snapshot : StatefulSet}

theorem reconcileUpsizeSteps_saves
    (unsaved : rack.statefulSetSnapshotBeforeStorageResize = none) :
    (reconcileUpsizeSteps platform now spec names (some sts) rack answers).rack =
      { rack with
        statefulSetSnapshotBeforeStorageResize := some (prepareStatefulSetSnapshot sts) } := by
  have steps := @reconcileUpsizeSteps_case platform now spec names rack answers (some sts)
  generalize reconcileUpsizeSteps platform now spec names (some sts) rack answers = made
    at steps
  cases steps with
  | saved other alive _ =>
    cases alive
    rfl
  | lost missing => cases missing
  | orphaned _ _ _ kept => rw [unsaved] at kept; cases kept
  | unbuildable _ _ missing => cases missing
  | recreated _ _ missing => cases missing
  | waiting _ _ _ _ _ kept => rw [unsaved] at kept; cases kept
  | finalized _ _ _ kept => rw [unsaved] at kept; cases kept

/-- Only a saved StatefulSet without the capacity of the cluster is deleted. -/
theorem UpsizeCase.orphans {living : Option StatefulSet} {made : UpsizeStep} {name : String}
    {succeeded : Bool} (steps : UpsizeCase platform now spec names living rack answers made)
    (orphaned : .orphanStatefulSet name succeeded ∈ made.effects) :
    ∃ sts snapshot, living = some sts ∧
      rack.statefulSetSnapshotBeforeStorageResize = some snapshot ∧
      doesStatefulSetHaveNewCapacity platform spec sts = false := by
  cases steps with
  | orphaned sts snapshot alive kept outdated => exact ⟨sts, snapshot, alive, kept, outdated⟩
  | recreated => simp at orphaned
  | waiting sts snapshot effects result alive kept current resizes =>
    obtain ⟨_, _, impossible⟩ := resizes _ orphaned
    cases impossible
  | lost | saved | unbuildable | finalized => cases orphaned

theorem reconcileUpsizeSteps_outdated
    (kept : rack.statefulSetSnapshotBeforeStorageResize = some snapshot)
    (outdated : doesStatefulSetHaveNewCapacity platform spec sts = false) :
    let made := reconcileUpsizeSteps platform now spec names (some sts) rack answers
    made.rack = rack ∧
      made.effects = [.orphanStatefulSet names.dcRackName (Except.succeeded answers.delete)] := by
  have steps := @reconcileUpsizeSteps_case platform now spec names rack answers (some sts)
  intro made
  change UpsizeCase platform now spec names (some sts) rack answers made at steps
  generalize made = made at steps
  cases steps with
  | orphaned => exact ⟨rfl, rfl⟩
  | saved _ _ unsaved => rw [kept] at unsaved; cases unsaved
  | lost missing => cases missing
  | unbuildable _ _ missing => cases missing
  | recreated _ _ missing => cases missing
  | waiting _ _ _ _ alive _ current =>
    cases alive
    rw [outdated] at current
    cases current
  | finalized _ _ alive _ current =>
    cases alive
    rw [outdated] at current
    cases current

theorem reconcileUpsizeSteps_rebuilds_iff
    (kept : rack.statefulSetSnapshotBeforeStorageResize = some snapshot)
    (created : Except.succeeded answers.create = true) :
    let made := reconcileUpsizeSteps platform now spec names none rack answers
    (made.result = .breakLoop ∧
        ∃ updated, made.effects = [.recreateStatefulSet names.dcRackName updated true]) ↔
      snapshot.hasDataRequests = true := by
  rw [← setNewDataCapacity_updated_iff snapshot (spec.requestedCapacity platform names.dcName)]
  have steps := @reconcileUpsizeSteps_case platform now spec names rack answers none
  intro made
  change UpsizeCase platform now spec names none rack answers made at steps
  generalize made = made at steps
  cases steps with
  | recreated other updated _ same built =>
    rw [kept, Option.some.injEq] at same
    subst same
    constructor
    · intro _
      exact ⟨updated, built⟩
    · intro _
      refine ⟨?_, updated, ?_⟩
      · simp [created]
      · simp [created]
  | unbuildable other result _ same failed ends =>
    rw [kept, Option.some.injEq] at same
    subst same
    constructor
    · rintro ⟨breaks, _⟩
      rcases ends with error | fault
      · rw [error] at breaks; cases breaks
      · rw [fault] at breaks; cases breaks
    · rintro ⟨updated, built⟩
      exact absurd built (failed updated)
  | lost _ unsaved => rw [kept] at unsaved; cases unsaved
  | saved _ alive => cases alive
  | orphaned _ _ alive => cases alive
  | waiting _ _ _ _ alive => cases alive
  | finalized _ _ alive => cases alive

end Rebuild

def sizedPlatform : Platform :=
  { demoPlatform with
    parseQuantity := fun text =>
      { value :=
          if text = "5Gi" then 5 else if text = "10Gi" then 10 else if text = "20Gi" then 20
          else 0 } }

def sizedSpec (dataCapacity dcCapacity : String) : CassandraClusterSpec :=
  { nodesPerRacks := 1
    cassandraImage := "cassandra:4"
    dataCapacity := dataCapacity
    topology :=
      { dc := [{ name := "dc1", rack := [{ name := "rack1" }], dataCapacity := dcCapacity }] } }

def dataTemplate (value : ℚ) : PersistentVolumeClaim :=
  { name := "data", requests := some (GoMap.ofList [("storage", { value := value })]) }

def sizedStatefulSet (templates : List PersistentVolumeClaim) : StatefulSet :=
  let sts := demoStatefulSet "dc1-rack1" "cassandra:4" 1
  { sts with spec := { sts.spec with volumeClaimTemplates := templates } }

def sizedWorld (spec : CassandraClusterSpec) (templates : List PersistentVolumeClaim) : World :=
  { cluster :=
      { metadata := demoMeta
        annotation := .config { metadata := demoMeta, spec := spec }
        spec := spec
        status :=
          { phase := .running
            lastClusterActionStatus := .done
            cassandraRackStatus := GoMap.ofList [("dc1-rack1", idleRack)] } }
    statefulSets := fun dcRackName =>
      if dcRackName = "dc1-rack1" then some (sizedStatefulSet templates) else none
    memory := { storedPdb := { name := "demo", ns := "default" } } }

/-- A pass in which every call succeeds and the StatefulSet is found as given. -/
def sizedPass (now : Nat) (statefulSet : Except ApiError StatefulSet) : ReconcileAnswers :=
  { twoRackAnswers with racks := fun _ => healthyAnswers now statefulSet }

/-- The capacity is set, the edit is accepted, the StatefulSet is saved and deleted. -/
def firstCapacity : List Event :=
  [.edit demoMeta (sizedSpec "10Gi" ""),
    .pass (sizedPass 100 (.ok (sizedStatefulSet []))),
    .pass (sizedPass 1000 (.ok (sizedStatefulSet [])))]

/-- The claim of the only pod has 20Gi, and the pod is ready. -/
def resizedAnswers : UpsizeAnswers :=
  { delete := .ok ()
    create := .ok ()
    claims := .ok [{ dataTemplate 20 with
      name := "data-demo-dc1-rack1-0", capacity := GoMap.ofList [("storage", { value := 20 })] }]
    updateClaim := fun _ => .ok ()
    pods := .ok [readyPod "demo-dc1-rack1-0"] }

def upsizingRack : CassandraRackStatus :=
  { phase := .pending
    cassandraLastAction := { name := .storageUpsize, status := .ongoing }
    statefulSetSnapshotBeforeStorageResize := some (sizedStatefulSet [dataTemplate 10]) }

/-- A rack that has got its 20Gi. -/
def resizedSteps : UpsizeStep :=
  reconcileUpsizeSteps sizedPlatform 100 (sizedSpec "20Gi" "")
    { dcName := "dc1", rackName := "rack1", dcRackName := "dc1-rack1" }
    (some (sizedStatefulSet [dataTemplate 20])) upsizingRack resizedAnswers

theorem resizedSteps_finalize :
    UpsizeFinalizes upsizingRack resizedSteps.rack ∧ resizedSteps.effects = [] := by
  have finalizes : UpsizeFinalizes upsizingRack resizedSteps.rack := Or.inl ⟨by decide, by decide⟩
  obtain ⟨_, _, _, _, _, _, _, _, _, _, _, quiet⟩ :=
    reconcileUpsizeSteps_finalizes sizedPlatform 100 (sizedSpec "20Gi" "") _ _ upsizingRack
      resizedAnswers finalizes
  exact ⟨finalizes, quiet⟩

/-! ## The passes of one upsize -/

/-- A rack during an upsize: StatefulSet and status as they are stored. -/
structure UpsizeState where
  living : Option StatefulSet
  rack : CassandraRackStatus

inductive UpsizeEvent where
  | pass (now : Nat) (answers : UpsizeAnswers)
  /-- The status of the StatefulSet is brought up to date. -/
  | report (status : StatefulSetStatus)

/-- The StatefulSet an effect leaves behind. -/
def Effect.leaves (living : Option StatefulSet) : Effect → Option StatefulSet
  | .orphanStatefulSet _ true => none
  | .recreateStatefulSet _ sts true => some sts
  | _ => living

/-- The StatefulSet was really deleted. -/
def Effect.deletesOrphan : Effect → Bool
  | .orphanStatefulSet _ true => true
  | _ => false

namespace UpsizeState

variable (platform : Platform) (spec : CassandraClusterSpec) (names : CompleteRackName)

/-- The steps of an event.  The passes after the end of the upsize make none. -/
def made (state : UpsizeState) : UpsizeEvent → UpsizeStep
  | .pass now answers =>
    if isStorageUpsizeStarted state.rack then
      reconcileUpsizeSteps platform now spec names state.living
        { state.rack with phase := .pending } answers
    else { rack := state.rack, result := .pass }
  | .report _ => { rack := state.rack, result := .pass }

def step (state : UpsizeState) (event : UpsizeEvent) : UpsizeState :=
  match event with
  | .pass .. =>
    let made := state.made platform spec names event
    { living := made.effects.foldl Effect.leaves state.living, rack := made.rack }
  | .report status =>
    { state with living := state.living.map fun sts => { sts with status := status } }

def deletions (state : UpsizeState) (event : UpsizeEvent) : Nat :=
  (state.made platform spec names event).effects.countP Effect.deletesOrphan

/-- A StatefulSet that does not have the capacity of the cluster may still be deleted. -/
def budget (state : UpsizeState) : Nat :=
  if state.living.any (fun sts => !doesStatefulSetHaveNewCapacity platform spec sts) then 1 else 0

end UpsizeState

/-- Only a StatefulSet whose capacity differs from the one of the DC is deleted, and an
upsize is finalized only if it does not differ. -/
def FollowsCapacity (platform : Platform) (spec : CassandraClusterSpec)
    (names : CompleteRackName) : Prop :=
  ∀ (now : Nat) (sts : StatefulSet) (rack : CassandraRackStatus) (answers : UpsizeAnswers),
    let made := reconcileUpsizeSteps platform now spec names (some sts) rack answers
    (∀ succeeded, .orphanStatefulSet names.dcRackName succeeded ∈ made.effects →
        (dataCapacity sts.spec.volumeClaimTemplates).value ≠
          (spec.requestedCapacity platform names.dcName).value) ∧
      (UpsizeFinalizes rack made.rack →
        (dataCapacity sts.spec.volumeClaimTemplates).value =
          (spec.requestedCapacity platform names.dcName).value)

/-- In all the passes of an upsize the StatefulSet is deleted at most once, and when the
upsize is over no other one is asked for. -/
def DeletesOnce (platform : Platform) (spec : CassandraClusterSpec)
    (names : CompleteRackName) : Prop :=
  ∀ (start : UpsizeState) (events : List UpsizeEvent),
    isStorageUpsizeStarted start.rack = true →
    let final := Runs.run (UpsizeState.step platform spec names) start events
    Runs.total (UpsizeState.step platform spec names)
        (UpsizeState.deletions platform spec names) start events ≤ 1 ∧
      (isStorageUpsizeStarted final.rack = false →
        ∃ sts, final.living = some sts ∧
          shouldStorageUpsizeBeStarted platform spec names.dcName sts = false)

theorem Effect.leaves_of_resizes {effects : List Effect}
    (resizes : ∀ effect ∈ effects, ∃ name quantity, effect = .updatePVC name quantity)
    (living : Option StatefulSet) : effects.foldl Effect.leaves living = living := by
  induction effects with
  | nil => rfl
  | cons effect effects induction =>
    obtain ⟨_, _, rfl⟩ := resizes effect List.mem_cons_self
    exact induction fun other member => resizes other (List.mem_cons_of_mem _ member)

section Capacities

variable {platform : Platform} {spec : CassandraClusterSpec} {names : CompleteRackName}

theorem doesStatefulSetHaveNewCapacity_iff (sts : StatefulSet) :
    doesStatefulSetHaveNewCapacity platform spec sts = true ↔
      (platform.parseQuantity spec.dataCapacity).value =
        (dataCapacity sts.spec.volumeClaimTemplates).value := by
  simp [doesStatefulSetHaveNewCapacity, Quantity.equal]

variable (capacities : (platform.parseQuantity spec.dataCapacity).value =
  (spec.requestedCapacity platform names.dcName).value)
include capacities

theorem followsCapacity_of_eq : FollowsCapacity platform spec names := by
  intro now sts rack answers made
  refine ⟨fun succeeded orphaned same => ?_, fun finalizes => ?_⟩
  · obtain ⟨other, _, alive, _, outdated⟩ :=
      (reconcileUpsizeSteps_case (some sts)).orphans orphaned
    cases alive
    have current := (doesStatefulSetHaveNewCapacity_iff sts).mpr (capacities.trans same.symm)
    rw [outdated] at current
    cases current
  · obtain ⟨other, alive, current, _⟩ :=
      (reconcileUpsizeSteps_case (some sts)).finalizes finalizes
    cases alive
    exact ((doesStatefulSetHaveNewCapacity_iff sts).mp current).symm.trans capacities

/-- A StatefulSet recreated with the capacity of the DC has the one of the cluster. -/
theorem doesStatefulSetHaveNewCapacity_of_recreated {snapshot sts : StatefulSet}
    (built : setNewDataCapacity snapshot (spec.requestedCapacity platform names.dcName) =
      .updated sts) :
    doesStatefulSetHaveNewCapacity platform spec sts = true := by
  rw [doesStatefulSetHaveNewCapacity_iff, dataCapacity_setNewDataCapacity built]
  exact capacities

theorem UpsizeState.pays (state : UpsizeState) (event : UpsizeEvent) :
    state.deletions platform spec names event +
        (state.step platform spec names event).budget platform spec ≤
      state.budget platform spec := by
  cases event with
  | report status =>
    have same : ∀ sts : StatefulSet,
        doesStatefulSetHaveNewCapacity platform spec { sts with status := status } =
          doesStatefulSetHaveNewCapacity platform spec sts := fun _ => rfl
    simp [deletions, made, step, budget, Option.any_map, same]
  | pass now answers =>
    unfold deletions step
    cases upsizing : isStorageUpsizeStarted state.rack with
    | false => simp [made, upsizing, budget]
    | true =>
      have steps := @reconcileUpsizeSteps_case platform now spec names
        { state.rack with phase := .pending } answers state.living
      simp only [made, upsizing, if_true]
      generalize reconcileUpsizeSteps platform now spec names state.living
        { state.rack with phase := .pending } answers = made at steps
      cases steps with
      | orphaned sts snapshot alive kept outdated =>
        cases Except.succeeded answers.delete with
        | true => simp [budget, alive, outdated, Effect.leaves, Effect.deletesOrphan]
        | false => simp [budget, alive, outdated, Effect.leaves, Effect.deletesOrphan]
      | recreated snapshot sts missing kept built =>
        have current := doesStatefulSetHaveNewCapacity_of_recreated capacities built
        cases Except.succeeded answers.create with
        | true => simp [budget, missing, current, Effect.leaves, Effect.deletesOrphan]
        | false => simp [budget, missing, Effect.leaves, Effect.deletesOrphan]
      | waiting sts snapshot effects result alive kept current resizes waits =>
        have counted : effects.countP Effect.deletesOrphan = 0 := by
          refine List.countP_eq_zero.mpr fun effect member => ?_
          obtain ⟨_, _, rfl⟩ := resizes effect member
          simp [Effect.deletesOrphan]
        rw [counted, Effect.leaves_of_resizes resizes]
        exact le_of_eq (Nat.zero_add _)
      | lost | saved | unbuildable | finalized => exact le_of_eq (Nat.zero_add _)

/-- The StatefulSet of a rack whose upsize is over has the capacity of the DC. -/
def UpsizeState.Settled (platform : Platform) (spec : CassandraClusterSpec)
    (names : CompleteRackName) (state : UpsizeState) : Prop :=
  isStorageUpsizeStarted state.rack = false →
    ∃ sts, state.living = some sts ∧ (dataCapacity sts.spec.volumeClaimTemplates).value =
      (spec.requestedCapacity platform names.dcName).value

theorem UpsizeState.Settled.step {state : UpsizeState} (settled : state.Settled platform spec names)
    (event : UpsizeEvent) : (state.step platform spec names event).Settled platform spec names := by
  cases event with
  | report status =>
    intro ended
    obtain ⟨sts, alive, sized⟩ := settled ended
    exact ⟨{ sts with status := status }, by simp [UpsizeState.step, alive], sized⟩
  | pass now answers =>
    unfold UpsizeState.step
    cases upsizing : isStorageUpsizeStarted state.rack with
    | false =>
      simp only [made, upsizing]
      exact settled
    | true =>
      have steps := @reconcileUpsizeSteps_case platform now spec names
        { state.rack with phase := .pending } answers state.living
      simp only [made, upsizing, if_true]
      generalize reconcileUpsizeSteps platform now spec names state.living
        { state.rack with phase := .pending } answers = made at steps
      have started : isStorageUpsizeStarted { state.rack with phase := .pending } = true := upsizing
      cases steps with
      | finalized sts snapshot alive kept current finished =>
        intro _
        exact ⟨sts, alive,
          ((doesStatefulSetHaveNewCapacity_iff sts).mp current).symm.trans capacities⟩
      | lost | saved | orphaned | unbuildable | recreated | waiting =>
        intro ended
        exact Bool.noConfusion (started.symm.trans ended)

theorem deletesOnce_of_eq : DeletesOnce platform spec names := by
  intro start events upsizing final
  constructor
  · calc Runs.total (UpsizeState.step platform spec names)
          (UpsizeState.deletions platform spec names) start events
        ≤ start.budget platform spec :=
          Runs.total_le_budget (UpsizeState.pays capacities) events
      _ ≤ 1 := by
          unfold UpsizeState.budget
          split <;> simp
  · intro ended
    have started : start.Settled platform spec names := fun done =>
      Bool.noConfusion (upsizing.symm.trans done)
    have settled : final.Settled platform spec names :=
      Runs.run_keeps started (fun state event holds => holds.step capacities event) events
    obtain ⟨sts, alive, sized⟩ := settled ended
    refine ⟨sts, alive, ?_⟩
    simp only [CassandraClusterSpec.requestedCapacity] at sized
    simp [shouldStorageUpsizeBeStarted, Quantity.equal, sized]

end Capacities

theorem exists_dataCapacity (quantity : Quantity) :
    ∃ sts : StatefulSet, dataCapacity sts.spec.volumeClaimTemplates = quantity := by
  refine ⟨{ name := "", spec := { replicas := 0, volumeClaimTemplates :=
    [setStorageRequest quantity { name := dataPVCName }] } }, ?_⟩
  simp [dataCapacity, findDataCapacity, setStorageRequest]

/-- The upsize of a rack follows the capacity of its DC exactly if the cluster has the
same capacity. -/
theorem upsize_follows_capacity_iff (platform : Platform) (spec : CassandraClusterSpec)
    (names : CompleteRackName) :
    FollowsCapacity platform spec names ∧ DeletesOnce platform spec names ↔
      (platform.parseQuantity spec.dataCapacity).value =
        (spec.requestedCapacity platform names.dcName).value := by
  constructor
  · intro laws
    by_contra different
    obtain ⟨sts, sized⟩ := exists_dataCapacity (spec.requestedCapacity platform names.dcName)
    have outdated : doesStatefulSetHaveNewCapacity platform spec sts = false := by
      rw [← Bool.not_eq_true, doesStatefulSetHaveNewCapacity_iff, sized]
      exact different
    let answers : UpsizeAnswers :=
      { delete := .ok (), create := .ok (), claims := .ok []
        updateClaim := fun _ => .ok (), pods := .ok [] }
    obtain ⟨_, orphans⟩ := @reconcileUpsizeSteps_outdated platform 0 spec names
      { statefulSetSnapshotBeforeStorageResize := some sts } answers sts sts rfl outdated
    refine (laws.1 0 sts { statefulSetSnapshotBeforeStorageResize := some sts } answers).1 true
      ?_ (congrArg Quantity.value sized)
    rw [orphans]
    exact List.mem_cons_self
  · intro capacities
    exact ⟨followsCapacity_of_eq capacities, deletesOnce_of_eq capacities⟩

/-- The cluster has 10Gi and its DC goes from 5Gi to 20Gi: the StatefulSet is saved,
deleted and recreated. -/
def overriddenCapacity : List Event :=
  [.edit demoMeta (sizedSpec "10Gi" "20Gi"),
    .pass (sizedPass 100 (.ok (sizedStatefulSet [dataTemplate 5]))),
    .pass (sizedPass 1000 (.ok (sizedStatefulSet [dataTemplate 5]))),
    .pass (sizedPass 2000 (.error .notFound))]

/-- A StatefulSet that has the capacity of its DC is deleted a second time. -/
theorem World.upsize_deletes_again :
    let start := sizedWorld (sizedSpec "10Gi" "5Gi") [dataTemplate 5]
    let before := Runs.run (World.step sizedPlatform) start (overriddenCapacity.take 2)
    let world := Runs.run (World.step sizedPlatform) start overriddenCapacity
    let sts := sizedStatefulSet [dataTemplate 20]
    (before.pass sizedPlatform (sizedPass 1000 (.ok (sizedStatefulSet [dataTemplate 5])))).writes =
        [.orphanStatefulSet "dc1-rack1" true] ∧
      (world.statefulSets "dc1-rack1").map (fun sts => sts.spec) = some sts.spec ∧
      (dataCapacity sts.spec.volumeClaimTemplates).value =
        (world.cluster.spec.requestedCapacity sizedPlatform "dc1").value ∧
      (world.pass sizedPlatform (sizedPass 3000 (.ok sts))).writes =
        [.orphanStatefulSet "dc1-rack1" true] := by
  refine ⟨by decide, by decide, by decide, by decide⟩

end Casskop
