import Casskop.Controller.StorageUpsize

/-!
# What a storage upsize can do

The steps of `storageupsize.Reconcile` end in one of a few ways.  They are listed
once, with what was seen on the way there.
-/

namespace Casskop

/-- What is seen of a rack whose upsize is finalized. -/
structure UpsizeFinished (requested : Quantity) (sts : StatefulSet) (answers : UpsizeAnswers) :
    Prop where
  claims : ∃ listed, answers.claims = .ok listed ∧
    ((dataClaims sts listed).length : Int) = sts.spec.replicas ∧
    ∀ claim ∈ dataClaims sts listed, storageOf claim = requested ∧
      (capacityOf claim).value = requested.value
  ready : isStatefulSetReady sts = true
  pods : ∃ pods, answers.pods = .ok pods ∧ (pods.length : Int) = sts.spec.replicas ∧
    ∀ pod ∈ pods, pod.isReady = true

section Cases

variable (platform : Platform) (now : Nat) (spec : CassandraClusterSpec)
  (names : CompleteRackName) (living : Option StatefulSet) (rack : CassandraRackStatus)
  (answers : UpsizeAnswers)

inductive UpsizeCase : UpsizeStep → Prop where
  | lost (missing : living = none)
      (unsaved : rack.statefulSetSnapshotBeforeStorageResize = none) :
      UpsizeCase { rack := rack, result := .error }
  | saved (sts : StatefulSet) (alive : living = some sts)
      (unsaved : rack.statefulSetSnapshotBeforeStorageResize = none) :
      UpsizeCase
        { rack :=
            { rack with
              statefulSetSnapshotBeforeStorageResize := some (prepareStatefulSetSnapshot sts) }
          result := .breakLoop }
  | orphaned (sts snapshot : StatefulSet) (alive : living = some sts)
      (kept : rack.statefulSetSnapshotBeforeStorageResize = some snapshot)
      (outdated : doesStatefulSetHaveNewCapacity platform spec sts = false) :
      UpsizeCase
        { rack := rack
          effects := [.orphanStatefulSet names.dcRackName (Except.succeeded answers.delete)]
          result := if Except.succeeded answers.delete then .breakLoop else .error }
  | unbuildable (snapshot : StatefulSet) (result : StepResult) (missing : living = none)
      (kept : rack.statefulSetSnapshotBeforeStorageResize = some snapshot)
      (failed : ∀ sts, setNewDataCapacity snapshot
        (spec.requestedCapacity platform names.dcName) ≠ .updated sts)
      (ends : result = .error ∨ result = .fault) :
      UpsizeCase { rack := rack, result := result }
  | recreated (snapshot sts : StatefulSet) (missing : living = none)
      (kept : rack.statefulSetSnapshotBeforeStorageResize = some snapshot)
      (built : setNewDataCapacity snapshot (spec.requestedCapacity platform names.dcName) =
        .updated sts) :
      UpsizeCase
        { rack := rack
          effects :=
            [.recreateStatefulSet names.dcRackName sts (Except.succeeded answers.create)]
          result := if Except.succeeded answers.create then .breakLoop else .error }
  | waiting (sts snapshot : StatefulSet) (effects : List Effect) (result : StepResult)
      (alive : living = some sts)
      (kept : rack.statefulSetSnapshotBeforeStorageResize = some snapshot)
      (current : doesStatefulSetHaveNewCapacity platform spec sts = true)
      (resizes : ∀ effect ∈ effects, ∃ name quantity, effect = .updatePVC name quantity)
      (waits : result ≠ .pass) :
      UpsizeCase { rack := rack, effects := effects, result := result }
  | finalized (sts snapshot : StatefulSet) (alive : living = some sts)
      (kept : rack.statefulSetSnapshotBeforeStorageResize = some snapshot)
      (current : doesStatefulSetHaveNewCapacity platform spec sts = true)
      (finished : UpsizeFinished (spec.requestedCapacity platform names.dcName) sts answers) :
      UpsizeCase { rack := finalizeUpsizeAction now rack, result := .pass }

end Cases

section Steps

variable {platform : Platform} {now : Nat} {spec : CassandraClusterSpec}
  {names : CompleteRackName} {rack : CassandraRackStatus} {answers : UpsizeAnswers}
  {sts snapshot : StatefulSet}

theorem UpsizeStep.andThen_pass {step : UpsizeStep} {next : CassandraRackStatus → UpsizeStep}
    (passes : step = { rack := rack, result := .pass }) : step.andThen next = next rack := by
  rw [passes]
  rfl

theorem UpsizeStep.andThen_end {step : UpsizeStep} {next : CassandraRackStatus → UpsizeStep}
    (ends : step.result ≠ .pass) : step.andThen next = step := by
  unfold UpsizeStep.andThen
  split
  · rename_i passes
    exact absurd passes ends
  · rfl

theorem getAllDataPvcs_listed {claims : List PersistentVolumeClaim}
    (fetched : getAllDataPvcs (some sts) answers = some claims) :
    ∃ listed, answers.claims = .ok listed ∧ claims = dataClaims sts listed ∧
      ((dataClaims sts listed).length : Int) = sts.spec.replicas := by
  unfold getAllDataPvcs at fetched
  split at fetched
  · rename_i listed same answer
    cases same
    split at fetched
    · rename_i complete
      cases fetched
      exact ⟨listed, answer, rfl, complete⟩
    · cases fetched
  · cases fetched

/-- All claims ask for the capacity, or some are updated and the step ends. -/
theorem ensureAllPVCsHaveNewCapacity_case (requested : Quantity)
    (claims : List PersistentVolumeClaim) (rack : CassandraRackStatus) :
    let step := ensureAllPVCsHaveNewCapacity requested claims rack answers
    (step = { rack := rack, result := .pass } ∧ ∀ claim ∈ claims, storageOf claim = requested) ∨
      (step.rack = rack ∧ step.result ≠ .pass ∧
        ∀ effect ∈ step.effects, ∃ name quantity, effect = .updatePVC name quantity) := by
  unfold ensureAllPVCsHaveNewCapacity
  dsimp only
  cases changed : claims.filter fun claim => storageOf claim != requested with
  | nil =>
    refine Or.inl ⟨rfl, fun claim member => ?_⟩
    simpa using List.filter_eq_nil_iff.mp changed claim member
  | cons first others =>
    refine Or.inr ⟨rfl, ?_, fun effect member => ?_⟩
    · split
      · simp
      · simp
    · obtain ⟨claim, _, rfl⟩ := List.mem_map.mp member
      exact ⟨claim.name, requested, rfl⟩

theorem waitTillAllFilesystemsHaveNewCapacity_case (requested : Quantity)
    (claims : List PersistentVolumeClaim) (rack : CassandraRackStatus) :
    let step := waitTillAllFilesystemsHaveNewCapacity requested claims rack
    (step = { rack := rack, result := .pass } ∧
        ∀ claim ∈ claims, (capacityOf claim).value = requested.value) ∨
      step = { rack := rack, result := .breakLoop } := by
  unfold waitTillAllFilesystemsHaveNewCapacity
  dsimp only
  split
  · rename_i resized
    refine Or.inl ⟨rfl, fun claim member => ?_⟩
    simpa [Quantity.equal] using List.all_eq_true.mp resized claim member
  · exact Or.inr rfl

theorem waitTillStatefulSetAndAllPodsAreReady_case
    (current : doesStatefulSetHaveNewCapacity platform spec sts = true) :
    let step := waitTillStatefulSetAndAllPodsAreReady platform now spec (some sts) rack answers
    (step = { rack := finalizeUpsizeAction now rack, result := .pass } ∧
        isStatefulSetReady sts = true ∧
        ∃ pods, answers.pods = .ok pods ∧ (pods.length : Int) = sts.spec.replicas ∧
          ∀ pod ∈ pods, pod.isReady = true) ∨
      ∃ result, result ≠ .pass ∧ step = { rack := rack, result := result } := by
  unfold waitTillStatefulSetAndAllPodsAreReady
  dsimp only
  rw [if_neg (by simp [current])]
  split
  · rename_i ready
    split
    · exact Or.inr ⟨.error, by simp, rfl⟩
    · rename_i pods listed
      split
      · exact Or.inr ⟨.error, by simp, rfl⟩
      · rename_i complete
        split
        · rename_i allReady
          exact Or.inl ⟨rfl, ready, pods, listed, not_not.mp complete,
            List.all_eq_true.mp allReady⟩
        · exact Or.inr ⟨.breakLoop, by simp, rfl⟩
  · exact Or.inr ⟨.breakLoop, by simp, rfl⟩

theorem reconcileUpsizeSteps_missing
    (kept : rack.statefulSetSnapshotBeforeStorageResize = some snapshot) :
    reconcileUpsizeSteps platform now spec names none rack answers =
      recreateStatefulSetWithNewCapacity names.dcRackName none rack
        (spec.requestedCapacity platform names.dcName) answers := by
  have snapshots : makeOldStatefulSetSnapshot none rack = { rack := rack, result := .pass } := by
    simp [makeOldStatefulSetSnapshot, kept]
  have removes : removeStatefulSetOrphan platform spec names.dcRackName none rack answers =
      { rack := rack, result := .pass } := rfl
  unfold reconcileUpsizeSteps
  dsimp only
  rw [UpsizeStep.andThen_pass snapshots, UpsizeStep.andThen_pass removes]
  apply UpsizeStep.andThen_end
  unfold recreateStatefulSetWithNewCapacity
  simp only [kept]
  split
  · simp
  · simp
  · dsimp only
    split <;> simp

theorem reconcileUpsizeSteps_alive
    (kept : rack.statefulSetSnapshotBeforeStorageResize = some snapshot) :
    UpsizeCase platform now spec names (some sts) rack answers
      (reconcileUpsizeSteps platform now spec names (some sts) rack answers) := by
  have snapshots : makeOldStatefulSetSnapshot (some sts) rack =
      { rack := rack, result := .pass } := by
    simp [makeOldStatefulSetSnapshot, kept]
  unfold reconcileUpsizeSteps
  dsimp only
  rw [UpsizeStep.andThen_pass snapshots]
  cases current : doesStatefulSetHaveNewCapacity platform spec sts with
  | false =>
    have removes : removeStatefulSetOrphan platform spec names.dcRackName (some sts) rack
        answers =
        { rack := rack
          effects := [.orphanStatefulSet names.dcRackName (Except.succeeded answers.delete)]
          result := if Except.succeeded answers.delete then .breakLoop else .error } := by
      simp [removeStatefulSetOrphan, current]
    rw [removes, UpsizeStep.andThen_end]
    · exact .orphaned sts snapshot rfl kept current
    · dsimp only
      split <;> simp
  | true =>
    have removes : removeStatefulSetOrphan platform spec names.dcRackName (some sts) rack
        answers = { rack := rack, result := .pass } := by
      simp [removeStatefulSetOrphan, current]
    have recreates : recreateStatefulSetWithNewCapacity names.dcRackName (some sts) rack
        (spec.requestedCapacity platform names.dcName) answers =
        { rack := rack, result := .pass } := rfl
    rw [UpsizeStep.andThen_pass removes, UpsizeStep.andThen_pass recreates]
    split
    · exact .waiting sts snapshot [] .error rfl kept current (by simp) (by simp)
    · rename_i claims fetched
      obtain ⟨listed, answer, rfl, complete⟩ := getAllDataPvcs_listed fetched
      rcases ensureAllPVCsHaveNewCapacity_case (spec.requestedCapacity platform names.dcName)
        (dataClaims sts listed) rack with ⟨passes, asked⟩ | ⟨same, ends, resizes⟩
      · rw [UpsizeStep.andThen_pass passes]
        rcases waitTillAllFilesystemsHaveNewCapacity_case
          (spec.requestedCapacity platform names.dcName) (dataClaims sts listed) rack with
          ⟨passes, resized⟩ | ends
        · rw [UpsizeStep.andThen_pass passes]
          rcases waitTillStatefulSetAndAllPodsAreReady_case current with
            ⟨final, ready, pods⟩ | ⟨result, waits, final⟩
          · rw [final]
            exact .finalized sts snapshot rfl kept current
              ⟨⟨listed, answer, complete, fun claim member =>
                ⟨asked claim member, resized claim member⟩⟩, ready, pods⟩
          · rw [final]
            exact .waiting sts snapshot [] result rfl kept current (by simp) waits
        · rw [ends, UpsizeStep.andThen_end (by simp)]
          exact .waiting sts snapshot [] .breakLoop rfl kept current (by simp) (by simp)
      · rw [UpsizeStep.andThen_end ends, UpsizeStep.andThen_end ends]
        generalize ensureAllPVCsHaveNewCapacity _ _ rack answers = step at same ends resizes
        obtain ⟨_, effects, result⟩ := step
        cases same
        exact .waiting sts snapshot effects result rfl kept current resizes ends

theorem reconcileUpsizeSteps_case (living : Option StatefulSet) :
    UpsizeCase platform now spec names living rack answers
      (reconcileUpsizeSteps platform now spec names living rack answers) := by
  cases kept : rack.statefulSetSnapshotBeforeStorageResize with
  | none =>
    have snapshots : (makeOldStatefulSetSnapshot living rack).result ≠ .pass := by
      cases living <;> simp [makeOldStatefulSetSnapshot, kept]
    unfold reconcileUpsizeSteps
    dsimp only
    rw [UpsizeStep.andThen_end snapshots, UpsizeStep.andThen_end snapshots]
    unfold makeOldStatefulSetSnapshot
    rw [kept]
    cases living with
    | none => exact .lost rfl kept
    | some sts => exact .saved sts rfl kept
  | some snapshot =>
    cases living with
    | none =>
      rw [reconcileUpsizeSteps_missing kept]
      unfold recreateStatefulSetWithNewCapacity
      simp only [kept]
      split
      · rename_i faults
        exact .unbuildable snapshot .fault rfl kept (by simp [faults]) (Or.inr rfl)
      · rename_i unclaimed
        exact .unbuildable snapshot .error rfl kept (by simp [unclaimed]) (Or.inl rfl)
      · rename_i sts built
        exact .recreated snapshot sts rfl kept built
    | some sts => exact reconcileUpsizeSteps_alive kept

end Steps

end Casskop
