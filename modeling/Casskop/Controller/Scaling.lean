import Casskop.Controller.Updates
import Mathlib.Algebra.Order.Group.Abs
import Mathlib.Algebra.Order.Group.Int

/-!
# One node at a time

An update of `CreateOrUpdateStatefulSet` moves the number of replicas by one towards the
number of nodes wanted, as long as the difference of the two is an `int32`.
-/

namespace Casskop

/-! ## What an update writes -/

theorem append_singleton_ne {effects : List Effect} {effect : Effect} :
    effects ≠ effects ++ [effect] := by
  intro same
  have lengths := congrArg List.length same
  simp at lengths

/-- The StatefulSet with the seeds it is written with. -/
def seedsToWrite (rack : CassandraRackStatus) (stored sts : StatefulSet) : Option StatefulSet :=
  if updatesSeedList rack then some sts else keepStoredSeeds stored sts

/-- How an update comes from the StatefulSet `sts`. -/
inductive UpdateMade (now : Nat) (rack : CassandraRackStatus) (stored sts : StatefulSet) :
    StatefulSet → Prop where
  | mk (kept reverted : StatefulSet) (rack' : CassandraRackStatus)
      (keeps : seedsToWrite rack stored (withStored stored sts) = some kept)
      (reverts : revertAnyStorageUpsize rack' stored
        (withReplicas kept (stepReplicas stored.spec.replicas kept.spec.replicas)) =
          some reverted) :
      UpdateMade now rack stored sts (startRestart now rack' reverted).2

section Update

variable {platform : Platform} {now : Nat} {pass : Pass} {dcRackName : String}
  {rack : CassandraRackStatus} {sts stored written : StatefulSet} {answers : StatefulSetAnswers}
  {succeeded : Bool}

theorem writeStatefulSet_made {stored' : StatefulSet}
    (writes : (writeStatefulSet platform now pass dcRackName rack stored' sts
        answers).pass.effects =
      pass.effects ++ [.updateStatefulSet dcRackName stored written succeeded]) :
    stored' = stored ∧ ∃ reverted,
      revertAnyStorageUpsize rack stored'
        (withReplicas sts (stepReplicas stored'.spec.replicas sts.spec.replicas)) =
          some reverted ∧
      (startRestart now rack reverted).2 = written := by
  unfold writeStatefulSet at writes
  dsimp only at writes
  split at writes
  · exact absurd writes append_singleton_ne
  rename_i reverted reverts
  split at writes
  · exact absurd writes append_singleton_ne
  · have same := List.append_cancel_left writes
    simp only [List.cons.injEq, Effect.updateStatefulSet.injEq, and_true, true_and] at same
    exact ⟨same.1, reverted, reverts, same.2.1⟩

theorem createOrUpdateStatefulSet_made
    (writes : (createOrUpdateStatefulSet platform now pass dcRackName rack sts
        answers).pass.effects =
      pass.effects ++ [.updateStatefulSet dcRackName stored written succeeded]) :
    UpdateMade now rack stored sts written := by
  unfold createOrUpdateStatefulSet at writes
  split at writes
  · exact absurd writes append_singleton_ne
  split at writes
  · have same := List.append_cancel_left writes
    simp at same
  · exact absurd writes append_singleton_ne
  dsimp only at writes
  split at writes
  · rename_i asked
    obtain ⟨rfl, reverted, reverts, rfl⟩ := writeStatefulSet_made writes
    exact .mk _ reverted _ (if_pos asked) reverts
  · rename_i unasked
    split at writes
    · exact absurd writes append_singleton_ne
    rename_i kept keeps
    obtain ⟨rfl, reverted, reverts, rfl⟩ := writeStatefulSet_made writes
    exact .mk kept reverted _ ((if_neg unasked).trans keeps) reverts

theorem UpdateMade.replicas (made : UpdateMade now rack stored sts written) :
    written.spec.replicas = stepReplicas stored.spec.replicas sts.spec.replicas := by
  obtain ⟨kept, reverted, rack', keeps, reverts⟩ := made
  have same : kept.spec.replicas = sts.spec.replicas := by
    unfold seedsToWrite at keeps
    split at keeps
    · cases keeps
      rfl
    · have kept := keepStoredSeeds_replicas keeps
      exact kept
  rw [startRestart_replicas, revertAnyStorageUpsize_replicas reverts, ← same]
  rfl

end Update

/-! ## Steps -/

theorem int32_eq {value : Int} (low : -2 ^ 31 ≤ value) (high : value < 2 ^ 31) :
    int32 value = value := by
  apply Int.bmod_eq_of_le_mul_two
  · omega
  · omega

theorem stepReplicas_eq_sign {stored wanted : Int}
    (storedRange : -2 ^ 31 ≤ stored ∧ stored < 2 ^ 31) (range : -2 ^ 31 ≤ wanted ∧ wanted < 2 ^ 31)
    (near : -2 ^ 31 ≤ wanted - stored ∧ wanted - stored < 2 ^ 31) :
    stepReplicas stored wanted = stored + (wanted - stored).sign := by
  unfold stepReplicas
  rw [int32_eq near.1 near.2]
  dsimp only
  rcases lt_trichotomy stored wanted with up | same | down
  · rw [Int.sign_eq_one_of_pos (by omega)]
    split
    · exact int32_eq (by omega) (by omega)
    · split <;> omega
  · simp [same]
  · rw [Int.sign_eq_neg_one_of_neg (by omega), if_neg (by omega)]
    split
    · exact int32_eq (by omega) (by omega)
    · omega

/-- When the difference is out of range, the step goes the other way or jumps. -/
theorem stepReplicas_wraps {stored wanted : Int} (storedHigh : stored < 2 ^ 31)
    (low : -2 ^ 31 ≤ wanted) (far : wanted - stored < -2 ^ 31) :
    stored < stepReplicas stored wanted ∨ stepReplicas stored wanted < stored - 1 := by
  have wrapped : int32 (wanted - stored) = wanted - stored + 2 ^ 32 := by
    have same : int32 (wanted - stored + 2 ^ 32) = wanted - stored + 2 ^ 32 :=
      int32_eq (by omega) (by omega)
    rw [← same]
    exact (Int.add_bmod_right _ _).symm
  unfold stepReplicas
  rw [wrapped]
  dsimp only
  split
  · by_cases top : stored + 1 < 2 ^ 31
    · left
      rw [int32_eq (by omega) top]
      omega
    · right
      obtain rfl : stored = 2 ^ 31 - 1 := by omega
      decide
  · right
    split <;> omega

/-! ## Writes -/

/-- `CreateOrUpdateStatefulSet`, called for `target` replicas, replaces `stored` replicas by
`written`. -/
def WritesReplicas (platform : Platform) (target stored written : Int) : Prop :=
  ∃ now pass dcRackName rack sts answers old made succeeded,
    sts.spec.replicas = target ∧ old.spec.replicas = stored ∧ made.spec.replicas = written ∧
      (createOrUpdateStatefulSet platform now pass dcRackName rack sts answers).pass.effects =
        pass.effects ++ [.updateStatefulSet dcRackName old made succeeded]

/-- A pass that writes without comparing. -/
def uncheckedPass : Pass :=
  { cc :=
      { metadata := { name := "cassandra", ns := "default" }
        spec := { noCheckStsAreEqual := true } }
    status := {}
    storedPdb := { name := "cassandra", ns := "default" } }

/-- Every count gets a write, and only the one that the step computes. -/
theorem writesReplicas_iff (platform : Platform) (target stored written : Int) :
    WritesReplicas platform target stored written ↔ written = stepReplicas stored target := by
  constructor
  · rintro ⟨now, pass, dcRackName, rack, sts, answers, old, made, succeeded, rfl, rfl, rfl, writes⟩
    exact (createOrUpdateStatefulSet_made writes).replicas
  · rintro rfl
    -- A rack whose seed list is updated needs no bootstrap container.
    let rack : CassandraRackStatus :=
      { cassandraLastAction := { name := .updateSeedList, status := .toDo } }
    let sts : Int → StatefulSet := fun replicas =>
      { name := "cassandra-dc1-rack1", spec := { replicas := replicas } }
    refine ⟨0, uncheckedPass, "dc1-rack1", rack, sts target, ⟨.ok (sts stored), .ok (), .ok ()⟩,
      sts stored, _, true, rfl, rfl, ?_, rfl⟩
    rfl

/-- So many writes one after the other, each over the replicas the one before has left. -/
inductive WritesTimes (platform : Platform) (target : Int) : Nat → Int → Int → Prop where
  | none (stored : Int) : WritesTimes platform target 0 stored stored
  | more {count : Nat} {stored middle written : Int}
      (first : WritesReplicas platform target stored middle)
      (rest : WritesTimes platform target count middle written) :
      WritesTimes platform target (count + 1) stored written

theorem writesTimes_iff (platform : Platform) (target written : Int) (count : Nat) :
    ∀ stored, WritesTimes platform target count stored written ↔
      written = (fun replicas => stepReplicas replicas target)^[count] stored := by
  induction count with
  | zero =>
    intro stored
    constructor
    · rintro ⟨⟩
      rfl
    · intro same
      have unmoved : written = stored := same
      rw [unmoved]
      exact .none stored
  | succ count induction =>
    intro stored
    constructor
    · rintro (_ | ⟨first, rest⟩)
      rw [writesReplicas_iff] at first
      subst first
      exact (induction _).mp rest
    · intro same
      exact .more ((writesReplicas_iff _ _ _ _).mpr rfl) ((induction _).mpr same)

/-- Each write moves by one, towards the target, until it is reached. -/
structure ScalesByOne (platform : Platform) (target stored : Int) : Prop where
  step : ∀ written, WritesReplicas platform target stored written →
    |written - stored| ≤ 1 ∧ min stored target ≤ written ∧ written ≤ max stored target ∧
      (written = stored → target = stored)
  run : ∀ count, (∃ reached, WritesTimes platform target count stored reached) ∧
    ∀ reached, WritesTimes platform target count stored reached →
      |target - reached| = max (|target - stored| - count) 0

/-- The difference of two counts is one the step gets right. -/
structure Near (target stored : Int) : Prop where
  storedRange : -2 ^ 31 ≤ stored ∧ stored < 2 ^ 31
  targetRange : -2 ^ 31 ≤ target ∧ target < 2 ^ 31
  difference : -2 ^ 31 ≤ target - stored ∧ target - stored < 2 ^ 31

namespace Near

variable {target stored : Int}

theorem step (near : Near target stored) :
    Near target (stepReplicas stored target) ∧
      |target - stepReplicas stored target| = max (|target - stored| - 1) 0 := by
  rw [stepReplicas_eq_sign near.storedRange near.targetRange near.difference]
  obtain ⟨⟨storedLow, storedHigh⟩, ⟨low, high⟩, differenceLow, differenceHigh⟩ := near
  rcases lt_trichotomy stored target with up | rfl | down
  · rw [Int.sign_eq_one_of_pos (by omega)]
    refine ⟨⟨by omega, by omega, by omega⟩, ?_⟩
    rw [abs_of_nonneg (by omega), abs_of_pos (by omega)]
    omega
  · simp only [sub_self, Int.sign_zero, add_zero, abs_zero]
    exact ⟨⟨by omega, by omega, by omega⟩, by omega⟩
  · rw [Int.sign_eq_neg_one_of_neg (by omega)]
    refine ⟨⟨by omega, by omega, by omega⟩, ?_⟩
    rw [abs_of_nonpos (by omega), abs_of_neg (by omega)]
    omega

theorem run (near : Near target stored) (count : Nat) :
    |target - (fun replicas => stepReplicas replicas target)^[count] stored| =
      max (|target - stored| - count) 0 := by
  induction count generalizing stored with
  | zero =>
    have distance := abs_nonneg (target - stored)
    simp [distance]
  | succ count induction =>
    obtain ⟨next, closer⟩ := near.step
    rw [Function.iterate_succ_apply, induction next, closer]
    push_cast
    omega

theorem scalesByOne (near : Near target stored) (platform : Platform) :
    ScalesByOne platform target stored := by
  constructor
  · intro written writes
    rw [writesReplicas_iff] at writes
    rw [writes, stepReplicas_eq_sign near.storedRange near.targetRange near.difference]
    rcases lt_trichotomy stored target with up | rfl | down
    · rw [Int.sign_eq_one_of_pos (by omega)]
      exact ⟨by rw [add_sub_cancel_left]; decide, by omega, by omega, by omega⟩
    · simp
    · rw [Int.sign_eq_neg_one_of_neg (by omega)]
      exact ⟨by rw [add_sub_cancel_left]; decide, by omega, by omega, by omega⟩
  · intro count
    refine ⟨⟨_, (writesTimes_iff platform target _ count stored).mpr rfl⟩, ?_⟩
    intro reached writes
    rw [writesTimes_iff] at writes
    rw [writes]
    exact near.run count

end Near

/-- Scaling goes one by one exactly when the difference of the counts fits an `int32`. -/
theorem scalesByOne_iff (platform : Platform) (target stored : Int32) (count : 0 ≤ stored.toInt) :
    ScalesByOne platform target.toInt stored.toInt ↔ -2 ^ 31 ≤ target.toInt - stored.toInt := by
  have targetLow := target.le_toInt
  have targetHigh := target.toInt_lt
  have storedHigh := stored.toInt_lt
  constructor
  · intro scales
    by_contra far
    have step := scales.step _ ((writesReplicas_iff platform _ _ _).mpr rfl)
    rcases stepReplicas_wraps (by omega) (by omega) (not_le.mp far) with up | jump
    · omega
    · have bound := (abs_le.mp step.1).1
      omega
  · intro difference
    have near : Near target.toInt stored.toInt := ⟨by omega, by omega, by omega⟩
    exact near.scalesByOne platform

/-- A platform whose patches are never empty. -/
def scalingPlatform : Platform :=
  { parseQuantity := fun _ => .zero
    patchIsEmpty := fun _ _ => false
    generate := fun _ _ _ => none
    podName := "" }

theorem scalesByOne_three_from_one :
    ScalesByOne scalingPlatform (3 : Int32).toInt (1 : Int32).toInt ↔
      -2 ^ 31 ≤ (3 : Int32).toInt - (1 : Int32).toInt :=
  scalesByOne_iff scalingPlatform 3 1 (by decide)

/-- From one node to the smallest number the CRD lets through, the write adds a node. -/
theorem scalesByOne_away :
    WritesReplicas scalingPlatform (-2147483648 : Int32).toInt (1 : Int32).toInt 2 ∧
      ¬ ScalesByOne scalingPlatform (-2147483648 : Int32).toInt (1 : Int32).toInt := by
  have away : WritesReplicas scalingPlatform (-2147483648 : Int32).toInt (1 : Int32).toInt 2 :=
    (writesReplicas_iff _ _ _ _).mpr (by decide)
  refine ⟨away, fun scales => ?_⟩
  have between := (scales.step 2 away).2.2.1
  revert between
  decide

end Casskop
