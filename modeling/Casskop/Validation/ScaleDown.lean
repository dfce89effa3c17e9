import Casskop.Api.Topology

/-!
# Scaling a DC down to zero

`CheckNonAllowedScaleDown` asks one node of the DC that is emptied whether
keyspaces are still replicated there.  It looks at the first DC whose count is
exactly 0, at the first rack of that DC and at its first live pod.
-/

namespace Casskop

/-- What the cluster answers: the pods of a rack, and the keyspaces with data in a
DC according to one pod. -/
structure ScaleDownAnswers where
  pods : String → String → Except ApiError (List Pod)
  nonLocalKeyspacesInDC : Pod → String → Except ApiError (List String)

structure ScaleDownCheck where
  refused : Bool
  topology : Topology
  /-- The DC a keyspace query was made for, with its answer. -/
  query : Option (String × Except ApiError (List String)) := none

def Pod.isLive (pod : Pod) : Bool := pod.phase == .running && !pod.deletionTimestamp

/-- The first DC with count 0 and the first rack of it. -/
def emptiedRack (spec : CassandraClusterSpec) : Option (String × String) :=
  spec.findDCWithNodesTo0.map fun found => (found.1, spec.getRackName found.2 0)

def checkNonAllowedScaleDown (spec oldSpec : CassandraClusterSpec)
    (answers : ScaleDownAnswers) : ScaleDownCheck :=
  let accept : ScaleDownCheck := { refused := false, topology := spec.topology }
  let refuse : ScaleDownCheck := { refused := true, topology := oldSpec.topology }
  match emptiedRack spec with
  | none => accept
  | some (dcName, rackName) =>
    match answers.pods dcName rackName with
    | .error _ => refuse
    | .ok pods =>
      match pods.find? Pod.isLive with
      | none => accept
      | some pod =>
        let answer := answers.nonLocalKeyspacesInDC pod dcName
        match answer with
        | .ok [] => { accept with query := some (dcName, answer) }
        | _ => { refuse with query := some (dcName, answer) }

section Guard

variable (spec oldSpec : CassandraClusterSpec) (answers : ScaleDownAnswers)

/-- The DC is left without nodes while one of its racks has a running pod. -/
def EmptiesRunningDC (dc : DC) : Prop :=
  dc.nodesPerRacks.getD spec.nodesPerRacks ≤ 0 ∧
    ∃ rack ∈ dc.rack, ∃ pods, answers.pods dc.name rack.name = .ok pods ∧
      ∃ pod ∈ pods, pod.phase = .running

/-- Every such DC was asked about and has no keyspace, or the old topology is
back. -/
def ScaleDownGuarded : Prop :=
  let check := checkNonAllowedScaleDown spec oldSpec answers
  ∀ dc ∈ spec.topology.dc, EmptiesRunningDC spec answers dc →
    (check.refused = false → check.query = some (dc.name, .ok [])) ∧
      (check.refused = true → check.topology = oldSpec.topology)

/-- The emptied DC the operator looks at cannot be listed, or its first live pod
does not confirm that no keyspace is left. -/
def ScaleDownStopped : Prop :=
  ∃ dcName rackName, emptiedRack spec = some (dcName, rackName) ∧
    ((∃ error, answers.pods dcName rackName = .error error) ∨
      ∃ pods pod, answers.pods dcName rackName = .ok pods ∧
        pods.find? Pod.isLive = some pod ∧
          answers.nonLocalKeyspacesInDC pod dcName ≠ .ok [])

/-- Every DC that is emptied while it runs has the name of the one the operator
looks at, and the first rack of that one has a live pod. -/
def OneEmptiedDC : Prop :=
  ∀ dc ∈ spec.topology.dc, EmptiesRunningDC spec answers dc →
    ∃ rackName pods pod, emptiedRack spec = some (dc.name, rackName) ∧
      answers.pods dc.name rackName = .ok pods ∧ pods.find? Pod.isLive = some pod

theorem checkNonAllowedScaleDown_refused_iff :
    (checkNonAllowedScaleDown spec oldSpec answers).refused = true ↔
      ScaleDownStopped spec answers := by
  constructor
  · intro refused
    cases emptied : emptiedRack spec with
    | none => simp [checkNonAllowedScaleDown, emptied] at refused
    | some names =>
      obtain ⟨dcName, rackName⟩ := names
      refine ⟨dcName, rackName, emptied, ?_⟩
      cases listed : answers.pods dcName rackName with
      | error error => exact Or.inl ⟨error, rfl⟩
      | ok pods =>
        cases live : pods.find? Pod.isLive with
        | none => simp [checkNonAllowedScaleDown, emptied, listed, live] at refused
        | some pod =>
          refine Or.inr ⟨pods, pod, rfl, live, fun noKeyspace => ?_⟩
          simp [checkNonAllowedScaleDown, emptied, listed, live, noKeyspace]
            at refused
  · rintro ⟨dcName, rackName, emptied, stopped⟩
    rcases stopped with ⟨error, listed⟩ | ⟨pods, pod, listed, live, keyspaces⟩
    · simp [checkNonAllowedScaleDown, emptied, listed]
    · simp only [checkNonAllowedScaleDown, emptied, listed, live]

theorem checkNonAllowedScaleDown_restores
    (refused : (checkNonAllowedScaleDown spec oldSpec answers).refused = true) :
    (checkNonAllowedScaleDown spec oldSpec answers).topology = oldSpec.topology := by
  obtain ⟨dcName, rackName, emptied, stopped⟩ :=
    (checkNonAllowedScaleDown_refused_iff spec oldSpec answers).mp refused
  rcases stopped with ⟨error, listed⟩ | ⟨pods, pod, listed, live, keyspaces⟩
  · simp [checkNonAllowedScaleDown, emptied, listed]
  · simp only [checkNonAllowedScaleDown, emptied, listed, live]

theorem checkNonAllowedScaleDown_keeps
    (accepted : (checkNonAllowedScaleDown spec oldSpec answers).refused = false) :
    (checkNonAllowedScaleDown spec oldSpec answers).topology = spec.topology := by
  unfold checkNonAllowedScaleDown at accepted ⊢
  dsimp only at accepted ⊢
  repeat' split
  all_goals first | rfl | simp_all

theorem checkNonAllowedScaleDown_query_iff (dcName : String) :
    (checkNonAllowedScaleDown spec oldSpec answers).query = some (dcName, .ok []) ↔
      ∃ rackName pods pod, emptiedRack spec = some (dcName, rackName) ∧
        answers.pods dcName rackName = .ok pods ∧ pods.find? Pod.isLive = some pod ∧
          answers.nonLocalKeyspacesInDC pod dcName = .ok [] := by
  constructor
  · intro recorded
    cases emptied : emptiedRack spec with
    | none => simp [checkNonAllowedScaleDown, emptied] at recorded
    | some names =>
      obtain ⟨asked, rackName⟩ := names
      cases listed : answers.pods asked rackName with
      | error error => simp [checkNonAllowedScaleDown, emptied, listed] at recorded
      | ok pods =>
        cases live : pods.find? Pod.isLive with
        | none => simp [checkNonAllowedScaleDown, emptied, listed, live] at recorded
        | some pod =>
          simp only [checkNonAllowedScaleDown, emptied, listed, live] at recorded
          split at recorded
          · rename_i noKeyspace
            simp only [Option.some.injEq, Prod.mk.injEq] at recorded
            obtain ⟨rfl, answer⟩ := recorded
            exact ⟨rackName, pods, pod, rfl, listed, live, answer⟩
          · rename_i keyspaces
            simp only [Option.some.injEq, Prod.mk.injEq] at recorded
            exact absurd recorded.2 keyspaces
  · rintro ⟨rackName, pods, pod, emptied, listed, live, noKeyspace⟩
    simp [checkNonAllowedScaleDown, emptied, listed, live, noKeyspace]

/-- The guard covers every DC exactly when it refuses anyway or the edit empties a
single running DC, the one the operator looks at. -/
theorem checkNonAllowedScaleDown_guarded_iff :
    ScaleDownGuarded spec oldSpec answers ↔
      ScaleDownStopped spec answers ∨ OneEmptiedDC spec answers := by
  constructor
  · intro guarded
    by_cases stopped : ScaleDownStopped spec answers
    · exact Or.inl stopped
    · refine Or.inr fun dc member empties => ?_
      have accepted : (checkNonAllowedScaleDown spec oldSpec answers).refused = false := by
        rw [← Bool.not_eq_true, checkNonAllowedScaleDown_refused_iff]
        exact stopped
      have queried := (guarded dc member empties).1 accepted
      obtain ⟨rackName, pods, pod, emptied, listed, live, _⟩ :=
        (checkNonAllowedScaleDown_query_iff spec oldSpec answers dc.name).mp queried
      exact ⟨rackName, pods, pod, emptied, listed, live⟩
  · intro covered dc member empties
    refine ⟨fun accepted => ?_, checkNonAllowedScaleDown_restores spec oldSpec answers⟩
    have notStopped : ¬ ScaleDownStopped spec answers := by
      rw [← checkNonAllowedScaleDown_refused_iff spec oldSpec answers, accepted]
      simp
    rcases covered with stopped | single
    · exact absurd stopped notStopped
    · obtain ⟨rackName, pods, pod, emptied, listed, live⟩ := single dc member empties
      refine (checkNonAllowedScaleDown_query_iff spec oldSpec answers dc.name).mpr
        ⟨rackName, pods, pod, emptied, listed, live, ?_⟩
      by_contra keyspaces
      exact notStopped ⟨dc.name, rackName, emptied,
        Or.inr ⟨pods, pod, listed, live, keyspaces⟩⟩

end Guard

/-! ## Two DCs emptied at once -/

def twoEmptiedNew : CassandraClusterSpec :=
  { nodesPerRacks := 1
    topology :=
      { dc := [{ name := "dc1", rack := [{ name := "rack1" }] },
          { name := "dc2", rack := [{ name := "rack1" }], nodesPerRacks := some 0 },
          { name := "dc3", rack := [{ name := "rack1" }], nodesPerRacks := some 0 }] } }

def twoEmptiedOld : CassandraClusterSpec :=
  { nodesPerRacks := 1
    topology :=
      { dc := [{ name := "dc1", rack := [{ name := "rack1" }] },
          { name := "dc2", rack := [{ name := "rack1" }] },
          { name := "dc3", rack := [{ name := "rack1" }] }] } }

/-- One running pod in every rack; only `dc3` still holds a keyspace. -/
def twoEmptiedAnswers : ScaleDownAnswers :=
  { pods := fun dcName rackName =>
      .ok [{ name := "demo-" ++ dcName ++ "-" ++ rackName ++ "-0", phase := .running }]
    nonLocalKeyspacesInDC := fun _ dcName =>
      if dcName = "dc3" then .ok ["orders"] else .ok [] }

/-- `dc3` goes to zero with its data because only `dc2` is asked about. -/
theorem checkNonAllowedScaleDown_misses_second_dc :
    (checkNonAllowedScaleDown twoEmptiedNew twoEmptiedOld twoEmptiedAnswers).refused = false ∧
      ¬ ScaleDownGuarded twoEmptiedNew twoEmptiedOld twoEmptiedAnswers := by
  refine ⟨by decide, fun guarded => ?_⟩
  have queried : (checkNonAllowedScaleDown twoEmptiedNew twoEmptiedOld
      twoEmptiedAnswers).query = some ("dc2", .ok []) := rfl
  have missed := (guarded
    { name := "dc3", rack := [{ name := "rack1" }], nodesPerRacks := some 0 }
    (by decide)
    ⟨by decide, { name := "rack1" }, by decide, _, rfl, _, List.mem_singleton_self _, rfl⟩).1
    (by decide)
  rw [queried] at missed
  simp at missed

end Casskop
