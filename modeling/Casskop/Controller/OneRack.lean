import Casskop.Controller.Iteration
import Casskop.Validation.Topology

/-!
# One rack at a time within a pass

The loop goes on to the next rack only past a rack that is running and has no
ongoing action, and it ends with the first StatefulSet write.
-/

namespace Casskop

/-- The dc-rack name at a position of the topology. -/
def CassandraClusterSpec.rackNameAt (spec : CassandraClusterSpec)
    (position : Nat × Nat) : String :=
  (spec.completeRackName position.1 position.2).dcRackName

theorem CassandraClusterSpec.rackNameAt_of_settled {spec spec' : CassandraClusterSpec}
    (same : spec'.settled = spec.settled) : spec'.rackNameAt = spec.rackNameAt := by
  funext position
  rw [rackNameAt, rackNameAt, ← completeRackName_settled spec', same,
    completeRackName_settled spec]

/-- The rack runs and its last action is not ongoing. -/
def SettledIn (racks : GoMap CassandraRackStatus) (dcRackName : String) : Prop :=
  ∃ rack, racks.lookup dcRackName = some rack ∧ rack.phase = .running ∧
    rack.cassandraLastAction.status ≠ .ongoing

def Pass.RackSettled (pass : Pass) (dcRackName : String) : Prop :=
  SettledIn pass.status.cassandraRackStatus dcRackName

namespace Frame

variable {dcRackName name : String} {written : List Effect} {before after : Pass}

variable (frame : Frame dcRackName written before after)

include frame

theorem rackSettled (different : name ≠ dcRackName)
    (settled : before.RackSettled name) : after.RackSettled name := by
  obtain ⟨rack, found, idle⟩ := settled
  exact ⟨rack, (frame.others name different).trans found, idle⟩

theorem rackNameAt : after.cc.spec.rackNameAt = before.cc.spec.rackNameAt :=
  CassandraClusterSpec.rackNameAt_of_settled frame.spec

theorem deletesPVCs : deletesPVCs after.cc = deletesPVCs before.cc := by
  have kept := congrArg CassandraClusterSpec.deletePVC frame.spec
  change after.cc.spec.deletePVC = before.cc.spec.deletePVC at kept
  simp only [Casskop.deletesPVCs, frame.metadata, kept]

end Frame

section Loop

variable (platform : Platform) (answers : Nat × Nat → RackAnswers)

theorem reconcileRackAt_alive (position : Nat × Nat) {pass : Pass}
    (alive : deletesPVCs pass.cc = false) :
    let step := reconcileRackAt platform (answers position) position.1 position.2 pass
    ∃ written, Frame (pass.cc.spec.rackNameAt position) written pass step.pass ∧
      written.length ≤ 1 ∧
      (∀ effect ∈ written, effect.writtenRack = some (pass.cc.spec.rackNameAt position)) ∧
      (step.flow = .nextRack → written = [] ∧
        (pass.rackStatus (pass.cc.spec.rackNameAt position) ≠ none →
          step.pass.RackSettled (pass.cc.spec.rackNameAt position))) := by
  have start := Frame.refl (pass.cc.spec.rackNameAt position) pass
  have iteration := reconcileRackAt_case platform (answers position) position.1 position.2
    pass
  generalize reconcileRackAt platform (answers position) position.1 position.2 pass = step
    at iteration
  cases iteration with
  | nameless empty => exact ⟨[], start, by simp, by simp, fun next => by simp at next⟩
  | added absent =>
    exact ⟨[], start.setRackStatus initialRackStatus, by simp, by simp,
      fun _ => ⟨rfl, fun present => absurd absent present⟩⟩
  | deleting deletes => simp [deletes] at alive
  | handled rackStatus written step found _ handled _ =>
    refine ⟨written, handled.iteration.frame, handled.iteration.single,
      handled.iteration.writtenRack, fun next => ⟨?_, fun _ => handled.settled next⟩⟩
    by_contra nonempty
    exact handled.stops nonempty next

/-- The iteration at `position`, reached after the positions `before`, is the one
that issues `effect`. -/
def IssuesAt (before : List (Nat × Nat)) (position : Nat × Nat) (start : Pass)
    (newStatus : Bool) (effect : Effect) : Prop :=
  let reached := (reconcileRacks platform answers before start newStatus).pass
  reached.writes = start.writes ∧
    (reconcileRackAt platform (answers position) position.1 position.2 reached).pass.writes =
      start.writes ++ [effect]

/-- The loop went through `before` and wrote at the next position, and it leaves
the racks of `passed` and those it went through settled. -/
def WroteAt (positions : List (Nat × Nat)) (start : Pass) (newStatus : Bool) (final : Pass)
    (passed : String → Prop) (effect : Effect) : Prop :=
  ∃ before position after, positions = before ++ position :: after ∧
    effect.writtenRack = some (start.cc.spec.rackNameAt position) ∧
    IssuesAt platform answers before position start newStatus effect ∧
    ∀ name, name ≠ start.cc.spec.rackNameAt position →
      (passed name ∨ name ∈ before.map start.cc.spec.rackNameAt ∧
        start.rackStatus name ≠ none) →
      final.RackSettled name

/-- The loop on a cluster that is not being deleted.  `passed` are racks already
known to be settled; an iteration that goes on adds its own rack to them. -/
theorem reconcileRacks_writes (positions : List (Nat × Nat)) :
    ∀ (pass : Pass) (newStatus : Bool) (passed : String → Prop),
      deletesPVCs pass.cc = false → (∀ name, passed name → pass.RackSettled name) →
      let run := reconcileRacks platform answers positions pass newStatus
      ∃ written, run.pass.writes = pass.writes ++ written ∧ written.length ≤ 1 ∧
        ∀ effect ∈ written,
          WroteAt platform answers positions pass newStatus run.pass passed effect := by
  induction positions with
  | nil =>
    intro pass newStatus passed _ _
    exact ⟨[], by simp [reconcileRacks], by simp, by simp⟩
  | cons position rest induction =>
    intro pass newStatus passed alive settled
    obtain ⟨written, frame, single, rackOf, goesOn⟩ :=
      reconcileRackAt_alive platform answers position alive
    unfold reconcileRacks
    dsimp only
    split
    · rename_i next
      obtain ⟨quiet, visited⟩ := goesOn next
      have settledAfter : ∀ name, (passed name ∨
          name = pass.cc.spec.rackNameAt position ∧ pass.rackStatus name ≠ none) →
          (reconcileRackAt platform (answers position) position.1 position.2
            pass).pass.RackSettled name := by
        intro name known
        by_cases same : name = pass.cc.spec.rackNameAt position
        · subst same
          apply visited
          rcases known with before | ⟨_, present⟩
          · obtain ⟨rack, found, _⟩ := settled _ before
            simp [Pass.rackStatus, found]
          · exact present
        · rcases known with before | ⟨equal, _⟩
          · exact frame.rackSettled same (settled name before)
          · exact absurd equal same
      obtain ⟨later, writes, atMost, wroteAt⟩ := induction _ _ _
        (frame.deletesPVCs.trans alive) settledAfter
      have unwritten := frame.writes
      rw [quiet, List.append_nil] at unwritten
      refine ⟨later, writes.trans (by rw [unwritten]), atMost, fun effect member => ?_⟩
      obtain ⟨before, here, after, split, rack, issued, earlier⟩ := wroteAt effect member
      rw [frame.rackNameAt] at rack earlier
      refine ⟨position :: before, here, after, by simp [split], rack, ?_, ?_⟩
      · simpa only [IssuesAt, reconcileRacks, next, unwritten] using issued
      · intro name different known
        apply earlier name different
        rcases known with old | ⟨listed, present⟩
        · exact Or.inl (Or.inl old)
        · by_cases same : name = pass.cc.spec.rackNameAt position
          · exact Or.inl (Or.inr ⟨same, present⟩)
          · refine Or.inr ⟨?_, ?_⟩
            · rcases List.mem_cons.mp (List.map_cons ▸ listed) with equal | inRest
              · exact absurd equal same
              · exact inRest
            · rw [frame.others name same]
              exact present
    · refine ⟨written, frame.writes, single, fun effect member => ?_⟩
      have only : written = [effect] := by
        cases written with
        | nil => cases member
        | cons first others =>
          cases others with
          | nil => rw [List.mem_singleton.mp member]
          | cons second others => simp at single
      refine ⟨[], position, rest, rfl, rackOf effect member, ?_, ?_⟩
      · exact ⟨rfl, by rw [← only]; exact frame.writes⟩
      · intro name different known
        rcases known with old | ⟨listed, _⟩
        · exact frame.rackSettled different (settled name old)
        · simp at listed

/-- A cluster that is being deleted has its claims removed and no StatefulSet
written. -/
theorem reconcileRacks_deleting (positions : List (Nat × Nat)) (pass : Pass) (newStatus : Bool)
    (deletes : deletesPVCs pass.cc = true) :
    (reconcileRacks platform answers positions pass newStatus).pass.writes = pass.writes := by
  have kept := @reconcileRacks_invariant
    (fun after => deletesPVCs after.cc = true ∧ after.writes = pass.writes) platform answers
    positions ?_ pass newStatus ⟨deletes, rfl⟩
  · exact kept.2
  rintro position - before step ⟨deletes, unwritten⟩ iteration
  have start := Frame.refl (before.cc.spec.rackNameAt position) before
  have quiet : Frame (before.cc.spec.rackNameAt position) [] before step.pass := by
    cases iteration with
    | nameless empty => exact start
    | added absent => exact start.setRackStatus initialRackStatus
    | deleting _ =>
      refine start.emitQuiet fun effect member => ?_
      obtain ⟨_, rfl⟩ := deletePVCs_quiet _ _ member
      rfl
    | handled _ _ _ _ alive _ _ => simp [deletes] at alive
  exact ⟨quiet.deletesPVCs.trans deletes, quiet.writes.trans (by simpa using unwritten)⟩

/-- One run of `ReconcileRack` issues at most one StatefulSet write.  The racks the
loop went through before, other than the written one, are left running and without
ongoing action. -/
theorem reconcileRack_single_write (removeFinalizers : Except ApiError Nat) (pass : Pass) :
    let run := reconcileRack platform answers removeFinalizers pass
    ∃ written, run.pass.writes = pass.writes ++ written ∧ written.length ≤ 1 ∧
      ∀ effect ∈ written, ∃ before position after,
        pass.cc.spec.rackPositions = before ++ position :: after ∧
        effect.writtenRack = some (pass.cc.spec.rackNameAt position) ∧
        IssuesAt platform answers before position pass false effect ∧
        ∀ earlier ∈ before,
          pass.cc.spec.rackNameAt earlier ≠ pass.cc.spec.rackNameAt position →
          pass.rackStatus (pass.cc.spec.rackNameAt earlier) ≠ none →
          run.pass.RackSettled (pass.cc.spec.rackNameAt earlier) := by
  have ends : (reconcileRack platform answers removeFinalizers pass).pass.writes =
        (reconcileRacks platform answers pass.cc.spec.rackPositions pass false).pass.writes ∧
      ∀ name, (reconcileRack platform answers removeFinalizers pass).pass.rackStatus name =
        (reconcileRacks platform answers pass.cc.spec.rackPositions pass
          false).pass.rackStatus name := by
    unfold reconcileRack
    dsimp only
    split
    · split
      · exact ⟨rfl, fun _ => rfl⟩
      · split
        · exact ⟨by simp [Pass.writes, Effect.writtenRack], fun _ => rfl⟩
        · exact ⟨rfl, fun _ => rfl⟩
    · exact ⟨rfl, fun _ => rfl⟩
  cases alive : deletesPVCs pass.cc with
  | true =>
    have quiet := reconcileRacks_deleting platform answers pass.cc.spec.rackPositions pass
      false alive
    exact ⟨[], by rw [ends.1, quiet, List.append_nil], by simp, by simp⟩
  | false =>
    obtain ⟨written, writes, single, wroteAt⟩ := reconcileRacks_writes platform answers
      pass.cc.spec.rackPositions pass false (fun _ => False) alive (by simp)
    refine ⟨written, ends.1.trans writes, single, fun effect member => ?_⟩
    obtain ⟨before, position, after, split, rack, issued, settled⟩ := wroteAt effect member
    refine ⟨before, position, after, split, rack, issued, ?_⟩
    intro earlier listed different present
    obtain ⟨status, found, idle⟩ := settled _ different
      (Or.inr ⟨List.mem_map_of_mem listed, present⟩)
    exact ⟨status, (ends.2 _).trans found, idle⟩

end Loop

/-! ## A rack declared twice -/

/-- A platform whose generated template depends on the image and the resources. -/
def demoPlatform : Platform :=
  { parseQuantity := fun _ => .zero
    patchIsEmpty := fun stored sts => decide (stored = sts)
    generate := fun cc _ _ =>
      some
        ({ initContainers := [{ name := "bootstrap" }]
           containers :=
             some [{ name := "cassandra", image := cc.spec.cassandraImage,
                     resources := cc.spec.resources }] },
          [])
    podName := "casskop-0" }

def demoStatefulSet (dcRackName image : String) (replicas : Int) : StatefulSet :=
  { name := "demo-" ++ dcRackName
    spec :=
      { replicas := replicas
        template :=
          { initContainers := [{ name := "bootstrap" }]
            containers := some [{ name := "cassandra", image := image }] } }
    status := { replicas := replicas, readyReplicas := replicas } }

def readyPod (name : String) : Pod :=
  { name := name
    phase := .running
    containerStatuses := [{ name := "cassandra", ready := true }] }

def writesSucceed : WriteAnswer := { update := .ok 1, statusUpdate := .ok 1 }

/-- Answers on a rack where nothing but its StatefulSet is of interest. -/
def healthyAnswers (now : Nat) (statefulSet : Except ApiError StatefulSet) : RackAnswers :=
  let joining : JoiningAnswers :=
    { podsOfRack := fun _ => .ok [readyPod "demo-dc1-rack1-0"], joiningNodes := .ok false }
  { now := now
    statefulSet := statefulSet
    phasePods := .ok []
    next :=
      { ended := { pods := .ok [], joining := joining, labelled := .ok [] }
        unschedulable := .ok [] }
    handle :=
      { decommission :=
          { podsList := .ok []
            pod := .error .notFound
            operationMode := .error .other
            pvc := .ok ()
            write := writesSucceed }
        joining := joining
        operations :=
          { operation := .cleanup
            channel := []
            toDoPods := .ok []
            pod := fun _ => .error .notFound
            write := writesSucceed
            start := fun _ => (true, writesSucceed) } }
    upsize :=
      { delete := .ok ()
        create := .ok ()
        claims := .ok []
        updateClaim := fun _ => .ok ()
        pods := .ok [] }
    ensure := { stored := statefulSet, create := .ok (), update := .ok () }
    claims := .ok [] }

def idleRack : CassandraRackStatus :=
  { phase := .running, cassandraLastAction := { name := .initializing, status := .done } }

/-- `dc1` lists `rack1` twice, and the image has been changed. -/
def twinRacksPass : Pass :=
  { cc :=
      { metadata := { name := "demo", ns := "default" }
        spec :=
          { nodesPerRacks := 1
            cassandraImage := "cassandra:4"
            topology := { dc := [{ name := "dc1", rack := [{ name := "rack1" },
              { name := "rack1" }] }] } } }
    status :=
      { lastClusterActionStatus := .done
        cassandraRackStatus := GoMap.ofList [("dc1-rack1", idleRack)] }
    storedPdb := { name := "demo", ns := "default", disruptionsAllowed := 1, expectedPods := 1 } }

/-- The StatefulSet cannot be read at the first position, and can at the second. -/
def twinRacksAnswers (position : Nat × Nat) : RackAnswers :=
  if position = (0, 0) then healthyAnswers 100 (.error .other)
  else healthyAnswers 100 (.ok (demoStatefulSet "dc1-rack1" "cassandra:3" 1))

/-- A write for the second position leaves the rack of the first one ongoing: it
is the same rack. -/
theorem reconcileRack_twin_racks :
    let run := reconcileRack demoPlatform twinRacksAnswers (.ok 1) twinRacksPass
    twinRacksPass.cc.spec.rackPositions = [(0, 0), (0, 1)] ∧
      (reconcileRacks demoPlatform twinRacksAnswers [(0, 0)] twinRacksPass
        false).pass.writes = [] ∧
      run.pass.writes.length = 1 ∧
      (twinRacksPass.rackStatus (twinRacksPass.cc.spec.rackNameAt (0, 0))).isSome = true ∧
      ¬ run.pass.RackSettled (twinRacksPass.cc.spec.rackNameAt (0, 0)) := by
  have ongoing : ((reconcileRack demoPlatform twinRacksAnswers (.ok 1)
      twinRacksPass).pass.rackStatus (twinRacksPass.cc.spec.rackNameAt (0, 0))).map
        (fun rack => rack.cassandraLastAction.status) = some .ongoing := by decide
  refine ⟨by decide, by decide, by decide, by decide, ?_⟩
  intro settled
  obtain ⟨rack, found, _, idle⟩ := settled
  rw [Pass.rackStatus, found, Option.map_some, Option.some.injEq] at ongoing
  exact idle ongoing

end Casskop
