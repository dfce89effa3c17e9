import Casskop.Controller.OneRack
import Casskop.Controller.PassInvariants

/-!
# One rack at a time across a run

Seen from outside, a pass moves at most one rack to an ongoing action, whichever of
the statuses it writes ends up stored.
-/

namespace Casskop

def OngoingIn (racks : RackStatuses) (dcRackName : String) : Prop :=
  ∃ rack, racks.lookup dcRackName = some rack ∧ rack.cassandraLastAction.status = .ongoing

/-- No rack of `start` became ongoing. -/
def NothingStarts (start racks : RackStatuses) : Prop :=
  ∀ name ∈ start, OngoingIn racks name → OngoingIn start name

section Starts

variable (spec : CassandraClusterSpec) (start : RackStatuses)

/-- Only the rack at `position` may have become ongoing, and the racks at the
positions `before` are settled. -/
structure StartsAt (before : List (Nat × Nat)) (position : Nat × Nat)
    (racks : RackStatuses) : Prop where
  others : ∀ name ∈ start, name ≠ spec.rackNameAt position →
    OngoingIn racks name → OngoingIn start name
  earlier : ∀ earlier ∈ before, spec.rackNameAt earlier ≠ spec.rackNameAt position →
    spec.rackNameAt earlier ∈ start → SettledIn racks (spec.rackNameAt earlier)

/-- At most one rack of `start` became ongoing, and then the racks before it in the
topology are settled. -/
def OneStarts (racks : RackStatuses) : Prop :=
  NothingStarts start racks ∨
    ∃ before position after, spec.rackPositions = before ++ position :: after ∧
      StartsAt spec start before position racks

end Starts

/-! ## Changes that start nothing -/

/-- Same phase, and not ongoing unless it was. -/
structure CalmerThan (rack rack' : CassandraRackStatus) : Prop where
  phase : rack'.phase = rack.phase
  ongoing : rack'.cassandraLastAction.status = .ongoing →
    rack.cassandraLastAction.status = .ongoing

/-- The racks of `racks`, each at most as busy as before. -/
def CalmedFrom (racks racks' : RackStatuses) : Prop :=
  ∀ name, racks'.lookup name = racks.lookup name ∨
    ∃ rack rack', racks.lookup name = some rack ∧ racks'.lookup name = some rack' ∧
      CalmerThan rack rack'

variable {racks start : RackStatuses} {name : String} {before : List (Nat × Nat)}
  {position : Nat × Nat}

namespace CalmedFrom

variable {racks' : RackStatuses}

theorem insert {rack rack' : CassandraRackStatus} (found : racks.lookup name = some rack)
    (calmer : CalmerThan rack rack') : CalmedFrom racks (racks.insert name rack') := by
  intro other
  by_cases same : other = name
  · subst same
    exact Or.inr ⟨rack, rack', found, Finmap.lookup_insert racks, calmer⟩
  · exact Or.inl (Finmap.lookup_insert_of_ne racks same)

theorem serialized (racks : RackStatuses) :
    CalmedFrom racks (racks.mapValues CassandraRackStatus.serialized) := by
  intro name
  rw [GoMap.lookup_mapValues]
  cases found : racks.lookup name with
  | none => exact Or.inl rfl
  | some rack => exact Or.inr ⟨rack, rack.serialized, rfl, rfl, rfl, id⟩

variable (calmed : CalmedFrom racks racks')
include calmed

theorem ongoing (busy : OngoingIn racks' name) : OngoingIn racks name := by
  obtain ⟨rack', found', status⟩ := busy
  rcases calmed name with same | ⟨rack, calm, found, found'', calmer⟩
  · exact ⟨rack', same.symm.trans found', status⟩
  · rw [found'', Option.some.injEq] at found'
    subst found'
    exact ⟨rack, found, calmer.ongoing status⟩

theorem settled (idle : SettledIn racks name) : SettledIn racks' name := by
  obtain ⟨rack, found, phase, status⟩ := idle
  rcases calmed name with same | ⟨old, rack', found', present, calmer⟩
  · exact ⟨rack, same.trans found, phase, status⟩
  · rw [found', Option.some.injEq] at found
    subst found
    exact ⟨rack', present, calmer.phase.trans phase, fun busy => status (calmer.ongoing busy)⟩

theorem startsAt {spec : CassandraClusterSpec}
    (starts : StartsAt spec start before position racks) :
    StartsAt spec start before position racks' :=
  ⟨fun name member different busy => starts.others name member different
      (calmed.ongoing busy),
    fun earlier member different present => calmed.settled
      (starts.earlier earlier member different present)⟩

theorem oneStarts {spec : CassandraClusterSpec} (starts : OneStarts spec start racks) :
    OneStarts spec start racks' := by
  rcases starts with nothing | ⟨before, position, after, split, startsAt⟩
  · exact Or.inl fun name member busy => nothing name member (calmed.ongoing busy)
  · exact Or.inr ⟨before, position, after, split, calmed.startsAt startsAt⟩

end CalmedFrom

theorem seedListToDo_calmer (rack : CassandraRackStatus) : CalmerThan rack (seedListToDo rack) := by
  unfold seedListToDo
  split
  · exact ⟨rfl, id⟩
  · exact ⟨rfl, fun busy => by simp at busy⟩

theorem FromFlagged.nothingStarts {flags : Prop} (flagged : FromFlagged flags start racks) :
    NothingStarts start racks := by
  intro name _ busy
  obtain ⟨rack, found, status⟩ := busy
  rcases flagged name rack found with same | ⟨old, now, _, _, rfl⟩
  · exact ⟨rack, same, status⟩
  · simp [flagUpdateResources] at status

/-! ## The loop -/

section Loop

variable (platform : Platform) (answers : Nat × Nat → RackAnswers)
  {spec : CassandraClusterSpec} {start : RackStatuses}

/-- Handling the rack at `position` may start an action there and nowhere else. -/
theorem startsAt_stable {after : List (Nat × Nat)}
    (split : spec.rackPositions = before ++ position :: after) (part : Part) :
    Stable part (spec.rackNameAt position)
      (StartsAt spec start before position) (OneStarts spec start) := by
  have insert : ∀ (racks : RackStatuses) (rack : CassandraRackStatus),
      StartsAt spec start before position racks →
      StartsAt spec start before position (racks.insert (spec.rackNameAt position) rack) := by
    intro racks rack starts
    refine ⟨fun name member different busy => ?_, fun earlier member different present => ?_⟩
    · obtain ⟨found, lookup, status⟩ := busy
      rw [Finmap.lookup_insert_of_ne racks different] at lookup
      exact starts.others name member different ⟨found, lookup, status⟩
    · obtain ⟨found, lookup, idle⟩ := starts.earlier earlier member different present
      exact ⟨found, (Finmap.lookup_insert_of_ne racks different).trans lookup, idle⟩
  refine ⟨fun racks starts _ => insert racks _ starts,
    fun racks rack rack' starts _ _ => insert racks rack' starts,
    fun racks starts => Or.inr ⟨before, position, after, split, starts⟩, ?_⟩
  intro racks name rack op starts found
  have calmer : CalmerThan rack (setOperation rack (updatePodLastOperation op)) := ⟨rfl, id⟩
  exact (CalmedFrom.insert found calmer).oneStarts starts

/-- The working copy between two iterations. -/
structure BetweenRacks (spec : CassandraClusterSpec) (start : RackStatuses)
    (before : List (Nat × Nat)) (racks : RackStatuses) : Prop where
  present : ∀ name ∈ start, name ∈ racks
  calm : NothingStarts start racks
  settled : ∀ earlier ∈ before, spec.rackNameAt earlier ∈ start →
    SettledIn racks (spec.rackNameAt earlier)

theorem BetweenRacks.startsAt (between : BetweenRacks spec start before racks)
    (position : Nat × Nat) : StartsAt spec start before position racks :=
  ⟨fun name member _ busy => between.calm name member busy,
    fun earlier member _ present => between.settled earlier member present⟩

theorem not_ongoingIn_of_settledIn (settled : SettledIn racks name) : ¬ OngoingIn racks name := by
  rintro ⟨rack, found, busy⟩
  obtain ⟨rack', found', _, idle⟩ := settled
  rw [found', Option.some.injEq] at found
  exact idle (found ▸ busy)

theorem BetweenRacks.added (between : BetweenRacks spec start before racks)
    (absent : racks.lookup (spec.rackNameAt position) = none) (rack : CassandraRackStatus) :
    BetweenRacks spec start (before ++ [position])
      (racks.insert (spec.rackNameAt position) rack) := by
  have outside : spec.rackNameAt position ∉ start := fun member =>
    Finmap.lookup_eq_none.mp absent (between.present _ member)
  have lookup : ∀ name ∈ start,
      (racks.insert (spec.rackNameAt position) rack).lookup name = racks.lookup name := by
    intro name member
    apply Finmap.lookup_insert_of_ne
    rintro rfl
    exact outside member
  refine ⟨fun name member => ?_, fun name member busy => ?_, fun earlier listed member => ?_⟩
  · exact Finmap.mem_insert.mpr (Or.inr (between.present name member))
  · obtain ⟨found, present, status⟩ := busy
    exact between.calm name member ⟨found, (lookup name member).symm.trans present, status⟩
  · rcases List.mem_append.mp listed with old | new
    · obtain ⟨found, present, idle⟩ := between.settled earlier old member
      exact ⟨found, (lookup _ member).trans present, idle⟩
    · rw [List.mem_singleton.mp new] at member
      exact absurd member outside

/-- After an iteration that goes on its own rack is settled like those before. -/
theorem StartsAt.betweenRacks (starts : StartsAt spec start before position racks)
    (present : ∀ name ∈ start, name ∈ racks)
    (settled : SettledIn racks (spec.rackNameAt position)) :
    BetweenRacks spec start (before ++ [position]) racks := by
  refine ⟨present, fun name member busy => ?_, fun earlier listed member => ?_⟩
  · apply starts.others name member _ busy
    rintro rfl
    exact not_ongoingIn_of_settledIn settled busy
  · by_cases same : spec.rackNameAt earlier = spec.rackNameAt position
    · rw [same]
      exact settled
    · rcases List.mem_append.mp listed with old | new
      · exact starts.earlier earlier old same member
      · exact absurd (congrArg spec.rackNameAt (List.mem_singleton.mp new)) same

theorem Satisfies.oneStarts {before : List (Nat × Nat)} {pass : Pass}
    (satisfies : Satisfies (BetweenRacks spec start before) (OneStarts spec start) pass) :
    Throughout (OneStarts spec start) pass :=
  ⟨Or.inl satisfies.working.calm, satisfies.object, satisfies.written⟩

theorem reconcileRacks_oneStarts (rest : List (Nat × Nat)) :
    ∀ (before : List (Nat × Nat)) (pass : Pass) (newStatus : Bool),
      spec.rackPositions = before ++ rest → pass.cc.spec.settled = spec.settled →
      deletesPVCs pass.cc = false →
      Satisfies (BetweenRacks spec start before) (OneStarts spec start) pass →
      Throughout (OneStarts spec start)
        (reconcileRacks platform answers rest pass newStatus).pass := by
  induction rest with
  | nil => exact fun before pass newStatus _ _ _ satisfies => satisfies.oneStarts
  | cons position rest induction =>
    intro before pass newStatus split settled alive satisfies
    have name : (pass.cc.spec.completeRackName position.1 position.2).dcRackName =
        spec.rackNameAt position :=
      congrFun (CassandraClusterSpec.rackNameAt_of_settled settled) position
    have iteration := reconcileRackAt_case platform (answers position) position.1
      position.2 pass
    unfold reconcileRacks
    dsimp only
    generalize reconcileRackAt platform (answers position) position.1 position.2 pass =
      step at iteration
    have next : ∀ after : Pass, after.cc.spec.settled = pass.cc.spec.settled →
        deletesPVCs after.cc = deletesPVCs pass.cc →
        Satisfies (BetweenRacks spec start (before ++ [position])) (OneStarts spec start)
          after → ∀ newStatus,
        Throughout (OneStarts spec start)
          (reconcileRacks platform answers rest after newStatus).pass := by
      intro after sameSpec sameLife between newStatus
      exact induction (before ++ [position]) after newStatus (by simp [split])
        (sameSpec.trans settled) (sameLife.trans alive) between
    cases iteration with
    | nameless empty => exact satisfies.oneStarts
    | added absent =>
      rw [name] at absent ⊢
      refine next (pass.setRackStatus (spec.rackNameAt position) initialRackStatus) rfl rfl
        ⟨?_, satisfies.object, satisfies.written⟩ _
      exact satisfies.working.added absent initialRackStatus
    | deleting deletes => simp [deletes] at alive
    | handled rackStatus written step found _ handled _ =>
      rw [name] at handled found
      have frame := handled.iteration.frame
      have started : Satisfies (StartsAt spec start before position)
          (OneStarts spec start) step.pass :=
        handled.iteration.satisfies (startsAt_stable split _)
          ⟨satisfies.working.startsAt position, satisfies.object, satisfies.written⟩
      split
      · rename_i goesOn
        have idle := handled.settled goesOn
        refine next _ frame.spec frame.deletesPVCs
          ⟨started.working.betweenRacks (fun other member => ?_) idle, started.object,
            started.written⟩ _
        by_cases same : other = spec.rackNameAt position
        · obtain ⟨rack, present, _⟩ := idle
          rw [same]
          exact Finmap.mem_of_lookup_eq_some present
        · have kept := frame.others other same
          obtain ⟨rack, present⟩ := Finmap.mem_iff.mp
            (satisfies.working.present other member)
          exact Finmap.mem_of_lookup_eq_some (kept.trans present)
      · exact ⟨Or.inr ⟨before, position, rest, split, started.working⟩, started.object,
          started.written⟩

theorem reconcileRacks_deleting_oneStarts (positions : List (Nat × Nat)) (pass : Pass)
    (newStatus : Bool) (settled : pass.cc.spec.settled = spec.settled)
    (deletes : deletesPVCs pass.cc = true)
    (satisfies : Satisfies (BetweenRacks spec start []) (OneStarts spec start) pass) :
    Throughout (OneStarts spec start)
      (reconcileRacks platform answers positions pass newStatus).pass := by
  have kept := @reconcileRacks_invariant
    (fun after => after.cc.spec.settled = spec.settled ∧ deletesPVCs after.cc = true ∧
      Satisfies (BetweenRacks spec start []) (OneStarts spec start) after)
    platform answers positions ?_ pass newStatus ⟨settled, deletes, satisfies⟩
  · exact kept.2.2.oneStarts
  rintro position - before step ⟨settled, deletes, satisfies⟩ iteration
  cases iteration with
  | nameless empty => exact ⟨settled, deletes, satisfies⟩
  | added absent =>
    have name : (before.cc.spec.completeRackName position.1 position.2).dcRackName =
        spec.rackNameAt position :=
      congrFun (CassandraClusterSpec.rackNameAt_of_settled settled) position
    rw [name] at absent ⊢
    have added := satisfies.working.added absent initialRackStatus
    exact ⟨settled, deletes, ⟨added.present, added.calm, by simp⟩, satisfies.object,
      satisfies.written⟩
  | deleting _ => exact ⟨settled, deletes, satisfies.deletePVCs⟩
  | handled _ _ _ _ alive _ _ => simp [deletes] at alive

end Loop

/-! ## The pass -/

theorem CassandraClusterSpec.checkDefaults_topology (spec : CassandraClusterSpec) :
    spec.checkDefaults.rackPositions = spec.rackPositions ∧
      spec.checkDefaults.rackNameAt = spec.rackNameAt := by
  unfold checkDefaults
  split <;> exact ⟨rfl, rfl⟩

theorem reconcileDeferred_oneStarts (platform : Platform) (answers : ReconcileAnswers)
    {pass : Pass} (unwritten : pass.Unwritten) :
    Throughout (OneStarts pass.cc.spec pass.cc.status.cassandraRackStatus)
      (reconcileDeferred platform answers pass) := by
  have loop : ∀ ready, Ready pass answers ready →
      Throughout (OneStarts pass.cc.spec pass.cc.status.cassandraRackStatus)
        (ready.looped platform answers) := by
    intro ready isReady
    have fresh : ready.Unwritten := by
      intro status succeeded member
      rw [isReady.effects] at member
      exact unwritten status succeeded member
    have between : Satisfies
        (BetweenRacks pass.cc.spec pass.cc.status.cassandraRackStatus [])
        (OneStarts pass.cc.spec pass.cc.status.cassandraRackStatus) ready := by
      refine ⟨⟨fun name member => ?_, isReady.flagged.fromFlagged.nothingStarts, by simp⟩, ?_,
        fun status succeeded member => absurd member (fresh status succeeded)⟩
      · obtain ⟨rack, found⟩ := Finmap.mem_iff.mp member
        rcases isReady.flagged name with same | ⟨_, _, _, _, changed⟩
        · exact Finmap.mem_of_lookup_eq_some (same.trans found)
        · exact Finmap.mem_of_lookup_eq_some changed
      · rw [isReady.object]
        exact Or.inl fun name _ busy => busy
    cases alive : deletesPVCs ready.cc with
    | true =>
      exact reconcileRacks_deleting_oneStarts platform answers.racks _ ready false
        (congrArg _ isReady.spec) alive between
    | false =>
      exact reconcileRacks_oneStarts platform answers.racks _ [] ready false
        (by simp [isReady.spec]) (congrArg _ isReady.spec) alive between
  refine reconcileDeferred_satisfies platform answers unwritten
    (fun racks flagged _ => Or.inl flagged.nothingStarts) loop fun ready isReady => ?_
  refine ensureSeedListIsUpdatedWhenRequired_keeps ?_ _ (loop ready isReady).working
  intro racks name rack starts found
  exact (CalmedFrom.insert found (seedListToDo_calmer rack)).oneStarts starts

def twoRackSpec : CassandraClusterSpec :=
  { nodesPerRacks := 1
    cassandraImage := "cassandra:4"
    topology := { dc := [{ name := "dc1", rack := [{ name := "rack1" }, { name := "rack2" }] }] } }

def demoMeta : ObjectMeta := { name := "demo", ns := "default" }

def twoRackWorld : World :=
  { cluster :=
      { metadata := demoMeta
        annotation := .config { metadata := demoMeta, spec := twoRackSpec }
        spec := twoRackSpec
        status :=
          { phase := .running
            lastClusterActionStatus := .done
            cassandraRackStatus :=
              GoMap.ofList [("dc1-rack1", idleRack), ("dc1-rack2", idleRack)] } }
    statefulSets := fun dcRackName => some (demoStatefulSet dcRackName "cassandra:4" 1)
    memory := { storedPdb := { name := "demo", ns := "default" } } }

/-- Answers of a pass in which nothing fails and one disruption is allowed. -/
def calmAnswers (now : Nat) (statefulSets : Nat × Nat → StatefulSet) : ReconcileAnswers :=
  { init := writesSucceed
    deletePVC := .ok 1
    changes :=
      { now := now
        order := MapOrder.sorted
        deleteStatefulSet := fun _ => .ok ()
        scaleDown :=
          { pods := fun _ _ => .ok [], nonLocalKeyspacesInDC := fun _ _ => .ok [] } }
    pdb := .ok { name := "demo", ns := "default", maxUnavailable := some 1,
                 disruptionsAllowed := 1, expectedPods := 2 }
    racks := fun position => healthyAnswers now (.ok (statefulSets position))
    removeFinalizers := .ok 1
    write := writesSucceed }

def twoRackAnswers : ReconcileAnswers :=
  calmAnswers 100 fun position =>
    demoStatefulSet (twoRackSpec.rackNameAt position) "cassandra:4" 1

def newResources : List Event :=
  [.edit demoMeta { twoRackSpec with resources := { limits := some [("cpu", { value := 1 })] } },
    .pass twoRackAnswers]

end Casskop
