import Casskop.Controller.Invariants
import Casskop.Controller.World
import Casskop.Validation.ChangeFacts

/-!
# Whole passes

A pass initializes the cluster, or checks the edit, runs the rack loop, looks at the
seed list and writes the status.  The rules for one rack are carried through these
parts, and from there to the stored status.
-/

namespace Casskop

/-! ## The shape of a pass -/

/-- The pass when it comes to the check of the edit. -/
structure Started (cc : CassandraCluster) (start : Pass) : Prop where
  phase : cc.status.phase ≠ .unset
  spec : start.cc.spec = cc.spec.checkDefaults
  status : start.cc.status = cc.status
  applied : start.cc.annotation = cc.annotation
  named : start.cc.metadata.name = cc.metadata.name ∧
    start.cc.metadata.ns = cc.metadata.ns ∧
    start.cc.metadata.deletionTimestamp = cc.metadata.deletionTimestamp
  written : start.effects = [] ∧ start.cc.resourceVersion = cc.resourceVersion ∨ ∃ metadata,
    start.effects = [.putCluster cc.resourceVersion (some start.cc.resourceVersion),
      .updateObject metadata start.cc.spec true]

variable {cc : CassandraCluster} {start : Pass}

theorem Started.effects (started : Started cc start) :
    start.effects = [] ∨ ∃ sent version metadata, start.effects =
      [.putCluster sent (some version), .updateObject metadata start.cc.spec true] := by
  rcases started.written with ⟨none, _⟩ | ⟨metadata, only⟩
  · exact Or.inl none
  · exact Or.inr ⟨_, _, metadata, only⟩

/-- A pass either initializes the cluster, fails to update the finalizers, or goes
on to the deferred write with the status it was given. -/
inductive PassCase (platform : Platform) (cc : CassandraCluster)
    (answers : ReconcileAnswers) : Pass → Prop where
  | initializing (pass : Pass) (unset : cc.status.phase = .unset) (same : pass.cc = cc)
      (fresh : pass.effects = []) :
      PassCase platform cc answers (initializeCluster answers pass)
  | refused (pass : Pass) (sent : Nat) (metadata : ObjectMeta) (spec : CassandraClusterSpec)
      (only : pass.effects = [.putCluster sent none, .updateObject metadata spec false])
      (version : sent = cc.resourceVersion ∧ pass.cc.resourceVersion = cc.resourceVersion) :
      PassCase platform cc answers pass
  | deferred (start : Pass) (started : Started cc start) :
      PassCase platform cc answers (reconcileDeferred platform answers start)

/-- The pass that `reconcile` hands to `reconcileDeferred`. -/
def deferredStart (memory : Memory) (cc : CassandraCluster) (answers : ReconcileAnswers) :
    Option Pass :=
  let pass : Pass :=
    { cc := cc
      status := cc.status
      storedPdb := memory.storedPdb
      storedStatefulSet := memory.storedStatefulSet
      needUpdate := memory.needUpdate }
  if cc.status.phase = .unset then none
  else
    let cc := { cc with spec := cc.spec.checkDefaults }
    if deletePVCChanged cc then
      let cc := updateDeletePvcStrategy cc
      if Except.succeeded answers.deletePVC then
        some ({ pass with cc := cc.received answers.deletePVC }.emit
          [.putCluster cc.resourceVersion answers.deletePVC.toOption,
            .updateObject cc.metadata cc.spec (Except.succeeded answers.deletePVC)])
      else none
    else some { pass with cc := cc }

variable {answers : ReconcileAnswers}

theorem deferredStart_some (platform : Platform) {memory : Memory}
    (starts : deferredStart memory cc answers = some start) :
    Started cc start ∧
      reconcile platform memory cc answers = reconcileDeferred platform answers start := by
  unfold deferredStart at starts
  unfold reconcile
  dsimp only at starts ⊢
  split at starts
  · cases starts
  rename_i phase
  rw [if_neg phase]
  split at starts
  · rename_i changed
    rw [if_pos changed]
    split at starts
    · rename_i updated
      rw [if_pos updated]
      cases starts
      refine ⟨?_, rfl⟩
      have received : ∀ (cc : CassandraCluster) (answer : Except ApiError Nat),
          CassandraCluster.annotation (cc.received answer) = cc.annotation := by
        intro cc answer
        cases answer <;> rfl
      refine ⟨phase, ?_, ?_, ?_, ?_, ?_⟩
      · exact CassandraCluster.received_spec _ _
      · exact CassandraCluster.received_status _ _
      · exact received _ _
      · change (CassandraCluster.received _ _).metadata.name = _ ∧
          (CassandraCluster.received _ _).metadata.ns = _ ∧
          (CassandraCluster.received _ _).metadata.deletionTimestamp = _
        rw [CassandraCluster.received_metadata]
        exact ⟨rfl, rfl, rfl⟩
      · cases answer : answers.deletePVC with
        | error => simp [answer, Except.succeeded] at updated
        | ok version =>
          refine Or.inr ⟨(updateDeletePvcStrategy
            { cc with spec := cc.spec.checkDefaults }).metadata, ?_⟩
          simp [Pass.emit, Except.toOption, Except.succeeded, CassandraCluster.received,
            updateDeletePvcStrategy]
    · cases starts
  · rename_i unchanged
    rw [if_neg unchanged]
    cases starts
    exact ⟨⟨phase, rfl, rfl, rfl, ⟨rfl, rfl, rfl⟩, Or.inl ⟨rfl, rfl⟩⟩, rfl⟩

theorem reconcile_case (platform : Platform) (memory : Memory) (cc : CassandraCluster)
    (answers : ReconcileAnswers) :
    PassCase platform cc answers (reconcile platform memory cc answers) := by
  cases starts : deferredStart memory cc answers with
  | some start =>
    obtain ⟨started, same⟩ := deferredStart_some platform starts
    rw [same]
    exact .deferred start started
  | none =>
    unfold deferredStart at starts
    unfold reconcile
    dsimp only at starts ⊢
    split
    · rename_i unset
      exact .initializing _ unset rfl rfl
    rename_i phase
    rw [if_neg phase] at starts
    split
    · rename_i changed
      rw [if_pos changed] at starts
      cases answer : answers.deletePVC with
      | ok => simp [answer, Except.succeeded] at starts
      | error =>
        refine .refused _ cc.resourceVersion (updateDeletePvcStrategy
          { cc with spec := cc.spec.checkDefaults }).metadata cc.spec.checkDefaults ?_
          ⟨rfl, rfl⟩
        simp [Pass.emit, Except.toOption, Except.succeeded, updateDeletePvcStrategy]
    · rename_i unchanged
      rw [if_neg unchanged] at starts
      cases starts

/-- The object with its defaults filled in, as the pass checks it. -/
def CassandraCluster.defaulted (cc : CassandraCluster) : CassandraCluster :=
  { cc with spec := cc.spec.checkDefaults }

theorem Started.drops (started : Started cc start) {name : String} (drops : start.cc.Drops name) :
    cc.defaulted.Drops name := by
  unfold CassandraCluster.Drops at drops ⊢
  rw [started.applied, started.spec] at drops
  exact drops

/-! ## New clusters -/

/-- Racks nothing has happened to yet. -/
def AllInitial (racks : RackStatuses) : Prop :=
  ∀ name rack, racks.lookup name = some rack → rack = initialRackStatus

theorem AllInitial.init {racks : RackStatuses} (initial : AllInitial racks)
    (dcName rackName : String) : AllInitial (initCassandraRackStatus racks dcName rackName) := by
  intro name rack found
  unfold initCassandraRackStatus at found
  by_cases same : name = getDCRackName dcName rackName
  · rw [same, Finmap.lookup_insert, Option.some.injEq] at found
    exact found.symm
  · rw [Finmap.lookup_insert_of_ne racks same] at found
    exact initial name rack found

theorem initCassandraRackListStep_initial (state : RackListState) (dc : Nat)
    (initial : AllInitial state.racks) : AllInitial (initCassandraRackListStep state dc).racks := by
  unfold initCassandraRackListStep
  dsimp only
  split
  · exact initial.init _ _
  · apply List.foldlRecOn (motive := fun acc : RackListState => AllInitial acc.racks)
    · exact initial
    · intro acc holds rack _
      exact holds.init _ _

theorem initCassandraRackList_initial (spec : CassandraClusterSpec) :
    AllInitial (initCassandraRackList spec).racks := by
  have empty : AllInitial (∅ : RackStatuses) := by
    intro name rack found
    simp at found
  unfold initCassandraRackList
  split
  · exact empty.init _ _
  · apply List.foldlRecOn (motive := fun acc : RackListState => AllInitial acc.racks)
    · exact empty
    · intro acc holds dc _
      exact initCassandraRackListStep_initial acc dc holds

/-- The statuses a pass on a cluster without phase writes have only new racks. -/
theorem initializeCluster_written {pass : Pass} (fresh : pass.effects = [])
    {status : CassandraClusterStatus} {succeeded : Bool}
    (member : .updateClusterStatus status succeeded ∈ (initializeCluster answers pass).effects) :
    AllInitial status.cassandraRackStatus := by
  unfold initializeCluster at member
  dsimp only at member
  split at member
  · simp [fresh] at member
  · simp only [Pass.effects_emit, fresh, List.nil_append, List.mem_cons, reduceCtorEq,
      Effect.updateClusterStatus.injEq, List.not_mem_nil, or_false, false_or] at member
    rw [member.1]
    exact initCassandraRackList_initial _

/-! ## Checked clusters -/

/-- The pass when the rack loop starts. -/
structure Ready (start : Pass) (answers : ReconcileAnswers) (ready : Pass) : Prop where
  spec : ready.cc.spec = start.cc.spec
  metadata : ready.cc.metadata = start.cc.metadata
  object : ready.cc.status = start.cc.status
  flagged : Flagged start.cc.NewResources start.cc.status.cassandraRackStatus
    ready.status.cassandraRackStatus
  /-- Nothing else of the status has changed. -/
  status : ready.status =
    { start.cc.status with cassandraRackStatus := ready.status.cassandraRackStatus }
  pdb : ready.storedPdb = (pdbRead start.cc answers.pdb).stored
  effects : ready.effects = start.effects
  read : ready.cc.resourceVersion = start.cc.resourceVersion ∧
    ready.cc.annotation = start.cc.annotation

/-- The check of the edit ends the pass, or the racks are visited. -/
inductive CheckedCase (platform : Platform) (answers : ReconcileAnswers) (start : Pass) :
    Pass × Bool → Prop where
  | stopped (stopped : Pass) (deletions : List Effect)
      (object : stopped.cc.status = start.cc.status)
      (racks : FromFlagged start.cc.NewResources start.cc.status.cassandraRackStatus
        stopped.status.cassandraRackStatus)
      (whole : ∀ name, ¬ start.cc.Drops name →
        FlaggedAt start.cc.NewResources start.cc.status.cassandraRackStatus
          stopped.status.cassandraRackStatus name)
      (phase : stopped.status.phase = start.cc.status.phase)
      (effects : stopped.effects = start.effects ++ deletions)
      (deletes : ∀ effect ∈ deletions, ∃ dcRackName succeeded,
        effect = .deleteStatefulSet dcRackName succeeded)
      (read : stopped.cc.resourceVersion = start.cc.resourceVersion ∧
        stopped.cc.annotation = start.cc.annotation) :
      CheckedCase platform answers start (stopped, false)
  | loop (ready : Pass) (isReady : Ready start answers ready) :
      CheckedCase platform answers start (reconcileRacksAndPhase platform answers ready)

/-- The pass that `reconcileChecked` hands to `reconcileRacksAndPhase`. -/
def checkedStart (platform : Platform) (answers : ReconcileAnswers) (pass : Pass) :
    Option Pass :=
  let check := checkNonAllowedChanges platform pass.needUpdate pass.cc pass.status
    answers.changes
  let checked :=
    { pass with
      cc := { pass.cc with spec := check.spec }
      status := check.status
      needUpdate := check.needUpdate
      effects := pass.effects ++ check.effects }
  if check.stop || check.fault then none
  else if pdbFaults answers.pdb then none
  else some { checked with storedPdb := (pdbRead checked.cc answers.pdb).stored }

theorem checkedStart_some {platform : Platform} {ready : Pass}
    (starts : checkedStart platform answers { start with status := start.cc.status } = some ready) :
    Ready start answers ready ∧
      reconcileChecked platform answers { start with status := start.cc.status } =
        reconcileRacksAndPhase platform answers ready := by
  have outcome := checkNonAllowedChanges_outcome platform start.needUpdate start.cc
    start.cc.status answers.changes
  unfold checkedStart at starts
  unfold reconcileChecked
  dsimp only at starts ⊢
  generalize checkNonAllowedChanges platform start.needUpdate start.cc start.cc.status
    answers.changes = check at outcome starts
  split at starts
  · cases starts
  rename_i goesOn
  rw [if_neg goesOn]
  obtain ⟨proceeds, sound⟩ : check.stop = false ∧ check.fault = false := by
    simpa [not_or] using goesOn
  split at starts
  · cases starts
  rename_i readable
  rw [if_neg readable]
  cases starts
  refine ⟨?_, rfl⟩
  obtain ⟨sameSpec, flagged, status⟩ := outcome.proceeds proceeds sound
  refine ⟨sameSpec, rfl, rfl, flagged, status, ?_, ?_, ⟨rfl, rfl⟩⟩
  · simp only [pdbRead]
  · simp [outcome.quiet proceeds sound]

theorem reconcileChecked_case (platform : Platform) (answers : ReconcileAnswers)
    (start : Pass) :
    CheckedCase platform answers start
      (reconcileChecked platform answers { start with status := start.cc.status }) := by
  cases starts : checkedStart platform answers { start with status := start.cc.status } with
  | some ready =>
    obtain ⟨isReady, same⟩ := checkedStart_some starts
    rw [same]
    exact .loop ready isReady
  | none =>
    have outcome := checkNonAllowedChanges_outcome platform start.needUpdate start.cc
      start.cc.status answers.changes
    unfold checkedStart at starts
    unfold reconcileChecked
    dsimp only at starts ⊢
    generalize checkNonAllowedChanges platform start.needUpdate start.cc start.cc.status
      answers.changes = check at outcome starts
    split
    · exact .stopped _ check.effects rfl outcome.racks outcome.whole outcome.phase rfl
        outcome.effects ⟨rfl, rfl⟩
    rename_i goesOn
    rw [if_neg goesOn] at starts
    split
    · exact .stopped _ check.effects rfl outcome.racks outcome.whole outcome.phase rfl
        outcome.effects ⟨rfl, rfl⟩
    · rename_i readable
      rw [if_neg readable] at starts
      cases starts

/-- The pass when the rack loop has ended. -/
def Pass.looped (platform : Platform) (answers : ReconcileAnswers) (ready : Pass) : Pass :=
  (reconcileRacks platform answers.racks ready.cc.spec.rackPositions ready false).pass

/-- No status was written so far. -/
def Pass.Unwritten (pass : Pass) : Prop :=
  ∀ status succeeded, Effect.updateClusterStatus status succeeded ∉ pass.effects

theorem Started.unwritten (started : Started cc start) : start.Unwritten := by
  intro status succeeded member
  rcases started.effects with none | ⟨sent, version, metadata, only⟩
  · simp [none] at member
  · simp [only] at member

section Rules

variable {good : RackStatuses → Prop}

/-! ## After the racks -/

theorem flagSeedList_keeps (names : List String)
    (seed : ∀ name ∈ names, ∀ racks rack, good racks → racks.lookup name = some rack →
      good (racks.insert name (seedListToDo rack))) :
    ∀ racks, good racks → good (flagSeedList names racks).1 := by
  induction names with
  | nil => exact fun racks holds => holds
  | cons name names induction =>
    intro racks holds
    unfold flagSeedList
    split
    · exact holds
    · rename_i rack found
      exact induction (fun other member => seed other (List.mem_cons_of_mem _ member)) _
        (seed name List.mem_cons_self racks rack holds found)

theorem ensureSeedListIsUpdatedWhenRequired_keeps
    (seed : ∀ racks name rack, good racks → racks.lookup name = some rack →
      good (racks.insert name (seedListToDo rack)))
    (spec : CassandraClusterSpec) {status : CassandraClusterStatus}
    (holds : good status.cassandraRackStatus) :
    good (ensureSeedListIsUpdatedWhenRequired spec status).1.cassandraRackStatus := by
  unfold ensureSeedListIsUpdatedWhenRequired
  split
  · split
    · exact holds
    · exact holds
    · exact flagSeedList_keeps spec.racksInOrder (fun name _ racks rack => seed racks name rack)
        status.cassandraRackStatus holds
  · exact holds

theorem scanRackPhases_racks (names : List String) :
    ∀ (status : CassandraClusterStatus) (unfinished : Bool),
      (scanRackPhases names status unfinished).1.cassandraRackStatus =
        status.cassandraRackStatus := by
  induction names with
  | nil => exact fun status unfinished => rfl
  | cons name names induction =>
    intro status unfinished
    unfold scanRackPhases
    split
    · exact induction status unfinished
    · dsimp only
      repeat' split
      all_goals first | rfl | exact induction _ _

theorem updateCassandraClusterStatusPhase_racks (spec : CassandraClusterSpec)
    (status : CassandraClusterStatus) :
    (updateCassandraClusterStatusPhase spec status).cassandraRackStatus =
      status.cassandraRackStatus := by
  have scanned := scanRackPhases_racks spec.racksInOrder status false
  unfold updateCassandraClusterStatusPhase
  generalize scanRackPhases spec.racksInOrder status false = scan at scanned
  obtain ⟨status', unfinished, ended⟩ := scan
  dsimp only at scanned ⊢
  rw [← scanned]
  repeat' split
  all_goals rfl

/-! ## Invariants of a pass -/

section Loop

variable (platform : Platform) (answers : ReconcileAnswers) {ready : Pass}

/-- Effects that write all of the object but its status. -/
def Effect.isObjectWrite : Effect → Bool
  | .putCluster .. | .updateObject .. => true
  | _ => false

/-- After the loop `ReconcileRack` removes the finalizers of a cluster being deleted. -/
theorem reconcileRack_fields :
    let run := (reconcileRack platform answers.racks answers.removeFinalizers ready).pass
    run.status = (ready.looped platform answers).status ∧
      run.cc.spec = (ready.looped platform answers).cc.spec ∧
      run.cc.status = (ready.looped platform answers).cc.status ∧
      ∃ last, run.effects = (ready.looped platform answers).effects ++ last ∧
        ∀ effect ∈ last, effect.isObjectWrite = true := by
  have same : ∃ last, (ready.looped platform answers).effects =
      (ready.looped platform answers).effects ++ last ∧ ∀ effect ∈ last,
        effect.isObjectWrite = true :=
    ⟨[], by simp, by simp⟩
  unfold reconcileRack
  dsimp only
  split
  · split
    · exact ⟨rfl, rfl, rfl, same⟩
    split
    · refine ⟨rfl, CassandraCluster.received_spec _ _, CassandraCluster.received_status _ _,
        _, rfl, ?_⟩
      simp [Effect.isObjectWrite]
    · exact ⟨rfl, rfl, rfl, same⟩
  · exact ⟨rfl, rfl, rfl, same⟩

/-- Behind the loop the racks are flagged for the seed list at most. -/
theorem reconcileRacksAndPhase_fields :
    let result := (reconcileRacksAndPhase platform answers ready).1
    let looped := ready.looped platform answers
    (result.status.cassandraRackStatus = looped.status.cassandraRackStatus ∨
        result.status.cassandraRackStatus = (ensureSeedListIsUpdatedWhenRequired
          looped.cc.spec looped.status).1.cassandraRackStatus) ∧
      result.cc.status = looped.cc.status ∧
      ∃ last, result.effects = looped.effects ++ last ∧
        ∀ effect ∈ last, effect.isObjectWrite = true := by
  obtain ⟨status, spec, object, effects⟩ := @reconcileRack_fields platform answers ready
  have run := congrArg CassandraClusterStatus.cassandraRackStatus status
  unfold reconcileRacksAndPhase
  dsimp only
  rw [← spec, ← status]
  split
  · exact ⟨Or.inl rfl, object, effects⟩
  · exact ⟨Or.inl rfl, object, effects⟩
  · exact ⟨Or.inl rfl, object, effects⟩
  all_goals
    split
    · exact ⟨Or.inr rfl, object, effects⟩
    · exact ⟨Or.inr (updateCassandraClusterStatusPhase_racks _ _), object, effects⟩

theorem reconcileRacksAndPhase_satisfies
    (loop : Throughout good (ready.looped platform answers))
    (seed : good (ensureSeedListIsUpdatedWhenRequired (ready.looped platform answers).cc.spec
      (ready.looped platform answers).status).1.cassandraRackStatus) :
    Throughout good (reconcileRacksAndPhase platform answers ready).1 := by
  obtain ⟨racks, object, last, effects, updates⟩ :=
    @reconcileRacksAndPhase_fields platform answers ready
  refine ⟨?_, ?_, fun written succeeded member => ?_⟩
  · rcases racks with same | seeded
    · rw [same]
      exact loop.working
    · rw [seeded]
      exact seed
  · rw [object]
    exact loop.object
  · rw [effects] at member
    rcases List.mem_append.mp member with old | new
    · exact loop.written written succeeded old
    · cases updates _ new

/-- The whole pass behind the deferred write keeps a predicate that survives the check,
the rack loop and the seed list. -/
theorem reconcileDeferred_satisfies (unwritten : start.Unwritten)
    (flagged : ∀ racks, FromFlagged start.cc.NewResources start.cc.status.cassandraRackStatus racks
      → (∀ name, ¬ start.cc.Drops name → FlaggedAt start.cc.NewResources
      start.cc.status.cassandraRackStatus racks name) → good racks)
    (loop : ∀ ready, Ready start answers ready → Throughout good (ready.looped platform
      answers))
    (seed : ∀ ready, Ready start answers ready → good (ensureSeedListIsUpdatedWhenRequired
      (ready.looped platform answers).cc.spec (ready.looped platform
      answers).status).1.cassandraRackStatus) :
    Throughout good (reconcileDeferred platform answers start) := by
  have checked : Throughout good
      (reconcileChecked platform answers { start with status := start.cc.status }).1 := by
    have checkedCase := reconcileChecked_case platform answers start
    generalize reconcileChecked platform answers { start with status := start.cc.status } =
      result at checkedCase
    cases checkedCase with
    | stopped stopped deletions object racks whole phase effects deletes =>
      refine ⟨flagged _ racks whole, ?_, fun status succeeded member => ?_⟩
      · rw [object]
        exact flagged _ (Flagged.refl _ _).fromFlagged fun name _ => Flagged.refl _ _ name
      · rw [effects] at member
        rcases List.mem_append.mp member with old | new
        · exact absurd old (unwritten status succeeded)
        · obtain ⟨_, _, impossible⟩ := deletes _ new
          cases impossible
    | loop ready isReady =>
      exact reconcileRacksAndPhase_satisfies platform answers (loop ready isReady)
        (seed ready isReady)
  unfold reconcileDeferred
  dsimp only
  split
  · exact checked
  · exact checked.updateCassandraStatus (fun racks holds => holds) answers.write

end Loop

end Rules

/-! ## The effects of a pass -/

/-- Effects of a pass outside its rack loop. -/
def Effect.isOuter : Effect → Bool
  | .putCluster .. | .updateCluster .. | .updateObject .. | .updateClusterStatus .. => true
  | .deleteStatefulSet .. => true
  | _ => false

theorem Effect.isOuter_of_isObjectWrite {effect : Effect} (writes : effect.isObjectWrite = true) :
    effect.isOuter = true ∧ effect.writtenRack = none := by
  cases effect <;> first | exact ⟨rfl, rfl⟩ | cases writes

/-- The racks a pass without rack loop may write. -/
inductive Unlooped (cc : CassandraCluster) (racks : RackStatuses) : Prop where
  | fresh (unset : cc.status.phase = .unset) (initial : AllInitial racks)
  | checked (start : Pass) (started : Started cc start)
      (from' : FromFlagged start.cc.NewResources cc.status.cassandraRackStatus racks)
      (whole : ∀ name, ¬ start.cc.Drops name →
        FlaggedAt start.cc.NewResources cc.status.cassandraRackStatus racks name)

/-- A pass without rack loop has outer effects only; otherwise they surround those of
the loop. -/
inductive LoopCase (platform : Platform) (cc : CassandraCluster) (answers : ReconcileAnswers)
    (pass : Pass) : Prop where
  | quiet (outer : ∀ effect ∈ pass.effects, effect.isOuter = true)
      (racks : ∀ status succeeded, .updateClusterStatus status succeeded ∈ pass.effects →
        Unlooped cc status.cassandraRackStatus)
  | loop (start ready : Pass) (started : Started cc start) (isReady : Ready start answers ready)
      (last : List Effect)
      (outer : ∀ effect ∈ last, effect.isOuter = true ∧ effect.writtenRack = none)
      (effects : pass.effects = (ready.looped platform answers).effects ++ last)
      (racks : ∀ status succeeded, .updateClusterStatus status succeeded ∈ last →
        status.cassandraRackStatus = (ready.looped platform answers).status.cassandraRackStatus ∨
          status.cassandraRackStatus = (ensureSeedListIsUpdatedWhenRequired
            (ready.looped platform answers).cc.spec
            (ready.looped platform answers).status).1.cassandraRackStatus)

section LoopCases

variable (platform : Platform)

theorem Started.outer (started : Started cc start) :
    ∀ effect ∈ start.effects, effect.isOuter = true ∧ effect.writtenRack = none := by
  rcases started.effects with none | ⟨sent, version, metadata, only⟩
  · simp [none]
  · simp [only, Effect.isOuter, Effect.writtenRack]

theorem updateCassandraStatus_outer (needUpdate : Bool) (cc : CassandraCluster)
    (status : CassandraClusterStatus) (answer : WriteAnswer) :
    ∀ effect ∈ (updateCassandraStatus needUpdate cc status answer).effects,
      effect.isOuter = true ∧ effect.writtenRack = none := by
  unfold updateCassandraStatus
  dsimp only
  split
  · simp
  · simp [Effect.isOuter, Effect.writtenRack]

theorem CheckedCase.stopped_quiet {stopped : Pass} {deletions : List Effect}
    (started : Started cc start)
    (racks : FromFlagged start.cc.NewResources start.cc.status.cassandraRackStatus
      stopped.status.cassandraRackStatus)
    (whole : ∀ name, ¬ start.cc.Drops name → FlaggedAt start.cc.NewResources
      start.cc.status.cassandraRackStatus stopped.status.cassandraRackStatus name)
    (effects : stopped.effects = start.effects ++ deletions)
    (deletes : ∀ effect ∈ deletions, ∃ dcRackName succeeded, effect = .deleteStatefulSet dcRackName
      succeeded) : LoopCase platform cc answers (stopped.updateCassandraStatus answers.write) := by
  rw [started.status] at racks whole
  have parts : ∀ effect ∈ (stopped.updateCassandraStatus answers.write).effects,
      effect ∈ start.effects ∨ effect ∈ deletions ∨
        effect ∈ (Casskop.updateCassandraStatus stopped.needUpdate stopped.cc stopped.status
          answers.write).effects := by
    intro effect member
    rcases List.mem_append.mp member with old | new
    · rw [effects] at old
      exact (List.mem_append.mp old).imp_right Or.inl
    · exact Or.inr (Or.inr new)
  refine .quiet (fun effect member => ?_) fun status succeeded member => ?_
  · rcases parts effect member with first | deleted | new
    · exact (started.outer effect first).1
    · obtain ⟨_, _, rfl⟩ := deletes effect deleted
      rfl
    · exact (updateCassandraStatus_outer _ _ _ _ effect new).1
  · rcases parts _ member with first | deleted | new
    · exact absurd first (started.unwritten status succeeded)
    · obtain ⟨_, _, impossible⟩ := deletes _ deleted
      cases impossible
    · rw [updateCassandraStatus_written new]
      exact .checked start started racks whole

theorem reconcileRacksAndPhase_loopCase {ready : Pass} (started : Started cc start)
    (isReady : Ready start answers ready) :
    let result := (reconcileRacksAndPhase platform answers ready).1
    LoopCase platform cc answers result ∧
      LoopCase platform cc answers (result.updateCassandraStatus answers.write) := by
  obtain ⟨racks, object, last, effects, updates⟩ :=
    @reconcileRacksAndPhase_fields platform answers ready
  have outer : ∀ effect ∈ last, effect.isOuter = true ∧ effect.writtenRack = none := by
    intro effect member
    exact Effect.isOuter_of_isObjectWrite (updates effect member)
  have unwritten : ∀ status succeeded, Effect.updateClusterStatus status succeeded ∉ last := by
    intro status succeeded member
    cases updates _ member
  intro result
  refine ⟨.loop start ready started isReady last outer effects fun status succeeded member =>
    absurd member (unwritten status succeeded), ?_⟩
  refine .loop start ready started isReady
    (last ++ (updateCassandraStatus result.needUpdate result.cc result.status
      answers.write).effects) (fun effect member => ?_) ?_ fun status succeeded member => ?_
  · rcases List.mem_append.mp member with old | new
    · exact outer effect old
    · exact updateCassandraStatus_outer _ _ _ _ effect new
  · change result.effects ++ _ = _
    rw [effects, List.append_assoc]
  · rcases List.mem_append.mp member with old | new
    · exact absurd old (unwritten status succeeded)
    · rw [updateCassandraStatus_written new]
      exact racks

theorem reconcile_loopCase (memory : Memory) (cc : CassandraCluster) (answers : ReconcileAnswers) :
    LoopCase platform cc answers (reconcile platform memory cc answers) := by
  have passCase := reconcile_case platform memory cc answers
  generalize reconcile platform memory cc answers = pass at passCase
  cases passCase with
  | initializing start unset same fresh =>
    refine .quiet ?_ fun status succeeded member =>
      .fresh unset (initializeCluster_written fresh member)
    unfold initializeCluster
    dsimp only
    split <;> simp [fresh, Effect.isOuter]
  | refused _ sent metadata spec only =>
    exact .quiet (by simp [only, Effect.isOuter]) (by simp [only])
  | deferred start started =>
    have checkedCase := reconcileChecked_case platform answers start
    unfold reconcileDeferred
    dsimp only
    generalize reconcileChecked platform answers { start with status := start.cc.status } =
      result at checkedCase
    cases checkedCase with
    | stopped stopped deletions object racks whole phase effects deletes =>
      exact CheckedCase.stopped_quiet platform started racks whole effects deletes
    | loop ready isReady =>
      obtain ⟨hung, written⟩ := reconcileRacksAndPhase_loopCase platform started isReady
      split
      · exact hung
      · exact written

end LoopCases

/-! ## The stored status -/

namespace World

theorem applyEffects_status (effects : List Effect) :
    ∀ world : World,
      (world.applyEffects effects).cluster.status = world.cluster.status ∨
        ∃ status, .updateClusterStatus status true ∈ effects ∧
          (world.applyEffects effects).cluster.status = status.serialized := by
  induction effects with
  | nil => exact fun world => Or.inl rfl
  | cons effect effects induction =>
    intro world
    rcases induction (world.applyEffect effect) with same | ⟨status, member, last⟩
    · have first : (world.applyEffect effect).cluster.status = world.cluster.status ∨
          ∃ status, effect = .updateClusterStatus status true ∧
            (world.applyEffect effect).cluster.status = status.serialized := by
        unfold applyEffect
        split <;> first
          | exact Or.inl rfl
          | exact Or.inr ⟨_, rfl, rfl⟩
      rcases first with kept | ⟨status, rfl, written⟩
      · exact Or.inl (same.trans kept)
      · exact Or.inr ⟨status, List.mem_cons_self, same.trans written⟩
    · exact Or.inr ⟨status, List.mem_cons_of_mem _ member, last⟩

/-- What holds of the stored racks and of all the racks a pass writes holds of the
stored racks after the pass. -/
theorem pass_racks {good : RackStatuses → Prop} (platform : Platform) (world : World)
    (answers : ReconcileAnswers) (holds : good world.cluster.status.cassandraRackStatus)
    (serialized : ∀ racks, good racks →
      good (racks.mapValues CassandraRackStatus.serialized))
    (written : ∀ status succeeded,
      .updateClusterStatus status succeeded ∈ (world.pass platform answers).effects →
      good status.cassandraRackStatus) :
    good (world.step platform (.pass answers)).cluster.status.cassandraRackStatus := by
  change good (world.applyEffects
    (world.pass platform answers).effects).cluster.status.cassandraRackStatus
  rcases applyEffects_status (world.pass platform answers).effects world with
    same | ⟨status, member, last⟩
  · rw [same]
    exact holds
  · rw [last]
    exact serialized _ (written status true member)

end World

end Casskop
