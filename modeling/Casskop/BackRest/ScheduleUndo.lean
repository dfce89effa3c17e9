import Casskop.BackRest.CronTable

/-!
# Schedules that are not valid

A schedule that cannot be parsed is to be replaced by the one of the last-applied annotation.
`Reconcile` has written the new object to this annotation by then, so what it puts back is the
schedule it has just rejected.
-/

namespace Casskop

/-- The object and its annotation are back on the schedule, the scheduler stays as it is, and
a further pass finds nothing to do. -/
structure ScheduleUndone (library : BackupLibrary) (world : BackupWorld) (key : String × String)
    (schedule : String) (answers : BackupAnswers) : Prop where
  restored : ∃ cb ∈ (world.reconcile library key answers).find key,
    cb.spec.schedule = schedule ∧ ∃ applied ∈ cb.annotation, applied.spec.schedule = schedule
  scheduler : (world.reconcile library key answers).scheduler = world.scheduler
  settled : ∀ again, (world.reconcile library key answers).reconcile library key again =
    world.reconcile library key answers

section Pass

variable {library : BackupLibrary} {world : BackupWorld} {cb : CassandraBackup}
  {answers : BackupAnswers}

theorem reconcileCompared_started (backups : List CassandraBackup) (scheduler : Scheduler)
    (instanceChanged : Bool) (scheduled : cb.isScheduled = true) :
    (reconcileCompared library backups answers scheduler instanceChanged cb).started = none := by
  unfold reconcileCompared
  split
  · rfl
  split
  · rfl
  dsimp only
  split
  · rfl
  rw [if_pos (by exact scheduled)]
  unfold scheduleBackup
  split
  · rfl
  · split <;> rfl

/-- A pass on an object that is annotated and in the table does nothing. -/
theorem reconcile_settled (found : world.find cb.key = some cb)
    (alive : cb.deletionTimestamp = false) (scheduled : cb.isScheduled = true)
    (annotated : cb.annotation = some cb.computeLastAppliedAnnotation)
    (contained : world.scheduler.contains cb.name = true) (answers : BackupAnswers) :
    world.reconcile library cb.key answers = world := by
  unfold BackupWorld.reconcile
  rw [found]
  cases answers.get with
  | error => rfl
  | ok =>
    have kept : { cb with annotation := some cb.computeLastAppliedAnnotation } = cb := by
      rw [← annotated]
    unfold BackupWorld.reconcileFound
    dsimp only
    rw [kept, annotated]
    simp [alive, reconcileCompared, scheduled, contained]

theorem find_write (found : world.find cb.key = some cb) {written : CassandraBackup}
    (key : written.key = cb.key) (alive : written.deletionTimestamp = false) :
    (BackupWorld.write world.backups written).find? (fun other => other.key == cb.key) =
      some written := by
  simp only [BackupWorld.write, alive, Bool.false_and, Bool.false_eq_true, if_false,
    List.find?_map]
  have same : (fun other : CassandraBackup => other.key == cb.key) ∘
      (fun other => if other.key = written.key then written else other) =
        fun other => other.key == cb.key := by
    funext other
    by_cases here : other.key = cb.key <;> simp [key, here]
  rw [same]
  unfold BackupWorld.find at found
  rw [found]
  simp [key]

/-- What a pass writes has the schedule and is annotated with it. -/
theorem reconcile_edited (found : world.find cb.key = some cb)
    (alive : cb.deletionTimestamp = false) (scheduled : cb.isScheduled = true)
    (invalid : library.parsesSchedule cb.spec.schedule = false)
    (succeeds : answers.Succeeds cb)
    (edited : cb.annotation ≠ some cb.computeLastAppliedAnnotation) :
    ∃ status, world.reconcile library cb.key answers =
      { world with
        backups := BackupWorld.write world.backups
          { cb with
            annotation := some cb.computeLastAppliedAnnotation, status := status } } := by
  have unscheduled : library.schedules cb = false := by simp [BackupLibrary.schedules, invalid]
  obtain ⟨same, status, written⟩ := @reconcileCompared_unscheduled world.scheduler library
    world.backups answers true { cb with annotation := some cb.computeLastAppliedAnnotation } rfl
    unscheduled
  have started := @reconcileCompared_started library
    { cb with annotation := some cb.computeLastAppliedAnnotation } answers world.backups
    world.scheduler true scheduled
  have changed : (cb.annotation != some cb.computeLastAppliedAnnotation) = true := by
    simpa using edited
  refine ⟨status, ?_⟩
  unfold BackupWorld.reconcile
  rw [succeeds.get, found]
  dsimp only
  unfold BackupWorld.reconcileFound
  rw [if_neg (by simp [alive])]
  dsimp only
  rw [changed, same, started, written, succeeds.update]
  simp

/-- Schedules that are not valid are undone where they are no edit: the pass leaves the schedule
it has rejected. -/
theorem scheduleUndone_iff (library : BackupLibrary) (world : BackupWorld) (cb : CassandraBackup)
    (entry : CronEntry) (answers : BackupAnswers) (found : world.find cb.key = some cb)
    (alive : cb.deletionTimestamp = false)
    (entered : world.scheduler.entries.lookup cb.name = some entry)
    (scheduled : cb.isScheduled = true) (invalid : library.parsesSchedule cb.spec.schedule = false)
    (succeeds : answers.Succeeds cb) :
    ScheduleUndone library world cb.key entry.schedule answers ↔
      cb.spec.schedule = entry.schedule := by
  have contained : world.scheduler.contains cb.name = true := by
    simp [Scheduler.contains, entered]
  -- Whether or not the object has changed, it is annotated with its own spec afterwards.
  obtain ⟨after, kept, spec, annotated, same, settled⟩ : ∃ after : CassandraBackup,
      (world.reconcile library cb.key answers).find cb.key = some after ∧
        after.spec = cb.spec ∧ after.annotation = some after.computeLastAppliedAnnotation ∧
        (world.reconcile library cb.key answers).scheduler = world.scheduler ∧
        ∀ again, (world.reconcile library cb.key answers).reconcile library cb.key again =
          world.reconcile library cb.key answers := by
    by_cases annotated : cb.annotation = some cb.computeLastAppliedAnnotation
    · have settled := @reconcile_settled library _ _ found alive scheduled annotated contained
      rw [settled answers]
      exact ⟨cb, found, rfl, annotated, rfl, settled⟩
    · obtain ⟨status, result⟩ := reconcile_edited found alive scheduled invalid succeeds annotated
      let written : CassandraBackup :=
        { cb with annotation := some cb.computeLastAppliedAnnotation, status := status }
      have kept : (world.reconcile library cb.key answers).find written.key = some written := by
        rw [result]
        exact find_write found rfl alive
      have same : (world.reconcile library cb.key answers).scheduler = world.scheduler := by
        rw [result]
      exact ⟨written, kept, rfl, rfl, same,
        @reconcile_settled library _ written kept alive scheduled rfl (by rwa [same])⟩
  constructor
  · rintro ⟨⟨other, found', schedule, _⟩, _, _⟩
    rw [kept] at found'
    cases found'
    rw [← spec, schedule]
  · intro unedited
    have back : after.spec.schedule = entry.schedule := by rw [spec, unedited]
    exact ⟨⟨after, kept, back, _, annotated, back⟩, same, settled⟩

end Pass

/-! ## The nightly backup -/

def strictLibrary : BackupLibrary :=
  { parsesSchedule := fun schedule => schedule == "@daily", parsesDuration := fun _ => true }

def sometimesBackup : CassandraBackup :=
  { nightlyBackup with spec := { nightlySpec with schedule := "sometimes" } }

/-- The object was edited, the task still runs daily. -/
def editedWorld : BackupWorld :=
  { backups := [sometimesBackup]
    scheduler := (Scheduler.addOrUpdate strictLibrary {} nightlyBackup).1 }

theorem sometimes_not_undone :
    ¬ ScheduleUndone strictLibrary editedWorld sometimesBackup.key "@daily" smoothPass := by
  have undone := scheduleUndone_iff strictLibrary editedWorld sometimesBackup
    { id := 1, schedule := "@daily" } smoothPass (by decide +kernel) rfl (by decide +kernel)
    (by decide +kernel) (by decide +kernel) (smoothPass_succeeds _ rfl)
  rw [undone]
  decide

/-- The pass leaves the schedule it has rejected in the object and in the annotation. -/
theorem sometimes_applied :
    ((editedWorld.reconcile strictLibrary sometimesBackup.key smoothPass).backups.map fun cb =>
      (cb.spec.schedule, cb.annotation.map (·.spec.schedule))) =
        [("sometimes", some "sometimes")] := by
  decide +kernel

end Casskop
