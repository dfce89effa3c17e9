import Casskop.BackRest.Backup
import Mathlib.Data.List.Perm.Basic

/-!
# The cron table

The tasks of the scheduler are those of the backups with a schedule, with the specs these
have now, as long as no two backups share their name, a schedule is only ever replaced by
another one and nothing else of a scheduled spec is edited alone.
-/

namespace Casskop

/-! ## The scheduler on its own -/

variable {scheduler : Scheduler} {library : BackupLibrary}

namespace Scheduler

/-- The table lists the registered tasks. -/
structure Good (scheduler : Scheduler) : Prop where
  fresh : ∀ task ∈ scheduler.tasks, task.id < scheduler.nextId
  ids : (scheduler.tasks.map CronTask.id).Nodup
  schedule : ∀ task ∈ scheduler.tasks, task.schedule = task.backup.spec.schedule
  entry : ∀ task ∈ scheduler.tasks,
    scheduler.entries.lookup task.backup.name = some { id := task.id, schedule := task.schedule }
  task : ∀ name entry, scheduler.entries.lookup name = some entry →
    ∃ task ∈ scheduler.tasks, task.backup.name = name

theorem good_empty : Good {} where
  fresh := by simp
  ids := by simp
  schedule := by simp
  entry := by simp
  task := by simp

theorem lookup_remove (scheduler : Scheduler) (name other : String) :
    (scheduler.remove name).entries.lookup other =
      if other = name then none else scheduler.entries.lookup other := by
  unfold remove
  split
  · rename_i none
    split
    · rename_i same
      rw [same, none]
    · rfl
  · split
    · rename_i same
      rw [same]
      exact Finmap.lookup_erase _ _
    · rename_i different
      exact Finmap.lookup_erase_ne different

section

variable (good : scheduler.Good)

include good

theorem Good.id_injective {task other : CronTask} (member : task ∈ scheduler.tasks)
    (otherMember : other ∈ scheduler.tasks) (same : task.id = other.id) : task = other :=
  List.inj_on_of_nodup_map good.ids member otherMember same

theorem Good.name_injective {task other : CronTask} (member : task ∈ scheduler.tasks)
    (otherMember : other ∈ scheduler.tasks) (same : task.backup.name = other.backup.name) :
    task = other := by
  have entry := good.entry task member
  rw [same, good.entry other otherMember, Option.some.injEq, CronEntry.mk.injEq] at entry
  exact good.id_injective member otherMember entry.1.symm

theorem Good.mem_remove_iff (name : String) (task : CronTask) :
    task ∈ (scheduler.remove name).tasks ↔ task ∈ scheduler.tasks ∧ task.backup.name ≠ name := by
  unfold remove
  split
  · rename_i none
    refine ⟨fun member => ⟨member, fun same => ?_⟩, fun both => both.1⟩
    have entry := good.entry task member
    rw [same, none] at entry
    cases entry
  · rename_i entry found
    obtain ⟨registered, listed, named⟩ := good.task name entry found
    have own := good.entry registered listed
    rw [named, found, Option.some.injEq] at own
    rw [List.mem_filter, bne_iff_ne]
    refine and_congr_right fun member => not_congr ?_
    constructor
    · intro same
      rw [own] at same
      rw [good.id_injective member listed same, named]
    · intro same
      rw [good.name_injective member listed (same.trans named.symm), own]

theorem Good.remove (name : String) : (scheduler.remove name).Good where
  fresh := by
    intro task member
    have bound := good.fresh task ((good.mem_remove_iff name task).mp member).1
    unfold Scheduler.remove
    split
    · exact bound
    · exact bound
  ids := by
    unfold Scheduler.remove
    split
    · exact good.ids
    · exact good.ids.sublist (List.filter_sublist.map _)
  schedule := fun task member => good.schedule task ((good.mem_remove_iff name task).mp member).1
  entry := by
    intro task member
    obtain ⟨listed, different⟩ := (good.mem_remove_iff name task).mp member
    rw [lookup_remove, if_neg different]
    exact good.entry task listed
  task := by
    intro other entry found
    rw [lookup_remove] at found
    split at found
    · cases found
    · rename_i different
      obtain ⟨task, listed, named⟩ := good.task other entry found
      refine ⟨task, (good.mem_remove_iff name task).mpr ⟨listed, ?_⟩, named⟩
      rw [named]
      exact different

variable (cb : CassandraBackup)

/-- A schedule that was not in the table replaces the one of the same name. -/
theorem Good.addOrUpdate (outdated : scheduler.upToDate cb = false)
    (parses : library.parsesSchedule cb.spec.schedule = true) :
    ∃ added, scheduler.addOrUpdate library cb = (added, .scheduled) ∧ added.Good ∧
      ∀ task, task ∈ added.tasks ↔
        task ∈ scheduler.tasks ∧ task.backup.name ≠ cb.name ∨
          task = { id := (scheduler.remove cb.name).nextId,
                   schedule := cb.spec.schedule, backup := cb } := by
  have removed := good.remove cb.name
  refine ⟨_, by simp only [Scheduler.addOrUpdate, outdated, parses, if_true]; rfl, ?_, ?_⟩
  · constructor
    · intro task member
      rcases List.mem_append.mp member with old | new
      · exact Nat.lt_succ_of_lt (removed.fresh task old)
      · rw [List.mem_singleton.mp new]
        exact Nat.lt_succ_self _
    · rw [List.map_append]
      refine List.Nodup.append removed.ids (List.nodup_singleton _) ?_
      intro id member new
      obtain ⟨task, listed, same⟩ := List.mem_map.mp member
      have bound := removed.fresh task listed
      rw [same, List.mem_singleton.mp new] at bound
      exact lt_irrefl _ bound
    · intro task member
      rcases List.mem_append.mp member with old | new
      · exact removed.schedule task old
      · rw [List.mem_singleton.mp new]
    · intro task member
      rcases List.mem_append.mp member with old | new
      · have different := ((good.mem_remove_iff cb.name task).mp old).2
        rw [Finmap.lookup_insert_of_ne _ different]
        exact removed.entry task old
      · rw [List.mem_singleton.mp new]
        exact Finmap.lookup_insert _
    · intro name entry found
      by_cases same : name = cb.name
      · exact ⟨_, List.mem_append_right _ (List.mem_singleton_self _), same.symm⟩
      · rw [Finmap.lookup_insert_of_ne _ same] at found
        obtain ⟨task, listed, named⟩ := removed.task name entry found
        exact ⟨task, List.mem_append_left _ listed, named⟩
  · intro task
    rw [List.mem_append, List.mem_singleton, good.mem_remove_iff]

end

end Scheduler

/-! ## The pass -/

/-- The object has a schedule, and it can be parsed. -/
def BackupLibrary.schedules (library : BackupLibrary) (cb : CassandraBackup) : Bool :=
  cb.isScheduled && library.parsesSchedule cb.spec.schedule

/-- The API calls of the pass succeed, and its secret and cluster checks pass. -/
structure BackupAnswers.Succeeds (answers : BackupAnswers) (cb : CassandraBackup) : Prop where
  get : answers.get = .ok ()
  list : answers.list = .ok ()
  secret : secretChecked answers cb = true
  cluster : answers.cluster = .ok ()
  update : answers.update.accepted = true

section Pass

variable (backups : List CassandraBackup) (answers : BackupAnswers) (instanceChanged : Bool)
  (cb : CassandraBackup)

/-- A pass on an object without a schedule that can be parsed leaves the scheduler alone. -/
theorem reconcileCompared_unscheduled
    (applied : cb.annotation = some cb.computeLastAppliedAnnotation)
    (unscheduled : library.schedules cb = false) :
    let pass := reconcileCompared library backups answers scheduler instanceChanged cb
    pass.scheduler = scheduler ∧ ∃ status, pass.backup = { cb with status := status } := by
  intro pass
  have undone : ∀ status,
      undoScheduleChange { cb with status := status } = { cb with status := status } := by
    intro status
    simp only [undoScheduleChange, applied, CassandraBackup.computeLastAppliedAnnotation]
  unfold BackupLibrary.schedules at unscheduled
  simp only [pass]
  unfold reconcileCompared
  split
  · exact ⟨rfl, cb.status, rfl⟩
  split
  · exact ⟨rfl, cb.status, rfl⟩
  dsimp only
  split
  · exact ⟨rfl, {}, rfl⟩
  split
  · rename_i scheduled
    have invalid : library.parsesSchedule cb.spec.schedule = false := by
      change cb.isScheduled = true at scheduled
      simpa [scheduled] using unscheduled
    simp only [scheduleBackup, invalid, Bool.not_false, if_true]
    refine ⟨trivial, {}, ?_⟩
    split
    · exact undone {}
    · rfl
  · unfold backupData
    split
    · exact ⟨rfl, {}, rfl⟩
    split
    · exact ⟨rfl, {}, rfl⟩
    · exact ⟨rfl, _, rfl⟩

/-- A pass on an object with a schedule that is not in the table registers it. -/
theorem reconcileCompared_scheduled (good : scheduler.Good) (succeeds : answers.Succeeds cb)
    (changed : instanceChanged = true) (scheduled : library.schedules cb = true)
    (single : existingNotScheduledSnapshot backups cb = false)
    (duration : durationChecked library cb = true) (outdated : scheduler.upToDate cb = false) :
    let pass := reconcileCompared library backups answers scheduler instanceChanged cb
    pass.scheduler.Good ∧
      (∃ registered : CronTask, registered.backup = { cb with status := {} } ∧
        ∀ task, task ∈ pass.scheduler.tasks ↔
          task ∈ scheduler.tasks ∧ task.backup.name ≠ cb.name ∨ task = registered) ∧
      pass.backup = CassandraBackup.setFinalizer true { cb with status := {} } := by
  intro pass
  obtain ⟨isScheduled, parses⟩ := Bool.and_eq_true_iff.mp scheduled
  obtain ⟨added, result, addedGood, tasks⟩ :=
    good.addOrUpdate { cb with status := {} } outdated parses
  have passed : (answers.list ≠ .ok () ||
      existingNotScheduledSnapshot backups { cb with status := {} } ||
      !secretChecked answers { cb with status := {} } ||
      !durationChecked library { cb with status := {} } || answers.cluster ≠ .ok ()) = false := by
    have secret : secretChecked answers { cb with status := {} } = true := succeeds.secret
    have checked : durationChecked library { cb with status := {} } = true := duration
    have alone : existingNotScheduledSnapshot backups { cb with status := {} } = false := single
    simp [succeeds.list, succeeds.cluster, secret, checked, alone]
  have registers : pass =
      { backup := CassandraBackup.setFinalizer true { cb with status := {} }
        scheduler := added } := by
    have kept : CassandraBackup.isScheduled { cb with status := {} } = true := isScheduled
    simp only [pass]
    unfold reconcileCompared
    rw [if_neg (by simp [isScheduled]), if_neg (by simp [changed])]
    dsimp only
    rw [if_neg (by rw [passed]; exact Bool.false_ne_true), if_pos kept]
    simp only [scheduleBackup, parses, Bool.not_true, Bool.false_eq_true, if_false, result]
  rw [registers]
  exact ⟨addedGood, ⟨_, rfl, tasks⟩, rfl⟩

end Pass

/-! ## The table -/

/-- Where the table says of one object what the object asks for. -/
structure InTable (library : BackupLibrary) (scheduler : Scheduler) (cb : CassandraBackup) :
    Prop where
  alive : cb.deletionTimestamp = false
  applied : cb.annotation = some cb.computeLastAppliedAnnotation
  guarded : library.schedules cb = !cb.finalizers.isEmpty
  listed : ∀ task ∈ scheduler.tasks, task.backup.name = cb.name →
    library.schedules cb = true ∧ task.backup.ns = cb.ns ∧ task.backup.spec = cb.spec
  scheduled : library.schedules cb = true → ∃ task ∈ scheduler.tasks, task.backup.name = cb.name

structure CronTable (library : BackupLibrary) (world : BackupWorld) : Prop where
  scheduler : world.scheduler.Good
  names : (world.backups.map CassandraBackup.name).Nodup
  inTable : ∀ cb ∈ world.backups, InTable library world.scheduler cb
  owned : ∀ task ∈ world.scheduler.tasks, ∃ cb ∈ world.backups, cb.name = task.backup.name

/-- What identifies a task: the object it backs up, its schedule and the spec it uses. -/
structure CronJob where
  ns : String
  name : String
  schedule : String
  spec : CassandraBackupSpec
  deriving DecidableEq, Repr

def CronTask.job (task : CronTask) : CronJob :=
  { ns := task.backup.ns
    name := task.backup.name
    schedule := task.schedule
    spec := task.backup.spec }

/-- The task an object asks for. -/
def CassandraBackup.job (cb : CassandraBackup) : CronJob :=
  { ns := cb.ns, name := cb.name, schedule := cb.spec.schedule, spec := cb.spec }

/-- The registered tasks are those of the objects with a schedule that can be parsed, one
for each. -/
def Mirrors (library : BackupLibrary) (world : BackupWorld) : Prop :=
  (world.scheduler.tasks.map CronTask.job).Perm
    ((world.backups.filter library.schedules).map CassandraBackup.job)

variable {cb : CassandraBackup} {answers : BackupAnswers}

section Table

variable {library : BackupLibrary} {world : BackupWorld}

theorem CronTable.mirrors (table : CronTable library world) : Mirrors library world := by
  have tasksNodup : (world.scheduler.tasks.map CronTask.job).Nodup := by
    refine List.Nodup.map_on ?_ (List.Nodup.of_map _ table.scheduler.ids)
    intro task member other otherMember same
    exact table.scheduler.name_injective member otherMember (congrArg CronJob.name same)
  have backupsNodup :
      ((world.backups.filter library.schedules).map CassandraBackup.job).Nodup := by
    refine List.Nodup.map_on ?_ ((List.Nodup.of_map _ table.names).filter _)
    intro cb member other otherMember same
    exact List.inj_on_of_nodup_map table.names (List.mem_filter.mp member).1
      (List.mem_filter.mp otherMember).1 (congrArg CronJob.name same)
  refine (List.perm_ext_iff_of_nodup tasksNodup backupsNodup).mpr fun job => ?_
  have agree : ∀ task ∈ world.scheduler.tasks, ∀ cb ∈ world.backups,
      task.backup.name = cb.name → library.schedules cb = true ∧ cb.job = task.job := by
    intro task registered cb stored same
    obtain ⟨scheduled, ns, spec⟩ := (table.inTable cb stored).listed task registered same
    refine ⟨scheduled, ?_⟩
    have schedule := table.scheduler.schedule task registered
    simp only [CassandraBackup.job, CronTask.job, ns, same, spec, schedule]
  constructor
  · intro member
    obtain ⟨task, registered, rfl⟩ := List.mem_map.mp member
    obtain ⟨cb, stored, same⟩ := table.owned task registered
    obtain ⟨scheduled, equal⟩ := agree task registered cb stored same.symm
    exact List.mem_map.mpr ⟨cb, List.mem_filter.mpr ⟨stored, scheduled⟩, equal⟩
  · intro member
    obtain ⟨cb, filtered, rfl⟩ := List.mem_map.mp member
    obtain ⟨stored, scheduled⟩ := List.mem_filter.mp filtered
    obtain ⟨task, registered, same⟩ := (table.inTable cb stored).scheduled scheduled
    exact List.mem_map.mpr ⟨task, registered, (agree task registered cb stored same).2.symm⟩

/-- Objects with other names do not notice a change of the tasks of one name. -/
theorem InTable.frame {changed : Scheduler} {name : String} (inTable : InTable library scheduler cb)
    (other : cb.name ≠ name)
    (same : ∀ task, task.backup.name ≠ name → (task ∈ changed.tasks ↔ task ∈ scheduler.tasks)) :
    InTable library changed cb where
  alive := inTable.alive
  applied := inTable.applied
  guarded := inTable.guarded
  listed := by
    intro task member named
    exact inTable.listed task ((same task (by rw [named]; exact other)).mp member) named
  scheduled := by
    intro schedules
    obtain ⟨task, member, named⟩ := inTable.scheduled schedules
    exact ⟨task, (same task (by rw [named]; exact other)).mpr member, named⟩

theorem find_of_mem (names : (world.backups.map CassandraBackup.name).Nodup)
    (member : cb ∈ world.backups) : world.find cb.key = some cb := by
  unfold BackupWorld.find
  cases found : world.backups.find? (fun other => other.key == cb.key) with
  | none =>
    have missing := List.find?_eq_none.mp found cb member
    simp at missing
  | some other =>
    have same : other.key = cb.key := by simpa using List.find?_some found
    have equal := List.inj_on_of_nodup_map names (List.mem_of_find?_eq_some found) member
      (congrArg Prod.snd same)
    rw [equal]

theorem mem_write_iff {backups : List CassandraBackup} (alive : cb.deletionTimestamp = false)
    (stored : ∃ old ∈ backups, old.key = cb.key) (other : CassandraBackup) :
    other ∈ BackupWorld.write backups cb ↔ other ∈ backups ∧ other.key ≠ cb.key ∨ other = cb := by
  simp only [BackupWorld.write, alive, Bool.false_and, Bool.false_eq_true, if_false]
  rw [List.mem_map]
  constructor
  · rintro ⟨old, member, rfl⟩
    by_cases same : old.key = cb.key
    · rw [if_pos same]
      exact Or.inr rfl
    · rw [if_neg same]
      exact Or.inl ⟨member, same⟩
  · rintro (⟨member, different⟩ | rfl)
    · exact ⟨other, member, if_neg different⟩
    · obtain ⟨old, member, same⟩ := stored
      exact ⟨old, member, if_pos same⟩

theorem map_name_write {backups : List CassandraBackup} (alive : cb.deletionTimestamp = false) :
    (BackupWorld.write backups cb).map CassandraBackup.name = backups.map CassandraBackup.name := by
  simp only [BackupWorld.write, alive, Bool.false_and, Bool.false_eq_true, if_false]
  rw [List.map_map, List.map_inj_left]
  intro old _
  change (if old.key = cb.key then cb else old).name = old.name
  split
  · rename_i same
    exact (congrArg Prod.snd same).symm
  · rfl

theorem setFinalizer_eq (value : Bool) (cb : CassandraBackup) :
    ∃ finalizers : List String, cb.setFinalizer value = { cb with finalizers := finalizers } ∧
      finalizers.isEmpty = !value := by
  unfold CassandraBackup.setFinalizer
  split
  · refine ⟨_, rfl, ?_⟩
    cases value <;> rfl
  · rename_i same
    refine ⟨cb.finalizers, rfl, ?_⟩
    cases value <;> simpa using same

/-- An object that was just created or edited, among objects the table is right about. -/
structure Edited (library : BackupLibrary) (world : BackupWorld) (cb : CassandraBackup) :
    Prop where
  scheduler : world.scheduler.Good
  names : (world.backups.map CassandraBackup.name).Nodup
  stored : cb ∈ world.backups
  others : ∀ other ∈ world.backups, other.key ≠ cb.key → InTable library world.scheduler other
  owned : ∀ task ∈ world.scheduler.tasks, ∃ owner ∈ world.backups, owner.name = task.backup.name
  alive : cb.deletionTimestamp = false
  changed : cb.annotation ≠ some cb.computeLastAppliedAnnotation
  scheduled : library.schedules cb = true →
    existingNotScheduledSnapshot world.backups cb = false ∧ durationChecked library cb = true ∧
      world.scheduler.upToDate cb = false
  unscheduled : library.schedules cb = false →
    cb.finalizers = [] ∧ ∀ task ∈ world.scheduler.tasks, task.backup.name ≠ cb.name

theorem Edited.write {written : CassandraBackup} (edited : Edited library world cb)
    (good : scheduler.Good) (key : written.key = cb.key)
    (inTable : InTable library scheduler written)
    (same : ∀ task, task.backup.name ≠ cb.name → (task ∈ scheduler.tasks ↔ task ∈
      world.scheduler.tasks)) (running : List BackgroundBackup) :
    CronTable library
      { world with
        scheduler := scheduler
        running := running
        backups := BackupWorld.write world.backups written } := by
  have stored : ∃ old ∈ world.backups, old.key = written.key := ⟨cb, edited.stored, key.symm⟩
  have members := mem_write_iff inTable.alive stored
  constructor
  · exact good
  · change ((BackupWorld.write world.backups written).map CassandraBackup.name).Nodup
    rw [map_name_write inTable.alive]
    exact edited.names
  · intro other member
    rcases (members other).mp member with ⟨old, different⟩ | rfl
    · rw [key] at different
      refine (edited.others other old different).frame ?_ same
      intro named
      exact different (congrArg CassandraBackup.key
        (List.inj_on_of_nodup_map edited.names old edited.stored named))
    · exact inTable
  · intro task registered
    by_cases own : task.backup.name = cb.name
    · exact ⟨written, (members written).mpr (Or.inr rfl),
        (congrArg Prod.snd key).trans own.symm⟩
    · obtain ⟨owner, old, named⟩ := edited.owned task ((same task own).mp registered)
      refine ⟨owner, (members owner).mpr (Or.inl ⟨old, ?_⟩), named⟩
      intro sameKey
      exact own (named.symm.trans (congrArg Prod.snd (sameKey.trans key)))

theorem Edited.reconcile (edited : Edited library world cb) (succeeds : answers.Succeeds cb) :
    CronTable library (world.reconcile library cb.key answers) := by
  unfold BackupWorld.reconcile
  rw [succeeds.get, find_of_mem edited.names edited.stored]
  dsimp only
  unfold BackupWorld.reconcileFound
  rw [if_neg (by simp [edited.alive])]
  have changed : (cb.annotation != some cb.computeLastAppliedAnnotation) = true := by
    simpa using edited.changed
  simp only [changed, succeeds.update, Bool.and_self, if_true]
  by_cases scheduled : library.schedules cb = true
  · obtain ⟨single, duration, outdated⟩ := edited.scheduled scheduled
    obtain ⟨good, ⟨registered, captured, tasks⟩, written⟩ := reconcileCompared_scheduled
      world.backups answers true { cb with annotation := some cb.computeLastAppliedAnnotation }
      edited.scheduler
      ⟨succeeds.get, succeeds.list, succeeds.secret, succeeds.cluster, succeeds.update⟩
      rfl scheduled single duration outdated
    obtain ⟨finalizers, final, guarded⟩ := setFinalizer_eq true
      { cb with annotation := some cb.computeLastAppliedAnnotation, status := {} }
    rw [final] at written
    refine edited.write good (by rw [written]; rfl) ?_ ?_ _
    · rw [written]
      refine ⟨edited.alive, rfl, ?_, ?_, ?_⟩
      · rw [guarded]
        exact scheduled
      · intro task member named
        refine ⟨scheduled, ?_⟩
        rcases (tasks task).mp member with ⟨_, other⟩ | rfl
        · exact absurd named other
        · rw [captured]
          exact ⟨rfl, rfl⟩
      · intro _
        exact ⟨registered, (tasks registered).mpr (Or.inr rfl), by rw [captured]⟩
    · intro task other
      rw [tasks task]
      constructor
      · rintro (⟨old, _⟩ | rfl)
        · exact old
        · rw [captured] at other
          exact absurd rfl other
      · intro old
        exact Or.inl ⟨old, other⟩
  · have unscheduled : library.schedules cb = false := Bool.not_eq_true _ ▸ scheduled
    obtain ⟨unguarded, unlisted⟩ := edited.unscheduled unscheduled
    obtain ⟨sameScheduler, status, written⟩ := reconcileCompared_unscheduled
      world.backups answers true
      { cb with annotation := some cb.computeLastAppliedAnnotation } rfl unscheduled
    rw [sameScheduler]
    refine edited.write edited.scheduler (by rw [written]; rfl) ?_ (fun _ _ => Iff.rfl) _
    rw [written]
    refine ⟨edited.alive, rfl, ?_, ?_, ?_⟩
    · rw [unguarded]
      exact unscheduled
    · intro task member named
      exact absurd named (unlisted task member)
    · intro schedules
      exact absurd schedules scheduled

end Table

/-! ## Runs -/

namespace BackupWorld

def create (world : BackupWorld) (cb : CassandraBackup) : BackupWorld :=
  if (world.find cb.key).isSome then world else { world with backups := world.backups ++ [cb] }

def edit (world : BackupWorld) (key : String × String) (spec : CassandraBackupSpec) :
    BackupWorld :=
  { world with
    backups := world.backups.map fun cb => if cb.key = key then { cb with spec := spec } else cb }

/-- An object with finalizers is only marked. -/
def delete (world : BackupWorld) (key : String × String) : BackupWorld :=
  { world with
    backups :=
      (world.backups.filter fun cb => cb.key != key || !cb.finalizers.isEmpty).map fun cb =>
        if cb.key = key then { cb with deletionTimestamp := true } else cb }

def progress (world : BackupWorld) (key : String × String) (status : BackRestStatus) :
    BackupWorld :=
  { world with
    backups := world.backups.map fun cb =>
      if cb.key = key then { cb with status := status } else cb }

end BackupWorld

/-- What users do to the objects, each followed by a pass, and the statuses written by
backups in the background. -/
inductive TableEvent where
  | create (name ns : String) (creationTimestamp : Nat) (spec : CassandraBackupSpec)
      (answers : BackupAnswers)
  | edit (key : String × String) (spec : CassandraBackupSpec) (answers : BackupAnswers)
  | delete (key : String × String) (answers : BackupAnswers)
  | progress (key : String × String) (status : BackRestStatus)

def tableStep (library : BackupLibrary) (world : BackupWorld) : TableEvent → BackupWorld
  | .create name ns creationTimestamp spec answers =>
    (world.create
      { name := name, ns := ns, creationTimestamp := creationTimestamp, spec := spec }).reconcile
        library (ns, name) answers
  | .edit key spec answers => (world.edit key spec).reconcile library key answers
  | .delete key answers => (world.delete key).reconcile library key answers
  | .progress key status => world.progress key status

/-- Nothing but its schedule decides whether an object is scheduled: its duration can be
parsed, and no backup without a schedule has taken the same snapshot. -/
def Schedulable (library : BackupLibrary) (backups : List CassandraBackup)
    (cb : CassandraBackup) : Prop :=
  library.schedules cb = true →
    existingNotScheduledSnapshot backups cb = false ∧ durationChecked library cb = true

/-- The API calls of the pass succeed, and the event is one the table follows: names are
not shared between namespaces, a schedule is only replaced by another one that can be
parsed, and the spec of a scheduled backup is not edited without its schedule. -/
def TableEvent.Orderly (library : BackupLibrary) (world : BackupWorld) : TableEvent → Prop
  | .create name ns creationTimestamp spec answers =>
    let cb : CassandraBackup :=
      { name := name, ns := ns, creationTimestamp := creationTimestamp, spec := spec }
    answers.Succeeds cb ∧ (∀ other ∈ world.backups, other.name ≠ name) ∧
      Schedulable library (world.create cb).backups cb
  | .edit key spec answers =>
    ∀ cb ∈ world.backups, cb.key = key →
      answers.Succeeds { cb with spec := spec } ∧
        (spec ≠ cb.spec →
          (library.schedules cb = true →
            spec.schedule ≠ cb.spec.schedule ∧
              library.schedules { cb with spec := spec } = true) ∧
          Schedulable library (world.edit key spec).backups { cb with spec := spec })
  | .delete key answers => ∀ cb ∈ world.backups, cb.key = key → answers.Succeeds cb
  | .progress .. => True

variable {spec : CassandraBackupSpec} {key : String × String}

section Runs

variable {world : BackupWorld}

theorem CronTable.upToDate_fresh (table : CronTable library world)
    (unlisted : ∀ task ∈ world.scheduler.tasks, task.backup.name ≠ cb.name) :
    world.scheduler.upToDate cb = false := by
  unfold Scheduler.upToDate
  cases found : world.scheduler.entries.lookup cb.name with
  | none => rfl
  | some entry =>
    obtain ⟨task, registered, named⟩ := table.scheduler.task cb.name entry found
    exact absurd named (unlisted task registered)

theorem CronTable.create (table : CronTable library world) {name ns : String}
    {creationTimestamp : Nat}
    (orderly : (TableEvent.create name ns creationTimestamp spec answers).Orderly library world) :
    CronTable library
      (tableStep library world (.create name ns creationTimestamp spec answers)) := by
  obtain ⟨succeeds, fresh, schedulable⟩ := orderly
  let cb : CassandraBackup :=
    { name := name, ns := ns, creationTimestamp := creationTimestamp, spec := spec }
  have absent : world.find cb.key = none := by
    refine List.find?_eq_none.mpr fun other member same => ?_
    exact fresh other member (congrArg Prod.snd (beq_iff_eq.mp same))
  have created : world.create cb = { world with backups := world.backups ++ [cb] } := by
    unfold BackupWorld.create
    rw [absent]
    rfl
  have unlisted : ∀ task ∈ world.scheduler.tasks, task.backup.name ≠ cb.name := by
    intro task registered named
    obtain ⟨owner, stored, same⟩ := table.owned task registered
    exact fresh owner stored (same.trans named)
  refine (?_ : Edited library (world.create cb) cb).reconcile succeeds
  rw [created] at schedulable ⊢
  constructor
  · exact table.scheduler
  · rw [List.map_append]
    refine List.Nodup.append table.names (List.nodup_singleton _) ?_
    intro other member new
    obtain ⟨old, stored, same⟩ := List.mem_map.mp member
    exact fresh old stored (same.trans (List.mem_singleton.mp new))
  · exact List.mem_append_right _ (List.mem_singleton_self cb)
  · intro other member different
    rcases List.mem_append.mp member with old | new
    · exact table.inTable other old
    · exact absurd (congrArg CassandraBackup.key (List.mem_singleton.mp new)) different
  · intro task registered
    obtain ⟨owner, stored, same⟩ := table.owned task registered
    exact ⟨owner, List.mem_append_left _ stored, same⟩
  · rfl
  · exact Option.some_ne_none _ |>.symm
  · intro scheduled
    obtain ⟨single, duration⟩ := schedulable scheduled
    exact ⟨single, duration, table.upToDate_fresh unlisted⟩
  · intro _
    exact ⟨rfl, unlisted⟩

theorem CronTable.reconcileUnchanged (table : CronTable library world) (stored : cb ∈ world.backups)
    (answers : BackupAnswers) : CronTable library (world.reconcile library cb.key answers) := by
  have inTable := table.inTable cb stored
  unfold BackupWorld.reconcile
  rw [find_of_mem table.names stored]
  cases answers.get with
  | error => exact table
  | ok =>
    dsimp only
    unfold BackupWorld.reconcileFound
    rw [if_neg (by simp [inTable.alive])]
    have unchanged : (cb.annotation != some cb.computeLastAppliedAnnotation) = false := by
      simpa using inTable.applied
    simp only [unchanged, Bool.false_and, Bool.false_eq_true, if_false]
    have kept : (reconcileCompared library world.backups answers world.scheduler false
        { cb with annotation := some cb.computeLastAppliedAnnotation }).scheduler =
          world.scheduler := by
      by_cases scheduled : library.schedules cb = true
      · obtain ⟨isScheduled, _⟩ := Bool.and_eq_true_iff.mp scheduled
        obtain ⟨task, registered, named⟩ := inTable.scheduled scheduled
        have entry := table.scheduler.entry task registered
        have contained : world.scheduler.contains cb.name = true := by
          unfold Scheduler.contains
          rw [← named, entry]
          rfl
        have kept : CassandraBackup.isScheduled
            { cb with annotation := some cb.computeLastAppliedAnnotation } = true := isScheduled
        simp [reconcileCompared, kept, contained]
      · have unscheduled : library.schedules cb = false := Bool.not_eq_true _ ▸ scheduled
        exact (reconcileCompared_unscheduled world.backups answers false
          { cb with annotation := some cb.computeLastAppliedAnnotation } rfl unscheduled).1
    rw [kept]
    exact ⟨table.scheduler, table.names, table.inTable, table.owned⟩

theorem edit_backups (names : (world.backups.map CassandraBackup.name).Nodup)
    (stored : cb ∈ world.backups) (alive : cb.deletionTimestamp = false)
    (spec : CassandraBackupSpec) :
    (world.edit cb.key spec).backups =
      BackupWorld.write world.backups { cb with spec := spec } := by
  unfold BackupWorld.edit BackupWorld.write
  rw [if_neg (by simp [alive])]
  refine List.map_inj_left.mpr fun other member => ?_
  change (if other.key = cb.key then { other with spec := spec } else other) =
    if other.key = cb.key then { cb with spec := spec } else other
  split
  · rename_i same
    rw [List.inj_on_of_nodup_map names member stored (congrArg Prod.snd same)]
  · rfl

theorem edit_eq_self (same : ∀ cb ∈ world.backups, cb.key = key → cb.spec = spec) :
    world.edit key spec = world := by
  unfold BackupWorld.edit
  have mapped : world.backups.map (fun cb =>
      if cb.key = key then { cb with spec := spec } else cb) = world.backups.map id := by
    refine List.map_inj_left.mpr fun cb member => ?_
    split
    · rename_i found
      rw [← same cb member found]
      rfl
    · rfl
  rw [mapped, List.map_id]

theorem reconcile_absent (absent : ∀ cb ∈ world.backups, cb.key ≠ key) (answers : BackupAnswers) :
    world.reconcile library key answers = world := by
  have missing : world.find key = none :=
    List.find?_eq_none.mpr fun cb member found => absent cb member (beq_iff_eq.mp found)
  unfold BackupWorld.reconcile
  rw [missing]
  cases answers.get <;> rfl

theorem CronTable.edit (table : CronTable library world)
    (orderly : (TableEvent.edit key spec answers).Orderly library world) :
    CronTable library (tableStep library world (.edit key spec answers)) := by
  change CronTable library ((world.edit key spec).reconcile library key answers)
  by_cases absent : ∀ cb ∈ world.backups, cb.key ≠ key
  · rw [edit_eq_self fun cb member found => absurd found (absent cb member),
      reconcile_absent absent]
    exact table
  push Not at absent
  obtain ⟨cb, stored, rfl⟩ := absent
  obtain ⟨succeeds, changes⟩ := orderly cb stored rfl
  have inTable := table.inTable cb stored
  have written := edit_backups table.names stored inTable.alive spec
  by_cases unchanged : spec = cb.spec
  · have same : world.edit cb.key spec = world := by
      refine edit_eq_self fun other member found => ?_
      rw [List.inj_on_of_nodup_map table.names member stored (congrArg Prod.snd found), unchanged]
    rw [same]
    exact table.reconcileUnchanged stored answers
  obtain ⟨replaces, schedulable⟩ := changes unchanged
  have members := @mem_write_iff { cb with spec := spec } world.backups inTable.alive
    ⟨cb, stored, rfl⟩
  refine (?_ : Edited library (world.edit cb.key spec) { cb with spec := spec }).reconcile succeeds
  constructor
  · exact table.scheduler
  · rw [written, @map_name_write { cb with spec := spec } world.backups inTable.alive]
    exact table.names
  · rw [written]
    exact (members _).mpr (Or.inr rfl)
  · intro other member different
    rw [written] at member
    rcases (members other).mp member with ⟨old, _⟩ | rfl
    · exact table.inTable other old
    · exact absurd rfl different
  · intro task registered
    obtain ⟨owner, old, named⟩ := table.owned task registered
    by_cases own : owner.key = cb.key
    · exact ⟨{ cb with spec := spec }, by rw [written]; exact (members _).mpr (Or.inr rfl),
        (congrArg Prod.snd own).symm.trans named⟩
    · exact ⟨owner, by rw [written]; exact (members _).mpr (Or.inl ⟨old, own⟩), named⟩
  · exact inTable.alive
  · intro same
    have annotations := inTable.applied.symm.trans same
    rw [Option.some.injEq] at annotations
    exact unchanged (congrArg AppliedBackup.spec annotations).symm
  · intro scheduled
    obtain ⟨single, duration⟩ := schedulable scheduled
    refine ⟨single, duration, ?_⟩
    by_cases before : library.schedules cb = true
    · obtain ⟨task, registered, named⟩ := inTable.scheduled before
      obtain ⟨_, _, spec'⟩ := inTable.listed task registered named
      have entry := table.scheduler.entry task registered
      have schedule := table.scheduler.schedule task registered
      unfold Scheduler.upToDate
      change (world.scheduler.entries.lookup cb.name).any _ = false
      rw [← named, entry]
      have different := (replaces before).1
      simp only [Option.any_some, beq_eq_false_iff_ne]
      rw [schedule, spec']
      exact fun same => different same.symm
    · refine table.upToDate_fresh ?_
      intro task registered named
      exact before (inTable.listed task registered named).1
  · intro unscheduled
    have before : ¬ library.schedules cb = true := by
      intro before
      have after := (replaces before).2
      rw [unscheduled] at after
      cases after
    refine ⟨?_, ?_⟩
    · have guarded := inTable.guarded
      simpa [before] using guarded
    · intro task registered named
      exact before (inTable.listed task registered named).1

theorem CronTable.congr (table : CronTable library world) {other : BackupWorld}
    (backups : other.backups = world.backups) (scheduler : other.scheduler = world.scheduler) :
    CronTable library other where
  scheduler := scheduler ▸ table.scheduler
  names := backups ▸ table.names
  inTable := by
    rw [backups, scheduler]
    exact table.inTable
  owned := by
    rw [backups, scheduler]
    exact table.owned

theorem CronTable.erase (table : CronTable library world) (stored : cb ∈ world.backups)
    (good : scheduler.Good)
    (tasks : ∀ task, task ∈ scheduler.tasks ↔ task ∈ world.scheduler.tasks ∧ task.backup.name ≠
      cb.name) :
    CronTable library
      { world with
        scheduler := scheduler
        backups := world.backups.filter fun other => other.key != cb.key } := by
  have members : ∀ other, other ∈ world.backups.filter (fun other => other.key != cb.key) ↔
      other ∈ world.backups ∧ other.key ≠ cb.key := by
    intro other
    rw [List.mem_filter, bne_iff_ne]
  constructor
  · exact good
  · exact table.names.sublist (List.filter_sublist.map _)
  · intro other member
    obtain ⟨old, different⟩ := (members other).mp member
    have unnamed : other.name ≠ cb.name := fun named => different
      (congrArg CassandraBackup.key (List.inj_on_of_nodup_map table.names old stored named))
    refine (table.inTable other old).frame unnamed fun task named => ?_
    exact (tasks task).trans (and_iff_left named)
  · intro task registered
    obtain ⟨listed, different⟩ := (tasks task).mp registered
    obtain ⟨owner, old, named⟩ := table.owned task listed
    refine ⟨owner, (members owner).mpr ⟨old, fun same => ?_⟩, named⟩
    exact different (named.symm.trans (congrArg Prod.snd same))

theorem delete_unguarded (unguarded : ∀ cb ∈ world.backups, cb.key = key → cb.finalizers = []) :
    (world.delete key).backups = world.backups.filter fun cb => cb.key != key := by
  unfold BackupWorld.delete
  have filtered : world.backups.filter (fun cb => cb.key != key || !cb.finalizers.isEmpty) =
      world.backups.filter fun cb => cb.key != key := by
    refine List.filter_congr fun cb member => ?_
    by_cases found : cb.key = key
    · simp [found, unguarded cb member found]
    · simp [found]
  have mapped : (world.backups.filter fun cb => cb.key != key).map
      (fun cb => if cb.key = key then { cb with deletionTimestamp := true } else cb) =
        (world.backups.filter fun cb => cb.key != key).map id := by
    refine List.map_inj_left.mpr fun cb member => ?_
    exact if_neg (bne_iff_ne.mp (List.mem_filter.mp member).2)
  change (List.filter _ _).map _ = _
  rw [filtered, mapped, List.map_id]

theorem delete_guarded (guarded : ∀ cb ∈ world.backups, cb.key = key → cb.finalizers ≠ []) :
    (world.delete key).backups = world.backups.map fun cb =>
      if cb.key = key then { cb with deletionTimestamp := true } else cb := by
  unfold BackupWorld.delete
  have filtered : world.backups.filter (fun cb => cb.key != key || !cb.finalizers.isEmpty) =
      world.backups := by
    refine List.filter_eq_self.mpr fun cb member => ?_
    by_cases found : cb.key = key
    · simp [found, guarded cb member found]
    · simp [found]
  change (List.filter _ _).map _ = _
  rw [filtered]

/-- The pass on a marked object removes its entry and lets the object go. -/
theorem reconcile_marked (found : world.find cb.key = some cb)
    (marked : cb.deletionTimestamp = true) (scheduled : cb.isScheduled = true)
    (succeeds : answers.Succeeds cb) :
    (world.reconcile library cb.key answers).scheduler = world.scheduler.remove cb.name ∧
      (world.reconcile library cb.key answers).backups =
        world.backups.filter fun other => other.key != cb.key := by
  obtain ⟨finalizers, final, empty⟩ := setFinalizer_eq false cb
  have reconciled : world.reconcile library cb.key answers =
      { world with
        scheduler := world.scheduler.remove cb.name
        backups := BackupWorld.write world.backups { cb with finalizers := finalizers } } := by
    unfold BackupWorld.reconcile
    rw [succeeds.get, found]
    dsimp only
    unfold BackupWorld.reconcileFound
    rw [if_pos (by simp [marked, scheduled]), if_pos succeeds.update, final]
  rw [reconciled]
  refine ⟨rfl, ?_⟩
  unfold BackupWorld.write
  rw [if_pos (by simp [marked, empty])]
  rfl

theorem CronTable.delete (table : CronTable library world)
    (orderly : (TableEvent.delete key answers).Orderly library world) :
    CronTable library (tableStep library world (.delete key answers)) := by
  change CronTable library ((world.delete key).reconcile library key answers)
  by_cases absent : ∀ cb ∈ world.backups, cb.key ≠ key
  · have kept : (world.delete key).backups = world.backups := by
      rw [delete_unguarded fun cb member found => absurd found (absent cb member)]
      exact List.filter_eq_self.mpr fun cb member => bne_iff_ne.mpr (absent cb member)
    rw [reconcile_absent (by rw [kept]; exact absent)]
    exact table.congr kept rfl
  push Not at absent
  obtain ⟨cb, stored, rfl⟩ := absent
  have inTable := table.inTable cb stored
  have unique : ∀ other ∈ world.backups, other.key = cb.key → other = cb :=
    fun other member same => List.inj_on_of_nodup_map table.names member stored
      (congrArg Prod.snd same)
  have guarded := inTable.guarded
  by_cases scheduled : library.schedules cb = true
  · -- The object is marked, and the pass removes its task and its finalizer.
    have finalizers : cb.finalizers ≠ [] := by
      rw [scheduled] at guarded
      simpa using guarded.symm
    have marks : (world.delete cb.key).backups = world.backups.map fun other =>
        if other.key = cb.key then { other with deletionTimestamp := true } else other :=
      delete_guarded fun other member same => unique other member same ▸ finalizers
    have names : (world.delete cb.key).backups.map CassandraBackup.name =
        world.backups.map CassandraBackup.name := by
      rw [marks, List.map_map, List.map_inj_left]
      intro other _
      change (if other.key = cb.key then _ else other).name = other.name
      split <;> rfl
    have marked : { cb with deletionTimestamp := true } ∈ (world.delete cb.key).backups := by
      rw [marks]
      exact List.mem_map.mpr ⟨cb, stored, if_pos rfl⟩
    have succeeds := orderly cb stored rfl
    obtain ⟨scheduler, backups⟩ := @reconcile_marked library
      { cb with deletionTimestamp := true } answers (world.delete cb.key)
      (find_of_mem (names ▸ table.names) marked) rfl
      (Bool.and_eq_true_iff.mp scheduled).1
      ⟨succeeds.get, succeeds.list, succeeds.secret, succeeds.cluster, succeeds.update⟩
    refine (table.erase stored (table.scheduler.remove cb.name)
      (table.scheduler.mem_remove_iff cb.name)).congr ?_ scheduler
    refine backups.trans ?_
    change (world.delete cb.key).backups.filter (fun other => other.key != cb.key) =
      world.backups.filter fun other => other.key != cb.key
    rw [marks, List.filter_map]
    have filtered : world.backups.filter ((fun other : CassandraBackup => other.key != cb.key) ∘
        fun other => if other.key = cb.key then { other with deletionTimestamp := true } else other)
          = world.backups.filter fun other => other.key != cb.key := by
      refine List.filter_congr fun other _ => ?_
      change ((if other.key = cb.key then _ else other).key != cb.key) = (other.key != cb.key)
      split <;> rfl
    have mapped : (world.backups.filter fun other => other.key != cb.key).map
        (fun other =>
          if other.key = cb.key then { other with deletionTimestamp := true } else other) =
            (world.backups.filter fun other => other.key != cb.key).map id := by
      refine List.map_inj_left.mpr fun other member => ?_
      exact if_neg (bne_iff_ne.mp (List.mem_filter.mp member).2)
    rw [filtered, mapped, List.map_id]
  · -- The object goes at once, and it had no task.
    have finalizers : cb.finalizers = [] := by simpa [scheduled] using guarded
    have gone := delete_unguarded fun other member same => unique other member same ▸ finalizers
    have unlisted : ∀ task, task ∈ world.scheduler.tasks ↔
        task ∈ world.scheduler.tasks ∧ task.backup.name ≠ cb.name := by
      refine fun task => (and_iff_left_of_imp fun registered named => ?_).symm
      exact scheduled (inTable.listed task registered named).1
    have absent : ∀ other ∈ (world.delete cb.key).backups, other.key ≠ cb.key := by
      rw [gone]
      exact fun other member => bne_iff_ne.mp (List.mem_filter.mp member).2
    rw [reconcile_absent absent]
    exact (table.erase stored table.scheduler unlisted).congr gone rfl

theorem CronTable.progress (table : CronTable library world) (key : String × String)
    (status : BackRestStatus) :
    CronTable library (tableStep library world (.progress key status)) := by
  change CronTable library (world.progress key status)
  have names : (world.progress key status).backups.map CassandraBackup.name =
      world.backups.map CassandraBackup.name := by
    unfold BackupWorld.progress
    rw [List.map_map, List.map_inj_left]
    intro cb _
    change (if cb.key = key then { cb with status := status } else cb).name = cb.name
    split <;> rfl
  constructor
  · exact table.scheduler
  · rw [names]
    exact table.names
  · intro cb member
    obtain ⟨old, stored, rfl⟩ := List.mem_map.mp member
    have inTable := table.inTable old stored
    split
    · exact ⟨inTable.alive, inTable.applied, inTable.guarded, inTable.listed, inTable.scheduled⟩
    · exact inTable
  · intro task registered
    obtain ⟨owner, stored, named⟩ := table.owned task registered
    have kept : owner.name ∈ (world.progress key status).backups.map CassandraBackup.name := by
      rw [names]
      exact List.mem_map_of_mem stored
    obtain ⟨cb, member, same⟩ := List.mem_map.mp kept
    exact ⟨cb, member, same.trans named⟩

theorem CronTable.step (table : CronTable library world) (event : TableEvent)
    (orderly : event.Orderly library world) :
    CronTable library (tableStep library world event) := by
  cases event with
  | create name ns creationTimestamp spec answers => exact table.create orderly
  | edit key spec answers => exact table.edit orderly
  | delete key answers => exact table.delete orderly
  | progress key status => exact table.progress key status

theorem cronTable_empty : CronTable library { backups := [] } where
  scheduler := Scheduler.good_empty
  names := List.nodup_nil
  inTable := by simp
  owned := by simp

end Runs

/-- After any orderly sequence of creations, edits and deletions the registered tasks are
those of the stored backups with a schedule. -/
theorem cron_table_mirrors (library : BackupLibrary) (events : List TableEvent)
    (orderly : Runs.Meets (tableStep library) (fun world event => event.Orderly library world)
      { backups := [] } events) :
    Mirrors library (Runs.run (tableStep library) { backups := [] } events) :=
  CronTable.mirrors (orderly.keeps cronTable_empty fun _ event table => table.step event)

/-! ## Backups that share a name -/

def nightlySpec : CassandraBackupSpec :=
  { cassandraCluster := "demo"
    datacenter := "dc1"
    storageLocation := "file:///backups"
    schedule := "@daily"
    snapshotTag := "nightly" }

theorem smoothPass_succeeds (cb : CassandraBackup)
    (location : cb.spec.storageLocation = "file:///backups") : smoothPass.Succeeds cb := by
  refine ⟨rfl, rfl, ?_, rfl, rfl⟩
  have onDisk : cb.isFileBackup = true := by
    unfold CassandraBackup.isFileBackup CassandraBackup.storedAt
    rw [location]
    decide +kernel
  unfold secretChecked
  rw [onDisk, Bool.true_or]

def nightlyBackup : CassandraBackup :=
  { name := "nightly"
    ns := "team-a"
    finalizers := ["kubernetes.io/unschedule-needed"]
    annotation := some
      { name := "nightly", ns := "team-a", creationTimestamp := 0, spec := nightlySpec }
    spec := nightlySpec }

theorem nightly_mirrored :
    Mirrors lenientLibrary (Runs.run (tableStep lenientLibrary) { backups := [] }
      [.create "nightly" "team-a" 0 nightlySpec smoothPass,
        .edit ("team-a", "nightly") { nightlySpec with schedule := "@hourly" } smoothPass]) := by
  have created : (tableStep lenientLibrary { backups := [] }
      (.create "nightly" "team-a" 0 nightlySpec smoothPass)).backups = [nightlyBackup] := by
    decide +kernel
  refine cron_table_mirrors _ _ ⟨⟨smoothPass_succeeds _ rfl, by simp, fun _ => ?_⟩, ?_, trivial⟩
  · exact ⟨by decide +kernel, by decide +kernel⟩
  · intro cb member _
    rw [created, List.mem_singleton] at member
    subst member
    refine ⟨smoothPass_succeeds _ rfl, fun _ => ⟨fun _ => ⟨?_, ?_⟩, fun _ => ⟨?_, ?_⟩⟩⟩
    · decide +kernel
    · decide +kernel
    · decide +kernel
    · decide +kernel

/-- The table is keyed by the name alone: the backup of the second namespace gets no task. -/
theorem second_namespace_unscheduled :
    let world := Runs.run (tableStep lenientLibrary) { backups := [] }
      [.create "nightly" "team-a" 0 nightlySpec smoothPass,
        .create "nightly" "team-b" 0 nightlySpec smoothPass]
    world.backups.map CassandraBackup.key = [("team-a", "nightly"), ("team-b", "nightly")] ∧
      world.scheduler.tasks.map (fun task => task.backup.key) = [("team-a", "nightly")] ∧
      ¬ Mirrors lenientLibrary world := by
  refine ⟨by decide +kernel, by decide +kernel, ?_⟩
  unfold Mirrors
  decide +kernel

end Casskop
