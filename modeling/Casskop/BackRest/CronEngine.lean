import Casskop.BackRest.Backup

/-!
# The scheduler on any cron engine

The table of the scheduler has one entry for each job of the cron engine, whatever ids the
engine hands out and whichever schedules it refuses.  An update removes the job of the name
before it adds the new one, so a schedule that is refused leaves the name without a job.
-/

namespace Casskop

/-- `AddFunc` refuses a schedule and registers nothing, or it registers one job under an id
that no job has.  `Remove` unregisters the job of the id. -/
structure CronEngine (Task : Type) where
  Client : Type
  new : Client
  jobs : Client → Nat → Option (String × Task)
  addFunc : Client → String → Task → Option Nat × Client
  remove : Client → Nat → Client
  jobs_new : jobs new = fun _ => none
  refused : ∀ client schedule task, (addFunc client schedule task).1 = none →
    jobs (addFunc client schedule task).2 = jobs client
  fresh : ∀ client schedule task, ∀ id ∈ (addFunc client schedule task).1, jobs client id = none
  registered : ∀ client schedule task, ∀ id ∈ (addFunc client schedule task).1,
    jobs (addFunc client schedule task).2 =
      Function.update (jobs client) id (some (schedule, task))
  removed : ∀ client id, jobs (remove client id) = Function.update (jobs client) id none

variable {Task : Type} {engine : CronEngine Task}

structure CronScheduler (engine : CronEngine Task) where
  entries : GoMap CronEntry := ∅
  cronClient : engine.Client

inductive CronCall (Task : Type) where
  | addOrUpdate (cb : CassandraBackup) (task : Task)
  | remove (backupName : String)

def CronCall.backupName : CronCall Task → String
  | .addOrUpdate cb _ => cb.name
  | .remove backupName => backupName

namespace CronScheduler

def new (engine : CronEngine Task) : CronScheduler engine := { cronClient := engine.new }

def remove (schedule : CronScheduler engine) (backupName : String) : CronScheduler engine :=
  match schedule.entries.lookup backupName with
  | none => schedule
  | some entry =>
    { entries := schedule.entries.erase backupName
      cronClient := engine.remove schedule.cronClient entry.id }

def addOrUpdate (schedule : CronScheduler engine) (cb : CassandraBackup) (task : Task) :
    CronScheduler engine × Scheduler.Added :=
  if (schedule.entries.lookup cb.name).any fun entry => entry.schedule == cb.spec.schedule then
    (schedule, .skipped)
  else
    let removed := schedule.remove cb.name
    let (entryID, cronClient) := engine.addFunc removed.cronClient cb.spec.schedule task
    match entryID with
    | none => ({ removed with cronClient := cronClient }, .failed)
    | some id =>
      ({ entries := removed.entries.insert cb.name { id := id, schedule := cb.spec.schedule }
         cronClient := cronClient }, .scheduled)

def step (schedule : CronScheduler engine) : CronCall Task → CronScheduler engine
  | .addOrUpdate cb task => (schedule.addOrUpdate cb task).1
  | .remove backupName => schedule.remove backupName

def job (schedule : CronScheduler engine) : Nat → Option (String × Task) :=
  engine.jobs schedule.cronClient

def entry (schedule : CronScheduler engine) (name : String) : Option CronEntry :=
  schedule.entries.lookup name

/-- The table names the jobs, each under one name and with its schedule. -/
structure InStep (schedule : CronScheduler engine) : Prop where
  runs : ∀ name, ∀ entry ∈ schedule.entry name,
    ∃ task, schedule.job entry.id = some (entry.schedule, task)
  named : ∀ id, ∀ job ∈ schedule.job id, ∃ name, ∃ entry ∈ schedule.entry name, entry.id = id
  single : ∀ name other, ∀ entry ∈ schedule.entry name, ∀ entry' ∈ schedule.entry other,
    entry.id = entry'.id → name = other

/-- Nothing is changed about the other names. -/
structure KeepsOthers (name : String) (schedule schedule' : CronScheduler engine) : Prop where
  entry : ∀ other ≠ name, schedule'.entry other = schedule.entry other
  job : ∀ other ≠ name, ∀ entry ∈ schedule.entry other,
    schedule'.job entry.id = schedule.job entry.id

theorem KeepsOthers.refl (name : String) (schedule : CronScheduler engine) :
    KeepsOthers name schedule schedule :=
  ⟨fun _ _ => rfl, fun _ _ _ _ => rfl⟩

variable {schedule schedule' schedule'' : CronScheduler engine} {name : String}

theorem KeepsOthers.trans (first : KeepsOthers name schedule schedule')
    (second : KeepsOthers name schedule' schedule'') : KeepsOthers name schedule schedule'' := by
  constructor
  · intro other different
    exact (second.entry other different).trans (first.entry other different)
  · intro other different entry found
    have kept : entry ∈ schedule'.entry other := (first.entry other different).symm ▸ found
    exact (second.job other different entry kept).trans (first.job other different entry found)

theorem inStep_new (engine : CronEngine Task) : (new engine).InStep := by
  have idle : ∀ id, (new engine).job id = none := congrFun engine.jobs_new
  constructor
  · intro name entry found
    cases found
  · intro id job registered
    rw [idle] at registered
    cases registered
  · intro name other entry found
    cases found

section Changes

variable {entry : CronEntry} (inStep : schedule.InStep)

include inStep

theorem InStep.congr (entries : schedule'.entry = schedule.entry)
    (jobs : schedule'.job = schedule.job) :
    schedule'.InStep ∧ KeepsOthers name schedule schedule' := by
  obtain ⟨runs, named, single⟩ := inStep
  rw [← entries, ← jobs] at runs named
  rw [← entries] at single
  exact ⟨⟨runs, named, single⟩, fun _ _ => by rw [entries], fun _ _ _ _ => by rw [jobs]⟩

-- No other name has the id of the entry, so one job is gone for one entry.
theorem InStep.drop (found : schedule.entry name = some entry)
    (entries : schedule'.entry = Function.update schedule.entry name none)
    (jobs : schedule'.job = Function.update schedule.job entry.id none) :
    schedule'.InStep ∧ KeepsOthers name schedule schedule' := by
  obtain ⟨runs, named, single⟩ := inStep
  refine ⟨⟨?_, ?_, ?_⟩, ?_, ?_⟩ <;> simp only [entries, jobs, Function.update_apply] <;> grind

theorem InStep.put (task : Task) (absent : schedule.entry name = none)
    (unused : schedule.job entry.id = none)
    (entries : schedule'.entry = Function.update schedule.entry name (some entry))
    (jobs : schedule'.job = Function.update schedule.job entry.id (some (entry.schedule, task))) :
    schedule'.InStep ∧ KeepsOthers name schedule schedule' := by
  obtain ⟨runs, named, single⟩ := inStep
  refine ⟨⟨?_, ?_, ?_⟩, ?_, ?_⟩ <;> simp only [entries, jobs, Function.update_apply] <;> grind

end Changes

theorem entry_remove (schedule : CronScheduler engine) (name : String) :
    (schedule.remove name).entry = Function.update schedule.entry name none := by
  funext other
  unfold remove entry
  by_cases same : other = name
  · subst same
    cases found : schedule.entries.lookup other <;> simp [found]
  · rw [Function.update_of_ne same]
    split
    · rfl
    · exact Finmap.lookup_erase_ne same

theorem entry_insert (schedule : CronScheduler engine) (name : String) (entry : CronEntry)
    (cronClient : engine.Client) :
    CronScheduler.entry ⟨schedule.entries.insert name entry, cronClient⟩ =
      Function.update schedule.entry name (some entry) := by
  funext other
  by_cases same : other = name
  · subst same
    simp [CronScheduler.entry]
  · simp [CronScheduler.entry, same, Finmap.lookup_insert_of_ne _ same]

section Steps

variable (inStep : schedule.InStep)

include inStep

theorem InStep.remove (name : String) :
    (schedule.remove name).InStep ∧ KeepsOthers name schedule (schedule.remove name) := by
  have entries := schedule.entry_remove name
  unfold CronScheduler.remove at entries ⊢
  split
  · exact ⟨inStep, .refl name schedule⟩
  · rename_i entry found
    rw [found] at entries
    exact inStep.drop found entries (engine.removed schedule.cronClient entry.id)

theorem InStep.addOrUpdate (cb : CassandraBackup) (task : Task) :
    let result := schedule.addOrUpdate cb task
    (result.1.InStep ∧ KeepsOthers cb.name schedule result.1) ∧
      (result.2 = .failed → result.1.entry cb.name = none) := by
  obtain ⟨removed, others⟩ := inStep.remove cb.name
  have absent : (schedule.remove cb.name).entry cb.name = none := by simp [entry_remove]
  have refused := engine.refused (schedule.remove cb.name).cronClient cb.spec.schedule task
  have fresh := engine.fresh (schedule.remove cb.name).cronClient cb.spec.schedule task
  have registered := engine.registered (schedule.remove cb.name).cronClient cb.spec.schedule task
  unfold CronScheduler.addOrUpdate
  split
  · exact ⟨⟨inStep, .refl cb.name schedule⟩, fun failed => by cases failed⟩
  dsimp only
  split
  · rename_i none
    refine ⟨And.imp_right others.trans ?_, fun _ => absent⟩
    exact removed.congr rfl (refused none)
  · rename_i id some
    refine ⟨And.imp_right others.trans ?_, fun failed => by cases failed⟩
    refine removed.put task absent ?_ (entry_insert _ cb.name ⟨id, cb.spec.schedule⟩ _) ?_
    · exact fresh id some
    · exact registered id some

theorem InStep.step (call : CronCall Task) :
    (schedule.step call).InStep ∧ KeepsOthers call.backupName schedule (schedule.step call) := by
  cases call with
  | addOrUpdate cb task => exact (inStep.addOrUpdate cb task).1
  | remove backupName => exact inStep.remove backupName

end Steps

end CronScheduler

/-- The engine keeps its jobs in a list and counts its ids. -/
structure CronClient where
  tasks : List CronTask
  nextId : Nat
  used : ∀ task ∈ tasks, task.id < nextId

namespace CronClient

def job (client : CronClient) (id : Nat) : Option (String × CassandraBackup) :=
  (client.tasks.find? fun task => task.id == id).map fun task => (task.schedule, task.backup)

def add (client : CronClient) (schedule : String) (cb : CassandraBackup) : CronClient where
  tasks := client.tasks ++ [{ id := client.nextId, schedule := schedule, backup := cb }]
  nextId := client.nextId + 1
  used := by
    intro task member
    rcases List.mem_append.mp member with old | new
    · exact Nat.lt_succ_of_lt (client.used task old)
    · rw [List.mem_singleton.mp new]
      exact Nat.lt_succ_self _

def remove (client : CronClient) (id : Nat) : CronClient where
  tasks := client.tasks.filter fun task => task.id != id
  nextId := client.nextId
  used := fun task member => client.used task (List.mem_of_mem_filter member)

variable (client : CronClient)

theorem find?_nextId : client.tasks.find? (fun task => task.id == client.nextId) = none := by
  simp only [List.find?_eq_none, beq_iff_eq]
  intro task member
  exact Nat.ne_of_lt (client.used task member)

theorem job_add (schedule : String) (cb : CassandraBackup) :
    (client.add schedule cb).job =
      Function.update client.job client.nextId (some (schedule, cb)) := by
  funext id
  by_cases same : id = client.nextId
  · simp [same, job, add, List.find?_append, client.find?_nextId]
  · have other : (client.nextId == id) = false := by simpa using Ne.symm same
    simp [same, job, add, List.find?_append, other]

theorem job_remove (id : Nat) : (client.remove id).job = Function.update client.job id none := by
  funext other
  by_cases same : other = id
  · simp [same, job, remove, List.find?_filter]
  · simp only [Function.update_of_ne same, job, remove, List.find?_filter]
    congr 2
    funext task
    by_cases here : task.id = other <;> simp [here, same]

end CronClient

def robfigEngine (library : BackupLibrary) : CronEngine CassandraBackup where
  Client := CronClient
  new := ⟨[], 1, by simp⟩
  jobs := CronClient.job
  addFunc client schedule cb :=
    if library.parsesSchedule schedule then (some client.nextId, client.add schedule cb)
    else (none, client)
  remove := CronClient.remove
  jobs_new := rfl
  refused client schedule cb refused := by
    split at refused
    · cases refused
    · rename_i invalid
      rw [if_neg invalid]
  fresh client schedule cb id registered := by
    split at registered
    · cases registered
      simp [CronClient.job, client.find?_nextId]
    · cases registered
  registered client schedule cb id registered := by
    split at registered
    · rename_i valid
      cases registered
      rw [if_pos valid]
      exact client.job_add schedule cb
    · cases registered
  removed := CronClient.job_remove

section Passes

variable {library : BackupLibrary} (schedule : CronScheduler (robfigEngine library))

/-- The scheduler as the passes have it. -/
def CronScheduler.ofPasses : Scheduler :=
  let client : CronClient := schedule.cronClient
  { entries := schedule.entries, tasks := client.tasks, nextId := client.nextId }

theorem CronScheduler.ofPasses_remove (name : String) :
    schedule.ofPasses.remove name = (schedule.remove name).ofPasses := by
  unfold CronScheduler.remove Scheduler.remove
  cases found : schedule.entries.lookup name <;> simp [ofPasses, found, robfigEngine,
    CronClient.remove]

end Passes

end Casskop
