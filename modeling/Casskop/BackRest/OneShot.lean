import Casskop.BackRest.Backup

/-!
# Backups without a schedule

A backup without a schedule is taken once.  That it was taken is read from the status of
its object, which the background backup writes after it has submitted its request.  Until
then nothing keeps another pass from starting the same backup, and a background backup that
dies before leaves no trace.
-/

namespace Casskop

/-! ## Events -/

inductive BackupEvent where
  | reconcile (key : String × String) (answers : BackupAnswers)
  | submit (index : Nat) (answer : Delivery OperationResponse)
  | poll (index : Nat) (answer : Except Unit OperationResponse) (now : String)
      (patch : Delivery Unit)
  | restart

def backupStep (library : BackupLibrary) (world : BackupWorld) : BackupEvent → BackupWorld
  | .reconcile key answers => world.reconcile library key answers
  | .submit index answer => world.submit index answer
  | .poll index answer now patch => world.poll index answer now patch
  | .restart => world.restart

/-- What is backed up, and where to. -/
structure BackupTarget where
  ns : String
  snapshotTag : String
  storageLocation : String
  cassandraCluster : String
  datacenter : String
  deriving DecidableEq, Repr

def CassandraBackup.target (cb : CassandraBackup) : BackupTarget :=
  { ns := cb.ns
    snapshotTag := cb.spec.snapshotTag
    storageLocation := cb.spec.storageLocation
    cassandraCluster := cb.spec.cassandraCluster
    datacenter := cb.spec.datacenter }

/-- The status of some object says that the target was backed up. -/
def Taken (backups : List CassandraBackup) (target : BackupTarget) : Prop :=
  ∃ cb ∈ backups, cb.target = target ∧ cb.ran = true

/-! ## What stays of the objects -/

/-- Objects as the API server can hold them, none of them with a schedule. -/
structure OneShots (backups : List CassandraBackup) : Prop where
  keys : (backups.map CassandraBackup.key).Nodup
  unscheduled : ∀ cb ∈ backups, cb.isScheduled = false
  guarded : ∀ cb ∈ backups, cb.deletionTimestamp = true → cb.finalizers ≠ []

/-- An object and what a step has made of it: at most its annotation is brought up to date
and its status gets a condition. -/
structure Kept (old new : CassandraBackup) : Prop where
  key : new.key = old.key
  spec : new.spec = old.spec
  guarded : new.deletionTimestamp = old.deletionTimestamp ∧ new.finalizers = old.finalizers
  ran : old.ran = true → new.ran = true

theorem Kept.refl (cb : CassandraBackup) : Kept cb cb := ⟨rfl, rfl, ⟨rfl, rfl⟩, id⟩

variable {cb : CassandraBackup}

theorem target_congr {other : CassandraBackup} (key : other.key = cb.key)
    (spec : other.spec = cb.spec) : other.target = cb.target := by
  have ns : other.ns = cb.ns := congrArg Prod.fst key
  simp only [CassandraBackup.target, ns, spec]

/-- The objects of a later world, one by one. -/
def AllKept (old new : List CassandraBackup) : Prop :=
  ∃ change : CassandraBackup → CassandraBackup,
    new = old.map change ∧ ∀ cb ∈ old, Kept cb (change cb)

variable {target : BackupTarget}

section Objects

variable {old new : List CassandraBackup}

theorem AllKept.refl (backups : List CassandraBackup) : AllKept backups backups :=
  ⟨id, (List.map_id backups).symm, fun cb _ => Kept.refl cb⟩

theorem AllKept.replace (key : String × String) (change : CassandraBackup → CassandraBackup)
    (kept : ∀ other ∈ old, other.key = key → Kept other (change other)) :
    AllKept old (old.map fun other => if other.key = key then change other else other) := by
  refine ⟨_, rfl, fun other member => ?_⟩
  split
  · rename_i same
    exact kept other member same
  · exact Kept.refl other

theorem AllKept.oneShots (kept : AllKept old new) (oneShots : OneShots old) : OneShots new := by
  obtain ⟨change, rfl, each⟩ := kept
  constructor
  · have keys : (old.map change).map CassandraBackup.key = old.map CassandraBackup.key := by
      rw [List.map_map, List.map_inj_left]
      exact fun cb member => (each cb member).key
    rw [keys]
    exact oneShots.keys
  · intro cb member
    obtain ⟨before, stored, rfl⟩ := List.mem_map.mp member
    have unscheduled := oneShots.unscheduled before stored
    unfold CassandraBackup.isScheduled at unscheduled ⊢
    rw [(each before stored).spec]
    exact unscheduled
  · intro cb member
    obtain ⟨before, stored, rfl⟩ := List.mem_map.mp member
    obtain ⟨deletion, finalizers⟩ := (each before stored).guarded
    rw [deletion, finalizers]
    exact oneShots.guarded before stored

theorem AllKept.mem (kept : AllKept old new) (member : cb ∈ old) :
    ∃ later ∈ new, Kept cb later := by
  obtain ⟨change, rfl, each⟩ := kept
  exact ⟨change cb, List.mem_map_of_mem member, each cb member⟩

theorem AllKept.of_mem (kept : AllKept old new) (member : cb ∈ new) :
    ∃ before ∈ old, Kept before cb := by
  obtain ⟨change, rfl, each⟩ := kept
  obtain ⟨before, stored, rfl⟩ := List.mem_map.mp member
  exact ⟨before, stored, each before stored⟩

theorem AllKept.taken (kept : AllKept old new) (taken : Taken old target) : Taken new target := by
  obtain ⟨cb, stored, same, ran⟩ := taken
  obtain ⟨later, member, laterKept⟩ := kept.mem stored
  exact ⟨later, member, (target_congr laterKept.key laterKept.spec).trans same,
    laterKept.ran ran⟩

/-- A backup that was taken is found by the pass on another one with the same target. -/
theorem OneShots.existing_of_taken (oneShots : OneShots old) (taken : Taken old cb.target) :
    existingNotScheduledSnapshot old cb = true := by
  obtain ⟨other, stored, same, ran⟩ := taken
  have unscheduled := oneShots.unscheduled other stored
  simp only [CassandraBackup.target, BackupTarget.mk.injEq] at same
  unfold existingNotScheduledSnapshot
  rw [List.any_eq_true]
  exact ⟨other, stored, by simp [unscheduled, ran, same]⟩

end Objects

/-! ## The pass -/

variable {library : BackupLibrary} {world : BackupWorld}

section Pass

variable {answers : BackupAnswers}

theorem reconcileCompared_oneShot (backups : List CassandraBackup) (scheduler : Scheduler)
    (instanceChanged : Bool) (unscheduled : cb.isScheduled = false) :
    let pass := reconcileCompared library backups answers scheduler instanceChanged cb
    (∃ status : BackRestStatus, pass.backup = { cb with status := status } ∧
      (cb.ran = true → status.condition.isSome = true)) ∧
    ∀ task ∈ pass.started, cb.ran = false ∧ existingNotScheduledSnapshot backups cb = false ∧
      task.operation = none ∧ task.backup.key = cb.key ∧ task.backup.spec = cb.spec := by
  intro pass
  simp only [pass]
  unfold reconcileCompared
  split
  · exact ⟨⟨cb.status, rfl, id⟩, by simp⟩
  rename_i notRun
  have fresh : cb.ran = false := by simpa [unscheduled] using notRun
  have never : ∀ status : BackRestStatus, cb.ran = true → status.condition.isSome = true := by
    intro status ran
    rw [fresh] at ran
    cases ran
  split
  · exact ⟨⟨cb.status, rfl, id⟩, by simp⟩
  dsimp only
  split
  · exact ⟨⟨{}, rfl, never _⟩, by simp⟩
  rename_i passed
  have single : existingNotScheduledSnapshot backups cb = false := by
    simp only [Bool.or_eq_true, not_or, Bool.not_eq_true] at passed
    exact passed.1.1.1.2
  rw [if_neg (by
    change ¬ cb.isScheduled = true
    rw [unscheduled]
    exact Bool.false_ne_true)]
  unfold backupData
  split
  · exact ⟨⟨{}, rfl, never _⟩, by simp⟩
  split
  · exact ⟨⟨{}, rfl, never _⟩, by simp⟩
  · refine ⟨⟨_, rfl, never _⟩, ?_⟩
    intro task member
    cases member
    exact ⟨fresh, single, rfl, rfl, rfl⟩

/-- A pass on objects without a schedule keeps them, and starts a backup only if there is
none yet. -/
theorem reconcile_oneShot (oneShots : OneShots world.backups) (key : String × String)
    (answers : BackupAnswers) :
    let after := world.reconcile library key answers
    AllKept world.backups after.backups ∧ after.sent = world.sent ∧
      (after.running = world.running ∨
        ∃ cb ∈ world.backups, ∃ task : BackgroundBackup, cb.key = key ∧ cb.ran = false ∧
          existingNotScheduledSnapshot world.backups cb = false ∧
          after.running = world.running ++ [task] ∧ task.operation = none ∧
          task.backup.key = cb.key ∧ task.backup.spec = cb.spec) := by
  intro after
  simp only [after]
  unfold BackupWorld.reconcile
  split
  · rename_i cb got found
    have stored := List.mem_of_find?_eq_some found
    have named : cb.key = key := by simpa using List.find?_some found
    have unscheduled := oneShots.unscheduled cb stored
    unfold BackupWorld.reconcileFound
    rw [if_neg (by simp [unscheduled])]
    dsimp only
    obtain ⟨⟨status, written, ran⟩, started⟩ := @reconcileCompared_oneShot
      { cb with annotation := some cb.computeLastAppliedAnnotation } library answers world.backups
      world.scheduler (cb.annotation != some cb.computeLastAppliedAnnotation) unscheduled
    refine ⟨?_, rfl, ?_⟩
    · split
      · rw [written]
        unfold BackupWorld.write
        rw [if_neg]
        · refine AllKept.replace cb.key _ fun other member same => ?_
          have equal := List.inj_on_of_nodup_map oneShots.keys member stored same
          rw [equal]
          exact ⟨rfl, rfl, ⟨rfl, rfl⟩, ran⟩
        · intro gone
          obtain ⟨deleted, empty⟩ := Bool.and_eq_true_iff.mp gone
          exact oneShots.guarded cb stored deleted (List.isEmpty_iff.mp empty)
      · exact AllKept.refl _
    · generalize (reconcileCompared library world.backups answers world.scheduler
        (cb.annotation != some cb.computeLastAppliedAnnotation)
        { cb with annotation := some cb.computeLastAppliedAnnotation }).started = start at started
      cases start with
      | none => exact Or.inl (List.append_nil _)
      | some task =>
        obtain ⟨fresh, single, waiting, sameKey, spec⟩ := started task rfl
        exact Or.inr ⟨cb, stored, task, named, fresh, single, rfl, waiting, sameKey, spec⟩
  · exact ⟨AllKept.refl _, rfl, Or.inl rfl⟩

end Pass

/-! ## At most one request -/

/-- The steps that keep backups apart: a pass finds no backup of the same target under way,
every submission is answered, the sidecar answers until the status was written, each time
at another time, and the operator does not restart before. -/
def BackupEvent.Orderly (world : BackupWorld) : BackupEvent → Prop
  | .reconcile key _ =>
    ∀ cb ∈ world.backups, cb.key = key → cb.ran = false →
      existingNotScheduledSnapshot world.backups cb = false →
      ∀ task ∈ world.running, task.backup.target ≠ cb.target
  | .submit _ answer => ∃ response, answer = .answered response ∧ response.id ≠ ""
  | .poll index answer now _ =>
    ∀ task, world.running[index]? = some task → ¬ Taken world.backups task.backup.target →
      (∃ response, answer = .ok response) ∧
        ∀ condition ∈ task.backup.status.condition, condition.lastTransitionTime ≠ now
  | .restart =>
    ∀ task ∈ world.running, task.operation.isSome = true →
      Taken world.backups task.backup.target

def sentFor (target : BackupTarget) (sent : List SentBackup) : Nat :=
  sent.countP fun request => request.backup.target = target

/-- Background backups of a target that have not sent their request yet. -/
def waitingFor (target : BackupTarget) (running : List BackgroundBackup) : Nat :=
  running.countP fun task => task.backup.target = target ∧ task.operation = none

structure OneEach (world : BackupWorld) : Prop where
  oneShots : OneShots world.backups
  owned : ∀ task ∈ world.running, ∃ cb ∈ world.backups,
    cb.key = task.backup.key ∧ cb.spec = task.backup.spec
  /-- A background backup that was answered has an operation it can ask for. -/
  operation : ∀ task ∈ world.running, task.operation ≠ some ""
  once : ∀ target, sentFor target world.sent + waitingFor target world.running ≤ 1
  /-- A request that was sent is recorded, or somebody is going to record it. -/
  followed : ∀ request ∈ world.sent,
    Taken world.backups request.backup.target ∨
      ∃ task ∈ world.running, task.backup.target = request.backup.target ∧
        task.operation.isSome = true

variable {running : List BackgroundBackup} {task : BackgroundBackup}

section Steps

theorem sentFor_pos_iff {sent : List SentBackup} :
    0 < sentFor target sent ↔ ∃ request ∈ sent, request.backup.target = target := by
  unfold sentFor
  simp [List.countP_pos_iff]

theorem waitingFor_pos (waiting : 0 < waitingFor target running) :
    ∃ task ∈ running, task.backup.target = target := by
  unfold waitingFor at waiting
  obtain ⟨task, member, holds⟩ := List.countP_pos_iff.mp waiting
  exact ⟨task, member, (of_decide_eq_true holds).1⟩

theorem OneEach.reconcile (each : OneEach world) (key : String × String) (answers : BackupAnswers)
    (orderly : (BackupEvent.reconcile key answers).Orderly world) :
    OneEach (backupStep library world (.reconcile key answers)) := by
  change OneEach (world.reconcile library key answers)
  obtain ⟨kept, sent, running⟩ := @reconcile_oneShot library world each.oneShots key answers
  generalize world.reconcile library key answers = after at kept sent running
  have owned : ∀ task ∈ world.running, ∃ cb ∈ after.backups,
      cb.key = task.backup.key ∧ cb.spec = task.backup.spec := by
    intro task member
    obtain ⟨cb, stored, key, spec⟩ := each.owned task member
    obtain ⟨later, laterStored, laterKept⟩ := kept.mem stored
    exact ⟨later, laterStored, laterKept.key.trans key, laterKept.spec.trans spec⟩
  rcases running with same |
    ⟨cb, stored, task, named, fresh, single, started, waiting, sameKey, spec⟩
  · refine ⟨kept.oneShots each.oneShots, ?_, ?_, ?_, ?_⟩
    · rw [same]
      exact owned
    · rw [same]
      exact each.operation
    · rw [sent, same]
      exact each.once
    · rw [sent, same]
      intro request member
      exact (each.followed request member).imp_left kept.taken
  · -- Nothing was sent for the target, and nobody is about to.
    have target : task.backup.target = cb.target := target_congr sameKey spec
    have apart := orderly cb stored named fresh single
    have untaken : ¬ Taken world.backups cb.target := by
      intro taken
      rw [each.oneShots.existing_of_taken taken] at single
      cases single
    have unsent : sentFor cb.target world.sent = 0 := by
      by_contra some
      obtain ⟨request, member, same⟩ := sentFor_pos_iff.mp (Nat.pos_of_ne_zero some)
      rcases each.followed request member with taken | ⟨other, alive, sameTarget, _⟩
      · exact untaken (same ▸ taken)
      · exact apart other alive (sameTarget.trans same)
    have nobody : waitingFor cb.target world.running = 0 := by
      by_contra some
      obtain ⟨other, alive, same⟩ := waitingFor_pos (Nat.pos_of_ne_zero some)
      exact apart other alive same
    refine ⟨kept.oneShots each.oneShots, ?_, ?_, ?_, ?_⟩
    · rw [started]
      intro other member
      rcases List.mem_append.mp member with old | new
      · exact owned other old
      · rw [List.mem_singleton.mp new]
        obtain ⟨later, laterStored, laterKept⟩ := kept.mem stored
        exact ⟨later, laterStored, laterKept.key.trans sameKey.symm,
          laterKept.spec.trans spec.symm⟩
    · rw [started]
      intro other member
      rcases List.mem_append.mp member with old | new
      · exact each.operation other old
      · rw [List.mem_singleton.mp new, waiting]
        exact Option.some_ne_none "" |>.symm
    · intro other
      rw [sent, started]
      unfold waitingFor
      rw [List.countP_append]
      have old := each.once other
      unfold waitingFor at old
      by_cases same : task.backup.target = other
      · subst same
        rw [target] at old ⊢
        rw [unsent, show List.countP _ world.running = 0 from nobody]
        simp [target, waiting]
      · simpa [same] using old
    · rw [sent, started]
      intro request member
      refine (each.followed request member).imp kept.taken ?_
      rintro ⟨other, alive, same⟩
      exact ⟨other, List.mem_append_left _ alive, same⟩

theorem OneEach.perm (each : OneEach world) (perm : world.running.Perm running) :
    OneEach { world with running := running } where
  oneShots := each.oneShots
  owned := fun task member => each.owned task (perm.mem_iff.mpr member)
  operation := fun task member => each.operation task (perm.mem_iff.mpr member)
  once := by
    intro target
    have before := each.once target
    unfold waitingFor at before ⊢
    rw [perm.countP_eq] at before
    exact before
  followed := by
    intro request member
    refine (each.followed request member).imp_right ?_
    rintro ⟨task, alive, holds⟩
    exact ⟨task, perm.mem_iff.mp alive, holds⟩

theorem perm_of_getElem? {index : Nat} (found : running[index]? = some task) :
    running.Perm (task :: running.eraseIdx index) ∧
      ∀ other, (other :: running.eraseIdx index).Perm (running.set index other) := by
  obtain ⟨bound, here⟩ := List.getElem?_eq_some_iff.mp found
  refine ⟨?_, fun other => (List.set_perm_cons_eraseIdx bound other).symm⟩
  have split := (List.getElem_cons_eraseIdx_perm bound).symm
  rwa [here] at split

theorem OneEach.submit (each : OneEach world) (index : Nat) (answer : Delivery OperationResponse)
    (orderly : (BackupEvent.submit index answer).Orderly world) :
    OneEach (backupStep library world (.submit index answer)) := by
  change OneEach (world.submit index answer)
  obtain ⟨response, rfl, named⟩ := orderly
  unfold BackupWorld.submit
  split
  · exact each
  rename_i task found
  split
  · exact each
  rename_i unsent
  have waiting : task.operation = none := by simpa using unsent
  obtain ⟨split, joined⟩ := perm_of_getElem? found
  have before := each.perm split
  generalize world.running.eraseIdx index = others at split joined before
  let submitted : BackgroundBackup := { task with operation := some response.id }
  let request : SentBackup :=
    { backup := task.backup, request := backupOperationRequest task.backup }
  refine OneEach.perm (?_ : OneEach { world with
    sent := world.sent ++ [request], running := submitted :: others }) (joined submitted)
  constructor
  · exact each.oneShots
  · intro other member
    rcases List.mem_cons.mp member with rfl | old
    · exact before.owned task List.mem_cons_self
    · exact before.owned other (List.mem_cons_of_mem _ old)
  · intro other member
    rcases List.mem_cons.mp member with rfl | old
    · simpa [submitted] using named
    · exact before.operation other (List.mem_cons_of_mem _ old)
  · intro target
    have count := before.once target
    unfold sentFor waitingFor at count ⊢
    by_cases same : task.backup.target = target
    · simp [same, waiting, List.countP_append, submitted, request] at count ⊢
      omega
    · simpa [same, List.countP_append, submitted, request] using count
  · intro other member
    rcases List.mem_append.mp member with old | new
    · refine (before.followed other old).imp_right ?_
      rintro ⟨follower, alive, same, started⟩
      rcases List.mem_cons.mp alive with rfl | rest
      · exact ⟨submitted, List.mem_cons_self, same, rfl⟩
      · exact ⟨follower, List.mem_cons_of_mem _ rest, same, started⟩
    · rw [List.mem_singleton.mp new]
      exact Or.inr ⟨submitted, List.mem_cons_self, rfl, rfl⟩

theorem OneEach.forget {others : List BackgroundBackup}
    (each : OneEach { world with running := task :: others })
    (taken : Taken world.backups task.backup.target) :
    OneEach { world with running := others } where
  oneShots := each.oneShots
  owned := fun other member => each.owned other (List.mem_cons_of_mem _ member)
  operation := fun other member => each.operation other (List.mem_cons_of_mem _ member)
  once := by
    intro target
    have count := each.once target
    unfold waitingFor at count ⊢
    rw [List.countP_cons] at count
    exact le_trans (Nat.add_le_add_left (Nat.le_add_right _ _) _) count
  followed := by
    intro request member
    rcases each.followed request member with recorded | ⟨other, alive, same, started⟩
    · exact Or.inl recorded
    · rcases List.mem_cons.mp alive with rfl | rest
      · exact Or.inl (same ▸ taken)
      · exact Or.inr ⟨other, rest, same, started⟩

theorem OneEach.keep (each : OneEach world) {backups : List CassandraBackup}
    (kept : AllKept world.backups backups) : OneEach { world with backups := backups } where
  oneShots := kept.oneShots each.oneShots
  owned := by
    intro task member
    obtain ⟨cb, stored, key, spec⟩ := each.owned task member
    obtain ⟨later, laterStored, laterKept⟩ := kept.mem stored
    exact ⟨later, laterStored, laterKept.key.trans key, laterKept.spec.trans spec⟩
  operation := each.operation
  once := each.once
  followed := fun request member => (each.followed request member).imp_left kept.taken

theorem OneEach.refresh {others : List BackgroundBackup}
    (each : OneEach { world with running := task :: others }) (status : BackRestStatus) :
    OneEach { world with
      running := { task with backup := { task.backup with status := status } } :: others } where
  oneShots := each.oneShots
  owned := by
    intro other member
    rcases List.mem_cons.mp member with rfl | old
    · exact each.owned task List.mem_cons_self
    · exact each.owned other (List.mem_cons_of_mem _ old)
  operation := by
    intro other member
    rcases List.mem_cons.mp member with rfl | old
    · exact each.operation task List.mem_cons_self
    · exact each.operation other (List.mem_cons_of_mem _ old)
  once := by
    intro target
    have count := each.once target
    unfold waitingFor at count ⊢
    rw [List.countP_cons] at count ⊢
    exact count
  followed := by
    intro request member
    refine (each.followed request member).imp_right ?_
    rintro ⟨follower, alive, same, started⟩
    rcases List.mem_cons.mp alive with rfl | rest
    · exact ⟨_, List.mem_cons_self, same, started⟩
    · exact ⟨follower, List.mem_cons_of_mem _ rest, same, started⟩

theorem recordStatus_kept (task : BackgroundBackup) (now : String)
    (response : OperationResponse) (patch : Delivery Unit) :
    AllKept world.backups (world.recordStatus task
      (computeBackupStatus now response task.coordinator) patch) := by
  unfold BackupWorld.recordStatus
  split
  · refine AllKept.replace task.backup.key _ fun cb _ _ => ⟨rfl, rfl, ⟨rfl, rfl⟩, fun ran => ?_⟩
    change (if _ then cb.status.condition else some _).isSome = true
    split
    · exact ran
    · rfl
  · exact AllKept.refl _

theorem recordStatus_taken (each : OneEach world) (running : task ∈ world.running) {now : String}
    (response : OperationResponse) {patch : Delivery Unit} (accepted : patch.accepted = true)
    (later : ∀ condition ∈ task.backup.status.condition, condition.lastTransitionTime ≠ now) :
    Taken (world.recordStatus task (computeBackupStatus now response task.coordinator) patch)
      task.backup.target := by
  obtain ⟨cb, stored, key, spec⟩ := each.owned task running
  unfold BackupWorld.recordStatus
  rw [if_pos accepted]
  refine ⟨_, List.mem_map.mpr ⟨cb, stored, if_pos key⟩, target_congr key spec, ?_⟩
  change (if task.backup.status.condition = some _ then cb.status.condition else some _).isSome
    = true
  split
  · rename_i same
    exact absurd rfl (later _ same)
  · rfl

theorem OneEach.poll (each : OneEach world) (index : Nat)
    (answer : Except Unit OperationResponse) (now : String) (patch : Delivery Unit)
    (orderly : (BackupEvent.poll index answer now patch).Orderly world) :
    OneEach (backupStep library world (.poll index answer now patch)) := by
  change OneEach (world.poll index answer now patch)
  unfold BackupWorld.poll
  split
  · exact each
  rename_i task found
  obtain ⟨split, joined⟩ := perm_of_getElem? found
  have running : task ∈ world.running := split.mem_iff.mpr List.mem_cons_self
  have before := each.perm split
  have looks := orderly task found
  split
  · exact each
  · rename_i operation response asked
    rw [if_neg]
    · have kept := @recordStatus_kept world task now response patch
      let after : BackupWorld :=
        { world with
          backups := world.recordStatus task
            (computeBackupStatus now response task.coordinator) patch }
      have recorded : OneEach { after with running := task :: world.running.eraseIdx index } :=
        before.keep kept
      dsimp only
      split
      · rename_i finished
        refine @OneEach.forget after task _ recorded ?_
        by_cases taken : Taken world.backups task.backup.target
        · exact kept.taken taken
        · have answered : patch = .answered () := by
            simpa using (Bool.and_eq_true_iff.mp finished).1
          exact recordStatus_taken each running response (by rw [answered]; rfl) (looks taken).2
      · exact (@OneEach.refresh after task _ recorded _).perm (joined _)
    · rintro rfl
      exact each.operation task running asked
  · rename_i asked
    by_cases taken : Taken world.backups task.backup.target
    · exact before.forget taken
    · obtain ⟨response, impossible⟩ := (looks taken).1
      cases impossible

theorem OneEach.restart (each : OneEach world) (orderly : BackupEvent.restart.Orderly world) :
    OneEach (backupStep library world .restart) where
  oneShots := each.oneShots
  owned := by
    intro task member
    cases member
  operation := by
    intro task member
    cases member
  once := by
    intro target
    exact le_trans (Nat.le_add_right _ _) (each.once target)
  followed := by
    intro request member
    rcases each.followed request member with recorded | ⟨task, alive, same, started⟩
    · exact Or.inl recorded
    · exact Or.inl (same ▸ orderly task alive started)

theorem OneEach.step (each : OneEach world) (event : BackupEvent)
    (orderly : event.Orderly world) : OneEach (backupStep library world event) := by
  cases event with
  | reconcile key answers => exact each.reconcile key answers orderly
  | submit index answer => exact each.submit index answer orderly
  | poll index answer now patch => exact each.poll index answer now patch orderly
  | restart => exact each.restart orderly

end Steps

/-! ## Runs -/

/-- No two namespaces back up the same datacenter of a cluster of the same name to the same
place under the same snapshot. -/
def NamespacesApart (backups : List CassandraBackup) : Prop :=
  ∀ cb ∈ backups, ∀ other ∈ backups, other.spec.snapshotTag = cb.spec.snapshotTag →
    other.spec.storageLocation = cb.spec.storageLocation →
    other.spec.cassandraCluster = cb.spec.cassandraCluster →
    other.spec.datacenter = cb.spec.datacenter → other.ns = cb.ns

theorem AllKept.apart {old new : List CassandraBackup} (kept : AllKept old new)
    (apart : NamespacesApart old) : NamespacesApart new := by
  intro cb member other otherMember tag location cluster datacenter
  obtain ⟨before, stored, beforeKept⟩ := kept.of_mem member
  obtain ⟨otherBefore, otherStored, otherKept⟩ := kept.of_mem otherMember
  rw [beforeKept.spec, otherKept.spec] at tag location cluster datacenter
  have same := apart before stored otherBefore otherStored tag location cluster datacenter
  exact (congrArg Prod.fst otherKept.key).trans
    (same.trans (congrArg Prod.fst beforeKept.key).symm)

/-- A backup is skipped for one of its own namespace only. -/
theorem NamespacesApart.taken {backups : List CassandraBackup} (apart : NamespacesApart backups)
    (stored : cb ∈ backups) (existing : existingNotScheduledSnapshot backups cb = true) :
    Taken backups cb.target := by
  obtain ⟨other, otherStored, matching⟩ := List.any_eq_true.mp existing
  simp only [Bool.and_eq_true, beq_iff_eq] at matching
  obtain ⟨⟨⟨⟨⟨_, ran⟩, tag⟩, location⟩, cluster⟩, datacenter⟩ := matching
  have ns := apart cb stored other otherStored tag location cluster datacenter
  refine ⟨other, otherStored, ?_, ran⟩
  simp only [CassandraBackup.target, ns, tag, location, cluster, datacenter]

theorem backupStep_kept (oneShots : OneShots world.backups) (event : BackupEvent) :
    AllKept world.backups (backupStep library world event).backups := by
  cases event with
  | reconcile key answers => exact (@reconcile_oneShot library world oneShots key answers).1
  | submit index answer =>
    change AllKept world.backups (world.submit index answer).backups
    unfold BackupWorld.submit
    split
    · exact AllKept.refl _
    split
    · exact AllKept.refl _
    · exact AllKept.refl _
  | poll index answer now patch =>
    change AllKept world.backups (world.poll index answer now patch).backups
    unfold BackupWorld.poll
    split
    · exact AllKept.refl _
    split
    · exact AllKept.refl _
    · split
      · exact AllKept.refl _
      · exact recordStatus_kept _ _ _ _
    · exact AllKept.refl _
  | restart => exact AllKept.refl _

structure Separated (world : BackupWorld) : Prop where
  each : OneEach world
  apart : NamespacesApart world.backups

/-- In an orderly run at most one request is sent for a target, and no backup is skipped
for one of another namespace. -/
theorem backups_submitted_once (library : BackupLibrary) (backups : List CassandraBackup)
    (oneShots : OneShots backups) (apart : NamespacesApart backups) (events : List BackupEvent)
    (orderly : Runs.Meets (backupStep library) (fun world event => event.Orderly world)
      { backups := backups } events) :
    let world := Runs.run (backupStep library) { backups := backups } events
    (∀ target, sentFor target world.sent ≤ 1) ∧
      ∀ cb ∈ world.backups, existingNotScheduledSnapshot world.backups cb = true →
        Taken world.backups cb.target := by
  intro world
  have start : OneEach { backups := backups } :=
    { oneShots := oneShots
      owned := by simp
      operation := by simp
      once := by simp [sentFor, waitingFor]
      followed := by simp }
  have separated : Separated world := orderly.keeps ⟨start, apart⟩ fun before event holds keeps =>
    ⟨holds.each.step event keeps, (backupStep_kept holds.each.oneShots event).apart holds.apart⟩
  refine ⟨fun target => ?_, fun cb stored existing => separated.apart.taken stored existing⟩
  exact le_trans (Nat.le_add_right _ _) (separated.each.once target)

/-! ## Two passes in a row -/

def onceSpec : CassandraBackupSpec :=
  { cassandraCluster := "demo"
    datacenter := "dc1"
    storageLocation := "file:///backups"
    snapshotTag := "before-upgrade" }

def oneBackup : CassandraBackup := { name := "once", ns := "team-a", spec := onceSpec }

/-- Its background backup after the request was answered. -/
def oneTask : BackgroundBackup :=
  { backup :=
      { oneBackup with
        annotation := some oneBackup.computeLastAppliedAnnotation
        status := { coordinatorMember := "demo-dc1-rack1-0" } }
    coordinator := "demo-dc1-rack1-0"
    operation := some "op-1" }

theorem oneBackup_submitted_once :
    let world := Runs.run (backupStep lenientLibrary) { backups := [oneBackup] }
      [.reconcile ("team-a", "once") smoothPass,
        .submit 0 (.answered { id := "op-1", state := .pending }),
        .poll 0 (.ok { id := "op-1", state := .running }) "10:00:02" (.answered ()),
        .reconcile ("team-a", "once") smoothPass]
    (∀ target, sentFor target world.sent ≤ 1) ∧
      ∀ cb ∈ world.backups, existingNotScheduledSnapshot world.backups cb = true →
        Taken world.backups cb.target := by
  refine backups_submitted_once _ _ ?_ ?_ _ ⟨?_, ⟨_, rfl, by simp⟩, ?_, ?_, trivial⟩
  · exact ⟨by simp, by simp [oneBackup, onceSpec, CassandraBackup.isScheduled], by simp [oneBackup]⟩
  · intro cb member other otherMember _ _ _ _
    rw [List.mem_singleton.mp member, List.mem_singleton.mp otherMember]
  · intro cb _ _ _ _ task member
    cases member
  · intro task found _
    have running : task ∈ [oneTask] := by
      have split : (Runs.run (backupStep lenientLibrary) { backups := [oneBackup] }
          [.reconcile ("team-a", "once") smoothPass,
            .submit 0 (.answered { id := "op-1", state := .pending })]).running = [oneTask] := by
        decide +kernel
      rw [← split]
      exact List.mem_of_getElem? found
    rw [List.mem_singleton.mp running]
    exact ⟨⟨_, rfl⟩, by simp [oneTask]⟩
  · -- The object says that it was backed up.
    have ran : ∀ cb ∈ (Runs.run (backupStep lenientLibrary) { backups := [oneBackup] }
        [.reconcile ("team-a", "once") smoothPass,
          .submit 0 (.answered { id := "op-1", state := .pending }),
          .poll 0 (.ok { id := "op-1", state := .running }) "10:00:02"
            (.answered ())]).backups, cb.ran = true := by
      decide +kernel
    intro cb stored _ fresh
    rw [ran cb stored] at fresh
    cases fresh

/-- Before the status is written a second pass starts the backup again.  Once it is written,
the same backup of another namespace is skipped. -/
theorem oneBackup_submitted_twice :
    let twice := Runs.run (backupStep lenientLibrary) { backups := [oneBackup] }
      [.reconcile ("team-a", "once") smoothPass,
        .reconcile ("team-a", "once") smoothPass,
        .submit 0 (.answered { id := "op-1", state := .pending }),
        .submit 1 (.answered { id := "op-2", state := .pending })]
    let twin := { oneBackup with ns := "team-b" }
    let skipping := Runs.run (backupStep lenientLibrary) { backups := [oneBackup, twin] }
      [.reconcile ("team-a", "once") smoothPass,
        .submit 0 (.answered { id := "op-1", state := .pending }),
        .poll 0 (.ok { id := "op-1", state := .running }) "10:00:02" (.answered ()),
        .reconcile ("team-b", "once") smoothPass]
    sentFor oneBackup.target twice.sent = 2 ∧
      existingNotScheduledSnapshot skipping.backups twin = true ∧
      skipping.running.length = 1 ∧ ¬ Taken skipping.backups twin.target := by
  refine ⟨by decide +kernel, by decide +kernel, by decide +kernel, ?_⟩
  unfold Taken
  decide +kernel

end Casskop
