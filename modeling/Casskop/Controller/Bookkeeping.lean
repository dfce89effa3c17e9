import Casskop.Controller.Records

/-!
# Keeping the books during a pass

A pass works on one copy of the rack statuses, holds another in the object it read, and
the API server stores a third one.  Every call keeps all copies in accord with the books,
so that the stored copy is so wherever the pass is interrupted.
-/

namespace Casskop

/-! ## The copies -/

/-- All copies of the rack statuses fit the books.  In a `durable` pass every status
written is accepted. -/
structure Accounted (kinds durable : Prop) (process : Process) (pass : Pass) : Prop where
  balanced : process.books.Balanced
  working : ∀ name, Fits kinds process.books name (pass.rackStatus name)
  object : ∀ name, Fits kinds process.books name (pass.cc.status.cassandraRackStatus.lookup name)
  stored : ∀ name, Fits kinds process.books name (process.racks.lookup name)
  agrees : durable → process.racks = pass.cc.status.cassandraRackStatus ∨
    process.racks =
      pass.cc.status.cassandraRackStatus.mapValues CassandraRackStatus.serialized

/-- The stored racks fit the books.  A pod is listed just before its operation starts, so
that records of one kind are wrong in between. -/
def Sound (kinds : Prop) (process : Process) (rest : List Effect) : Prop :=
  (kinds → ∀ dcRackName pod operation,
      rest.head? ≠ some (.startOperation dcRackName pod operation)) →
    process.books.Balanced ∧ ∀ name, Fits kinds process.books name (process.racks.lookup name)

variable {kinds : Prop} {process : Process}

theorem Sound.later {rest : List Effect} (sound : Sound kinds process rest) (more : List Effect) :
    Sound kinds process (rest ++ more) := by
  intro calm
  refine sound fun kind dcRackName pod operation starts => ?_
  cases rest with
  | nil => cases starts
  | cons effect rest => exact calm kind dcRackName pod operation starts

/-- The pass so far, from the process as it was when the pass began. -/
structure Tracked (kinds durable : Prop) (start : Process) (pass : Pass) : Prop where
  along : Runs.Always Process.apply Process.Delivers (Sound kinds) start pass.effects
  accounted : Runs.Meets Process.apply Process.Delivers start pass.effects →
    Accounted kinds durable (Runs.run Process.apply start pass.effects) pass

/-! ## Effects that leave the books and the racks alone -/

def Effect.isCalm : Effect → Bool
  | .startOperation .. | .monitorOperation .. | .startDecommission .. => false
  | .finalizeOperation .. | .updateClusterStatus .. => false
  | _ => true

variable {effect : Effect}

theorem Effect.isCalm_of_isPlain (plain : effect.isPlain = true) : effect.isCalm = true := by
  cases effect <;> first | rfl | cases plain

variable {dcRackName : String}

theorem Effect.isCalm_of_writtenRack (writes : effect.writtenRack = some dcRackName) :
    effect.isCalm = true := by
  cases effect <;> first | rfl | cases writes

theorem Effect.isCalm_of_isObjectWrite (writes : effect.isObjectWrite = true) :
    effect.isCalm = true := by
  cases effect <;> first | rfl | cases writes

variable {effects : List Effect}

namespace Process

theorem apply_calm (process : Process) (calm : effect.isCalm = true) :
    (process.apply effect).books = process.books ∧
      (process.apply effect).racks = process.racks := by
  cases effect with
  | createStatefulSet _ _ succeeded | updateStatefulSet _ _ _ succeeded => cases succeeded <;>
      exact ⟨rfl, rfl⟩
  | recreateStatefulSet _ _ succeeded | deleteStatefulSet _ succeeded => cases succeeded <;>
      exact ⟨rfl, rfl⟩
  | orphanStatefulSet _ succeeded | updateCluster _ succeeded => cases succeeded <;>
      exact ⟨rfl, rfl⟩
  | updateObject _ _ succeeded => cases succeeded <;> exact ⟨rfl, rfl⟩
  | startOperation | monitorOperation | startDecommission => cases calm
  | finalizeOperation | updateClusterStatus => cases calm
  | _ => exact ⟨rfl, rfl⟩

theorem run_calm (calm : ∀ effect ∈ effects, effect.isCalm = true) :
    ∀ process : Process, (Runs.run apply process effects).books = process.books ∧
      (Runs.run apply process effects).racks = process.racks := by
  induction effects with
  | nil => exact fun process => ⟨rfl, rfl⟩
  | cons effect effects induction =>
    intro process
    obtain ⟨books, racks⟩ := process.apply_calm (calm effect List.mem_cons_self)
    obtain ⟨books', racks'⟩ := induction
      (fun other member => calm other (List.mem_cons_of_mem _ member)) (process.apply effect)
    exact ⟨books'.trans books, racks'.trans racks⟩

theorem racks_updateClusterStatus (process : Process) (status : CassandraClusterStatus)
    (succeeded : Bool) :
    (process.apply (.updateClusterStatus status succeeded)).books = process.books ∧
      (process.apply (.updateClusterStatus status succeeded)).racks =
        if succeeded then status.cassandraRackStatus.mapValues CassandraRackStatus.serialized
        else process.racks := by
  cases succeeded <;> exact ⟨rfl, rfl⟩

end Process

variable {durable : Prop} {before after : Pass}

theorem Accounted.congr {process' : Process} (accounted : Accounted kinds durable process before)
    (books : process'.books = process.books) (racks : process'.racks = process.racks)
    (working : after.status.cassandraRackStatus = before.status.cassandraRackStatus)
    (object : after.cc.status.cassandraRackStatus = before.cc.status.cassandraRackStatus) :
    Accounted kinds durable process' after := by
  refine ⟨?_, fun name => ?_, fun name => ?_, fun name => ?_, fun accepted => ?_⟩
  · rw [books]
    exact accounted.balanced
  · rw [books, Pass.rackStatus, working]
    exact accounted.working name
  · rw [books, object]
    exact accounted.object name
  · rw [books, racks]
    exact accounted.stored name
  · rw [racks, object]
    exact accounted.agrees accepted

variable {pass : Pass}

theorem Accounted.sound {process' : Process} (accounted : Accounted kinds durable process pass)
    (books : process'.books = process.books) (racks : process'.racks = process.racks)
    (rest : List Effect) : Sound kinds process' rest := by
  intro _
  rw [books, racks]
  exact ⟨accounted.balanced, accounted.stored⟩

variable {start : Process} {more : List Effect}

namespace Tracked

/-! ## Rules -/

theorem append (tracked : Tracked kinds durable start before)
    (effects : after.effects = before.effects ++ more)
    (next : Runs.Meets Process.apply Process.Delivers start before.effects → Accounted kinds durable
      (Runs.run Process.apply start before.effects) before → Runs.Always Process.apply
      Process.Delivers (Sound kinds) (Runs.run Process.apply start before.effects) more ∧
      (Runs.Meets Process.apply Process.Delivers (Runs.run Process.apply start before.effects) more
      → Accounted kinds durable (Runs.run Process.apply (Runs.run Process.apply start
      before.effects) more) after)) : Tracked kinds durable start after := by
  constructor
  · rw [effects]
    exact Runs.Always.append (fun _ _ more sound => sound.later more) tracked.along
      fun meets => (next meets (tracked.accounted meets)).1
  · rw [effects]
    intro meets
    obtain ⟨first, second⟩ := Runs.Meets.append.mp meets
    rw [Runs.run_append]
    exact (next first (tracked.accounted first)).2 second

theorem single (tracked : Tracked kinds durable start before)
    (effects : after.effects = before.effects ++ [effect])
    (next : Runs.Meets Process.apply Process.Delivers start before.effects → Accounted kinds durable
      (Runs.run Process.apply start before.effects) before → (Runs.run Process.apply start
      before.effects).Delivers effect → Accounted kinds durable ((Runs.run Process.apply start
      before.effects).apply effect) after) : Tracked kinds durable start after := by
  refine tracked.append effects fun meets accounted => ⟨?_, fun delivers => ?_⟩
  · intro first rest split delivers
    cases first with
    | nil => exact accounted.sound rfl rfl rest
    | cons other first =>
      obtain ⟨rfl, none⟩ := List.cons.inj split
      obtain ⟨rfl, rfl⟩ := List.append_eq_nil_iff.mp none.symm
      exact (next meets accounted delivers.1).sound rfl rfl []
  · exact next meets accounted delivers.1

theorem calm (tracked : Tracked kinds durable start before)
    (effects : after.effects = before.effects ++ more)
    (calm : ∀ effect ∈ more, effect.isCalm = true)
    (working : after.status.cassandraRackStatus = before.status.cassandraRackStatus)
    (object : after.cc.status.cassandraRackStatus = before.cc.status.cassandraRackStatus) :
    Tracked kinds durable start after := by
  refine tracked.append effects fun _ accounted => ⟨?_, fun _ => ?_⟩
  · intro first rest split _
    obtain ⟨books, racks⟩ := Process.run_calm
      (fun effect member => calm effect (split ▸ List.mem_append_left rest member))
      (Runs.run Process.apply start before.effects)
    exact accounted.sound books racks rest
  · obtain ⟨books, racks⟩ := Process.run_calm calm (Runs.run Process.apply start before.effects)
    exact accounted.congr books racks working object

theorem emit (tracked : Tracked kinds durable start pass)
    (calm : ∀ effect ∈ effects, effect.isCalm = true) :
    Tracked kinds durable start (pass.emit effects) :=
  tracked.calm rfl calm rfl rfl

theorem rework (tracked : Tracked kinds durable start before)
    (effects : after.effects = before.effects)
    (object : after.cc.status.cassandraRackStatus = before.cc.status.cassandraRackStatus)
    (fits : Runs.Meets Process.apply Process.Delivers start before.effects → ∀ name,
      Fits kinds (Runs.run Process.apply start before.effects).books name
        (before.rackStatus name) →
      Fits kinds (Runs.run Process.apply start before.effects).books name
        (after.rackStatus name)) :
    Tracked kinds durable start after := by
  constructor
  · rw [effects]
    exact tracked.along
  · rw [effects]
    intro meets
    have accounted := tracked.accounted meets
    refine ⟨accounted.balanced, fun name => fits meets name (accounted.working name), ?_,
      accounted.stored, ?_⟩
    · rw [object]
      exact accounted.object
    · rw [object]
      exact accounted.agrees

theorem rack {rack : CassandraRackStatus} (tracked : Tracked kinds durable start pass)
    (fits : Runs.Meets Process.apply Process.Delivers start pass.effects →
      Fits kinds (Runs.run Process.apply start pass.effects).books dcRackName
        (pass.rackStatus dcRackName) →
      Fits kinds (Runs.run Process.apply start pass.effects).books dcRackName (some rack)) :
    Tracked kinds durable start (pass.setRackStatus dcRackName rack) := by
  refine tracked.rework rfl rfl fun meets name fit => ?_
  by_cases same : name = dcRackName
  · subst same
    rw [Pass.rackStatus_setRackStatus]
    exact fits meets fit
  · rw [Pass.rackStatus_setRackStatus_ne _ _ same]
    exact fit

end Tracked

/-! ## Status writes -/

/-- The status is written, or the object holds it already. -/
theorem Pass.updateCassandraStatus_case (pass : Pass) (answer : WriteAnswer) :
    (pass.updateCassandraStatus answer = pass ∧ pass.cc.status = pass.status) ∨
      ∃ first : List Effect, (∀ effect ∈ first, effect.isCalm = true) ∧
        (pass.updateCassandraStatus answer).effects = pass.effects ++ (first ++
          [.updateClusterStatus pass.status (Except.succeeded answer.statusUpdate)]) ∧
        (pass.updateCassandraStatus answer).cc.status = pass.status := by
  unfold Pass.updateCassandraStatus Casskop.updateCassandraStatus
  dsimp only
  split
  · rename_i unchanged
    simp only [Bool.and_eq_true, beq_iff_eq] at unchanged
    exact Or.inl ⟨by simp, unchanged.1.2⟩
  · refine Or.inr ⟨[.putCluster _ _, .updateCluster _ _, .putCluster _ _], ?_, rfl,
      CassandraCluster.received_status _ _⟩
    simp [Effect.isCalm]

theorem Pass.updateCassandraStatus_aligned (pass : Pass) (answer : WriteAnswer) :
    (pass.updateCassandraStatus answer).cc.status = pass.status := by
  rcases pass.updateCassandraStatus_case answer with ⟨same, held⟩ | ⟨_, _, _, held⟩
  · rw [same]
    exact held
  · exact held

theorem Accounted.store {status : CassandraClusterStatus} {succeeded : Bool}
    (accounted : Accounted kinds durable process before)
    (fits : ∀ name, Fits kinds process.books name (status.cassandraRackStatus.lookup name))
    (working : after.status.cassandraRackStatus = before.status.cassandraRackStatus)
    (object : after.cc.status.cassandraRackStatus = status.cassandraRackStatus)
    (accepted : durable → succeeded = true) :
    Accounted kinds durable (process.apply (.updateClusterStatus status succeeded)) after := by
  obtain ⟨books, racks⟩ := process.racks_updateClusterStatus status succeeded
  refine ⟨?_, fun name => ?_, fun name => ?_, fun name => ?_, fun isDurable => ?_⟩
  · rw [books]
    exact accounted.balanced
  · rw [books, Pass.rackStatus, working]
    exact accounted.working name
  · rw [books, object]
    exact fits name
  · rw [books, racks]
    split
    · rw [GoMap.lookup_mapValues]
      exact (fits name).serialized
    · exact accounted.stored name
  · rw [racks, if_pos (accepted isDurable), object]
    exact Or.inr rfl

namespace Tracked

theorem updateCassandraStatus (tracked : Tracked kinds durable start pass) {answer : WriteAnswer}
    (accepted : durable → Except.succeeded answer.statusUpdate = true) :
    Tracked kinds durable start (pass.updateCassandraStatus answer) := by
  rcases pass.updateCassandraStatus_case answer with ⟨same, _⟩ | ⟨first, calm, effects, held⟩
  · rw [same]
    exact tracked
  · have middle := tracked.emit calm
    rw [← List.append_assoc] at effects
    exact middle.single effects fun _ accounted _ =>
      accounted.store accounted.working rfl
        (congrArg CassandraClusterStatus.cassandraRackStatus held) accepted

theorem objectWrites (tracked : Tracked kinds durable start before)
    (effects : after.effects = before.effects ++ more)
    (writes : ∀ effect ∈ more, effect.isCalm = true ∨ ∃ status succeeded, effect =
      .updateClusterStatus status succeeded ∧ status.cassandraRackStatus =
      before.cc.status.cassandraRackStatus)
    (working : after.status.cassandraRackStatus = before.status.cassandraRackStatus)
    (object : after.cc.status.cassandraRackStatus = before.cc.status.cassandraRackStatus)
    (lossy : ¬ durable) : Tracked kinds durable start after := by
  induction more generalizing before with
  | nil => exact tracked.calm effects (by simp) working object
  | cons effect more induction =>
    have first : Tracked kinds durable start (before.emit [effect]) := by
      rcases writes effect List.mem_cons_self with calm | ⟨status, succeeded, rfl, same⟩
      · exact tracked.emit (by simpa using calm)
      · refine tracked.single rfl fun _ accounted _ => accounted.store ?_ rfl same.symm
          fun accepted => absurd accepted lossy
        rw [same]
        exact accounted.object
    refine induction first ?_
      (fun other member => writes other (List.mem_cons_of_mem _ member)) working object
    rw [effects]
    simp

end Tracked

/-! ## Finished operations -/

variable {books : Books}

theorem Books.Balanced.finish (balanced : books.Balanced) {job : Job}
    (inFlight : job ∈ books.jobs) :
    (books.finish job).Balanced := by
  intro other
  have before := balanced other
  change (job ::ₘ books.finalized).count other + (books.jobs.erase job).count other ≤
    books.started.count other
  by_cases same : other = job
  · subst same
    have some := Multiset.one_le_count_iff_mem.mpr inFlight
    rw [Multiset.count_cons_self, Multiset.count_erase_self]
    omega
  · rw [Multiset.count_cons_of_ne same, Multiset.count_erase_of_ne same]
    exact before

namespace Tracked

theorem finalizeOperation (tracked : Tracked kinds durable start pass) (lossy : ¬ durable)
    (op : FinalizedOp) (attempts : List FinalizeAttempt) :
    Tracked kinds durable start (finalizeOperation pass op attempts).pass := by
  unfold Casskop.finalizeOperation
  split
  · rename_i absent
    refine tracked.single rfl fun _ accounted inFlight => ?_
    have none := accounted.object op.dcRackName
    rw [absent] at none
    exact absurd inFlight (none.absent rfl)
  · rename_i rack found
    have recorded : Tracked kinds durable start
        { pass.emit [.finalizeOperation op
            (some (setOperation rack (updatePodLastOperation op)).podLastOperation)] with
          cc :=
            { pass.cc with
              status :=
                { pass.cc.status with
                  cassandraRackStatus := pass.cc.status.cassandraRackStatus.insert
                    op.dcRackName (setOperation rack (updatePodLastOperation op)) } } } := by
      refine tracked.single rfl fun _ accounted inFlight => ?_
      refine ⟨accounted.balanced.finish inFlight,
        fun name => (accounted.working name).finish op.job, fun name => ?_,
        fun name => (accounted.stored name).finish op.job, fun accepted => absurd accepted lossy⟩
      dsimp only
      by_cases same : name = op.dcRackName
      · subst same
        rw [Finmap.lookup_insert]
        have fits := accounted.object op.dcRackName
        rw [found] at fits
        exact fits.finalize inFlight
      · rw [Finmap.lookup_insert_of_ne _ same]
        exact (accounted.object name).finish op.job
    refine recorded.objectWrites (List.append_cons _ _ _) (fun effect member => ?_) rfl rfl lossy
    rcases finalizeLoop_mem attempts _ _ member with rfl | ⟨needUpdate, cc, answer, written⟩
    · exact Or.inl rfl
    · by_cases status : ∃ status succeeded, effect = .updateClusterStatus status succeeded
      · obtain ⟨status, succeeded, rfl⟩ := status
        rw [updateCassandraStatus_written written]
        exact Or.inr ⟨_, _, rfl, rfl⟩
      · refine Or.inl ?_
        obtain ⟨outer, _⟩ := updateCassandraStatus_outer _ _ _ _ effect written
        cases effect with
        | updateClusterStatus written succeeded => exact absurd ⟨_, _, rfl⟩ status
        | _ => first | rfl | cases outer

theorem finalizeAll (lossy : ¬ durable) (ops : List (FinalizedOp × List FinalizeAttempt)) :
    ∀ {pass : Pass}, Tracked kinds durable start pass →
      Tracked kinds durable start (finalizeAll pass ops).pass := by
  induction ops with
  | nil => exact fun tracked => tracked
  | cons op ops induction =>
    intro pass tracked
    have first := tracked.finalizeOperation lossy op.1 op.2
    unfold Casskop.finalizeAll
    dsimp only
    split
    · exact induction first
    · exact first

end Tracked

/-! ## What is known of the books -/

/-- The books have a property at this point of the pass. -/
def Booked (property : Books → Prop) (start : Process) (pass : Pass) : Prop :=
  Runs.Meets Process.apply Process.Delivers start pass.effects →
    property (Runs.run Process.apply start pass.effects).books

theorem Booked.calm {property : Books → Prop} (booked : Booked property start before)
    (effects : after.effects = before.effects ++ more)
    (calm : ∀ effect ∈ more, effect.isCalm = true) : Booked property start after := by
  unfold Booked
  rw [effects]
  intro meets
  rw [Runs.run_append, (Process.run_calm calm _).1]
  exact booked (Runs.Meets.append.mp meets).1

/-- Nothing is in flight on the rack, and no operation on it was finalized or lost in
between. -/
structure Books.Untouched (dcRackName : String) (books books' : Books) : Prop where
  none : books'.jobsAt dcRackName = 0
  started : ∀ job, job.dcRackName = dcRackName →
    books.started.count job ≤ books'.started.count job
  finalized : ∀ job, job.dcRackName = dcRackName →
    books'.finalized.count job = books.finalized.count job
  lost : ∀ job ∈ books'.lostAt dcRackName, job ∈ books.lostAt dcRackName

theorem Books.Untouched.idle {books' : Books} (untouched : books.Untouched dcRackName books')
    (idle : books.Idle kinds dcRackName) : books'.Idle kinds dcRackName := by
  refine ⟨untouched.none, fun kind => ?_⟩
  apply Multiset.eq_zero_of_forall_notMem
  intro job member
  have old := untouched.lost job member
  rw [idle.lost kind] at old
  cases old

theorem Books.Untouched.apply (untouched : books.Untouched dcRackName process.books)
    (elsewhere : effect.spawnedRack ≠ some dcRackName) (delivers : process.Delivers effect) :
    books.Untouched dcRackName (process.apply effect).books := by
  have more : ∀ {all : Multiset Job} {job : Job} (other : Job),
      all.count job ≤ (other ::ₘ all).count job :=
    fun other => Multiset.count_le_count_cons _ other _
  cases effect with
  | startOperation rack pod operation =>
    have other : rack ≠ dcRackName := fun same => elsewhere (congrArg some same)
    exact ⟨(Books.jobsAt_start_of_ne other).trans untouched.none,
      fun job here => (untouched.started job here).trans (more _), untouched.finalized,
      untouched.lost⟩
  | monitorOperation rack pod operation =>
    have other : rack ≠ dcRackName := fun same => elsewhere (congrArg some same)
    exact ⟨(Books.jobsAt_monitor_of_ne other).trans untouched.none, untouched.started,
      untouched.finalized,
      fun job member => untouched.lost job (Books.mem_lostAt_expire.mp member).1⟩
  | startDecommission rack pod nodesPerRacks =>
    exact ⟨untouched.none, fun job here => (untouched.started job here).trans (more _),
      untouched.finalized, untouched.lost⟩
  | finalizeOperation op recorded =>
    have other : op.dcRackName ≠ dcRackName := by
      intro same
      have here := Books.mem_jobsAt.mpr ⟨delivers, same⟩
      rw [untouched.none] at here
      cases here
    refine ⟨?_, untouched.started, fun job here => ?_, untouched.lost⟩
    · change (process.books.finish op.job).jobsAt dcRackName = 0
      rw [Books.jobsAt_finish, untouched.none]
      rfl
    · have different : job ≠ op.job := by
        rintro rfl
        exact other here
      exact (Multiset.count_cons_of_ne different _).trans (untouched.finalized job here)
  | _ => exact untouched

theorem Books.Untouched.run (elsewhere : ∀ effect ∈ effects, effect.spawnedRack ≠ some dcRackName) :
    ∀ {process : Process}, books.Untouched dcRackName process.books →
      Runs.Meets Process.apply Process.Delivers process effects →
      books.Untouched dcRackName (Runs.run Process.apply process effects).books := by
  induction effects with
  | nil => exact fun untouched _ => untouched
  | cons effect effects induction =>
    intro process untouched meets
    exact induction (fun other member => elsewhere other (List.mem_cons_of_mem _ member))
      (untouched.apply (elsewhere effect List.mem_cons_self) meets.1) meets.2

/-- What a pass still knows of a rack it has not visited. -/
def Pending (start : Process) (dcRackName : String) (pass : Pass) : Prop :=
  Booked (fun books => start.books.jobsAt dcRackName = 0 →
    start.books.Untouched dcRackName books) start pass

theorem Pending.append (pending : Pending start dcRackName before)
    (effects : after.effects = before.effects ++ more)
    (elsewhere : ∀ effect ∈ more, effect.spawnedRack ≠ some dcRackName) :
    Pending start dcRackName after := by
  unfold Pending Booked
  rw [effects]
  intro meets none
  obtain ⟨first, second⟩ := Runs.Meets.append.mp meets
  rw [Runs.run_append]
  exact Books.Untouched.run elsewhere (pending first none) second

theorem Pending.spawnsAt {other : String} (pending : Pending start dcRackName before)
    (spawns : SpawnsAt other before after) (different : dcRackName ≠ other) :
    Pending start dcRackName after := by
  obtain ⟨more, effects, own⟩ := spawns
  refine pending.append effects fun effect member => ?_
  rcases own effect member with quiet | here
  · simp [quiet]
  · rw [here]
    exact fun same => different (Option.some.inj same).symm

/-! ## Moves -/

/-- The part keeps records in accord with books that have the property. -/
structure Keeps (part : Part) (kinds : Prop) (property : Books → Prop) (dcRackName : String) :
    Prop where
  emits : ∀ {effect}, part.emits effect = true → effect.isCalm = true
  silent : part.records = false
  change : ∀ {books rack rack'}, property books → part.change rack rack' →
    Fits kinds books dcRackName (some rack) → Fits kinds books dcRackName (some rack')

section Moves

variable {part : Part} {property : Books → Prop} {answers : RackAnswers}

theorem Tracked.move (tracked : Tracked kinds durable start before)
    (keeps : Keeps part kinds property dcRackName) (booked : Booked property start before)
    (move : Move part dcRackName answers before after) :
    Tracked kinds durable start after ∧ Booked property start after := by
  cases move with
  | init absent =>
    refine ⟨tracked.rack fun _ fits => ?_, booked⟩
    rw [absent] at fits
    exact fits.initial
  | rack found changes =>
    refine ⟨tracked.rack fun meets fits => ?_, booked⟩
    rw [found] at fits
    have known := booked meets
    clear found
    induction changes with
    | refl => exact fits
    | tail _ change induction => exact keeps.change known change induction
  | emit emits =>
    rename_i effect
    have calm : ∀ other ∈ [effect], other.isCalm = true := by
      simpa using keeps.emits emits
    exact ⟨tracked.emit calm, booked.calm rfl calm⟩
  | statusWrite answer records =>
    rw [keeps.silent] at records
    cases records
  | finalize op attempts known records =>
    rw [keeps.silent] at records
    cases records
  | pdb known => exact ⟨tracked.calm (List.append_nil _).symm (by simp) rfl rfl, booked⟩
  | memory status cluster object settled unlock kept =>
    have same : after.effects = before.effects ++ [] := by simp [kept.2]
    exact ⟨tracked.calm same (by simp) status (by rw [object.1]), booked.calm same (by simp)⟩

theorem Tracked.moves (tracked : Tracked kinds durable start before)
    (keeps : Keeps part kinds property dcRackName) (booked : Booked property start before)
    (moves : Moves part dcRackName answers before after) :
    Tracked kinds durable start after ∧ Booked property start after := by
  induction moves with
  | refl => exact ⟨tracked, booked⟩
  | tail _ move induction => exact induction.1.move keeps induction.2 move

end Moves

/-! ## The changes of a rack -/

section Changes

variable {kinds : Prop} {books : Books} {spec : CassandraClusterSpec} {dcRackName : String}
  {answers : RackAnswers} {rack rack' : CassandraRackStatus}

/-- A scale down of the rack is asked for. -/
def RackAnswers.ScalesDown (answers : RackAnswers) (spec : CassandraClusterSpec)
    (dcRackName : String) : Prop :=
  ∃ sts, answers.statefulSet = .ok sts ∧
    (spec.getNodesPerRacks dcRackName < sts.spec.replicas ∨
      spec.getNodesPerRacks dcRackName ≤ 0)

theorem weAreScalingDown_eq (rack : CassandraRackStatus) :
    weAreScalingDown rack = true ↔ rack.cassandraLastAction.name = .scaleDown ∧
      (rack.cassandraLastAction.status = .toDo ∨ rack.cassandraLastAction.status = .ongoing ∨
        rack.cassandraLastAction.status = .continue) := by
  simp [weAreScalingDown, or_assoc]

/-- The record is kept, and no scale down begins. -/
structure RecordKept (rack rack' : CassandraRackStatus) : Prop where
  record : rack'.podLastOperation = rack.podLastOperation
  scaling : weAreScalingDown rack' = true → weAreScalingDown rack = true

theorem RecordKept.fits (kept : RecordKept rack rack')
    (fits : Fits kinds books dcRackName (some rack)) : Fits kinds books dcRackName (some rack') :=
  fits.congr (.ofEq kept.record) kept.scaling

theorem UpdateChange.recordKept (change : UpdateChange answers rack rack') :
    RecordKept rack rack' := by
  cases change with
  | started asked =>
    refine ⟨rfl, fun scaling => ?_⟩
    have down := ((weAreScalingDown_eq _).mp scaling).1
    change rack.cassandraLastAction.name = _ at down
    rcases asked with seeds | restarting
    · simp [updatesSeedList, down] at seeds
    · simp [restarts, down] at restarting
  | written noCheckStsAreEqual =>
    refine ⟨?_, fun scaling => ?_⟩
    · unfold actionOnWrite
      dsimp only
      repeat' split
      all_goals rfl
    by_cases toDo : rack.cassandraLastAction.status = .toDo
    · simp [actionOnWrite, toDo, weAreScalingDown_eq] at scaling ⊢
      exact scaling
    · by_cases done : noCheckStsAreEqual = false ∧ rack.cassandraLastAction.status = .done
      · simp [actionOnWrite, done, weAreScalingDown_eq] at scaling
      · simpa [actionOnWrite, toDo, done] using scaling

theorem UpsizeChange.recordKept (change : UpsizeChange answers rack rack') :
    RecordKept rack rack' := by
  cases change with
  | pending => exact ⟨rfl, id⟩
  | saved => exact ⟨rfl, id⟩
  | finalized =>
    refine ⟨rfl, fun scaling => ?_⟩
    simp [weAreScalingDown_eq, finalizeUpsizeAction] at scaling

theorem UpsizeChanges.recordKept
    (changes : Relation.ReflTransGen (UpsizeChange answers) rack rack') :
    RecordKept rack rack' := by
  induction changes with
  | refl => exact ⟨rfl, id⟩
  | tail _ change induction =>
    have last := change.recordKept
    exact ⟨last.record.trans induction.record,
      fun scaling => induction.scaling (last.scaling scaling)⟩

/-- What is observed keeps the record, or it is the first record of a scale down that is
asked for. -/
theorem ObservedChange.record_cases (change : ObservedChange spec dcRackName answers rack rack') :
    RecordKept rack rack' ∨ answers.ScalesDown spec dcRackName ∧ ∃ old,
      rack'.podLastOperation = (setDecommissionStatus answers.now old).podLastOperation := by
  cases change with
  | phase phase started => exact Or.inl ⟨rfl, id⟩
  | initialized | ended =>
    refine Or.inl ⟨rfl, fun scaling => ?_⟩
    simp [weAreScalingDown_eq, endAction] at scaling
  | abortInitializing sts read initializing empty =>
    exact Or.inr ⟨⟨sts, read, Or.inr empty⟩, rack, rfl⟩
  | scaleDown sts free read fewer => exact Or.inr ⟨⟨sts, read, Or.inl fewer⟩, rack, rfl⟩
  | detected free known =>
    refine Or.inl ⟨rfl, fun scaling => ?_⟩
    have down := ((weAreScalingDown_eq _).mp scaling).1
    simp only [detectedActions, List.mem_cons, List.not_mem_nil, or_false] at known
    rcases known with rfl | rfl | rfl | rfl | rfl
    all_goals cases down
  | upsize | revisionChanged =>
    refine Or.inl ⟨rfl, fun scaling => ?_⟩
    simp [weAreScalingDown_eq, startUpsizeAction] at scaling
  | startResources =>
    left
    unfold startUpdateResources
    split
    · rename_i asked
      refine ⟨rfl, fun scaling => ?_⟩
      simp [weAreScalingDown_eq, asked.2] at scaling
    · exact ⟨rfl, id⟩

theorem ObservedChange.fits (change : ObservedChange spec dcRackName answers rack rack')
    (quiet : answers.ScalesDown spec dcRackName → books.Idle kinds dcRackName)
    (fits : Fits kinds books dcRackName (some rack)) :
    Fits kinds books dcRackName (some rack') := by
  rcases change.record_cases with kept | ⟨down, old, record⟩
  · exact kept.fits fits
  · refine Fits.ofEmpty (quiet down) ?_
    rw [record]
    rfl

theorem startUpdateResources_record (now : Nat) (rack : CassandraRackStatus) :
    (startUpdateResources now rack).podLastOperation = rack.podLastOperation := by
  unfold startUpdateResources
  split <;> rfl

theorem ObservedChanges.record (changes : ObservedChanges spec dcRackName answers rack rack')
    (ongoing : rack'.podLastOperation.status = .ongoing) :
    rack'.podLastOperation = rack.podLastOperation := by
  induction changes with
  | refl => rfl
  | tail _ change induction =>
    cases change with
    | abortInitializing | scaleDown => cases ongoing
    | startResources =>
      rw [startUpdateResources_record] at ongoing ⊢
      exact induction ongoing
    | _ => exact induction ongoing

end Changes

/-! ## Second half of an iteration -/

section Apply

variable {answers : RackAnswers}

theorem updating_keeps : Keeps (.updating answers) kinds (fun _ => True) dcRackName :=
  ⟨Effect.isCalm_of_isPlain, rfl, fun _ change => change.recordKept.fits⟩

theorem Tracked.applyRack (tracked : Tracked kinds durable start pass) (platform : Platform)
    (names : CompleteRackName) :
    Tracked kinds durable start (applyRack platform answers names pass).pass := by
  have outcome := @applyRack_outcome answers platform names pass
  generalize Casskop.applyRack platform answers names pass = step at outcome
  cases outcome with
  | ordinary written step handled gated =>
    obtain ⟨middle, first, reasons, second⟩ := handled.iteration.split
    have reached := (tracked.moves updating_keeps (fun _ => trivial) first).1
    have wrote := reached.emit fun effect member =>
      Effect.isCalm_of_writtenRack (reasons effect member).writtenRack
    exact (wrote.moves updating_keeps (fun _ => trivial) second).1
  | upsize middle rack living made moves found upsizing seen steps =>
    have reached := (tracked.moves updating_keeps (fun _ => trivial) moves).1
    have remembered : Tracked kinds durable start { middle with storedStatefulSet := living } :=
      reached.calm (List.append_nil _).symm (by simp) rfl rfl
    have changed : Tracked kinds durable start
        ({ middle with storedStatefulSet := living }.setRackStatus names.dcRackName
          made.rack) := by
      refine remembered.rack fun _ fits => ?_
      have current : Fits kinds _ _ (some rack) := found ▸ fits
      have pending : Fits kinds _ _ (some { rack with phase := .pending }) :=
        current.congr (.ofEq rfl) id
      exact (UpsizeChanges.recordKept (steps.changes rfl upsizing)).fits pending
    refine changed.emit fun effect member => ?_
    rcases steps.effects seen middle with plain | ⟨write, single, reason⟩
    · exact Effect.isCalm_of_isPlain (plain effect member)
    · rw [single, List.mem_singleton] at member
      exact Effect.isCalm_of_writtenRack (member ▸ reason.writtenRack)

end Apply

end Casskop
