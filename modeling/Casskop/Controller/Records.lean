import Casskop.Controller.Operations

/-!
# Records that fit the books

The status of a rack records the last operation on its pods: those it runs on, those
where it succeeded and those where it failed.  Several copies of the record exist.  A
copy fits the books when its lists are separate, and every operation in flight is on a
pod it lists as running.
-/

namespace Casskop

/-! ## Records -/

namespace PodLastOperation

variable (operation : PodLastOperation)

/-- The pods the operation is said to run on. -/
def running : List String := operation.pods.getD []

def listed : List String :=
  operation.running ++ (operation.podsOK.getD [] ++ operation.podsKO.getD [])

end PodLastOperation

/-- The record with the pod added, as `startOperation` leaves it. -/
def listPod (operatorName pod : String) (rack : CassandraRackStatus) : CassandraRackStatus :=
  setOperation rack fun operation =>
    { operation with
      operatorName := operatorName
      pods := appendString operation.pods pod
      podsOK := removeString operation.podsOK pod
      podsKO := removeString operation.podsKO pod }

/-- Records that differ in times and operator at most. -/
structure SameRecord (operation operation' : PodLastOperation) : Prop where
  name : operation'.name = operation.name
  status : operation'.status = operation.status
  running : operation'.running = operation.running
  listed : operation'.listed = operation.listed

variable {operation : PodLastOperation}

theorem SameRecord.ofEq {operation' : PodLastOperation} (same : operation' = operation) :
    SameRecord operation operation' := by
  subst same
  exact ⟨rfl, rfl, rfl, rfl⟩

theorem omitEmpty_getD (items : Option (List String)) :
    (omitEmpty items).getD [] = items.getD [] := by
  unfold omitEmpty
  split
  · rename_i empty
    rw [empty]
    rfl
  · rfl

theorem SameRecord.serialized (rack : CassandraRackStatus) :
    SameRecord rack.podLastOperation rack.serialized.podLastOperation := by
  refine ⟨rfl, rfl, omitEmpty_getD _, ?_⟩
  change (omitEmpty _).getD [] ++ ((omitEmpty _).getD [] ++ (omitEmpty _).getD []) = _
  rw [omitEmpty_getD, omitEmpty_getD, omitEmpty_getD]
  rfl

theorem removeString_getD (items : Option (List String)) (item : String) :
    (removeString items item).getD [] = (items.getD []).erase item := by
  cases items <;> rfl

variable {rack : CassandraRackStatus} {op : FinalizedOp}

section Lists

theorem running_listPod (operatorName pod : String) :
    (listPod operatorName pod rack).podLastOperation.running =
      rack.podLastOperation.running ++ [pod] := rfl

theorem listed_listPod (operatorName pod : String) :
    (listPod operatorName pod rack).podLastOperation.listed =
      rack.podLastOperation.running ++ [pod] ++
        ((rack.podLastOperation.podsOK.getD []).erase pod ++
          (rack.podLastOperation.podsKO.getD []).erase pod) := by
  change _ ++ ((removeString _ _).getD [] ++ (removeString _ _).getD []) = _
  rw [removeString_getD, removeString_getD]
  rfl

theorem running_finalized (op : FinalizedOp) (operation : PodLastOperation) :
    (updatePodLastOperation op operation).running = operation.running.erase op.pod := by
  unfold updatePodLastOperation
  dsimp only
  split <;> exact removeString_getD _ _

theorem updatePodLastOperation_kept (op : FinalizedOp) (operation : PodLastOperation) :
    (updatePodLastOperation op operation).name = operation.name ∧
      (updatePodLastOperation op operation).status = operation.status := by
  unfold updatePodLastOperation
  dsimp only
  split <;> exact ⟨rfl, rfl⟩

theorem listed_finalized (running : op.pod ∈ operation.running) :
    (updatePodLastOperation op operation).listed.Perm operation.listed := by
  have moved : ∀ second third : List String,
      (operation.running.erase op.pod ++ (second ++ op.pod :: third)).Perm
        (operation.running ++ (second ++ third)) := by
    intro second third
    have front := @List.perm_middle _ op.pod (operation.running.erase op.pod ++ second) third
    have back := (List.perm_cons_erase running).symm.append_right (second ++ third)
    rw [List.append_assoc, List.append_assoc] at front
    exact front.trans back
  unfold PodLastOperation.listed
  rw [running_finalized]
  cases failed : op.failed with
  | true =>
    have last := moved (operation.podsOK.getD [] ++ operation.podsKO.getD []) []
    rw [List.append_nil, List.append_assoc] at last
    simpa [updatePodLastOperation, failed, appendString] using last
  | false =>
    have inner := moved (operation.podsOK.getD []) (operation.podsKO.getD [])
    simpa [updatePodLastOperation, failed, appendString] using inner

end Lists

/-! ## Tidy records -/

/-- The lists are separate, and the operations in flight are on different pods that are
listed as running. -/
structure Tidy (jobs : Multiset Job) (rack : CassandraRackStatus) : Prop where
  separate : rack.podLastOperation.listed.Nodup
  distinct : (jobs.map Job.pod).Nodup
  listed : ∀ job ∈ jobs, job.pod ∈ rack.podLastOperation.running
  ongoing : jobs ≠ 0 → rack.podLastOperation.status = .ongoing
  /-- Nothing is in flight on a rack that scales down. -/
  idle : weAreScalingDown rack = true → jobs = 0

variable {rack' : CassandraRackStatus} {job : Job} {pod : String}

namespace Tidy

variable {jobs : Multiset Job}

theorem ofNone (separate : rack.podLastOperation.listed.Nodup) : Tidy 0 rack :=
  ⟨separate, by simp, by simp, fun some => absurd rfl some, fun _ => rfl⟩

variable (tidy : Tidy jobs rack)

include tidy

theorem congr (same : SameRecord rack.podLastOperation rack'.podLastOperation)
    (scaling : weAreScalingDown rack' = true → weAreScalingDown rack = true) : Tidy jobs rack' := by
  refine ⟨?_, tidy.distinct, ?_, ?_, fun down => tidy.idle (scaling down)⟩
  · rw [same.listed]
    exact tidy.separate
  · rw [same.running]
    exact tidy.listed
  · rw [same.status]
    exact tidy.ongoing

theorem fewer (job : Job) : Tidy (jobs.erase job) rack := by
  have within : jobs.erase job ≤ jobs := Multiset.erase_le job jobs
  have nonempty : jobs.erase job ≠ 0 → jobs ≠ 0 := by
    rintro some rfl
    exact some rfl
  refine ⟨tidy.separate, Multiset.nodup_of_le (Multiset.map_le_map within) tidy.distinct,
    fun other member => tidy.listed other (Multiset.mem_of_le within member),
    fun some => tidy.ongoing (nonempty some), fun down => ?_⟩
  rw [tidy.idle down]
  rfl

theorem pod_ne_of_erase {other : Job} (inFlight : job ∈ jobs)
    (member : other ∈ jobs.erase job) : other.pod ≠ job.pod := by
  have pods := tidy.distinct
  rw [← Multiset.cons_erase inFlight, Multiset.map_cons, Multiset.nodup_cons] at pods
  intro same
  exact pods.1 (same ▸ Multiset.mem_map_of_mem Job.pod member)

theorem finalize (inFlight : op.job ∈ jobs) :
    Tidy (jobs.erase op.job) (setOperation rack (updatePodLastOperation op)) := by
  have fewer := tidy.fewer op.job
  have running : op.pod ∈ rack.podLastOperation.running := tidy.listed op.job inFlight
  refine ⟨?_, fewer.distinct, fun other member => ?_, fun some => ?_, fewer.idle⟩
  · exact (listed_finalized running).nodup_iff.mpr tidy.separate
  · have different := tidy.pod_ne_of_erase inFlight member
    change other.pod ∈ (updatePodLastOperation op rack.podLastOperation).running
    rw [running_finalized]
    exact (List.mem_erase_of_ne different).mpr (fewer.listed other member)
  · exact (updatePodLastOperation_kept op rack.podLastOperation).2.trans (fewer.ongoing some)

theorem listPod (fresh : pod ∉ rack.podLastOperation.running)
    (operatorName : String) : Tidy jobs (listPod operatorName pod rack) := by
  have separate := tidy.separate
  unfold PodLastOperation.listed at separate
  obtain ⟨runs, others, apart⟩ := List.nodup_append'.mp separate
  obtain ⟨succeeded, failed, apart'⟩ := List.nodup_append'.mp others
  refine ⟨?_, tidy.distinct, fun job member => ?_, tidy.ongoing, tidy.idle⟩
  · rw [listed_listPod]
    refine List.nodup_append'.mpr ⟨?_, ?_, ?_⟩
    · exact List.nodup_append'.mpr ⟨runs, List.nodup_singleton pod, by simpa using fresh⟩
    · refine List.nodup_append'.mpr ⟨succeeded.erase pod, failed.erase pod, ?_⟩
      exact fun name first second =>
        apart' (List.mem_of_mem_erase first) (List.mem_of_mem_erase second)
    · intro name first second
      have other : name ≠ pod ∧
          name ∈ rack.podLastOperation.podsOK.getD [] ++
            rack.podLastOperation.podsKO.getD [] := by
        rcases List.mem_append.mp second with left | right
        · obtain ⟨different, member⟩ := (List.Nodup.mem_erase_iff succeeded).mp left
          exact ⟨different, List.mem_append_left _ member⟩
        · obtain ⟨different, member⟩ := (List.Nodup.mem_erase_iff failed).mp right
          exact ⟨different, List.mem_append_right _ member⟩
      rcases List.mem_append.mp first with old | new
      · exact apart old other.2
      · exact other.1 (List.mem_singleton.mp new)
  · rw [running_listPod]
    exact List.mem_append_left _ (tidy.listed job member)

theorem spawn (running : job.pod ∈ rack.podLastOperation.running)
    (free : ∀ other ∈ jobs, other.pod ≠ job.pod) (ongoing : rack.podLastOperation.status = .ongoing)
    (idle : weAreScalingDown rack = false) : Tidy (job ::ₘ jobs) rack := by
  refine ⟨tidy.separate, ?_, fun other member => ?_, fun _ => ongoing, fun down => ?_⟩
  · rw [Multiset.map_cons, Multiset.nodup_cons]
    refine ⟨fun member => ?_, tidy.distinct⟩
    obtain ⟨other, known, same⟩ := Multiset.mem_map.mp member
    exact free other known same
  · rcases Multiset.mem_cons.mp member with rfl | known
    · exact running
    · exact tidy.listed other known
  · rw [idle] at down
    cases down

end Tidy

/-! ## Records of one kind -/

/-- An operation that was lost while the record was about it. -/
structure Orphan (jobs : Multiset Job) (rack : CassandraRackStatus) (job : Job) : Prop where
  operation : job.operation = rack.podLastOperation.name
  running : job.pod ∈ rack.podLastOperation.running
  ongoing : rack.podLastOperation.status = .ongoing
  unwatched : job ∉ jobs
  idle : weAreScalingDown rack = false

/-- The operations in flight have the name of the record, and it was started on all pods
of the record. -/
structure Named (books : Books) (dcRackName : String) (rack : CassandraRackStatus) :
    Prop where
  same : ∀ job ∈ books.jobsAt dcRackName, job.operation = rack.podLastOperation.name
  ran : ∀ pod ∈ rack.podLastOperation.listed,
    ⟨dcRackName, pod, rack.podLastOperation.name⟩ ∈ books.started
  /-- A decommission is done when its pod is gone. -/
  left : rack.podLastOperation.name = .decommission → rack.podLastOperation.status = .done →
    rack.podLastOperation.running = []
  orphans : ∀ job ∈ books.lostAt dcRackName, Orphan (books.jobsAt dcRackName) rack job

namespace Named

variable {books books' : Books} {dcRackName : String}

theorem congr (named : Named books dcRackName rack)
    (same : SameRecord rack.podLastOperation rack'.podLastOperation)
    (scaling : weAreScalingDown rack' = true → weAreScalingDown rack = true) :
    Named books dcRackName rack' := by
  refine ⟨?_, ?_, ?_, fun job member => ?_⟩
  · rw [same.name]
    exact named.same
  · rw [same.listed, same.name]
    exact named.ran
  · rw [same.name, same.status, same.running]
    exact named.left
  · have orphan := named.orphans job member
    refine ⟨?_, ?_, ?_, orphan.unwatched, Bool.eq_false_iff.mpr fun down => ?_⟩
    · rw [same.name]
      exact orphan.operation
    · rw [same.running]
      exact orphan.running
    · rw [same.status]
      exact orphan.ongoing
    · exact Bool.eq_false_iff.mp orphan.idle (scaling down)

theorem mono (named : Named books dcRackName rack)
    (jobs : ∀ job ∈ books'.jobsAt dcRackName, job ∈ books.jobsAt dcRackName)
    (lost : ∀ job ∈ books'.lostAt dcRackName, job ∈ books.lostAt dcRackName)
    (started : ∀ job ∈ books.started, job ∈ books'.started) : Named books' dcRackName rack := by
  refine ⟨fun job member => named.same job (jobs job member),
    fun pod member => started _ (named.ran pod member), named.left, fun job member => ?_⟩
  have orphan := named.orphans job (lost job member)
  exact ⟨orphan.operation, orphan.running, orphan.ongoing,
    fun watched => orphan.unwatched (jobs job watched), orphan.idle⟩

end Named

/-! ## Fitting -/

/-- A copy of the status of a rack fits the books; a rack without status is idle. -/
def Fits (kinds : Prop) (books : Books) (dcRackName : String) :
    Option CassandraRackStatus → Prop
  | none => books.Idle kinds dcRackName
  | some rack =>
    Tidy (books.jobsAt dcRackName) rack ∧ (kinds → Named books dcRackName rack)

namespace Fits

variable {kinds : Prop} {books : Books} {dcRackName : String} {copy : Option CassandraRackStatus}

theorem congr (fits : Fits kinds books dcRackName (some rack))
    (same : SameRecord rack.podLastOperation rack'.podLastOperation)
    (scaling : weAreScalingDown rack' = true → weAreScalingDown rack = true) :
    Fits kinds books dcRackName (some rack') :=
  ⟨fits.1.congr same scaling, fun kind => (fits.2 kind).congr same scaling⟩

theorem serialized (fits : Fits kinds books dcRackName copy) :
    Fits kinds books dcRackName (copy.map CassandraRackStatus.serialized) := by
  cases copy with
  | none => exact fits
  | some rack => exact fits.congr (.serialized rack) id

theorem ofEmpty (idle : books.Idle kinds dcRackName) (empty : rack.podLastOperation.listed = []) :
    Fits kinds books dcRackName (some rack) := by
  have running : rack.podLastOperation.running = [] := (List.append_eq_nil_iff.mp empty).1
  refine ⟨?_, fun kind => ⟨?_, ?_, fun _ _ => running, ?_⟩⟩
  · rw [idle.jobs]
    exact Tidy.ofNone (by simp [empty])
  · simp [idle.jobs]
  · simp [empty]
  · simp [idle.lost kind]

theorem idle (fits : Fits kinds books dcRackName none) : books.Idle kinds dcRackName := fits

theorem absent (fits : Fits kinds books dcRackName none) (here : job.dcRackName = dcRackName) :
    job ∉ books.jobs := by
  intro inFlight
  have member := Books.mem_jobsAt.mpr ⟨inFlight, here⟩
  rw [fits.idle.jobs] at member
  cases member

theorem initial (fits : Fits kinds books dcRackName none) :
    Fits kinds books dcRackName (some initialRackStatus) :=
  ofEmpty fits rfl

section

variable (fits : Fits kinds books dcRackName (some rack))

include fits

theorem idle_of_status
    (waits : rack.podLastOperation.status ≠ .ongoing) : books.Idle kinds dcRackName := by
  constructor
  · by_contra some
    exact waits (fits.1.ongoing some)
  · intro kind
    apply Multiset.eq_zero_of_forall_notMem
    exact fun job member => waits ((fits.2 kind).orphans job member).ongoing

theorem idle_of_running
    (none : rack.podLastOperation.running = []) : books.Idle kinds dcRackName := by
  have unlisted : ∀ job : Job, job.pod ∉ rack.podLastOperation.running := by
    intro job
    rw [none]
    exact List.not_mem_nil
  constructor
  · apply Multiset.eq_zero_of_forall_notMem
    exact fun job member => unlisted job (fits.1.listed job member)
  · intro kind
    apply Multiset.eq_zero_of_forall_notMem
    exact fun job member => unlisted job ((fits.2 kind).orphans job member).running

theorem idle_of_scaling (scaling : weAreScalingDown rack = true) : books.Idle kinds dcRackName := by
  refine ⟨fits.1.idle scaling, fun kind => ?_⟩
  apply Multiset.eq_zero_of_forall_notMem
  intro job member
  exact Bool.eq_false_iff.mp ((fits.2 kind).orphans job member).idle scaling

end

/-! ### Books that change -/

theorem attempt (fits : Fits kinds books dcRackName copy) (job : Job) :
    Fits kinds (books.attempt job) dcRackName copy := by
  cases copy with
  | none => exact ⟨fits.idle.jobs, fits.idle.lost⟩
  | some rack =>
    exact ⟨fits.1, fun kind => (fits.2 kind).mono (fun _ member => member)
      (fun _ member => member) fun _ member => Multiset.mem_cons_of_mem member⟩

theorem finish (fits : Fits kinds books dcRackName copy) (job : Job) :
    Fits kinds (books.finish job) dcRackName copy := by
  cases copy with
  | none =>
    refine ⟨?_, fits.idle.lost⟩
    rw [Books.jobsAt_finish, fits.idle.jobs]
    rfl
  | some rack =>
    refine ⟨?_, fun kind => (fits.2 kind).mono (fun other member => ?_)
      (fun _ member => member) fun _ member => member⟩
    · rw [Books.jobsAt_finish]
      exact fits.1.fewer job
    · rw [Books.jobsAt_finish] at member
      exact Multiset.mem_of_mem_erase member

theorem finalize (fits : Fits kinds books op.dcRackName (some rack))
    (inFlight : op.job ∈ books.jobs) :
    Fits kinds (books.finish op.job) op.dcRackName
      (some (setOperation rack (updatePodLastOperation op))) := by
  have here : op.job ∈ books.jobsAt op.dcRackName := Books.mem_jobsAt.mpr ⟨inFlight, rfl⟩
  have running : op.pod ∈ rack.podLastOperation.running := fits.1.listed op.job here
  refine ⟨?_, fun kind => ?_⟩
  · rw [Books.jobsAt_finish]
    exact fits.1.finalize here
  · obtain ⟨_, finished⟩ := fits.finish op.job
    have named := finished kind
    have name : (updatePodLastOperation op rack.podLastOperation).name =
        rack.podLastOperation.name ∧ (updatePodLastOperation op rack.podLastOperation).status =
        rack.podLastOperation.status := by
      unfold updatePodLastOperation
      dsimp only
      split <;> exact ⟨rfl, rfl⟩
    refine ⟨?_, fun pod member => ?_, fun decommission done => ?_, fun job member => ?_⟩
    · intro job member
      exact (named.same job member).trans name.1.symm
    · change Job.mk _ pod (updatePodLastOperation op rack.podLastOperation).name ∈ _
      rw [name.1]
      exact named.ran pod ((listed_finalized running).mem_iff.mp member)
    · change (updatePodLastOperation op rack.podLastOperation).running = []
      rw [running_finalized, named.left (name.1.symm.trans decommission)
        (name.2.symm.trans done)]
      rfl
    · have orphan := named.orphans job member
      have different : job.pod ≠ op.pod := by
        intro same
        have lost := (fits.2 kind).orphans job member
        have equal : job = op.job := by
          have operations := lost.operation.trans ((fits.2 kind).same op.job here).symm
          have racks := (Books.mem_lostAt.mp member).2
          cases job
          subst same racks operations
          rfl
        exact lost.unwatched (equal ▸ here)
      refine ⟨orphan.operation.trans name.1.symm, ?_, name.2.trans orphan.ongoing,
        orphan.unwatched, orphan.idle⟩
      change job.pod ∈ (updatePodLastOperation op rack.podLastOperation).running
      rw [running_finalized]
      exact (List.mem_erase_of_ne different).mpr orphan.running

section

variable (fits : Fits kinds books dcRackName copy)

include fits

theorem lose : Fits kinds books.lose dcRackName copy := by
  cases copy with
  | none =>
    refine ⟨Books.jobsAt_lose, fun kind => ?_⟩
    rw [Books.lostAt_lose, fits.idle.lost kind, fits.idle.jobs]
    rfl
  | some rack =>
    refine ⟨?_, fun kind => ⟨?_, (fits.2 kind).ran, (fits.2 kind).left, fun job member => ?_⟩⟩
    · rw [Books.jobsAt_lose]
      exact Tidy.ofNone fits.1.separate
    · simp [Books.jobsAt_lose]
    · rw [Books.lostAt_lose] at member
      rw [Books.jobsAt_lose]
      rcases Multiset.mem_add.mp member with old | new
      · have orphan := (fits.2 kind).orphans job old
        exact ⟨orphan.operation, orphan.running, orphan.ongoing, Multiset.notMem_zero job,
          orphan.idle⟩
      · have some : books.jobsAt dcRackName ≠ 0 := by
          rintro none
          rw [none] at new
          cases new
        exact ⟨(fits.2 kind).same job new, fits.1.listed job new, fits.1.ongoing some,
          Multiset.notMem_zero job, Bool.eq_false_iff.mpr fun down => some (fits.1.idle down)⟩

theorem expire (job : Job) : Fits kinds (books.expire job) dcRackName copy := by
  have fewer : ∀ other ∈ (books.expire job).lostAt dcRackName,
      other ∈ books.lostAt dcRackName :=
    fun other member => (Books.mem_lostAt_expire.mp member).1
  cases copy with
  | none =>
    refine ⟨fits.idle.jobs, fun kind => ?_⟩
    apply Multiset.eq_zero_of_forall_notMem
    intro other member
    have old := fewer other member
    rw [fits.idle.lost kind] at old
    cases old
  | some rack =>
    exact ⟨fits.1, fun kind => (fits.2 kind).mono (fun _ member => member) fewer
      fun _ member => member⟩

theorem start_of_ne (other : job.dcRackName ≠ dcRackName) :
    Fits kinds (books.start job) dcRackName copy := by
  have same := @Books.jobsAt_start_of_ne books job dcRackName other
  cases copy with
  | none => exact ⟨same.trans (fits.idle.jobs), fits.idle.lost⟩
  | some rack =>
    refine ⟨?_, fun kind => (fits.2 kind).mono (fun _ member => same ▸ member)
      (fun _ member => member) fun _ member => Multiset.mem_cons_of_mem member⟩
    rw [same]
    exact fits.1

theorem monitor_of_ne
    (other : job.dcRackName ≠ dcRackName) : Fits kinds (books.monitor job) dcRackName copy := by
  have same := @Books.jobsAt_monitor_of_ne books job dcRackName other
  have expired := fits.expire job
  cases copy with
  | none => exact ⟨same.trans (fits.idle.jobs), expired.idle.lost⟩
  | some rack =>
    refine ⟨?_, fun kind => (expired.2 kind).mono (fun _ member => same ▸ member)
      (fun _ member => member) fun _ member => member⟩
    rw [same]
    exact fits.1

end

theorem start {operation : OperationName} (fits : Fits kinds books dcRackName (some rack))
    (fresh : pod ∉ rack.podLastOperation.running)
    (ongoing : rack.podLastOperation.status = .ongoing) (idle : weAreScalingDown rack = false)
    (name : kinds → rack.podLastOperation.name = operation) (operatorName : String) :
    Fits kinds (books.start ⟨dcRackName, pod, operation⟩) dcRackName
      (some (listPod operatorName pod rack)) := by
  have jobs := @Books.jobsAt_start_self books ⟨dcRackName, pod, operation⟩
  refine ⟨?_, fun kind => ⟨fun job member => ?_, fun other member => ?_, ?_,
    fun job member => ?_⟩⟩
  · rw [jobs]
    refine (fits.1.listPod fresh operatorName).spawn ?_ (fun other member => ?_) ongoing idle
    · rw [running_listPod]
      simp
    · change other.pod ≠ pod
      rintro rfl
      exact fresh (fits.1.listed other member)
  · rw [jobs] at member
    rcases Multiset.mem_cons.mp member with rfl | old
    · exact (name kind).symm
    · exact (fits.2 kind).same job old
  · rw [listed_listPod] at member
    by_cases same : other = pod
    · subst same
      change Job.mk dcRackName other rack.podLastOperation.name ∈ _
      rw [name kind]
      exact Multiset.mem_cons_self _ _
    · refine Multiset.mem_cons_of_mem ((fits.2 kind).ran other ?_)
      unfold PodLastOperation.listed
      simp only [List.mem_append, List.mem_singleton, same, or_false] at member ⊢
      exact member.imp_right (Or.imp List.mem_of_mem_erase List.mem_of_mem_erase)
  · intro _ done
    change rack.podLastOperation.status = .done at done
    rw [ongoing] at done
    cases done
  · have orphan := (fits.2 kind).orphans job member
    refine ⟨orphan.operation, ?_, ongoing, ?_, idle⟩
    · rw [running_listPod]
      exact List.mem_append_left _ orphan.running
    · rw [jobs]
      intro watched
      rcases Multiset.mem_cons.mp watched with rfl | old
      · exact fresh orphan.running
      · exact orphan.unwatched old

theorem monitor {operation : OperationName} (fits : Fits kinds books dcRackName (some rack))
    (running : pod ∈ rack.podLastOperation.running)
    (free : ∀ job ∈ books.jobsAt dcRackName, job.pod ≠ pod)
    (ongoing : rack.podLastOperation.status = .ongoing) (idle : weAreScalingDown rack = false)
    (name : kinds → rack.podLastOperation.name = operation) :
    Fits kinds (books.monitor ⟨dcRackName, pod, operation⟩) dcRackName (some rack) := by
  have jobs := @Books.jobsAt_monitor_self books ⟨dcRackName, pod, operation⟩
  refine ⟨?_, fun kind => ⟨fun job member => ?_, (fits.2 kind).ran, (fits.2 kind).left,
    fun job member => ?_⟩⟩
  · rw [jobs]
    exact fits.1.spawn running free ongoing idle
  · rw [jobs] at member
    rcases Multiset.mem_cons.mp member with rfl | old
    · exact (name kind).symm
    · exact (fits.2 kind).same job old
  · obtain ⟨old, different⟩ := Books.mem_lostAt_expire.mp member
    have orphan := (fits.2 kind).orphans job old
    refine ⟨orphan.operation, orphan.running, ongoing, ?_, idle⟩
    rw [jobs]
    exact fun watched => (Multiset.mem_cons.mp watched).elim different orphan.unwatched

/-! ### Records that change while nothing is in flight -/

theorem restatus (fits : Fits kinds books dcRackName (some rack))
    (idle : books.Idle kinds dcRackName) (name : operation.name = rack.podLastOperation.name)
    (listed : operation.listed = rack.podLastOperation.listed)
    (left : kinds → operation.name = .decommission → operation.status = .done → operation.running =
      []) : Fits kinds books dcRackName (some { rack with podLastOperation := operation }) := by
  refine ⟨?_, fun kind => ⟨?_, ?_, left kind, ?_⟩⟩
  · rw [idle.jobs]
    refine Tidy.ofNone ?_
    change operation.listed.Nodup
    rw [listed]
    exact fits.1.separate
  · simp [idle.jobs]
  · change ∀ pod ∈ operation.listed, Job.mk dcRackName pod operation.name ∈ _
    rw [listed, name]
    exact (fits.2 kind).ran
  · simp [idle.lost kind]

theorem begun (idle : books.Idle kinds dcRackName) (pod : String)
    (named : rack.podLastOperation.name = .decommission) :
    Fits kinds (books.attempt ⟨dcRackName, pod, .decommission⟩) dcRackName
      (some (startDecommission pod rack)) := by
  have listed : (startDecommission pod rack).podLastOperation.listed = [pod] := rfl
  refine ⟨?_, fun kind => ⟨?_, fun other member => ?_, ?_, fun job member => ?_⟩⟩
  · rw [Books.jobsAt_attempt, idle.jobs]
    exact Tidy.ofNone (by simp [listed])
  · simp [Books.jobsAt_attempt, idle.jobs]
  · rw [listed, List.mem_singleton] at member
    subst member
    change Job.mk dcRackName other rack.podLastOperation.name ∈ _
    rw [named]
    exact Multiset.mem_cons_self _ _
  · intro _ done
    cases done
  · change job ∈ books.lostAt dcRackName at member
    rw [idle.lost kind] at member
    cases member

theorem bypassed (idle : books.Idle kinds dcRackName) (pod : String) (mixed : ¬ kinds) :
    Fits kinds books dcRackName (some (bypassDecommission pod rack)) := by
  have listed : (bypassDecommission pod rack).podLastOperation.listed = [pod] := rfl
  refine ⟨?_, fun kind => absurd kind mixed⟩
  rw [idle.jobs]
  exact Tidy.ofNone (by simp [listed])

theorem finished (fits : Fits kinds books dcRackName (some rack))
    (idle : books.Idle kinds dcRackName) {podName : String} {others : List String}
    (pods : rack.podLastOperation.pods = some (podName :: others))
    (name : operation.name = rack.podLastOperation.name) (running : operation.pods = some [])
    (succeeded : operation.podsOK = some [podName])
    (failed : operation.podsKO = rack.podLastOperation.podsKO) :
    Fits kinds books dcRackName (some { rack with podLastOperation := operation }) := by
  have listed : operation.listed = podName :: rack.podLastOperation.podsKO.getD [] := by
    simp [PodLastOperation.listed, PodLastOperation.running, running, succeeded, failed]
  have old : (podName :: rack.podLastOperation.podsKO.getD []).Sublist
      rack.podLastOperation.listed := by
    simp only [PodLastOperation.listed, PodLastOperation.running, pods, Option.getD_some,
      List.cons_append]
    exact List.Sublist.cons_cons podName
      ((List.sublist_append_right _ _).trans (List.sublist_append_right _ _))
  refine ⟨?_, fun kind => ⟨?_, fun pod member => ?_, fun _ _ => ?_, ?_⟩⟩
  · rw [idle.jobs]
    refine Tidy.ofNone ?_
    change operation.listed.Nodup
    rw [listed]
    exact fits.1.separate.sublist old
  · simp [idle.jobs]
  · change pod ∈ operation.listed at member
    change Job.mk dcRackName pod operation.name ∈ _
    rw [listed] at member
    rw [name]
    exact (fits.2 kind).ran pod (old.subset member)
  · change operation.running = []
    simp [PodLastOperation.running, running]
  · simp [idle.lost kind]

end Fits

end Casskop
