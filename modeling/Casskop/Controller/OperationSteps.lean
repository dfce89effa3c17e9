import Casskop.Controller.Bookkeeping

/-!
# Starting operations and keeping the books

Operations start on pods the users have labelled, or are watched again when another
operator left them behind.  Under what is assumed of the labels and of the record the
books stay in order.
-/

namespace Casskop

/-! ## Assumptions -/

/-- The running pods that wait for the operation. -/
def OperationAnswers.waiting (answers : OperationAnswers) : List Pod :=
  runningPods (answers.toDoPods.toOption.getD [])

/-- The pods of the record that still run. -/
def OperationAnswers.watched (answers : OperationAnswers) (operation : PodLastOperation) :
    List Pod :=
  runningPods (operation.running.filterMap fun name => (answers.pod name).toOption)

/-- The test of `podsSlice`: the operation goes on under another operator. -/
def PodLastOperation.TakenOver (operation : PodLastOperation) (podName : String)
    (picked : OperationName) : Prop :=
  operation.name = picked ∧ operation.status = .ongoing ∧ operation.operatorName ≠ "" ∧
    operation.operatorName ≠ podName

/-- The record and the labels of a rack when a pass comes to its pods.  `process` is as it
was before the pass. -/
structure Works (kinds durable : Prop) (process : Process) (dcRackName : String)
    (answers : OperationAnswers) (operation : PodLastOperation) : Prop where
  asked : ∀ name pod, answers.pod name = .ok pod → pod.name = name
  distinct : (answers.waiting.map Pod.name).Nodup
  fresh : operation.status = .ongoing → ∀ pod ∈ answers.waiting, pod.name ∉ operation.running
  kind : kinds → operation.status = .ongoing → answers.waiting ≠ [] →
    operation.name = answers.operation
  key : kinds → answers.operation ≠ .decommission
  /-- Only operations that got lost with their process are taken over. -/
  lost : operation.TakenOver process.podName answers.operation →
    process.books.jobsAt dcRackName = 0 ∧ ∀ pod ∈ answers.watched operation,
      process.books.finalized.count ⟨dcRackName, pod.name, answers.operation⟩ <
        process.books.started.count ⟨dcRackName, pod.name, answers.operation⟩
  /-- A pod that is still at work is found running. -/
  alive : kinds → operation.TakenOver process.podName answers.operation →
    ∀ job ∈ process.books.lostAt dcRackName, job.pod ∈ (answers.watched operation).map Pod.name
  accepted : answers.waiting ≠ [] ∨
    operation.TakenOver process.podName answers.operation ∧ answers.watched operation ≠ [] →
    durable

/-- The status writes made for the pods of the rack succeed, and no result waits. -/
structure OperationAnswers.Accepted (answers : OperationAnswers) : Prop where
  drained : answers.channel = []
  write : Except.succeeded answers.write.statusUpdate = true
  start : ∀ pod, Except.succeeded (answers.start pod).2.statusUpdate = true

variable {process : Process} {answers : OperationAnswers}

theorem Works.congr {kinds durable : Prop} {dcRackName : String}
    {operation operation' : PodLastOperation}
    (works : Works kinds durable process dcRackName answers operation)
    (same : operation'.status = .ongoing → operation' = operation) :
    Works kinds durable process dcRackName answers operation' := by
  by_cases ongoing : operation'.status = .ongoing
  · rw [same ongoing]
    exact works
  · refine ⟨works.asked, works.distinct, fun going => absurd going ongoing,
      fun _ going => absurd going ongoing, works.key,
      fun taken => absurd taken.2.1 ongoing, fun _ taken => absurd taken.2.1 ongoing,
      fun some => ?_⟩
    rcases some with waiting | ⟨taken, _⟩
    · exact works.accepted (Or.inl waiting)
    · exact absurd taken.2.1 ongoing

theorem OperationAnswers.watched_sublist
    (asked : ∀ name pod, answers.pod name = .ok pod → pod.name = name)
    (operation : PodLastOperation) :
    ((answers.watched operation).map Pod.name).Sublist operation.running := by
  have found : ∀ names : List String,
      ((names.filterMap fun name => (answers.pod name).toOption).map Pod.name).Sublist
        names := by
    intro names
    induction names with
    | nil => exact List.Sublist.slnil
    | cons name names induction =>
      cases answer : answers.pod name with
      | error error => simpa [Except.toOption, answer] using induction.cons name
      | ok pod =>
        have same := asked name pod answer
        simpa [Except.toOption, answer, same] using induction.cons_cons name
  exact (List.Sublist.map Pod.name List.filter_sublist).trans (found operation.running)

/-! ## Books -/

namespace Books.Balanced

variable {books : Books} {job : Job}

theorem start (balanced : books.Balanced) : (books.start job).Balanced := by
  intro other
  have before := balanced other
  change books.finalized.count other + (job ::ₘ books.jobs).count other ≤
    (job ::ₘ books.started).count other
  rw [Multiset.count_cons, Multiset.count_cons]
  omega

theorem attempt (balanced : books.Balanced) : (books.attempt job).Balanced := by
  intro other
  exact (balanced other).trans (Multiset.count_le_count_cons _ job _)

theorem monitor (balanced : books.Balanced) (absent : job ∉ books.jobs)
    (unfinished : books.finalized.count job < books.started.count job) :
    (books.monitor job).Balanced := by
  intro other
  have before := balanced other
  change books.finalized.count other + (job ::ₘ books.jobs).count other ≤
    books.started.count other
  by_cases same : other = job
  · subst same
    rw [Multiset.count_cons_self, Multiset.count_eq_zero.mpr absent]
    omega
  · rw [Multiset.count_cons_of_ne same]
    exact before

theorem lose (balanced : books.Balanced) : books.lose.Balanced := by
  intro other
  have before := balanced other
  change books.finalized.count other + (0 : Multiset Job).count other ≤
    books.started.count other
  rw [Multiset.count_zero]
  omega

end Books.Balanced

/-- When the object holds the working copy and is stored, only the working copy is to be
looked at. -/
theorem Accounted.ofAligned {kinds durable : Prop} {pass : Pass} (balanced : process.books.Balanced)
    (working : ∀ name, Fits kinds process.books name (pass.rackStatus name))
    (aligned : pass.cc.status = pass.status)
    (stored : process.racks = pass.status.cassandraRackStatus ∨ process.racks =
      pass.status.cassandraRackStatus.mapValues CassandraRackStatus.serialized) :
    Accounted kinds durable process pass := by
  refine ⟨balanced, working, ?_, fun name => ?_, fun _ => ?_⟩
  · rw [aligned]
    exact working
  · rcases stored with same | same
    · rw [same]
      exact working name
    · rw [same, GoMap.lookup_mapValues]
      exact (working name).serialized
  · rw [aligned]
    exact stored

/-! ## The pods to work on -/

/-- What `getPodsToWorkOn` can answer. -/
inductive PodsToWorkOn (platform : Platform) (now : Nat) (pass : Pass) (dcRackName : String)
    (rack : CassandraRackStatus) (answers : OperationAnswers) : Pass × List Pod × Bool → Prop where
  | nameless (unnamed : platform.podName = "") :
      PodsToWorkOn platform now pass dcRackName rack answers (pass, [], false)
  | takenOver (taken : rack.podLastOperation.TakenOver platform.podName answers.operation) :
      PodsToWorkOn platform now pass dcRackName rack answers
        (Pass.updateCassandraStatus
          (if (answers.watched rack.podLastOperation).isEmpty then
            pass.setRackStatus dcRackName (setOperation rack fun operation =>
              { operation with status := .done, endTime := some now })
          else pass) answers.write, answers.watched rack.podLastOperation, true)
  | ended (running : rack.podLastOperation.running = []) :
      PodsToWorkOn platform now pass dcRackName rack answers
        ((pass.setRackStatus dcRackName (setOperation rack fun operation =>
          { operation with status := .done, endTime := some now })).updateCassandraStatus
            answers.write, [], false)
  | nothing : PodsToWorkOn platform now pass dcRackName rack answers (pass, [], false)
  | reset (waits : rack.podLastOperation.status ≠ .ongoing) :
      PodsToWorkOn platform now pass dcRackName rack answers
        ((pass.setRackStatus dcRackName (setOperation rack fun operation =>
          { operation with
            name := answers.operation
            status := .ongoing
            startTime := some now
            endTime := none
            podsOK := some []
            podsKO := some []
            pods := some [] })).updateCassandraStatus answers.write, answers.waiting, false)
  | going (ongoing : rack.podLastOperation.status = .ongoing) :
      PodsToWorkOn platform now pass dcRackName rack answers (pass, answers.waiting, false)

theorem getPodsToWorkOn_case (platform : Platform) (now : Nat) (pass : Pass)
    (dcRackName : String) (rack : CassandraRackStatus) (answers : OperationAnswers) :
    PodsToWorkOn platform now pass dcRackName rack answers
      (getPodsToWorkOn platform now pass dcRackName rack answers) := by
  unfold getPodsToWorkOn
  dsimp only
  split
  · rename_i unnamed
    exact .nameless unnamed
  split
  · rename_i taken
    exact .takenOver taken
  unfold initOperation
  dsimp only
  split
  · split
    · rename_i idle
      exact .ended (List.isEmpty_iff.mp idle.2.2)
    · exact .nothing
  split
  · rename_i waits
    exact .reset waits
  · rename_i going
    exact .going (not_not.mp going)

variable {pod : String}

namespace Tracked

variable {kinds durable : Prop} {start : Process} {pass : Pass} {dcRackName : String}
  {rack : CassandraRackStatus}

/-! ## Watching -/

section Monitor

variable {operation : OperationName}
  (idle : weAreScalingDown rack = false)
  (ongoing : rack.podLastOperation.status = .ongoing)
  (name : kinds → rack.podLastOperation.name = operation)
  (isDurable : durable)

include idle ongoing name isDurable

/-- Nothing is in flight on the pod, and it was started more often than finalized. -/
theorem monitor (tracked : Tracked kinds durable start pass) (pod : String)
    (found : pass.rackStatus dcRackName = some rack) (aligned : pass.cc.status = pass.status)
    (running : pod ∈ rack.podLastOperation.running)
    (free : Booked (fun books => (∀ job ∈ books.jobsAt dcRackName, job.pod ≠ pod) ∧
      books.finalized.count ⟨dcRackName, pod, operation⟩ <
        books.started.count ⟨dcRackName, pod, operation⟩) start pass) :
    Tracked kinds durable start (pass.emit [.monitorOperation dcRackName pod operation]) := by
  refine tracked.single rfl fun meets accounted _ => ?_
  obtain ⟨unwatched, unfinished⟩ := free meets
  refine Accounted.ofAligned (accounted.balanced.monitor (fun inFlight => ?_) unfinished)
    (fun other => ?_) aligned ?_
  · exact unwatched _ (Books.mem_jobsAt.mpr ⟨inFlight, rfl⟩) rfl
  · by_cases same : other = dcRackName
    · subst same
      have fits := accounted.working other
      rw [found] at fits
      rw [Pass.rackStatus_emit, found]
      exact fits.monitor running unwatched ongoing idle name
    · exact (accounted.working other).monitor_of_ne fun same' => same same'.symm
  · have stored := accounted.agrees isDurable
    rw [aligned] at stored
    exact stored

theorem monitors (pods : List Pod) :
    ∀ {pass : Pass}, Tracked kinds durable start pass →
      pass.rackStatus dcRackName = some rack → pass.cc.status = pass.status →
      (∀ pod ∈ pods, pod.name ∈ rack.podLastOperation.running) →
      Booked (fun books => (pods.map Pod.name).Nodup ∧ ∀ pod ∈ pods,
        (∀ job ∈ books.jobsAt dcRackName, job.pod ≠ pod.name) ∧
          books.finalized.count ⟨dcRackName, pod.name, operation⟩ <
            books.started.count ⟨dcRackName, pod.name, operation⟩) start pass →
      Tracked kinds durable start
        (pods.foldl (fun pass pod =>
          pass.emit [.monitorOperation dcRackName pod.name operation]) pass) := by
  induction pods with
  | nil => exact fun tracked _ _ _ _ => tracked
  | cons pod pods induction =>
    intro pass tracked found aligned running free
    have first := tracked.monitor idle ongoing name isDurable pod.name found aligned
      (running pod List.mem_cons_self) fun meets => (free meets).2 pod List.mem_cons_self
    refine induction first found aligned
      (fun other member => running other (List.mem_cons_of_mem _ member)) fun meets => ?_
    rw [Pass.effects_emit] at meets
    obtain ⟨distinct, known⟩ := free (Runs.Meets.append.mp meets).1
    obtain ⟨fresh, others⟩ := List.nodup_cons.mp distinct
    refine ⟨others, fun other member => ?_⟩
    obtain ⟨unwatched, unfinished⟩ := known other (List.mem_cons_of_mem _ member)
    rw [Pass.effects_emit, Runs.run_append]
    refine ⟨fun job inFlight => ?_, unfinished⟩
    have jobs := @Books.jobsAt_monitor_self
      (Runs.run Process.apply start pass.effects).books ⟨dcRackName, pod.name, operation⟩
    change job ∈ Books.jobsAt (Books.monitor _ _) _ at inFlight
    rw [jobs] at inFlight
    rcases Multiset.mem_cons.mp inFlight with rfl | old
    · intro same
      refine fresh (List.mem_map.mpr ⟨other, member, same.symm⟩)
    · exact unwatched job old

end Monitor

/-! ## Starting -/

/-- The rack works on an operation that may be started on more of its pods. -/
structure Operating (kinds : Prop) (operation : OperationName) (rack : CassandraRackStatus) :
    Prop where
  idle : weAreScalingDown rack = false
  ongoing : rack.podLastOperation.status = .ongoing
  name : kinds → rack.podLastOperation.name = operation

section Start

variable {operation : OperationName}

theorem fits_start (accounted : Accounted kinds durable process pass)
    (found : pass.rackStatus dcRackName = some rack) (operating : Operating kinds operation rack)
    (fresh : pod ∉ rack.podLastOperation.running) (operatorName : String) (other : String) :
    Fits kinds (process.books.start ⟨dcRackName, pod, operation⟩) other
      ((pass.setRackStatus dcRackName (listPod operatorName pod rack)).rackStatus other) := by
  by_cases same : other = dcRackName
  · subst same
    have fits := accounted.working other
    rw [found] at fits
    rw [Pass.rackStatus_setRackStatus]
    exact fits.start fresh operating.ongoing operating.idle operating.name operatorName
  · rw [Pass.rackStatus_setRackStatus_ne _ _ same]
    exact (accounted.working other).start_of_ne fun same' => same same'.symm

theorem fits_listPod (accounted : Accounted kinds durable process pass) (mixed : ¬ kinds)
    (found : pass.rackStatus dcRackName = some rack) (fresh : pod ∉ rack.podLastOperation.running)
    (operatorName : String) (other : String) :
    Fits kinds process.books other
      ((pass.setRackStatus dcRackName (listPod operatorName pod rack)).rackStatus other) := by
  by_cases same : other = dcRackName
  · subst same
    have fits := accounted.working other
    rw [found] at fits
    rw [Pass.rackStatus_setRackStatus]
    exact ⟨fits.1.listPod fresh operatorName, fun kind => absurd kind mixed⟩
  · rw [Pass.rackStatus_setRackStatus_ne _ _ same]
    exact accounted.working other

theorem listAndStart (tracked : Tracked kinds durable start pass) (isDurable : durable)
    (found : pass.rackStatus dcRackName = some rack) (operating : Operating kinds operation rack)
    (fresh : pod ∉ rack.podLastOperation.running) (operatorName : String) {label : Effect}
    (labels : label.isCalm = true) {answer : WriteAnswer}
    (accepted : Except.succeeded answer.statusUpdate = true) :
    let listed := (pass.setRackStatus dcRackName (listPod operatorName pod rack)).emit [label]
    Tracked kinds durable start
      ((listed.updateCassandraStatus answer).emit [.startOperation dcRackName pod operation]) := by
  intro listed
  rcases Pass.updateCassandraStatus_case listed answer with
    ⟨same, held⟩ | ⟨first, calm, effects, held⟩
  · have labelled : Tracked kinds durable start (pass.emit [label]) :=
      tracked.emit (by simpa using labels)
    rw [same]
    refine labelled.single rfl fun _ accounted _ => ?_
    have racks := congrArg CassandraClusterStatus.cassandraRackStatus held
    refine Accounted.ofAligned accounted.balanced.start
      (fits_start accounted found operating fresh operatorName) held ?_
    rcases accounted.agrees isDurable with plain | serialized
    · exact Or.inl (plain.trans racks)
    · exact Or.inr (serialized.trans (congrArg (GoMap.mapValues _) racks))
  · have reached : Tracked kinds durable start (pass.emit (label :: first)) := by
      refine tracked.emit fun effect member => ?_
      rcases List.mem_cons.mp member with rfl | later
      · exact labels
      · exact calm effect later
    have split : ((listed.updateCassandraStatus answer).emit
          [.startOperation dcRackName pod operation]).effects =
        (pass.emit (label :: first)).effects ++
          [.updateClusterStatus listed.status (Except.succeeded answer.statusUpdate),
            .startOperation dcRackName pod operation] := by
      rw [Pass.effects_emit, effects]
      simp [listed]
    refine reached.append split fun _ accounted => ?_
    obtain ⟨books, racks⟩ := Process.racks_updateClusterStatus
      (Runs.run Process.apply start (pass.emit (label :: first)).effects) listed.status
      (Except.succeeded answer.statusUpdate)
    rw [if_pos accepted] at racks
    have ends : Accounted kinds durable
        (((Runs.run Process.apply start (pass.emit (label :: first)).effects).apply
          (.updateClusterStatus listed.status (Except.succeeded answer.statusUpdate))).apply
          (.startOperation dcRackName pod operation))
        ((listed.updateCassandraStatus answer).emit
          [.startOperation dcRackName pod operation]) := by
      refine Accounted.ofAligned ?_ (fun other => ?_) held (Or.inr racks)
      · change (Books.start (Process.books _) _).Balanced
        rw [books]
        exact accounted.balanced.start
      · change Fits kinds (Books.start (Process.books _) _) other _
        rw [books]
        exact fits_start accounted found operating fresh operatorName other
    refine ⟨fun done rest split _ => ?_, fun _ => ends⟩
    rcases done with _ | ⟨effect, _ | ⟨effect', done⟩⟩
    · exact accounted.sound rfl rfl rest
    · obtain ⟨rfl, rfl⟩ := List.cons.inj split
      intro quiet
      have mixed : ¬ kinds := fun kind => quiet kind _ _ _ rfl
      change (Process.books (Process.apply _ _)).Balanced ∧
        ∀ name, Fits kinds (Process.books (Process.apply _ _)) name
          ((Process.racks (Process.apply _ _)).lookup name)
      rw [books, racks]
      refine ⟨accounted.balanced, fun other => ?_⟩
      rw [GoMap.lookup_mapValues]
      exact (fits_listPod accounted mixed found fresh operatorName other).serialized
    · obtain ⟨rfl, more⟩ := List.cons.inj split
      obtain ⟨rfl, none⟩ := List.cons.inj more
      obtain ⟨rfl, rfl⟩ := List.append_eq_nil_iff.mp none.symm
      exact ends.sound rfl rfl []

/-- One round of the loop of `ensureOperation`; only the pod itself becomes listed. -/
theorem startOperation (tracked : Tracked kinds durable start pass) (platform : Platform)
    (isDurable : durable) (found : pass.rackStatus dcRackName = some rack)
    (operating : Operating kinds operation rack) {pod : Pod}
    (fresh : pod.name ∉ rack.podLastOperation.running) {answer : Bool × WriteAnswer}
    (accepted : Except.succeeded answer.2.statusUpdate = true) :
    let after := startOperation platform pass dcRackName operation pod answer
    Tracked kinds durable start after ∧ ∃ rack', after.rackStatus dcRackName = some rack' ∧
      Operating kinds operation rack' ∧ ∀ other ∈ rack'.podLastOperation.running,
        other ∈ rack.podLastOperation.running ∨ other = pod.name := by
  unfold Casskop.startOperation
  rw [found]
  dsimp only
  split
  · refine ⟨tracked.rack fun _ fits => ?_, _, Pass.rackStatus_setRackStatus _ _ _,
      ⟨operating.idle, operating.ongoing, operating.name⟩, fun other => Or.inl⟩
    rw [found] at fits
    exact fits.congr ⟨rfl, rfl, rfl, rfl⟩ id
  · refine ⟨tracked.listAndStart isDurable found operating fresh platform.podName rfl accepted,
      _, Pass.rackStatus_setRackStatus pass dcRackName _,
      ⟨operating.idle, operating.ongoing, operating.name⟩, fun other member => ?_⟩
    rcases List.mem_append.mp member with old | new
    · exact Or.inl old
    · exact Or.inr (List.mem_singleton.mp new)

theorem starts (platform : Platform) (isDurable : durable) (accepted : answers.Accepted)
    (pods : List Pod) :
    ∀ {pass : Pass} {rack : CassandraRackStatus}, Tracked kinds durable start pass →
      pass.rackStatus dcRackName = some rack → Operating kinds answers.operation rack →
      (pods.map Pod.name).Nodup →
      (∀ pod ∈ pods, pod.name ∉ rack.podLastOperation.running) →
      Tracked kinds durable start
        (pods.foldl (fun pass pod => Casskop.startOperation platform pass dcRackName
          answers.operation pod (answers.start pod.name)) pass) := by
  induction pods with
  | nil => exact fun tracked _ _ _ _ => tracked
  | cons pod pods induction =>
    intro pass rack tracked found operating distinct fresh
    obtain ⟨new, others⟩ := List.nodup_cons.mp distinct
    obtain ⟨next, rack', found', operating', listed⟩ := tracked.startOperation platform
      isDurable found operating (fresh pod List.mem_cons_self) (accepted.start pod.name)
    refine induction next found' operating' others fun other member running => ?_
    rcases listed other.name running with old | same
    · exact fresh other (List.mem_cons_of_mem _ member) old
    · exact new (List.mem_map.mpr ⟨other, member, same⟩)

end Start

/-! ## All operations of a rack -/

section Ensure

variable (platform : Platform) (now : Nat)

theorem takeOver (tracked : Tracked kinds durable start pass)
    (found : pass.rackStatus dcRackName = some rack) (idle : weAreScalingDown rack = false)
    (works : Works kinds durable start dcRackName answers rack.podLastOperation)
    (accepted : durable → answers.Accepted) (pending : Pending start dcRackName pass)
    (taken : rack.podLastOperation.TakenOver start.podName answers.operation) :
    Tracked kinds durable start
      ((answers.watched rack.podLastOperation).foldl
        (fun pass pod => pass.emit [.monitorOperation dcRackName pod.name answers.operation])
        (Pass.updateCassandraStatus
          (if (answers.watched rack.podLastOperation).isEmpty then
            pass.setRackStatus dcRackName (setOperation rack fun operation =>
              { operation with status := .done, endTime := some now })
          else pass) answers.write)) := by
  obtain ⟨none, unfinished⟩ := works.lost taken
  cases watched : answers.watched rack.podLastOperation with
  | nil =>
    refine (tracked.rack fun meets fits => ?_).updateCassandraStatus
      fun isDurable => (accepted isDurable).write
    rw [found] at fits
    have untouched := pending meets none
    refine fits.restatus ⟨untouched.none, fun kind => ?_⟩ rfl rfl fun kind decommission _ => ?_
    · apply Multiset.eq_zero_of_forall_notMem
      intro job member
      have working := works.alive kind taken job (untouched.lost job member)
      rw [watched] at working
      cases working
    · exact absurd (taken.1.symm.trans decommission) (works.key kind)
  | cons pod pods =>
    have isDurable := works.accepted (Or.inr ⟨taken, by simp [watched]⟩)
    have sublist := OperationAnswers.watched_sublist works.asked rack.podLastOperation
    rw [watched] at sublist unfinished
    have written : Tracked kinds durable start (pass.updateCassandraStatus answers.write) :=
      tracked.updateCassandraStatus fun isDurable => (accepted isDurable).write
    refine monitors idle taken.2.1 (fun _ => taken.1) isDurable (pod :: pods) written found
      (Pass.updateCassandraStatus_aligned _ _)
      (fun other member => sublist.subset (List.mem_map_of_mem member)) fun meets => ?_
    have fits := (written.accounted meets).working dcRackName
    rw [Pass.updateCassandraStatus_rackStatus, found] at fits
    have untouched := pending.append rfl (fun effect member => by
      simp [updateCassandraStatus_spawnedRack member]) meets none
    refine ⟨(List.nodup_append'.mp fits.1.separate).1.sublist sublist, fun other member => ?_⟩
    have known := unfinished other member
    have started := untouched.started ⟨dcRackName, other.name, answers.operation⟩ rfl
    have finalized := untouched.finalized ⟨dcRackName, other.name, answers.operation⟩ rfl
    refine ⟨fun job inFlight => ?_, by omega⟩
    rw [untouched.none] at inFlight
    cases inFlight

theorem ensureOperation (tracked : Tracked kinds durable start pass)
    (process : platform.podName = start.podName)
    (found : pass.rackStatus dcRackName = some rack) (idle : weAreScalingDown rack = false)
    (works : Works kinds durable start dcRackName answers rack.podLastOperation)
    (accepted : durable → answers.Accepted) (pending : Pending start dcRackName pass) :
    Tracked kinds durable start
      (ensureOperation platform now pass dcRackName rack answers) := by
  have write : durable → Except.succeeded answers.write.statusUpdate = true :=
    fun isDurable => (accepted isDurable).write
  have starting : ∀ {pass : Pass} {rack : CassandraRackStatus},
      Tracked kinds durable start pass → pass.rackStatus dcRackName = some rack →
      (answers.waiting ≠ [] → Operating kinds answers.operation rack ∧
        ∀ pod ∈ answers.waiting, pod.name ∉ rack.podLastOperation.running) →
      Tracked kinds durable start (answers.waiting.foldl (fun pass pod =>
        Casskop.startOperation platform pass dcRackName answers.operation pod
          (answers.start pod.name)) pass) := by
    intro pass rack tracked found ready
    by_cases none : answers.waiting = []
    · rw [none]
      exact tracked
    · obtain ⟨operating, fresh⟩ := ready none
      have isDurable := works.accepted (Or.inl none)
      exact starts platform isDurable (accepted isDurable) answers.waiting tracked found
        operating works.distinct fresh
  have work := getPodsToWorkOn_case platform now pass dcRackName rack answers
  unfold Casskop.ensureOperation
  generalize getPodsToWorkOn platform now pass dcRackName rack answers = todo at work
  cases work with
  | nameless | nothing => exact tracked
  | takenOver taken =>
    rw [process] at taken
    exact tracked.takeOver now found idle works accepted pending taken
  | ended running =>
    refine (tracked.rack fun _ fits => ?_).updateCassandraStatus write
    rw [found] at fits
    exact fits.restatus (fits.idle_of_running running) rfl rfl fun _ _ _ => running
  | reset waits =>
    refine starting ((tracked.rack fun _ fits => ?_).updateCassandraStatus write)
      (Pass.rackStatus_setRackStatus pass dcRackName _) fun _ => ⟨⟨idle, rfl, fun _ => rfl⟩, ?_⟩
    · rw [found] at fits
      exact Fits.ofEmpty (fits.idle_of_status waits) rfl
    · simp [setOperation, PodLastOperation.running]
  | going ongoing =>
    exact starting tracked found fun some =>
      ⟨⟨idle, ongoing, fun kind => works.kind kind ongoing some⟩, works.fresh ongoing⟩

theorem handlePodOperation {answers : HandleAnswers} (tracked : Tracked kinds durable start pass)
    (process : platform.podName = start.podName)
    (found : pass.rackStatus dcRackName = some rack) (idle : weAreScalingDown rack = false)
    (works : Works kinds durable start dcRackName answers.operations rack.podLastOperation)
    (accepted : durable → answers.operations.Accepted)
    (pending : Pending start dcRackName pass) (ready : Bool) :
    Tracked kinds durable start
      (handlePodOperation platform now pass dcRackName rack answers ready).pass := by
  have drained : Tracked kinds durable start
        (finalizeOperations pass answers.operations.channel).pass ∧
      Pending start dcRackName (finalizeOperations pass answers.operations.channel).pass := by
    by_cases isDurable : durable
    · rw [(accepted isDurable).drained]
      exact ⟨tracked, pending⟩
    · refine ⟨tracked.finalizeAll isDurable _, ?_⟩
      obtain ⟨more, effects, quiet⟩ := finalizeAll_spawnedRack
        (answers.operations.channel.take (drainedCount answers.operations.channel.length)) pass
      exact pending.append effects fun effect member => by simp [quiet effect member]
  have current := (finalizeAll_rackStatus (answers.operations.channel.take
    (drainedCount answers.operations.channel.length)) dcRackName pass).trans found
  unfold Casskop.handlePodOperation
  rw [if_neg (by simp [idle])]
  split
  · exact tracked
  · exact tracked
  · split
    · dsimp only
      split
      · exact drained.1.ensureOperation platform now process current idle works accepted drained.2
      · exact drained.1
    · exact tracked

end Ensure

end Tracked

end Casskop
