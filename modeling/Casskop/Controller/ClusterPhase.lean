import Casskop.Controller.PassInvariants

/-!
# The phase of the cluster

`UpdateCassandraClusterStatusPhase` sums the racks up.  The first rack that is not running
gives its phase to the cluster and ends the loop; on the way every action that is not done
becomes the action of the cluster.
-/

namespace Casskop

/-- The racks of the topology that have a status, in the order of the loop. -/
def presentRacks (status : CassandraClusterStatus) (names : List String) :
    List CassandraRackStatus :=
  names.filterMap status.cassandraRackStatus.lookup

def CassandraRackStatus.isDone (rack : CassandraRackStatus) : Bool :=
  rack.cassandraLastAction.status == .done

def CassandraRackStatus.isRunning (rack : CassandraRackStatus) : Bool := rack.phase == .running

/-- An action that is not done becomes the action of the cluster. -/
def noteAction (status : CassandraClusterStatus) (rack : CassandraRackStatus) :
    CassandraClusterStatus :=
  if rack.isDone then status
  else
    { status with
      lastClusterActionStatus := rack.cassandraLastAction.status
      lastClusterAction := rack.cassandraLastAction.name }

variable {status : CassandraClusterStatus} {rack : CassandraRackStatus}

section Notes

variable {racks : List CassandraRackStatus}

theorem noteAction_racks (status : CassandraClusterStatus) (rack : CassandraRackStatus) :
    (noteAction status rack).cassandraRackStatus = status.cassandraRackStatus := by
  unfold noteAction
  split <;> rfl

theorem foldl_noteAction_done (done : ∀ rack ∈ racks, rack.isDone = true) :
    racks.foldl noteAction status = status := by
  induction racks with
  | nil => rfl
  | cons rack racks induction =>
    have first : noteAction status rack = status := by
      unfold noteAction
      rw [if_pos (done rack List.mem_cons_self)]
    rw [List.foldl_cons, first]
    exact induction fun other member => done other (List.mem_cons_of_mem _ member)

theorem foldl_noteAction_last {before after : List CassandraRackStatus}
    (unfinished : rack.isDone = false) (done : ∀ other ∈ after, other.isDone = true) :
    ((before ++ rack :: after).foldl noteAction status).lastClusterAction =
        rack.cassandraLastAction.name ∧
      ((before ++ rack :: after).foldl noteAction status).lastClusterActionStatus =
        rack.cassandraLastAction.status := by
  rw [List.foldl_append, List.foldl_cons, foldl_noteAction_done done]
  unfold noteAction
  rw [if_neg (by simp [unfinished])]
  exact ⟨rfl, rfl⟩

end Notes

/-! ## The loop -/

section Scan

variable {name : String} {names : List String} {unfinished : Bool}

theorem scanRackPhases_absent (absent : status.cassandraRackStatus.lookup name = none) :
    scanRackPhases (name :: names) status unfinished = scanRackPhases names status unfinished := by
  rw [scanRackPhases, absent]

theorem scanRackPhases_present (present : status.cassandraRackStatus.lookup name = some rack) :
    scanRackPhases (name :: names) status unfinished =
      if rack.isRunning then
        scanRackPhases names (noteAction status rack) (unfinished || !rack.isDone)
      else
        ({ noteAction status rack with phase := rack.phase }, unfinished || !rack.isDone,
          true) := by
  rw [scanRackPhases, present]
  dsimp only
  unfold noteAction CassandraRackStatus.isRunning CassandraRackStatus.isDone
  by_cases done : rack.cassandraLastAction.status = .done
  · by_cases running : rack.phase = .running <;> simp [done, running]
  · have flag : (rack.cassandraLastAction.status == .done) = false := by simpa using done
    by_cases running : rack.phase = .running <;> simp [done, flag, running]

theorem presentRacks_absent (absent : status.cassandraRackStatus.lookup name = none) :
    presentRacks status (name :: names) = presentRacks status names :=
  List.filterMap_cons_none absent

theorem presentRacks_present (present : status.cassandraRackStatus.lookup name = some rack) :
    presentRacks status (name :: names) = rack :: presentRacks status names :=
  List.filterMap_cons_some present

theorem presentRacks_noteAction (status : CassandraClusterStatus) (rack : CassandraRackStatus)
    (names : List String) :
    presentRacks (noteAction status rack) names = presentRacks status names := by
  unfold presentRacks
  rw [noteAction_racks]

theorem scanRackPhases_stops (names : List String) :
    ∀ (status : CassandraClusterStatus) (unfinished : Bool),
      (presentRacks status names).find? (fun rack => !rack.isRunning) = some rack →
      (scanRackPhases names status unfinished).1.phase = rack.phase ∧
        (scanRackPhases names status unfinished).2.2 = true := by
  induction names with
  | nil =>
    intro status unfinished first
    cases first
  | cons name names induction =>
    intro status unfinished first
    cases found : status.cassandraRackStatus.lookup name with
    | none =>
      rw [presentRacks_absent found] at first
      rw [scanRackPhases_absent found]
      exact induction status unfinished first
    | some head =>
      rw [presentRacks_present found, List.find?_cons] at first
      rw [scanRackPhases_present found]
      cases running : head.isRunning with
      | true =>
        rw [running] at first
        rw [if_pos rfl]
        apply induction
        rw [presentRacks_noteAction]
        exact first
      | false =>
        rw [running] at first
        cases first
        exact ⟨rfl, rfl⟩

theorem scanRackPhases_running (names : List String) :
    ∀ (status : CassandraClusterStatus) (unfinished : Bool),
      (∀ rack ∈ presentRacks status names, rack.isRunning = true) →
      scanRackPhases names status unfinished =
        ((presentRacks status names).foldl noteAction status,
          unfinished || (presentRacks status names).any (fun rack => !rack.isDone), false) := by
  induction names with
  | nil =>
    intro status unfinished _
    simp [scanRackPhases, presentRacks]
  | cons name names induction =>
    intro status unfinished running
    cases found : status.cassandraRackStatus.lookup name with
    | none =>
      rw [presentRacks_absent found] at running ⊢
      rw [scanRackPhases_absent found]
      exact induction status unfinished running
    | some head =>
      rw [presentRacks_present found] at running ⊢
      have later : ∀ rack ∈ presentRacks (noteAction status head) names,
          rack.isRunning = true := by
        rw [presentRacks_noteAction]
        exact fun rack member => running rack (List.mem_cons_of_mem _ member)
      rw [scanRackPhases_present found, if_pos (running head List.mem_cons_self),
        induction _ _ later, presentRacks_noteAction, List.foldl_cons, List.any_cons,
        Bool.or_assoc]

theorem scanRackPhases_done (names : List String) :
    ∀ (status : CassandraClusterStatus) (unfinished : Bool),
      (scanRackPhases names status unfinished).1.lastClusterActionStatus = .done →
      status.lastClusterActionStatus = .done := by
  induction names with
  | nil => exact fun status unfinished done => done
  | cons name names induction =>
    intro status unfinished done
    have noted : ∀ rack, (noteAction status rack).lastClusterActionStatus = .done →
        status.lastClusterActionStatus = .done := by
      intro rack
      unfold noteAction CassandraRackStatus.isDone
      split
      · exact id
      · rename_i other
        intro same
        exact absurd same (by simpa using other)
    cases found : status.cassandraRackStatus.lookup name with
    | none =>
      rw [scanRackPhases_absent found] at done
      exact induction status unfinished done
    | some head =>
      rw [scanRackPhases_present found] at done
      split at done
      · exact noted head (induction _ _ done)
      · exact noted head done

end Scan

/-! ## The cluster -/

section Aggregation

variable {spec : CassandraClusterSpec}

theorem updateCassandraClusterStatusPhase_stops
    (first : (presentRacks status spec.racksInOrder).find? (fun rack => !rack.isRunning) = some
      rack) :
    updateCassandraClusterStatusPhase spec status =
        (scanRackPhases spec.racksInOrder status false).1 ∧
      (updateCassandraClusterStatusPhase spec status).phase = rack.phase := by
  obtain ⟨phase, ended⟩ := scanRackPhases_stops spec.racksInOrder status false first
  have stops : updateCassandraClusterStatusPhase spec status =
      (scanRackPhases spec.racksInOrder status false).1 := by
    unfold updateCassandraClusterStatusPhase
    dsimp only
    rw [if_pos ended]
  exact ⟨stops, by rw [stops]; exact phase⟩

theorem updateCassandraClusterStatusPhase_done
    (running : ∀ rack ∈ presentRacks status spec.racksInOrder, rack.isRunning = true)
    (done : ∀ rack ∈ presentRacks status spec.racksInOrder, rack.isDone = true) :
    (updateCassandraClusterStatusPhase spec status).phase = .running ∧
      (updateCassandraClusterStatusPhase spec status).lastClusterActionStatus = .done := by
  have none : (presentRacks status spec.racksInOrder).any (fun rack => !rack.isDone) = false := by
    rw [List.any_eq_false]
    intro rack member
    simp [done rack member]
  unfold updateCassandraClusterStatusPhase
  rw [scanRackPhases_running _ _ _ running, foldl_noteAction_done done, none]
  dsimp only
  rw [if_neg (by simp)]
  by_cases reported : status.lastClusterActionStatus = .done
  · by_cases phase : status.phase = .running <;> simp [reported, phase]
  · simp [reported]

theorem updateCassandraClusterStatusPhase_noted
    (running : ∀ rack ∈ presentRacks status spec.racksInOrder, rack.isRunning = true)
    (member : rack ∈ presentRacks status spec.racksInOrder) (unfinished : rack.isDone = false) :
    let noted := (presentRacks status spec.racksInOrder).foldl noteAction status
    (updateCassandraClusterStatusPhase spec status).lastClusterAction = noted.lastClusterAction ∧
      (updateCassandraClusterStatusPhase spec status).lastClusterActionStatus =
        noted.lastClusterActionStatus := by
  have some : (presentRacks status spec.racksInOrder).any (fun rack => !rack.isDone) = true :=
    List.any_eq_true.mpr ⟨rack, member, by simp [unfinished]⟩
  unfold updateCassandraClusterStatusPhase
  rw [scanRackPhases_running _ _ _ running, some]
  simp only [Bool.or_true, Bool.true_eq_false, Bool.false_eq_true, false_and, if_false]
  split
  · exact ⟨rfl, rfl⟩
  · exact ⟨rfl, rfl⟩

/-- Only racks that are all running and done end the action of the cluster. -/
theorem racks_of_updateCassandraClusterStatusPhase_done
    (unreported : status.lastClusterActionStatus ≠ .done)
    (ends : (updateCassandraClusterStatusPhase spec status).lastClusterActionStatus = .done) :
    ∀ rack ∈ presentRacks status spec.racksInOrder,
      rack.isRunning = true ∧ rack.isDone = true := by
  have running : ∀ rack ∈ presentRacks status spec.racksInOrder, rack.isRunning = true := by
    cases first : (presentRacks status spec.racksInOrder).find? fun rack => !rack.isRunning with
    | none =>
      intro rack member
      simpa using List.find?_eq_none.mp first rack member
    | some rack =>
      rw [(updateCassandraClusterStatusPhase_stops first).1] at ends
      exact absurd (scanRackPhases_done _ _ _ ends) unreported
  intro rack member
  refine ⟨running rack member, ?_⟩
  by_contra unfinished
  rw [Bool.not_eq_true] at unfinished
  rw [(updateCassandraClusterStatusPhase_noted running member unfinished).2] at ends
  have stays := scanRackPhases_done spec.racksInOrder status false
  rw [scanRackPhases_running _ _ false running] at stays
  exact unreported (stays ends)

end Aggregation

/-- The cluster sums up the racks that have a status. -/
theorem updateCassandraClusterStatusPhase_aggregates (spec : CassandraClusterSpec)
    (status : CassandraClusterStatus) :
    let racks := presentRacks status spec.racksInOrder
    let updated := updateCassandraClusterStatusPhase spec status
    updated.cassandraRackStatus = status.cassandraRackStatus ∧
      (∀ rack, racks.find? (fun rack => !rack.isRunning) = some rack →
        updated.phase = rack.phase) ∧
      ((∀ rack ∈ racks, rack.isRunning = true ∧ rack.isDone = true) →
        updated.phase = .running ∧ updated.lastClusterActionStatus = .done) ∧
      (∀ before rack after, racks = before ++ rack :: after →
        (∀ other ∈ racks, other.isRunning = true) → rack.isDone = false →
        (∀ other ∈ after, other.isDone = true) →
        updated.lastClusterAction = rack.cassandraLastAction.name ∧
          updated.lastClusterActionStatus = rack.cassandraLastAction.status) ∧
      (status.lastClusterActionStatus ≠ .done → updated.lastClusterActionStatus = .done →
        ∀ rack ∈ racks, rack.isRunning = true ∧ rack.isDone = true) := by
  refine ⟨updateCassandraClusterStatusPhase_racks spec status, ?_, ?_, ?_, ?_⟩
  · exact fun rack first => (updateCassandraClusterStatusPhase_stops first).2
  · intro all
    exact updateCassandraClusterStatusPhase_done (fun rack member => (all rack member).1)
      fun rack member => (all rack member).2
  · intro before rack after split running unfinished done
    have member : rack ∈ presentRacks status spec.racksInOrder := by
      rw [split]
      simp
    obtain ⟨action, actionStatus⟩ :=
      updateCassandraClusterStatusPhase_noted running member unfinished
    rw [action, actionStatus, split]
    exact foldl_noteAction_last unfinished done
  · exact racks_of_updateCassandraClusterStatusPhase_done

end Casskop
