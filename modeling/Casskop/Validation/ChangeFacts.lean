import Casskop.Validation.Changes

/-!
# What the check of an edit leaves alone

A pass that goes on after `CheckNonAllowedChanges` works on the spec it was given.
Rack statuses are only flagged or, with their DC, removed.
-/

namespace Casskop

/-! ## Loops over rack statuses -/

/-- A loop that changes the status of each rack; `true` is the nil dereference of a rack
without status. -/
def updateAll (change : CassandraRackStatus → CassandraRackStatus) :
    List String → GoMap CassandraRackStatus → GoMap CassandraRackStatus × Bool
  | [], racks => (racks, false)
  | name :: rest, racks =>
    match racks.lookup name with
    | none => (racks, true)
    | some rack => updateAll change rest (racks.insert name (change rack))

theorem updateAll_returns_iff (change : CassandraRackStatus → CassandraRackStatus)
    (names : List String) (racks : GoMap CassandraRackStatus) :
    (updateAll change names racks).2 = false ↔
      ∀ name ∈ names, (racks.lookup name).isSome = true := by
  induction names generalizing racks with
  | nil => simp [updateAll]
  | cons first rest induction =>
    unfold updateAll
    cases found : racks.lookup first with
    | none => simp [found]
    | some rack =>
      have present : ∀ name, ((racks.insert first (change rack)).lookup name).isSome =
          (racks.lookup name).isSome := by
        intro name
        by_cases same : name = first
        · subst same
          simp [found]
        · rw [Finmap.lookup_insert_of_ne _ same]
      dsimp only
      rw [induction, List.forall_mem_cons, found]
      simp only [present, Option.isSome_some, true_and]

/-- A name that occurs twice is changed twice, which has to be the same. -/
theorem updateAll_lookup {change : CassandraRackStatus → CassandraRackStatus}
    (twice : ∀ rack, change (change rack) = change rack) (names : List String)
    (racks : GoMap CassandraRackStatus) (returns : (updateAll change names racks).2 = false)
    (name : String) :
    (updateAll change names racks).1.lookup name =
      if name ∈ names then (racks.lookup name).map change else racks.lookup name := by
  induction names generalizing racks with
  | nil => simp [updateAll]
  | cons first rest induction =>
    unfold updateAll at returns ⊢
    cases found : racks.lookup first with
    | none => simp [found] at returns
    | some rack =>
      rw [found] at returns
      dsimp only at returns ⊢
      rw [induction _ returns]
      by_cases same : name = first
      · subst same
        simp [found, twice]
      · rw [Finmap.lookup_insert_of_ne _ same]
        simp [same]

theorem flagRacks_eq (now : Nat) (names : List String) (racks : GoMap CassandraRackStatus) :
    flagRacks now names racks = updateAll (flagUpdateResources now) names racks := by
  induction names generalizing racks with
  | nil => rfl
  | cons name names induction =>
    unfold flagRacks updateAll
    cases racks.lookup name with
    | none => rfl
    | some rack => exact induction _

/-! ## Flagging racks -/

/-- A rack stays as it is, or it is flagged for new resources if `flags`. -/
def FlaggedAt (flags : Prop) (before after : GoMap CassandraRackStatus) (name : String) : Prop :=
  after.lookup name = before.lookup name ∨
    ∃ rack now, flags ∧ before.lookup name = some rack ∧
      after.lookup name = some (flagUpdateResources now rack)

/-- `after` has the racks of `before`, some of them flagged. -/
def Flagged (flags : Prop) (before after : GoMap CassandraRackStatus) : Prop :=
  ∀ name, FlaggedAt flags before after name

theorem Flagged.refl (flags : Prop) (racks : GoMap CassandraRackStatus) :
    Flagged flags racks racks :=
  fun _ => Or.inl rfl

variable {flags flags' : Prop} {before after : GoMap CassandraRackStatus} {name : String}

theorem FlaggedAt.mono (flagged : FlaggedAt flags before after name) (implies : flags → flags') :
    FlaggedAt flags' before after name := by
  rcases flagged with kept | ⟨rack, now, asked, found, changed⟩
  · exact Or.inl kept
  · exact Or.inr ⟨rack, now, implies asked, found, changed⟩

theorem Flagged.mono (flagged : Flagged flags before after) (implies : flags → flags') :
    Flagged flags' before after :=
  fun name => (flagged name).mono implies

theorem Flagged.eq (flagged : Flagged flags before after) (unasked : ¬ flags) : after = before := by
  apply Finmap.ext_lookup
  intro name
  rcases flagged name with kept | ⟨_, _, asked, _⟩
  · exact kept
  · exact absurd asked unasked

theorem flagUpdateResources_twice (first second : Nat) (rack : CassandraRackStatus) :
    flagUpdateResources second (flagUpdateResources first rack) =
      flagUpdateResources second rack := rfl

theorem Flagged.insert (flagged : Flagged flags before after) (asked : flags)
    {rack : CassandraRackStatus} {now : Nat} (found : after.lookup name = some rack) :
    Flagged flags before (after.insert name (flagUpdateResources now rack)) := by
  intro other
  by_cases same : other = name
  · subst same
    refine Or.inr ?_
    rw [Finmap.lookup_insert]
    rcases flagged other with kept | ⟨old, earlier, _, present, changed⟩
    · exact ⟨rack, now, asked, kept.symm.trans found, rfl⟩
    · refine ⟨old, now, asked, present, ?_⟩
      rw [found, Option.some.injEq] at changed
      rw [changed, flagUpdateResources_twice]
  · unfold FlaggedAt
    rw [Finmap.lookup_insert_of_ne _ same]
    exact flagged other

theorem flagRacks_flagged (asked : flags) (now : Nat) (names : List String) :
    ∀ before racks : GoMap CassandraRackStatus, Flagged flags before racks →
      Flagged flags before (flagRacks now names racks).1 := by
  induction names with
  | nil => exact fun before racks flagged => flagged
  | cons name names induction =>
    intro before racks flagged
    unfold flagRacks
    split
    · exact flagged
    · rename_i rack found
      exact induction before _ (flagged.insert asked found)

/-! ## The check -/

section Check

variable (platform : Platform) (needUpdate : Bool) (cc : CassandraCluster)
  (status : CassandraClusterStatus) (answers : ChangeAnswers)

/-- Racks after the check come from racks before it. -/
def FromFlagged (flags : Prop) (before after : GoMap CassandraRackStatus) : Prop :=
  ∀ name rack, after.lookup name = some rack →
    before.lookup name = some rack ∨
      ∃ old now, flags ∧ before.lookup name = some old ∧ rack = flagUpdateResources now old

theorem Flagged.fromFlagged (flagged : Flagged flags before after) :
    FromFlagged flags before after := by
  intro name rack found
  rcases flagged name with kept | ⟨old, now, asked, present, changed⟩
  · exact Or.inl (kept.symm.trans found)
  · refine Or.inr ⟨old, now, asked, present, ?_⟩
    rw [found, Option.some.injEq] at changed
    exact changed

/-- What a check says to the rest of the pass. -/
structure CheckOutcome (flags : Prop) (drops : String → Prop) (cc : CassandraCluster)
    (status : CassandraClusterStatus) (check : ChangeCheck) : Prop where
  racks : FromFlagged flags status.cassandraRackStatus check.status.cassandraRackStatus
  whole : ∀ name, ¬ drops name →
    FlaggedAt flags status.cassandraRackStatus check.status.cassandraRackStatus name
  phase : check.status.phase = status.phase
  proceeds : check.stop = false → check.fault = false →
    check.spec = cc.spec ∧
      Flagged flags status.cassandraRackStatus check.status.cassandraRackStatus ∧
      check.status =
        { status with cassandraRackStatus := check.status.cassandraRackStatus }
  effects : ∀ effect ∈ check.effects, ∃ dcRackName succeeded,
    effect = .deleteStatefulSet dcRackName succeeded
  quiet : check.stop = false → check.fault = false → check.effects = []

theorem CheckOutcome.mono {drops drops' : String → Prop} {cc : CassandraCluster}
    {status : CassandraClusterStatus} {check : ChangeCheck}
    (outcome : CheckOutcome flags drops cc status check) (implies : flags → flags')
    (more : ∀ name, drops name → drops' name) : CheckOutcome flags' drops' cc status check := by
  refine ⟨fun name rack found => ?_,
    fun name stays => (outcome.whole name (fun less => stays (more name less))).mono implies,
    outcome.phase, fun goesOn sound => ?_, outcome.effects, outcome.quiet⟩
  · rcases outcome.racks name rack found with kept | ⟨old, now, asked, present, changed⟩
    · exact Or.inl kept
    · exact Or.inr ⟨old, now, implies asked, present, changed⟩
  · obtain ⟨spec, flagged, status⟩ := outcome.proceeds goesOn sound
    exact ⟨spec, flagged.mono implies, status⟩

theorem eraseAll_lookup (names : List String) :
    ∀ racks : GoMap CassandraRackStatus, ∀ name rack,
      (names.foldl (fun racks name => racks.erase name) racks).lookup name = some rack →
      racks.lookup name = some rack := by
  induction names with
  | nil => exact fun racks name rack found => found
  | cons erased names induction =>
    intro racks name rack found
    have kept := induction _ name rack found
    by_cases same : name = erased
    · subst same
      simp at kept
    · rwa [Finmap.lookup_erase_ne same] at kept

theorem deleteDCObjects_racks (order : MapOrder cc.status.cassandraRackStatus) :
    (deleteDCObjects cc status order).status.cassandraRackStatus =
      (fixCassandraRackList cc order).foldl (fun racks name => racks.erase name)
        status.cassandraRackStatus := by
  unfold deleteDCObjects
  dsimp only
  split <;> rfl

theorem checkTopologyChanges_racks (oldSpec : CassandraClusterSpec)
    (order : MapOrder cc.status.cassandraRackStatus) (name : String)
    (rack : CassandraRackStatus) :
    let verdict := checkTopologyChanges cc status oldSpec order
    verdict.status.cassandraRackStatus.lookup name = some rack →
      status.cassandraRackStatus.lookup name = some rack := by
  intro verdict found
  revert found
  simp only [verdict]
  refine checkTopologyChanges_elim cc status oldSpec order ?refuses ?removes ?keeps
  case refuses => exact fun _ => id
  case removes =>
    intro _
    rw [deleteDCObjects_racks]
    exact eraseAll_lookup _ _ name rack
  case keeps => exact fun _ _ => id

theorem eraseAll_lookup_other (names : List String) (other : name ∉ names) :
    ∀ racks : GoMap CassandraRackStatus,
      (names.foldl (fun racks name => racks.erase name) racks).lookup name = racks.lookup name := by
  induction names with
  | nil => exact fun racks => rfl
  | cons erased names induction =>
    intro racks
    obtain ⟨different, outside⟩ := not_or.mp (mt List.mem_cons.mpr other)
    exact (induction outside _).trans (Finmap.lookup_erase_ne different)

section

variable (oldSpec : CassandraClusterSpec)

include oldSpec

/-- A topology that does not shrink, or keeps a rack, leaves its status alone. -/
theorem checkTopologyChanges_whole
    (order : MapOrder cc.status.cassandraRackStatus) (name : String)
    (stays : ¬ (cc.spec.getDCRackSize < oldSpec.getDCRackSize ∧
      name ∉ (initCassandraRackList cc.spec).racks)) :
    (checkTopologyChanges cc status oldSpec order).status.cassandraRackStatus.lookup name =
      status.cassandraRackStatus.lookup name := by
  refine checkTopologyChanges_elim cc status oldSpec order ?refuses ?removes ?keeps
  case refuses => exact fun _ => rfl
  case removes =>
    intro removes
    have kept : name ∉ fixCassandraRackList cc order := by
      intro listed
      have gone := (List.mem_filter.mp listed).2
      exact stays ⟨removes.fewer, by simpa using gone⟩
    rw [deleteDCObjects_racks]
    exact eraseAll_lookup_other _ kept _
  case keeps => exact fun _ _ => rfl

theorem checkTopologyChanges_phase (order : MapOrder cc.status.cassandraRackStatus) :
    (checkTopologyChanges cc status oldSpec order).status.phase = status.phase := by
  refine checkTopologyChanges_elim cc status oldSpec order ?refuses ?removes ?keeps
  case refuses => exact fun _ => rfl
  case removes =>
    intro _
    unfold deleteDCObjects
    dsimp only
    split <;> rfl
  case keeps => exact fun _ _ => rfl

theorem checkTopologyChanges_unchanged (order : MapOrder cc.status.cassandraRackStatus)
    (unchanged : (checkTopologyChanges cc status oldSpec order).changed = false) :
    (checkTopologyChanges cc status oldSpec order).status = status ∧
      (checkTopologyChanges cc status oldSpec order).deletion = {} := by
  revert unchanged
  refine checkTopologyChanges_elim cc status oldSpec order ?refuses ?removes ?keeps
  case refuses =>
    intro _ changed
    cases changed
  case removes =>
    intro _
    unfold deleteDCObjects
    dsimp only
    split
    · rename_i none
      simp [List.isEmpty_iff.mp none]
    · exact nofun
  case keeps => exact fun _ _ _ => ⟨rfl, rfl⟩

theorem checkScaleDownAndResources_outcome :
    CheckOutcome (cc.spec.resources ≠ oldSpec.resources) (fun _ => False) cc status
      (checkScaleDownAndResources cc.spec oldSpec status answers) := by
  unfold checkScaleDownAndResources
  dsimp only
  split
  · exact ⟨(Flagged.refl _ _).fromFlagged, fun name _ => Flagged.refl _ _ name, rfl,
      fun goesOn => by simp at goesOn, by simp, fun goesOn => by simp at goesOn⟩
  rename_i notRefused
  have same := checkNonAllowedScaleDown_keeps cc.spec oldSpec answers.scaleDown
    (by simpa using notRefused)
  split
  · exact ⟨(Flagged.refl _ _).fromFlagged, fun name _ => Flagged.refl _ _ name, rfl,
      fun _ _ => ⟨by simp [same], Flagged.refl _ _, rfl⟩, by simp, fun _ _ => rfl⟩
  · rename_i asked
    have flagged := flagRacks_flagged asked answers.now
      (cc.spec.rackPositions.map fun position =>
        (cc.spec.completeRackName position.1 position.2).dcRackName)
      status.cassandraRackStatus status.cassandraRackStatus (Flagged.refl _ _)
    exact ⟨flagged.fromFlagged, fun name _ => flagged name, rfl,
      fun _ _ => ⟨by simp [same], flagged, rfl⟩, by simp, fun _ _ => rfl⟩

theorem checkTopologyAndScaleDown_outcome :
    CheckOutcome (cc.spec.resources ≠ oldSpec.resources)
      (fun name => cc.spec.getDCRackSize < oldSpec.getDCRackSize ∧
        name ∉ (initCassandraRackList cc.spec).racks) cc status
      (checkTopologyAndScaleDown cc oldSpec status answers) := by
  unfold checkTopologyAndScaleDown
  dsimp only
  generalize answers.order cc.status.cassandraRackStatus = order
  have whole := checkTopologyChanges_whole cc status oldSpec order
  have racks := checkTopologyChanges_racks cc status oldSpec order
  have unchanged := checkTopologyChanges_unchanged cc status oldSpec order
  have phase := checkTopologyChanges_phase cc status oldSpec order
  dsimp only at racks
  generalize checkTopologyChanges cc status oldSpec order = verdict at racks unchanged whole phase
  have kept : ∀ name, ¬ (cc.spec.getDCRackSize < oldSpec.getDCRackSize ∧
      name ∉ (initCassandraRackList cc.spec).racks) →
      FlaggedAt (cc.spec.resources ≠ oldSpec.resources) status.cassandraRackStatus
        verdict.status.cassandraRackStatus name :=
    fun name stays => Or.inl (whole name stays)
  have deletions : ∀ effect ∈ verdict.deletion.statefulSets.map (fun dcRackName =>
      Effect.deleteStatefulSet dcRackName
        (Except.succeeded (answers.deleteStatefulSet dcRackName))),
      ∃ dcRackName succeeded, effect = .deleteStatefulSet dcRackName succeeded := by
    intro effect member
    obtain ⟨dcRackName, _, rfl⟩ := List.mem_map.mp member
    exact ⟨dcRackName, _, rfl⟩
  split
  · exact ⟨fun name rack found => Or.inl (racks name rack found), kept, phase,
      fun _ sound => by simp at sound, deletions, fun _ sound => by simp at sound⟩
  split
  · exact ⟨fun name rack found => Or.inl (racks name rack found), kept, phase,
      fun goesOn => by simp at goesOn, deletions, fun goesOn => by simp at goesOn⟩
  · rename_i same
    obtain ⟨same, _⟩ := unchanged (by simpa using same)
    rw [same]
    exact (checkScaleDownAndResources_outcome cc status answers oldSpec).mono id
      fun _ => False.elim

end

/-- Something was restored, or could not be. -/
def SettingsCheck.Touched (check : SettingsCheck) : Prop :=
  check.needUpdate = true ∨ check.fault = true

theorem SettingsCheck.restore_touched (check : SettingsCheck) (oldSpec : CassandraClusterSpec)
    (dc : Nat) (restoreSpec : CassandraClusterSpec → CassandraClusterSpec)
    (restoreDC : DC → DC → DC) : (check.restore oldSpec dc restoreSpec restoreDC).Touched := by
  unfold SettingsCheck.restore
  dsimp only
  split
  · exact Or.inr rfl
  · exact Or.inl rfl

theorem checkDCSettings_cases (oldSpec : CassandraClusterSpec) (check : SettingsCheck) (dc : Nat) :
    checkDCSettings platform oldSpec check dc = check ∨
      (checkDCSettings platform oldSpec check dc).Touched := by
  have capacity : checkDataCapacity platform oldSpec dc (check.spec.getDCName dc) check =
        check ∨
      (checkDataCapacity platform oldSpec dc (check.spec.getDCName dc) check).Touched := by
    unfold checkDataCapacity
    split
    · exact Or.inr (SettingsCheck.restore_touched _ _ _ _ _)
    · exact Or.inl rfl
  have storage : ∀ checked : SettingsCheck,
      checkDataStorageClass oldSpec dc (check.spec.getDCName dc) checked = checked ∨
        (checkDataStorageClass oldSpec dc (check.spec.getDCName dc) checked).Touched := by
    intro checked
    unfold checkDataStorageClass
    split
    · exact Or.inr (SettingsCheck.restore_touched _ _ _ _ _)
    · exact Or.inl rfl
  unfold checkDCSettings
  split
  · exact Or.inl rfl
  dsimp only
  split
  · rename_i faulty
    exact Or.inr (Or.inr faulty)
  · rcases storage (checkDataCapacity platform oldSpec dc (check.spec.getDCName dc) check)
      with same | touched
    · rw [same]
      exact capacity
    · exact Or.inr touched

theorem foldl_checkDCSettings_cases (oldSpec : CassandraClusterSpec) (dcs : List Nat) :
    ∀ check : SettingsCheck,
      dcs.foldl (checkDCSettings platform oldSpec) check = check ∨
        (dcs.foldl (checkDCSettings platform oldSpec) check).Touched := by
  induction dcs with
  | nil => exact fun check => Or.inl rfl
  | cons dc dcs induction =>
    intro check
    rw [List.foldl_cons]
    rcases induction (checkDCSettings platform oldSpec check dc) with same | touched
    · rw [same]
      exact checkDCSettings_cases platform oldSpec check dc
    · exact Or.inr touched

/-- The settings are left alone unless the check asks for an update or faults. -/
theorem checkSettings_unchanged (spec oldSpec : CassandraClusterSpec)
    (untouched : ¬ (checkSettings platform needUpdate spec oldSpec).Touched) :
    (checkSettings platform needUpdate spec oldSpec).spec = spec := by
  unfold checkSettings at untouched ⊢
  rcases foldl_checkDCSettings_cases platform oldSpec (List.range spec.getDCSize)
      (checkNodesPerRacks oldSpec { spec := spec, needUpdate := needUpdate })
    with same | touched
  · rw [same] at untouched ⊢
    unfold checkNodesPerRacks at untouched ⊢
    split at untouched
    · exact absurd (Or.inl rfl) untouched
    · rename_i nonzero
      simp [nonzero]
  · exact absurd touched untouched

/-- The ways the check goes for a spec that was applied before. -/
inductive EditCase (old : LastApplied) : ChangeCheck → Prop where
  | same (same : cc.computeLastAppliedConfiguration = old) :
      EditCase old { spec := cc.spec, status := status, needUpdate := needUpdate }
  | faulty (edited : cc.computeLastAppliedConfiguration ≠ old)
      (faulty : (checkSettings platform needUpdate cc.spec old.spec).fault = true) :
      EditCase old
        { spec := (checkSettings platform needUpdate cc.spec old.spec).spec
          status := status
          needUpdate := (checkSettings platform needUpdate cc.spec old.spec).needUpdate
          fault := true }
  | corrected (edited : cc.computeLastAppliedConfiguration ≠ old)
      (sound : (checkSettings platform needUpdate cc.spec old.spec).fault = false)
      (corrects : (checkSettings platform needUpdate cc.spec old.spec).needUpdate = true) :
      EditCase old
        { spec := (checkSettings platform needUpdate cc.spec old.spec).spec
          status := { status with lastClusterAction := .correctCRDConfig }
          needUpdate := true
          stop := true }
  | accepted (edited : cc.computeLastAppliedConfiguration ≠ old)
      (untouched : ¬ (checkSettings platform needUpdate cc.spec old.spec).Touched) :
      EditCase old (checkTopologyAndScaleDown cc old.spec status answers)

theorem checkNonAllowedChanges_case {old : LastApplied} (applied : cc.annotation = .config old) :
    EditCase platform needUpdate cc status answers old
      (checkNonAllowedChanges platform needUpdate cc status answers) := by
  unfold checkNonAllowedChanges
  dsimp only
  rw [applied]
  dsimp only
  split
  · rename_i same
    exact .same same
  rename_i edited
  split
  · rename_i faulty
    exact .faulty edited faulty
  rename_i sound
  split
  · rename_i corrects
    exact .corrected edited (Bool.eq_false_iff.mpr sound) corrects
  · rename_i kept
    have untouched := not_or.mpr ⟨kept, sound⟩
    rw [checkSettings_unchanged platform needUpdate cc.spec old.spec untouched, ← applied]
    exact .accepted edited untouched

/-- The edit asks for other resources. -/
def CassandraCluster.NewResources (cc : CassandraCluster) : Prop :=
  ∃ old, cc.annotation = .config old ∧ cc.spec.resources ≠ old.spec.resources

/-- The edit removes racks, and the rack is not among those that remain. -/
def CassandraCluster.Drops (cc : CassandraCluster) (name : String) : Prop :=
  (∃ old, cc.annotation = .config old ∧ cc.spec.getDCRackSize < old.spec.getDCRackSize) ∧
    name ∉ (initCassandraRackList cc.spec).racks

theorem checkNonAllowedChanges_outcome :
    CheckOutcome cc.NewResources cc.Drops cc status
      (checkNonAllowedChanges platform needUpdate cc status answers) := by
  have unchecked : CheckOutcome cc.NewResources cc.Drops cc status
      { spec := cc.spec, status := status, needUpdate := needUpdate } :=
    ⟨(Flagged.refl _ _).fromFlagged, fun name _ => Flagged.refl _ _ name, rfl,
      fun _ _ => ⟨rfl, Flagged.refl _ _, rfl⟩, by simp, fun _ _ => rfl⟩
  cases applied : cc.annotation with
  | absent => simpa [checkNonAllowedChanges, applied] using unchecked
  | undecodable => simpa [checkNonAllowedChanges, applied] using unchecked
  | config old =>
    have editCase := checkNonAllowedChanges_case platform needUpdate cc status answers applied
    generalize checkNonAllowedChanges platform needUpdate cc status answers = check at editCase ⊢
    cases editCase with
    | same => exact unchecked
    | faulty =>
      exact ⟨(Flagged.refl _ _).fromFlagged, fun name _ => Flagged.refl _ _ name, rfl,
        fun _ sound => by simp at sound, by simp, fun _ sound => by simp at sound⟩
    | corrected =>
      exact ⟨(Flagged.refl _ _).fromFlagged, fun name _ => Flagged.refl _ _ name, rfl,
        fun goesOn => by simp at goesOn, by simp, fun goesOn => by simp at goesOn⟩
    | accepted =>
      exact (checkTopologyAndScaleDown_outcome cc status answers old.spec).mono
        (fun asked => ⟨old, applied, asked⟩) fun _ less => ⟨⟨old, applied, less.1⟩, less.2⟩

end Check

end Casskop
