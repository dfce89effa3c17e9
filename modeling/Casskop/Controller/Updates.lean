import Casskop.Controller.Moves
import Casskop.Controller.UpsizeSteps

/-!
# Writing the StatefulSet of a rack

StatefulSet update and storage upsize write at most one StatefulSet, the one of the
rack at hand.  Around the write there are only moves.
-/

namespace Casskop

/-- `CreateOrUpdateStatefulSet` goes past its first test. -/
def Pass.GateOpen (pass : Pass) : Prop :=
  hasNoPodDisruption pass.storedPdb = true ∨ pass.cc.spec.unlockNextOperation = true

/-- The effects of `CreateOrUpdateStatefulSet`. -/
def Effect.isGated : Effect → Bool
  | .createStatefulSet .. | .updateStatefulSet .. => true
  | _ => false

/-- The StatefulSet writes an iteration can issue, and what was known before. -/
inductive WriteReason (dcRackName : String) (answers : RackAnswers) (pass : Pass) :
    Effect → Prop where
  | create (sts : StatefulSet) (gate : pass.GateOpen)
      (absent : answers.ensure.stored = .error .notFound)
      (replicas : sts.spec.replicas = pass.cc.spec.getNodesPerRacks dcRackName) :
      WriteReason dcRackName answers pass
        (.createStatefulSet dcRackName sts (Except.succeeded answers.ensure.create))
  | update (stored sts : StatefulSet) (gate : pass.GateOpen)
      (read : answers.ensure.stored = .ok stored)
      (replicas : sts.spec.replicas =
        stepReplicas stored.spec.replicas (pass.cc.spec.getNodesPerRacks dcRackName)) :
      WriteReason dcRackName answers pass
        (.updateStatefulSet dcRackName stored sts (Except.succeeded answers.ensure.update))
  | recreate (sts : StatefulSet) (absent : answers.statefulSet = .error .notFound) :
      WriteReason dcRackName answers pass
        (.recreateStatefulSet dcRackName sts (Except.succeeded answers.upsize.create))
  | orphan :
      WriteReason dcRackName answers pass
        (.orphanStatefulSet dcRackName (Except.succeeded answers.upsize.delete))

theorem WriteReason.writtenRack {dcRackName : String} {answers : RackAnswers} {pass : Pass}
    {effect : Effect} (reason : WriteReason dcRackName answers pass effect) :
    effect.writtenRack = some dcRackName := by
  cases reason <;> rfl

/-- Moves, then the StatefulSet writes `written`, then moves. -/
structure Iteration (part : Part) (dcRackName : String) (answers : RackAnswers)
    (written : List Effect) (before after : Pass) : Prop where
  split : ∃ middle, Moves part dcRackName answers before middle ∧
    (∀ effect ∈ written, WriteReason dcRackName answers middle effect) ∧
    Moves part dcRackName answers (middle.emit written) after
  single : written.length ≤ 1

variable {part whole : Part} {dcRackName : String} {answers : RackAnswers} {pass : Pass}
  {rack rack' : CassandraRackStatus}

variable {middle : Pass}

namespace Iteration

variable {written : List Effect} {before after : Pass}

theorem ofMoves (moves : Moves part dcRackName answers before after) :
    Iteration part dcRackName answers [] before after :=
  ⟨⟨after, moves, by simp, by simpa using .refl⟩, by simp⟩

theorem ofWrite {effect : Effect} (moves : Moves part dcRackName answers before middle)
    (reason : WriteReason dcRackName answers middle effect) :
    Iteration part dcRackName answers [effect] before (middle.emit [effect]) :=
  ⟨⟨middle, moves, by simpa using reason, .refl⟩, by simp⟩

theorem after_moves (iteration : Iteration part dcRackName answers written middle after)
    (moves : Moves part dcRackName answers before middle) :
    Iteration part dcRackName answers written before after := by
  obtain ⟨point, first, reasons, second⟩ := iteration.split
  exact ⟨⟨point, moves.trans first, reasons, second⟩, iteration.single⟩

theorem then_moves (iteration : Iteration part dcRackName answers written before middle)
    (moves : Moves part dcRackName answers middle after) :
    Iteration part dcRackName answers written before after := by
  obtain ⟨point, first, reasons, second⟩ := iteration.split
  exact ⟨⟨point, first, reasons, second.trans moves⟩, iteration.single⟩

theorem within (iteration : Iteration part dcRackName answers written before after)
    (within : part.Within whole) : Iteration whole dcRackName answers written before after := by
  obtain ⟨point, first, reasons, second⟩ := iteration.split
  exact ⟨⟨point, first.within within, reasons, second.within within⟩, iteration.single⟩

theorem writtenRack (iteration : Iteration part dcRackName answers written before after) :
    ∀ effect ∈ written, effect.writtenRack = some dcRackName := by
  obtain ⟨_, _, reasons, _⟩ := iteration.split
  exact fun effect member => (reasons effect member).writtenRack

end Iteration

/-! ## StatefulSet -/

/-- A result that may have created or updated the StatefulSet, and then breaks the
loop. -/
def Writes (dcRackName : String) (answers : RackAnswers) (pass : Pass)
    (result : PodOperationResult) : Prop :=
  ∃ written, Iteration (.updating answers) dcRackName answers written pass result.pass ∧
    (written ≠ [] → result.flow = .breakResyncLoop) ∧
    ∀ effect ∈ written, effect.isGated = true

variable {result : PodOperationResult}

theorem Writes.none (moves : Moves (.updating answers) dcRackName answers pass result.pass) :
    Writes dcRackName answers pass result :=
  ⟨[], .ofMoves moves, fun nonempty => absurd rfl nonempty, by simp⟩

theorem Writes.after_moves (writes : Writes dcRackName answers middle result)
    (moves : Moves (.updating answers) dcRackName answers pass middle) :
    Writes dcRackName answers pass result := by
  obtain ⟨written, iteration, breaks⟩ := writes
  exact ⟨written, iteration.after_moves moves, breaks⟩

variable {sts : StatefulSet}

theorem keepStoredSeeds_replicas {stored kept : StatefulSet}
    (keeps : keepStoredSeeds stored sts = some kept) : kept.spec.replicas = sts.spec.replicas := by
  unfold keepStoredSeeds at keeps
  split at keeps
  · cases keeps
  split at keeps
  · cases keeps
    rfl
  split at keeps
  · cases keeps
  · cases keeps
    rfl

theorem revertAnyStorageUpsize_replicas {stored reverted : StatefulSet}
    (reverts : revertAnyStorageUpsize rack stored sts = some reverted) :
    reverted.spec.replicas = sts.spec.replicas := by
  unfold revertAnyStorageUpsize at reverts
  split at reverts
  · cases reverts
    rfl
  dsimp only at reverts
  split at reverts
  · cases reverts
    rfl
  split at reverts
  · cases reverts
  · cases reverts
    rfl

theorem startRestart_replicas (now : Nat) (rack : CassandraRackStatus) (sts : StatefulSet) :
    (startRestart now rack sts).2.spec.replicas = sts.spec.replicas := by
  unfold startRestart
  split <;> rfl

theorem writeStatefulSet_writes (platform : Platform) (stored sts : StatefulSet)
    (gate : pass.GateOpen) (read : answers.ensure.stored = .ok stored)
    (replicas : sts.spec.replicas = pass.cc.spec.getNodesPerRacks dcRackName)
    (found : pass.rackStatus dcRackName = some rack)
    (changes : Relation.ReflTransGen (UpdateChange answers) rack rack') :
    Writes dcRackName answers pass
      (writeStatefulSet platform answers.now pass dcRackName rack' stored sts
        answers.ensure) := by
  have start : Moves (.updating answers) dcRackName answers pass pass := .refl
  unfold writeStatefulSet
  dsimp only
  split
  · exact .none (start.rack found changes)
  · rename_i reverted reverts
    have restarted : Relation.ReflTransGen (UpdateChange answers) rack
        (startRestart answers.now rack' reverted).1 := by
      unfold startRestart
      split
      · rename_i restarting
        exact changes.tail (.started rack' (Or.inr restarting))
      · exact changes
    split
    · exact .none (start.rack found restarted)
    · have changed := start.rack found
        (restarted.tail (.written _ pass.cc.spec.noCheckStsAreEqual))
      refine ⟨_, .ofWrite changed (.update stored _ gate read ?_), fun _ => rfl,
        by simp [Effect.isGated]⟩
      rw [startRestart_replicas, revertAnyStorageUpsize_replicas reverts]
      exact congrArg (stepReplicas stored.spec.replicas) replicas

variable {platform : Platform}

theorem generateCassandraStatefulSet_replicas {cc : CassandraCluster}
    {status : CassandraClusterStatus}
    (generated : generateCassandraStatefulSet platform cc status dcRackName = some sts) :
    sts.spec.replicas = cc.spec.getNodesPerRacks dcRackName := by
  unfold generateCassandraStatefulSet at generated
  split at generated
  · cases generated
  · cases generated
    rfl

theorem ensureCassandraStatefulSet_writes (platform : Platform)
    (found : pass.rackStatus dcRackName = some rack) :
    Writes dcRackName answers pass
      (ensureCassandraStatefulSet platform answers.now pass dcRackName rack
        answers.ensure) := by
  unfold ensureCassandraStatefulSet
  split
  · exact .none .refl
  rename_i sts generated
  have replicas := generateCassandraStatefulSet_replicas generated
  unfold createOrUpdateStatefulSet
  split
  · exact .none .refl
  rename_i passes
  have gate : pass.GateOpen := by
    simp only [Pass.GateOpen]
    cases open' : hasNoPodDisruption pass.storedPdb with
    | true => exact Or.inl rfl
    | false =>
      refine Or.inr ?_
      cases unlocked : pass.cc.spec.unlockNextOperation with
      | true => rfl
      | false => exact absurd ⟨open', unlocked⟩ passes
  split
  · rename_i absent
    exact ⟨_, .ofWrite .refl (.create sts gate absent replicas), fun _ => rfl,
      by simp [Effect.isGated]⟩
  · exact .none .refl
  · rename_i stored read
    have remembered : Moves (.updating answers) dcRackName answers pass
        { pass with storedStatefulSet := some stored } :=
      .single (.memory rfl rfl ⟨rfl, rfl⟩ rfl id ⟨rfl, rfl⟩ ⟨rfl, rfl⟩)
    have writes : ∀ (sts : StatefulSet) (rack' : CassandraRackStatus),
        sts.spec.replicas = pass.cc.spec.getNodesPerRacks dcRackName →
        Relation.ReflTransGen (UpdateChange answers) rack rack' →
        Writes dcRackName answers pass
          (writeStatefulSet platform answers.now
            { pass with storedStatefulSet := some stored } dcRackName rack' stored sts
            answers.ensure) := by
      intro sts rack' replicas changes
      refine Writes.after_moves ?_ remembered
      exact writeStatefulSet_writes platform stored sts gate read replicas found changes
    dsimp only
    split
    · rename_i asked
      exact writes _ _ replicas (.single (.started rack (Or.inl asked)))
    · split
      · exact .none remembered
      · rename_i keeps
        exact writes _ _ ((keepStoredSeeds_replicas keeps).trans replicas) .refl

/-! ## Storage upsize -/

/-- The StatefulSet of the rack as the pass found it. -/
inductive Living (answers : RackAnswers) : Option StatefulSet → Prop where
  | missing (absent : answers.statefulSet = .error .notFound) : Living answers none
  | alive (sts : StatefulSet) (read : answers.statefulSet = .ok sts) : Living answers (some sts)

section Upsize

variable {spec : CassandraClusterSpec} {names : CompleteRackName} {living : Option StatefulSet}
  {made : UpsizeStep}

theorem UpsizeCase.changes
    (steps : UpsizeCase platform answers.now spec names living rack answers.upsize made)
    (phase : rack.phase = .pending) (upsizing : isStorageUpsizeStarted rack = true) :
    Relation.ReflTransGen (UpsizeChange answers) rack made.rack := by
  cases steps with
  | saved sts alive unsaved => exact .single (.saved rack sts phase upsizing unsaved)
  | finalized sts snapshot alive kept current finished =>
    exact .single (.finalized rack upsizing)
  | lost | orphaned | unbuildable | recreated | waiting => exact .refl

theorem UpsizeCase.effects
    (steps : UpsizeCase platform answers.now spec names living rack answers.upsize made)
    (seen : Living answers living) (pass : Pass) :
    (∀ effect ∈ made.effects, effect.isPlain = true) ∨
      ∃ effect, made.effects = [effect] ∧ WriteReason names.dcRackName answers pass effect := by
  cases steps with
  | orphaned sts snapshot alive kept outdated => exact Or.inr ⟨_, rfl, .orphan⟩
  | recreated snapshot sts missing kept built =>
    cases seen with
    | missing absent => exact Or.inr ⟨_, rfl, .recreate sts absent⟩
    | alive => cases missing
  | waiting sts snapshot effects result alive kept current resizes waits =>
    refine Or.inl fun effect member => ?_
    obtain ⟨name, quantity, rfl⟩ := resizes effect member
    rfl
  | lost | saved | unbuildable | finalized => exact Or.inl (by simp)

end Upsize

/-! ## The second half of an iteration -/

theorem Pass.resetUnlock_moves (pass : Pass) :
    Moves part dcRackName answers pass pass.resetUnlock := by
  unfold Pass.resetUnlock
  split
  · exact .single (.memory rfl rfl ⟨rfl, rfl⟩ rfl (fun unlocked => by simp at unlocked)
      ⟨rfl, rfl⟩ ⟨rfl, rfl⟩)
  · exact .refl

theorem Pass.waitIfConfiguring_moves (pass : Pass) (name : String) :
    Moves (.updating answers) dcRackName answers pass (pass.waitIfConfiguring name) := by
  unfold Pass.waitIfConfiguring
  split
  · exact .single (.emit rfl)
  · exact .refl

theorem Pass.receivePdb_moves (pass : Pass) {written : Option PdbRead}
    (known : ∀ read, written = some read →
      answers.leftover.beforeDetection = some read ∨
        answers.leftover.beforeWrite = some read) :
    Moves part dcRackName answers pass (pass.receivePdb written) := by
  cases written with
  | none => exact .refl
  | some read => exact .single (.pdb (known read rfl))

/-- An iteration that writes does not go on to the next rack, and one that goes on
leaves the rack running and not ongoing. -/
structure Handled (part : Part) (dcRackName : String) (answers : RackAnswers)
    (written : List Effect) (pass : Pass) (step : RackStep) : Prop where
  iteration : Iteration part dcRackName answers written pass step.pass
  stops : written ≠ [] → step.flow ≠ .nextRack
  settled : step.flow = .nextRack → ∃ rack, step.pass.rackStatus dcRackName = some rack ∧
    rack.phase = .running ∧ rack.cassandraLastAction.status ≠ .ongoing

namespace Handled

variable {written : List Effect} {step : RackStep}

theorem ofStop (iteration : Iteration part dcRackName answers written pass step.pass)
    (stops : step.flow ≠ .nextRack) : Handled part dcRackName answers written pass step :=
  ⟨iteration, fun _ => stops, fun next => absurd next stops⟩

theorem after_moves (handled : Handled part dcRackName answers written middle step)
    (moves : Moves part dcRackName answers pass middle) :
    Handled part dcRackName answers written pass step :=
  ⟨handled.iteration.after_moves moves, handled.stops, handled.settled⟩

theorem within (handled : Handled part dcRackName answers written pass step)
    (within : part.Within whole) : Handled whole dcRackName answers written pass step :=
  ⟨handled.iteration.within within, handled.stops, handled.settled⟩

end Handled

theorem afterEnsure_handled (writes : Writes dcRackName answers pass result) :
    ∃ written, Handled (.updating answers) dcRackName answers written pass
        (afterEnsure dcRackName result) ∧
      ∀ effect ∈ written, effect.isGated = true := by
  obtain ⟨written, iteration, breaks, gated⟩ := writes
  have reset := iteration.then_moves (Pass.resetUnlock_moves result.pass)
  refine ⟨written, ?_, gated⟩
  unfold afterEnsure
  split
  · exact .ofStop iteration (by simp)
  · exact .ofStop iteration (by simp)
  · exact .ofStop (reset.then_moves (Pass.waitIfConfiguring_moves _ _)) (by simp)
  · rename_i continues
    have quiet : written = [] := by
      by_contra nonempty
      simp [breaks nonempty] at continues
    dsimp only
    split
    · exact .ofStop reset (by simp)
    · rename_i rack found
      refine ⟨reset, fun nonempty => absurd quiet nonempty, fun next => ⟨rack, found, ?_⟩⟩
      have unblocked : blocksNextRack rack = false := by
        cases blocked : blocksNextRack rack with
        | false => rfl
        | true => simp [blocked] at next
      simp only [blocksNextRack, Bool.or_eq_false_iff, bne_eq_false_iff_eq,
        beq_eq_false_iff_ne] at unblocked
      exact ⟨unblocked.1.1, unblocked.1.2⟩

/-- The rack with the outcome of the upsize steps. -/
def Pass.upsized (pass : Pass) (dcRackName : String) (living : Option StatefulSet)
    (made : UpsizeStep) : Pass :=
  ({ pass with storedStatefulSet := living }.setRackStatus dcRackName made.rack).emit
    made.effects

/-- An iteration either goes through `CreateOrUpdateStatefulSet`, if it comes to a write
at all, or ends with the steps of a storage upsize. -/
inductive Outcome (part : Part) (platform : Platform) (answers : RackAnswers)
    (names : CompleteRackName) (pass : Pass) : RackStep → Prop where
  | ordinary (written : List Effect) (step : RackStep)
      (handled : Handled part names.dcRackName answers written pass step)
      (gated : ∀ effect ∈ written, effect.isGated = true) :
      Outcome part platform answers names pass step
  | upsize (middle : Pass) (rack : CassandraRackStatus) (living : Option StatefulSet)
      (made : UpsizeStep) (moves : Moves part names.dcRackName answers pass middle)
      (found : middle.rackStatus names.dcRackName = some rack)
      (upsizing : isStorageUpsizeStarted rack = true) (seen : Living answers living)
      (steps : UpsizeCase platform answers.now middle.cc.spec names living
        { rack with phase := .pending } answers.upsize made) :
      Outcome part platform answers names pass
        { pass := middle.upsized names.dcRackName living made
          flow := upsizeFlow made.result }

namespace Outcome

variable {names : CompleteRackName} {step : RackStep}

theorem within (outcome : Outcome part platform answers names pass step)
    (within : part.Within whole) : Outcome whole platform answers names pass step := by
  cases outcome with
  | ordinary written step handled gated =>
    exact .ordinary written step (handled.within within) gated
  | upsize middle rack living made moves found upsizing seen steps =>
    exact .upsize middle rack living made (moves.within within) found upsizing seen steps

theorem after_moves (outcome : Outcome part platform answers names middle step)
    (moves : Moves part names.dcRackName answers pass middle) :
    Outcome part platform answers names pass step := by
  cases outcome with
  | ordinary written step handled gated =>
    exact .ordinary written step (handled.after_moves moves) gated
  | upsize point rack living made later found upsizing seen steps =>
    exact .upsize point rack living made (moves.trans later) found upsizing seen steps

theorem upsizeFlow_ne (result : StepResult) : upsizeFlow result ≠ .nextRack := by
  cases result <;> simp [upsizeFlow]

theorem handled {spec : CassandraClusterSpec}
    (outcome : Outcome part platform answers names pass step)
    (within : part.Within (.handling spec names.dcRackName answers)) :
    ∃ written, Handled (.handling spec names.dcRackName answers) names.dcRackName answers
      written pass step := by
  cases outcome with
  | ordinary written step handled gated => exact ⟨written, handled.within within⟩
  | upsize middle rack living made moves found upsizing seen steps =>
    have remembered : Moves (.upsizing answers) names.dcRackName answers middle
        { middle with storedStatefulSet := living } :=
      .single (.memory rfl rfl ⟨rfl, rfl⟩ rfl id ⟨rfl, rfl⟩ ⟨rfl, rfl⟩)
    have changed := remembered.rack found (.head (.pending rack) (steps.changes rfl upsizing))
    have reached : Moves (.handling spec names.dcRackName answers) names.dcRackName answers
        pass _ := (moves.within within).trans (changed.within Part.upsizing_within)
    rcases steps.effects seen
      ({ middle with storedStatefulSet := living }.setRackStatus names.dcRackName made.rack)
      with plain | ⟨effect, single, reason⟩
    · refine ⟨[], .ofStop (.ofMoves (reached.emit fun effect member => ?_))
        (upsizeFlow_ne made.result)⟩
      exact Effect.isLocalTo_of_isQuiet (Effect.isQuiet_of_isPlain (plain effect member))
    · refine ⟨[effect], .ofStop ?_ (upsizeFlow_ne made.result)⟩
      unfold Pass.upsized
      rw [single]
      exact .ofWrite reached reason

end Outcome

theorem applyRack_outcome (platform : Platform) (names : CompleteRackName) (pass : Pass) :
    Outcome (.updating answers) platform answers names pass
      (applyRack platform answers names pass) := by
  have idle : ∀ flow, flow ≠ .nextRack →
      Outcome (.updating answers) platform answers names pass { pass := pass, flow := flow } :=
    fun flow stops => .ordinary [] _ (.ofStop (.ofMoves .refl) stops) (by simp)
  unfold applyRack
  split
  · exact idle .fault (by simp)
  · rename_i rack found
    split
    · rename_i upsizing
      unfold upsizeRack
      split
      · rename_i absent
        exact .upsize pass rack none _ .refl found upsizing (.missing absent)
          (reconcileUpsizeSteps_case none)
      · exact idle .stop (by simp)
      · rename_i sts read
        exact .upsize pass rack (some sts) _ .refl found upsizing (.alive sts read)
          (reconcileUpsizeSteps_case (some sts))
    · have received : Moves (.updating answers) names.dcRackName answers pass
          (pass.receivePdb answers.leftover.beforeWrite) :=
        Pass.receivePdb_moves pass (fun read written => Or.inr written)
      obtain ⟨written, handled, gated⟩ := afterEnsure_handled
        (@ensureCassandraStatefulSet_writes names.dcRackName answers
          (pass.receivePdb answers.leftover.beforeWrite) rack platform found)
      exact .ordinary written _ (handled.after_moves received) gated

end Casskop
