import Casskop.Controller.OneRack
import Casskop.Controller.PassInvariants

/-!
# Visiting the racks one by one

When the racks of a topology have different names, the loop finds each rack as it was
when the loop started, and nothing has been written before.
-/

namespace Casskop

/-! ## Frames of iterations -/

theorem IterationCase.frame {platform : Platform} {answers : RackAnswers}
    {position : Nat × Nat} {pass : Pass} {step : RackStep}
    (iteration : IterationCase platform answers position.1 position.2 pass step) :
    ∃ written, Frame (pass.cc.spec.rackNameAt position) written pass step.pass ∧
      (step.flow = .nextRack → written = []) := by
  have start := Frame.refl (pass.cc.spec.rackNameAt position) pass
  cases iteration with
  | nameless empty => exact ⟨[], start, fun _ => rfl⟩
  | added absent => exact ⟨[], start.setRackStatus initialRackStatus, fun _ => rfl⟩
  | deleting deletes =>
    refine ⟨[], start.emitQuiet fun effect member => ?_, fun _ => rfl⟩
    obtain ⟨name, rfl⟩ := deletePVCs_quiet answers effect member
    rfl
  | handled rackStatus written step found _ handled _ =>
    refine ⟨written, handled.iteration.frame, fun next => ?_⟩
    by_contra nonempty
    exact handled.stops nonempty next

theorem reconcileRackAt_frame (platform : Platform) (answers : RackAnswers)
    (position : Nat × Nat) (pass : Pass) :
    let step := reconcileRackAt platform answers position.1 position.2 pass
    ∃ written, Frame (pass.cc.spec.rackNameAt position) written pass step.pass ∧
      (step.flow = .nextRack → written = []) :=
  (reconcileRackAt_case platform answers position.1 position.2 pass).frame

/-! ## The loop -/

/-- The pass when the loop that began with `start` comes to a position. -/
structure Visiting (start : Pass) (position : Nat × Nat) (pass : Pass) : Prop where
  rack : pass.rackStatus (start.cc.spec.rackNameAt position) =
    start.rackStatus (start.cc.spec.rackNameAt position)
  metadata : pass.cc.metadata = start.cc.metadata
  spec : pass.cc.spec.settled = start.cc.spec.settled
  unlock : pass.cc.spec.unlockNextOperation = true →
    start.cc.spec.unlockNextOperation = true
  writes : pass.writes = start.writes

namespace Visiting

variable {start pass : Pass} {position : Nat × Nat}

theorem refl (start : Pass) (position : Nat × Nat) : Visiting start position start :=
  ⟨rfl, rfl, rfl, id, rfl⟩

theorem rackNameAt (visiting : Visiting start position pass) :
    pass.cc.spec.rackNameAt = start.cc.spec.rackNameAt :=
  CassandraClusterSpec.rackNameAt_of_settled visiting.spec

theorem getNodesPerRacks (visiting : Visiting start position pass) (dcRackName : String) :
    pass.cc.spec.getNodesPerRacks dcRackName = start.cc.spec.getNodesPerRacks dcRackName := by
  rw [CassandraClusterSpec.getNodesPerRacks_of_settled visiting.spec]

theorem after (visiting : Visiting start position pass) {dcRackName : String} {after : Pass}
    (frame : Frame dcRackName [] pass after)
    (different : start.cc.spec.rackNameAt position ≠ dcRackName) : Visiting start position after :=
  ⟨(frame.others _ different).trans visiting.rack, frame.metadata.trans visiting.metadata,
    frame.spec.trans visiting.spec, fun unlocked => visiting.unlock (frame.unlock unlocked),
    by rw [frame.writes, List.append_nil, visiting.writes]⟩

end Visiting

/-- What every iteration keeps that finds its rack as it was, the loop keeps.  Of a rack
that is still to be visited the iterations before keep what is `pending`. -/
theorem reconcileRacks_visits {invariant : Pass → Prop} {pending : String → Pass → Prop}
    (platform : Platform) (answers : Nat × Nat → RackAnswers) (start : Pass)
    (positions : List (Nat × Nat)) (distinct : (positions.map start.cc.spec.rackNameAt).Nodup)
    (kept : ∀ position ∈ positions, ∀ pass, Visiting start position pass →
      pending (start.cc.spec.rackNameAt position) pass → invariant pass →
      let after := (reconcileRackAt platform (answers position) position.1 position.2 pass).pass
      invariant after ∧ ∀ name, name ≠ start.cc.spec.rackNameAt position → pending name pass →
        pending name after)
    (holds : invariant start)
    (waiting : ∀ position ∈ positions, pending (start.cc.spec.rackNameAt position) start)
    (newStatus : Bool) :
    invariant (reconcileRacks platform answers positions start newStatus).pass := by
  have general : ∀ (pass : Pass) (newStatus : Bool),
      (∀ position ∈ positions, Visiting start position pass ∧
        pending (start.cc.spec.rackNameAt position) pass) → invariant pass →
      invariant (reconcileRacks platform answers positions pass newStatus).pass := by
    clear waiting
    induction positions with
    | nil => exact fun pass newStatus _ holds => holds
    | cons position rest induction =>
      intro pass newStatus visiting holds
      obtain ⟨fresh, others⟩ := List.nodup_cons.mp (List.map_cons ▸ distinct)
      obtain ⟨here, waits⟩ := visiting position List.mem_cons_self
      obtain ⟨next, onward⟩ := kept position List.mem_cons_self pass here waits holds
      obtain ⟨written, frame, unwritten⟩ := reconcileRackAt_frame platform
        (answers position) position pass
      unfold reconcileRacks
      dsimp only
      split
      · rename_i goesOn
        rw [unwritten goesOn, here.rackNameAt] at frame
        refine induction others
          (fun later member => kept later (List.mem_cons_of_mem _ member)) _ _
          (fun later member => ?_) next
        obtain ⟨before, still⟩ := visiting later (List.mem_cons_of_mem _ member)
        have different : start.cc.spec.rackNameAt later ≠ start.cc.spec.rackNameAt position :=
          fun same => fresh (same ▸ List.mem_map_of_mem member)
        exact ⟨before.after frame different, onward _ different still⟩
      · exact next
  exact general start newStatus
    (fun position member => ⟨Visiting.refl start position, waiting position member⟩) holds

/-! ## Stored StatefulSets -/

namespace World

theorem applyEffects_statefulSets (effects : List Effect) :
    ∀ world world' : World, world.statefulSets = world'.statefulSets →
      (world.applyEffects effects).statefulSets =
        (world'.applyEffects
          (effects.filter fun effect => effect.writtenRack.isSome)).statefulSets := by
  induction effects with
  | nil => exact fun world world' same => same
  | cons effect effects induction =>
    intro world world' same
    have step : (world.applyEffect effect).statefulSets =
        (world'.applyEffect effect).statefulSets := by
      unfold applyEffect
      split <;> simp [setStatefulSet, same]
    cases writes : effect.writtenRack with
    | none =>
      have kept : (world.applyEffect effect).statefulSets = world.statefulSets := by
        unfold applyEffect
        split <;> first | rfl | cases writes
      rw [List.filter_cons_of_neg (by simp [writes])]
      exact induction _ _ (kept.trans same)
    | some dcRackName =>
      rw [List.filter_cons_of_pos (by simp [writes])]
      exact induction _ _ step

theorem applyEffect_statefulSets_ne (world : World) {effect : Effect} {name : String}
    (other : effect.writtenRack ≠ some name) :
    (world.applyEffect effect).statefulSets name = world.statefulSets name := by
  have kept : ∀ (dcRackName : String) (sts : Option StatefulSet), dcRackName ≠ name →
      (world.setStatefulSet dcRackName sts).statefulSets name = world.statefulSets name :=
    fun dcRackName sts different => Function.update_of_ne (Ne.symm different) _ _
  unfold applyEffect
  split
  all_goals first
    | rfl
    | exact kept _ _ fun same => other (congrArg some same)

theorem applyEffects_statefulSets_ne (effects : List Effect) {name : String} :
    ∀ world : World, (∀ effect ∈ effects, effect.writtenRack ≠ some name) →
      (world.applyEffects effects).statefulSets name = world.statefulSets name := by
  induction effects with
  | nil => exact fun world _ => rfl
  | cons effect effects induction =>
    intro world others
    have first := world.applyEffect_statefulSets_ne (others effect List.mem_cons_self)
    exact (induction _ fun later member =>
      others later (List.mem_cons_of_mem _ member)).trans first

end World

end Casskop
