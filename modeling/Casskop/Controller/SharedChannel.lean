import Casskop.Controller.OperationRuns

/-!
# One channel for all clusters

The operator has one channel, and a pass on any cluster takes the results out of it.
The results do not say which cluster they belong to.  They end up where they belong as
long as no pass takes results while operations of other clusters are in flight.
-/

namespace Casskop

/-! ## Racks that stay -/

/-- All racks with these names are there. -/
def Covers (kept : String → Prop) (racks : RackStatuses) : Prop :=
  ∀ name, kept name → racks.lookup name ≠ none

namespace Covers

variable {kept : String → Prop} {racks : RackStatuses}

theorem insert (covers : Covers kept racks) (dcRackName : String) (rack : CassandraRackStatus) :
    Covers kept (racks.insert dcRackName rack) := by
  intro name known
  by_cases same : name = dcRackName
  · rw [same, Finmap.lookup_insert]
    exact Option.some_ne_none rack
  · rw [Finmap.lookup_insert_of_ne racks same]
    exact covers name known

theorem serialized (covers : Covers kept racks) :
    Covers kept (racks.mapValues CassandraRackStatus.serialized) := by
  intro name known
  rw [GoMap.lookup_mapValues]
  exact fun none => covers name known (Option.map_eq_none_iff.mp none)

end Covers

theorem FlaggedAt.present {flags : Prop} {before after : RackStatuses} {name : String}
    (flagged : FlaggedAt flags before after name) (present : before.lookup name ≠ none) :
    after.lookup name ≠ none := by
  rcases flagged with kept | ⟨rack, now, _, _, changed⟩
  · rw [kept]
    exact present
  · rw [changed]
    exact Option.some_ne_none _

/-! ## Passes that use known racks -/

/-- The result is entered in the record of its rack. -/
def FinalizedOp.RecordedIn (op : FinalizedOp) (recorded : Option PodLastOperation) : Prop :=
  ∃ record, recorded = some record ∧
    op.pod ∈ (if op.failed then record.podsKO else record.podsOK).getD []

theorem FinalizedOp.recordedIn_updatePodLastOperation (op : FinalizedOp)
    (operation : PodLastOperation) :
    op.RecordedIn (some (updatePodLastOperation op operation)) := by
  refine ⟨_, rfl, ?_⟩
  unfold updatePodLastOperation
  dsimp only
  split
  · simp [appendString]
  · simp [appendString]

/-- Goroutines start for kept racks only, and every status written has the kept racks.
Results are taken only when the pass drains the channel, and those for kept racks are
entered. -/
def Effect.Contained (kept : String → Prop) (drains : Prop) : Effect → Prop
  | .finalizeOperation op recorded => drains ∧ (kept op.dcRackName → op.RecordedIn recorded)
  | .startOperation dcRackName _ _ | .monitorOperation dcRackName _ _ => kept dcRackName
  | .updateClusterStatus status _ => Covers kept status.cassandraRackStatus
  | _ => True

structure Containing (kept : String → Prop) (drains : Prop) (pass : Pass) : Prop where
  working : Covers kept pass.status.cassandraRackStatus
  object : Covers kept pass.cc.status.cassandraRackStatus
  effects : ∀ effect ∈ pass.effects, effect.Contained kept drains

section Effects

variable {kept : String → Prop} {drains : Prop} {dcRackName : String} {effect : Effect}

theorem Effect.contained_of_isCalm (calm : effect.isCalm = true) :
    effect.Contained kept drains := by
  cases effect <;> trivial

theorem Effect.contained_of_isLocalTo (own : effect.isLocalTo dcRackName = true)
    (known : kept dcRackName) : effect.Contained kept drains := by
  obtain ⟨isLocal, spawns⟩ := Bool.and_eq_true_iff.mp own
  cases effect with
  | startOperation | monitorOperation =>
    have same := eq_of_beq (Option.all_some.symm.trans spawns)
    exact same ▸ known
  | finalizeOperation | updateClusterStatus => cases isLocal
  | _ => trivial

theorem updateCassandraStatus_contained {needUpdate : Bool} {cc : CassandraCluster}
    {status : CassandraClusterStatus} {answer : WriteAnswer}
    (covers : Covers kept status.cassandraRackStatus)
    (member : effect ∈ (updateCassandraStatus needUpdate cc status answer).effects) :
    effect.Contained kept drains := by
  obtain ⟨outer, _⟩ := updateCassandraStatus_outer needUpdate cc status answer effect member
  cases effect with
  | updateClusterStatus written succeeded =>
    rw [updateCassandraStatus_written member]
    exact covers
  | startOperation | monitorOperation | finalizeOperation => cases outer
  | _ => trivial

end Effects

namespace Containing

variable {kept : String → Prop} {drains : Prop} {part : Part} {dcRackName : String}
  {answers : RackAnswers} {before after pass : Pass}

theorem emit (containing : Containing kept drains pass) {effects : List Effect}
    (contained : ∀ effect ∈ effects, effect.Contained kept drains) :
    Containing kept drains (pass.emit effects) :=
  ⟨containing.working, containing.object, fun effect member =>
    (List.mem_append.mp member).elim (containing.effects effect) (contained effect)⟩

theorem updateCassandraStatus (containing : Containing kept drains pass)
    (answer : WriteAnswer) : Containing kept drains (pass.updateCassandraStatus answer) := by
  refine ⟨containing.working, ?_, fun effect member => ?_⟩
  · rw [Pass.updateCassandraStatus_aligned]
    exact containing.working
  · rcases List.mem_append.mp member with old | new
    · exact containing.effects effect old
    · exact updateCassandraStatus_contained containing.working new

theorem finalizeOperation (containing : Containing kept drains pass) (drained : drains)
    (op : FinalizedOp) (attempts : List FinalizeAttempt) :
    Containing kept drains (finalizeOperation pass op attempts).pass := by
  unfold Casskop.finalizeOperation
  split
  · rename_i absent
    refine containing.emit fun effect member => ?_
    rw [List.mem_singleton.mp member]
    exact ⟨drained, fun known => absurd absent (containing.object _ known)⟩
  · rename_i rack found
    have object := containing.object.insert op.dcRackName
      (setOperation rack (updatePodLastOperation op))
    refine ⟨containing.working, object, fun effect member => ?_⟩
    rcases List.mem_append.mp member with old | new
    · exact containing.effects effect old
    · rcases List.mem_cons.mp new with rfl | later
      · exact ⟨drained, fun _ => op.recordedIn_updatePodLastOperation _⟩
      · rcases finalizeLoop_mem attempts _ _ later with rfl | ⟨needUpdate, cc, answer, written⟩
        · trivial
        · exact updateCassandraStatus_contained object written

section Own

variable (known : kept dcRackName)
  (drained : answers.handle.operations.channel ≠ [] → drains)
  (within : ∀ {effect}, part.emits effect = true → effect.isLocalTo dcRackName = true)

include known drained within

theorem move (containing : Containing kept drains before)
    (move : Move part dcRackName answers before after) : Containing kept drains after := by
  cases move with
  | init | rack =>
    exact ⟨containing.working.insert dcRackName _, containing.object, containing.effects⟩
  | emit emits =>
    refine containing.emit fun effect member => ?_
    rw [List.mem_singleton.mp member]
    exact Effect.contained_of_isLocalTo (within emits) known
  | statusWrite answer records => exact containing.updateCassandraStatus answer
  | finalize op attempts waiting records =>
    exact containing.finalizeOperation (drained (List.ne_nil_of_mem waiting)) op attempts
  | pdb => exact ⟨containing.working, containing.object, containing.effects⟩
  | memory status cluster object settled unlock same =>
    refine ⟨?_, ?_, ?_⟩
    · rw [status]
      exact containing.working
    · rw [object.1]
      exact containing.object
    · rw [same.2]
      exact containing.effects

theorem moves (containing : Containing kept drains before)
    (moves : Moves part dcRackName answers before after) : Containing kept drains after := by
  induction moves with
  | refl => exact containing
  | tail _ move induction => exact induction.move known drained within move

theorem iteration {written : List Effect} (containing : Containing kept drains before)
    (iteration : Iteration part dcRackName answers written before after) :
    Containing kept drains after := by
  obtain ⟨middle, first, reasons, second⟩ := iteration.split
  refine ((containing.moves known drained within first).emit fun effect member => ?_).moves
    known drained within second
  exact Effect.contained_of_isCalm
    (Effect.isCalm_of_writtenRack (reasons effect member).writtenRack)

end Own

end Containing

/-! ## Whole passes -/

section Passes

/-- Some result waits when the pass looks at the channel. -/
def ReconcileAnswers.Drains (answers : ReconcileAnswers) (spec : CassandraClusterSpec) : Prop :=
  ∃ position ∈ spec.rackPositions, (answers.racks position).handle.operations.channel ≠ []

def CassandraCluster.Lists (cc : CassandraCluster) (name : String) : Prop :=
  cc.status.cassandraRackStatus.lookup name ≠ none

variable (platform : Platform) {answers : ReconcileAnswers} {start ready : Pass}

theorem Ready.containing (isReady : Ready start answers ready) (unstarted : ∀ effect ∈
      start.effects, effect.isCalm = true)
    (distinct : (ready.cc.spec.rackPositions.map ready.cc.spec.rackNameAt).Nodup) :
    Containing start.cc.Lists (answers.Drains ready.cc.spec) (ready.looped platform answers) := by
  have begins : Containing start.cc.Lists (answers.Drains ready.cc.spec) ready := by
    refine ⟨fun name known => (isReady.flagged name).present known, fun name known => ?_,
      fun effect member => ?_⟩
    · rw [isReady.object]
      exact known
    · rw [isReady.effects] at member
      exact Effect.contained_of_isCalm (unstarted effect member)
  refine @reconcileRacks_visits _ (fun _ _ => True) platform answers.racks ready
    ready.cc.spec.rackPositions distinct (fun position member pass visiting _ containing =>
      ⟨?_, fun _ _ _ => trivial⟩) begins (fun _ _ => trivial) false
  have iteration := reconcileRackAt_case platform (answers.racks position) position.1 position.2
    pass
  generalize reconcileRackAt platform (answers.racks position) position.1 position.2 pass = step
    at iteration
  cases iteration with
  | nameless => exact containing
  | added absent =>
    exact ⟨containing.working.insert _ _, containing.object, containing.effects⟩
  | deleting =>
    refine containing.emit fun effect member => ?_
    obtain ⟨_, rfl⟩ := deletePVCs_quiet _ _ member
    trivial
  | handled rackStatus written step found alive handled path =>
    have known : start.cc.Lists (pass.cc.spec.rackNameAt position) := by
      change pass.rackStatus (pass.cc.spec.rackNameAt position) = some rackStatus at found
      rw [visiting.rackNameAt, visiting.rack] at found
      obtain ⟨read, stored, _⟩ := (isReady.flagged _).record found
      rw [visiting.rackNameAt]
      exact fun none => Option.some_ne_none read (stored.symm.trans none)
    exact containing.iteration known (fun waiting => ⟨position, member, waiting⟩) id
      handled.iteration

/-- The racks that stay when the cluster is checked. -/
def CassandraCluster.Keeps (cc : CassandraCluster) (name : String) : Prop :=
  cc.Lists name ∧ ¬ cc.defaulted.Drops name

theorem reconcileDeferred_contained (answers : ReconcileAnswers) {cc : CassandraCluster}
    (started : Started cc start) (distinct : (cc.spec.rackPositions.map cc.spec.rackNameAt).Nodup) :
    ∃ kept : String → Prop, (∀ name, cc.Keeps name → kept name) ∧
      (∀ name, kept name → cc.Lists name) ∧
      ∀ effect ∈ (reconcileDeferred platform answers start).effects,
        effect.Contained kept (answers.Drains cc.spec) := by
  have lists : ∀ name, start.cc.Lists name ↔ cc.Lists name := by
    unfold CassandraCluster.Lists
    rw [started.status]
    exact fun name => Iff.rfl
  have quiet : ∀ effect ∈ start.effects, effect.isCalm = true := by
    rcases started.effects with none | ⟨sent, version, metadata, only⟩
    · simp [none]
    · simp [only, Effect.isCalm]
  have checked : ∃ kept : String → Prop, (∀ name, cc.Keeps name → kept name) ∧
      (∀ name, kept name → cc.Lists name) ∧ Containing kept (answers.Drains cc.spec)
        (reconcileChecked platform answers { start with status := start.cc.status }).1 := by
    have checkedCase := reconcileChecked_case platform answers start
    generalize reconcileChecked platform answers { start with status := start.cc.status } =
      result at checkedCase
    cases checkedCase with
    | stopped stopped deletions object racks whole phase effects deletes =>
      refine ⟨cc.Keeps, fun _ kept => kept, fun _ kept => kept.1, ?_, ?_, ?_⟩
      · intro name kept
        exact (whole name fun drops => kept.2 (started.drops drops)).present
          ((lists name).mpr kept.1)
      · intro name kept
        rw [object]
        exact (lists name).mpr kept.1
      · intro effect member
        rw [effects] at member
        apply Effect.contained_of_isCalm
        rcases List.mem_append.mp member with old | new
        · exact quiet effect old
        · obtain ⟨_, _, rfl⟩ := deletes effect new
          rfl
    | loop ready isReady =>
      obtain ⟨racks, object, last, effects, updates⟩ :=
        @reconcileRacksAndPhase_fields platform answers ready
      have spec : ready.cc.spec = cc.spec.checkDefaults := isReady.spec.trans started.spec
      obtain ⟨positions, names⟩ := cc.spec.checkDefaults_topology
      rw [← spec] at positions names
      have looped := isReady.containing platform quiet
        (by rw [positions, names]; exact distinct)
      unfold ReconcileAnswers.Drains at looped
      rw [positions] at looped
      refine ⟨start.cc.Lists, fun name kept => (lists name).mpr kept.1,
        fun name => (lists name).mp, ?_, ?_, fun effect member => ?_⟩
      · rcases racks with same | seeded
        · rw [same]
          exact looped.working
        · rw [seeded]
          exact ensureSeedListIsUpdatedWhenRequired_keeps
            (fun racks name rack covers _ => covers.insert name _) _ looped.working
      · rw [object]
        exact looped.object
      · rw [effects] at member
        rcases List.mem_append.mp member with old | new
        · exact looped.effects effect old
        · exact Effect.contained_of_isCalm
            (Effect.isCalm_of_isObjectWrite (updates effect new))
  obtain ⟨kept, stays, lists, containing⟩ := checked
  refine ⟨kept, stays, lists, ?_⟩
  unfold reconcileDeferred
  dsimp only
  split
  · exact containing.effects
  · exact (containing.updateCassandraStatus answers.write).effects

/-- A pass on a cluster that is initialized.  Before that, nothing is taken from the
channel and no goroutine starts. -/
theorem reconcile_contained (answers : ReconcileAnswers) (memory : Memory) (cc : CassandraCluster)
    (distinct : (cc.spec.rackPositions.map cc.spec.rackNameAt).Nodup) :
    ∃ kept : String → Prop, (cc.status.phase ≠ .unset → ∀ name, cc.Keeps name → kept name) ∧
      (∀ name, kept name → cc.status.phase ≠ .unset ∧ cc.Lists name) ∧
      ∀ effect ∈ (reconcile platform memory cc answers).effects,
        effect.Contained kept (answers.Drains cc.spec) := by
  have passCase := reconcile_case platform memory cc answers
  generalize reconcile platform memory cc answers = pass at passCase
  cases passCase with
  | initializing pass unset same none =>
    refine ⟨fun _ => False, fun phase => absurd unset phase, fun _ => False.elim,
      fun effect member => ?_⟩
    unfold initializeCluster at member
    dsimp only at member
    split at member
    all_goals
      simp only [Pass.effects_emit, none, List.nil_append, List.mem_cons, List.not_mem_nil,
        or_false] at member
    · rcases member with rfl | rfl <;> trivial
    · rcases member with rfl | rfl | rfl | rfl
      · trivial
      · trivial
      · trivial
      · exact fun _ => False.elim
  | refused pass sent metadata spec only =>
    refine ⟨fun name => cc.status.phase ≠ .unset ∧ cc.Lists name,
      fun phase _ kept => ⟨phase, kept.1⟩, fun _ kept => kept, fun effect member => ?_⟩
    simp only [only, List.mem_cons, List.not_mem_nil, or_false] at member
    rcases member with rfl | rfl <;> trivial
  | deferred start started =>
    obtain ⟨kept, stays, lists, contained⟩ :=
      reconcileDeferred_contained platform answers started distinct
    exact ⟨kept, fun _ => stays, fun name known => ⟨started.phase, lists name known⟩,
      contained⟩

end Passes

/-! ## A fleet of clusters -/

/-- All clusters under one operator.  They share its memory, and each has its own books. -/
structure Fleet (Key : Type) where
  clusters : Key → World
  memory : Memory
  podName : String
  books : Key → Books := fun _ => {}

namespace Fleet

variable {Key : Type} [DecidableEq Key]

/-- The operator as it is when it works on the cluster. -/
def process (fleet : Fleet Key) (key : Key) : Process :=
  { world := { fleet.clusters key with memory := fleet.memory }
    podName := fleet.podName
    books := fleet.books key }

/-- A call of a pass.  If it takes a result, the key tells whose it is. -/
abbrev Call (Key : Type) := Effect × Key

def apply (cluster : Key) (fleet : Fleet Key) (call : Call Key) : Fleet Key :=
  { fleet with
    clusters := Function.update fleet.clusters cluster
      ((fleet.clusters cluster).applyEffect call.1)
    books :=
      match call.1 with
      | .finalizeOperation op _ =>
        Function.update fleet.books call.2 ((fleet.books call.2).finish op.job)
      | effect => Function.update fleet.books cluster ((fleet.books cluster).record effect) }

/-- The calls of a pass, with the cluster that each result taken comes from. -/
def calls (platform : Platform) (fleet : Fleet Key) (cluster : Key)
    (answers : ReconcileAnswers) (origin : Nat → Key) : List (Call Key) :=
  ((fleet.process cluster).pass platform answers).effects.zipIdx.map fun call =>
    (call.1, origin call.2)

inductive Event (Key : Type) where
  | edit (cluster : Key) (metadata : ObjectMeta) (spec : CassandraClusterSpec)
  | restart (podName : String)
  | pass (cluster : Key) (answers : ReconcileAnswers) (origin : Nat → Key)
  /-- The process dies within a pass, after some of its calls. -/
  | crash (cluster : Key) (answers : ReconcileAnswers) (origin : Nat → Key) (calls : Nat)
      (podName : String)

def restarted (fleet : Fleet Key) (podName : String) : Fleet Key :=
  { clusters := fleet.clusters
    memory := Memory.empty
    podName := podName
    books := fun key => (fleet.books key).lose }

def step (platform : Platform) (fleet : Fleet Key) : Event Key → Fleet Key
  | .edit cluster metadata spec =>
    { fleet with
      clusters := Function.update fleet.clusters cluster
        { fleet.clusters cluster with
          cluster :=
            { (fleet.clusters cluster).cluster with metadata := metadata, spec := spec } } }
  | .restart podName => fleet.restarted podName
  | .pass cluster answers origin =>
    { Runs.run (apply cluster) fleet (fleet.calls platform cluster answers origin) with
      memory := ((fleet.process cluster).pass platform answers).memory }
  | .crash cluster answers origin calls podName =>
    (Runs.run (apply cluster) fleet
      ((fleet.calls platform cluster answers origin).take calls)).restarted podName

/-- The channel delivers nothing but results of operations in flight. -/
def Delivers (fleet : Fleet Key) : Call Key → Prop
  | (.finalizeOperation op _, key) => op.job ∈ (fleet.books key).jobs
  | _ => True

instance (fleet : Fleet Key) (call : Call Key) : Decidable (fleet.Delivers call) := by
  unfold Delivers
  split <;> infer_instance

def Feasible (platform : Platform) (fleet : Fleet Key) : Event Key → Prop
  | .pass cluster answers origin =>
    Runs.Meets (apply cluster) Delivers fleet (fleet.calls platform cluster answers origin)
  | .crash cluster answers origin calls _ =>
    Runs.Meets (apply cluster) Delivers fleet
      ((fleet.calls platform cluster answers origin).take calls)
  | _ => True

instance (platform : Platform) (fleet : Fleet Key) (event : Event Key) :
    Decidable (fleet.Feasible platform event) := by
  unfold Feasible
  split <;> infer_instance

/-- The cluster may be worked on: results are taken only when no other cluster has
operations in flight, and no rack with operations in flight is removed. -/
structure Undisturbed (fleet : Fleet Key) (cluster : Key) (answers : ReconcileAnswers) :
    Prop where
  distinct : ((fleet.clusters cluster).cluster.spec.rackPositions.map
    (fleet.clusters cluster).cluster.spec.rackNameAt).Nodup
  alone : answers.Drains (fleet.clusters cluster).cluster.spec →
    ∀ other, other ≠ cluster → (fleet.books other).jobs = 0
  dropped : ∀ dcRackName, (fleet.clusters cluster).cluster.defaulted.Drops dcRackName →
    (fleet.books cluster).jobsAt dcRackName = 0

def Lawful (fleet : Fleet Key) : Event Key → Prop
  | .pass cluster answers _ => fleet.Undisturbed cluster answers
  | .crash cluster answers _ _ _ => fleet.Undisturbed cluster answers
  | _ => True

/-! ## Steps -/

/-- What holds between the events: operations are in flight on racks that are stored. -/
structure Settled (fleet : Fleet Key) : Prop where
  covered : ∀ key, ∀ job ∈ (fleet.books key).jobs,
    (fleet.clusters key).cluster.Lists job.dcRackName
  phased : ∀ key, (fleet.clusters key).Phased
  blank : ∀ key, (fleet.clusters key).cluster.status.phase = .unset →
    (fleet.books key).jobs = 0

/-- What holds between the calls of a pass on the cluster. -/
structure Home (kept : String → Prop) (drains : Prop) (cluster : Key) (fleet : Fleet Key) :
    Prop where
  covered : ∀ job ∈ (fleet.books cluster).jobs, kept job.dcRackName
  alone : drains → ∀ other, other ≠ cluster → (fleet.books other).jobs = 0

/-- The result goes to the cluster that started the operation. -/
def Call.Returns (cluster : Key) : Call Key → Prop
  | (.finalizeOperation op recorded, key) => key = cluster ∧ op.RecordedIn recorded
  | _ => True

section Calls

variable {kept : String → Prop} {drains : Prop} {cluster : Key} {fleet : Fleet Key}

theorem Home.apply (home : fleet.Home kept drains cluster) {call : Call Key}
    (contained : call.1.Contained kept drains) (delivers : fleet.Delivers call) :
    Call.Returns cluster call ∧ (fleet.apply cluster call).Home kept drains cluster ∧
      ∀ other, other ≠ cluster → (fleet.apply cluster call).books other = fleet.books other := by
  obtain ⟨effect, key⟩ := call
  have updated : ∀ books : Books, (∀ job ∈ books.jobs, kept job.dcRackName) →
      (fleet.apply cluster (effect, key)).books = Function.update fleet.books cluster books →
      (fleet.apply cluster (effect, key)).Home kept drains cluster ∧
        ∀ other, other ≠ cluster →
          (fleet.apply cluster (effect, key)).books other = fleet.books other := by
    intro books covered changed
    have others : ∀ other, other ≠ cluster →
        (fleet.apply cluster (effect, key)).books other = fleet.books other := by
      intro other different
      rw [changed, Function.update_of_ne different]
    refine ⟨⟨?_, fun drained other different => ?_⟩, others⟩
    · rw [changed, Function.update_self]
      exact covered
    · rw [others other different]
      exact home.alone drained other different
  cases effect with
  | finalizeOperation op recorded =>
    obtain ⟨drained, entered⟩ := contained
    have same : key = cluster := by
      by_contra different
      have none := home.alone drained key different
      change op.job ∈ (fleet.books key).jobs at delivers
      rw [none] at delivers
      cases delivers
    subst same
    refine ⟨⟨rfl, entered (home.covered op.job delivers)⟩, updated _ (fun job member => ?_) rfl⟩
    exact home.covered job (Multiset.mem_of_mem_erase member)
  | startOperation dcRackName pod operation | monitorOperation dcRackName pod operation =>
    refine ⟨trivial, updated _ (fun job member => ?_) rfl⟩
    rcases Multiset.mem_cons.mp member with rfl | old
    · exact contained
    · exact home.covered job old
  | startDecommission => exact ⟨trivial, updated (Books.attempt _ _) home.covered rfl⟩
  | _ => exact ⟨trivial, updated _ home.covered rfl⟩

theorem Home.run {calls : List (Call Key)}
    (contained : ∀ call ∈ calls, call.1.Contained kept drains) :
    ∀ {fleet : Fleet Key}, fleet.Home kept drains cluster →
      Runs.Meets (Fleet.apply cluster) Delivers fleet calls →
      (∀ call ∈ calls, Call.Returns cluster call) ∧
        (Runs.run (Fleet.apply cluster) fleet calls).Home kept drains cluster ∧
        ∀ other, other ≠ cluster →
          (Runs.run (Fleet.apply cluster) fleet calls).books other = fleet.books other := by
  induction calls with
  | nil => exact fun home _ => ⟨by simp, home, fun _ _ => rfl⟩
  | cons call calls induction =>
    intro fleet home meets
    obtain ⟨returns, next, others⟩ :=
      home.apply (contained call List.mem_cons_self) meets.1
    obtain ⟨later, ends, others'⟩ :=
      induction (fun other member => contained other (List.mem_cons_of_mem _ member)) next
        meets.2
    refine ⟨fun other member => ?_, ends,
      fun other different => (others' other different).trans (others other different)⟩
    rcases List.mem_cons.mp member with rfl | old
    · exact returns
    · exact later other old

theorem run_clusters (calls : List (Call Key)) :
    ∀ fleet : Fleet Key,
      (Runs.run (Fleet.apply cluster) fleet calls).clusters cluster =
          (fleet.clusters cluster).applyEffects (calls.map Prod.fst) ∧
        ∀ other, other ≠ cluster →
          (Runs.run (Fleet.apply cluster) fleet calls).clusters other = fleet.clusters other := by
  induction calls with
  | nil => exact fun fleet => ⟨rfl, fun _ _ => rfl⟩
  | cons call calls induction =>
    intro fleet
    obtain ⟨own, others⟩ := induction (fleet.apply cluster call)
    constructor
    · rw [Runs.run_cons, own]
      exact congrArg (World.applyEffects · _) (Function.update_self _ _ _)
    · intro other different
      exact (others other different).trans (Function.update_of_ne different _ _)

end Calls

section Events

variable {platform : Platform} {fleet : Fleet Key} {cluster : Key} {answers : ReconcileAnswers}
  {origin : Nat → Key}

omit [DecidableEq Key] in
theorem calls_effects :
    (fleet.calls platform cluster answers origin).map Prod.fst =
      ((fleet.process cluster).pass platform answers).effects := by
  unfold calls
  rw [List.map_map]
  exact List.zipIdx_map_fst 0 _

/-- The first calls of a pass leave everything in order, and return the results they take. -/
theorem Settled.pass (settled : fleet.Settled) (undisturbed : fleet.Undisturbed cluster answers)
    {first rest : List (Call Key)}
    (split : fleet.calls platform cluster answers origin = first ++ rest)
    (delivers : Runs.Meets (Fleet.apply cluster) Delivers fleet first) :
    (∀ call ∈ first, Call.Returns cluster call) ∧
      (Runs.run (Fleet.apply cluster) fleet first).Settled := by
  obtain ⟨kept, stays, lists, contained⟩ := reconcile_contained
    { platform with podName := fleet.podName } answers fleet.memory
    (fleet.clusters cluster).cluster undisturbed.distinct
  have within : ∀ effect ∈ first.map Prod.fst,
      effect ∈ ((fleet.process cluster).pass platform answers).effects := by
    intro effect member
    have effects := @calls_effects _ platform fleet cluster answers origin
    rw [← effects, split, List.map_append]
    exact List.mem_append_left _ member
  have home : fleet.Home kept (answers.Drains (fleet.clusters cluster).cluster.spec)
      cluster := by
    refine ⟨fun job member => ?_, undisturbed.alone⟩
    refine stays (fun unset => ?_) _ ⟨settled.covered cluster job member, fun drops => ?_⟩
    · rw [settled.blank cluster unset] at member
      cases member
    · have here := Books.mem_jobsAt.mpr ⟨member, rfl⟩
      rw [undisturbed.dropped _ drops] at here
      cases here
  obtain ⟨returns, ends, others⟩ := home.run
    (fun call member => contained _ (within _ (List.mem_map_of_mem member))) delivers
  obtain ⟨own, elsewhere⟩ := run_clusters first fleet
  -- The status that is stored in the end: the old one, or one the pass has written.
  have stored : let status := ((Runs.run (Fleet.apply cluster) fleet first).clusters
        cluster).cluster.status
      (∀ name, kept name → status.cassandraRackStatus.lookup name ≠ none) ∧
        Phased status.cassandraRackStatus ∧
        ((fleet.clusters cluster).cluster.status.phase ≠ .unset → status.phase ≠ .unset) := by
    have phased : (fleet.process cluster).world.Phased := settled.phased cluster
    rw [own]
    rcases World.applyEffects_status (first.map Prod.fst) (fleet.clusters cluster) with
      same | ⟨status, written, last⟩
    · rw [same]
      exact ⟨fun name known => (lists name known).2, phased, id⟩
    · have written := within _ written
      have initialized : (fleet.clusters cluster).cluster.status.phase ≠ .unset →
          status.phase ≠ .unset :=
        fun phase => World.pass_initialized _ phased phase written
      rw [last]
      exact ⟨Covers.serialized (contained _ written),
        (World.pass_phased _ phased written).serialized, initialized⟩
  refine ⟨returns, fun key job member => ?_, fun key => ?_, fun key unset => ?_⟩
  all_goals by_cases same : key = cluster
  · subst same
    exact stored.1 _ (ends.covered job member)
  · rw [others key same] at member
    rw [elsewhere key same]
    exact settled.covered key job member
  · subst same
    exact stored.2.1
  · rw [elsewhere key same]
    exact settled.phased key
  · subst same
    apply Multiset.eq_zero_of_forall_notMem
    intro job member
    exact stored.2.2 (lists _ (ends.covered job member)).1 unset
  · rw [elsewhere key same] at unset
    rw [others key same]
    exact settled.blank key unset

omit [DecidableEq Key] in
theorem Settled.restarted (settled : fleet.Settled) (podName : String) :
    (fleet.restarted podName).Settled :=
  ⟨fun _ job member => absurd member (Multiset.notMem_zero job), settled.phased,
    fun _ _ => rfl⟩

theorem Settled.step (settled : fleet.Settled) (event : Event Key)
    (feasible : fleet.Feasible platform event) (lawful : fleet.Lawful event) :
    (fleet.step platform event).Settled := by
  cases event with
  | edit cluster metadata spec =>
    have status : ∀ key, ((fleet.step platform (.edit cluster metadata spec)).clusters
        key).cluster.status = (fleet.clusters key).cluster.status := by
      intro key
      by_cases same : key = cluster
      · subst same
        change (Function.update fleet.clusters key _ key).cluster.status = _
        rw [Function.update_self]
      · change (Function.update fleet.clusters cluster _ key).cluster.status = _
        rw [Function.update_of_ne same]
    refine ⟨fun key job member => ?_, fun key => ?_, fun key unset => ?_⟩
    · unfold CassandraCluster.Lists
      rw [status]
      exact settled.covered key job member
    · unfold World.Phased
      rw [status]
      exact settled.phased key
    · rw [status] at unset
      exact settled.blank key unset
  | restart podName => exact settled.restarted podName
  | pass cluster answers origin =>
    have ends := (settled.pass lawful (List.append_nil _).symm feasible).2
    exact ⟨ends.covered, ends.phased, ends.blank⟩
  | crash cluster answers origin calls podName =>
    exact (settled.pass lawful (List.take_append_drop calls _).symm feasible).2.restarted
      podName

end Events

/-- A fleet on which no operation was started yet. -/
structure Fresh (fleet : Fleet Key) : Prop where
  books : ∀ key, fleet.books key = {}
  phased : ∀ key, (fleet.clusters key).Phased

omit [DecidableEq Key] in
theorem Fresh.settled {fleet : Fleet Key} (fresh : fleet.Fresh) : fleet.Settled := by
  have none : ∀ key, (fleet.books key).jobs = 0 := by
    intro key
    rw [fresh.books key]
  refine ⟨fun key job member => ?_, fresh.phased, fun key _ => none key⟩
  rw [none key] at member
  cases member

/-- Whatever has happened before, a pass enters the results it takes in the racks of the
cluster that started the operations. -/
theorem results_stay_home (platform : Platform) (fleet : Fleet Key) (fresh : fleet.Fresh)
    (events : List (Event Key)) (cluster : Key) (answers : ReconcileAnswers)
    (origin : Nat → Key)
    (feasible : Runs.Meets (step platform) (Feasible platform) fleet
      (events ++ [.pass cluster answers origin]))
    (lawful : Runs.Meets (step platform) Lawful fleet
      (events ++ [.pass cluster answers origin])) :
    ∀ op recorded key, (.finalizeOperation op recorded, key) ∈
        (Runs.run (step platform) fleet events).calls platform cluster answers origin →
      key = cluster ∧ op.RecordedIn recorded := by
  intro op recorded key member
  obtain ⟨settled, possible, allowed⟩ := (feasible.and lawful).at_step fresh.settled
    fun _ event settled ⟨possible, allowed⟩ => settled.step event possible allowed
  exact (settled.pass allowed (List.append_nil _).symm possible).1 _ member

end Fleet

/-! ## Two clusters -/

def pairFleet (second : World) : Fleet (Fin 2) :=
  { clusters := fun key => if key = 0 then pairProcess.world else second
    memory := pairProcess.world.memory
    podName := "casskop-0" }

def renamedWorld : World :=
  let spec : CassandraClusterSpec :=
    { pairSpec with topology := { dc := [{ name := "dc1", rack := [{ name := "rack2" }] }] } }
  { pairProcess.world with
    cluster :=
      { pairProcess.world.cluster with
        annotation := .config { metadata := demoMeta, spec := spec }
        spec := spec
        status :=
          { pairProcess.world.cluster.status with
            cassandraRackStatus := GoMap.ofList [("dc1-rack2", idleRack)] } }
    statefulSets := fun _ => some (demoStatefulSet "dc1-rack2" "cassandra:4" 2) }

def renamedPass : ReconcileAnswers :=
  let sts := demoStatefulSet "dc1-rack2" "cassandra:4" 2
  let rack := (drainingPass 1).racks (0, 0)
  { drainingPass 1 with
    racks := fun _ =>
      { rack with statefulSet := .ok sts, ensure := { rack.ensure with stored := .ok sts } } }

/-- The first cluster starts a cleanup, and the next pass that takes its result is one on
the second cluster. -/
def foreignResult (draining : ReconcileAnswers) : List (Fleet.Event (Fin 2)) :=
  [.pass 0 (pairPass (picks .cleanup [readyPod "demo-dc1-rack1-0"])) fun _ => 0,
    .pass 1 draining fun _ => 0]

/-- The cleanup is recorded in the second cluster, or the operator panics when the rack is
missing there. -/
theorem Fleet.foreign_result_recorded :
    let shared := pairFleet pairProcess.world
    let after := Runs.run (Fleet.step demoPlatform) shared (foreignResult (drainingPass 1))
    let renamed := pairFleet renamedWorld
    let before := Runs.run (Fleet.step demoPlatform) renamed
      ((foreignResult renamedPass).take 1)
    Runs.Meets (Fleet.step demoPlatform) (Fleet.Feasible demoPlatform) shared
        (foreignResult (drainingPass 1)) ∧
      (((after.clusters 1).rackStatus "dc1-rack1").map fun rack =>
          rack.podLastOperation.podsOK) = some (some ["demo-dc1-rack1-0"]) ∧
      (((after.clusters 0).rackStatus "dc1-rack1").map fun rack =>
          rack.podLastOperation.podsOK) = some none ∧
      Runs.Meets (Fleet.step demoPlatform) (Fleet.Feasible demoPlatform) renamed
        (foreignResult renamedPass) ∧
      (.finalizeOperation finishedCleanup none, 0) ∈
        before.calls demoPlatform 1 renamedPass fun _ => 0 := by
  decide +kernel

/-- The result is taken by the next pass on its own cluster. -/
theorem Fleet.own_result_recorded :
    let started := Runs.run (Fleet.step demoPlatform) (pairFleet pairProcess.world)
      [.pass 0 (pairPass (picks .cleanup [readyPod "demo-dc1-rack1-0"])) fun _ => 0]
    ∀ op recorded key, (.finalizeOperation op recorded, key) ∈
        started.calls demoPlatform 0 (drainingPass 1) (fun _ => 0) →
      key = 0 ∧ op.RecordedIn recorded := by
  have phased : pairProcess.world.Phased := pairProcess_fresh.phased
  refine Fleet.results_stay_home demoPlatform (pairFleet pairProcess.world) ⟨?_, ?_⟩ _ 0
    (drainingPass 1) (fun _ => 0) (by decide +kernel) ?_
  · exact fun _ => rfl
  · intro key
    change (if key = 0 then pairProcess.world else pairProcess.world).Phased
    rw [ite_self]
    exact phased
  · refine ⟨⟨by decide, fun _ _ _ => rfl, fun name drops => ?_⟩,
      ⟨by decide +kernel, fun _ => by decide +kernel, fun name drops => ?_⟩, trivial⟩
    · exact absurd drops (pairSpec_keeps rfl rfl name)
    · exact absurd drops (pairSpec_keeps rfl rfl name)

end Casskop
