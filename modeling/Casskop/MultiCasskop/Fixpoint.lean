import Casskop.Api.RackList
import Casskop.MultiCasskop.Reconcile

/-!
# What CassKop fills in and MultiCasskop compares

MultiCasskop fills in the values of `CheckDefaults` before it compares a definition with
the stored object, but not those of `SetDefaults`.  The two controllers agree on an object
exactly when its definition leaves nothing for `SetDefaults` to fill in.
-/

namespace Casskop

/-! ## The stored object -/

/-- Empty maps are not serialized. -/
def serializedEntries {α : Type} (entries : Option (List α)) : Option (List α) :=
  if (entries.getD []).isEmpty then none else entries

def ResourceRequirements.serialized (resources : ResourceRequirements) :
    ResourceRequirements :=
  { limits := serializedEntries resources.limits, requests := serializedEntries resources.requests }

def DC.serialized (dc : DC) : DC := { dc with resources := dc.resources.serialized }

def CassandraClusterSpec.serialized (spec : CassandraClusterSpec) : CassandraClusterSpec :=
  { spec with
    resources := spec.resources.serialized
    topology := { dc := spec.topology.dc.map DC.serialized } }

/-- The defaults of the custom resource definition. -/
def Settings.apiDefaults (settings : Settings) : Settings :=
  { settings with
    runAsUser := if settings.runAsUser = 0 then 999 else settings.runAsUser
    fsGroup := if settings.fsGroup = 0 then 1 else settings.fsGroup
    serverType := orDefault settings.serverType "cassandra" }

/-- What the API server stores of an object it is asked to create; the status is dropped. -/
def Definition.created (cc : Definition) : StoredCluster :=
  { cluster := { metadata := cc.metadata, spec := cc.spec.serialized }
    settings := cc.settings.apiDefaults }

/-- The object after the first pass of CassKop: `SetDefaults` with the finalizer, then
`CheckDefaults`. -/
def StoredCluster.initialized (stored : StoredCluster) : StoredCluster :=
  let cluster := updateDeletePvcStrategy stored.cluster.setDefaults
  { cluster := { cluster with spec := cluster.spec.checkDefaults }
    settings := stored.settings.checkDefaults }

/-! ## The spec CassKop persists -/

def CassandraClusterSpec.counted (spec : CassandraClusterSpec) : CassandraClusterSpec :=
  { spec with nodesPerRacks := if spec.nodesPerRacks = 0 then 1 else spec.nodesPerRacks }

def ResourceRequirements.withLimits (resources : ResourceRequirements) : ResourceRequirements :=
  if resources.limits = none then { resources with limits := resources.requests } else resources

/-- What `SetDefaults` and `CheckDefaults` fill in after the racks were created. -/
def CassandraClusterSpec.filledIn (spec : CassandraClusterSpec) : CassandraClusterSpec :=
  { spec with
    cassandraImage := orDefault spec.cassandraImage defaultCassandraImage
    maxPodUnavailable :=
      if spec.maxPodUnavailable = 0 then defaultMaxPodUnavailable else spec.maxPodUnavailable
    resources := spec.resources.withLimits }

theorem counted_eq (spec : CassandraClusterSpec) :
    (if spec.nodesPerRacks = 0 then { spec with nodesPerRacks := 1 } else spec) =
      spec.counted := by
  by_cases zero : spec.nodesPerRacks = 0
  · simp [CassandraClusterSpec.counted, zero]
  · simp [CassandraClusterSpec.counted, zero]

theorem initialized_spec (stored : StoredCluster) :
    stored.initialized.cluster.spec =
      (initCassandraRackList stored.cluster.spec.counted).spec.filledIn := by
  simp only [StoredCluster.initialized, updateDeletePvcStrategy, CassandraCluster.setDefaults]
  rw [counted_eq]
  generalize (initCassandraRackList stored.cluster.spec.counted).spec = spec
  by_cases unlimited : spec.resources.limits = none <;>
    by_cases unavailable : spec.maxPodUnavailable = 0 <;>
    by_cases image : spec.cassandraImage = "" <;>
    simp [CassandraClusterSpec.filledIn, CassandraClusterSpec.checkDefaults, orDefault,
      ResourceRequirements.withLimits, unlimited, unavailable, image]

theorem initialized_seedList {stored : StoredCluster}
    (fresh : stored.cluster.status.seedList = []) :
    stored.initialized.cluster.status.seedList =
      initSeedList stored.cluster.metadata
        (initCassandraRackList stored.cluster.spec.counted).spec := by
  simp only [StoredCluster.initialized, updateDeletePvcStrategy, CassandraCluster.setDefaults,
    fresh]
  rw [counted_eq]
  rfl

/-! ## Agreement of the specs -/

theorem normalizedResources_serializedEntries (entries : Option (List (String × Quantity))) :
    normalizedResources (serializedEntries entries) = normalizedResources entries := by
  cases entries with
  | none => rfl
  | some entries => cases entries <;> simp [normalizedResources, serializedEntries]

theorem normalizedResources_eq_none_iff (entries : Option (List (String × Quantity))) :
    normalizedResources entries = none ↔ entries.getD [] = [] := by
  cases entries with
  | none => simp [normalizedResources]
  | some entries => cases entries <;> simp [normalizedResources]

theorem normalized_serialized (resources : ResourceRequirements) :
    resources.serialized.normalized = resources.normalized := by
  simp [ResourceRequirements.serialized, ResourceRequirements.normalized,
    normalizedResources_serializedEntries]

theorem withLimits_agrees_iff (resources : ResourceRequirements) :
    resources.serialized.withLimits.normalized = resources.normalized ↔
      resources.limits.getD [] ≠ [] ∨ resources.requests.getD [] = [] := by
  by_cases unlimited : resources.limits.getD [] = []
  · have none : serializedEntries resources.limits = none := by simp [serializedEntries, unlimited]
    have limits : normalizedResources resources.limits = Option.none :=
      (normalizedResources_eq_none_iff _).mpr unlimited
    simp [ResourceRequirements.withLimits, ResourceRequirements.serialized, none,
      ResourceRequirements.normalized, normalizedResources_serializedEntries, limits,
      normalizedResources_eq_none_iff, unlimited]
  · have some : serializedEntries resources.limits ≠ none := by
      intro none
      cases limits : resources.limits with
      | none => simp [limits] at unlimited
      | some entries =>
        simp only [limits, Option.getD_some] at unlimited
        simp [serializedEntries, limits, unlimited] at none
    have kept : resources.serialized.withLimits = resources.serialized := if_neg some
    rw [kept, normalized_serialized]
    exact iff_of_true rfl (Or.inl unlimited)

def DC.unsetRollingRestart (dc : DC) : DC :=
  { dc with rack := dc.rack.map fun rack => { rack with rollingRestart := false } }

def Topology.Quiet (topology : Topology) : Prop :=
  ∀ dc ∈ topology.dc, ∀ rack ∈ dc.rack, rack.rollingRestart = false

theorem DC.unsetRollingRestart_agrees_iff (dc : DC) :
    dc.serialized.unsetRollingRestart.normalized = dc.normalized ↔
      ∀ rack ∈ dc.rack, rack.rollingRestart = false := by
  have racks : dc.serialized.unsetRollingRestart.normalized = dc.normalized ↔
      dc.rack.map (fun rack => { rack with rollingRestart := false }) = dc.rack.map id := by
    simp [DC.unsetRollingRestart, DC.normalized, DC.serialized, Casskop.normalized_serialized]
  rw [racks, List.map_inj_left]
  refine forall₂_congr fun rack _ => ?_
  constructor
  · intro same
    exact (congrArg Rack.rollingRestart same).symm
  · intro quiet
    rw [← quiet]
    rfl

/-- The created topology agrees with the defined one if that is complete and asks for no
restart. -/
theorem topology_agrees_iff {defined racked : Topology} (complete : racked.Complete)
    (kept : defined.Complete → racked.dc = defined.dc.map DC.serialized) :
    (racked.dc.map DC.unsetRollingRestart).map DC.normalized = defined.dc.map DC.normalized ↔
      defined.Complete ∧ defined.Quiet := by
  constructor
  · intro agree
    -- Neither side of the comparison changes how many racks a DC has.
    have racks : racked.dc.map (fun dc => dc.rack.length) =
        defined.dc.map (fun dc => dc.rack.length) := by
      have lengths := congrArg (List.map fun dc : DC => dc.rack.length) agree
      simpa [Function.comp_def, DC.unsetRollingRestart, DC.normalized] using lengths
    have definedComplete : defined.Complete := by
      constructor
      · intro none
        rw [none, List.map_nil, List.map_eq_nil_iff] at racks
        exact complete.1 racks
      · intro dc member none
        have zero : 0 ∈ racked.dc.map (fun dc => dc.rack.length) := by
          rw [racks]
          exact List.mem_map.mpr ⟨dc, member, by simp [none]⟩
        obtain ⟨empty, created, size⟩ := List.mem_map.mp zero
        exact complete.2 empty created (List.length_eq_zero_iff.mp size)
    refine ⟨definedComplete, ?_⟩
    rw [kept definedComplete, List.map_map, List.map_map, List.map_inj_left] at agree
    intro dc member
    exact dc.unsetRollingRestart_agrees_iff.mp (agree dc member)
  · rintro ⟨definedComplete, quiet⟩
    rw [kept definedComplete, List.map_map, List.map_map, List.map_inj_left]
    intro dc member
    exact dc.unsetRollingRestart_agrees_iff.mpr (quiet dc member)

/-- The definition leaves nothing for `SetDefaults` to fill in and asks for no restart. -/
structure CassandraClusterSpec.Filled (spec : CassandraClusterSpec) : Prop where
  nodesPerRacks : spec.nodesPerRacks ≠ 0
  maxPodUnavailable : spec.maxPodUnavailable ≠ 0
  limits : spec.resources.limits.getD [] ≠ [] ∨ spec.resources.requests.getD [] = []
  topology : spec.topology.Complete
  restarts : spec.topology.Quiet

theorem CassandraClusterSpec.checkDefaults_eq (spec : CassandraClusterSpec) :
    spec.checkDefaults =
      { spec with cassandraImage := orDefault spec.cassandraImage defaultCassandraImage } := by
  by_cases image : spec.cassandraImage = ""
  · simp [checkDefaults, orDefault, image]
  · simp [checkDefaults, orDefault, image]

theorem orDefault_orDefault {value default : String} :
    orDefault (orDefault value default) default = orDefault value default := by
  by_cases unset : value = ""
  · by_cases empty : default = "" <;> simp [orDefault, unset]
  · simp [orDefault, unset]

theorem counted_topology (cc : Definition) :
    cc.checkDefaults.spec.serialized.counted.topology.dc =
      cc.spec.topology.dc.map DC.serialized := by
  simp [Definition.checkDefaults, CassandraClusterSpec.checkDefaults_eq,
    CassandraClusterSpec.counted, CassandraClusterSpec.serialized]

variable {cc : Definition}

theorem initCassandraRackList_created (complete : cc.spec.topology.Complete) :
    (initCassandraRackList cc.checkDefaults.spec.serialized.counted).spec =
      cc.checkDefaults.spec.serialized.counted := by
  apply initCassandraRackList_complete
  unfold Topology.Complete
  rw [counted_topology]
  simpa [Topology.Complete, DC.serialized] using complete

private theorem one_unless_zero_iff (count : Int) :
    (if count = 0 then 1 else count) = count ↔ count ≠ 0 := by
  by_cases zero : count = 0
  · simp [zero]
  · simp [zero]

theorem spec_agrees_iff (cc : Definition) :
    (unsetRollingRestart cc.checkDefaults.created.initialized.cluster.spec).normalized =
        cc.checkDefaults.spec.normalized ↔ cc.spec.Filled := by
  obtain ⟨topology, complete, racked⟩ :=
    initCassandraRackList_topology cc.checkDefaults.spec.serialized.counted
  have kept : cc.spec.topology.Complete →
      topology.dc = cc.spec.topology.dc.map DC.serialized := by
    intro defined
    have same := racked.symm.trans (initCassandraRackList_created defined)
    rw [← counted_topology, ← same]
  rw [initialized_spec]
  change (unsetRollingRestart
    (initCassandraRackList cc.checkDefaults.spec.serialized.counted).spec.filledIn).normalized
      = _ ↔ _
  rw [racked]
  simp only [Definition.checkDefaults, CassandraClusterSpec.checkDefaults_eq,
    unsetRollingRestart, CassandraClusterSpec.normalized, CassandraClusterSpec.filledIn,
    CassandraClusterSpec.counted, CassandraClusterSpec.serialized,
    CassandraClusterSpec.mk.injEq, orDefault_orDefault, withLimits_agrees_iff, Topology.mk.injEq]
  rw [one_unless_zero_iff, show defaultMaxPodUnavailable = 1 from rfl, one_unless_zero_iff]
  have topologies := topology_agrees_iff complete kept
  constructor
  · rintro ⟨nodes, -, limits, -, -, -, -, unavailable, -, -, -, -, -, agree⟩
    obtain ⟨defined, quiet⟩ := topologies.mp agree
    exact ⟨nodes, unavailable, limits, defined, quiet⟩
  · intro filled
    exact ⟨filled.nodesPerRacks, trivial, filled.limits, trivial, trivial, trivial, trivial,
      filled.maxPodUnavailable, trivial, trivial, trivial, trivial, trivial,
      topologies.mpr ⟨filled.topology, filled.restarts⟩⟩

/-- The settings agree in any case: what only the API server fills in is adopted. -/
theorem settings_agree (settings : Settings) :
    settings.checkDefaults.apiDefaults.checkDefaults =
      settings.checkDefaults.adopt settings.checkDefaults.apiDefaults.checkDefaults := by
  have sidecar : ∀ sidecar : BackRestSidecar,
      sidecar.checkDefaults.checkDefaults = sidecar.checkDefaults := by
    intro sidecar
    simp [BackRestSidecar.checkDefaults, orDefault_orDefault]
  simp only [Settings.checkDefaults, Settings.apiDefaults, Settings.adopt, orDefault_orDefault,
    Option.getD_some, sidecar, Settings.mk.injEq, true_and]
  refine ⟨?_, ?_, ?_⟩
  · by_cases unset : settings.runAsUser = 0 <;> simp [unset]
  · by_cases unset : settings.fsGroup = 0 <;> simp [unset]
  · by_cases unset : settings.serverType = "" <;> simp [orDefault, unset]

/-! ## Agreement of the seed lists -/

variable {spec other : CassandraClusterSpec}

theorem nodesPerRacksFrom_serialized (nodes : other.nodesPerRacks = spec.nodesPerRacks)
    (dcRackName : String) (dcs : List DC) :
    other.nodesPerRacksFrom dcRackName (dcs.map DC.serialized) =
      spec.nodesPerRacksFrom dcRackName dcs := by
  induction dcs with
  | nil => exact nodes
  | cons dc rest induction =>
    simp only [List.map_cons, CassandraClusterSpec.nodesPerRacksFrom, nodes, induction]
    rfl

theorem seedsOfRacks_congr
    (nodes : ∀ dcRackName, other.getNodesPerRacks dcRackName = spec.getNodesPerRacks dcRackName)
    (name ns dcName : String) (racksize : Nat) (racks : List Rack) :
    ∀ nbSeedInDC, seedsOfRacks other name ns dcName racksize racks nbSeedInDC =
      seedsOfRacks spec name ns dcName racksize racks nbSeedInDC := by
  induction racks with
  | nil =>
    intro _
    rfl
  | cons rack rest induction =>
    intro nbSeedInDC
    simp only [seedsOfRacks, nodes, induction]

/-- Seeds are computed from the names and sizes of the racks only. -/
theorem initSeedList_serialized (metadata : ObjectMeta)
    (nodes : other.nodesPerRacks = spec.nodesPerRacks)
    (topology : other.topology.dc = spec.topology.dc.map DC.serialized) :
    initSeedList metadata other = initSeedList metadata spec := by
  have counts : ∀ dcRackName,
      other.getNodesPerRacks dcRackName = spec.getNodesPerRacks dcRackName := by
    intro dcRackName
    unfold CassandraClusterSpec.getNodesPerRacks
    rw [topology]
    exact nodesPerRacksFrom_serialized nodes dcRackName spec.topology.dc
  simp only [initSeedList, topology, nodes, List.isEmpty_map, List.flatMap_map,
    seedsOfRacks_congr counts]
  rfl

theorem initialized_seedList_filled (filled : cc.spec.Filled) :
    cc.checkDefaults.created.initialized.cluster.status.seedList =
      initSeedList cc.metadata cc.spec := by
  rw [initialized_seedList rfl]
  change initSeedList cc.metadata
    (initCassandraRackList cc.checkDefaults.spec.serialized.counted).spec = _
  rw [initCassandraRackList_created filled.topology]
  apply initSeedList_serialized
  · simp [Definition.checkDefaults, CassandraClusterSpec.checkDefaults_eq,
      CassandraClusterSpec.counted, CassandraClusterSpec.serialized, filled.nodesPerRacks]
  · exact counted_topology cc

/-! ## The next pass of MultiCasskop -/

/-- The definition is what CassKop makes of it: nothing is left to fill in, and a seed list
is the one CassKop computes. -/
structure Definition.Filled (cc : Definition) : Prop where
  spec : cc.spec.Filled
  seedList : ∀ seedList ∈ cc.seedList, seedList = initSeedList cc.metadata cc.spec

theorem specDiffers_initialized_iff (cc : Definition) :
    specDiffers cc.checkDefaults cc.checkDefaults.created.initialized = false ↔ cc.spec.Filled := by
  have settings : cc.checkDefaults.created.initialized.settings =
      cc.checkDefaults.settings.adopt cc.checkDefaults.created.initialized.settings :=
    settings_agree cc.settings
  unfold specDiffers
  rw [Bool.or_eq_false_iff, bne_eq_false_iff_eq, bne_eq_false_iff_eq, spec_agrees_iff]
  exact and_iff_left settings

theorem seedListDiffers_initialized_iff (filled : cc.spec.Filled) :
    seedListDiffers cc.checkDefaults cc.checkDefaults.created.initialized = false ↔
      ∀ seedList ∈ cc.seedList, seedList = initSeedList cc.metadata cc.spec := by
  unfold seedListDiffers
  rw [initialized_seedList_filled filled]
  change cc.seedList.any _ = false ↔ _
  cases cc.seedList with
  | none => simp
  | some seedList =>
    simp only [Option.any_some, bne_eq_false_iff_eq, Option.mem_some_iff, forall_eq']
    exact eq_comm

theorem unsetRollingRestart_eq_self
    (same : spec.topology.dc.map DC.unsetRollingRestart = spec.topology.dc) :
    unsetRollingRestart spec = spec := by
  change { spec with topology := { dc := spec.topology.dc.map DC.unsetRollingRestart } } = spec
  rw [same]

theorem unsetRollingRestart_initialized (filled : cc.spec.Filled) :
    unsetRollingRestart cc.checkDefaults.created.initialized.cluster.spec =
      cc.checkDefaults.created.initialized.cluster.spec := by
  have topology : cc.checkDefaults.created.initialized.cluster.spec.topology.dc =
      cc.spec.topology.dc.map DC.serialized := by
    rw [initialized_spec]
    change (initCassandraRackList
      cc.checkDefaults.spec.serialized.counted).spec.topology.dc = _
    rw [initCassandraRackList_created filled.topology, counted_topology]
  have quiet : ∀ dc ∈ cc.spec.topology.dc,
      dc.serialized.unsetRollingRestart = dc.serialized := by
    intro dc member
    have racks : dc.rack.map (fun rack => { rack with rollingRestart := false }) =
        dc.rack.map id := by
      apply List.map_inj_left.mpr
      intro rack inside
      rw [← filled.restarts dc member rack inside]
      rfl
    simpa [DC.unsetRollingRestart, DC.serialized] using racks
  apply unsetRollingRestart_eq_self
  rw [topology, List.map_map, List.map_inj_left]
  exact quiet

/-- After MultiCasskop has created the object of a site and CassKop has initialized it, the
next pass finds no difference exactly when the merged definition is filled in. -/
theorem createOrUpdateCassandraCluster_fixpoint_iff
    (merge : Definition → Definition → Definition) (base override : Definition) (site : Nat)
    (answers : SiteAnswers) :
    let cc := (merge base override).checkDefaults
    let stored := cc.created.initialized
    createOrUpdateCassandraCluster site cc { answers with get := .ok stored } =
        { update := false
          stored := some stored
          error := none
          calls := [.getCluster site] } ↔
      (merge base override).Filled := by
  dsimp only
  generalize merge base override = cc
  simp only [createOrUpdateCassandraCluster]
  constructor
  · intro settled
    split at settled
    · have written := congrArg SiteResult.update settled
      exact absurd written (by simp)
    · rename_i same
      rw [Bool.not_eq_true, Bool.or_eq_false_iff, specDiffers_initialized_iff] at same
      exact ⟨same.1, (seedListDiffers_initialized_iff same.1).mp same.2⟩
  · intro filled
    have spec := (specDiffers_initialized_iff cc).mpr filled.spec
    have seeds := (seedListDiffers_initialized_iff filled.spec).mpr filled.seedList
    simp only [overwritten, spec, seeds, unsetRollingRestart_initialized filled.spec,
      Bool.or_self, Bool.false_eq_true, if_false]

def topologyless : Definition :=
  { metadata := { name := "cassandra-demo", ns := "default" }
    spec := { nodesPerRacks := 1, maxPodUnavailable := 1 } }

/-- CassKop puts a default topology into the object, and MultiCasskop takes it out again. -/
theorem default_topology_overwritten :
    let cc := topologyless.checkDefaults
    let stored := cc.created.initialized
    let result := createOrUpdateCassandraCluster 0 cc
      { get := .ok stored, create := .ok (), update := .ok (), delete := .ok () }
    stored.cluster.spec.topology.dc = [{ name := "dc1", rack := [{ name := "rack1" }] }] ∧
      result.update = true ∧
      ∃ object, object.cluster.spec.topology.dc = [] ∧
        result.calls = [.getCluster 0, .updateCluster 0 object] := by
  have differs : specDiffers topologyless.checkDefaults
      topologyless.checkDefaults.created.initialized = true := by decide +kernel
  have object : (overwritten topologyless.checkDefaults
      topologyless.checkDefaults.created.initialized).cluster.spec.topology.dc = [] := by
    decide +kernel
  refine ⟨by decide +kernel, ?_, _, object, ?_⟩
  · simp [createOrUpdateCassandraCluster, differs]
  · simp [createOrUpdateCassandraCluster, differs]

end Casskop
