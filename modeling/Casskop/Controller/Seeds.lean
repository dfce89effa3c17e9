import Casskop.Controller.OneRack
import Casskop.Controller.Scaling
import Casskop.MultiCasskop.Definition

/-!
# Where the seeds stand

The generator puts the seed list of the status into the bootstrap container, into the
configuration of the config builder, and with the environment of the bootstrap container
into every other container but Cassandra.  `CreateOrUpdateStatefulSet` puts the stored
seeds back in one of these places.
-/

namespace Casskop

/-! ## The generator -/

/-- Fields of the spec that the generator reads besides the settings. -/
structure PodSettings extends Settings where
  sidecarConfigs : List Container := []
  imageJolokiaSecret : Bool := false
  /-- Value of the variable `generateJMXConfiguration` returns. -/
  jmxConfiguration : Option String := none
  backRestResources : Option ResourceRequirements := none

structure Generator where
  settings : PodSettings
  /-- The node configuration as text: the given seeds under `cluster-info`, merged with the
  configurations of the cluster, the DC and the rack. -/
  configFileData : CassandraCluster → String → String → String
  volumeClaimTemplate : CassandraCluster → String → Option (List PersistentVolumeClaim)
  volumes : CassandraCluster → Option (List Volume)
  labels : CassandraCluster → String → GoMap String

/-- `SeedList`. -/
def seedListText (seedList : List String) : String := ",".intercalate seedList

def splitText (separator : Char) (text : String) : List String :=
  (text.toList.splitOn separator).map String.ofList

def CassandraClusterSpec.getDCFromDCRackName (spec : CassandraClusterSpec)
    (dcRackName : String) : Option DC :=
  spec.topology.dc.find? fun dc => some dc.name == (splitText '-' dcRackName).head?

def cassConfigBuilderName : String := "config-builder"

def cassBaseConfigBuilderName : String := "base-config-builder"

def configFileDataName : String := "CONFIG_FILE_DATA"

namespace Generator

variable (platform : Platform) (generator : Generator)

/-- Variables that are read from a field or a secret have no value here. -/
def commonBootstrapCassandraEnvVar : List EnvVar :=
  [{ name := "POD_IP" }, { name := "CASSANDRA_LOG_DIR", value := "/var/log/cassandra" }] ++
    if generator.settings.imageJolokiaSecret then
      [{ name := "JOLOKIA_USER" }, { name := "JOLOKIA_PASSWORD" },
        { name := "CASSANDRA_AUTH_JOLOKIA", value := "true" }]
    else []

def bootstrapContainerEnvVar (cc : CassandraCluster) (status : CassandraClusterStatus) :
    List EnvVar :=
  [{ name := "CASSANDRA_CLUSTER_NAME", value := cc.metadata.name },
    { name := cassandraSeeds, value := seedListText status.seedList },
    { name := "CASSANDRA_DC" }, { name := "CASSANDRA_RACK" }] ++
    generator.commonBootstrapCassandraEnvVar

def serverVersion (spec : CassandraClusterSpec) : String :=
  if spec.serverVersion ≠ "" then spec.serverVersion
  else
    match (splitText ':' spec.cassandraImage).tail.getLast? with
    | none => ""
    | some tag =>
      match splitText '-' tag with
      | [version] => version
      | version :: _ => version ++ ".0"
      | [] => ""

def serverType (spec : CassandraClusterSpec) : String :=
  if generator.settings.serverType ≠ "" then generator.settings.serverType
  else if "dse".toList <:+: ((splitText ':' spec.cassandraImage).headD "").toList then "dse"
  else "cassandra"

def initContainerEnvVar (cc : CassandraCluster) (status : CassandraClusterStatus)
    (dcRackName : String) : List EnvVar :=
  [{ name := configFileDataName
     value := generator.configFileData cc (seedListText status.seedList) dcRackName },
    { name := "CONFIG_OUTPUT_DIRECTORY", value := "/bootstrap" },
    { name := "RACK_NAME" },
    { name := "PRODUCT_NAME", value := generator.serverType cc.spec },
    { name := "PRODUCT_VERSION", value := serverVersion cc.spec },
    { name := "POD_IP" }, { name := "HOST_IP" }]

def initContainerResources : ResourceRequirements :=
  let resources :=
    [("cpu", platform.parseQuantity "0.5"), ("memory", platform.parseQuantity "0.5Gi")]
  { limits := some resources, requests := some resources }

def createBaseConfigBuilderContainer (cc : CassandraCluster) : Container :=
  { name := cassBaseConfigBuilderName
    image := cc.spec.cassandraImage
    resources := initContainerResources platform }

def createInitConfigContainer (cc : CassandraCluster) (status : CassandraClusterStatus)
    (dcRackName : String) : Container :=
  { name := cassConfigBuilderName
    image := generator.settings.configBuilderImage
    env := generator.initContainerEnvVar cc status dcRackName
    resources := initContainerResources platform }

def createCassandraBootstrapContainer (cc : CassandraCluster)
    (status : CassandraClusterStatus) : Container :=
  { name := bootstrapContainerName
    image := generator.settings.bootstrapImage
    env := generator.bootstrapContainerEnvVar cc status
    resources := initContainerResources platform }

def createCassandraContainer (cc : CassandraCluster) (dc : DC) : Container :=
  { name := cassandraContainerName
    image := cc.spec.cassandraImage
    env := generator.commonBootstrapCassandraEnvVar ++
      [{ name := "JAVA_TOOL_OPTIONS", value := "-Dcom.sun.jndi.rmiURLParsing=legacy" }] ++
      ((generator.settings.jmxConfiguration.filter (· ≠ "")).map fun value =>
        ({ name := "JVM_OPTS", value := value } : EnvVar)).toList
    resources :=
      if dc.resources.limits = none ∧ dc.resources.requests = none then cc.spec.resources
      else dc.resources }

def backrestSidecarName : String := "backrest-sidecar"

def backrestSidecarContainer (sidecar : BackRestSidecar) : Container :=
  let resources :=
    [("cpu", platform.parseQuantity "0.5"), ("memory", platform.parseQuantity "1Gi")]
  { name := backrestSidecarName
    image := sidecar.image
    resources := generator.settings.backRestResources.getD
      { limits := some resources, requests := some resources } }

/-- `generateContainers`; `none` stands for its nil dereferences. -/
def generateContainers (cc : CassandraCluster) (dcRackName : String) :
    Option (List Container) :=
  match cc.spec.getDCFromDCRackName dcRackName, generator.settings.backRestSidecar with
  | some dc, some sidecar =>
    some
      (generator.settings.sidecarConfigs ++ [generator.createCassandraContainer cc dc] ++
        if sidecar.enabled.getD true then
          [generator.backrestSidecarContainer platform sidecar]
        else [])
  | _, _ => none

def addBootstrapContainerEnvVarsToSidecars (bootstrap : Container)
    (containers : List Container) : List Container :=
  containers.map fun container =>
    if container.name ≠ cassandraContainerName then
      { container with env := container.env ++ bootstrap.env }
    else container

/-- The pod template of `generateCassandraStatefulSet`. -/
def generateTemplate (cc : CassandraCluster) (status : CassandraClusterStatus)
    (dcRackName : String) : Option PodTemplate :=
  let bootstrap := generator.createCassandraBootstrapContainer platform cc status
  (generator.generateContainers platform cc dcRackName).map fun containers =>
    { labels := generator.labels cc dcRackName
      initContainers :=
        [createBaseConfigBuilderContainer platform cc,
          generator.createInitConfigContainer platform cc status dcRackName, bootstrap]
      containers := some (addBootstrapContainerEnvVarsToSidecars bootstrap containers)
      volumes := generator.volumes cc }

def generate (cc : CassandraCluster) (status : CassandraClusterStatus) (dcRackName : String) :
    Option (PodTemplate × List PersistentVolumeClaim) :=
  match generator.volumeClaimTemplate cc dcRackName with
  | none => none
  | some claims =>
    (generator.generateTemplate platform cc status dcRackName).map fun template =>
      (template, claims)

end Generator

/-- The platform with this generator. -/
def Platform.generating (platform : Platform) (generator : Generator) : Platform :=
  { platform with generate := generator.generate platform }

/-! ## Seeds of a StatefulSet -/

/-- The value a variable has in the container: the last one counts. -/
def lastValue (name : String) (env : List EnvVar) : Option String :=
  (env.reverse.find? fun entry => entry.name == name).map EnvVar.value

/-- The seed list of the stored StatefulSet, as `getStoredSeedList` finds it. -/
def storedSeedText (sts : StatefulSet) : Option String :=
  (getBootstrapContainerFromStatefulset sts).bind fun bootstrap =>
    (bootstrap.env.find? fun entry => entry.name == cassandraSeeds).map EnvVar.value

variable {sts : StatefulSet}

theorem getStoredSeedList_of_text {seeds : List String}
    (stored : storedSeedText sts = some (seedListText seeds)) (nonempty : seeds ≠ [])
    (commaFree : ∀ seed ∈ seeds, ',' ∉ seed.toList) : getStoredSeedList sts = seeds := by
  unfold storedSeedText at stored
  obtain ⟨bootstrap, found, value⟩ := Option.bind_eq_some_iff.mp stored
  obtain ⟨entry, listed, text⟩ := Option.map_eq_some_iff.mp value
  unfold getStoredSeedList
  rw [found]
  dsimp only
  rw [listed]
  dsimp only
  rw [text]
  unfold seedListText
  rw [String.toList_intercalate]
  have joined : (",".toList.intercalate (seeds.map String.toList)).splitOn ',' =
      seeds.map String.toList := by
    refine List.splitOn_intercalate ',' ?_ (by simpa using nonempty)
    intro letters member
    obtain ⟨seed, listed, rfl⟩ := List.mem_map.mp member
    exact commaFree seed listed
  rw [joined, List.map_map]
  exact List.map_id'' (fun _ => String.ofList_toList) seeds

/-- Every place the generator puts seeds into has the given ones. -/
structure SeedsAre (generator : Generator) (cc : CassandraCluster) (dcRackName seeds : String)
    (sts : StatefulSet) : Prop where
  bootstrap : ∀ container ∈ sts.spec.template.initContainers,
    container.name = bootstrapContainerName → lastValue cassandraSeeds container.env = some seeds
  config : ∀ container ∈ sts.spec.template.initContainers,
    container.name = cassConfigBuilderName → lastValue configFileDataName container.env =
      some (generator.configFileData cc seeds dcRackName)
  sidecars : ∀ container ∈ sts.spec.template.containers.getD [],
    container.name ≠ cassandraContainerName → lastValue cassandraSeeds container.env = some seeds

theorem lastValue_append (name : String) (own added : List EnvVar) :
    lastValue name (own ++ added) = (lastValue name added).or (lastValue name own) := by
  unfold lastValue
  rw [List.reverse_append, List.find?_append]
  cases (added.reverse.find? fun entry => entry.name == name) <;> rfl

/-! ## What is written -/

section Written

variable {platform : Platform} {generator : Generator} {now : Nat} {pass : Pass}
  {dcRackName : String} {rack : CassandraRackStatus} {answers : StatefulSetAnswers}
  {stored written : StatefulSet} {succeeded : Bool}

/-- The containers of what is written are those of the StatefulSet it is made from. -/
structure SameContainers (sts sts' : StatefulSet) : Prop where
  init : sts'.spec.template.initContainers = sts.spec.template.initContainers
  containers : sts'.spec.template.containers = sts.spec.template.containers

theorem SameContainers.trans {first second third : StatefulSet}
    (before : SameContainers first second) (after : SameContainers second third) :
    SameContainers first third :=
  ⟨after.init.trans before.init, after.containers.trans before.containers⟩

theorem revertAnyStorageUpsize_containers {reverted : StatefulSet}
    (reverts : revertAnyStorageUpsize rack stored sts = some reverted) :
    SameContainers sts reverted := by
  unfold revertAnyStorageUpsize at reverts
  dsimp only at reverts
  split at reverts
  · cases reverts
    exact ⟨rfl, rfl⟩
  split at reverts
  · cases reverts
    exact ⟨rfl, rfl⟩
  split at reverts
  · cases reverts
  · cases reverts
    exact ⟨rfl, rfl⟩

theorem startRestart_containers (now : Nat) (rack : CassandraRackStatus) (sts : StatefulSet) :
    SameContainers sts (startRestart now rack sts).2 := by
  unfold startRestart
  split <;> exact ⟨rfl, rfl⟩

/-- Unless the seed list is updated, what is written comes from the generated StatefulSet
with the stored seeds put back. -/
theorem ensureCassandraStatefulSet_written (other : updatesSeedList rack = false)
    (writes : (ensureCassandraStatefulSet platform now pass dcRackName rack
        answers).pass.effects =
      pass.effects ++ [.updateStatefulSet dcRackName stored written succeeded]) :
    ∃ sts kept, generateCassandraStatefulSet platform pass.cc pass.status dcRackName = some sts ∧
      keepStoredSeeds stored (withStored stored sts) = some kept ∧
      SameContainers kept written := by
  unfold ensureCassandraStatefulSet at writes
  split at writes
  · exact absurd writes append_singleton_ne
  rename_i sts generated
  obtain ⟨kept, reverted, rack', keeps, reverts⟩ := createOrUpdateStatefulSet_made writes
  unfold seedsToWrite at keeps
  rw [if_neg (by simp [other])] at keeps
  have resized : SameContainers kept
      (withReplicas kept (stepReplicas stored.spec.replicas kept.spec.replicas)) := ⟨rfl, rfl⟩
  refine ⟨sts, kept, generated, keeps, ?_⟩
  exact (resized.trans (revertAnyStorageUpsize_containers reverts)).trans
    (startRestart_containers now rack' reverted)

end Written

/-! ## The seeds that are put back -/

theorem lastValue_map (name : String) (change : String → String) (env : List EnvVar) :
    lastValue name
        (env.map fun entry =>
          if entry.name = name then { entry with value := change entry.value } else entry) =
      (lastValue name env).map change := by
  unfold lastValue
  rw [← List.map_reverse, List.find?_map]
  have names : ((fun entry : EnvVar => entry.name == name) ∘ fun entry =>
      if entry.name = name then { entry with value := change entry.value } else entry) =
        fun entry => entry.name == name := by
    funext entry
    by_cases same : entry.name = name <;> simp [same]
  rw [names]
  cases found : (env.reverse.find? fun entry => entry.name == name) with
  | none => rfl
  | some entry =>
    have same : entry.name = name := by simpa using List.find?_some found
    simp [same]

theorem keepStoredSeeds_containers {stored kept : StatefulSet} {base config bootstrap : Container}
    (init : sts.spec.template.initContainers = [base, config, bootstrap])
    (baseName : base.name ≠ bootstrapContainerName)
    (configName : config.name ≠ bootstrapContainerName)
    (named : bootstrap.name = bootstrapContainerName)
    (seeded : ∃ entry ∈ bootstrap.env, entry.name = cassandraSeeds)
    (keeps : keepStoredSeeds stored sts = some kept) :
    ∃ old, getBootstrapContainerFromStatefulset stored = some old ∧
      kept.spec.template.initContainers =
        [base, config, { bootstrap with
          env := bootstrap.env.map fun entry =>
            if entry.name = cassandraSeeds then
              { entry with value := storedSeeds entry.value old.env }
            else entry }] ∧
      kept.spec.template.containers = sts.spec.template.containers := by
  have found : getBootstrapContainerFromStatefulset sts = some bootstrap := by
    unfold getBootstrapContainerFromStatefulset
    rw [init]
    simp [baseName, configName, named]
  have listed : ¬ bootstrap.env.all (fun env => env.name != cassandraSeeds) = true := by
    obtain ⟨entry, member, isSeeds⟩ := seeded
    intro all
    have other := List.all_eq_true.mp all entry member
    simp [isSeeds] at other
  unfold keepStoredSeeds at keeps
  rw [found] at keeps
  dsimp only at keeps
  rw [if_neg listed] at keeps
  split at keeps
  · cases keeps
  rename_i old stores
  cases keeps
  refine ⟨old, stores, ?_, rfl⟩
  have notBase : (bootstrap == base) = false := by
    simp only [beq_eq_false_iff_ne]
    exact fun same => baseName (same ▸ named)
  have notConfig : (bootstrap == config) = false := by
    simp only [beq_eq_false_iff_ne]
    exact fun same => configName (same ▸ named)
  simp [init, List.replace_cons, notBase, notConfig]

variable {dcRackName : String}

section Places

variable (platform : Platform) (generator : Generator) (cc : CassandraCluster)
  (status : CassandraClusterStatus)

theorem lastValue_bootstrapContainerEnvVar :
    lastValue cassandraSeeds (generator.bootstrapContainerEnvVar cc status) =
      some (seedListText status.seedList) := by
  unfold Generator.bootstrapContainerEnvVar Generator.commonBootstrapCassandraEnvVar
  split <;> rfl

theorem lastValue_initContainerEnvVar (dcRackName : String) :
    lastValue configFileDataName (generator.initContainerEnvVar cc status dcRackName) =
      some (generator.configFileData cc (seedListText status.seedList) dcRackName) := rfl

variable {platform generator cc status}

theorem sidecars_seeds_iff {bootstrap : Container} {containers : List Container}
    {value seeds : String} (copied : lastValue cassandraSeeds bootstrap.env = some value) :
    (∀ container ∈ Generator.addBootstrapContainerEnvVarsToSidecars bootstrap containers,
        container.name ≠ cassandraContainerName →
        lastValue cassandraSeeds container.env = some seeds) ↔
      ((∃ container ∈ containers, container.name ≠ cassandraContainerName) → value = seeds) := by
  have last : ∀ own : List EnvVar,
      lastValue cassandraSeeds (own ++ bootstrap.env) = some value := by
    intro own
    rw [lastValue_append, copied]
    rfl
  unfold Generator.addBootstrapContainerEnvVarsToSidecars
  constructor
  · rintro all ⟨container, member, sidecar⟩
    have here := all _ (List.mem_map_of_mem member)
    rw [if_pos sidecar, last] at here
    exact Option.some.inj (here sidecar)
  · intro same container member sidecar
    obtain ⟨plain, listed, rfl⟩ := List.mem_map.mp member
    by_cases cassandra : plain.name = cassandraContainerName
    · rw [if_neg (not_not.mpr cassandra)] at sidecar
      exact absurd cassandra sidecar
    · rw [if_pos cassandra, last, same ⟨plain, listed, cassandra⟩]

/-- There is a container besides Cassandra. -/
def PodSettings.hasSidecar (settings : PodSettings) : Bool :=
  settings.sidecarConfigs.any (fun container => container.name != cassandraContainerName) ||
    settings.backRestSidecar.any fun sidecar => sidecar.enabled.getD true

theorem generateContainers_sidecar_iff {containers : List Container}
    (generated : generator.generateContainers platform cc dcRackName = some containers) :
    (∃ container ∈ containers, container.name ≠ cassandraContainerName) ↔
      generator.settings.hasSidecar = true := by
  unfold Generator.generateContainers at generated
  split at generated
  · rename_i dc sidecar _ backRest
    cases generated
    unfold PodSettings.hasSidecar
    rw [backRest]
    have backRestName : ∀ sidecar,
        (generator.backrestSidecarContainer platform sidecar).name ≠ cassandraContainerName := by
      intro sidecar
      change Generator.backrestSidecarName ≠ cassandraContainerName
      decide
    have cassandra : (generator.createCassandraContainer cc dc).name = cassandraContainerName := rfl
    cases enabled : sidecar.enabled.getD true with
    | false => simp [cassandra, enabled]
    | true =>
      refine iff_of_true ⟨generator.backrestSidecarContainer platform sidecar, ?_,
        backRestName sidecar⟩ (by simp [enabled])
      simp
  · cases generated

theorem generating_containers
    (generated : generateCassandraStatefulSet (platform.generating generator) cc status dcRackName =
      some sts) :
    ∃ containers, generator.generateContainers platform cc dcRackName = some containers ∧
      sts.spec.template.initContainers =
        [Generator.createBaseConfigBuilderContainer platform cc,
          generator.createInitConfigContainer platform cc status dcRackName,
          generator.createCassandraBootstrapContainer platform cc status] ∧
      sts.spec.template.containers = some
        (Generator.addBootstrapContainerEnvVarsToSidecars
          (generator.createCassandraBootstrapContainer platform cc status) containers) := by
  unfold generateCassandraStatefulSet Platform.generating Generator.generate
    Generator.generateTemplate at generated
  dsimp only at generated
  cases claimed : generator.volumeClaimTemplate cc dcRackName with
  | none =>
    rw [claimed] at generated
    cases generated
  | some claims =>
    rw [claimed] at generated
    cases made : generator.generateContainers platform cc dcRackName with
    | none =>
      rw [made] at generated
      cases generated
    | some containers =>
      rw [made] at generated
      cases generated
      exact ⟨containers, rfl, rfl, rfl⟩

end Places

/-! ## Seeds change only with the seed list -/

/-- The seeds of the status are as good as the given ones in every place but the bootstrap
container, and there the ones that are put back are the given ones. -/
structure SeedsUnchanged (generator : Generator) (cc : CassandraCluster)
    (status : CassandraClusterStatus) (dcRackName : String) (stored : StatefulSet)
    (seeds : String) : Prop where
  bootstrap : ∀ old, getBootstrapContainerFromStatefulset stored = some old →
    storedSeeds (seedListText status.seedList) old.env = seeds
  config : generator.configFileData cc (seedListText status.seedList) dcRackName =
    generator.configFileData cc seeds dcRackName
  sidecars : generator.settings.hasSidecar = true → seedListText status.seedList = seeds

theorem seedsAre_written_iff {platform : Platform} {generator : Generator} {cc : CassandraCluster}
    {status : CassandraClusterStatus} {stored kept written : StatefulSet} (seeds : String)
    (generated : generateCassandraStatefulSet (platform.generating generator) cc status dcRackName =
      some sts) (keeps : keepStoredSeeds stored (withStored stored sts) = some kept)
    (same : SameContainers kept written) :
    SeedsAre generator cc dcRackName seeds written ↔
      SeedsUnchanged generator cc status dcRackName stored seeds := by
  obtain ⟨containers, made, init, others⟩ := generating_containers generated
  have copied := lastValue_bootstrapContainerEnvVar generator cc status
  have listed : ∃ entry ∈ generator.bootstrapContainerEnvVar cc status,
      entry.name = cassandraSeeds :=
    ⟨{ name := cassandraSeeds, value := seedListText status.seedList },
      by simp [Generator.bootstrapContainerEnvVar], rfl⟩
  have baseName : cassBaseConfigBuilderName ≠ bootstrapContainerName := by decide
  have configName : cassConfigBuilderName ≠ bootstrapContainerName := by decide
  have builders : cassBaseConfigBuilderName ≠ cassConfigBuilderName := by decide
  obtain ⟨old, stores, keptInit, keptOthers⟩ := @keepStoredSeeds_containers
    (withStored stored sts) stored kept _ _ _ init baseName configName rfl listed keeps
  have put := lastValue_map cassandraSeeds (fun value => storedSeeds value old.env)
    (generator.bootstrapContainerEnvVar cc status)
  rw [copied, Option.map_some] at put
  have writtenInit := same.init.trans keptInit
  have writtenOthers := (same.containers.trans keptOthers).trans others
  have sidecars := @sidecars_seeds_iff
    (generator.createCassandraBootstrapContainer platform cc status) containers _ seeds copied
  rw [generateContainers_sidecar_iff made] at sidecars
  constructor
  · intro are
    refine ⟨fun old' stores' => ?_, ?_, ?_⟩
    · obtain rfl : old' = old := Option.some.inj (stores'.symm.trans stores)
      have here := are.bootstrap _ (writtenInit.symm ▸ List.mem_cons_of_mem _
        (List.mem_cons_of_mem _ List.mem_cons_self)) rfl
      exact Option.some.inj (put.symm.trans here)
    · have here := are.config (generator.createInitConfigContainer platform cc status dcRackName)
        (writtenInit.symm ▸ List.mem_cons_of_mem _ List.mem_cons_self) rfl
      exact Option.some.inj
        ((lastValue_initContainerEnvVar generator cc status dcRackName).symm.trans here)
    · refine sidecars.mp fun container member => are.sidecars container ?_
      rw [writtenOthers]
      exact member
  · intro unchanged
    refine ⟨fun container member named => ?_, fun container member named => ?_, ?_⟩
    · rw [writtenInit] at member
      simp only [List.mem_cons, List.not_mem_nil, or_false] at member
      rcases member with rfl | rfl | rfl
      · exact absurd named baseName
      · exact absurd named configName
      · rw [← unchanged.bootstrap old stores]
        exact put
    · rw [writtenInit] at member
      simp only [List.mem_cons, List.not_mem_nil, or_false] at member
      rcases member with rfl | rfl | rfl
      · exact absurd named builders
      · rw [← unchanged.config]
        exact lastValue_initContainerEnvVar generator cc status dcRackName
      · exact absurd named (Ne.symm configName)
    · rw [writtenOthers]
      exact sidecars.mpr unchanged.sidecars

/-- The seeds of the stored StatefulSet survive a write that is no update of the seed list
exactly if nothing but the bootstrap container can tell them from those of the status. -/
theorem written_seeds_iff (platform : Platform) (generator : Generator) (now : Nat)
    (pass : Pass) (dcRackName : String) (rack : CassandraRackStatus)
    (answers : StatefulSetAnswers) (stored written : StatefulSet) (succeeded : Bool)
    (other : updatesSeedList rack = false)
    (writes : (ensureCassandraStatefulSet (platform.generating generator) now pass dcRackName
        rack answers).pass.effects =
      pass.effects ++ [.updateStatefulSet dcRackName stored written succeeded]) :
    (∀ seeds, storedSeedText stored = some seeds →
        SeedsAre generator pass.cc dcRackName seeds written) ↔
      ∀ seeds, storedSeedText stored = some seeds →
        SeedsUnchanged generator pass.cc pass.status dcRackName stored seeds := by
  obtain ⟨sts, kept, generated, keeps, same⟩ := ensureCassandraStatefulSet_written other writes
  exact forall₂_congr fun seeds _ => seedsAre_written_iff seeds generated keeps same

/-! ## A new image -/

def seedGenerator : Generator :=
  { settings := { backRestSidecar := some {} }
    configFileData := fun _ seeds _ => "seeds: " ++ seeds
    volumeClaimTemplate := fun _ _ => some []
    volumes := fun _ => none
    labels := fun _ _ => ∅ }

/-- One rack that is to get a new image, with the given seeds in the status. -/
def seedPass (seeds : List String) : Pass :=
  { cc :=
      { metadata := { name := "demo", ns := "default" }
        spec :=
          { nodesPerRacks := 1
            cassandraImage := "cassandra:5"
            topology := { dc := [{ name := "dc1", rack := [{ name := "rack1" }] }] } } }
    status := { seedList := seeds }
    storedPdb := { name := "demo", ns := "default", disruptionsAllowed := 1, expectedPods := 1 } }

def newImageRack : CassandraRackStatus :=
  { phase := .running, cassandraLastAction := { name := .updateDockerImage, status := .toDo } }

def seedStatefulSet : StatefulSet :=
  { name := "demo-dc1-rack1"
    spec :=
      { replicas := 1
        template :=
          { initContainers :=
              [{ name := "bootstrap"
                 env := [{ name := "CASSANDRA_SEEDS", value := "demo-0" }] }] } } }

def seedAnswers : StatefulSetAnswers :=
  { stored := .ok seedStatefulSet, create := .ok (), update := .ok () }

theorem same_seeds_written :
    ∃ written,
      (ensureCassandraStatefulSet (demoPlatform.generating seedGenerator) 100
          (seedPass ["demo-0"]) "dc1-rack1" newImageRack seedAnswers).pass.effects =
        (seedPass ["demo-0"]).effects ++
          [.updateStatefulSet "dc1-rack1" seedStatefulSet written true] ∧
      SeedsAre seedGenerator (seedPass ["demo-0"]).cc "dc1-rack1" "demo-0" written := by
  refine ⟨_, rfl, (written_seeds_iff demoPlatform seedGenerator 100 (seedPass ["demo-0"])
    "dc1-rack1" newImageRack seedAnswers seedStatefulSet _ true rfl rfl).mpr ?_ "demo-0" rfl⟩
  intro seeds stored
  cases stored
  exact ⟨fun old found => by cases found; rfl, rfl, fun _ => rfl⟩

/-- The new image comes with the seeds of the status in the configuration and in the
backup sidecar. -/
theorem new_image_changes_seeds :
    ∃ written,
      (ensureCassandraStatefulSet (demoPlatform.generating seedGenerator) 100
          (seedPass ["demo-0", "demo-1"]) "dc1-rack1" newImageRack seedAnswers).pass.effects =
        (seedPass ["demo-0", "demo-1"]).effects ++
          [.updateStatefulSet "dc1-rack1" seedStatefulSet written true] ∧
      updatesSeedList newImageRack = false ∧ storedSeedText seedStatefulSet = some "demo-0" ∧
      (getBootstrapContainerFromStatefulset written).map
          (fun container => lastValue cassandraSeeds container.env) = some (some "demo-0") ∧
      ¬ SeedsAre seedGenerator (seedPass ["demo-0", "demo-1"]).cc "dc1-rack1" "demo-0"
        written := by
  refine ⟨_, rfl, rfl, rfl, rfl, fun are => ?_⟩
  have config := are.config (seedGenerator.createInitConfigContainer demoPlatform
    (seedPass ["demo-0", "demo-1"]).cc (seedPass ["demo-0", "demo-1"]).status "dc1-rack1")
    (List.mem_cons_of_mem _ List.mem_cons_self) rfl
  exact absurd config (by decide)

end Casskop
