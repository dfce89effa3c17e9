import Casskop.Controller.Seeds
import Casskop.Library.JsonTree

/-!
# Version decisions of the generator

Three places ask whether the server is Cassandra 4 or later.  The merge of the user's
configuration looks at the version that is given or read from the image tag, the defaults of the
JVM and the decommission call look at the given one only, and the last of them compares texts
where the others look at the first character.
-/

namespace Casskop

open JsonTree

/-! ## The decisions -/

/-- `strings.HasPrefix(version, "4")`. -/
def startsWith4 (version : String) : Bool := "4".toList.isPrefixOf version.toList

def jvmOptionsName : String := "jvm-options"

def jvmServerOptionsName : String := "jvm-server-options"

def jvmOptionName (spec : CassandraClusterSpec) : String :=
  if startsWith4 spec.serverVersion then jvmServerOptionsName else jvmOptionsName

/-- The argument `ensureDecommissionToDo` passes to `NodeDecommission`. -/
def decommissionV4 (spec : CassandraClusterSpec) : Bool := decide ("4.0" ≤ spec.serverVersion)

/-! ## The configuration -/

/-- `config` of the cluster, of the DC and of the rack; `none` is nil. -/
structure NodeConfigs where
  cluster : Option Fields := none
  dc : Option Fields := none
  rack : Option Fields := none

/-- In the order in which they are merged. -/
def NodeConfigs.all (configs : NodeConfigs) : List (Option Fields) :=
  [configs.cluster, configs.dc, configs.rack]

/-- `mergeConfig` renames the options before it merges them. -/
def renameJvmOptions (serverVersion : String) (config : Fields) : Fields :=
  if startsWith4 serverVersion then
    match config.get? jvmOptionsName with
    | some options => (config.set jvmServerOptionsName options).erase jvmOptionsName
    | none => config
  else config

def mergeConfig (serverVersion : String) (current : Fields) (config : Option Fields) : Fields :=
  match config with
  | some config => current.mergeWith (renameJvmOptions serverVersion config)
  | none => current

/-- What `defineJvmMemory` reads from the resources. -/
structure JvmMemory where
  maxHeapSize : String
  initialHeapSize : String

def jvmDefaults (memory : JvmMemory) : List (String × Node) :=
  [("initial_heap_size", .leaf memory.initialHeapSize),
    ("max_heap_size", .leaf memory.maxHeapSize),
    ("cassandra_ring_delay_ms", .leaf "30000"),
    ("jmx-connection-type", .leaf "remote-no-auth")]

/-- The part that does not come from the user. -/
def generatedConfig (clusterName seeds dcName : String) : Fields :=
  .cons "cluster-info"
    (.object (.cons "name" (.leaf clusterName) (.cons "seeds" (.leaf seeds) .nil)))
    (.cons "datacenter-info" (.object (.cons "name" (.leaf dcName) .nil)) .nil)

/-- The generated part, with the configurations of the user merged into it. -/
def mergedConfig (spec : CassandraClusterSpec) (configs : NodeConfigs)
    (clusterName seeds dcName : String) : Fields :=
  configs.all.foldl (mergeConfig (Generator.serverVersion spec))
    (generatedConfig clusterName seeds dcName)

/-- The defaults that do not depend on the version. -/
def setNodeDefaults (config : Fields) : Fields :=
  (config.setDefaults "cassandra-yaml"
      [("read_request_timeout_in_ms", .leaf "5000"),
        ("write_request_timeout_in_ms", .leaf "5000"),
        ("counter_write_request_timeout_in_ms", .leaf "5000")]).setDefaults "logback-xml"
    [("debuglog-enabled", .leaf "false")]

/-- The tree of `CONFIG_FILE_DATA`. -/
def configFileTree (spec : CassandraClusterSpec) (configs : NodeConfigs) (memory : JvmMemory)
    (clusterName seeds dcName : String) : Fields :=
  (setNodeDefaults (mergedConfig spec configs clusterName seeds dcName)).setDefaults
    (jvmOptionName spec) (jvmDefaults memory)

/-- The generator with this configuration, written out by `render`. -/
def Generator.withConfig (generator : Generator) (render : Fields → String)
    (configs : String → NodeConfigs) (memory : ResourceRequirements → JvmMemory) : Generator :=
  { generator with
    configFileData := fun cc seeds dcRackName =>
      render (configFileTree cc.spec (configs dcRackName) (memory cc.spec.resources)
        cc.metadata.name seeds ((splitText '-' dcRackName).headD "")) }

theorem configFileData_withConfig (generator : Generator) (render : Fields → String)
    (configs : String → NodeConfigs) (memory : ResourceRequirements → JvmMemory)
    (cc : CassandraCluster) (status : CassandraClusterStatus) (dcRackName : String) :
    lastValue configFileDataName ((generator.withConfig render configs memory).initContainerEnvVar
        cc status dcRackName) =
      some (render (configFileTree cc.spec (configs dcRackName) (memory cc.spec.resources)
        cc.metadata.name (seedListText status.seedList) ((splitText '-' dcRackName).headD ""))) :=
  lastValue_initContainerEnvVar _ cc status dcRackName

/-! ## Agreement -/

/-- The user leaves the options of the server alone. -/
def NodeConfigs.OnlyJvmOptions (configs : NodeConfigs) : Prop :=
  ∀ config, some config ∈ configs.all → config.get? jvmServerOptionsName = none

/-- What the user asks for; for an empty version nothing is renamed. -/
def NodeConfigs.merged (configs : NodeConfigs) : Fields :=
  configs.all.foldl (mergeConfig "") .nil

def heapSettings : List String := ["initial_heap_size", "max_heap_size"]

/-- The three decisions are one.  Options of the user end up in one table, and no default
stands beside a heap setting of the user. -/
structure VersionsAgree (spec : CassandraClusterSpec) (configs : NodeConfigs)
    (tree : Fields) : Prop where
  defaults : startsWith4 (Generator.serverVersion spec) = true ↔
    jvmOptionName spec = jvmServerOptionsName
  decommission : jvmOptionName spec = jvmServerOptionsName ↔ decommissionV4 spec = true
  oneTable : configs.OnlyJvmOptions →
    tree.get? jvmOptionsName = none ∨ tree.get? jvmServerOptionsName = none
  heap : configs.OnlyJvmOptions → ∀ key ∈ heapSettings, ∀ value, value ≠ .null →
    configs.merged.path? jvmOptionsName key = some value →
      tree.path? (jvmOptionName spec) key = some value ∧
        ∀ table ∈ [jvmOptionsName, jvmServerOptionsName], ∀ other,
          tree.path? table key = some other → other = value

/-- The text behind a 4 is not below `.0`. -/
def FollowsFour : List Char → Prop
  | '.' :: third :: _ => '0' ≤ third
  | second :: _ => '.' < second
  | [] => False

/-- The version is given, and starts with a character below 4, or with a 4 and something not
below `.0`; or it is not given, and that of the image does not start with a 4. -/
def VersionPlain (spec : CassandraClusterSpec) : Prop :=
  match spec.serverVersion.toList with
  | [] => startsWith4 (Generator.serverVersion spec) = false
  | first :: rest => first < '4' ∨ first = '4' ∧ FollowsFour rest

section Decisions

variable {spec : CassandraClusterSpec}

theorem jvmOptionName_server_iff :
    jvmOptionName spec = jvmServerOptionsName ↔ startsWith4 spec.serverVersion = true := by
  have apart : jvmOptionsName ≠ jvmServerOptionsName := by decide
  unfold jvmOptionName
  split <;> simp_all

theorem startsWith4_iff (version : String) :
    startsWith4 version = true ↔ ∃ rest, version.toList = '4' :: rest := by
  have four : "4".toList = ['4'] := by decide
  unfold startsWith4
  rw [List.isPrefixOf_iff_prefix, four]
  constructor
  · rintro ⟨rest, same⟩
    exact ⟨rest, same.symm⟩
  · rintro ⟨rest, same⟩
    exact ⟨rest, same.symm⟩

theorem dotZero_lt_iff (rest : List Char) : rest < ['.', '0'] ↔ ¬ FollowsFour rest := by
  match rest with
  | [] => simp [FollowsFour]
  | [second] =>
    rw [List.cons_lt_cons_iff]
    by_cases dot : second = '.'
    · subst dot
      simp [FollowsFour]
    · simp [FollowsFour, dot, le_iff_lt_or_eq]
  | second :: third :: rest =>
    rw [List.cons_lt_cons_iff, List.cons_lt_cons_iff]
    by_cases dot : second = '.'
    · subst dot
      simp [FollowsFour]
    · simp [FollowsFour, dot, le_iff_lt_or_eq]

/-- Texts are compared character by character. -/
theorem decommissionV4_iff {first : Char} {rest : List Char}
    (version : spec.serverVersion.toList = first :: rest) :
    decommissionV4 spec = true ↔ '4' < first ∨ first = '4' ∧ FollowsFour rest := by
  have text : "4.0".toList = ['4', '.', '0'] := by decide
  unfold decommissionV4
  rw [decide_eq_true_iff, ← String.not_lt, String.lt_iff_toList_lt, text, version,
    List.cons_lt_cons_iff, dotZero_lt_iff]
  rcases lt_trichotomy first '4' with below | same | above
  · simp [below, below.not_gt, below.ne]
  · simp [same]
  · simp [above, above.not_gt, above.ne']

theorem decommissionV4_empty (version : spec.serverVersion.toList = []) :
    decommissionV4 spec = false := by
  unfold decommissionV4
  rw [decide_eq_false_iff_not, String.le_iff_toList_le, version]
  decide

theorem serverVersion_of_given (given : spec.serverVersion ≠ "") :
    Generator.serverVersion spec = spec.serverVersion := by
  unfold Generator.serverVersion
  rw [if_pos given]

theorem decisions_agree_iff :
    ((startsWith4 (Generator.serverVersion spec) = true ↔
        jvmOptionName spec = jvmServerOptionsName) ∧
      (jvmOptionName spec = jvmServerOptionsName ↔ decommissionV4 spec = true)) ↔
      VersionPlain spec := by
  rw [jvmOptionName_server_iff, startsWith4_iff spec.serverVersion]
  unfold VersionPlain
  cases version : spec.serverVersion.toList with
  | nil => simp [decommissionV4_empty version]
  | cons first rest =>
    have given : spec.serverVersion ≠ "" := by
      intro empty
      rw [empty] at version
      cases version
    rw [serverVersion_of_given given, startsWith4_iff, version]
    rw [decommissionV4_iff version]
    rcases lt_trichotomy first '4' with below | same | above
    · simp [below, below.not_gt, below.ne]
    · simp [same]
    · simp [above, above.not_gt, above.ne']

end Decisions

section Tables

variable {spec : CassandraClusterSpec} {configs : NodeConfigs}

/-- The table that takes the user's options, and the other one. -/
def optionsTable (version : String) : String :=
  if startsWith4 version then jvmServerOptionsName else jvmOptionsName

def otherTable (version : String) : String :=
  if startsWith4 version then jvmOptionsName else jvmServerOptionsName

theorem get?_foldl_mergeConfig (version key : String) (configs : List (Option Fields)) :
    ∀ current : Fields, (configs.foldl (mergeConfig version) current).get? key =
      configs.foldl (fun entry config => mergeEntry entry
        ((config.map (renameJvmOptions version)).bind fun config => config.get? key))
        (current.get? key) := by
  induction configs with
  | nil =>
    intro current
    rfl
  | cons config configs induction =>
    intro current
    rw [List.foldl_cons, List.foldl_cons, induction]
    refine congrArg (fun entry => configs.foldl _ entry) ?_
    cases config with
    | none => exact (mergeEntry_none_right _).symm
    | some config => exact Fields.get?_mergeWith _ _ _

theorem get?_renameJvmOptions_table {config : Fields}
    (only : config.get? jvmServerOptionsName = none) (version : String) :
    (renameJvmOptions version config).get? (optionsTable version) = config.get? jvmOptionsName := by
  have apart : jvmOptionsName ≠ jvmServerOptionsName := by decide
  unfold renameJvmOptions optionsTable
  split
  · split
    · rename_i options found
      rw [Fields.get?_erase, if_neg apart, Fields.get?_set, if_pos rfl, found]
    · rename_i found
      rw [only, found]
  · rfl

theorem get?_renameJvmOptions_other {config : Fields}
    (only : config.get? jvmServerOptionsName = none) (version : String) :
    (renameJvmOptions version config).get? (otherTable version) = none := by
  unfold renameJvmOptions otherTable
  split
  · split
    · rw [Fields.get?_erase, if_pos rfl]
    · assumption
  · exact only

theorem generatedConfig_get? {table : String} (clusterName seeds dcName : String)
    (options : table = jvmOptionsName ∨ table = jvmServerOptionsName) :
    (generatedConfig clusterName seeds dcName).get? table = none := by
  rcases options with rfl | rfl <;> rfl

theorem optionsTable_cases (version : String) :
    optionsTable version = jvmOptionsName ∧ otherTable version = jvmServerOptionsName ∨
      optionsTable version = jvmServerOptionsName ∧ otherTable version = jvmOptionsName := by
  unfold optionsTable otherTable
  split
  · exact .inr ⟨rfl, rfl⟩
  · exact .inl ⟨rfl, rfl⟩

/-- The options of the user arrive in one table as the user wrote them. -/
theorem get?_mergedConfig_table (only : configs.OnlyJvmOptions)
    (clusterName seeds dcName : String) :
    (mergedConfig spec configs clusterName seeds dcName).get?
        (optionsTable (Generator.serverVersion spec)) =
      configs.merged.get? jvmOptionsName := by
  unfold mergedConfig NodeConfigs.merged
  rw [get?_foldl_mergeConfig, get?_foldl_mergeConfig, generatedConfig_get? _ _ _
    ((optionsTable_cases _).imp And.left And.left)]
  refine List.foldl_ext _ _ _ fun entry config member => ?_
  cases config with
  | none => rfl
  | some config =>
    have same : (renameJvmOptions (Generator.serverVersion spec) config).get?
          (optionsTable (Generator.serverVersion spec)) =
        (renameJvmOptions "" config).get? jvmOptionsName := by
      rw [get?_renameJvmOptions_table (only config member)]
      exact (get?_renameJvmOptions_table (only config member) "").symm
    exact congrArg (mergeEntry entry) same

theorem get?_mergedConfig_other (only : configs.OnlyJvmOptions)
    (clusterName seeds dcName : String) :
    (mergedConfig spec configs clusterName seeds dcName).get?
        (otherTable (Generator.serverVersion spec)) = none := by
  unfold mergedConfig
  rw [get?_foldl_mergeConfig, generatedConfig_get? _ _ _
    ((optionsTable_cases _).symm.imp And.right And.right)]
  rw [List.foldl_ext _ (fun entry _ => entry) _ fun entry config member => ?_]
  · exact List.foldl_fixed _
  · cases config with
    | none => exact mergeEntry_none_right entry
    | some config =>
      refine (congrArg (mergeEntry entry) ?_).trans (mergeEntry_none_right entry)
      exact get?_renameJvmOptions_other (only config member) _

theorem get?_setNodeDefaults {table : String} (config : Fields)
    (options : table = jvmOptionsName ∨ table = jvmServerOptionsName) :
    (setNodeDefaults config).get? table = config.get? table := by
  have apart : "cassandra-yaml" ≠ table ∧ "logback-xml" ≠ table := by
    rcases options with rfl | rfl <;> decide
  unfold setNodeDefaults
  rw [Fields.get?_setDefaults_of_ne apart.2, Fields.get?_setDefaults_of_ne apart.1]

end Tables

section Agreement

variable {spec : CassandraClusterSpec} {configs : NodeConfigs} {memory : JvmMemory}
  {clusterName seeds dcName : String}

theorem jvmOptionName_eq_optionsTable
    (defaults : startsWith4 (Generator.serverVersion spec) = true ↔
      jvmOptionName spec = jvmServerOptionsName) :
    jvmOptionName spec = optionsTable (Generator.serverVersion spec) := by
  rw [jvmOptionName_server_iff] at defaults
  unfold jvmOptionName optionsTable
  simp only [defaults]

theorem get?_configFileTree_other (only : configs.OnlyJvmOptions)
    (same : jvmOptionName spec = optionsTable (Generator.serverVersion spec)) :
    (configFileTree spec configs memory clusterName seeds dcName).get?
        (otherTable (Generator.serverVersion spec)) = none := by
  have tables := optionsTable_cases (Generator.serverVersion spec)
  have apart : jvmOptionName spec ≠ otherTable (Generator.serverVersion spec) := by
    rw [same]
    rcases tables with ⟨options, other⟩ | ⟨options, other⟩ <;> rw [options, other] <;> decide
  unfold configFileTree
  rw [Fields.get?_setDefaults_of_ne apart,
    get?_setNodeDefaults _ (tables.symm.imp And.right And.right), get?_mergedConfig_other only]

theorem path?_configFileTree_table (only : configs.OnlyJvmOptions)
    (same : jvmOptionName spec = optionsTable (Generator.serverVersion spec)) {key : String}
    {value : Node} (present : value ≠ .null)
    (asked : configs.merged.path? jvmOptionsName key = some value) :
    (configFileTree spec configs memory clusterName seeds dcName).path? (jvmOptionName spec)
      key = some value := by
  have tables := optionsTable_cases (Generator.serverVersion spec)
  refine Fields.path?_setDefaults present _ _ ?_
  unfold Fields.path? at asked ⊢
  rw [same, get?_setNodeDefaults _ (tables.imp And.left And.left), get?_mergedConfig_table only]
  exact asked

end Agreement

/-- The version decisions agree, with all that follows for the configuration, if and only if
the version is a plain one. -/
theorem versionsAgree_iff (spec : CassandraClusterSpec) (configs : NodeConfigs)
    (memory : JvmMemory) (clusterName seeds dcName : String) :
    VersionsAgree spec configs (configFileTree spec configs memory clusterName seeds dcName) ↔
      VersionPlain spec := by
  constructor
  · intro agree
    exact decisions_agree_iff.mp ⟨agree.defaults, agree.decommission⟩
  · intro plain
    obtain ⟨defaults, decommission⟩ := decisions_agree_iff.mpr plain
    have same := jvmOptionName_eq_optionsTable defaults
    have tables := optionsTable_cases (Generator.serverVersion spec)
    refine ⟨defaults, decommission, fun only => ?_, fun only key _ value present asked => ?_⟩
    · have absent := @get?_configFileTree_other _ _ memory clusterName seeds dcName only same
      rcases tables with ⟨_, other⟩ | ⟨_, other⟩
      · exact .inr (other ▸ absent)
      · exact .inl (other ▸ absent)
    · have stays := @path?_configFileTree_table _ _ memory clusterName seeds dcName only same
        _ _ present asked
      refine ⟨stays, fun table listed other found => ?_⟩
      have choice : table = jvmOptionName spec ∨
          table = otherTable (Generator.serverVersion spec) := by
        simp only [List.mem_cons, List.not_mem_nil, or_false] at listed
        rw [same]
        rcases tables with ⟨options, rest⟩ | ⟨options, rest⟩
        · rwa [options, rest]
        · rwa [options, rest, or_comm]
      rcases choice with rfl | rfl
      · exact Option.some.inj (found.symm.trans stays)
      · obtain ⟨_, table, _⟩ := Fields.path?_eq_some found
        rw [get?_configFileTree_other only same] at table
        cases table

/-- A cluster that gives its version in the tag of the image only. -/
def taggedSpec : CassandraClusterSpec := { cassandraImage := "cassandra:4.0.1" }

def heapConfigs : NodeConfigs :=
  { cluster := some (.cons "jvm-options"
      (.object (.cons "initial_heap_size" (.leaf "800M") .nil)) .nil) }

/-- The options of the user go to the server's table, the defaults to the other one. -/
theorem taggedSpec_disagrees :
    let tree := configFileTree taggedSpec heapConfigs
      { maxHeapSize := "2048M", initialHeapSize := "512M" } "demo" "" "dc1"
    startsWith4 (Generator.serverVersion taggedSpec) = true ∧
      jvmOptionName taggedSpec = "jvm-options" ∧ decommissionV4 taggedSpec = false ∧
      heapConfigs.OnlyJvmOptions ∧
      tree.path? "jvm-server-options" "initial_heap_size" = some (.leaf "800M") ∧
      tree.path? "jvm-options" "initial_heap_size" = some (.leaf "512M") ∧
      ¬ VersionsAgree taggedSpec heapConfigs tree := by
  intro tree
  have renamed : startsWith4 (Generator.serverVersion taggedSpec) = true := by decide +kernel
  have only : heapConfigs.OnlyJvmOptions := by
    intro config member
    have listed : some config = heapConfigs.cluster := by
      simpa [NodeConfigs.all, heapConfigs] using member
    cases listed
    rfl
  refine ⟨renamed, by decide +kernel, by decide +kernel, only, rfl, rfl, fun agree => ?_⟩
  exact absurd (agree.defaults.mp renamed) (by decide +kernel)

end Casskop
