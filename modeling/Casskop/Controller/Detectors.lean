import Casskop.Controller.Seeds

/-!
# Detectors and generator

The detectors of `getNextCassandraClusterStatus` read the config map, the image, the capacity,
the number of nodes and the seeds of a rack back from its StatefulSet.  The generator has put
each of them into another part of it, and has taken volumes out again whose mounts collide
with those of a claim.
-/

namespace Casskop

/-! ## Volumes and claims of the generator -/

structure VolumeMount where
  name : String
  mountPath : String
  deriving DecidableEq, Repr

structure PersistentVolumeClaimSpec where
  requests : Option (GoMap Quantity) := none

structure StorageConfig where
  mountPath : String
  name : String
  pvcSpec : Option PersistentVolumeClaimSpec

structure Sidecar where
  container : Container
  volumeMounts : List VolumeMount := []

/-- Fields of the spec behind the volumes and the claims. -/
structure VolumeSettings where
  sidecarConfigs : List Sidecar := []
  backRestVolumeMounts : List VolumeMount := []
  storageConfigs : List StorageConfig := []

inductive ContainerType where
  | init
  | bootstrap
  | cassandra
  | backrest
  deriving DecidableEq

def emptyDir (name : String) : Volume := { name := name }

def generateCassandraVolumes (spec : CassandraClusterSpec) : List Volume :=
  [emptyDir "bootstrap", emptyDir "extra-lib", emptyDir "tools", emptyDir "log", emptyDir "tmp"] ++
    if spec.configMapName ≠ "" then
      [{ name := cassandraConfigMapName, configMap := some spec.configMapName }]
    else []

def generateContainerVolumeMount (spec : CassandraClusterSpec) (ct : ContainerType) :
    List VolumeMount :=
  if ct = .init then [{ name := "bootstrap", mountPath := "/bootstrap" }]
  else
    let common : List VolumeMount :=
      [{ name := "bootstrap", mountPath := "/etc/cassandra" },
        { name := "extra-lib", mountPath := "/extra-lib" }] ++
        if ct ≠ .backrest then [{ name := "tools", mountPath := "/opt/bin" }] else []
    if ct = .bootstrap then
      common ++
        if spec.configMapName ≠ "" then
          [{ name := cassandraConfigMapName, mountPath := "/configmap" }]
        else []
    else
      let mounts := common ++
        (if spec.dataCapacity ≠ "" then
          [{ name := dataPVCName, mountPath := "/var/lib/cassandra" }]
        else []) ++
        [{ name := "tmp", mountPath := "/tmp" }]
      if ct = .backrest then mounts
      else mounts ++ [{ name := "log", mountPath := "/var/log/cassandra" }]

/-- The paths at which the Cassandra container mounts claims, by claim.  Of several containers
with its name the last one counts. -/
def volumeClaimMapNameMountPath (containers : List (String × List VolumeMount))
    (claims : List PersistentVolumeClaim) : GoMap String :=
  let mounts :=
    (((containers.filter fun container => container.1 == cassandraContainerName).getLast?).map
      Prod.snd).getD []
  claims.foldl
    (fun paths claim => mounts.foldl
      (fun paths mount =>
        if claim.name = mount.name then paths.insert claim.name mount.mountPath else paths)
      paths)
    ∅

/-- The volumes that `removeDuplicateVolumeMountsFromContainers` reports: a mount that is not
one of a claim, at the path of one. -/
def removeDuplicateVolumeMountsFromContainers (containers : List (String × List VolumeMount))
    (paths : GoMap String) : List String :=
  ((containers.flatMap Prod.snd).filter fun mount =>
    (paths.lookup mount.name).isNone && paths.any fun _ path => path == mount.mountPath).map
    VolumeMount.name

/-- A slice that nothing was appended to is nil. -/
def volumesWoDupes (volumes : List Volume) (volumeToRemove : List String) :
    Option (List Volume) :=
  let newVolumes := volumes.filter fun volume => !volumeToRemove.contains volume.name
  if newVolumes.length ≠ volumes.length then
    if newVolumes.isEmpty then none else some newVolumes
  else some volumes

def removeDuplicateVolumesAndVolumeMounts (containers : List (String × List VolumeMount))
    (claims : List PersistentVolumeClaim) (volumes : List Volume) : Option (List Volume) :=
  volumesWoDupes volumes
    (removeDuplicateVolumeMountsFromContainers containers
      (volumeClaimMapNameMountPath containers claims))

namespace VolumeSettings

variable (settings : VolumeSettings) (platform : Platform) (spec : CassandraClusterSpec)

def generateStorageConfigVolumesMount : List VolumeMount :=
  settings.storageConfigs.map fun storage =>
    { name := storage.name, mountPath := storage.mountPath }

/-- `none` is the error of a storage without PVC spec. -/
def generateStorageConfigVolumeClaimTemplates :
    List StorageConfig → Option (List PersistentVolumeClaim)
  | [] => some []
  | storage :: storages =>
    match storage.pvcSpec with
    | none => none
    | some pvcSpec =>
      (generateStorageConfigVolumeClaimTemplates storages).map fun pvcs =>
        { name := storage.name, requests := pvcSpec.requests } :: pvcs

def generateVolumeClaimTemplate (dcName : String) : Option (List PersistentVolumeClaim) :=
  let dataCapacity := spec.getDataCapacityFromDCName dcName
  if dataCapacity = "" then some []
  else
    (generateStorageConfigVolumeClaimTemplates settings.storageConfigs).map
      fun storageConfigPvcs =>
        { name := dataPVCName
          requests := some ((∅ : GoMap Quantity).insert resourceStorage
            (platform.parseQuantity dataCapacity)) } :: storageConfigPvcs

/-- Names and mounts of `generateContainers`. -/
def containerMounts (backRestSidecar : Option BackRestSidecar) :
    List (String × List VolumeMount) :=
  settings.sidecarConfigs.map (fun sidecar => (sidecar.container.name, sidecar.volumeMounts)) ++
    [(cassandraContainerName, generateContainerVolumeMount spec .cassandra ++
      settings.generateStorageConfigVolumesMount)] ++
    if backRestSidecar.any fun sidecar => sidecar.enabled.getD true then
      [(Generator.backrestSidecarName,
        settings.backRestVolumeMounts ++ generateContainerVolumeMount spec .backrest)]
    else []

end VolumeSettings

/-- The generator with its volumes and claims, for a rack of the DC. -/
def Generator.withVolumes (generator : Generator) (platform : Platform)
    (settings : VolumeSettings) (dcName : String) : Generator :=
  { generator with
    settings :=
      { generator.settings with sidecarConfigs := settings.sidecarConfigs.map Sidecar.container }
    volumeClaimTemplate := fun cc _ => settings.generateVolumeClaimTemplate platform cc.spec dcName
    volumes := fun cc =>
      (settings.generateVolumeClaimTemplate platform cc.spec dcName).bind fun claims =>
        removeDuplicateVolumesAndVolumeMounts
          (settings.containerMounts cc.spec generator.settings.backRestSidecar) claims
          (generateCassandraVolumes cc.spec) }

/-! ## The volume of the config map -/

/-- No sidecar is named after Cassandra or mounts the volume of the config map. -/
structure VolumeSettings.SidecarsApart (settings : VolumeSettings) : Prop where
  names : ∀ sidecar ∈ settings.sidecarConfigs, sidecar.container.name ≠ cassandraContainerName
  mounts : ∀ sidecar ∈ settings.sidecarConfigs, ∀ mount ∈ sidecar.volumeMounts,
    mount.name ≠ cassandraConfigMapName
  backRest : ∀ mount ∈ settings.backRestVolumeMounts, mount.name ≠ cassandraConfigMapName

variable {mount : VolumeMount}

/-- The Cassandra container and the backup sidecar have other mounts of their own. -/
theorem generateContainerVolumeMount_apart (spec : CassandraClusterSpec) {ct : ContainerType}
    (started : ct ≠ .bootstrap) (mounted : mount ∈ generateContainerVolumeMount spec ct) :
    mount.name ≠ cassandraConfigMapName := by
  have named : mount.name ∈ ["bootstrap", "extra-lib", "tools", dataPVCName, "tmp", "log"] := by
    unfold generateContainerVolumeMount at mounted
    cases ct with
    | bootstrap => exact absurd rfl started
    | init | cassandra | backrest => split at mounted <;> simp_all <;> grind
  rintro same
  rw [same] at named
  revert named
  decide

section Paths

/-- The path of the last mount of that name. -/
def lastPath : List VolumeMount → String → Option String
  | [], _ => none
  | mount :: mounts, name =>
    (lastPath mounts name).or (if mount.name = name then some mount.mountPath else none)

theorem lastPath_cons (mount : VolumeMount) (mounts : List VolumeMount) (name : String) :
    lastPath (mount :: mounts) name =
      (lastPath mounts name).or (if mount.name = name then some mount.mountPath else none) :=
  rfl

theorem lastPath_isSome {mounts : List VolumeMount} (member : mount ∈ mounts) :
    (lastPath mounts mount.name).isSome := by
  induction mounts with
  | nil => cases member
  | cons head mounts induction =>
    rw [lastPath_cons, Option.isSome_or, Bool.or_eq_true]
    rcases List.mem_cons.mp member with rfl | later
    · exact .inr (by simp)
    · exact .inl (induction later)

theorem lookup_foldl_mounts (claim : PersistentVolumeClaim) (name : String)
    (mounts : List VolumeMount) : ∀ paths : GoMap String,
      (mounts.foldl
          (fun paths mount =>
            if claim.name = mount.name then paths.insert claim.name mount.mountPath else paths)
          paths).lookup name =
        if claim.name = name then (lastPath mounts name).or (paths.lookup name)
        else paths.lookup name := by
  induction mounts with
  | nil => simp [lastPath]
  | cons mount mounts induction =>
    intro paths
    rw [List.foldl_cons, induction, lastPath_cons]
    by_cases named : claim.name = name
    · subst named
      by_cases same : claim.name = mount.name
      · simp [← same]
      · simp [same, Ne.symm same]
    · by_cases same : claim.name = mount.name
      · simp [named, ← same, Finmap.lookup_insert_of_ne _ (Ne.symm named)]
      · simp [named, same]

theorem lookup_foldl_claims (mounts : List VolumeMount) (name : String)
    (claims : List PersistentVolumeClaim) : ∀ paths : GoMap String,
      (claims.foldl
          (fun paths claim => mounts.foldl
            (fun paths mount =>
              if claim.name = mount.name then paths.insert claim.name mount.mountPath else paths)
            paths)
          paths).lookup name =
        if name ∈ claims.map PersistentVolumeClaim.name then
          (lastPath mounts name).or (paths.lookup name)
        else paths.lookup name := by
  induction claims with
  | nil => simp
  | cons claim claims induction =>
    intro paths
    rw [List.foldl_cons, induction, lookup_foldl_mounts]
    by_cases named : claim.name = name
    · subst named
      cases lastPath mounts claim.name <;> simp
    · simp [named, Ne.symm named]

end Paths

variable {settings : VolumeSettings} {platform : Platform}

section ConfigVolume

variable {spec : CassandraClusterSpec} {dcName : String} {backRestSidecar : Option BackRestSidecar}
  {claims : List PersistentVolumeClaim}

theorem generateStorageConfigVolumeClaimTemplates_named {storages : List StorageConfig}
    (generated : VolumeSettings.generateStorageConfigVolumeClaimTemplates storages =
      some claims) :
    claims.map PersistentVolumeClaim.name = storages.map StorageConfig.name := by
  induction storages generalizing claims with
  | nil =>
    cases generated
    rfl
  | cons storage storages induction =>
    unfold VolumeSettings.generateStorageConfigVolumeClaimTemplates at generated
    split at generated
    · cases generated
    · obtain ⟨rest, made, rfl⟩ := Option.map_eq_some_iff.mp generated
      rw [List.map_cons, List.map_cons, induction made]

theorem generateVolumeClaimTemplate_names
    (generated : settings.generateVolumeClaimTemplate platform spec dcName = some claims) :
    claims.map PersistentVolumeClaim.name = if spec.getDataCapacityFromDCName dcName = "" then []
      else dataPVCName :: settings.storageConfigs.map StorageConfig.name := by
  unfold VolumeSettings.generateVolumeClaimTemplate at generated
  dsimp only at generated
  split at generated
  · rename_i unset
    cases generated
    rw [if_pos unset]
    rfl
  · rename_i set
    obtain ⟨storages, made, rfl⟩ := Option.map_eq_some_iff.mp generated
    rw [if_neg set, List.map_cons, generateStorageConfigVolumeClaimTemplates_named made]

/-- Storages have claims as soon as there is one for the data. -/
theorem generateVolumeClaimTemplate_storage
    (generated : settings.generateVolumeClaimTemplate platform spec dcName = some claims) :
    claims = [] ∨
      ∀ storage ∈ settings.storageConfigs, ∃ claim ∈ claims, claim.name = storage.name := by
  have names := generateVolumeClaimTemplate_names generated
  split at names
  · exact Or.inl (List.map_eq_nil_iff.mp names)
  · refine Or.inr fun storage member => List.mem_map.mp ?_
    rw [names]
    exact List.mem_cons_of_mem _ (List.mem_map_of_mem member)

theorem containerMounts_cassandra (apart : settings.SidecarsApart) :
    (settings.containerMounts spec backRestSidecar).filter
        (fun container => container.1 == cassandraContainerName) =
      [(cassandraContainerName, generateContainerVolumeMount spec .cassandra ++
        settings.generateStorageConfigVolumesMount)] := by
  have backRest : (Generator.backrestSidecarName == cassandraContainerName) = false := by decide
  have sidecars : (settings.sidecarConfigs.map fun sidecar =>
      (sidecar.container.name, sidecar.volumeMounts)).filter
        (fun container => container.1 == cassandraContainerName) = [] := by
    rw [List.filter_eq_nil_iff]
    intro container listed
    obtain ⟨sidecar, member, rfl⟩ := List.mem_map.mp listed
    simpa using apart.names sidecar member
  unfold VolumeSettings.containerMounts
  rw [List.filter_append, List.filter_append, sidecars]
  split
  · simp [backRest]
  · simp

theorem containerMounts_configVolume (apart : settings.SidecarsApart)
    (mounted : mount ∈ (settings.containerMounts spec backRestSidecar).flatMap Prod.snd)
    (named : mount.name = cassandraConfigMapName) :
    mount ∈ settings.generateStorageConfigVolumesMount := by
  obtain ⟨container, listed, own⟩ := List.mem_flatMap.mp mounted
  unfold VolumeSettings.containerMounts at listed
  rcases List.mem_append.mp listed with front | backRest
  · rcases List.mem_append.mp front with configured | cassandra
    · obtain ⟨sidecar, member, rfl⟩ := List.mem_map.mp configured
      exact absurd named (apart.mounts sidecar member mount own)
    · obtain rfl := List.mem_singleton.mp cassandra
      rcases List.mem_append.mp own with generated | storage
      · exact absurd named (generateContainerVolumeMount_apart spec (by decide) generated)
      · exact storage
  · split at backRest
    · obtain rfl := List.mem_singleton.mp backRest
      rcases List.mem_append.mp own with configured | generated
      · exact absurd named (apart.backRest mount configured)
      · exact absurd named (generateContainerVolumeMount_apart spec (by decide) generated)
    · cases backRest

/-- No mount takes the volume of the config map away. -/
theorem configVolume_stays (apart : settings.SidecarsApart)
    (generated : settings.generateVolumeClaimTemplate platform spec dcName = some claims) :
    cassandraConfigMapName ∉ removeDuplicateVolumeMountsFromContainers
      (settings.containerMounts spec backRestSidecar)
      (volumeClaimMapNameMountPath (settings.containerMounts spec backRestSidecar) claims) := by
  intro removed
  obtain ⟨mount, taken, named⟩ := List.mem_map.mp removed
  obtain ⟨mounted, collides⟩ := List.mem_filter.mp taken
  obtain ⟨claimless, path⟩ := Bool.and_eq_true_iff.mp collides
  have own := containerMounts_configVolume apart mounted named
  unfold volumeClaimMapNameMountPath at claimless path
  rw [containerMounts_cassandra apart] at claimless path
  rcases generateVolumeClaimTemplate_storage generated with rfl | claimed
  · cases path
  · obtain ⟨storage, member, rfl⟩ := List.mem_map.mp own
    have mounts := lastPath_isSome (List.mem_append_right
      (generateContainerVolumeMount spec .cassandra) own)
    rw [lookup_foldl_claims, if_pos (List.mem_map.mpr (claimed storage member)),
      Option.isNone_or, Bool.and_eq_true, ← Option.not_isSome] at claimless
    exact absurd mounts (by simpa using claimless.1)

theorem volumesWoDupes_getD (volumes : List Volume) (volumeToRemove : List String) :
    (volumesWoDupes volumes volumeToRemove).getD [] =
      volumes.filter fun volume => !volumeToRemove.contains volume.name := by
  unfold volumesWoDupes
  dsimp only
  split
  · split
    · rename_i none
      exact (List.isEmpty_iff.mp none).symm
    · rfl
  · rename_i whole
    exact (List.filter_eq_self.mpr (List.length_filter_eq_length_iff.mp (not_not.mp whole))).symm

theorem find?_configVolume (apart : settings.SidecarsApart)
    (generated : settings.generateVolumeClaimTemplate platform spec dcName = some claims) :
    ((removeDuplicateVolumesAndVolumeMounts (settings.containerMounts spec backRestSidecar)
        claims (generateCassandraVolumes spec)).getD []).find?
        (fun volume => volume.name == cassandraConfigMapName) =
      if spec.configMapName = "" then none
      else some { name := cassandraConfigMapName, configMap := some spec.configMapName } := by
  have stays := @configVolume_stays _ _ _ _ backRestSidecar _ apart generated
  unfold removeDuplicateVolumesAndVolumeMounts
  rw [volumesWoDupes_getD]
  generalize removeDuplicateVolumeMountsFromContainers _ _ = removed at stays
  unfold generateCassandraVolumes
  rw [List.filter_append, List.find?_append, List.find?_eq_none.mpr ?others, Option.none_or]
  case others =>
    intro volume member named
    have dirs := (List.mem_filter.mp member).1
    simp only [List.mem_cons, List.not_mem_nil, or_false] at dirs
    rcases dirs with rfl | rfl | rfl | rfl | rfl <;> revert named <;> decide
  by_cases unset : spec.configMapName = ""
  · simp [unset]
  · simp [unset, stays]

end ConfigVolume

theorem configMapHasChanged_eq (spec : CassandraClusterSpec) (sts : StatefulSet) :
    configMapHasChanged spec sts =
      match (sts.spec.template.volumes.getD []).find?
          (fun volume => volume.name == cassandraConfigMapName) with
      | none => spec.configMapName != ""
      | some volume =>
        match volume.configMap with
        | none => false
        | some configMap => configMap != spec.configMapName := by
  unfold configMapHasChanged
  cases sts.spec.template.volumes <;> rfl

/-! ## Reading the StatefulSet back -/

/-- What the detectors need to know of a generated StatefulSet. -/
structure GeneratedFor (platform : Platform) (settings : VolumeSettings) (cc : CassandraCluster)
    (seedList : List String) (names : CompleteRackName) (sts : StatefulSet) : Prop where
  replicas : sts.spec.replicas = cc.spec.getNodesPerRacks names.dcRackName
  claims : settings.generateVolumeClaimTemplate platform cc.spec names.dcName =
    some sts.spec.volumeClaimTemplates
  volumes : ∃ backRestSidecar,
    sts.spec.template.volumes = removeDuplicateVolumesAndVolumeMounts
      (settings.containerMounts cc.spec backRestSidecar) sts.spec.volumeClaimTemplates
      (generateCassandraVolumes cc.spec)
  cassandra : ∃ container ∈ sts.spec.template.containers.getD [],
    container.name = cassandraContainerName
  images : ∀ container ∈ sts.spec.template.containers.getD [],
    container.name = cassandraContainerName → container.image = cc.spec.cassandraImage
  seeds : storedSeedText sts = some (seedListText seedList)

variable {sts : StatefulSet}

section Generated

variable {generator : Generator} {cc : CassandraCluster} {status : CassandraClusterStatus}
  {names : CompleteRackName}

theorem generateContainers_cassandra {dcName : String} {containers : List Container}
    (apart : settings.SidecarsApart)
    (made : (generator.withVolumes platform settings dcName).generateContainers platform cc
      names.dcRackName = some containers) :
    (∃ container ∈ containers, container.name = cassandraContainerName) ∧
      ∀ container ∈ containers, container.name = cassandraContainerName →
        container.image = cc.spec.cassandraImage := by
  unfold Generator.generateContainers at made
  split at made
  · rename_i dc sidecar found enabled
    cases made
    have backRest : Generator.backrestSidecarName ≠ cassandraContainerName := by decide
    constructor
    · exact ⟨_, List.mem_append_left _ (List.mem_append_right _ List.mem_cons_self), rfl⟩
    · intro container member named
      rcases List.mem_append.mp member with front | last
      · rcases List.mem_append.mp front with configured | cassandra
        · obtain ⟨sidecar, listed, rfl⟩ := List.mem_map.mp configured
          exact absurd named (apart.names sidecar listed)
        · obtain rfl := List.mem_singleton.mp cassandra
          rfl
      · split at last
        · obtain rfl := List.mem_singleton.mp last
          exact absurd named backRest
        · cases last
  · cases made

/-- Sidecars get variables; names and images stay. -/
theorem mem_addBootstrapContainerEnvVarsToSidecars {bootstrap container : Container}
    {containers : List Container}
    (member : container ∈
      Generator.addBootstrapContainerEnvVarsToSidecars bootstrap containers) :
    ∃ plain ∈ containers, container.name = plain.name ∧ container.image = plain.image := by
  obtain ⟨plain, listed, rfl⟩ := List.mem_map.mp member
  refine ⟨plain, listed, ?_⟩
  split <;> exact ⟨rfl, rfl⟩

theorem generateCassandraStatefulSet_for (apart : settings.SidecarsApart)
    (generated : generateCassandraStatefulSet
      (platform.generating (generator.withVolumes platform settings names.dcName)) cc status
      names.dcRackName = some sts) :
    GeneratedFor platform settings cc status.seedList names sts := by
  obtain ⟨containers, made, _, _⟩ := generating_containers generated
  obtain ⟨⟨cassandra, listed, named⟩, images⟩ := generateContainers_cassandra apart made
  unfold generateCassandraStatefulSet Platform.generating Generator.generate
    Generator.generateTemplate at generated
  dsimp only at generated
  cases claimed : settings.generateVolumeClaimTemplate platform cc.spec names.dcName with
  | none =>
    have noClaims : (generator.withVolumes platform settings names.dcName).volumeClaimTemplate
        cc names.dcRackName = none := claimed
    rw [noClaims] at generated
    cases generated
  | some claims =>
    have someClaims : (generator.withVolumes platform settings
        names.dcName).volumeClaimTemplate cc names.dcRackName = some claims := claimed
    rw [someClaims, made] at generated
    cases generated
    refine ⟨rfl, claimed, ⟨generator.settings.backRestSidecar, ?_⟩, ?_, ?_, rfl⟩
    · change (settings.generateVolumeClaimTemplate platform cc.spec names.dcName).bind _ = _
      rw [claimed]
      rfl
    · refine ⟨cassandra, ?_, named⟩
      refine List.mem_map.mpr ⟨cassandra, listed, ?_⟩
      rw [if_neg (not_not.mpr named)]
    · intro container member cassandra
      obtain ⟨plain, inside, sameName, sameImage⟩ :=
        mem_addBootstrapContainerEnvVarsToSidecars member
      rw [sameImage]
      exact images plain inside (sameName.symm.trans cassandra)

variable {seedList : List String} (requested : CassandraClusterSpec)

variable (generated : GeneratedFor platform settings cc seedList names sts)

include generated

theorem GeneratedFor.configMapHasChanged_iff (apart : settings.SidecarsApart) :
    configMapHasChanged requested sts = true ↔ requested.configMapName ≠ cc.spec.configMapName := by
  obtain ⟨backRestSidecar, volumes⟩ := generated.volumes
  rw [configMapHasChanged_eq, volumes, find?_configVolume apart generated.claims]
  by_cases unset : cc.spec.configMapName = ""
  · simp [unset]
  · rw [if_neg unset]
    simpa using ne_comm

theorem GeneratedFor.dockerImageHasChanged_iff :
    dockerImageHasChanged requested sts = true ↔
      requested.cassandraImage ≠ cc.spec.cassandraImage := by
  unfold dockerImageHasChanged
  rw [List.any_eq_true]
  constructor
  · rintro ⟨container, member, differs⟩
    simp only [Bool.and_eq_true, beq_iff_eq, bne_iff_ne] at differs
    rw [← generated.images container member differs.1]
    exact differs.2
  · intro differs
    obtain ⟨container, member, named⟩ := generated.cassandra
    refine ⟨container, member, ?_⟩
    rw [generated.images container member named]
    simp [named, differs]

theorem GeneratedFor.dataCapacity_eq (empty : platform.parseQuantity "" = .zero) :
    dataCapacity sts.spec.volumeClaimTemplates =
      platform.parseQuantity (cc.spec.getDataCapacityFromDCName names.dcName) := by
  have claims := generated.claims
  unfold VolumeSettings.generateVolumeClaimTemplate at claims
  dsimp only at claims
  split at claims
  · rename_i unset
    rw [unset, empty, ← Option.some.inj claims]
    rfl
  · obtain ⟨storages, _, built⟩ := Option.map_eq_some_iff.mp claims
    rw [← built]
    simp [dataCapacity, findDataCapacity, List.findIdx?_cons]

theorem GeneratedFor.shouldStorageUpsizeBeStarted_iff (empty : platform.parseQuantity "" = .zero) :
    shouldStorageUpsizeBeStarted platform requested names.dcName sts = true ↔
      (platform.parseQuantity (requested.getDataCapacityFromDCName names.dcName)).value ≠
        (platform.parseQuantity (cc.spec.getDataCapacityFromDCName names.dcName)).value := by
  unfold shouldStorageUpsizeBeStarted Quantity.equal
  rw [generated.dataCapacity_eq empty]
  simp

theorem GeneratedFor.updateStatusIfScaling_isSome_iff (now : Nat) (rack : CassandraRackStatus) :
    (updateStatusIfScaling now requested names.dcRackName sts rack).isSome = true ↔
      requested.getNodesPerRacks names.dcRackName ≠
        cc.spec.getNodesPerRacks names.dcRackName := by
  rw [← generated.replicas]
  unfold updateStatusIfScaling
  dsimp only
  split
  · rename_i same
    simp [same]
  · rename_i differs
    split <;> simp [differs]

end Generated

/-! ## The detectors -/

inductive Detector where
  | configMap
  | dockerImage
  | storageUpsize
  | scaling
  | seedList
  deriving DecidableEq, Repr

/-- In the order of `getNextCassandraClusterStatus`. -/
def detectors : List Detector := [.configMap, .dockerImage, .storageUpsize, .scaling, .seedList]

theorem detectors_split {detector : Detector} (spec : detector ≠ .seedList) :
    ∃ before after, detectors = before ++ detector :: after ∧ detector ∉ before ∧
      Detector.seedList ∉ before := by
  cases detector with
  | configMap => exact ⟨[], _, rfl, by decide, by decide⟩
  | dockerImage => exact ⟨[.configMap], _, rfl, by decide, by decide⟩
  | storageUpsize => exact ⟨[.configMap, .dockerImage], _, rfl, by decide, by decide⟩
  | scaling => exact ⟨[.configMap, .dockerImage, .storageUpsize], _, rfl, by decide, by decide⟩
  | seedList => exact absurd rfl spec

section Detect

variable (platform : Platform) (now : Nat) (cc : CassandraCluster) (names : CompleteRackName)
  (sts : StatefulSet) (seedList : List String) (rack : CassandraRackStatus)

/-- The status that the detector reports. -/
def Detector.detect : Detector → Option CassandraRackStatus
  | .configMap => updateStatusIfconfigMapHasChanged cc.spec sts rack
  | .dockerImage => updateStatusIfDockerImageHasChanged cc.spec sts rack
  | .storageUpsize => updateStatusIfStorageUpsize platform now cc.spec names.dcName sts rack
  | .scaling => updateStatusIfScaling now cc.spec names.dcRackName sts rack
  | .seedList => updateStatusIfSeedListHasChanged sts (nextSeedList cc sts seedList) rack

def firstToFire : Option Detector :=
  detectors.find? fun detector =>
    (detector.detect platform now cc names sts seedList rack).isSome

end Detect

/-- The new action is the one of the first detector that fires. -/
theorem detectNewAction_first {now : Nat} {pass : Pass} {dc rack : Nat}
    {rackStatus changed : CassandraRackStatus} {detector : Detector}
    (first : firstToFire platform now pass.cc (pass.cc.spec.completeRackName dc rack) sts
      pass.status.seedList rackStatus = some detector)
    (detects : detector.detect platform now pass.cc (pass.cc.spec.completeRackName dc rack) sts
      pass.status.seedList rackStatus = some changed) :
    (detectNewAction platform now pass dc rack sts rackStatus).rack = changed := by
  unfold firstToFire detectors at first
  unfold detectNewAction
  dsimp only
  -- At each detector that fires, `first` says which one it is.
  cases configMap : updateStatusIfconfigMapHasChanged pass.cc.spec sts rackStatus with
  | some found =>
    rw [List.find?_cons_of_pos (by simp [Detector.detect, configMap])] at first
    cases first
    exact Option.some.inj (configMap.symm.trans detects)
  | none =>
  rw [List.find?_cons_of_neg (by simp [Detector.detect, configMap])] at first
  cases image : updateStatusIfDockerImageHasChanged pass.cc.spec sts rackStatus with
  | some found =>
    rw [List.find?_cons_of_pos (by simp [Detector.detect, image])] at first
    cases first
    exact Option.some.inj (image.symm.trans detects)
  | none =>
  rw [List.find?_cons_of_neg (by simp [Detector.detect, image])] at first
  cases upsize : updateStatusIfStorageUpsize platform now pass.cc.spec
      (pass.cc.spec.completeRackName dc rack).dcName sts rackStatus with
  | some found =>
    rw [List.find?_cons_of_pos (by simp [Detector.detect, upsize])] at first
    cases first
    exact Option.some.inj (upsize.symm.trans detects)
  | none =>
  rw [List.find?_cons_of_neg (by simp [Detector.detect, upsize])] at first
  cases scaling : updateStatusIfScaling now pass.cc.spec
      (pass.cc.spec.completeRackName dc rack).dcRackName sts rackStatus with
  | some found =>
    rw [List.find?_cons_of_pos (by simp [Detector.detect, scaling])] at first
    cases first
    exact Option.some.inj (scaling.symm.trans detects)
  | none =>
  rw [List.find?_cons_of_neg (by simp [Detector.detect, scaling])] at first
  obtain rfl := List.mem_singleton.mp (List.mem_of_find?_eq_some first)
  have seeds : updateStatusIfSeedListHasChanged sts
      (nextSeedList pass.cc sts pass.status.seedList) rackStatus = some changed := detects
  dsimp only
  rw [seeds]

/-- The part of the spec that the detector is there for differs.  Seeds are not in the spec. -/
def Detector.Changed (platform : Platform) (names : CompleteRackName)
    (spec requested : CassandraClusterSpec) : Detector → Prop
  | .configMap => requested.configMapName ≠ spec.configMapName
  | .dockerImage => requested.cassandraImage ≠ spec.cassandraImage
  | .storageUpsize =>
    (platform.parseQuantity (requested.getDataCapacityFromDCName names.dcName)).value ≠
      (platform.parseQuantity (spec.getDataCapacityFromDCName names.dcName)).value
  | .scaling => requested.getNodesPerRacks names.dcRackName ≠ spec.getNodesPerRacks names.dcRackName
  | .seedList => False

/-- One part of the spec differs, and no other that a detector is there for. -/
structure Detector.ChangedAlone (platform : Platform) (names : CompleteRackName)
    (spec requested : CassandraClusterSpec) (detector : Detector) : Prop where
  here : detector.Changed platform names spec requested
  alone : ∀ other ≠ detector, ¬ other.Changed platform names spec requested

section Agreement

variable {cc : CassandraCluster} {names : CompleteRackName} {seedList : List String}

/-- But for the seeds, a detector fires exactly when its part of the spec differs. -/
theorem GeneratedFor.detect_isSome_iff
    (generated : GeneratedFor platform settings cc seedList names sts)
    (apart : settings.SidecarsApart) (empty : platform.parseQuantity "" = .zero) (now : Nat)
    (requested : CassandraClusterSpec) (rack : CassandraRackStatus) {detector : Detector}
    (spec : detector ≠ .seedList) :
    (detector.detect platform now { cc with spec := requested } names sts seedList
        rack).isSome = true ↔
      detector.Changed platform names cc.spec requested := by
  cases detector with
  | configMap =>
    have fires : _ ↔ Detector.Changed platform names cc.spec requested .configMap :=
      generated.configMapHasChanged_iff requested apart
    rw [← fires, Detector.detect, updateStatusIfconfigMapHasChanged, Option.isSome_ite]
  | dockerImage =>
    have fires : _ ↔ Detector.Changed platform names cc.spec requested .dockerImage :=
      generated.dockerImageHasChanged_iff requested
    rw [← fires, Detector.detect, updateStatusIfDockerImageHasChanged, Option.isSome_ite]
  | storageUpsize =>
    have fires : _ ↔ Detector.Changed platform names cc.spec requested .storageUpsize :=
      generated.shouldStorageUpsizeBeStarted_iff requested empty
    rw [← fires, Detector.detect, updateStatusIfStorageUpsize, Option.isSome_ite]
  | scaling => exact generated.updateStatusIfScaling_isSome_iff requested now rack
  | seedList => exact absurd rfl spec

/-- Seeds that are those of the topology, if these are followed, are left alone. -/
theorem GeneratedFor.detect_seedList
    (generated : GeneratedFor platform settings cc seedList names sts) (nonempty : seedList ≠ [])
    (commaFree : ∀ seed ∈ seedList, ',' ∉ seed.toList)
    (followed : cc.spec.autoUpdateSeedList = true →
      seedList.Perm (initSeedList cc.metadata cc.spec)) (now : Nat)
    (rack : CassandraRackStatus) :
    Detector.detect platform now cc names sts seedList rack .seedList = none := by
  have stored := getStoredSeedList_of_text generated.seeds nonempty commaFree
  have kept : nextSeedList cc sts seedList = seedList := by
    unfold nextSeedList
    rw [stored]
    dsimp only
    cases auto : cc.spec.autoUpdateSeedList with
    | false => rfl
    | true =>
      have same := followed auto
      have forth := @SliceDiff.missingFrom_eq_nil _ _ _ 0 _ same.subperm
      have back := @SliceDiff.missingFrom_eq_nil _ _ _ 0 _ same.symm.subperm
      simp [SliceDiff.missing, forth, back]
  simp [Detector.detect, updateStatusIfSeedListHasChanged, kept, stored]

end Agreement

/-- On the StatefulSet that was generated for the rack no detector fires, and after a change of
one part of the spec the first one to fire is the one for that part. -/
theorem detectors_agree (platform : Platform) (generator : Generator)
    (settings : VolumeSettings) (cc : CassandraCluster) (status : CassandraClusterStatus)
    (names : CompleteRackName) (sts : StatefulSet)
    (empty : platform.parseQuantity "" = .zero) (apart : settings.SidecarsApart)
    (nonempty : status.seedList ≠ []) (commaFree : ∀ seed ∈ status.seedList, ',' ∉ seed.toList)
    (followed : cc.spec.autoUpdateSeedList = true →
      status.seedList.Perm (initSeedList cc.metadata cc.spec))
    (generated : generateCassandraStatefulSet
      (platform.generating (generator.withVolumes platform settings names.dcName)) cc status
      names.dcRackName = some sts) (now : Nat) (rack : CassandraRackStatus) :
    (∀ detector : Detector,
        detector.detect platform now cc names sts status.seedList rack = none) ∧
      ∀ (requested : CassandraClusterSpec) (detector : Detector),
        detector.ChangedAlone platform names cc.spec requested →
          firstToFire platform now { cc with spec := requested } names sts status.seedList rack =
            some detector := by
  have reads := generateCassandraStatefulSet_for apart generated
  have fires := reads.detect_isSome_iff apart empty now
  constructor
  · intro detector
    by_cases seeds : detector = .seedList
    · rw [seeds]
      exact reads.detect_seedList nonempty commaFree followed now rack
    · have quiet := fires cc.spec rack seeds
      rw [← Option.not_isSome_iff_eq_none, quiet]
      cases detector <;> simp [Detector.Changed] at seeds ⊢
  · intro requested detector changed
    have spec : detector ≠ .seedList := by
      rintro rfl
      exact changed.here
    have here := (fires requested rack spec).mpr changed.here
    have quiet : ∀ other ≠ detector, other ≠ .seedList →
        ¬ (other.detect platform now { cc with spec := requested } names sts status.seedList
          rack).isSome = true := by
      intro other differs inSpec
      rw [fires requested rack inSpec]
      exact changed.alone other differs
    obtain ⟨before, after, order, notBefore, notSeeds⟩ := detectors_split spec
    refine List.find?_eq_some_iff_append.mpr ⟨here, before, after, order, fun other earlier => ?_⟩
    have differs : other ≠ detector := fun same => notBefore (same ▸ earlier)
    have inSpec : other ≠ .seedList := fun same => notSeeds (same ▸ earlier)
    simpa using quiet other differs inSpec

/-- A cluster with a config map that follows the seeds of its topology. -/
def watchedCluster : CassandraCluster :=
  { metadata := { name := "demo", ns := "default" }
    spec :=
      { nodesPerRacks := 2
        cassandraImage := "cassandra:4"
        configMapName := "settings"
        dataCapacity := "10Gi"
        autoUpdateSeedList := true
        topology := { dc := [{ name := "dc1", rack := [{ name := "rack1" }] }] } } }

/-- A sidecar reads the data through its own volume, and there is a storage for backups. -/
def watchedSettings : VolumeSettings :=
  { sidecarConfigs :=
      [{ container := { name := "tail" }
         volumeMounts := [{ name := "log", mountPath := "/var/lib/cassandra" }] }]
    storageConfigs := [{ name := "backups", mountPath := "/backups", pvcSpec := some {} }] }

def tenPlatform : Platform :=
  { demoPlatform with
    parseQuantity := fun text => if text = "" then .zero else { value := 10 } }

theorem watchedCluster_detected :
    let status : CassandraClusterStatus :=
      { seedList := initSeedList watchedCluster.metadata watchedCluster.spec }
    let names := watchedCluster.spec.completeRackName 0 0
    ∃ sts,
      generateCassandraStatefulSet
        (tenPlatform.generating (seedGenerator.withVolumes tenPlatform watchedSettings
          names.dcName)) watchedCluster status names.dcRackName = some sts ∧
      (∀ detector : Detector,
        detector.detect tenPlatform 100 watchedCluster names sts status.seedList {} = none) ∧
      firstToFire tenPlatform 100
          { watchedCluster with
            spec := { watchedCluster.spec with configMapName := "" } } names sts status.seedList
          {} = some .configMap := by
  have apart : watchedSettings.SidecarsApart := by
    constructor <;> decide
  obtain ⟨quiet, fires⟩ := detectors_agree tenPlatform seedGenerator watchedSettings
    watchedCluster { seedList := initSeedList watchedCluster.metadata watchedCluster.spec }
    (watchedCluster.spec.completeRackName 0 0) _ rfl apart (by decide +kernel)
    (by decide +kernel) (fun _ => List.Perm.refl _) rfl 100 {}
  refine ⟨_, rfl, quiet, fires { watchedCluster.spec with configMapName := "" } .configMap ?_⟩
  refine ⟨by simp [Detector.Changed, watchedCluster], fun other differs => ?_⟩
  cases other with
  | configMap => exact absurd rfl differs
  | dockerImage => exact fun changed => changed rfl
  | storageUpsize => exact fun changed => changed rfl
  | scaling => exact fun changed => changed rfl
  | seedList => exact id

end Casskop
