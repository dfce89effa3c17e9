import Casskop.Controller.Detectors

/-!
# Mounts of the generated pods

Where a claim is mounted at the path of another volume, `RemoveDuplicateVolumesAndVolumeMounts`
takes that volume away for all containers.  It drops the mount from the Cassandra container.
In other containers it renames the mount, in a list that is thrown away because its length has
not changed.
-/

namespace Casskop

/-- The mount is not one of a claim, and stands at the path of one. -/
def yields (paths : GoMap String) (mount : VolumeMount) : Bool :=
  (paths.lookup mount.name).isNone && paths.any fun _ path => path == mount.mountPath

/-- The mounts collected for a container; `key` is the claim that the search in the map comes
to first. -/
def newVolumesMounts (key : VolumeMount → String) (paths : GoMap String)
    (container : String × List VolumeMount) : List VolumeMount :=
  container.2.filterMap fun mount =>
    if (paths.lookup mount.name).isSome then some mount
    else if paths.any fun _ path => path == mount.mountPath then
      if container.1 ≠ cassandraContainerName then some { mount with name := key mount }
      else none
    else some mount

/-- The container that `removeDuplicateVolumeMountsFromContainers` leaves. -/
def deduplicated (key : VolumeMount → String) (paths : GoMap String)
    (container : String × List VolumeMount) : String × List VolumeMount :=
  if (newVolumesMounts key paths container).length ≠ container.2.length then
    (container.1, newVolumesMounts key paths container)
  else container

/-- Mounts of the last container of that name. -/
def lastNamed (name : String) (containers : List (String × List VolumeMount)) :
    List VolumeMount :=
  (((containers.filter fun container => container.1 == name).getLast?).map Prod.snd).getD []

/-- Volumes and mounts of a pod template, and the claims beside it. -/
structure PodVolumes where
  initContainers : List (List VolumeMount)
  containers : List (String × List VolumeMount)
  volumes : List Volume
  claims : List PersistentVolumeClaim

/-- The volumes and mounts of `generateCassandraStatefulSet` for its claims. -/
def VolumeSettings.podWith (settings : VolumeSettings) (key : VolumeMount → String)
    (spec : CassandraClusterSpec) (backRestSidecar : Option BackRestSidecar)
    (claims : List PersistentVolumeClaim) : PodVolumes :=
  let containers := settings.containerMounts spec backRestSidecar
  { initContainers :=
      [generateContainerVolumeMount spec .init, generateContainerVolumeMount spec .init,
        generateContainerVolumeMount spec .bootstrap]
    containers := containers.map (deduplicated key (volumeClaimMapNameMountPath containers claims))
    volumes := (removeDuplicateVolumesAndVolumeMounts containers claims
      (generateCassandraVolumes spec)).getD []
    claims := claims }

/-- `none` is the error of a storage without PVC spec. -/
def VolumeSettings.podVolumes (settings : VolumeSettings) (key : VolumeMount → String)
    (platform : Platform) (spec : CassandraClusterSpec) (dcName : String)
    (backRestSidecar : Option BackRestSidecar) : Option PodVolumes :=
  (settings.generateVolumeClaimTemplate platform spec dcName).map
    (settings.podWith key spec backRestSidecar)

namespace PodVolumes

def mountLists (pod : PodVolumes) : List (List VolumeMount) :=
  pod.initContainers ++ pod.containers.map Prod.snd

def cassandraMounts (pod : PodVolumes) : List VolumeMount :=
  lastNamed cassandraContainerName pod.containers

def IsClaim (pod : PodVolumes) (name : String) : Prop := ∃ claim ∈ pod.claims, claim.name = name

instance (pod : PodVolumes) (name : String) : Decidable (pod.IsClaim name) :=
  inferInstanceAs (Decidable (∃ claim ∈ pod.claims, claim.name = name))

/-- No mount dangles or clashes, and where the Cassandra container mounts a claim everybody
does. -/
structure Clean (pod : PodVolumes) : Prop where
  named : ∀ mounts ∈ pod.mountLists, ∀ mount ∈ mounts,
    (∃ volume ∈ pod.volumes, volume.name = mount.name) ∨ pod.IsClaim mount.name
  distinct : ∀ mounts ∈ pod.mountLists, (mounts.map VolumeMount.mountPath).Nodup
  served : ∀ provided ∈ pod.cassandraMounts, pod.IsClaim provided.name →
    ∀ mounts ∈ pod.mountLists, ∀ mount ∈ mounts,
      mount.mountPath = provided.mountPath → mount.name = provided.name

end PodVolumes

variable {mount : VolumeMount}

section Deduplication

variable {key : VolumeMount → String} {paths : GoMap String}

/-- The mount is left to a container of that name. -/
def stays (paths : GoMap String) (container : String) (mount : VolumeMount) : Bool :=
  container != cassandraContainerName || !yields paths mount

theorem any_eq_true_iff (accepts : String → String → Bool) :
    paths.any accepts = true ↔ ∃ name path, paths.lookup name = some path ∧
      accepts name path = true := by
  induction paths using Finmap.induction_on with
  | _ entries =>
    have folded : ∀ (pairs : List (Sigma fun _ : String => String)) (found : Bool),
        pairs.foldl (fun found pair => found || accepts pair.1 pair.2) found =
          (found || pairs.any fun pair => accepts pair.1 pair.2) := by
      intro pairs
      induction pairs with
      | nil => simp
      | cons pair pairs induction =>
        intro found
        rw [List.foldl_cons, induction, List.any_cons, Bool.or_assoc]
    have listed : (Finmap.any accepts entries.toFinmap) =
        entries.entries.any fun pair => accepts pair.1 pair.2 := by
      refine (folded entries.entries false).trans ?_
      rw [Bool.false_or]
    rw [listed, List.any_eq_true]
    constructor
    · rintro ⟨⟨name, path⟩, member, accepted⟩
      exact ⟨name, path, AList.mem_lookup_iff.mpr member, accepted⟩
    · rintro ⟨name, path, found, accepted⟩
      exact ⟨⟨name, path⟩, AList.mem_lookup_iff.mp found, accepted⟩

theorem yields_iff :
    yields paths mount = true ↔ paths.lookup mount.name = none ∧
      ∃ name, paths.lookup name = some mount.mountPath := by
  unfold yields
  rw [Bool.and_eq_true, any_eq_true_iff, Option.isNone_iff_eq_none]
  simp

/-- Only containers named after Cassandra lose mounts, and no mount changes. -/
theorem deduplicated_eq (container : String × List VolumeMount) :
    deduplicated key paths container =
      (container.1, container.2.filter (stays paths container.1)) := by
  obtain ⟨name, mounts⟩ := container
  unfold deduplicated
  by_cases cassandra : name = cassandraContainerName
  · have dropped : newVolumesMounts key paths (name, mounts) =
        mounts.filter (stays paths name) := by
      rw [← List.filterMap_eq_filter]
      unfold newVolumesMounts
      refine List.filterMap_congr fun mount _ => ?_
      cases found : paths.lookup mount.name <;>
        cases taken : paths.any (fun _ path => path == mount.mountPath) <;>
        simp [stays, yields, cassandra, Option.guard, found, taken]
    rw [dropped]
    split
    · rfl
    · rename_i whole
      rw [List.filter_eq_self.mpr (List.length_filter_eq_length_iff.mp (not_not.mp whole))]
  · have everything : mounts.filter (stays paths name) = mounts := by
      refine List.filter_eq_self.mpr fun mount _ => ?_
      simp [stays, cassandra]
    have renamed : (newVolumesMounts key paths (name, mounts)).length = mounts.length := by
      unfold newVolumesMounts
      rw [List.filterMap_length_eq_length]
      intro mount _
      grind
    rw [if_neg (not_not.mpr renamed), everything]

theorem lastNamed_deduplicated (name : String) (containers : List (String × List VolumeMount)) :
    lastNamed name (containers.map (deduplicated key paths)) =
      (lastNamed name containers).filter (stays paths name) := by
  have named : (fun container : String × List VolumeMount => container.1 == name) ∘
      deduplicated key paths = fun container => container.1 == name := by
    funext container
    rw [Function.comp_apply, deduplicated_eq]
  unfold lastNamed
  rw [List.filter_map, named, List.getLast?_map]
  cases last : (containers.filter fun container => container.1 == name).getLast? with
  | none => rfl
  | some container =>
    have same : container.1 = name := by
      have member := List.mem_of_getLast? last
      simpa using (List.mem_filter.mp member).2
    simp [deduplicated_eq, same]

end Deduplication

/-! ## What the settings say -/

variable {settings : VolumeSettings} {platform : Platform} {spec : CassandraClusterSpec}
  {dcName : String} {backRestSidecar : Option BackRestSidecar}

section Settings

variable {claims : List PersistentVolumeClaim}

theorem lookup_volumeClaimMapNameMountPath (containers : List (String × List VolumeMount))
    (claims : List PersistentVolumeClaim) (name : String) :
    (volumeClaimMapNameMountPath containers claims).lookup name =
      if name ∈ claims.map PersistentVolumeClaim.name then
        lastPath (lastNamed cassandraContainerName containers) name
      else none := by
  refine (lookup_foldl_claims _ name claims ∅).trans ?_
  rw [Finmap.lookup_empty, Option.or_none]
  rfl

theorem lastNamed_cassandra :
    lastNamed cassandraContainerName (settings.containerMounts spec backRestSidecar) =
      generateContainerVolumeMount spec .cassandra ++
        settings.generateStorageConfigVolumesMount := by
  have backRest : (Generator.backrestSidecarName == cassandraContainerName) = false := by decide
  unfold lastNamed VolumeSettings.containerMounts
  split <;> simp [backRest]

/-- The operator mounts volumes it generates, and the data if it has a capacity. -/
theorem generateContainerVolumeMount_named {ct : ContainerType}
    (mounted : mount ∈ generateContainerVolumeMount spec ct) :
    mount.name ∈ (generateCassandraVolumes spec).map Volume.name ∨
      mount.name = dataPVCName ∧ spec.dataCapacity ≠ "" := by
  unfold generateContainerVolumeMount at mounted
  unfold generateCassandraVolumes emptyDir
  cases ct <;> simp at mounted ⊢ <;> grind

theorem generateContainerVolumeMount_distinct (spec : CassandraClusterSpec) (ct : ContainerType) :
    ((generateContainerVolumeMount spec ct).map VolumeMount.mountPath).Nodup := by
  unfold generateContainerVolumeMount
  by_cases configMap : spec.configMapName = "" <;> by_cases capacity : spec.dataCapacity = "" <;>
    cases ct <;> simp [configMap, capacity]

theorem getDataCapacityFromDCName_ne (dcName : String) (set : spec.dataCapacity ≠ "") :
    spec.getDataCapacityFromDCName dcName ≠ "" := by
  unfold CassandraClusterSpec.getDataCapacityFromDCName
  split
  · split <;> simp_all
  · exact set

theorem yields_empty (mount : VolumeMount) : yields ∅ mount = false := by
  rw [← Bool.not_eq_true, yields_iff]
  rintro ⟨_, name, found⟩
  rw [Finmap.lookup_empty] at found
  cases found

/-- A claim that the Cassandra container mounts does not give way. -/
theorem yields_of_claimed (claimed : mount.name ∈ claims.map PersistentVolumeClaim.name)
    (mounted : mount ∈ generateContainerVolumeMount spec .cassandra ++
      settings.generateStorageConfigVolumesMount) :
    yields (volumeClaimMapNameMountPath (settings.containerMounts spec backRestSidecar) claims)
      mount = false := by
  rw [← Bool.not_eq_true, yields_iff, lookup_volumeClaimMapNameMountPath, if_pos claimed,
    lastNamed_cassandra]
  rintro ⟨none, _⟩
  have some := lastPath_isSome mounted
  rw [none] at some
  cases some

theorem stays_elsewhere {paths : GoMap String} {container : String}
    (other : container ≠ cassandraContainerName) (mount : VolumeMount) :
    stays paths container mount = true := by
  simp [stays, other]

end Settings

theorem GeneratedFor.podVolumes {cc : CassandraCluster} {seedList : List String}
    {names : CompleteRackName} {sts : StatefulSet}
    (generated : GeneratedFor platform settings cc seedList names sts)
    (key : VolumeMount → String) :
    ∃ backRestSidecar pod,
      settings.podVolumes key platform cc.spec names.dcName backRestSidecar = some pod ∧
      pod.claims = sts.spec.volumeClaimTemplates ∧
      pod.volumes = sts.spec.template.volumes.getD [] := by
  obtain ⟨backRestSidecar, volumes⟩ := generated.volumes
  refine ⟨backRestSidecar, settings.podWith key cc.spec backRestSidecar
    sts.spec.volumeClaimTemplates, ?_, rfl, ?_⟩
  · unfold VolumeSettings.podVolumes
    rw [generated.claims]
    rfl
  · rw [volumes]
    rfl

/-! ## The mount of the data -/

def dataMount : VolumeMount := { name := dataPVCName, mountPath := "/var/lib/cassandra" }

def backRestEnabled (backRestSidecar : Option BackRestSidecar) : Bool :=
  backRestSidecar.any fun sidecar => sidecar.enabled.getD true

/-- The Cassandra container and the backup sidecar mount the data exactly if there is a claim
for it, and there is one exactly if the DC has a capacity. -/
structure PodVolumes.DataMounted (pod : PodVolumes) (enabled : Bool) (dataCapacity : String) :
    Prop where
  cassandra : dataMount ∈ pod.cassandraMounts ↔ pod.IsClaim dataPVCName
  backRest : enabled = true →
    (dataMount ∈ lastNamed Generator.backrestSidecarName pod.containers ↔
      pod.IsClaim dataPVCName)
  claim : pod.IsClaim dataPVCName ↔ dataCapacity ≠ ""

variable {key : VolumeMount → String}

section DataMount

variable {pod : PodVolumes}

theorem dataMount_mem_generated {ct : ContainerType} (started : ct = .cassandra ∨ ct = .backrest) :
    dataMount ∈ generateContainerVolumeMount spec ct ↔ spec.dataCapacity ≠ "" := by
  unfold generateContainerVolumeMount dataMount
  by_cases capacity : spec.dataCapacity = "" <;>
    rcases started with rfl | rfl <;> simp [capacity, dataPVCName]

theorem lastNamed_backRest (enabled : backRestEnabled backRestSidecar = true) :
    lastNamed Generator.backrestSidecarName (settings.containerMounts spec backRestSidecar) =
      settings.backRestVolumeMounts ++ generateContainerVolumeMount spec .backrest := by
  have sidecar : (backRestSidecar.any fun sidecar => sidecar.enabled.getD true) = true := enabled
  unfold lastNamed VolumeSettings.containerMounts
  rw [if_pos sidecar, List.filter_append, List.getLast?_append]
  simp

theorem podVolumes_isClaim_data
    (generated : settings.podVolumes key platform spec dcName backRestSidecar = some pod) :
    pod.IsClaim dataPVCName ↔ spec.getDataCapacityFromDCName dcName ≠ "" := by
  obtain ⟨claims, made, rfl⟩ := Option.map_eq_some_iff.mp generated
  have names := generateVolumeClaimTemplate_names made
  have claimed : (∃ claim ∈ claims, claim.name = dataPVCName) ↔
      dataPVCName ∈ claims.map PersistentVolumeClaim.name := List.mem_map.symm
  change (∃ claim ∈ claims, claim.name = dataPVCName) ↔ _
  rw [claimed, names]
  split <;> simp_all

theorem podVolumes_cassandra_data
    (generated : settings.podVolumes key platform spec dcName backRestSidecar = some pod) :
    dataMount ∈ pod.cassandraMounts ↔
      spec.dataCapacity ≠ "" ∨ dataMount ∈ settings.generateStorageConfigVolumesMount := by
  obtain ⟨claims, made, rfl⟩ := Option.map_eq_some_iff.mp generated
  have names := generateVolumeClaimTemplate_names made
  unfold PodVolumes.cassandraMounts VolumeSettings.podWith
  dsimp only
  rw [lastNamed_deduplicated, lastNamed_cassandra, List.mem_filter, List.mem_append,
    dataMount_mem_generated (.inl rfl)]
  refine and_iff_left_of_imp fun mounted => ?_
  unfold stays
  rw [Bool.or_eq_true]
  refine .inr (Bool.not_eq_true' _ ▸ ?_)
  by_cases capacity : spec.getDataCapacityFromDCName dcName = ""
  · rw [if_pos capacity] at names
    rw [List.map_eq_nil_iff.mp names]
    exact yields_empty dataMount
  · rw [if_neg capacity] at names
    refine yields_of_claimed (by rw [names]; exact List.mem_cons_self) ?_
    rw [List.mem_append, dataMount_mem_generated (.inl rfl)]
    exact mounted

theorem podVolumes_backRest_data (enabled : backRestEnabled backRestSidecar = true)
    (generated : settings.podVolumes key platform spec dcName backRestSidecar = some pod) :
    dataMount ∈ lastNamed Generator.backrestSidecarName pod.containers ↔
      spec.dataCapacity ≠ "" ∨ dataMount ∈ settings.backRestVolumeMounts := by
  obtain ⟨claims, made, rfl⟩ := Option.map_eq_some_iff.mp generated
  have other : Generator.backrestSidecarName ≠ cassandraContainerName := by decide
  unfold VolumeSettings.podWith
  dsimp only
  rw [lastNamed_deduplicated, List.filter_eq_self.mpr fun mount _ => stays_elsewhere other mount,
    lastNamed_backRest enabled, List.mem_append, dataMount_mem_generated (.inr rfl), or_comm]

end DataMount

/-- The data is mounted where it is claimed if and only if the capacity that decides about the
mount, that of the cluster, is set whenever the DC has one.  A mount of that name and path
among the storages or those of the backup sidecar counts as well. -/
theorem podVolumes_dataMounted_iff (settings : VolumeSettings) (key : VolumeMount → String)
    (platform : Platform) (spec : CassandraClusterSpec) (dcName : String)
    (backRestSidecar : Option BackRestSidecar) (pod : PodVolumes)
    (generated : settings.podVolumes key platform spec dcName backRestSidecar = some pod) :
    pod.DataMounted (backRestEnabled backRestSidecar) (spec.getDataCapacityFromDCName dcName) ↔
      (spec.dataCapacity ≠ "" ∨ dataMount ∈ settings.generateStorageConfigVolumesMount ↔
        spec.getDataCapacityFromDCName dcName ≠ "") ∧
      (backRestEnabled backRestSidecar = true →
        (spec.dataCapacity ≠ "" ∨ dataMount ∈ settings.backRestVolumeMounts ↔
          spec.getDataCapacityFromDCName dcName ≠ "")) := by
  have claim := podVolumes_isClaim_data generated
  have cassandra := podVolumes_cassandra_data generated
  constructor
  · intro mounted
    refine ⟨?_, fun enabled => ?_⟩
    · rw [← cassandra, ← claim]
      exact mounted.cassandra
    · rw [← podVolumes_backRest_data enabled generated, ← claim]
      exact mounted.backRest enabled
  · rintro ⟨storage, own⟩
    refine ⟨?_, fun enabled => ?_, claim⟩
    · rw [cassandra, claim]
      exact storage
    · rw [podVolumes_backRest_data enabled generated, claim]
      exact own enabled

def sharedCapacity : CassandraClusterSpec :=
  { dataCapacity := "10Gi"
    topology := { dc := [{ name := "dc1", rack := [{ name := "rack1" }] }] } }

def ownCapacity : CassandraClusterSpec :=
  { topology :=
      { dc := [{ name := "dc1", rack := [{ name := "rack1" }], dataCapacity := "10Gi" }] } }

theorem sharedCapacity_dataMounted :
    ∃ pod, ({} : VolumeSettings).podVolumes VolumeMount.name tenPlatform sharedCapacity "dc1"
        (some {}) = some pod ∧ pod.DataMounted true "10Gi" := by
  refine ⟨_, rfl, ?_⟩
  exact (podVolumes_dataMounted_iff {} VolumeMount.name tenPlatform sharedCapacity "dc1"
    (some {}) _ rfl).mpr (by decide +kernel)

/-- The claim is made and nobody mounts it. -/
theorem ownCapacity_not_mounted :
    ∃ pod, ({} : VolumeSettings).podVolumes VolumeMount.name tenPlatform ownCapacity "dc1"
        (some {}) = some pod ∧
      pod.IsClaim dataPVCName ∧ dataMount ∉ pod.cassandraMounts ∧
      dataMount ∉ lastNamed Generator.backrestSidecarName pod.containers ∧
      ¬ pod.DataMounted true (ownCapacity.getDataCapacityFromDCName "dc1") := by
  refine ⟨_, rfl, ?_⟩
  have claimed := (podVolumes_isClaim_data (@rfl _ (({} : VolumeSettings).podVolumes
    VolumeMount.name tenPlatform ownCapacity "dc1" (some {})))).mpr (by decide +kernel)
  refine ⟨claimed, by decide +kernel, by decide +kernel, fun mounted => ?_⟩
  exact absurd (mounted.cassandra.mpr claimed) (by decide +kernel)

/-! ## Dangling and clashing mounts -/

namespace VolumeSettings

variable (settings : VolumeSettings) (spec : CassandraClusterSpec) (dcName : String)
  (backRestSidecar : Option BackRestSidecar) (claims : List PersistentVolumeClaim)

/-- Mounts that the user gives to sidecars. -/
def sidecarMounts : List (List VolumeMount) :=
  settings.sidecarConfigs.map Sidecar.volumeMounts ++ [settings.backRestVolumeMounts]

/-- Sidecars mount volumes of the operator or of storages, each at a path of its own, and no
two storages share a name or a path. -/
structure Allowed : Prop where
  volumes : ∀ mounts ∈ settings.sidecarMounts, ∀ mount ∈ mounts,
    mount.name ∈ (generateCassandraVolumes spec).map Volume.name ∨
      mount.name ∈ settings.storageConfigs.map StorageConfig.name ∨
      mount.name = dataPVCName ∧ spec.getDataCapacityFromDCName dcName ≠ ""
  paths : ∀ mounts ∈ settings.sidecarMounts, (mounts.map VolumeMount.mountPath).Nodup
  storageNames : (settings.storageConfigs.map StorageConfig.name).Nodup
  storagePaths : (settings.storageConfigs.map StorageConfig.mountPath).Nodup

/-- The claims that the Cassandra container mounts, with their paths. -/
def claimPaths : GoMap String :=
  volumeClaimMapNameMountPath (settings.containerMounts spec backRestSidecar) claims

/-- Mounts of all containers that give way to a claim. -/
def takenMounts : List VolumeMount :=
  ((settings.containerMounts spec backRestSidecar).flatMap Prod.snd).filter
    (yields (settings.claimPaths spec backRestSidecar claims))

/-- Mounts that the init containers have and the containers keep. -/
def leftMounts : List VolumeMount :=
  generateContainerVolumeMount spec .init ++ generateContainerVolumeMount spec .bootstrap ++
    (settings.containerMounts spec backRestSidecar).flatMap fun container =>
      container.2.filter (stays (settings.claimPaths spec backRestSidecar claims) container.1)

/-- What keeps the mounts apart.  Storages come with claims.  A storage may take the path of
the Cassandra container's own mount only from a volume, not from a claim.  Nobody else mounts
the path of a claim under another name, nor a volume that the claim takes away. -/
structure MountsApart : Prop where
  storages : claims = [] → ∀ storage ∈ settings.storageConfigs,
    storage.name ∈ (generateCassandraVolumes spec).map Volume.name
  replaces : ∀ mount ∈ generateContainerVolumeMount spec .cassandra,
    ∀ storage ∈ settings.storageConfigs, mount.mountPath = storage.mountPath →
      claims ≠ [] ∧ mount.name ∉ claims.map PersistentVolumeClaim.name
  backRest : backRestEnabled backRestSidecar = true → ∀ own ∈ settings.backRestVolumeMounts,
    ∀ mount ∈ generateContainerVolumeMount spec .backrest, own.mountPath ≠ mount.mountPath
  served : ∀ provided ∈ generateContainerVolumeMount spec .cassandra ++
      settings.generateStorageConfigVolumesMount,
    provided.name ∈ claims.map PersistentVolumeClaim.name →
      ∀ mount ∈ settings.leftMounts spec backRestSidecar claims,
        mount.mountPath = provided.mountPath → mount.name = provided.name
  spare : ∀ taken ∈ settings.takenMounts spec backRestSidecar claims,
    ∀ mount ∈ settings.leftMounts spec backRestSidecar claims, mount.name = taken.name →
      mount.name ∈ claims.map PersistentVolumeClaim.name

end VolumeSettings

theorem lastPath_append (first second : List VolumeMount) (name : String) :
    lastPath (first ++ second) name = (lastPath second name).or (lastPath first name) := by
  induction first with
  | nil => simp [lastPath]
  | cons mount first induction =>
    rw [List.cons_append, lastPath_cons, lastPath_cons, induction, Option.or_assoc]

variable {name : String}

theorem exists_of_lastPath {mounts : List VolumeMount} {path : String}
    (found : lastPath mounts name = some path) : ∃ mount ∈ mounts, mount.name = name := by
  induction mounts with
  | nil => cases found
  | cons mount mounts induction =>
    rw [lastPath_cons, Option.or_eq_some_iff] at found
    rcases found with later | ⟨_, here⟩
    · obtain ⟨other, member, same⟩ := induction later
      exact ⟨other, List.mem_cons_of_mem _ member, same⟩
    · by_cases same : mount.name = name
      · exact ⟨mount, List.mem_cons_self, same⟩
      · rw [if_neg same] at here
        cases here

theorem lastPath_of_distinct {mounts : List VolumeMount}
    (distinct : (mounts.map VolumeMount.name).Nodup) (member : mount ∈ mounts) :
    lastPath mounts mount.name = some mount.mountPath := by
  induction mounts with
  | nil => cases member
  | cons head mounts induction =>
    obtain ⟨fresh, rest⟩ := List.nodup_cons.mp distinct
    rw [lastPath_cons]
    rcases List.mem_cons.mp member with rfl | later
    · have none : lastPath mounts mount.name = none := by
        refine Option.eq_none_iff_forall_ne_some.mpr fun path found => fresh ?_
        obtain ⟨other, listed, same⟩ := exists_of_lastPath found
        exact List.mem_map.mpr ⟨other, listed, same⟩
      rw [none, Option.none_or, if_pos rfl]
    · rw [induction rest later, Option.some_or]

variable {storage : StorageConfig}

section Clean

variable {claims : List PersistentVolumeClaim}

theorem mem_containerMounts {container : String × List VolumeMount} :
    container ∈ settings.containerMounts spec backRestSidecar ↔
      (∃ sidecar ∈ settings.sidecarConfigs,
          container = (sidecar.container.name, sidecar.volumeMounts)) ∨
        container = (cassandraContainerName, generateContainerVolumeMount spec .cassandra ++
          settings.generateStorageConfigVolumesMount) ∨
        backRestEnabled backRestSidecar = true ∧
          container = (Generator.backrestSidecarName,
            settings.backRestVolumeMounts ++ generateContainerVolumeMount spec .backrest) := by
  unfold VolumeSettings.containerMounts backRestEnabled
  rw [List.mem_append, List.mem_append, List.mem_map, List.mem_singleton, or_assoc]
  refine or_congr ?_ (or_congr_right ?_)
  · simp only [eq_comm]
  · split <;> simp_all

theorem lookup_claimPaths_storage
    (distinct : (settings.storageConfigs.map StorageConfig.name).Nodup)
    (member : storage ∈ settings.storageConfigs)
    (claimed : storage.name ∈ claims.map PersistentVolumeClaim.name) :
    (settings.claimPaths spec backRestSidecar claims).lookup storage.name =
      some storage.mountPath := by
  have names : settings.generateStorageConfigVolumesMount.map VolumeMount.name =
      settings.storageConfigs.map StorageConfig.name := by
    unfold VolumeSettings.generateStorageConfigVolumesMount
    rw [List.map_map]
    rfl
  have last : lastPath settings.generateStorageConfigVolumesMount storage.name =
      some storage.mountPath :=
    lastPath_of_distinct (names ▸ distinct)
      (List.mem_map.mpr ⟨storage, member, rfl⟩)
  unfold VolumeSettings.claimPaths
  rw [lookup_volumeClaimMapNameMountPath, if_pos claimed, lastNamed_cassandra, lastPath_append,
    last, Option.some_or]

section

variable (mounted : mount ∈ generateContainerVolumeMount spec .cassandra ++
  settings.generateStorageConfigVolumesMount)

include mounted

theorem yields_claimPaths_of
    (firm : claims = [] ∨ mount.name ∈ claims.map PersistentVolumeClaim.name) :
    yields (settings.claimPaths spec backRestSidecar claims) mount = false := by
  rcases firm with rfl | claimed
  · exact yields_empty mount
  · exact yields_of_claimed claimed mounted

theorem stays_of_firm {container : String}
    (firm : claims = [] ∨ mount.name ∈ claims.map PersistentVolumeClaim.name) :
    stays (settings.claimPaths spec backRestSidecar claims) container mount = true := by
  simp [stays, yields_claimPaths_of mounted firm]

end

/-- A mount of the Cassandra container at the path of a storage gives way to its claim. -/
theorem not_stays_at_storage (distinct : (settings.storageConfigs.map StorageConfig.name).Nodup)
    (member : storage ∈ settings.storageConfigs)
    (claimed : storage.name ∈ claims.map PersistentVolumeClaim.name)
    (unclaimed : mount.name ∉ claims.map PersistentVolumeClaim.name)
    (same : mount.mountPath = storage.mountPath) :
    stays (settings.claimPaths spec backRestSidecar claims) cassandraContainerName mount =
      false := by
  have given : yields (settings.claimPaths spec backRestSidecar claims) mount = true := by
    rw [yields_iff, same]
    refine ⟨?_, storage.name, lookup_claimPaths_storage distinct member claimed⟩
    unfold VolumeSettings.claimPaths
    rw [lookup_volumeClaimMapNameMountPath, if_neg unclaimed]
  simp [stays, given]

theorem mountLists_podWith (key : VolumeMount → String) :
    (settings.podWith key spec backRestSidecar claims).mountLists =
      [generateContainerVolumeMount spec .init, generateContainerVolumeMount spec .init,
          generateContainerVolumeMount spec .bootstrap] ++
        (settings.containerMounts spec backRestSidecar).map fun container =>
          container.2.filter
            (stays (settings.claimPaths spec backRestSidecar claims) container.1) := by
  unfold PodVolumes.mountLists VolumeSettings.podWith
  dsimp only
  rw [List.map_map]
  refine congrArg _ (List.map_congr_left fun container _ => ?_)
  rw [Function.comp_apply, deduplicated_eq]
  rfl

theorem forall_mountLists_podWith {good : VolumeMount → Prop} :
    (∀ mounts ∈ (settings.podWith key spec backRestSidecar claims).mountLists,
        ∀ mount ∈ mounts, good mount) ↔
      ∀ mount ∈ settings.leftMounts spec backRestSidecar claims, good mount := by
  rw [mountLists_podWith]
  unfold VolumeSettings.leftMounts
  simp only [List.mem_append, List.mem_cons, List.not_mem_nil, or_false, List.mem_map,
    List.mem_flatMap]
  constructor
  · rintro every mount ((init | bootstrap) | ⟨container, listed, left⟩)
    · exact every _ (.inl (.inl rfl)) mount init
    · exact every _ (.inl (.inr (.inr rfl))) mount bootstrap
    · exact every _ (.inr ⟨container, listed, rfl⟩) mount left
  · rintro every mounts ((rfl | rfl | rfl) | ⟨container, listed, rfl⟩) mount member
    · exact every mount (.inl (.inl member))
    · exact every mount (.inl (.inl member))
    · exact every mount (.inl (.inr member))
    · exact every mount (.inr ⟨container, listed, member⟩)

theorem mem_volumes_podWith :
    (∃ volume ∈ (settings.podWith key spec backRestSidecar claims).volumes,
        volume.name = name) ↔
      name ∈ (generateCassandraVolumes spec).map Volume.name ∧
        ∀ taken ∈ settings.takenMounts spec backRestSidecar claims, taken.name ≠ name := by
  unfold VolumeSettings.podWith removeDuplicateVolumesAndVolumeMounts
  dsimp only
  rw [volumesWoDupes_getD]
  have removed : ∀ name, name ∈ removeDuplicateVolumeMountsFromContainers
        (settings.containerMounts spec backRestSidecar)
        (volumeClaimMapNameMountPath (settings.containerMounts spec backRestSidecar) claims) ↔
      ∃ taken ∈ settings.takenMounts spec backRestSidecar claims, taken.name = name :=
    fun _ => List.mem_map
  simp only [List.mem_filter, List.mem_map, Bool.not_eq_true', List.contains_eq_mem,
    decide_eq_false_iff_not, removed, not_exists, not_and]
  constructor
  · rintro ⟨volume, ⟨listed, free⟩, rfl⟩
    exact ⟨⟨volume, listed, rfl⟩, free⟩
  · rintro ⟨⟨volume, listed, rfl⟩, free⟩
    exact ⟨volume, ⟨listed, free⟩, rfl⟩

theorem isClaim_podWith :
    (settings.podWith key spec backRestSidecar claims).IsClaim name ↔
      name ∈ claims.map PersistentVolumeClaim.name := List.mem_map.symm

theorem cassandraMounts_podWith (key : VolumeMount → String) :
    (settings.podWith key spec backRestSidecar claims).cassandraMounts =
      (generateContainerVolumeMount spec .cassandra ++
        settings.generateStorageConfigVolumesMount).filter
          (stays (settings.claimPaths spec backRestSidecar claims) cassandraContainerName) := by
  unfold PodVolumes.cassandraMounts VolumeSettings.podWith
  dsimp only
  rw [lastNamed_deduplicated, lastNamed_cassandra]
  rfl

/-! ### Names -/

/-- Before anything gives way every mount has a volume or a claim. -/
theorem VolumeSettings.Allowed.named (allowed : settings.Allowed spec dcName)
    (made : settings.generateVolumeClaimTemplate platform spec dcName = some claims)
    (storages : claims = [] → ∀ storage ∈ settings.storageConfigs, storage.name ∈
      (generateCassandraVolumes spec).map Volume.name)
    (left : mount ∈ settings.leftMounts spec backRestSidecar claims) :
    mount.name ∈ (generateCassandraVolumes spec).map Volume.name ∨
      mount.name ∈ claims.map PersistentVolumeClaim.name := by
  have names := generateVolumeClaimTemplate_names made
  have data : spec.getDataCapacityFromDCName dcName ≠ "" →
      dataPVCName ∈ claims.map PersistentVolumeClaim.name := by
    intro capacity
    rw [names, if_neg capacity]
    exact List.mem_cons_self
  have generated : ∀ {ct}, mount ∈ generateContainerVolumeMount spec ct →
      mount.name ∈ (generateCassandraVolumes spec).map Volume.name ∨
        mount.name ∈ claims.map PersistentVolumeClaim.name := by
    intro ct mounted
    refine (generateContainerVolumeMount_named mounted).imp_right ?_
    rintro ⟨same, capacity⟩
    rw [same]
    exact data (getDataCapacityFromDCName_ne dcName capacity)
  have stored : mount.name ∈ settings.storageConfigs.map StorageConfig.name →
      mount.name ∈ (generateCassandraVolumes spec).map Volume.name ∨
        mount.name ∈ claims.map PersistentVolumeClaim.name := by
    intro listed
    by_cases capacity : spec.getDataCapacityFromDCName dcName = ""
    · rw [if_pos capacity] at names
      obtain ⟨storage, member, same⟩ := List.mem_map.mp listed
      exact .inl (same ▸ storages (List.map_eq_nil_iff.mp names) storage member)
    · rw [names, if_neg capacity]
      exact .inr (List.mem_cons_of_mem _ listed)
  have configured : ∀ mounts ∈ settings.sidecarMounts, mount ∈ mounts →
      mount.name ∈ (generateCassandraVolumes spec).map Volume.name ∨
        mount.name ∈ claims.map PersistentVolumeClaim.name := by
    intro mounts listed member
    rcases allowed.volumes mounts listed mount member with volume | storage | ⟨same, capacity⟩
    · exact .inl volume
    · exact stored storage
    · exact .inr (same ▸ data capacity)
  unfold VolumeSettings.leftMounts at left
  rcases List.mem_append.mp left with init | contained
  · rcases List.mem_append.mp init with first | bootstrap
    · exact generated first
    · exact generated bootstrap
  · obtain ⟨container, listed, kept⟩ := List.mem_flatMap.mp contained
    have member : mount ∈ container.2 := (List.mem_filter.mp kept).1
    rcases mem_containerMounts.mp listed with ⟨sidecar, given, rfl⟩ | rfl | ⟨_, rfl⟩
    · exact configured sidecar.volumeMounts
        (List.mem_append_left _ (List.mem_map_of_mem given)) member
    · rcases List.mem_append.mp member with own | storage
      · exact generated own
      · obtain ⟨storage, given, rfl⟩ := List.mem_map.mp storage
        exact stored (List.mem_map_of_mem given)
    · rcases List.mem_append.mp member with own | automatic
      · exact configured settings.backRestVolumeMounts
          (List.mem_append_right _ List.mem_cons_self) own
      · exact generated automatic

theorem mem_leftMounts_of_firm
    (mounted : mount ∈ generateContainerVolumeMount spec .cassandra ++
      settings.generateStorageConfigVolumesMount)
    (firm : claims = [] ∨ mount.name ∈ claims.map PersistentVolumeClaim.name) :
    mount ∈ settings.leftMounts spec backRestSidecar claims := by
  refine List.mem_append_right _ (List.mem_flatMap.mpr ⟨_, mem_containerMounts.mpr
    (.inr (.inl rfl)), ?_⟩)
  exact List.mem_filter.mpr ⟨mounted, stays_of_firm mounted firm⟩

theorem named_podWith_iff (allowed : settings.Allowed spec dcName)
    (made : settings.generateVolumeClaimTemplate platform spec dcName = some claims) :
    (∀ mounts ∈ (settings.podWith key spec backRestSidecar claims).mountLists,
        ∀ mount ∈ mounts,
          (∃ volume ∈ (settings.podWith key spec backRestSidecar claims).volumes,
              volume.name = mount.name) ∨
            (settings.podWith key spec backRestSidecar claims).IsClaim mount.name) ↔
      (claims = [] → ∀ storage ∈ settings.storageConfigs,
          storage.name ∈ (generateCassandraVolumes spec).map Volume.name) ∧
        ∀ taken ∈ settings.takenMounts spec backRestSidecar claims,
          ∀ mount ∈ settings.leftMounts spec backRestSidecar claims, mount.name = taken.name →
            mount.name ∈ claims.map PersistentVolumeClaim.name := by
  rw [forall_mountLists_podWith]
  simp only [mem_volumes_podWith, isClaim_podWith]
  constructor
  · intro named
    refine ⟨fun none storage member => ?_, fun taken given mount left same => ?_⟩
    · have mounted : ({ name := storage.name, mountPath := storage.mountPath } : VolumeMount) ∈
          generateContainerVolumeMount spec .cassandra ++
            settings.generateStorageConfigVolumesMount :=
        List.mem_append_right _ (List.mem_map.mpr ⟨storage, member, rfl⟩)
      rcases named _ (mem_leftMounts_of_firm mounted (.inl none)) with ⟨volume, _⟩ | claimed
      · exact volume
      · rw [none] at claimed
        cases claimed
    · rcases named mount left with ⟨_, free⟩ | claimed
      · exact absurd same.symm (free taken given)
      · exact claimed
  · rintro ⟨storages, spare⟩ mount left
    rcases allowed.named made storages left with volume | claimed
    · by_cases used : ∃ taken ∈ settings.takenMounts spec backRestSidecar claims,
          taken.name = mount.name
      · obtain ⟨taken, given, same⟩ := used
        exact .inr (spare taken given mount left same.symm)
      · exact .inl ⟨volume, fun taken given same => used ⟨taken, given, same⟩⟩
    · exact .inr claimed

/-! ### Paths -/

theorem storage_firm
    (made : settings.generateVolumeClaimTemplate platform spec dcName = some claims)
    (member : storage ∈ settings.storageConfigs) :
    claims = [] ∨ storage.name ∈ claims.map PersistentVolumeClaim.name := by
  rcases generateVolumeClaimTemplate_storage made with none | claimed
  · exact .inl none
  · exact .inr (List.mem_map.mpr (claimed storage member))

/-- What the Cassandra container keeps has paths of its own if the mounts it shares a path
with a storage for give way. -/
theorem cassandra_distinct_iff (allowed : settings.Allowed spec dcName)
    (made : settings.generateVolumeClaimTemplate platform spec dcName = some claims) :
    (((generateContainerVolumeMount spec .cassandra ++
        settings.generateStorageConfigVolumesMount).filter
          (stays (settings.claimPaths spec backRestSidecar claims) cassandraContainerName)).map
        VolumeMount.mountPath).Nodup ↔
      ∀ mount ∈ generateContainerVolumeMount spec .cassandra,
        ∀ storage ∈ settings.storageConfigs, mount.mountPath = storage.mountPath →
          claims ≠ [] ∧ mount.name ∉ claims.map PersistentVolumeClaim.name := by
  have storagePaths : (settings.generateStorageConfigVolumesMount.map
      VolumeMount.mountPath).Nodup := by
    unfold VolumeSettings.generateStorageConfigVolumesMount
    rw [List.map_map]
    exact allowed.storagePaths
  rw [List.filter_append, List.map_append, List.nodup_append]
  constructor
  · rintro ⟨_, _, apart⟩ mount generated storage member same
    by_contra firm
    rw [not_and_or, not_not, not_not] at firm
    have mounted := List.mem_append_left settings.generateStorageConfigVolumesMount generated
    have stored : ({ name := storage.name, mountPath := storage.mountPath } : VolumeMount) ∈
        settings.generateStorageConfigVolumesMount := List.mem_map.mpr ⟨storage, member, rfl⟩
    refine apart mount.mountPath (List.mem_map_of_mem (List.mem_filter.mpr
      ⟨generated, stays_of_firm mounted firm⟩)) storage.mountPath (List.mem_map.mpr
        ⟨_, List.mem_filter.mpr ⟨stored, stays_of_firm (List.mem_append_right _ stored) ?_⟩,
          rfl⟩) same
    exact storage_firm made member
  · intro replaces
    refine ⟨?_, ?_, ?_⟩
    · exact (generateContainerVolumeMount_distinct spec .cassandra).sublist
        (List.filter_sublist.map _)
    · exact storagePaths.sublist (List.filter_sublist.map _)
    · intro path first other second same
      obtain ⟨mount, kept, rfl⟩ := List.mem_map.mp first
      obtain ⟨mounted, stored, rfl⟩ := List.mem_map.mp second
      obtain ⟨generated, stays⟩ := List.mem_filter.mp kept
      obtain ⟨storage, member, rfl⟩ := List.mem_map.mp (List.mem_filter.mp stored).1
      obtain ⟨some, unclaimed⟩ := replaces mount generated storage member same
      have claimed := (storage_firm made member).resolve_left some
      rw [not_stays_at_storage allowed.storageNames member claimed unclaimed same] at stays
      cases stays

theorem distinct_podWith_iff (allowed : settings.Allowed spec dcName)
    (made : settings.generateVolumeClaimTemplate platform spec dcName = some claims) :
    (∀ mounts ∈ (settings.podWith key spec backRestSidecar claims).mountLists,
        (mounts.map VolumeMount.mountPath).Nodup) ↔
      (∀ mount ∈ generateContainerVolumeMount spec .cassandra,
        ∀ storage ∈ settings.storageConfigs, mount.mountPath = storage.mountPath →
          claims ≠ [] ∧ mount.name ∉ claims.map PersistentVolumeClaim.name) ∧
      (backRestEnabled backRestSidecar = true → ∀ own ∈ settings.backRestVolumeMounts,
        ∀ mount ∈ generateContainerVolumeMount spec .backrest,
          own.mountPath ≠ mount.mountPath) := by
  have other : Generator.backrestSidecarName ≠ cassandraContainerName := by decide
  have whole : (settings.backRestVolumeMounts ++ generateContainerVolumeMount spec .backrest).filter
      (stays (settings.claimPaths spec backRestSidecar claims) Generator.backrestSidecarName) =
        settings.backRestVolumeMounts ++ generateContainerVolumeMount spec .backrest :=
    List.filter_eq_self.mpr fun mount _ => stays_elsewhere other mount
  rw [mountLists_podWith]
  constructor
  · intro distinct
    have contained := fun container listed =>
      distinct _ (List.mem_append_right _ (List.mem_map.mpr ⟨container, listed, rfl⟩))
    refine ⟨?_, fun enabled own given mount generated same => ?_⟩
    · exact (cassandra_distinct_iff allowed made).mp
        (contained _ (mem_containerMounts.mpr (.inr (.inl rfl))))
    · have paths := contained _ (mem_containerMounts.mpr (.inr (.inr ⟨enabled, rfl⟩)))
      dsimp only at paths
      rw [whole, List.map_append, List.nodup_append] at paths
      exact paths.2.2 _ (List.mem_map_of_mem given) _ (List.mem_map_of_mem generated) same
  · rintro ⟨replaces, apart⟩ mounts listed
    rcases List.mem_append.mp listed with init | contained
    · simp only [List.mem_cons, List.not_mem_nil, or_false] at init
      rcases init with rfl | rfl | rfl
      all_goals apply generateContainerVolumeMount_distinct
    · obtain ⟨container, member, rfl⟩ := List.mem_map.mp contained
      rcases mem_containerMounts.mp member with ⟨sidecar, given, rfl⟩ | rfl | ⟨enabled, rfl⟩
      · exact (allowed.paths _ (List.mem_append_left _ (List.mem_map_of_mem given))).sublist
          (List.filter_sublist.map _)
      · exact (cassandra_distinct_iff allowed made).mpr replaces
      · dsimp only
        rw [whole, List.map_append, List.nodup_append]
        refine ⟨allowed.paths _ (List.mem_append_right _ List.mem_cons_self),
          generateContainerVolumeMount_distinct spec .backrest, ?_⟩
        intro path first other second
        obtain ⟨own, given, rfl⟩ := List.mem_map.mp first
        obtain ⟨mount, generated, rfl⟩ := List.mem_map.mp second
        exact apart enabled own given mount generated

/-! ### Claims -/

theorem served_podWith_iff :
    (∀ provided ∈ (settings.podWith key spec backRestSidecar claims).cassandraMounts,
        (settings.podWith key spec backRestSidecar claims).IsClaim provided.name →
          ∀ mounts ∈ (settings.podWith key spec backRestSidecar claims).mountLists,
            ∀ mount ∈ mounts, mount.mountPath = provided.mountPath →
              mount.name = provided.name) ↔
      ∀ provided ∈ generateContainerVolumeMount spec .cassandra ++
          settings.generateStorageConfigVolumesMount,
        provided.name ∈ claims.map PersistentVolumeClaim.name →
          ∀ mount ∈ settings.leftMounts spec backRestSidecar claims,
            mount.mountPath = provided.mountPath → mount.name = provided.name := by
  rw [cassandraMounts_podWith]
  simp only [isClaim_podWith, forall_mountLists_podWith, List.mem_filter]
  constructor
  · intro served provided mounted claimed
    exact served provided ⟨mounted, stays_of_firm mounted (.inr claimed)⟩ claimed
  · intro served provided kept
    exact served provided kept.1

end Clean

/-- A storage of its own, mounted by a sidecar that also reads the log. -/
def loggingSettings (storagePath : String) : VolumeSettings :=
  { sidecarConfigs :=
      [{ container := { name := "logger" }
         volumeMounts := [{ name := "storage", mountPath := storagePath },
           { name := "log", mountPath := "/logs" }] }]
    storageConfigs := [{ mountPath := storagePath, name := "storage", pvcSpec := some {} }] }

end Casskop
