import Casskop.Controller.Reconcile

/-!
# Cluster definitions of MultiCasskop

A MultiCasskop holds a base definition of a CassandraCluster and one override for each
Kubernetes site.  `CreateOrUpdateCassandraCluster` brings the object of one site in line
with the merged definition.
-/

namespace Casskop

/-! ## Settings -/

structure BackRestSidecar where
  enabled : Option Bool := none
  image : String := ""
  deriving DecidableEq, Repr

/-- Fields of the spec that only the generator of CassKop reads, as far as somebody fills
them in. -/
structure Settings where
  imagePullPolicy : String := ""
  bootstrapImage : String := ""
  configBuilderImage : String := ""
  serviceAccountName : String := ""
  readOnlyRootFilesystem : Option Bool := none
  livenessInitialDelaySeconds : Option Int := none
  livenessHealthCheckTimeout : Option Int := none
  livenessHealthCheckPeriod : Option Int := none
  readinessInitialDelaySeconds : Option Int := none
  readinessHealthCheckTimeout : Option Int := none
  readinessHealthCheckPeriod : Option Int := none
  backRestSidecar : Option BackRestSidecar := none
  runAsUser : Int := 0
  fsGroup : Int := 0
  serverType : String := ""
  deriving DecidableEq, Repr

def defaultBackRestImage : String := "ghcr.io/cscetbon/instaclustr-icarus:1.1.3"

/-- A string that is set, or the default. -/
def orDefault (value default : String) : String := if value = "" then default else value

/-- The sidecar with its defaults. -/
def BackRestSidecar.checkDefaults (sidecar : BackRestSidecar) : BackRestSidecar :=
  { enabled := some (sidecar.enabled.getD true)
    image := orDefault sidecar.image defaultBackRestImage }

/-- The part of `CheckDefaults` that is about the settings. -/
def Settings.checkDefaults (settings : Settings) : Settings :=
  { settings with
    imagePullPolicy := orDefault settings.imagePullPolicy "Always"
    bootstrapImage :=
      orDefault settings.bootstrapImage "ghcr.io/cscetbon/casskop-bootstrap:0.1.21"
    configBuilderImage :=
      orDefault settings.configBuilderImage "datastax/cass-config-builder:1.0.4"
    serviceAccountName := orDefault settings.serviceAccountName "cassandra-cluster-node"
    readOnlyRootFilesystem := some (settings.readOnlyRootFilesystem.getD true)
    livenessInitialDelaySeconds := some (settings.livenessInitialDelaySeconds.getD 120)
    livenessHealthCheckTimeout := some (settings.livenessHealthCheckTimeout.getD 20)
    livenessHealthCheckPeriod := some (settings.livenessHealthCheckPeriod.getD 10)
    readinessInitialDelaySeconds := some (settings.readinessInitialDelaySeconds.getD 60)
    readinessHealthCheckTimeout := some (settings.readinessHealthCheckTimeout.getD 10)
    readinessHealthCheckPeriod := some (settings.readinessHealthCheckPeriod.getD 10)
    backRestSidecar := some (settings.backRestSidecar.getD {}).checkDefaults }

/-! ## Objects -/

/-- A CassandraCluster as it is defined, with the seed list of its status. -/
structure Definition where
  metadata : ObjectMeta
  spec : CassandraClusterSpec
  settings : Settings := {}
  /-- `none` is a nil slice. -/
  seedList : Option (List String) := none

/-- A CassandraCluster as a site stores it. -/
structure StoredCluster where
  cluster : CassandraCluster
  settings : Settings := {}

def Definition.checkDefaults (cc : Definition) : Definition :=
  { cc with spec := cc.spec.checkDefaults, settings := cc.settings.checkDefaults }

/-! ## Semantic equality -/

/-- A resource list up to the difference of nil and empty lists and of notations. -/
def normalizedResources (resources : Option (List (String × Quantity))) :
    Option (List (String × Quantity)) :=
  if resources.getD [] = [] then none
  else resources.map fun entries =>
    entries.map fun entry => (entry.1, { value := entry.2.value })

def ResourceRequirements.normalized (resources : ResourceRequirements) :
    ResourceRequirements :=
  { limits := normalizedResources resources.limits
    requests := normalizedResources resources.requests }

def DC.normalized (dc : DC) : DC := { dc with resources := dc.resources.normalized }

/-- What `equality.Semantic.DeepEqual` compares. -/
def CassandraClusterSpec.normalized (spec : CassandraClusterSpec) : CassandraClusterSpec :=
  { spec with
    resources := spec.resources.normalized
    topology := { dc := spec.topology.dc.map DC.normalized } }

/-! ## One site -/

structure SiteAnswers where
  get : Except ApiError StoredCluster
  create : Except ApiError Unit
  update : Except ApiError Unit
  delete : Except ApiError Unit

/-- Calls to the API servers; sites are numbered as in `FlatClients`. -/
inductive Call where
  | getCluster (site : Nat)
  | createCluster (site : Nat) (cc : Definition)
  | updateCluster (site : Nat) (cc : StoredCluster)
  | deleteCluster (site : Nat) (metadata : ObjectMeta) (answer : Except ApiError Unit)
  /-- The MultiCasskop itself, with its finalizers. -/
  | updateMultiCasskop (finalizers : List String) (answer : Except ApiError Unit)

namespace Call

/-- The site whose CassandraCluster is read, written or deleted. -/
def site : Call → Option Nat
  | .getCluster site | .createCluster site _ | .updateCluster site _ => some site
  | .deleteCluster site .. => some site
  | .updateMultiCasskop .. => none

/-- A CassandraCluster is created or updated. -/
def writesCluster : Call → Bool
  | .createCluster .. | .updateCluster .. => true
  | _ => false

end Call

def unsetRollingRestart (spec : CassandraClusterSpec) : CassandraClusterSpec :=
  { spec with
    topology :=
      { dc := spec.topology.dc.map fun dc =>
          { dc with rack := dc.rack.map fun rack => { rack with rollingRestart := false } } } }

/-- Values of the stored object that stand in for unset ones of the definition. -/
def Settings.adopt (settings stored : Settings) : Settings :=
  { settings with
    runAsUser := if settings.runAsUser = 0 then stored.runAsUser else settings.runAsUser
    fsGroup := if settings.fsGroup = 0 then stored.fsGroup else settings.fsGroup
    serverType := if settings.serverType = "" then stored.serverType else settings.serverType }

def readyCassandraCluster (stored : StoredCluster) : Bool :=
  stored.cluster.status.phase == .running &&
    stored.cluster.status.lastClusterActionStatus == .done

/-- What `CreateOrUpdateCassandraCluster` returns; the object is there when it could be
read. -/
structure SiteResult where
  update : Bool
  stored : Option StoredCluster
  error : Option ApiError
  calls : List Call

/-- An update or creation that says `AlreadyExists` counts as done. -/
def unlessExists : Except ApiError Unit → Option ApiError
  | .ok () => none
  | .error .alreadyExists => none
  | .error error => some error

/-- The spec of the stored object differs from the definition. -/
def specDiffers (cc : Definition) (stored : StoredCluster) : Bool :=
  (unsetRollingRestart stored.cluster.spec).normalized != cc.spec.normalized ||
    stored.settings != cc.settings.adopt stored.settings

def seedListDiffers (cc : Definition) (stored : StoredCluster) : Bool :=
  cc.seedList.any fun seedList => stored.cluster.status.seedList != seedList

/-- The stored object with the definition copied to it where they differ.  The definition
gets `AutoUpdateSeedList = false` only after its spec was copied, so that is never
written. -/
def overwritten (cc : Definition) (stored : StoredCluster) : StoredCluster :=
  let kept : StoredCluster :=
    { stored with
      cluster := { stored.cluster with spec := unsetRollingRestart stored.cluster.spec } }
  let specified : StoredCluster :=
    if specDiffers cc stored then
      { cluster := { kept.cluster with spec := cc.spec }
        settings := cc.settings.adopt stored.settings }
    else kept
  if seedListDiffers cc stored then
    { specified with
      cluster :=
        { specified.cluster with
          status := { specified.cluster.status with seedList := cc.seedList.getD [] } } }
  else specified

/-- `CreateOrUpdateCassandraCluster` with the two functions it calls. -/
def createOrUpdateCassandraCluster (site : Nat) (cc : Definition) (answers : SiteAnswers) :
    SiteResult :=
  match answers.get with
  | .error .notFound =>
    { update := true
      stored := none
      error := unlessExists answers.create
      calls := [.getCluster site, .createCluster site cc] }
  | .error error =>
    { update := false, stored := none, error := some error, calls := [.getCluster site] }
  | .ok stored =>
    let object := overwritten cc stored
    if specDiffers cc stored || seedListDiffers cc stored then
      { update := true
        stored := some object
        error := unlessExists answers.update
        calls := [.getCluster site, .updateCluster site object] }
    else
      { update := false, stored := some object, error := none, calls := [.getCluster site] }

end Casskop
