import Mathlib.Data.Finmap
import Mathlib.Data.List.Sort
import Mathlib.Data.Rat.Defs
import Mathlib.Algebra.Order.Ring.Rat

/-!
# Kubernetes objects read and written by the operator

Only the fields some function of the operator reads or writes are kept.  A Go
map keyed by strings is a `Finmap`, a slice or map whose nil value is observable
is an `Option`, and an `int32` is an `Int` that is wrapped where the operator
computes with it.
-/

namespace Casskop

abbrev GoMap (α : Type) := Finmap (fun _ : String => α)

/-- Errors of API calls, as far as `apierrors` tells them apart. -/
inductive ApiError where
  | notFound
  | alreadyExists
  | conflict
  | other
  deriving DecidableEq, Repr

/-- How a `resource.Quantity` holds its value: as an integer amount, with scale and
format those of the text it was parsed from, or behind a pointer to a decimal. -/
inductive QuantityForm where
  | amount (text : String)
  | decimal (address : Nat)
  deriving DecidableEq, Repr

/-- A `resource.Quantity`.  Comparing two of them with `==` compares the structs,
`Equal` and `Cmp` compare the numeric values. -/
structure Quantity where
  value : ℚ
  form : QuantityForm := .amount ""
  deriving DecidableEq, Repr

def Quantity.zero : Quantity := { value := 0 }

def Quantity.equal (quantity other : Quantity) : Bool := quantity.value == other.value

/-- `v1.ResourceRequirements`; a nil resource list is `none`. -/
structure ResourceRequirements where
  limits : Option (List (String × Quantity)) := none
  requests : Option (List (String × Quantity)) := none
  deriving DecidableEq, Repr

inductive PodPhase where
  | pending
  | running
  | succeeded
  | failed
  | unknown
  deriving DecidableEq, Repr

inductive ConditionStatus where
  | true
  | false
  | unknown
  deriving DecidableEq, Repr

structure PodCondition where
  type : String
  status : ConditionStatus := .unknown
  reason : String := ""
  deriving DecidableEq, Repr

structure ContainerStatus where
  name : String
  ready : Bool := false
  /-- Reason of the waiting state, when the container is waiting. -/
  waiting : Option String := none
  restartCount : Int := 0
  deriving DecidableEq, Repr

structure Pod where
  name : String
  phase : PodPhase := .unknown
  conditions : Option (List PodCondition) := none
  containerStatuses : List ContainerStatus := []
  deletionTimestamp : Bool := false
  podIP : String := ""
  /-- The `operation-start` label, when it parses as a time. -/
  operationStart : Option Nat := none
  deriving DecidableEq, Repr

structure EnvVar where
  name : String
  value : String := ""
  deriving DecidableEq, Repr

structure Container where
  name : String
  image : String := ""
  env : List EnvVar := []
  resources : ResourceRequirements := {}
  deriving DecidableEq, Repr

structure Volume where
  name : String
  /-- Name of the mounted config map, when the volume is one. -/
  configMap : Option String := none
  deriving DecidableEq, Repr

structure PersistentVolumeClaim where
  name : String
  requests : Option (GoMap Quantity) := none
  capacity : GoMap Quantity := ∅
  deriving DecidableEq

structure PodTemplate where
  labels : GoMap String := ∅
  initContainers : List Container := []
  containers : Option (List Container) := none
  volumes : Option (List Volume) := none
  deriving DecidableEq

structure StatefulSetSpec where
  replicas : Int
  partition : Int := 0
  template : PodTemplate := {}
  volumeClaimTemplates : List PersistentVolumeClaim := []
  deriving DecidableEq

structure StatefulSetStatus where
  replicas : Int := 0
  readyReplicas : Int := 0
  currentRevision : String := ""
  updateRevision : String := ""
  deriving DecidableEq, Repr

structure StatefulSet where
  name : String
  resourceVersion : Nat := 0
  spec : StatefulSetSpec
  status : StatefulSetStatus := {}
  deriving DecidableEq

/-- A `PodDisruptionBudget` as `GetPodDisruptionBudget` returns it: the name and
namespace are those asked for, the rest is zero unless the read filled it. -/
structure PodDisruptionBudget where
  name : String
  ns : String
  maxUnavailable : Option Int := none
  disruptionsAllowed : Int := 0
  expectedPods : Int := 0
  deriving DecidableEq, Repr

/-! ## Readiness -/

def cassandraContainerName : String := "cassandra"

def dataPVCName : String := "data"

def Pod.isReady (pod : Pod) : Bool :=
  match pod.containerStatuses.find? (fun c => c.name == cassandraContainerName) with
  | some c => pod.phase == .running && c.ready
  | none => false

def isStatefulSetReady (sts : StatefulSet) : Bool :=
  sts.status.readyReplicas == sts.spec.replicas

def isStatefulSetNotReady (sts : StatefulSet) : Bool :=
  !isStatefulSetReady sts

/-! ## Pod ordinals -/

/-- Decimal value of the digits `reEndingNumber` finds at the end of a name, as
`strconv.Atoi` reads them; a name without digits gives 0. -/
def endingNumber (name : String) : Nat :=
  let digits := (name.toList.reverse.takeWhile Char.isDigit).reverse
  digits.foldl (fun acc c => 10 * acc + (c.toNat - '0'.toNat)) 0

/-- `sortPodsList`: by ending number of the name. -/
def sortPodsList (items : List Pod) : List Pod :=
  items.insertionSort (fun a b => endingNumber a.name ≤ endingNumber b.name)

/-- `GetLastOrFirstPodItem`; `none` is the error for an empty list. -/
def getLastOrFirstPodItem (podsList : List Pod) (last : Bool) : Option Pod :=
  if last then (sortPodsList podsList).getLast? else (sortPodsList podsList).head?

def getLastOrFirstPodReady (podsList : List Pod) (last : Bool) : Option Pod :=
  getLastOrFirstPodItem (podsList.filter Pod.isReady) last

end Casskop
