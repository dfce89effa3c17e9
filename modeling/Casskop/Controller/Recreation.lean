import Casskop.Controller.Upsize

/-!
# Recreation of a StatefulSet

A storage upsize saves the StatefulSet of a rack as JSON, and creates another one from it
with the new capacity.  Here the object has all its metadata and its annotations.  The fields
that no function reads are of a type `F`, so that nothing is known of them but where they go.
-/

namespace Casskop.Appsv1

/-! ## The object -/

structure TypeMeta where
  kind : String := ""
  apiVersion : String := ""
  deriving DecidableEq, Repr

structure OwnerReference where
  apiVersion : String
  kind : String
  name : String
  uid : String
  controller : Option Bool := none
  blockOwnerDeletion : Option Bool := none
  deriving DecidableEq, Repr

structure ManagedFieldsEntry where
  manager : String
  operation : String
  apiVersion : String
  time : Option Nat := none
  fieldsType : String := ""
  fieldsV1 : String := ""
  subresource : String := ""
  deriving DecidableEq, Repr

/-- `metav1.ObjectMeta`; a time that is zero or nil is `none`. -/
structure ObjectMeta where
  name : String
  generateName : String := ""
  ns : String := ""
  selfLink : String := ""
  uid : String := ""
  resourceVersion : Nat := 0
  generation : Int := 0
  creationTimestamp : Option Nat := none
  deletionTimestamp : Option Nat := none
  deletionGracePeriodSeconds : Option Int := none
  labels : GoMap String := ∅
  annotations : GoMap String := ∅
  ownerReferences : List OwnerReference := []
  finalizers : List String := []
  managedFields : List ManagedFieldsEntry := []
  deriving DecidableEq

structure ClaimTemplate (F : Type) where
  claim : PersistentVolumeClaim
  other : F
  deriving DecidableEq

structure StatefulSetSpec (F : Type) where
  replicas : Int
  partition : Int := 0
  template : PodTemplate := {}
  volumeClaimTemplates : List (ClaimTemplate F) := []
  other : F
  deriving DecidableEq

structure StatefulSet (F : Type) where
  typeMeta : TypeMeta := {}
  metadata : ObjectMeta
  spec : StatefulSetSpec F
  status : StatefulSetStatus := {}
  otherStatus : Option F := none
  deriving DecidableEq

variable {F : Type}

/-- What the passes see of it. -/
def StatefulSet.view (sts : StatefulSet F) : Casskop.StatefulSet :=
  { name := sts.metadata.name
    resourceVersion := sts.metadata.resourceVersion
    spec :=
      { replicas := sts.spec.replicas
        partition := sts.spec.partition
        template := sts.spec.template
        volumeClaimTemplates := sts.spec.volumeClaimTemplates.map ClaimTemplate.claim }
    status := sts.status }

/-! ## Snapshot and recreation -/

/-- The JSON library and the object matcher.  `originalConfiguration` is what
`GetOriginalConfiguration` makes of an annotation; its error is dropped by the caller. -/
structure Library (F : Type) where
  marshal : StatefulSet F → Except String String
  unmarshal : String → Except String (StatefulSet F)
  deleteNullInJson : String → Except String String
  zipAndBase64EncodeAnnotation : String → Except String String
  originalConfiguration : String → String
  unmarshal_empty : ∃ message, unmarshal "" = .error message

inductive Failure where
  | error (message : String)
  | fault
  deriving DecidableEq, Repr

/-- The fields that `prepareStatefulSetSnapshot` resets. -/
def StatefulSet.withoutServerFields (living : StatefulSet F) : StatefulSet F :=
  { living with
    metadata :=
      { living.metadata with
        generateName := ""
        selfLink := ""
        uid := ""
        resourceVersion := 0
        generation := 0
        creationTimestamp := none
        deletionTimestamp := none
        deletionGracePeriodSeconds := none
        managedFields := [] }
    typeMeta := {}
    status := {}
    otherStatus := none }

def ClaimTemplate.isData (template : ClaimTemplate F) : Bool :=
  template.claim.name == dataPVCName

/-- `template.Spec.Resources.Requests["storage"] = dataCapacity`. -/
def ClaimTemplate.request (quantity : Quantity) (template : ClaimTemplate F) : ClaimTemplate F :=
  { template with claim := setStorageRequest quantity template.claim }

/-- `setNewDataCapacity`; writing into nil requests panics. -/
def setNewDataCapacity (sts : StatefulSet F) (quantity : Quantity) :
    Except Failure (StatefulSet F) :=
  match sts.spec.volumeClaimTemplates.findIdx? ClaimTemplate.isData with
  | none =>
    .error (.error ("no " ++ dataPVCName ++ " pvc found in statefulSet " ++ sts.metadata.name))
  | some index =>
    if (sts.spec.volumeClaimTemplates[index]?).any (fun template =>
        template.claim.requests.isNone) then .error .fault
    else
      .ok
        { sts with
          spec :=
            { sts.spec with
              volumeClaimTemplates :=
                sts.spec.volumeClaimTemplates.modify index (ClaimTemplate.request quantity) } }

def lastAppliedConfig : String := "banzaicloud.com/last-applied"

section Functions

variable (library : Library F)

def prepareStatefulSetSnapshot (living : StatefulSet F) : Except String String :=
  library.marshal living.withoutServerFields

def unmarshallSnapshottedStatefulSet (snapshot : String) : Except Failure (StatefulSet F) :=
  (library.unmarshal snapshot).mapError fun message =>
    .error ("cannot unmarshall snapshotted statefulSet for storage upsize: " ++ message)

def getOriginalSts (sts : StatefulSet F) : Except String (StatefulSet F) :=
  library.unmarshal
    (match sts.metadata.annotations.lookup lastAppliedConfig with
      | none => ""
      | some text => library.originalConfiguration text)

def encodeLastAppliedConfigAnnotation (original : StatefulSet F) : Except String String := do
  let marshalled ← library.marshal original
  let withoutNulls ← library.deleteNullInJson marshalled
  library.zipAndBase64EncodeAnnotation withoutNulls

/-- Errors are swallowed, a panic is not one. -/
def enrichWithCleanLastAppliedAnnotation (sts : StatefulSet F) (quantity : Quantity) :
    Except Failure (StatefulSet F) :=
  match getOriginalSts library sts with
  | .error _ => .ok sts
  | .ok original =>
    match setNewDataCapacity original quantity with
    | .error .fault => .error .fault
    | .error (.error _) => .ok sts
    | .ok changed =>
      match encodeLastAppliedConfigAnnotation library changed with
      | .error _ => .ok sts
      | .ok lastApplied =>
        .ok
          { sts with
            metadata :=
              { sts.metadata with
                annotations :=
                  sts.metadata.annotations.insert lastAppliedConfig lastApplied } }

def applyPVCModification (sts : StatefulSet F) (quantity : Quantity) :
    Except Failure (StatefulSet F) := do
  let changed ← setNewDataCapacity sts quantity
  enrichWithCleanLastAppliedAnnotation library changed quantity

/-- What `recreateStatefulSetWithNewCapacity` creates. -/
def recreatedFromSnapshot (snapshot : String) (quantity : Quantity) :
    Except Failure (StatefulSet F) := do
  let sts ← unmarshallSnapshottedStatefulSet library snapshot
  applyPVCModification library sts quantity

def snapshotAndRecreate (living : StatefulSet F) (quantity : Quantity) :
    Except Failure (StatefulSet F) := do
  let snapshot ← (prepareStatefulSetSnapshot library living).mapError Failure.error
  recreatedFromSnapshot library snapshot quantity

end Functions

/-! ## What a recreation keeps -/

/-- The template asks for the capacity, and nothing else of it has changed. -/
structure ClaimTemplate.Sized (quantity : Quantity) (template changed : ClaimTemplate F) :
    Prop where
  name : changed.claim.name = template.claim.name
  capacity : changed.claim.capacity = template.claim.capacity
  other : changed.other = template.other
  storage : changed.claim.requests.bind (·.lookup resourceStorage) = some quantity
  requests : ∀ resource ≠ resourceStorage,
    changed.claim.requests.bind (·.lookup resource) =
      template.claim.requests.bind (·.lookup resource)

/-- The data template has the capacity, and nothing else has changed. -/
structure StatefulSetSpec.Sized (quantity : Quantity) (spec changed : StatefulSetSpec F) :
    Prop where
  replicas : changed.replicas = spec.replicas
  partition : changed.partition = spec.partition
  template : changed.template = spec.template
  other : changed.other = spec.other
  claims : ∃ index template sized,
    spec.volumeClaimTemplates.findIdx? ClaimTemplate.isData = some index ∧
      spec.volumeClaimTemplates[index]? = some template ∧
      changed.volumeClaimTemplates[index]? = some sized ∧
      ClaimTemplate.Sized quantity template sized ∧
      ∀ position ≠ index,
        changed.volumeClaimTemplates[position]? = spec.volumeClaimTemplates[position]?

structure StatefulSet.Sized (quantity : Quantity) (sts changed : StatefulSet F) : Prop where
  typeMeta : changed.typeMeta = sts.typeMeta
  metadata : changed.metadata = sts.metadata
  spec : StatefulSetSpec.Sized quantity sts.spec changed.spec
  status : changed.status = sts.status ∧ changed.otherStatus = sts.otherStatus

/-- The template that `setNewDataCapacity` finds. -/
def StatefulSetSpec.dataTemplate? (spec : StatefulSetSpec F) : Option (ClaimTemplate F) :=
  spec.volumeClaimTemplates.find? ClaimTemplate.isData

/-- The data template can be written to. -/
def StatefulSet.Writable (sts : StatefulSet F) : Prop :=
  ∀ template, sts.spec.dataTemplate? = some template → template.claim.requests ≠ none

/-- The StatefulSet has a last-applied annotation, which holds this object. -/
def Library.Original (library : Library F) (sts original : StatefulSet F) : Prop :=
  ∃ text, sts.metadata.annotations.lookup lastAppliedConfig = some text ∧
    library.unmarshal (library.originalConfiguration text) = .ok original

/-- The created StatefulSet is the living one without what the server manages, up to the
capacity and the annotation, which holds the same original up to the capacity. -/
structure Library.Recreates (library : Library F) (quantity : Quantity)
    (living created : StatefulSet F) : Prop where
  typeMeta : created.typeMeta = {}
  status : created.status = {} ∧ created.otherStatus = none
  metadata : created.metadata =
    { name := living.metadata.name
      ns := living.metadata.ns
      labels := living.metadata.labels
      annotations := created.metadata.annotations
      ownerReferences := living.metadata.ownerReferences
      finalizers := living.metadata.finalizers }
  annotations : ∀ key ≠ lastAppliedConfig,
    created.metadata.annotations.lookup key = living.metadata.annotations.lookup key
  spec : StatefulSetSpec.Sized quantity living.spec created.spec
  original : ∀ original, library.Original living original →
    original.spec.dataTemplate? ≠ none →
      ∃ changed, library.Original created changed ∧ StatefulSet.Sized quantity original changed

/-! ## One change of capacity -/

theorem ClaimTemplate.request_sized (quantity : Quantity) {template : ClaimTemplate F}
    {requests : GoMap Quantity} (made : template.claim.requests = some requests) :
    ClaimTemplate.Sized quantity template (template.request quantity) where
  name := rfl
  capacity := rfl
  other := rfl
  storage := by simp [request, setStorageRequest]
  requests resource other := by simp [request, setStorageRequest, made, other]

theorem setNewDataCapacity_cases (sts : StatefulSet F) (quantity : Quantity) :
    (sts.spec.dataTemplate? = none ∧
        ∃ message, setNewDataCapacity sts quantity = .error (.error message)) ∨
      (¬ sts.Writable ∧ setNewDataCapacity sts quantity = .error .fault) ∨
      (sts.Writable ∧ sts.spec.dataTemplate? ≠ none ∧
        ∃ changed, setNewDataCapacity sts quantity = .ok changed ∧
          StatefulSet.Sized quantity sts changed) := by
  unfold setNewDataCapacity StatefulSet.Writable StatefulSetSpec.dataTemplate?
  rw [List.find?_eq_getElem?_findIdx]
  cases found : sts.spec.volumeClaimTemplates.findIdx? ClaimTemplate.isData with
  | none =>
    rw [List.findIdx?_eq_none_iff_findIdx_eq] at found
    exact Or.inl ⟨by simp [found], _, rfl⟩
  | some index =>
    obtain ⟨bound, rfl⟩ := List.findIdx?_eq_some_iff_findIdx_eq.mp found
    have here := List.getElem?_eq_getElem bound
    generalize sts.spec.volumeClaimTemplates[List.findIdx _ _] = template at here
    rw [here]
    cases made : template.claim.requests with
    | none => exact Or.inr (Or.inl ⟨by simp [made], by simp [here, made]⟩)
    | some requests =>
      refine Or.inr (Or.inr ⟨by simp [made], by simp, _, by simp [here, made]; rfl, ?_⟩)
      refine ⟨rfl, rfl, ⟨rfl, rfl, rfl, rfl, _, template, template.request quantity, found,
        here, ?_, template.request_sized quantity made, ?_⟩, rfl, rfl⟩
      · dsimp only
        rw [List.getElem?_modify_eq, here]
        rfl
      · intro position other
        exact List.getElem?_modify_ne _ _ (Ne.symm other)

/-! ## The recreation -/

section Recreation

variable {library : Library F} {sts living : StatefulSet F} {quantity : Quantity}

/-- Both steps through JSON give back what was put in. -/
def Library.Restores (library : Library F) (sts : StatefulSet F) : Prop :=
  ∃ text, library.marshal sts = .ok text ∧ library.unmarshal text = .ok sts

/-- The annotation gives back what was put in. -/
def Library.RestoresAnnotation (library : Library F) (original : StatefulSet F) : Prop :=
  ∃ text, encodeLastAppliedConfigAnnotation library original = .ok text ∧
    library.unmarshal (library.originalConfiguration text) = .ok original

theorem snapshotAndRecreate_eq (restored : library.Restores living.withoutServerFields) :
    snapshotAndRecreate library living quantity =
      applyPVCModification library living.withoutServerFields quantity := by
  obtain ⟨text, marshalled, unmarshalled⟩ := restored
  have rebuilt : recreatedFromSnapshot library text quantity =
      applyPVCModification library living.withoutServerFields quantity := by
    unfold recreatedFromSnapshot unmarshallSnapshottedStatefulSet
    rw [unmarshalled]
    rfl
  unfold snapshotAndRecreate prepareStatefulSetSnapshot
  rw [marshalled]
  exact rebuilt

theorem getOriginalSts_ok_iff {original : StatefulSet F} :
    getOriginalSts library sts = .ok original ↔ library.Original sts original := by
  unfold getOriginalSts Library.Original
  cases sts.metadata.annotations.lookup lastAppliedConfig with
  | none =>
    obtain ⟨message, failed⟩ := library.unmarshal_empty
    simp [failed]
  | some text => simp

theorem enrichWithCleanLastAppliedAnnotation_cases
    (encoded : ∀ original changed, library.Original sts original →
      setNewDataCapacity original quantity = .ok changed → library.RestoresAnnotation changed) :
    ((∀ original, library.Original sts original → original.spec.dataTemplate? = none) ∧
        enrichWithCleanLastAppliedAnnotation library sts quantity = .ok sts) ∨
      (∃ original, library.Original sts original ∧ ¬ original.Writable ∧
        enrichWithCleanLastAppliedAnnotation library sts quantity = .error .fault) ∨
      (∃ original changed text, library.Original sts original ∧ original.Writable ∧
        StatefulSet.Sized quantity original changed ∧
        library.unmarshal (library.originalConfiguration text) = .ok changed ∧
        enrichWithCleanLastAppliedAnnotation library sts quantity =
          .ok { sts with
            metadata :=
              { sts.metadata with
                annotations := sts.metadata.annotations.insert lastAppliedConfig text } }) := by
  have decoded := @getOriginalSts_ok_iff F library sts
  unfold enrichWithCleanLastAppliedAnnotation
  cases got : getOriginalSts library sts with
  | error message =>
    refine Or.inl ⟨fun original holds => ?_, rfl⟩
    rw [decoded.mpr holds] at got
    cases got
  | ok original =>
    have holds := decoded.mp got
    dsimp only
    rcases setNewDataCapacity_cases original quantity with
      ⟨none, message, failed⟩ | ⟨nil, faulty⟩ | ⟨writable, _, changed, set, sized⟩
    · rw [failed]
      refine Or.inl ⟨fun other also => ?_, rfl⟩
      obtain rfl : original = other := Except.ok.inj (got.symm.trans (decoded.mpr also))
      exact none
    · rw [faulty]
      exact Or.inr (Or.inl ⟨original, holds, nil, rfl⟩)
    · obtain ⟨text, encodes, decodes⟩ := encoded original changed holds set
      rw [set]
      dsimp only
      rw [encodes]
      exact Or.inr (Or.inr ⟨original, changed, text, holds, writable, sized, decodes, rfl⟩)

/-- The data template asks for storage. -/
def StatefulSet.RequestsStorage (sts : StatefulSet F) : Prop :=
  ∃ template requests quantity, sts.spec.dataTemplate? = some template ∧
    template.claim.requests = some requests ∧ requests.lookup resourceStorage = some quantity

theorem setNewDataCapacity_requested (requested : living.RequestsStorage) :
    ∃ changed, setNewDataCapacity living.withoutServerFields quantity = .ok changed ∧
      StatefulSet.Sized quantity living.withoutServerFields changed := by
  obtain ⟨template, requests, current, found, made, _⟩ := requested
  rcases setNewDataCapacity_cases living.withoutServerFields quantity with
    ⟨none, _⟩ | ⟨nil, _⟩ | ⟨_, _, changed, set, sized⟩
  · cases found.symm.trans none
  · refine absurd (fun other also => ?_) nil
    obtain rfl : template = other := Option.some.inj (found.symm.trans also)
    simp [made]
  · exact ⟨changed, set, sized⟩

/-- The annotation is the one part of it that matters to the recreation. -/
theorem Library.original_congr {other original : StatefulSet F}
    (same : other.metadata.annotations = sts.metadata.annotations) :
    library.Original other original ↔ library.Original sts original := by
  unfold Library.Original
  rw [same]

theorem Library.original_unique {original other : StatefulSet F}
    (holds : library.Original sts original) (also : library.Original sts other) :
    original = other :=
  Except.ok.inj ((getOriginalSts_ok_iff.mpr holds).symm.trans (getOriginalSts_ok_iff.mpr also))

/-- A snapshot is recreated up to the capacity, unless the annotation holds a data template
that has no requests: the error that is swallowed there is a panic. -/
theorem snapshotAndRecreate_iff (library : Library F) (living : StatefulSet F)
    (quantity : Quantity) (requested : living.RequestsStorage)
    (restored : library.Restores living.withoutServerFields)
    (encoded : ∀ original changed, library.Original living original →
      setNewDataCapacity original quantity = .ok changed → library.RestoresAnnotation changed) :
    (∃ created, snapshotAndRecreate library living quantity = .ok created ∧
        library.Recreates quantity living created) ↔
      ∀ original, library.Original living original → original.Writable := by
  obtain ⟨changed, set, sized⟩ := @setNewDataCapacity_requested F living quantity requested
  have same : changed.metadata.annotations = living.metadata.annotations := by
    rw [sized.metadata]
    rfl
  have metadata : changed.metadata =
      { name := living.metadata.name
        ns := living.metadata.ns
        labels := living.metadata.labels
        annotations := living.metadata.annotations
        ownerReferences := living.metadata.ownerReferences
        finalizers := living.metadata.finalizers } := sized.metadata
  have builds : snapshotAndRecreate library living quantity =
      enrichWithCleanLastAppliedAnnotation library changed quantity := by
    rw [snapshotAndRecreate_eq restored]
    unfold applyPVCModification
    rw [set]
    rfl
  have encoded' : ∀ original changed', library.Original changed original →
      setNewDataCapacity original quantity = .ok changed' →
        library.RestoresAnnotation changed' := by
    intro original changed' holds
    exact encoded original changed' ((Library.original_congr same).mp holds)
  rw [builds]
  rcases enrichWithCleanLastAppliedAnnotation_cases encoded' with
    ⟨none, enriched⟩ | ⟨original, holds, nil, faulty⟩ |
      ⟨original, sizedOriginal, text, holds, writable, sameOriginal, decodes, enriched⟩
  · refine iff_of_true ⟨changed, enriched, ?_⟩ ?_
    · refine ⟨sized.typeMeta, sized.status, ?_, fun key _ => ?_, sized.spec, ?_⟩
      · rw [same]
        exact metadata
      · rw [same]
      · intro original holds found
        exact absurd (none original ((Library.original_congr same).mpr holds)) found
    · intro original holds template found
      cases (none original ((Library.original_congr same).mpr holds)).symm.trans found
  · refine iff_of_false ?_ fun right => ?_
    · rintro ⟨created, built, _⟩
      cases faulty.symm.trans built
    · exact nil (right original ((Library.original_congr same).mp holds))
  · have unique := (Library.original_congr same).mp holds
    refine iff_of_true ⟨_, enriched, ?_⟩ ?_
    · refine ⟨sized.typeMeta, sized.status, ?_, fun key other => ?_, sized.spec, ?_⟩
      · dsimp only
        rw [metadata]
      · dsimp only
        rw [Finmap.lookup_insert_of_ne _ other, same]
      · intro other also _
        obtain rfl := Library.original_unique unique also
        exact ⟨sizedOriginal, ⟨text, Finmap.lookup_insert _, decodes⟩, sameOriginal⟩
    · intro other also
      obtain rfl := Library.original_unique unique also
      exact writable

end Recreation

/-! ## Two snapshots -/

/-- A library that knows the JSON of a few objects. -/
def tableLibrary (table : List (String × StatefulSet Unit)) : Library Unit where
  marshal sts :=
    match table.find? (fun entry => decide (entry.2 = sts)) with
    | some entry => .ok entry.1
    | none => .error "unsupported value"
  unmarshal text :=
    if text = "" then .error "unexpected end of JSON input"
    else
      match table.find? (fun entry => entry.1 == text) with
      | some entry => .ok entry.2
      | none => .error "invalid character"
  deleteNullInJson := .ok
  zipAndBase64EncodeAnnotation := .ok
  originalConfiguration := id
  unmarshal_empty := ⟨_, rfl⟩

def storageRequest (value : ℚ) : GoMap Quantity :=
  (∅ : GoMap Quantity).insert resourceStorage { value := value }

def dataSts (metadata : ObjectMeta) (requests : Option (GoMap Quantity)) : StatefulSet Unit :=
  { metadata := metadata
    spec :=
      { replicas := 3
        volumeClaimTemplates :=
          [{ claim := { name := dataPVCName, requests := requests }, other := () }]
        other := () } }

/-- As read from the server, with an annotation that holds the text `original`. -/
def annotatedSts : StatefulSet Unit :=
  { dataSts
      { name := "dc1-rack1"
        uid := "7f"
        resourceVersion := 12
        annotations := (∅ : GoMap String).insert lastAppliedConfig "original" }
      (some (storageRequest 10)) with
    typeMeta := { kind := "StatefulSet", apiVersion := "apps/v1" }
    status := { replicas := 3, readyReplicas := 3 } }

theorem annotatedSts_requests : annotatedSts.RequestsStorage := by
  refine ⟨_, storageRequest 10, { value := 10 }, rfl, rfl, ?_⟩
  exact Finmap.lookup_insert _

theorem annotatedSts_original {library : Library Unit} {original : StatefulSet Unit}
    (holds : library.Original annotatedSts original) :
    library.unmarshal (library.originalConfiguration "original") = .ok original := by
  obtain ⟨text, found, decoded⟩ := holds
  have named : annotatedSts.metadata.annotations.lookup lastAppliedConfig = some "original" :=
    Finmap.lookup_insert _
  obtain rfl : "original" = text := Option.some.inj (named.symm.trans found)
  exact decoded

def originalMeta : ObjectMeta := { name := "dc1-rack1" }

/-- The annotation holds the StatefulSet that the operator sent. -/
def sentLibrary : Library Unit :=
  tableLibrary
    [("snapshot", annotatedSts.withoutServerFields),
      ("original", dataSts originalMeta (some (storageRequest 10))),
      ("resized", dataSts originalMeta (some (storageRequest 20)))]

theorem annotatedSts_recreated :
    ∃ created, snapshotAndRecreate sentLibrary annotatedSts { value := 20 } = .ok created ∧
      sentLibrary.Recreates { value := 20 } annotatedSts created := by
  have decoded : ∀ original, sentLibrary.Original annotatedSts original →
      original = dataSts originalMeta (some (storageRequest 10)) := by
    intro original holds
    have known : sentLibrary.unmarshal (sentLibrary.originalConfiguration "original") =
        .ok (dataSts originalMeta (some (storageRequest 10))) := rfl
    exact Except.ok.inj ((annotatedSts_original holds).symm.trans known)
  refine (snapshotAndRecreate_iff sentLibrary annotatedSts { value := 20 }
    annotatedSts_requests ⟨"snapshot", by decide +kernel, rfl⟩ ?_).mpr ?_
  · intro original changed holds set
    obtain rfl := decoded original holds
    have resized : setNewDataCapacity (dataSts originalMeta (some (storageRequest 10)))
        { value := 20 } = .ok (dataSts originalMeta (some (storageRequest 20))) := by
      decide +kernel
    obtain rfl := Except.ok.inj (resized.symm.trans set)
    exact ⟨"resized", by decide +kernel, rfl⟩
  · intro original holds template found
    obtain rfl := decoded original holds
    cases found
    exact Option.some_ne_none _

/-- The annotation holds a data template without requests. -/
def bareLibrary : Library Unit :=
  tableLibrary
    [("snapshot", annotatedSts.withoutServerFields), ("original", dataSts originalMeta none)]

theorem annotatedSts_panics :
    annotatedSts.RequestsStorage ∧ bareLibrary.Restores annotatedSts.withoutServerFields ∧
      bareLibrary.Original annotatedSts (dataSts originalMeta none) ∧
      (dataSts originalMeta none).spec.dataTemplate? ≠ none ∧
      snapshotAndRecreate bareLibrary annotatedSts { value := 20 } = .error .fault := by
  refine ⟨annotatedSts_requests, ⟨"snapshot", by decide +kernel, rfl⟩,
    ⟨"original", Finmap.lookup_insert _, rfl⟩, by decide, by decide +kernel⟩

/-! ## The passes -/

theorem setNewDataCapacity_view (sts : StatefulSet F) (quantity : Quantity) :
    Casskop.setNewDataCapacity sts.view quantity =
      match setNewDataCapacity sts quantity with
      | .ok changed => .updated changed.view
      | .error (.error _) => .noDataClaim
      | .error .fault => .fault := by
  have position : (sts.spec.volumeClaimTemplates.map ClaimTemplate.claim).findIdx?
      (fun claim => claim.name == dataPVCName) =
        sts.spec.volumeClaimTemplates.findIdx? ClaimTemplate.isData := by
    rw [List.findIdx?_map]
    rfl
  unfold Casskop.setNewDataCapacity setNewDataCapacity StatefulSet.view
  dsimp only
  rw [position]
  cases sts.spec.volumeClaimTemplates.findIdx? ClaimTemplate.isData with
  | none => rfl
  | some index =>
    dsimp only
    have modified := Positions.map_modify_comm sts.spec.volumeClaimTemplates index
      (ClaimTemplate.request quantity) ClaimTemplate.claim (setStorageRequest quantity)
      fun _ => rfl
    rw [← modified, List.getElem?_map, Option.any_map]
    by_cases nil : (sts.spec.volumeClaimTemplates[index]?).any
        (fun template => template.claim.requests.isNone) = true
    · rw [if_pos nil, if_pos nil]
    · rw [if_neg nil, if_neg nil]

theorem enrichWithCleanLastAppliedAnnotation_view {library : Library F}
    {sts created : StatefulSet F} {quantity : Quantity}
    (enriched : enrichWithCleanLastAppliedAnnotation library sts quantity = .ok created) :
    created.view = sts.view := by
  unfold enrichWithCleanLastAppliedAnnotation at enriched
  split at enriched
  · cases enriched
    rfl
  split at enriched
  · cases enriched
  · cases enriched
    rfl
  split at enriched
  · cases enriched
    rfl
  · cases enriched
    rfl

/-- What the passes see is the snapshot and the recreation of what they see. -/
theorem snapshotAndRecreate_view {library : Library F} {living created : StatefulSet F}
    {quantity : Quantity} (restored : library.Restores living.withoutServerFields)
    (built : snapshotAndRecreate library living quantity = .ok created) :
    Casskop.setNewDataCapacity (Casskop.prepareStatefulSetSnapshot living.view) quantity =
      .updated created.view := by
  rw [snapshotAndRecreate_eq restored] at built
  unfold applyPVCModification at built
  have cleared : Casskop.prepareStatefulSetSnapshot living.view =
      living.withoutServerFields.view := rfl
  rw [cleared, setNewDataCapacity_view]
  cases set : setNewDataCapacity living.withoutServerFields quantity with
  | error failure =>
    rw [set] at built
    cases built
  | ok changed =>
    rw [set] at built
    exact congrArg Capacity.updated (enrichWithCleanLastAppliedAnnotation_view built).symm

theorem annotatedSts_recreated_view : ∃ created,
    snapshotAndRecreate sentLibrary annotatedSts { value := 20 } = .ok created ∧
      Casskop.setNewDataCapacity (Casskop.prepareStatefulSetSnapshot annotatedSts.view)
        { value := 20 } = .updated created.view := by
  have restored : sentLibrary.Restores annotatedSts.withoutServerFields :=
    ⟨"snapshot", by decide +kernel, rfl⟩
  have succeeds : (snapshotAndRecreate sentLibrary annotatedSts { value := 20 }).isOk = true := by
    decide +kernel
  cases built : snapshotAndRecreate sentLibrary annotatedSts { value := 20 } with
  | ok created => exact ⟨created, rfl, snapshotAndRecreate_view restored built⟩
  | error =>
    rw [built] at succeeds
    cases succeeds

end Casskop.Appsv1
