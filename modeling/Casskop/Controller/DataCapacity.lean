import Casskop.Controller.UpsizeSteps
import Casskop.Library.Positions

/-!
# The data capacity that is written

Outside an upsize `RevertAnyStorageUpsizeBeyondUpsizeAction` puts the stored capacity back
into the StatefulSet to write.  In an upsize `ensureAllPVCsHaveNewCapacity` compares the
claims with the requested capacity by `==`, which tells apart two notations of one value,
and two pointers to one decimal.
-/

namespace Casskop

/-! ## The capacity that is put back -/

/-- The StatefulSet with the storage request of its data template blanked. -/
def StatefulSet.blanked (sts : StatefulSet) : StatefulSet :=
  match findDataCapacity sts.spec.volumeClaimTemplates with
  | none => sts
  | some (index, _) =>
    { sts with
      spec :=
        { sts.spec with
          volumeClaimTemplates := sts.spec.volumeClaimTemplates.modify index
            (setStorageRequest .zero) } }

/-- The function returns, the data request is the stored one, a missing one being the zero
quantity of `findDataCapacity`, and the rest is what it was. -/
def KeepsCapacity (rack : CassandraRackStatus) (stored sts : StatefulSet) : Prop :=
  ∃ written, revertAnyStorageUpsize rack stored sts = some written ∧
    (dataCapacity written.spec.volumeClaimTemplates).value =
      (dataCapacity stored.spec.volumeClaimTemplates).value ∧
    written.blanked = sts.blanked

section Templates

variable {templates : List PersistentVolumeClaim} {index : Nat} {request : Quantity}

theorem setStorageRequest_storageOf (quantity : Quantity) (claim : PersistentVolumeClaim) :
    storageOf (setStorageRequest quantity claim) = quantity := by
  simp [storageOf, setStorageRequest]

theorem setStorageRequest_comp (first second : Quantity) :
    setStorageRequest second ∘ setStorageRequest first = setStorageRequest second := by
  funext claim
  simp [setStorageRequest, Finmap.insert_insert]

theorem findDataCapacity_eq_some (found : findDataCapacity templates = some (index, request)) :
    ∃ template, templates[index]? = some template ∧
      templates.findIdx? (fun template => template.name == dataPVCName) = some index ∧
      storageOf template = request := by
  unfold findDataCapacity at found
  split at found
  · cases found
  rename_i position first
  split at found
  · cases found
  · rename_i template here
    cases found
    exact ⟨template, here, first, rfl⟩

theorem findDataCapacity_setStorageRequest
    (found : findDataCapacity templates = some (index, request)) (quantity : Quantity) :
    findDataCapacity (templates.modify index (setStorageRequest quantity)) =
      some (index, quantity) := by
  obtain ⟨template, here, first, _⟩ := findDataCapacity_eq_some found
  have names : ∀ claims : List PersistentVolumeClaim,
      claims.findIdx? (fun template => template.name == dataPVCName) =
        (claims.map PersistentVolumeClaim.name).findIdx? fun name => name == dataPVCName := by
    intro claims
    rw [List.findIdx?_map]
    rfl
  have kept : (templates.modify index (setStorageRequest quantity)).map
      PersistentVolumeClaim.name = templates.map PersistentVolumeClaim.name :=
    Positions.map_modify_same _ _ _ _ fun _ => rfl
  have still : (templates.modify index (setStorageRequest quantity)).findIdx?
      (fun template => template.name == dataPVCName) = some index := by
    rw [names, kept, ← names, first]
  unfold findDataCapacity
  rw [still]
  dsimp only
  rw [List.getElem?_modify_eq, here]
  exact congrArg (fun request => some (index, request))
    (setStorageRequest_storageOf quantity template)

end Templates

theorem StatefulSet.blanked_setStorageRequest {sts : StatefulSet} {index : Nat}
    {request : Quantity}
    (found : findDataCapacity sts.spec.volumeClaimTemplates = some (index, request))
    (quantity : Quantity) :
    StatefulSet.blanked
      { sts with
        spec :=
          { sts.spec with
            volumeClaimTemplates := sts.spec.volumeClaimTemplates.modify index
              (setStorageRequest quantity) } } = sts.blanked := by
  unfold StatefulSet.blanked
  rw [found, findDataCapacity_setStorageRequest found]
  dsimp only
  rw [List.modify_modify_eq, setStorageRequest_comp]

/-- Outside an upsize the stored capacity is kept unless it has nowhere to go. -/
theorem revertAnyStorageUpsize_keeps_iff (rack : CassandraRackStatus) (stored sts : StatefulSet)
    (idle : isStorageUpsizeStarted rack = false) :
    KeepsCapacity rack stored sts ↔
      (findDataCapacity sts.spec.volumeClaimTemplates).isSome = true ∨
        (dataCapacity stored.spec.volumeClaimTemplates).value = 0 := by
  unfold KeepsCapacity revertAnyStorageUpsize
  rw [if_neg (by simp [idle])]
  dsimp only
  cases found : findDataCapacity sts.spec.volumeClaimTemplates with
  | none =>
    -- Nothing to write to: the capacities have to be equal.
    have zero : dataCapacity sts.spec.volumeClaimTemplates = .zero := by
      simp [dataCapacity, found]
    rw [zero]
    constructor
    · rintro ⟨written, returned, _⟩
      split at returned
      · rename_i equal
        exact Or.inr (beq_iff_eq.mp equal).symm
      · cases returned
    · rintro (impossible | none)
      · cases impossible
      · have equal : Quantity.zero.equal (dataCapacity stored.spec.volumeClaimTemplates) = true :=
          beq_iff_eq.mpr none.symm
        refine ⟨sts, if_pos equal, ?_, rfl⟩
        rw [zero, none]
        rfl
  | some data =>
    obtain ⟨index, request⟩ := data
    refine ⟨fun _ => Or.inl rfl, fun _ => ?_⟩
    split
    · rename_i equal
      exact ⟨sts, rfl, beq_iff_eq.mp equal, rfl⟩
    · refine ⟨_, rfl, ?_, StatefulSet.blanked_setStorageRequest found _⟩
      unfold dataCapacity
      rw [findDataCapacity_setStorageRequest found]
      rfl

def sized (capacity : ℚ) : StatefulSet :=
  { name := "cassandra-dc1-rack1"
    spec :=
      { replicas := 3
        volumeClaimTemplates :=
          [setStorageRequest { value := capacity } { name := dataPVCName }] } }

/-- A StatefulSet without claim templates, as generated for an empty capacity. -/
def unsized : StatefulSet := { name := "cassandra-dc1-rack1", spec := { replicas := 3 } }

theorem revertAnyStorageUpsize_keeps_sized :
    KeepsCapacity {} (sized 10) (sized 20) ↔
      (findDataCapacity (sized 20).spec.volumeClaimTemplates).isSome = true ∨
        (dataCapacity (sized 10).spec.volumeClaimTemplates).value = 0 :=
  revertAnyStorageUpsize_keeps_iff {} (sized 10) (sized 20) rfl

/-- The index of the missing template is -1. -/
theorem revertAnyStorageUpsize_faults :
    isStorageUpsizeStarted {} = false ∧ revertAnyStorageUpsize {} (sized 10) unsized = none ∧
      ¬ KeepsCapacity {} (sized 10) unsized := by
  have faults : revertAnyStorageUpsize {} (sized 10) unsized = none := by decide
  refine ⟨rfl, faults, ?_⟩
  rintro ⟨written, returned, _⟩
  rw [faults] at returned
  cases returned

/-! ## The claims that are resized -/

/-- What `ParseQuantity` makes of a text. -/
inductive ParsedQuantity where
  | amount (value : ℚ)
  | decimal (value : ℚ)

namespace ParsedQuantity

def value : ParsedQuantity → ℚ
  | amount value => value
  | decimal value => value

/-- The struct in memory; a decimal is put where there is room. -/
def held (text : String) (address : Nat) : ParsedQuantity → Quantity
  | amount value => { value := value, form := .amount text }
  | decimal value => { value := value, form := .decimal address }

@[simp] theorem held_value (parsed : ParsedQuantity) (text : String) (address : Nat) :
    (parsed.held text address).value = parsed.value := by
  cases parsed <;> rfl

end ParsedQuantity

/-- `ParseQuantity`, and the text that is sent for a decimal.  For an amount that is the
text it was parsed from. -/
structure QuantityLibrary where
  parse : String → Option ParsedQuantity
  canonical : String → String
  empty : parse "" = none

namespace QuantityLibrary

variable (library : QuantityLibrary)

/-- `silentParseResourceQuantity`, which is also how a quantity is read from the API. -/
def silentParse (text : String) (address : Nat) : Quantity :=
  match library.parse text with
  | none => .zero
  | some parsed => parsed.held text address

/-- The text of a quantity on its way to the API. -/
def sent (text : String) : String :=
  match library.parse text with
  | some (.decimal _) => library.canonical text
  | _ => text

end QuantityLibrary

/-- A claim as the API server keeps it. -/
structure KeptClaim where
  name : String
  storage : Option String

/-- Addresses of one execution.  The requested capacity is none of the claims'. -/
structure Allocation where
  requested : Nat
  claims : KeptClaim → Nat
  fresh : ∀ claim, claims claim ≠ requested

namespace KeptClaim

variable (library : QuantityLibrary) (allocation : Allocation)

def read (claim : KeptClaim) : PersistentVolumeClaim :=
  { name := claim.name
    requests := claim.storage.map fun text =>
      (∅ : GoMap Quantity).insert resourceStorage
        (library.silentParse text (allocation.claims claim)) }

def value (claim : KeptClaim) : ℚ :=
  ((claim.storage.bind library.parse).map ParsedQuantity.value).getD 0

end KeptClaim

section Resize

variable (library : QuantityLibrary) (kept : List KeptClaim) (text : String)

/-- `ensureAllPVCsHaveNewCapacity` on claims read from the API. -/
def resizeClaims (allocation : Allocation) (rack : CassandraRackStatus) (answers : UpsizeAnswers) :
    UpsizeStep :=
  ensureAllPVCsHaveNewCapacity (library.silentParse text allocation.requested)
    (kept.map (KeptClaim.read library allocation)) rack answers

/-- The claims once all updates have been made. -/
def keptAfter (effects : List Effect) : List KeptClaim :=
  kept.map fun claim =>
    if effects.any (fun effect =>
        match effect with
        | .updatePVC name _ => name == claim.name
        | _ => false) then
      { claim with storage := some (library.sent text) }
    else claim

/-- The claims that ask for another value are updated, and then there are none. -/
structure ResizeConverges : Prop where
  exact : ∀ allocation rack answers,
    (resizeClaims library kept text allocation rack answers).effects =
      (kept.filter fun claim =>
        claim.value library ≠ (library.silentParse text allocation.requested).value).map
        fun claim => .updatePVC claim.name (library.silentParse text allocation.requested)
  settles : ∀ allocation rack answers, (∀ name, answers.updateClaim name = .ok ()) →
    ∀ allocation' rack' answers',
      let next := resizeClaims library
        (keptAfter library kept text
          (resizeClaims library kept text allocation rack answers).effects)
        text allocation' rack' answers'
      next.effects = [] ∧ next.result = .pass

end Resize

/-! ## Which claims are equal to the request -/

variable {text : String} {kept : List KeptClaim}

theorem resizeClaims_passes {library : QuantityLibrary} {allocation : Allocation}
    {rack : CassandraRackStatus} {answers : UpsizeAnswers}
    (quiet : (resizeClaims library kept text allocation rack answers).effects = []) :
    (resizeClaims library kept text allocation rack answers).result = .pass := by
  unfold resizeClaims ensureAllPVCsHaveNewCapacity at quiet ⊢
  have none := List.map_eq_nil_iff.mp quiet
  dsimp only
  rw [none]
  rfl

def ParsedQuantity.isAmount : ParsedQuantity → Bool
  | amount _ => true
  | decimal _ => false

/-- `==` tells the claim and the request apart. -/
def KeptClaim.asksOtherwise (parsed : ParsedQuantity) (text : String) (claim : KeptClaim) : Bool :=
  !(parsed.isAmount && claim.storage == some text)

@[simp] theorem KeptClaim.asksOtherwise_eq_false {parsed : ParsedQuantity} {claim : KeptClaim} :
    claim.asksOtherwise parsed text = false ↔
      parsed.isAmount = true ∧ claim.storage = some text := by
  simp [asksOtherwise]

section Converges

variable {library : QuantityLibrary} {parsed : ParsedQuantity}
  (parses : library.parse text = some parsed)

include parses

theorem QuantityLibrary.silentParse_eq (address : Nat) :
    library.silentParse text address = parsed.held text address := by
  simp [silentParse, parses]

theorem ParsedQuantity.held_ne_zero (address : Nat) : parsed.held text address ≠ .zero := by
  intro same
  cases parsed with
  | amount value =>
    have noText : text = "" := QuantityForm.amount.inj (congrArg Quantity.form same)
    rw [noText, library.empty] at parses
    cases parses
  | decimal value => cases congrArg Quantity.form same

/-- A claim is equal to the request when both are the amount of one text. -/
theorem KeptClaim.storageOf_read_iff (claim : KeptClaim) (allocation : Allocation) :
    storageOf (claim.read library allocation) = parsed.held text allocation.requested ↔
      parsed.isAmount = true ∧ claim.storage = some text := by
  have unequal := ParsedQuantity.held_ne_zero parses allocation.requested
  unfold storageOf KeptClaim.read
  cases stored : claim.storage with
  | none => simpa using unequal.symm
  | some own =>
    simp only [Option.map_some, Option.getD_some, Finmap.lookup_insert, Option.some.injEq]
    unfold QuantityLibrary.silentParse
    cases read : library.parse own with
    | none =>
      refine ⟨fun same => absurd same.symm unequal, fun same => ?_⟩
      rw [same.2, parses] at read
      cases read
    | some other =>
      constructor
      · intro same
        have forms := congrArg Quantity.form same
        cases other with
        | amount value =>
          cases parsed with
          | amount wanted => exact ⟨rfl, QuantityForm.amount.inj forms⟩
          | decimal wanted => cases forms
        | decimal value =>
          cases parsed with
          | amount wanted => cases forms
          | decimal wanted =>
            exact absurd (QuantityForm.decimal.inj forms) (allocation.fresh claim)
      · rintro ⟨isAmount, rfl⟩
        rw [parses] at read
        cases read
        cases parsed with
        | amount value => rfl
        | decimal value => cases isAmount

theorem resizeClaims_effects (kept : List KeptClaim) (allocation : Allocation)
    (rack : CassandraRackStatus) (answers : UpsizeAnswers) :
    (resizeClaims library kept text allocation rack answers).effects =
      (kept.filter (KeptClaim.asksOtherwise parsed text)).map
        fun claim => .updatePVC claim.name (parsed.held text allocation.requested) := by
  unfold resizeClaims ensureAllPVCsHaveNewCapacity
  rw [QuantityLibrary.silentParse_eq parses]
  dsimp only
  rw [List.filter_map, List.map_map]
  refine congrArg (List.map _) (List.filter_congr fun claim _ => ?_)
  have equal := KeptClaim.storageOf_read_iff parses claim allocation
  rw [← KeptClaim.asksOtherwise_eq_false] at equal
  cases otherwise : claim.asksOtherwise parsed text <;> simp [bne, equal, otherwise]

theorem KeptClaim.asksOtherwise_of_value {claim : KeptClaim}
    (differs : claim.value library ≠ parsed.value) : claim.asksOtherwise parsed text = true := by
  by_contra equal
  have same := KeptClaim.asksOtherwise_eq_false.mp (Bool.not_eq_true _ ▸ equal)
  exact differs (by simp [KeptClaim.value, same.2, parses])

theorem resize_exact_iff (kept : List KeptClaim) (allocation : Allocation)
    (rack : CassandraRackStatus) (answers : UpsizeAnswers) :
    (resizeClaims library kept text allocation rack answers).effects =
        (kept.filter fun claim =>
          claim.value library ≠ (library.silentParse text allocation.requested).value).map
          (fun claim => .updatePVC claim.name
            (library.silentParse text allocation.requested)) ↔
      ∀ claim ∈ kept, claim.value library = parsed.value →
        parsed.isAmount = true ∧ claim.storage = some text := by
  rw [resizeClaims_effects parses, QuantityLibrary.silentParse_eq parses,
    ParsedQuantity.held_value]
  constructor
  · intro same claim member value
    -- What differs in value is among what differs at all, so equal lengths make them one.
    have sublist : (kept.filter fun claim => decide (claim.value library ≠ parsed.value)).Sublist
        (kept.filter (KeptClaim.asksOtherwise parsed text)) := by
      refine List.monotone_filter_right kept fun claim differs => ?_
      exact KeptClaim.asksOtherwise_of_value parses (of_decide_eq_true differs)
    have lengths := congrArg List.length same
    rw [List.length_map, List.length_map] at lengths
    have filters := sublist.eq_of_length lengths.symm
    rw [← KeptClaim.asksOtherwise_eq_false, ← Bool.not_eq_true]
    intro otherwise
    have selected : claim ∈ kept.filter (KeptClaim.asksOtherwise parsed text) :=
      List.mem_filter.mpr ⟨member, otherwise⟩
    rw [← filters] at selected
    exact (of_decide_eq_true (List.mem_filter.mp selected).2) value
  · intro same
    refine congrArg (List.map _) (List.filter_congr fun claim member => ?_)
    by_cases value : claim.value library = parsed.value
    · rw [KeptClaim.asksOtherwise_eq_false.mpr (same claim member value)]
      simp [value]
    · rw [KeptClaim.asksOtherwise_of_value parses value]
      simp [value]

theorem keptAfter_storage (amount : parsed.isAmount = true) (allocation : Allocation)
    (rack : CassandraRackStatus) (answers : UpsizeAnswers) :
    ∀ claim ∈ keptAfter library kept text
        (resizeClaims library kept text allocation rack answers).effects,
      claim.storage = some text := by
  intro claim member
  obtain ⟨before, present, rfl⟩ := List.mem_map.mp member
  rw [resizeClaims_effects parses]
  split
  · cases parsed with
    | amount value => simp [QuantityLibrary.sent, parses]
    | decimal value => cases amount
  · rename_i untouched
    suffices equal : before.asksOtherwise parsed text = false from
      (KeptClaim.asksOtherwise_eq_false.mp equal).2
    rw [← Bool.not_eq_true]
    intro otherwise
    have updated := List.mem_map_of_mem
      (f := fun claim : KeptClaim =>
        Effect.updatePVC claim.name (parsed.held text allocation.requested))
      (List.mem_filter.mpr ⟨present, otherwise⟩)
    exact untouched (List.any_eq_true.mpr ⟨_, updated, beq_self_eq_true before.name⟩)

theorem resize_settles (kept : List KeptClaim) (amount : parsed.isAmount = true)
    (allocation allocation' : Allocation) (rack rack' : CassandraRackStatus)
    (answers answers' : UpsizeAnswers) :
    (resizeClaims library
      (keptAfter library kept text (resizeClaims library kept text allocation rack answers).effects)
      text allocation' rack' answers').effects = [] := by
  rw [resizeClaims_effects parses]
  refine List.map_eq_nil_iff.mpr (List.filter_eq_nil_iff.mpr fun claim member => ?_)
  have texts := keptAfter_storage parses amount allocation rack answers claim member
  rw [Bool.not_eq_true]
  exact KeptClaim.asksOtherwise_eq_false.mpr ⟨amount, texts⟩

/-- A pointer is never equal to the one of the request. -/
theorem resize_decimal (decimal : parsed.isAmount = false) (allocation : Allocation)
    (rack : CassandraRackStatus) (answers : UpsizeAnswers)
    (quiet : (resizeClaims library kept text allocation rack answers).effects = []) :
    kept = [] := by
  rw [resizeClaims_effects parses] at quiet
  have all := List.filter_eq_nil_iff.mp (List.map_eq_nil_iff.mp quiet)
  refine List.eq_nil_iff_forall_not_mem.mpr fun claim member => all claim member ?_
  simp [KeptClaim.asksOtherwise, decimal]

end Converges

/-- One address for the claims and another for the request. -/
def apart : Allocation := { requested := 0, claims := fun _ => 1, fresh := fun _ => by decide }

def resizeAnswers : UpsizeAnswers :=
  { delete := .ok (), create := .ok (), claims := .ok [], updateClaim := fun _ => .ok ()
    pods := .ok [] }

/-- Three notations; the last has a fraction and becomes a decimal. -/
def gibibytes : QuantityLibrary :=
  { parse := fun text =>
      if text = "1Gi" ∨ text = "1024Mi" then some (.amount 1073741824)
      else if text = "1.5Gi" then some (.decimal 1610612736)
      else none
    canonical := fun _ => "1536Mi"
    empty := by decide }

def oneClaim : List KeptClaim :=
  [{ name := "data-cassandra-dc1-rack1-0", storage := some "1Gi" }]

end Casskop
