import Casskop.Kube.Objects

/-!
# The order of the pods of a rack

`sortPodsList` hands the numbers at the end of the pod names to `sort.Slice`.  The names of a
rack's pods differ in their ordinals only, so that however the slice is sorted, the pods end
up where their ordinals say.
-/

namespace Casskop

/-! ## Slices -/

/-- A slice, whose length is an `int`. -/
structure Slice (α : Type) where
  items : List α
  short : items.length < 2 ^ 63

/-- `sort.Slice`, which is not stable: it sorts by a strict weak order in some way. -/
structure SliceSort (α : Type) where
  sort : (α → α → Bool) → List α → List α
  perm : ∀ less items, (sort less items).Perm items
  sorted : ∀ less, IsStrictWeakOrder α (fun a b => less a b = true) →
    ∀ items, (sort less items).Pairwise fun a b => less b a = false

section Insertion

variable {α : Type} {less : α → α → Bool} [order : IsStrictWeakOrder α fun a b => less a b = true]

instance notLess_total : Std.Total fun a b : α => less b a = false where
  total a b := by
    by_cases greater : less b a = true
    · right
      exact Bool.eq_false_iff.mpr fun smaller => order.irrefl a (order.trans a b a smaller greater)
    · left
      exact Bool.eq_false_iff.mpr greater

instance notLess_trans : IsTrans α fun a b => less b a = false where
  trans a b c first second := by
    rw [Bool.eq_false_iff] at first second ⊢
    intro smaller
    -- `b` is neither below nor above the other two, which it would then not tell apart.
    have left : ¬ less a b = true := fun below => second (order.trans c a b smaller below)
    have right : ¬ less b c = true := fun below => first (order.trans b c a below smaller)
    exact (order.incomp_trans a b c ⟨left, first⟩ ⟨right, second⟩).2 smaller

end Insertion

/-- Insertion sort is such a sort. -/
def SliceSort.insertion (α : Type) : SliceSort α where
  sort less items := items.insertionSort fun a b => less b a = false
  perm _ items := List.perm_insertionSort _ items
  sorted _ _ items := List.pairwise_insertionSort _ items

/-! ## Pods -/

/-- What `strconv.Atoi` makes of the digits at the end of a name: it stops at the greatest
`int`, and its error is dropped. -/
def podId (name : String) : Nat := min (endingNumber name) (2 ^ 63 - 1)

def podLess (pod other : Pod) : Bool := decide (podId pod.name < podId other.name)

namespace SliceSort

variable (slice : SliceSort Pod) (podsList : Slice Pod)

def sortPodsList : Slice Pod :=
  { items := slice.sort podLess podsList.items
    short := (slice.perm podLess podsList.items).length_eq ▸ podsList.short }

/-- `GetLastOrFirstPodItem`.  The list is sorted in place before it is indexed. -/
def getLastOrFirstPodItem (last : Bool) : Option Pod :=
  let nb := podsList.items.length
  if nb < 1 then none
  else (slice.sortPodsList podsList).items[if last then nb - 1 else 0]?

end SliceSort

instance podLess_strictWeakOrder :
    IsStrictWeakOrder Pod (fun pod other => podLess pod other = true) where
  irrefl pod := by simp [podLess]
  trans pod other third := by
    simp only [podLess, decide_eq_true_eq]
    exact lt_trans
  incomp_trans pod other third := by
    simp only [podLess, decide_eq_true_eq]
    omega

/-! ## Ordinals -/

/-- The name of a pod of the StatefulSet. -/
def ordinalName (stem : String) (ordinal : Nat) : String := stem ++ "-" ++ toString ordinal

/-- The dash keeps digits at the end of the stem apart. -/
theorem endingNumber_ordinalName (stem : String) (ordinal : Nat) :
    endingNumber (ordinalName stem ordinal) = ordinal := by
  have digits : ((ordinalName stem ordinal).toList.reverse.takeWhile Char.isDigit).reverse =
      Nat.toDigits 10 ordinal := by
    have named : (ordinalName stem ordinal).toList =
        stem.toList ++ '-' :: Nat.toDigits 10 ordinal := by
      simp [ordinalName, Nat.toString_eq_repr]
    have every : ∀ digit ∈ (Nat.toDigits 10 ordinal).reverse, digit.isDigit = true := by
      intro digit member
      exact Nat.isDigit_of_mem_toDigits (by decide) (by decide) (List.mem_reverse.mp member)
    rw [named, List.reverse_append, List.reverse_cons, List.append_assoc,
      List.takeWhile_append_of_pos every]
    simp
  calc
    endingNumber (ordinalName stem ordinal)
      = Nat.ofDigitChars 10 (Nat.toDigits 10 ordinal) 0 := congrArg (Nat.ofDigitChars 10 · 0) digits
    _ = ordinal := Nat.ofDigitChars_toDigits (by decide) (by decide)

theorem podId_ordinalName (stem : String) {ordinal : Nat} (short : ordinal < 2 ^ 63) :
    podId (ordinalName stem ordinal) = ordinal := by
  rw [podId, endingNumber_ordinalName]
  omega

theorem podId_mono {name other : String} (least : endingNumber name ≤ endingNumber other) :
    podId name ≤ podId other := by
  unfold podId
  exact min_le_min_right _ least

/-! ## Sorted racks -/

/-- The pods with the ordinals below `n`, in any order. -/
def RackPods (stem : String) (n : Nat) (pods : List Pod) : Prop :=
  (pods.map Pod.name).Perm ((List.range n).map (ordinalName stem))

namespace RackPods

variable {stem : String} {n : Nat} {pods sorted : List Pod}

theorem length_eq (rack : RackPods stem n pods) : pods.length = n := by
  simpa using List.Perm.length_eq rack

theorem name_eq (short : n < 2 ^ 63) {name : String}
    (member : name ∈ (List.range n).map (ordinalName stem)) :
    name = ordinalName stem (podId name) := by
  obtain ⟨ordinal, below, rfl⟩ := List.mem_map.mp member
  rw [podId_ordinalName stem ((List.mem_range.mp below).trans short)]

/-- However the pods of a rack are sorted, their names are in the order of the ordinals. -/
theorem names_eq (rack : RackPods stem n pods) (short : n < 2 ^ 63) (perm : sorted.Perm pods)
    (ascending : sorted.Pairwise fun pod other => podId pod.name ≤ podId other.name) :
    sorted.map Pod.name = (List.range n).map (ordinalName stem) := by
  have same := (perm.map Pod.name).trans rack
  refine @List.Perm.eq_of_pairwise _ (fun name other => podId name ≤ podId other) _ _ ?_ ?_ ?_ same
  · intro name other member otherMember least greatest
    rw [name_eq short (same.subset member), name_eq short otherMember,
      Nat.le_antisymm least greatest]
  · exact List.pairwise_map.mpr ascending
  · apply List.pairwise_map.mpr
    apply List.pairwise_le_range.imp_of_mem
    intro position other below otherBelow least
    rw [podId_ordinalName stem ((List.mem_range.mp below).trans short),
      podId_ordinalName stem ((List.mem_range.mp otherBelow).trans short)]
    exact least

theorem nodup_names (rack : RackPods stem n pods) : (pods.map Pod.name).Nodup := by
  apply (List.Perm.nodup_iff rack).mpr
  apply List.nodup_range.map
  intro ordinal other same
  rw [← endingNumber_ordinalName stem ordinal, same, endingNumber_ordinalName]

/-- So there is one way to sort them. -/
theorem sorted_eq {sorted' : List Pod} (rack : RackPods stem n pods) (short : n < 2 ^ 63)
    (perm : sorted.Perm pods) (perm' : sorted'.Perm pods)
    (ascending : sorted.Pairwise fun pod other => podId pod.name ≤ podId other.name)
    (ascending' : sorted'.Pairwise fun pod other => podId pod.name ≤ podId other.name) :
    sorted = sorted' := by
  refine List.Perm.eq_of_pairwise ?_ ascending ascending' (perm.trans perm'.symm)
  intro pod other member otherMember least greatest
  have listed := perm.subset member
  have otherListed := perm'.subset otherMember
  apply List.inj_on_of_nodup_map rack.nodup_names listed otherListed
  rw [name_eq short (List.Perm.subset rack (List.mem_map_of_mem listed)),
    name_eq short (List.Perm.subset rack (List.mem_map_of_mem otherListed)),
    Nat.le_antisymm least greatest]

theorem getElem?_name (names : sorted.map Pod.name = (List.range n).map (ordinalName stem))
    {position : Nat} (below : position < n) :
    ∃ pod, sorted[position]? = some pod ∧ pod.name = ordinalName stem position := by
  have here := congrArg (fun names => names[position]?) names
  simpa [List.getElem?_range below] using here

end RackPods

theorem SliceSort.sortPodsList_ascending (slice : SliceSort Pod) (podsList : Slice Pod) :
    (slice.sortPodsList podsList).items.Pairwise fun pod other =>
      podId pod.name ≤ podId other.name := by
  apply (slice.sorted podLess podLess_strictWeakOrder podsList.items).imp
  intro pod other least
  simpa [podLess] using least

/-- Pods are ordered by ordinal, by any sort. -/
theorem sortPodsList_by_ordinal (slice : SliceSort Pod) (stem : String) (n : Nat)
    (podsList : Slice Pod) (rack : RackPods stem n podsList.items) :
    (slice.sortPodsList podsList).items.Perm podsList.items ∧
      (∀ k < n, ∃ pod, (slice.sortPodsList podsList).items[k]? = some pod ∧
        pod.name = ordinalName stem k) ∧
      (0 < n →
        (∃ pod, slice.getLastOrFirstPodItem podsList true = some pod ∧
          pod.name = ordinalName stem (n - 1)) ∧
        ∃ pod, slice.getLastOrFirstPodItem podsList false = some pod ∧
          pod.name = ordinalName stem 0) := by
  have perm := slice.perm podLess podsList.items
  have short : n < 2 ^ 63 := rack.length_eq ▸ podsList.short
  have names := rack.names_eq short perm (slice.sortPodsList_ascending podsList)
  refine ⟨perm, fun k below => RackPods.getElem?_name names below, fun nonempty => ?_⟩
  have size : ¬ podsList.items.length < 1 := by
    rw [rack.length_eq]
    exact Nat.not_lt.mpr nonempty
  unfold SliceSort.getLastOrFirstPodItem
  dsimp only
  rw [if_neg size, if_neg size, rack.length_eq]
  exact ⟨RackPods.getElem?_name names (Nat.sub_lt nonempty Nat.one_pos),
    RackPods.getElem?_name names nonempty⟩

/-- The twelve pods of a rack whose name ends in a digit, in the order of their names. -/
def twelvePods : Slice Pod where
  items := [0, 1, 10, 11, 2, 3, 4, 5, 6, 7, 8, 9].map fun ordinal =>
    { name := ordinalName "demo-dc1-rack1" ordinal }
  short := by decide

theorem twelvePods_by_ordinal :
    ∃ pod, (SliceSort.insertion Pod).getLastOrFirstPodItem twelvePods true = some pod ∧
      pod.name = "demo-dc1-rack1-11" := by
  have rack : RackPods "demo-dc1-rack1" 12 twelvePods.items := by
    unfold RackPods twelvePods
    rw [List.map_map]
    exact List.Perm.map _ (by decide)
  obtain ⟨_, _, ends⟩ := sortPodsList_by_ordinal (.insertion Pod) _ _ twelvePods rack
  exact (ends (by decide)).1

/-- The passes sort in their own way, which makes no difference. -/
theorem SliceSort.sortPodsList_eq (slice : SliceSort Pod) {stem : String} {n : Nat}
    {podsList : Slice Pod} (rack : RackPods stem n podsList.items) :
    (slice.sortPodsList podsList).items = Casskop.sortPodsList podsList.items := by
  have ascending : (Casskop.sortPodsList podsList.items).Pairwise fun pod other =>
      podId pod.name ≤ podId other.name := by
    have unlimited := List.pairwise_insertionSort
      (fun pod other : Pod => endingNumber pod.name ≤ endingNumber other.name) podsList.items
    apply unlimited.imp
    intro pod other least
    exact podId_mono least
  apply rack.sorted_eq (rack.length_eq ▸ podsList.short)
  · exact slice.perm podLess podsList.items
  · exact List.perm_insertionSort _ _
  · exact slice.sortPodsList_ascending podsList
  · exact ascending

end Casskop
