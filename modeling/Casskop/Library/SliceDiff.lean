import Mathlib.Data.List.Perm.Subperm

/-!
# Positional difference of two slices

Elements of two slices are first paired by equality, whatever their positions.
What stays unpaired is kept with its position, so that the unpaired elements of
both sides can be compared position by position afterwards.
-/

namespace SliceDiff

variable {α : Type} [DecidableEq α]

/-- Elements of the first list, numbered from `position`, that find no partner in
`pool`.  A partner serves only once. -/
def missingFrom : Nat → List α → List α → List (Nat × α)
  | _, [], _ => []
  | position, item :: items, pool =>
    if item ∈ pool then missingFrom (position + 1) items (pool.erase item)
    else (position, item) :: missingFrom (position + 1) items pool

/-- Unpaired elements of `items` with their positions. -/
def missing (items pool : List α) : List (Nat × α) := missingFrom 0 items pool

/-- Unpaired elements of the first list whose position holds an unpaired element
of the second list too. -/
def shared (items others : List α) : List (Nat × α × α) :=
  (missing items others).filterMap fun (position, item) =>
    ((missing others items).find? (fun other => other.1 == position)).map
      fun other => (position, item, other.2)

/-- Unpaired elements of the first list whose position holds no unpaired element
of the second one. -/
def alone (items others : List α) : List (Nat × α) :=
  (missing items others).filter fun (position, _) =>
    !(missing others items).any (fun other => other.1 == position)

theorem mem_or_missingFrom (items : List α) :
    ∀ (position : Nat) (pool : List α) (item : α), item ∈ items →
      item ∈ pool ∨ ∃ index, (index, item) ∈ missingFrom position items pool := by
  induction items with
  | nil => simp
  | cons head tail induction =>
    intro position pool item member
    by_cases paired : head ∈ pool
    · simp only [missingFrom, paired, if_true]
      rcases List.mem_cons.mp member with rfl | inTail
      · exact Or.inl paired
      · rcases induction (position + 1) (pool.erase head) item inTail with
          inPool | unpaired
        · exact Or.inl (List.mem_of_mem_erase inPool)
        · exact Or.inr unpaired
    · simp only [missingFrom, paired, if_false]
      rcases List.mem_cons.mp member with rfl | inTail
      · exact Or.inr ⟨position, List.mem_cons_self⟩
      · rcases induction (position + 1) pool item inTail with inPool | unpaired
        · exact Or.inl inPool
        · obtain ⟨index, found⟩ := unpaired
          exact Or.inr ⟨index, List.mem_cons_of_mem _ found⟩

variable {items : List α} {item : α}

/-- An element of a list is an element of the other one, or it is unpaired. -/
theorem mem_or_missing (pool : List α) (member : item ∈ items) :
    item ∈ pool ∨ ∃ index, (index, item) ∈ missing items pool :=
  mem_or_missingFrom items 0 pool item member

theorem missingFrom_eq_nil :
    ∀ {position : Nat} {pool : List α}, items.Subperm pool →
      missingFrom position items pool = [] := by
  induction items with
  | nil => intros; rfl
  | cons head tail induction =>
    intro position pool part
    have paired : head ∈ pool := part.subset List.mem_cons_self
    have rest : tail.Subperm (pool.erase head) := by
      have erased := part.erase head
      rwa [List.erase_cons_head] at erased
    unfold missingFrom
    rw [if_pos paired]
    exact induction rest

theorem mem_of_mem_missingFrom (items : List α) :
    ∀ (position : Nat) (pool : List α) (entry : Nat × α),
      entry ∈ missingFrom position items pool →
        position ≤ entry.1 ∧ entry.2 ∈ items := by
  induction items with
  | nil => simp [missingFrom]
  | cons head tail induction =>
    intro position pool entry member
    by_cases paired : head ∈ pool
    · simp only [missingFrom, paired, if_true] at member
      obtain ⟨above, inTail⟩ := induction _ _ entry member
      exact ⟨by omega, List.mem_cons_of_mem _ inTail⟩
    · simp only [missingFrom, paired, if_false, List.mem_cons] at member
      rcases member with rfl | inTail
      · exact ⟨Nat.le_refl _, List.mem_cons_self⟩
      · obtain ⟨above, found⟩ := induction _ _ entry inTail
        exact ⟨by omega, List.mem_cons_of_mem _ found⟩

theorem mem_of_mem_missing {pool : List α} {entry : Nat × α} (member : entry ∈ missing items pool) :
    entry.2 ∈ items :=
  (mem_of_mem_missingFrom items 0 pool entry member).2

private theorem missingFrom_position_injective (items : List α) :
    ∀ (position : Nat) (pool : List α) (left right : Nat × α),
      left ∈ missingFrom position items pool →
        right ∈ missingFrom position items pool → left.1 = right.1 →
          left = right := by
  induction items with
  | nil => simp [missingFrom]
  | cons head tail induction =>
    intro position pool left right leftMember rightMember same
    by_cases paired : head ∈ pool
    · simp only [missingFrom, paired, if_true] at leftMember rightMember
      exact induction _ _ left right leftMember rightMember same
    · simp only [missingFrom, paired, if_false, List.mem_cons]
        at leftMember rightMember
      rcases leftMember with rfl | leftTail <;>
        rcases rightMember with rfl | rightTail
      · rfl
      · have above := (mem_of_mem_missingFrom tail _ _ _ rightTail).1
        simp only at same
        omega
      · have above := (mem_of_mem_missingFrom tail _ _ _ leftTail).1
        simp only at same
        omega
      · exact induction _ _ left right leftTail rightTail same

theorem missing_position_injective {pool : List α} {left right : Nat × α}
    (leftMember : left ∈ missing items pool) (rightMember : right ∈ missing items pool)
    (same : left.1 = right.1) : left = right :=
  missingFrom_position_injective items 0 pool left right leftMember rightMember same

private theorem missingFrom_positions_nodup (items : List α) :
    ∀ (position : Nat) (pool : List α),
      ((missingFrom position items pool).map Prod.fst).Nodup := by
  induction items with
  | nil => simp [missingFrom]
  | cons head tail induction =>
    intro position pool
    by_cases paired : head ∈ pool
    · simp only [missingFrom, paired, if_true]
      exact induction _ _
    · simp only [missingFrom, paired, if_false, List.map_cons, List.nodup_cons]
      refine ⟨?_, induction _ _⟩
      intro member
      obtain ⟨entry, found, same⟩ := List.mem_map.mp member
      have above := (mem_of_mem_missingFrom tail _ _ entry found).1
      omega

theorem missing_positions_nodup (items pool : List α) : ((missing items pool).map Prod.fst).Nodup :=
  missingFrom_positions_nodup items 0 pool

theorem alone_positions_nodup (items others : List α) : ((alone items others).map Prod.fst).Nodup :=
  (missing_positions_nodup items others).sublist
    (List.Sublist.map Prod.fst List.filter_sublist)

variable {others : List α} {position : Nat}

theorem mem_shared_iff {other : α} :
    (position, item, other) ∈ shared items others ↔
      (position, item) ∈ missing items others ∧
        (position, other) ∈ missing others items := by
  simp only [shared, List.mem_filterMap, Option.map_eq_some_iff]
  constructor
  · rintro ⟨⟨index, found⟩, foundMember, entry, lookup, equality⟩
    have entryMember := List.mem_of_find?_eq_some lookup
    have entryIndex := List.find?_some lookup
    simp only [Prod.mk.injEq] at equality
    obtain ⟨rfl, rfl, rfl⟩ := equality
    simp only [beq_iff_eq] at entryIndex
    exact ⟨foundMember, by rw [← entryIndex]; exact entryMember⟩
  · rintro ⟨itemMember, otherMember⟩
    refine ⟨(position, item), itemMember, (position, other), ?_, rfl⟩
    cases lookup : (missing others items).find? (fun other => other.1 == position) with
    | none =>
      have absent := List.find?_eq_none.mp lookup (position, other) otherMember
      simp at absent
    | some entry =>
      have entryMember := List.mem_of_find?_eq_some lookup
      have entryIndex := List.find?_some lookup
      simp only [beq_iff_eq] at entryIndex
      rw [missing_position_injective entryMember otherMember entryIndex]

theorem mem_alone_iff :
    (position, item) ∈ alone items others ↔
      (position, item) ∈ missing items others ∧
        ∀ other, (position, other) ∉ missing others items := by
  simp only [alone, List.mem_filter, Bool.not_eq_true', List.any_eq_false,
    beq_iff_eq, Prod.forall]
  constructor
  · rintro ⟨member, absent⟩
    exact ⟨member, fun other found => absent position other found rfl⟩
  · rintro ⟨member, absent⟩
    refine ⟨member, ?_⟩
    rintro index other found rfl
    exact absent other found

/-- Every element of a list is an element of the other one, shares its position
with an unpaired element of the other one, or stands alone. -/
theorem mem_cases (others : List α) (member : item ∈ items) :
    item ∈ others ∨
      (∃ position other, (position, item, other) ∈ shared items others) ∨
        ∃ position, (position, item) ∈ alone items others := by
  rcases mem_or_missing others member with paired | ⟨position, unpaired⟩
  · exact Or.inl paired
  · by_cases partner : ∃ other, (position, other) ∈ missing others items
    · obtain ⟨other, found⟩ := partner
      exact Or.inr (Or.inl ⟨position, other, mem_shared_iff.mpr ⟨unpaired, found⟩⟩)
    · refine Or.inr (Or.inr ⟨position, mem_alone_iff.mpr ⟨unpaired, ?_⟩⟩)
      intro other found
      exact partner ⟨other, found⟩

/-! ## Position by position comparison -/

variable {β : Type}

/-- Compare the unpaired element of the old slice at a position with what the new
slice has there. -/
def compareAt (both : Nat → α → α → List β) (gone : Nat → α → List β)
    (old new : List α) (entry : Nat × α) : List β :=
  match (missing new old).find? (fun other => other.1 == entry.1) with
  | some other => both entry.1 entry.2 other.2
  | none => gone entry.1 entry.2

/-- Compare two slices: `both` on positions unpaired on both sides, `gone` on
positions unpaired in the old slice only, `fresh` in the new slice only.  The
positions of the old slice come first. -/
def compareSlices (both : Nat → α → α → List β) (gone fresh : Nat → α → List β)
    (old new : List α) : List β :=
  (missing old new).flatMap (compareAt both gone old new) ++
    (alone new old).flatMap (fun entry => fresh entry.1 entry.2)

private theorem find_missing_eq_none :
    (missing others items).find? (fun other => other.1 == position) = none ↔
      ∀ other, (position, other) ∉ missing others items := by
  rw [List.find?_eq_none]
  constructor
  · intro absent other found
    exact absent (position, other) found (by simp)
  · rintro absent ⟨index, other⟩ found same
    simp only [beq_iff_eq] at same
    subst same
    exact absent other found

theorem find_missing_eq_some {other : α} (member : (position, other) ∈ missing others items) :
    (missing others items).find? (fun entry => entry.1 == position) = some (position, other) := by
  cases lookup : (missing others items).find? (fun entry => entry.1 == position) with
  | none => exact absurd member (find_missing_eq_none.mp lookup other)
  | some entry =>
    have sameIndex := List.find?_some lookup
    simp only [beq_iff_eq] at sameIndex
    rw [missing_position_injective (List.mem_of_find?_eq_some lookup) member sameIndex]

theorem mem_compareSlices_iff {both : Nat → α → α → List β}
    {gone fresh : Nat → α → List β} {old new : List α} {change : β} :
    change ∈ compareSlices both gone fresh old new ↔
      (∃ position item other, (position, item, other) ∈ shared old new ∧
          change ∈ both position item other) ∨
        (∃ position item, (position, item) ∈ alone old new ∧
          change ∈ gone position item) ∨
        ∃ position item, (position, item) ∈ alone new old ∧
          change ∈ fresh position item := by
  simp only [compareSlices, compareAt, List.mem_append, List.mem_flatMap, Prod.exists]
  constructor
  · rintro (⟨position, item, unpaired, found⟩ | created)
    · cases partner : (missing new old).find? (fun other => other.1 == position) with
      | none =>
        simp only [partner] at found
        exact Or.inr (Or.inl ⟨position, item,
          mem_alone_iff.mpr ⟨unpaired, find_missing_eq_none.mp partner⟩, found⟩)
      | some other =>
        simp only [partner] at found
        have sameIndex := List.find?_some partner
        simp only [beq_iff_eq] at sameIndex
        refine Or.inl ⟨position, item, other.2, mem_shared_iff.mpr ⟨unpaired, ?_⟩, found⟩
        rw [← sameIndex]
        exact List.mem_of_find?_eq_some partner
    · exact Or.inr (Or.inr created)
  · rintro (⟨position, item, other, both, found⟩ | ⟨position, item, only, found⟩ | created)
    · obtain ⟨unpaired, partner⟩ := mem_shared_iff.mp both
      refine Or.inl ⟨position, item, unpaired, ?_⟩
      rw [find_missing_eq_some partner]
      exact found
    · obtain ⟨unpaired, absent⟩ := mem_alone_iff.mp only
      refine Or.inl ⟨position, item, unpaired, ?_⟩
      rw [find_missing_eq_none.mpr absent]
      exact found
    · exact Or.inr created

end SliceDiff
