import Mathlib.Data.List.Basic

/-!
# Lists changed at a position

What a change of one entry does to a list of fields, and what a loop does that looks a value
up by name and repairs it by position.
-/

namespace Casskop.Positions

/-! ## One entry -/

section Modify

variable {α β : Type} (items : List α) (position : Nat) (change : α → α) (field : α → β)

theorem map_modify_comm (change' : β → β)
    (commutes : ∀ item, field (change item) = change' (field item)) :
    (items.modify position change).map field = (items.map field).modify position change' := by
  refine List.ext_getElem? fun index => ?_
  rw [List.getElem?_map, List.getElem?_modify, List.getElem?_modify, List.getElem?_map]
  cases items[index]? with
  | none => rfl
  | some item =>
    by_cases here : position = index
    · simp [here, commutes]
    · simp [here]

theorem map_modify_set {value : β} (changed : ∀ item, field (change item) = value) :
    (items.modify position change).map field = (items.map field).set position value := by
  rw [map_modify_comm items position change field (fun _ => value) changed, List.set_eq_modify]

theorem map_modify_same (kept : ∀ item, field (change item) = field item) :
    (items.modify position change).map field = items.map field := by
  rw [map_modify_comm items position change field id kept]
  exact List.modify_id _ _

end Modify

/-! ## Repairs by position -/

theorem idxOf_le {ν : Type} [DecidableEq ν] {names : List ν} {position : Nat} {name : ν}
    (named : names[position]? = some name) : names.idxOf name ≤ position := by
  by_contra before
  obtain ⟨inside, here⟩ := List.getElem?_eq_some_iff.mp named
  have other := List.not_of_lt_findIdx (Nat.lt_of_not_le before)
  simp [here] at other

/-- Values that entries have on their own, and the one they share. -/
structure Setting (β : Type) where
  own : List β
  shared : β

/-- A loop over names.  A name has the value that its first position and the shared value
give it.  Where that is bad, the shared value and the own one of the current position are
replaced by old ones. -/
structure Repair (ν β : Type) where
  names : List ν
  old : Setting β
  pick : Nat → β → β → β
  bad : ν → β → Bool

namespace Repair

section Loop

variable {ν β : Type} [DecidableEq ν] (repair : Repair ν β)

def value (setting : Setting β) (name : ν) : Option β :=
  let position := repair.names.idxOf name
  (setting.own[position]?).map fun own => repair.pick position own setting.shared

def fires (setting : Setting β) (position : Nat) : Bool :=
  (repair.names[position]?).any fun name => (repair.value setting name).any (repair.bad name)

/-- One iteration; `none` if there is no old value at the position. -/
def step (setting : Setting β) (position : Nat) : Option (Setting β) :=
  if repair.fires setting position then
    (repair.old.own[position]?).map fun own =>
      { own := setting.own.set position own, shared := repair.old.shared }
  else some setting

def run (start : Setting β) : Nat → Option (Setting β)
  | 0 => some start
  | count + 1 => (run start count).bind fun setting => repair.step setting count

/-- Some name at an earlier position has a bad value to start with. -/
def firedBefore (start : Setting β) (position : Nat) : Bool :=
  (List.range position).any (repair.fires start)

/-- The setting to start with, under the shared value the loop has at the position. -/
def comparedAt (start : Setting β) (position : Nat) : Setting β :=
  if repair.firedBefore start position then { start with shared := repair.old.shared }
  else start

/-- The value of the name that has its first position here is replaced. -/
def repairs (start : Setting β) (position : Nat) : Bool :=
  repair.fires (repair.comparedAt start position) position

/-- The setting when the loop gets to a position, as far as first positions go. -/
def reached (start : Setting β) (position : Nat) : Setting β :=
  { own := start.own.mapIdx fun index own =>
      if index < position ∧ repair.repairs start index then (repair.old.own[index]?).getD own
      else own
    shared := (repair.comparedAt start position).shared }

/-- The loop gets to a bad value at a position without old value. -/
def misses (start : Setting β) (position : Nat) : Bool :=
  decide (repair.old.own.length ≤ position) &&
    repair.fires (repair.reached start position) position

/-- Two settings that give every name the same value. -/
structure Agrees (setting other : Setting β) : Prop where
  own : ∀ name ∈ repair.names,
    setting.own[repair.names.idxOf name]? = other.own[repair.names.idxOf name]?
  shared : setting.shared = other.shared

end Loop

section Facts

variable {ν β : Type} [DecidableEq ν] {repair : Repair ν β} {start setting other : Setting β}
  {position : Nat}

theorem Agrees.value_eq {name : ν} (agrees : repair.Agrees setting other)
    (member : name ∈ repair.names) : repair.value setting name = repair.value other name := by
  unfold value
  dsimp only
  rw [agrees.own name member, agrees.shared]

theorem Agrees.fires (agrees : repair.Agrees setting other) (position : Nat) :
    repair.fires setting position = repair.fires other position := by
  unfold Repair.fires
  cases named : repair.names[position]? with
  | none => rfl
  | some name =>
    rw [Option.any_some, Option.any_some, agrees.value_eq (List.mem_of_getElem? named)]

theorem run_succ (start : Setting β) (count : Nat) :
    repair.run start (count + 1) =
      (repair.run start count).bind fun setting => repair.step setting count := rfl

theorem firedBefore_succ (start : Setting β) (position : Nat) :
    repair.firedBefore start (position + 1) =
      (repair.firedBefore start position || repair.fires start position) := by
  simp [firedBefore, List.range_succ]

theorem firedBefore_eq_true_iff :
    repair.firedBefore start position = true ↔
      ∃ earlier < position, repair.fires start earlier = true := by
  simp [firedBefore]

theorem comparedAt_of_unfired (unfired : repair.firedBefore start position = false) :
    repair.comparedAt start position = start := by
  unfold comparedAt
  rw [if_neg (by simp [unfired])]

/-- Nothing is replaced as long as nothing is bad to start with. -/
theorem repairs_of_unfired {count : Nat} (unfired : repair.firedBefore start count = false)
    (before : position < count) : repair.repairs start position = false := by
  have quiet : ∀ earlier < count, repair.fires start earlier = false := by
    intro earlier smaller
    rw [← Bool.not_eq_true]
    intro fires
    rw [firedBefore_eq_true_iff.mpr ⟨earlier, smaller, fires⟩] at unfired
    cases unfired
  have still : repair.firedBefore start position = false := by
    rw [← Bool.not_eq_true, firedBefore_eq_true_iff]
    rintro ⟨earlier, smaller, fires⟩
    rw [quiet earlier (Nat.lt_trans smaller before)] at fires
    cases fires
  unfold repairs
  rw [comparedAt_of_unfired still]
  exact quiet position before

theorem firedBefore_of_repairs {count : Nat} (before : position < count)
    (repaired : repair.repairs start position = true) : repair.firedBefore start count = true := by
  by_contra unfired
  rw [repairs_of_unfired (Bool.eq_false_iff.mpr unfired) before] at repaired
  cases repaired

theorem comparedAt_own (start : Setting β) (position : Nat) :
    (repair.comparedAt start position).own = start.own := by
  unfold comparedAt
  split <;> rfl

theorem getElem?_reached (start : Setting β) (position index : Nat) :
    (repair.reached start position).own[index]? =
      if index < position ∧ repair.repairs start index then
        (start.own[index]?).map fun own => (repair.old.own[index]?).getD own
      else start.own[index]? := by
  unfold reached
  rw [List.getElem?_mapIdx]
  split <;> simp

theorem getElem?_reached_succ_ne (start : Setting β) {position index : Nat}
    (different : position ≠ index) :
    (repair.reached start (position + 1)).own[index]? =
      (repair.reached start position).own[index]? := by
  have order : index < position + 1 ↔ index < position := by omega
  simp only [getElem?_reached, order]

/-- At its first position a name still has its own value. -/
theorem Agrees.repairs {name : ν} (agrees : repair.Agrees setting (repair.reached start position))
    (member : name ∈ repair.names) (first : repair.names.idxOf name = position) :
    repair.fires setting position = repair.repairs start position := by
  have named : repair.names[position]? = some name := by
    rw [← first]
    exact List.getElem?_idxOf member
  have own := agrees.own name member
  rw [first, getElem?_reached, if_neg (by simp)] at own
  unfold Repair.repairs Repair.fires
  rw [named]
  simp only [Option.any_some, value, first, own, agrees.shared, comparedAt_own]
  rfl

theorem exists_own_of_fires {name : ν} (fires : repair.fires setting position = true)
    (named : repair.names[position]? = some name) :
    ∃ own, setting.own[repair.names.idxOf name]? = some own := by
  unfold Repair.fires value at fires
  rw [named] at fires
  cases found : setting.own[repair.names.idxOf name]? with
  | none => simp [found] at fires
  | some own => exact ⟨own, rfl⟩

/-- What the loop has done when it gets to a position. -/
structure Progress (repair : Repair ν β) (start : Setting β) (position : Nat)
    (setting : Setting β) : Prop where
  agrees : repair.Agrees setting (repair.reached start position)
  untouched : repair.firedBefore start position = false → setting = start

theorem Progress.zero : Progress repair start 0 start := by
  refine ⟨⟨fun name _ => ?_, rfl⟩, fun _ => rfl⟩
  rw [getElem?_reached]
  simp

section

variable (progress : Progress repair start position setting)

include progress

/-- The shared value is the old one as soon as something has been replaced. -/
theorem Progress.firedBefore_succ :
    repair.firedBefore start (position + 1) =
      (repair.firedBefore start position || repair.fires setting position) := by
  rw [Repair.firedBefore_succ]
  cases earlier : repair.firedBefore start position with
  | true => rfl
  | false => rw [progress.untouched earlier]

theorem Progress.step (stepped : repair.step setting position = some other) :
    Progress repair start (position + 1) other := by
  have fired := progress.firedBefore_succ
  unfold Repair.step at stepped
  cases fires : repair.fires setting position with
  | true =>
    rw [if_pos fires] at stepped
    obtain ⟨old, found, rfl⟩ := Option.map_eq_some_iff.mp stepped
    rw [fires, Bool.or_true] at fired
    refine ⟨⟨fun name member => ?_, ?_⟩, fun unfired => by simp [fired] at unfired⟩
    · rw [List.getElem?_set]
      by_cases here : position = repair.names.idxOf name
      · have repaired := progress.agrees.repairs member here.symm
        have named : repair.names[position]? = some name := by
          rw [here]
          exact List.getElem?_idxOf member
        obtain ⟨own, current⟩ := exists_own_of_fires fires named
        have begun := progress.agrees.own name member
        rw [current, ← here, getElem?_reached, if_neg (by simp)] at begun
        have inside : position < setting.own.length := by
          rw [← here] at current
          exact (List.getElem?_eq_some_iff.mp current).1
        rw [if_pos here, if_pos inside, ← here, getElem?_reached, ← repaired, fires,
          if_pos (by simp), ← begun, found]
        rfl
      · rw [if_neg here, getElem?_reached_succ_ne start here]
        exact progress.agrees.own name member
    · unfold reached comparedAt
      rw [if_pos fired]
  | false =>
    rw [if_neg (by simp [fires]), Option.some.injEq] at stepped
    subst stepped
    rw [fires, Bool.or_false] at fired
    refine ⟨⟨fun name member => ?_, ?_⟩, fun unfired => progress.untouched (fired ▸ unfired)⟩
    · rw [progress.agrees.own name member]
      by_cases here : position = repair.names.idxOf name
      · have kept := progress.agrees.repairs member here.symm
        rw [fires] at kept
        rw [← here, getElem?_reached, getElem?_reached, ← kept]
        simp
      · rw [getElem?_reached_succ_ne start here]
    · rw [progress.agrees.shared]
      unfold reached comparedAt
      rw [fired]

/-- An iteration that finds no old value has replaced the shared one by then. -/
theorem Progress.stuck
    (fires : repair.fires setting position = true)
    (missing : repair.old.own[position]? = none) :
    repair.Agrees { setting with shared := repair.old.shared }
      (repair.reached start (position + 1)) := by
  have fired : repair.firedBefore start (position + 1) = true := by
    rw [progress.firedBefore_succ, fires, Bool.or_true]
  refine ⟨fun name member => ?_, ?_⟩
  · rw [progress.agrees.own name member]
    by_cases here : position = repair.names.idxOf name
    · rw [← here, getElem?_reached, getElem?_reached, missing]
      simp
    · rw [getElem?_reached_succ_ne start here]
  · unfold reached comparedAt
    rw [if_pos fired]

end

theorem run_progress (count : Nat) (ran : repair.run start count = some setting) :
    Progress repair start count setting := by
  induction count generalizing setting with
  | zero =>
    cases ran
    exact .zero
  | succ count induction =>
    obtain ⟨before, earlier, stepped⟩ := Option.bind_eq_some_iff.mp ran
    exact (induction earlier).step stepped

/-- The loop ends unless a value is bad at a position without old value. -/
theorem run_isSome_iff (start : Setting β) (count : Nat) :
    (repair.run start count).isSome = true ↔
      ∀ position < count, repair.old.own.length ≤ position →
        repair.fires (repair.reached start position) position = false := by
  induction count with
  | zero => simp [run]
  | succ count induction =>
    rw [Nat.forall_lt_succ_right, ← induction, run_succ]
    cases ran : repair.run start count with
    | none => simp
    | some setting =>
      have same := (run_progress count ran).agrees.fires count
      rw [← same]
      simp only [Option.bind_some, Option.isSome_some, true_and]
      unfold Repair.step
      cases repair.fires setting count with
      | true => simp
      | false => simp

theorem misses_of_run {count : Nat} (ran : repair.run start count = some setting)
    (before : position < count) : repair.misses start position = false := by
  have quiet := (run_isSome_iff start count).mp (Option.isSome_of_eq_some ran) position before
  unfold misses
  by_cases beyond : repair.old.own.length ≤ position
  · rw [quiet beyond, Bool.and_false]
  · rw [decide_eq_false beyond, Bool.false_and]

theorem Progress.misses (progress : Progress repair start position setting)
    (fires : repair.fires setting position = true)
    (missing : repair.old.own[position]? = none) : repair.misses start position = true := by
  unfold Repair.misses
  rw [← progress.agrees.fires position, fires,
    decide_eq_true (List.getElem?_eq_none_iff.mp missing)]
  rfl

theorem Agrees.refl (setting : Setting β) : repair.Agrees setting setting :=
  ⟨fun _ _ => rfl, rfl⟩

theorem inside_of_repairs {count : Nat} {name : ν} (ran : repair.run start count = some setting)
    (member : name ∈ repair.names) (before : repair.names.idxOf name < count)
    (repaired : repair.repairs start (repair.names.idxOf name) = true) :
    repair.names.idxOf name < repair.old.own.length := by
  by_contra outside
  have ends : (repair.run start count).isSome = true := by
    rw [ran]
    rfl
  have quiet := (run_isSome_iff start count).mp ends _ before (Nat.le_of_not_lt outside)
  rw [(Agrees.refl _).repairs member rfl, repaired] at quiet
  cases quiet

theorem run_own {count : Nat} {name : ν} (ran : repair.run start count = some setting)
    (member : name ∈ repair.names) :
    setting.own[repair.names.idxOf name]? =
      if repair.names.idxOf name < count ∧ repair.repairs start (repair.names.idxOf name) then
        repair.old.own[repair.names.idxOf name]?
      else start.own[repair.names.idxOf name]? := by
  rw [(run_progress count ran).agrees.own name member, getElem?_reached]
  split
  · rename_i both
    obtain ⟨own, found⟩ := exists_own_of_fires both.2 (List.getElem?_idxOf member)
    rw [comparedAt_own] at found
    have inside := inside_of_repairs ran member both.1 both.2
    simp [found, List.getElem?_eq_getElem inside]
  · rfl

end Facts

end Repair

end Casskop.Positions
