import Casskop.Validation.Changelog

/-!
# What the change filters of `CheckTopologyChanges` see

The changelog of two topologies is a concatenation of blocks, one for each
unpaired position.  `hasChange` resets its counters between blocks, so each
filter is decided block by block.
-/

namespace Casskop

open SliceDiff

/-- A change the scan of `hasChange` looks at. -/
def Relevant (changeType : ChangeType) (change : Change) : Prop :=
  change.type = changeType ∧ isNameChange change.path = true

def rackNamePath (position rack : Nat) : List PathItem :=
  [.field "DC", .index position, .field "Rack", .index rack, .field "Name"]

/-! ## Scanning one block -/

variable {state : FilterState} {change : Change} {rest : List Change} {path : List PathItem}
  {position : Nat}

section Scan

variable {changeType : ChangeType}

/-- The scan run for changes of racks outside changes of whole DCs. -/
abbrev scanRacks (changeType : ChangeType) : FilterState → List Change → Bool :=
  scanChanges changeType [["DC", "Rack"]] [["DC"]]

private theorem scanRacks_skip (irrelevant : ¬ Relevant changeType change) :
    scanRacks changeType state (change :: rest) = scanRacks changeType state rest := by
  have guardFails :
      ¬ (change.type = changeType ∧ isNameChange change.path = true) := irrelevant
  simp only [scanRacks, scanChanges, if_neg guardFails]

private theorem scanRacks_quiet :
    ∀ {block : List Change}, (∀ change ∈ block, ¬ Relevant changeType change) →
      scanRacks changeType state (block ++ rest) = scanRacks changeType state rest
  | [], _ => rfl
  | change :: block, quiet => by
    rw [List.cons_append, scanRacks_skip (quiet change List.mem_cons_self)]
    exact scanRacks_quiet (fun other member =>
      quiet other (List.mem_cons_of_mem _ member))

private theorem lookForFilter_keeps {filter : List String} {found : List (List String)}
    (nonempty : found ≠ []) : lookForFilter path [filter] found ≠ [] := by
  simp only [lookForFilter, List.foldl_cons, List.foldl_nil]
  split
  · intro empty
    have member : filter ∈ found.insert filter := List.mem_insert_self
    rw [empty] at member
    exact absurd member List.not_mem_nil
  · exact nonempty

/-- Once a whole DC has been seen at a position, nothing at that position is
reported any more. -/
private theorem scanRacks_excluded :
    ∀ {block : List Change} (state : FilterState),
      (∀ change ∈ block, change.path[1]? = some (.index position)) →
      state.idx = some (.index position) → state.excluded ≠ [] →
      ∃ state', state'.idx = some (.index position) ∧
        scanRacks changeType state (block ++ rest) = scanRacks changeType state' rest
  | [], state, _, sameIndex, _ => ⟨state, sameIndex, rfl⟩
  | change :: block, state, atPosition, sameIndex, excluded => by
    have tailAt : ∀ other ∈ block, other.path[1]? = some (.index position) :=
      fun other member => atPosition other (List.mem_cons_of_mem _ member)
    by_cases relevant : Relevant changeType change
    · have here : ¬ change.path[1]? ≠ state.idx := by
        rw [atPosition change List.mem_cons_self, sameIndex]
        simp
      have stillExcluded :
          lookForFilter change.path [["DC"]] state.excluded ≠ [] :=
        lookForFilter_keeps excluded
      have noMatch : ¬ ((lookForFilter change.path [["DC", "Rack"]]
            state.included).length = [["DC", "Rack"]].length ∧
          (lookForFilter change.path [["DC"]] state.excluded).length = 0) := by
        rintro ⟨_, empty⟩
        exact stillExcluded (List.length_eq_zero_iff.mp empty)
      have guard : change.type = changeType ∧ isNameChange change.path = true := relevant
      obtain ⟨state', index', equality⟩ := scanRacks_excluded
        { idx := state.idx
          included := lookForFilter change.path [["DC", "Rack"]] state.included
          excluded := lookForFilter change.path [["DC"]] state.excluded }
        tailAt sameIndex stillExcluded
      refine ⟨state', index', ?_⟩
      rw [← equality, List.cons_append]
      simp only [scanRacks, scanChanges, if_pos guard, if_neg here, if_neg noMatch]
    · obtain ⟨state', index', equality⟩ :=
        scanRacks_excluded state tailAt sameIndex excluded
      exact ⟨state', index', by
        rw [List.cons_append, scanRacks_skip relevant, equality]⟩

private theorem scanRacks_whole {block : List Change} (rest : List Change)
    (elsewhere : state.idx ≠ some (.index position))
    (atPosition : ∀ change ∈ block, change.path[1]? = some (.index position)) :
    ∃ state', state'.idx = some (.index position) ∧
      scanRacks changeType state
          (⟨changeType, [.field "DC", .index position, .field "Name"]⟩ ::
            (block ++ rest)) = scanRacks changeType state' rest := by
  have moved : (some (PathItem.index position) : Option PathItem) ≠ state.idx :=
    fun same => elsewhere same.symm
  have excludes : ∃ state', state'.idx = some (.index position) ∧
      scanRacks changeType
          { idx := some (.index position), included := [], excluded := [["DC"]] }
          (block ++ rest) =
        scanRacks changeType state' rest :=
    scanRacks_excluded _ atPosition rfl (by simp)
  obtain ⟨state', index', equality⟩ := excludes
  refine ⟨state', index', ?_⟩
  rw [← equality]
  simp [scanRacks, scanChanges, isNameChange, moved, lookForFilter, filterPath]

private theorem scanRacks_inside (elsewhere : state.idx ≠ some (.index position)) :
    ∀ {block : List Change},
      (∃ change ∈ block, Relevant changeType change) →
      (∀ change ∈ block, Relevant changeType change →
        ∃ rack, change.path = rackNamePath position rack) →
      scanRacks changeType state (block ++ rest) = true
  | [], someRelevant, _ => by
    obtain ⟨_, member, _⟩ := someRelevant
    exact absurd member List.not_mem_nil
  | change :: block, someRelevant, onRacks => by
    by_cases relevant : Relevant changeType change
    · obtain ⟨rack, path⟩ := onRacks change List.mem_cons_self relevant
      have sameType : change.type = changeType := relevant.1
      have moved : (some (PathItem.index position) : Option PathItem) ≠ state.idx :=
        fun same => elsewhere same.symm
      simp [scanRacks, scanChanges, sameType, path, rackNamePath, isNameChange,
        moved, lookForFilter, filterPath]
    · rw [List.cons_append, scanRacks_skip relevant]
      apply scanRacks_inside elsewhere
      · obtain ⟨other, member, otherRelevant⟩ := someRelevant
        rcases List.mem_cons.mp member with rfl | inTail
        · exact absurd otherRelevant relevant
        · exact ⟨other, inTail, otherRelevant⟩
      · exact fun other member => onRacks other (List.mem_cons_of_mem _ member)

/-! ## Scanning a sequence of blocks -/

/-- The changes at one position: nothing of interest, a whole DC, or changes of
racks inside a DC that is kept. -/
inductive Block (changeType : ChangeType) (position : Nat) : List Change → Prop where
  | quiet {block : List Change}
      (irrelevant : ∀ change ∈ block, ¬ Relevant changeType change) :
      Block changeType position block
  | whole {block : List Change}
      (atPosition : ∀ change ∈ block, change.path[1]? = some (.index position)) :
      Block changeType position
        (⟨changeType, [.field "DC", .index position, .field "Name"]⟩ :: block)
  | racks {block : List Change}
      (onRacks : ∀ change ∈ block, Relevant changeType change →
        ∃ rack, change.path = rackNamePath position rack) :
      Block changeType position block

/-- A block that makes the scan succeed. -/
def Hit (changeType : ChangeType) (position : Nat) (block : List Change) : Prop :=
  ∃ change ∈ block, Relevant changeType change ∧
    ∃ rack, change.path = rackNamePath position rack ∧
      ∀ other ∈ block, Relevant changeType other →
        ∃ rack, other.path = rackNamePath position rack

theorem scanRacks_blocks (blocks : List (Nat × List Change)) :
    ∀ (state : FilterState),
      (blocks.map Prod.fst).Nodup →
      (∀ block ∈ blocks, Block changeType block.1 block.2) →
      (∀ block ∈ blocks, state.idx ≠ some (.index block.1)) →
      (scanRacks changeType state (blocks.flatMap Prod.snd) = true ↔
        ∃ block ∈ blocks, Hit changeType block.1 block.2) := by
  induction blocks with
  | nil => simp [scanRacks, scanChanges]
  | cons block blocks induction =>
    intro state distinct shapes elsewhere
    obtain ⟨position, changes⟩ := block
    simp only [List.map_cons, List.nodup_cons] at distinct
    obtain ⟨headFresh, tailDistinct⟩ := distinct
    have tailShapes : ∀ other ∈ blocks, Block changeType other.1 other.2 :=
      fun other member => shapes other (List.mem_cons_of_mem _ member)
    have headElsewhere : state.idx ≠ some (.index position) :=
      elsewhere (position, changes) List.mem_cons_self
    have tailElsewhere : ∀ other ∈ blocks, state.idx ≠ some (.index other.1) :=
      fun other member => elsewhere other (List.mem_cons_of_mem _ member)
    have movedOn : ∀ state' : FilterState, state'.idx = some (.index position) →
        ∀ other ∈ blocks, state'.idx ≠ some (.index other.1) := by
      intro state' index' other member same
      rw [index'] at same
      injection same with same
      injection same with same
      exact headFresh (List.mem_map.mpr ⟨other, member, same.symm⟩)
    simp only [List.flatMap_cons, List.exists_mem_cons_iff]
    by_cases hit : Hit changeType position changes
    · obtain ⟨change, member, relevant, rack, path, onRacks⟩ := hit
      rw [scanRacks_inside headElsewhere ⟨change, member, relevant⟩ onRacks]
      exact iff_of_true rfl
        (Or.inl ⟨change, member, relevant, rack, path, onRacks⟩)
    · simp only [hit, false_or]
      have headShape : Block changeType position changes :=
        shapes (position, changes) List.mem_cons_self
      cases headShape with
      | quiet irrelevant =>
        rw [scanRacks_quiet irrelevant]
        exact induction state tailDistinct tailShapes tailElsewhere
      | whole atPosition =>
        obtain ⟨state', index', equality⟩ := scanRacks_whole
          (blocks.flatMap Prod.snd) headElsewhere atPosition
        rw [List.cons_append, equality]
        exact induction state' tailDistinct tailShapes (movedOn state' index')
      | racks onRacks =>
        have irrelevant : ∀ change ∈ changes, ¬ Relevant changeType change := by
          intro change member relevant
          obtain ⟨rack, path⟩ := onRacks change member relevant
          exact hit ⟨change, member, relevant, rack, path, onRacks⟩
        rw [scanRacks_quiet irrelevant]
        exact induction state tailDistinct tailShapes tailElsewhere

end Scan

/-! ## The blocks of a topology changelog -/

/-- Changes at one unpaired position of the old topology. -/
def diffPosition (old new : List DC) : Nat × DC → List Change :=
  compareAt
    (fun position old new => diffDC [.field "DC", .index position] old new)
    (fun position dc => wholeDC .delete [.field "DC", .index position] dc)
    old new

def topologyBlocks (old new : Topology) : List (Nat × List Change) :=
  (missing old.dc new.dc).map (fun entry =>
      (entry.1, diffPosition old.dc new.dc entry)) ++
    (alone new.dc old.dc).map (fun entry =>
      (entry.1, wholeDC .create [.field "DC", .index entry.1] entry.2))

theorem diffTopology_eq_blocks (old new : Topology) :
    diffTopology old new = (topologyBlocks old new).flatMap Prod.snd := by
  simp only [diffTopology, compareSlices, topologyBlocks, List.flatMap_append,
    List.flatMap_map]
  rfl

theorem topologyBlocks_positions_nodup (old new : Topology) :
    ((topologyBlocks old new).map Prod.fst).Nodup := by
  simp only [topologyBlocks, List.map_append, List.map_map]
  refine List.Nodup.append (missing_positions_nodup old.dc new.dc)
    (alone_positions_nodup new.dc old.dc) ?_
  intro position inOld inNew
  obtain ⟨oldEntry, oldMember, rfl⟩ := List.mem_map.mp inOld
  obtain ⟨newEntry, newMember, same⟩ := List.mem_map.mp inNew
  obtain ⟨newPosition, newDC⟩ := newEntry
  obtain ⟨oldPosition, oldDC⟩ := oldEntry
  simp only [Function.comp] at same
  subst same
  exact (mem_alone_iff.mp newMember).2 oldDC oldMember

variable {changeType : ChangeType}

private theorem mem_changesAt {fields : List String} :
    change ∈ changesAt changeType path fields ↔
      ∃ field ∈ fields, change = ⟨changeType, path ++ [.field field]⟩ := by
  simp only [changesAt, List.mem_map, eq_comm]

private theorem mem_updatesAt {fields : List (String × Bool)} :
    change ∈ updatesAt path fields ↔
      ∃ field, (field, true) ∈ fields ∧
        change = ⟨.update, path ++ [.field field]⟩ := by
  simp only [updatesAt, List.mem_map, List.mem_filter]
  constructor
  · rintro ⟨⟨field, differs⟩, ⟨member, marked⟩, rfl⟩
    simp only at marked
    subst marked
    exact ⟨field, member, rfl⟩
  · rintro ⟨field, member, rfl⟩
    exact ⟨(field, true), ⟨member, rfl⟩, rfl⟩

/-- A change of a rack, at a position, is relevant exactly on the rack's name. -/
private theorem rackPath_isNameChange {rack : Nat} {field : String} :
    isNameChange ([.field "DC", .index position] ++ [.field "Rack"] ++
        [.index rack] ++ [.field field]) = true ↔ field = "Name" := by
  simp [isNameChange]

private theorem dcPath_isNameChange {field : String} :
    isNameChange ([.field "DC", .index position] ++ [.field field]) = true ↔ field = "Name" := by
  simp [isNameChange]

private theorem relevant_diffRacks {old new : List Rack} :
    (change ∈ diffRacks ([.field "DC", .index position] ++ [.field "Rack"]) old new ∧
        Relevant changeType change) ↔
      change.type = changeType ∧ ∃ rack, change.path = rackNamePath position rack ∧
        ((changeType = .update ∧ ∃ before after,
            (rack, before, after) ∈ shared old new ∧ before.name ≠ after.name) ∨
          (changeType = .delete ∧ ∃ before, (rack, before) ∈ alone old new) ∨
          (changeType = .create ∧ ∃ after, (rack, after) ∈ alone new old)) := by
  constructor
  · rintro ⟨member, sameType, onName⟩
    refine ⟨sameType, ?_⟩
    rcases mem_compareSlices_iff.mp member with
      ⟨rack, before, after, both, found⟩ | ⟨rack, before, only, found⟩ |
        ⟨rack, after, only, found⟩
    · obtain ⟨field, differs, rfl⟩ := mem_updatesAt.mp found
      have isName := rackPath_isNameChange.mp onName
      subst isName
      simp only [List.mem_cons, Prod.mk.injEq] at differs
      refine ⟨rack, rfl, Or.inl ⟨sameType.symm, before, after, both, ?_⟩⟩
      simpa using differs
    · obtain ⟨field, _, rfl⟩ := mem_changesAt.mp found
      have isName := rackPath_isNameChange.mp onName
      subst isName
      exact ⟨rack, rfl, Or.inr (Or.inl ⟨sameType.symm, before, only⟩)⟩
    · obtain ⟨field, _, rfl⟩ := mem_changesAt.mp found
      have isName := rackPath_isNameChange.mp onName
      subst isName
      exact ⟨rack, rfl, Or.inr (Or.inr ⟨sameType.symm, after, only⟩)⟩
  · rintro ⟨sameType, rack, path, kind⟩
    have onName : isNameChange change.path = true := by
      rw [path]
      simp [rackNamePath, isNameChange]
    refine ⟨mem_compareSlices_iff.mpr ?_, sameType, onName⟩
    obtain ⟨type, changePath⟩ := change
    simp only at sameType path
    subst sameType path
    rcases kind with ⟨rfl, before, after, both, differs⟩ | ⟨rfl, before, only⟩ |
      ⟨rfl, after, only⟩
    · refine Or.inl ⟨rack, before, after, both, mem_updatesAt.mpr ⟨"Name", ?_, rfl⟩⟩
      simp [differs]
    · exact Or.inr (Or.inl ⟨rack, before, only,
        mem_changesAt.mpr ⟨"Name", by simp [rackFields], rfl⟩⟩)
    · exact Or.inr (Or.inr ⟨rack, after, only,
        mem_changesAt.mpr ⟨"Name", by simp [rackFields], rfl⟩⟩)

private theorem relevant_diffDC {old new : DC} :
    (change ∈ diffDC [.field "DC", .index position] old new ∧
        Relevant changeType change) ↔
      (changeType = .update ∧ old.name ≠ new.name ∧
          change = ⟨.update, [.field "DC", .index position, .field "Name"]⟩) ∨
        (change ∈ diffRacks ([.field "DC", .index position] ++ [.field "Rack"])
            old.rack new.rack ∧ Relevant changeType change) := by
  constructor
  · rintro ⟨member, relevant⟩
    rw [diffDC, List.mem_append, List.mem_append] at member
    rcases member with (found | inRacks) | found
    · obtain ⟨field, differs, rfl⟩ := mem_updatesAt.mp found
      have isName := dcPath_isNameChange.mp relevant.2
      subst isName
      refine Or.inl ⟨relevant.1.symm, ?_, rfl⟩
      simpa using differs
    · exact Or.inr ⟨inRacks, relevant⟩
    · obtain ⟨field, differs, rfl⟩ := mem_updatesAt.mp found
      have isName := dcPath_isNameChange.mp relevant.2
      subst isName
      simp at differs
  · rintro (⟨rfl, differs, rfl⟩ | ⟨inRacks, relevant⟩)
    · refine ⟨?_, rfl, by simp [isNameChange]⟩
      rw [diffDC, List.mem_append, List.mem_append]
      exact Or.inl (Or.inl (mem_updatesAt.mpr ⟨"Name", by simp [differs], rfl⟩))
    · refine ⟨?_, relevant⟩
      rw [diffDC, List.mem_append, List.mem_append]
      exact Or.inl (Or.inr inRacks)

private theorem wholeDC_type {dc : DC} (member : change ∈ wholeDC changeType path dc) :
    change.type = changeType := by
  rw [wholeDC, List.mem_append, List.mem_append, List.mem_flatMap] at member
  rcases member with (found | ⟨_, _, found⟩) | found
  all_goals
    obtain ⟨field, _, rfl⟩ := mem_changesAt.mp found
    rfl

private theorem wholeDC_eq_cons (changeType : ChangeType) (position : Nat) (dc : DC) :
    ∃ block, wholeDC changeType [.field "DC", .index position] dc =
        ⟨changeType, [.field "DC", .index position, .field "Name"]⟩ :: block ∧
      ∀ change ∈ block, change.path[1]? = some (.index position) := by
  refine ⟨_, rfl, ?_⟩
  intro change member
  simp only [List.append_eq, List.mem_append, List.mem_flatMap] at member
  rcases member with (found | ⟨_, _, found⟩) | found
  · obtain ⟨field, _, rfl⟩ := List.mem_map.mp found
    rfl
  all_goals
    obtain ⟨field, _, rfl⟩ := mem_changesAt.mp found
    rfl

private theorem wholeDC_block (changeType type : ChangeType) (position : Nat) (dc : DC) :
    Block changeType position (wholeDC type [.field "DC", .index position] dc) := by
  by_cases same : type = changeType
  · subst same
    obtain ⟨block, equality, atPosition⟩ := wholeDC_eq_cons type position dc
    rw [equality]
    exact .whole atPosition
  · apply Block.quiet
    rintro change member ⟨sameType, _⟩
    exact same ((wholeDC_type member).symm.trans sameType)

private theorem wholeDC_not_hit (changeType type : ChangeType) (position : Nat) (dc : DC) :
    ¬ Hit changeType position (wholeDC type [.field "DC", .index position] dc) := by
  rintro ⟨change, member, relevant, _, _, onRacks⟩
  have sameType : type = changeType := (wholeDC_type member).symm.trans relevant.1
  subst sameType
  obtain ⟨block, equality, _⟩ := wholeDC_eq_cons type position dc
  obtain ⟨rack, path⟩ := onRacks
    ⟨type, [.field "DC", .index position, .field "Name"]⟩
    (by rw [equality]; exact List.mem_cons_self)
    ⟨rfl, by simp [isNameChange]⟩
  simp [rackNamePath] at path

section

variable (notUpdate : changeType ≠ .update)

include notUpdate

/-- Without updates, the relevant changes inside a kept DC are on its racks. -/
private theorem diffDC_onRacks {old new : DC} :
    ∀ change ∈ diffDC [.field "DC", .index position] old new,
      Relevant changeType change → ∃ rack, change.path = rackNamePath position rack := by
  intro change member relevant
  rcases relevant_diffDC.mp ⟨member, relevant⟩ with ⟨isUpdate, _⟩ | inRacks
  · exact absurd isUpdate notUpdate
  · obtain ⟨_, rack, path, _⟩ := relevant_diffRacks.mp inRacks
    exact ⟨rack, path⟩

private theorem topologyBlocks_shape (old new : Topology) :
    ∀ block ∈ topologyBlocks old new, Block changeType block.1 block.2 := by
  intro block member
  rw [topologyBlocks, List.mem_append] at member
  rcases member with fromOld | fromNew
  · obtain ⟨entry, _, rfl⟩ := List.mem_map.mp fromOld
    simp only [diffPosition, compareAt]
    cases (missing new.dc old.dc).find? (fun other => other.1 == entry.1) with
    | none => exact wholeDC_block changeType .delete entry.1 entry.2
    | some other => exact .racks (diffDC_onRacks notUpdate)
  · obtain ⟨entry, _, rfl⟩ := List.mem_map.mp fromNew
    exact wholeDC_block changeType .create entry.1 entry.2

/-- A filter on racks outside whole DCs finds a change inside a kept DC. -/
theorem hasRackChange_iff (old new : Topology) :
    hasChange (diffTopology old new) changeType [["DC", "Rack"]] [["DC"]] = true ↔
      ∃ position before after, (position, before, after) ∈ shared old.dc new.dc ∧
        ∃ change ∈ diffDC [.field "DC", .index position] before after,
          Relevant changeType change := by
  have scanned :
      hasChange (diffTopology old new) changeType [["DC", "Rack"]] [["DC"]] =
        scanRacks changeType {} ((topologyBlocks old new).flatMap Prod.snd) := by
    rw [← diffTopology_eq_blocks]
    rfl
  rw [scanned, scanRacks_blocks (topologyBlocks old new) {}
    (topologyBlocks_positions_nodup old new) (topologyBlocks_shape notUpdate old new)
    (by intro _ _; simp)]
  constructor
  · rintro ⟨block, member, hit⟩
    rw [topologyBlocks, List.mem_append] at member
    rcases member with fromOld | fromNew
    · obtain ⟨⟨position, before⟩, unpaired, rfl⟩ := List.mem_map.mp fromOld
      simp only [diffPosition, compareAt] at hit
      cases partner : (missing new.dc old.dc).find? (fun other => other.1 == position) with
      | none =>
        simp only [partner] at hit
        exact absurd hit (wholeDC_not_hit changeType .delete position before)
      | some other =>
        simp only [partner] at hit
        have sameIndex := List.find?_some partner
        simp only [beq_iff_eq] at sameIndex
        obtain ⟨change, inBlock, relevant, _⟩ := hit
        refine ⟨position, before, other.2, mem_shared_iff.mpr ⟨unpaired, ?_⟩,
          change, inBlock, relevant⟩
        rw [← sameIndex]
        exact List.mem_of_find?_eq_some partner
    · obtain ⟨entry, _, rfl⟩ := List.mem_map.mp fromNew
      exact absurd hit (wholeDC_not_hit changeType .create entry.1 entry.2)
  · rintro ⟨position, before, after, both, change, inBlock, relevant⟩
    obtain ⟨unpaired, partner⟩ := mem_shared_iff.mp both
    have lookup : (missing new.dc old.dc).find? (fun other => other.1 == position) =
        some (position, after) := find_missing_eq_some partner
    refine ⟨(position, diffPosition old.dc new.dc (position, before)), ?_, ?_⟩
    · exact List.mem_append_left _ (List.mem_map.mpr ⟨_, unpaired, rfl⟩)
    · simp only [diffPosition, compareAt, lookup]
      obtain ⟨rack, path⟩ := diffDC_onRacks notUpdate change inBlock relevant
      exact ⟨change, inBlock, relevant, rack, path, diffDC_onRacks notUpdate⟩

/-- In a kept DC a filter that is not after updates finds racks. -/
private theorem relevant_rack_iff (before after : DC) :
    (∃ change ∈ diffDC [.field "DC", .index position] before after,
        Relevant changeType change) ↔
      ∃ rack, changeType = .delete ∧ rack ∈ alone before.rack after.rack ∨
        changeType = .create ∧ rack ∈ alone after.rack before.rack := by
  constructor
  · rintro ⟨change, member, relevant⟩
    rcases relevant_diffDC.mp ⟨member, relevant⟩ with ⟨isUpdate, _⟩ | inRacks
    · exact absurd isUpdate notUpdate
    · obtain ⟨_, rack, _, kind⟩ := relevant_diffRacks.mp inRacks
      rcases kind with ⟨isUpdate, _⟩ | ⟨isDelete, found, only⟩ | ⟨isCreate, found, only⟩
      · exact absurd isUpdate notUpdate
      · exact ⟨(rack, found), Or.inl ⟨isDelete, only⟩⟩
      · exact ⟨(rack, found), Or.inr ⟨isCreate, only⟩⟩
  · rintro ⟨⟨rack, found⟩, only⟩
    refine ⟨⟨changeType, rackNamePath position rack⟩, relevant_diffDC.mpr (Or.inr ?_)⟩
    refine relevant_diffRacks.mpr ⟨rfl, rack, rfl, Or.inr (only.imp ?_ ?_)⟩
    · exact fun both => ⟨both.1, found, both.2⟩
    · exact fun both => ⟨both.1, found, both.2⟩

end

theorem hasRackDeletion_iff (old new : Topology) :
    hasChange (diffTopology old new) .delete [["DC", "Rack"]] [["DC"]] = true ↔
      ∃ position before after, (position, before, after) ∈ shared old.dc new.dc ∧
        ∃ rack, rack ∈ alone before.rack after.rack := by
  rw [hasRackChange_iff (by simp)]
  simp [relevant_rack_iff]

theorem hasRackCreation_iff (old new : Topology) :
    hasChange (diffTopology old new) .create [["DC", "Rack"]] [["DC"]] = true ↔
      ∃ position before after, (position, before, after) ∈ shared old.dc new.dc ∧
        ∃ rack, rack ∈ alone after.rack before.rack := by
  rw [hasRackChange_iff (by simp)]
  simp [relevant_rack_iff]

theorem hasUpdate_iff (old new : Topology) :
    hasChange (diffTopology old new) .update [] [] = true ↔
      ∃ position before after, (position, before, after) ∈ shared old.dc new.dc ∧
        (before.name ≠ after.name ∨
          ∃ rack was is, (rack, was, is) ∈ shared before.rack after.rack ∧
            was.name ≠ is.name) := by
  have anyRelevant : hasChange (diffTopology old new) .update [] [] = true ↔
      ∃ change ∈ diffTopology old new, Relevant .update change := by
    simp [hasChange, Relevant]
  rw [anyRelevant]
  constructor
  · rintro ⟨change, member, relevant⟩
    rcases mem_compareSlices_iff.mp member with
      ⟨position, before, after, both, found⟩ | ⟨_, dc, _, found⟩ | ⟨_, dc, _, found⟩
    · refine ⟨position, before, after, both, ?_⟩
      rcases relevant_diffDC.mp ⟨found, relevant⟩ with ⟨_, differs, _⟩ | inRacks
      · exact Or.inl differs
      · obtain ⟨_, rack, _, kind⟩ := relevant_diffRacks.mp inRacks
        rcases kind with ⟨_, was, is, sharedRack, differs⟩ | ⟨isDelete, _⟩ | ⟨isCreate, _⟩
        · exact Or.inr ⟨rack, was, is, sharedRack, differs⟩
        · simp at isDelete
        · simp at isCreate
    · have type := wholeDC_type found
      simp [relevant.1] at type
    · have type := wholeDC_type found
      simp [relevant.1] at type
  · rintro ⟨position, before, after, both, differs⟩
    have found : ∃ change ∈ diffDC [.field "DC", .index position] before after,
        Relevant .update change := by
      rcases differs with differs | ⟨rack, was, is, sharedRack, differs⟩
      · exact ⟨_, relevant_diffDC.mpr (Or.inl ⟨rfl, differs, rfl⟩)⟩
      · refine ⟨⟨.update, rackNamePath position rack⟩, relevant_diffDC.mpr (Or.inr ?_)⟩
        exact relevant_diffRacks.mpr
          ⟨rfl, rack, rfl, Or.inl ⟨rfl, was, is, sharedRack, differs⟩⟩
    obtain ⟨change, inDC, relevant⟩ := found
    exact ⟨change, mem_compareSlices_iff.mpr
      (Or.inl ⟨position, before, after, both, inDC⟩), relevant⟩

end Casskop
