import Casskop.Api.RackSettings

/-!
# The seeds of a DC

`InitSeedList` takes three seeds from each DC.  How many a rack gives depends on the number
of racks and on the node count found for the rack, which is looked up in the whole topology.
-/

namespace Casskop

/-! ## Names of seeds -/

/-- What follows the last separator tells two texts apart. -/
theorem append_separator_inj {α : Type} {separator : α} {front back front' back' : List α}
    (same : front ++ separator :: back = front' ++ separator :: back')
    (last : separator ∉ back) (last' : separator ∉ back') : front = front' ∧ back = back' := by
  rcases List.append_eq_append_iff.mp same with ⟨more, longer, rest⟩ | ⟨more, longer, rest⟩
  · cases more with
    | nil =>
      rw [List.append_nil] at longer
      exact ⟨longer.symm, (List.cons.inj rest).2⟩
    | cons item more =>
      refine absurd ?_ last
      rw [(List.cons.inj rest).2]
      simp
  · cases more with
    | nil =>
      rw [List.append_nil] at longer
      exact ⟨longer, (List.cons.inj rest).2.symm⟩
    | cons item more =>
      refine absurd ?_ last'
      rw [(List.cons.inj rest).2]
      simp

theorem dash_not_mem_repr (number : Nat) : '-' ∉ number.repr.toList := by
  rw [Nat.toList_repr]
  intro member
  have digit := Nat.isDigit_of_mem_toDigits (by decide) (by decide) member
  cases digit

theorem newSeed_inj {name ns dcName rackName other : String} {ordinal ordinal' : Nat}
    (same : newSeed name ns dcName rackName ordinal = newSeed name ns dcName other ordinal') :
    getDCRackName dcName rackName = getDCRackName dcName other ∧ ordinal = ordinal' := by
  unfold newSeed at same
  rw [String.append_left_inj, String.append_left_inj, String.append_left_inj,
    String.append_left_inj, ← String.toList_inj] at same
  simp only [String.toList_append, List.append_assoc] at same
  have tails : (getDCRackName dcName rackName).toList ++ '-' :: ordinal.repr.toList =
      (getDCRackName dcName other).toList ++ '-' :: ordinal'.repr.toList :=
    List.append_cancel_left (List.append_cancel_left same)
  obtain ⟨racks, ordinals⟩ := append_separator_inj tails (dash_not_mem_repr ordinal)
    (dash_not_mem_repr ordinal')
  rw [Nat.toList_repr, Nat.toList_repr] at ordinals
  refine ⟨String.toList_inj.mp racks, ?_⟩
  rw [← @Nat.ofDigitChars_toDigits 10 ordinal (by decide) (by decide), ordinals,
    Nat.ofDigitChars_toDigits (by decide) (by decide)]

/-- Different racks of a DC have different names if all of these are valid. -/
theorem rackNames_nodup {dc : DC}
    (valid : ∀ rack ∈ dc.rack, regexDCRackName (dc.name ++ "-" ++ rack.name) = true)
    (distinct : (dc.rack.map Rack.name).Nodup) : dc.rackNames.Nodup := by
  have joined : dc.rackNames = (dc.rack.map Rack.name).map (dc.name ++ "-" ++ ·) := by
    rw [List.map_map]
    apply List.map_congr_left
    intro rack member
    unfold getDCRackName
    rw [if_pos (valid rack member)]
    rfl
  rw [joined]
  exact distinct.map fun _ _ same => (String.append_right_inj _).mp same

/-! ## The seeds of one DC -/

/-- The seeds that the iteration for a DC adds. -/
def seedsOfDC (metadata : ObjectMeta) (spec : CassandraClusterSpec) (dc : DC) : List String :=
  if dc.rack.isEmpty then
    (List.range (min spec.nodesPerRacks.toNat 3)).map
      (newSeed metadata.name metadata.ns dc.name defaultCassandraRack)
  else seedsOfRacks spec metadata.name metadata.ns dc.name dc.rack.length dc.rack 0

theorem initSeedList_eq {spec : CassandraClusterSpec} (metadata : ObjectMeta)
    (declared : spec.topology.dc ≠ []) :
    initSeedList metadata spec = spec.topology.dc.flatMap (seedsOfDC metadata spec) := by
  unfold initSeedList
  dsimp only
  rw [if_neg (by simp [declared])]
  rfl

section Shapes

variable (metadata : ObjectMeta) (spec : CassandraClusterSpec)

def foundNodes (dc : DC) (rack : Rack) : Nat :=
  (spec.getNodesPerRacks (getDCRackName dc.name rack.name)).toNat

def ownNodes (dc : DC) : Nat := (dc.nodesPerRacks.getD spec.nodesPerRacks).toNat

def onlyDC (dc : DC) : CassandraClusterSpec := { spec with topology := { dc := [dc] } }

def seedsOfRack (dc : DC) (rack : Rack) (count : Nat) : List String :=
  (List.range count).map (newSeed metadata.name metadata.ns dc.name rack.name)

variable {metadata spec} {dc : DC} {rack first second : Rack}

theorem seedsOfDC_one (racks : dc.rack = [rack]) :
    seedsOfDC metadata spec dc =
      seedsOfRack metadata dc rack (min (foundNodes spec dc rack) 3) := by
  simp [seedsOfDC, racks, seedsOfRacks, seedsOfRack, foundNodes]

theorem seedsOfDC_two (racks : dc.rack = [first, second]) :
    seedsOfDC metadata spec dc =
      seedsOfRack metadata dc first (min (foundNodes spec dc first) 2) ++
        seedsOfRack metadata dc second (min (foundNodes spec dc second)
          (min 2 (3 - min (foundNodes spec dc first) 2))) := by
  simp [seedsOfDC, racks, seedsOfRacks, seedsOfRack, foundNodes]

theorem seedsOfRacks_many (dcName : String) {racksize : Nat} (many : 3 ≤ racksize)
    (racks : List Rack) :
    ∀ nbSeedInDC, seedsOfRacks spec metadata.name metadata.ns dcName racksize racks nbSeedInDC =
      (racks.take (3 - nbSeedInDC)).map fun rack =>
        newSeed metadata.name metadata.ns dcName rack.name 0 := by
  induction racks with
  | nil => simp [seedsOfRacks]
  | cons rack rest induction =>
    intro nbSeedInDC
    unfold seedsOfRacks
    dsimp only
    rw [if_neg (by omega), induction]
    by_cases more : nbSeedInDC < 3
    · obtain ⟨left, counts⟩ : ∃ left, 3 - nbSeedInDC = left + 1 := ⟨2 - nbSeedInDC, by omega⟩
      have next : 3 - (nbSeedInDC + 1) = left := by omega
      rw [if_pos more, counts, next, List.take_succ_cons, List.map_cons]
      rfl
    · have none : 3 - nbSeedInDC = 0 := by omega
      rw [if_neg more, Nat.add_zero, none]
      rfl

theorem seedsOfDC_many (many : 3 ≤ dc.rack.length) :
    seedsOfDC metadata spec dc =
      (dc.rack.take 3).map fun rack => newSeed metadata.name metadata.ns dc.name rack.name 0 := by
  have some : dc.rack ≠ [] := List.ne_nil_of_length_pos (by omega)
  unfold seedsOfDC
  rw [if_neg (by simp [some]), seedsOfRacks_many dc.name many]

theorem foundNodes_onlyDC (member : rack ∈ dc.rack) :
    foundNodes (onlyDC spec dc) dc rack = ownNodes spec dc := by
  have racks : dc.rack ≠ [] := List.ne_nil_of_mem member
  have named : getDCRackName dc.name rack.name ∈ dc.rackNames := List.mem_map_of_mem member
  have searched : searchedDCs (onlyDC spec dc).topology.dc = [dc] := searchedDCs_cons_of_racks racks
  unfold foundNodes CassandraClusterSpec.getNodesPerRacks
  rw [nodesPerRacksFrom_eq, searched, List.find?_cons_of_pos (by simpa using named)]
  rfl

theorem mem_seedsOfRack {seed : String} {count : Nat} :
    seed ∈ seedsOfRack metadata dc rack count ↔
      ∃ ordinal < count, seed = newSeed metadata.name metadata.ns dc.name rack.name ordinal := by
  unfold seedsOfRack
  rw [List.mem_map]
  constructor
  · rintro ⟨ordinal, member, rfl⟩
    exact ⟨ordinal, List.mem_range.mp member, rfl⟩
  · rintro ⟨ordinal, below, rfl⟩
    exact ⟨ordinal, List.mem_range.mpr below, rfl⟩

theorem seedsOfRack_nodup (count : Nat) : (seedsOfRack metadata dc rack count).Nodup :=
  List.nodup_range.map fun _ _ same => (newSeed_inj same).2

theorem length_seedsOfRack (count : Nat) : (seedsOfRack metadata dc rack count).length = count := by
  simp [seedsOfRack]

theorem mem_seeds_of_two (different : getDCRackName dc.name first.name ≠
      getDCRackName dc.name second.name) {count count' ordinal : Nat} :
    (newSeed metadata.name metadata.ns dc.name first.name ordinal ∈
        seedsOfRack metadata dc first count ++ seedsOfRack metadata dc second count' ↔
      ordinal < count) ∧
    (newSeed metadata.name metadata.ns dc.name second.name ordinal ∈
        seedsOfRack metadata dc first count ++ seedsOfRack metadata dc second count' ↔
      ordinal < count') := by
  rw [List.mem_append, List.mem_append, mem_seedsOfRack, mem_seedsOfRack, mem_seedsOfRack,
    mem_seedsOfRack]
  refine ⟨⟨?_, fun below => Or.inl ⟨ordinal, below, rfl⟩⟩,
    ⟨?_, fun below => Or.inr ⟨ordinal, below, rfl⟩⟩⟩
  · rintro (⟨other, below, same⟩ | ⟨other, below, same⟩)
    · rw [(newSeed_inj same).2]
      exact below
    · exact absurd (newSeed_inj same).1 different
  · rintro (⟨other, below, same⟩ | ⟨other, below, same⟩)
    · exact absurd (newSeed_inj same).1.symm different
    · rw [(newSeed_inj same).2]
      exact below

end Shapes

/-! ## What the seeds of a DC should be -/

/-- Two pods of the rack are among the seeds. -/
def HoldsSeveral (metadata : ObjectMeta) (spec : CassandraClusterSpec) (dc : DC) (rack : Rack) :
    Prop :=
  ∃ ordinal ordinal', ordinal ≠ ordinal' ∧
    newSeed metadata.name metadata.ns dc.name rack.name ordinal ∈ seedsOfDC metadata spec dc ∧
    newSeed metadata.name metadata.ns dc.name rack.name ordinal' ∈ seedsOfDC metadata spec dc

structure WellSeeded (metadata : ObjectMeta) (spec : CassandraClusterSpec) (dc : DC) :
    Prop where
  count : (seedsOfDC metadata spec dc).length = min 3 (dc.rack.length * ownNodes spec dc)
  distinct : (seedsOfDC metadata spec dc).Nodup
  pods : ∀ seed ∈ seedsOfDC metadata spec dc, ∃ rack ∈ dc.rack, ∃ ordinal < ownNodes spec dc,
    seed = newSeed metadata.name metadata.ns dc.name rack.name ordinal
  spread : 2 ≤ dc.rack.length → ∀ rack ∈ dc.rack, ∀ other ∈ dc.rack,
    HoldsSeveral metadata spec dc rack → HoldsSeveral metadata spec dc other → rack = other
  /-- The other DCs do not matter. -/
  alone : seedsOfDC metadata spec dc = seedsOfDC metadata (onlyDC spec dc) dc

/-- What the seeds need: a node in every rack of three or more, and for one or two racks a
node count that makes no difference to the own one. -/
def SeedCountsFound (spec : CassandraClusterSpec) (dc : DC) : Prop :=
  match dc.rack with
  | [] => True
  | [rack] => min (foundNodes spec dc rack) 3 = min (ownNodes spec dc) 3
  | [first, second] =>
    min (foundNodes spec dc first) 2 = min (ownNodes spec dc) 2 ∧
      min (foundNodes spec dc second) (3 - min (ownNodes spec dc) 2) =
        min (ownNodes spec dc) (3 - min (ownNodes spec dc) 2)
  | _ => 0 < ownNodes spec dc

section Seeded

variable {metadata : ObjectMeta} {spec : CassandraClusterSpec} {dc : DC}

theorem wellSeeded_one_iff {rack : Rack} (racks : dc.rack = [rack]) :
    WellSeeded metadata spec dc ↔ min (foundNodes spec dc rack) 3 = min (ownNodes spec dc) 3 := by
  have member : rack ∈ dc.rack := by simp [racks]
  have seeds := @seedsOfDC_one metadata spec dc rack racks
  constructor
  · intro seeded
    have count := seeded.count
    rw [seeds, length_seedsOfRack, racks] at count
    simp only [List.length_singleton] at count
    omega
  · intro same
    refine ⟨?_, ?_, ?_, ?_, ?_⟩
    · rw [seeds, length_seedsOfRack, racks]
      simp only [List.length_singleton]
      omega
    · rw [seeds]
      exact seedsOfRack_nodup _
    · rw [seeds]
      intro seed held
      obtain ⟨ordinal, below, rfl⟩ := mem_seedsOfRack.mp held
      exact ⟨rack, member, ordinal, by omega, rfl⟩
    · intro several
      rw [racks] at several
      simp at several
    · rw [seeds, seedsOfDC_one racks, foundNodes_onlyDC member, same]

theorem wellSeeded_two_iff {first second : Rack} (racks : dc.rack = [first, second])
    (different : getDCRackName dc.name first.name ≠ getDCRackName dc.name second.name) :
    WellSeeded metadata spec dc ↔
      min (foundNodes spec dc first) 2 = min (ownNodes spec dc) 2 ∧
        min (foundNodes spec dc second) (3 - min (ownNodes spec dc) 2) =
          min (ownNodes spec dc) (3 - min (ownNodes spec dc) 2) := by
  have firstMember : first ∈ dc.rack := by simp [racks]
  have secondMember : second ∈ dc.rack := by simp [racks]
  have seeds := @seedsOfDC_two metadata spec dc first second racks
  have alone := @seedsOfDC_two metadata (onlyDC spec dc) dc first second racks
  rw [foundNodes_onlyDC firstMember, foundNodes_onlyDC secondMember] at alone
  constructor
  · intro seeded
    have same := seeded.alone
    rw [seeds, alone] at same
    -- The seeds of the first rack tell its share, the length the one of the second.
    have shares : ∀ ordinal, ordinal < min (foundNodes spec dc first) 2 ↔
        ordinal < min (ownNodes spec dc) 2 := by
      intro ordinal
      rw [← (@mem_seeds_of_two metadata dc first second different _ _ ordinal).1, same,
        (mem_seeds_of_two different).1]
    have firstShare : min (foundNodes spec dc first) 2 = min (ownNodes spec dc) 2 := by
      have below := shares (min (ownNodes spec dc) 2)
      have above := shares (min (foundNodes spec dc first) 2)
      omega
    have lengths := congrArg List.length same
    simp only [List.length_append, length_seedsOfRack] at lengths
    exact ⟨firstShare, by omega⟩
  · rintro ⟨firstShare, secondShare⟩
    have share : min (foundNodes spec dc second)
        (min 2 (3 - min (foundNodes spec dc first) 2)) =
        min (ownNodes spec dc) (min 2 (3 - min (ownNodes spec dc) 2)) := by omega
    rw [firstShare] at seeds share
    rw [share] at seeds
    refine ⟨?_, ?_, ?_, ?_, ?_⟩
    · rw [seeds, List.length_append, length_seedsOfRack, length_seedsOfRack, racks]
      simp only [List.length_cons, List.length_nil]
      omega
    · rw [seeds, List.nodup_append]
      refine ⟨seedsOfRack_nodup _, seedsOfRack_nodup _, ?_⟩
      intro seed inFirst other inSecond same
      obtain ⟨ordinal, _, rfl⟩ := mem_seedsOfRack.mp inFirst
      obtain ⟨ordinal', _, rfl⟩ := mem_seedsOfRack.mp inSecond
      exact different (newSeed_inj same).1
    · rw [seeds]
      intro seed held
      rcases List.mem_append.mp held with inFirst | inSecond
      · obtain ⟨ordinal, below, rfl⟩ := mem_seedsOfRack.mp inFirst
        exact ⟨first, firstMember, ordinal, by omega, rfl⟩
      · obtain ⟨ordinal, below, rfl⟩ := mem_seedsOfRack.mp inSecond
        exact ⟨second, secondMember, ordinal, by omega, rfl⟩
    · have firstHolds : HoldsSeveral metadata spec dc first → 2 ≤ ownNodes spec dc := by
        rintro ⟨ordinal, ordinal', distinct, held, held'⟩
        rw [seeds] at held held'
        have below := (mem_seeds_of_two different).1.mp held
        have below' := (mem_seeds_of_two different).1.mp held'
        omega
      have secondHolds : HoldsSeveral metadata spec dc second → ownNodes spec dc < 2 := by
        rintro ⟨ordinal, ordinal', distinct, held, held'⟩
        rw [seeds] at held held'
        have below := (mem_seeds_of_two different).2.mp held
        have below' := (mem_seeds_of_two different).2.mp held'
        omega
      intro _ rack member other otherMember several otherSeveral
      rw [racks] at member otherMember
      simp only [List.mem_cons, List.not_mem_nil, or_false] at member otherMember
      rcases member with rfl | rfl <;> rcases otherMember with rfl | rfl
      · rfl
      · exact absurd (firstHolds several) (Nat.not_le.mpr (secondHolds otherSeveral))
      · exact absurd (firstHolds otherSeveral) (Nat.not_le.mpr (secondHolds several))
      · rfl
    · rw [seeds, alone]

theorem wellSeeded_many_iff (many : 3 ≤ dc.rack.length) (distinct : dc.rackNames.Nodup) :
    WellSeeded metadata spec dc ↔ 0 < ownNodes spec dc := by
  have seeds := @seedsOfDC_many metadata spec dc many
  have ordinals : ∀ seed ∈ seedsOfDC metadata spec dc, ∃ rack ∈ dc.rack,
      seed = newSeed metadata.name metadata.ns dc.name rack.name 0 := by
    rw [seeds]
    intro seed held
    obtain ⟨rack, taken, rfl⟩ := List.mem_map.mp held
    exact ⟨rack, List.mem_of_mem_take taken, rfl⟩
  have length : (seedsOfDC metadata spec dc).length = 3 := by
    rw [seeds, List.length_map, List.length_take]
    omega
  constructor
  · intro seeded
    have count := seeded.count
    rw [length] at count
    by_contra none
    rw [Nat.eq_zero_of_not_pos none] at count
    simp at count
  · intro some
    refine ⟨?_, ?_, ?_, ?_, ?_⟩
    · have enough : 3 * 1 ≤ dc.rack.length * ownNodes spec dc := Nat.mul_le_mul many some
      rw [length]
      omega
    · rw [seeds]
      apply List.Nodup.map_on
      · intro rack taken other otherTaken same
        exact List.inj_on_of_nodup_map distinct (List.mem_of_mem_take taken)
          (List.mem_of_mem_take otherTaken) (newSeed_inj same).1
      · exact (List.Nodup.of_map _ distinct).sublist (List.take_sublist _ _)
    · intro seed held
      obtain ⟨rack, member, named⟩ := ordinals seed held
      exact ⟨rack, member, 0, some, named⟩
    · have never : ∀ rack, ¬ HoldsSeveral metadata spec dc rack := by
        rintro rack ⟨ordinal, ordinal', different, held, held'⟩
        obtain ⟨_, _, same⟩ := ordinals _ held
        obtain ⟨_, _, same'⟩ := ordinals _ held'
        exact different ((newSeed_inj same).2.trans (newSeed_inj same').2.symm)
      intro _ rack _ other _ several
      exact absurd several (never rack)
    · rw [seeds, seedsOfDC_many many]

theorem wellSeeded_iff (racks : dc.rack ≠ []) (distinct : dc.rackNames.Nodup) :
    WellSeeded metadata spec dc ↔ SeedCountsFound spec dc := by
  unfold SeedCountsFound
  split
  · rename_i none
    exact absurd none racks
  · rename_i rack one
    exact wellSeeded_one_iff one
  · rename_i first second two
    apply wellSeeded_two_iff two
    unfold DC.rackNames at distinct
    rw [two] at distinct
    simpa using distinct
  · rename_i notNone notOne notTwo
    refine wellSeeded_many_iff ?_ distinct
    match shape : dc.rack with
    | [] => exact absurd shape notNone
    | [rack] => exact absurd shape (notOne rack)
    | [first, second] => exact absurd shape (notTwo first second)
    | _ :: _ :: _ :: _ => simp

end Seeded

/-- The seeds of the DCs with racks are right when the counts that are found for these racks
make no difference, and a DC of three or more racks has nodes. -/
theorem initSeedList_wellSeeded_iff (metadata : ObjectMeta) (spec : CassandraClusterSpec)
    (valid : ∀ dc ∈ spec.topology.dc, ∀ rack ∈ dc.rack,
      regexDCRackName (dc.name ++ "-" ++ rack.name) = true)
    (distinct : ∀ dc ∈ spec.topology.dc, (dc.rack.map Rack.name).Nodup) :
    (spec.topology.dc ≠ [] →
        initSeedList metadata spec = spec.topology.dc.flatMap (seedsOfDC metadata spec)) ∧
      ((∀ dc ∈ spec.topology.dc, dc.rack ≠ [] → WellSeeded metadata spec dc) ↔
        ∀ dc ∈ spec.topology.dc, dc.rack ≠ [] → SeedCountsFound spec dc) := by
  refine ⟨initSeedList_eq metadata, forall₃_congr fun dc member racks => ?_⟩
  exact wellSeeded_iff racks (rackNames_nodup (valid dc member) (distinct dc member))

def threeRacks (nodes : Int) : DC :=
  { name := "dc1"
    nodesPerRacks := some nodes
    rack := [{ name := "rack1" }, { name := "rack2" }, { name := "rack3" }] }

def seedsMeta : ObjectMeta := { name := "demo", ns := "ns" }

theorem threeRacks_wellSeeded :
    WellSeeded seedsMeta (onlyDC { nodesPerRacks := 1 } (threeRacks 2)) (threeRacks 2) := by
  have seeded := (initSeedList_wellSeeded_iff seedsMeta
    (onlyDC { nodesPerRacks := 1 } (threeRacks 2))
    (by decide +kernel) (by decide +kernel)).2
  refine seeded.mpr ?_ (threeRacks 2) List.mem_cons_self (by decide)
  intro dc member _
  rw [List.mem_singleton.mp member]
  exact (by decide : 0 < ownNodes (onlyDC { nodesPerRacks := 1 } (threeRacks 2)) (threeRacks 2))

/-- A DC of three racks that is scaled to zero keeps three seeds, and a DC of three nodes gets
one seed behind a DC without racks. -/
theorem emptied_dc_has_seeds :
    (¬ WellSeeded seedsMeta (onlyDC { nodesPerRacks := 1 } (threeRacks 0)) (threeRacks 0) ∧
        initSeedList seedsMeta (onlyDC { nodesPerRacks := 1 } (threeRacks 0)) =
          ["demo-dc1-rack1-0.demo.ns", "demo-dc1-rack2-0.demo.ns", "demo-dc1-rack3-0.demo.ns"]) ∧
      ∃ dc ∈ racklessFirst.topology.dc, dc.rack ≠ [] ∧ ownNodes racklessFirst dc = 3 ∧
        ¬ WellSeeded seedsMeta racklessFirst dc ∧
        seedsOfDC seedsMeta racklessFirst dc = ["demo-dc2-rack1-0.demo.ns"] := by
  refine ⟨⟨fun seeded => ?_, by decide +kernel⟩, _, List.mem_cons_of_mem _ List.mem_cons_self,
    by decide, by decide, fun seeded => ?_, by decide +kernel⟩
  · have count := seeded.count
    revert count
    decide +kernel
  · have count := seeded.count
    revert count
    decide +kernel

end Casskop
