import Mathlib.Data.Option.Basic

/-!
# JSON trees

Objects are lists of fields in which the first field of a name counts.  Arrays and scalars are
leaves: nothing looks into them, and a merge replaces them as a whole.
-/

namespace JsonTree

mutual

inductive Node where
  | null
  | leaf (text : String)
  | object (fields : Fields)

inductive Fields where
  | nil
  | cons (key : String) (value : Node) (rest : Fields)

end

namespace Fields

def get? : Fields → String → Option Node
  | .nil, _ => none
  | .cons name value rest, key => if name = key then some value else rest.get? key

def erase : Fields → String → Fields
  | .nil, _ => .nil
  | .cons name value rest, key =>
    if name = key then rest.erase key else .cons name value (rest.erase key)

def set (fields : Fields) (key : String) (value : Node) : Fields :=
  .cons key value (fields.erase key)

@[simp] theorem get?_nil (key : String) : nil.get? key = none := rfl

@[simp] theorem get?_cons (name : String) (value : Node) (rest : Fields) (key : String) :
    (cons name value rest).get? key = if name = key then some value else rest.get? key := rfl

theorem get?_erase (fields : Fields) (key other : String) :
    (fields.erase key).get? other = if key = other then none else fields.get? other := by
  match fields with
  | .nil =>
    unfold erase
    simp
  | .cons name value rest =>
    have later := get?_erase rest key other
    unfold erase
    by_cases same : name = key
    · subst same
      rw [if_pos rfl, later, get?_cons]
      split <;> rfl
    · rw [if_neg same, get?_cons, later, get?_cons]
      by_cases here : name = other
      · subst here
        simp [Ne.symm same]
      · simp [here]

@[simp] theorem get?_set (fields : Fields) (key other : String) (value : Node) :
    (fields.set key value).get? other = if key = other then some value else fields.get? other := by
  unfold set
  rw [get?_cons, get?_erase]
  split <;> rfl

end Fields

mutual

/-- The second tree wins; objects are merged field by field. -/
def Node.merge : Node → Node → Node
  | .object old, .object new => .object (old.mergeWith new)
  | _, new => new

def Fields.mergeWith : Fields → Fields → Fields
  | .nil, new => new
  | .cons key value rest, new =>
    .cons key
      (match new.get? key with
      | none => value
      | some other => value.merge other)
      (rest.mergeWith new)

end

/-- What becomes of a field that one or both sides have. -/
def mergeEntry : Option Node → Option Node → Option Node
  | none, new => new
  | some value, none => some value
  | some value, some other => some (value.merge other)

@[simp] theorem mergeEntry_none_left (new : Option Node) : mergeEntry none new = new := by
  cases new <;> rfl

@[simp] theorem mergeEntry_none_right (old : Option Node) : mergeEntry old none = old := by
  cases old <;> rfl

/-- A merge treats every field by itself. -/
@[simp] theorem Fields.get?_mergeWith (old new : Fields) (key : String) :
    (old.mergeWith new).get? key = mergeEntry (old.get? key) (new.get? key) := by
  match old with
  | .nil =>
    unfold Fields.mergeWith
    rw [get?_nil, mergeEntry_none_left]
  | .cons name value rest =>
    have later := Fields.get?_mergeWith rest new key
    unfold Fields.mergeWith
    rw [get?_cons, get?_cons]
    by_cases same : name = key
    · subst same
      rw [if_pos rfl, if_pos rfl]
      cases new.get? name <;> rfl
    · rw [if_neg same, if_neg same, later]

/-! ## Paths of two names -/

namespace Fields

def path? (fields : Fields) (table key : String) : Option Node :=
  match fields.get? table with
  | some (.object entries) => entries.get? key
  | _ => none

/-- A missing or null table is made, one that is no object is left alone. -/
def setPath (fields : Fields) (table key : String) (value : Node) : Fields :=
  match fields.get? table with
  | none | some .null => fields.set table (.object (.cons key value .nil))
  | some (.object entries) => fields.set table (.object (entries.set key value))
  | some (.leaf _) => fields

def setDefault (fields : Fields) (table key : String) (value : Node) : Fields :=
  match fields.path? table key with
  | none | some .null => fields.setPath table key value
  | some _ => fields

theorem get?_setDefault_of_ne {table other : String} (apart : table ≠ other)
    (fields : Fields) (key : String) (value : Node) :
    (fields.setDefault table key value).get? other = fields.get? other := by
  have kept : (fields.setPath table key value).get? other = fields.get? other := by
    unfold setPath
    split <;> simp [apart]
  unfold setDefault
  split
  · exact kept
  · exact kept
  · rfl

theorem path?_eq_some {fields : Fields} {table key : String} {value : Node}
    (found : fields.path? table key = some value) :
    ∃ entries, fields.get? table = some (.object entries) ∧ entries.get? key = some value := by
  unfold path? at found
  split at found
  · rename_i entries table
    exact ⟨entries, table, found⟩
  · cases found

theorem path?_setDefault {fields : Fields} {table key : String} {value : Node}
    (found : fields.path? table key = some value) (present : value ≠ .null) (other : String)
    (default : Node) : (fields.setDefault table other default).path? table key = some value := by
  by_cases same : other = key
  · subst same
    have kept : fields.setDefault table other default = fields := by
      unfold setDefault
      rw [found]
      split
      · contradiction
      · rename_i null
        exact absurd (Option.some.inj null) present
      · rfl
    rw [kept]
    exact found
  · obtain ⟨entries, inside, entry⟩ := path?_eq_some found
    have set : (fields.setPath table other default).path? table key = some value := by
      unfold setPath
      rw [inside]
      simp [path?, same, entry]
    unfold setDefault
    split
    · exact set
    · exact set
    · exact found

/-- The defaults of a table, one after the other. -/
def setDefaults (fields : Fields) (table : String) (defaults : List (String × Node)) : Fields :=
  defaults.foldl (fun fields default => fields.setDefault table default.1 default.2) fields

theorem get?_setDefaults_of_ne {table other : String} (apart : table ≠ other)
    (defaults : List (String × Node)) :
    ∀ fields : Fields, (fields.setDefaults table defaults).get? other = fields.get? other := by
  induction defaults with
  | nil =>
    intro fields
    rfl
  | cons default defaults induction =>
    intro fields
    exact (induction _).trans (get?_setDefault_of_ne apart fields default.1 default.2)

theorem path?_setDefaults {table key : String} {value : Node} (present : value ≠ .null)
    (defaults : List (String × Node)) :
    ∀ fields : Fields, fields.path? table key = some value →
      (fields.setDefaults table defaults).path? table key = some value := by
  induction defaults with
  | nil =>
    intro fields found
    exact found
  | cons default defaults induction =>
    intro fields found
    exact induction _ (path?_setDefault found present default.1 default.2)

end Fields

end JsonTree
