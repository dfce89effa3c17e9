import Mathlib.Data.List.Infix

/-!
# Searching a text for a tagged field

A text holds fields, each a tag followed by a name and a separator.  A search for the tag
followed by a word looks at every position of the text.  If the tag occurs nowhere else the
search finds the fields whose name starts with the word, and no others.
-/

namespace FieldSearch

variable {α : Type*} {pattern tag word name text rest : List α} {sep : α}

/-- No occurrence of the pattern begins in the text, whatever follows it. -/
def Skips (pattern text : List α) : Prop :=
  ∀ rest, pattern <:+: text ++ rest ↔ pattern <:+: rest

theorem Skips.nil : Skips pattern [] := fun _ => Iff.rfl

theorem Skips.append {first second : List α} (skips : Skips pattern first)
    (later : Skips pattern second) : Skips pattern (first ++ second) := by
  intro rest
  rw [List.append_assoc, skips, later]

theorem Skips.cons {head : α} (apart : ∀ rest, ¬ pattern <+: head :: (text ++ rest))
    (skips : Skips pattern text) : Skips pattern (head :: text) := by
  intro rest
  rw [List.cons_append, List.infix_cons_iff, or_iff_right (apart rest), skips]

/-- No end of the text begins with the tag or could grow into it. -/
def Apart (tag text : List α) : Prop :=
  ∀ part, part <:+ text → part ≠ [] → ¬ tag <+: part ∧ ¬ part <+: tag

instance Apart.decidable [DecidableEq α] (tag text : List α) : Decidable (Apart tag text) :=
  decidable_of_iff (∀ part ∈ text.tails, part ≠ [] → ¬ tag <+: part ∧ ¬ part <+: tag)
    (by simp only [Apart, List.mem_tails])

theorem Apart.skips (apart : Apart tag text) (word : List α) : Skips (tag ++ word) text := by
  induction text with
  | nil => exact .nil
  | cons head text induction =>
    refine Skips.cons (fun rest found => ?_) (induction fun part ends => ?_)
    · have starts : tag <+: head :: text ++ rest := (List.prefix_append tag word).trans found
      have here := apart (head :: text) List.suffix_rfl (List.cons_ne_nil _ _)
      exact (List.prefix_or_prefix_of_prefix starts (List.prefix_append _ rest)).elim
        here.1 here.2
    · exact apart part (ends.trans (List.suffix_cons head text))

/-- A name without the tag, up to a separator the tag does not have. -/
theorem apart_of_unmarked (unmarked : ¬ tag <:+: name) (foreign : sep ∉ tag) :
    Apart tag (name ++ [sep]) := by
  intro part ends nonempty
  rcases List.suffix_concat_iff.mp ends with empty | ⟨front, rfl, inside⟩
  · exact absurd empty nonempty
  · have last : sep ∈ front ++ [sep] := List.mem_append_right _ List.mem_cons_self
    refine ⟨fun starts => ?_, fun grows => foreign (grows.subset last)⟩
    rcases List.prefix_concat_iff.mp starts with same | shorter
    · exact foreign (same ▸ last)
    · exact unmarked (shorter.isInfix.trans inside.isInfix)

/-- A word without the separator is the beginning of a field if it is that of its name. -/
theorem prefix_field_iff (absent : sep ∉ word) : word <+: name ++ sep :: rest ↔ word <+: name := by
  constructor
  · intro starts
    rcases List.prefix_or_prefix_of_prefix starts (List.prefix_append name (sep :: rest)) with
      shorter | longer
    · exact shorter
    · obtain ⟨more, rfl⟩ := longer
      cases more with
      | nil => simp
      | cons head more =>
        have same := (List.cons_prefix_cons.mp
          ((List.prefix_append_right_inj name).mp starts)).1
        exact absurd (by simp [same]) absent
  · intro starts
    exact starts.trans (List.prefix_append name _)

/-- A tag that does not overlap itself is found at its field, or behind it. -/
theorem infix_field_iff (single : Apart tag tag.tail) (foreign : sep ∉ tag) (absent : sep ∉ word)
    (nonempty : tag ≠ []) (unmarked : ¬ tag <:+: name) :
    tag ++ word <:+: tag ++ (name ++ sep :: rest) ↔ word <+: name ∨ tag ++ word <:+: rest := by
  obtain ⟨head, tail, rfl⟩ := List.exists_cons_of_ne_nil nonempty
  have behind : Skips (head :: tail ++ word) (tail ++ (name ++ [sep])) :=
    (single.skips word).append ((apart_of_unmarked unmarked foreign).skips word)
  have split : tail ++ (name ++ sep :: rest) = tail ++ (name ++ [sep]) ++ rest := by simp
  have here : head :: tail ++ word <+: head :: (tail ++ (name ++ sep :: rest)) ↔
      word <+: name := by
    rw [← List.cons_append, List.prefix_append_right_inj, prefix_field_iff absent]
  change head :: tail ++ word <:+: head :: (tail ++ (name ++ sep :: rest)) ↔ _
  rw [List.infix_cons_iff, here, split, behind]

end FieldSearch
