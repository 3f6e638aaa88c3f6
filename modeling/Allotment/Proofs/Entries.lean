/-!
# Lists of entries

A list of pairs is looked up by its keys. What is taken out for one key is not missed at another.
-/

namespace Allotment

variable {α β : Type} [BEq α] [LawfulBEq α]

/-- Entries that are taken out for one key leave what is found at the others. -/
theorem lookup_filter_ne {entries : List (α × β)} {key key' : α} (other : key' ≠ key) :
    (entries.filter (·.1 != key)).lookup key' = entries.lookup key' := by
  induction entries with
  | nil => rfl
  | cons entry entries ih =>
    obtain ⟨held, value⟩ := entry
    cases here : held == key with
    | true =>
      obtain rfl := eq_of_beq here
      rw [List.filter_cons_of_neg (by simp), List.lookup_cons, beq_eq_false_iff_ne.mpr other, ih]
    | false =>
      rw [List.filter_cons_of_pos (by simp [bne, here]), List.lookup_cons, List.lookup_cons, ih]

/-- With nothing found at a key, nothing is taken out for it. -/
theorem filter_ne_of_lookup {entries : List (α × β)} {key : α} (free : entries.lookup key = none) :
    entries.filter (·.1 != key) = entries := by
  rw [List.filter_eq_self]
  intro entry mem
  have other := List.lookup_eq_none_iff.mp free entry mem
  simpa [bne, BEq.comm] using other

end Allotment
