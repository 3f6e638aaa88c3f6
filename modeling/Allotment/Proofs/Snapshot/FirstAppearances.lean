import Mathlib.Data.List.Induction
import Mathlib.Data.List.Nodup

/-!
# First appearances

The distinct items of a list in the order in which they first appear. `firstAppearances` says it by places: an item is
kept where no equal item stands before it. The one-pass removal of repeated items, which remembers what it has seen,
keeps the same items (`eraseDups_eq`), so that nothing is kept twice (`nodup_firstAppearances`).
-/

namespace Allotment

variable {α : Type} [DecidableEq α]

/-- The items of a list at the places before which they do not stand. -/
def firstAppearances (xs : List α) : List α :=
  (xs.zipIdx.filter fun (x, i) => x ∉ xs.take i).map Prod.fst

/-- One more item at the end is kept just if it is new; what was kept before stays. -/
theorem firstAppearances_concat (xs : List α) (x : α) :
    firstAppearances (xs ++ [x]) = firstAppearances xs ++ if x ∈ xs then [] else [x] := by
  have before : ((xs.zipIdx).filter fun (y, i) => y ∉ (xs ++ [x]).take i) =
      (xs.zipIdx).filter fun (y, i) => y ∉ xs.take i := by
    apply List.filter_congr
    rintro ⟨y, i⟩ h
    have hi : i < xs.length := by simpa using List.snd_lt_of_mem_zipIdx h
    simp only [List.take_append_of_le_length (Nat.le_of_lt hi)]
  have last : List.take xs.length (xs ++ [x]) = xs := by simp
  simp only [firstAppearances, List.zipIdx_append, List.filter_append, List.map_append, before]
  by_cases h : x ∈ xs <;> simp [h, last]

/-- The one-pass removal treats one more item at the end alike. -/
theorem eraseDups_concat (xs : List α) (x : α) :
    (xs ++ [x]).eraseDups = xs.eraseDups ++ if x ∈ xs then [] else [x] := by
  rw [List.eraseDups_append]
  by_cases h : x ∈ xs <;> simp [List.removeAll, List.eraseDups_cons, h]

/-- **Removing repeated items in one pass keeps the first appearances.** -/
theorem eraseDups_eq (xs : List α) : xs.eraseDups = firstAppearances xs := by
  induction xs using List.reverseRecOn with
  | nil => rfl
  | append_singleton xs x ih => rw [eraseDups_concat, firstAppearances_concat, ih]

example : firstAppearances [3, 1, 3, 2, 1] = [3, 1, 2] := by decide

theorem mem_firstAppearances {xs : List α} {x : α} : x ∈ firstAppearances xs ↔ x ∈ xs := by
  rw [← eraseDups_eq, List.mem_eraseDups]

theorem nodup_firstAppearances (xs : List α) : (firstAppearances xs).Nodup := by
  induction xs using List.reverseRecOn with
  | nil => exact List.nodup_nil
  | append_singleton xs x ih =>
    rw [firstAppearances_concat]
    by_cases h : x ∈ xs
    · simpa [h] using ih
    · rw [if_neg h]
      refine List.nodup_append.mpr ⟨ih, List.nodup_singleton x, ?_⟩
      intro y hy z hz
      rw [mem_firstAppearances] at hy
      rw [List.mem_singleton] at hz
      exact fun e => h (hz ▸ e ▸ hy)

/-- What has appeared before adds nothing. -/
theorem firstAppearances_append_of_subset {xs ys : List α} (appeared : ys ⊆ xs) :
    firstAppearances (xs ++ ys) = firstAppearances xs := by
  induction ys using List.reverseRecOn with
  | nil => rw [List.append_nil]
  | append_singleton ys y ih =>
    obtain ⟨before, last⟩ := List.append_subset.mp appeared
    have known : y ∈ xs ++ ys := List.mem_append_left ys (last (List.mem_singleton_self y))
    rw [← List.append_assoc, firstAppearances_concat, if_pos known, List.append_nil, ih before]

/-- Where nothing is repeated, everything is kept. -/
theorem firstAppearances_of_nodup {xs : List α} (once : xs.Nodup) : firstAppearances xs = xs := by
  induction xs using List.reverseRecOn with
  | nil => rfl
  | append_singleton xs x ih =>
    obtain ⟨others, -, apart⟩ := List.nodup_append.mp once
    have new : x ∉ xs := fun mem => apart x mem x (List.mem_singleton_self x) rfl
    rw [firstAppearances_concat, if_neg new, ih others]

theorem length_firstAppearances_le (xs : List α) : (firstAppearances xs).length ≤ xs.length := by
  rw [firstAppearances, List.length_map, ← List.length_zipIdx (l := xs) (i := 0)]
  exact List.length_filter_le _ _

end Allotment
