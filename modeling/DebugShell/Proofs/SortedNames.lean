import DebugShell.Registry
import Mathlib.Data.List.Sort

/-!
# Names in ascending order

`sortedNames` lists texts in strictly ascending order (`sortedNames_ascending`), so that each stands
in the list once, and it lists those that it was given (`mem_sortedNames`). An ascending list is
told from its members (`eq_of_ascending`), so what is listed depends on which texts there are, and
neither on their order nor on how often they come.
-/

namespace DebugShell

/-- Without repetitions a list has no member twice. -/
theorem nodup_eraseDups {α : Type} [BEq α] [LawfulBEq α] :
    ∀ xs : List α, xs.eraseDups.Nodup
  | [] => List.nodup_nil
  | x :: rest => by
    rw [List.eraseDups_cons, List.nodup_cons]
    -- What stands behind the first member was freed of all members that are equal to it.
    have hfirst : x ∉ (rest.filter fun y => !y == x).eraseDups := by
      rw [List.mem_eraseDups, List.mem_filter]
      simp
    exact ⟨hfirst, nodup_eraseDups (rest.filter fun y => !y == x)⟩
termination_by xs => xs.length
decreasing_by
  have hle := List.length_filter_le (fun y => !y == x) rest
  rw [List.length_cons]
  omega

/-- The texts that are listed are those that were given. -/
theorem mem_sortedNames (names : List String) (n : String) : n ∈ sortedNames names ↔ n ∈ names := by
  rw [sortedNames, List.mem_mergeSort, List.mem_eraseDups]

/-- No text is listed twice. -/
theorem nodup_sortedNames (names : List String) : (sortedNames names).Nodup :=
  (List.mergeSort_perm names.eraseDups _).nodup_iff.2 (nodup_eraseDups names)

/-- They are listed in ascending order, each once. -/
theorem sortedNames_ascending (names : List String) : (sortedNames names).Pairwise (· < ·) := by
  have hle : (sortedNames names).Pairwise fun a b => decide (a ≤ b) = true := by
    refine List.pairwise_mergeSort (fun a b c hab hbc => ?_) (fun a b => ?_) _
    · rw [decide_eq_true_eq] at hab hbc ⊢
      exact String.le_trans hab hbc
    · rw [Bool.or_eq_true, decide_eq_true_eq, decide_eq_true_eq]
      exact String.le_total a b
  refine hle.imp₂ (fun a b hab hne => ?_) (nodup_sortedNames names)
  rw [decide_eq_true_eq] at hab
  -- The greater of two texts that differ is greater strictly.
  by_contra hlt
  exact hne (String.le_antisymm hab (String.not_lt.1 hlt))

/-- Lists in ascending order with the same members are equal. -/
theorem eq_of_ascending {names names' : List String} (h : names.Pairwise (· < ·))
    (h' : names'.Pairwise (· < ·)) (hmem : ∀ n, n ∈ names ↔ n ∈ names') : names = names' := by
  have hirrefl : Std.Irrefl fun x y : String => x < y := ⟨String.lt_irrefl⟩
  have hantisymm : Std.Antisymm fun x y : String => x < y :=
    ⟨fun _ _ hxy hyx => absurd hyx (String.lt_asymm hxy)⟩
  exact h.eq_of_mem_iff h' hmem

end DebugShell
