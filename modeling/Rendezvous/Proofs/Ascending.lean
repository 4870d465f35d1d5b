import Mathlib.Order.Lattice
import Rendezvous.Ascending

/-!
Contract: ascending lists are the sets that they stand for.

Owns:
- `mem_ascending`: the members are those of the list;
- `ascending_pairwise`: where each member has a rank of its own, by which the list is sorted, it is
  strictly below the next one;
- `ascending_eq_self`: a strictly ascending list is left as it is.
-/

namespace Rendezvous

variable {α : Type} [DecidableEq α]

@[simp]
theorem mem_dropRepeated (member : α) (members : List α) :
    member ∈ dropRepeated members ↔ member ∈ members := by
  induction members with
  | nil => simp [dropRepeated]
  | cons first rest inductionHypothesis =>
      by_cases repeated : rest.head? = some first
      · have again : first ∈ rest := List.mem_of_head? repeated
        rw [dropRepeated, if_pos repeated, inductionHypothesis, List.mem_cons]
        exact ⟨Or.inr, fun either => either.elim (fun same => same ▸ again) id⟩
      · rw [dropRepeated, if_neg repeated, List.mem_cons, inductionHypothesis, List.mem_cons]

@[simp]
theorem mem_ascending (le : α → α → Bool) (member : α) (members : List α) :
    member ∈ ascending le members ↔ member ∈ members := by
  rw [ascending, mem_dropRepeated, List.mem_mergeSort]

section Order

variable {Rank : Type} [LinearOrder Rank] {rank : α → Rank}

/-- In a list in weakly ascending order only neighbours can be equal. -/
theorem dropRepeated_pairwise (injective : Function.Injective rank) (members : List α)
    (sorted : members.Pairwise fun left right => rank left ≤ rank right) :
    (dropRepeated members).Pairwise fun left right => rank left < rank right := by
  induction members with
  | nil => simp [dropRepeated]
  | cons first rest inductionHypothesis =>
      rw [List.pairwise_cons] at sorted
      by_cases repeated : rest.head? = some first
      · rw [dropRepeated, if_pos repeated]
        exact inductionHypothesis sorted.2
      · rw [dropRepeated, if_neg repeated, List.pairwise_cons]
        refine ⟨fun later member => ?_, inductionHypothesis sorted.2⟩
        rw [mem_dropRepeated] at member
        cases rest with
        | nil => simp at member
        | cons next others =>
            have distinct : rank first ≠ rank next := fun same =>
              repeated (by simp [injective same])
            have below : rank first < rank next := lt_of_le_of_ne (sorted.1 next (by simp)) distinct
            rcases List.mem_cons.1 member with same | further
            · exact same ▸ below
            · exact below.trans_le ((List.pairwise_cons.1 sorted.2).1 later further)

theorem ascending_pairwise (injective : Function.Injective rank) (members : List α) :
    (ascending (fun left right => decide (rank left ≤ rank right)) members).Pairwise
      fun left right => rank left < rank right := by
  apply dropRepeated_pairwise injective
  have sorted : (members.mergeSort fun left right => decide (rank left ≤ rank right)).Pairwise
      fun left right => decide (rank left ≤ rank right) = true := by
    apply List.pairwise_mergeSort
    · intro left middle right
      simpa using le_trans
    · intro left right
      simpa using le_total (rank left) (rank right)
  exact sorted.imp of_decide_eq_true

theorem dropRepeated_eq_self (members : List α)
    (ascends : members.Pairwise fun left right => rank left < rank right) :
    dropRepeated members = members := by
  induction members with
  | nil => rfl
  | cons first rest inductionHypothesis =>
      rw [List.pairwise_cons] at ascends
      have fresh : rest.head? ≠ some first := fun repeated =>
        lt_irrefl (rank first) (ascends.1 first (List.mem_of_head? repeated))
      rw [dropRepeated, if_neg fresh, inductionHypothesis ascends.2]

theorem ascending_eq_self (rank : α → Rank) (members : List α)
    (ascends : members.Pairwise fun left right => rank left < rank right) :
    ascending (fun left right => decide (rank left ≤ rank right)) members = members := by
  rw [ascending, List.mergeSort_of_pairwise (ascends.imp fun before => decide_eq_true before.le)]
  exact dropRepeated_eq_self members ascends

end Order

end Rendezvous
