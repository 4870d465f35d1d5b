import Mathlib.Data.List.Basic
import Mathlib.Data.List.Nodup
import Rendezvous.Distinct

/-!
Contract: lists without repetitions have the members of the lists they are made from, in their
order of first appearance.

Owns:
- `mem_distinct` and `distinct_nodup`, from what one step adds;
- `KeepsFirsts`, lists that keep each member of another at its first place, what one step and a
  run of steps preserve of it, and `distinct_keepsFirsts`;
- `KeepsFirsts.firstPlace_lt_iff`: of two members the one that appears first comes first;
- `distinct_append_of_subset`: a list with members that are known already behind it.
-/

namespace Rendezvous

variable {α : Type} [DecidableEq α]

theorem mem_addNew (seen : List α) (added member : α) :
    member ∈ addNew seen added ↔ member ∈ seen ∨ member = added := by
  unfold addNew
  split
  next known =>
    have isSeen : added ∈ seen := List.contains_iff_mem.1 known
    exact ⟨Or.inl, fun either => either.elim id fun same => same ▸ isSeen⟩
  next => rw [List.mem_append, List.mem_singleton]

theorem addNew_nodup {seen : List α} (nodup : seen.Nodup) (added : α) :
    (addNew seen added).Nodup := by
  unfold addNew
  split
  next => exact nodup
  next unknown =>
    have fresh : added ∉ seen := fun isSeen => unknown (List.contains_iff_mem.2 isSeen)
    exact List.nodup_append.2 ⟨nodup, List.nodup_singleton added, fun member isSeen other isOther =>
      fun same => fresh (List.mem_singleton.1 isOther ▸ same ▸ isSeen)⟩

theorem mem_foldl_addNew (member : α) (added seen : List α) :
    member ∈ added.foldl addNew seen ↔ member ∈ seen ∨ member ∈ added := by
  induction added generalizing seen with
  | nil => simp
  | cons first rest inductionHypothesis =>
      rw [List.foldl_cons, inductionHypothesis, mem_addNew, List.mem_cons, or_assoc]

theorem foldl_addNew_nodup (added : List α) {seen : List α} (nodup : seen.Nodup) :
    (added.foldl addNew seen).Nodup := by
  induction added generalizing seen with
  | nil => exact nodup
  | cons first rest inductionHypothesis => exact inductionHypothesis (addNew_nodup nodup first)

@[simp]
theorem mem_distinct (member : α) (members : List α) :
    member ∈ distinct members ↔ member ∈ members := by
  rw [distinct, mem_foldl_addNew]
  simp

theorem distinct_nodup (members : List α) : (distinct members).Nodup :=
  foldl_addNew_nodup members List.nodup_nil

/-! ## First places -/

theorem addNew_of_mem {seen : List α} {added : α} (known : added ∈ seen) :
    addNew seen added = seen :=
  if_pos (List.contains_iff_mem.2 known)

theorem addNew_of_notMem {seen : List α} {added : α} (unknown : added ∉ seen) :
    addNew seen added = seen ++ [added] :=
  if_neg fun contained => unknown (List.contains_iff_mem.1 contained)

/-- A list has the members of another one, each at its first place there. -/
structure KeepsFirsts (members kept : List α) : Prop where
  mem_iff : ∀ member, member ∈ kept ↔ member ∈ members
  ascends : kept.Pairwise fun earlier later => members.idxOf earlier < members.idxOf later

/-- What is appended leaves the first places of the members as they are. -/
theorem KeepsFirsts.ascends_append {members kept : List α} (keeps : KeepsFirsts members kept)
    (behind : List α) :
    kept.Pairwise fun earlier later =>
      (members ++ behind).idxOf earlier < (members ++ behind).idxOf later := by
  apply keeps.ascends.imp_of_mem
  intro earlier later isEarlier isLater ordered
  rw [List.idxOf_append_of_mem ((keeps.mem_iff earlier).1 isEarlier),
    List.idxOf_append_of_mem ((keeps.mem_iff later).1 isLater)]
  exact ordered

/-- One step goes on keeping each member at its first place. -/
theorem keepsFirsts_addNew {members kept : List α} (keeps : KeepsFirsts members kept) (added : α) :
    KeepsFirsts (members ++ [added]) (addNew kept added) := by
  refine ⟨?_, ?_⟩
  · intro member
    rw [mem_addNew, keeps.mem_iff, List.mem_append, List.mem_singleton]
  · have before := keeps.ascends_append [added]
    by_cases known : added ∈ kept
    · rw [addNew_of_mem known]
      exact before
    · rw [addNew_of_notMem known]
      refine List.pairwise_append.2 ⟨before, List.pairwise_singleton _ _, ?_⟩
      intro earlier isEarlier later isAdded
      rw [keeps.mem_iff] at known isEarlier
      rw [List.mem_singleton.1 isAdded, List.idxOf_append_of_mem isEarlier,
        List.idxOf_append_of_notMem known]
      exact Nat.lt_add_right _ (List.idxOf_lt_length_of_mem isEarlier)

theorem keepsFirsts_foldl {members kept : List α} (keeps : KeepsFirsts members kept)
    (added : List α) : KeepsFirsts (members ++ added) (added.foldl addNew kept) := by
  induction added generalizing members kept with
  | nil => rwa [List.append_nil]
  | cons first rest inductionHypothesis =>
      have further := inductionHypothesis (keepsFirsts_addNew keeps first)
      rwa [List.append_assoc, List.singleton_append] at further

theorem distinct_keepsFirsts (members : List α) : KeepsFirsts members (distinct members) :=
  keepsFirsts_foldl ⟨fun _ => Iff.rfl, List.Pairwise.nil⟩ members

/-- How many members come before the first place of a member. -/
def firstPlace (members : List α) (member : α) : Nat :=
  members.idxOf member

/-- Two members are in the order of their first places. -/
theorem KeepsFirsts.firstPlace_lt_iff {members kept : List α} (keeps : KeepsFirsts members kept)
    {left right : α} (isLeft : left ∈ kept) (isRight : right ∈ kept) :
    firstPlace kept left < firstPlace kept right ↔
      firstPlace members left < firstPlace members right := by
  have ordered {earlier later : α} (isEarlier : earlier ∈ kept) (isLater : later ∈ kept)
      (before : firstPlace kept earlier < firstPlace kept later) :
      firstPlace members earlier < firstPlace members later := by
    have places := List.pairwise_iff_getElem.1 keeps.ascends _ _
      (List.idxOf_lt_length_of_mem isEarlier) (List.idxOf_lt_length_of_mem isLater) before
    rwa [List.getElem_idxOf, List.getElem_idxOf] at places
  refine ⟨ordered isLeft isRight, fun before => ?_⟩
  rcases Nat.lt_trichotomy (firstPlace kept left) (firstPlace kept right) with first | same | second
  · exact first
  · rw [(List.idxOf_inj isLeft).1 same] at before
    exact absurd before (Nat.lt_irrefl _)
  · exact absurd before (Nat.lt_asymm (ordered isRight isLeft second))

theorem foldl_addNew_of_subset (added : List α) {seen : List α} (known : added ⊆ seen) :
    added.foldl addNew seen = seen := by
  induction added with
  | nil => rfl
  | cons first rest inductionHypothesis =>
      obtain ⟨isSeen, areSeen⟩ := List.cons_subset.1 known
      rw [List.foldl_cons, addNew_of_mem isSeen, inductionHypothesis areSeen]

theorem distinct_append_of_subset {members repeated : List α} (known : repeated ⊆ members) :
    distinct (members ++ repeated) = distinct members := by
  rw [distinct, List.foldl_append]
  apply foldl_addNew_of_subset
  exact fun member isRepeated => (mem_distinct member members).2 (known isRepeated)

end Rendezvous
