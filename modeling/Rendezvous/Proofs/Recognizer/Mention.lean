import Rendezvous.Proofs.Calendar.Day
import Rendezvous.Proofs.Calendar.Moment
import Rendezvous.Proofs.Distinct
import Rendezvous.Recognizer.Extract

/-!
Contract: the days and the times of a list of mentions.

Owns:
- `Mention.times_eq`: the times are the distinct ones shown by the mentions that state one;
- `Mention.gather_times`: found together with the days, they are the same;
- `Mention.mem_gather`: the days are those of the mentions that are not vague;
- `Mention.gather_collects`: neither order nor repetition of the mentions changes the days, and
  repetition does not change the times.
-/

namespace Rendezvous.Mention

/-- The times shown by the mentions that state one, with repetitions. -/
def shownTimes (mentions : List Mention) : List Text :=
  (mentions.filter fun mention => mention.hasTime && !mention.isVague).map display

theorem times_eq (mentions : List Mention) : times mentions = distinct (shownTimes mentions) := by
  rw [distinct, shownTimes, List.foldl_map, List.foldl_filter]
  rfl

theorem times_nodup (mentions : List Mention) : (times mentions).Nodup := by
  rw [times_eq]
  exact distinct_nodup _

theorem times_isClockText {mentions : List Mention} {shown : Text}
    (member : shown ∈ times mentions) : IsClockText shown := by
  rw [times_eq, mem_distinct, shownTimes, List.mem_map] at member
  obtain ⟨mention, -, rfl⟩ := member
  exact Clock.display_isClockText mention.value.clock

theorem foldl_gatherStep_times (mentions : List Mention) (found : List Day × List Text) :
    (mentions.foldl gatherStep found).2 = (shownTimes mentions).foldl addNew found.2 := by
  rw [shownTimes, List.foldl_map, List.foldl_filter]
  induction mentions generalizing found with
  | nil => rfl
  | cons mention others inductionHypothesis =>
      rw [List.foldl_cons, List.foldl_cons, inductionHypothesis]
      congr 1
      cases isVague : mention.isVague <;> cases hasTime : mention.hasTime <;>
        simp [gatherStep, isVague, hasTime]

theorem gather_times (mentions : List Mention) : (gather mentions).2 = times mentions := by
  rw [times_eq, distinct]
  exact foldl_gatherStep_times mentions ([], [])

theorem times_append_of_subset {mentions repeated : List Mention} (known : repeated ⊆ mentions) :
    times (mentions ++ repeated) = times mentions := by
  have shown : shownTimes repeated ⊆ shownTimes mentions :=
    List.map_subset display (List.filter_subset _ known)
  rw [times_eq, times_eq, ← distinct_append_of_subset shown]
  simp only [shownTimes, List.filter_append, List.map_append]

/-! ## Days -/

/-- A mention that is not vague names a day. -/
def NamesDay (mention : Mention) (day : Day) : Prop :=
  mention.isVague = false ∧ mention.value.day = day

theorem mem_gatherStep (found : List Day × List Text) (mention : Mention) (day : Day) :
    day ∈ (gatherStep found mention).1 ↔ day ∈ found.1 ∨ mention.NamesDay day := by
  rw [gatherStep, NamesDay]
  by_cases isVague : mention.isVague = true
  · simp [isVague]
  · simp only [isVague, Bool.false_eq_true, ↓reduceIte, List.mem_cons, true_and]
    exact or_comm.trans (or_congr_right eq_comm)

theorem mem_foldl_gatherStep (mentions : List Mention) (found : List Day × List Text) (day : Day) :
    day ∈ (mentions.foldl gatherStep found).1 ↔
      day ∈ found.1 ∨ ∃ mention ∈ mentions, mention.NamesDay day := by
  induction mentions generalizing found with
  | nil => simp
  | cons mention others inductionHypothesis =>
      rw [List.foldl_cons, inductionHypothesis, mem_gatherStep, List.exists_mem_cons_iff, or_assoc]

theorem mem_gather (mentions : List Mention) (day : Day) :
    day ∈ (gather mentions).1 ↔ ∃ mention ∈ mentions, mention.NamesDay day := by
  rw [gather, Day.mem_sorted, mem_foldl_gatherStep]
  exact or_iff_right List.not_mem_nil

theorem gather_pairwise (mentions : List Mention) : (gather mentions).1.Pairwise (· < ·) :=
  Day.sorted_pairwise _

/-- Only the mentions matter for the days, not their order or repetitions. -/
theorem gather_days_of_mem_iff {mentions others : List Mention}
    (same : ∀ mention, mention ∈ others ↔ mention ∈ mentions) :
    (gather others).1 = (gather mentions).1 := by
  apply Day.ascending_unique (gather_pairwise others) (gather_pairwise mentions)
  intro day
  rw [mem_gather, mem_gather]
  exact exists_congr fun mention => and_congr_left fun _ => same mention

/-- Days and times found together are the times found alone, each at its first place, and the days
of the mentions that are not vague, in ascending order.  Mentions in another order change no day,
and mentions once more change nothing. -/
theorem gather_collects (mentions : List Mention) :
    (gather mentions).2 = times mentions ∧ KeepsFirsts (shownTimes mentions) (times mentions) ∧
      (gather mentions).1.Pairwise (· < ·) ∧
      (∀ day, day ∈ (gather mentions).1 ↔
        ∃ mention ∈ mentions, mention.isVague = false ∧ mention.value.day = day) ∧
      (∀ others : List Mention, others.Perm mentions → (gather others).1 = (gather mentions).1) ∧
      ∀ repeated, repeated ⊆ mentions → gather (mentions ++ repeated) = gather mentions := by
  refine ⟨gather_times mentions, ?_, gather_pairwise mentions, mem_gather mentions, ?_, ?_⟩
  · rw [times_eq]
    exact distinct_keepsFirsts (shownTimes mentions)
  · intro others isPermutation
    exact gather_days_of_mem_iff fun mention => isPermutation.mem_iff
  · intro repeated known
    apply Prod.ext
    · apply gather_days_of_mem_iff
      intro mention
      rw [List.mem_append]
      exact or_iff_left_of_imp fun isRepeated => known isRepeated
    · rw [gather_times, gather_times, times_append_of_subset known]

end Rendezvous.Mention
