import Mathlib.Data.List.Sort
import Rendezvous.Calendar.Week
import Rendezvous.Proofs.Recurrence.Expand

/-!
Contract: a text mentions the weekdays whose short names occur in it.

Owns:
- `Selector.mem_namedBy_iff_abbreviation`: as long as a table has the short names, its full names
  decide nothing;
- `Selector.mem_ofText_append`: no name reaches over a space, whatever the lower case of the texts
  around it is;
- `Selector.ofText_union`: the weekdays of a text put together are those of its parts.
-/

namespace Rendezvous.Selector

variable {names : List (Text × Int)} {selector : Selector}

/-! ## Short names -/

/-- The short names of the table alone. -/
def shortMentions : List (Text × Int) :=
  mentions.filter fun mention => mention.1.length = 3

theorem shortMentions_subset : shortMentions ⊆ mentions :=
  List.filter_sublist.subset

theorem abbreviation_mem_shortMentions : ∀ weekday : Weekday,
    (weekday.abbreviation.lower, (weekday.val : Int)) ∈ shortMentions := by
  decide +kernel

/-- Each name begins with the short name of its weekday. -/
theorem exists_abbreviation_prefix : ∀ mention ∈ mentions, ∃ weekday : Weekday,
    mention.2 = weekday.val ∧ weekday.abbreviation.lower <+: mention.1 := by
  decide +kernel

theorem space_not_mem_abbreviation : ∀ weekday : Weekday,
    ' ' ∉ weekday.abbreviation.lower ∧ weekday.abbreviation.lower ≠ [] := by
  decide +kernel

/-- Where a full name occurs, the short name does. -/
theorem mem_namedBy_iff_abbreviation (short : shortMentions ⊆ names) (known : names ⊆ mentions)
    (number : Int) (text : Text) :
    number ∈ namedBy names text ↔ ∃ weekday : Weekday,
      number = weekday.val ∧ weekday.abbreviation.lower <:+: text.lowerInContext := by
  simp only [mem_namedBy, Text.occursIn_iff]
  constructor
  · rintro ⟨name, isName, rfl, occurs⟩
    obtain ⟨weekday, same, begins⟩ := exists_abbreviation_prefix name (known isName)
    exact ⟨weekday, same, begins.isInfix.trans occurs⟩
  · rintro ⟨weekday, rfl, occurs⟩
    exact ⟨_, short (abbreviation_mem_shortMentions weekday), rfl, occurs⟩

theorem mem_ofText_iff_abbreviation (number : Int) (text : Text) :
    number ∈ ofText text ↔ ∃ weekday : Weekday,
      number = weekday.val ∧ weekday.abbreviation.lower <:+: text.lowerInContext :=
  mem_namedBy_iff_abbreviation shortMentions_subset (List.Subset.refl _) number text

/-! ## Texts put together -/

/-- A space has no letter case and ends words, so that the lower case of both sides is their own. -/
theorem infix_lowerInContext_append (weekday : Weekday) (front back : Text) :
    weekday.abbreviation.lower <:+: (front ++ ' ' :: back).lowerInContext ↔
      weekday.abbreviation.lower <:+: front.lowerInContext ∨
        weekday.abbreviation.lower <:+: back.lowerInContext := by
  obtain ⟨apart, proper⟩ := space_not_mem_abbreviation weekday
  have spaceItself : Text.lowerCharacter ' ' = [' '] := by decide +kernel
  rw [Text.lowerInContext_append_barrier (Text.isBarrier_of_isBlank (by decide)), spaceItself]
  exact Text.infix_append_cons_iff apart proper

theorem mem_ofText_append (number : Int) (front back : Text) :
    number ∈ ofText (front ++ ' ' :: back) ↔ number ∈ ofText front ∨ number ∈ ofText back := by
  simp only [mem_ofText_iff_abbreviation, infix_lowerInContext_append, and_or_left, exists_or]

/-! ## Weekdays of a text -/

theorem mergeSort_pairwise (distinct : selector.Nodup) : selector.mergeSort.Pairwise (· < ·) := by
  have stillDistinct : selector.mergeSort.Nodup :=
    (List.mergeSort_perm selector _).nodup_iff.2 distinct
  exact (List.sortedLE_mergeSort.sortedLT_of_nodup stillDistinct).pairwise

theorem ofText_pairwise (text : Text) : (ofText text).Pairwise (· < ·) :=
  normalize_pairwise _

/-- A text mentions, in ascending order and each once, the weekdays whose short names occur in its
lower case, the full names of the table deciding nothing, and two texts with a space between them
mention what one of them does. -/
theorem ofText_union (text : Text) :
    (ofText text).Pairwise (· < ·) ∧
      (∀ number, number ∈ ofText text ↔ ∃ weekday : Weekday,
        number = weekday.val ∧ weekday.abbreviation.lower <:+: text.lowerInContext) ∧
      namedBy shortMentions text = ofText text ∧
      ∀ back, ofText (text ++ ' ' :: back) = (ofText text ∪ ofText back).mergeSort := by
  refine ⟨ofText_pairwise text, fun number => mem_ofText_iff_abbreviation number text, ?_, ?_⟩
  · apply List.Pairwise.eq_of_mem_iff (normalize_pairwise _) (ofText_pairwise text)
    intro number
    rw [mem_ofText_iff_abbreviation]
    exact mem_namedBy_iff_abbreviation (List.Subset.refl _) shortMentions_subset number text
  · intro back
    have distinct : (ofText back).Nodup := (ofText_pairwise back).imp fun before => before.ne
    apply List.Pairwise.eq_of_mem_iff (ofText_pairwise _) (mergeSort_pairwise (distinct.union _))
    intro number
    rw [mem_ofText_append, List.mem_mergeSort, List.mem_union_iff]

/-- Without the space a name may reach over. -/
example : ofText "su nday".toList = [] ∧ ofText "sunday".toList = [0] := by
  cbv

end Rendezvous.Selector
