import Mathlib.Data.List.DropRight
import Rendezvous.Text.Basic

/-!
Contract: texts without blanks around them.

Owns:
- `Text.dropEndWhile_isPrefix` and `Text.last_dropEndWhile`, what is left when the end of a text is
  dropped, and `Text.dropEndWhile_cons_of_exists`, how it begins;
- `Text.IsTrimmed`, which holds of trimmed texts, with `Text.trim_isInfix`;
- `Text.isStemOf_iff` and `Text.isTrimOf_iff`: both operations by what they leave;
- `Text.trim_eq_nil_iff`: nothing is left of blanks only.
-/

namespace Rendezvous.Text

/-! ## Dropped ends -/

theorem dropEndWhile_isPrefix (drop : Char → Bool) (text : Text) :
    dropEndWhile drop text <+: text :=
  List.rdropWhile_prefix drop text

theorem last_dropEndWhile (drop : Char → Bool) (text : Text) (c : Char)
    (isLast : (dropEndWhile drop text).getLast? = some c) : drop c = false := by
  obtain ⟨someLeft, same⟩ := List.mem_getLast?_eq_getLast isLast
  rw [same]
  exact Bool.eq_false_iff.2 (List.rdropWhile_last_not drop text someLeft)

theorem dropEndWhile_eq_nil_iff (drop : Char → Bool) (text : Text) :
    dropEndWhile drop text = [] ↔ ∀ c ∈ text, drop c = true :=
  List.rdropWhile_eq_nil_iff

/-- Where not all characters are dropped, the first one stays. -/
theorem dropEndWhile_cons_of_exists {drop : Char → Bool} {first : Char} {rest : Text}
    (stays : ∃ c ∈ first :: rest, drop c = false) :
    dropEndWhile drop (first :: rest) = first :: dropEndWhile drop rest := by
  by_cases dropsRest : ∀ c ∈ rest, drop c = true
  · have dropped : rest.reverse.dropWhile drop = [] :=
      List.dropWhile_eq_nil_iff.2 fun c member => dropsRest c (List.mem_reverse.1 member)
    have staysFirst : drop first = false := by
      obtain ⟨c, member, stays⟩ := stays
      rcases List.mem_cons.1 member with rfl | inRest
      · exact stays
      · rw [dropsRest c inRest] at stays
        contradiction
    simp [dropEndWhile, List.dropWhile_append, dropped, staysFirst]
  · have left : rest.reverse.dropWhile drop ≠ [] := by
      rw [Ne, List.dropWhile_eq_nil_iff]
      simpa using dropsRest
    simp [dropEndWhile, List.dropWhile_append, left]

/-- Whether a text is another one without its longest final run of characters that are dropped. -/
structure IsStemOf (stem : Text) (drop : Char → Bool) (text : Text) : Prop where
  split : ∃ run, text = stem ++ run ∧ ∀ c ∈ run, drop c = true
  last_stays : ∀ c, stem.getLast? = some c → drop c = false

theorem isStemOf_iff {stem text : Text} {drop : Char → Bool} :
    stem.IsStemOf drop text ↔ stem = dropEndWhile drop text := by
  constructor
  · rintro ⟨⟨run, rfl, dropped⟩, lastStays⟩
    have ofRun : ∀ c ∈ run.reverse, drop c = true := fun c member =>
      dropped c (List.mem_reverse.1 member)
    have ofStem : stem.reverse.dropWhile drop = stem.reverse := by
      cases reversed : stem.reverse with
      | nil => rfl
      | cons last before =>
          have isLast : stem.getLast? = some last := by
            rw [← List.head?_reverse, reversed]
            rfl
          exact List.dropWhile_cons_of_neg (Bool.eq_false_iff.1 (lastStays last isLast))
    rw [dropEndWhile, List.reverse_append, List.dropWhile_append_of_pos ofRun, ofStem,
      List.reverse_reverse]
  · rintro rfl
    refine ⟨⟨(text.reverse.takeWhile drop).reverse, ?_, ?_⟩, last_dropEndWhile drop text⟩
    · rw [dropEndWhile, ← List.reverse_append, List.takeWhile_append_dropWhile,
        List.reverse_reverse]
    · intro c member
      exact List.mem_takeWhile_imp (List.mem_reverse.1 member)

/-! ## Trimmed texts -/

/-- Whether a text neither begins nor ends with a blank. -/
structure IsTrimmed (text : Text) : Prop where
  head_not_blank : ∀ c, text.head? = some c → isBlank c = false
  last_not_blank : ∀ c, text.getLast? = some c → isBlank c = false

theorem trim_eq_rdropWhile (text : Text) :
    text.trim = (text.dropWhile isBlank).rdropWhile isBlank :=
  rfl

theorem trim_isTrimmed (text : Text) : text.trim.IsTrimmed := by
  constructor
  · intro c isHead
    obtain ⟨rest, same⟩ := List.head?_eq_some_iff.1 isHead
    obtain ⟨dropped, whole⟩ := List.rdropWhile_prefix isBlank (text.dropWhile isBlank)
    rw [← trim_eq_rdropWhile, same] at whole
    have notBlank := List.head?_dropWhile_not isBlank text
    rw [← whole] at notBlank
    exact notBlank
  · exact last_dropEndWhile isBlank (text.dropWhile isBlank)

theorem trim_isInfix (text : Text) : text.trim <:+: text :=
  (dropEndWhile_isPrefix isBlank _).isInfix.trans (List.dropWhile_suffix isBlank).isInfix

theorem trim_eq_nil_iff (text : Text) : text.trim = [] ↔ text.isAllBlank = true := by
  have leading : text.dropWhile isBlank = [] ↔ text.isAllBlank = true :=
    List.dropWhile_eq_nil_iff.trans List.all_eq_true.symm
  rw [trim_eq_rdropWhile, List.rdropWhile_eq_nil_iff, ← leading]
  constructor
  · intro allBlank
    by_contra someRest
    have notBlank := List.head_dropWhile_not isBlank someRest
    rw [allBlank _ (List.head_mem someRest)] at notBlank
    contradiction
  · intro noRest
    rw [noRest]
    exact fun c member => absurd member List.not_mem_nil

/-- Whether a text is another one without the blanks around it. -/
structure IsTrimOf (trimmed text : Text) : Prop extends IsTrimmed trimmed where
  split : ∃ front back, text = front ++ (trimmed ++ back) ∧
    (∀ c ∈ front, isBlank c = true) ∧ ∀ c ∈ back, isBlank c = true

theorem isTrimOf_iff {trimmed text : Text} : trimmed.IsTrimOf text ↔ trimmed = text.trim := by
  constructor
  · rintro ⟨isTrimmed, front, back, rfl, blankFront, blankBack⟩
    rw [trim, List.dropWhile_append_of_pos blankFront]
    cases trimmed with
    | nil => rw [List.nil_append, List.dropWhile_eq_nil_iff.2 blankBack]; rfl
    | cons first others =>
        have begins : ¬ isBlank first = true :=
          Bool.eq_false_iff.1 (isTrimmed.head_not_blank first rfl)
        rw [List.cons_append, List.dropWhile_cons_of_neg begins]
        exact isStemOf_iff.1 ⟨⟨back, rfl, blankBack⟩, isTrimmed.last_not_blank⟩
  · rintro rfl
    obtain ⟨back, split, blankBack⟩ :=
      (isStemOf_iff.2 (rfl : text.trim = dropEndWhile isBlank (text.dropWhile isBlank))).split
    refine ⟨trim_isTrimmed text, text.takeWhile isBlank, back, ?_, ?_, blankBack⟩
    · rw [← split, List.takeWhile_append_dropWhile]
    · exact fun c member => List.mem_takeWhile_imp member

end Rendezvous.Text
