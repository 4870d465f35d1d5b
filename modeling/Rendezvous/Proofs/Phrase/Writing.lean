import Rendezvous.Proofs.Pattern.Word
import Rendezvous.Proofs.Text.Occurrence

/-!
Contract: words and blanks as they may be written in a phrase.

Owns:
- `Gap`, blanks between two words;
- `Spelling`, a word in small and capital letters;
- what becomes of both in lower case, and which expressions take them.
-/

namespace Rendezvous

/-- Blanks, at least one. -/
structure Gap where
  text : Text
  proper : text ≠ []
  blank : text.isAllBlank = true

/-- A word in small and capital letters. -/
structure Spelling (name : String) where
  text : Text
  spells : text.map Char.toLower = name.toList

theorem isAllBlank_space : Text.isAllBlank [' '] = true := by
  decide

theorem space_ne_nil : ([' '] : Text) ≠ [] := by
  decide

namespace Gap

/-- A single space. -/
def space : Gap := ⟨[' '], space_ne_nil, isAllBlank_space⟩

theorem isBlank_of_mem (gap : Gap) : ∀ c ∈ gap.text, Text.isBlank c = true :=
  List.all_eq_true.1 gap.blank

theorem exists_head (gap : Gap) :
    ∃ c rest, gap.text = c :: rest ∧ Text.isBlank c = true := by
  have blank := gap.isBlank_of_mem
  cases stands : gap.text with
  | nil => exact absurd stands gap.proper
  | cons c rest => exact ⟨c, rest, rfl, blank c (stands ▸ List.mem_cons_self)⟩

theorem lower_text (gap : Gap) : gap.text.lower = gap.text :=
  Text.lower_of_isBlank gap.isBlank_of_mem

end Gap

theorem IsSmallWord.map_toLower {name : String} (isWord : IsSmallWord name) :
    name.toList.map Char.toLower = name.toList :=
  (List.map_congr_left fun letter member =>
    Text.toLower_of_isLower (isWord.small letter member)).trans (List.map_id' _)

namespace Spelling

variable {name : String}

/-- A word in small letters. -/
def small (isWord : IsSmallWord name) : Spelling name := ⟨name.toList, isWord.map_toLower⟩

theorem isLower_toLower (isWord : IsSmallWord name) (spelling : Spelling name) {c : Char}
    (member : c ∈ spelling.text) : c.toLower.isLower = true :=
  isWord.small _ (spelling.spells ▸ List.mem_map_of_mem member)

theorem lower_text (isWord : IsSmallWord name) (spelling : Spelling name) :
    spelling.text.lower = name.toList := by
  rw [Text.lower_eq_map_toLower fun c => spelling.isLower_toLower isWord, spelling.spells]

/-- No blank stands where a word begins. -/
theorem head_not_blank (isWord : IsSmallWord name) (spelling : Spelling name) (behind : Text) :
    (spelling.text ++ behind).head?.any Text.isBlank = false := by
  cases stands : spelling.text with
  | nil =>
      have spells := spelling.spells
      rw [stands] at spells
      exact absurd spells.symm isWord.proper
  | cons c rest =>
      exact Text.isBlank_of_isLower (spelling.isLower_toLower isWord (stands ▸ List.mem_cons_self))

theorem head_not_blank_append (isWord : IsSmallWord name) (spelling : Spelling name)
    (back behind : Text) :
    ((spelling.text ++ back) ++ behind).head?.any Text.isBlank = false := by
  rw [List.append_assoc]
  exact spelling.head_not_blank isWord (back ++ behind)

end Spelling

namespace Pattern.Expr

variable {Name : Type} [DecidableEq Name] {name other : String} {others : List (Expr Name)}
  {back behind : Text} {captured : List (Name × Text)}

theorem takes_spelling (spelling : Spelling name) (behind : Text) :
    (word name : Expr Name).Takes spelling.text behind [] :=
  takes_word spelling.spells behind

theorem takes_gap (gap : Gap) (stops : behind.head?.any Text.isBlank = false) :
    (blanks : Expr Name).Takes gap.text behind [] :=
  takes_blanks gap.proper gap.isBlank_of_mem stops

theorem takes_spelling_inRow (spelling : Spelling name)
    (takesOthers : (inRow others).Takes back behind captured) :
    (inRow (word name :: others)).Takes (spelling.text ++ back) behind captured := by
  have row := (takes_spelling spelling (back ++ behind)).inRow_cons takesOthers
  rw [List.append_nil] at row
  exact row

theorem takes_gap_inRow (gap : Gap) (stops : (back ++ behind).head?.any Text.isBlank = false)
    (takesOthers : (inRow others).Takes back behind captured) :
    (inRow (blanks :: others)).Takes (gap.text ++ back) behind captured := by
  have row := (takes_gap gap stops).inRow_cons takesOthers
  rw [List.append_nil] at row
  exact row

/-- A word is spurned where a different one stands. -/
theorem spurns_spelling (isWord : IsSmallWord name) (isOther : IsSmallWord other)
    (notLonger : ¬ name.toList <+: other.toList) (notShorter : ¬ other.toList <+: name.toList)
    (spelling : Spelling other) (behind : Text) :
    (word name : Expr Name).Spurns (spelling.text ++ behind) :=
  spurns_word_of_word isWord.small spelling.spells isOther.small notLonger notShorter behind

/-- Blanks and a word are spurned where a gap and a different word stand. -/
theorem spurns_gap_word (isWord : IsSmallWord name) (isOther : IsSmallWord other)
    (notLonger : ¬ name.toList <+: other.toList) (notShorter : ¬ other.toList <+: name.toList)
    (gap : Gap) (spelling : Spelling other) (behind : Text) :
    (inRow (blanks :: word name :: others) : Expr Name).Spurns
      (gap.text ++ (spelling.text ++ behind)) := by
  apply spurns_blanks_inRow gap.isBlank_of_mem (spelling.head_not_blank isOther behind)
  · exact (spurns_spelling isWord isOther notLonger notShorter spelling behind).inRow_cons
  · intro c rest blank
    exact (spurns_letters_of_blank isWord.proper isWord.small blank).inRow_cons

end Pattern.Expr

end Rendezvous
