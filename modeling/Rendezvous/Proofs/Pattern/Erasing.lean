import Rendezvous.Proofs.Pattern.Word
import Rendezvous.Proofs.Text.Trim

/-!
Contract: what the matches of an expression leave of a text.

Owns:
- `Expr.advance?_of_takes`: where an expression takes a piece, this is the match there;
- `Expr.finalRun`, characters of a sort up to the end of a text, and where it matches;
- `Expr.erase_finalRun`: what such runs leave is the text without its longest final run.

The end of a text is also found before a line feed that ends it.  A run to which line feeds belong
does not stop there: the match from the leftmost place takes the line feed as well.
-/

namespace Rendezvous.Pattern.Expr

variable {Name : Type} [DecidableEq Name]

/-! ## Single matches -/

section Advancing

variable {expression : Expr Name} {place : State Name} {piece behind : Text}
  {captured : List (Name × Text)}

theorem advance?_of_takes (takes : expression.Takes piece behind captured) (proper : piece ≠ [])
    (stands : place.rest = piece ++ behind) :
    ∃ reached, expression.advance? place = some reached ∧
      reached.position = place.position + piece.length := by
  obtain ⟨reached, prefers, -, position, -⟩ := takes place stands
  have moved : place.position < reached.position := by
    have := List.length_pos_iff.2 proper
    omega
  exact ⟨reached, prefers _ _ (if_pos moved), position⟩

theorem matches_of_advance? {reached : State Name}
    (advances : expression.advance? place = some reached) : Matches expression place reached := by
  obtain ⟨behind, matched, continued⟩ := run_sound expression place _ reached advances
  split at continued
  · exact Option.some.inj continued ▸ matched
  · contradiction

/-- A text that lies within a match leaves nothing. -/
theorem eraseFrom_inside (expression : Expr Name) (previous : Option Char) (position : Nat)
    {inside : Nat} {text : Text} (within : text.length ≤ inside) :
    expression.eraseFrom previous position inside text = [] := by
  induction text generalizing previous position inside with
  | nil => simp [eraseFrom]
  | cons c rest inductionHypothesis =>
      cases inside with
      | zero => simp at within
      | succ inside =>
          rw [eraseFrom]
          apply inductionHypothesis
          simpa using within

end Advancing

/-! ## Final runs -/

/-- Characters of a sort up to the end of a text. -/
def finalRun (sort : Char → Bool) : Expr Name :=
  inRow [plus (char sort), atEnd]

section FinalRun

variable {sort : Char → Bool} {place reached : State Name} {text : Text}

theorem takes_atEnd : (atEnd : Expr Name).Takes [] [] [] := by
  intro place stands
  refine ⟨place, fun next result continued => ?_, stands, rfl, rfl⟩
  have ends : place.isAtEnd = true := by simp [State.isAtEnd, show place.rest = [] from stands]
  rw [run, if_pos ends, continued]

theorem takes_finalRun (proper : text ≠ []) (ofSort : ∀ c ∈ text, sort c = true) :
    (finalRun sort : Expr Name).Takes text [] [] := by
  have takesRun : (plus (char sort) : Expr Name).Takes text ([] ++ []) [] :=
    takes_plus_char proper ofSort rfl
  have takesBoth : (finalRun sort : Expr Name).Takes (text ++ []) [] ([] ++ []) :=
    takesRun.inRow_cons takes_atEnd
  rwa [List.append_nil] at takesBoth

theorem ofSort_of_matches (lineFeed : sort '\n' = true)
    (matched : Matches (finalRun sort) place reached) : ∀ c ∈ place.rest, sort c = true := by
  cases matched with
  | seq inRun atTheEnd =>
      cases atTheEnd with
      | atEnd ends =>
          obtain ⟨piece, split, -⟩ := inRun.exists_piece
          have ofPiece := admits_plus_char ⟨_, _, inRun, split⟩
          have ofRest : ∀ c ∈ reached.rest, sort c = true := by
            simp only [State.isAtEnd, Bool.or_eq_true, List.isEmpty_iff, beq_iff_eq] at ends
            rcases ends with noRest | onlyLineFeed
            · simp [noRest]
            · simp [onlyLineFeed, lineFeed]
          rw [split]
          exact List.forall_mem_append.2 ⟨ofPiece, ofRest⟩

theorem eraseFrom_finalRun (lineFeed : sort '\n' = true) (previous : Option Char) (position : Nat)
    (text : Text) :
    (finalRun sort : Expr Name).eraseFrom previous position 0 text = Text.dropEndWhile sort text := by
  induction text generalizing previous position with
  | nil => rfl
  | cons c rest inductionHypothesis =>
      by_cases ofSort : ∀ d ∈ c :: rest, sort d = true
      · -- All that is left is one match.
        have proper := List.cons_ne_nil c rest
        have stands : (⟨previous, c :: rest, position, []⟩ : State Name).rest = c :: rest ++ [] :=
          (List.append_nil _).symm
        obtain ⟨reached, advances, behind⟩ :=
          advance?_of_takes (takes_finalRun proper ofSort) proper stands
        rw [eraseFrom, advances, (Text.dropEndWhile_eq_nil_iff sort _).2 ofSort]
        apply eraseFrom_inside
        simp only [List.length_cons] at behind
        omega
      · have refused : (finalRun sort).advance?
            (⟨previous, c :: rest, position, []⟩ : State Name) = none := by
          rw [Option.eq_none_iff_forall_ne_some]
          intro reached advances
          exact ofSort (ofSort_of_matches lineFeed (matches_of_advance? advances))
        have stays : ∃ d ∈ c :: rest, sort d = false := by
          simpa only [not_forall, Bool.not_eq_true, exists_prop] using ofSort
        rw [eraseFrom, refused, Text.dropEndWhile_cons_of_exists stays, inductionHypothesis]

theorem erase_finalRun (lineFeed : sort '\n' = true) (text : Text) :
    (finalRun sort : Expr Name).erase text = Text.dropEndWhile sort text :=
  eraseFrom_finalRun lineFeed none 0 text

end FinalRun

end Rendezvous.Pattern.Expr
