import Rendezvous.Proofs.Pattern.Word
import Rendezvous.Proofs.Text.WordCharacter

/-!
Contract: what stands beside a match and beside the pieces that it keeps.

Owns:
- `Expr.Fills`, expressions whose pieces consist of characters of one sort, such as words and
  blanks, and what stands at both ends of their matches;
- `Matches.inRow_append`: a row is matched one part behind the other;
- `Matches.capture?_of_lacks` and `Matches.exists_capture?`: what a match keeps under a name;
- `State.IsIn.endsWordAt` and `State.IsIn.beginsWordAt`: at a place of a text its neighbours tell
  where a word begins or ends, and `Matches.boundary_cases`.
-/

namespace Rendezvous.Pattern

variable {Name : Type} [DecidableEq Name]

/-! ## Rows -/

namespace Matches

variable {first : Expr Name} {front others : List (Expr Name)} {place reached : State Name}

theorem inRow_cons (matched : Matches (.inRow (first :: others)) place reached) :
    ∃ middle, Matches first place middle ∧ Matches (.inRow others) middle reached := by
  cases others with
  | nil => exact ⟨reached, matched, .empty reached⟩
  | cons second others =>
      cases matched with
      | seq firstMatches othersMatch => exact ⟨_, firstMatches, othersMatch⟩

theorem inRow_append (matched : Matches (.inRow (front ++ others)) place reached) :
    ∃ middle, Matches (.inRow front) place middle ∧ Matches (.inRow others) middle reached := by
  induction front generalizing place with
  | nil => exact ⟨place, .empty place, matched⟩
  | cons first front inductionHypothesis =>
      obtain ⟨behindFirst, firstMatches, rest⟩ := inRow_cons matched
      obtain ⟨middle, frontMatches, othersMatch⟩ := inductionHypothesis rest
      refine ⟨middle, ?_, othersMatch⟩
      cases front with
      | nil =>
          cases frontMatches
          exact firstMatches
      | cons second front => exact .seq firstMatches frontMatches

theorem opt_cases {body : Expr Name} (matched : Matches (.opt body) place reached) :
    Matches body place reached ∨ reached = place := by
  cases matched with
  | altFirst inBody => exact Or.inl inBody
  | altSecond nothing =>
      cases nothing
      exact Or.inr rfl

end Matches

/-! ## Characters of one sort -/

/-- An expression that admits nothing but characters of a sort, at least one. -/
def Expr.Fills (expression : Expr Name) (sort : Char → Bool) : Prop :=
  ∀ piece, expression.Admits piece → piece ≠ [] ∧ ∀ c ∈ piece, sort c = true

namespace Expr

variable {first second : Expr Name} {sort : Char → Bool}

theorem fills_blanks : (blanks : Expr Name).Fills Text.isBlank := by
  intro piece admits
  refine ⟨?_, admits_blanks admits⟩
  obtain ⟨front, back, rfl, admitsFront, -⟩ := admits_seq admits
  obtain ⟨c, rfl, -⟩ := admits_char admitsFront
  exact List.cons_ne_nil c back

theorem fills_word {name : String} (isWord : IsSmallWord name) :
    (word name : Expr Name).Fills Text.isWordCharacter := by
  intro piece admits
  have stands := stands_of_admits_word admits
  refine ⟨stands.ne_nil isWord, fun c member => ?_⟩
  obtain ⟨letter, isLetter, same⟩ := stands.exists_letter member
  exact Text.isWordCharacter_of_sameLetter (isWord.small letter isLetter) same

theorem fills_wordOf {names : List String} (areWords : ∀ name ∈ names, IsSmallWord name) :
    (wordOf names : Expr Name).Fills Text.isWordCharacter := by
  intro piece admits
  obtain ⟨name, isName, admitsName⟩ := admits_wordOf admits
  exact fills_word (areWords name isName) piece admitsName

end Expr

namespace Matches

variable {expression : Expr Name} {sort : Char → Bool} {place reached : State Name} {text : Text}

/-- A match begins with a character of its sort. -/
theorem rest_any (matched : Matches expression place reached) (fills : expression.Fills sort) :
    place.rest.head?.any sort = true := by
  obtain ⟨piece, split, -⟩ := matched.exists_piece
  obtain ⟨proper, areOfSort⟩ := fills piece ⟨place, reached, matched, split⟩
  cases piece with
  | nil => contradiction
  | cons c others =>
      rw [split]
      exact areOfSort c List.mem_cons_self

/-- A match ends with a character of its sort. -/
theorem previous_any (matched : Matches expression place reached) (fills : expression.Fills sort)
    (isIn : place.IsIn text) : reached.previous.any sort = true := by
  obtain ⟨piece, split, position⟩ := matched.exists_piece
  obtain ⟨proper, areOfSort⟩ := fills piece ⟨place, reached, matched, split⟩
  have upTo : text.take reached.position = text.take place.position ++ piece := by
    rw [position, List.take_add, ← isIn.rest, split, List.take_left]
  rw [(matched.isIn isIn).previous, upTo, List.getLast?_append,
    List.getLast?_eq_some_getLast proper, Option.some_or]
  exact areOfSort _ (List.getLast_mem proper)

end Matches

/-! ## Pieces kept -/

/-- An expression without a group of a name. -/
def Expr.Lacks (expression : Expr Name) (name : Name) : Prop :=
  ∀ group ∈ expression.groups, group.1 ≠ name

instance (expression : Expr Name) (name : Name) : Decidable (expression.Lacks name) :=
  inferInstanceAs (Decidable (∀ group ∈ expression.groups, group.1 ≠ name))

theorem State.capture?_keep_self (place origin : State Name) (name : Name) :
    (place.keep name origin).capture? name = some ⟨origin.position, place.position,
      origin.rest.take (place.position - origin.position)⟩ := by
  simp [capture?, keep]

theorem State.capture?_keep_of_ne (place origin : State Name) {name other : Name}
    (notName : other ≠ name) : (place.keep other origin).capture? name = place.capture? name := by
  simp [capture?, keep, notName]

namespace Matches

variable {expression body : Expr Name} {name : Name} {place reached : State Name}

/-- What is kept under a name does not change without a group of that name. -/
theorem capture?_of_lacks (matched : Matches expression place reached)
    (lacks : expression.Lacks name) : reached.capture? name = place.capture? name := by
  induction matched with
  | seq _ _ first second =>
      obtain ⟨inFirst, inSecond⟩ := List.forall_mem_append.1 lacks
      exact (second inSecond).trans (first inFirst)
  | altFirst _ inFirst => exact inFirst (List.forall_mem_append.1 lacks).1
  | altSecond _ inSecond => exact inSecond (List.forall_mem_append.1 lacks).2
  | starMore _ _ _ once others => exact (others lacks).trans (once lacks)
  | group _ inBody =>
      obtain ⟨notName, inside⟩ := List.forall_mem_cons.1 lacks
      rw [State.capture?_keep_of_ne _ _ notName, inBody inside]
  | again _ stands =>
      obtain ⟨-, -, captures⟩ := State.stepOver?_piece stands
      rw [State.capture?, State.capture?, captures]
  | _ => rfl

/-- A group keeps the piece between the two places under its name. -/
theorem exists_capture? (matched : Matches (.group name body) place reached) :
    ∃ captured, reached.capture? name = some captured ∧ captured.start = place.position ∧
      captured.stop = reached.position ∧ body.Admits captured.text := by
  cases matched with
  | @group _ _ _ behind inBody =>
      obtain ⟨piece, split, position⟩ := inBody.exists_piece
      have kept : place.rest.take (behind.position - place.position) = piece := by
        rw [split, position, Nat.add_sub_cancel_left, List.take_left]
      refine ⟨⟨place.position, behind.position, piece⟩, ?_, rfl, rfl, ⟨place, behind, inBody, split⟩⟩
      rw [State.capture?_keep_self, kept]

end Matches

/-- A search keeps nothing under a name without a group. -/
theorem Expr.capture?_of_search {expression : Expr Name} {name : Name} {text : Text}
    {found : Match Name} (isFound : expression.search text = some found)
    (lacks : expression.Lacks name) : found.capture? name = none := by
  obtain ⟨place, reached, -, noCaptures, matched, rfl⟩ := search_sound isFound
  have unchanged := matched.capture?_of_lacks lacks
  rw [State.capture?, State.capture?, noCaptures] at unchanged
  exact unchanged

/-! ## Words beside a place -/

namespace State.IsIn

variable {place : State Name} {text : Text}

omit [DecidableEq Name] in
theorem endsWordAt (isIn : place.IsIn text) :
    text.endsWordAt place.position = place.previous.any Text.isWordCharacter := by
  rw [Text.endsWordAt, isIn.previous]

omit [DecidableEq Name] in
theorem beginsWordAt (isIn : place.IsIn text) :
    text.beginsWordAt place.position = place.rest.head?.any Text.isWordCharacter := by
  rw [Text.beginsWordAt, isIn.rest]

end State.IsIn

/-- At a boundary a word begins or ends, but not both. -/
theorem Matches.boundary_cases {place reached : State Name} {text : Text}
    (matched : Matches .boundary place reached) (isIn : place.IsIn text) :
    reached = place ∧
      text.endsWordAt place.position = !text.beginsWordAt place.position := by
  cases matched with
  | boundary here =>
      rw [isIn.endsWordAt, isIn.beginsWordAt]
      exact ⟨rfl, Bool.eq_not_of_ne (bne_iff_ne.1 here)⟩

end Rendezvous.Pattern
