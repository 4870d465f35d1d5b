import Rendezvous.Proofs.Pattern.Matches

/-!
Contract: which piece of a text an expression takes.

Owns:
- `Expr.Prefers` and `Expr.Refuses`: the first end of a match that is tried, and that
  there is none;
- `Expr.Takes piece behind captured`, the same by texts alone: where `piece` stands in
  front of `behind`, the expression takes just this piece and keeps what is captured;
- `Expr.Spurns text`, that nothing is matched where a text stands;
- one rule for each way to build an expression;
- `search_of_takes`: behind a text without any match, the piece taken is the one found.

The rules follow the choices in the order in which they are tried, so an earlier choice
has to be spurned before a later one is taken.  Expressions that look at the character
before the piece or at its position are outside these rules.
-/

namespace Rendezvous.Pattern

variable {Name : Type} [DecidableEq Name]

omit [DecidableEq Name] in
/-- The texts kept at a place, the latest first. -/
def State.keptTexts (place : State Name) : List (Name × Text) :=
  place.captures.map fun entry => (entry.1, entry.2.text)

/-- The texts kept by a match, the latest first. -/
def Match.keptTexts (found : Match Name) : List (Name × Text) :=
  found.captures.map fun entry => (entry.1, entry.2.text)

namespace Expr

/-- The matcher goes on at `reached` first, and returns what comes of it. -/
def Prefers (expression : Expr Name) (place reached : State Name) : Prop :=
  ∀ (next : State Name → Option (State Name)) (result : State Name),
    next reached = some result → expression.run place next = some result

/-- The matcher finds no match at a place. -/
def Refuses (expression : Expr Name) (place : State Name) : Prop :=
  ∀ next : State Name → Option (State Name), expression.run place next = none

theorem Prefers.matches {expression : Expr Name} {place reached : State Name}
    (prefers : expression.Prefers place reached) : Matches expression place reached := by
  obtain ⟨reachedToo, matched, same⟩ :=
    run_sound expression place some reached (prefers some reached rfl)
  exact Option.some.inj same ▸ matched

/-! ## Rows and choices -/

theorem run_inRow_cons (first : Expr Name) (others : List (Expr Name)) (place : State Name)
    (next : State Name → Option (State Name)) :
    (inRow (first :: others)).run place next =
      first.run place fun reached => (inRow others).run reached next := by
  cases others <;> rfl

theorem run_choice_cons (first : Expr Name) (others : List (Expr Name)) (place : State Name)
    (next : State Name → Option (State Name)) :
    (choice (first :: others)).run place next =
      (first.run place next).or ((choice others).run place next) := by
  cases others with
  | nil =>
      have failed : (choice ([] : List (Expr Name))).run place next = none := by
        simp only [choice, fail, run]
        split <;> rfl
      rw [failed, Option.or_none]
      rfl
  | cons second others =>
      change (alt first (choice (second :: others))).run place next = _
      rw [run]
      cases first.run place next <;> rfl

/-! ## Repetitions -/

/-- A repetition of a body that goes on as long as the body matches. -/
inductive Repeats (body : Expr Name) : State Name → State Name → Prop where
  | stop {place : State Name} (refused : body.Refuses place) : Repeats body place place
  | more {place middle reached : State Name} (once : body.Prefers place middle)
      (moved : place.position < middle.position) (others : Repeats body middle reached) :
      Repeats body place reached

theorem Repeats.prefers {body : Expr Name} {place reached : State Name}
    (repeats : body.Repeats place reached) : (star body).Prefers place reached := by
  intro next result continued
  change repeatStep (fun here further => body.run here further) place.rest place next = some result
  -- The characters left are a mere count here: any text long enough will do.
  suffices enough : ∀ left : Text, place.rest.length ≤ left.length →
      repeatStep (fun here further => body.run here further) left place next = some result from
    enough place.rest (Nat.le_refl _)
  induction repeats with
  | stop refused =>
      intro left _
      cases left with
      | nil => exact continued
      | cons c left => rw [repeatStep, refused]; exact continued
  | more once moved others inductionHypothesis =>
      intro left long
      obtain ⟨piece, rest, position⟩ := once.matches.exists_piece
      have shorter := congrArg List.length rest
      rw [List.length_append] at shorter
      cases left with
      | nil =>
          simp only [List.length_nil] at long
          omega
      | cons c left =>
          rw [List.length_cons] at long
          rw [repeatStep, once _ result]
          rw [if_pos moved]
          exact inductionHypothesis continued left (by omega)

/-! ## Pieces taken -/

/-- Where `piece` stands in front of `behind`, the expression takes just this piece and
keeps what is captured. -/
def Takes (expression : Expr Name) (piece behind : Text) (captured : List (Name × Text)) : Prop :=
  ∀ place : State Name, place.rest = piece ++ behind →
    ∃ reached, expression.Prefers place reached ∧ reached.rest = behind ∧
      reached.position = place.position + piece.length ∧
      reached.keptTexts = captured ++ place.keptTexts

/-- Where a text stands, the expression has no match. -/
def Spurns (expression : Expr Name) (text : Text) : Prop :=
  ∀ place : State Name, place.rest = text → expression.Refuses place

variable {first second body expression : Expr Name} {others : List (Expr Name)}
  {front back piece behind text : Text} {early late captured : List (Name × Text)}

theorem takes_empty (behind : Text) : (empty : Expr Name).Takes [] behind [] :=
  fun place stands => ⟨place, fun _ _ continued => continued, stands, rfl, rfl⟩

theorem takes_char {accepts : Char → Bool} {c : Char} (accepted : accepts c = true)
    (behind : Text) : (char accepts : Expr Name).Takes [c] behind [] := by
  intro place stands
  refine ⟨place.step c behind, fun next result continued => ?_, rfl, rfl, rfl⟩
  rw [run, stands, List.singleton_append]
  simp only [accepted, ↓reduceIte, continued]

theorem Takes.seq (takesFirst : first.Takes front (back ++ behind) early)
    (takesSecond : second.Takes back behind late) :
    (seq first second).Takes (front ++ back) behind (late ++ early) := by
  intro place stands
  obtain ⟨middle, prefersFirst, middleRest, middlePosition, middleKept⟩ :=
    takesFirst place (stands.trans (List.append_assoc _ _ _))
  obtain ⟨reached, prefersSecond, reachedRest, reachedPosition, reachedKept⟩ :=
    takesSecond middle middleRest
  refine ⟨reached, fun next result continued => ?_, reachedRest, ?_, ?_⟩
  · exact prefersFirst _ _ (prefersSecond _ _ continued)
  · rw [reachedPosition, middlePosition, List.length_append]
    omega
  · rw [reachedKept, middleKept, List.append_assoc]

theorem Takes.inRow_cons (takesFirst : first.Takes front (back ++ behind) early)
    (takesOthers : (inRow others).Takes back behind late) :
    (inRow (first :: others)).Takes (front ++ back) behind (late ++ early) := by
  intro place stands
  obtain ⟨reached, prefers, same⟩ := takesFirst.seq takesOthers place stands
  exact ⟨reached, fun next result continued =>
    (run_inRow_cons first others place next).trans (prefers next result continued), same⟩

theorem Takes.altFirst (takes : first.Takes piece behind captured) :
    (alt first second).Takes piece behind captured := by
  intro place stands
  obtain ⟨reached, prefers, same⟩ := takes place stands
  refine ⟨reached, fun next result continued => ?_, same⟩
  rw [run, prefers next result continued]

theorem Takes.altSecond (spurned : first.Spurns (piece ++ behind))
    (takes : second.Takes piece behind captured) :
    (alt first second).Takes piece behind captured := by
  intro place stands
  obtain ⟨reached, prefers, same⟩ := takes place stands
  refine ⟨reached, fun next result continued => ?_, same⟩
  rw [run, spurned place stands next, prefers next result continued]

theorem Takes.choice_first (takes : first.Takes piece behind captured) :
    (choice (first :: others)).Takes piece behind captured := by
  intro place stands
  obtain ⟨reached, prefers, same⟩ := takes place stands
  refine ⟨reached, fun next result continued => ?_, same⟩
  rw [run_choice_cons, prefers next result continued, Option.some_or]

theorem Takes.choice_later (spurned : first.Spurns (piece ++ behind))
    (takes : (choice others).Takes piece behind captured) :
    (choice (first :: others)).Takes piece behind captured := by
  intro place stands
  obtain ⟨reached, prefers, same⟩ := takes place stands
  refine ⟨reached, fun next result continued => ?_, same⟩
  rw [run_choice_cons, spurned place stands next, Option.none_or, prefers next result continued]

theorem Takes.group (name : Name) (takes : body.Takes piece behind captured) :
    (group name body).Takes piece behind ((name, piece) :: captured) := by
  intro place stands
  obtain ⟨reached, prefers, reachedRest, reachedPosition, reachedKept⟩ := takes place stands
  refine ⟨reached.keep name place, fun next result continued => prefers _ _ continued, reachedRest,
    reachedPosition, ?_⟩
  have isPiece : place.rest.take (reached.position - place.position) = piece := by
    rw [stands, reachedPosition, Nat.add_sub_cancel_left, List.take_left]
  simp only [State.keptTexts, State.keep, List.map_cons, isPiece, List.cons_append]
  exact congrArg _ reachedKept

/-- Pieces that a body takes one after the other, up to where it spurns what stands there. -/
inductive TakesRow (body : Expr Name) (behind : Text) : Text → List (Name × Text) → Prop where
  | stop (spurned : body.Spurns behind) : TakesRow body behind [] []
  | more {front back : Text} {early late : List (Name × Text)}
      (once : body.Takes front (back ++ behind) early) (proper : front ≠ [])
      (others : TakesRow body behind back late) :
      TakesRow body behind (front ++ back) (late ++ early)

theorem TakesRow.star (row : body.TakesRow behind piece captured) :
    (star body).Takes piece behind captured := by
  intro place stands
  suffices repeats : ∃ reached, body.Repeats place reached ∧ reached.rest = behind ∧
      reached.position = place.position + piece.length ∧
      reached.keptTexts = captured ++ place.keptTexts by
    obtain ⟨reached, repeats, same⟩ := repeats
    exact ⟨reached, repeats.prefers, same⟩
  induction row generalizing place with
  | stop spurned => exact ⟨place, .stop (spurned place stands), stands, rfl, rfl⟩
  | @more front back early late once proper others inductionHypothesis =>
      obtain ⟨middle, prefers, middleRest, middlePosition, middleKept⟩ :=
        once place (stands.trans (List.append_assoc _ _ _))
      obtain ⟨reached, repeats, reachedRest, reachedPosition, reachedKept⟩ :=
        inductionHypothesis middle middleRest
      have moved : place.position < middle.position := by
        have := List.length_pos_iff.2 proper
        omega
      refine ⟨reached, .more prefers moved repeats, reachedRest, ?_, ?_⟩
      · rw [reachedPosition, middlePosition, List.length_append]
        omega
      · rw [reachedKept, middleKept, List.append_assoc]

/-! ## Texts spurned -/

theorem spurns_char {accepts : Char → Bool} (refused : text.head?.any accepts = false) :
    (char accepts : Expr Name).Spurns text := by
  rintro place rfl next
  rw [run]
  split
  next => rfl
  next c rest stands =>
    rw [stands] at refused
    rw [if_neg (by simpa using refused)]

theorem Spurns.seq (spurned : first.Spurns text) : (seq first second).Spurns text :=
  fun place stands _ => spurned place stands _

/-- A row is spurned if its second part is, behind whatever the first part may match. -/
theorem spurns_seq (spurned : ∀ front back : Text, text = front ++ back → first.Admits front →
    second.Spurns back) : (seq first second).Spurns text := by
  rintro place rfl next
  cases returned : (Expr.seq first second).run place next with
  | none => rfl
  | some result =>
      obtain ⟨middle, matched, continued⟩ := run_sound first place _ result returned
      obtain ⟨front, rest, -⟩ := matched.exists_piece
      have refused := spurned front middle.rest rest ⟨place, middle, matched, rest⟩ middle rfl next
      rw [refused] at continued
      contradiction

theorem Spurns.inRow_cons (spurned : first.Spurns text) :
    (inRow (first :: others)).Spurns text := by
  intro place stands next
  rw [run_inRow_cons]
  exact spurned place stands _

theorem spurns_inRow_cons (spurned : ∀ front back : Text, text = front ++ back →
    first.Admits front → (inRow others).Spurns back) : (inRow (first :: others)).Spurns text := by
  intro place stands next
  rw [run_inRow_cons]
  exact spurns_seq spurned place stands next

theorem Spurns.group (name : Name) (spurned : body.Spurns text) :
    (group name body).Spurns text :=
  fun place stands _ => spurned place stands _

/-! ## Searching -/

/-- What is found behind a front in which no match begins. -/
theorem searchFrom_of_takes (previous : Option Char) (position : Nat)
    (spurned : ∀ tail, tail ≠ [] → tail <:+ front → expression.Spurns (tail ++ (piece ++ behind)))
    (takes : expression.Takes piece behind captured) :
    ∃ found : Match Name,
      expression.searchFrom previous position (front ++ (piece ++ behind)) = some found ∧
        found.start = position + front.length ∧
        found.stop = position + front.length + piece.length ∧
        found.keptTexts = captured := by
  induction front generalizing previous position with
  | nil =>
      obtain ⟨reached, prefers, -, reachedPosition, reachedKept⟩ :=
        takes ⟨previous, piece ++ behind, position, []⟩ rfl
      have here : expression.matchAt? ⟨previous, piece ++ behind, position, []⟩ =
          some ⟨position, reached.position, reached.captures⟩ := by
        rw [matchAt?, prefers some reached rfl]
        rfl
      refine ⟨⟨position, reached.position, reached.captures⟩, ?_, rfl, reachedPosition, ?_⟩
      · rw [List.nil_append]
        cases stands : piece ++ behind with
        | nil => rw [searchFrom, ← stands, here]
        | cons c rest => rw [searchFrom, ← stands, here]
      · exact reachedKept.trans (List.append_nil _)
  | cons c front inductionHypothesis =>
      have refused : expression.matchAt? ⟨previous, c :: front ++ (piece ++ behind), position, []⟩ =
          none := by
        rw [matchAt?, spurned (c :: front) (List.cons_ne_nil _ _) (List.suffix_refl _) _ rfl]
        rfl
      obtain ⟨found, isFound, start, stop, kept⟩ := inductionHypothesis (some c) (position + 1)
        fun tail proper suffix => spurned tail proper (suffix.trans (List.suffix_cons _ _))
      refine ⟨found, ?_, ?_, ?_, kept⟩
      · rw [List.cons_append, searchFrom, ← List.cons_append, refused]
        exact isFound
      · rw [start, List.length_cons]
        omega
      · rw [stop, List.length_cons]
        omega

theorem search_of_takes
    (spurned : ∀ tail, tail ≠ [] → tail <:+ front → expression.Spurns (tail ++ (piece ++ behind)))
    (takes : expression.Takes piece behind captured) :
    ∃ found : Match Name, expression.search (front ++ (piece ++ behind)) = some found ∧
      found.start = front.length ∧ found.stop = front.length + piece.length ∧
      found.keptTexts = captured := by
  obtain ⟨found, isFound, start, stop, kept⟩ := searchFrom_of_takes none 0 spurned takes
  exact ⟨found, isFound, by omega, by omega, kept⟩

end Expr

/-- The text kept under a name is the first one listed for it. -/
theorem Match.text?_eq (found : Match Name) (name : Name) :
    found.text? name = (found.keptTexts.find? fun entry => entry.1 == name).map (·.2) := by
  rw [keptTexts, List.find?_map, text?, capture?]
  simp only [Option.map_map]
  rfl

end Rendezvous.Pattern
