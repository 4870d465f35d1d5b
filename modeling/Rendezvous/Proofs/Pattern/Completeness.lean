import Rendezvous.Proofs.Pattern.Word

/-!
Contract: the matcher finds a match wherever there is one.

Owns:
- `Expr.run_complete`: where the end of a match can be continued, the matcher returns something;
- `Expr.matchAt?_isSome_iff`, for one place, and `Expr.occursIn_iff`, for the places of a text;
- `Expr.Fits`, texts that an expression matches wherever they stand, such as the words and blanks
  that it admits.

Does not own: which match is found, if there are several (`Pattern.Preference`).
-/

namespace Rendezvous.Pattern

variable {Name : Type} [DecidableEq Name]

namespace Expr

/-! ## One place -/

/-- A match of a repetition has no more steps than characters. -/
theorem repeatStep_complete {body : Expr Name} {next : State Name → Option (State Name)}
    (bodyComplete : ∀ (place reached : State Name) (further : State Name → Option (State Name)),
      Matches body place reached → (further reached).isSome = true →
        (body.run place further).isSome = true)
    {place reached : State Name} (matched : Matches (.star body) place reached)
    (continues : (next reached).isSome = true) (left : Text)
    (long : place.rest.length ≤ left.length) :
    (repeatStep (fun here further => body.run here further) left place next).isSome = true := by
  generalize repeated : star body = expression at matched
  induction matched generalizing left with
  | starStop =>
      cases left with
      | nil => exact continues
      | cons _ left =>
          rw [repeatStep]
          split
          · rfl
          · exact continues
  | @starMore body place middle reached once moved others _ inductionHypothesis =>
      obtain rfl := Expr.star.inj repeated
      obtain ⟨piece, rest, position⟩ := once.exists_piece
      have shorter := congrArg List.length rest
      rw [List.length_append] at shorter
      cases left with
      | nil =>
          rw [List.length_nil] at long
          omega
      | cons _ left =>
          rw [List.length_cons] at long
          rw [repeatStep]
          split
          · rfl
          · next refused =>
            have returned := bodyComplete place middle (fun here =>
              if place.position < here.position then
                repeatStep (fun here further => body.run here further) left here next
              else none) once (by
                rw [if_pos moved]
                exact inductionHypothesis continues left (by omega) rfl)
            rw [refused] at returned
            contradiction
  | _ => contradiction

/-- Where the end of a match can be continued, the matcher returns something. -/
theorem run_complete (expression : Expr Name) (place reached : State Name)
    (next : State Name → Option (State Name)) (matched : Matches expression place reached)
    (continues : (next reached).isSome = true) : (expression.run place next).isSome = true := by
  induction expression generalizing place reached next with
  | seq first second firstComplete secondComplete =>
      cases matched with
      | seq firstMatches secondMatches =>
          rw [run]
          exact firstComplete _ _ _ firstMatches
            (secondComplete _ _ _ secondMatches continues)
  | alt first second firstComplete secondComplete =>
      rw [run]
      split
      next => rfl
      next refused =>
        cases matched with
        | altFirst inFirst =>
            have returned := firstComplete _ _ _ inFirst continues
            rw [refused] at returned
            contradiction
        | altSecond inSecond => exact secondComplete _ _ _ inSecond continues
  | star body bodyComplete =>
      exact repeatStep_complete bodyComplete matched continues place.rest (Nat.le_refl _)
  | group name body bodyComplete =>
      cases matched with
      | group inBody =>
          rw [run]
          exact bodyComplete _ _ _ inBody continues
  | empty =>
      cases matched
      exact continues
  | char accepts =>
      cases matched with
      | char stands accepted => simpa [run, stands, accepted] using continues
  | again name =>
      cases matched with
      | again known stands => simpa [run, known, stands] using continues
  | kept name =>
      cases matched with
      | kept known => simpa [run, known] using continues
  | notAhead body _ =>
      cases matched with
      | notAhead absent => simpa [run, absent] using continues
  | boundary =>
      cases matched with
      | boundary here => simpa [run, here] using continues
  | atStart =>
      cases matched with
      | atStart here => simpa [run, here] using continues
  | atEnd =>
      cases matched with
      | atEnd here => simpa [run, here] using continues

theorem matchAt?_isSome_iff (expression : Expr Name) (place : State Name) :
    (expression.matchAt? place).isSome = true ↔ ∃ reached, Matches expression place reached := by
  rw [matchAt?, Option.isSome_map]
  constructor
  · intro returned
    obtain ⟨result, isResult⟩ := Option.isSome_iff_exists.1 returned
    obtain ⟨reached, matched, -⟩ := run_sound expression place some result isResult
    exact ⟨reached, matched⟩
  · rintro ⟨reached, matched⟩
    exact run_complete expression place reached some matched rfl

end Expr

/-! ## The places of a text -/

/-- The place at a position of a text, with nothing kept. -/
def State.atPosition (text : Text) (position : Nat) : State Name :=
  ⟨(text.take position).getLast?, text.drop position, position, []⟩

omit [DecidableEq Name] in
theorem State.IsIn.eq_atPosition {text rest : Text} {previous : Option Char} {position : Nat}
    (isIn : (⟨previous, rest, position, []⟩ : State Name).IsIn text) :
    (⟨previous, rest, position, []⟩ : State Name) = .atPosition text position := by
  rw [atPosition, ← isIn.previous, ← isIn.rest]

namespace Expr

theorem searchFrom_isSome_iff (expression : Expr Name) {text rest : Text}
    {previous : Option Char} {position : Nat} (inText : position ≤ text.length)
    (isIn : (⟨previous, rest, position, []⟩ : State Name).IsIn text) :
    (expression.searchFrom previous position rest).isSome = true ↔
      ∃ later, position ≤ later ∧ later ≤ text.length ∧
        ∃ reached, Matches expression (.atPosition text later) reached := by
  induction rest generalizing previous position with
  | nil =>
      have atEnd : text.length ≤ position := List.drop_eq_nil_iff.1 isIn.rest.symm
      rw [searchFrom, isIn.eq_atPosition, matchAt?_isSome_iff]
      constructor
      · intro matched
        exact ⟨position, Nat.le_refl _, inText, matched⟩
      · rintro ⟨later, notBefore, isInside, matched⟩
        obtain rfl : later = position := by omega
        exact matched
  | cons c rest inductionHypothesis =>
      have shorter := congrArg List.length isIn.rest
      simp only [List.length_cons, List.length_drop] at shorter
      have behind : (⟨some c, rest, position + 1, []⟩ : State Name).IsIn text := isIn.step rfl
      rw [searchFrom, isIn.eq_atPosition]
      split
      next found isFound =>
        have isMatch := (matchAt?_isSome_iff expression _).1 (Option.isSome_of_eq_some isFound)
        exact iff_of_true rfl ⟨position, Nat.le_refl _, inText, isMatch⟩
      next notHere =>
        rw [inductionHypothesis (by omega) behind]
        constructor
        · rintro ⟨later, isBehind, isInside, matched⟩
          exact ⟨later, by omega, isInside, matched⟩
        · rintro ⟨later, notBefore, isInside, matched⟩
          rcases Nat.lt_or_eq_of_le notBefore with isBehind | rfl
          · exact ⟨later, isBehind, isInside, matched⟩
          · rw [← matchAt?_isSome_iff, notHere] at matched
            contradiction

/-- An expression occurs in a text exactly if there is a match at one of its places. -/
theorem occursIn_iff (expression : Expr Name) (text : Text) :
    expression.occursIn text = true ↔ ∃ position, position ≤ text.length ∧
      ∃ reached, Matches expression (.atPosition text position) reached := by
  rw [occursIn, search, searchFrom_isSome_iff expression (Nat.zero_le _) ⟨rfl, rfl⟩]
  exact exists_congr fun position => and_iff_right (Nat.zero_le position)

/-! ## Fitting texts -/

/-- Wherever a text stands, the expression matches it. -/
def Fits (expression : Expr Name) (piece : Text) : Prop :=
  ∀ (place : State Name) (behind : Text), place.rest = piece ++ behind →
    ∃ reached, Matches expression place reached ∧ reached.rest = behind

variable {first second : Expr Name} {front back piece letters : Text} {accepts : Char → Bool}

theorem fits_char {c : Char} (accepted : accepts c = true) : (char accepts : Expr Name).Fits [c] :=
  fun place behind stands => ⟨place.step c behind, .char stands accepted, rfl⟩

theorem Fits.seq (fitsFirst : first.Fits front) (fitsSecond : second.Fits back) :
    (seq first second).Fits (front ++ back) := by
  intro place behind stands
  obtain ⟨middle, firstMatches, middleRest⟩ :=
    fitsFirst place (back ++ behind) (stands.trans (List.append_assoc _ _ _))
  obtain ⟨reached, secondMatches, reachedRest⟩ := fitsSecond middle behind middleRest
  exact ⟨reached, .seq firstMatches secondMatches, reachedRest⟩

theorem Fits.choice {choices : List (Expr Name)} (member : first ∈ choices)
    (fits : first.Fits piece) : (choice choices).Fits piece := by
  intro place behind stands
  obtain ⟨reached, matched, rest⟩ := fits place behind stands
  exact ⟨reached, matches_choice_iff.2 ⟨first, member, matched⟩, rest⟩

theorem fits_star_char (accepted : ∀ c ∈ piece, accepts c = true) :
    (star (char accepts) : Expr Name).Fits piece := by
  induction piece with
  | nil => exact fun place behind stands => ⟨place, .starStop _ _, stands⟩
  | cons c rest inductionHypothesis =>
      intro place behind stands
      obtain ⟨isAccepted, areAccepted⟩ := List.forall_mem_cons.1 accepted
      obtain ⟨reached, others, reachedRest⟩ :=
        inductionHypothesis areAccepted (place.step c (rest ++ behind)) behind rfl
      exact ⟨reached, .starMore (.char stands isAccepted) (Nat.lt_succ_self _) others, reachedRest⟩

theorem fits_blanks (proper : piece ≠ []) (blank : ∀ c ∈ piece, Text.isBlank c = true) :
    (blanks : Expr Name).Fits piece := by
  cases piece with
  | nil => contradiction
  | cons c rest =>
      obtain ⟨isBlank, areBlank⟩ := List.forall_mem_cons.1 blank
      exact (fits_char isBlank).seq (fits_star_char areBlank)

theorem fits_letters (stands : Text.Stands letters piece) :
    (inRow (letters.map letter) : Expr Name).Fits piece := by
  induction stands with
  | nil => exact fun place behind stands => ⟨place, .empty place, stands⟩
  | @cons first c letters rest same others inductionHypothesis =>
      cases others with
      | nil => exact fits_char same
      | cons => exact (fits_char same).seq inductionHypothesis

theorem fits_word {name : String} (stands : Text.Stands name.toList piece) :
    (word name : Expr Name).Fits piece :=
  fits_letters stands

theorem fits_wordOf {names : List String} {name : String} (member : name ∈ names)
    (stands : Text.Stands name.toList piece) : (wordOf names : Expr Name).Fits piece :=
  (fits_word stands).choice (List.mem_map_of_mem member)

end Expr

end Rendezvous.Pattern
