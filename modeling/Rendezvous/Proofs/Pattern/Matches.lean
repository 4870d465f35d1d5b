import Rendezvous.Pattern.Search

/-!
Contract: what the matcher finds is a match in the declarative sense.

Owns:
- `Matches`, which says by the form of an expression where a match that begins at a place
  can end;
- `run_sound`: whatever the matcher returns was continued from the end of a match;
- `Matches.exists_piece`: a match is a piece of the text, and `Matches.isIn`: it leads from one
  place of the text to another;
- `Matches.mem_captures`: what is kept under a name was matched by a group of that name, and
  `Matches.exists_capture`: a group that every match passes keeps something;
- `Expr.search_sound`, the same for the leftmost match, and `Expr.admits_of_search` and
  `Expr.admits_textOf` for the texts it keeps.

Does not own: which of several matches is preferred (`Pattern.Preference`).
-/

namespace Rendezvous.Pattern

variable {Name : Type} [DecidableEq Name]

/-- `Matches expression place reached`: a match of the expression leads from a place to
another one. -/
inductive Matches : Expr Name → State Name → State Name → Prop where
  | empty (place : State Name) : Matches .empty place place
  | char {accepts : Char → Bool} {place : State Name} {c : Char} {rest : Text}
      (stands : place.rest = c :: rest) (accepted : accepts c = true) :
      Matches (.char accepts) place (place.step c rest)
  | seq {first second : Expr Name} {place middle reached : State Name}
      (firstMatches : Matches first place middle) (secondMatches : Matches second middle reached) :
      Matches (.seq first second) place reached
  | altFirst {first second : Expr Name} {place reached : State Name}
      (matched : Matches first place reached) : Matches (.alt first second) place reached
  | altSecond {first second : Expr Name} {place reached : State Name}
      (matched : Matches second place reached) : Matches (.alt first second) place reached
  | starStop (body : Expr Name) (place : State Name) : Matches (.star body) place place
  | starMore {body : Expr Name} {place middle reached : State Name}
      (once : Matches body place middle) (moved : place.position < middle.position)
      (others : Matches (.star body) middle reached) : Matches (.star body) place reached
  | group {name : Name} {body : Expr Name} {place reached : State Name}
      (matched : Matches body place reached) :
      Matches (.group name body) place (reached.keep name place)
  | again {name : Name} {place reached : State Name} {captured : Capture}
      (known : place.capture? name = some captured)
      (stands : place.stepOver? captured.text = some reached) :
      Matches (.again name) place reached
  | kept {name : Name} {place : State Name} (known : (place.capture? name).isSome = true) :
      Matches (.kept name) place place
  | notAhead {body : Expr Name} {place : State Name} (absent : body.run place some = none) :
      Matches (.notAhead body) place place
  | boundary {place : State Name} (here : place.isBoundary = true) :
      Matches .boundary place place
  | atStart {place : State Name} (here : place.position = 0) : Matches .atStart place place
  | atEnd {place : State Name} (here : place.isAtEnd = true) : Matches .atEnd place place

/-! ## Soundness -/

namespace Expr

private theorem repeatStep_sound {body : Expr Name} {next : State Name → Option (State Name)}
    {result : State Name}
    (bodySound : ∀ (place : State Name) (further : State Name → Option (State Name)),
      body.run place further = some result →
        ∃ reached, Matches body place reached ∧ further reached = some result)
    (left : Text) (place : State Name)
    (returned : repeatStep (fun here further => body.run here further) left place next =
      some result) :
    ∃ reached, Matches (.star body) place reached ∧ next reached = some result := by
  induction left generalizing place with
  | nil => exact ⟨place, .starStop body place, returned⟩
  | cons _ left inductionHypothesis =>
      rw [repeatStep] at returned
      split at returned
      next _ found further =>
        obtain ⟨middle, once, continued⟩ := bodySound place _ (further.trans returned)
        split at continued
        next moved =>
          obtain ⟨reached, others, continued⟩ := inductionHypothesis middle continued
          exact ⟨reached, .starMore once moved others, continued⟩
        next => contradiction
      next => exact ⟨place, .starStop body place, returned⟩

/-- Whatever the matcher returns was continued from the end of a match. -/
theorem run_sound (expression : Expr Name) (place : State Name)
    (next : State Name → Option (State Name)) (result : State Name)
    (returned : expression.run place next = some result) :
    ∃ reached, Matches expression place reached ∧ next reached = some result := by
  induction expression generalizing place next with
  | empty => exact ⟨place, .empty place, returned⟩
  | char accepts =>
      rw [run] at returned
      split at returned
      next => contradiction
      next c rest stands =>
        split at returned
        next accepted => exact ⟨_, .char stands accepted, returned⟩
        next => contradiction
  | seq first second firstSound secondSound =>
      obtain ⟨middle, firstMatches, continued⟩ := firstSound place _ returned
      obtain ⟨reached, secondMatches, continued⟩ := secondSound middle _ continued
      exact ⟨reached, .seq firstMatches secondMatches, continued⟩
  | alt first second firstSound secondSound =>
      rw [run] at returned
      split at returned
      next found firstFound =>
        obtain ⟨reached, matched, continued⟩ := firstSound place _ (firstFound.trans returned)
        exact ⟨reached, .altFirst matched, continued⟩
      next =>
        obtain ⟨reached, matched, continued⟩ := secondSound place _ returned
        exact ⟨reached, .altSecond matched, continued⟩
  | star body bodySound => exact repeatStep_sound bodySound place.rest place returned
  | group name body bodySound =>
      obtain ⟨reached, matched, continued⟩ := bodySound place _ returned
      exact ⟨_, .group matched, continued⟩
  | again name =>
      rw [run] at returned
      split at returned
      next captured known =>
        split at returned
        next reached stands => exact ⟨reached, .again known stands, returned⟩
        next => contradiction
      next => contradiction
  | kept name =>
      rw [run] at returned
      split at returned
      next known => exact ⟨place, .kept known, returned⟩
      next => contradiction
  | notAhead body _ =>
      rw [run] at returned
      split at returned
      next => contradiction
      next absent => exact ⟨place, .notAhead absent, returned⟩
  | boundary =>
      rw [run] at returned
      split at returned
      next here => exact ⟨place, .boundary here, returned⟩
      next => contradiction
  | atStart =>
      rw [run] at returned
      split at returned
      next here => exact ⟨place, .atStart here, returned⟩
      next => contradiction
  | atEnd =>
      rw [run] at returned
      split at returned
      next here => exact ⟨place, .atEnd here, returned⟩
      next => contradiction

end Expr

/-! ## Pieces of the text -/

omit [DecidableEq Name] in
theorem State.stepOver?_piece {place reached : State Name} {piece : Text}
    (stands : place.stepOver? piece = some reached) :
    place.rest = piece ++ reached.rest ∧ reached.position = place.position + piece.length ∧
      reached.captures = place.captures := by
  induction piece generalizing place with
  | nil =>
      obtain rfl : place = reached := Option.some.inj stands
      exact ⟨rfl, rfl, rfl⟩
  | cons c others inductionHypothesis =>
      rw [stepOver?] at stands
      split at stands
      next d rest restIs =>
        split at stands
        next same =>
          obtain ⟨restEq, positionEq, capturesEq⟩ := inductionHypothesis stands
          refine ⟨?_, ?_, capturesEq⟩
          · rw [restIs, same, List.cons_append, ← restEq]
            rfl
          · simp only [step] at positionEq
            simp only [List.length_cons]
            omega
        next => contradiction
      next => contradiction

namespace Matches

variable {expression : Expr Name} {place reached : State Name}

/-- A match is a piece of the text that stands at the place. -/
theorem exists_piece (matched : Matches expression place reached) :
    ∃ piece : Text, place.rest = piece ++ reached.rest ∧
      reached.position = place.position + piece.length := by
  induction matched with
  | char stands accepted => exact ⟨[_], stands, rfl⟩
  | seq _ _ firstPiece secondPiece =>
      obtain ⟨front, frontRest, frontPosition⟩ := firstPiece
      obtain ⟨back, backRest, backPosition⟩ := secondPiece
      refine ⟨front ++ back, by rw [frontRest, backRest, List.append_assoc], ?_⟩
      rw [backPosition, frontPosition, List.length_append]
      omega
  | altFirst _ piece => exact piece
  | altSecond _ piece => exact piece
  | starMore _ _ _ firstPiece secondPiece =>
      obtain ⟨front, frontRest, frontPosition⟩ := firstPiece
      obtain ⟨back, backRest, backPosition⟩ := secondPiece
      refine ⟨front ++ back, by rw [frontRest, backRest, List.append_assoc], ?_⟩
      rw [backPosition, frontPosition, List.length_append]
      omega
  | group _ piece => exact piece
  | again _ stands =>
      obtain ⟨rest, position, -⟩ := State.stepOver?_piece stands
      exact ⟨_, rest, position⟩
  | _ => exact ⟨[], rfl, rfl⟩

end Matches

/-! ## Places -/

/-- A place of a text, with what stands on both sides of it. -/
structure State.IsIn (place : State Name) (text : Text) : Prop where
  previous : place.previous = (text.take place.position).getLast?
  rest : place.rest = text.drop place.position

omit [DecidableEq Name] in
theorem State.IsIn.step {place : State Name} {text rest : Text} {c : Char} (isIn : place.IsIn text)
    (stands : place.rest = c :: rest) : (place.step c rest).IsIn text := by
  have here : text.drop place.position = c :: rest := isIn.rest.symm.trans stands
  constructor
  · change some c = (text.take (place.position + 1)).getLast?
    rw [List.take_add, here, List.take_succ_cons, List.take_zero, List.getLast?_concat]
  · change rest = text.drop (place.position + 1)
    rw [← List.drop_drop, here, List.drop_succ_cons, List.drop_zero]

omit [DecidableEq Name] in
theorem State.IsIn.stepOver {place reached : State Name} {text piece : Text}
    (isIn : place.IsIn text) (stands : place.stepOver? piece = some reached) :
    reached.IsIn text := by
  induction piece generalizing place with
  | nil =>
      obtain rfl : place = reached := Option.some.inj stands
      exact isIn
  | cons c others inductionHypothesis =>
      rw [stepOver?] at stands
      split at stands
      next d rest restIs =>
        split at stands
        next => exact inductionHypothesis (isIn.step restIs) stands
        next => contradiction
      next => contradiction

/-- A match leads from a place of a text to another one. -/
theorem Matches.isIn {expression : Expr Name} {place reached : State Name} {text : Text}
    (matched : Matches expression place reached) (isIn : place.IsIn text) : reached.IsIn text := by
  induction matched with
  | char stands _ => exact isIn.step stands
  | seq _ _ first second => exact second (first isIn)
  | altFirst _ inFirst => exact inFirst isIn
  | altSecond _ inSecond => exact inSecond isIn
  | starMore _ _ _ once others => exact others (once isIn)
  | group _ inBody => exact ⟨(inBody isIn).previous, (inBody isIn).rest⟩
  | again _ stands => exact isIn.stepOver stands
  | _ => exact isIn

/-! ## Captures -/

/-- The groups of an expression with their names. -/
def Expr.groups : Expr Name → List (Name × Expr Name)
  | .seq first second | .alt first second => first.groups ++ second.groups
  | .star body => body.groups
  | .group name body => (name, body) :: body.groups
  | _ => []

/-- A text that a match of an expression can be. -/
def Expr.Admits (expression : Expr Name) (piece : Text) : Prop :=
  ∃ place reached : State Name, Matches expression place reached ∧
    place.rest = piece ++ reached.rest

namespace Matches

variable {expression : Expr Name} {place reached : State Name}

/-- What is kept behind a match was kept before it, or was matched by a group. -/
theorem mem_captures (matched : Matches expression place reached) {entry : Name × Capture}
    (member : entry ∈ reached.captures) :
    entry ∈ place.captures ∨
      ∃ body, (entry.1, body) ∈ expression.groups ∧ body.Admits entry.2.text := by
  induction matched with
  | seq _ _ firstCaptures secondCaptures =>
      rcases secondCaptures member with before | ⟨body, inSecond, admits⟩
      · rcases firstCaptures before with earlier | ⟨body, inFirst, admits⟩
        · exact Or.inl earlier
        · exact Or.inr ⟨body, List.mem_append_left _ inFirst, admits⟩
      · exact Or.inr ⟨body, List.mem_append_right _ inSecond, admits⟩
  | altFirst _ captures =>
      rcases captures member with earlier | ⟨body, inFirst, admits⟩
      · exact Or.inl earlier
      · exact Or.inr ⟨body, List.mem_append_left _ inFirst, admits⟩
  | altSecond _ captures =>
      rcases captures member with earlier | ⟨body, inSecond, admits⟩
      · exact Or.inl earlier
      · exact Or.inr ⟨body, List.mem_append_right _ inSecond, admits⟩
  | starMore _ _ _ onceCaptures otherCaptures =>
      rcases otherCaptures member with before | inBody
      · exact onceCaptures before
      · exact Or.inr inBody
  | @group name body origin behind inside captures =>
      rcases List.mem_cons.1 member with new | old
      · obtain ⟨piece, rest, position⟩ := inside.exists_piece
        refine Or.inr ⟨body, by rw [new]; exact List.mem_cons_self, origin, behind, inside, ?_⟩
        have kept : entry.2.text = piece := by
          rw [new]
          simp [rest, position]
        rw [kept, rest]
      · rcases captures old with earlier | ⟨inner, inBody, admits⟩
        · exact Or.inl earlier
        · exact Or.inr ⟨inner, List.mem_cons_of_mem _ inBody, admits⟩
  | again _ stands =>
      obtain ⟨-, -, captures⟩ := State.stepOver?_piece stands
      exact Or.inl (captures ▸ member)
  | _ => exact Or.inl member

end Matches

/-- Whether every match of an expression passes a group with a name. -/
def Expr.keeps (name : Name) : Expr Name → Bool
  | .seq first second => first.keeps name || second.keeps name
  | .alt first second => first.keeps name && second.keeps name
  | .group other body => other == name || body.keeps name
  | _ => false

namespace Matches

variable {expression : Expr Name} {place reached : State Name}

/-- What is kept stays kept. -/
theorem captures_suffix (matched : Matches expression place reached) :
    place.captures <:+ reached.captures := by
  induction matched with
  | seq _ _ first second => exact first.trans second
  | altFirst _ suffix => exact suffix
  | altSecond _ suffix => exact suffix
  | starMore _ _ _ once others => exact once.trans others
  | group _ suffix => exact suffix.trans (List.suffix_cons _ _)
  | again _ stands =>
      obtain ⟨-, -, captures⟩ := State.stepOver?_piece stands
      exact captures ▸ List.suffix_refl _
  | _ => exact List.suffix_refl _

theorem exists_capture {name : Name} (matched : Matches expression place reached)
    (keeps : expression.keeps name = true) : ∃ entry ∈ reached.captures, entry.1 = name := by
  induction matched with
  | seq _ later first second =>
      rw [Expr.keeps, Bool.or_eq_true] at keeps
      rcases keeps with inFirst | inSecond
      · obtain ⟨entry, member, named⟩ := first inFirst
        exact ⟨entry, later.captures_suffix.subset member, named⟩
      · exact second inSecond
  | altFirst _ captures =>
      rw [Expr.keeps, Bool.and_eq_true] at keeps
      exact captures keeps.1
  | altSecond _ captures =>
      rw [Expr.keeps, Bool.and_eq_true] at keeps
      exact captures keeps.2
  | group _ captures =>
      rw [Expr.keeps, Bool.or_eq_true, beq_iff_eq] at keeps
      rcases keeps with itself | inBody
      · exact ⟨_, List.mem_cons_self, itself⟩
      · obtain ⟨entry, member, named⟩ := captures inBody
        exact ⟨entry, List.mem_cons_of_mem _ member, named⟩
  | _ => contradiction

end Matches

/-- A choice matches what one of its parts matches. -/
theorem matches_choice_iff {choices : List (Expr Name)} {place reached : State Name} :
    Matches (.choice choices) place reached ↔ ∃ one ∈ choices, Matches one place reached := by
  induction choices with
  | nil =>
      constructor
      · intro matched
        cases matched
        contradiction
      · rintro ⟨one, member, -⟩
        contradiction
  | cons first others inductionHypothesis =>
      cases others with
      | nil => simp [Expr.choice]
      | cons second others =>
          constructor
          · intro matched
            cases matched with
            | altFirst isFirst => exact ⟨first, List.mem_cons_self, isFirst⟩
            | altSecond isLater =>
                obtain ⟨one, member, matchedOne⟩ := inductionHypothesis.1 isLater
                exact ⟨one, List.mem_cons_of_mem first member, matchedOne⟩
          · rintro ⟨one, member, matchedOne⟩
            rcases List.mem_cons.1 member with rfl | later
            · exact .altFirst matchedOne
            · exact .altSecond (inductionHypothesis.2 ⟨one, later, matchedOne⟩)

/-! ## Pieces admitted -/

namespace Expr

variable {first second body : Expr Name} {piece : Text}

theorem admits_char {accepts : Char → Bool} (admits : (char accepts : Expr Name).Admits piece) :
    ∃ c, piece = [c] ∧ accepts c = true := by
  obtain ⟨place, reached, matched, stands⟩ := admits
  cases matched with
  | @char _ _ c rest here accepted =>
      have split : [c] ++ rest = piece ++ rest := here.symm.trans stands
      exact ⟨c, (List.append_cancel_right split).symm, accepted⟩

theorem admits_seq (admits : (seq first second).Admits piece) :
    ∃ front back, piece = front ++ back ∧ first.Admits front ∧ second.Admits back := by
  obtain ⟨place, reached, matched, stands⟩ := admits
  cases matched with
  | seq firstMatches secondMatches =>
      obtain ⟨front, frontRest, -⟩ := firstMatches.exists_piece
      obtain ⟨back, backRest, -⟩ := secondMatches.exists_piece
      refine ⟨front, back, ?_, ⟨_, _, firstMatches, frontRest⟩, ⟨_, _, secondMatches, backRest⟩⟩
      rw [frontRest, backRest, ← List.append_assoc] at stands
      exact (List.append_cancel_right stands).symm

theorem admits_empty (admits : (empty : Expr Name).Admits piece) : piece = [] := by
  obtain ⟨place, reached, matched, stands⟩ := admits
  cases matched
  exact List.self_eq_append_left.1 stands

theorem admits_alt (admits : (alt first second).Admits piece) :
    first.Admits piece ∨ second.Admits piece := by
  obtain ⟨place, reached, matched, stands⟩ := admits
  cases matched with
  | altFirst matched => exact Or.inl ⟨place, reached, matched, stands⟩
  | altSecond matched => exact Or.inr ⟨place, reached, matched, stands⟩

theorem admits_opt (admits : (opt body).Admits piece) : body.Admits piece ∨ piece = [] :=
  (admits_alt admits).imp_right admits_empty

theorem admits_inRow_cons {others : List (Expr Name)}
    (admits : (inRow (first :: others)).Admits piece) :
    ∃ front back, piece = front ++ back ∧ first.Admits front ∧ (inRow others).Admits back := by
  cases others with
  | nil => exact ⟨piece, [], (List.append_nil piece).symm, admits,
      ⟨.ofText [], .ofText [], .empty _, rfl⟩⟩
  | cons second others => exact admits_seq admits

theorem admits_choice {choices : List (Expr Name)} (admits : (choice choices).Admits piece) :
    ∃ one ∈ choices, one.Admits piece := by
  obtain ⟨place, reached, matched, stands⟩ := admits
  obtain ⟨one, member, matchedOne⟩ := matches_choice_iff.1 matched
  exact ⟨one, member, place, reached, matchedOne, stands⟩

/-- A repetition admits what consists of pieces that the body admits. -/
theorem admits_star (admits : (star body).Admits piece) :
    ∃ pieces : List Text, piece = pieces.flatten ∧ ∀ one ∈ pieces, body.Admits one := by
  obtain ⟨place, reached, matched, stands⟩ := admits
  generalize repeated : star body = expression at matched
  induction matched generalizing piece with
  | starStop =>
      have : piece = [] := List.self_eq_append_left.1 stands
      exact ⟨[], this, by simp⟩
  | starMore once _ others _ inductionHypothesis =>
      obtain rfl := Expr.star.inj repeated
      obtain ⟨front, frontRest, -⟩ := once.exists_piece
      obtain ⟨back, backRest, -⟩ := others.exists_piece
      obtain ⟨pieces, backIs, admitted⟩ := inductionHypothesis backRest rfl
      refine ⟨front :: pieces, ?_, ?_⟩
      · rw [frontRest, backRest, ← List.append_assoc] at stands
        rw [List.flatten_cons, ← backIs, List.append_cancel_right stands]
      · intro one member
        rcases List.mem_cons.1 member with rfl | later
        · exact ⟨_, _, once, frontRest⟩
        · exact admitted one later
  | _ => contradiction

/-- A repetition of a character admits such characters only. -/
theorem admits_star_char {accepts : Char → Bool}
    (admits : (star (char accepts) : Expr Name).Admits piece) : ∀ c ∈ piece, accepts c = true := by
  obtain ⟨pieces, rfl, admitted⟩ := admits_star admits
  intro c member
  obtain ⟨one, isPiece, inOne⟩ := List.mem_flatten.1 member
  obtain ⟨accepted, rfl, holds⟩ := admits_char (admitted one isPiece)
  obtain rfl := List.mem_singleton.1 inOne
  exact holds

/-- A character repeated a number of times admits just as many. -/
theorem admits_times_char {accepts : Char → Bool} {count : Nat}
    (admits : (times count (char accepts) : Expr Name).Admits piece) :
    piece.length = count ∧ ∀ c ∈ piece, accepts c = true := by
  induction count generalizing piece with
  | zero =>
      obtain rfl := admits_empty admits
      exact ⟨rfl, List.forall_mem_nil _⟩
  | succ count inductionHypothesis =>
      obtain ⟨front, back, rfl, admitsFront, admitsBack⟩ := admits_inRow_cons admits
      obtain ⟨c, rfl, accepted⟩ := admits_char admitsFront
      obtain ⟨length, others⟩ := inductionHypothesis admitsBack
      refine ⟨?_, List.forall_mem_cons.2 ⟨accepted, others⟩⟩
      rw [List.length_append, length, List.length_singleton]
      omega

end Expr

/-! ## Searching -/

namespace Expr

variable {expression : Expr Name} {found : Match Name}

theorem matchAt?_sound {place : State Name} (isFound : expression.matchAt? place = some found) :
    ∃ reached, Matches expression place reached ∧
      found = ⟨place.position, reached.position, reached.captures⟩ := by
  obtain ⟨result, returned, rfl⟩ := Option.map_eq_some_iff.1 isFound
  obtain ⟨reached, matched, same⟩ := run_sound expression place some result returned
  obtain rfl := Option.some.inj same
  exact ⟨reached, matched, rfl⟩

theorem searchFrom_sound {text rest : Text} {previous : Option Char} {position : Nat}
    (isIn : (⟨previous, rest, position, []⟩ : State Name).IsIn text)
    (isFound : expression.searchFrom previous position rest = some found) :
    ∃ place reached, place.IsIn text ∧ place.captures = [] ∧ Matches expression place reached ∧
      found = ⟨place.position, reached.position, reached.captures⟩ := by
  induction rest generalizing previous position with
  | nil =>
      obtain ⟨reached, matched, same⟩ := matchAt?_sound isFound
      exact ⟨_, reached, isIn, rfl, matched, same⟩
  | cons c rest inductionHypothesis =>
      rw [searchFrom] at isFound
      split at isFound
      next here =>
        obtain ⟨reached, matched, same⟩ := matchAt?_sound (here.trans isFound)
        exact ⟨_, reached, isIn, rfl, matched, same⟩
      next => exact inductionHypothesis (isIn.step rfl) isFound

/-- A search finds a match between two places of the text. -/
theorem search_sound {text : Text} (isFound : expression.search text = some found) :
    ∃ place reached, place.IsIn text ∧ place.captures = [] ∧ Matches expression place reached ∧
      found = ⟨place.position, reached.position, reached.captures⟩ :=
  searchFrom_sound ⟨rfl, rfl⟩ isFound

/-- What a search keeps under a name is a text that a group of that name admits. -/
theorem admits_of_search {text piece : Text} {name : Name}
    (isFound : expression.search text = some found) (kept : found.text? name = some piece) :
    ∃ body, (name, body) ∈ expression.groups ∧ body.Admits piece := by
  obtain ⟨place, reached, -, noCaptures, matched, rfl⟩ := search_sound isFound
  obtain ⟨capture, isCapture, rfl⟩ := Option.map_eq_some_iff.1 kept
  obtain ⟨entry, isEntry, rfl⟩ := Option.map_eq_some_iff.1 isCapture
  have sameName : entry.1 = name := by simpa using List.find?_some isEntry
  rcases matched.mem_captures (List.mem_of_find?_eq_some isEntry) with earlier | admitted
  · rw [noCaptures] at earlier
    contradiction
  · exact sameName ▸ admitted

/-- A search keeps something under a name that every match has. -/
theorem exists_text_of_search {text : Text} {name : Name}
    (isFound : expression.search text = some found) (keeps : expression.keeps name = true) :
    ∃ piece, found.text? name = some piece := by
  obtain ⟨place, reached, -, -, matched, rfl⟩ := search_sound isFound
  obtain ⟨entry, member, named⟩ := matched.exists_capture keeps
  have known : (reached.captures.find? fun kept => kept.1 == name).isSome := by
    rw [List.find?_isSome]
    exact ⟨entry, member, beq_iff_eq.2 named⟩
  obtain ⟨first, isFirst⟩ := Option.isSome_iff_exists.1 known
  refine ⟨first.2.text, ?_⟩
  rw [Match.text?, Match.capture?, isFirst]
  rfl

/-- Where a name has one group only, what a search keeps under it is admitted by the body of
that group. -/
theorem admits_of_only {text piece : Text} {name : Name} {body : Expr Name}
    (only : (expression.groups.filter fun group => group.1 == name) = [(name, body)])
    (isFound : expression.search text = some found) (kept : found.text? name = some piece) :
    body.Admits piece := by
  obtain ⟨other, isGroup, admits⟩ := admits_of_search isFound kept
  have ofName : (name, other) ∈ expression.groups.filter fun group => group.1 == name :=
    List.mem_filter.2 ⟨isGroup, beq_self_eq_true name⟩
  rw [only, List.mem_singleton] at ofName
  exact (Prod.mk.inj ofName).2 ▸ admits

theorem admits_textOf {text : Text} {name : Name} {body : Expr Name}
    (only : (expression.groups.filter fun group => group.1 == name) = [(name, body)])
    (keeps : expression.keeps name = true) (isFound : expression.search text = some found) :
    body.Admits (found.textOf name) := by
  obtain ⟨piece, isPiece⟩ := exists_text_of_search isFound keeps
  rw [Match.textOf, isPiece, Option.getD_some]
  exact admits_of_only only isFound isPiece

end Expr

end Rendezvous.Pattern
