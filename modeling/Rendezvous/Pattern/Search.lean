import Rendezvous.Pattern.Expr

/-!
Contract: where an expression matches a text.

Owns:
- `Expr.run`, which matches an expression at a place and continues behind the match;
  when the continuation fails, it tries the next way to match;
- `Expr.search`, the leftmost match, and among the matches there the preferred one;
- `Expr.erase`, a text without its matches;
- `Match`, with the pieces kept under names.

A repetition goes on only behind a piece that is not empty, so the number of
characters left bounds it.
-/

namespace Rendezvous.Pattern

/-- A piece of a text with its place. -/
structure Capture where
  start : Nat
  stop : Nat
  text : Text
deriving DecidableEq, Repr

/-- A place in a text: the character before it, the text behind it, its position,
and the pieces kept so far, the latest first. -/
structure State (Name : Type) where
  previous : Option Char
  rest : Text
  position : Nat
  captures : List (Name × Capture)

namespace State

variable {Name : Type}

/-- The beginning of a text. -/
def ofText (text : Text) : State Name :=
  ⟨none, text, 0, []⟩

/-- The latest piece kept under a name. -/
def capture? [DecidableEq Name] (state : State Name) (name : Name) : Option Capture :=
  (state.captures.find? fun kept => kept.1 == name).map (·.2)

/-- The place behind a character. -/
def step (state : State Name) (c : Char) (rest : Text) : State Name :=
  { state with previous := some c, rest := rest, position := state.position + 1 }

/-- The place behind a given text, if it stands here. -/
def stepOver? (state : State Name) : Text → Option (State Name)
  | [] => some state
  | c :: others =>
      match state.rest with
      | d :: rest => if c = d then stepOver? (state.step d rest) others else none
      | [] => none

/-- Keep the piece between an earlier place and this one. -/
def keep (state : State Name) (name : Name) (origin : State Name) : State Name :=
  let captured : Capture :=
    ⟨origin.position, state.position, origin.rest.take (state.position - origin.position)⟩
  { state with captures := (name, captured) :: state.captures }

/-- Whether a word begins or ends here. -/
def isBoundary (state : State Name) : Bool :=
  state.previous.any Text.isWordCharacter != state.rest.head?.any Text.isWordCharacter

/-- Whether the text ends here, or behind a line feed. -/
def isAtEnd (state : State Name) : Bool :=
  state.rest.isEmpty || state.rest == ['\n']

end State

/-- Match a step as often as possible, and go on behind the last time, but no more often
than there are characters in `left`. -/
def repeatStep {Name : Type}
    (step : State Name → (State Name → Option (State Name)) → Option (State Name)) :
    (left : Text) → State Name → (State Name → Option (State Name)) → Option (State Name)
  | [], state, next => next state
  | _ :: left, state, next =>
      let further := step state fun reached =>
        if state.position < reached.position then repeatStep step left reached next else none
      match further with
      | some result => some result
      | none => next state

namespace Expr

variable {Name : Type} [DecidableEq Name]

/-- Match an expression at a place and go on with `next` behind the match. -/
def run : Expr Name → State Name → (State Name → Option (State Name)) → Option (State Name)
  | empty, state, next => next state
  | char accepts, state, next =>
      match state.rest with
      | [] => none
      | c :: rest => if accepts c then next (state.step c rest) else none
  | seq first second, state, next =>
      run first state fun reached => run second reached next
  | alt first second, state, next =>
      match run first state next with
      | some result => some result
      | none => run second state next
  | star body, state, next =>
      repeatStep (fun place further => run body place further) state.rest state next
  | group name body, state, next =>
      run body state fun reached => next (reached.keep name state)
  | again name, state, next =>
      match state.capture? name with
      | some captured =>
          match state.stepOver? captured.text with
          | some reached => next reached
          | none => none
      | none => none
  | kept name, state, next => if (state.capture? name).isSome then next state else none
  | notAhead body, state, next =>
      match run body state some with
      | some _ => none
      | none => next state
  | boundary, state, next => if state.isBoundary then next state else none
  | atStart, state, next => if state.position = 0 then next state else none
  | atEnd, state, next => if state.isAtEnd then next state else none

end Expr

/-- A match: its place and the pieces kept under names, the latest first. -/
structure Match (Name : Type) where
  start : Nat
  stop : Nat
  captures : List (Name × Capture)

namespace Match

variable {Name : Type} [DecidableEq Name]

/-- The piece kept under a name. -/
def capture? (found : Match Name) (name : Name) : Option Capture :=
  (found.captures.find? fun kept => kept.1 == name).map (·.2)

/-- The text kept under a name. -/
def text? (found : Match Name) (name : Name) : Option Text :=
  (found.capture? name).map (·.text)

/-- The text kept under a name, empty if there is none. -/
def textOf (found : Match Name) (name : Name) : Text :=
  (found.text? name).getD []

end Match

namespace Expr

variable {Name : Type} [DecidableEq Name]

/-- The match at a place. -/
def matchAt? (expression : Expr Name) (state : State Name) : Option (Match Name) :=
  (expression.run state some).map fun reached =>
    ⟨state.position, reached.position, reached.captures⟩

/-- The match at the beginning of a text. -/
def matchStart? (expression : Expr Name) (text : Text) : Option (Match Name) :=
  expression.matchAt? (.ofText text)

/-- The leftmost match in what is left of a text, behind a character at a position. -/
def searchFrom (expression : Expr Name) : Option Char → Nat → Text → Option (Match Name)
  | previous, position, [] => expression.matchAt? ⟨previous, [], position, []⟩
  | previous, position, c :: rest =>
      match expression.matchAt? ⟨previous, c :: rest, position, []⟩ with
      | some found => some found
      | none => searchFrom expression (some c) (position + 1) rest

/-- The leftmost match in a text. -/
def search (expression : Expr Name) (text : Text) : Option (Match Name) :=
  expression.searchFrom none 0 text

/-- Whether an expression matches somewhere in a text. -/
def occursIn (expression : Expr Name) (text : Text) : Bool :=
  (expression.search text).isSome

/-- The last of the matches that follow one another from a position on, none
overlapping the one before it; `fuel` bounds their number. -/
def lastFrom (expression : Expr Name) (text : Text) : Nat → Nat → Option (Match Name)
  | 0, _ => none
  | fuel + 1, position =>
      let previous := if position = 0 then none else text[position - 1]?
      match expression.searchFrom previous position (text.drop position) with
      | none => none
      | some found =>
          match lastFrom expression text fuel (max found.stop (position + 1)) with
          | some later => some later
          | none => some found

/-- The last of the matches in a text, none overlapping the one before it. -/
def searchLast (expression : Expr Name) (text : Text) : Option (Match Name) :=
  expression.lastFrom text (text.length + 1) 0

/-- The place behind the preferred one of the matches here that are not empty. -/
def advance? (expression : Expr Name) (place : State Name) : Option (State Name) :=
  expression.run place fun reached =>
    if place.position < reached.position then some reached else none

/-- What the matches leave of a text behind a character at a position, each as far to the left as
possible and none overlapping the one before it, of which `inside` characters are still to come. -/
def eraseFrom (expression : Expr Name) : Option Char → Nat → (inside : Nat) → Text → Text
  | _, _, _, [] => []
  | _, position, inside + 1, c :: rest =>
      eraseFrom expression (some c) (position + 1) inside rest
  | previous, position, 0, c :: rest =>
      match expression.advance? ⟨previous, c :: rest, position, []⟩ with
      | some reached =>
          eraseFrom expression (some c) (position + 1) (reached.position - (position + 1)) rest
      | none => c :: eraseFrom expression (some c) (position + 1) 0 rest

/-- A text without its matches; an empty match takes nothing away. -/
def erase (expression : Expr Name) (text : Text) : Text :=
  expression.eraseFrom none 0 0 text

end Expr

end Rendezvous.Pattern
