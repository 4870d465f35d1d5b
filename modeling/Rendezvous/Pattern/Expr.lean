import Rendezvous.Text.Digit
import Rendezvous.Text.Lowercase
import Rendezvous.Text.WordCharacter

/-!
Contract: expressions that describe pieces of a text.

Owns:
- `Expr`, over a type of names for the pieces that are of interest;
- the usual combinations: words in any letter case, choices, options, repetitions.

Does not own: what an expression matches (`Pattern.Search`).  The order in which
the parts of an expression stand matters there: an earlier choice is preferred to a
later one, and one more repetition to one less.
-/

namespace Rendezvous.Pattern

/-- An expression whose pieces of interest have names in `Name`. -/
inductive Expr (Name : Type) where
  /-- The empty piece. -/
  | empty
  /-- One character with a property. -/
  | char (accepts : Char → Bool)
  /-- One piece followed by another. -/
  | seq (first second : Expr Name)
  /-- One piece or, failing that, another. -/
  | alt (first second : Expr Name)
  /-- Any number of pieces in a row, as many as possible. -/
  | star (body : Expr Name)
  /-- A piece that is kept under a name, in place of an earlier one with that name. -/
  | group (name : Name) (body : Expr Name)
  /-- The same text as the piece kept under a name. -/
  | again (name : Name)
  /-- The empty piece, provided a piece is kept under a name. -/
  | kept (name : Name)
  /-- The empty piece, provided no piece of the given form follows. -/
  | notAhead (body : Expr Name)
  /-- The empty piece between a word character and something else. -/
  | boundary
  /-- The empty piece at the beginning of the text. -/
  | atStart
  /-- The empty piece at the end of the text, or before a line feed that ends it. -/
  | atEnd

namespace Expr

variable {Name : Type}

/-- No piece at all. -/
def fail : Expr Name :=
  char fun _ => false

/-- A small ASCII letter in either case, or a sign. -/
def letter (c : Char) : Expr Name :=
  char (Text.sameLetter c)

/-- One of several characters. -/
def oneOf (characters : List Char) : Expr Name :=
  char characters.contains

/-- A decimal digit of any script. -/
def digit : Expr Name :=
  char Text.isDigit

/-- A blank. -/
def blank : Expr Name :=
  char Text.isBlank

/-- Pieces in a row. -/
def inRow : List (Expr Name) → Expr Name
  | [] => empty
  | [only] => only
  | first :: others => seq first (inRow others)

/-- The first of several pieces that leads to a match. -/
def choice : List (Expr Name) → Expr Name
  | [] => fail
  | [only] => only
  | first :: others => alt first (choice others)

/-- A word in any letter case. -/
def word (letters : String) : Expr Name :=
  inRow (letters.toList.map letter)

/-- One of several words, an earlier one preferred. -/
def wordOf (words : List String) : Expr Name :=
  choice (words.map word)

/-- A piece, or nothing. -/
def opt (body : Expr Name) : Expr Name :=
  alt body empty

/-- A piece at least once. -/
def plus (body : Expr Name) : Expr Name :=
  seq body (star body)

/-- At least one blank. -/
def blanks : Expr Name :=
  plus blank

/-- Any number of blanks. -/
def anyBlanks : Expr Name :=
  star blank

/-- A piece exactly `count` times. -/
def times (count : Nat) (body : Expr Name) : Expr Name :=
  inRow (List.replicate count body)

end Expr

end Rendezvous.Pattern
