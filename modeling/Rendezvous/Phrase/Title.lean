import Rendezvous.Pattern.Search

/-!
Contract: the titles that a description suggests.

Owns:
- the title before a phrase, without the separators at its end;
- the same without a common word for an event in front;
- the title made of the first words of the description.

A title in the first two forms has at least one and less than a hundred characters.
-/

namespace Rendezvous.Title

open Pattern

/-- Titles are shorter than this. -/
def sizeBound : Nat := 100

/-- The number of words in a title made of the first words. -/
def wordCount : Nat := 5

/-- Characters that separate a title from what follows it. -/
def isSeparator (c : Char) : Bool :=
  Text.isBlank c || c == '-' || c == '\u2013' || c == '\u2014' || c == ':' || c == ','

/-- Separators up to the end of a text. -/
def finalSeparators : Expr Unit :=
  .inRow [.plus (.char isSeparator), .atEnd]

/-- A text without the separators at its end. -/
def dropSeparators (text : Text) : Text :=
  finalSeparators.erase text

/-- A text as a title, if it has the size of one. -/
def ofSized? (text : Text) : Option Text :=
  if 0 < text.length ∧ text.length < sizeBound then some text else none

/-- The title before a position of a text. -/
def before? (text : Text) (index : Int) : Option Text :=
  ofSized? (dropSeparators (text.upTo index).trim)

/-- A common word for an event with the signs behind it. -/
def commonOpening : Expr Unit :=
  .inRow [.atStart, .wordOf ["event", "hangout", "gathering", "meeting", "dinner", "lunch"],
    .boundary, filling, .opt (.oneOf ['-', '\u2013', '\u2014']), filling]
where
  /-- Any number of blanks and colons. -/
  filling : Expr Unit := .star (.char fun c => Text.isBlank c || c == ':')

/-- A text without a common word for an event in front. -/
def dropOpening (text : Text) : Text :=
  match commonOpening.matchStart? text with
  | some found => text.drop found.stop
  | none => text

/-- The title before a position of a text, without a common word for an event. -/
def distinctive? (text : Text) (index : Int) : Option Text :=
  ofSized? (dropSeparators (dropOpening (text.upTo index).trim)).trim

/-- The title made of the first words of a text. -/
def ofWords (text : Text) : Text :=
  Text.unwords ((Text.words text).take wordCount)

end Rendezvous.Title
