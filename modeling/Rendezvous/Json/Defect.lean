import Rendezvous.Fault

/-!
Contract: why a text is no document, and where.

Owns:
- the causes, each with the position of the first character that cannot stand;
- the wording, with line, column and position.

Lines end at a line feed; lines and columns count from one, positions from zero.
-/

namespace Rendezvous.Json

/-- What a reader misses or refuses at a position. -/
inductive Cause where
  | expectedName
  | expectedColon
  | expectedValue
  | expectedComma
  | controlCharacter
  | unknownEscape
  | malformedUnicodeEscape
  | unterminatedString
  | trailingText
  | byteOrderMark
deriving DecidableEq, Repr

/-- The wording of a cause. -/
def Cause.message : Cause → Text
  | expectedName => "Expecting property name enclosed in double quotes".toList
  | expectedColon => "Expecting ':' delimiter".toList
  | expectedValue => "Expecting value".toList
  | expectedComma => "Expecting ',' delimiter".toList
  | controlCharacter => "Invalid control character at".toList
  | unknownEscape => "Invalid \\escape".toList
  | malformedUnicodeEscape => "Invalid \\uXXXX escape".toList
  | unterminatedString => "Unterminated string starting at".toList
  | trailingText => "Extra data".toList
  | byteOrderMark => "Unexpected UTF-8 BOM (decode using utf-8-sig)".toList

/-- Why a text is no document. -/
inductive Defect where
  /-- The text departs from the grammar at a position. -/
  | malformed (cause : Cause) (position : Nat)
  /-- A whole number has more digits than are read. -/
  | numeralTooLong (digits : Nat)
  /-- Composite values stand inside one another too deeply. -/
  | nestedTooDeeply
deriving DecidableEq, Repr

/-- The line of a position. -/
def lineOf (text : Text) (position : Nat) : Nat :=
  (text.take position).count '\n' + 1

/-- The column of a position in its line. -/
def columnOf (text : Text) (position : Nat) : Nat :=
  ((text.take position).reverse.takeWhile (· ≠ '\n')).length + 1

/-- The wording of a departure from the grammar, with its place. -/
def placed (cause : Cause) (text : Text) (position : Nat) : Text :=
  cause.message ++ ": line ".toList ++ Text.ofNat (lineOf text position)
    ++ " column ".toList ++ Text.ofNat (columnOf text position)
    ++ " (char ".toList ++ Text.ofNat position ++ ")".toList

end Rendezvous.Json
