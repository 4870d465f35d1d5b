import Rendezvous.Text.CodeRange

/-!
Contract: texts as sequences of characters.

Owns:
- `Text`, in which every position and length counts characters;
- blanks, trimming and the division into words;
- pieces of a text by position, with positions counted from the end when negative;
- search for a fixed text.

Does not own: letter case, digits and word boundaries (`Text.Lowercase`,
`Text.Digit`, `Text.WordCharacter`).
-/

namespace Rendezvous

/-- A text is the list of its characters. -/
abbrev Text := List Char

namespace Text

/-! ## Blanks and trimming -/

/-- The blank characters: spaces, line ends and separators of every script. -/
def blankRanges : List CodeRange := [
  ⟨0x9, 0xD⟩, ⟨0x1C, 0x20⟩, ⟨0x85, 0x85⟩, ⟨0xA0, 0xA0⟩, ⟨0x1680, 0x1680⟩,
  ⟨0x2000, 0x200A⟩, ⟨0x2028, 0x2029⟩, ⟨0x202F, 0x202F⟩, ⟨0x205F, 0x205F⟩,
  ⟨0x3000, 0x3000⟩]

/-- Whether a character is blank. -/
def isBlank (c : Char) : Bool :=
  CodeRange.anyHolds blankRanges c

/-- Drop the longest final run of characters with a property. -/
def dropEndWhile (drop : Char → Bool) (text : Text) : Text :=
  (text.reverse.dropWhile drop).reverse

/-- Drop the blanks at the end. -/
def trimEnd (text : Text) : Text :=
  dropEndWhile isBlank text

/-- Drop the blanks at both ends. -/
def trim (text : Text) : Text :=
  trimEnd (text.dropWhile isBlank)

/-- Whether a text has no character but blanks. -/
def isAllBlank (text : Text) : Bool :=
  text.all isBlank

/-- The maximal runs of characters that are not blank, in order. -/
def words : Text → List Text
  | [] => []
  | c :: rest =>
      if isBlank c then words rest
      else
        match rest with
        | [] => [[c]]
        | next :: _ =>
            if isBlank next then [c] :: words rest
            else
              match words rest with
              | [] => [[c]]
              | word :: others => (c :: word) :: others

/-- Words joined by single spaces. -/
def unwords : List Text → Text
  | [] => []
  | [word] => word
  | word :: others => word ++ ' ' :: unwords others

/-- The number of bytes that a text takes in its usual encoding. -/
def byteSize (text : Text) : Nat :=
  text.foldl (fun size c => size + c.utf8Size) 0

/-! ## Pieces of a text -/

/-- The number of characters before a position: a negative position counts from
the end, and positions beyond an end stand for that end. -/
def clampIndex (size : Nat) (index : Int) : Nat :=
  if index < 0 then (size + index).toNat else min index.toNat size

/-- The text before a position. -/
def upTo (text : Text) (index : Int) : Text :=
  text.take (clampIndex text.length index)

/-- The text from a position on. -/
def onwards (text : Text) (index : Int) : Text :=
  text.drop (clampIndex text.length index)

/-- The text from position `start` to before position `stop`. -/
def piece (text : Text) (start stop : Int) : Text :=
  (text.take (clampIndex text.length stop)).drop (clampIndex text.length start)

/-! ## Search -/

/-- Whether `part` occurs in a text as a contiguous piece. -/
def occursIn (part : Text) : Text → Bool
  | [] => part.isEmpty
  | c :: rest => part.isPrefixOf (c :: rest) || occursIn part rest

/-- Whether a text begins with `start`. -/
def beginsWith (text start : Text) : Bool :=
  start.isPrefixOf text

end Text

end Rendezvous
