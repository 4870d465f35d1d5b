import Rendezvous.Json.Defect
import Rendezvous.Json.Value
import Rendezvous.Number.Numeral

/-!
Contract: reading a document.

Owns:
- the scanners of blanks, strings, numbers and composite values;
- `Json.read`, which reads a text that is one document and nothing else.

Each scanner gets what is left of the text and returns what is left behind the
part it read.  A refusal carries the number of characters that were left, from
which `Json.read` tells the position.  Besides the standard grammar the names
NaN, Infinity and -Infinity are numbers.

Composite values are bounded by a count that starts at the length of the text
plus one; each nested value and each further member has at least one character
of its own, so the count never runs out.  Composite values stand inside one another
up to the depth that the reader is given; the first one beyond it is refused at its
opening mark.
-/

namespace Rendezvous.Json

/-- Why a scanner stopped: the cause and the number of characters left. -/
inductive Refusal where
  | malformed (cause : Cause) (left : Nat)
  | numeralTooLong (digits : Nat)
  | nestedTooDeeply
deriving DecidableEq, Repr

/-- What a scanner read and what is left. -/
abbrev Scan (α : Type) := Except Refusal (α × Text)

/-- Refuse what is left of the text. -/
def refuse {α : Type} (cause : Cause) (left : Text) : Scan α :=
  .error (.malformed cause left.length)

/-- The blanks between the parts of a document. -/
def isFiller (c : Char) : Bool :=
  c == ' ' || c == '\t' || c == '\n' || c == '\r'

/-- What is left behind the blanks at the beginning. -/
def skipFiller (text : Text) : Text :=
  text.dropWhile isFiller

/-! ## Strings -/

/-- A part of a string: a character, or a 16-bit unit written as an escape. -/
inductive StringPart where
  | character (c : Char)
  | unit (value : Nat)
deriving DecidableEq, Repr

/-- The value of a hexadecimal digit. -/
def hexValue? (c : Char) : Option Nat :=
  if '0' ≤ c ∧ c ≤ '9' then some (c.toNat - 48)
  else if 'a' ≤ c ∧ c ≤ 'f' then some (c.toNat - 87)
  else if 'A' ≤ c ∧ c ≤ 'F' then some (c.toNat - 55)
  else none

/-- The value of four hexadecimal digits. -/
def unitValue? (a b c d : Char) : Option Nat := do
  let first ← hexValue? a
  let second ← hexValue? b
  let third ← hexValue? c
  let fourth ← hexValue? d
  return ((first * 16 + second) * 16 + third) * 16 + fourth

/-- The character that a short escape stands for. -/
def shortEscape? : Char → Option Char
  | '"' => some '"'
  | '\\' => some '\\'
  | '/' => some '/'
  | 'b' => some '\x08'
  | 'f' => some '\x0c'
  | 'n' => some '\n'
  | 'r' => some '\r'
  | 't' => some '\t'
  | _ => none

/-- The parts of a string up to its closing mark; `opening` is the number of
characters left at its opening mark. -/
def scanParts (opening : Nat) : Text → Scan (List StringPart)
  | [] => .error (.malformed .unterminatedString opening)
  | '"' :: rest => .ok ([], rest)
  | '\\' :: [] => .error (.malformed .unterminatedString opening)
  | '\\' :: 'u' :: a :: b :: c :: d :: rest =>
      match unitValue? a b c d with
      | some value =>
          if rest.isEmpty then refuse .malformedUnicodeEscape ['u', a, b, c, d]
          else (scanParts opening rest).map fun (parts, left) => (.unit value :: parts, left)
      | none => refuse .malformedUnicodeEscape ('u' :: a :: b :: c :: d :: rest)
  | '\\' :: 'u' :: rest => refuse .malformedUnicodeEscape ('u' :: rest)
  | '\\' :: c :: rest =>
      match shortEscape? c with
      | some escaped =>
          (scanParts opening rest).map fun (parts, left) => (.character escaped :: parts, left)
      | none => refuse .unknownEscape ('\\' :: c :: rest)
  | c :: rest =>
      if c.toNat < 0x20 then refuse .controlCharacter (c :: rest)
      else (scanParts opening rest).map fun (parts, left) => (.character c :: parts, left)

/-- The code points of the parts of a string: the two halves of a surrogate pair in a
row stand for one character. -/
def assemble : List StringPart → LooseText
  | [] => []
  | .character c :: rest => .char c :: assemble rest
  | .unit first :: .unit second :: rest =>
      if CodePoint.isHighHalf first && CodePoint.isLowHalf second then
        .ofPair first second :: assemble rest
      else .ofNumber first :: assemble (.unit second :: rest)
  | .unit value :: rest => .ofNumber value :: assemble rest

/-- A string behind its opening mark. -/
def scanString (text : Text) : Scan LooseText :=
  (scanParts (text.length + 1) text).map fun (parts, left) => (assemble parts, left)

/-! ## Numbers -/

/-- The whole part of a number: zero alone, or digits that do not begin with it. -/
def scanWhole? (text : Text) : Option (Text × Text) :=
  match text with
  | '0' :: rest => some (['0'], rest)
  | _ =>
      let (digits, rest) := Numeral.scanDigits text
      if digits.isEmpty then none else some (digits, rest)

/-- The digits behind a point; none if no digit follows the point. -/
def scanBehind (text : Text) : Text × Text :=
  match text with
  | '.' :: rest =>
      let (digits, left) := Numeral.scanDigits rest
      if digits.isEmpty then ([], text) else (digits, left)
  | _ => ([], text)

/-- The power of ten at the beginning of a text, if there is a complete one. -/
def scanPower (text : Text) : Option Int × Text :=
  match text with
  | c :: rest =>
      if c = 'e' ∨ c = 'E' then
        let (negative, unsigned) := Numeral.scanSign rest
        let (digits, left) := Numeral.scanDigits unsigned
        if digits.isEmpty then (none, text)
        else
          let power : Int := Text.digitsValue digits
          (some (if negative then -power else power), left)
      else (none, text)
  | [] => (none, text)

/-- A number: the longest beginning of the text that is one. -/
def scanNumber (text : Text) : Scan Json :=
  let (negative, unsigned) :=
    match text with
    | '-' :: rest => (true, rest)
    | _ => (false, text)
  match scanWhole? unsigned with
  | none => refuse .expectedValue text
  | some (digits, afterWhole) =>
      let (behind, afterBehind) := scanBehind afterWhole
      let (power, left) := scanPower afterBehind
      if behind.isEmpty ∧ power.isNone then
        if Fault.digitLimit < digits.length then .error (.numeralTooLong digits.length)
        else
          let magnitude : Int := Text.digitsValue digits
          .ok (.integer (if negative then -magnitude else magnitude), left)
      else
        .ok (.real (Binary64.ofDecimal negative (Text.digitsValue (digits ++ behind))
          (power.getD 0 - behind.length)), left)

/-! ## Values -/

/-- The values that are written as a name. -/
def namedValues : List (Text × Json) := [
  ("null".toList, .null),
  ("true".toList, .bool true),
  ("false".toList, .bool false),
  ("NaN".toList, .real .nan),
  ("Infinity".toList, .real (.infinite false)),
  ("-Infinity".toList, .real (.infinite true))]

/-- A value that is written as a name, or a number. -/
def scanScalar (text : Text) : Scan Json :=
  match namedValues.find? fun named => text.beginsWith named.1 with
  | some (name, value) => .ok (value, text.drop name.length)
  | none => scanNumber text

mutual

/-- A value at the beginning of the text, with at most `depth` composite values inside
one another. -/
def scanValue (depth : Nat) : Nat → Text → Scan Json
  | 0, text => refuse .expectedValue text
  | fuel + 1, text =>
      match text with
      | '"' :: rest => (scanString rest).map fun (content, left) => (.string content, left)
      | '{' :: rest =>
          if depth = 0 then .error .nestedTooDeeply
          else
            match skipFiller rest with
            | '}' :: left => .ok (.object [], left)
            | inside =>
                (scanMembers (depth - 1) fuel inside).map fun (members, left) =>
                  (.object members, left)
      | '[' :: rest =>
          if depth = 0 then .error .nestedTooDeeply
          else
            match skipFiller rest with
            | ']' :: left => .ok (.array [], left)
            | inside =>
                (scanItems (depth - 1) fuel inside).map fun (items, left) =>
                  (.array items, left)
      | _ => scanScalar text

/-- The members of an object up to its closing brace. -/
def scanMembers (depth : Nat) :
    Nat → Text → Except Refusal (List (LooseText × Json) × Text)
  | 0, text => refuse .expectedName text
  | fuel + 1, text =>
      match text with
      | '"' :: rest => do
          let (name, afterName) ← scanString rest
          match skipFiller afterName with
          | ':' :: afterColon => do
              let (value, afterValue) ← scanValue depth fuel (skipFiller afterColon)
              match skipFiller afterValue with
              | '}' :: left => .ok ([(name, value)], left)
              | ',' :: afterComma => do
                  let (others, left) ← scanMembers depth fuel (skipFiller afterComma)
                  .ok ((name, value) :: others, left)
              | left => refuse .expectedComma left
          | left => refuse .expectedColon left
      | _ => refuse .expectedName text

/-- The items of an array up to its closing bracket. -/
def scanItems (depth : Nat) : Nat → Text → Except Refusal (List Json × Text)
  | 0, text => refuse .expectedValue text
  | fuel + 1, text => do
      let (value, afterValue) ← scanValue depth fuel text
      match skipFiller afterValue with
      | ']' :: left => .ok ([value], left)
      | ',' :: afterComma => do
          let (others, left) ← scanItems depth fuel (skipFiller afterComma)
          .ok (value :: others, left)
      | left => refuse .expectedComma left

end

/-! ## Documents -/

/-- How deeply composite values may stand inside one another.  This is up to the machine that
reads; the documents that are exchanged with an assistant stand four deep, and each machine reads
them. -/
structure Depth where
  levels : Nat
  ample : 4 ≤ levels
deriving DecidableEq, Repr

/-- The depth where none is named. -/
def Depth.usual : Depth := ⟨980, by decide⟩

/-- A text that is one value with blanks around it. -/
def scanDocument (depth : Depth) (text : Text) : Except Refusal Json := do
  let (value, afterValue) ← scanValue depth.levels (text.length + 1) (skipFiller text)
  match skipFiller afterValue with
  | [] => .ok value
  | left => .error (.malformed .trailingText left.length)

/-- Read a document. -/
def read (text : Text) (depth : Depth := .usual) : Except Defect Json :=
  match text with
  | '\ufeff' :: _ => .error (.malformed .byteOrderMark 0)
  | _ =>
      match scanDocument depth text with
      | .ok value => .ok value
      | .error (.malformed cause left) => .error (.malformed cause (text.length - left))
      | .error (.numeralTooLong digits) => .error (.numeralTooLong digits)
      | .error .nestedTooDeeply => .error .nestedTooDeeply

end Rendezvous.Json
