import Rendezvous.Text.Loose

/-!
Contract: the encodings in which a document may arrive.

Owns:
- `Encoding`, told from the zeros among the first bytes of a document: a document begins
  with ASCII characters, whose other bytes are zero where a character has two or four;
- `Encoding.decode?`, the text in the bytes of a document.

Bytes come as the text that they are in the usual encoding.
-/

namespace Rendezvous

/-- How characters are written as bytes: in one to four of them, or in units of two or of
four with the most significant byte first or last. -/
inductive Encoding where
  | utf8
  | utf16 (bigEndian : Bool)
  | utf32 (bigEndian : Bool)
deriving DecidableEq, Repr

namespace Encoding

/-- The encoding of a document with these bytes. -/
def ofBytes : List Nat → Encoding
  | [0, _] => .utf16 true
  | [_, 0] => .utf16 false
  | 0 :: 0 :: _ :: _ :: _ => .utf32 true
  | 0 :: _ :: _ :: _ :: _ => .utf16 true
  | _ :: 0 :: 0 :: 0 :: _ => .utf32 false
  | _ :: 0 :: _ :: _ :: _ => .utf16 false
  | _ => .utf8

/-- The number with these bytes. -/
def numberOf (bigEndian : Bool) (bytes : List Nat) : Nat :=
  (if bigEndian then bytes else bytes.reverse).foldl (fun number byte => number * 256 + byte) 0

/-- The units of two bytes, if no byte is left over. -/
def pairs? (bigEndian : Bool) : List Nat → Option (List Nat)
  | [] => some []
  | a :: b :: rest => (pairs? bigEndian rest).map (numberOf bigEndian [a, b] :: ·)
  | _ => none

/-- The units of four bytes, if no byte is left over. -/
def quadruples? (bigEndian : Bool) : List Nat → Option (List Nat)
  | [] => some []
  | a :: b :: c :: d :: rest =>
      (quadruples? bigEndian rest).map (numberOf bigEndian [a, b, c, d] :: ·)
  | _ => none

/-- The loose text with these numbers, if none is beyond the last character. -/
def ofNumbers? (numbers : List Nat) : Option LooseText :=
  if numbers.all (· < 0x110000) then some (numbers.map CodePoint.ofNumber) else none

/-- The bytes that a text is in the usual encoding. -/
def bytesOf (text : Text) : List Nat :=
  text.flatMap fun c => (String.utf8EncodeChar c).map UInt8.toNat

/-- The text in the bytes of a document, if its encoding admits them. -/
def decode? (document : Text) : Option LooseText :=
  let bytes := bytesOf document
  match ofBytes bytes with
  | utf8 => some document.loose
  | utf16 bigEndian => (pairs? bigEndian bytes).map LooseText.ofUnits
  | utf32 bigEndian => (quadruples? bigEndian bytes).bind ofNumbers?

end Encoding

end Rendezvous
