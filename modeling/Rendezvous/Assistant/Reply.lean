import Rendezvous.Json.Read
import Rendezvous.Notice
import Rendezvous.Proposal.Decode

/-!
Contract: the proposal in the reply of an assistant.

Owns:
- `embeddedObject?`, the first object in a text, found by its braces alone; braces
  inside strings do not count, and quotes before the first brace mean nothing;
- the proposal that the object is, and what is noted where there is none.

A whole number with too many digits cannot be read at all, which is a fault and not
noted.
-/

namespace Rendezvous

namespace Reply

/-! ## The object in a reply -/

/-- Where a character stands: outside strings, inside one, or behind a backslash in one. -/
inductive Place where
  | outside
  | inString
  | escaped
deriving DecidableEq, Repr

/-- The beginning of a text up to the brace that closes all open ones; `depth` is their
number. -/
def upToClosing? : Nat → Place → Text → Option Text
  | _, _, [] => none
  | depth, place, c :: rest =>
      let further (depth : Nat) (place : Place) := (upToClosing? depth place rest).map (c :: ·)
      match place with
      | .escaped => further depth .inString
      | .inString =>
          if c = '\\' then further depth .escaped
          else if c = '"' then further depth .outside
          else further depth .inString
      | .outside =>
          if c = '"' then further depth .inString
          else if c = '\x7b' then further (depth + 1) .outside
          else if c = '\x7d' then
            if depth = 1 then some [c] else further (depth - 1) .outside
          else further depth .outside

/-- The first object in a text, from its opening to its closing brace. -/
def embeddedObject? (text : Text) : Option Text :=
  upToClosing? 0 .outside (text.dropWhile (· ≠ '\x7b'))

/-! ## The proposal in a reply -/

/-- What comes of a reply: a proposal or none, and what is noted. -/
structure Reading where
  outcome : Result (Option Proposal)
  notices : List Notice

/-- What comes of a document. -/
def readDocument (document : Json) : Reading :=
  let dropped := (Proposal.droppedConfidence? document).toList.map Notice.confidenceDropped
  match Proposal.ofJson document with
  | .ok proposal => ⟨.ok (some proposal), dropped⟩
  | .error issues => ⟨.ok none, dropped ++ [.proposalInvalid issues.length]⟩

/-- What comes of the object in a reply, read to a depth. -/
def readObject (depth : Json.Depth) (object : Text) : Reading :=
  match Json.read object depth with
  | .ok document => readDocument document
  | .error (.malformed cause position) =>
      ⟨.ok none, [.objectUnreadable cause position object]⟩
  | .error (.numeralTooLong digits) => ⟨.error (.numeralTooLong digits), []⟩
  | .error .nestedTooDeeply => ⟨.error .nestedTooDeeply, []⟩

/-- What comes of a reply; nothing is noted about an empty one. -/
def read (depth : Json.Depth) (reply : Text) : Reading :=
  if reply.isEmpty then ⟨.ok none, []⟩
  else
    match embeddedObject? reply with
    | some object => readObject depth object
    | none => ⟨.ok none, [.objectAbsent reply]⟩

end Reply

end Rendezvous
