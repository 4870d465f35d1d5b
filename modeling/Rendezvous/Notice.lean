import Rendezvous.Json.Defect
import Rendezvous.Number.Shortest

/-!
Contract: what is noted while descriptions are read.

Owns:
- `Notice`, one constructor for each thing that is noted, with the values that
  describe it;
- the level and the wording of a notice.

Does not own: when something is noted (`Assistant` and `Arbiter`).
-/

namespace Rendezvous

/-- How much a notice matters. -/
inductive Level where
  | debug
  | warning
  | error
deriving DecidableEq, Repr

/-- The name of a level. -/
def Level.name : Level → Text
  | .debug => "DEBUG".toList
  | .warning => "WARNING".toList
  | .error => "ERROR".toList

/-- Something that is noted. -/
inductive Notice where
  /-- There is no assistant to ask. -/
  | assistantAbsent
  /-- A description has nothing to ask about. -/
  | emptyQuestion
  /-- Asking failed, for a reason of the given kind. -/
  | askingFailed (kind : Text)
  /-- A reply has no object in it. -/
  | objectAbsent (reply : Text)
  /-- The object in a reply is no document. -/
  | objectUnreadable (cause : Json.Cause) (position : Nat) (object : Text)
  /-- The object in a reply is no proposal. -/
  | proposalInvalid (issues : Nat)
  /-- The confidence of a proposal is no probability. -/
  | confidenceDropped (confidence : Binary64)
  /-- An event read without help is used. -/
  | localAccepted (confidence : Binary64)
  /-- An event read without help is used for want of an assistant. -/
  | localUnassisted (confidence : Binary64)
  /-- A proposal is used. -/
  | proposalAccepted (confidence : Binary64)
  /-- A proposal is too uncertain to be used. -/
  | proposalUncertain (confidence threshold : Binary64)
  /-- A proposal could not be had or used, for a reason of the given kind. -/
  | proposalFailed (kind : Text)
  /-- There is no key for completions. -/
  | keyAbsent
  /-- A completion is not asked for, there being no key. -/
  | completionSkipped
  /-- A completion is empty. -/
  | completionEmpty
  /-- The quota for completions is used up. -/
  | quotaExceeded
  /-- Completions are asked for too often. -/
  | rateExceeded
  /-- A completion is refused with a status and a code. -/
  | completionRefused (status : Option Int) (code : Option Text)
  /-- A completion failed, for a reason of the given kind. -/
  | completionFailed (kind : Text)
deriving DecidableEq, Repr

namespace Notice

/-- Replies are shown up to this many characters. -/
def shownLength : Nat := 100

/-- The level of a notice. -/
def level : Notice → Level
  | assistantAbsent | emptyQuestion | localAccepted _ | localUnassisted _
  | proposalAccepted _ | proposalUncertain .. | completionSkipped => .debug
  | objectAbsent _ | objectUnreadable .. | proposalInvalid _ | confidenceDropped _
  | proposalFailed _ | keyAbsent | completionEmpty | quotaExceeded | rateExceeded => .warning
  | askingFailed _ | completionRefused .. | completionFailed _ => .error

/-- A text, or a word for its absence. -/
def orUnknown : Option Text → Text
  | some text => text
  | none => "unknown".toList

/-- The wording of a notice. -/
def wording : Notice → Text
  | assistantAbsent => "LLM client not configured, skipping LLM parsing".toList
  | emptyQuestion => "Empty description after sanitizing. Skipping LLM parsing.".toList
  | askingFailed kind => "LLM date parsing error: ".toList ++ kind
  | objectAbsent reply =>
      "Could not extract JSON from LLM response: ".toList ++ reply.take shownLength
  | objectUnreadable cause position object =>
      "Failed to parse LLM JSON response: ".toList ++ Json.placed cause object position
        ++ ". Response: ".toList ++ object.take shownLength
  | proposalInvalid issues =>
      "Invalid LLM response structure: ".toList ++ Text.ofNat issues ++ " error(s)".toList
  | confidenceDropped confidence =>
      "Invalid confidence value ".toList ++ confidence.render
        ++ " from model. Using 0.0.".toList
  | localAccepted confidence =>
      "Local parse accepted with confidence ".toList ++ confidence.render
  | localUnassisted confidence =>
      "Local confidence ".toList ++ confidence.render
        ++ " below threshold but no LLM client configured".toList
  | proposalAccepted confidence =>
      "LLM parse accepted with confidence ".toList ++ confidence.render
  | proposalUncertain confidence threshold =>
      "LLM confidence ".toList ++ confidence.render ++ " below threshold ".toList
        ++ threshold.render ++ ". Using local result.".toList
  | proposalFailed kind => "LLM parsing failed, using local result: ".toList ++ kind
  | keyAbsent =>
      "OPENAI_API_KEY not found in environment. LLM date parsing will not be available.".toList
  | completionSkipped => "OpenAI client not initialized. Skipping completion.".toList
  | completionEmpty => "OpenAI returned an empty response".toList
  | quotaExceeded =>
      ("OpenAI API quota insufficient. Please check billing/payment method in OpenAI "
        ++ "dashboard.").toList
  | rateExceeded => "OpenAI API rate limit exceeded. Please wait before retrying.".toList
  | completionRefused status code =>
      "OpenAI API error: ".toList ++ orUnknown (status.map Text.ofInt) ++ " (".toList
        ++ orUnknown code ++ ")".toList
  | completionFailed kind => "Error calling OpenAI API: ".toList ++ kind

/-- A notice on one line, the level first. -/
def line (notice : Notice) : Text :=
  notice.level.name ++ ' ' :: notice.wording

end Notice

end Rendezvous
