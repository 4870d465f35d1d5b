import Rendezvous.Json.Shown
import Rendezvous.Notice

/-!
Contract: completions, the service behind an assistant.

Owns:
- `Completion.Access`, a service with its settings, which can be asked once it has a key;
- `Completion.Order`, what is sent to the service;
- what comes of the service's response: the text without blanks around it, or nothing,
  and what is noted where there is nothing.

A key that is given counts, unless it is empty, before one that the environment has.
-/

namespace Rendezvous.Completion

/-- A service with its settings. -/
structure Access where
  key : Option Text
  model : Text
  lengthLimit : Int
  patience : Binary64
deriving DecidableEq

/-- The model that is asked if none is named. -/
def defaultModel : Text := "gpt-4o-mini".toList

/-- The longest completion, if no other length is named. -/
def defaultLengthLimit : Int := 1024

/-- The number of seconds after which the service is given up, if no other is named. -/
def defaultPatience : Binary64 := .ofInt 30

/-- The key that counts. -/
def chooseKey (given environment : Option Text) : Option Text :=
  match given with
  | some (c :: rest) => some (c :: rest)
  | _ => environment

namespace Access

/-- Whether the service can be asked. -/
def isAvailable (access : Access) : Bool :=
  !(access.key.getD []).isEmpty

/-- What is noted about a service when it is set up. -/
def setUpNotices (access : Access) : List Notice :=
  if access.isAvailable then [] else [.keyAbsent]

end Access

/-- What is sent to the service: two messages, and how they are to be answered. -/
structure Order where
  model : Text
  instructions : Text
  message : Text
  lengthLimit : Int
  temperature : Binary64
  responseFormat : Text
deriving DecidableEq

/-- What the service gives back. -/
inductive Response where
  /-- A completion with a text or without one. -/
  | content (text : Option Text)
  /-- No completion. -/
  | empty
  /-- A refusal with a status and a code. -/
  | refusal (status : Option Int) (code : Option Text)
  /-- A failure of some kind. -/
  | failure (kind : Text)
deriving DecidableEq

/-- What comes of asking the service. -/
structure Exchange where
  order : Option Order
  result : Option Text
  notices : List Notice
deriving DecidableEq

/-- The code in the body of a refusal, if the body has one that says something. -/
def codeOf (body : Json) : Option Text :=
  match body.member? "code".toList with
  | some (.string content) => if content.isEmpty then none else some content.withoutHalves
  | some value => if value.saysNothing then none else some value.shown
  | none => none

/-- The code of a refusal because the quota is used up. -/
def quotaCode : Text := "insufficient_quota".toList

/-- The status of a refusal because of the rate. -/
def rateStatus : Int := 429

/-- A status or code that says something. -/
def saying (status : Option Int) (code : Option Text) : Notice :=
  .completionRefused (status.filter (· ≠ 0)) (code.filter (· ≠ []))

/-- What is noted about a refusal: the quota counts before the rate. -/
def refusalNotice (status : Option Int) (code : Option Text) : Notice :=
  if code = some quotaCode then .quotaExceeded
  else if status = some rateStatus then .rateExceeded
  else saying status code

/-- The text in a response, and what is noted where there is none. -/
def Response.read : Response → Option Text × List Notice
  | content text =>
      let trimmed := Text.trim (text.getD [])
      if trimmed.isEmpty then (none, [.completionEmpty]) else (some trimmed, [])
  | empty => (none, [.completionFailed "IndexError".toList])
  | refusal status code => (none, [refusalNotice status code])
  | failure kind => (none, [.completionFailed kind])

/-- What is sent to a service. -/
def Access.order (access : Access) (instructions message : Text) : Order where
  model := access.model
  instructions := instructions
  message := message
  lengthLimit := access.lengthLimit
  temperature := .ofInt 0
  responseFormat := "json_object".toList

/-- Ask a service, which will give the given response if it is asked. -/
def Access.exchange (access : Access) (instructions message : Text) (response : Response) :
    Exchange :=
  if access.isAvailable then
    let (result, notices) := response.read
    ⟨some (access.order instructions message), result, notices⟩
  else ⟨none, none, [.completionSkipped]⟩

end Rendezvous.Completion
