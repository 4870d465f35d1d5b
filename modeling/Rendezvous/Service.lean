import Rendezvous.Arbiter
import Rendezvous.Event.Validation
import Rendezvous.Text.Encoding

/-!
Contract: the web service that reads descriptions.

Owns:
- `Service.Request` and the routes: whether the service is well, and the reading of a
  description;
- the description in the body of a request, and the refusals of bodies without one;
- `Service.Response`, with its status, and what it says of an event.

Slashes at the end of a path, everything behind a question mark or a number sign, and the
letter case of a method mean nothing; a percent sign and two hexadecimal digits stand for
a character, and the slash at the beginning may be left out.  A body that is refused is
repeated in the refusal, which is impossible, and a fault, where it has numbers that are
not finite or strings without a text.  An event with a string without a text cannot be
answered either, which is a fault of another kind.
-/

namespace Rendezvous.Service

open Schema

/-- What is asked of the service.  The body is read to a depth. -/
structure Request where
  method : Text
  path : Text
  body : Text
  depth : Json.Depth := .usual
deriving DecidableEq

/-- What the service answers. -/
inductive Response where
  /-- The service is well. -/
  | healthy
  /-- An event, what speaks against it, and its days as they are shown. -/
  | event (event : Event) (objections : List Objection)
  /-- The description is blank. -/
  | blankDescription
  /-- The body is beyond reading. -/
  | unreadableBody
  /-- There is nothing at the path. -/
  | notFound
  /-- The path takes another method. -/
  | otherMethod
  /-- The body is no document; the position is that of the defect. -/
  | malformedBody (position : Nat)
  /-- The body is no request. -/
  | refusedBody (issues : List Issue)
deriving DecidableEq

/-- The status of an answer. -/
def Response.status : Response → Nat
  | healthy | event .. => 200
  | blankDescription | unreadableBody => 400
  | notFound => 404
  | otherMethod => 405
  | malformedBody _ | refusedBody _ => 422

/-- The wording of an answer that says why nothing was read.  A body that is no request is
answered with its issues, which name the places in it. -/
def Response.detail? : Response → Option Text
  | blankDescription => some "Description is required".toList
  | unreadableBody => some "There was an error parsing the body".toList
  | notFound => some "Not Found".toList
  | otherMethod => some "Method Not Allowed".toList
  | healthy | event .. | malformedBody _ | refusedBody _ => none

/-- Whether nothing speaks against an event that is answered. -/
def Response.isValid : Response → Bool
  | event _ objections => objections.isEmpty
  | _ => false

/-- The days of an event that is answered, as they are shown. -/
def Response.labels : Response → List Text
  | event found _ => found.labels
  | _ => []

/-! ## Routes -/

/-- What is at a path. -/
inductive Route where
  | health
  | reading
deriving DecidableEq, Repr

/-- The path of a route. -/
def Route.path : Route → Text
  | health => "/health".toList
  | reading => "/events/parse".toList

/-- The method that a route takes. -/
def Route.method : Route → Text
  | health => "GET".toList
  | reading => "POST".toList

/-- Whether a route takes a method. -/
def Route.takes (route : Route) (method : Text) : Bool :=
  method.map Char.toUpper == route.method

/-- A path with the ASCII characters that it writes by their numbers. -/
def decodedPath : Text → Text
  | '%' :: high :: low :: rest =>
      match Json.hexValue? high, Json.hexValue? low with
      | some first, some second =>
          if first < 8 then Char.ofNat (first * 16 + second) :: decodedPath rest
          else '%' :: decodedPath (high :: low :: rest)
      | _, _ => '%' :: decodedPath (high :: low :: rest)
  | c :: rest => c :: decodedPath rest
  | [] => []

/-- A path without what means nothing. -/
def barePath (path : Text) : Text :=
  let significant := path.takeWhile fun c => c ≠ '?' && c ≠ '#'
  let complete := if significant.head? = some '/' then significant else '/' :: significant
  Text.dropEndWhile (· == '/') (decodedPath complete)

/-- The route of a path. -/
def route? (path : Text) : Option Route :=
  [Route.health, Route.reading].find? fun route => route.path == barePath path

/-! ## Bodies -/

/-- Of two causes the one that counts: a number that is not finite before a string
without a text. -/
def graver : Option Fault → Option Fault → Option Fault
  | some .unwritableText, some .unwritableNumber => some .unwritableNumber
  | some fault, _ => some fault
  | none, fault => fault

/-- Why a string cannot be repeated. -/
def stringFault? (content : LooseText) : Option Fault :=
  if content.isText then none else some .unwritableText

mutual

/-- Why a value cannot be repeated. -/
def repeatFault? : Json → Option Fault
  | .real value => if value.isFinite then none else some .unwritableNumber
  | .string content => stringFault? content
  | .array items => repeatFaultOfItems? items
  | .object members => repeatFaultOfMembers? members
  | _ => none

/-- Why items cannot be repeated. -/
def repeatFaultOfItems? : List Json → Option Fault
  | [] => none
  | item :: others => graver (repeatFault? item) (repeatFaultOfItems? others)

/-- Why members cannot be repeated. -/
def repeatFaultOfMembers? : List (LooseText × Json) → Option Fault
  | [] => none
  | (name, value) :: others =>
      graver (stringFault? name) (graver (repeatFault? value) (repeatFaultOfMembers? others))

end

/-- Refuse a body for one flaw, repeating the value that has it. -/
def refuse (flaw : Flaw) (path : List Step) (repeated : Json) : Result Response :=
  match repeatFault? repeated with
  | some fault => .error fault
  | none => .ok (.refusedBody [⟨flaw, .member "body".toList :: path⟩])

/-- The name of the member that has the description. -/
def descriptionName : Text := "description".toList

/-- What a body comes to: a description, or an answer that refuses it. -/
abbrev Body := Result (LooseText ⊕ Response)

/-- Turn an answer that refuses a body into what the body comes to. -/
def refusal (answer : Result Response) : Body :=
  answer.map .inr

/-- The description in a document. -/
def description (document : Json) : Body :=
  match document with
  | .null => refusal (refuse .missing [] .null)
  | .object members =>
      match Json.lastMember? descriptionName members with
      | none => refusal (refuse .missing [.member descriptionName] document)
      | some (.string content) => .ok (.inl content)
      | some value => refusal (refuse .notText [.member descriptionName] value)
  | value => refusal (refuse .notBody [] value)

/-- A body without the mark of its encoding at the beginning. -/
def unmarked : Text → Text
  | '\ufeff' :: rest => rest
  | body => body

/-- What the text of a body comes to. -/
def readText (depth : Json.Depth) (body : Text) : Body :=
  match Json.read (unmarked body) depth with
  | .ok document => description document
  | .error (.malformed _ position) => .ok (.inr (.malformedBody position))
  | .error _ => .ok (.inr .unreadableBody)

/-- What a body comes to.  It may arrive in any encoding; halves of surrogate pairs do
not stand alone in it. -/
def readBody (depth : Json.Depth) (body : Text) : Body :=
  if body.isEmpty then refusal (refuse .missing [] .null)
  else
    match Encoding.decode? body with
    | some content => readText depth content.withoutHalves
    | none => .ok (.inr .unreadableBody)

/-! ## Answers -/

/-- Whether an answer can repeat an event. -/
def isRepeatable (event : Event) : Bool :=
  event.times.all LooseText.isText && (event.description.getD []).isText

/-- The answer that an event comes to. -/
def respond (now : Instant) (description : LooseText) (event : Event) : Result Response := do
  let objections ← event.verdict now
  if description.isText && isRepeatable event then return .event event objections
  else throw .unwritableAnswer

/-- Answer a request to read a description.  A description that is no text is read as the
text with other characters in place of its halves, but cannot be repeated. -/
def answerReading (recognizer : Recognizer) (now : Instant) (client : Option Client)
    (depth : Json.Depth) (body : Text) : Ruling Response :=
  match readBody depth body with
  | .error fault => ⟨.error fault, client, []⟩
  | .ok (.inr response) => ⟨.ok response, client, []⟩
  | .ok (.inl description) =>
      let text := description.withoutHalves
      if text.isAllBlank then ⟨.ok .blankDescription, client, []⟩
      else
        let ruling := Arbiter.read recognizer text now.moment client
        { outcome := ruling.outcome.bind (respond now description)
          client := ruling.client
          notices := ruling.notices }

/-- Answer a request. -/
def answer (recognizer : Recognizer) (now : Instant) (client : Option Client)
    (request : Request) : Ruling Response :=
  match route? request.path with
  | none => ⟨.ok .notFound, client, []⟩
  | some route =>
      if route.takes request.method then
        match route with
        | .health => ⟨.ok .healthy, client, []⟩
        | .reading => answerReading recognizer now client request.depth request.body
      else ⟨.ok .otherMethod, client, []⟩

end Rendezvous.Service
