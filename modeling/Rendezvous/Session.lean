import Rendezvous.Arbiter
import Rendezvous.Event.Validation

/-!
Contract: a series of requests to one arbiter.

Owns:
- `Session`, the assistant, whether the arbiter may ask it, and the latest event;
- `Session.Step`, what can be done in a session, and `Session.Outcome`, what comes of it;
- `Session.perform` for one step and `Session.run` for a series of steps.

The latest event is the one that the last request for an event or a proposal came to.
There is none if that request had a fault or asked for a proposal.
-/

namespace Rendezvous

/-- The state between two requests. -/
structure Session where
  recognizer : Recognizer
  client : Option Client
  attached : Bool
  latest : Option Event

namespace Session

/-- A session at its beginning. -/
def start (recognizer : Recognizer) (client : Option Client) : Session :=
  ⟨recognizer, client, true, none⟩

/-- What can be done in a session. -/
inductive Step where
  | read (text : Text) (now : Moment)
  | propose (text : Text) (now : Moment)
  | validate (now : Instant)
  | confidence
  | labels
  | setAvailable (available : Bool)
  | push (answers : List Answer)
  | detach
  | attach

/-- What comes of a step. -/
inductive Outcome where
  | nothing
  | event (event : Event)
  | proposal (proposal : Option Proposal)
  | verdict (objections : List Objection)
  | confidence (value : Binary64)
  | labels (labels : List Text)
  | fault (fault : Fault)

/-- What is reported of a step: its outcome, the number of questions that the assistant
was asked so far, and what was noted. -/
structure Report where
  outcome : Outcome
  calls : Nat
  notices : List Notice

/-- The assistant that the arbiter may ask. -/
def assistant? (session : Session) : Option Client :=
  if session.attached then session.client else none

/-- The assistant as it is after a request to the arbiter. -/
def withAssistant (session : Session) (assistant : Option Client) : Session :=
  if session.attached then { session with client := assistant } else session

/-- The number of questions that the assistant was asked. -/
def calls (session : Session) : Nat :=
  (session.client.map Client.calls).getD 0

/-- Report an outcome about the state reached. -/
def report (session : Session) (outcome : Outcome) (notices : List Notice) : Report × Session :=
  (⟨outcome, session.calls, notices⟩, session)

/-- The outcome of an operation on the latest event, which there has to be. -/
def onLatest (session : Session) (operation : Event → Result Outcome) : Outcome :=
  match session.latest with
  | none => .fault .noLatestEvent
  | some event =>
      match operation event with
      | .ok outcome => outcome
      | .error fault => .fault fault

/-- Read an event. -/
def performRead (session : Session) (text : Text) (now : Moment) : Report × Session :=
  let ruling := Arbiter.read session.recognizer text now session.assistant?
  let after := session.withAssistant ruling.client
  match ruling.outcome with
  | .ok event => { after with latest := some event }.report (.event event) ruling.notices
  | .error fault => { after with latest := none }.report (.fault fault) ruling.notices

/-- Ask for a proposal. -/
def performPropose (session : Session) (text : Text) (now : Moment) : Report × Session :=
  let ruling := Arbiter.propose text now session.assistant?
  let after := { session.withAssistant ruling.client with latest := none }
  match ruling.outcome with
  | .ok proposal => after.report (.proposal proposal) ruling.notices
  | .error fault => after.report (.fault fault) ruling.notices

/-- Perform a step. -/
def perform (session : Session) : Step → Report × Session
  | .read text now => session.performRead text now
  | .propose text now => session.performPropose text now
  | .validate now =>
      session.report (session.onLatest fun event => Outcome.verdict <$> event.verdict now) []
  | .confidence =>
      session.report (session.onLatest fun event => .ok (.confidence event.confidence)) []
  | .labels => session.report (session.onLatest fun event => .ok (.labels event.labels)) []
  | .setAvailable available =>
      { session with client := session.client.map (Client.setAvailable · available) }.report .nothing []
  | .push answers =>
      { session with client := session.client.map (Client.push · answers) }.report .nothing []
  | .detach => { session with attached := false }.report .nothing []
  | .attach => { session with attached := true }.report .nothing []

/-- Perform steps one after the other. -/
def run (session : Session) : List Step → List Report
  | [] => []
  | step :: others =>
      let (report, after) := session.perform step
      report :: after.run others

end Session

end Rendezvous
