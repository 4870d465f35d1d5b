import Rendezvous.Assistant.Client
import Rendezvous.Assistant.Reply

/-!
Contract: asking an assistant what event a description means.

Owns: `Consultation.hold`, which asks at most one question and takes every failure of
the assistant, and every reply without a proposal, as no proposal.  All of these but an
empty reply are noted.

The question is built before it is asked, so days so late that the instructions cannot
name the days behind them count as a failure to ask.
-/

namespace Rendezvous

/-- What comes of asking an assistant. -/
structure Consultation where
  outcome : Result (Option Proposal)
  client : Client
  notices : List Notice

namespace Consultation

/-- No proposal, for a reason that is noted. -/
def without (client : Client) (notice : Notice) : Consultation :=
  ⟨.ok none, client, [notice]⟩

/-- What comes of an answer. -/
def ofAnswer (answer : Answer) (client : Client) : Consultation :=
  match answer with
  | .failure kind => without client (.askingFailed kind)
  | .content reply =>
      let reading := Reply.read client.depth (reply.getD [])
      ⟨reading.outcome, client, reading.notices⟩

/-- Ask an assistant what event a description means. -/
def hold (text : Text) (today : Day) (client : Client) : Consultation :=
  if !client.available then without client .assistantAbsent
  else
    let description := Question.clean text
    if description.isEmpty then without client .emptyQuestion
    else
      match Question.ask description today with
      | .error fault => without client (.askingFailed fault.kind)
      | .ok question =>
          let (answer, asked) := client.ask question
          ofAnswer answer asked

end Consultation

end Rendezvous
