import Rendezvous.Assistant.Question
import Rendezvous.Json.Read

/-!
Contract: the assistant as far as it can be observed.

Owns: `Client`, which answers from a queue of replies and keeps the questions it was
asked.  The last reply stays in the queue and is given again and again; an empty queue
gives no text.
-/

namespace Rendezvous

/-- What an assistant gives back: a text, no text, or a failure of some kind.  A failure is an
exception of the ordinary kinds, a subclass of `Exception`; that asking is cancelled is none of
them, and no answer. -/
inductive Answer where
  | content (text : Option Text)
  | failure (kind : Text)
deriving DecidableEq, Repr

/-- An assistant with the answers it will give and the questions it was asked.  Its answers are
read to a depth. -/
structure Client where
  available : Bool
  answers : List Answer
  asked : List Question
  depth : Json.Depth := .usual
deriving DecidableEq

namespace Client

/-- An assistant that cannot be asked. -/
def unavailable : Client := ⟨false, [], [], .usual⟩

/-- The next answer, and the answers left behind it. -/
def nextAnswer : List Answer → Answer × List Answer
  | [] => (.content none, [])
  | [last] => (last, [last])
  | next :: others => (next, others)

/-- Ask a question. -/
def ask (client : Client) (question : Question) : Answer × Client :=
  let (answer, left) := nextAnswer client.answers
  (answer, { client with answers := left, asked := client.asked ++ [question] })

/-- Add answers behind those in the queue. -/
def push (client : Client) (answers : List Answer) : Client :=
  { client with answers := client.answers ++ answers }

/-- Let an assistant be asked or not. -/
def setAvailable (client : Client) (available : Bool) : Client :=
  { client with available := available }

/-- How often an assistant was asked. -/
def calls (client : Client) : Nat :=
  client.asked.length

end Client

end Rendezvous
