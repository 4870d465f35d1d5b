import Rendezvous.Assistant.Completion
import Rendezvous.Proofs.Assistant.Consultation

/-!
Contract: when an assistant brings no proposal and nothing is noted about it.

Owns:
- `Answer.SaysNothing`, answers without a text or with an empty one;
- `Reply.read_silent_iff` and `Consultation.silent_iff`: these answers are the only reason for no
  proposal that a consultation does not note;
- `Completion.Access.notices_ne_nil`: a service that gives no text has noted why.
-/

namespace Rendezvous

/-- No text, or an empty one. -/
def Answer.SaysNothing (answer : Answer) : Prop :=
  answer = .content none ∨ answer = .content (some [])

/-! ## Replies -/

namespace Reply

/-- A document that is no proposal is noted, behind a confidence that was dropped. -/
theorem notices_of_readDocument {document : Json}
    (declined : (readDocument document).outcome = .ok none) :
    (readDocument document).notices ≠ [] := by
  unfold readDocument at declined ⊢
  dsimp only at declined ⊢
  split at declined
  next => exact absurd (Except.ok.inj declined) (Option.some_ne_none _)
  next => simp

theorem notices_of_readObject {depth : Json.Depth} {object : Text}
    (declined : (readObject depth object).outcome = .ok none) :
    (readObject depth object).notices ≠ [] := by
  unfold readObject at declined ⊢
  split at declined
  next => exact notices_of_readDocument declined
  next => exact List.cons_ne_nil _ _
  next => contradiction
  next => contradiction

/-- A reply without a proposal is noted unless it is empty. -/
theorem read_silent_iff (depth : Json.Depth) (reply : Text) :
    (read depth reply).outcome = .ok none ∧ (read depth reply).notices = [] ↔ reply = [] := by
  constructor
  · rintro ⟨declined, silent⟩
    unfold read at declined silent
    split at declined
    next isEmpty => exact List.isEmpty_iff.1 isEmpty
    next someReply =>
      rw [if_neg someReply] at silent
      cases isObject : embeddedObject? reply with
      | none =>
          rw [isObject] at silent
          contradiction
      | some object =>
          rw [isObject] at declined silent
          exact absurd silent (notices_of_readObject declined)
  · rintro rfl
    exact ⟨rfl, rfl⟩

end Reply

/-! ## Services -/

namespace Completion

theorem Response.notices_of_read {response : Response} (nothing : response.read.1 = none) :
    response.read.2 ≠ [] := by
  cases response with
  | content text =>
      unfold read at nothing ⊢
      dsimp only at nothing ⊢
      split at nothing
      next isEmpty =>
        rw [if_pos isEmpty]
        exact List.cons_ne_nil _ _
      next => contradiction
  | empty | refusal | failure => exact List.cons_ne_nil _ _

/-- A text that a service gives is not empty. -/
theorem Response.ne_nil_of_read {response : Response} {reply : Text}
    (given : response.read.1 = some reply) : reply ≠ [] := by
  cases response with
  | content text =>
      unfold read at given
      dsimp only at given
      split at given
      next => contradiction
      next someText =>
        obtain rfl := Option.some.inj given
        exact List.isEmpty_eq_false_iff.1 (Bool.eq_false_iff.2 someText)
  | empty | refusal | failure => contradiction

variable {access : Access} {instructions message : Text} {response : Response}

/-- A service whose answer says nothing has noted why. -/
theorem Access.notices_ne_nil
    (nothing : (Answer.content (access.exchange instructions message response).result).SaysNothing) :
    (access.exchange instructions message response).notices ≠ [] := by
  unfold exchange at nothing ⊢
  split at nothing
  next available =>
    rw [if_pos available]
    dsimp only at nothing ⊢
    rcases nothing with noText | emptyText
    · exact Response.notices_of_read (Answer.content.inj noText)
    · exact absurd rfl (Response.ne_nil_of_read (Answer.content.inj emptyText))
  next absent =>
    rw [if_neg absent]
    exact List.cons_ne_nil _ _

end Completion

/-! ## Consultations -/

namespace Consultation

theorem ofAnswer_silent_iff (answer : Answer) (client : Client) :
    (ofAnswer answer client).outcome = .ok none ∧ (ofAnswer answer client).notices = [] ↔
      answer.SaysNothing := by
  cases answer with
  | failure kind =>
      refine iff_of_false (fun silent => ?_) (fun nothing => ?_)
      · exact List.cons_ne_nil _ _ silent.2
      · rcases nothing with same | same <;> contradiction
  | content text =>
      cases text with
      | none => exact iff_of_true ⟨rfl, rfl⟩ (Or.inl rfl)
      | some reply =>
          change (Reply.read client.depth reply).outcome = .ok none ∧
            (Reply.read client.depth reply).notices = [] ↔ _
          rw [Reply.read_silent_iff]
          simp [Answer.SaysNothing]

/-- Asking brings no proposal and nothing is noted exactly where a question is put and the answer
says nothing.  If the answer is that of a service, the service has noted why. -/
theorem silent_iff (text : Text) (today : Day) (client : Client) :
    ((hold text today client).outcome = .ok none ∧ (hold text today client).notices = [] ↔
      IsAsked text today client ∧ (Client.nextAnswer client.answers).1.SaysNothing) ∧
    ∀ (access : Completion.Access) (instructions message : Text) (response : Completion.Response),
      let exchange := access.exchange instructions message response
      (Client.nextAnswer client.answers).1 = .content exchange.result →
        (hold text today client).outcome = .ok none →
          exchange.notices ++ (hold text today client).notices ≠ [] := by
  have silent : (hold text today client).outcome = .ok none ∧
      (hold text today client).notices = [] ↔
        IsAsked text today client ∧ (Client.nextAnswer client.answers).1.SaysNothing := by
    by_cases asked : IsAsked text today client
    · obtain ⟨question, -, held⟩ := exists_question asked
      rw [held, ofAnswer_silent_iff]
      exact (and_iff_right asked).symm
    · obtain ⟨notice, held⟩ := exists_notice asked
      rw [held]
      exact iff_of_false (fun none => List.cons_ne_nil _ _ none.2) fun both => asked both.1
  refine ⟨silent, ?_⟩
  intro access instructions message response exchange isAnswer declined noneNoted
  obtain ⟨noneByService, noneHere⟩ := List.append_eq_nil_iff.1 noneNoted
  have nothing := (silent.1 ⟨declined, noneHere⟩).2
  rw [isAnswer] at nothing
  exact Completion.Access.notices_ne_nil nothing noneByService

/-- A service with a key, asked as it is by default. -/
def keyedAccess : Completion.Access where
  key := some "key".toList
  model := Completion.defaultModel
  lengthLimit := Completion.defaultLengthLimit
  patience := Completion.defaultPatience

/-- A completion without a text brings no proposal about "dinner", which the service has noted. -/
theorem silent_iff_noCompletion :
    let exchange := keyedAccess.exchange [] "dinner".toList (.content none)
    let held := hold "dinner".toList .january15 ⟨true, [.content exchange.result], [], .usual⟩
    held.outcome = .ok none ∧ exchange.notices ++ held.notices ≠ [] := by
  intro exchange held
  have declined : held.outcome = .ok none := by decide +kernel
  obtain ⟨-, noted⟩ := silent_iff "dinner".toList .january15
    ⟨true, [.content exchange.result], [], .usual⟩
  exact ⟨declined, noted keyedAccess [] "dinner".toList (.content none) rfl declined⟩

/-- About "dinner" an assistant who gives no text is asked, and nothing is noted. -/
theorem hold_of_noText :
    (hold "dinner".toList .january15 ⟨true, [.content none], [], .usual⟩).outcome = .ok none ∧
      (hold "dinner".toList .january15 ⟨true, [.content none], [], .usual⟩).notices = [] := by
  have asked : IsAsked "dinner".toList .january15 ⟨true, [.content none], [], .usual⟩ :=
    ⟨rfl, by decide, by decide⟩
  obtain ⟨question, -, held⟩ := exists_question asked
  rw [held]
  exact ⟨rfl, rfl⟩

end Consultation

end Rendezvous
