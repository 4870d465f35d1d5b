import Rendezvous.Arbiter
import Rendezvous.Proofs.Assistant.LongNumber
import Rendezvous.Proofs.Calendar.Day
import Rendezvous.Proofs.Result

/-!
Contract: when asking an assistant ends in a fault.

Owns:
- `Reply.Unreadable`, replies whose object cannot be read at all;
- `Consultation.Fails`, all that has to come together for a fault;
- `Consultation.outcome_error_iff`: it is exactly then that a consultation has no outcome, and
  the reply shows it by its digits or its opening marks;
- `Consultation.hold_of_ofDigits`, replies with which this happens.

Every other failure of the assistant, and every other reply, is no fault.
-/

namespace Rendezvous

/-! ## Replies -/

namespace Reply

variable {depth : Json.Depth}

/-- A text that cannot be read at all, whatever its grammar, and the fault that this is. -/
inductive Blocks (depth : Json.Depth) (object : Text) : Fault → Prop where
  | tooLong {digits : Nat} (isLong : Json.read object depth = .error (.numeralTooLong digits)) :
      Blocks depth object (.numeralTooLong digits)
  | tooDeep (isDeep : Json.read object depth = .error .nestedTooDeeply) :
      Blocks depth object .nestedTooDeeply

/-- The object in a reply cannot be read at all. -/
def Unreadable (depth : Json.Depth) (reply : Text) (fault : Fault) : Prop :=
  ∃ object, embeddedObject? reply = some object ∧ Blocks depth object fault

/-- What such a reply shows: a long run of digits, or many opening marks. -/
theorem Unreadable.shows {reply : Text} {fault : Fault}
    (unreadable : Unreadable depth reply fault) :
    (∃ digits : Text, digits <:+: reply ∧ (∀ c ∈ digits, Numeral.isAsciiDigit c = true) ∧
      4300 < digits.length) ∨ depth.levels < reply.countP Json.isOpening := by
  obtain ⟨object, isObject, blocks⟩ := unreadable
  have inside := infix_of_embeddedObject? isObject
  cases blocks with
  | tooLong isLong =>
      obtain ⟨digits, inObject, areDigits, rfl, long⟩ := Json.long_of_numeralTooLong isLong
      exact Or.inl ⟨digits, inObject.trans inside, areDigits, long⟩
  | tooDeep isDeep =>
      exact Or.inr (Nat.lt_of_lt_of_le (Json.deep_of_nestedTooDeeply isDeep)
        inside.sublist.countP_le)

theorem readDocument_outcome (document : Json) (fault : Fault) :
    (readDocument document).outcome ≠ .error fault := by
  unfold readDocument
  dsimp only
  split
  next => exact Result.ok_ne_error _ fault
  next => exact Result.ok_ne_error _ fault

theorem readObject_error_iff (object : Text) (fault : Fault) :
    (readObject depth object).outcome = .error fault ↔ Blocks depth object fault := by
  unfold readObject
  constructor
  · intro failed
    split at failed
    next document _ => exact absurd failed (readDocument_outcome document fault)
    next => contradiction
    next digits isLong =>
      obtain rfl := Except.error.inj failed
      exact .tooLong isLong
    next isDeep =>
      obtain rfl := Except.error.inj failed
      exact .tooDeep isDeep
  · intro blocks
    cases blocks with
    | tooLong isLong => rw [isLong]
    | tooDeep isDeep => rw [isDeep]

theorem read_error_iff (reply : Text) (fault : Fault) :
    (read depth reply).outcome = .error fault ↔ Unreadable depth reply fault := by
  unfold read
  split
  next isEmpty =>
    obtain rfl := List.isEmpty_iff.1 isEmpty
    constructor
    · intro failed
      contradiction
    · rintro ⟨object, isObject, -⟩
      have noObject : embeddedObject? [] = none := rfl
      rw [noObject] at isObject
      contradiction
  next =>
    constructor
    · intro failed
      split at failed
      next object isObject => exact ⟨object, isObject, (readObject_error_iff object fault).1 failed⟩
      next => contradiction
    · rintro ⟨object, isObject, blocks⟩
      rw [isObject]
      exact (readObject_error_iff object fault).2 blocks

end Reply

/-! ## Questions -/

/-- A question can be put if the calendar has the day ninety days later. -/
theorem Question.ask_cases (description : Text) (today : Day) :
    (today.ordinal + 90 ≤ lastOrdinal ∧ ∃ question, ask description today = .ok question) ∨
    (lastOrdinal < today.ordinal + 90 ∧ ∃ fault, ask description today = .error fault) := by
  rw [ask, instructionsOn, namedDays]
  have first := today.first_le
  by_cases inCalendar : today.ordinal + 90 ≤ lastOrdinal
  · left
    obtain ⟨tomorrow, isTomorrow, -⟩ := today.exists_shift 1 (by omega) (by omega)
    obtain ⟨horizon, isHorizon, -⟩ := today.exists_shift 90 (by omega) (by omega)
    rw [isTomorrow, Result.ok_bind, isHorizon]
    exact ⟨inCalendar, _, rfl⟩
  · right
    have beyond : today.shift 90 = .error .outOfCalendar :=
      (today.shift_eq_error_iff 90 _).2 ⟨rfl, by omega⟩
    refine ⟨by omega, ?_⟩
    cases today.shift 1 with
    | error fault => exact ⟨fault, rfl⟩
    | ok tomorrow =>
        rw [Result.ok_bind, beyond]
        exact ⟨_, rfl⟩

/-! ## Consultations -/

namespace Consultation

/-- A question is put to an assistant that is there, about a description that says something,
on a day of which the instructions can speak. -/
structure IsAsked (text : Text) (today : Day) (client : Client) : Prop where
  available : client.available = true
  described : Question.clean text ≠ []
  inCalendar : today.ordinal + 90 ≤ lastOrdinal

/-- What has to come together for a fault: the assistant is asked, and the object in its
answer cannot be read at all. -/
structure Fails (text : Text) (today : Day) (client : Client) (fault : Fault) : Prop where
  asked : IsAsked text today client
  unreadable : ∃ reply, (Client.nextAnswer client.answers).1 = .content (some reply) ∧
    Reply.Unreadable client.depth reply fault

theorem ofAnswer_error_iff (answer : Answer) (client : Client) (fault : Fault) :
    (ofAnswer answer client).outcome = .error fault ↔
      ∃ reply, answer = .content (some reply) ∧ Reply.Unreadable client.depth reply fault := by
  cases answer with
  | failure kind =>
      constructor
      · intro failed
        contradiction
      · rintro ⟨reply, same, -⟩
        contradiction
  | content text =>
      cases text with
      | none =>
          constructor
          · intro failed
            contradiction
          · rintro ⟨reply, same, -⟩
            cases same
      | some reply =>
          change (Reply.read client.depth reply).outcome = .error fault ↔ _
          rw [Reply.read_error_iff]
          constructor
          · intro unreadable
            exact ⟨reply, rfl, unreadable⟩
          · rintro ⟨other, same, unreadable⟩
            obtain rfl := Option.some.inj (Answer.content.inj same)
            exact unreadable

variable {text : Text} {today : Day} {client : Client}

/-- One question is put, and its answer decides. -/
theorem exists_question (asked : IsAsked text today client) :
    ∃ question, Question.ask (Question.clean text) today = .ok question ∧
      hold text today client = ofAnswer (client.ask question).1 (client.ask question).2 := by
  have notAbsent : ¬ (!client.available) = true := by simp [asked.available]
  have notEmpty : ¬ (Question.clean text).isEmpty = true := by simpa using asked.described
  rcases Question.ask_cases (Question.clean text) today with ⟨-, question, isQuestion⟩ | ⟨beyond, -⟩
  · refine ⟨question, isQuestion, ?_⟩
    unfold hold
    rw [if_neg notAbsent, if_neg notEmpty, isQuestion]
  · have := asked.inCalendar
    omega

/-- Once a question is put, its answer decides. -/
theorem hold_of_asked (asked : IsAsked text today client) :
    ∃ left : Client, left.depth = client.depth ∧ (hold text today client).outcome =
      (ofAnswer (Client.nextAnswer client.answers).1 left).outcome := by
  obtain ⟨question, -, held⟩ := exists_question asked
  exact ⟨(client.ask question).2, rfl, congrArg outcome held⟩

/-- Without a question there is but a notice. -/
theorem exists_notice (unasked : ¬ IsAsked text today client) :
    ∃ notice, hold text today client = without client notice := by
  unfold hold
  split
  next => exact ⟨.assistantAbsent, rfl⟩
  next present =>
    dsimp only
    split
    next => exact ⟨.emptyQuestion, rfl⟩
    next someText =>
      rcases Question.ask_cases (Question.clean text) today with
        ⟨inCalendar, -⟩ | ⟨-, fault, refused⟩
      · have available : client.available = true := by simpa using present
        have described : Question.clean text ≠ [] := by simpa using someText
        exact absurd ⟨available, described, inCalendar⟩ unasked
      · rw [refused]
        exact ⟨.askingFailed fault.kind, rfl⟩

/-- Without a question there is no proposal, and no fault either. -/
theorem hold_of_unasked (unasked : ¬ IsAsked text today client) :
    (hold text today client).outcome = .ok none := by
  obtain ⟨notice, held⟩ := exists_notice unasked
  rw [held, without]

theorem hold_error_iff (text : Text) (today : Day) (client : Client) (fault : Fault) :
    (hold text today client).outcome = .error fault ↔ Fails text today client fault := by
  by_cases asked : IsAsked text today client
  · obtain ⟨left, sameDepth, decided⟩ := hold_of_asked asked
    rw [decided, ofAnswer_error_iff, sameDepth]
    exact ⟨fun unreadable => ⟨asked, unreadable⟩, fun fails => fails.unreadable⟩
  · rw [hold_of_unasked asked]
    exact iff_of_false (Result.ok_ne_error none fault) fun fails => asked fails.asked

/-- Asking ends in a fault exactly where the object in the answer cannot be read at all, and
then the answer has too many digits in a row or too many opening marks. -/
theorem outcome_error_iff (text : Text) (today : Day) (client : Client) (fault : Fault) :
    ((hold text today client).outcome = .error fault ↔ Fails text today client fault) ∧
    (∀ clock, (Arbiter.propose text ⟨today, clock⟩ (some client)).outcome = .error fault ↔
      Fails text today client fault) ∧
    (∀ now, (Arbiter.propose text now none).outcome = .ok none) ∧
    (Fails text today client fault →
      ∃ reply, (Client.nextAnswer client.answers).1 = .content (some reply) ∧
        ((∃ digits : Text, digits <:+: reply ∧
            (∀ c ∈ digits, Numeral.isAsciiDigit c = true) ∧ 4300 < digits.length) ∨
          client.depth.levels < reply.countP Json.isOpening)) := by
  refine ⟨hold_error_iff text today client fault, fun clock => ?_, fun now => rfl, fun fails => ?_⟩
  · exact hold_error_iff text today client fault
  · obtain ⟨reply, isReply, unreadable⟩ := fails.unreadable
    exact ⟨reply, isReply, unreadable.shows⟩

/-- A reply with a whole number that is too long is such an answer. -/
theorem hold_of_ofDigits {digits : Text} {others : List Answer}
    (asked : IsAsked text today client) (isLong : Json.IsLong digits)
    (isNext : client.answers = .content (some (Reply.ofDigits digits)) :: others) :
    (hold text today client).outcome = .error (.numeralTooLong digits.length) := by
  rw [hold_error_iff]
  refine ⟨asked, Reply.ofDigits digits, ?_, Reply.ofDigits digits,
    Reply.embeddedObject?_ofDigits isLong.areDigits,
    .tooLong (Json.read_ofDigits client.depth isLong)⟩
  rw [isNext]
  cases others <;> rfl

/-- On 15 January 2025 a reply with a number of 4301 digits ends in a fault. -/
theorem hold_of_longTitle :
    (hold "dinner".toList ⟨739266, by decide, by decide⟩
      ⟨true, [.content (some (Reply.ofDigits (List.replicate 4301 '1')))], [], .usual⟩).outcome =
      .error (.numeralTooLong 4301) := by
  have isLong : Json.IsLong (List.replicate 4301 '1') := {
    areDigits := by
      intro c member
      rw [List.eq_of_mem_replicate member]
      rfl
    noZero := by
      rw [List.head?_replicate]
      decide
    long := by
      rw [List.length_replicate]
      decide }
  have asked : IsAsked "dinner".toList ⟨739266, by decide, by decide⟩
      ⟨true, [.content (some (Reply.ofDigits (List.replicate 4301 '1')))], [], .usual⟩ :=
    ⟨rfl, by decide, by decide⟩
  have failed := hold_of_ofDigits asked isLong rfl
  rw [List.length_replicate] at failed
  exact failed

end Consultation

end Rendezvous
