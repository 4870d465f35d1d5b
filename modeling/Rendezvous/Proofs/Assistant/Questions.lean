import Rendezvous.Proofs.Assistant.Consultation

/-!
Contract: which question is put to an assistant, and when.

Owns:
- `Question.IsAbout`, the day, the message and the instructions of the question about a text;
- `Consultation.exists_asked` and `Consultation.client_of_unasked`: one question of this kind is
  put, or the assistant stays as it is.
-/

namespace Rendezvous

/-! ## Questions -/

namespace Question

theorem infix_joinLines {line : Text} {written : List Text} (isLine : line ∈ written) :
    line <:+: joinLines written := by
  -- Each line but the last has a line feed behind it, so the last one is a case of its own.
  induction written with
  | nil => contradiction
  | cons first others inductionHypothesis =>
      cases others with
      | nil =>
          obtain rfl := List.mem_singleton.1 isLine
          exact List.infix_rfl
      | cons second further =>
          unfold joinLines
          rcases List.mem_cons.1 isLine with rfl | isLater
          · exact List.infix_append_left
          · apply (inductionHypothesis isLater).trans
            apply List.IsInfix.trans _ List.infix_append_right
            exact (List.suffix_cons _ _).isInfix

/-- The day from which relative dates count stands in the instructions. -/
theorem infix_of_instructionsOn {today : Day} {instructions : Text}
    (areInstructions : instructionsOn today = .ok instructions) :
    "Today's date: ".toList ++ today.iso <:+: instructions := by
  obtain ⟨days, areDays, same⟩ := (Result.bind_eq_ok_iff _ _ _).1 areInstructions
  obtain ⟨tomorrow, -, areNamed⟩ := (Result.bind_eq_ok_iff _ _ _).1 areDays
  obtain ⟨horizon, -, isNamed⟩ := (Result.bind_eq_ok_iff _ _ _).1 areNamed
  rw [← Except.ok.inj same, ← Except.ok.inj isNamed]
  apply infix_joinLines
  apply List.mem_map.2
  refine ⟨[.words "Today's date: ", .today], by decide, ?_⟩
  simp [Piece.render]

/-- A question about a text on a day, with the instructions for that day. -/
structure IsAbout (question : Question) (text : Text) (today : Day) : Prop where
  onDay : question.today = today
  message : question.message = messageOf (clean text)
  instructions : instructionsOn today = .ok question.instructions
  dated : "Today's date: ".toList ++ today.iso <:+: question.instructions

theorem isAbout_of_ask {text : Text} {today : Day} {question : Question}
    (isQuestion : ask (clean text) today = .ok question) : question.IsAbout text today := by
  obtain ⟨instructions, areInstructions, same⟩ := (Result.bind_eq_ok_iff _ _ _).1 isQuestion
  obtain rfl := Except.ok.inj same
  exact ⟨rfl, rfl, areInstructions, infix_of_instructionsOn areInstructions⟩

end Question

/-! ## Consultations -/

namespace Consultation

variable {text : Text} {today : Day} {client : Client}

theorem ofAnswer_client (answer : Answer) (client : Client) :
    (ofAnswer answer client).client = client := by
  cases answer <;> rfl

theorem exists_asked (asked : IsAsked text today client) :
    ∃ question : Question, question.IsAbout text today ∧
      (hold text today client).client.asked = client.asked ++ [question] := by
  obtain ⟨question, isQuestion, held⟩ := exists_question asked
  refine ⟨question, Question.isAbout_of_ask isQuestion, ?_⟩
  rw [held, ofAnswer_client]
  rfl

theorem client_of_unasked (unasked : ¬ IsAsked text today client) :
    (hold text today client).client = client := by
  obtain ⟨notice, held⟩ := exists_notice unasked
  rw [held, without]

end Consultation

end Rendezvous
