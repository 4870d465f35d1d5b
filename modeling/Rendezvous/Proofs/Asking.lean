import Rendezvous.Proofs.Arbitration
import Rendezvous.Proofs.Assistant.Questions

/-!
Contract: about which descriptions the arbiter asks, and how often.

Owns:
- `Arbiter.IsUnsure`, the descriptions about which the arbiter asks if it can, and
  `Arbiter.isUnsure_iff`, what their events lack;
- `Arbiter.client_of_unsure` and `Arbiter.client_of_not_unsure`, what this leaves of the assistant;
- `Arbiter.exists_questions`: one question at most is put about a description.
-/

namespace Rendezvous

namespace Arbiter

/-- The confidence in the event read without help is less than 0.85. -/
def IsUnsure (recognizer : Recognizer) (text : Text) (now : Moment) : Prop :=
  ∃ localEvent, Event.ofText recognizer text now = .ok localEvent ∧
    localEvent.confidence.less (.ofDecimal false 85 (-2)) = true

variable {recognizer : Recognizer} {text : Text} {now : Moment} {client : Option Client}

/-- The arbiter is unsure of events without days and of those without a fitting title. -/
theorem isUnsure_iff :
    IsUnsure recognizer text now ↔
      ∃ localEvent, Event.ofText recognizer text now = .ok localEvent ∧
        ¬ (localEvent.days ≠ [] ∧ localEvent.hasFittingTitle = true) := by
  simp only [IsUnsure, Event.confidence_less_iff, ← Event.confidence_atLeast_iff,
    Bool.not_eq_true]

theorem not_isUnsure_of_sure {localEvent : Event}
    (isRead : Event.ofText recognizer text now = .ok localEvent)
    (sure : localEvent.confidence.atLeast (.ofDecimal false 85 (-2)) = true) :
    ¬ IsUnsure recognizer text now := by
  rintro ⟨other, isOther, unsure⟩
  obtain rfl := Except.ok.inj (isRead.symm.trans isOther)
  rw [Event.confidence_less_iff, sure] at unsure
  contradiction

theorem client_of_unsure (unsure : IsUnsure recognizer text now) :
    (read recognizer text now client).client = (propose text now client).client := by
  have decides := decides_read recognizer text now client
  generalize (read recognizer text now client).outcome = outcome at decides
  generalize (read recognizer text now client).client = left at decides ⊢
  cases decides with
  | unreadable failed =>
      obtain ⟨localEvent, isRead, -⟩ := unsure
      rw [failed] at isRead
      contradiction
  | trusted isRead sure => exact absurd unsure (not_isUnsure_of_sure isRead sure)
  | unassisted isRead alone =>
      subst alone
      rfl
  | adopted isRead unsure offered => rfl
  | declined isRead unsure assisted noOffer => rfl

theorem client_of_not_unsure (sure : ¬ IsUnsure recognizer text now) :
    (read recognizer text now client).client = client := by
  have decides := decides_read recognizer text now client
  generalize (read recognizer text now client).outcome = outcome at decides
  generalize (read recognizer text now client).client = left at decides ⊢
  cases decides with
  | unreadable failed => rfl
  | trusted isRead sure => rfl
  | unassisted isRead alone => rfl
  | adopted isRead unsure offered =>
      exact absurd ⟨_, isRead, (Event.confidence_less_iff _).2 unsure⟩ sure
  | declined isRead unsure assisted noOffer =>
      exact absurd ⟨_, isRead, (Event.confidence_less_iff _).2 unsure⟩ sure

/-! ### Questions -/

/-- The questions that an assistant was asked, if there is one. -/
def questionsOf (client : Option Client) : List Question :=
  (client.map Client.asked).getD []

theorem exists_questions_propose (text : Text) (now : Moment) (client : Option Client) :
    ∃ asked : List Question, asked.length ≤ 1 ∧
      questionsOf (propose text now client).client = questionsOf client ++ asked := by
  cases client with
  | none => exact ⟨[], Nat.zero_le _, rfl⟩
  | some assistant =>
      by_cases asks : Consultation.IsAsked text now.day assistant
      · obtain ⟨question, -, areQuestions⟩ := Consultation.exists_asked asks
        exact ⟨[question], Nat.le_refl _, areQuestions⟩
      · have same := Consultation.client_of_unasked asks
        exact ⟨[], Nat.zero_le _, by simp [propose, same]⟩

/-- Reading a description takes one question at most. -/
theorem exists_questions (recognizer : Recognizer) (text : Text) (now : Moment)
    (client : Option Client) :
    ∃ asked : List Question, asked.length ≤ 1 ∧
      questionsOf (read recognizer text now client).client = questionsOf client ++ asked := by
  by_cases unsure : IsUnsure recognizer text now
  · rw [client_of_unsure unsure]
    exact exists_questions_propose text now client
  · rw [client_of_not_unsure unsure]
    exact ⟨[], Nat.zero_le _, (List.append_nil _).symm⟩

end Arbiter

end Rendezvous
