import Rendezvous.Proofs.Arbitration
import Rendezvous.Proofs.Calendar.Day
import Rendezvous.Proofs.Recognizer.Mention
import Rendezvous.Proofs.Result
import Rendezvous.Proofs.Text.Loose

/-!
Contract: what the events have in common that are read off descriptions, with or without an
assistant.

Owns:
- `Draft.exists_times`: whatever a draft is read by, its times are those of a list of mentions;
- `Event.IsReading`, the form of the lists of an event, and its origin;
- `Event.ofText_isReading` and `Arbiter.read_isReading`.
-/

namespace Rendezvous

/-! ## Drafts -/

theorem Phrase.draftOf_times {phrase : Phrase} {recognizer : Recognizer} {text : Text}
    {found : Pattern.Match Part} {now : Moment} {days : List Day} {draft : Draft}
    (isDraft : phrase.draftOf recognizer text found now days = .ok draft) :
    ∃ mentions, draft.times = Mention.times mentions := by
  obtain ⟨times, areTimes, rest⟩ := (Result.bind_eq_ok_iff _ _ _).1 isDraft
  obtain ⟨mentions, -, same⟩ := (Result.bind_eq_ok_iff _ _ _).1 areTimes
  obtain rfl := Except.ok.inj rest
  exact ⟨mentions, (Except.ok.inj same).symm⟩

theorem Draft.ofMentions_times {recognizer : Recognizer} {text : Text} {now : Moment}
    {draft : Draft} (isDraft : ofMentions recognizer text now = .ok draft) :
    ∃ mentions, draft.times = Mention.times mentions := by
  obtain ⟨mentions, -, rest⟩ := (Result.bind_eq_ok_iff _ _ _).1 isDraft
  dsimp only at rest
  split at rest
  next =>
    obtain rfl := Except.ok.inj rest
    exact ⟨[], rfl⟩
  next =>
    obtain rfl := Except.ok.inj rest
    exact ⟨_, Mention.gather_times _⟩

theorem Draft.exists_times {recognizer : Recognizer} {text : Text} {now : Moment} {draft : Draft}
    (isDraft : ofText recognizer text now = .ok draft) :
    ∃ mentions, draft.times = Mention.times mentions := by
  unfold ofText at isDraft
  split at isDraft
  next phrase found _ =>
    obtain ⟨days, -, rest⟩ := (Result.bind_eq_ok_iff _ _ _).1 isDraft
    exact Phrase.draftOf_times rest
  next => exact ofMentions_times isDraft

/-! ## Events -/

namespace Event

/-- An event as it comes from a description. -/
structure IsReading (recognizer : Recognizer) (text : Text) (now : Moment)
    (client : Option Client) (event : Event) : Prop where
  ascends : event.days.Pairwise (· < ·)
  timesNodup : event.times.Nodup
  raw : event.raw = text
  origin : ofText recognizer text now = .ok event ∨ Arbiter.Offers text now client event
  /-- Without help, only times on a twelve-hour clock are read. -/
  clockTimes : ofText recognizer text now = .ok event →
    ∀ shown ∈ event.times, ∃ clockText, IsClockText clockText ∧ shown = clockText.loose

section Reading

variable {recognizer : Recognizer} {text : Text} {now : Moment} {event : Event}

/-- The event of a description is that of its draft. -/
theorem exists_draft (isRead : ofText recognizer text now = .ok event) :
    ∃ draft, Draft.ofText recognizer text now = .ok draft ∧ event = ofDraft draft text := by
  obtain ⟨draft, isDraft, same⟩ := (Result.bind_eq_ok_iff _ _ _).1 isRead
  exact ⟨draft, isDraft, (Except.ok.inj same).symm⟩

theorem clockTimes_of_ofText (isRead : ofText recognizer text now = .ok event) :
    ∀ shown ∈ event.times, ∃ clockText, IsClockText clockText ∧ shown = clockText.loose := by
  obtain ⟨draft, isDraft, rfl⟩ := exists_draft isRead
  obtain ⟨mentions, areTimes⟩ := Draft.exists_times isDraft
  intro shown member
  obtain ⟨clockText, isTime, rfl⟩ := List.mem_map.1 member
  exact ⟨clockText, Mention.times_isClockText (areTimes ▸ isTime), rfl⟩

theorem ofText_isReading (isRead : ofText recognizer text now = .ok event)
    (client : Option Client) : event.IsReading recognizer text now client := by
  obtain ⟨draft, isDraft, same⟩ := exists_draft isRead
  obtain ⟨mentions, areTimes⟩ := Draft.exists_times isDraft
  refine ⟨?_, ?_, ?_, Or.inl isRead, clockTimes_of_ofText⟩
  · rw [same]
    exact Day.sorted_pairwise draft.days
  · have nodup : draft.times.Nodup := areTimes ▸ Mention.times_nodup mentions
    rw [same]
    exact nodup.map fun _ _ => Text.loose_injective
  · rw [same, ofDraft]

end Reading

theorem ofProposal_isReading {text : Text} {now : Moment} {client : Option Client} {event : Event}
    (recognizer : Recognizer) (offered : Arbiter.Offers text now client event) :
    event.IsReading recognizer text now client := by
  have ⟨proposal, _, _, isEvent⟩ := offered
  obtain ⟨days, areDays, same⟩ := (Result.bind_eq_ok_iff _ _ _).1 isEvent
  obtain ⟨spans, -, areSorted⟩ := (Result.bind_eq_ok_iff _ _ _).1 areDays
  obtain rfl := Except.ok.inj areSorted
  obtain rfl := Except.ok.inj same
  exact {
    ascends := Day.sorted_pairwise spans.flatten
    timesNodup := distinct_nodup _
    raw := rfl
    origin := Or.inr offered
    clockTimes := clockTimes_of_ofText }

end Event

/-! ## The arbiter -/

namespace Arbiter

variable {recognizer : Recognizer} {text : Text} {now : Moment} {client : Option Client}
  {event : Event}

theorem read_isReading (isRead : (read recognizer text now client).outcome = .ok event) :
    event.IsReading recognizer text now client := by
  have decides := decides_read recognizer text now client
  rw [isRead] at decides
  generalize (read recognizer text now client).client = left at decides
  cases decides with
  | trusted isLocal _ => exact Event.ofText_isReading isLocal client
  | unassisted isLocal _ => exact Event.ofText_isReading isLocal client
  | adopted _ _ offered => exact Event.ofProposal_isReading recognizer offered
  | declined isLocal _ _ _ => exact Event.ofText_isReading isLocal _

theorem readByDefault_isReading
    (isRead : (readByDefault recognizer text now client).outcome = .ok event) :
    event.IsReading recognizer text now (some (client.getD .unavailable)) := by
  cases client with
  | none => exact read_isReading isRead
  | some assistant => exact read_isReading isRead

end Arbiter

end Rendezvous
