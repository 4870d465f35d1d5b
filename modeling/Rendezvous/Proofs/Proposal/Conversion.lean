import Rendezvous.Proofs.Distinct
import Rendezvous.Proofs.Proposal.Union

/-!
Contract: the event of a proposal has all that the proposal says, and says nothing twice.

Owns:
- `DateSpan.mem_writtenTimes`, and that each time keeps its first place among those written;
- `Event.ofProposal_conserves`.
-/

namespace Rendezvous

namespace DateSpan

theorem mem_writtenTimes (spans : List DateSpan) (time : LooseText) :
    time ∈ writtenTimes spans ↔
      ∃ span ∈ spans, ∃ times, span.times = some times ∧ time ∈ times := by
  rw [writtenTimes, List.mem_flatMap]
  refine exists_congr fun span => and_congr_right fun _ => ?_
  cases span.times with
  | none => simp
  | some times => simp

theorem timesOfAll_keepsFirsts (spans : List DateSpan) :
    KeepsFirsts (writtenTimes spans) (timesOfAll spans) :=
  distinct_keepsFirsts (writtenTimes spans)

end DateSpan

namespace Event

open DateSpan

theorem exists_ofProposal {proposal : Proposal} (inCalendar : InCalendar proposal.spans)
    (raw : Text) :
    ∃ days, daysOfAll proposal.spans = .ok days ∧
      ofProposal proposal raw = .ok {
        title := proposal.title
        days := days
        times := timesOfAll proposal.spans
        description := some (proposal.description.getD [])
        raw := raw } := by
  obtain ⟨days, areDays⟩ := exists_daysOfAll_iff.2 inCalendar
  refine ⟨days, areDays, ?_⟩
  rw [ofProposal, areDays, Result.ok_bind, Result.pure_eq_ok]

/-- The event of a proposal whose days are known has its title and its days, and its description,
which is empty where there is none.  Its times are those of all spans, each once and in the order
in which they are written first. -/
theorem ofProposal_conserves (proposal : Proposal) (raw : Text)
    (inCalendar : InCalendar proposal.spans) :
    ∃ event, ofProposal proposal raw = .ok event ∧
      event.title = proposal.title ∧ event.raw = raw ∧
      daysOfAll proposal.spans = .ok event.days ∧
      (proposal.description = none → event.description = some []) ∧
      (∀ description, proposal.description = some description →
        event.description = some description) ∧
      (∀ time, time ∈ event.times ↔
        ∃ span ∈ proposal.spans, ∃ times, span.times = some times ∧ time ∈ times) ∧
      event.times.Nodup ∧
      ∀ left ∈ event.times, ∀ right ∈ event.times,
        (firstPlace event.times left < firstPlace event.times right ↔
          firstPlace (writtenTimes proposal.spans) left <
            firstPlace (writtenTimes proposal.spans) right) := by
  obtain ⟨days, areDays, isEvent⟩ := exists_ofProposal inCalendar raw
  have keeps := timesOfAll_keepsFirsts proposal.spans
  refine ⟨_, isEvent, rfl, rfl, areDays, ?_, ?_, ?_, distinct_nodup _, ?_⟩
  · intro absent
    simp only [absent, Option.getD_none]
  · intro description isWritten
    simp only [isWritten, Option.getD_some]
  · intro time
    rw [keeps.mem_iff, mem_writtenTimes]
  · intro left isLeft right isRight
    exact keeps.firstPlace_lt_iff isLeft isRight

/-- Two times for dinner. -/
def sevenOClock : LooseText := Text.loose "7:00 PM".toList

def halfPastEight : LooseText := Text.loose "8:30 PM".toList

/-- A dinner on one day at seven, or on another at seven or half past eight. -/
def twoDinners : Proposal where
  title := "Dinner".toList
  spans := [⟨.january15, .january15, none, some [sevenOClock]⟩,
    ⟨.first, .first, some [1], some [halfPastEight, sevenOClock]⟩,
    ⟨.first, .january15, none, none⟩]
  description := none
  confidence := .ofDecimal false 9 (-1)

/-- Seven comes first, as it is written first, and comes once. -/
theorem ofProposal_conserves_twoDinners :
    InCalendar twoDinners.spans ∧
    ∃ event, ofProposal twoDinners "dinner".toList = .ok event ∧
      event.description = some [] ∧ event.times.Nodup ∧
      firstPlace event.times sevenOClock < firstPlace event.times halfPastEight := by
  have inCalendar : InCalendar twoDinners.spans := by decide
  obtain ⟨event, isEvent, -, -, -, empty, -, isTime, nodup, ordered⟩ :=
    ofProposal_conserves twoDinners "dinner".toList inCalendar
  refine ⟨inCalendar, event, isEvent, empty rfl, nodup, ?_⟩
  have isSeven : sevenOClock ∈ event.times :=
    (isTime _).2 ⟨_, List.mem_cons_self, _, rfl, List.mem_cons_self⟩
  have isHalfPast : halfPastEight ∈ event.times :=
    (isTime _).2 ⟨_, List.mem_cons_of_mem _ List.mem_cons_self, _, rfl, List.mem_cons_self⟩
  exact (ordered _ isSeven _ isHalfPast).2 (by decide)

end Event

end Rendezvous
