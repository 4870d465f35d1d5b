import Mathlib.Data.List.MinMax
import Rendezvous.Proofs.Assistant.Proposing
import Rendezvous.Proofs.Proposal.Accepted
import Rendezvous.Proofs.Proposal.Days

/-!
Contract: a proposal that is accepted is sound, and its days stay within its spans.

Owns: `Proposal.days_within_spans`, for the documents that texts write, and what it needs of lists of
spans: the earliest and the latest of them.
-/

namespace Rendezvous

namespace DateSpan

theorem Covers.within {span : DateSpan} {day : Day} (covers : span.Covers day)
    (ordered : span.start ≤ span.stop) : span.start ≤ day ∧ day ≤ span.stop := by
  cases covers with
  | first => exact ⟨Nat.le_refl _, ordered⟩
  | selected _ afterStart beforeStop _ => exact ⟨afterStart, beforeStop⟩

/-- Among several spans one begins first and one ends last. -/
theorem exists_outermost {spans : List DateSpan} (someSpan : spans ≠ []) :
    ∃ earliest ∈ spans, ∃ latest ∈ spans,
      ∀ span ∈ spans, earliest.start ≤ span.start ∧ span.stop ≤ latest.stop := by
  obtain ⟨earliest, isEarliest⟩ :=
    Option.ne_none_iff_exists'.1 (mt List.argmin_eq_none.1 someSpan :
      spans.argmin (fun span => span.start.ordinal) ≠ none)
  obtain ⟨latest, isLatest⟩ :=
    Option.ne_none_iff_exists'.1 (mt List.argmax_eq_none.1 someSpan :
      spans.argmax (fun span => span.stop.ordinal) ≠ none)
  exact ⟨earliest, List.argmin_mem isEarliest, latest, List.argmax_mem isLatest, fun span isSpan =>
    ⟨List.le_of_mem_argmin isSpan isEarliest, List.le_of_mem_argmax isSpan isLatest⟩⟩

end DateSpan

namespace Proposal

/-- Whatever a text writes that is accepted: the title is not empty and has no blanks around it,
there are spans, and they are sound.  Their days are not known exactly if a span has weekdays up
to the last day of the calendar, and else they lie between the first and the last day of all. -/
theorem days_within_spans (proposal : Proposal) :
    ∀ text depth document, Json.read text depth = .ok document → ofJson document = .ok proposal →
      (proposal.title ≠ [] ∧ proposal.title.IsTrimmed) ∧
      (proposal.spans ≠ [] ∧ ∀ span ∈ proposal.spans, span.IsSound) ∧
      (∀ fault, DateSpan.daysOfAll proposal.spans = .error fault ↔ fault = .outOfCalendar ∧
        ∃ span ∈ proposal.spans, span.weekdays.getD [] ≠ [] ∧ span.stop = .last) ∧
      ∃ earliest ∈ proposal.spans, ∃ latest ∈ proposal.spans,
        (∀ span ∈ proposal.spans, earliest.start ≤ span.start ∧ span.stop ≤ latest.stop) ∧
        ∀ days, DateSpan.daysOfAll proposal.spans = .ok days →
          ∀ day ∈ days, earliest.start ≤ day ∧ day ≤ latest.stop := by
  intro text depth document _ isRead
  obtain ⟨someSpan, sound⟩ := spans_of_ofJson isRead
  obtain ⟨earliest, isEarliest, latest, isLatest, outermost⟩ :=
    DateSpan.exists_outermost someSpan
  refine ⟨title_of_ofJson isRead, ⟨someSpan, sound⟩, DateSpan.daysOfAll_eq_error_iff _,
    earliest, isEarliest, latest, isLatest, outermost, ?_⟩
  intro days areDays day isDay
  obtain ⟨span, isSpan, covers⟩ := (DateSpan.mem_daysOfAll areDays day).1 isDay
  obtain ⟨fromStart, toStop⟩ := covers.within (sound span isSpan).ordered
  obtain ⟨fromEarliest, toLatest⟩ := outermost span isSpan
  exact ⟨Nat.le_trans fromEarliest fromStart, Nat.le_trans toStop toLatest⟩

/-- A document with blanks around the title, a span without weekdays up to the last day of the
calendar, and a weekend. -/
def teaDocument : Text :=
  ("\x7b\"title\":\"  Tea \\n\",\"date_ranges\":[" ++
    "\x7b\"start\":\"2025-01-15\",\"end\":\"9999-12-31\"\x7d," ++
    "\x7b\"start\":\"2025-01-17\",\"end\":\"2025-01-19\",\"days_of_week\":[0,\"6\"]\x7d]\x7d").toList

/-- What that document stands for. -/
def tea : Proposal :=
  ⟨"Tea".toList,
    [⟨.january15, .last, none, none⟩,
      ⟨⟨739268, by decide, by decide⟩, ⟨739270, by decide, by decide⟩, some [0, 6], none⟩],
    none, .ofInt 0⟩

def teaDays : List Day :=
  [.january15, ⟨739269, by decide, by decide⟩, ⟨739270, by decide, by decide⟩]

theorem days_within_spans_tea :
    (∃ document, Json.read teaDocument = .ok document ∧ ofJson document = .ok tea) ∧
    DateSpan.daysOfAll tea.spans = .ok teaDays ∧
    tea.title.IsTrimmed ∧ (∀ span ∈ tea.spans, span.IsSound) ∧
    ∃ earliest ∈ tea.spans, ∃ latest ∈ tea.spans,
      ∀ day ∈ teaDays, earliest.start ≤ day ∧ day ≤ latest.stop := by
  have isRead : (Reply.readObject .usual teaDocument).outcome = .ok (some tea) := by
    decide +kernel
  have areDays : DateSpan.daysOfAll tea.spans = .ok teaDays := by
    have listed : tea.spans.mapM DateSpan.days = .ok [teaDays.take 1, teaDays.drop 1] := by
      decide +kernel
    rw [DateSpan.daysOfAll, listed]
    exact congrArg Except.ok (Day.sorted_eq_self teaDays (by decide))
  obtain ⟨document, isDocument, isTea⟩ := (Reply.readObject_some_iff _).1 isRead
  obtain ⟨⟨-, isTrimmed⟩, ⟨-, sound⟩, -, earliest, isEarliest, latest, isLatest, -, within⟩ :=
    days_within_spans tea teaDocument .usual document isDocument isTea
  exact ⟨⟨document, isDocument, isTea⟩, areDays, isTrimmed, sound,
    earliest, isEarliest, latest, isLatest, within teaDays areDays⟩

end Proposal

end Rendezvous
