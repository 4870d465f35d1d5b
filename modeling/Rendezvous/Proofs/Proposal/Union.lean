import Rendezvous.Proofs.Proposal.Days

/-!
Contract: the days of several spans are the union of the days of each.

Owns:
- `DateSpan.InCalendar`, spans whose days are known;
- `DateSpan.daysOfAll_eq_of_covered`: only the days covered matter, not by which spans;
- `DateSpan.IsWithin`, spans that others make superfluous;
- `DateSpan.daysOfAll_isUnion`, the days of spans in any order, repeated, nested and one list behind
  another.
-/

namespace Rendezvous

namespace DateSpan

/-- No span has weekdays up to the last day of the calendar. -/
def InCalendar (spans : List DateSpan) : Prop :=
  ∀ span ∈ spans, span.weekdays.getD [] ≠ [] → span.stop ≠ .last

instance (spans : List DateSpan) : Decidable (InCalendar spans) :=
  inferInstanceAs (Decidable (∀ span ∈ spans, span.weekdays.getD [] ≠ [] → span.stop ≠ .last))

/-- A day of one of the spans. -/
def Covered (spans : List DateSpan) (day : Day) : Prop :=
  ∃ span ∈ spans, span.Covers day

variable {spans others : List DateSpan} {days otherDays : List Day} {inner outer : DateSpan}

theorem InCalendar.append (inCalendar : InCalendar spans) (otherInCalendar : InCalendar others) :
    InCalendar (spans ++ others) := by
  intro span member
  rcases List.mem_append.1 member with isSpan | isOther
  · exact inCalendar span isSpan
  · exact otherInCalendar span isOther

theorem covered_append (day : Day) :
    Covered (spans ++ others) day ↔ Covered spans day ∨ Covered others day := by
  simp [Covered, or_and_right, exists_or]

theorem daysOfAll_pairwise (areDays : daysOfAll spans = .ok days) : days.Pairwise (· < ·) := by
  obtain ⟨lists, -, isSorted⟩ := (Result.bind_eq_ok_iff _ _ _).1 areDays
  rw [← Except.ok.inj isSorted]
  exact Day.sorted_pairwise lists.flatten

theorem exists_daysOfAll_iff : (∃ days, daysOfAll spans = .ok days) ↔ InCalendar spans := by
  have known := Result.exists_error_iff (daysOfAll spans)
  have late : (∃ fault, daysOfAll spans = .error fault) ↔ ¬ InCalendar spans := by
    simp [daysOfAll_eq_error_iff, InCalendar]
  rw [late] at known
  exact (not_iff_not.1 known).symm

/-- Spans that cover the same days come to the same days. -/
theorem daysOfAll_eq_of_covered (areDays : daysOfAll spans = .ok days)
    (inCalendar : InCalendar others) (same : ∀ day, Covered others day ↔ Covered spans day) :
    daysOfAll others = .ok days := by
  obtain ⟨found, areFound⟩ := exists_daysOfAll_iff.2 inCalendar
  rw [areFound]
  apply congrArg Except.ok
  apply Day.ascending_unique (daysOfAll_pairwise areFound) (daysOfAll_pairwise areDays)
  intro day
  rw [mem_daysOfAll areFound, mem_daysOfAll areDays]
  exact same day

theorem daysOfAll_append (areDays : daysOfAll spans = .ok days)
    (areOtherDays : daysOfAll others = .ok otherDays) :
    daysOfAll (spans ++ others) = .ok (Day.sorted (days ++ otherDays)) := by
  have inCalendar := exists_daysOfAll_iff.1 ⟨days, areDays⟩
  have otherInCalendar := exists_daysOfAll_iff.1 ⟨otherDays, areOtherDays⟩
  obtain ⟨found, areFound⟩ := exists_daysOfAll_iff.2 (inCalendar.append otherInCalendar)
  rw [areFound]
  apply congrArg Except.ok
  apply Day.ascending_unique (daysOfAll_pairwise areFound) (Day.sorted_pairwise _)
  intro day
  rw [mem_daysOfAll areFound, Day.mem_sorted, List.mem_append, mem_daysOfAll areDays,
    mem_daysOfAll areOtherDays]
  exact covered_append day

/-- Between the bounds of another span, and on weekdays of it only. -/
structure IsWithin (inner outer : DateSpan) : Prop where
  fromStart : outer.start ≤ inner.start
  toStop : inner.stop ≤ outer.stop
  someWeekday : inner.weekdays.getD [] ≠ []
  onWeekdays : ∀ weekday ∈ inner.weekdays.getD [], weekday ∈ outer.weekdays.getD []

theorem IsWithin.outer_someWeekday (within : inner.IsWithin outer) :
    outer.weekdays.getD [] ≠ [] := by
  obtain ⟨weekday, isWeekday⟩ := List.exists_mem_of_ne_nil _ within.someWeekday
  exact List.ne_nil_of_mem (within.onWeekdays weekday isWeekday)

theorem IsWithin.covers (within : inner.IsWithin outer) {day : Day} (covers : inner.Covers day) :
    outer.Covers day := by
  cases covers with
  | first noWeekday => exact absurd noWeekday within.someWeekday
  | @selected _ selector isSelector afterStart beforeStop isSelected =>
      cases isOuter : outer.weekdays with
      | none => exact absurd (by rw [isOuter]; rfl) within.outer_someWeekday
      | some outerSelector =>
          apply Covers.selected isOuter (Nat.le_trans within.fromStart afterStart)
            (Nat.le_trans beforeStop within.toStop)
          have onWeekdays := within.onWeekdays
          rw [isSelector, isOuter] at onWeekdays
          rw [Selector.selects_iff] at isSelected ⊢
          exact onWeekdays _ isSelected

theorem IsWithin.stop_ne_last (within : inner.IsWithin outer) (inCalendar : outer.stop ≠ .last) :
    inner.stop ≠ .last := by
  intro isLast
  apply inCalendar
  have atLast : lastOrdinal ≤ outer.stop.ordinal := by
    have toStop := within.toStop
    rwa [isLast] at toStop
  exact Day.eq_of_ordinal_eq (Nat.le_antisymm outer.stop.le_last atLast)

theorem daysOfAll_cons_of_isWithin (areDays : daysOfAll spans = .ok days) (isOuter : outer ∈ spans)
    (within : inner.IsWithin outer) : daysOfAll (inner :: spans) = .ok days := by
  have inCalendar := exists_daysOfAll_iff.1 ⟨days, areDays⟩
  apply daysOfAll_eq_of_covered areDays
  · intro span member
    rcases List.mem_cons.1 member with rfl | isSpan
    · intro _
      exact within.stop_ne_last (inCalendar outer isOuter within.outer_someWeekday)
    · exact inCalendar span isSpan
  · intro day
    simp only [Covered, List.mem_cons, exists_eq_or_imp]
    exact or_iff_right_of_imp fun covers => ⟨outer, isOuter, within.covers covers⟩

/-- Spans without weekdays up to the last day of the calendar, sound or not, come to the days that
one of them covers, in ascending order and each once.  So their order and repetitions do not matter,
nor a span within another one, nor how the same days are covered at all; two lists of spans come to
the days of both. -/
theorem daysOfAll_isUnion (spans : List DateSpan) (inCalendar : InCalendar spans) :
    ∃ days, daysOfAll spans = .ok days ∧ days.Pairwise (· < ·) ∧
      (∀ day, day ∈ days ↔ ∃ span ∈ spans, span.Covers day) ∧
      (∀ others : List DateSpan, (∀ span, span ∈ others ↔ span ∈ spans) →
        daysOfAll others = .ok days) ∧
      (∀ inner : DateSpan, ∀ outer ∈ spans, inner.IsWithin outer →
        daysOfAll (inner :: spans) = .ok days) ∧
      (∀ others, InCalendar others → (∀ day, Covered others day ↔ Covered spans day) →
        daysOfAll others = .ok days) ∧
      ∀ others otherDays, daysOfAll others = .ok otherDays →
        daysOfAll (spans ++ others) = .ok (Day.sorted (days ++ otherDays)) := by
  obtain ⟨days, areDays⟩ := exists_daysOfAll_iff.2 inCalendar
  refine ⟨days, areDays, daysOfAll_pairwise areDays, mem_daysOfAll areDays, ?_, ?_, ?_, ?_⟩
  · intro others same
    apply daysOfAll_eq_of_covered areDays
    · exact fun span isOther => inCalendar span ((same span).1 isOther)
    · simp only [Covered, same, implies_true]
  · intro inner outer isOuter within
    exact daysOfAll_cons_of_isWithin areDays isOuter within
  · intro others otherInCalendar same
    exact daysOfAll_eq_of_covered areDays otherInCalendar same
  · intro others otherDays areOtherDays
    exact daysOfAll_append areDays areOtherDays

/-- All weekend days up to a Wednesday, and the Wednesday itself, given with a later end. -/
def weekendAndWednesday : List DateSpan :=
  [⟨.first, .january15, some [0, 6, 0], none⟩, ⟨.january15, .last, some [], none⟩]

theorem daysOfAll_isUnion_weekend :
    InCalendar weekendAndWednesday ∧
    ∃ days, daysOfAll weekendAndWednesday = .ok days ∧ days.Pairwise (· < ·) ∧
      .january15 ∈ days ∧ daysOfAll weekendAndWednesday.reverse = .ok days ∧
      daysOfAll (weekendAndWednesday ++ weekendAndWednesday) = .ok (Day.sorted (days ++ days)) := by
  have inCalendar : InCalendar weekendAndWednesday := by decide
  obtain ⟨days, areDays, ascends, isDay, same, -, -, both⟩ :=
    daysOfAll_isUnion weekendAndWednesday inCalendar
  refine ⟨inCalendar, days, areDays, ascends, ?_, ?_, both _ _ areDays⟩
  · exact (isDay _).2 ⟨_, List.mem_cons_of_mem _ List.mem_cons_self, .first rfl⟩
  · exact same _ fun span => List.mem_reverse

end DateSpan

end Rendezvous
