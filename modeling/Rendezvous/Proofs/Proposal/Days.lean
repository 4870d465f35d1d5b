import Rendezvous.Proofs.Proposal.Document
import Rendezvous.Proofs.Recurrence.Expand
import Rendezvous.Proofs.Result

/-!
Contract: the days that a proposal comes to.

Owns:
- `DateSpan.Covers`, the days of a span, and `Event.mem_days_ofProposal`, the days of an event;
- `DateSpan.daysOfAll_eq_error_iff`, when the days of a list of spans are not known;
- `DateSpan.IsBarren`, spans without a day, which are at most six days long.
-/

namespace Rendezvous

namespace DateSpan

/-- The days of a span: its first one if no weekdays are given, and otherwise the days between the
bounds that are on one of them. -/
inductive Covers (span : DateSpan) : Day → Prop where
  | first (noWeekday : span.weekdays.getD [] = []) : Covers span span.start
  | selected {day : Day} {selector : Selector} (isSelector : span.weekdays = some selector)
      (afterStart : span.start ≤ day) (beforeStop : day ≤ span.stop)
      (isSelected : selector.selects day = true) : Covers span day

/-- There are weekdays, and no day between the bounds is on one of them. -/
def IsBarren (span : DateSpan) : Prop :=
  ∃ selector, span.weekdays = some selector ∧ selector ≠ [] ∧
    ∀ day, span.start ≤ day → day ≤ span.stop → selector.selects day = false

variable {span : DateSpan}

theorem days_of_noWeekday (noWeekday : span.weekdays.getD [] = []) :
    span.days = .ok [span.start] := by
  unfold DateSpan.days
  split
  next => rfl
  next => rfl
  next notEmpty isSelector =>
    rw [isSelector] at noWeekday
    exact absurd noWeekday notEmpty

theorem days_of_weekdays {selector : Selector} (isSelector : span.weekdays = some selector)
    (notEmpty : selector ≠ []) :
    span.days = Recurrence.daysOn span.start span.stop selector := by
  obtain ⟨weekday, others, rfl⟩ := List.exists_cons_of_ne_nil notEmpty
  rw [DateSpan.days, isSelector]

theorem covers_iff_of_noWeekday (noWeekday : span.weekdays.getD [] = []) (day : Day) :
    span.Covers day ↔ day = span.start := by
  constructor
  · intro covers
    cases covers with
    | first => rfl
    | selected isSelector _ _ isSelected =>
        rw [isSelector, Option.getD_some] at noWeekday
        rw [noWeekday] at isSelected
        contradiction
  · rintro rfl
    exact .first noWeekday

theorem covers_iff_of_weekdays {selector : Selector} (isSelector : span.weekdays = some selector)
    (notEmpty : selector ≠ []) (day : Day) :
    span.Covers day ↔ (span.start ≤ day ∧ day ≤ span.stop) ∧ selector.selects day = true := by
  constructor
  · intro covers
    cases covers with
    | first noWeekday =>
        rw [isSelector] at noWeekday
        exact absurd noWeekday notEmpty
    | selected isOther afterStart beforeStop isSelected =>
        obtain rfl := Option.some.inj (isOther.symm.trans isSelector)
        exact ⟨⟨afterStart, beforeStop⟩, isSelected⟩
  · rintro ⟨⟨afterStart, beforeStop⟩, isSelected⟩
    exact .selected isSelector afterStart beforeStop isSelected

/-- Without weekdays a span stands for one day, and with some for the days that they select. -/
theorem weekdays_cases (span : DateSpan) : span.weekdays.getD [] = [] ∨
    ∃ selector, span.weekdays = some selector ∧ selector ≠ [] := by
  cases span.weekdays with
  | none => exact Or.inl rfl
  | some selector => cases selector <;> simp

theorem mem_days {days : List Day} (areDays : span.days = .ok days) (day : Day) :
    day ∈ days ↔ span.Covers day := by
  rcases span.weekdays_cases with noWeekday | ⟨selector, isSelector, notEmpty⟩
  · rw [days_of_noWeekday noWeekday] at areDays
    rw [covers_iff_of_noWeekday noWeekday, ← Except.ok.inj areDays, List.mem_singleton]
  · rw [days_of_weekdays isSelector notEmpty] at areDays
    rw [covers_iff_of_weekdays isSelector notEmpty, Recurrence.mem_daysOn areDays]

theorem days_eq_error_iff (span : DateSpan) (fault : Fault) :
    span.days = .error fault ↔
      fault = .outOfCalendar ∧ span.weekdays.getD [] ≠ [] ∧ span.stop = .last := by
  rcases span.weekdays_cases with noWeekday | ⟨selector, isSelector, notEmpty⟩
  · rw [days_of_noWeekday noWeekday]
    exact iff_of_false (Result.ok_ne_error _ fault) fun fails => fails.2.1 noWeekday
  · rw [days_of_weekdays isSelector notEmpty, Recurrence.daysOn_eq_error_iff, isSelector,
      Option.getD_some]

theorem isBarren_iff : span.IsBarren ↔ ∀ day, ¬ span.Covers day := by
  constructor
  · rintro ⟨selector, isSelector, notEmpty, noDay⟩ day covers
    obtain ⟨⟨afterStart, beforeStop⟩, isSelected⟩ :=
      (covers_iff_of_weekdays isSelector notEmpty day).1 covers
    rw [noDay day afterStart beforeStop] at isSelected
    contradiction
  · intro noDay
    rcases span.weekdays_cases with noWeekday | ⟨selector, isSelector, notEmpty⟩
    · exact absurd (.first noWeekday) (noDay span.start)
    · refine ⟨selector, isSelector, notEmpty, ?_⟩
      intro day afterStart beforeStop
      apply Bool.eq_false_iff.2
      intro isSelected
      exact noDay day (.selected isSelector afterStart beforeStop isSelected)

/-- In any seven days each weekday occurs, so a span without a day is shorter. -/
theorem IsBarren.short (barren : span.IsBarren) (sound : span.IsSound) :
    span.stop.ordinal < span.start.ordinal + 6 := by
  obtain ⟨selector, isSelector, notEmpty, noDay⟩ := barren
  obtain ⟨weekday, isWeekday⟩ := List.exists_mem_of_ne_nil selector notEmpty
  obtain ⟨notNegative, atMostSix⟩ := sound.inWeek weekday (by simpa [isSelector] using isWeekday)
  apply Nat.lt_of_not_le
  intro long
  have first := span.start.first_le
  have last := span.stop.le_last
  -- The weekday comes at the latest six days after the first day.
  obtain ⟨day, isDay⟩ : ∃ day : Day, day.ordinal =
      span.start.ordinal + (weekday.toNat + 7 - span.start.ordinal % 7) % 7 :=
    ⟨⟨_, by omega, by omega⟩, rfl⟩
  have isSelected : selector.selects day = true := by
    rw [Selector.selects_iff, Day.weekday_val]
    have same : ((day.ordinal % 7 : Nat) : Int) = weekday := by omega
    rwa [same]
  rw [noDay day ((Day.le_iff _ _).2 (by omega)) ((Day.le_iff _ _).2 (by omega))] at isSelected
  contradiction

theorem mem_daysOfAll {spans : List DateSpan} {days : List Day}
    (areDays : daysOfAll spans = .ok days) (day : Day) :
    day ∈ days ↔ ∃ span ∈ spans, span.Covers day := by
  obtain ⟨lists, areLists, same⟩ := (Result.bind_eq_ok_iff _ _ _).1 areDays
  rw [← Except.ok.inj same, Day.mem_sorted, List.mem_flatten]
  constructor
  · rintro ⟨list, isList, isDay⟩
    obtain ⟨span, isSpan, isDaysOf⟩ := (Result.mem_iff_of_mapM areLists list).1 isList
    exact ⟨span, isSpan, (mem_days isDaysOf day).1 isDay⟩
  · rintro ⟨span, isSpan, covers⟩
    obtain ⟨list, isList, isDaysOf⟩ := Result.exists_of_mapM areLists isSpan
    exact ⟨list, isList, (mem_days isDaysOf day).2 covers⟩

/-- The days of the spans are not known exactly if one of them has weekdays up to the last day of
the calendar. -/
theorem daysOfAll_eq_error_iff (spans : List DateSpan) (fault : Fault) :
    daysOfAll spans = .error fault ↔
      fault = .outOfCalendar ∧ ∃ span ∈ spans, span.weekdays.getD [] ≠ [] ∧ span.stop = .last := by
  have listed : daysOfAll spans = .error fault ↔ spans.mapM days = .error fault := by
    rw [daysOfAll]
    cases spans.mapM days <;> simp
  rw [listed]
  constructor
  · intro failed
    obtain ⟨span, isSpan, isFault⟩ := Result.exists_of_mapM_error failed
    obtain ⟨same, late⟩ := (days_eq_error_iff span fault).1 isFault
    exact ⟨same, span, isSpan, late⟩
  · rintro ⟨rfl, span, isSpan, late⟩
    have refused := (days_eq_error_iff span .outOfCalendar).2 ⟨rfl, late⟩
    cases outcome : spans.mapM days with
    | ok lists =>
        obtain ⟨list, -, areDays⟩ := Result.exists_of_mapM outcome isSpan
        exact absurd (areDays.symm.trans refused) (Result.ok_ne_error list _)
    | error other =>
        obtain ⟨culprit, -, isFault⟩ := Result.exists_of_mapM_error outcome
        rw [((days_eq_error_iff culprit other).1 isFault).1]

end DateSpan

/-! ## Events -/

namespace Event

variable {proposal : Proposal} {raw : Text} {event : Event}

/-- The days of the event are those of the spans, together. -/
theorem mem_days_ofProposal (isEvent : ofProposal proposal raw = .ok event) (day : Day) :
    day ∈ event.days ↔ ∃ span ∈ proposal.spans, span.Covers day := by
  obtain ⟨days, areDays, same⟩ := (Result.bind_eq_ok_iff _ _ _).1 isEvent
  rw [← Except.ok.inj same]
  exact DateSpan.mem_daysOfAll areDays day

theorem days_eq_nil_iff (isEvent : ofProposal proposal raw = .ok event) :
    event.days = [] ↔ ∀ span ∈ proposal.spans, span.IsBarren := by
  simp only [List.eq_nil_iff_forall_not_mem, mem_days_ofProposal isEvent, DateSpan.isBarren_iff]
  grind

end Event

end Rendezvous
