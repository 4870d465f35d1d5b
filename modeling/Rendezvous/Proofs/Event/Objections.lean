import Mathlib.Data.List.Basic
import Rendezvous.Event.Validation
import Rendezvous.Proofs.Arbitration
import Rendezvous.Proofs.Calendar.Day
import Rendezvous.Proofs.Calendar.Moment
import Rendezvous.Proofs.Result

/-!
Contract: the objections to an event are the rules that it breaks, and there are only more of
them as time passes.

Owns:
- `Objection.Applies`, what it is to break each rule;
- `Event.mem_objections` and `Event.objections_eq_nil_iff`, the events without objections;
- `Objection.wording_injective` and `Event.wording_mem_objections`: the words in which an objection
  is reported tell which rule is broken;
- `Event.confidence_eq_full_iff`: full confidence leaves only objections to the days;
- `Event.objections_exact`.
-/

namespace Rendezvous

namespace Objection

/-- What it is for an event to break a rule at a moment. -/
inductive Applies (event : Event) (now : Moment) : Objection → Prop where
  | shortTitle (short : event.title.length < 3) : Applies event now .shortTitle
  | longTitle (long : 100 < event.title.length) : Applies event now .longTitle
  | noDays (empty : event.days = []) : Applies event now .noDays
  | manyDays (many : 50 < event.days.length) : Applies event now .manyDays
  /-- The midnight with which one of the days begins has passed. -/
  | pastDay {day : Day} (isDay : day ∈ event.days)
      (past : (Moment.midnight day).elapsed < now.elapsed) : Applies event now .pastDay

variable {event : Event} {now later : Moment} {objection : Objection}

theorem standsAgainst_iff :
    objection.standsAgainst event now = true ↔ Applies event now objection := by
  constructor
  · intro stands
    cases objection with
    | shortTitle => exact .shortTitle (of_decide_eq_true stands)
    | longTitle => exact .longTitle (of_decide_eq_true stands)
    | noDays => exact .noDays (List.isEmpty_iff.1 stands)
    | manyDays => exact .manyDays (of_decide_eq_true stands)
    | pastDay =>
        obtain ⟨day, isDay, past⟩ := List.any_eq_true.1 stands
        exact .pastDay isDay ((Moment.isBefore_iff _ _).1 past)
  · intro applies
    cases applies with
    | shortTitle short => exact decide_eq_true short
    | longTitle long => exact decide_eq_true long
    | noDays empty => exact List.isEmpty_iff.2 empty
    | manyDays many => exact decide_eq_true many
    | pastDay isDay past =>
        exact List.any_eq_true.2 ⟨_, isDay, (Moment.isBefore_iff _ _).2 past⟩

/-- Only the rule about past days looks at the moment, and a day that has passed stays past. -/
theorem Applies.lasts (applies : Applies event now objection)
    (ordered : now.elapsed ≤ later.elapsed) : Applies event later objection := by
  cases applies with
  | shortTitle short => exact .shortTitle short
  | longTitle long => exact .longTitle long
  | noDays empty => exact .noDays empty
  | manyDays many => exact .manyDays many
  | pastDay isDay past => exact .pastDay isDay (Nat.lt_of_lt_of_le past ordered)

theorem mem_all (objection : Objection) : objection ∈ all := by
  cases objection <;> decide

/-- No two rules are reported in the same words. -/
theorem wording_injective : Function.Injective wording := by
  have distinct : (all.map wording).Nodup := by decide +kernel
  intro first second same
  exact List.inj_on_of_nodup_map distinct first.mem_all second.mem_all same

end Objection

namespace Event

variable {event : Event} {now later : Moment}

theorem mem_objections (objection : Objection) :
    objection ∈ event.objections now ↔ objection.Applies event now := by
  rw [objections, List.mem_filter, Objection.standsAgainst_iff]
  exact and_iff_right objection.mem_all

/-- What is reported in the words of a rule is that the rule is broken, and it is reported once. -/
theorem wording_mem_objections (event : Event) (now : Moment) :
    ((event.objections now).map Objection.wording).Nodup ∧
    ∀ objection : Objection,
      objection.wording ∈ (event.objections now).map Objection.wording ↔
        objection.Applies event now := by
  constructor
  · have distinct : Objection.all.Nodup := by decide
    exact (distinct.filter _).map Objection.wording_injective
  · intro objection
    rw [List.mem_map_of_injective Objection.wording_injective, mem_objections]

theorem objections_sublist_later (ordered : now.elapsed ≤ later.elapsed) :
    (event.objections now).Sublist (event.objections later) := by
  apply List.monotone_filter_right
  intro objection stands
  exact Objection.standsAgainst_iff.2 ((Objection.standsAgainst_iff.1 stands).lasts ordered)

theorem objections_eq_nil_iff :
    event.objections now = [] ↔
      (3 ≤ event.title.length ∧ event.title.length ≤ 100) ∧
      (1 ≤ event.days.length ∧ event.days.length ≤ 50) ∧
      ∀ day ∈ event.days, now.elapsed ≤ (Moment.midnight day).elapsed := by
  have applies : event.objections now = [] ↔
      ∀ objection : Objection, ¬ objection.Applies event now := by
    simp only [List.eq_nil_iff_forall_not_mem, mem_objections]
  rw [applies]
  constructor
  · intro noneApplies
    have someDay : event.days ≠ [] := fun empty => noneApplies _ (.noDays empty)
    refine ⟨⟨?_, ?_⟩, ⟨List.length_pos_of_ne_nil someDay, ?_⟩, ?_⟩
    · exact Nat.le_of_not_lt fun short => noneApplies _ (.shortTitle short)
    · exact Nat.le_of_not_lt fun long => noneApplies _ (.longTitle long)
    · exact Nat.le_of_not_lt fun many => noneApplies _ (.manyDays many)
    · intro day isDay
      exact Nat.le_of_not_lt fun past => noneApplies _ (.pastDay isDay past)
  · rintro ⟨⟨longEnough, shortEnough⟩, ⟨someDay, fewDays⟩, ahead⟩ objection applies
    cases applies with
    | shortTitle short => omega
    | longTitle long => omega
    | noDays empty =>
        rw [empty] at someDay
        contradiction
    | manyDays many => omega
    | pastDay isDay past =>
        have := ahead _ isDay
        omega

/-! ## Confidence -/

theorem hasFittingTitle_iff (event : Event) :
    event.hasFittingTitle = true ↔ 3 ≤ event.title.length ∧ event.title.length < 100 := by
  rw [hasFittingTitle, Bool.and_eq_true, decide_eq_true_eq, decide_eq_true_eq]
  rfl

theorem confidence_eq_full_iff (event : Event) :
    event.confidence = fullConfidence ↔
      event.days ≠ [] ∧ 3 ≤ event.title.length ∧ event.title.length < 100 := by
  rw [← hasFittingTitle_iff]
  rcases event.confidence_cases with
    ⟨noDays, degree⟩ | ⟨-, unfitting, degree⟩ | ⟨someDays, fitting, degree⟩
  · have less : Binary64.ofInt 0 ≠ fullConfidence := by decide +kernel
    simp [degree, less, noDays]
  · have less : datedConfidence ≠ fullConfidence := by decide +kernel
    simp [degree, less, unfitting]
  · simp [degree, someDays, fitting]

/-- The objections at a moment without a zone are the rules that the event breaks, in the fixed
order.  Later there are these and perhaps more.  Full confidence in the event rules out those to
the title and to the lack of days; it is the confidence in every event without objections whose
title is not of the greatest length. -/
theorem objections_exact (event : Event) (now : Moment) :
    event.verdict ⟨now, false⟩ = .ok (event.objections now) ∧
    (event.objections now).Sublist [.shortTitle, .longTitle, .noDays, .manyDays, .pastDay] ∧
    (∀ objection, objection ∈ event.objections now ↔ objection.Applies event now) ∧
    (event.objections now = [] ↔
      (3 ≤ event.title.length ∧ event.title.length ≤ 100) ∧
      (1 ≤ event.days.length ∧ event.days.length ≤ 50) ∧
      ∀ day ∈ event.days, (Moment.midnight day).isBefore now = false) ∧
    (∀ later, later.isBefore now = false →
      (event.objections now).Sublist (event.objections later)) ∧
    (event.confidence = fullConfidence →
      .shortTitle ∉ event.objections now ∧ .longTitle ∉ event.objections now ∧
        .noDays ∉ event.objections now) ∧
    (event.objections now = [] →
      (event.confidence = fullConfidence ↔ event.title.length ≠ 100)) := by
  have notBefore (left right : Moment) :
      left.isBefore right = false ↔ right.elapsed ≤ left.elapsed := by
    rw [← Bool.not_eq_true, Moment.isBefore_iff, Nat.not_lt]
  refine ⟨?_, ?_, mem_objections, ?_, ?_, ?_, ?_⟩
  · simp [verdict]
  · exact List.filter_sublist
  · simp only [notBefore]
    exact objections_eq_nil_iff
  · intro later ordered
    exact objections_sublist_later ((notBefore _ _).1 ordered)
  · intro sure
    obtain ⟨someDay, longEnough, shortEnough⟩ := event.confidence_eq_full_iff.1 sure
    simp only [mem_objections]
    refine ⟨?_, ?_, ?_⟩
    · intro applies
      cases applies with
      | shortTitle short => omega
    · intro applies
      cases applies with
      | longTitle long => omega
    · intro applies
      cases applies with
      | noDays empty => exact someDay empty
  · intro isValid
    obtain ⟨⟨longEnough, shortEnough⟩, ⟨someDay, -⟩, -⟩ := objections_eq_nil_iff.1 isValid
    have hasDay : event.days ≠ [] := List.ne_nil_of_length_pos someDay
    rw [confidence_eq_full_iff]
    constructor
    · rintro ⟨-, -, short⟩
      omega
    · intro notGreatest
      exact ⟨hasDay, longEnough, by omega⟩

/-- A book club on a day in January. -/
def bookClub : Event where
  title := "book club".toList
  days := [.january15]
  times := []
  description := some []
  raw := "book club on jan 15".toList

/-- The beginning of the last hour of that day. -/
def lastHour : Moment := ⟨.january15, { Clock.midnight with hour := Fin.last 23 }⟩

/-- At the midnight of its day there is nothing to object to the book club, and at the last hour
the day has passed. -/
theorem objections_exact_bookClub :
    bookClub.objections (.midnight .january15) = [] ∧
    bookClub.confidence = fullConfidence ∧
    lastHour.isBefore (.midnight .january15) = false ∧
    (bookClub.objections (.midnight .january15)).Sublist (bookClub.objections lastHour) ∧
    bookClub.objections lastHour = [.pastDay] ∧ .shortTitle ∉ bookClub.objections lastHour := by
  obtain ⟨-, -, -, validIff, grows, -, sureIff⟩ := objections_exact bookClub (.midnight .january15)
  have isValid : bookClub.objections (.midnight .january15) = [] := validIff.2 (by decide)
  have ordered : lastHour.isBefore (.midnight .january15) = false := by decide
  have sure : bookClub.confidence = fullConfidence := (sureIff isValid).2 (by decide)
  obtain ⟨-, -, isObjection, -, -, ofSure, -⟩ := objections_exact bookClub lastHour
  exact ⟨isValid, sure, ordered, grows lastHour ordered, by decide, (ofSure sure).1⟩

end Event

end Rendezvous
