import Rendezvous.Poll.Choice
import Rendezvous.Proofs.Calendar.Iso
import Rendezvous.Proofs.Calendar.Label
import Rendezvous.Proofs.Event
import Rendezvous.Proofs.Recurrence.Expand

/-!
Contract: the choices of a poll are the selected days of its range, one for each.

Owns:
- `Choice.Shows`, what a choice shows of its place and its day;
- `Choice.enumerate_isos` and `Choice.ofRange_eq`: the choices for written days, and those for the
  selected days of a range;
- `Choice.ofRange_faithful`, with the order of the texts of days in a poll and in an event.
-/

namespace Rendezvous.Poll.Choice

/-- What a choice shows of its place and its day. -/
structure Shows (choice : Choice) (place : Nat) (day : Day) : Prop where
  id : choice.id = "date-".toList ++ Text.ofNat place
  date : Day.ofIso choice.date = .ok day
  label : choice.label = day.label

theorem ofDate_iso (day : Day) (suffix : Text) :
    ofDate day.iso (some (defaultId suffix)) = .ok ⟨defaultId suffix, day.iso, day.label⟩ := by
  -- the name is not empty, so it is not replaced by the one made from the date
  have named : defaultId suffix = 'd' :: ("ate-".toList ++ suffix) := rfl
  rw [named, ofDate, Day.ofIso_iso, Result.ok_bind]
  rfl

/-- The choice for the day at a place. -/
def atPlace (place : Nat) (day : Day) : Choice :=
  ⟨defaultId (Text.ofNat place), day.iso, day.label⟩

theorem atPlace_shows (place : Nat) (day : Day) : (atPlace place day).Shows place day where
  id := rfl
  date := day.ofIso_iso
  label := rfl

theorem enumerate_isos (days : List Day) (index : Nat) :
    enumerate index (days.map Day.iso) =
      .ok (days.mapIdx fun place day => atPlace (index + place) day) := by
  induction days generalizing index with
  | nil => rfl
  | cons day rest inductionHypothesis =>
      have shift (place : Nat) : index + 1 + place = index + (place + 1) := by omega
      rw [List.map_cons, enumerate, ofDate_iso, Result.ok_bind, inductionHypothesis,
        Result.ok_bind, List.mapIdx_cons]
      simp only [shift]
      rfl

theorem ofRange_eq {start stop : Day} {selector : Selector} {days : List Day}
    (areDays : Recurrence.daysOn start stop selector = .ok days) :
    ofRange start stop selector = .ok (days.mapIdx atPlace) := by
  rw [ofRange, Recurrence.datesOn, areDays, Result.ok_bind, Result.pure_eq_ok, Result.ok_bind,
    enumerate_isos]
  simp only [Nat.zero_add]

theorem dates_atPlace (days : List Day) :
    (days.mapIdx atPlace).map Choice.date = days.map Day.iso := by
  apply List.ext_getElem
  · simp
  · intro place _ _
    simp [atPlace]

theorem defaultId_injective {left right : Nat}
    (same : defaultId (Text.ofNat left) = defaultId (Text.ofNat right)) : left = right :=
  Text.ofNat_injective (List.append_cancel_left same)

/-- Choices are named by their places, of which no two are the same. -/
theorem nodup_ids (days : List Day) : ((days.mapIdx atPlace).map Choice.id).Nodup := by
  have ids : (days.mapIdx atPlace).map Choice.id =
      (List.range days.length).map fun place => defaultId (Text.ofNat place) := by
    apply List.ext_getElem
    · simp
    · intro place _ _
      simp [atPlace]
  rw [ids]
  exact List.nodup_range.map fun _ _ => defaultId_injective

/-- Where the selected days of a range are known, the choices are these days in order: each is named
by its place, has a text that is read as its day, and shows the label of that day.  The texts ascend
like the days, as texts, and so do those of the days of an event. -/
theorem ofRange_faithful :
    (∀ (start stop : Recurrence.Bound) (selector : Selector) (days : List Day),
      Recurrence.daysBetween start stop selector = .ok days →
      ∃ choices, ofRange start.toDay stop.toDay selector = .ok choices ∧
        choices.length = days.length ∧
        (∀ (place : Nat) (choice : Choice) (day : Day),
          choices[place]? = some choice → days[place]? = some day → choice.Shows place day) ∧
        (choices.map Choice.id).Nodup ∧
        Recurrence.datesOn start.toDay stop.toDay selector = .ok (choices.map Choice.date) ∧
        days.Pairwise (· < ·) ∧ (choices.map Choice.date).Pairwise (· < ·)) ∧
    ∀ (recognizer : Recognizer) (text : Text) (now : Moment) (event : Event),
      Event.ofText recognizer text now = .ok event →
      event.dates.map Day.ofIso = event.days.map .ok ∧
        event.days.Pairwise (· < ·) ∧ event.dates.Pairwise (· < ·) := by
  constructor
  · intro start stop selector days areDays
    have onDays : Recurrence.daysOn start.toDay stop.toDay selector = .ok days := areDays
    have ascends := Recurrence.daysOn_pairwise onDays
    refine ⟨days.mapIdx atPlace, ofRange_eq onDays, List.length_mapIdx, ?_, nodup_ids days, ?_,
      ascends, ?_⟩
    · intro place choice day isChoice isDay
      rw [List.getElem?_mapIdx, isDay, Option.map_some, Option.some.injEq] at isChoice
      exact isChoice ▸ atPlace_shows place day
    · rw [dates_atPlace, Recurrence.datesOn, onDays, Result.ok_bind, Result.pure_eq_ok]
    · rw [dates_atPlace]
      exact Day.isos_pairwise ascends
  · intro recognizer text now event isEvent
    have ascends := (Event.ofText_isReading isEvent none).ascends
    refine ⟨?_, ascends, Day.isos_pairwise ascends⟩
    rw [Event.dates, List.map_map]
    exact List.map_congr_left fun day _ => day.ofIso_iso

/-- 5 January 2026, a Monday. -/
def january5 : Day := ⟨739621, by decide, by decide⟩

/-- The first two weekends from that day on. -/
def twoWeekends : List Day :=
  [⟨739626, by decide, by decide⟩, ⟨739627, by decide, by decide⟩, ⟨739633, by decide, by decide⟩,
    ⟨739634, by decide, by decide⟩]

/-- The same four days are offered in a poll for the two weeks up to a moment, and named by a text
that is read without a recognizer. -/
theorem ofRange_faithful_weekends :
    (∃ choices,
      Recurrence.daysBetween (.day january5) (.moment (.midnight ⟨739635, by decide, by decide⟩))
        [6, 0] = .ok twoWeekends ∧
      ofRange january5 ⟨739635, by decide, by decide⟩ [6, 0] = .ok choices ∧
      choices.length = 4 ∧
      ∃ choice, choices[2]? = some choice ∧
        choice.Shows 2 ⟨739633, by decide, by decide⟩) ∧
    ∃ event, Event.ofText (.ofTable ⟨[], []⟩) "weekends for the next 2 weeks".toList
        (.midnight january5) = .ok event ∧
      event.days = twoWeekends ∧ event.dates.Pairwise (· < ·) := by
  obtain ⟨ofRanges, ofTexts⟩ := ofRange_faithful
  have areDays : Recurrence.daysBetween (.day january5)
      (.moment (.midnight ⟨739635, by decide, by decide⟩)) [6, 0] = .ok twoWeekends := by
    decide +kernel
  have isDraft : Draft.ofText (.ofTable ⟨[], []⟩) "weekends for the next 2 weeks".toList
      (.midnight january5) = .ok ⟨some .weekendsNext, twoWeekends, [], none⟩ := by
    decide +kernel
  have isEvent : Event.ofText (.ofTable ⟨[], []⟩) "weekends for the next 2 weeks".toList
      (.midnight january5) = .ok (.ofDraft ⟨some .weekendsNext, twoWeekends, [], none⟩
        "weekends for the next 2 weeks".toList) := by
    rw [Event.ofText, isDraft, Result.ok_bind, Result.pure_eq_ok]
  constructor
  · obtain ⟨choices, areChoices, sameLength, shows, -⟩ := ofRanges _ _ _ _ areDays
    have third : 2 < choices.length := by
      rw [sameLength]
      decide
    exact ⟨choices, areDays, areChoices, sameLength, choices[2], List.getElem?_eq_getElem third,
      shows 2 _ _ (List.getElem?_eq_getElem third) rfl⟩
  · exact ⟨_, isEvent, Day.sorted_eq_self twoWeekends (by decide), (ofTexts _ _ _ _ isEvent).2.2⟩

end Rendezvous.Poll.Choice
