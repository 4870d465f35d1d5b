import Mathlib.Data.List.TakeWhile
import Rendezvous.Proofs.Number.Order
import Rendezvous.Proofs.Schema.Member
import Rendezvous.Proposal.Decode

/-!
Contract: the documents that write a proposal are read as that proposal.

Owns:
- `DateSpan.Writes` and `Proposal.Writes`, objects with the usual names in any order; what is
  not known may be null or left out;
- `DateSpan.IsSound` and `Proposal.IsSound`, the rules that proposals obey;
- `DateSpan.reads_ofJson` and `Proposal.reads_ofJson`, and that these documents are within
  the limits of reading.
-/

namespace Rendezvous

open Schema

/-! ## Spans -/

namespace DateSpan

/-- A span that does not end before it begins, with weekdays from 0 to 6. -/
structure IsSound (span : DateSpan) : Prop where
  ordered : span.start ≤ span.stop
  inWeek : ∀ day ∈ span.weekdays.getD [], 0 ≤ day ∧ day ≤ 6

/-- The names of the members of a span. -/
def memberNames : List Text :=
  ["start".toList, "end".toList, "daysOfWeek".toList, "times".toList]

/-- A list of weekdays, or null. -/
abbrev writesWeekdays : Writing (Option Selector) :=
  Writing.Optional (Writing.Items Writing.Integer)

/-- A list of times, or null. -/
abbrev writesTimes : Writing (Option (List LooseText)) :=
  Writing.Optional (Writing.Items Writing.looseText)

/-- The documents that write a span. -/
inductive Writes : Writing DateSpan where
  | object {span : DateSpan} {members : Members} (named : members.AreNamed memberNames)
      (start : members.Holds "start".toList Writing.day span.start)
      (stop : members.Holds "end".toList Writing.day span.stop)
      (weekdays : members.HoldsOr "daysOfWeek".toList writesWeekdays none span.weekdays)
      (times : members.HoldsOr "times".toList writesTimes none span.times) :
      Writes span (.object members)

/-- The object with which an assistant names a single day. -/
def singleDay (day : Day) : Json :=
  .object [(Text.loose "start".toList, .ofText day.iso), (Text.loose "end".toList, .ofText day.iso)]

theorem writes_singleDay (day : Day) : Writes ⟨day, day, none, none⟩ (singleDay day) := by
  have keys : List.map Prod.fst [(Text.loose "start".toList, Json.ofText day.iso),
      (Text.loose "end".toList, .ofText day.iso)] =
      ["start".toList, "end".toList].map Text.loose := rfl
  refine .object (Members.areNamed_of_keys keys (by decide) (by decide)) ?_ ?_ ?_ ?_
  · exact Members.holds_of_mem List.mem_cons_self rfl
  · exact Members.holds_of_mem (List.mem_cons_of_mem _ List.mem_cons_self) rfl
  · exact Members.holdsOr_of_absent keys (by decide)
  · exact Members.holdsOr_of_absent keys (by decide)

variable {span : DateSpan} {document : Json}

theorem items_ne_null {α : Type} {writes : Writing α} (values : List α) :
    ¬ Writing.Items writes values .null := by
  rintro ⟨⟩

theorem reads_stop {start stop : Day} (ordered : start ≤ stop) :
    Reads (readStop (.ok start)) Writing.day stop := by
  intro document isWritten
  have isRead := reads_day stop document isWritten
  have noFlaw : orderFlaw? (.ok start) stop = none := if_neg (Nat.not_lt.2 ordered)
  rw [readStop, isRead, Checked.obeying, noFlaw]

theorem reads_weekdays {weekdays : Option Selector}
    (inWeek : ∀ day ∈ weekdays.getD [], 0 ≤ day ∧ day ≤ 6) :
    Reads readWeekdays writesWeekdays weekdays := by
  intro document isWritten
  have small : ∀ selector ∈ weekdays, ∀ day ∈ selector, day.natAbs < Reader.integerBound := by
    intro selector isSelector day isDay
    obtain rfl : weekdays = some selector := isSelector
    have bounds : 0 ≤ day ∧ day ≤ 6 := inWeek day isDay
    have seven : 7 ≤ Reader.integerBound := by decide
    omega
  have isRead := reads_optional
    (fun selector isSelector => reads_list fun day isDay =>
      reads_integer (small selector isSelector day isDay))
    items_ne_null document isWritten
  have noFlaw : weekdayFlaw? weekdays = none := by
    apply if_neg
    rw [List.any_eq_true]
    rintro ⟨day, isDay, outside⟩
    have bounds := inWeek day isDay
    simp only [Bool.or_eq_true, decide_eq_true_eq] at outside
    omega
  rw [readWeekdays, isRead, Checked.obeying, noFlaw]

/-- A sound span is taken back from every document that writes it. -/
theorem reads_ofJson {span : DateSpan} (sound : span.IsSound) :
    Reads DateSpan.ofJson Writes span := by
  intro document isWritten
  cases isWritten with
  | @object _ members named start stop weekdays times =>
      have startIsRead : members.required "start".toList [] Reader.day = .ok span.start :=
        Members.required_of_holds named.once start (reads_day span.start)
      have stopIsRead : members.required "end".toList [] (readStop (.ok span.start)) =
          .ok span.stop :=
        Members.required_of_holds named.once stop (reads_stop sound.ordered)
      have weekdaysAreRead : members.withDefault ["daysOfWeek".toList, "days_of_week".toList]
          none readWeekdays = .ok span.weekdays :=
        Members.withDefault_of_holdsOr named weekdays (reads_weekdays sound.inWeek) (by decide)
      have timesAreRead : members.withDefault ["times".toList] none
          (Reader.optional (Reader.list Reader.looseText)) = .ok span.times :=
        Members.withDefault_of_holdsOr named times
          (reads_optional (fun shown _ => reads_list fun time _ => reads_looseText time)
            items_ne_null) (by decide)
      change ofMembers members = .ok span
      rw [ofMembers]
      dsimp only
      rw [startIsRead, stopIsRead, weekdaysAreRead, timesAreRead]
      rfl

theorem fits_weekdays {depth : Nat} {weekdays : Option Selector}
    (inWeek : ∀ day ∈ weekdays.getD [], 0 ≤ day ∧ day ≤ 6)
    (isWritten : writesWeekdays weekdays document) : Json.Fits (depth + 1) document := by
  refine isWritten.fits fun selector isSelector items areWritten => ?_
  refine areWritten.fits fun day isDay number isNumber => ?_
  obtain rfl : weekdays = some selector := isSelector
  cases isNumber with
  | integer =>
      have bounds : 0 ≤ day ∧ day ≤ 6 := inWeek day isDay
      exact Json.fits_of_lt_ten (by omega)
  | real _ _ => exact .real

theorem fits_times {depth : Nat} {times : Option (List LooseText)}
    (isWritten : writesTimes times document) : Json.Fits (depth + 1) document := by
  refine isWritten.fits fun shown _ items areWritten => ?_
  refine areWritten.fits fun time _ string isString => ?_
  rw [isString]
  exact .string

theorem fits_day {depth : Nat} {day : Day} (isWritten : Writing.day day document) :
    Json.Fits depth document := by
  rw [isWritten]
  exact .string

theorem fits_of_writes {depth : Nat} (sound : span.IsSound) (isWritten : Writes span document) :
    Json.Fits (depth + 2) document := by
  cases isWritten with
  | @object _ members named start stop weekdays times =>
      apply named.fits
      intro name isName
      simp only [memberNames, List.mem_cons, List.not_mem_nil, or_false] at isName
      rcases isName with rfl | rfl | rfl | rfl
      · exact start.fits named.once fun _ => fits_day
      · exact stop.fits named.once fun _ => fits_day
      · exact weekdays.fits named.once fun _ => fits_weekdays sound.inWeek
      · exact times.fits named.once fun _ => fits_times

end DateSpan

/-! ## Proposals -/

namespace Proposal

/-- A proposal with a title that has no blanks around it, with at least one span, and with a
degree of confidence between zero and one. -/
structure IsSound (proposal : Proposal) : Prop where
  titled : proposal.title ≠ []
  trimmed : proposal.title.trim = proposal.title
  someSpan : proposal.spans ≠ []
  spans : ∀ span ∈ proposal.spans, span.IsSound
  notNegative : proposal.confidence.atLeast (.ofInt 0) = true
  atMostOne : (Binary64.ofInt 1).atLeast proposal.confidence = true

/-- The names of the members of a proposal. -/
def memberNames : List Text :=
  ["title".toList, "dateRanges".toList, "description".toList, "confidence".toList]

/-- A number, also as a whole number. -/
inductive WritesConfidence : Writing Binary64 where
  | real {confidence : Binary64} : WritesConfidence confidence (.real confidence)
  | zero {confidence : Binary64} (isZero : confidence = .ofInt 0) :
      WritesConfidence confidence (.integer 0)
  | one {confidence : Binary64} (isOne : confidence = .ofInt 1) :
      WritesConfidence confidence (.integer 1)

/-- A string that holds a text. -/
def writesTitle : Writing Text :=
  fun title document => document = .ofText title

/-- The documents that write a proposal. -/
inductive Writes : Writing Proposal where
  | object {proposal : Proposal} {members : Members} (named : members.AreNamed memberNames)
      (title : members.Holds "title".toList writesTitle proposal.title)
      (spans : members.Holds "dateRanges".toList (Writing.Items DateSpan.Writes) proposal.spans)
      (description : members.HoldsOr "description".toList (Writing.Optional Writing.looseText)
        none proposal.description)
      (confidence : members.HoldsOr "confidence".toList WritesConfidence (.ofInt 0)
        proposal.confidence) :
      Writes proposal (.object members)

/-- The object with which an assistant proposes a single day. -/
def single (title : Text) (day : Day) (confidence : Binary64) : Json :=
  .object [(Text.loose "title".toList, .ofText title),
    (Text.loose "dateRanges".toList, .array [DateSpan.singleDay day]),
    (Text.loose "confidence".toList, .real confidence)]

theorem writes_single (title : Text) (day : Day) (confidence : Binary64) :
    Writes ⟨title, [⟨day, day, none, none⟩], none, confidence⟩ (single title day confidence) := by
  have keys : List.map Prod.fst [(Text.loose "title".toList, Json.ofText title),
      (Text.loose "dateRanges".toList, .array [DateSpan.singleDay day]),
      (Text.loose "confidence".toList, .real confidence)] =
      ["title".toList, "dateRanges".toList, "confidence".toList].map Text.loose := rfl
  refine .object (Members.areNamed_of_keys keys (by decide) (by decide)) ?_ ?_ ?_ ?_
  · exact Members.holds_of_mem List.mem_cons_self rfl
  · exact Members.holds_of_mem (List.mem_cons_of_mem _ List.mem_cons_self)
      (.array (.cons (DateSpan.writes_singleDay day) .nil))
  · exact Members.holdsOr_of_absent keys (by decide)
  · exact Or.inl (Members.holds_of_mem
      (List.mem_cons_of_mem _ (List.mem_cons_of_mem _ List.mem_cons_self)) .real)

variable {proposal : Proposal} {document : Json}

theorem isAllBlank_of_trimmed {title : Text} (titled : title ≠ [])
    (trimmed : title.trim = title) : title.isAllBlank = false := by
  rw [← Bool.not_eq_true]
  intro blank
  have nothing : title.dropWhile Text.isBlank = [] :=
    List.dropWhile_eq_nil_iff.2 (List.all_eq_true.1 blank)
  rw [Text.trim, nothing] at trimmed
  exact titled trimmed.symm

theorem reads_title {title : Text} (titled : title ≠ []) (trimmed : title.trim = title) :
    Reads readTitle writesTitle title := by
  rintro _ rfl
  have isRead : Reader.text (.ofText title) = .ok title := textOf_loose title
  have someText : ¬ title.isEmpty = true := by simpa using titled
  have notBlank : ¬ title.isAllBlank = true := by
    rw [isAllBlank_of_trimmed titled trimmed]
    exact Bool.false_ne_true
  rw [readTitle, isRead]
  dsimp only [Checked.obeying]
  rw [if_neg someText, if_neg notBlank]
  exact congrArg Except.ok trimmed

theorem reads_spans {spans : List DateSpan} (someSpan : spans ≠ [])
    (sound : ∀ span ∈ spans, span.IsSound) :
    Reads readSpans (Writing.Items DateSpan.Writes) spans := by
  intro document isWritten
  have isRead := reads_list (fun span isSpan => DateSpan.reads_ofJson (sound span isSpan))
    document isWritten
  have notEmpty : ¬ spans.isEmpty = true := by simpa using someSpan
  rw [readSpans, isRead]
  dsimp only [Checked.obeying]
  rw [if_neg notEmpty]

theorem reads_confidence (confidence : Binary64) :
    Reads Reader.real WritesConfidence confidence := by
  intro document isWritten
  cases isWritten with
  | real => rfl
  | zero isZero => exact congrArg Except.ok isZero.symm
  | one isOne => exact congrArg Except.ok isOne.symm

theorem admitConfidence_of_sound (sound : proposal.IsSound) :
    admitConfidence proposal.confidence = proposal.confidence := by
  have notBelow := ((Binary64.atLeast_iff _ _).1 sound.notNegative).2
  have notAbove := ((Binary64.atLeast_iff _ _).1 sound.atMostOne).2
  simp [admitConfidence, isProbability, notBelow, notAbove]

/-- A sound proposal is taken back from every document that writes it. -/
theorem reads_ofJson (sound : proposal.IsSound) : Reads ofJson Writes proposal := by
  intro document isWritten
  cases isWritten with
  | @object _ members named title spans description confidence =>
      have titleIsRead : members.required "title".toList [] readTitle = .ok proposal.title :=
        Members.required_of_holds named.once title (reads_title sound.titled sound.trimmed)
      have spansAreRead : members.required "dateRanges".toList ["date_ranges".toList] readSpans =
          .ok proposal.spans :=
        Members.required_of_holds named.once spans (reads_spans sound.someSpan sound.spans)
      have descriptionIsRead : members.withDefault ["description".toList] none
          (Reader.optional Reader.looseText) = .ok proposal.description :=
        Members.withDefault_of_holdsOr named description
          (reads_optional (fun content _ => reads_looseText content) fun _ => Json.noConfusion)
          (by decide)
      have confidenceIsRead : writtenConfidence members = .ok proposal.confidence :=
        Members.withDefault_of_holdsOr named confidence (reads_confidence proposal.confidence)
          (by decide)
      change ofMembers members = .ok proposal
      rw [ofMembers]
      dsimp only
      rw [titleIsRead, spansAreRead, descriptionIsRead, confidenceIsRead]
      change Except.ok (⟨_, _, _, admitConfidence proposal.confidence⟩ : Proposal) = _
      rw [admitConfidence_of_sound sound]

theorem fits_of_writes (sound : proposal.IsSound) (isWritten : Writes proposal document)
    (depth : Json.Depth) : Json.Fits depth.levels document := by
  obtain ⟨further, levels⟩ := depth.exists_levels
  rw [levels]
  cases isWritten with
  | @object _ members named title spans description confidence =>
      apply named.fits
      intro name isName
      simp only [memberNames, List.mem_cons, List.not_mem_nil, or_false] at isName
      rcases isName with rfl | rfl | rfl | rfl
      · exact title.fits named.once fun _ isTitle => isTitle ▸ .string
      · refine spans.fits named.once fun _ areSpans => ?_
        exact areSpans.fits fun span isSpan _ => DateSpan.fits_of_writes (sound.spans span isSpan)
      · refine description.fits named.once fun _ isDescription => ?_
        exact isDescription.fits fun _ _ _ isString => isString ▸ .string
      · refine confidence.fits named.once fun _ isConfidence => ?_
        cases isConfidence with
        | real => exact .real
        | zero _ => exact Json.fits_of_lt_ten (by decide)
        | one _ => exact Json.fits_of_lt_ten (by decide)

end Proposal

end Rendezvous
