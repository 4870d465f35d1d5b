import Rendezvous.Proofs.Proposal.Document
import Rendezvous.Proofs.Schema.Checked
import Rendezvous.Proofs.Text.Trim

/-!
Contract: what holds of every proposal that is read, whatever the document.

Owns:
- `Proposal.title_of_ofJson`: the title is not empty and has no blanks around it;
- `DateSpan.isSound_of_ofJson` and `Proposal.spans_of_ofJson`: the spans are sound, and there is
  one at least;
- `Proposal.confidence_of_ofJson`: the confidence is a degree between zero and one, or `nan`
  where the document names it.
-/

namespace Rendezvous

open Schema

/-! ## Spans -/

namespace DateSpan

variable {span : DateSpan} {document : Json}

theorem ordered_of_readStop {start stop : Day} (isRead : readStop (.ok start) document = .ok stop) :
    start ≤ stop := by
  obtain ⟨-, noFlaw⟩ := (Checked.obeying_eq_ok_iff _ _ _).1 isRead
  apply Nat.le_of_not_lt
  intro before
  have flaw : orderFlaw? (.ok start) stop = some .endBeforeStart := if_pos before
  rw [flaw] at noFlaw
  contradiction

theorem inWeek_of_readWeekdays {weekdays : Option Selector}
    (isRead : readWeekdays document = .ok weekdays) :
    ∀ day ∈ weekdays.getD [], 0 ≤ day ∧ day ≤ 6 := by
  obtain ⟨-, noFlaw⟩ := (Checked.obeying_eq_ok_iff _ _ _).1 isRead
  intro day member
  have notOutside : ¬ ((weekdays.getD []).any fun day => day < 0 || 6 < day) = true := by
    intro outside
    rw [weekdayFlaw?, if_pos outside] at noFlaw
    contradiction
  simp only [List.any_eq_true, Bool.or_eq_true, decide_eq_true_eq, not_exists, not_and, not_or]
    at notOutside
  have bounds := notOutside day member
  omega

theorem isSound_of_ofMembers {members : Members} (isRead : ofMembers members = .ok span) :
    span.IsSound := by
  obtain ⟨days, details, areDays, areDetails, rfl⟩ := (Checked.both_eq_ok_iff _ _ _ _).1 isRead
  obtain ⟨start, stop, isStart, isStop, rfl⟩ := (Checked.both_eq_ok_iff _ _ _ _).1 areDays
  obtain ⟨weekdays, times, areWeekdays, -, rfl⟩ := (Checked.both_eq_ok_iff _ _ _ _).1 areDetails
  rw [isStart] at isStop
  constructor
  · obtain ⟨written, isWritten⟩ := Members.exists_of_required isStop
    exact ordered_of_readStop isWritten
  · rcases Members.exists_of_withDefault areWeekdays with rfl | ⟨written, isWritten⟩
    · exact fun day member => absurd member List.not_mem_nil
    · exact inWeek_of_readWeekdays isWritten

theorem isSound_of_ofJson (isRead : DateSpan.ofJson document = .ok span) : span.IsSound := by
  cases document with
  | object members => exact isSound_of_ofMembers isRead
  | _ => exact absurd isRead (Checked.refuse_ne_ok _ _)

end DateSpan

/-! ## Proposals -/

namespace Proposal

variable {proposal : Proposal} {document : Json} {members : Members}

/-- Each part of a proposal is read by its own reader. -/
theorem parts_of_ofMembers (isRead : ofMembers members = .ok proposal) :
    members.required "title".toList [] readTitle = .ok proposal.title ∧
      members.required "dateRanges".toList ["date_ranges".toList] readSpans = .ok proposal.spans ∧
      ∃ written, writtenConfidence members = .ok written ∧
        proposal.confidence = admitConfidence written := by
  obtain ⟨what, details, isWhat, areDetails, rfl⟩ := (Checked.both_eq_ok_iff _ _ _ _).1 isRead
  obtain ⟨title, spans, isTitle, areSpans, rfl⟩ := (Checked.both_eq_ok_iff _ _ _ _).1 isWhat
  obtain ⟨description, confidence, -, isConfidence, rfl⟩ :=
    (Checked.both_eq_ok_iff _ _ _ _).1 areDetails
  obtain ⟨written, isWritten, rfl⟩ := (Checked.map_eq_ok_iff _ _ _).1 isConfidence
  exact ⟨isTitle, areSpans, written, isWritten, rfl⟩

theorem exists_members (isRead : ofJson document = .ok proposal) :
    ∃ members, document = .object members ∧ ofMembers members = .ok proposal := by
  cases document with
  | object members => exact ⟨members, rfl, isRead⟩
  | _ => exact absurd isRead (Checked.refuse_ne_ok _ _)

theorem trimmed_of_readTitle {title : Text} (isRead : readTitle document = .ok title) :
    title ≠ [] ∧ title.IsTrimmed := by
  obtain ⟨text, isText, rfl⟩ := (Checked.map_eq_ok_iff _ _ _).1 isRead
  obtain ⟨-, noFlaw⟩ := (Checked.obeying_eq_ok_iff _ _ _).1 isText
  refine ⟨fun isEmpty => ?_, text.trim_isTrimmed⟩
  rw [if_pos ((text.trim_eq_nil_iff).1 isEmpty)] at noFlaw
  split at noFlaw <;> contradiction

theorem title_of_ofJson (isRead : ofJson document = .ok proposal) :
    proposal.title ≠ [] ∧ proposal.title.IsTrimmed := by
  obtain ⟨members, rfl, areMembers⟩ := exists_members isRead
  obtain ⟨isTitle, -⟩ := parts_of_ofMembers areMembers
  obtain ⟨written, isWritten⟩ := Members.exists_of_required isTitle
  exact trimmed_of_readTitle isWritten

theorem spans_of_ofJson (isRead : ofJson document = .ok proposal) :
    proposal.spans ≠ [] ∧ ∀ span ∈ proposal.spans, span.IsSound := by
  obtain ⟨members, rfl, areMembers⟩ := exists_members isRead
  obtain ⟨-, areSpans, -⟩ := parts_of_ofMembers areMembers
  obtain ⟨written, isWritten⟩ := Members.exists_of_required areSpans
  obtain ⟨isList, noFlaw⟩ := (Checked.obeying_eq_ok_iff _ _ _).1 isWritten
  constructor
  · intro noSpan
    rw [noSpan] at noFlaw
    contradiction
  · intro span member
    obtain ⟨item, isItem⟩ := Reader.exists_of_list isList member
    exact DateSpan.isSound_of_ofJson isItem

/-! ### Confidence -/

/-- The values that are read as `nan`: the number of this name, and the texts that write it. -/
inductive WritesNaN : Json → Prop where
  | number : WritesNaN (.real .nan)
  | text {content : Text} (isNumeral : Binary64.ofNumeral? content = some .nan) :
      WritesNaN (.ofText content)

/-- The confidence that a document names is `nan`. -/
def NamesNaN (document : Json) : Prop :=
  ∃ value, document.member? "confidence".toList = some value ∧ WritesNaN value

/-- A degree of confidence between zero and one. -/
def IsDegree (confidence : Binary64) : Prop :=
  confidence.atLeast (.ofInt 0) = true ∧ (Binary64.ofInt 1).atLeast confidence = true

instance (confidence : Binary64) : Decidable (IsDegree confidence) :=
  inferInstanceAs (Decidable (_ ∧ _))

theorem not_isDegree_nan : ¬ IsDegree .nan := by
  rintro ⟨notNegative, -⟩
  contradiction

/-- The two comparisons leave `nan` alone, which is in no order with the bounds. -/
theorem admitConfidence_nan : admitConfidence .nan = .nan := by
  decide +kernel

/-- Whatever else they leave is between the bounds. -/
theorem isDegree_admitConfidence {written : Binary64} (isNumber : written ≠ .nan) :
    IsDegree (admitConfidence written) := by
  unfold admitConfidence
  split
  next inBounds =>
    simp only [isProbability, Bool.and_eq_true, Bool.not_eq_true'] at inBounds
    exact ⟨(Binary64.atLeast_iff _ _).2 ⟨⟨isNumber, Binary64.ofInt_ne_nan 0⟩, inBounds.1⟩,
      (Binary64.atLeast_iff _ _).2 ⟨⟨Binary64.ofInt_ne_nan 1, isNumber⟩, inBounds.2⟩⟩
  next => exact ⟨by decide +kernel, by decide +kernel⟩

theorem real_eq_nan_iff (value : Json) : Reader.real value = .ok .nan ↔ WritesNaN value := by
  constructor
  · intro isRead
    cases value with
    | real number =>
        obtain rfl := Except.ok.inj isRead
        exact .number
    | integer number =>
        simp only [Reader.real] at isRead
        split at isRead
        next => exact absurd (Except.ok.inj isRead) (Binary64.ofInt_ne_nan number)
        next => simp at isRead
    | bool flag => exact absurd (Except.ok.inj isRead) (Binary64.ofInt_ne_nan _)
    | string content =>
        cases isText : content.text? with
        | none => simp [Reader.real, Reader.textOf, isText, Checked.refuse, Except.bind] at isRead
        | some text =>
            obtain rfl := (LooseText.text?_eq_some_iff content text).1 isText
            apply WritesNaN.text
            simp only [Reader.real, Reader.textOf, isText, Except.bind, Reader.realOfText] at isRead
            split at isRead
            next number isNumber => rw [isNumber, Except.ok.inj isRead]
            next => simp at isRead
    | _ => exact absurd isRead (Checked.refuse_ne_ok _ _)
  · intro writes
    cases writes with
    | number => rfl
    | @text content isNumeral =>
        rw [Json.ofText, Reader.real, textOf_loose]
        simp [Except.bind, Reader.realOfText, isNumeral]

theorem writtenConfidence_eq_nan_iff (members : Members) :
    writtenConfidence members = .ok .nan ↔ NamesNaN (.object members) := by
  rw [writtenConfidence, Members.withDefault_eq_ok_iff]
  simp only [real_eq_nan_iff, Binary64.ofInt_ne_nan, and_false, or_false]
  rfl

/-- The confidence is a degree, unless the document names `nan`, which is kept. -/
theorem confidence_of_ofJson (isRead : ofJson document = .ok proposal) :
    (proposal.confidence = .nan ↔ NamesNaN document) ∧
      (IsDegree proposal.confidence ↔ ¬ NamesNaN document) := by
  obtain ⟨members, rfl, areMembers⟩ := exists_members isRead
  obtain ⟨-, -, written, isWritten, same⟩ := parts_of_ofMembers areMembers
  rw [same, ← writtenConfidence_eq_nan_iff, isWritten, Except.ok.injEq]
  by_cases isNaN : written = .nan
  · rw [isNaN, admitConfidence_nan]
    simp [not_isDegree_nan]
  · have isDegree := isDegree_admitConfidence isNaN
    have admitsNumber : admitConfidence written ≠ .nan := by
      intro admitsNaN
      rw [admitsNaN] at isDegree
      exact not_isDegree_nan isDegree
    simp [isNaN, isDegree, admitsNumber]

end Proposal

end Rendezvous
