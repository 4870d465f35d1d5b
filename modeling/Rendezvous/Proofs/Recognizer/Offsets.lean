import Mathlib.Data.List.Forall2
import Rendezvous.Proofs.Calendar.Day
import Rendezvous.Proofs.Recognizer.TimeWords
import Rendezvous.Proofs.Result

/-!
Contract: mentions keep their places in a text when time words are left out of them.

Owns:
- `Mention.IsPlacedIn`, mentions with the place and the text of a piece of a text;
- `Recognizer.refine_cases`, what becomes of an entry of the recognizer;
- `Recognizer.KeepsPlace`, how the mention in its place differs from it;
- `Recognizer.extract_keepsPlaces`: the mentions of a text keep the places of their entries one by
  one, and their order.
-/

namespace Rendezvous

/-! ## Places -/

/-- Whether a mention has the text that stands between its start and its stop. -/
structure Mention.IsPlacedIn (mention : Mention) (text : Text) : Prop where
  start_nonneg : 0 ≤ mention.start
  ordered : mention.start ≤ mention.stop
  inside : mention.stop ≤ text.length
  piece : text.piece mention.start mention.stop = mention.text

theorem Text.clampIndex_natCast {size index : Nat} (inside : index ≤ size) :
    clampIndex size index = index := by
  rw [clampIndex, if_neg (by omega), Int.toNat_natCast, Nat.min_eq_left inside]

theorem Text.piece_append (before piece behind : Text) :
    Text.piece (before ++ (piece ++ behind)) before.length (before.length + piece.length) =
      piece := by
  rw [Text.piece, ← Int.natCast_add, clampIndex_natCast (by simp), clampIndex_natCast (by simp),
    List.take_length_add_append, List.take_left, List.drop_left]

/-- Something stands before a mention, and something behind it. -/
theorem Mention.isPlacedIn_iff (mention : Mention) (text : Text) :
    mention.IsPlacedIn text ↔ ∃ before behind, text = before ++ (mention.text ++ behind) ∧
      mention.start = before.length ∧ mention.stop = before.length + mention.text.length := by
  constructor
  · rintro ⟨startNonneg, ordered, inside, piece⟩
    obtain ⟨start, isStart⟩ := Int.eq_ofNat_of_zero_le startNonneg
    obtain ⟨stop, isStop⟩ := Int.eq_ofNat_of_zero_le (Int.le_trans startNonneg ordered)
    rw [isStart, isStop] at piece ordered
    rw [isStop] at inside
    rw [Text.piece, Text.clampIndex_natCast (by omega), Text.clampIndex_natCast (by omega)] at piece
    have front : text.take start = (text.take stop).take start := by
      rw [List.take_take, Nat.min_eq_left (by omega)]
    refine ⟨text.take start, text.drop stop, ?_, ?_, ?_⟩
    · rw [← piece, ← List.append_assoc, front, List.take_append_drop, List.take_append_drop]
    · rw [isStart, List.length_take]
      omega
    · rw [isStop, ← piece, List.length_drop, List.length_take, List.length_take]
      omega
  · rintro ⟨before, behind, rfl, isStart, isStop⟩
    refine ⟨by omega, by omega, ?_, ?_⟩
    · rw [isStop]
      simp only [List.length_append]
      omega
    · rw [isStart, isStop]
      exact Text.piece_append before mention.text behind

namespace Recognizer

/-! ## One entry -/

variable {recognizer : Recognizer} {now : Moment} {entry mention : Mention} {lead rest text : Text}

/-- An entry without a time word in front stays as it is, and one with a time word is read again
without it. -/
theorem refine_cases (recognizer : Recognizer) (now : Moment) (entry : Mention) :
    (∃ lead rest, entry.text.IsLedBy lead rest ∧
      recognizer.refine now entry = (recognizer.reading? rest now).map fun outcome =>
        (outcome.elim entry (entry.reread lead.length)).withStatedTime) ∨
    (∀ lead rest, ¬ entry.text.IsLedBy lead rest) ∧
      recognizer.refine now entry = .ok entry.withStatedTime := by
  rw [refine, withoutTimeWord]
  cases isFound : leadingTimeWord.matchStart? entry.text with
  | none =>
      refine Or.inr ⟨fun lead rest isLed => ?_, rfl⟩
      obtain ⟨found, isMatch⟩ := isLed.exists_match
      rw [isFound] at isMatch
      contradiction
  | some found =>
      obtain ⟨lead, rest, isLed, stop⟩ := Text.stop_of_leadingTimeWord isFound
      refine Or.inl ⟨lead, rest, isLed, ?_⟩
      simp only [stop, isLed.drop_eq]
      cases recognizer.reading? rest now with
      | error fault => rfl
      | ok outcome => cases outcome <;> rfl

/-- How a mention differs from the entry that it stands for.  It ends at the same place, and begins
later exactly if the recognizer knows what follows a time word in front. -/
structure KeepsPlace (recognizer : Recognizer) (text : Text) (now : Moment)
    (entry mention : Mention) : Prop where
  placed : mention.IsPlacedIn text
  stop : mention.stop = entry.stop
  start_le : entry.start ≤ mention.start
  start_lt_iff : entry.start < mention.start ↔ ∃ lead rest reading,
    entry.text.IsLedBy lead rest ∧ recognizer.reading? rest now = .ok (some reading)
  /-- What is skipped is the time word with its blanks, and the reading is that of the rest. -/
  later : ∀ lead rest reading, entry.text.IsLedBy lead rest →
    recognizer.reading? rest now = .ok (some reading) →
      text.piece entry.start mention.start = lead ∧ mention.text = rest ∧
        mention.value = reading.value ∧ mention.hasDate = reading.hasDate
  same : mention.start = entry.start →
    mention.text = entry.text ∧ mention.value = entry.value ∧ mention.hasDate = entry.hasDate
  time : mention.hasTime = true → mention.text.StatesTime

theorem statesTime_of_withStatedTime (timed : entry.withStatedTime.hasTime = true) :
    entry.withStatedTime.text.StatesTime := by
  rw [← Text.occursIn_statedTime_iff]
  exact (Bool.and_eq_true_iff.1 timed).2

theorem keepsPlace_whole (placed : entry.IsPlacedIn text)
    (unread : ∀ lead rest, entry.text.IsLedBy lead rest →
      ∀ reading, recognizer.reading? rest now ≠ .ok (some reading)) :
    recognizer.KeepsPlace text now entry entry.withStatedTime where
  placed := ⟨placed.start_nonneg, placed.ordered, placed.inside, placed.piece⟩
  stop := rfl
  start_le := Int.le_refl entry.start
  start_lt_iff := by
    refine iff_of_false (Int.lt_irrefl entry.start) ?_
    rintro ⟨lead, rest, reading, isLed, isReading⟩
    exact unread lead rest isLed reading isReading
  later lead rest reading isLed isReading := absurd isReading (unread lead rest isLed reading)
  same _ := ⟨rfl, rfl, rfl⟩
  time := statesTime_of_withStatedTime

theorem keepsPlace_cut (placed : entry.IsPlacedIn text) (isLed : entry.text.IsLedBy lead rest)
    {reading : Reading} (isReading : recognizer.reading? rest now = .ok (some reading)) :
    recognizer.KeepsPlace text now entry (entry.reread lead.length reading).withStatedTime := by
  obtain ⟨before, behind, whole, isStart, isStop⟩ := (entry.isPlacedIn_iff text).1 placed
  have longer := isLed.length_pos
  have parts : text = before ++ (lead ++ (rest ++ behind)) := by
    rw [whole, isLed.whole, List.append_assoc]
  have isRest : (entry.reread lead.length reading).withStatedTime.text = rest :=
    isLed.drop_eq
  have isLater : (entry.reread lead.length reading).withStatedTime.start =
      before.length + lead.length :=
    congrArg (· + (lead.length : Int)) isStart
  refine ⟨?_, rfl, Int.le_add_of_nonneg_right (by omega), ?_, ?_, ?_, statesTime_of_withStatedTime⟩
  · rw [Mention.isPlacedIn_iff]
    refine ⟨before ++ lead, behind, ?_, ?_, ?_⟩
    · rw [isRest, parts, List.append_assoc]
    · rw [isLater, List.length_append, Int.natCast_add]
    · rw [isRest, show (entry.reread lead.length reading).withStatedTime.stop = entry.stop from rfl,
        isStop, isLed.whole]
      simp only [List.length_append]
      omega
  · exact iff_of_true (Int.lt_add_of_pos_right entry.start (by omega))
      ⟨lead, rest, reading, isLed, isReading⟩
  · intro otherLead otherRest otherReading isOther isOtherReading
    obtain ⟨rfl, rfl⟩ := isLed.unique isOther
    obtain rfl := Option.some.inj (Except.ok.inj (isReading.symm.trans isOtherReading))
    refine ⟨?_, isRest, rfl, rfl⟩
    rw [parts, isStart, isLater]
    exact Text.piece_append before lead (rest ++ behind)
  · intro unmoved
    have moved : entry.start + lead.length = entry.start := unmoved
    omega

/-- What becomes of an entry in its place keeps that place. -/
theorem keepsPlace_of_refine (placed : entry.IsPlacedIn text)
    (isRefined : recognizer.refine now entry = .ok mention) :
    recognizer.KeepsPlace text now entry mention := by
  rcases recognizer.refine_cases now entry with ⟨lead, rest, isLed, reread⟩ | ⟨notLed, same⟩
  · rw [reread, Result.map_eq_ok_iff] at isRefined
    obtain ⟨outcome, isOutcome, rfl⟩ := isRefined
    cases outcome with
    | none =>
        apply keepsPlace_whole placed
        intro otherLead otherRest isOther reading isReading
        obtain ⟨-, rfl⟩ := isLed.unique isOther
        rw [isOutcome] at isReading
        cases isReading
    | some reading => exact keepsPlace_cut placed isLed isOutcome
  · obtain rfl := Except.ok.inj (same.symm.trans isRefined)
    exact keepsPlace_whole placed fun lead rest isLed => absurd isLed (notLed lead rest)

/-- An entry comes to a mention unless the recognizer fails at the rest of its text. -/
theorem exists_refine_iff (recognizer : Recognizer) (now : Moment) (entry : Mention) :
    (∃ mention, recognizer.refine now entry = .ok mention) ↔
      ∀ lead rest, entry.text.IsLedBy lead rest →
        ∃ outcome, recognizer.reading? rest now = .ok outcome := by
  rcases recognizer.refine_cases now entry with ⟨lead, rest, isLed, reread⟩ | ⟨notLed, same⟩
  · constructor
    · rintro ⟨mention, isRefined⟩ otherLead otherRest isOther
      obtain ⟨-, rfl⟩ := isLed.unique isOther
      rw [reread, Result.map_eq_ok_iff] at isRefined
      obtain ⟨outcome, isOutcome, -⟩ := isRefined
      exact ⟨outcome, isOutcome⟩
    · intro answers
      obtain ⟨outcome, isOutcome⟩ := answers lead rest isLed
      rw [reread, isOutcome]
      exact ⟨_, rfl⟩
  · exact iff_of_true ⟨_, same⟩ fun lead rest isLed => absurd isLed (notLed lead rest)

/-! ## All entries -/

variable {entries mentions : List Mention}

theorem extract_of_mentions (notBlank : text.isAllBlank = false)
    (areEntries : recognizer.mentions text now = .ok entries) :
    recognizer.extract text now = entries.mapM (recognizer.refine now) := by
  rw [extract, notBlank, areEntries]
  rfl

/-- Mentions are in order if their entries are, since they begin later at most. -/
theorem pairwise_of_keepsPlace
    (keep : List.Forall₂ (recognizer.KeepsPlace text now) entries mentions)
    (ordered : entries.Pairwise fun earlier later => earlier.stop ≤ later.start) :
    mentions.Pairwise fun earlier later => earlier.stop ≤ later.start := by
  induction keep with
  | nil => exact List.Pairwise.nil
  | cons first others inductionHypothesis =>
      obtain ⟨before, further⟩ := List.pairwise_cons.1 ordered
      refine List.pairwise_cons.2 ⟨fun mention isLater => ?_, inductionHypothesis further⟩
      obtain ⟨entry, isEntry, keeps⟩ := exists_of_forall₂ others isLater
      rw [first.stop]
      exact Int.le_trans (before entry isEntry) keeps.start_le

/-- Mentions can be extracted from a text exactly if the recognizer does not fail at the rest of an
entry with a time word in front.  There is one for each entry, in its place, and in their order. -/
theorem extract_keepsPlaces (recognizer : Recognizer) (text : Text) (now : Moment)
    (entries : List Mention) (notBlank : text.isAllBlank = false)
    (areEntries : recognizer.mentions text now = .ok entries)
    (placed : ∀ entry ∈ entries, entry.IsPlacedIn text) :
    ((∃ mentions, recognizer.extract text now = .ok mentions) ↔
      ∀ entry ∈ entries, ∀ lead rest, entry.text.IsLedBy lead rest →
        ∃ outcome, recognizer.reading? rest now = .ok outcome) ∧
    ∀ mentions, recognizer.extract text now = .ok mentions →
      List.Forall₂ (recognizer.KeepsPlace text now) entries mentions ∧
      (entries.Pairwise (fun earlier later => earlier.stop ≤ later.start) →
        mentions.Pairwise fun earlier later => earlier.stop ≤ later.start) := by
  rw [extract_of_mentions notBlank areEntries]
  constructor
  · constructor
    · rintro ⟨mentions, areMentions⟩ entry isEntry
      obtain ⟨mention, -, isRefined⟩ := Result.exists_of_mapM areMentions isEntry
      exact (exists_refine_iff recognizer now entry).1 ⟨mention, isRefined⟩
    · intro answers
      apply Result.exists_mapM
      exact fun entry isEntry => (exists_refine_iff recognizer now entry).2 (answers entry isEntry)
  · intro mentions areMentions
    have each := (Result.mapM_eq_ok_iff _ _ _).1 areMentions
    rw [← List.forall₂_eq_eq_eq, List.forall₂_map_left_iff, List.forall₂_map_right_iff] at each
    have keep : List.Forall₂ (recognizer.KeepsPlace text now) entries mentions :=
      ((List.forall₂_and_left entries mentions).2 ⟨placed, each⟩).imp
        fun entry mention both => keepsPlace_of_refine both.1 both.2
    exact ⟨keep, pairwise_of_keepsPlace keep⟩

/-- 24 January 2025 at ten in the evening. -/
def fridayEvening : Moment :=
  ⟨⟨739275, by decide, by decide⟩, { Clock.midnight with hour := ⟨22, by decide⟩ }⟩

/-- The entries of "Movie night next friday at 10pm and dinner". -/
def movieNight : List Mention := [
  ⟨"night next friday at 10pm".toList, 6, 31, fridayEvening, true, true⟩,
  ⟨"dinner".toList, 36, 42, fridayEvening, false, true⟩]

/-- A recognizer that takes the night to the friday, but knows the friday alone as well. -/
def movieRecognizer : Recognizer :=
  ofTable {
    mentions := [("Movie night next friday at 10pm and dinner".toList, movieNight)]
    readings := [("next friday at 10pm".toList, ⟨fridayEvening, true, true⟩)] }

/-- The night belongs to the movie. -/
theorem extract_movieNight :
    ∃ mentions, movieRecognizer.extract "Movie night next friday at 10pm and dinner".toList
        (.midnight .january15) = .ok mentions ∧
      (mentions.Pairwise fun earlier later => earlier.stop ≤ later.start) ∧
      ∃ mention ∈ mentions, mention.text = "next friday at 10pm".toList ∧
        Text.piece "Movie night next friday at 10pm and dinner".toList 6 mention.start =
          "night ".toList := by
  have placed : ∀ entry ∈ movieNight,
      entry.IsPlacedIn "Movie night next friday at 10pm and dinner".toList := by
    intro entry isEntry
    rcases List.mem_cons.1 isEntry with rfl | isEntry
    · exact ⟨by decide, by decide, by decide, by decide⟩
    · obtain rfl := List.mem_singleton.1 isEntry
      exact ⟨by decide, by decide, by decide, by decide⟩
  obtain ⟨answers, keep⟩ := extract_keepsPlaces movieRecognizer _ (.midnight .january15)
    movieNight (by decide) (by decide +kernel) placed
  obtain ⟨mentions, areMentions⟩ := answers.2 fun _ _ _ rest _ => ⟨_, rfl⟩
  obtain ⟨keeps, ordered⟩ := keep mentions areMentions
  have isLed : Text.IsLedBy "night next friday at 10pm".toList "night ".toList
      "next friday at 10pm".toList := by
    refine ⟨by decide, ⟨"night", by decide, "night".toList, [' '], ?_⟩, by decide⟩
    exact ⟨by decide, by decide, by decide, List.forall_mem_singleton.2 (by decide)⟩
  cases keeps with
  | cons night others =>
      obtain ⟨skipped, isRest, -⟩ := night.later _ _ ⟨fridayEvening, true, true⟩ isLed rfl
      exact ⟨_, areMentions, ordered (by decide), _, List.mem_cons_self, isRest, skipped⟩

end Recognizer

end Rendezvous
