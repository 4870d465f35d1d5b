import Rendezvous.Proofs.Assistant.Cleaning
import Rendezvous.Proofs.Session.Questions

/-!
Contract: what a message to an assistant can carry of a description.

Owns:
- `Question.spoken`, the characters of a text that say something, and `Question.IsDigest`, what
  may be left of a text;
- `Question.Quotes`, messages on one line of bounded length that quote what is left of a text;
- `Question.carries_spoken`: a cleaned text is a digest of the text, with all that the text says if
  it fits, and every question that is put quotes the description that it is about.

Does not own: which spaces stand between the words of a cleaned text (`Proofs.Assistant.Cleaning`).
-/

namespace Rendezvous

/-! ## Words without what separates them -/

namespace Text

variable {text word : Text} {written : List Text}

/-- The words of a text hold its characters that are no blanks, in their order. -/
theorem Splits.flatten_eq (splits : Splits text written) :
    written.flatten = text.filter fun c => !isBlank c := by
  induction splits with
  | nil => rfl
  | blank blank _ inductionHypothesis => rw [inductionHypothesis, List.filter_cons_of_neg (by simpa)]
  | alone notBlank _ _ inductionHypothesis | joined notBlank _ _ inductionHypothesis =>
      rw [List.filter_cons_of_pos (by simpa using notBlank), ← inductionHypothesis]
      rfl

theorem IsBlankFree.filter_ne_space (blankFree : word.IsBlankFree) :
    word.filter (· != ' ') = word := by
  apply List.filter_eq_self.2
  intro c member
  rw [bne_iff_ne]
  rintro rfl
  exact absurd (blankFree ' ' member) (by decide)

/-- Joined words without the spaces are the words one after the other. -/
theorem filter_ne_space_unwords (blankFree : ∀ word ∈ written, word.IsBlankFree) :
    (unwords written).filter (· != ' ') = written.flatten := by
  induction written with
  | nil => rfl
  | cons word others inductionHypothesis =>
      obtain ⟨isBlankFree, areOthers⟩ := List.forall_mem_cons.1 blankFree
      by_cases alone : others = []
      · subst alone
        rw [unwords, List.flatten_singleton, isBlankFree.filter_ne_space]
      · rw [unwords_cons alone, List.filter_append, isBlankFree.filter_ne_space,
          List.filter_cons_of_neg (by decide), inductionHypothesis areOthers, List.flatten_cons]

end Text

/-! ## Digests -/

namespace Question

/-- The characters of a text that say something, in their order. -/
def spoken (text : Text) : Text :=
  text.filter fun c => !Text.isBlank c && !isControl c

/-- A text as it is asked about, before it is cut to the limit. -/
def uncut (text : Text) : Text :=
  (Text.unwords text.words).filter fun c => !isControl c

/-- What may be left of a text: characters that say something, from the first one on, with nothing
but spaces between them. -/
structure IsDigest (payload text : Text) : Prop where
  only_spaces : ∀ c ∈ payload, Text.isBlank c = true → c = ' '
  no_control : ∀ c ∈ payload, isControl c = false
  short : payload.length ≤ 200
  in_order : payload.filter (· != ' ') <+: spoken text

theorem clean_eq_take (text : Text) : clean text = (uncut text).take 200 :=
  rfl

/-- Uncut, a text says all that it said. -/
theorem filter_ne_space_uncut (text : Text) : (uncut text).filter (· != ' ') = spoken text := by
  have spokenOnly : (spokenWords text).flatten = text.words.flatten.filter fun c => !isControl c := by
    rw [spokenWords, List.filter_flatten]
  rw [uncut, Text.filter_unwords rfl]
  change (Text.unwords (spokenWords text)).filter (· != ' ') = _
  rw [Text.filter_ne_space_unwords blankFree_spokenWords, spokenOnly, text.splits_words.flatten_eq,
    List.filter_filter, spoken]
  exact List.filter_congr fun c _ => Bool.and_comm _ _

theorem clean_isDigest (text : Text) : IsDigest (clean text) text where
  only_spaces _ member blank := eq_space_of_mem_clean member blank
  no_control _ member := isControl_of_mem_clean member
  short := length_clean_le text
  in_order := by
    rw [← filter_ne_space_uncut, clean_eq_take]
    exact (List.take_prefix _ _).filter _

theorem filter_ne_space_clean {text : Text} (fits : (uncut text).length ≤ 200) :
    (clean text).filter (· != ' ') = spoken text := by
  rw [clean_eq_take, List.take_of_length_le fits, filter_ne_space_uncut]

/-! ## Messages -/

/-- A message that quotes what is left of a text, on one line and of bounded length. -/
structure Quotes (message text : Text) : Prop where
  quoted : message = messageOf (clean text)
  one_line : ∀ c ∈ message, isControl c = false ∧ (Text.isBlank c = true → c = ' ')
  bounded : message.length ≤ 232

theorem quotes_clean (text : Text) : Quotes (messageOf (clean text)) text where
  quoted := rfl
  one_line := by
    have plain : "Parse this event description: \"".toList.all
        (fun c => !isControl c && (!Text.isBlank c || c == ' ')) = true := by
      decide +kernel
    intro c member
    unfold messageOf at member
    rw [List.mem_append, List.mem_append] at member
    rcases member with (inOpening | inPayload) | isQuote
    · have isPlain := List.all_eq_true.1 plain c inOpening
      rw [Bool.and_eq_true, Bool.or_eq_true, Bool.not_eq_true', Bool.not_eq_true'] at isPlain
      refine ⟨isPlain.1, fun blank => ?_⟩
      rcases isPlain.2 with notBlank | isSpace
      · exact absurd blank (Bool.eq_false_iff.1 notBlank)
      · exact beq_iff_eq.1 isSpace
    · exact ⟨isControl_of_mem_clean inPayload, eq_space_of_mem_clean inPayload⟩
    · rw [List.mem_singleton.1 isQuote]
      decide
  bounded := by
    have opening : "Parse this event description: \"".toList.length = 31 := by decide +kernel
    have short := length_clean_le text
    unfold messageOf
    rw [List.length_append, List.length_append, opening, List.length_singleton]
    omega

variable {question : Question} {text : Text} {today : Day}

theorem IsAbout.quotes (isAbout : question.IsAbout text today) : Quotes question.message text :=
  isAbout.message ▸ quotes_clean text

theorem exists_quotes_hold (text : Text) (today : Day) (client : Client) :
    ∃ asked : List Question,
      (Consultation.hold text today client).client.asked = client.asked ++ asked ∧
        ∀ question ∈ asked, Quotes question.message text := by
  by_cases isAsked : Consultation.IsAsked text today client
  · obtain ⟨question, isAbout, areAsked⟩ := Consultation.exists_asked isAsked
    exact ⟨[question], areAsked, List.forall_mem_singleton.2 isAbout.quotes⟩
  · rw [Consultation.client_of_unasked isAsked]
    exact ⟨[], (List.append_nil _).symm, List.forall_mem_nil _⟩

/-- What is left of a text holds nothing but spaces and characters that say something, from the
first one on and all of them if they fit.  The questions put by a consultation quote this, and so do
those put in a session, each about the text of a step. -/
theorem carries_spoken :
    (∀ text : Text, IsDigest (clean text) text ∧
      ((uncut text).length ≤ 200 → (clean text).filter (· != ' ') = spoken text)) ∧
    (∀ (text : Text) (today : Day) (client : Client), ∃ asked : List Question,
      (Consultation.hold text today client).client.asked = client.asked ++ asked ∧
        ∀ question ∈ asked, Quotes question.message text) ∧
    ∀ (session : Session) (steps : List Session.Step), ∃ asked : List Question,
      (session.reached steps).questions = session.questions ++ asked ∧
        ∀ question ∈ asked, ∃ text now, (.read text now ∈ steps ∨ .propose text now ∈ steps) ∧
          Quotes question.message text := by
  refine ⟨fun text => ⟨clean_isDigest text, filter_ne_space_clean⟩, exists_quotes_hold, ?_⟩
  intro session steps
  obtain ⟨asked, -, areAsked, areAbout⟩ := session.exists_questions_reached steps
  refine ⟨asked, areAsked, fun question isAsked => ?_⟩
  obtain ⟨text, now, isStep, isAbout⟩ := areAbout question isAsked
  exact ⟨text, now, isStep, isAbout.quotes⟩

/-- A line separator and a no-break space become spaces, and a control character is dropped. -/
example : clean "Tea\u2028at\u00a0seven\x00 ".toList = "Tea at seven".toList := by
  decide +kernel

end Question

end Rendezvous
