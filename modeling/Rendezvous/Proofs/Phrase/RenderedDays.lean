import Rendezvous.Phrase.Draft
import Rendezvous.Proofs.Phrase.Separators
import Rendezvous.Proofs.Recurrence.Expand

/-!
Contract: the weekdays that are read off a list as the expressions accept it, in any script.

Owns:
- `RenderedDay` and `RenderedList`, weekdays written with any characters that stand for their
  letters, and the separators between them;
- `RenderedList.exists_of_admits`: the expressions of lists admit nothing else;
- `RenderedDay.IsLegible`, weekdays whose short name is there in lower case;
- `RenderedList.IsRead`: the legible weekdays of a list are those that are read off it, by both
  ways of reading one;
- `DayList.mem_ofText`: of a list in small and capital letters those are all that it names.

A separator has small and capital letters only, since nothing else stands for the letters of "and".
-/

namespace Rendezvous

/-- A word as its expression accepts it. -/
structure Rendering (name : String) where
  text : Text
  stands : Text.Stands name.toList text

/-- A weekday of a list as it is accepted, or several of them. -/
structure RenderedDay where
  weekday : Weekday
  rendering : Rendering weekday.word
  plural : Option (Rendering "s")

/-- Weekdays as they are accepted, with what separates each from the one before it. -/
structure RenderedList where
  first : RenderedDay
  others : List (Separator × RenderedDay)

theorem exists_rendering {name : String} {piece : Text}
    (admits : (Pattern.Expr.word name : Pattern.Expr Part).Admits piece) :
    ∃ rendering : Rendering name, rendering.text = piece :=
  ⟨⟨piece, Pattern.Expr.stands_of_admits_word admits⟩, rfl⟩

/-! ## One weekday -/

namespace RenderedDay

def text (named : RenderedDay) : Text :=
  named.rendering.text ++ named.plural.elim [] Rendering.text

/-- No letter of the short name is a long s or a dotless i. -/
def IsLegible (named : RenderedDay) : Prop :=
  (named.rendering.text.take 3).any Text.isStray = false

instance (named : RenderedDay) : Decidable named.IsLegible :=
  inferInstanceAs (Decidable (_ = _))

/-- The lower cases of weekdays and their plurals. -/
def modelsOf (weekday : Weekday) : List (Text × Text) :=
  (Text.models weekday.word.toList).flatMap fun model =>
    ([] :: Text.models "s".toList).map fun plural => (model, (model ++ plural).lower)

theorem exists_pluralModel (plural : Option (Rendering "s")) :
    ∃ model ∈ [] :: Text.models "s".toList,
      Text.lower model = Text.lower (plural.elim [] Rendering.text) := by
  cases plural with
  | none => exact ⟨[], List.mem_cons_self, rfl⟩
  | some rendering =>
      obtain ⟨model, isModel, alike⟩ := rendering.stands.exists_model isSmallWord_s.small
      exact ⟨model, List.mem_cons_of_mem _ isModel, Text.lower_eq_of_alike alike⟩

/-- In lower case a weekday is one of a few texts. -/
theorem exists_model (named : RenderedDay) :
    ∃ model ∈ modelsOf named.weekday, model.2 = named.text.lower ∧
      ((model.1.take 3).any Text.isStray = false ↔ named.IsLegible) := by
  obtain ⟨model, isModel, alike⟩ :=
    named.rendering.stands.exists_model named.weekday.isSmallWord.small
  obtain ⟨plural, isPlural, ending⟩ := exists_pluralModel named.plural
  refine ⟨(model, Text.lower (model ++ plural)), ?_, ?_, ?_⟩
  · exact List.mem_flatMap.2 ⟨model, isModel, List.mem_map_of_mem isPlural⟩
  · rw [text, Text.lower_append, Text.lower_append, Text.lower_eq_of_alike alike, ending]
  · rw [IsLegible, ← Text.any_of_alike (List.forall₂_take 3 alike) Text.Alike.stray]

/-- In a weekday no name of another one occurs, and its own ones only if it is legible. -/
theorem of_occursIn (named : RenderedDay) {mention : Text × Int}
    (isMention : mention ∈ Selector.mentions)
    (occurs : mention.1.occursIn named.text.lower = true) :
    mention.2 = named.weekday.val ∧ named.IsLegible := by
  have all : ∀ weekday : Weekday, ∀ model ∈ modelsOf weekday, ∀ mention ∈ Selector.mentions,
      mention.1.occursIn model.2 = true →
        mention.2 = weekday.val ∧ (model.1.take 3).any Text.isStray = false := by
    decide +kernel
  obtain ⟨model, isModel, same, legible⟩ := named.exists_model
  obtain ⟨number, isLegible⟩ := all _ model isModel mention isMention (same ▸ occurs)
  exact ⟨number, legible.1 isLegible⟩

theorem exists_mention {named : RenderedDay} (isLegible : named.IsLegible) :
    ∃ mention ∈ Selector.mentions, mention.2 = named.weekday.val ∧
      mention.1.occursIn named.text.lower = true := by
  have all : ∀ weekday : Weekday, ∀ model ∈ modelsOf weekday,
      (model.1.take 3).any Text.isStray = false →
        ∃ mention ∈ Selector.mentions, mention.2 = weekday.val ∧
          mention.1.occursIn model.2 = true := by
    decide +kernel
  obtain ⟨model, isModel, same, legible⟩ := named.exists_model
  exact same ▸ all _ model isModel (legible.2 isLegible)

theorem lower_lower (named : RenderedDay) : named.text.lower.lower = named.text.lower := by
  have all : ∀ weekday : Weekday, ∀ model ∈ modelsOf weekday, model.2.lower = model.2 := by
    decide +kernel
  obtain ⟨model, isModel, same, -⟩ := named.exists_model
  exact same ▸ all _ model isModel

/-- No weekday begins like the other kinds of days. -/
theorem not_prefix (named : RenderedDay) {kind : Text}
    (isKind : kind ∈ ["weekend".toList, "weekday".toList, "day".toList]) (behind : Text) :
    ¬ kind <+: named.text.lower ++ behind := by
  have all : ∀ weekday : Weekday, ∀ model ∈ modelsOf weekday,
      ∀ kind ∈ ["weekend".toList, "weekday".toList, "day".toList],
        ¬ kind <+: model.2 ∧ ¬ model.2 <+: kind := by
    decide +kernel
  obtain ⟨model, isModel, same, -⟩ := named.exists_model
  obtain ⟨notShorter, notLonger⟩ := all _ model isModel kind isKind
  rw [same] at notShorter notLonger
  intro begins
  rcases List.prefix_or_prefix_of_prefix begins (List.prefix_append _ _) with shorter | longer
  · exact notShorter shorter
  · exact notLonger longer

end RenderedDay

/-! ## Lists -/

namespace RenderedList

/-- What stands behind the first weekday. -/
def furtherText (others : List (Separator × RenderedDay)) : Text :=
  others.flatMap fun further => further.1.text ++ further.2.text

def text (list : RenderedList) : Text :=
  list.first.text ++ furtherText list.others

def days (list : RenderedList) : List RenderedDay :=
  list.first :: list.others.map (·.2)

/-- The weekdays that a list names. -/
def Names (list : RenderedList) (weekday : Weekday) : Prop :=
  ∃ named ∈ list.days, named.weekday = weekday

/-- The weekdays that a list names in a legible way. -/
def NamesLegibly (list : RenderedList) (weekday : Weekday) : Prop :=
  ∃ named ∈ list.days, named.weekday = weekday ∧ named.IsLegible

instance (list : RenderedList) (weekday : Weekday) : Decidable (list.NamesLegibly weekday) :=
  inferInstanceAs (Decidable (∃ named ∈ list.days, named.weekday = weekday ∧ named.IsLegible))

theorem furtherText_cons (separator : Separator) (named : RenderedDay)
    (others : List (Separator × RenderedDay)) :
    (furtherText ((separator, named) :: others)).lower =
      separator.text.lower ++ (named.text.lower ++ (furtherText others).lower) := by
  rw [furtherText, List.flatMap_cons, Text.lower_append, Text.lower_append, List.append_assoc]
  rfl

/-- A name of a weekday occurs in a list where it occurs in one of its weekdays. -/
theorem occursIn_furtherText {mention : Text × Int} (isMention : mention ∈ Selector.mentions)
    (front : Text) (others : List (Separator × RenderedDay)) :
    mention.1.occursIn (front ++ (furtherText others).lower) = true ↔
      mention.1.occursIn front = true ∨
        ∃ named ∈ others.map (·.2), mention.1.occursIn named.text.lower = true := by
  induction others generalizing front with
  | nil =>
      have noText : (furtherText []).lower = [] := rfl
      rw [noText, List.append_nil]
      simp
  | cons further others inductionHypothesis =>
      rw [furtherText_cons, occursIn_append_separator isMention, Bool.or_eq_true,
        inductionHypothesis]
      simp only [List.map_cons, List.mem_cons, exists_eq_or_imp]

theorem occursIn_iff {mention : Text × Int} (isMention : mention ∈ Selector.mentions)
    (list : RenderedList) :
    mention.1.occursIn list.text.lower = true ↔
      ∃ named ∈ list.days, mention.1.occursIn named.text.lower = true := by
  rw [text, Text.lower_append, occursIn_furtherText isMention, days]
  simp only [List.mem_cons, exists_eq_or_imp]

theorem lower_lower (list : RenderedList) : list.text.lower.lower = list.text.lower := by
  have further : ∀ others : List (Separator × RenderedDay),
      (furtherText others).lower.lower = (furtherText others).lower := by
    intro others
    induction others with
    | nil => rfl
    | cons further others inductionHypothesis =>
        rw [furtherText_cons, Text.lower_append, Text.lower_append, inductionHypothesis,
          further.2.lower_lower, Text.lower_lower further.1.isPlain]
  rw [text, Text.lower_append, Text.lower_append, list.first.lower_lower, further]

/-- The weekdays read off a list are those that it names in a legible way. -/
theorem mem_ofText (list : RenderedList) (weekday : Weekday) :
    (weekday.val : Int) ∈ Selector.ofText list.text ↔ list.NamesLegibly weekday := by
  rw [Selector.mem_ofText]
  constructor
  · rintro ⟨mention, isMention, number, occurs⟩
    obtain ⟨named, isNamed, occursInDay⟩ := (list.occursIn_iff isMention).1 occurs
    obtain ⟨ownNumber, isLegible⟩ := named.of_occursIn isMention occursInDay
    refine ⟨named, isNamed, ?_, isLegible⟩
    apply Fin.ext
    omega
  · rintro ⟨named, isNamed, rfl, isLegible⟩
    obtain ⟨mention, isMention, number, occurs⟩ := RenderedDay.exists_mention isLegible
    exact ⟨mention, isMention, number, (list.occursIn_iff isMention).2 ⟨named, isNamed, occurs⟩⟩

theorem mem_ofText_lower (list : RenderedList) (weekday : Weekday) :
    (weekday.val : Int) ∈ Selector.ofText list.text.lower ↔ list.NamesLegibly weekday := by
  rw [← list.mem_ofText, Selector.mem_ofText, Selector.mem_ofText, list.lower_lower]

/-- A list is none of the other kinds of days. -/
theorem selectorOf_text (list : RenderedList) :
    Phrase.selectorOf list.text = Selector.ofText list.text.lower := by
  have notKind : ∀ kind ∈ ["weekend".toList, "weekday".toList, "day".toList],
      ¬ kind <+: list.text.lower := by
    intro kind isKind
    rw [text, Text.lower_append]
    exact list.first.not_prefix isKind _
  have notDay : Text.dropEndWhile (· == 's') list.text.lower ≠ "day".toList := by
    intro isDay
    apply notKind "day".toList (by simp)
    rw [← isDay, Text.dropEndWhile, ← List.reverse_suffix, List.reverse_reverse]
    exact List.dropWhile_suffix _
  rw [Phrase.selectorOf, if_neg, if_neg, if_neg notDay]
  · rw [Text.beginsWith, List.isPrefixOf_iff_prefix]
    exact notKind "weekday".toList (by simp)
  · rw [Text.beginsWith, List.isPrefixOf_iff_prefix]
    exact notKind "weekend".toList (by simp)

/-- How the weekdays of a list are read: those named in a legible way are selected, and no
others, so the selector is that of the list exactly if each of its weekdays is legible somewhere
in it. -/
structure IsRead (list : RenderedList) (selector : Selector) : Prop where
  members : ∀ number, number ∈ selector ↔
    ∃ weekday : Weekday, number = weekday.val ∧ list.NamesLegibly weekday
  agrees : (∀ weekday : Weekday, (weekday.val : Int) ∈ selector ↔ list.Names weekday) ↔
    ∀ weekday, list.Names weekday → list.NamesLegibly weekday

theorem isRead_of_mem {list : RenderedList} {selector : Selector}
    (areWeekdays : ∀ number ∈ selector, ∃ weekday : Weekday, number = weekday.val)
    (reads : ∀ weekday : Weekday, (weekday.val : Int) ∈ selector ↔ list.NamesLegibly weekday) :
    list.IsRead selector := by
  constructor
  · intro number
    constructor
    · intro isMember
      obtain ⟨weekday, rfl⟩ := areWeekdays number isMember
      exact ⟨weekday, rfl, (reads weekday).1 isMember⟩
    · rintro ⟨weekday, rfl, isLegible⟩
      exact (reads weekday).2 isLegible
  · constructor
    · intro agrees weekday isNamed
      exact (reads weekday).1 ((agrees weekday).2 isNamed)
    · intro areLegible weekday
      rw [reads]
      exact ⟨fun ⟨named, isNamed, same, _⟩ => ⟨named, isNamed, same⟩, areLegible weekday⟩

theorem exists_weekday_of_mem {text : Text} {number : Int} (isMember : number ∈ Selector.ofText text) :
    ∃ weekday : Weekday, number = weekday.val := by
  have all : ∀ mention ∈ Selector.mentions, ∃ weekday : Weekday, mention.2 = weekday.val := by
    decide
  obtain ⟨mention, isMention, rfl, -⟩ := (Selector.mem_ofText number text).1 isMember
  exact all mention isMention

theorem isRead_ofText (list : RenderedList) : list.IsRead (Selector.ofText list.text) :=
  isRead_of_mem (fun _ => exists_weekday_of_mem) list.mem_ofText

theorem isRead_selectorOf (list : RenderedList) : list.IsRead (Phrase.selectorOf list.text) := by
  rw [selectorOf_text]
  exact isRead_of_mem (fun _ => exists_weekday_of_mem) list.mem_ofText_lower

end RenderedList

/-! ## What the expressions admit -/

section Admitting

open Pattern Pattern.Expr

variable {piece : Text} {entry further : Expr Part}

theorem exists_weekday (admits : Phrase.dayName.Admits piece) :
    ∃ (weekday : Weekday) (rendering : Rendering weekday.word), rendering.text = piece := by
  have words : ∀ name ∈ ["sunday", "monday", "tuesday", "wednesday", "thursday", "friday",
      "saturday"], ∃ weekday : Weekday, weekday.word = name := by
    decide
  obtain ⟨name, isName, admitsName⟩ := admits_wordOf admits
  obtain ⟨weekday, rfl⟩ := words name isName
  exact ⟨weekday, exists_rendering admitsName⟩

/-- The expressions of the entries of lists. -/
def entryForms : List (Expr Part) :=
  [Phrase.dayName, Phrase.dayNameOrNames, Phrase.dayNames]

theorem RenderedDay.exists_of_admits (isEntry : entry ∈ entryForms) (admits : entry.Admits piece) :
    ∃ named : RenderedDay, named.text = piece := by
  have either : ∃ front back, piece = front ++ back ∧ Phrase.dayName.Admits front ∧
      ((letter 's' : Expr Part).Admits back ∨ back = []) := by
    simp only [entryForms, List.mem_cons, List.not_mem_nil, or_false] at isEntry
    rcases isEntry with rfl | rfl | rfl
    · exact ⟨piece, [], (List.append_nil piece).symm, admits, Or.inr rfl⟩
    · obtain ⟨front, back, split, admitsDay, admitsPlural⟩ := admits_seq admits
      exact ⟨front, back, split, admitsDay, admits_opt admitsPlural⟩
    · obtain ⟨front, back, split, admitsDay, admitsPlural⟩ := admits_seq admits
      exact ⟨front, back, split, admitsDay, Or.inl admitsPlural⟩
  obtain ⟨front, back, rfl, admitsDay, plural⟩ := either
  obtain ⟨weekday, rendering, rfl⟩ := exists_weekday admitsDay
  rcases plural with admitsPlural | rfl
  · have isWord : (word "s" : Expr Part).Admits back := admitsPlural
    obtain ⟨plural, rfl⟩ := exists_rendering isWord
    exact ⟨⟨weekday, rendering, some plural⟩, rfl⟩
  · exact ⟨⟨weekday, rendering, none⟩, rfl⟩

/-- What stands behind a weekday of a list: a separator and another weekday. -/
def IsFurther (further : Expr Part) : Prop :=
  ∀ piece, further.Admits piece →
    ∃ (separator : Separator) (named : RenderedDay), separator.text ++ named.text = piece

theorem isFurther_separator (isEntry : entry ∈ entryForms) :
    IsFurther (seq Phrase.separator entry) := by
  intro piece admits
  obtain ⟨front, back, rfl, admitsSeparator, admitsEntry⟩ := admits_seq admits
  obtain ⟨separator, rfl⟩ := Separator.exists_of_admits admitsSeparator
  obtain ⟨named, rfl⟩ := RenderedDay.exists_of_admits isEntry admitsEntry
  exact ⟨separator, named, rfl⟩

theorem isFurther_furtherDay : IsFurther Phrase.furtherDay := by
  intro piece admits
  obtain ⟨front, back, rfl, admitsBefore, admitsBack⟩ := admits_inRow_cons admits
  obtain ⟨before, rfl⟩ := exists_gap admitsBefore
  obtain ⟨middle, rest, rfl, admitsAnd, admitsRest⟩ := admits_inRow_cons admitsBack
  obtain ⟨gap, day, rfl, admitsGap, admitsDay⟩ := admits_inRow_cons admitsRest
  have isAnd := admits_plain_word isSmallWord_and.small (by decide) admitsAnd
  obtain ⟨behind, rfl⟩ := exists_gap admitsGap
  obtain ⟨named, rfl⟩ := RenderedDay.exists_of_admits List.mem_cons_self admitsDay
  refine ⟨.andAlone before ⟨middle, isAnd⟩ behind, named, ?_⟩
  simp only [Separator.text, List.append_assoc]

theorem exists_furtherText (isFurther : IsFurther further) (admits : (star further).Admits piece) :
    ∃ others, RenderedList.furtherText others = piece := by
  obtain ⟨pieces, rfl, admitted⟩ := admits_star admits
  clear admits
  induction pieces with
  | nil => exact ⟨[], rfl⟩
  | cons one pieces inductionHypothesis =>
      obtain ⟨isFirst, areOthers⟩ := List.forall_mem_cons.1 admitted
      obtain ⟨separator, named, rfl⟩ := isFurther one isFirst
      obtain ⟨others, isText⟩ := inductionHypothesis areOthers
      refine ⟨(separator, named) :: others, ?_⟩
      rw [List.flatten_cons, ← isText]
      rfl

/-- The expressions of lists admit nothing but lists. -/
theorem RenderedList.exists_of_admits (isEntry : entry ∈ entryForms)
    (isFurther : IsFurther further) (admits : (seq entry (star further)).Admits piece) :
    ∃ list : RenderedList, list.text = piece := by
  obtain ⟨front, back, rfl, admitsFirst, admitsOthers⟩ := admits_seq admits
  obtain ⟨first, rfl⟩ := RenderedDay.exists_of_admits isEntry admitsFirst
  obtain ⟨others, rfl⟩ := exists_furtherText isFurther admitsOthers
  exact ⟨⟨first, others⟩, rfl⟩

/-- What stands as a kind of days is a list, or the word for one of the other kinds. -/
theorem exists_list_or_word {body : Expr Part}
    (isBody : body = Phrase.everyKind ∨ body = Phrase.listOf Phrase.dayNames)
    (admits : body.Admits piece) :
    (∃ list : RenderedList, list.text = piece) ∨
      ∃ name ∈ ["weekend", "weekday", "day"], ∃ rendering : Rendering name,
        rendering.text = piece := by
  have ofList : ∀ entry ∈ entryForms, (Phrase.listOf entry).Admits piece →
      ∃ list : RenderedList, list.text = piece := fun _ isEntry admitsList =>
    RenderedList.exists_of_admits isEntry (isFurther_separator isEntry) admitsList
  rcases isBody with rfl | rfl
  · obtain ⟨one, isOne, admitted⟩ := admits_choice admits
    simp only [List.mem_cons, List.not_mem_nil, or_false] at isOne
    rcases isOne with rfl | rfl | rfl | rfl
    · exact Or.inr ⟨"weekend", by decide, exists_rendering admitted⟩
    · exact Or.inr ⟨"weekday", by decide, exists_rendering admitted⟩
    · exact Or.inr ⟨"day", by decide, exists_rendering admitted⟩
    · exact Or.inl (ofList Phrase.dayNameOrNames (by simp [entryForms]) admitted)
  · exact Or.inl (ofList Phrase.dayNames (by simp [entryForms]) admits)

end Admitting

/-! ## Lists in small and capital letters -/

theorem RenderedList.namesLegibly_iff {list : RenderedList}
    (areLegible : ∀ named ∈ list.days, named.IsLegible) (weekday : Weekday) :
    list.NamesLegibly weekday ↔ weekday ∈ list.days.map (·.weekday) := by
  rw [List.mem_map]
  constructor
  · rintro ⟨named, isNamed, same, -⟩
    exact ⟨named, isNamed, same⟩
  · rintro ⟨named, isNamed, same⟩
    exact ⟨named, isNamed, same, areLegible named isNamed⟩

def Spelling.rendered {name : String} (spelling : Spelling name) : Rendering name :=
  ⟨spelling.text, Text.stands_of_map_toLower spelling.spells⟩

namespace WrittenDay

def rendered (day : WrittenDay) (plural : Option (Spelling "s")) : RenderedDay :=
  ⟨day.weekday, day.spelling.rendered, plural.map Spelling.rendered⟩

theorem text_rendered (day : WrittenDay) (plural : Option (Spelling "s")) :
    (day.rendered plural).text = day.spelling.text ++ plural.elim [] Spelling.text := by
  cases plural <;> rfl

theorem isLegible_rendered (day : WrittenDay) (plural : Option (Spelling "s")) :
    (day.rendered plural).IsLegible := by
  refine List.any_eq_false.2 fun c member => Bool.eq_false_iff.1 ?_
  exact (Text.not_stray_or_dotted (day.spelling.isLower_toLower day.weekday.isSmallWord
    (List.mem_of_mem_take member))).1

end WrittenDay

namespace DayList

def rendered (list : DayList) : RenderedList where
  first := list.first.rendered none
  others := list.others.map fun further =>
    (.andAlone further.gapBefore further.conjunction further.gapBehind, further.day.rendered none)

theorem text_rendered (list : DayList) : list.rendered.text = list.text := by
  have further : ∀ others : List FurtherDay,
      RenderedList.furtherText (others.map fun further =>
        (.andAlone further.gapBefore further.conjunction further.gapBehind,
          further.day.rendered none)) = Rendezvous.furtherText others := by
    intro others
    rw [RenderedList.furtherText, List.flatMap_map, Rendezvous.furtherText]
    refine List.flatMap_congr fun one _ => ?_
    rw [WrittenDay.text_rendered, FurtherDay.text, Separator.text]
    simp
  rw [RenderedList.text, rendered, further, WrittenDay.text_rendered, text, Option.elim_none,
    List.append_nil]

/-- The weekdays read off a list are those that it names. -/
theorem mem_ofText (list : DayList) (weekday : Weekday) :
    (weekday.val : Int) ∈ Selector.ofText list.text ↔ weekday ∈ list.weekdays := by
  have areLegible : ∀ named ∈ list.rendered.days, named.IsLegible := by
    simp only [RenderedList.days, rendered, List.map_map, List.forall_mem_cons, List.forall_mem_map]
    exact ⟨list.first.isLegible_rendered none, fun further _ => further.day.isLegible_rendered none⟩
  have sameDays : list.rendered.days.map (·.weekday) = list.weekdays := by
    simp only [RenderedList.days, rendered, List.map_cons, List.map_map, weekdays]
    rfl
  rw [← list.text_rendered, RenderedList.mem_ofText, RenderedList.namesLegibly_iff areLegible,
    sameDays]

end DayList

end Rendezvous
