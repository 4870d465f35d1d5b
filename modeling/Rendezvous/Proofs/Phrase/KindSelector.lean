import Rendezvous.Proofs.Phrase.RenderedDays

/-!
Contract: the kinds of days in small and capital letters, and the weekdays read off them.

Owns:
- `DayKind.exists_of_admits`: of ASCII letters the expressions of both forms admit such kinds
  only;
- `DayKind.selects_iff`: the weekdays read off a kind are those that it names.

A list of days is read by the names that occur in it, and weekends, workdays and all days by the
beginning or the whole of the text.
-/

namespace Rendezvous

/-! ## Kinds admitted -/

section Admitting

open Pattern

variable {piece : Text}

theorem Rendering.exists_spelling {name : String} (isWord : IsSmallWord name)
    (rendering : Rendering name) (ascii : rendering.text.HasAsciiLetters) :
    ∃ spelling : Spelling name, spelling.text = rendering.text :=
  ⟨⟨rendering.text, rendering.stands.map_toLower isWord.small ascii⟩, rfl⟩

theorem RenderedDay.exists_listed (named : RenderedDay) (ascii : named.text.HasAsciiLetters) :
    ∃ listed : ListedDay, listed.text = named.text := by
  obtain ⟨weekday, rendering, plural⟩ := named
  obtain ⟨spelling, sameDay⟩ := rendering.exists_spelling weekday.isSmallWord ascii.front
  cases plural with
  | none => exact ⟨⟨⟨weekday, spelling⟩, none⟩, congrArg (· ++ []) sameDay⟩
  | some ending =>
      obtain ⟨plural, samePlural⟩ := ending.exists_spelling isSmallWord_s ascii.back
      exact ⟨⟨⟨weekday, spelling⟩, some plural⟩, congrArg₂ (· ++ ·) sameDay samePlural⟩

theorem exists_furtherListed (others : List (Separator × RenderedDay))
    (ascii : (RenderedList.furtherText others).HasAsciiLetters) :
    ∃ listed : List FurtherListed,
      listed.flatMap FurtherListed.text = RenderedList.furtherText others := by
  induction others with
  | nil => exact ⟨[], rfl⟩
  | cons further others inductionHypothesis =>
      obtain ⟨separator, named⟩ := further
      obtain ⟨one, sameDay⟩ := named.exists_listed ascii.front.back
      obtain ⟨listed, sameOthers⟩ := inductionHypothesis ascii.back
      refine ⟨⟨separator, one⟩ :: listed, ?_⟩
      rw [List.flatMap_cons, sameOthers, FurtherListed.text, sameDay]
      rfl

theorem RenderedList.exists_kind (list : RenderedList) (ascii : list.text.HasAsciiLetters) :
    ∃ kind : DayKind, kind.text = list.text := by
  obtain ⟨first, sameFirst⟩ := list.first.exists_listed ascii.front
  obtain ⟨others, sameOthers⟩ := exists_furtherListed list.others ascii.back
  exact ⟨.list first others, congrArg₂ (· ++ ·) sameFirst sameOthers⟩

/-- The expressions of kinds in both forms admit kinds only. -/
theorem DayKind.exists_of_admits {body : Expr Part}
    (isBody : body = Phrase.everyKind ∨ body = Phrase.listOf Phrase.dayNames)
    (ascii : Text.HasAsciiLetters piece) (admits : body.Admits piece) :
    ∃ kind : DayKind, kind.text = piece := by
  rcases exists_list_or_word isBody admits with ⟨list, rfl⟩ | ⟨name, isName, rendering, rfl⟩
  · exact list.exists_kind ascii
  · simp only [List.mem_cons, List.not_mem_nil, or_false] at isName
    rcases isName with rfl | rfl | rfl
    · obtain ⟨written, same⟩ := rendering.exists_spelling isSmallWord_weekend ascii
      exact ⟨.weekend written, same⟩
    · obtain ⟨written, same⟩ := rendering.exists_spelling isSmallWord_weekday ascii
      exact ⟨.workday written, same⟩
    · obtain ⟨written, same⟩ := rendering.exists_spelling isSmallWord_day ascii
      exact ⟨.everyDay written, same⟩

end Admitting

/-! ## Weekdays read -/

namespace DayKind

variable (first : ListedDay) (others : List FurtherListed)

def renderedList : RenderedList where
  first := first.day.rendered first.plural
  others := others.map fun further =>
    (further.separator, further.listed.day.rendered further.listed.plural)

theorem text_renderedList : (renderedList first others).text = (list first others).text := by
  have further : RenderedList.furtherText (others.map fun further =>
      (further.separator, further.listed.day.rendered further.listed.plural)) =
        others.flatMap FurtherListed.text := by
    rw [RenderedList.furtherText, List.flatMap_map]
    refine List.flatMap_congr fun one _ => ?_
    rw [WrittenDay.text_rendered]
    rfl
  rw [RenderedList.text, renderedList, further, WrittenDay.text_rendered]
  rfl

/-- The weekdays read off a list are those that it names. -/
theorem mem_selectorOf_list (weekday : Weekday) :
    (weekday.val : Int) ∈ Phrase.selectorOf (list first others).text ↔
      (list first others).Selects weekday := by
  have areLegible : ∀ named ∈ (renderedList first others).days, named.IsLegible := by
    simp only [RenderedList.days, renderedList, List.map_map, List.forall_mem_cons,
      List.forall_mem_map]
    exact ⟨first.day.isLegible_rendered _, fun further _ =>
      further.listed.day.isLegible_rendered _⟩
  have selects : (list first others).Selects weekday ↔
      weekday ∈ (renderedList first others).days.map (·.weekday) := by
    simp only [Selects, RenderedList.days, renderedList, List.map_cons, List.map_map,
      List.mem_cons, List.mem_map, Function.comp_apply, WrittenDay.rendered]
    exact or_congr_right (exists_congr fun further => and_congr_right fun _ => eq_comm)
  rw [← text_renderedList, RenderedList.selectorOf_text, RenderedList.mem_ofText_lower,
    RenderedList.namesLegibly_iff areLegible, selects]

/-- The selector of a kind selects the weekdays that the kind has. -/
theorem selects_iff (kind : DayKind) (day : Day) :
    (Phrase.selectorOf kind.text).selects day = true ↔ kind.Selects day.weekday := by
  rw [Selector.selects_iff]
  cases kind with
  | weekend written =>
      have selector : Phrase.selectorOf written.text = Selector.weekend := by
        rw [Phrase.selectorOf, written.lower_text isSmallWord_weekend]
        decide
      have members : ∀ weekday : Weekday, (weekday.val : Int) ∈ Selector.weekend ↔
          weekday.val = 6 ∨ weekday.val = 0 := by
        decide
      exact selector ▸ members day.weekday
  | workday written =>
      have selector : Phrase.selectorOf written.text = Selector.workdays := by
        rw [Phrase.selectorOf, written.lower_text isSmallWord_weekday]
        decide
      have members : ∀ weekday : Weekday, (weekday.val : Int) ∈ Selector.workdays ↔
          weekday.val ≠ 6 ∧ weekday.val ≠ 0 := by
        decide
      exact selector ▸ members day.weekday
  | everyDay written =>
      have selector : Phrase.selectorOf written.text = Selector.everyDay := by
        rw [Phrase.selectorOf, written.lower_text isSmallWord_day]
        decide
      have members : ∀ weekday : Weekday, (weekday.val : Int) ∈ Selector.everyDay ↔ True := by
        decide
      exact selector ▸ members day.weekday
  | list first others => exact mem_selectorOf_list first others day.weekday

end DayKind

end Rendezvous
