import Rendezvous.Proofs.Result
import Rendezvous.Recognizer.Extract

/-!
Contract: with a recognizer that always answers, mentions can be extracted from any text
and any phrase can be resolved.

Owns:
- `Recognizer.IsTotal`, which recognizers that answer from a table satisfy;
- `Recognizer.IsTotal.exists_extract` and `Recognizer.IsTotal.exists_resolve`.
-/

namespace Rendezvous.Recognizer

/-- A recognizer that answers both questions, whatever the text and the moment. -/
structure IsTotal (recognizer : Recognizer) : Prop where
  mentions : ∀ text now, ∃ found, recognizer.mentions text now = .ok found
  reading : ∀ phrase now, ∃ reading, recognizer.reading? phrase now = .ok reading

theorem ofTable_isTotal (table : Table) : (ofTable table).IsTotal where
  mentions := fun text _ => ⟨table.mentionsIn text, rfl⟩
  reading := fun phrase _ => ⟨table.readingOf? phrase, rfl⟩

namespace IsTotal

variable {recognizer : Recognizer}

theorem exists_refine (total : recognizer.IsTotal) (now : Moment) (mention : Mention) :
    ∃ refined, recognizer.refine now mention = .ok refined := by
  rw [refine, withoutTimeWord]
  split
  next => exact ⟨mention.withStatedTime, rfl⟩
  next found _ =>
    obtain ⟨reading, isReading⟩ := total.reading (mention.text.drop found.stop) now
    rw [isReading, Result.ok_bind]
    cases reading with
    | none => exact ⟨mention.withStatedTime, rfl⟩
    | some reading => exact ⟨(mention.reread found.stop reading).withStatedTime, rfl⟩

theorem exists_extract (total : recognizer.IsTotal) (text : Text) (now : Moment) :
    ∃ mentions, recognizer.extract text now = .ok mentions := by
  rw [extract]
  split
  next => exact ⟨[], rfl⟩
  next =>
    obtain ⟨found, isFound⟩ := total.mentions text now
    obtain ⟨mentions, areMentions⟩ := Result.exists_mapM (recognizer.refine now) found
      fun mention _ => total.exists_refine now mention
    refine ⟨mentions, ?_⟩
    rw [isFound]
    exact areMentions

theorem exists_resolve (total : recognizer.IsTotal) (phrase : Text) (now : Moment) :
    ∃ resolved, recognizer.resolve phrase now = .ok resolved := by
  rw [resolve]
  split
  next => exact ⟨none, rfl⟩
  next =>
    obtain ⟨reading, isReading⟩ := total.reading phrase now
    exact ⟨reading.map (·.value), by rw [isReading]; rfl⟩

end IsTotal

end Rendezvous.Recognizer
