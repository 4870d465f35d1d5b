import Rendezvous.Json.Write
import Rendezvous.Proofs.Json.Reading

/-!
Contract: strings as they are written are read back.

Owns: `spells_written` for the characters between the marks, and `read_write_member` for an object
with one string.
-/

namespace Rendezvous.Json

/-- The escapes of control characters have four hexadecimal digits. -/
theorem exists_unit : ∀ control : Fin 32, ∃ first second third fourth,
    Text.hexPadded 4 control = [first, second, third, fourth] ∧
      unitValue? first second third fourth = some control.val := by
  intro control
  -- The four digits are compared place by place, for which there are few enough characters.
  have four : ∀ control : Fin 32, (Text.hexPadded 4 control).length = 4 := by decide
  have digits : ∀ control : Fin 32, unitValue? ((Text.hexPadded 4 control).getD 0 '0')
      ((Text.hexPadded 4 control).getD 1 '0') ((Text.hexPadded 4 control).getD 2 '0')
      ((Text.hexPadded 4 control).getD 3 '0') = some control.val := by decide
  match isHex : Text.hexPadded 4 control, four control with
  | [first, second, third, fourth], _ =>
      refine ⟨first, second, third, fourth, rfl, ?_⟩
      simpa [isHex] using digits control

theorem spellsCharacter_written (c : Char) : SpellsCharacter c (writeCharacter c) := by
  unfold writeCharacter
  split
  next isMarked =>
    rcases isMarked with rfl | rfl
    · exact .short rfl
    · exact .short rfl
  next notMarked =>
    obtain ⟨noMark, noBackslash⟩ := not_or.1 notMarked
    split
    next isControl =>
      obtain ⟨first, second, third, fourth, isHex, isUnit⟩ := exists_unit ⟨c.toNat, isControl⟩
      rw [isHex]
      exact .unit (.escape isUnit)
    next printable => exact .plain (Nat.le_of_not_lt printable) noMark noBackslash

theorem spells_written (text : Text) : Spells text (text.flatMap writeCharacter) := by
  induction text with
  | nil => exact .nil
  | cons c rest inductionHypothesis =>
      rw [List.flatMap_cons]
      exact .cons (spellsCharacter_written c) inductionHypothesis

theorem writeString_loose (text : Text) :
    writeString text.loose = '"' :: (text.flatMap writeCharacter ++ ['"']) := by
  unfold writeString Text.loose
  rw [List.flatMap_map]
  rfl

theorem writes_ofText (text : Text) : Writes (.value (.ofText text)) (write (.ofText text)) := by
  rw [ofText, write, writeString_loose]
  exact .string (spells_written text)

theorem writes_member (name text : Text) :
    Writes (.value (.object [(name.loose, .ofText text)]))
      (write (.object [(name.loose, .ofText text)])) := by
  rw [write, writeMembers, writeString_loose]
  have compact := Writes.compactMember (spells_written name) (writes_ofText text)
  simpa using Writes.object (.lastMember compact)

/-- An object with one string is read back from the text that it is written as. -/
theorem read_write_member (name text : Text) (depth : Depth) :
    read (write (.object [(name.loose, .ofText text)])) depth =
      .ok (.object [(name.loose, .ofText text)]) := by
  obtain ⟨further, levels⟩ := depth.exists_levels
  apply read_of_writes (writes_member name text).document
  rw [levels]
  apply Fits.object
  intro member isMember
  obtain rfl := List.mem_singleton.1 isMember
  exact .string

end Rendezvous.Json
