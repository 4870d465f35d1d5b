import Rendezvous.Schema.Reader

/-!
Contract: what a value that was read owes to the document it was read from.

Owns: for each way to combine checks, and for the readers of lists, of optional values and of
members, which values they accept.

Does not own: which documents write a value (`Proofs.Schema.Member`).
-/

namespace Rendezvous.Schema

variable {α β γ : Type}

namespace Checked

@[simp]
theorem refuse_ne_ok (flaw : Flaw) (value : α) : (refuse flaw : Checked α) ≠ .ok value := by
  simp [refuse]

@[simp]
theorem within_eq_ok_iff (step : Step) (checked : Checked α) (value : α) :
    checked.within step = .ok value ↔ checked = .ok value := by
  cases checked with
  | ok found => rfl
  | error issues => constructor <;> intro isOk <;> contradiction

@[simp]
theorem map_eq_ok_iff (checked : Checked α) (read : α → β) (result : β) :
    checked.map read = .ok result ↔ ∃ value, checked = .ok value ∧ read value = result := by
  cases checked <;> simp [Except.map]

theorem both_eq_ok_iff (first : Checked α) (second : Checked β) (combine : α → β → γ)
    (result : γ) :
    both first second combine = .ok result ↔
      ∃ left right, first = .ok left ∧ second = .ok right ∧ combine left right = result := by
  cases first <;> cases second <;> simp [both]

theorem obeying_eq_ok_iff (checked : Checked α) (broken? : α → Option Flaw) (value : α) :
    checked.obeying broken? = .ok value ↔ checked = .ok value ∧ broken? value = none := by
  cases checked with
  | error issues => simp [obeying]
  | ok found =>
      unfold obeying
      cases broken : broken? found <;> grind [refuse]

theorem mem_of_all {checks : List (Checked α)} {values : List α} (isRead : all checks = .ok values)
    {value : α} (member : value ∈ values) : .ok value ∈ checks := by
  induction checks generalizing values with
  | nil =>
      obtain rfl := Except.ok.inj isRead
      contradiction
  | cons checked others inductionHypothesis =>
      obtain ⟨first, rest, isFirst, areRest, rfl⟩ := (both_eq_ok_iff _ _ _ _).1 isRead
      rcases List.mem_cons.1 member with rfl | later
      · exact isFirst ▸ List.mem_cons_self
      · exact List.mem_cons_of_mem _ (inductionHypothesis areRest later)

end Checked

/-! ## Lists and optional values -/

variable {reader : Reader α} {document : Json}

theorem Reader.exists_item {index : Nat} {items : List Json} {value : α}
    (member : .ok value ∈ itemsFrom reader index items) : ∃ item ∈ items, reader item = .ok value := by
  induction items generalizing index with
  | nil => contradiction
  | cons item others inductionHypothesis =>
      rcases List.mem_cons.1 member with isFirst | later
      · exact ⟨item, List.mem_cons_self, (Checked.within_eq_ok_iff _ _ _).1 isFirst.symm⟩
      · obtain ⟨found, isItem, isRead⟩ := inductionHypothesis later
        exact ⟨found, List.mem_cons_of_mem _ isItem, isRead⟩

theorem Reader.exists_of_list {values : List α} (isRead : list reader document = .ok values)
    {value : α} (member : value ∈ values) : ∃ item, reader item = .ok value := by
  cases document with
  | array items =>
      obtain ⟨item, -, isValue⟩ := exists_item (Checked.mem_of_all isRead member)
      exact ⟨item, isValue⟩
  | _ => exact absurd isRead (Checked.refuse_ne_ok _ _)

/-! ## Members -/

namespace Members

variable {members : Members} {name : Text} {names otherNames : List Text} {missing value : α}

theorem exists_of_required (isRead : members.required name otherNames reader = .ok value) :
    ∃ document, reader document = .ok value := by
  unfold required at isRead
  split at isRead
  next _ document _ => exact ⟨document, (Checked.within_eq_ok_iff _ _ _).1 isRead⟩
  next => simp at isRead

/-- A member with one name only is read from its last place. -/
theorem withDefault_eq_ok_iff :
    members.withDefault [name] missing reader = .ok value ↔
      (∃ document, Json.lastMember? name members = some document ∧ reader document = .ok value) ∨
        Json.lastMember? name members = none ∧ missing = value := by
  unfold withDefault named? named?
  cases Json.lastMember? name members with
  | none => simp
  | some document => simp

theorem exists_of_withDefault (isRead : members.withDefault names missing reader = .ok value) :
    value = missing ∨ ∃ document, reader document = .ok value := by
  unfold withDefault at isRead
  split at isRead
  next _ document _ => exact Or.inr ⟨document, (Checked.within_eq_ok_iff _ _ _).1 isRead⟩
  next => exact Or.inl (Except.ok.inj isRead).symm

end Members

end Rendezvous.Schema
