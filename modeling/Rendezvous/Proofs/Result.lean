import Rendezvous.Fault

/-!
Contract: computations that may end in a fault, taken apart step by step.

Owns: the comparison of results, the equations of `>>=` and `map` for a first step with and
without a result, `Result.bind_eq_ok_iff` and `Result.bind_eq_error_iff`, which say when two
steps in a row have a result and when they have a fault, and `Result.exists_mapM`,
`Result.mapM_eq_ok_iff` and `Result.exists_of_mapM_error` for steps over a list.
-/

namespace Rendezvous.Result

variable {α β : Type}

theorem ok_ne_error (value : α) (fault : Fault) : (.ok value : Result α) ≠ .error fault := by
  intro same
  contradiction

instance decidableEq [DecidableEq α] : DecidableEq (Result α)
  | .ok left, .ok right => decidable_of_iff (left = right) (Except.ok.injEq left right).to_iff.symm
  | .error left, .error right =>
      decidable_of_iff (left = right) (Except.error.injEq left right).to_iff.symm
  | .ok value, .error fault => isFalse (ok_ne_error value fault)
  | .error fault, .ok value => isFalse (ok_ne_error value fault).symm

@[simp]
theorem ok_bind (value : α) (next : α → Result β) : (.ok value >>= next : Result β) = next value :=
  rfl

@[simp]
theorem error_bind (fault : Fault) (next : α → Result β) :
    (.error fault >>= next : Result β) = .error fault :=
  rfl

@[simp]
theorem ok_map (value : α) (read : α → β) : (.ok value : Result α).map read = .ok (read value) :=
  rfl

@[simp]
theorem error_map (fault : Fault) (read : α → β) :
    (.error fault : Result α).map read = .error fault :=
  rfl

@[simp]
theorem pure_eq_ok (value : α) : (pure value : Result α) = .ok value :=
  rfl

theorem bind_eq_ok_iff (first : Result α) (next : α → Result β) (result : β) :
    (first >>= next) = .ok result ↔ ∃ value, first = .ok value ∧ next value = .ok result := by
  cases first <;> simp

theorem map_eq_ok_iff (outcome : Result α) (read : α → β) (result : β) :
    outcome.map read = .ok result ↔ ∃ value, outcome = .ok value ∧ read value = result := by
  cases outcome <;> simp

theorem bind_eq_error_iff (first : Result α) (next : α → Result β) (fault : Fault) :
    (first >>= next) = .error fault ↔
      first = .error fault ∨ ∃ value, first = .ok value ∧ next value = .error fault := by
  cases first <;> simp

theorem exists_error_iff (result : Result α) :
    (∃ fault, result = .error fault) ↔ ¬ ∃ value, result = .ok value := by
  cases result with
  | ok value => simp
  | error fault => simp

/-- A step that always has a result has one for each member of a list. -/
theorem exists_mapM (step : α → Result β) (members : List α)
    (total : ∀ member ∈ members, ∃ value, step member = .ok value) :
    ∃ values, members.mapM step = .ok values := by
  induction members with
  | nil => exact ⟨[], rfl⟩
  | cons member members inductionHypothesis =>
      obtain ⟨value, isValue⟩ := total member List.mem_cons_self
      obtain ⟨values, areValues⟩ := inductionHypothesis fun other isOther =>
        total other (List.mem_cons_of_mem _ isOther)
      refine ⟨value :: values, ?_⟩
      rw [List.mapM_cons, isValue, ok_bind, areValues, ok_bind, pure_eq_ok]

/-- Steps over a list have a result exactly if each of them has. -/
theorem mapM_eq_ok_iff (step : α → Result β) (members : List α) (values : List β) :
    members.mapM step = .ok values ↔ members.map step = values.map .ok := by
  induction members generalizing values with
  | nil => cases values <;> simp
  | cons member members inductionHypothesis =>
      simp only [List.mapM_cons, bind_eq_ok_iff, pure_eq_ok, List.map_cons]
      constructor
      · rintro ⟨value, isValue, others, areOthers, same⟩
        obtain rfl := Except.ok.inj same
        rw [isValue, (inductionHypothesis others).1 areOthers, List.map_cons]
      · intro same
        cases values with
        | nil => contradiction
        | cons value others =>
            obtain ⟨isValue, areOthers⟩ := List.cons.inj same
            exact ⟨value, isValue, others, (inductionHypothesis others).2 areOthers, rfl⟩

theorem mem_iff_of_mapM {step : α → Result β} {members : List α} {values : List β}
    (isRead : members.mapM step = .ok values) (value : β) :
    value ∈ values ↔ ∃ member ∈ members, step member = .ok value := by
  rw [← List.mem_map, (mapM_eq_ok_iff step members values).1 isRead]
  simp

theorem exists_of_mapM {step : α → Result β} {members : List α} {values : List β}
    (isRead : members.mapM step = .ok values) {member : α} (isMember : member ∈ members) :
    ∃ value ∈ values, step member = .ok value := by
  have isStep : step member ∈ members.map step := List.mem_map_of_mem isMember
  rw [(mapM_eq_ok_iff step members values).1 isRead] at isStep
  obtain ⟨value, isValue, same⟩ := List.mem_map.1 isStep
  exact ⟨value, isValue, same.symm⟩

/-- A fault of steps over a list is that of one of them. -/
theorem exists_of_mapM_error {step : α → Result β} {members : List α} {fault : Fault}
    (failed : members.mapM step = .error fault) : ∃ member ∈ members, step member = .error fault := by
  induction members with
  | nil => exact absurd failed (ok_ne_error [] fault)
  | cons member members inductionHypothesis =>
      rw [List.mapM_cons, bind_eq_error_iff] at failed
      rcases failed with isFault | ⟨value, -, restFailed⟩
      · exact ⟨member, List.mem_cons_self, isFault⟩
      · rcases (bind_eq_error_iff _ _ _).1 restFailed with othersFailed | ⟨values, -, impossible⟩
        · obtain ⟨other, isOther, isFault⟩ := inductionHypothesis othersFailed
          exact ⟨other, List.mem_cons_of_mem _ isOther, isFault⟩
        · exact absurd impossible (ok_ne_error _ fault)

end Rendezvous.Result
