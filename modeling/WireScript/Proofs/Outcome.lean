import Mathlib.Data.List.Forall2

/-! # Outcomes in sequence

What is judged in steps has a result when every step has one, and else the fault of the
first step that has none. So has what is done to the items of a list in turn.
-/

namespace WireScript

variable {α β ε : Type}

theorem bind_ok_iff {first : Except ε α} {next : α → Except ε β} {result : β} :
    (first >>= next) = .ok result ↔ ∃ value, first = .ok value ∧ next value = .ok result := by
  cases first <;> simp [bind, Except.bind]

theorem judged_ok_iff {first : Except ε Unit} {next : Except ε β} {result : β} :
    (do first; next) = .ok result ↔ first = .ok () ∧ next = .ok result := by
  cases first <;> simp [bind, Except.bind]

theorem judged_error_iff {first : Except ε Unit} {next : Except ε β} {fault : ε} :
    (do first; next) = .error fault ↔
      first = .error fault ∨ first = .ok () ∧ next = .error fault := by
  cases first <;> simp [bind, Except.bind]

-- What is done last cannot fail.

theorem last_succeeds_iff {first : Except ε α} {finish : α → β} :
    (∃ result, (do return finish (← first)) = .ok result) ↔ ∃ value, first = .ok value := by
  cases first <;> simp [bind, Except.bind, pure, Except.pure]

/-- A result goes back to an item. -/
theorem exists_of_mem_forall₂ {relates : α → β → Prop} {items : List α} {results : List β}
    (hall : List.Forall₂ relates items results) {result : β}
    (hresult : result ∈ results) : ∃ item ∈ items, relates item result := by
  induction hall with
  | nil => cases hresult
  | cons hfirst _ ih =>
      rcases List.mem_cons.mp hresult with rfl | hrest
      · exact ⟨_, List.mem_cons_self, hfirst⟩
      · obtain ⟨item, hitem, hrelates⟩ := ih hrest
        exact ⟨item, List.mem_cons_of_mem _ hitem, hrelates⟩

section MapM

variable {step : α → Except ε β} {items : List α}

theorem mapM_ok_iff {results : List β} :
    items.mapM step = .ok results ↔
      List.Forall₂ (fun item result => step item = .ok result) items results := by
  induction items generalizing results with
  | nil =>
      rw [List.mapM_nil, List.forall₂_nil_left_iff]
      exact ⟨fun hok => (Except.ok.inj hok).symm, fun hnil => hnil ▸ rfl⟩
  | cons item rest ih =>
      simp only [List.mapM_cons, List.forall₂_cons_left_iff, bind_ok_iff, ih]
      constructor
      · rintro ⟨result, hitem, others, hothers, hresults⟩
        exact ⟨result, others, hitem, hothers, (Except.ok.inj hresults).symm⟩
      · rintro ⟨result, others, hitem, hothers, rfl⟩
        exact ⟨result, hitem, others, hothers, rfl⟩

theorem mapM_succeeds_iff :
    (∃ results, items.mapM step = .ok results) ↔
      ∀ item ∈ items, ∃ result, step item = .ok result := by
  induction items with
  | nil => simp [pure, Except.pure]
  | cons item rest ih =>
      rw [List.mapM_cons, List.forall_mem_cons, ← ih]
      cases step item with
      | error fault => simp [bind, Except.bind]
      | ok result =>
          have hfirst : ∃ value, (Except.ok result : Except ε β) = .ok value := ⟨result, rfl⟩
          rw [and_iff_right hfirst]
          exact last_succeeds_iff

end MapM

end WireScript
