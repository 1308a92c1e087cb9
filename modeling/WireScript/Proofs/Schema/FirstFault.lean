import WireScript.Proofs.Schema.WellFormed

/-! # First faults

Every search for a fault goes through a list in order, and a fault it reports is that of
the first item that is at fault, given the items before it.
-/

namespace WireScript

variable {α β : Type}

/-- The first item of a list that breaks a rule about an item and those before it. -/
structure IsFirst (breaks : List α → α → Prop) (items earlier : List α) (item : α) : Prop where
  placed : ∃ later, items = earlier ++ item :: later
  broken : breaks earlier item
  kept : ∀ before other after, earlier = before ++ other :: after → ¬ breaks before other

theorem IsFirst.mem {breaks : List α → α → Prop} {items earlier : List α} {item : α}
    (hfirst : IsFirst breaks items earlier item) : item ∈ items := by
  obtain ⟨later, rfl⟩ := hfirst.placed
  simp

/-- A list has the fault of an item in front of which there is none. -/
theorem firstFault_eq_some_iff_split {judge : List α → α → Option Fault} {before items : List α}
    {fault : Fault} :
    firstFault judge before items = some fault ↔
      ∃ earlier item later, items = earlier ++ item :: later ∧
        firstFault judge before earlier = none ∧ judge (before ++ earlier) item = some fault := by
  induction items generalizing before with
  | nil => simp [firstFault]
  | cons first rest ih =>
      rw [firstFault]
      constructor
      · intro hfound
        split at hfound
        next found hfirst =>
          exact ⟨[], first, rest, rfl, rfl, by rw [List.append_nil, hfirst, hfound]⟩
        next hfirst =>
          obtain ⟨earlier, item, later, rfl, hnone, hitem⟩ := ih.mp hfound
          refine ⟨first :: earlier, item, later, rfl, ?_, by simpa using hitem⟩
          rw [firstFault, hfirst]
          exact hnone
      · rintro ⟨earlier, item, later, hitems, hnone, hitem⟩
        cases earlier with
        | nil =>
            obtain ⟨rfl, rfl⟩ := List.cons.inj hitems
            rw [List.append_nil] at hitem
            rw [hitem]
        | cons head earlier =>
            obtain ⟨rfl, rfl⟩ := List.cons.inj hitems
            rw [firstFault] at hnone
            split at hnone
            next => cases hnone
            next => exact ih.mpr ⟨earlier, item, later, rfl, hnone, by simpa using hitem⟩

/-- The fault of a list is that of its first item with a fault where it stands. -/
theorem firstFault_eq_some_iff {judge : List α → α → Option Fault} {items : List α}
    {fault : Fault} :
    firstFault judge [] items = some fault ↔
      ∃ earlier item, IsFirst (fun before other => judge before other ≠ none) items earlier item ∧
        judge earlier item = some fault := by
  rw [firstFault_eq_some_iff_split]
  constructor
  · rintro ⟨earlier, item, later, hitems, hnone, hitem⟩
    refine ⟨earlier, item, ⟨⟨later, hitems⟩, ?_, ?_⟩, hitem⟩
    · rw [← List.nil_append earlier, hitem]
      exact Option.some_ne_none fault
    · intro front other back hearlier
      exact not_not_intro (firstFault_eq_none_iff.mp hnone front other back hearlier)
  · rintro ⟨earlier, item, ⟨⟨later, hitems⟩, -, hkept⟩, hitem⟩
    refine ⟨earlier, item, later, hitems, ?_, hitem⟩
    rw [firstFault_eq_none_iff]
    exact fun front other back hearlier => not_not.mp (hkept front other back hearlier)

/-- When the items before it do not matter, the first item has none of its kind before it. -/
theorem isFirst_iff {breaks : α → Prop} {items earlier : List α} {item : α} :
    IsFirst (fun _ => breaks) items earlier item ↔
      (∃ later, items = earlier ++ item :: later) ∧ breaks item ∧
        ∀ other ∈ earlier, ¬ breaks other := by
  rw [forall_mem_iff_splits]
  exact ⟨fun hfirst => ⟨hfirst.placed, hfirst.broken, hfirst.kept⟩,
    fun ⟨hplaced, hbroken, hkept⟩ => ⟨hplaced, hbroken, hkept⟩⟩

/-- A search finds what the first item gives that gives anything. -/
theorem findSome?_eq_some_iff_isFirst {search : α → Option β} {items : List α} {found : β} :
    items.findSome? search = some found ↔
      ∃ earlier item, IsFirst (fun _ other => search other ≠ none) items earlier item ∧
        search item = some found := by
  rw [List.findSome?_eq_some_iff]
  constructor
  · rintro ⟨earlier, item, later, hitems, hitem, hnone⟩
    refine ⟨earlier, item, isFirst_iff.mpr ⟨⟨later, hitems⟩, ?_, ?_⟩, hitem⟩
    · rw [hitem]
      exact Option.some_ne_none found
    · exact fun other hother => not_not_intro (hnone other hother)
  · rintro ⟨earlier, item, hfirst, hitem⟩
    obtain ⟨⟨later, hitems⟩, -, hkept⟩ := isFirst_iff.mp hfirst
    exact ⟨earlier, item, later, hitems, hitem, fun other hother => not_not.mp (hkept other hother)⟩

end WireScript
