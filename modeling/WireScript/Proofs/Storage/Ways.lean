import WireScript.Storage.FileTree

/-! # Ways through a file tree

A path leads from directory to directory. Without links every location on the way
is known from the steps alone; a tree decides only whether the way can be taken.
`FileTree.Creates` says what the creation of a path does: the locations on its way
become directories, and nothing else changes.
-/

namespace WireScript

/-- The location one step leads to. -/
def arrive (location : Location) : Component → Location
  | .root => []
  | .here => location
  | .up => location.dropLast
  | .name text => location ++ [String.ofList text]

/-- The location some steps lead to. -/
def destination (location : Location) (steps : List Component) : Location :=
  steps.foldl arrive location

/-- The locations some steps lead through, the last of them included. -/
def ways : Location → List Component → List Location
  | _, [] => []
  | location, step :: steps => arrive location step :: ways (arrive location step) steps

/-- Whether a step leaves a location behind, which must be a directory then. -/
def Component.moves : Component → Bool
  | .up => true
  | .name _ => true
  | _ => false

theorem destination_append (location : Location) (first second : List Component) :
    destination location (first ++ second) = destination (destination location first) second :=
  List.foldl_append

theorem ways_append (location : Location) (first second : List Component) :
    ways location (first ++ second) =
      ways location first ++ ways (destination location first) second := by
  induction first generalizing location with
  | nil => rfl
  | cons step first ih =>
      rw [List.cons_append, ways, ways, ih, List.cons_append]
      rfl

theorem destination_mem_ways {location : Location} {steps : List Component} (hsteps : steps ≠ []) :
    destination location steps ∈ ways location steps := by
  obtain ⟨before, last, rfl⟩ := List.eq_nil_or_concat steps |>.resolve_left hsteps
  rw [List.concat_eq_append, ways_append, destination_append]
  exact List.mem_append_right _ List.mem_cons_self

/-- Names lead on from where they start. -/
theorem isPrefix_of_mem_ways {location : Location} {steps : List Component}
    (hmoves : ∀ step ∈ steps, step.moves = true) (hup : .up ∉ steps) :
    ∀ way ∈ location :: ways location steps, way <+: destination location steps := by
  induction steps generalizing location with
  | nil => simp [ways, destination]
  | cons step steps ih =>
      obtain ⟨hfirst, hrest⟩ := List.forall_mem_cons.mp hmoves
      rw [List.mem_cons, not_or] at hup
      obtain ⟨hname, hnames⟩ := hup
      have hlater := @ih (arrive location step) hrest hnames
      cases step with
      | root => cases hfirst
      | here => cases hfirst
      | up => exact absurd rfl hname
      | name text =>
          refine List.forall_mem_cons.mpr ⟨?_, hlater⟩
          exact (List.prefix_append _ _).trans (hlater _ List.mem_cons_self)

namespace FileTree

section Lookup

variable {tree : FileTree} {location place : Location} {entry : Entry}

theorem lookup_nil (tree : FileTree) : tree.lookup [] = some .directory := rfl

theorem lookup_filter (keep : Location → Bool) (entries : List (Location × Entry)) :
    (entries.filter (fun other => keep other.1)).lookup place =
      if keep place then entries.lookup place else none := by
  induction entries with
  | nil => simp
  | cons other entries ih =>
      obtain ⟨key, value⟩ := other
      rw [List.filter_cons]
      by_cases hkey : place = key
      · subst hkey
        cases hkeep : keep place <;> simp [hkeep, ih]
      · have hbeq : (place == key) = false := beq_false_of_ne hkey
        split <;> simp [List.lookup_cons, hbeq, ih]

theorem lookup_insert (hplace : place ≠ []) :
    (tree.insert location entry).lookup place =
      if place = location then some entry else tree.lookup place := by
  simp only [lookup, if_neg hplace, insert, List.lookup_cons]
  by_cases heq : place = location
  · simp [heq]
  · have hbeq : (place == location) = false := beq_false_of_ne heq
    rw [hbeq, if_neg heq]
    change (tree.entries.filter _).lookup place = _
    rw [lookup_filter (· != location)]
    simp [heq]

theorem lookup_insert_self (hlocation : location ≠ []) :
    (tree.insert location entry).lookup location = some entry := by
  rw [lookup_insert hlocation, if_pos rfl]

/-- Nothing else changes, the root included. -/
theorem lookup_insert_of_ne (hne : place ≠ location) :
    (tree.insert location entry).lookup place = tree.lookup place := by
  by_cases hplace : place = []
  · rw [hplace, lookup_nil, lookup_nil]
  · rw [lookup_insert hplace, if_neg hne]

theorem lookup_erase (hplace : place ≠ []) :
    (tree.erase location).lookup place =
      if location <+: place then none else tree.lookup place := by
  simp only [lookup, if_neg hplace, erase]
  rw [lookup_filter (fun other => !location.isPrefixOf other)]
  by_cases hbegins : location <+: place
  · rw [if_pos hbegins, List.isPrefixOf_iff_prefix.mpr hbegins]
    rfl
  · have hnot : location.isPrefixOf place = false := by
      rw [Bool.eq_false_iff]
      exact fun htrue => hbegins (List.isPrefixOf_iff_prefix.mp htrue)
    rw [if_neg hbegins, hnot]
    rfl

end Lookup

section Follow

variable {tree : FileTree} {location arrived : Location} {step : Component}
variable {steps : List Component}

/-- Following a step needs a directory to leave, and leads on from where the
step arrives. -/
theorem follow_cons_ok (hfollow : tree.follow location (step :: steps) = .ok arrived) :
    tree.follow (arrive location step) steps = .ok arrived ∧
      (step.moves = true → tree.lookup location = some .directory) := by
  cases step with
  | root => exact ⟨hfollow, by rintro ⟨⟩⟩
  | here => exact ⟨hfollow, by rintro ⟨⟩⟩
  | up =>
      simp only [follow] at hfollow
      split at hfollow
      next => cases hfollow
      next => cases hfollow
      next hdirectory => exact ⟨hfollow, fun _ => hdirectory⟩
  | name text =>
      simp only [follow] at hfollow
      split at hfollow
      next => cases hfollow
      next => cases hfollow
      next hdirectory =>
        split at hfollow
        next => cases hfollow
        next => exact ⟨hfollow, fun _ => hdirectory⟩

theorem follow_eq_destination (hfollow : tree.follow location steps = .ok arrived) :
    arrived = destination location steps := by
  induction steps generalizing location with
  | nil => exact (Except.ok.inj hfollow).symm
  | cons step steps ih => exact ih (follow_cons_ok hfollow).1

/-- All locations left behind on a way that can be followed are directories. -/
theorem lookup_left (hmoves : ∀ step ∈ steps, step.moves = true)
    (hfollow : tree.follow location steps = .ok arrived) :
    ∀ way ∈ (location :: ways location steps).dropLast, tree.lookup way = some .directory := by
  induction steps generalizing location with
  | nil => simp [ways]
  | cons step steps ih =>
      obtain ⟨hfirst, hrest⟩ := List.forall_mem_cons.mp hmoves
      obtain ⟨hnext, hleft⟩ := follow_cons_ok hfollow
      rw [ways, List.dropLast_cons_cons]
      intro way hway
      rcases List.mem_cons.mp hway with rfl | hlater
      · exact hleft hfirst
      · exact ih hrest hnext way hlater

/-- Only the last location on a way that can be followed may be other than a
directory. -/
theorem lookup_passed (hmoves : ∀ step ∈ steps.tail, step.moves = true)
    (hfollow : tree.follow location steps = .ok arrived) :
    ∀ way ∈ (ways location steps).dropLast, tree.lookup way = some .directory := by
  cases steps with
  | nil => simp [ways]
  | cons step steps => exact lookup_left hmoves (follow_cons_ok hfollow).1

/-- Directories can be followed; only the length of a name can stop it. -/
theorem follow_of_left (hmoves : ∀ step ∈ steps, step.moves = true)
    (hleft : ∀ way ∈ (location :: ways location steps).dropLast,
      tree.lookup way = some .directory) :
    tree.follow location steps = .ok (destination location steps) ∨
      tree.follow location steps = .error .nameTooLong := by
  induction steps generalizing location with
  | nil => exact .inl rfl
  | cons step steps ih =>
      obtain ⟨hfirst, hrest⟩ := List.forall_mem_cons.mp hmoves
      rw [ways, List.dropLast_cons_cons] at hleft
      obtain ⟨hhere, hlater⟩ := List.forall_mem_cons.mp hleft
      have hnext := ih hrest hlater
      cases step with
      | root => cases hfirst
      | here => cases hfirst
      | up =>
          simp only [follow, hhere]
          exact hnext
      | name text =>
          simp only [follow, hhere]
          split
          next => exact .inr rfl
          next => exact hnext

theorem follow_of_passed (hmoves : ∀ step ∈ steps.tail, step.moves = true)
    (hlocation : tree.lookup location = some .directory)
    (hpassed : ∀ way ∈ (ways location steps).dropLast, tree.lookup way = some .directory) :
    tree.follow location steps = .ok (destination location steps) ∨
      tree.follow location steps = .error .nameTooLong := by
  cases steps with
  | nil => exact .inl rfl
  | cons step steps =>
      cases step with
      | root =>
          rw [follow]
          exact follow_of_left hmoves hpassed
      | here =>
          rw [follow]
          exact follow_of_left hmoves hpassed
      | up =>
          apply follow_of_left (List.forall_mem_cons.mpr ⟨rfl, hmoves⟩)
          exact List.forall_mem_cons.mpr ⟨hlocation, hpassed⟩
      | name text =>
          apply follow_of_left (List.forall_mem_cons.mpr ⟨rfl, hmoves⟩)
          exact List.forall_mem_cons.mpr ⟨hlocation, hpassed⟩

end Follow

end FileTree

end WireScript
