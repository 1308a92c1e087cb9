import WireScript.Proofs.Storage.Ways

/-! # Changes of a file tree

What the operations on files leave behind when they succeed, told by `lookup`
alone. A failing operation may have changed the tree too; nothing is said of it.
-/

namespace WireScript

namespace Path

/-- The location a path leads to. -/
def location (origin : Location) (path : Path) : Location := destination origin path.components

/-- The locations on the way a path takes. -/
def ways (origin : Location) (path : Path) : List Location :=
  WireScript.ways origin path.components

theorem step?_moves {piece : List Char} {step : Component} (hstep : step? piece = some step) :
    step.moves = true := by
  unfold step? at hstep
  split at hstep
  next => cases hstep
  next =>
    split at hstep
    all_goals
      obtain rfl := Option.some.inj hstep
      rfl

/-- Behind the first step a path goes from directory to directory. -/
theorem moves_of_mem_components_tail (path : Path) :
    ∀ step ∈ path.components.tail, step.moves = true := by
  intro step hstep
  have hsteps : step ∈ (pieces path.text.toList).filterMap step? := by
    unfold components start at hstep
    split at hstep
    · exact hstep
    · exact hstep
    · exact hstep
    · exact List.mem_of_mem_tail hstep
  obtain ⟨piece, -, hpiece⟩ := List.mem_filterMap.mp hsteps
  exact step?_moves hpiece

/-- A path that does not climb behind its first step goes down all the way. -/
theorem isPrefix_of_mem_ways (path : Path) (hup : .up ∉ path.components.tail)
    (origin : Location) : ∀ way ∈ path.ways origin, way <+: path.location origin := by
  have hmoves := path.moves_of_mem_components_tail
  unfold ways location
  cases hsteps : path.components with
  | nil => simp [WireScript.ways]
  | cons step steps =>
      rw [hsteps] at hup hmoves
      exact WireScript.isPrefix_of_mem_ways hmoves hup

/-- Nothing below the location such a path leads to is on its way. -/
theorem append_notMem_ways (path : Path) (hup : .up ∉ path.components.tail)
    {origin place : Location} (hplace : place ≠ []) :
    path.location origin ++ place ∉ path.ways origin := by
  intro hway
  have hlength := (path.isPrefix_of_mem_ways hup origin _ hway).length_le
  rw [List.length_append] at hlength
  have hpositive := List.length_pos_iff.mpr hplace
  omega

end Path

namespace FileTree

/-- Some locations become directories. Whatever was anywhere is kept, and nothing
appears elsewhere. -/
structure Creates (tree : FileTree) (made : List Location) (after : FileTree) : Prop where
  origin : after.origin = tree.origin
  directory : ∀ place ∈ made, after.lookup place = some .directory
  kept : ∀ place entry, tree.lookup place = some entry → after.lookup place = some entry
  other : ∀ place, place ∉ made → after.lookup place = tree.lookup place

section Create

variable {tree after : FileTree} {steps : List Component}

theorem Creates.of_directories {made : List Location}
    (hmade : ∀ place ∈ made, tree.lookup place = some .directory) : Creates tree made tree :=
  ⟨rfl, hmade, fun _ _ hplace => hplace, fun _ _ => rfl⟩

/-- A new directory behind others that are there. -/
theorem Creates.insert {made : List Location} {place : Location}
    (hmade : ∀ way ∈ made.dropLast, tree.lookup way = some .directory)
    (hlast : made.getLast? = some place) (hnone : tree.lookup place = none) :
    Creates tree made (tree.insert place .directory) := by
  have hkept (other : Location) (entry : Entry) (hother : tree.lookup other = some entry) :
      (tree.insert place .directory).lookup other = some entry := by
    rw [lookup_insert_of_ne]
    · exact hother
    · rintro rfl
      rw [hnone] at hother
      cases hother
  have hplace : place ≠ [] := by
    rintro rfl
    cases hnone
  obtain ⟨before, rfl⟩ := List.getLast?_eq_some_iff.mp hlast
  rw [List.dropLast_concat] at hmade
  refine ⟨rfl, ?_, hkept, ?_⟩
  · intro way hway
    rcases List.mem_append.mp hway with hbefore | hself
    · exact hkept way _ (hmade way hbefore)
    · obtain rfl := List.mem_singleton.mp hself
      exact lookup_insert_self hplace
  · intro other hother
    rw [List.mem_append, List.mem_singleton, not_or] at hother
    exact lookup_insert_of_ne hother.2

theorem Creates.trans {between : FileTree} {first second : List Location}
    (hfirst : Creates tree first between) (hsecond : Creates between second after)
    (hsub : ∀ place ∈ first, place ∈ second) : Creates tree second after := by
  refine ⟨hsecond.origin.trans hfirst.origin, hsecond.directory, ?_, ?_⟩
  · intro place entry hplace
    exact hsecond.kept place entry (hfirst.kept place entry hplace)
  · intro place hplace
    rw [hsecond.other place hplace, hfirst.other place (fun hmem => hplace (hsub place hmem))]

theorem getLast?_ways (location : Location) (hsteps : steps ≠ []) :
    (ways location steps).getLast? = some (destination location steps) := by
  obtain ⟨before, last, rfl⟩ := List.eq_nil_or_concat steps |>.resolve_left hsteps
  rw [List.concat_eq_append, ways_append, destination_append]
  simp [ways, destination]

theorem createSteps_ok (hmoves : ∀ step ∈ steps.tail, step.moves = true)
    (hcreate : tree.createSteps steps = .ok after) :
    Creates tree (ways tree.origin steps) after := by
  unfold createSteps at hcreate
  cases hfollow : tree.follow tree.origin steps with
  | error error =>
      rw [hfollow] at hcreate
      cases hcreate
  | ok location =>
      rw [hfollow] at hcreate
      simp only [bind, Except.bind] at hcreate
      split at hcreate
      next text hlast =>
        split at hcreate
        next hnone =>
          obtain rfl := Except.ok.inj hcreate
          have hsteps : steps ≠ [] := by
            rintro rfl
            cases hlast
          refine Creates.insert (lookup_passed hmoves hfollow) ?_ hnone
          rw [getLast?_ways _ hsteps, follow_eq_destination hfollow]
        next => cases hcreate
      next => cases hcreate

theorem leadsToDirectory_creates (hmoves : ∀ step ∈ steps.tail, step.moves = true)
    (hleads : tree.leadsToDirectory steps = true) :
    Creates tree (ways tree.origin steps) tree := by
  unfold leadsToDirectory at hleads
  split at hleads
  next location hfollow =>
    apply Creates.of_directories
    intro place hplace
    have hsteps : steps ≠ [] := by
      rintro rfl
      cases hplace
    have hlast := getLast?_ways tree.origin hsteps
    obtain ⟨before, hways⟩ := List.getLast?_eq_some_iff.mp hlast
    have hpassed := lookup_passed hmoves hfollow
    rw [hways, List.dropLast_concat] at hpassed
    rw [hways, List.mem_append, List.mem_singleton] at hplace
    rcases hplace with hbefore | rfl
    · exact hpassed place hbefore
    · rw [← follow_eq_destination hfollow]
      exact beq_iff_eq.mp hleads
  next => cases hleads

theorem ensureSteps_ok (hmoves : ∀ step ∈ steps.tail, step.moves = true)
    (hensure : tree.ensureSteps steps = .ok after) :
    Creates tree (ways tree.origin steps) after := by
  unfold ensureSteps at hensure
  split at hensure
  next created hcreate =>
    obtain rfl := Except.ok.inj hensure
    exact createSteps_ok hmoves hcreate
  next =>
    split at hensure
    next hleads =>
      obtain rfl := Except.ok.inj hensure
      exact leadsToDirectory_creates hmoves hleads
    next => cases hensure

-- A way is created from its first step on, so a shorter way is met before the longer one.

theorem mem_tail_reverse_cons {step other : Component} {before : List Component}
    (hother : other ∈ before.reverse.tail) : other ∈ (step :: before).reverse.tail := by
  rw [List.reverse_cons]
  cases hrev : before.reverse with
  | nil => simp [hrev] at hother
  | cons first rest =>
      rw [hrev] at hother
      exact List.mem_append_left _ hother

theorem mem_ways_reverse_cons {origin place : Location} {step : Component}
    {before : List Component} (hplace : place ∈ ways origin before.reverse) :
    place ∈ ways origin (step :: before).reverse := by
  rw [List.reverse_cons, ways_append]
  exact List.mem_append_left _ hplace

/-- Creating a directory with those on the way makes directories of the locations
on the way. -/
theorem createWay_ok {reversed : List Component}
    (hmoves : ∀ step ∈ reversed.reverse.tail, step.moves = true)
    (hcreate : tree.createWay reversed = (.ok (), after)) :
    Creates tree (ways tree.origin reversed.reverse) after := by
  induction reversed generalizing after with
  | nil =>
      obtain ⟨-, rfl⟩ := Prod.mk.inj hcreate
      exact .of_directories (by simp [ways])
  | cons step before ih =>
      rw [createWay] at hcreate
      split at hcreate
      next created hsteps =>
        obtain ⟨-, rfl⟩ := Prod.mk.inj hcreate
        exact createSteps_ok hmoves hsteps
      next hmissing =>
        split at hcreate
        next => cases hcreate
        next between hbefore =>
          have hearlier : ∀ other ∈ before.reverse.tail, other.moves = true :=
            fun other hother => hmoves other (mem_tail_reverse_cons hother)
          -- the earlier steps lead through the same locations in both trees
          have hfirst := ih hearlier hbefore
          split at hcreate
          next created hensure =>
            obtain ⟨-, rfl⟩ := Prod.mk.inj hcreate
            have hsecond := ensureSteps_ok hmoves hensure
            rw [hfirst.origin] at hsecond
            exact hfirst.trans hsecond fun place => mem_ways_reverse_cons
          next => cases hcreate
      next error _ hstopped =>
        split at hcreate
        next hleads =>
          obtain ⟨-, rfl⟩ := Prod.mk.inj hcreate
          exact leadsToDirectory_creates hmoves hleads
        next => cases hcreate

end Create

section Paths

variable {tree after : FileTree} {path : Path}

theorem createAll_ok (hcreate : tree.createAll path = (.ok (), after)) :
    Creates tree (path.ways tree.origin) after := by
  unfold createAll at hcreate
  split at hcreate
  next => cases hcreate
  next =>
    have hmoves := path.moves_of_mem_components_tail
    rw [← path.components.reverse_reverse] at hmoves
    have hway := createWay_ok hmoves hcreate
    rwa [List.reverse_reverse] at hway

/-- A directory is created only at a path whose text and names can be used. -/
theorem createAll_followed (hcreate : tree.createAll path = (.ok (), after)) :
    textError? path = none ∧ tree.follow tree.origin path.components ≠ .error .nameTooLong := by
  unfold createAll at hcreate
  split at hcreate
  next => cases hcreate
  next htext =>
    refine ⟨htext, ?_⟩
    intro hfollow
    rw [← List.reverse_reverse path.components] at hfollow
    cases hreversed : path.components.reverse with
    | nil =>
        rw [hreversed] at hfollow
        cases hfollow
    | cons step before =>
        rw [hreversed] at hcreate hfollow
        have hstopped : tree.createSteps (step :: before).reverse = .error .nameTooLong := by
          rw [createSteps, hfollow]
          rfl
        have hleads : tree.leadsToDirectory (step :: before).reverse = false := by
          rw [leadsToDirectory, hfollow]
        rw [createWay, hstopped] at hcreate
        simp only [hleads] at hcreate
        cases hcreate

theorem locate_ok {location : Location} (hlocate : tree.locate path = .ok location) :
    location = path.location tree.origin := by
  unfold locate at hlocate
  split at hlocate
  next => cases hlocate
  next =>
    split at hlocate
    next => cases hlocate
    next => exact follow_eq_destination hlocate

theorem find_ok {location : Location} {entry : Entry}
    (hfind : tree.find path = .ok (location, entry)) :
    location = path.location tree.origin ∧ tree.lookup location = some entry := by
  unfold find at hfind
  cases hlocate : tree.locate path with
  | error error =>
      rw [hlocate] at hfind
      cases hfind
  | ok place =>
      rw [hlocate] at hfind
      simp only [bind, Except.bind] at hfind
      split at hfind
      next => cases hfind
      next hdirectory =>
        obtain ⟨rfl, rfl⟩ := Prod.mk.inj (Except.ok.inj hfind)
        exact ⟨locate_ok hlocate, hdirectory⟩
      next contents hfile =>
        split at hfind
        next => cases hfind
        next =>
          obtain ⟨rfl, rfl⟩ := Prod.mk.inj (Except.ok.inj hfind)
          exact ⟨locate_ok hlocate, hfile⟩

/-- A path that leads to a directory is found. -/
theorem isPresent_of_follow {location : Location} (hsome : path.text.isEmpty = false)
    (htext : textError? path = none)
    (hfollow : tree.follow tree.origin path.components = .ok location)
    (hdirectory : tree.lookup location = some .directory) : tree.isPresent path = true := by
  have hlocate : tree.locate path = .ok location := by
    simp only [locate, hsome, htext, hfollow]
    rfl
  have hfind : tree.find path = .ok (location, .directory) := by
    simp only [find, hlocate, bind, Except.bind, hdirectory]
  rw [isPresent, hfind]

theorem removeAll_ok (hremove : tree.removeAll path = (.ok (), after)) :
    after = tree.erase (path.location tree.origin) := by
  unfold removeAll at hremove
  split at hremove
  next => cases hremove
  next => cases hremove
  next location hfind =>
    obtain ⟨-, rfl⟩ := Prod.mk.inj hremove
    rw [(find_ok hfind).1]

/-- A file is written where its path leads, unless a directory is there. -/
theorem writeText_ok {text : String} (hwrite : tree.writeText path text = (.ok (), after)) :
    after = tree.insert (path.location tree.origin) (.file text.toUTF8) ∧
      tree.lookup (path.location tree.origin) ≠ some .directory := by
  unfold writeText at hwrite
  split at hwrite
  next => cases hwrite
  next location hlocate =>
    split at hwrite
    next => cases hwrite
    next hplain =>
      obtain ⟨-, rfl⟩ := Prod.mk.inj hwrite
      rw [← locate_ok hlocate]
      refine ⟨rfl, ?_⟩
      intro hdirectory
      rw [hdirectory] at hplain
      simp at hplain

end Paths

end FileTree

end WireScript
