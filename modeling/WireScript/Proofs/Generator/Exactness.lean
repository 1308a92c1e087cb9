import WireScript.Proofs.Generator.Placement

/-! # Exactness of the output

After a run the output root should hold the artifacts and nothing else. Whether
it does is decided before the run: the root must be found if anything is in it,
and the way to it may not pass through it. Both are so for a path without `..`.
-/

namespace WireScript

/-- What some artifacts put at a place below the output root: a file where one of
them belongs, and a directory in front of one. -/
def Artifact.entryAt (artifacts : List Artifact) (place : Location) : Option Entry :=
  match artifacts.find? (fun artifact => artifact.location == place) with
  | some artifact => some (.file artifact.contents.toUTF8)
  | none =>
      if artifacts.any (fun artifact => place.isPrefixOf artifact.location) then
        some .directory
      else none

theorem Artifact.entryAt_eq_none_iff {artifacts : List Artifact} {place : Location} :
    entryAt artifacts place = none ↔
      ∀ artifact ∈ artifacts, ¬ place <+: artifact.location := by
  unfold entryAt
  cases hfind : artifacts.find? (fun artifact => artifact.location == place) with
  | some artifact =>
      have hmem := List.mem_of_find?_eq_some hfind
      have hplace := List.find?_some hfind
      rw [beq_iff_eq] at hplace
      refine iff_of_false (by simp) ?_
      intro hnone
      exact hnone artifact hmem (hplace ▸ List.prefix_refl _)
  | none => simp [List.isPrefixOf_iff_prefix]

namespace FileTree

/-- Whether some artifacts and their directories are below a location. -/
def Holds (tree : FileTree) (location : Location) (artifacts : List Artifact) : Prop :=
  ∀ place entry, Artifact.entryAt artifacts place = some entry →
    tree.lookup (location ++ place) = some entry

/-- Whether some artifacts and their directories are all that is below a
location. -/
def HoldsExactly (tree : FileTree) (location : Location) (artifacts : List Artifact) : Prop :=
  ∀ place, place ≠ [] → tree.lookup (location ++ place) = Artifact.entryAt artifacts place

/-- Whether a run that writes some artifacts leaves nothing else below its output
root: the way to the root makes no other directory there, and the root is found
unless nothing else is there. -/
structure Clears (tree : FileTree) (root : Path) (artifacts : List Artifact) : Prop where
  passes : ∀ place, place ≠ [] → root.location tree.origin ++ place ∈ root.ways tree.origin →
    Artifact.entryAt artifacts place ≠ none
  found : tree.isPresent root = true ∨ ∀ place, place ≠ [] →
    tree.lookup (root.location tree.origin ++ place) ≠ none →
      Artifact.entryAt artifacts place ≠ none

/-- A tree without what is at a path, if the path is found. -/
def clearedAt (tree : FileTree) (root : Path) : FileTree :=
  if tree.isPresent root then tree.erase (root.location tree.origin) else tree

variable {tree after : FileTree} {root : Path} {artifacts : List Artifact}

/-- Where exactly some artifacts are held, all that is found is on the way to one. -/
theorem HoldsExactly.exists_artifact {location place : Location} {entry : Entry}
    (hexact : tree.HoldsExactly location artifacts) (hplace : place ≠ [])
    (hentry : tree.lookup (location ++ place) = some entry) :
    ∃ artifact ∈ artifacts, place <+: artifact.location := by
  by_contra hothers
  have hnone : Artifact.entryAt artifacts place = none := by
    rw [Artifact.entryAt_eq_none_iff]
    intro artifact hmem hbegins
    exact hothers ⟨artifact, hmem, hbegins⟩
  rw [hexact place hplace, hnone] at hentry
  cases hentry

theorem clearedAt_origin (tree : FileTree) (root : Path) :
    (tree.clearedAt root).origin = tree.origin := by
  unfold clearedAt
  split <;> rfl

theorem ResetTo.creates (hreset : tree.ResetTo root after) :
    Creates (tree.clearedAt root) (root.ways (tree.clearedAt root).origin) after := by
  obtain ⟨between, hremove, hcreate⟩ := hreset
  have hbetween : between = tree.clearedAt root := by
    unfold clearedAt
    split
    next hpresent =>
      rw [if_pos hpresent] at hremove
      exact removeAll_ok hremove
    next hpresent =>
      rw [if_neg hpresent] at hremove
      exact hremove
  rw [← hbetween]
  exact createAll_ok hcreate

theorem lookup_clearedAt {place : Location} (hplace : place ≠ []) :
    (tree.clearedAt root).lookup (root.location tree.origin ++ place) = none ↔
      tree.isPresent root = true ∨ tree.lookup (root.location tree.origin ++ place) = none := by
  unfold clearedAt
  by_cases hpresent : tree.isPresent root = true
  · rw [if_pos hpresent, lookup_erase (by simp [hplace]), if_pos (List.prefix_append _ _)]
    simp [hpresent]
  · rw [if_neg hpresent]
    simp [hpresent]

/-- Where artifacts are to be, the filled tree has them. -/
theorem Filled.holds {base : FileTree} (hfilled : Filled base root artifacts tree) :
    tree.Holds (root.location base.origin) artifacts := by
  intro place entry hentry
  unfold Artifact.entryAt at hentry
  split at hentry
  next artifact hfind =>
    obtain rfl := Option.some.inj hentry
    have hplace := List.find?_some hfind
    rw [beq_iff_eq] at hplace
    rw [← hplace]
    exact hfilled.files artifact (List.mem_of_find?_eq_some hfind)
  next hnone =>
    split at hentry
    next hany =>
      obtain rfl := Option.some.inj hentry
      obtain ⟨artifact, hmem, hbegins⟩ := List.any_eq_true.mp hany
      refine hfilled.parents artifact hmem place (List.isPrefixOf_iff_prefix.mp hbegins) ?_
      rintro rfl
      have hother := List.find?_eq_none.mp hnone artifact hmem
      simp at hother
    next => cases hentry

theorem Filled.lookup_of_none {base : FileTree} (hfilled : Filled base root artifacts tree)
    {place : Location} (hnone : Artifact.entryAt artifacts place = none) :
    tree.lookup (root.location base.origin ++ place) = none ↔
      root.location base.origin ++ place ∉ root.ways base.origin ∧
        base.lookup (root.location base.origin ++ place) = none := by
  -- a directory on the way to the root stays, wherever it is
  by_cases hway : root.location base.origin ++ place ∈ root.ways base.origin
  · simp [hway, hfilled.ways _ hway]
  · rw [hfilled.other _ hway, and_iff_right hway]
    intro artifact hmem first hbegins heq
    obtain rfl := List.append_cancel_left heq
    exact Artifact.entryAt_eq_none_iff.mp hnone artifact hmem hbegins

/-- A filled root holds exactly the artifacts when it was cleared. -/
theorem Filled.holdsExactly_iff (hfilled : Filled (tree.clearedAt root) root artifacts after) :
    after.HoldsExactly (root.location tree.origin) artifacts ↔ tree.Clears root artifacts := by
  have hlookup := fun place => @Filled.lookup_of_none _ _ _ _ hfilled place
  simp only [clearedAt_origin] at hlookup
  constructor
  · intro hexact
    have hcleared : ∀ place, place ≠ [] → Artifact.entryAt artifacts place = none →
        root.location tree.origin ++ place ∉ root.ways tree.origin ∧
          (tree.isPresent root = true ∨
            tree.lookup (root.location tree.origin ++ place) = none) := by
      intro place hplace hnone
      obtain ⟨hway, hbase⟩ := (hlookup place hnone).mp ((hexact place hplace).trans hnone)
      exact ⟨hway, (lookup_clearedAt hplace).mp hbase⟩
    refine ⟨?_, ?_⟩
    · intro place hplace hway hnone
      exact (hcleared place hplace hnone).1 hway
    · by_cases hpresent : tree.isPresent root = true
      · exact .inl hpresent
      · refine .inr ?_
        intro place hplace hthere hnone
        exact hthere ((hcleared place hplace hnone).2.resolve_left hpresent)
  · intro hclears place hplace
    cases hentry : Artifact.entryAt artifacts place with
    | some entry =>
        have hthere := hfilled.holds place entry hentry
        rwa [clearedAt_origin] at hthere
    | none =>
        refine (hlookup place hentry).mpr ⟨?_, ?_⟩
        · exact fun hway => hclears.passes place hplace hway hentry
        · rw [lookup_clearedAt hplace]
          refine hclears.found.imp_right ?_
          intro hothers
          by_contra hthere
          exact hothers place hplace hthere hentry

/-- A tree in which everything lies in directories. -/
def Closed (tree : FileTree) : Prop :=
  ∀ place name, tree.lookup (place ++ [name]) ≠ none → tree.lookup place = some .directory

theorem closed_of_entries
    (hentries : ∀ entry ∈ tree.entries, tree.lookup entry.1.dropLast = some .directory) :
    tree.Closed := by
  intro place name hthere
  obtain ⟨entry, hentry⟩ := Option.ne_none_iff_exists'.mp hthere
  rw [lookup, if_neg (by simp)] at hentry
  obtain ⟨before, behind, hsplit, -⟩ := List.lookup_eq_some_iff.mp hentry
  have hparent := hentries (place ++ [name], entry) (by rw [hsplit]; simp)
  rwa [List.dropLast_concat] at hparent

theorem Closed.lookup_of_prefix (hclosed : tree.Closed) {first place : Location}
    (hbegins : first <+: place) (hne : first ≠ place) (hthere : tree.lookup place ≠ none) :
    tree.lookup first = some .directory := by
  obtain ⟨rest, rfl⟩ := hbegins
  induction rest generalizing first with
  | nil => simp at hne
  | cons name rest ih =>
      apply hclosed first name
      by_cases hrest : rest = []
      · subst hrest
        exact hthere
      · have hsplit : first ++ name :: rest = first ++ [name] ++ rest := by simp
        rw [hsplit] at hthere
        have hdirectory := ih (by simpa using hrest) hthere
        rw [hdirectory]
        simp

/-- Where everything lies in directories, nothing is missed below a path that does
not climb again behind its first step. -/
theorem ResetTo.clears (hreset : tree.ResetTo root after) (hroot : root.EndsInName)
    (hclosed : tree.Closed) (horigin : tree.lookup tree.origin = some .directory)
    (hup : .up ∉ root.components.tail) (artifacts : List Artifact) :
    tree.Clears root artifacts := by
  constructor
  case passes =>
    intro place hplace hway
    exact absurd hway (root.append_notMem_ways hup hplace)
  case found =>
    by_contra hmissed
    rw [not_or] at hmissed
    obtain ⟨habsent, hothers⟩ := hmissed
    apply hothers
    intro place hplace hthere
    -- every location on the way is in front of what was missed
    have hdirectory : ∀ way ∈ root.ways tree.origin, tree.lookup way = some .directory := by
      intro way hway
      have hbegins := root.isPrefix_of_mem_ways hup tree.origin way hway
      apply hclosed.lookup_of_prefix (hbegins.trans (List.prefix_append _ place)) ?_ hthere
      rintro rfl
      exact root.append_notMem_ways hup hplace hway
    obtain ⟨between, hbetween, hcreate⟩ := hreset
    rw [if_neg habsent] at hbetween
    subst hbetween
    -- the way can be taken then, and the root is found
    obtain ⟨htext, hshort⟩ := createAll_followed hcreate
    have hfollow := (follow_of_passed root.moves_of_mem_components_tail horigin
      (fun way hway => hdirectory way (List.dropLast_subset _ hway))).resolve_right hshort
    have hsome : root.text.isEmpty = false := by simpa using hroot.text_ne_nil
    exact absurd (isPresent_of_follow hsome htext hfollow
      (hdirectory _ (hroot.location_mem_ways _))) habsent

end FileTree

end WireScript
