import WireScript.Proofs.Generator.Stages
import WireScript.Proofs.Storage.Below

/-! # Filling the output root

The tree a run leaves behind, location by location. Every artifact is a file where
its path leads from the output root, the locations in front of it are directories,
and everything else is as the reset of the root left it; later writes disturb
nothing that earlier ones made.
-/

namespace WireScript

/-- The names on the way from the output root to an artifact. -/
def Artifact.location (artifact : Artifact) : Location :=
  (Path.pieces artifact.path.toList).map String.ofList

/-- An artifact whose path is made of names. -/
def Artifact.IsPlaced (artifact : Artifact) : Prop :=
  ∃ names, names ≠ [] ∧ (∀ name ∈ names, IsName name) ∧ artifact.path = "/".intercalate names

namespace Artifact

theorem location_eq {artifact : Artifact} {names : List String} (hsome : names ≠ [])
    (hnames : ∀ name ∈ names, IsName name) (hpath : artifact.path = "/".intercalate names) :
    artifact.location = names := by
  have hpieces := Path.pieces_intercalate hsome fun name hname => (hnames name hname).separated
  rw [location, hpath, hpieces, List.map_map]
  exact List.map_id'' (fun name => String.ofList_toList) names

/-- A placed artifact lies below the output root, and its parent is the root or lies
below it as well. -/
theorem IsPlaced.exists_below {artifact : Artifact} {root : Path} (hplaced : artifact.IsPlaced)
    (hroot : root.EndsInName) :
    ∃ names before last, (∀ name ∈ names, IsName name) ∧ (∀ name ∈ before, IsName name) ∧
      names = before ++ [last] ∧ artifact.location = names ∧
      root.join artifact.path = root.below names ∧
      (root.join artifact.path).parent? = some (root.below before) := by
  obtain ⟨names, hsome, hnames, hpath⟩ := hplaced
  obtain ⟨before, last, rfl⟩ : ∃ before last, names = before ++ [last] :=
    ⟨names.dropLast, names.getLast hsome, (List.dropLast_append_getLast hsome).symm⟩
  obtain ⟨hbefore, hlast⟩ := List.forall_mem_append.mp hnames
  have hjoin : root.join artifact.path = root.below (before ++ [last]) := by
    rw [hpath, hroot.join_eq_below hsome hnames]
  refine ⟨_, before, last, hnames, hbefore, rfl, location_eq hsome hnames hpath, hjoin, ?_⟩
  rw [hjoin]
  exact hroot.parent?_below hbefore (hlast last List.mem_cons_self)

end Artifact

namespace FileTree

section Stores

variable {tree after : FileTree} {root : Path} {artifact : Artifact}

/-- What storing an artifact leaves behind. -/
structure Stored (tree : FileTree) (root : Path) (artifact : Artifact) (after : FileTree) :
    Prop where
  origin : after.origin = tree.origin
  file : after.lookup (root.location tree.origin ++ artifact.location) =
    some (.file artifact.contents.toUTF8)
  parents : ∀ first, first <+: artifact.location → first ≠ artifact.location →
    after.lookup (root.location tree.origin ++ first) = some .directory
  ways : ∀ way ∈ root.ways tree.origin, after.lookup way = some .directory
  kept : ∀ place entry, tree.lookup place = some entry →
    place ≠ root.location tree.origin ++ artifact.location → after.lookup place = some entry
  fresh : tree.lookup (root.location tree.origin ++ artifact.location) ≠ some .directory
  other : ∀ place, place ∉ root.ways tree.origin →
    (∀ first, first <+: artifact.location → place ≠ root.location tree.origin ++ first) →
    after.lookup place = tree.lookup place

theorem StoresTo.stored (hroot : root.EndsInName) (hplaced : artifact.IsPlaced)
    (hstores : tree.StoresTo root artifact after) : tree.Stored root artifact after := by
  obtain ⟨names, before, last, hnames, hbefore, hsplit, hlocation, hjoin, hparent⟩ :=
    hplaced.exists_below hroot
  obtain ⟨between, hcreate, hwrite⟩ := hstores
  rw [hparent] at hcreate
  rw [hjoin] at hwrite
  have hcreates := createAll_ok hcreate
  obtain ⟨hafter, hfresh⟩ := writeText_ok hwrite
  rw [hcreates.origin, hroot.location_below hnames] at hafter hfresh
  have hplace : root.location tree.origin ++ names ≠ [] := by simp [hsplit]
  have hinsert (place : Location) (hne : place ≠ root.location tree.origin ++ names) :
      after.lookup place = between.lookup place := by
    rw [hafter, lookup_insert_of_ne hne]
  have hdirectory (place : Location)
      (hplace : between.lookup place = some .directory) : after.lookup place = some .directory := by
    rw [hinsert place]
    · exact hplace
    · rintro rfl
      exact hfresh hplace
  constructor
  case origin => rw [hafter]; exact hcreates.origin
  case file => rw [hlocation, hafter, lookup_insert_self hplace]
  case parents =>
    rw [hlocation]
    intro first hbegins hne
    apply hdirectory
    apply hcreates.directory
    rw [hsplit, List.prefix_concat_iff] at hbegins
    exact (hroot.mem_ways_below hbefore).mpr
      (.inr ⟨first, hbegins.resolve_left (hsplit ▸ hne), rfl⟩)
  case ways =>
    intro way hway
    apply hdirectory
    apply hcreates.directory
    exact (hroot.mem_ways_below hbefore).mpr (.inl hway)
  case kept =>
    rw [hlocation]
    intro place entry hentry hne
    rw [hinsert place hne]
    exact hcreates.kept place entry hentry
  case fresh =>
    rw [hlocation]
    intro hthere
    exact hfresh (hcreates.kept _ _ hthere)
  case other =>
    rw [hlocation]
    intro place hways hnames'
    rw [hinsert place (hnames' names (List.prefix_refl _))]
    apply hcreates.other
    rw [hroot.mem_ways_below hbefore]
    rintro (hway | ⟨first, hbegins, rfl⟩)
    · exact hways hway
    · exact hnames' first (hbegins.trans (hsplit ▸ List.prefix_append _ _)) rfl

end Stores

/-- A tree in which some artifacts fill an output root. It differs from `base` on
the way to the root and to the artifacts only. -/
structure Filled (base : FileTree) (root : Path) (artifacts : List Artifact) (tree : FileTree) :
    Prop where
  origin : tree.origin = base.origin
  files : ∀ artifact ∈ artifacts,
    tree.lookup (root.location base.origin ++ artifact.location) =
      some (.file artifact.contents.toUTF8)
  parents : ∀ artifact ∈ artifacts, ∀ first, first <+: artifact.location →
    first ≠ artifact.location →
    tree.lookup (root.location base.origin ++ first) = some .directory
  ways : ∀ way ∈ root.ways base.origin, tree.lookup way = some .directory
  other : ∀ place, place ∉ root.ways base.origin →
    (∀ artifact ∈ artifacts, ∀ first, first <+: artifact.location →
      place ≠ root.location base.origin ++ first) →
    tree.lookup place = base.lookup place

namespace Filled

variable {base tree after : FileTree} {root : Path} {artifacts : List Artifact}

theorem of_creates (hcreates : Creates base (root.ways base.origin) tree) :
    Filled base root [] tree :=
  ⟨hcreates.origin, by simp, by simp, hcreates.directory, fun place hplace _ =>
    hcreates.other place hplace⟩

/-- Storing one more artifact keeps those that are there. -/
theorem store {artifact : Artifact} (hfilled : Filled base root artifacts tree)
    (hstored : tree.Stored root artifact after)
    (hnew : ∀ other ∈ artifacts, other.location ≠ artifact.location) :
    Filled base root (artifacts ++ [artifact]) after := by
  obtain ⟨horigin, hfile, hparents, hways, hkept, hfresh, hother⟩ := hstored
  rw [hfilled.origin] at horigin hfile hparents hways hkept hfresh hother
  constructor
  case origin => exact horigin
  case files =>
    intro other hmem
    rcases List.mem_append.mp hmem with hold | hlast
    · apply hkept _ _ (hfilled.files other hold)
      intro heq
      exact hnew other hold (List.append_cancel_left heq)
    · obtain rfl := List.mem_singleton.mp hlast
      exact hfile
  case parents =>
    intro other hmem first hbegins hne
    rcases List.mem_append.mp hmem with hold | hlast
    · have hdirectory := hfilled.parents other hold first hbegins hne
      apply hkept _ _ hdirectory
      -- no file was written where a directory is
      intro heq
      exact hfresh (heq ▸ hdirectory)
    · obtain rfl := List.mem_singleton.mp hlast
      exact hparents first hbegins hne
  case ways => exact hways
  case other =>
    intro place hplace hnone
    rw [hother place hplace (hnone artifact (by simp))]
    exact hfilled.other place hplace (fun other hold =>
      hnone other (List.mem_append_left _ hold))

/-- Artifacts at different places can be stored in any number. -/
theorem storeAll {before : List Artifact} (hroot : root.EndsInName)
    (hstores : StoresAllTo root tree artifacts after) (hfilled : Filled base root before tree)
    (hplaced : ∀ artifact ∈ artifacts, artifact.IsPlaced)
    (hnodup : ((before ++ artifacts).map Artifact.location).Nodup) :
    Filled base root (before ++ artifacts) after := by
  induction hstores generalizing before with
  | nil => rwa [List.append_nil]
  | cons hfirst _ ih =>
      rename_i artifact rest _
      obtain ⟨hartifact, hrest⟩ := List.forall_mem_cons.mp hplaced
      have hsplit : before ++ artifact :: rest = (before ++ [artifact]) ++ rest := by simp
      rw [hsplit] at hnodup ⊢
      refine ih (hfilled.store (hfirst.stored hroot hartifact) ?_) hrest hnodup
      -- an artifact stored before has another place
      intro other hother heq
      rw [List.map_append, List.map_append, List.append_assoc] at hnodup
      have hdisjoint := (List.nodup_append.mp hnodup).2.2
      exact hdisjoint _ (List.mem_map_of_mem hother) artifact.location (by simp) heq

end Filled

end FileTree

end WireScript
