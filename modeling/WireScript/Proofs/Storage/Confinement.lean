import WireScript.Proofs.Storage.Below

/-! # Confined changes

How far operations on files reach, whether they succeed or fail. A failing operation
may have done a part of its work: directories on the way to a path may have been made,
and what is at a path or below it may be in any state. Nothing else is ever changed.
-/

namespace WireScript

namespace FileTree

/-- Inside of some locations anything may have been changed. Elsewhere directories may
have been made at some locations where nothing was, and nothing else was changed. -/
structure Spares (tree : FileTree) (inside made : Location → Prop) (after : FileTree) : Prop where
  origin : after.origin = tree.origin
  outside : ∀ place, ¬ inside place → after.lookup place = tree.lookup place ∨
    made place ∧ tree.lookup place = none ∧ after.lookup place = some .directory

namespace Spares

variable {tree between after : FileTree} {inside made : Location → Prop}

theorem refl (tree : FileTree) : tree.Spares inside made tree :=
  ⟨rfl, fun _ _ => .inl rfl⟩

/-- The root is a directory whatever the entries are, so only the other places matter. -/
theorem of_lookup (horigin : after.origin = tree.origin)
    (hlookup : ∀ place, place ≠ [] → ¬ inside place → after.lookup place = tree.lookup place) :
    tree.Spares inside made after := by
  refine ⟨horigin, ?_⟩
  intro place houtside
  by_cases hnil : place = []
  · rw [hnil, lookup_nil, lookup_nil]
    exact .inl rfl
  · exact .inl (hlookup place hnil houtside)

/-- What was outside is there as it was. -/
theorem kept (hspares : tree.Spares inside made after) {place : Location}
    (houtside : ¬ inside place) {entry : Entry} (hentry : tree.lookup place = some entry) :
    after.lookup place = some entry := by
  rcases hspares.outside place houtside with hsame | ⟨-, hnone, -⟩
  · exact hsame.trans hentry
  · rw [hentry] at hnone
    cases hnone

theorem mono {inside' made' : Location → Prop} (hspares : tree.Spares inside made after)
    (hinside : ∀ place, inside place → inside' place)
    (hmade : ∀ place, made place → inside' place ∨ made' place) :
    tree.Spares inside' made' after := by
  refine ⟨hspares.origin, ?_⟩
  intro place houtside
  rcases hspares.outside place (fun h => houtside (hinside place h)) with hsame | ⟨hmember, hnew⟩
  · exact .inl hsame
  · exact .inr ⟨(hmade place hmember).resolve_left houtside, hnew⟩

theorem trans (hfirst : tree.Spares inside made between)
    (hsecond : between.Spares inside made after) : tree.Spares inside made after := by
  refine ⟨hsecond.origin.trans hfirst.origin, ?_⟩
  intro place houtside
  rcases hsecond.outside place houtside with hsame | ⟨hmember, hnone, hdirectory⟩
  · rw [hsame]
    exact hfirst.outside place houtside
  · rcases hfirst.outside place houtside with hbefore | ⟨-, -, hthere⟩
    · exact .inr ⟨hmember, hbefore.symm.trans hnone, hdirectory⟩
    -- a directory made before is not missing afterwards
    · rw [hthere] at hnone
      cases hnone

end Spares

section Operations

variable {tree after : FileTree}

/-- Directories that were created are the ones that were missing. -/
theorem Creates.spares {made : List Location} (hcreates : Creates tree made after) :
    tree.Spares (fun _ => False) (· ∈ made) after := by
  refine ⟨hcreates.origin, ?_⟩
  intro place _
  cases hplace : tree.lookup place with
  | some entry => exact .inl (hcreates.kept place entry hplace)
  | none =>
      by_cases hmember : place ∈ made
      · exact .inr ⟨hmember, rfl, hcreates.directory place hmember⟩
      · exact .inl ((hcreates.other place hmember).trans hplace)

/-- A way that cannot be created to its end may have been created in part. -/
theorem createWay_spares {reversed : List Component}
    (hmoves : ∀ step ∈ reversed.reverse.tail, step.moves = true) :
    tree.Spares (fun _ => False) (· ∈ ways tree.origin reversed.reverse)
      (tree.createWay reversed).2 := by
  induction reversed with
  | nil => exact .refl tree
  | cons step before ih =>
      have hbefore : tree.Spares (fun _ => False)
          (· ∈ ways tree.origin (step :: before).reverse) (tree.createWay before).2 :=
        (ih fun other hother => hmoves other (mem_tail_reverse_cons hother)).mono
          (fun _ hfalse => hfalse) fun _ hplace => .inr (mem_ways_reverse_cons hplace)
      rw [createWay]
      split
      next created hsteps => exact (createSteps_ok hmoves hsteps).spares
      next =>
        split
        next error between hstopped => rwa [hstopped] at hbefore
        next between hcreated =>
          rw [hcreated] at hbefore
          split
          next made hensure =>
            have hlast := (ensureSteps_ok hmoves hensure).spares
            rw [hbefore.origin] at hlast
            exact hbefore.trans hlast
          next => exact hbefore
      next =>
        split
        next => exact .refl tree
        next => exact .refl tree

theorem createAll_spares (tree : FileTree) (path : Path) :
    tree.Spares (fun _ => False) (· ∈ path.ways tree.origin) (tree.createAll path).2 := by
  unfold createAll
  split
  next => exact .refl tree
  next =>
    have hmoves := path.moves_of_mem_components_tail
    rw [← path.components.reverse_reverse] at hmoves
    have hway := @createWay_spares tree _ hmoves
    rwa [List.reverse_reverse] at hway

theorem removeAll_spares (tree : FileTree) (path : Path) :
    tree.Spares (path.location tree.origin <+: ·) (fun _ => False) (tree.removeAll path).2 := by
  unfold removeAll
  split
  next => exact .refl tree
  next => exact .refl tree
  next location hfind =>
    rw [← (find_ok hfind).1]
    refine .of_lookup rfl fun place hplace houtside => ?_
    rw [lookup_erase hplace, if_neg houtside]

theorem writeText_spares (tree : FileTree) (path : Path) (text : String) :
    tree.Spares (path.location tree.origin <+: ·) (fun _ => False)
      (tree.writeText path text).2 := by
  unfold writeText
  split
  next => exact .refl tree
  next location hlocate =>
    split
    next => exact .refl tree
    next =>
      rw [← locate_ok hlocate]
      refine .of_lookup rfl fun place hplace houtside => ?_
      rw [lookup_insert hplace, if_neg]
      rintro rfl
      exact houtside (List.prefix_refl _)

end Operations

/-- Only what is at a path or below it may have been changed, and directories missing on
the way to it may have been made. -/
def SparesOutside (tree : FileTree) (root : Path) (after : FileTree) : Prop :=
  tree.Spares (root.location tree.origin <+: ·) (· ∈ root.ways tree.origin) after

namespace SparesOutside

variable {root : Path} {tree between after : FileTree} {names : List String}

theorem refl (tree : FileTree) (root : Path) : tree.SparesOutside root tree := Spares.refl tree

theorem trans (hfirst : tree.SparesOutside root between)
    (hsecond : between.SparesOutside root after) : tree.SparesOutside root after := by
  unfold SparesOutside at hsecond
  rw [hfirst.origin] at hsecond
  exact Spares.trans hfirst hsecond

/-- The way to a path below another leads to that one, and then further below it. -/
theorem of_created (hroot : root.EndsInName) (hnames : ∀ name ∈ names, IsName name)
    (hspares : tree.Spares (fun _ => False) (· ∈ (root.below names).ways tree.origin) after) :
    tree.SparesOutside root after := by
  refine hspares.mono (fun _ hfalse => hfalse.elim) ?_
  intro place hplace
  rcases (hroot.mem_ways_below hnames).mp hplace with hway | ⟨first, -, rfl⟩
  · exact .inr hway
  · exact .inl (List.prefix_append _ _)

/-- What is below a path below another is below that one as well. -/
theorem of_changed (hroot : root.EndsInName) (hnames : ∀ name ∈ names, IsName name)
    (hspares : tree.Spares ((root.below names).location tree.origin <+: ·) (fun _ => False)
      after) :
    tree.SparesOutside root after := by
  rw [hroot.location_below hnames] at hspares
  exact hspares.mono (fun _ hplace => (List.prefix_append _ _).trans hplace)
    (fun _ hfalse => hfalse.elim)

end SparesOutside

end FileTree

/-- Files of some kind that can be seen as a tree, and whose operations reach no further
than the path they are given. They may fail at any time, with a part of their work
done. -/
structure FileStore.Confined {σ : Type} [FileStore (StateM σ)] (view : σ → FileTree) : Prop where
  readText : ∀ path files,
    view ((FileStore.readText path : StateM σ (Except FileError String)) files).2 = view files
  isPresent : ∀ path files,
    view ((FileStore.isPresent path : StateM σ Bool) files).2 = view files
  createAll : ∀ path files, (view files).Spares (fun _ => False)
    (· ∈ path.ways (view files).origin)
    (view ((FileStore.createAll path : StateM σ (Except FileError Unit)) files).2)
  removeAll : ∀ path files, (view files).Spares
    (path.location (view files).origin <+: ·) (fun _ => False)
    (view ((FileStore.removeAll path : StateM σ (Except FileError Unit)) files).2)
  writeText : ∀ path text files, (view files).Spares
    (path.location (view files).origin <+: ·) (fun _ => False)
    (view ((FileStore.writeText path text : StateM σ (Except FileError Unit)) files).2)

/-- A file tree, seen as it is, is confined. -/
theorem FileTree.confined : FileStore.Confined (fun tree : FileTree => tree) where
  readText _ _ := rfl
  isPresent _ _ := rfl
  createAll path tree := tree.createAll_spares path
  removeAll path tree := tree.removeAll_spares path
  writeText path text tree := tree.writeText_spares path text

/-- A file tree that may be changed so many times more. After that changes are refused,
and a write leaves an empty file when it is. -/
structure MeteredTree where
  tree : FileTree
  changes : Nat

namespace MeteredTree

/-- Do one more change, or refuse it and leave a part of it done. -/
def change (files : MeteredTree) (whole : Except FileError Unit × FileTree) (part : FileTree) :
    Except FileError Unit × MeteredTree :=
  match files.changes with
  | 0 => (.error .permissionDenied, ⟨part, 0⟩)
  | changes + 1 => (whole.1, ⟨whole.2, changes⟩)

instance : FileStore (StateM MeteredTree) where
  readText path := fun files => (files.tree.readText path, files)
  isPresent path := fun files => (files.tree.isPresent path, files)
  createAll path := fun files => files.change (files.tree.createAll path) files.tree
  removeAll path := fun files => files.change (files.tree.removeAll path) files.tree
  writeText path text := fun files =>
    files.change (files.tree.writeText path text) (files.tree.writeText path "").2

theorem change_spares {inside made : Location → Prop} {files : MeteredTree}
    {whole : Except FileError Unit × FileTree} {part : FileTree}
    (hwhole : files.tree.Spares inside made whole.2)
    (hpart : files.tree.Spares inside made part) :
    files.tree.Spares inside made (files.change whole part).2.tree := by
  unfold change
  split
  next => exact hpart
  next => exact hwhole

/-- A metered tree is confined however many changes it may see. -/
theorem confined : FileStore.Confined MeteredTree.tree where
  readText _ _ := rfl
  isPresent _ _ := rfl
  createAll path files := change_spares (files.tree.createAll_spares path) (.refl _)
  removeAll path files := change_spares (files.tree.removeAll_spares path) (.refl _)
  writeText path text files :=
    change_spares (files.tree.writeText_spares path text) (files.tree.writeText_spares path "")

end MeteredTree

end WireScript
