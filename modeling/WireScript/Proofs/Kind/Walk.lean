import Mathlib.Algebra.Ring.Nat
import Mathlib.Logic.Function.Iterate
import WireScript.Kind

/-! # Walks

Something made of parts is walked with a stack of the parts that are still to be visited.
One visit takes the part on top, notes what it shows and puts the parts directly inside it
on the stack. Two things about a walk are known from one visit: a node fewer remains, and
what will have been noted in the end does not change. So a walk ends after as many visits as
there are nodes, with what a recursion over the parts finds. The depth of a kind is found
in this way.
-/

namespace WireScript

/-- What a walk has noted, and the parts it has still to visit, the one on top first. -/
structure Walk (σ α : Type) where
  noted : σ
  pending : List α

namespace Walk

variable {σ α : Type}

/-- Visit the part on top, if there is one. -/
def visit (note : σ → α → σ) (inside : α → List α) (walk : Walk σ α) : Walk σ α :=
  match walk.pending with
  | [] => walk
  | part :: pending => ⟨note walk.noted part, inside part ++ pending⟩

/-- The nodes still to be visited. -/
def remaining (nodes : α → Nat) (walk : Walk σ α) : Nat := (walk.pending.map nodes).sum

/-- What will have been noted in the end, if `outcome` says it of every part as a whole. -/
def result (outcome : σ → α → σ) (walk : Walk σ α) : σ := walk.pending.foldl outcome walk.noted

variable {note : σ → α → σ} {inside : α → List α} {nodes : α → Nat} {outcome : σ → α → σ}

theorem remaining_visit (hnodes : ∀ part, nodes part = 1 + ((inside part).map nodes).sum)
    (walk : Walk σ α) :
    (walk.visit note inside).remaining nodes = walk.remaining nodes - 1 := by
  obtain ⟨noted, pending⟩ := walk
  cases pending with
  | nil => rfl
  | cons part pending =>
      simp only [visit, remaining, List.map_append, List.map_cons, List.sum_append,
        List.sum_cons, hnodes part]
      omega

theorem result_visit
    (houtcome : ∀ noted part, outcome noted part = (inside part).foldl outcome (note noted part))
    (walk : Walk σ α) : (walk.visit note inside).result outcome = walk.result outcome := by
  obtain ⟨noted, pending⟩ := walk
  cases pending with
  | nil => rfl
  | cons part pending =>
      simp only [visit, result, List.foldl_append, List.foldl_cons, houtcome noted part]

theorem remaining_iterate (hnodes : ∀ part, nodes part = 1 + ((inside part).map nodes).sum)
    (walk : Walk σ α) (visits : Nat) :
    ((visit note inside)^[visits] walk).remaining nodes = walk.remaining nodes - visits := by
  induction visits with
  | zero => rfl
  | succ visits ih =>
      rw [Function.iterate_succ_apply', remaining_visit hnodes, ih, Nat.sub_sub]

theorem result_iterate
    (houtcome : ∀ noted part, outcome noted part = (inside part).foldl outcome (note noted part))
    (walk : Walk σ α) (visits : Nat) :
    ((visit note inside)^[visits] walk).result outcome = walk.result outcome := by
  induction visits with
  | zero => rfl
  | succ visits ih => rw [Function.iterate_succ_apply', result_visit houtcome, ih]

theorem pending_eq_nil_iff (hnodes : ∀ part, nodes part = 1 + ((inside part).map nodes).sum)
    (walk : Walk σ α) : walk.pending = [] ↔ walk.remaining nodes = 0 := by
  obtain ⟨noted, pending⟩ := walk
  cases pending with
  | nil => simp [remaining]
  | cons part pending => simp [remaining, hnodes part]

/-- The stack is empty as soon as there have been as many visits as there were nodes. -/
theorem pending_iterate_eq_nil_iff
    (hnodes : ∀ part, nodes part = 1 + ((inside part).map nodes).sum) (walk : Walk σ α)
    (visits : Nat) :
    ((visit note inside)^[visits] walk).pending = [] ↔ walk.remaining nodes ≤ visits := by
  rw [pending_eq_nil_iff hnodes, remaining_iterate hnodes, Nat.sub_eq_zero_iff_le]

/-- From then on, what has been noted is what was to be noted from the beginning. -/
theorem iterate_eq (hnodes : ∀ part, nodes part = 1 + ((inside part).map nodes).sum)
    (houtcome : ∀ noted part, outcome noted part = (inside part).foldl outcome (note noted part))
    (walk : Walk σ α) (more : Nat) :
    (visit note inside)^[walk.remaining nodes + more] walk = ⟨walk.result outcome, []⟩ := by
  have hend : ((visit note inside)^[walk.remaining nodes + more] walk).pending = [] :=
    (pending_iterate_eq_nil_iff hnodes walk _).mpr (Nat.le_add_right _ more)
  have hresult := result_iterate houtcome walk (walk.remaining nodes + more)
  rw [result, hend, List.foldl_nil] at hresult
  rw [← hresult, ← hend]

end Walk

namespace Kind

theorem size_eq (kind : Kind) : kind.size = 1 + (kind.children.map size).sum := by
  cases kind <;> simp [size, children] <;> omega

/-- The levels of a kind, by recursion on it. -/
def height : Kind → Nat
  | .scalar _ => 0
  | .sequence _ element => 1 + element.height
  | .map key value => 1 + max key.height value.height
  | .message _ => 0

/-- Note the level of a part, given the levels around it, if the part is a level itself. -/
def noteLevel (deepest : Nat) (part : Kind × Nat) : Nat :=
  if part.1.isComposite then max deepest (part.2 + 1) else deepest

/-- The kinds directly inside a part, one level further in. They are put on the stack one
by one, so the value of a map is on top of its key. -/
def partsInside (part : Kind × Nat) : List (Kind × Nat) :=
  (part.1.children.map (fun child => (child, part.2 + 1))).reverse

/-- A visit on the way to the deepest level. -/
def visitLevel : Walk Nat (Kind × Nat) → Walk Nat (Kind × Nat) :=
  Walk.visit noteLevel partsInside

/-- The deepest level when all of a part has been visited. -/
def deepestOf (deepest : Nat) (part : Kind × Nat) : Nat :=
  if part.1.isComposite then max deepest (part.2 + part.1.height) else deepest

/-- Below a level that has been noted already, a part counts with all of its levels. -/
theorem deepestOf_of_le {deepest level : Nat} (hlevel : level ≤ deepest) (kind : Kind) :
    deepestOf deepest (kind, level) = max deepest (level + kind.height) := by
  cases kind with
  | scalar s => exact (Nat.max_eq_left hlevel).symm
  | sequence collection element => rfl
  | map key value => rfl
  | message id => exact (Nat.max_eq_left hlevel).symm

theorem deepestOf_sequence (deepest level : Nat) (collection : Collection) (element : Kind) :
    deepestOf deepest (sequence collection element, level) =
      deepestOf (max deepest (level + 1)) (element, level + 1) := by
  rw [deepestOf_of_le (Nat.le_max_right _ _)]
  change max deepest (level + (1 + element.height)) = _
  omega

theorem deepestOf_map (deepest level : Nat) (key value : Kind) :
    deepestOf deepest (map key value, level) =
      deepestOf (deepestOf (max deepest (level + 1)) (key, level + 1)) (value, level + 1) := by
  have hnoted : level + 1 ≤ max deepest (level + 1) := Nat.le_max_right _ _
  rw [deepestOf_of_le hnoted, deepestOf_of_le (Nat.le_trans hnoted (Nat.le_max_left _ _))]
  change max deepest (level + (1 + max key.height value.height)) = _
  omega

/-- It does not matter which of two parts is visited first. -/
theorem deepestOf_comm (deepest : Nat) (first second : Kind × Nat) :
    deepestOf (deepestOf deepest first) second = deepestOf (deepestOf deepest second) first := by
  unfold deepestOf
  by_cases hfirst : first.1.isComposite = true
  · by_cases hsecond : second.1.isComposite = true
    · simp only [if_pos hfirst, if_pos hsecond, Nat.max_right_comm]
    · simp only [if_neg hsecond]
  · simp only [if_neg hfirst]

theorem deepestOf_eq (deepest : Nat) (part : Kind × Nat) :
    deepestOf deepest part = (partsInside part).foldl deepestOf (noteLevel deepest part) := by
  obtain ⟨kind, level⟩ := part
  cases kind with
  | scalar s => rfl
  | sequence collection element => exact deepestOf_sequence deepest level collection element
  | map key value =>
      rw [deepestOf_map, deepestOf_comm]
      rfl
  | message id => rfl

/-- The parts that are pending, in whatever state the walk is, decide what is deepest. -/
theorem deepest_eq_foldl (seen : Nat) (pending : List (Kind × Nat)) :
    deepest seen pending = pending.foldl deepestOf seen := by
  induction seen, pending using deepest.induct with
  | case1 seen => rw [deepest, List.foldl_nil]
  | case2 seen s level pending ih => rw [deepest, ih]; rfl
  | case3 seen c element level pending ih =>
      rw [deepest, ih, List.foldl_cons, List.foldl_cons, deepestOf_sequence]
  | case4 seen key value level pending ih =>
      rw [deepest, ih, List.foldl_cons, List.foldl_cons, List.foldl_cons, deepestOf_map]
  | case5 seen id level pending ih => rw [deepest, ih]; rfl

theorem deepestOf_zero (kind : Kind) : deepestOf 0 (kind, 0) = kind.height := by
  rw [deepestOf_of_le (Nat.le_refl 0), Nat.zero_add, Nat.zero_max]

theorem depth_eq_height (kind : Kind) : kind.depth = kind.height :=
  (deepest_eq_foldl 0 [(kind, 0)]).trans kind.deepestOf_zero

/-- The number of nodes of a part. -/
theorem size_part (part : Kind × Nat) :
    part.1.size = 1 + ((partsInside part).map (fun inner => inner.1.size)).sum := by
  rw [size_eq, partsInside, List.map_reverse, List.sum_reverse, List.map_map]
  rfl

/-- From whatever is on the stack, a walk ends with the deepest level. -/
theorem visitLevel_iterate (seen : Nat) (pending : List (Kind × Nat)) (more : Nat) :
    visitLevel^[(pending.map (fun part => part.1.size)).sum + more] ⟨seen, pending⟩ =
      ⟨deepest seen pending, []⟩ := by
  rw [deepest_eq_foldl]
  exact Walk.iterate_eq size_part deepestOf_eq ⟨seen, pending⟩ more

/-- Walking a kind for its deepest level ends, after as many visits as the kind has nodes and
not before, with its depth. That is none for a scalar or a message, one more than the element
for a sequence, and one more than the deeper of key and value for a map. -/
theorem depth_walk (kind : Kind) :
    (∀ visits, (visitLevel^[visits] ⟨0, [(kind, 0)]⟩).pending = [] ↔ kind.size ≤ visits) ∧
      (∀ more, visitLevel^[kind.size + more] ⟨0, [(kind, 0)]⟩ = ⟨kind.depth, []⟩) ∧
      kind.depth = kind.height :=
  ⟨Walk.pending_iterate_eq_nil_iff size_part ⟨0, [(kind, 0)]⟩,
    visitLevel_iterate 0 [(kind, 0)], kind.depth_eq_height⟩

end Kind

end WireScript
