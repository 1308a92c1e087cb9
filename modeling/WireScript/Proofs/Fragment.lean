import Mathlib.Order.Lattice
import WireScript.Fragment

/-! # Fragments inside fragments

A line stands as far from the margin as its fragment and its own indentation say. Splicing
and moving change the numbers a line is kept with; here it is seen what becomes of the
distance from the margin, which is all that rendering shows.
-/

namespace WireScript.Fragment

/-- The lines of a fragment, each indented from the margin. -/
def placed (fragment : Fragment) : List Line := fragment.lines.map (shift fragment.depth)

theorem shift_shift (levels more : Nat) (line : Line) :
    shift more (shift levels line) = shift (levels + more) line := by
  simp only [shift, Nat.add_assoc]

/-- A fragment is shown as its lines stand, wherever its own depth is. -/
theorem render_eq (fragment : Fragment) :
    fragment.render = String.join (fragment.placed.map (renderLine 0)) := by
  have hline (line : Line) : renderLine 0 (shift fragment.depth line) =
      renderLine fragment.depth line := by
    simp only [renderLine, shift, Nat.zero_add, Nat.add_comm line.indent]
  rw [render, placed, List.map_map]
  exact congrArg String.join (List.map_congr_left fun line _ => (hline line).symm)

/-- A fragment that is moved to the right moves as a whole. -/
theorem placed_reindent_max (fragment : Fragment) (depth : Nat) :
    (fragment.reindent (max depth fragment.depth)).placed =
      fragment.placed.map (shift (depth - fragment.depth)) := by
  have hdepth : max depth fragment.depth = fragment.depth + (depth - fragment.depth) := by
    rw [← Nat.sub_add_eq_max, Nat.add_comm]
  simp only [placed, reindent, List.map_map]
  refine List.map_congr_left fun line _ => ?_
  rw [Function.comp_apply, shift_shift, hdepth]

/-- A spliced fragment stands at the greater of the two depths. -/
theorem placed_append (first second : Fragment) :
    (first.append second).placed =
      first.placed ++ (second.reindent (max first.depth second.depth)).placed := by
  have hshift : second.depth - first.depth + first.depth = max first.depth second.depth := by
    rw [Nat.sub_add_eq_max, max_comm]
  simp only [placed, append, reindent, List.map_append, List.map_map]
  refine congrArg _ (List.map_congr_left fun line _ => ?_)
  rw [Function.comp_apply, shift_shift, hshift]

theorem render_append (first second : Fragment) :
    (first.append second).render =
      first.render ++ (second.reindent (max first.depth second.depth)).render := by
  rw [render_eq, placed_append, List.map_append, String.join_append, ← render_eq, ← render_eq]

theorem map_shift_eq_iff {lines : List Line} {levels more : Nat} :
    lines.map (shift levels) = lines.map (shift more) ↔ lines = [] ∨ levels = more := by
  cases lines with
  | nil => simp
  | cons line rest =>
      constructor
      · intro heq
        have hindent := congrArg Line.indent (List.cons.inj heq).1
        exact .inr (Nat.add_left_cancel hindent)
      · rintro (hnil | rfl)
        · cases hnil
        · rfl

/-- Two splices can be made in either order exactly when the fragment in the middle lies
between the others in depth, or when there is nothing to splice last. -/
theorem append_append_eq_iff {first second third : Fragment} :
    first.append (second.append third) = (first.append second).append third ↔
      third.lines = [] ∨ first.depth ≤ second.depth ∧ second.depth ≤ third.depth ∨
        third.depth ≤ second.depth ∧ second.depth ≤ first.depth := by
  have hlevels : third.depth - second.depth + (second.depth - first.depth) =
      third.depth - first.depth ↔
        first.depth ≤ second.depth ∧ second.depth ≤ third.depth ∨
          third.depth ≤ second.depth ∧ second.depth ≤ first.depth := by omega
  have hshift (lines : List Line) (levels more : Nat) :
      (lines.map (shift levels)).map (shift more) = lines.map (shift (levels + more)) := by
    rw [List.map_map]
    exact List.map_congr_left fun line _ => shift_shift levels more line
  rw [← hlevels, ← map_shift_eq_iff]
  simp only [append, mk.injEq, true_and, List.map_append, hshift, List.append_assoc,
    List.append_cancel_left_eq]

/-- A fragment spliced into another one is shown behind it as it would be at the greater of
the two depths. All of its lines move by as much, and they stay where they are when it is the
deeper one. Splicing twice, it makes no difference which splice comes first exactly when the
depths rise or fall from the first fragment to the third, if that has lines at all. -/
theorem append_keepsIndentation (first second third : Fragment) :
    (first.append second).render =
        first.render ++ (second.reindent (max first.depth second.depth)).render ∧
      (first.append second).placed =
        first.placed ++ second.placed.map (shift (first.depth - second.depth)) ∧
      (first.depth ≤ second.depth →
        (first.append second).placed = first.placed ++ second.placed) ∧
      (first.append (second.append third) = (first.append second).append third ↔
        third.lines = [] ∨ first.depth ≤ second.depth ∧ second.depth ≤ third.depth ∨
          third.depth ≤ second.depth ∧ second.depth ≤ first.depth) := by
  refine ⟨render_append first second, ?_, ?_, append_append_eq_iff⟩
  · rw [placed_append, placed_reindent_max]
  · intro hdepth
    rw [placed_append, max_eq_right hdepth]
    rfl

/-- A loop two levels inside the branch around it, whose lines keep their places. -/
theorem append_keepsIndentation_deeper :
    let branch := ((empty 1).line "if (item) \x7b").indented 1 "first();"
    let loop := (((empty 3).line "for (;;) \x7b").indented 1 "second();").line "\x7d"
    branch.depth ≤ loop.depth ∧
      (branch.append loop).placed =
        [⟨1, "if (item) \x7b"⟩, ⟨2, "first();"⟩,
          ⟨3, "for (;;) \x7b"⟩, ⟨4, "second();"⟩, ⟨3, "\x7d"⟩] := by
  intro branch loop
  have hdepth : branch.depth ≤ loop.depth := by decide
  exact ⟨hdepth, (append_keepsIndentation branch loop (empty 0)).2.2.1 hdepth⟩

end WireScript.Fragment
