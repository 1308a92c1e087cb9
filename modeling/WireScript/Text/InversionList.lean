/-! # Inversion lists

A set of character codes given by the codes at which membership changes: the
codes from the first bound up to the second belong to it, those from the second
up to the third do not, and so on. The bounds ascend.
-/

namespace WireScript.Text

/-- Whether a code lies inside. -/
def inside (code : Nat) : List Nat → Bool
  | [] => false
  | bound :: bounds => decide (bound ≤ code) && !inside code bounds

end WireScript.Text
