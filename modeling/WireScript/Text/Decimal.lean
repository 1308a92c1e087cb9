/-! # Decimal numbers

Numbers are written in decimal digits without leading zeros and read back from
any non-empty run of ASCII digits, up to a largest value.
-/

namespace WireScript.Text

/-- The decimal digits of a number. -/
def decimal (n : Nat) : String := n.repr

/-- Read a run of ASCII digits. Leading zeros are allowed; an empty text, a sign
and a value above `largest` are not. -/
def readDecimal (largest : Nat) (text : List Char) : Option Nat :=
  if text.isEmpty || !text.all Char.isDigit then none
  else
    let n := Nat.ofDigitChars 10 text 0
    if n ≤ largest then some n else none

/-- Read a number that may carry one plus sign in front. -/
def readSigned (largest : Nat) : List Char → Option Nat
  | '+' :: digits => readDecimal largest digits
  | digits => readDecimal largest digits

theorem isDigit_of_mem_decimal {n : Nat} {c : Char} (hc : c ∈ (decimal n).toList) :
    c.isDigit = true := by
  rw [decimal, Nat.toList_repr] at hc
  exact Nat.isDigit_of_mem_toDigits (by decide) (by decide) hc

theorem decimal_ne_nil (n : Nat) : (decimal n).toList ≠ [] := by
  rw [decimal, Nat.toList_repr]
  exact Nat.toDigits_ne_nil

theorem ofDigitChars_decimal (n : Nat) : Nat.ofDigitChars 10 (decimal n).toList 0 = n := by
  rw [decimal, Nat.toList_repr, Nat.ofDigitChars_toDigits (by decide) (by decide)]

theorem decimal_inj {first second : Nat} : decimal first = decimal second ↔ first = second := by
  refine ⟨fun hsame => ?_, congrArg decimal⟩
  rw [← ofDigitChars_decimal first, hsame, ofDigitChars_decimal]

/-- Writing a number and reading it back gives the number. -/
theorem readDecimal_decimal {largest n : Nat} (h : n ≤ largest) :
    readDecimal largest (decimal n).toList = some n := by
  have digits : (decimal n).toList.all Char.isDigit = true := by
    rw [List.all_eq_true]
    intro c hc
    exact isDigit_of_mem_decimal hc
  have nonempty : (decimal n).toList.isEmpty = false := by
    cases hd : (decimal n).toList with
    | nil => exact absurd hd (decimal_ne_nil n)
    | cons c rest => rfl
  simp only [readDecimal, digits, nonempty, ofDigitChars_decimal]
  simp [h]

end WireScript.Text
