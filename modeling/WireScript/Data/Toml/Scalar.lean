import WireScript.Data

/-! # Bare values

Numbers, truth values and times, which stand in a document without quotes. Dates
and floating-point numbers are checked and then forgotten, since no setting is
one. Only the form of a number is a matter of the document: a number of the right
form that cannot be represented is refused where its value is asked for. The form
of a whole number with underscores in it is a loose one.
-/

namespace WireScript.Data.Toml

/-- Digits with single underscores between them. -/
def grouped? (isDigit : Char → Bool) : List Char → Option (List Char)
  | [] => none
  | [c] => if isDigit c then some [c] else none
  | c :: '_' :: rest => if isDigit c then (grouped? isDigit rest).map (c :: ·) else none
  | c :: rest => if isDigit c then (grouped? isDigit rest).map (c :: ·) else none

/-- The value of a digit in a base up to sixteen. -/
def digitValue (c : Char) : Nat :=
  if c.isDigit then c.toNat - '0'.toNat
  else if 'a'.toNat ≤ c.toNat then c.toNat - 'a'.toNat + 10
  else c.toNat - 'A'.toNat + 10

/-- The value of digits, the highest first. -/
def valueOf (base : Nat) (digits : List Char) : Nat :=
  digits.foldl (fun value c => value * base + digitValue c) 0

/-- Whether a character is a hexadecimal digit. -/
def isHexDigit (c : Char) : Bool :=
  c.isDigit || ('a' ≤ c && c ≤ 'f') || ('A' ≤ c && c ≤ 'F')

/-- Whether a number has a minus sign, and what follows its sign. -/
def sign : List Char → Bool × List Char
  | '+' :: rest => (false, rest)
  | '-' :: rest => (true, rest)
  | input => (false, input)

/-- The value of decimal digits after a sign. -/
def signed (isNegative : Bool) (digits : List Char) : Int :=
  let value : Int := valueOf 10 digits
  if isNegative then -value else value

/-- Decimal digits without leading zeros. -/
def wholeDigits? (input : List Char) : Option (List Char) := do
  let digits ← grouped? Char.isDigit input
  match digits with
  | '0' :: _ :: _ => none
  | _ => some digits

/-- Whether every underscore of a text has a digit of some base on both sides,
given whether such a digit comes before the text. -/
def isParted (afterDigit : Bool) : List Char → Bool
  | [] => true
  | ['_'] => false
  | '_' :: c :: rest => afterDigit && isHexDigit c && isParted true rest
  | c :: rest => isParted (isHexDigit c) rest

/-- Whether a text passes for a decimal whole number. Once an underscore follows its
first digits, only the underscores are looked at, and whether it could be another
kind of value. -/
def isLoose (input : List Char) : Bool :=
  input.head? != some '0' && (input.dropWhile Char.isDigit).head? == some '_' &&
    isParted false input && !input.any (fun c => c == ' ' || c == '.' || c == 'e' || c == 'E')

/-- A whole number as a value. One of more than 128 bits is not representable. -/
def bounded (value : Int) : Data :=
  if -(Int.pow 2 127) ≤ value && value < Int.pow 2 128 then .number value else .unrepresentable

/-- A whole number in another base than ten, after the mark of its base. Without
any digit it has no value, which only those who ask for the value find out. -/
def based? (base : Nat) (isDigit : Char → Bool) (input : List Char) : Option Data :=
  if input.isEmpty then some .unrepresentable
  else (grouped? isDigit input).map (fun digits => bounded (valueOf base digits))

/-- A whole number. -/
def integer? (input : List Char) : Option Data :=
  match input with
  | '0' :: 'x' :: digits => based? 16 isHexDigit digits
  | '0' :: 'o' :: digits => based? 8 (fun c => '0' ≤ c && c ≤ '7') digits
  | '0' :: 'b' :: digits => based? 2 (fun c => c == '0' || c == '1') digits
  | input =>
      let (isNegative, rest) := sign input
      match wholeDigits? rest with
      | some digits => some (bounded (signed isNegative digits))
      | none => if isLoose rest then some .unrepresentable else none

/-- The exponent of a number, zero where there is none. -/
def exponent? : List Char → Option Int
  | [] => some 0
  | _ :: input => do
      let (isNegative, rest) := sign input
      let digits ← grouped? Char.isDigit rest
      some (signed isNegative digits)

/-- Whether a decimal number, given by its significant digits and the power of
ten of the last one, is rounded to a finite number of 64 bits. The least number
that is not lies half a step above the largest finite one. -/
def isFinite (digits : List Char) (power : Int) : Bool :=
  let significant := digits.dropWhile (· == '0')
  let magnitude := (significant.length : Int) + power
  if significant.isEmpty || magnitude < 309 then true
  else if magnitude > 309 then false
  else
    let limit := Nat.pow 2 1024 - Nat.pow 2 970
    let value := valueOf 10 significant
    if 0 ≤ power then value * Nat.pow 10 power.toNat < limit
    else value < limit * Nat.pow 10 (-power).toNat

/-- A floating-point number. One that is too large is not representable. -/
def float? (input : List Char) : Option Data :=
  let (_, rest) := sign input
  if rest = "inf".toList || rest = "nan".toList then some .other
  else
    let isMark (c : Char) : Bool := c == '.' || c == 'e' || c == 'E'
    let whole := rest.takeWhile (fun c => !isMark c)
    let rest := rest.dropWhile (fun c => !isMark c)
    let parts : Option (List Char × List Char) := match rest with
      | '.' :: fraction =>
          let isExponent (c : Char) : Bool := c == 'e' || c == 'E'
          (grouped? Char.isDigit (fraction.takeWhile (fun c => !isExponent c))).map
            (·, fraction.dropWhile (fun c => !isExponent c))
      | [] => none
      | exponent => some ([], exponent)
    match wholeDigits? whole, parts with
    | some whole, some (fraction, exponent) =>
        (exponent? exponent).map (fun exponent =>
          if isFinite (whole ++ fraction) (exponent - fraction.length) then .other
          else .unrepresentable)
    | _, _ => none

/-- A number of exactly `count` digits, and what follows it. -/
def fixed? (count : Nat) (input : List Char) : Option (Nat × List Char) :=
  let digits := input.take count
  if digits.length = count && digits.all Char.isDigit then
    some (valueOf 10 digits, input.drop count)
  else none

/-- The number of days in a month. -/
def daysIn (year month : Nat) : Nat :=
  if month = 2 then
    if year % 4 = 0 && (year % 100 ≠ 0 || year % 400 = 0) then 29 else 28
  else if month = 4 || month = 6 || month = 9 || month = 11 then 30
  else 31

/-- What follows a date. -/
def date? (input : List Char) : Option (List Char) := do
  let (year, rest) ← fixed? 4 input
  let '-' :: rest := rest | none
  let (month, rest) ← fixed? 2 rest
  let '-' :: rest := rest | none
  let (day, rest) ← fixed? 2 rest
  if 1 ≤ month && month ≤ 12 && 1 ≤ day && day ≤ daysIn year month then some rest else none

/-- What follows hours and minutes. -/
def clock? (input : List Char) : Option (List Char) := do
  let (hour, rest) ← fixed? 2 input
  let ':' :: rest := rest | none
  let (minute, rest) ← fixed? 2 rest
  if hour ≤ 23 && minute ≤ 59 then some rest else none

/-- What follows a time of the day. Seconds and their fraction may be missing. -/
def time? (input : List Char) : Option (List Char) := do
  let rest ← clock? input
  match rest with
  | ':' :: rest => do
      let (second, rest) ← fixed? 2 rest
      if second > 60 then none
      else
        match rest with
        | '.' :: fraction =>
            if (fraction.takeWhile Char.isDigit).isEmpty then none
            else some (fraction.dropWhile Char.isDigit)
        | rest => some rest
  | rest => some rest

/-- Whether a text is the distance from universal time, or empty. -/
def isOffset : List Char → Bool
  | [] => true
  | ['Z'] => true
  | ['z'] => true
  | '+' :: rest => clock? rest == some []
  | '-' :: rest => clock? rest == some []
  | _ => false

/-- Whether a text is a date, a time, or both with one separator. -/
def isMoment (input : List Char) : Bool :=
  match date? input with
  | some [] => true
  | some (separator :: rest) =>
      (separator == 'T' || separator == 't' || separator == ' ') &&
        (match time? rest with
        | some offset => isOffset offset
        | none => false)
  | none => time? input == some []

/-- A bare value. -/
def bare? (input : List Char) : Option Data :=
  if input = "true".toList then some (.boolean true)
  else if input = "false".toList then some (.boolean false)
  else
    match integer? input with
    | some data => some data
    | none =>
        match float? input with
        | some data => some data
        | none => if isMoment input then some .other else none

end WireScript.Data.Toml
