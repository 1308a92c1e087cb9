import WireScript.Data

/-! # JSON

A reader of strict JSON from bytes. Blanks are the four of the standard, nothing
may follow the value, and numbers have neither leading zeros nor a plus sign.
Texts are taken apart before they are decoded, so one that is not Unicode spoils
its own value only.
-/

namespace WireScript.Data.Json

/-- Blanks between tokens. -/
def isBlank (byte : UInt8) : Bool :=
  byte == 0x20 || byte == 0x0A || byte == 0x0D || byte == 0x09

/-- Whether a byte is a decimal digit. -/
def isDigit (byte : UInt8) : Bool := 0x30 ≤ byte && byte ≤ 0x39

/-- Pass over blanks. -/
def skip (input : List UInt8) : List UInt8 := input.dropWhile isBlank

/-- A piece of a text: a byte as it stands, or a code given in hexadecimal. -/
inductive Piece where
  | byte (value : UInt8)
  | code (value : Nat)

/-- The value of a hexadecimal digit. -/
def hexDigit? (byte : UInt8) : Option Nat :=
  if isDigit byte then some (byte.toNat - 0x30)
  else if 0x61 ≤ byte && byte ≤ 0x66 then some (byte.toNat - 0x61 + 10)
  else if 0x41 ≤ byte && byte ≤ 0x46 then some (byte.toNat - 0x41 + 10)
  else none

/-- The byte an escape of one letter stands for. -/
def escaped? (letter : UInt8) : Option UInt8 :=
  match Char.ofNat letter.toNat with
  | '"' => some 0x22
  | '\\' => some 0x5C
  | '/' => some 0x2F
  | 'b' => some 0x08
  | 'f' => some 0x0C
  | 'n' => some 0x0A
  | 'r' => some 0x0D
  | 't' => some 0x09
  | _ => none

/-- The pieces of a text up to its closing quote, and what follows it. -/
def pieces : List UInt8 → Option (List Piece × List UInt8)
  | [] => none
  | 0x22 :: rest => some ([], rest)
  | 0x5C :: 0x75 :: a :: b :: c :: d :: rest => do
      let a ← hexDigit? a
      let b ← hexDigit? b
      let c ← hexDigit? c
      let d ← hexDigit? d
      let (others, rest) ← pieces rest
      some (.code (((a * 16 + b) * 16 + c) * 16 + d) :: others, rest)
  | 0x5C :: letter :: rest => do
      let byte ← escaped? letter
      let (others, rest) ← pieces rest
      some (.byte byte :: others, rest)
  | byte :: rest =>
      if byte < 0x20 || byte == 0x5C then none
      else do
        let (others, rest) ← pieces rest
        some (.byte byte :: others, rest)

/-- The bytes of a character given by its code. -/
def encode (code : Nat) : List UInt8 := (Char.ofNat code).toString.toUTF8.toList

/-- The bytes of a text. Codes of surrogates count only in pairs. -/
def decode : List Piece → Option (List UInt8)
  | [] => some []
  | .byte byte :: rest => (decode rest).map (byte :: ·)
  | .code high :: .code low :: rest =>
      if 0xD800 ≤ high && high < 0xDC00 then
        if 0xDC00 ≤ low && low < 0xE000 then
          (decode rest).map (encode (0x10000 + (high - 0xD800) * 0x400 + (low - 0xDC00)) ++ ·)
        else none
      else if 0xDC00 ≤ high && high < 0xE000 then none
      else (decode (.code low :: rest)).map (encode high ++ ·)
  | .code code :: rest =>
      if 0xD800 ≤ code && code < 0xE000 then none
      else (decode rest).map (encode code ++ ·)

/-- The text some pieces stand for, if it is Unicode. -/
def text? (pieces : List Piece) : Option String := do
  let bytes ← decode pieces
  String.fromUTF8? ⟨bytes.toArray⟩

/-- The digits at the front, of which there must be one, and what follows. -/
def digits (input : List UInt8) : Option (List UInt8 × List UInt8) :=
  let run := input.takeWhile isDigit
  if run.isEmpty then none else some (run, input.dropWhile isDigit)

/-- The whole part of a number and what follows it. -/
def whole (input : List UInt8) : Option (List UInt8 × List UInt8) := do
  let (run, rest) ← digits input
  match run with
  | 0x30 :: _ :: _ => none
  | _ => some (run, rest)

/-- What follows a fraction, and whether there was one. -/
def fraction : List UInt8 → Option (Bool × List UInt8)
  | 0x2E :: rest => do
      let (_, rest) ← digits rest
      some (true, rest)
  | input => some (false, input)

/-- What follows an exponent, and whether there was one. -/
def exponent : List UInt8 → Option (Bool × List UInt8)
  | e :: rest =>
      if e == 0x65 || e == 0x45 then do
        let rest := match rest with
          | sign :: digits => if sign == 0x2B || sign == 0x2D then digits else rest
          | [] => rest
        let (_, rest) ← digits rest
        some (true, rest)
      else some (false, e :: rest)
  | [] => some (false, [])

/-- A number and what follows it. Only whole numbers keep their value, and a
negative zero is not one. -/
def number (negative : Bool) (input : List UInt8) : Option (Data × List UInt8) := do
  let (run, rest) ← whole input
  let (hasFraction, rest) ← fraction rest
  let (hasExponent, rest) ← exponent rest
  let value : Nat := run.foldl (fun value digit => value * 10 + (digit.toNat - 0x30)) 0
  if hasFraction || hasExponent then some (.other, rest)
  else if negative then
    some (if value = 0 then .other else .number (-(value : Int)), rest)
  else some (.number value, rest)

/-- What follows a fixed word. -/
def after (word : String) (input : List UInt8) : Option (List UInt8) :=
  let bytes := word.toUTF8.toList
  if bytes.isPrefixOf input then some (input.drop bytes.length) else none

mutual

/-- A value and what follows it. -/
def value : Nat → List UInt8 → Option (Data × List UInt8)
  | 0, _ => none
  | fuel + 1, input =>
      match skip input with
      | [] => none
      | first :: rest =>
          match Char.ofNat first.toNat with
          | '[' =>
              match skip rest with
              | 0x5D :: rest => some (.list [], rest)
              | rest => do
                  let (items, rest) ← items fuel rest
                  some (.list items, rest)
          | '\x7b' =>
              match skip rest with
              | 0x7D :: rest => some (.record [], rest)
              | rest => do
                  let (members, rest) ← members fuel rest
                  some (.record members, rest)
          | '"' => do
              let (pieces, rest) ← pieces rest
              some (.text (text? pieces), rest)
          | '-' => number true rest
          | 't' => do
              let rest ← after "rue" rest
              some (.boolean true, rest)
          | 'f' => do
              let rest ← after "alse" rest
              some (.boolean false, rest)
          | 'n' => do
              let rest ← after "ull" rest
              some (.null, rest)
          | _ => number false (first :: rest)

/-- The items of a list up to its end, and what follows it. -/
def items : Nat → List UInt8 → Option (List Data × List UInt8)
  | 0, _ => none
  | fuel + 1, input => do
      let (item, rest) ← value fuel input
      match skip rest with
      | 0x5D :: rest => some ([item], rest)
      | 0x2C :: rest => do
          let (others, rest) ← items fuel rest
          some (item :: others, rest)
      | _ => none

/-- The members of a record up to its end, and what follows it. -/
def members : Nat → List UInt8 → Option (List (Option String × Data) × List UInt8)
  | 0, _ => none
  | fuel + 1, input =>
      match skip input with
      | 0x22 :: rest => do
          let (name, rest) ← pieces rest
          match skip rest with
          | 0x3A :: rest => do
              let (data, rest) ← value fuel rest
              match skip rest with
              | 0x7D :: rest => some ([(text? name, data)], rest)
              | 0x2C :: rest => do
                  let (others, rest) ← members fuel rest
                  some ((text? name, data) :: others, rest)
              | _ => none
          | _ => none
      | _ => none

end

/-- Read a text that is one value. Every step of the reader but one in two takes
a byte, which bounds their number. -/
def read? (input : List UInt8) : Option Data := do
  let (data, rest) ← value (2 * input.length + 2) input
  if (skip rest).isEmpty then some data else none

/-- A choice without content is null, and records given as lists have no surplus
members. -/
def dialect : Dialect where
  isUnit data := match data with
    | .null => true
    | _ => false
  allowsSurplus := false

end WireScript.Data.Json
