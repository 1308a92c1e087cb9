import WireScript.Data.Toml.Scalar
import WireScript.Data.Toml.Table

/-! # TOML

A reader of whole documents. Inline tables may span lines, even between a key and
its value, and end in a comma, as in version 1.1 of the format. Arrays and inline
tables nest up to a fixed depth, and keys have a fixed number of parts at most.
-/

namespace WireScript.Data.Toml

/-- A reader takes a value from the front of a text and leaves the rest. -/
abbrev Reader (α : Type) := List Char → Option (α × List Char)

/-- Whether a character is a blank within a line. -/
def isSpace (c : Char) : Bool := c == ' ' || c == '\t'

/-- Pass over blanks within a line. -/
def skipSpace (input : List Char) : List Char := input.dropWhile isSpace

/-- What follows a line end, if the text starts with one. -/
def lineEnd? : List Char → Option (List Char)
  | '\n' :: rest => some rest
  | '\r' :: '\n' :: rest => some rest
  | _ => none

/-- Controls other than the tab may stand in no comment and no text. -/
def isControl (c : Char) : Bool := (c.toNat < 0x20 && c != '\t') || c.toNat == 0x7F

/-- What follows a comment, if the text starts with one; the text otherwise.
The comment ends at the first control, which is for the caller to judge. -/
def skipComment : List Char → List Char
  | '#' :: rest => rest.dropWhile (fun c => !isControl c)
  | input => input

/-- Pass over blanks, line ends and comments, starting inside a comment or not. A
control other than a line end stops a comment and is for the caller to judge. -/
def skipFrom (inComment : Bool) : List Char → List Char
  | [] => []
  | '\n' :: rest => skipFrom false rest
  | '\r' :: '\n' :: rest => skipFrom false rest
  | c :: rest =>
      if inComment then
        if isControl c then c :: rest else skipFrom true rest
      else if isSpace c then skipFrom false rest
      else if c == '#' then skipFrom true rest
      else c :: rest

/-- Pass over all blanks, line ends and comments. -/
def skipAll (input : List Char) : List Char := skipFrom false input

/-- The character with a code written in exactly `count` hexadecimal digits. -/
def coded? (count : Nat) : Reader Char := fun input =>
  let digits := input.take count
  let code := valueOf 16 digits
  if digits.length = count && digits.all isHexDigit && code.isValidChar then
    some (Char.ofNat code, input.drop count)
  else none

/-- The character of an escape, read after its backslash. -/
def escape? : Reader Char
  | 'b' :: rest => some (Char.ofNat 8, rest)
  | 't' :: rest => some ('\t', rest)
  | 'n' :: rest => some ('\n', rest)
  | 'f' :: rest => some (Char.ofNat 12, rest)
  | 'r' :: rest => some ('\r', rest)
  | 'e' :: rest => some (Char.ofNat 27, rest)
  | '"' :: rest => some ('"', rest)
  | '\\' :: rest => some ('\\', rest)
  | 'x' :: rest => coded? 2 rest
  | 'u' :: rest => coded? 4 rest
  | 'U' :: rest => coded? 8 rest
  | _ => none

/-- The rest of a basic text on one line. -/
def basic : Nat → Reader (List Char)
  | 0, _ => none
  | _, [] => none
  | _, '"' :: rest => some ([], rest)
  | fuel + 1, '\\' :: rest => do
      let (c, rest) ← escape? rest
      let (others, rest) ← basic fuel rest
      some (c :: others, rest)
  | fuel + 1, c :: rest =>
      if isControl c then none
      else do
        let (others, rest) ← basic fuel rest
        some (c :: others, rest)

/-- The rest of a literal text on one line. -/
def literal (input : List Char) : Option (List Char × List Char) :=
  let body := input.takeWhile (fun c => c != '\'' && !isControl c)
  match input.dropWhile (fun c => c != '\'' && !isControl c) with
  | '\'' :: rest => some (body, rest)
  | _ => none

/-- The end of a text of several lines at a run of quotes: up to two of them
belong to the text, and three end it. -/
def closing? (quote : Char) : Reader (List Char) := fun input =>
  let run := input.takeWhile (· == quote)
  if 3 ≤ run.length && run.length ≤ 5 then
    some (run.drop 3, input.drop run.length)
  else none

/-- Pass over blanks and line ends inside a text. -/
def skipFold : List Char → List Char
  | ' ' :: rest => skipFold rest
  | '\t' :: rest => skipFold rest
  | '\n' :: rest => skipFold rest
  | '\r' :: '\n' :: rest => skipFold rest
  | input => input

/-- The rest of a text of several lines. Escapes count only in a basic one, where
a backslash at the end of a line joins it to the next word. -/
def multiline (quote : Char) (hasEscapes : Bool) : Nat → Reader (List Char)
  | 0, _ => none
  | _, [] => none
  | fuel + 1, c :: rest =>
      if c == quote && 3 ≤ ((c :: rest).takeWhile (· == quote)).length then
        closing? quote (c :: rest)
      else if c == '\\' && hasEscapes then
        match lineEnd? (skipSpace rest) with
        | some next => multiline quote hasEscapes fuel (skipFold next)
        | none => do
            let (c, rest) ← escape? rest
            let (others, rest) ← multiline quote hasEscapes fuel rest
            some (c :: others, rest)
      else
        match lineEnd? (c :: rest) with
        | some next => do
            let (others, rest) ← multiline quote hasEscapes fuel next
            some ((if c == '\r' then ['\r', '\n'] else ['\n']) ++ others, rest)
        | none =>
            if isControl c then none
            else do
              let (others, rest) ← multiline quote hasEscapes fuel rest
              some (c :: others, rest)

/-- A text of several lines after its opening quotes. A line end right after
them does not belong to it. -/
def multilineBody (quote : Char) (hasEscapes : Bool) : Reader (List Char) := fun input =>
  multiline quote hasEscapes (input.length + 1) ((lineEnd? input).getD input)

/-- A quoted text, of one line or of several. -/
def quoted : Reader (List Char)
  | '"' :: '"' :: '"' :: rest => multilineBody '"' true rest
  | '\'' :: '\'' :: '\'' :: rest => multilineBody '\'' false rest
  | '"' :: rest => basic (rest.length + 1) rest
  | '\'' :: rest => literal rest
  | _ => none

/-- One part of a key: a bare word or a quoted text of one line. -/
def keyPart : Reader String
  | '"' :: rest => do
      let (input, rest) ← basic (rest.length + 1) rest
      some (String.ofList input, rest)
  | '\'' :: rest => do
      let (input, rest) ← literal rest
      some (String.ofList input, rest)
  | input =>
      let isKey (c : Char) : Bool := c.isAlphanum || c == '_' || c == '-'
      let word := input.takeWhile isKey
      if word.isEmpty then none else some (String.ofList word, input.dropWhile isKey)

/-- A key of at most so many parts with dots between them, the last part apart. -/
def keyWithin : Nat → Reader (List String × String)
  | 0, _ => none
  | parts + 1, input => do
      let (part, rest) ← keyPart input
      match skipSpace rest with
      | '.' :: rest => do
          let ((path, last), rest) ← keyWithin parts (skipSpace rest)
          some ((part :: path, last), rest)
      | rest => some (([], part), rest)

/-- How many parts a key may have. -/
def maxKeyParts : Nat := 80

/-- A key. -/
def key : Reader (List String × String) := keyWithin maxKeyParts

/-- Whether a character ends a bare value wherever it stands. -/
def endsBare (c : Char) : Bool :=
  ['=', ',', '[', ']', '\x7b', '\x7d', '#', '\r', '\n'].contains c

/-- A bare value, up to the first character that ends one. Blanks may stand in it,
as between a date and a time, but not at its end. -/
def bare : Reader Data := fun input => do
  let stretch := input.takeWhile (fun c => !endsBare c)
  let word := (stretch.reverse.dropWhile isSpace).reverse
  let data ← bare? word
  some (data, input.drop word.length)

/-- How deep arrays and inline tables may nest. -/
def maxDepth : Nat := 80

mutual

/-- A value, within `depth` further levels. -/
def value (depth : Nat) : Nat → Reader Data
  | 0, _ => none
  | fuel + 1, input =>
      match input with
      | '[' :: rest =>
          match depth with
          | 0 => none
          | depth + 1 => do
              let (items, rest) ← items depth fuel (skipAll rest)
              some (.list items, rest)
      | '\x7b' :: rest =>
          match depth with
          | 0 => none
          | depth + 1 => do
              let (members, rest) ← members depth fuel [] (skipAll rest)
              some (.record (membersData members), rest)
      | '"' :: _ => do
          let (body, rest) ← quoted input
          some (.text (some (String.ofList body)), rest)
      | '\'' :: _ => do
          let (body, rest) ← quoted input
          some (.text (some (String.ofList body)), rest)
      | _ => bare input

/-- The items of an array up to its end. -/
def items (depth : Nat) : Nat → Reader (List Data)
  | 0, _ => none
  | _, ']' :: rest => some ([], rest)
  | fuel + 1, input => do
      let (item, rest) ← value depth fuel input
      match skipAll rest with
      | ',' :: rest => do
          let (others, rest) ← items depth fuel (skipAll rest)
          some (item :: others, rest)
      | ']' :: rest => some ([item], rest)
      | _ => none

/-- The members of an inline table up to its end, added to those before. -/
def members (depth : Nat) : Nat → Members → Reader Members
  | 0, _, _ => none
  | _, before, '\x7d' :: rest => some (before, rest)
  | fuel + 1, before, input => do
      let ((path, last), rest) ← key input
      let '=' :: rest := skipAll rest | none
      let (data, rest) ← value depth fuel (skipAll rest)
      let after ← addValue path last data before
      match skipAll rest with
      | ',' :: rest => members depth fuel after (skipAll rest)
      | '\x7d' :: rest => some (after, rest)
      | _ => none

end

/-- What follows the end of a line: nothing but blanks and a comment may come
before it. The end of the document ends its last line. -/
def finishLine (input : List Char) : Option (List Char) :=
  match skipComment (skipSpace input) with
  | [] => some []
  | rest => lineEnd? rest

/-- A document under construction: its tables, and the path of the one that keys
are added to. -/
structure Draft where
  root : Members
  current : List String

namespace Draft

/-- The document before its first line. -/
def empty : Draft := ⟨[], []⟩

/-- Turn to the table of a header. -/
def header (draft : Draft) (isItem : Bool) (path : List String) (last : String) :
    Option Draft := do
  let root ← (if isItem then openItem else openTable) path last draft.root
  some ⟨root, path ++ [last]⟩

/-- Add a value to the current table. -/
def add (draft : Draft) (path : List String) (last : String) (data : Data) :
    Option Draft := do
  let root ← alter false (fun _ members => addValue path last data members)
    draft.current .header draft.root
  some { draft with root := root }

end Draft

/-- A line that holds a header or a value. -/
def line (draft : Draft) (input : List Char) : Option (Draft × List Char) :=
  match input with
  | '[' :: '[' :: rest => do
      let ((path, last), rest) ← key (skipSpace rest)
      let ']' :: ']' :: rest := skipSpace rest | none
      let draft ← draft.header true path last
      some (draft, rest)
  | '[' :: rest => do
      let ((path, last), rest) ← key (skipSpace rest)
      let ']' :: rest := skipSpace rest | none
      let draft ← draft.header false path last
      some (draft, rest)
  | input => do
      let ((path, last), rest) ← key input
      let '=' :: rest := skipSpace rest | none
      let (data, rest) ← value maxDepth (2 * rest.length + 2) (skipSpace rest)
      let draft ← draft.add path last data
      some (draft, rest)

/-- The lines of a document. -/
def linesFrom : Nat → Draft → List Char → Option Draft
  | 0, draft, input => if input.isEmpty then some draft else none
  | fuel + 1, draft, input =>
      match skipAll input with
      | [] => some draft
      | rest => do
          let (draft, rest) ← line draft rest
          let rest ← finishLine rest
          linesFrom fuel draft rest

/-- Read a document. A byte order mark in front of it is passed over. -/
def read? (input : String) : Option Data := do
  let characters := match input.toList with
    | '\ufeff' :: rest => rest
    | characters => characters
  let draft ← linesFrom (characters.length + 1) .empty characters
  some (.record (membersData draft.root))

/-- A choice without content is an empty table or array, and records given as
lists may have surplus members. -/
def dialect : Dialect where
  isUnit data := match data with
    | .record [] => true
    | .list [] => true
    | _ => false
  allowsSurplus := true

end WireScript.Data.Toml
