import WireScript.Kind
import WireScript.Kind.Token

/-! # Reading type expressions

A kind is written as a built-in word with its arguments in angle brackets, as
`message<ID>`, or as the name of a message. Built-in words are lower case and
matched exactly. A word that is both built in and the name of a message is
refused wherever it stands for a kind.
-/

namespace WireScript

/-- Why a type expression is refused. -/
inductive TypeIssue where
  | unexpectedCharacter (character : Char)
  | expectedName
  | expectedMark (mark : Char)
  | nestedTooDeeply
  | ambiguousName (name : String)
  | invalidId (word : String)
  | unknownName (name : String)
  | trailingInput

/-- What a type issue says, without the text it is about. -/
def TypeIssue.reason : TypeIssue → String
  | .unexpectedCharacter c => "unexpected character '" ++ c.toString ++ "'"
  | .expectedName => "expected a type name"
  | .expectedMark c => "expected '" ++ c.toString ++ "'"
  | .nestedTooDeeply => "type expression nested too deeply"
  | .ambiguousName name => "'" ++ name ++ "' names both a built-in kind and a message"
  | .invalidId word => "invalid protocol id '" ++ word ++ "'"
  | .unknownName name =>
      "unknown type '" ++ name ++ "'" ++
        if (Tag.ofWord? name.toLower).isSome then " (built-in kinds are lowercase)" else ""
  | .trailingInput => "trailing input"

/-- Which number a message name stands for. -/
abbrev Names := String → Option ProtocolId

namespace Kind

/-- Take a word from the front of the tokens. -/
def takeWord : List Token → Except TypeIssue (String × List Token)
  | .word name :: rest => .ok (name, rest)
  | _ => .error .expectedName

/-- Take one fixed token, shown as `mark`, from the front of the tokens. -/
def takeMark (token : Token) (mark : Char) : List Token → Except TypeIssue (List Token)
  | first :: rest => if first = token then .ok rest else .error (.expectedMark mark)
  | [] => .error (.expectedMark mark)

/-- Read a kind from the front of the tokens and return those after it. The first
argument is the number of levels that may still be opened, this one included. -/
def ofTokens (names : Names) : Nat → List Token → Except TypeIssue (Kind × List Token)
  | 0, _ => .error .nestedTooDeeply
  | levels + 1, tokens => do
      let (name, rest) ← takeWord tokens
      match Tag.ofWord? name, names name with
      | some _, some _ => .error (.ambiguousName name)
      | some (.scalar s), none => .ok (.scalar s, rest)
      | some (.sequence c), none => do
          let rest ← takeMark .opening '<' rest
          let (element, rest) ← ofTokens names levels rest
          let rest ← takeMark .closing '>' rest
          .ok (.sequence c element, rest)
      | some .map, none => do
          let rest ← takeMark .opening '<' rest
          let (key, rest) ← ofTokens names levels rest
          let rest ← takeMark .comma ',' rest
          let (value, rest) ← ofTokens names levels rest
          let rest ← takeMark .closing '>' rest
          .ok (.map key value, rest)
      | some .message, none => do
          let rest ← takeMark .opening '<' rest
          let (word, rest) ← takeWord rest
          match Text.readDecimal 65535 word.toList with
          | none => .error (.invalidId word)
          | some id => do
              let rest ← takeMark .closing '>' rest
              .ok (.message (UInt16.ofNat id), rest)
      | none, some id => .ok (.message id, rest)
      | none, none => .error (.unknownName name)

/-- Kinds may stand at most this many levels below the outermost one. -/
def maxDepth : Nat := 128

/-- Read a type expression. The whole text is divided into tokens first, so a
character that fits no token is reported before anything else. -/
def parse (names : Names) (text : String) : Except TypeIssue Kind :=
  match Token.scan text.toList with
  | .error c => .error (.unexpectedCharacter c)
  | .ok tokens => do
      let (kind, rest) ← ofTokens names (maxDepth + 1) tokens
      if rest.isEmpty then .ok kind else .error .trailingInput

end Kind

end WireScript
