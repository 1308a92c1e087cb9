import WireScript.Kind.Reader
import WireScript.Proofs.Kind.Division
import WireScript.Proofs.Outcome

/-! # The grammar of type expressions

`Derivation` is the grammar: a derivation takes tokens as a whole to a kind, at a
depth below the outermost kind. The reader follows the grammar exactly. It takes
from the tokens those of a derivation and leaves the rest, so a text has one reading
at most, and is refused when it has none.
-/

namespace WireScript

namespace Text

/-- A run of ASCII digits and its value. Leading zeros are allowed. -/
def IsNumeral (digits : List Char) (value : Nat) : Prop :=
  digits ≠ [] ∧ (∀ c ∈ digits, c.isDigit = true) ∧ Nat.ofDigitChars 10 digits 0 = value

theorem readDecimal_eq_some_iff {largest value : Nat} {digits : List Char} :
    readDecimal largest digits = some value ↔ IsNumeral digits value ∧ value ≤ largest := by
  rw [readDecimal, IsNumeral, ← List.all_eq_true, ← List.isEmpty_eq_false_iff]
  cases digits.isEmpty <;> cases digits.all Char.isDigit <;> simp
  constructor
  · rintro ⟨hle, rfl⟩
    exact ⟨rfl, hle⟩
  · rintro ⟨rfl, hle⟩
    exact ⟨hle, rfl⟩

end Text

namespace Tag

/-- The words for a tag. Three scalars have a second spelling. -/
def words : Tag → List String
  | .scalar .bool => ["bool", "boolean"]
  | .scalar .int => ["int", "integer"]
  | .scalar .char => ["char", "character"]
  | tag => [tag.name]

/-- The words that stand for a tag. -/
def builtInWords : List String := all.flatMap words

example : builtInWords =
    ["bool", "boolean", "byte", "short", "int", "integer", "long", "float", "double", "char",
      "character", "string", "array", "list", "set", "map", "message"] := by
  decide

theorem name_mem_words (tag : Tag) : tag.name ∈ tag.words := by
  have hall : ∀ tag ∈ all, tag.name ∈ tag.words := by decide
  exact hall tag tag.mem_all

theorem ofWord?_eq_some_iff {word : String} {tag : Tag} :
    ofWord? word = some tag ↔ word ∈ tag.words := by
  constructor
  · intro hword
    unfold ofWord? at hword
    split at hword
    next h => cases hword; simp [words, h]
    next =>
      split at hword
      next h => cases hword; simp [words, h]
      next =>
        split at hword
        next h => cases hword; simp [words, h]
        next =>
          obtain rfl : tag.name = word := by simpa using List.find?_some hword
          exact tag.name_mem_words
  · have hall : ∀ tag ∈ all, ∀ word ∈ tag.words, ofWord? word = some tag := by decide
    exact hall tag tag.mem_all word

theorem ofWord?_eq_none_iff {word : String} : ofWord? word = none ↔ word ∉ builtInWords := by
  simp only [Option.eq_none_iff_forall_ne_some, ne_eq, ofWord?_eq_some_iff, builtInWords,
    List.mem_flatMap, mem_all, true_and, not_exists]

end Tag

namespace Kind

/-- The derivations of the grammar, by the depth below the outermost kind, the tokens
and the kind they are taken to. A built-in word stands for itself only where it names
no message. -/
inductive Derivation (names : Names) : Nat → List Token → Kind → Type where
  | scalar {depth : Nat} {word : String} {s : Scalar} (hdepth : depth ≤ 128)
      (hword : word ∈ (Tag.scalar s).words) (hfree : names word = none) :
      Derivation names depth [.word word] (.scalar s)
  | sequence {depth : Nat} {tokens : List Token} {c : Collection} {element : Kind}
      (hdepth : depth ≤ 128) (hfree : names c.name = none)
      (inner : Derivation names (depth + 1) tokens element) :
      Derivation names depth (.word c.name :: .opening :: (tokens ++ [.closing]))
        (.sequence c element)
  | map {depth : Nat} {first second : List Token} {key value : Kind}
      (hdepth : depth ≤ 128) (hfree : names "map" = none)
      (left : Derivation names (depth + 1) first key)
      (right : Derivation names (depth + 1) second value) :
      Derivation names depth
        (.word "map" :: .opening :: (first ++ .comma :: (second ++ [.closing]))) (.map key value)
  | message {depth : Nat} {digits : String} {id : ProtocolId} (hdepth : depth ≤ 128)
      (hfree : names "message" = none) (hdigits : Text.IsNumeral digits.toList id.toNat) :
      Derivation names depth [.word "message", .opening, .word digits, .closing] (.message id)
  | reference {depth : Nat} {word : String} {id : ProtocolId} (hdepth : depth ≤ 128)
      (hword : word ∉ Tag.builtInWords) (hid : names word = some id) :
      Derivation names depth [.word word] (.message id)

/-- A reading of a text: its division into tokens, and a derivation of the tokens as
a whole. -/
structure Reading (names : Names) (text : String) where
  tokens : List Token
  kind : Kind
  divides : Token.Divides text.toList tokens
  derivation : Derivation names 0 tokens kind

section Tokens

variable {names : Names} {levels : Nat} {rest : List Token}

theorem takeWord_eq_ok_iff {tokens : List Token} {word : String} :
    takeWord tokens = .ok (word, rest) ↔ tokens = .word word :: rest := by
  unfold takeWord
  split <;> simp_all

theorem takeMark_eq_ok_iff {token : Token} {mark : Char} {tokens : List Token} :
    takeMark token mark tokens = .ok rest ↔ tokens = token :: rest := by
  cases tokens with
  | nil => simp [takeMark]
  | cons first tokens =>
      by_cases hfirst : first = token <;> simp [takeMark, hfirst]

theorem ofTokens_scalar {word : String} {s : Scalar} (hword : word ∈ (Tag.scalar s).words)
    (hfree : names word = none) (after : List Token) :
    ofTokens names (levels + 1) (.word word :: after) = .ok (.scalar s, after) := by
  simp only [ofTokens, takeWord, bind, Except.bind, Tag.ofWord?_eq_some_iff.mpr hword, hfree]

theorem ofTokens_reference {word : String} {id : ProtocolId} (hword : word ∉ Tag.builtInWords)
    (hid : names word = some id) (after : List Token) :
    ofTokens names (levels + 1) (.word word :: after) = .ok (.message id, after) := by
  simp only [ofTokens, takeWord, bind, Except.bind, Tag.ofWord?_eq_none_iff.mpr hword, hid]

theorem ofTokens_sequence {c : Collection} (hfree : names c.name = none) (after : List Token) :
    ofTokens names (levels + 1) (.word c.name :: after) = (do
      let opened ← takeMark .opening '<' after
      let (element, closed) ← ofTokens names levels opened
      let last ← takeMark .closing '>' closed
      .ok (.sequence c element, last)) := by
  have hword : Tag.ofWord? c.name = some (.sequence c) :=
    Tag.ofWord?_eq_some_iff.mpr (Tag.sequence c).name_mem_words
  simp only [ofTokens, takeWord, bind, Except.bind, hword, hfree]

theorem ofTokens_sequence_eq_ok_iff {c : Collection} {kind : Kind} {after : List Token}
    (hfree : names c.name = none) :
    ofTokens names (levels + 1) (.word c.name :: after) = .ok (kind, rest) ↔
      ∃ tokens element, after = .opening :: tokens ∧ kind = .sequence c element ∧
        ofTokens names levels tokens = .ok (element, .closing :: rest) := by
  rw [ofTokens_sequence hfree]
  constructor
  · intro hread
    obtain ⟨tokens, hopened, hinner⟩ := bind_ok_iff.mp hread
    obtain ⟨⟨element, closed⟩, helement, hclosed⟩ := bind_ok_iff.mp hinner
    obtain ⟨last, hlast, hresult⟩ := bind_ok_iff.mp hclosed
    cases hresult
    obtain rfl := takeMark_eq_ok_iff.mp hlast
    exact ⟨tokens, element, takeMark_eq_ok_iff.mp hopened, rfl, helement⟩
  · rintro ⟨tokens, element, rfl, rfl, helement⟩
    simp [takeMark, bind, Except.bind, helement]

theorem ofTokens_map (hfree : names "map" = none) (after : List Token) :
    ofTokens names (levels + 1) (.word "map" :: after) = (do
      let opened ← takeMark .opening '<' after
      let (key, parted) ← ofTokens names levels opened
      let later ← takeMark .comma ',' parted
      let (value, closed) ← ofTokens names levels later
      let last ← takeMark .closing '>' closed
      .ok (.map key value, last)) := by
  have hword : Tag.ofWord? "map" = some .map := by decide
  simp only [ofTokens, takeWord, bind, Except.bind, hword, hfree]

theorem ofTokens_map_eq_ok_iff {kind : Kind} {after : List Token} (hfree : names "map" = none) :
    ofTokens names (levels + 1) (.word "map" :: after) = .ok (kind, rest) ↔
      ∃ tokens later key value, after = .opening :: tokens ∧ kind = .map key value ∧
        ofTokens names levels tokens = .ok (key, .comma :: later) ∧
        ofTokens names levels later = .ok (value, .closing :: rest) := by
  rw [ofTokens_map hfree]
  constructor
  · intro hread
    obtain ⟨tokens, hopened, hinner⟩ := bind_ok_iff.mp hread
    obtain ⟨⟨key, parted⟩, hkey, hparted⟩ := bind_ok_iff.mp hinner
    obtain ⟨later, hlater, hsecond⟩ := bind_ok_iff.mp hparted
    obtain ⟨⟨value, closed⟩, hvalue, hclosed⟩ := bind_ok_iff.mp hsecond
    obtain ⟨last, hlast, hresult⟩ := bind_ok_iff.mp hclosed
    cases hresult
    obtain rfl := takeMark_eq_ok_iff.mp hlater
    obtain rfl := takeMark_eq_ok_iff.mp hlast
    exact ⟨tokens, later, key, value, takeMark_eq_ok_iff.mp hopened, rfl, hkey, hvalue⟩
  · rintro ⟨tokens, later, key, value, rfl, rfl, hkey, hvalue⟩
    simp [takeMark, bind, Except.bind, hkey, hvalue]

theorem ofTokens_message_eq_ok_iff {kind : Kind} {after : List Token}
    (hfree : names "message" = none) :
    ofTokens names (levels + 1) (.word "message" :: after) = .ok (kind, rest) ↔
      ∃ digits id, after = .opening :: .word digits :: .closing :: rest ∧ kind = .message id ∧
        Text.IsNumeral digits.toList id.toNat := by
  have hword : Tag.ofWord? "message" = some .message := by decide
  constructor
  · intro hread
    rw [ofTokens] at hread
    obtain ⟨⟨word, tokens⟩, htaken, hform⟩ := bind_ok_iff.mp hread
    cases takeWord_eq_ok_iff.mp htaken
    simp only [hword, hfree] at hform
    obtain ⟨inner, hopened, hinner⟩ := bind_ok_iff.mp hform
    obtain ⟨⟨digits, closed⟩, hdigits, hvalue⟩ := bind_ok_iff.mp hinner
    obtain rfl := takeMark_eq_ok_iff.mp hopened
    obtain rfl := takeWord_eq_ok_iff.mp hdigits
    dsimp only at hvalue
    split at hvalue
    next => cases hvalue
    next value hsome =>
      obtain ⟨last, hlast, hresult⟩ := bind_ok_iff.mp hvalue
      cases hresult
      obtain rfl := takeMark_eq_ok_iff.mp hlast
      obtain ⟨hnumeral, hle⟩ := Text.readDecimal_eq_some_iff.mp hsome
      have hsame : (UInt16.ofNat value).toNat = value :=
        UInt16.toNat_ofNat_of_lt (Nat.lt_succ_of_le hle)
      exact ⟨digits, _, rfl, rfl, hsame.symm ▸ hnumeral⟩
  · rintro ⟨digits, id, rfl, rfl, hdigits⟩
    have hid : Text.readDecimal 65535 digits.toList = some id.toNat :=
      Text.readDecimal_eq_some_iff.mpr ⟨hdigits, Nat.le_of_lt_succ id.toNat_lt⟩
    simp [ofTokens, takeMark, takeWord, bind, Except.bind, hword, hfree, hid]

theorem Derivation.depth_le {depth : Nat} {tokens : List Token} {kind : Kind}
    (derivation : Derivation names depth tokens kind) : depth ≤ 128 := by
  cases derivation <;> assumption

/-- A derivation is read from the front of any tokens it begins. -/
theorem Derivation.ofTokens_eq {depth : Nat} {tokens : List Token} {kind : Kind}
    (derivation : Derivation names depth tokens kind) (hlevels : levels + depth = 128)
    (rest : List Token) : ofTokens names (levels + 1) (tokens ++ rest) = .ok (kind, rest) := by
  induction derivation generalizing levels rest with
  | scalar _ hword hfree => exact ofTokens_scalar hword hfree rest
  | sequence _ hfree inner ih =>
      have hdepth := inner.depth_le
      obtain ⟨levels, rfl⟩ : ∃ below, levels = below + 1 := ⟨levels - 1, by omega⟩
      refine (ofTokens_sequence_eq_ok_iff hfree).mpr ⟨_, _, List.cons_append, rfl, ?_⟩
      rw [List.append_assoc]
      exact ih (by omega) _
  | map _ hfree left _ ihLeft ihRight =>
      have hdepth := left.depth_le
      obtain ⟨levels, rfl⟩ : ∃ below, levels = below + 1 := ⟨levels - 1, by omega⟩
      refine (ofTokens_map_eq_ok_iff hfree).mpr ⟨_, _, _, _, List.cons_append, rfl, ?_,
        ihRight (by omega) _⟩
      rw [List.append_assoc, List.cons_append, List.append_assoc]
      exact ihLeft (by omega) _
  | message _ hfree hdigits =>
      exact (ofTokens_message_eq_ok_iff hfree).mpr ⟨_, _, rfl, rfl, hdigits⟩
  | reference _ hword hid => exact ofTokens_reference hword hid rest

/-- What is read from the front of some tokens has a derivation, and nothing behind
it is touched. -/
theorem exists_derivation_of_ofTokens {tokens : List Token} {kind : Kind} {depth : Nat}
    (hlevels : levels + depth = 129) (hread : ofTokens names levels tokens = .ok (kind, rest)) :
    ∃ used, tokens = used ++ rest ∧ Nonempty (Derivation names depth used kind) := by
  induction levels generalizing tokens kind rest depth with
  | zero => simp [ofTokens] at hread
  | succ levels ih =>
      have hdepth : depth ≤ 128 := by omega
      have hnext : levels + (depth + 1) = 129 := by omega
      obtain ⟨word, after, rfl⟩ : ∃ word after, tokens = .word word :: after := by
        rw [ofTokens] at hread
        obtain ⟨⟨word, after⟩, hword, -⟩ := bind_ok_iff.mp hread
        exact ⟨word, after, takeWord_eq_ok_iff.mp hword⟩
      cases htag : Tag.ofWord? word with
      | none =>
          cases hid : names word with
          | none => simp [ofTokens, takeWord, bind, Except.bind, htag, hid] at hread
          | some id =>
              have hword := Tag.ofWord?_eq_none_iff.mp htag
              rw [ofTokens_reference hword hid] at hread
              cases hread
              exact ⟨[.word word], rfl, ⟨.reference hdepth hword hid⟩⟩
      | some tag =>
          have hword := Tag.ofWord?_eq_some_iff.mp htag
          cases hfree : names word with
          | some id => simp [ofTokens, takeWord, bind, Except.bind, htag, hfree] at hread
          | none =>
              cases tag with
              | scalar s =>
                  rw [ofTokens_scalar hword hfree] at hread
                  cases hread
                  exact ⟨[.word word], rfl, ⟨.scalar hdepth hword hfree⟩⟩
              | sequence c =>
                  obtain rfl : word = c.name := List.mem_singleton.mp hword
                  obtain ⟨tokens, element, rfl, rfl, helement⟩ :=
                    (ofTokens_sequence_eq_ok_iff hfree).mp hread
                  obtain ⟨used, rfl, ⟨inner⟩⟩ := ih hnext helement
                  exact ⟨_, by simp, ⟨.sequence hdepth hfree inner⟩⟩
              | map =>
                  obtain rfl : word = "map" := List.mem_singleton.mp hword
                  obtain ⟨tokens, later, key, value, rfl, rfl, hkey, hvalue⟩ :=
                    (ofTokens_map_eq_ok_iff hfree).mp hread
                  obtain ⟨first, rfl, ⟨left⟩⟩ := ih hnext hkey
                  obtain ⟨second, rfl, ⟨right⟩⟩ := ih hnext hvalue
                  exact ⟨_, by simp, ⟨.map hdepth hfree left right⟩⟩
              | message =>
                  obtain rfl : word = "message" := List.mem_singleton.mp hword
                  obtain ⟨digits, id, rfl, rfl, hdigits⟩ :=
                    (ofTokens_message_eq_ok_iff hfree).mp hread
                  exact ⟨[.word "message", .opening, .word digits, .closing], rfl,
                    ⟨.message hdepth hfree hdigits⟩⟩

end Tokens

section Unambiguity

variable {names : Names} {depth : Nat} {first second : List Token} {kind kind' : Kind}

/-- Of two derivations that begin the same tokens neither goes on where the other has
ended. -/
theorem Derivation.append_inj (left : Derivation names depth first kind)
    (right : Derivation names depth second kind') {rest rest' : List Token}
    (htokens : first ++ rest = second ++ rest') : first = second ∧ rest = rest' ∧ kind = kind' := by
  have hdepth := left.depth_le
  have hlevels : 128 - depth + depth = 128 := by omega
  have hleft := left.ofTokens_eq hlevels rest
  have hright := right.ofTokens_eq hlevels rest'
  rw [htokens, hright] at hleft
  obtain ⟨rfl, rfl⟩ := Prod.mk.inj (Except.ok.inj hleft)
  exact ⟨List.append_cancel_right htokens, rfl, rfl⟩

theorem Derivation.heq (left : Derivation names depth first kind)
    (right : Derivation names depth second kind') (htokens : first = second)
    (hkind : kind = kind') : HEq left right := by
  induction left generalizing second kind' with
  | scalar =>
      cases right with
      | scalar =>
          cases htokens
          cases hkind
          rfl
      | _ => cases hkind
  | sequence _ _ inner ih =>
      cases right with
      | sequence _ _ inner' =>
          cases hkind
          simp only [List.cons.injEq, true_and, List.append_cancel_right_eq] at htokens
          subst htokens
          cases ih inner' rfl rfl
          rfl
      | _ => cases hkind
  | map _ _ key value ihKey ihValue =>
      cases right with
      | map _ _ key' value' =>
          cases hkind
          simp only [List.cons.injEq, true_and] at htokens
          -- the key ends at the same comma in both
          obtain ⟨rfl, hrest, -⟩ := key.append_inj key' htokens
          simp only [List.cons.injEq, true_and, List.append_cancel_right_eq] at hrest
          subst hrest
          cases ihKey key' rfl rfl
          cases ihValue value' rfl rfl
          rfl
      | _ => cases hkind
  | message =>
      cases right with
      | message =>
          cases htokens
          cases hkind
          rfl
      | reference => cases htokens
      | _ => cases hkind
  | reference =>
      cases right with
      | message => cases htokens
      | reference =>
          cases htokens
          cases hkind
          rfl
      | _ => cases hkind

/-- Tokens have one derivation at most. -/
theorem Derivation.unique (left : Derivation names depth first kind)
    (right : Derivation names depth first kind') : kind = kind' ∧ HEq left right := by
  obtain ⟨-, -, hkind⟩ := left.append_inj right (rfl : first ++ [] = first ++ [])
  exact ⟨hkind, left.heq right rfl hkind⟩

theorem Reading.unique {text : String} (left right : Reading names text) : left = right := by
  obtain ⟨tokens, kind, hdivides, derivation⟩ := left
  obtain ⟨tokens', kind', hdivides', derivation'⟩ := right
  obtain rfl := hdivides.unique hdivides'
  obtain ⟨rfl, hderivation⟩ := derivation.unique derivation'
  rw [eq_of_heq hderivation]

end Unambiguity

section Read

variable {names : Names} {text : String} {kind : Kind}

theorem parse_eq_ok_iff :
    parse names text = .ok kind ↔ ∃ reading : Reading names text, reading.kind = kind := by
  rw [parse]
  constructor
  · intro hparse
    split at hparse
    next => cases hparse
    next tokens hscan =>
      obtain ⟨⟨kind', rest⟩, hread, hend⟩ := bind_ok_iff.mp hparse
      have hlevels : maxDepth + 1 + 0 = 129 := rfl
      obtain ⟨used, rfl, ⟨derivation⟩⟩ := exists_derivation_of_ofTokens hlevels hread
      dsimp only at hend
      split at hend
      next hrest =>
        cases hend
        rw [List.isEmpty_iff.mp hrest, List.append_nil] at hscan
        exact ⟨⟨used, kind, Token.divides_of_scan hscan, derivation⟩, rfl⟩
      next => cases hend
  · rintro ⟨⟨tokens, kind', hdivides, derivation⟩, rfl⟩
    have hread := derivation.ofTokens_eq (rfl : 128 + 0 = 128) []
    rw [List.append_nil] at hread
    rw [hdivides.scan_eq]
    simp only [maxDepth, hread, bind, Except.bind, List.isEmpty_nil, if_true]

/-- Reading a text gives the kind of its reading, and no text has two readings. A text
that is refused has none, and its kind is invalid. -/
theorem read_eq_ok_iff (names : Names) (text : String) :
    (∀ kind, read names text = .ok kind ↔ ∃ reading : Reading names text, reading.kind = kind) ∧
      (∀ left right : Reading names text, left = right) ∧
      ∀ fault, read names text = .error fault →
        IsEmpty (Reading names text) ∧ ∃ issue, fault = .invalidKind (.inText issue text) := by
  have hread (kind : Kind) : read names text = .ok kind ↔ parse names text = .ok kind := by
    rw [read]
    cases parse names text <;> simp
  refine ⟨fun kind => (hread kind).trans parse_eq_ok_iff, Reading.unique, ?_⟩
  intro fault hfault
  rw [read] at hfault
  split at hfault
  next => cases hfault
  next issue hparse =>
    refine ⟨⟨fun reading => ?_⟩, issue, (Except.error.inj hfault).symm⟩
    have hok := parse_eq_ok_iff.mpr ⟨reading, rfl⟩
    rw [hparse] at hok
    cases hok

end Read

end Kind

end WireScript
