import Mathlib.Logic.Function.Iterate
import WireScript.Proofs.Kind.Grammar
import WireScript.Proofs.Kind.Walk

/-! # Writing a kind and reading it back

The type expression of a kind reads back as the kind, whatever messages a text may
name, as long as none of them is called like a built-in kind. Only the depth of the
kind can prevent it: the reader counts the levels it opens, and its limit is met
exactly where the depth of the kind exceeds it.
-/

namespace WireScript.Kind

section Depth

theorem depth_scalar (s : Scalar) : (scalar s).depth = 0 := depth_eq_height _

theorem depth_message (id : ProtocolId) : (message id).depth = 0 := depth_eq_height _

theorem depth_sequence (c : Collection) (element : Kind) :
    (sequence c element).depth = element.depth + 1 := by
  rw [depth_eq_height, depth_eq_height, height, Nat.add_comm]

theorem depth_map (key value : Kind) : (map key value).depth = max key.depth value.depth + 1 := by
  rw [depth_eq_height, depth_eq_height, depth_eq_height, height, Nat.add_comm]

end Depth

section Tokens

/-- The tokens of the type expression of a kind. -/
def tokens : Kind → List Token
  | .scalar s => [.word s.name]
  | .sequence c element => .word c.name :: .opening :: (element.tokens ++ [.closing])
  | .map key value =>
      .word "map" :: .opening :: (key.tokens ++ .comma :: (value.tokens ++ [.closing]))
  | .message id => [.word "message", .opening, .word (Text.decimal id.toNat), .closing]

theorem isWord_scalar (s : Scalar) : Token.IsWord s.name := by
  cases s <;> exact Token.isWord_of_all (by decide)

theorem isWord_collection (c : Collection) : Token.IsWord c.name := by
  cases c <;> exact Token.isWord_of_all (by decide)

theorem isWord_decimal (n : Nat) : Token.IsWord (Text.decimal n) := by
  refine ⟨Text.decimal_ne_nil n, ?_⟩
  intro c hc
  have hdigit := Text.isDigit_of_mem_decimal hc
  have hascii : c.toNat < 0x80 := by
    simp only [Char.isDigit, Bool.and_eq_true, decide_eq_true_eq, ge_iff_le, UInt32.le_iff_toNat_le]
      at hdigit
    exact Nat.lt_of_le_of_lt hdigit.2 (by decide)
  rw [Text.isWordChar, Text.isLetter_ascii hascii, Char.isAlphanum, hdigit, Bool.or_true,
    Bool.true_or]

/-- A type expression divides into the tokens of its kind, whatever stands behind it
that does not continue its last word. -/
theorem divides_text_append (kind : Kind) {rest : List Char} {later : List Token}
    (hend : ∀ c ∈ rest.head?, Text.isWordChar c = false) (hrest : Token.Divides rest later) :
    Token.Divides (kind.text.toList ++ rest) (kind.tokens ++ later) := by
  have hclosed {rest : List Char} {later : List Token} (hrest : Token.Divides rest later) :
      Token.Divides ('>' :: rest) (.closing :: later) := .mark rfl hrest
  have hcloses := Token.isWordChar_head_of_mark (c := '>') rfl
  induction kind generalizing rest later with
  | scalar s =>
      rw [text_scalar]
      exact (isWord_scalar s).divides hend hrest
  | sequence c element ih =>
      have helement := ih (hcloses rest) (hclosed hrest)
      simpa [text_sequence, tokens] using (isWord_collection c).divides_opening helement
  | map key value ihKey ihValue =>
      have hmap : Token.IsWord "map" := Token.isWord_of_all (by decide)
      have hvalue := ihValue (hcloses rest) (hclosed hrest)
      have hcomma : Token.Divides (',' :: ' ' :: (value.text.toList ++ '>' :: rest))
          (.comma :: (value.tokens ++ .closing :: later)) := .mark rfl (.blank rfl hvalue)
      have hkey := ihKey (Token.isWordChar_head_of_mark rfl _) hcomma
      simpa [text_map, tokens] using hmap.divides_opening hkey
  | message id =>
      have hmessage : Token.IsWord "message" := Token.isWord_of_all (by decide)
      have hid := (isWord_decimal id.toNat).divides (hcloses rest) (hclosed hrest)
      simpa [text_message, tokens] using hmessage.divides_opening hid

theorem divides_text (kind : Kind) : Token.Divides kind.text.toList kind.tokens := by
  have htext := kind.divides_text_append (by simp) Token.Divides.nil
  rwa [List.append_nil, List.append_nil] at htext

end Tokens

section Read

variable {names : Names}

/-- The reader takes a kind from the front of its tokens when it may open as many
levels as the kind has, and finds no other fault. -/
theorem ofTokens_tokens (hnames : ∀ tag : Tag, names tag.name = none) (kind : Kind)
    (levels : Nat) (rest : List Token) :
    ofTokens names levels (kind.tokens ++ rest) =
      if kind.depth < levels then .ok (kind, rest) else .error .nestedTooDeeply := by
  induction kind generalizing levels rest with
  | scalar s =>
      rw [depth_scalar]
      cases levels with
      | zero => rw [ofTokens]; rfl
      | succ levels =>
          rw [if_pos levels.succ_pos]
          exact ofTokens_scalar (Tag.scalar s).name_mem_words (hnames (.scalar s)) rest
  | sequence c element ih =>
      rw [depth_sequence]
      cases levels with
      | zero => rw [ofTokens]; rfl
      | succ levels =>
          have helement := ih levels (.closing :: rest)
          simp only [tokens, List.cons_append, List.append_assoc, List.nil_append,
            ofTokens_sequence (hnames (.sequence c)), takeMark, if_true, bind, Except.bind,
            helement, Nat.add_lt_add_iff_right]
          by_cases helementDepth : element.depth < levels
          · simp only [helementDepth, if_true]
          · simp only [helementDepth, if_false]
  | map key value ihKey ihValue =>
      rw [depth_map]
      cases levels with
      | zero => rw [ofTokens]; rfl
      | succ levels =>
          have hvalue := ihValue levels (.closing :: rest)
          have hkey := ihKey levels (.comma :: (value.tokens ++ .closing :: rest))
          simp only [tokens, List.cons_append, List.append_assoc, List.nil_append,
            ofTokens_map (hnames .map), takeMark, if_true, bind, Except.bind, hkey,
            Nat.add_lt_add_iff_right, Nat.max_lt]
          by_cases hkeyDepth : key.depth < levels
          · simp only [hkeyDepth, if_true, true_and, hvalue]
            by_cases hvalueDepth : value.depth < levels
            · simp only [hvalueDepth, if_true]
            · simp only [hvalueDepth, if_false]
          · simp only [hkeyDepth, if_false, false_and]
  | message id =>
      rw [depth_message]
      cases levels with
      | zero => rw [ofTokens]; rfl
      | succ levels =>
          have hid : Text.readDecimal 65535 (Text.decimal id.toNat).toList = some id.toNat :=
            Text.readDecimal_decimal (Nat.le_of_lt_succ id.toNat_lt)
          obtain ⟨hnumeral, -⟩ := Text.readDecimal_eq_some_iff.mp hid
          rw [if_pos levels.succ_pos]
          exact (ofTokens_message_eq_ok_iff (hnames .message)).mpr ⟨_, id, rfl, rfl, hnumeral⟩

theorem parse_text (hnames : ∀ tag : Tag, names tag.name = none) (kind : Kind) :
    parse names kind.text = if kind.depth ≤ 128 then .ok kind else .error .nestedTooDeeply := by
  have hread := ofTokens_tokens hnames kind (128 + 1) []
  rw [List.append_nil] at hread
  simp only [parse, kind.divides_text.scan_eq, bind, Except.bind, maxDepth, hread,
    Nat.lt_add_one_iff]
  by_cases hdepth : kind.depth ≤ 128
  · simp only [hdepth, if_true, List.isEmpty_nil]
  · simp only [hdepth, if_false]

/-- With no message called like a built-in kind, the type expression of a kind reads
back as the kind to a depth of 128, and is refused beyond it. -/
theorem read_text (hnames : ∀ tag : Tag, names tag.name = none) (kind : Kind) :
    (kind.depth ≤ 128 → read names kind.text = .ok kind) ∧
      (128 < kind.depth →
        read names kind.text = .error (.invalidKind (.inText .nestedTooDeeply kind.text))) := by
  constructor
  · intro hdepth
    rw [read, parse_text hnames, if_pos hdepth]
  · intro hdepth
    rw [read, parse_text hnames, if_neg (Nat.not_le.mpr hdepth)]

/-- The deepest lists that can be read back, and lists one level deeper, where a
message is called by the second spelling of a kind. -/
theorem read_text_atLimit :
    let names : Names := fun word => if word = "integer" then some 1 else none
    let lists (depth : Nat) : Kind := (sequence .list)^[depth] (message 1)
    (∀ tag : Tag, names tag.name = none) ∧
      read names (lists 128).text = .ok (lists 128) ∧
      read names (lists 129).text =
        .error (.invalidKind (.inText .nestedTooDeeply (lists 129).text)) := by
  intro names lists
  have hall : ∀ tag ∈ Tag.all, names tag.name = none := by decide
  have hnames (tag : Tag) : names tag.name = none := hall tag tag.mem_all
  have hdepth (depth : Nat) : (lists depth).depth = depth := by
    induction depth with
    | zero => exact depth_message 1
    | succ depth ih =>
        simp only [lists] at ih ⊢
        rw [Function.iterate_succ_apply', depth_sequence, ih]
  exact ⟨hnames, (read_text hnames (lists 128)).1 (Nat.le_of_eq (hdepth 128)),
    (read_text hnames (lists 129)).2 (Nat.lt_of_lt_of_eq (by decide) (hdepth 129).symm)⟩

end Read

end WireScript.Kind
