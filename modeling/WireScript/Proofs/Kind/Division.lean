import Mathlib.Data.List.TakeWhile
import WireScript.Kind.Token

/-! # Division into tokens

A text divides into words and marks with blank characters between them. Words are
maximal, so a text divides in one way at most, and that is the one scanning finds.
-/

namespace WireScript

namespace Text

/-- The codes of the blank characters. -/
def blankCodes : List Nat :=
  List.range' 9 5 ++ [0x20, 0x85, 0xA0, 0x1680] ++ List.range' 0x2000 11 ++
    [0x2028, 0x2029, 0x202F, 0x205F, 0x3000]

theorem toNat_mem_blankCodes {c : Char} (hblank : isBlank c = true) : c.toNat ∈ blankCodes := by
  simp only [isBlank, Bool.or_eq_true, Bool.and_eq_true, decide_eq_true_eq, beq_iff_eq] at hblank
  simp only [blankCodes, List.mem_append, List.mem_range'_1, List.mem_cons, List.not_mem_nil]
  omega

/-- No character is both blank and part of a word. -/
theorem isWordChar_of_isBlank {c : Char} (hblank : isBlank c = true) : isWordChar c = false := by
  have hcodes : ∀ code ∈ blankCodes, isWordChar (Char.ofNat code) = false := by decide +kernel
  have hchar := hcodes c.toNat (toNat_mem_blankCodes hblank)
  rwa [Char.ofNat_toNat] at hchar

end Text

namespace Token

/-- A text divides into tokens. Blank characters stand between tokens, and behind a
word stands no character of a word. -/
inductive Divides : List Char → List Token → Prop where
  | nil : Divides [] []
  | blank {c : Char} {rest : List Char} {tokens : List Token}
      (hblank : Text.isBlank c = true) (hrest : Divides rest tokens) :
      Divides (c :: rest) tokens
  | mark {c : Char} {token : Token} {rest : List Char} {tokens : List Token}
      (hmark : ofMark? c = some token) (hrest : Divides rest tokens) :
      Divides (c :: rest) (token :: tokens)
  | word {word rest : List Char} {tokens : List Token} (hne : word ≠ [])
      (hword : ∀ c ∈ word, Text.isWordChar c = true)
      (hend : ∀ c ∈ rest.head?, Text.isWordChar c = false) (hrest : Divides rest tokens) :
      Divides (word ++ rest) (.word (String.ofList word) :: tokens)

theorem ofMark?_eq_some {c : Char} {token : Token} (hmark : ofMark? c = some token) :
    c = '<' ∨ c = '>' ∨ c = ',' := by
  unfold ofMark? at hmark
  split at hmark <;> simp at hmark ⊢

/-- A character of a class that the marks are not in is no mark. -/
theorem ofMark?_eq_none {isMember : Char → Bool} {c : Char} (hmember : isMember c = true)
    (hmarks : ['<', '>', ','].all (fun mark => !isMember mark) = true) : ofMark? c = none := by
  refine Option.eq_none_iff_forall_ne_some.mpr ?_
  intro token hmark
  have hnot : isMember c = false := by
    have hmem : c ∈ ['<', '>', ','] := by simpa using ofMark?_eq_some hmark
    simpa using List.all_eq_true.mp hmarks c hmem
  rw [hmember] at hnot
  cases hnot

theorem ofMark?_of_isBlank {c : Char} (hblank : Text.isBlank c = true) : ofMark? c = none :=
  ofMark?_eq_none hblank (by decide)

theorem ofMark?_of_isWordChar {c : Char} (hchar : Text.isWordChar c = true) : ofMark? c = none :=
  ofMark?_eq_none hchar (by decide)

section Scan

variable {c : Char} {rest : List Char}

theorem scan_blank (hblank : Text.isBlank c = true) : scan (c :: rest) = scan rest := by
  rw [scan, ofMark?_of_isBlank hblank]
  simp only [hblank, if_true]

theorem scan_mark {token : Token} (hmark : ofMark? c = some token) :
    scan (c :: rest) = (scan rest).map (token :: ·) := by
  rw [scan, hmark]

/-- A word is scanned whole when no character of a word follows it. -/
theorem scan_word {word : List Char} (hne : word ≠ [])
    (hword : ∀ c ∈ word, Text.isWordChar c = true)
    (hend : ∀ c ∈ rest.head?, Text.isWordChar c = false) :
    scan (word ++ rest) = (scan rest).map (.word (String.ofList word) :: ·) := by
  cases word with
  | nil => exact absurd rfl hne
  | cons first word =>
      obtain ⟨hfirst, hword⟩ := List.forall_mem_cons.mp hword
      have hblank : Text.isBlank first = false := by
        cases h : Text.isBlank first with
        | false => rfl
        | true => rw [Text.isWordChar_of_isBlank h] at hfirst; cases hfirst
      have hstop : rest.takeWhile Text.isWordChar = [] ∧ rest.dropWhile Text.isWordChar = rest := by
        cases rest with
        | nil => exact ⟨rfl, rfl⟩
        | cons next rest =>
            have hnext := hend next rfl
            exact ⟨List.takeWhile_cons_of_neg (by simp [hnext]),
              List.dropWhile_cons_of_neg (by simp [hnext])⟩
      rw [List.cons_append, scan, ofMark?_of_isWordChar hfirst]
      simp only [hblank, hfirst, if_true, Bool.false_eq_true, if_false]
      rw [List.takeWhile_append_of_pos hword, List.dropWhile_append_of_pos hword, hstop.1, hstop.2,
        List.append_nil]

/-- A text that begins with a character of a word is parted behind its first word. -/
theorem cons_eq_word_append (hchar : Text.isWordChar c = true) :
    c :: rest = (c :: rest.takeWhile Text.isWordChar) ++ rest.dropWhile Text.isWordChar ∧
      (∀ d ∈ c :: rest.takeWhile Text.isWordChar, Text.isWordChar d = true) ∧
      ∀ d ∈ (rest.dropWhile Text.isWordChar).head?, Text.isWordChar d = false := by
  refine ⟨?_, List.forall_mem_cons.mpr ⟨hchar, fun _ => List.mem_takeWhile_imp⟩, ?_⟩
  · rw [List.cons_append, List.takeWhile_append_dropWhile]
  · intro d hd
    have hnot := List.head?_dropWhile_not Text.isWordChar rest
    rwa [hd] at hnot

end Scan

/-- Scanning finds the division of a text. -/
theorem Divides.scan_eq {text : List Char} {tokens : List Token} (hdivides : Divides text tokens) :
    scan text = .ok tokens := by
  induction hdivides with
  | nil => rw [scan]
  | blank hblank _ ih => rw [scan_blank hblank, ih]
  | mark hmark _ ih => rw [scan_mark hmark, ih]; rfl
  | word hne hword hend _ ih => rw [scan_word hne hword hend, ih]; rfl

theorem map_cons_eq_ok {scanned : Except Char (List Token)} {token : Token} {tokens : List Token}
    (hscanned : scanned.map (token :: ·) = .ok tokens) :
    ∃ later, scanned = .ok later ∧ tokens = token :: later := by
  cases scanned with
  | error c => cases hscanned
  | ok later =>
      cases hscanned
      exact ⟨later, rfl, rfl⟩

theorem divides_of_scan {text : List Char} {tokens : List Token} (hscan : scan text = .ok tokens) :
    Divides text tokens := by
  induction text using scan.induct generalizing tokens with
  | case1 =>
      rw [scan] at hscan
      cases hscan
      exact .nil
  | case2 c rest token hmark ih =>
      rw [scan_mark hmark] at hscan
      obtain ⟨later, hlater, rfl⟩ := map_cons_eq_ok hscan
      exact .mark hmark (ih hlater)
  | case3 c rest _ hblank ih =>
      rw [scan_blank hblank] at hscan
      exact .blank hblank (ih hscan)
  | case4 c rest _ _ hchar ih =>
      obtain ⟨hsplit, hword, hend⟩ := @cons_eq_word_append c rest hchar
      rw [hsplit, scan_word (List.cons_ne_nil _ _) hword hend] at hscan
      obtain ⟨later, hlater, rfl⟩ := map_cons_eq_ok hscan
      rw [hsplit]
      exact .word (List.cons_ne_nil _ _) hword hend (ih hlater)
  | case5 c rest hmark hblank hchar =>
      rw [scan, hmark] at hscan
      simp [hblank, hchar] at hscan

/-- The tokens of a text are those it divides into. -/
theorem scan_eq_ok_iff {text : List Char} {tokens : List Token} :
    scan text = .ok tokens ↔ Divides text tokens :=
  ⟨divides_of_scan, Divides.scan_eq⟩

/-- A text divides in one way at most. -/
theorem Divides.unique {text : List Char} {first second : List Token}
    (hfirst : Divides text first) (hsecond : Divides text second) : first = second :=
  Except.ok.inj (hfirst.scan_eq.symm.trans hsecond.scan_eq)

/-- A text that is one word. -/
def IsWord (text : String) : Prop :=
  text.toList ≠ [] ∧ ∀ c ∈ text.toList, Text.isWordChar c = true

theorem isWord_of_all {text : String}
    (hall : (!text.toList.isEmpty && text.toList.all Text.isWordChar) = true) : IsWord text := by
  rw [Bool.and_eq_true, Bool.not_eq_true', List.isEmpty_eq_false_iff, List.all_eq_true] at hall
  exact hall

theorem IsWord.divides {word : String} (hword : IsWord word) {rest : List Char}
    {tokens : List Token} (hend : ∀ c ∈ rest.head?, Text.isWordChar c = false)
    (hrest : Divides rest tokens) :
    Divides (word.toList ++ rest) (.word word :: tokens) := by
  have hdivides := Divides.word hword.1 hword.2 hend hrest
  rwa [String.ofList_toList] at hdivides

/-- A mark ends the word before it. -/
theorem isWordChar_head_of_mark {c : Char} {token : Token} (hmark : ofMark? c = some token)
    (rest : List Char) : ∀ d ∈ (c :: rest).head?, Text.isWordChar d = false := by
  rintro _ ⟨⟩
  cases hchar : Text.isWordChar c with
  | false => rfl
  | true =>
      rw [ofMark?_of_isWordChar hchar] at hmark
      cases hmark

theorem IsWord.divides_opening {word : String} (hword : IsWord word) {rest : List Char}
    {tokens : List Token} (hrest : Divides rest tokens) :
    Divides (word.toList ++ '<' :: rest) (.word word :: .opening :: tokens) :=
  hword.divides (isWordChar_head_of_mark rfl rest) (.mark rfl hrest)

end Token

end WireScript
