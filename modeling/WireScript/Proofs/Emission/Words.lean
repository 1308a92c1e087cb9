import WireScript.Proofs.Emission.Listing
import WireScript.Schema.Name
import WireScript.Text.Split

/-! # Words of a listing

A word is a longest stretch of characters that stand in identifiers, dots among
them, so a variable and the members reached through it are one word. The words of
every line the strategies emit are computed here, from those of its pieces.
-/

namespace WireScript.Listing

/-- Whether a character stands inside words. -/
def inWord (c : Char) : Bool := Name.continuesIdentifier c || c == '.'

/-- The words of a text, from left to right. -/
def words (text : String) : List String :=
  ((Text.split (fun c => !inWord c) text.toList).filter (fun piece => !piece.isEmpty)).map
    String.ofList

/-- The variable a word starts from. What follows the first dot names members. -/
def root (word : String) : String := String.ofList (word.toList.takeWhile (· != '.'))

/-- A text that is a single word. -/
structure IsWord (text : String) : Prop where
  nonempty : text.toList ≠ []
  inWord : text.toList.all inWord = true

namespace IsWord

theorem words_eq {text : String} (hword : IsWord text) : words text = [text] := by
  have hpieces : Text.split (fun c => !Listing.inWord c) text.toList = [text.toList] := by
    apply Text.split_eq_singleton
    intro c hc
    rw [List.all_eq_true.mp hword.inWord c hc]
    rfl
  have hnonempty : text.toList.isEmpty = false := by
    rw [List.isEmpty_eq_false_iff]
    exact hword.nonempty
  simp [words, hpieces, hnonempty]

theorem notMem {word : String} (hword : IsWord word) {c : Char} (hc : Listing.inWord c = false) :
    c ∉ word.toList := by
  intro hmem
  rw [List.all_eq_true.mp hword.inWord c hmem] at hc
  cases hc

theorem append {first second : String} (hfirst : IsWord first)
    (hsecond : second.toList.all Listing.inWord = true) : IsWord (first ++ second) := by
  refine ⟨by simp [hfirst.nonempty], ?_⟩
  rw [String.toList_append, List.all_append, hfirst.inWord, hsecond]
  rfl

theorem buffer {method : String} (hmethod : IsWord method) : IsWord ("buffer." ++ method) :=
  append (by constructor <;> decide) hmethod.inWord

theorem packet {field : String} (hfield : IsWord field) : IsWord ("packet." ++ field) :=
  append (by constructor <;> decide) hfield.inWord

theorem writeMethod (s : Scalar) : IsWord ("write" ++ s.methodName) := by
  cases s <;> constructor <;> decide

theorem readMethod (s : Scalar) : IsWord ("read" ++ s.methodName) := by
  cases s <;> constructor <;> decide

theorem measure (collection : Collection) : IsWord collection.measure := by
  cases collection <;> constructor <;> decide

theorem decimal (number : Nat) : IsWord (Text.decimal number) := by
  refine ⟨Text.decimal_ne_nil number, ?_⟩
  rw [List.all_eq_true]
  intro c hc
  simp [Listing.inWord, Name.continuesIdentifier, Char.isAlphanum,
    Text.isDigit_of_mem_decimal hc]

theorem temporary (stem : String) (hstem : stem ∈ Name.temporaryStems) (number : Nat) :
    IsWord (Name.temporary stem number) := by
  have hstems : ∀ stem ∈ Name.temporaryStems,
      stem.toList ≠ [] ∧ stem.toList.all Listing.inWord = true := by
    decide
  obtain ⟨hnonempty, hchars⟩ := hstems stem hstem
  exact append ⟨hnonempty, hchars⟩ (decimal number).inWord

theorem of_isIdentifier {name : String} (hname : Name.isIdentifier name = true) :
    IsWord name := by
  unfold Name.isIdentifier at hname
  split at hname
  next => cases hname
  next first rest hlist =>
    rw [Bool.and_eq_true, List.all_eq_true] at hname
    refine ⟨by simp [hlist], ?_⟩
    rw [List.all_eq_true]
    intro c hc
    rw [hlist] at hc
    rcases List.mem_cons.mp hc with rfl | hrest
    · have hstarts := hname.1
      simp only [Name.startsIdentifier, Bool.or_eq_true] at hstarts
      simp only [Listing.inWord, Name.continuesIdentifier, Char.isAlphanum, Bool.or_eq_true]
      exact .inl (hstarts.imp_left (Or.imp_left .inl))
    · simp [Listing.inWord, hname.2 c hrest]

end IsWord

/-- A text ends in front of another when no word reaches across. -/
def parts (first second : String) : Bool :=
  first.toList.getLast?.any (fun c => !inWord c) || second.toList.head?.any (fun c => !inWord c)

theorem words_append {first second : String} (hparts : parts first second = true) :
    words (first ++ second) = words first ++ words second := by
  simp only [words, ← List.map_append, ← List.filter_append]
  rw [String.toList_append]
  -- the separator belongs to one of the texts, and the other is split off whole
  rcases Bool.or_eq_true_iff.mp hparts with hlast | hhead
  · obtain ⟨c, hc, hseparates⟩ := (Option.any_eq_true _ _).mp hlast
    obtain ⟨before, hfirst⟩ := List.getLast?_eq_some_iff.mp hc
    have hends := @Text.split_append_cons (fun c => !inWord c) c hseparates before []
    rw [hfirst, List.append_assoc, List.singleton_append, hends, Text.split_append_cons hseparates]
    simp [Text.split]
  · obtain ⟨c, hc, hseparates⟩ := (Option.any_eq_true _ _).mp hhead
    cases hsecond : second.toList with
    | nil => simp [hsecond] at hc
    | cons head rest =>
        obtain rfl : head = c := by simpa [hsecond] using hc
        have hbegins := @Text.split_append_cons (fun c => !inWord c) head hseparates [] rest
        rw [Text.split_append_cons hseparates]
        rw [List.nil_append] at hbegins
        rw [hbegins]
        simp [Text.split]

end WireScript.Listing
