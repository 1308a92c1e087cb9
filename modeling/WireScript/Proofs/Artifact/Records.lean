import WireScript.Artifact
import WireScript.Proofs.Text.Adjacent

/-! # Records of artifacts

What is digested of some files is a sequence of texts, each ended by a zero byte. A path
has no zero character, so it can be read back. Contents may have one, and what stands
behind it can be taken for further files: two lists of files with the same bytes are the
same, or go apart at the contents of a file that hold a zero in one of them.
-/

namespace WireScript

namespace Text

/-- Bytes read up to some index are the front of all bytes, the last one first. -/
theorem toList_loop_take (bytes : ByteArray) {index : Nat} (hindex : index ≤ bytes.size) :
    ByteArray.toList.loop bytes index (bytes.data.toList.take index).reverse =
      bytes.data.toList := by
  have hsize : bytes.data.toList.length = bytes.size := by simp
  induction hindex using Nat.decreasingInduction with
  | self =>
      rw [ByteArray.toList.loop, if_neg (Nat.lt_irrefl _), List.reverse_reverse, ← hsize,
        List.take_length]
  | of_succ index hindex ih =>
      have hbyte : bytes.get! index = bytes.data.toList[index] := by
        rw [Array.getElem_toList]
        exact getElem!_pos bytes.data index hindex
      rw [ByteArray.toList.loop, if_pos hindex, hbyte, ← List.reverse_concat,
        List.take_concat_get', ih]

/-- The characters of a text in UTF-8. -/
def bytes (text : List Char) : List UInt8 := (String.ofList text).toUTF8.toList

theorem bytes_eq (text : List Char) : bytes text = text.utf8Encode.data.toList := by
  have hread := toList_loop_take (String.ofList text).toUTF8 (Nat.zero_le _)
  rw [List.take_zero, List.reverse_nil] at hread
  rw [bytes, ByteArray.toList, hread, String.toUTF8_eq_toByteArray, ← String.utf8Encode_toList,
    String.toList_ofList]

theorem bytes_append (first second : List Char) :
    bytes (first ++ second) = bytes first ++ bytes second := by
  rw [bytes_eq, bytes_eq, bytes_eq, List.utf8Encode_append, ByteArray.toList_data_append]

theorem bytes_inj {first second : List Char} : bytes first = bytes second ↔ first = second := by
  refine ⟨fun hsame => ?_, congrArg bytes⟩
  have hencoded (text : List Char) : text.utf8Encode = (String.ofList text).toByteArray := by
    rw [← String.utf8Encode_toList, String.toList_ofList]
  rwa [bytes_eq, bytes_eq, Array.toList_inj, ← ByteArray.ext_iff, hencoded, hencoded,
    String.toByteArray_inj, String.ofList_inj] at hsame

/-- A character that stands in two places of a text is the same place, or comes earlier in
one reading than in the other. -/
theorem append_cons_cases {c : Char} {first second rest behind : List Char}
    (htext : first ++ c :: rest = second ++ c :: behind) :
    first = second ∧ rest = behind ∨
      (∃ more, second = first ++ c :: more ∧ rest = more ++ c :: behind) ∨
        ∃ more, first = second ++ c :: more ∧ behind = more ++ c :: rest := by
  rcases List.append_eq_append_iff.mp htext with ⟨middle, rfl, hmore⟩ | ⟨middle, rfl, hmore⟩ <;>
    rcases List.cons_eq_append_iff.mp hmore with ⟨rfl, hend⟩ | ⟨more, rfl, hend⟩ <;>
    simp_all

end Text

namespace Artifact

open Text

/-- The characters of some files as they are digested. -/
def spelled (artifacts : List Artifact) : List Char :=
  artifacts.flatMap (fun artifact =>
    artifact.path.toList ++ '\x00' :: (artifact.contents.toList ++ ['\x00']))

theorem spelled_cons (path contents : String) (rest : List Artifact) :
    spelled (⟨path, contents⟩ :: rest) =
      path.toList ++ '\x00' :: (contents.toList ++ '\x00' :: spelled rest) := by
  simp [spelled]

theorem ended_eq (text : String) : ended text = bytes (text.toList ++ ['\x00']) := by
  have hzero : bytes ['\x00'] = [0] := by decide +kernel
  rw [ended, bytes_append, hzero, bytes, String.ofList_toList]

theorem records_cons (artifact : Artifact) (rest : List Artifact) :
    records (artifact :: rest) =
      ended artifact.path ++ (ended artifact.contents ++ records rest) := by
  rw [records, List.flatMap_cons, record, List.append_assoc]
  rfl

theorem records_append (first second : List Artifact) :
    records (first ++ second) = records first ++ records second :=
  List.flatMap_append

theorem records_eq_bytes (artifacts : List Artifact) :
    records artifacts = bytes (spelled artifacts) := by
  induction artifacts with
  | nil => decide +kernel
  | cons artifact rest ih =>
      rw [records_cons, ih, ended_eq, ended_eq, ← bytes_append, ← bytes_append, spelled_cons]
      simp

/-- The second list has the contents of one file end later: behind the zero that ends
them in the first list they go on with what the files behind are digested as. -/
def Reframes (first second : List Artifact) : Prop :=
  ∃ shared path contents more rest behind,
    first = shared ++ ⟨path, contents⟩ :: rest ∧
      second = shared ++ ⟨path, contents ++ "\x00" ++ more⟩ :: behind ∧
      records rest = ended more ++ records behind

namespace Reframes

variable {first second : List Artifact}

theorem cons (artifact : Artifact) (hreframes : Reframes first second) :
    Reframes (artifact :: first) (artifact :: second) := by
  obtain ⟨shared, path, contents, more, rest, behind, rfl, rfl, hrest⟩ := hreframes
  exact ⟨artifact :: shared, path, contents, more, rest, behind, rfl, rfl, hrest⟩

theorem of_spelled {path contents contents' : String} {rest behind : List Artifact}
    {more : List Char} (hcontents : contents'.toList = contents.toList ++ '\x00' :: more)
    (hrest : spelled rest = more ++ '\x00' :: spelled behind) :
    Reframes (⟨path, contents⟩ :: rest) (⟨path, contents'⟩ :: behind) := by
  have hsame : contents' = contents ++ "\x00" ++ String.ofList more := by
    rw [← String.toList_inj, hcontents]
    simp
  refine ⟨[], path, contents, String.ofList more, rest, behind, rfl, by rw [hsame]; rfl, ?_⟩
  rw [records_eq_bytes, records_eq_bytes, ended_eq, ← bytes_append, hrest]
  simp

theorem records_eq (hreframes : Reframes first second) : records first = records second := by
  obtain ⟨shared, path, contents, more, rest, behind, rfl, rfl, hrest⟩ := hreframes
  have hended : ended (contents ++ "\x00" ++ more) = ended contents ++ ended more := by
    rw [ended_eq, ended_eq, ended_eq, ← bytes_append]
    simp
  rw [records_append, records_append, records_cons, records_cons, hrest, hended,
    List.append_assoc]

end Reframes

variable {first second : List Artifact}

/-- Files whose paths have no zero are known from their bytes up to the zeros in their
contents. -/
theorem records_eq_iff (hfirst : ∀ artifact ∈ first, '\x00' ∉ artifact.path.toList)
    (hsecond : ∀ artifact ∈ second, '\x00' ∉ artifact.path.toList) :
    records first = records second ↔
      first = second ∨ Reframes first second ∨ Reframes second first := by
  constructor
  · intro hrecords
    rw [records_eq_bytes, records_eq_bytes, bytes_inj] at hrecords
    induction first generalizing second with
    | nil =>
        cases second with
        | nil => exact .inl rfl
        | cons artifact second => simp [spelled] at hrecords
    | cons artifact first ih =>
        cases second with
        | nil => simp [spelled] at hrecords
        | cons other second =>
            obtain ⟨path, contents⟩ := artifact
            obtain ⟨path', contents'⟩ := other
            obtain ⟨hpath, hothers⟩ := List.forall_mem_cons.mp hfirst
            obtain ⟨hpath', hothers'⟩ := List.forall_mem_cons.mp hsecond
            rw [spelled_cons, spelled_cons] at hrecords
            -- both paths end at the first zero of the text
            obtain ⟨hsame, hcontents⟩ | ⟨more, hmore, -⟩ | ⟨more, hmore, -⟩ :=
              append_cons_cases hrecords
            · obtain rfl := String.toList_inj.mp hsame
              obtain ⟨hsame, hrest⟩ | ⟨more, hmore, hrest⟩ | ⟨more, hmore, hrest⟩ :=
                append_cons_cases hcontents
              · obtain rfl := String.toList_inj.mp hsame
                exact (ih hothers hothers' hrest).imp (congrArg _)
                  (.imp (.cons ⟨path, contents⟩) (.cons ⟨path, contents⟩))
              · exact .inr (.inl (.of_spelled hmore hrest))
              · exact .inr (.inr (.of_spelled hmore hrest))
            · exact absurd (by simp [hmore]) hpath'
            · exact absurd (by simp [hmore]) hpath
  · rintro (rfl | hreframes | hreframes)
    · rfl
    · exact hreframes.records_eq
    · exact hreframes.records_eq.symm

theorem not_reframes_of_notMem
    (hsecond : ∀ artifact ∈ second, '\x00' ∉ artifact.contents.toList) :
    ¬ Reframes first second := by
  rintro ⟨shared, path, contents, more, rest, behind, rfl, rfl, -⟩
  exact hsecond ⟨path, contents ++ "\x00" ++ more⟩ (by simp) (by simp)

/-- A text that ends a line, and in which no line begins with a zero. -/
structure IsSealed (text : String) : Prop where
  ends : text.toList.getLast? = some '\n'
  apart : ¬ Adjacent '\n' '\x00' text.toList

/-- Behind a text that ends a line a zero begins one. -/
theorem not_reframes_of_isSealed (hfirst : ∀ artifact ∈ first, IsSealed artifact.contents)
    (hsecond : ∀ artifact ∈ second, IsSealed artifact.contents) : ¬ Reframes first second := by
  rintro ⟨shared, path, contents, more, rest, behind, rfl, rfl, -⟩
  have hends := (hfirst ⟨path, contents⟩ (by simp)).ends
  have hapart := (hsecond ⟨path, contents ++ "\x00" ++ more⟩ (by simp)).apart
  apply hapart
  simp [adjacent_append_iff, hends]

section Whole

variable (hfirst : ∀ artifact ∈ first, '\x00' ∉ artifact.path.toList)
variable (hsecond : ∀ artifact ∈ second, '\x00' ∉ artifact.path.toList)

include hfirst hsecond

theorem records_inj_of_notMem (hcontents : ∀ artifact ∈ first, '\x00' ∉ artifact.contents.toList)
    (hcontents' : ∀ artifact ∈ second, '\x00' ∉ artifact.contents.toList) :
    records first = records second ↔ first = second := by
  rw [records_eq_iff hfirst hsecond, or_iff_left]
  exact not_or.mpr ⟨not_reframes_of_notMem hcontents', not_reframes_of_notMem hcontents⟩

theorem records_inj_of_isSealed (hcontents : ∀ artifact ∈ first, IsSealed artifact.contents)
    (hcontents' : ∀ artifact ∈ second, IsSealed artifact.contents) :
    records first = records second ↔ first = second := by
  rw [records_eq_iff hfirst hsecond, or_iff_left]
  exact not_or.mpr ⟨not_reframes_of_isSealed hcontents hcontents',
    not_reframes_of_isSealed hcontents' hcontents⟩

end Whole

end Artifact

end WireScript
