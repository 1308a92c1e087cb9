import Mathlib.Data.List.DropRight
import WireScript.Proofs.Generator.Placement

/-! # Plans under other groupings

A schema that can be laid out flat can be laid out under every grouping a
configuration can ask for. The name of its file tells a message apart from all others
whatever directory it is in, and no directory of a bucket holds another artifact.
-/

namespace WireScript

namespace Text

/-- In ASCII the lower case of a text is that of its characters. -/
theorem lowercaseAfter_of_ascii {text : List Char} (hascii : ∀ c ∈ text, c.toNat < 0x80)
    (before : List Char) : lowercaseAfter before text = text.map Char.toLower := by
  induction text generalizing before with
  | nil => rfl
  | cons c rest ih =>
      obtain ⟨hc, hrest⟩ := List.forall_mem_cons.mp hascii
      have hother : ∀ capital : Char, 0x80 ≤ capital.toNat → (c == capital) = false := by
        rintro capital hcapital
        refine beq_false_of_ne ?_
        rintro rfl
        omega
      simp [lowercaseAfter, hother 'Σ' (by decide), hother 'İ' (by decide), small, hc, ih hrest]

theorem toList_lowercase_of_ascii {text : String} (hascii : ∀ c ∈ text.toList, c.toNat < 0x80) :
    (lowercase text).toList = text.toList.map Char.toLower := by
  rw [lowercase, String.toList_ofList, lowercaseAfter_of_ascii hascii]

/-- What is known of every code of ASCII is known of every character of it. -/
theorem of_ascii (p : Char → Prop) (hcodes : ∀ code < 0x80, p (Char.ofNat code)) {c : Char}
    (hascii : c.toNat < 0x80) : p c := by
  have hcode := hcodes c.toNat hascii
  rwa [Char.ofNat_toNat] at hcode

theorem toLower_ne_slash {c : Char} (hascii : c.toNat < 0x80) (hc : c ≠ '/') :
    c.toLower ≠ '/' :=
  of_ascii (fun c => c ≠ '/' → c.toLower ≠ '/') (by decide) hascii hc

theorem toNat_lt_of_isDigit {c : Char} (hdigit : c.isDigit = true) : c.toNat < 0x80 := by
  simp only [Char.isDigit, Bool.and_eq_true, decide_eq_true_eq] at hdigit
  exact Nat.lt_of_le_of_lt hdigit.2 (by decide)

theorem toLower_of_isDigit {c : Char} (hdigit : c.isDigit = true) : c.toLower = c :=
  of_ascii (fun c => c.isDigit = true → c.toLower = c) (by decide) (toNat_lt_of_isDigit hdigit)
    hdigit

theorem toNat_lt_of_isAlpha {c : Char} (halpha : c.isAlpha = true) : c.toNat < 0x80 := by
  have hbelow {last : Char} (hlast : c.val ≤ last.val) (hascii : last.toNat < 0x80) :
      c.toNat < 0x80 :=
    Nat.lt_of_le_of_lt hlast hascii
  obtain hupper | hlower := Bool.or_eq_true_iff.mp halpha
  · have hlast : c.val ≤ 'Z'.val := (of_decide_eq_true hupper).2
    exact hbelow hlast (by decide)
  · have hlast : c.val ≤ 'z'.val := of_decide_eq_true (Bool.and_eq_true_iff.mp hlower).2
    exact hbelow hlast (by decide)

end Text

theorem Listing.toNat_lt_of_inWord {c : Char} (hc : inWord c = true) : c.toNat < 0x80 := by
  simp only [inWord, Name.continuesIdentifier, Char.isAlphanum, Bool.or_eq_true,
    beq_iff_eq] at hc
  rcases hc with ((((halpha | hdigit) | rfl) | rfl) | rfl)
  · exact Text.toNat_lt_of_isAlpha halpha
  · exact Text.toNat_lt_of_isDigit hdigit
  · decide
  · decide
  · decide

namespace Layout

/-- The name of the file a path leads to. -/
def fileName (path : String) : List Char := path.toList.rtakeWhile (· != '/')

theorem rtakeWhile_append_cons {before name : List Char} (hname : '/' ∉ name) :
    (before ++ '/' :: name).rtakeWhile (· != '/') = name := by
  have hkeep : ∀ c ∈ name.reverse, (c != '/') = true := by
    intro c hc
    rw [bne_iff_ne]
    rintro rfl
    exact hname (List.mem_reverse.mp hc)
  rw [List.rtakeWhile, List.reverse_append, List.reverse_cons, List.append_assoc,
    List.takeWhile_append_of_pos hkeep]
  simp

theorem toNat_lt_of_mem_module {name : String} (hname : Name.isIdentifier name = true) :
    ∀ c ∈ (name ++ "." ++ extension).toList, c.toNat < 0x80 := by
  intro c hc
  rw [String.toList_append, String.toList_append, List.append_assoc, List.mem_append] at hc
  rcases hc with hname' | hextension
  · have hword := (Listing.IsWord.of_isIdentifier hname).inWord
    exact Listing.toNat_lt_of_inWord (List.all_eq_true.mp hword c hname')
  · have hplain : (".".toList ++ extension.toList).all (fun c => c.toNat < 0x80) = true := by
      decide
    exact of_decide_eq_true (List.all_eq_true.mp hplain c hextension)

/-- The module of a message at the output root, in lower case. -/
theorem toList_lowercase_flat {name : String} (hname : Name.isIdentifier name = true) :
    (Text.lowercase (messagePath "" name)).toList =
      (name ++ "." ++ extension).toList.map Char.toLower :=
  Text.toList_lowercase_of_ascii (toNat_lt_of_mem_module hname)

/-- The module of a message in a bucket, in lower case. -/
theorem toList_lowercase_bucket {name : String} (hname : Name.isIdentifier name = true)
    (number : Nat) :
    (Text.lowercase (messagePath ("p" ++ Text.decimal number) name)).toList =
      'p' :: (Text.decimal number).toList ++
        '/' :: (name ++ "." ++ extension).toList.map Char.toLower := by
  have hdigits : (Text.decimal number).toList.map Char.toLower = (Text.decimal number).toList := by
    refine (List.map_congr_left ?_).trans (List.map_id' _)
    exact fun _ hc => Text.toLower_of_isDigit (Text.isDigit_of_mem_decimal hc)
  have hdirectory : ("p" ++ Text.decimal number ++ "/").toList =
      'p' :: (Text.decimal number).toList ++ ['/'] := by
    simp
  have hascii : ∀ c ∈ (messagePath ("p" ++ Text.decimal number) name).toList,
      c.toNat < 0x80 := by
    rw [messagePath_bucket, String.toList_append, hdirectory]
    simp only [List.forall_mem_append, List.forall_mem_cons]
    refine ⟨⟨⟨by decide, ?_⟩, by decide, List.forall_mem_nil _⟩, toNat_lt_of_mem_module hname⟩
    exact fun _ hc => Text.toNat_lt_of_isDigit (Text.isDigit_of_mem_decimal hc)
  rw [Text.toList_lowercase_of_ascii hascii, messagePath_bucket, String.toList_append, hdirectory]
  simp only [List.map_append, List.map_cons, hdigits]
  simp

/-- The file of a message has one name in all directories of a grouping. -/
theorem fileName_lowercase {directory name : String} (hname : Name.isIdentifier name = true)
    (hdirectory : directory = "" ∨ ∃ number, directory = "p" ++ Text.decimal number) :
    fileName (Text.lowercase (messagePath directory name)) =
      (Text.lowercase (messagePath "" name)).toList := by
  have hslash : '/' ∉ (name ++ "." ++ extension).toList.map Char.toLower := by
    rw [List.mem_map]
    rintro ⟨c, hc, hlower⟩
    refine Text.toLower_ne_slash (toNat_lt_of_mem_module hname c hc) ?_ hlower
    rintro rfl
    exact (isName_module hname).separated hc
  rw [fileName, toList_lowercase_flat hname]
  rcases hdirectory with rfl | ⟨number, rfl⟩
  · rw [toList_lowercase_flat hname, List.rtakeWhile_eq_self_iff]
    intro c hc
    rw [bne_iff_ne]
    rintro rfl
    exact hslash hc
  · rw [toList_lowercase_bucket hname, rtakeWhile_append_cons hslash]

/-- No module in a bucket has the path of another artifact: these start with another
letter, or do not go on with a digit. -/
theorem lowercase_bucket_notMem {name : String} (hname : Name.isIdentifier name = true)
    (number : Nat) :
    Text.lowercase (messagePath ("p" ++ Text.decimal number) name) ∉
      reservedPaths.map Text.lowercase := by
  have hreserved : ∀ path ∈ reservedPaths.map Text.lowercase,
      path.toList.head? ≠ some 'p' ∨ path.toList[1]?.all Char.isDigit = false := by
    decide +kernel
  intro hmem
  have hpath := hreserved _ hmem
  rw [toList_lowercase_bucket hname] at hpath
  cases hdigits : (Text.decimal number).toList with
  | nil => exact Text.decimal_ne_nil number hdigits
  | cons first rest =>
      have hfirst : first.isDigit = true :=
        Text.isDigit_of_mem_decimal (hdigits ▸ List.mem_cons_self)
      simp [hdigits, hfirst] at hpath

/-- Modules that do not collide at the output root do not collide in directories of
buckets either. -/
theorem collision?_of_flat {directory : ProtocolId → String} {schema : Schema}
    (hnames : ∀ message ∈ schema.messages, Name.isIdentifier message.name = true)
    (hdirectory : ∀ id, directory id = "" ∨ ∃ number, directory id = "p" ++ Text.decimal number)
    (hflat : collision? (reservedPaths.map Text.lowercase)
      (messagePaths Grouping.flat.directory schema) = none) :
    collision? (reservedPaths.map Text.lowercase) (messagePaths directory schema) = none := by
  obtain ⟨hnodup, hfresh⟩ := collision?_eq_none_iff.mp hflat
  refine collision?_eq_none_iff.mpr ⟨?_, ?_⟩
  · -- the names of the files are the paths at the output root
    have hfiles : ((messagePaths directory schema).map Text.lowercase).map fileName =
        ((messagePaths Grouping.flat.directory schema).map Text.lowercase).map String.toList := by
      simp only [messagePaths, List.map_map, Grouping.directory]
      refine List.map_congr_left ?_
      intro message hmessage
      simp only [Function.comp_apply]
      exact fileName_lowercase (hnames message hmessage) (hdirectory message.id)
    refine List.Nodup.of_map fileName ?_
    rw [hfiles]
    exact hnodup.map (fun _ _ hsame => String.toList_injective hsame)
  · intro path hpath
    obtain ⟨message, hmessage, rfl⟩ := List.mem_map.mp hpath
    rcases hdirectory message.id with hroot | ⟨number, hbucket⟩
    · rw [hroot]
      exact hfresh (messagePath "" message.name) (List.mem_map.mpr ⟨message, hmessage, rfl⟩)
    · rw [hbucket]
      exact lowercase_bucket_notMem (hnames message hmessage) number

/-- A schema that can be laid out flat can be laid out under any grouping of a
configuration, and with any further nesting. -/
theorem plan_of_flat {limit limit' : Nat} {schema : Schema} {paths : List String}
    (hplan : plan Grouping.flat.directory limit schema = .ok paths) (hlimit : limit ≤ limit')
    {policy : GroupingPolicy} {grouping : Grouping} (hbuild : policy.build = .ok grouping) :
    plan grouping.directory limit' schema = .ok (messagePaths grouping.directory schema) := by
  obtain ⟨hvalid, hdepth, hcollision, -⟩ := plan_eq_ok_iff.mp hplan
  refine plan_eq_ok_iff.mpr ⟨hvalid, ?_, ?_, rfl⟩
  · intro message hmessage field hfield
    exact (hdepth message hmessage field hfield).trans hlimit
  · exact collision?_of_flat (fun _ => Schema.isIdentifier_of_valid hvalid)
      (GroupingPolicy.directory_eq hbuild) hcollision

end Layout

end WireScript
