import WireScript.Proofs.Artifact.Documentation
import WireScript.Proofs.Generator.References

/-! # Imports and written paths

The registry imports a message from a path that is derived from the directory of the
message, as the path of its module is, but the two drop different things from the ends
of the directory. For every grouping the exact directories are given for which they
agree. Flat groupings and buckets have no others.
-/

namespace WireScript

namespace Text

variable {drop : Char → Bool} {text : List Char}

theorem strip_isInfix (drop : Char → Bool) (text : List Char) : strip drop text <:+: text :=
  (List.rdropWhile_prefix drop _).isInfix.trans (List.dropWhile_suffix drop).isInfix

/-- Nothing is dropped from a text whose ends are kept. -/
theorem strip_eq_self_of_ends (hfirst : ∀ c, text.head? = some c → drop c = false)
    (hlast : ∀ c, text.getLast? = some c → drop c = false) : strip drop text = text := by
  cases text with
  | nil => rfl
  | cons first rest =>
      have hfront : (first :: rest).dropWhile drop = first :: rest :=
        List.dropWhile_cons_of_neg (by simp [hfirst first rfl])
      rw [strip_eq_rdropWhile, hfront, List.rdropWhile_eq_self_iff]
      intro hsome
      rw [hlast _ (List.getLast?_eq_some_getLast hsome)]
      exact Bool.false_ne_true

/-- Everything is dropped from a text in which nothing is kept. -/
theorem strip_eq_nil_iff : strip drop text = [] ↔ ∀ c ∈ text, drop c = true := by
  constructor
  · intro hnil c hc
    by_contra hkeep
    have hmem := mem_strip hc (Bool.eq_false_iff.mpr hkeep)
    rw [hnil] at hmem
    cases hmem
  · intro hall
    rw [strip, List.dropWhile_eq_nil_iff.mpr hall]
    rfl

/-- A text that is still whole behind two strippings was whole behind the first. -/
theorem strip_eq_self_of_strip {drop' : Char → Bool}
    (hwhole : strip drop' (strip drop text) = text) : strip drop text = text := by
  refine (strip_isInfix drop text).sublist.eq_of_length_le ?_
  calc text.length = (strip drop' (strip drop text)).length := by rw [hwhole]
    _ ≤ (strip drop text).length := (strip_isInfix _ _).length_le

end Text

namespace Grouping

/-- The groupings there are: flat ones, buckets, and choices for single messages over
any of these. -/
inductive IsOffered : Grouping → Prop where
  | flat : IsOffered .flat
  | buckets (size : ProtocolId) (positive : size ≠ 0) : IsOffered (.buckets size positive)
  | explicit {fallback : Grouping} (hfallback : IsOffered fallback) :
      IsOffered (.explicit [] fallback)
  | withPath {grouping : Grouping} (hgrouping : IsOffered grouping) (id : ProtocolId)
      (path : String) : IsOffered (grouping.withPath id path)

/-- A choice for one message leaves all others where they were. -/
theorem directory_withPath (grouping : Grouping) (id : ProtocolId) (path : String)
    (other : ProtocolId) :
    (grouping.withPath id path).directory other =
      if other = id then normalize path else grouping.directory other := by
  by_cases hsame : other = id
  · subst hsame
    cases grouping <;> simp [withPath, directory]
  · have hbeq : (other == id) = false := beq_false_of_ne hsame
    cases grouping <;> simp [withPath, directory, hsame, List.lookup_cons, hbeq]

/-- A directory without separators at its ends. -/
def IsBare (directory : String) : Prop :=
  Text.strip (· == '/') directory.toList = directory.toList

theorem isBare_of_notMem {directory : String} (hslash : '/' ∉ directory.toList) :
    IsBare directory :=
  Text.strip_eq_self fun _ hc => beq_false_of_ne fun heq => hslash (heq ▸ hc)

/-- Joined names begin and end in names. -/
theorem ends_intercalate {name : String} {names : List String}
    (hnames : ∀ piece ∈ name :: names, piece.toList ≠ [] ∧ '/' ∉ piece.toList) :
    ("/".intercalate (name :: names)).toList ≠ [] ∧
      ("/".intercalate (name :: names)).toList.head? ≠ some '/' ∧
      ("/".intercalate (name :: names)).toList.getLast? ≠ some '/' := by
  induction names generalizing name with
  | nil =>
      obtain ⟨hsome, hslash⟩ := hnames name List.mem_cons_self
      rw [String.intercalate_singleton]
      exact ⟨hsome, fun hhead => hslash (List.mem_of_head? hhead),
        fun hlast => hslash (List.mem_of_getLast? hlast)⟩
  | cons next names ih =>
      obtain ⟨⟨hsome, hslash⟩, hrest⟩ := List.forall_mem_cons.mp hnames
      obtain ⟨hnext, -, hlast⟩ := ih hrest
      have htext : ("/".intercalate (name :: next :: names)).toList =
          name.toList ++ '/' :: ("/".intercalate (next :: names)).toList := by
        simp [String.intercalate_cons_cons]
      rw [htext]
      refine ⟨by simp, ?_, ?_⟩
      · rw [List.head?_append_of_ne_nil _ hsome]
        exact fun hhead => hslash (List.mem_of_head? hhead)
      · obtain ⟨c, rest, hlist⟩ := List.exists_cons_of_ne_nil hnext
        rw [hlist] at hlast ⊢
        rwa [List.getLast?_append_of_ne_nil _ (List.cons_ne_nil _ _), List.getLast?_cons_cons]

/-- A normalized path is made of names. -/
theorem exists_normalize (path : String) :
    ∃ names, normalize path = "/".intercalate names ∧
      ∀ name ∈ names, name.toList ≠ [] ∧ '/' ∉ name.toList := by
  refine ⟨_, rfl, ?_⟩
  intro name hname
  obtain ⟨segment, hsegment, rfl⟩ := List.mem_map.mp hname
  obtain ⟨hpiece, hkept⟩ := List.mem_filter.mp hsegment
  rw [String.toList_ofList]
  refine ⟨by rintro rfl; simp at hkept, ?_⟩
  intro hslash
  have hseparates := Text.of_mem_split hpiece hslash
  cases hseparates

theorem isBare_normalize (path : String) : IsBare (normalize path) := by
  obtain ⟨names, hpath, hnames⟩ := exists_normalize path
  rw [hpath]
  cases names with
  | nil => rfl
  | cons name names =>
      obtain ⟨-, hfirst, hlast⟩ := ends_intercalate hnames
      apply Text.strip_eq_self_of_ends
      · intro c hc
        exact beq_false_of_ne fun heq => hfirst (heq ▸ hc)
      · intro c hc
        exact beq_false_of_ne fun heq => hlast (heq ▸ hc)

/-- The directories of a grouping have no separators at their ends. -/
theorem IsOffered.isBare {grouping : Grouping} (hoffered : grouping.IsOffered) (id : ProtocolId) :
    IsBare (grouping.directory id) := by
  induction hoffered with
  | flat => rfl
  | buckets size positive => exact isBare_of_notMem (isName_bucket _).separated
  | explicit _ ih => exact ih
  | withPath _ other path ih =>
      rw [directory_withPath]
      split
      next => exact isBare_normalize path
      next => exact ih

end Grouping

namespace RegistryEntry

/-- What is kept of a directory without separators at its ends. -/
theorem trim_eq_self_iff {directory : String} (hbare : Grouping.IsBare directory) :
    Text.trim directory = directory ↔
      Text.strip (· == '/') (Text.strip Text.isBlank directory.toList) = directory.toList := by
  constructor
  · intro htrim
    have hkept := congrArg String.toList htrim
    rw [Text.trim, String.toList_ofList] at hkept
    rw [hkept]
    exact hbare
  · intro hkept
    rw [Text.trim, Text.strip_eq_self_of_strip hkept, String.ofList_toList]

/-- An entry is imported from where the module is written when nothing is dropped from
its directory, or all of it is blank. -/
theorem path_eq_messagePath_iff (id : ProtocolId) (name : String) {directory : String}
    (hbare : Grouping.IsBare directory) :
    path ⟨id, name, directory⟩ = Layout.messagePath directory name ↔
      Text.isBlankText directory = true ∨ Text.trim directory = directory := by
  have hfile : name ++ ".js" = name ++ "." ++ Layout.extension := by
    rw [String.append_assoc]
    rfl
  by_cases hblank : Text.isBlankText directory = true
  · refine iff_of_true ?_ (.inl hblank)
    have hnil : Text.strip Text.isBlank directory.toList = [] :=
      Text.strip_eq_nil_iff.mpr (List.all_eq_true.mp hblank)
    rw [path, if_pos hblank, Layout.messagePath, hnil]
    exact hfile
  · rw [or_iff_right hblank, trim_eq_self_iff hbare, Layout.messagePath]
    have hpath : path ⟨id, name, directory⟩ =
        directory ++ "/" ++ (name ++ "." ++ Layout.extension) := by
      rw [path, if_neg hblank, ← hfile]
      exact String.append_assoc
    rw [hpath]
    generalize Text.strip (· == '/') (Text.strip Text.isBlank directory.toList) = left
    split
    next hempty =>
      rw [List.isEmpty_iff] at hempty
      refine iff_of_false ?_ ?_
      · -- a path with a directory is longer than one without
        intro hsame
        have hlength := congrArg String.length hsame
        simp [String.length_append] at hlength
      · rintro rfl
        obtain rfl : directory = "" := String.toList_eq_nil_iff.mp hempty
        exact hblank rfl
    next =>
      rw [← String.toList_inj]
      simp [eq_comm]

/-- Statements that import a name are told apart by the paths they import it from. -/
theorem importStatement_eq_iff_path {entry : RegistryEntry} {written : String} :
    entry.importStatement = "import " ++ entry.name ++ " from './" ++ written ++ "';" ↔
      entry.path = written := by
  rw [importStatement_eq, importStart, ← String.toList_inj, ← String.toList_inj]
  simp

/-- The registry imports a message from the path its module is written to, except from
directories that are not blank and have blanks at their ends. No grouping a configuration
can ask for has such directories. -/
theorem importStatement_eq_iff {grouping : Grouping} (hoffered : grouping.IsOffered)
    (id : ProtocolId) (name : String) :
    let directory := grouping.directory id
    let statement := importStatement ⟨id, name, directory⟩
    let written := "import " ++ name ++ " from './" ++ Layout.messagePath directory name ++ "';"
    (statement = written ↔ Text.isBlankText directory = true ∨ Text.trim directory = directory) ∧
      ∀ policy : GroupingPolicy, policy.build = .ok grouping → statement = written := by
  intro directory statement written
  constructor
  · exact importStatement_eq_iff_path.trans (path_eq_messagePath_iff id name (hoffered.isBare id))
  · intro policy hbuild
    exact importStatement_eq_iff_path.mpr
      (path_eq_messagePath id name (GroupingPolicy.directory_eq hbuild id))

/-- Separators of both kinds around a chosen directory do no harm. -/
theorem importStatement_eq_separators :
    let grouping := Grouping.flat.withPath 5 "/game\\player/"
    importStatement ⟨5, "Ping", grouping.directory 5⟩ =
      "import Ping from './" ++ Layout.messagePath (grouping.directory 5) "Ping" ++ "';" := by
  intro grouping
  have hoffered : grouping.IsOffered := .withPath .flat 5 _
  exact (importStatement_eq_iff hoffered 5 "Ping").1.mpr (.inr (by decide +kernel))

/-- A directory of blanks and separators is dropped from the path that is written, and
kept in the import. -/
theorem importStatement_ne_blanks :
    let grouping := Grouping.flat.withPath 1 " / "
    grouping.IsOffered ∧
      importStatement ⟨1, "Ping", grouping.directory 1⟩ = "import Ping from './ / /Ping.js';" ∧
      Layout.messagePath (grouping.directory 1) "Ping" = "Ping.js" ∧
      importStatement ⟨1, "Ping", grouping.directory 1⟩ ≠
        "import Ping from './" ++ Layout.messagePath (grouping.directory 1) "Ping" ++ "';" := by
  intro grouping
  exact ⟨.withPath .flat 1 _, by decide +kernel, by decide +kernel, by decide +kernel⟩

end RegistryEntry

end WireScript
