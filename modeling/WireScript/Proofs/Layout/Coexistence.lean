import WireScript.Proofs.Layout.Descent
import WireScript.Proofs.Regrouping

/-! # Artifacts side by side

A plan keeps whole paths apart. That its files can stand side by side takes more: none may
be a directory on the way to another, where names that differ in case alone are one name.
Only a directory that was chosen for a message can be a file as well, and the exact ones
that are not are given.
-/

namespace WireScript

namespace Text

/-- What lies beyond a separator is not seen. -/
theorem meetsCased_append_slash (text beyond : List Char) :
    meetsCased (text ++ '/' :: beyond) = meetsCased text := by
  have hstop : isCaseIgnorable '/' = false := by decide +kernel
  have hplain : isCased '/' = false := by decide +kernel
  unfold meetsCased
  induction text with
  | nil =>
      rw [List.nil_append, List.dropWhile_cons_of_neg (by simp [hstop])]
      exact hplain
  | cons c rest ih =>
      by_cases hc : isCaseIgnorable c = true
      · rw [List.cons_append, List.dropWhile_cons_of_pos hc, List.dropWhile_cons_of_pos hc]
        exact ih
      · rw [List.cons_append, List.dropWhile_cons_of_neg hc, List.dropWhile_cons_of_neg hc]

/-- Lower case does not depend on what stands before the last separator. -/
theorem lowercaseAfter_append_slash (before beyond text : List Char) :
    lowercaseAfter (before ++ '/' :: beyond) text = lowercaseAfter before text := by
  induction text generalizing before with
  | nil => rfl
  | cons c rest ih =>
      have hrest := ih (c :: before)
      rw [List.cons_append] at hrest
      rw [lowercaseAfter, lowercaseAfter, meetsCased_append_slash, hrest]

/-- Lower case goes piece by piece. -/
theorem lowercaseAfter_slash (before first second : List Char) :
    lowercaseAfter before (first ++ '/' :: second) =
      lowercaseAfter before first ++ '/' :: lowercaseAfter [] second := by
  induction first generalizing before with
  | nil =>
      have hsecond := lowercaseAfter_append_slash [] before second
      rw [List.nil_append] at hsecond
      exact congrArg ('/' :: ·) hsecond
  | cons c rest ih =>
      rw [List.cons_append, lowercaseAfter, lowercaseAfter, meetsCased_append_slash, ih,
        List.append_assoc]

/-- A number that is no code stands for the first character. -/
theorem toNat_ofNat (code : Nat) :
    (Char.ofNat code).toNat = code ∨ (Char.ofNat code).toNat = 0 := by
  by_cases hvalid : code.isValidChar
  · left
    rw [Char.ofNat, dif_pos hvalid]
    rfl
  · right
    rw [Char.ofNat, dif_neg hvalid]
    rfl

/-- The small letters above ASCII have codes above that of the separator. -/
theorem lt_of_shift? {run : CapitalRun} (hrun : run ∈ capitalRuns) {code : Nat} {distance : Int}
    (hshift : run.shift? code = some distance) : '/'.toNat < Int.toNat (code + distance) := by
  have hruns : ∀ run ∈ capitalRuns, ('/'.toNat : Int) < run.1 + run.2.2.2 := by decide +kernel
  have hstart := hruns run hrun
  obtain ⟨first, last, step, shift⟩ := run
  simp only [CapitalRun.shift?] at hshift
  split at hshift
  next hinside =>
    obtain rfl := Option.some.inj hshift
    simp only [Bool.and_eq_true, decide_eq_true_eq] at hinside
    dsimp only at hstart
    omega
  next => cases hshift

theorem small_ne_slash {c : Char} (hc : c ≠ '/') : small c ≠ '/' := by
  unfold small
  split
  next hascii => exact toLower_ne_slash hascii hc
  next =>
    split
    next distance hfound =>
      obtain ⟨run, hrun, hshift⟩ := List.exists_of_findSome?_eq_some hfound
      have hlt := lt_of_shift? hrun hshift
      intro hslash
      rcases toNat_ofNat (Int.toNat (c.toNat + distance)) with hcode | hnone
      · rw [hslash] at hcode
        exact absurd hcode hlt.ne
      · rw [hslash] at hnone
        cases hnone
    next => exact hc

theorem slash_notMem_lowercaseAfter {text : List Char} (htext : '/' ∉ text)
    (before : List Char) : '/' ∉ lowercaseAfter before text := by
  induction text generalizing before with
  | nil => exact List.not_mem_nil
  | cons c rest ih =>
      rw [List.mem_cons, not_or] at htext
      rw [lowercaseAfter, List.mem_append, not_or]
      refine ⟨?_, ih htext.2 _⟩
      split
      · split <;> decide
      · split
        · decide
        · simpa using (small_ne_slash (Ne.symm htext.1)).symm

end Text

namespace Path

/-- The pieces of a text in lower case are its pieces, each in lower case. -/
theorem pieces_lowercase (text : List Char) :
    pieces (Text.lowercaseAfter [] text) = (pieces text).map (Text.lowercaseAfter []) := by
  -- the part of the first piece that was read already is carried along
  suffices hcarried : ∀ first, '/' ∉ first → pieces (Text.lowercaseAfter [] (first ++ text)) =
      (pieces (first ++ text)).map (Text.lowercaseAfter []) from hcarried [] List.not_mem_nil
  induction text with
  | nil =>
      intro first hfirst
      rw [List.append_nil, pieces_eq_singleton hfirst,
        pieces_eq_singleton (Text.slash_notMem_lowercaseAfter hfirst [])]
      rfl
  | cons c rest ih =>
      intro first hfirst
      by_cases hc : c = '/'
      · have hrest := ih [] List.not_mem_nil
        rw [List.nil_append] at hrest
        rw [hc, Text.lowercaseAfter_slash, pieces_append_cons, pieces_append_cons, hrest,
          pieces_eq_singleton hfirst,
          pieces_eq_singleton (Text.slash_notMem_lowercaseAfter hfirst [])]
        rfl
      · have hread := ih (first ++ [c]) (by simp [hfirst, Ne.symm hc])
        rwa [List.append_assoc, List.singleton_append] at hread

end Path

namespace Layout

/-- The steps of a path and its file, in lower case. -/
def parts (path : String) : List (List Char) := Path.pieces (Text.lowercase path).toList

/-- Whether a path leads through another one, so that what is there would be a directory. -/
def LeadsThrough (path other : String) : Prop :=
  parts other <+: parts path ∧ parts other ≠ parts path

/-- Artifacts none of which has to be a file and a directory at once. -/
def Coexist (paths : List String) : Prop :=
  ∀ path ∈ paths, ∀ other ∈ paths, ¬ LeadsThrough path other

/-- Whether a step ends in the extension of modules. -/
def HasExtension (step : List Char) : Prop := ".js".toList <:+ step

instance : DecidablePred HasExtension :=
  fun step => inferInstanceAs (Decidable (".js".toList <:+ step))

/-- A path through some directories to a file with the extension of modules. -/
def IsFileIn (path : String) (directories : List (List Char)) : Prop :=
  ∃ file, parts path = directories ++ [file] ∧ HasExtension file

namespace IsFileIn

variable {path other : String} {directories others : List (List Char)}

/-- A path leads through another one that its directories lead through. -/
theorem leadsThrough_iff (hpath : IsFileIn path directories) :
    LeadsThrough path other ↔ parts other <+: directories := by
  obtain ⟨file, hparts, -⟩ := hpath
  rw [LeadsThrough, hparts, List.prefix_concat_iff]
  constructor
  · rintro ⟨hsame | hbegins, hne⟩
    · exact absurd hsame hne
    · exact hbegins
  · intro hbegins
    refine ⟨.inr hbegins, fun hsame => ?_⟩
    have hlength := hbegins.length_le
    rw [hsame, List.length_append] at hlength
    exact Nat.not_succ_le_self _ hlength

/-- Directories without the extension are no files. -/
theorem not_begins (hother : IsFileIn other others)
    (hplain : ∀ step ∈ directories, ¬ HasExtension step) : ¬ parts other <+: directories := by
  obtain ⟨file, hparts, hfile⟩ := hother
  intro hbegins
  have hmem : file ∈ parts other := by
    rw [hparts]
    exact List.mem_append_right _ List.mem_cons_self
  exact hplain file (hbegins.subset hmem) hfile

end IsFileIn

/-- The steps of a directory in lower case. -/
def directories (directory : String) : List (List Char) :=
  (steps directory).map (Text.lowercaseAfter [])

theorem isFileIn_messagePath (directory : String) {name : String}
    (hname : Name.isIdentifier name = true) :
    IsFileIn (messagePath directory name) (directories directory) := by
  refine ⟨(Text.lowercase (messagePath "" name)).toList, ?_, ?_⟩
  · rw [parts, Text.lowercase, String.toList_ofList, Path.pieces_lowercase,
      pieces_messagePath directory hname, List.map_append, Text.lowercase, String.toList_ofList]
    rfl
  · rw [toList_lowercase_flat hname, String.toList_append, String.toList_append,
      List.append_assoc, List.map_append]
    exact ⟨_, rfl⟩

theorem isFileIn_reserved {path : String} (hpath : path ∈ reservedPaths) :
    ∃ directories, IsFileIn path directories ∧ ∀ step ∈ directories, ¬ HasExtension step := by
  have hreserved : ∀ path ∈ reservedPaths,
      (∃ file ∈ (parts path).getLast?, HasExtension file) ∧
        ∀ step ∈ (parts path).dropLast, ¬ HasExtension step := by
    decide +kernel
  obtain ⟨⟨file, hlast, hfile⟩, hplain⟩ := hreserved path hpath
  exact ⟨_, ⟨file, (List.dropLast_append_getLast? file hlast).symm, hfile⟩, hplain⟩

/-- The directory of a bucket has a name without extension. -/
theorem not_hasExtension_bucket (number : Nat) :
    ∀ step ∈ directories ("p" ++ Text.decimal number), ¬ HasExtension step := by
  have hsteps : steps ("p" ++ Text.decimal number) = [("p" ++ Text.decimal number).toList] := by
    rw [steps, strip_bucket, if_neg (by simp),
      Path.pieces_eq_singleton (isName_bucket number).separated]
  have hascii : ∀ c ∈ ("p" ++ Text.decimal number).toList, c.toNat < 0x80 := by
    intro c hc
    rcases mem_bucket hc with rfl | hdigit
    · decide
    · exact Text.toNat_lt_of_isDigit hdigit
  intro step hstep hextension
  rw [directories, hsteps, List.map_singleton, List.mem_singleton,
    Text.lowercaseAfter_of_ascii hascii] at hstep
  -- the extension begins with a character that no letter or digit is the capital of
  have hdot : '.' ∈ step := hextension.subset List.mem_cons_self
  rw [hstep, List.mem_map] at hdot
  obtain ⟨c, hc, hlower⟩ := hdot
  rcases mem_bucket hc with rfl | hdigit
  · exact absurd hlower (by decide)
  · rw [Text.toLower_of_isDigit hdigit] at hlower
    rw [hlower] at hdigit
    cases hdigit

section Plan

variable {grouping : Grouping} {limit : Nat} {schema : Schema} {paths : List String}

/-- An artifact of a plan comes with every plan, or is the module of a message. -/
theorem mem_artifacts (hplan : plan grouping.directory limit schema = .ok paths)
    {path : String} :
    path ∈ reservedPaths ++ paths ↔ path ∈ reservedPaths ∨ ∃ message ∈ schema.messages,
      Name.isIdentifier message.name = true ∧
        messagePath (grouping.directory message.id) message.name = path := by
  obtain ⟨hvalid, -, -, rfl⟩ := plan_eq_ok_iff.mp hplan
  rw [List.mem_append, messagePaths, List.mem_map]
  refine or_congr_right ⟨?_, ?_⟩
  · rintro ⟨message, hmessage, hpath⟩
    exact ⟨message, hmessage, Schema.isIdentifier_of_valid hvalid hmessage, hpath⟩
  · rintro ⟨message, hmessage, -, hpath⟩
    exact ⟨message, hmessage, hpath⟩

theorem exists_isFileIn (hplan : plan grouping.directory limit schema = .ok paths)
    {path : String} (hpath : path ∈ reservedPaths ++ paths) :
    ∃ directories, IsFileIn path directories := by
  rcases (mem_artifacts hplan).mp hpath with hreserved | ⟨message, -, hname, rfl⟩
  · obtain ⟨directories, hfile, -⟩ := isFileIn_reserved hreserved
    exact ⟨directories, hfile⟩
  · exact ⟨_, isFileIn_messagePath _ hname⟩

/-- Artifacts get into each other's way only where the directory of a message does. -/
theorem coexist_iff (hplan : plan grouping.directory limit schema = .ok paths) :
    Coexist (reservedPaths ++ paths) ↔
      ∀ message ∈ schema.messages, ∀ other ∈ reservedPaths ++ paths,
        ¬ parts other <+: directories (grouping.directory message.id) := by
  constructor
  · intro hcoexist message hmessage other hother hbegins
    have hname := Schema.isIdentifier_of_valid (plan_eq_ok_iff.mp hplan).1 hmessage
    have hpath := (mem_artifacts hplan).mpr (.inr ⟨message, hmessage, hname, rfl⟩)
    exact hcoexist _ hpath other hother
      ((isFileIn_messagePath _ hname).leadsThrough_iff.mpr hbegins)
  · intro hnone path hpath other hother hleads
    rcases (mem_artifacts hplan).mp hpath with hreserved | ⟨message, hmessage, hname, rfl⟩
    · obtain ⟨others, hfile⟩ := exists_isFileIn hplan hother
      obtain ⟨directories, hpath, hplain⟩ := isFileIn_reserved hreserved
      exact hfile.not_begins hplain (hpath.leadsThrough_iff.mp hleads)
    · exact hnone message hmessage other hother
        ((isFileIn_messagePath _ hname).leadsThrough_iff.mp hleads)

theorem coexist_of_plain (hplan : plan grouping.directory limit schema = .ok paths)
    (hplain : ∀ message ∈ schema.messages,
      ∀ step ∈ directories (grouping.directory message.id), ¬ HasExtension step) :
    Coexist (reservedPaths ++ paths) := by
  refine (coexist_iff hplan).mpr ?_
  intro message hmessage other hother
  obtain ⟨others, hfile⟩ := exists_isFileIn hplan hother
  exact hfile.not_begins (hplain message hmessage)

/-- No artifact of a plan has to be a file and a directory at once, exactly when no directory
of a message leads through an artifact. That is so when no directory ends in the extension of
modules, and under every grouping a configuration can ask for. -/
theorem plan_coexists_iff (hplan : plan grouping.directory limit schema = .ok paths) :
    let artifacts := reservedPaths ++ paths
    (Coexist artifacts ↔ ∀ message ∈ schema.messages, ∀ other ∈ artifacts,
      ¬ parts other <+: directories (grouping.directory message.id)) ∧
    ((∀ message ∈ schema.messages, ∀ step ∈ directories (grouping.directory message.id),
      ¬ HasExtension step) → Coexist artifacts) ∧
    ∀ policy : GroupingPolicy, policy.build = .ok grouping → Coexist artifacts := by
  refine ⟨coexist_iff hplan, coexist_of_plain hplan, ?_⟩
  intro policy hbuild
  refine coexist_of_plain hplan ?_
  intro message _
  rcases GroupingPolicy.directory_eq hbuild message.id with hroot | ⟨number, hbucket⟩
  · rw [hroot]
    exact fun _ hstep => nomatch hstep
  · rw [hbucket]
    exact not_hasExtension_bucket number

end Plan

/-- Modules in directories without extension do not get into each other's way. -/
theorem plan_coexists_separators :
    let grouping := Grouping.flat.withPath 2 "game\\player"
    let schema : Schema := ⟨[⟨1, "First", []⟩, ⟨2, "Second", []⟩]⟩
    plan grouping.directory 32 schema = .ok ["First.js", "game/player/Second.js"] ∧
      Coexist (reservedPaths ++ ["First.js", "game/player/Second.js"]) := by
  intro grouping schema
  have hplan : plan grouping.directory 32 schema =
      .ok ["First.js", "game/player/Second.js"] :=
    plan_eq_ok_iff.mpr ⟨Schema.validate_eq_ok_iff.mpr ⟨by decide +kernel, by decide +kernel⟩,
      by decide +kernel, by decide +kernel, by decide +kernel⟩
  exact ⟨hplan, (plan_coexists_iff hplan).2.1 (by decide +kernel)⟩

/-- A directory that is chosen for one message may be the module of another. -/
theorem plan_clashes :
    let grouping := Grouping.flat.withPath 2 "First.js"
    let schema : Schema := ⟨[⟨1, "First", []⟩, ⟨2, "Second", []⟩]⟩
    grouping.IsOffered ∧
      plan grouping.directory 32 schema = .ok ["First.js", "First.js/Second.js"] ∧
      LeadsThrough "First.js/Second.js" "First.js" ∧
      ¬ Coexist (reservedPaths ++ ["First.js", "First.js/Second.js"]) := by
  intro grouping schema
  have hleads : LeadsThrough "First.js/Second.js" "First.js" := by
    unfold LeadsThrough
    decide +kernel
  have hplan : plan grouping.directory 32 schema = .ok ["First.js", "First.js/Second.js"] :=
    plan_eq_ok_iff.mpr ⟨Schema.validate_eq_ok_iff.mpr ⟨by decide +kernel, by decide +kernel⟩,
      by decide +kernel, by decide +kernel, by decide +kernel⟩
  refine ⟨.withPath .flat 2 _, hplan, hleads, ?_⟩
  intro hcoexist
  exact hcoexist _ (by simp) _ (by simp) hleads

end Layout

end WireScript
