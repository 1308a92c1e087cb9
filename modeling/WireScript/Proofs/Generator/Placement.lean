import Mathlib.Data.List.Nodup
import WireScript.Proofs.Emission.Words
import WireScript.Proofs.Generator.Filling

/-! # Placement of artifacts

The paths of a run are made of names: an accepted configuration names a directory
of its own, an identifier with an extension is a name, and so is the directory of
a bucket. A plan keeps the paths apart, so no artifact takes the place of another.
-/

namespace WireScript

namespace Text

theorem strip_eq_self {drop : Char → Bool} {text : List Char}
    (htext : ∀ c ∈ text, drop c = false) : strip drop text = text := by
  have hkeep (text : List Char) (htext : ∀ c ∈ text, drop c = false) :
      text.dropWhile drop = text := by
    cases text with
    | nil => rfl
    | cons c rest => rw [List.dropWhile_cons_of_neg]; simp [htext c List.mem_cons_self]
  rw [strip, hkeep text htext, hkeep, List.reverse_reverse]
  intro c hc
  exact htext c (List.mem_reverse.mp hc)

theorem mem_dropWhile {drop : Char → Bool} {text : List Char} {c : Char} (hc : c ∈ text)
    (hkeep : drop c = false) : c ∈ text.dropWhile drop := by
  induction text with
  | nil => exact hc
  | cons first rest ih =>
      rw [List.dropWhile_cons]
      split
      next hdrop =>
        rcases List.mem_cons.mp hc with rfl | hrest
        · rw [hkeep] at hdrop
          cases hdrop
        · exact ih hrest
      next => exact hc

theorem mem_strip {drop : Char → Bool} {text : List Char} {c : Char} (hc : c ∈ text)
    (hkeep : drop c = false) : c ∈ strip drop text := by
  rw [strip, List.mem_reverse]
  exact mem_dropWhile (List.mem_reverse.mpr (mem_dropWhile hc hkeep)) hkeep

theorem isBlank_of_isDigit {c : Char} (hc : c.isDigit = true) : isBlank c = false := by
  simp only [Char.isDigit, Bool.and_eq_true, decide_eq_true_eq] at hc
  have hlow : 48 ≤ c.toNat := hc.1
  have hhigh : c.toNat ≤ 57 := hc.2
  simp only [isBlank, Bool.or_eq_false_iff, Bool.and_eq_false_iff, decide_eq_false_iff_not,
    beq_eq_false_iff_ne]
  omega

end Text

/-- The name of the output directory of an accepted configuration is a name. -/
theorem Config.isName_outputName {config : Config} (hvalid : config.issue? = none) :
    IsName config.outputName := by
  unfold issue? at hvalid
  simp only at hvalid
  split at hvalid
  next => cases hvalid
  next hdedicated =>
    split at hvalid
    next => cases hvalid
    next hsegment =>
      simp only [Bool.or_eq_true, decide_eq_true_eq, not_or] at hdedicated
      constructor
      case nonempty =>
        intro hnil
        rw [hnil] at hdedicated
        exact hdedicated.1.1 rfl
      case separated =>
        intro hslash
        -- a separator is not blank, so it is still there when blanks are dropped
        apply hsegment
        rw [List.any_eq_true]
        exact ⟨'/', Text.mem_strip hslash (by decide), by decide⟩
      case ne_here =>
        intro hhere
        rw [hhere] at hdedicated
        exact hdedicated.1.2 (by decide)
      case ne_up =>
        intro hup
        rw [hup] at hdedicated
        exact hdedicated.2 (by decide)

/-- The output root of an accepted configuration ends in the name of its
directory. -/
theorem Config.endsInName_outputRoot {config : Config} (hvalid : config.issue? = none) :
    config.outputRoot.EndsInName := by
  have hname := isName_outputName hvalid
  rw [outputRoot]
  rcases config.protocolPath.join_cases hname.head?_ne with
    ⟨-, hjoin⟩ | ⟨hslash, hjoin⟩ | ⟨-, hjoin⟩
  · exact hjoin ▸ ⟨"", _, hname, by simp, .inl rfl⟩
  · exact hjoin ▸ ⟨config.protocolPath.text, _, hname, rfl, .inr hslash⟩
  · exact hjoin ▸ Path.EndsInName.child _ hname

/-- An identifier with the extension of a module is a name. -/
theorem isName_module {name : String} (hname : Name.isIdentifier name = true) :
    IsName (name ++ "." ++ Layout.extension) := by
  have hlist : (name ++ "." ++ Layout.extension).toList = name.toList ++ ['.', 'j', 's'] := by
    simp [Layout.extension]
  constructor
  case nonempty => simp [hlist]
  case separated =>
    rw [hlist, List.mem_append]
    rintro (hslash | hslash)
    · have hword := List.all_eq_true.mp (Listing.IsWord.of_isIdentifier hname).inWord '/' hslash
      cases hword
    · exact absurd hslash (by decide)
  case ne_here =>
    intro heq
    have hmem : 'j' ∈ ['.'] := heq ▸ hlist ▸ by simp
    exact absurd hmem (by decide)
  case ne_up =>
    intro heq
    have hmem : 'j' ∈ ['.', '.'] := heq ▸ hlist ▸ by simp
    exact absurd hmem (by decide)

theorem isName_bucket (number : Nat) : IsName ("p" ++ Text.decimal number) := by
  have hdigit : ∀ c ∈ (Text.decimal number).toList, c ≠ '/' := by
    rintro c hc rfl
    exact absurd (Text.isDigit_of_mem_decimal hc) (by decide)
  constructor <;> simp
  exact fun hc => hdigit '/' hc rfl

theorem mem_bucket {number : Nat} {c : Char} (hc : c ∈ ("p" ++ Text.decimal number).toList) :
    c = 'p' ∨ c.isDigit = true := by
  rw [String.toList_append, List.mem_append] at hc
  exact hc.imp (fun hstem => by simpa using hstem) Text.isDigit_of_mem_decimal

/-- The directories of a grouping that a configuration can ask for. -/
theorem GroupingPolicy.directory_eq {policy : GroupingPolicy} {grouping : Grouping}
    (hbuild : policy.build = .ok grouping) (id : ProtocolId) :
    grouping.directory id = "" ∨ ∃ number, grouping.directory id = "p" ++ Text.decimal number := by
  cases policy with
  | flat =>
      obtain rfl := Except.ok.inj hbuild
      exact .inl rfl
  | bucket size =>
      simp only [build, Grouping.ofBucketSize] at hbuild
      split at hbuild
      next hpositive =>
        obtain rfl := Except.ok.inj hbuild
        exact .inr ⟨_, rfl⟩
      next => cases hbuild

namespace Layout

/-- Nothing is dropped from around the directory of a bucket. -/
theorem strip_bucket (number : Nat) :
    Text.strip (· == '/') (Text.strip Text.isBlank ("p" ++ Text.decimal number).toList) =
      ("p" ++ Text.decimal number).toList := by
  have hchars : ∀ c ∈ ("p" ++ Text.decimal number).toList,
      Text.isBlank c = false ∧ (c == '/') = false := by
    intro c hc
    refine ⟨?_, beq_false_of_ne fun heq => (isName_bucket number).separated (heq ▸ hc)⟩
    rcases mem_bucket hc with rfl | hdigit
    · decide
    · exact Text.isBlank_of_isDigit hdigit
  rw [Text.strip_eq_self (fun c hc => (hchars c hc).1),
    Text.strip_eq_self (fun c hc => (hchars c hc).2)]

theorem messagePath_bucket (number : Nat) (name : String) :
    messagePath ("p" ++ Text.decimal number) name =
      "p" ++ Text.decimal number ++ "/" ++ (name ++ "." ++ extension) := by
  have hnonempty : ("p" ++ Text.decimal number).toList.isEmpty = false := by simp
  unfold messagePath
  simp only [strip_bucket, hnonempty, String.ofList_toList]
  rfl

/-- The steps to the module of a message. -/
theorem messagePath_eq {directory : String} (name : String)
    (hdirectory : directory = "" ∨ ∃ number, directory = "p" ++ Text.decimal number) :
    messagePath directory name = name ++ "." ++ extension ∨
      ∃ number, messagePath directory name =
        "p" ++ Text.decimal number ++ "/" ++ (name ++ "." ++ extension) := by
  rcases hdirectory with rfl | ⟨number, rfl⟩
  · exact .inl rfl
  · exact .inr ⟨number, messagePath_bucket number name⟩

end Layout

namespace Artifact

/-- The module of a message with an identifier for its name is placed. -/
theorem isPlaced_module {directory name contents : String}
    (hname : Name.isIdentifier name = true)
    (hdirectory : directory = "" ∨ ∃ number, directory = "p" ++ Text.decimal number) :
    IsPlaced ⟨Layout.messagePath directory name, contents⟩ := by
  have hmodule := isName_module hname
  rcases Layout.messagePath_eq name hdirectory with hflat | ⟨number, hbucket⟩
  · refine ⟨[name ++ "." ++ Layout.extension], by simp, by simpa using hmodule, ?_⟩
    dsimp only
    rw [String.intercalate_singleton, hflat]
  · refine ⟨["p" ++ Text.decimal number, name ++ "." ++ Layout.extension], by simp, ?_, ?_⟩
    · intro piece hpiece
      simp only [List.mem_cons, List.not_mem_nil, or_false] at hpiece
      rcases hpiece with rfl | rfl
      · exact isName_bucket number
      · exact hmodule
    · dsimp only
      rw [String.intercalate_cons_cons, String.intercalate_singleton, hbucket]

theorem isPlaced_registry (contents : String) : IsPlaced ⟨registryPath, contents⟩ :=
  ⟨["ProtocolManager.js"], by simp, by
    intro name hname
    obtain rfl := List.mem_singleton.mp hname
    constructor <;> decide, rfl⟩

theorem isPlaced_support {artifact : Artifact} (hsupport : artifact ∈ support) :
    artifact.IsPlaced := by
  have hbuffer : IsName "buffer" := by constructor <;> decide
  have hfirst : IsName "ByteBuffer.js" := by constructor <;> decide
  have hsecond : IsName "longbits.js" := by constructor <;> decide
  simp only [support, List.mem_cons, List.not_mem_nil, or_false] at hsupport
  rcases hsupport with rfl | rfl
  · exact ⟨["buffer", "ByteBuffer.js"], by simp, by simp [hbuffer, hfirst], rfl⟩
  · exact ⟨["buffer", "longbits.js"], by simp, by simp [hbuffer, hsecond], rfl⟩

theorem path_eq_intercalate {artifact : Artifact} (hplaced : artifact.IsPlaced) :
    artifact.path = "/".intercalate artifact.location := by
  obtain ⟨names, hsome, hnames, hpath⟩ := hplaced
  rw [location_eq hsome hnames hpath, hpath]

/-- Placed artifacts with different paths have different places. -/
theorem nodup_location {artifacts : List Artifact}
    (hplaced : ∀ artifact ∈ artifacts, artifact.IsPlaced)
    (hpaths : (artifacts.map path).Nodup) : (artifacts.map location).Nodup := by
  have hjoined : artifacts.map path = (artifacts.map location).map ("/".intercalate ·) := by
    rw [List.map_map]
    exact List.map_congr_left (fun artifact h => path_eq_intercalate (hplaced artifact h))
  rw [hjoined] at hpaths
  exact List.Nodup.of_map _ hpaths

end Artifact

namespace Layout

/-- The paths of a plan differ from each other and from the reserved ones. -/
theorem nodup_paths {directory : ProtocolId → String} {schema : Schema}
    (hplan : collision? (reservedPaths.map Text.lowercase) (messagePaths directory schema) =
      none) :
    (reservedPaths ++ messagePaths directory schema).Nodup := by
  obtain ⟨hnodup, hfresh⟩ := collision?_eq_none_iff.mp hplan
  refine List.nodup_append.mpr ⟨by decide, List.Nodup.of_map _ hnodup, ?_⟩
  rintro path hreserved _ hmessage rfl
  exact hfresh path hmessage (List.mem_map_of_mem hreserved)

end Layout

namespace Generator.IsOutput

variable {run : Run} {limit : Nat} {schema : Schema} {documentation : Documentation}
variable {artifacts modules : List Artifact} {messages : List Message}

theorem map_path_modules (hmodules : List.Forall₂ (fun message artifact =>
      run.messageModule limit message (documentation.document message.id) = .ok artifact)
        messages modules) :
    modules.map Artifact.path = messages.map (fun message =>
      Layout.messagePath (run.grouping.directory message.id) message.name) := by
  induction hmodules with
  | nil => rfl
  | cons hmodule _ ih =>
      obtain ⟨blocks, text, -, -, rfl⟩ := Run.messageModule_eq_ok_iff.mp hmodule
      rw [List.map_cons, List.map_cons, ih]

/-- The artifacts of a run in the order they are written. -/
theorem map_path (houtput : IsOutput run limit schema documentation artifacts) :
    artifacts.map Artifact.path =
      Layout.reservedPaths ++ Layout.messagePaths run.grouping.directory schema := by
  obtain ⟨registry, modules, rfl, hregistry, hmodules⟩ := houtput
  obtain ⟨text, -, rfl⟩ := Run.registry_eq_ok_iff.mp hregistry
  rw [List.map_append, List.map_cons, map_path_modules hmodules, Layout.reservedPaths,
    List.append_assoc]
  rfl

theorem isPlaced (houtput : IsOutput run limit schema documentation artifacts)
    (hvalid : schema.validate = .ok ()) {policy : GroupingPolicy}
    (hbuild : policy.build = .ok run.grouping) :
    ∀ artifact ∈ artifacts, artifact.IsPlaced := by
  obtain ⟨registry, modules, rfl, hregistry, hmodules⟩ := houtput
  obtain ⟨text, -, rfl⟩ := Run.registry_eq_ok_iff.mp hregistry
  have hnames : ∀ message ∈ schema.messages, Name.isIdentifier message.name = true :=
    fun message hmessage => Schema.isIdentifier_of_valid hvalid hmessage
  have hplaced : ∀ artifact ∈ modules, artifact.IsPlaced := by
    revert hnames
    generalize schema.messages = messages at hmodules
    intro hnames
    induction hmodules with
    | nil => simp
    | cons hmodule _ ih =>
        obtain ⟨hname, hrest⟩ := List.forall_mem_cons.mp hnames
        obtain ⟨blocks, text, -, -, rfl⟩ := Run.messageModule_eq_ok_iff.mp hmodule
        refine List.forall_mem_cons.mpr ⟨?_, ih hrest⟩
        exact Artifact.isPlaced_module hname (GroupingPolicy.directory_eq hbuild _)
  intro artifact hartifact
  rcases List.mem_append.mp hartifact with hsupport | hrest
  · exact Artifact.isPlaced_support hsupport
  · rcases List.mem_cons.mp hrest with rfl | hmodule
    · exact Artifact.isPlaced_registry text
    · exact hplaced artifact hmodule

end Generator.IsOutput

end WireScript
