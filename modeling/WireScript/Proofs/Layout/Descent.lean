import WireScript.Proofs.Artifact.Import

/-! # Paths that lead down

The path of a module is read from the output root, and it is taken apart at its
separators. No piece of it is ever empty. Pieces that lead nowhere or up can only come
from the directory of the message, and without them the module is below the output root.
-/

namespace WireScript

namespace Path

variable {text : List Char}

theorem notMem_of_mem_pieces {piece : List Char} (hpiece : piece ∈ pieces text) :
    '/' ∉ piece := by
  intro hslash
  have hplain := Text.of_mem_split hpiece hslash
  cases hplain

/-- The pieces with separators between them are the text again. -/
theorem intercalate_pieces (text : String) :
    "/".intercalate ((pieces text.toList).map String.ofList) = text := by
  rw [← String.toList_inj, String.toList_intercalate, List.map_map, pieces_eq_splitOn]
  have hsame : String.toList ∘ String.ofList = id := funext fun _ => String.toList_ofList
  rw [hsame, List.map_id]
  exact List.intercalate_splitOn '/'

/-- Separators around a text only add empty pieces. -/
theorem filter_pieces_strip (text : List Char) :
    (pieces (Text.strip (· == '/') text)).filter (· ≠ []) =
      (pieces text).filter (· ≠ []) := by
  have hfront : (pieces (text.dropWhile (· == '/'))).filter (· ≠ []) =
      (pieces text).filter (· ≠ []) := by
    induction text with
    | nil => rfl
    | cons c rest ih =>
        by_cases hc : c = '/'
        · rw [hc, List.dropWhile_cons_of_pos rfl, ih]
          rfl
        · rw [List.dropWhile_cons_of_neg (by simpa using hc)]
  rw [Text.strip_eq_rdropWhile, ← hfront]
  generalize text.dropWhile (· == '/') = text
  induction text using List.reverseRecOn with
  | nil => rfl
  | append_singleton front c ih =>
      rw [List.rdropWhile_concat]
      split
      next hc =>
        rw [ih, beq_iff_eq.mp hc, pieces_append_cons, List.filter_append]
        exact (List.append_nil _).symm
      next => rfl

/-- Two separators in a row have an empty piece between them. -/
theorem nil_mem_pieces_of_adjacent (htext : ['/', '/'] <:+: text) : [] ∈ pieces text := by
  obtain ⟨before, after, rfl⟩ := htext
  have hpieces : pieces (before ++ ['/', '/'] ++ after) =
      pieces before ++ ([] :: pieces after) := by
    rw [List.append_assoc]
    exact pieces_append_cons before ('/' :: after)
  rw [hpieces]
  exact List.mem_append_right _ List.mem_cons_self

/-- A character that does not separate is the start of the first piece. -/
theorem pieces_cons_of_ne {c : Char} (hc : c ≠ '/') (rest : List Char) :
    ∃ first, pieces (c :: rest) = (c :: first) :: (pieces rest).tail := by
  have hpieces : pieces (c :: rest) = Text.extendFirst c (pieces rest) := by
    rw [pieces, Text.split, if_neg (by simpa using hc)]
    rfl
  obtain ⟨first, others, hrest⟩ := List.exists_cons_of_ne_nil (Text.split_ne_nil (· == '/') rest)
  exact ⟨first, by rw [hpieces, pieces, hrest]; rfl⟩

/-- Behind the first piece, an empty one needs two separators in a row or one at the end. -/
theorem nil_notMem_tail_pieces (hgapless : ¬ ['/', '/'] <:+: text)
    (hlast : text.getLast? ≠ some '/') : [] ∉ (pieces text).tail := by
  -- on the way through the text the first piece may be empty, so it is left out
  induction text with
  | nil => exact List.not_mem_nil
  | cons c rest ih =>
      have hrest : [] ∉ (pieces rest).tail := by
        refine ih (fun hadjacent => hgapless (hadjacent.trans (List.suffix_cons c rest).isInfix)) ?_
        intro hend
        cases rest with
        | nil => cases hend
        | cons => exact hlast (List.getLast?_cons_cons.trans hend)
      by_cases hc : c = '/'
      · subst hc
        change [] ∉ pieces rest
        cases rest with
        | nil => exact absurd rfl hlast
        | cons next more =>
            have hnext : next ≠ '/' := fun heq => hgapless ⟨[], more, by rw [heq]; rfl⟩
            obtain ⟨first, hpieces⟩ := pieces_cons_of_ne hnext more
            rw [hpieces, List.tail_cons] at hrest
            simpa [hpieces] using hrest
      · obtain ⟨first, hpieces⟩ := pieces_cons_of_ne hc rest
        rwa [hpieces, List.tail_cons]

/-- No piece is empty where no separator follows another and none is at the ends. -/
theorem nil_notMem_pieces (hsome : text ≠ []) (hfirst : text.head? ≠ some '/')
    (hlast : text.getLast? ≠ some '/') (hgapless : ¬ ['/', '/'] <:+: text) :
    [] ∉ pieces text := by
  obtain ⟨c, rest, rfl⟩ := List.exists_cons_of_ne_nil hsome
  have htail := nil_notMem_tail_pieces hgapless hlast
  obtain ⟨first, hpieces⟩ := pieces_cons_of_ne (fun heq => hfirst (heq ▸ rfl)) rest
  rw [hpieces, List.tail_cons] at htail
  simpa [hpieces] using htail

theorem head?_ne_of_nil_notMem (hpieces : [] ∉ pieces text) : text.head? ≠ some '/' := by
  intro hfirst
  obtain ⟨rest, rfl⟩ := List.head?_eq_some_iff.mp hfirst
  exact hpieces List.mem_cons_self

end Path

namespace Text

variable {drop : Char → Bool} {text : List Char}

theorem head?_strip {c : Char} (hfirst : (strip drop text).head? = some c) : drop c = false := by
  obtain ⟨rest, hstrip⟩ := List.head?_eq_some_iff.mp hfirst
  obtain ⟨behind, hfront⟩ := List.rdropWhile_prefix drop (text.dropWhile drop)
  rw [← strip_eq_rdropWhile, hstrip] at hfront
  have hhead := List.head?_dropWhile_not drop text
  rwa [← hfront] at hhead

theorem getLast?_strip {c : Char} (hlast : (strip drop text).getLast? = some c) :
    drop c = false := by
  have hsome : strip drop text ≠ [] := by
    rintro hnil
    rw [hnil] at hlast
    cases hlast
  rw [List.getLast?_eq_some_getLast hsome] at hlast
  obtain rfl := Option.some.inj hlast
  exact Bool.eq_false_iff.mpr (List.rdropWhile_last_not drop (text.dropWhile drop) hsome)

end Text

namespace Grouping

/-- Every directory of a grouping is made of names. -/
theorem IsOffered.exists_names {grouping : Grouping} (hoffered : grouping.IsOffered)
    (id : ProtocolId) :
    ∃ names, grouping.directory id = "/".intercalate names ∧
      ∀ name ∈ names, name.toList ≠ [] ∧ '/' ∉ name.toList := by
  induction hoffered with
  | flat => exact ⟨[], rfl, fun _ hname => nomatch hname⟩
  | buckets size positive =>
      refine ⟨[_], (String.intercalate_singleton).symm, ?_⟩
      intro name hname
      obtain rfl := List.mem_singleton.mp hname
      exact ⟨(isName_bucket _).nonempty, (isName_bucket _).separated⟩
  | explicit _ ih => exact ih
  | withPath _ other path ih =>
      rw [directory_withPath]
      split
      next => exact exists_normalize path
      next => exact ih

theorem IsOffered.gapless {grouping : Grouping} (hoffered : grouping.IsOffered)
    (id : ProtocolId) : ¬ ['/', '/'] <:+: (grouping.directory id).toList := by
  obtain ⟨names, hdirectory, hnames⟩ := hoffered.exists_names id
  rw [hdirectory]
  intro hadjacent
  have hnil := Path.nil_mem_pieces_of_adjacent hadjacent
  rcases eq_or_ne names [] with rfl | hsome
  · exact absurd hadjacent (by decide)
  · rw [Path.pieces_intercalate hsome fun name hname => (hnames name hname).2] at hnil
    obtain ⟨name, hname, hempty⟩ := List.mem_map.mp hnil
    exact (hnames name hname).1 hempty

end Grouping

namespace Layout

/-- The steps through directories to the modules of a directory. -/
def steps (directory : String) : List (List Char) :=
  let kept := Text.strip (· == '/') (Text.strip Text.isBlank directory.toList)
  if kept.isEmpty then [] else Path.pieces kept

/-- The last piece of the path of a module is its file. -/
theorem pieces_messagePath (directory : String) {name : String}
    (hname : Name.isIdentifier name = true) :
    Path.pieces (messagePath directory name).toList =
      steps directory ++ [(name ++ "." ++ extension).toList] := by
  have hfile := Path.pieces_eq_singleton (isName_module hname).separated
  unfold messagePath steps
  dsimp only
  split
  next => exact hfile
  next =>
    rw [String.toList_append, String.toList_append, String.toList_ofList, List.append_assoc,
      ← hfile]
    exact Path.pieces_append_cons _ _

/-- The steps of a directory are what is not empty between its separators. -/
theorem steps_eq {directory : String} (hgapless : ¬ ['/', '/'] <:+: directory.toList) :
    steps directory = (Path.pieces (Text.trim directory).toList).filter (· ≠ []) := by
  rw [Text.trim, String.toList_ofList, ← Path.filter_pieces_strip]
  unfold steps
  dsimp only
  split
  next hempty =>
    rw [List.isEmpty_iff.mp hempty]
    rfl
  next hsome =>
    have hpieces := Path.nil_notMem_pieces (mt List.isEmpty_iff.mpr hsome)
      (fun hfirst => absurd (Text.head?_strip hfirst) (by decide))
      (fun hlast => absurd (Text.getLast?_strip hlast) (by decide))
      (fun hadjacent => hgapless
        (hadjacent.trans ((Text.strip_isInfix _ _).trans (Text.strip_isInfix _ _))))
    refine (List.filter_eq_self.mpr ?_).symm
    intro piece hpiece
    rw [decide_eq_true_eq]
    rintro rfl
    exact hpieces hpiece

/-- A path that leads from a directory to a place below it, one name after the other. -/
structure Descends (path : String) : Prop where
  relative : path.toList.head? ≠ some '/'
  nonempty : [] ∉ Path.pieces path.toList
  ne_here : ['.'] ∉ Path.pieces path.toList
  ne_up : ['.', '.'] ∉ Path.pieces path.toList

namespace Descends

variable {path : String}

/-- A path that leads down is made of names. -/
theorem exists_names (hdescends : Descends path) :
    ∃ names, names ≠ [] ∧ (∀ name ∈ names, IsName name) ∧ path = "/".intercalate names := by
  refine ⟨(Path.pieces path.toList).map String.ofList, ?_, ?_, (Path.intercalate_pieces path).symm⟩
  · rw [Ne, List.map_eq_nil_iff]
    exact Text.split_ne_nil _ path.toList
  · intro name hname
    obtain ⟨piece, hpiece, rfl⟩ := List.mem_map.mp hname
    constructor <;> rw [String.toList_ofList]
    case nonempty =>
      rintro rfl
      exact hdescends.nonempty hpiece
    case separated => exact Path.notMem_of_mem_pieces hpiece
    case ne_here =>
      rintro rfl
      exact hdescends.ne_here hpiece
    case ne_up =>
      rintro rfl
      exact hdescends.ne_up hpiece

theorem of_names {names : List String} (hsome : names ≠ []) (hnames : ∀ name ∈ names, IsName name) :
    Descends ("/".intercalate names) := by
  have hpieces := Path.pieces_intercalate hsome fun name hname => (hnames name hname).separated
  have hother {piece : List Char} (hpiece : ∀ name, IsName name → name.toList ≠ piece) :
      piece ∉ Path.pieces ("/".intercalate names).toList := by
    rw [hpieces, List.mem_map]
    rintro ⟨name, hname, hsame⟩
    exact hpiece name (hnames name hname) hsame
  have hnonempty := hother fun _ hname => hname.nonempty
  exact ⟨Path.head?_ne_of_nil_notMem hnonempty, hnonempty, hother fun _ hname => hname.ne_here,
    hother fun _ hname => hname.ne_up⟩

/-- Joined to a path that ends in a name, it leads to a place strictly below it. -/
theorem location_join (hdescends : Descends path) {root : Path} (hroot : root.EndsInName)
    (origin : Location) :
    ∃ names, names ≠ [] ∧
      (root.join path).location origin = root.location origin ++ names := by
  obtain ⟨names, hsome, hnames, rfl⟩ := hdescends.exists_names
  refine ⟨names, hsome, ?_⟩
  rw [hroot.join_eq_below hsome hnames, hroot.location_below hnames]

end Descends

/-- The artifacts whose paths lead down are the placed ones. -/
theorem isPlaced_iff_descends {artifact : Artifact} :
    artifact.IsPlaced ↔ Descends artifact.path := by
  constructor
  · rintro ⟨names, hsome, hnames, hpath⟩
    rw [hpath]
    exact .of_names hsome hnames
  · exact Descends.exists_names

/-- A piece that is no name is a piece of a path as it is one of the directory. -/
theorem mem_pieces_messagePath_iff {directory : String}
    (hgapless : ¬ ['/', '/'] <:+: directory.toList) {name : String}
    (hname : Name.isIdentifier name = true) {piece : List Char}
    (hpiece : (name ++ "." ++ extension).toList ≠ piece) :
    piece ∈ Path.pieces (messagePath directory name).toList ↔
      piece ≠ [] ∧ piece ∈ Path.pieces (Text.trim directory).toList := by
  rw [pieces_messagePath directory hname, steps_eq hgapless, List.mem_append, List.mem_filter,
    List.mem_singleton, or_iff_left hpiece.symm, decide_eq_true_eq, and_comm]

/-- The path of a module of a grouping is relative and has no empty piece. It leads down
exactly when no piece of the directory of the message, without the blanks around it, is `.` or
`..`, and then the module is strictly below the output root of every accepted configuration. -/
theorem messagePath_descends_iff {grouping : Grouping} (hoffered : grouping.IsOffered)
    (id : ProtocolId) {name : String} (hname : Name.isIdentifier name = true) :
    let directory := grouping.directory id
    let path := messagePath directory name
    let chosen := Path.pieces (Text.trim directory).toList
    (path.toList.head? ≠ some '/' ∧ [] ∉ Path.pieces path.toList) ∧
      (Descends path ↔ ['.'] ∉ chosen ∧ ['.', '.'] ∉ chosen) ∧
      (Descends path → ∀ config : Config, config.issue? = none → ∀ origin,
        ∃ names, names ≠ [] ∧ (config.outputRoot.join path).location origin =
          config.outputRoot.location origin ++ names) ∧
      ∀ policy : GroupingPolicy, policy.build = .ok grouping → Descends path := by
  intro directory path chosen
  have hfile := isName_module hname
  have hgapless := hoffered.gapless id
  have hnonempty : [] ∉ Path.pieces path.toList := by
    rw [mem_pieces_messagePath_iff hgapless hname hfile.nonempty]
    exact fun hboth => hboth.1 rfl
  have hrelative := Path.head?_ne_of_nil_notMem hnonempty
  have hhere : ['.'] ∈ Path.pieces path.toList ↔ ['.'] ∈ chosen :=
    (mem_pieces_messagePath_iff hgapless hname hfile.ne_here).trans (and_iff_right (by simp))
  have hup : ['.', '.'] ∈ Path.pieces path.toList ↔ ['.', '.'] ∈ chosen :=
    (mem_pieces_messagePath_iff hgapless hname hfile.ne_up).trans (and_iff_right (by simp))
  have hdescends : Descends path ↔ ['.'] ∉ chosen ∧ ['.', '.'] ∉ chosen := by
    rw [← hhere, ← hup]
    exact ⟨fun hdown => ⟨hdown.ne_here, hdown.ne_up⟩,
      fun hboth => ⟨hrelative, hnonempty, hboth.1, hboth.2⟩⟩
  refine ⟨⟨hrelative, hnonempty⟩, hdescends, ?_, ?_⟩
  · intro hdown config hvalid origin
    exact hdown.location_join (Config.endsInName_outputRoot hvalid) origin
  · intro policy hbuild
    have hplaced : Artifact.IsPlaced ⟨path, ""⟩ :=
      Artifact.isPlaced_module hname (GroupingPolicy.directory_eq hbuild id)
    exact isPlaced_iff_descends.mp hplaced

/-- The directory that separators of both kinds stand around is below the output root. -/
theorem messagePath_descends_separators :
    let path := messagePath ((Grouping.flat.withPath 5 "/game\\player/").directory 5) "Ping"
    path = "game/player/Ping.js" ∧ Descends path ∧
      ∃ names, names ≠ [] ∧ (Config.default.outputRoot.join path).location [] =
        Config.default.outputRoot.location [] ++ names := by
  intro path
  have hname : Name.isIdentifier "Ping" = true := by decide
  obtain ⟨-, hdescends, hbelow, -⟩ :=
    messagePath_descends_iff (.withPath .flat 5 "/game\\player/") 5 hname
  have hdown : Descends path := hdescends.mpr (by decide +kernel)
  exact ⟨by decide +kernel, hdown, hbelow hdown Config.default (by decide +kernel) []⟩

/-- A chosen directory may lead up, and its module is beside the output root. -/
theorem messagePath_escapes :
    let grouping := Grouping.flat.withPath 1 ".."
    let path := messagePath (grouping.directory 1) "Ping"
    grouping.IsOffered ∧ Name.isIdentifier "Ping" = true ∧ path = "../Ping.js" ∧
      ¬ Descends path ∧ Config.default.issue? = none ∧
      (Config.default.outputRoot.join path).location [] = ["Ping.js"] ∧
      ∀ names, (Config.default.outputRoot.join path).location [] ≠
        Config.default.outputRoot.location [] ++ names := by
  intro grouping path
  have hlocation : (Config.default.outputRoot.join path).location [] = ["Ping.js"] := by
    decide +kernel
  have hroot : Config.default.outputRoot.location [] = ["jsProtocol"] := by decide +kernel
  refine ⟨.withPath .flat 1 _, by decide, by decide +kernel, ?_, by decide +kernel, hlocation, ?_⟩
  · exact fun hdown => hdown.ne_up (by decide +kernel)
  · intro names
    rw [hlocation, hroot]
    simp

end Layout

end WireScript
