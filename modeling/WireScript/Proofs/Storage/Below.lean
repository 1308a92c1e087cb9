import WireScript.Proofs.Storage.Changes

/-! # Paths below a directory

Joining and taking the parent work on the text of a path. For names that stand
for themselves below a path that ends in such a name, both agree with the steps:
joining adds steps at the end, and the parent lacks the last one.
-/

namespace WireScript

/-- A piece of a path that stands for an entry of its directory. -/
structure IsName (name : String) : Prop where
  nonempty : name.toList ≠ []
  separated : '/' ∉ name.toList
  ne_here : name.toList ≠ ['.']
  ne_up : name.toList ≠ ['.', '.']

theorem IsName.head?_ne {name : String} (hname : IsName name) : name.toList.head? ≠ some '/' :=
  fun hhead => hname.separated (List.mem_of_head? hhead)

namespace Path

/-- The ways to join a child that does not start at the root. -/
theorem join_cases (path : Path) {child : String} (hchild : child.toList.head? ≠ some '/') :
    path.text = "" ∧ path.join child = ⟨child⟩ ∨
      path.text.toList.getLast? = some '/' ∧ path.join child = ⟨path.text ++ child⟩ ∨
        (∃ last, path.text.toList.getLast? = some last ∧ last ≠ '/') ∧
          path.join child = ⟨path.text ++ "/" ++ child⟩ := by
  unfold join
  split
  next heq => exact absurd (heq ▸ rfl) hchild
  next hempty _ => exact .inl ⟨String.toList_inj.mp (List.getLast?_eq_none_iff.mp hempty), rfl⟩
  next hslash _ => exact .inr (.inl ⟨hslash, rfl⟩)
  next last hother hlast _ => exact .inr (.inr ⟨⟨last, hlast, hother⟩, rfl⟩)

/-- A path with further names behind it. -/
def below (path : Path) (names : List String) : Path :=
  names.foldl (fun path name => ⟨path.text ++ "/" ++ name⟩) path

/-- A path whose text ends in a name. -/
def EndsInName (path : Path) : Prop :=
  ∃ front name, IsName name ∧ path.text = front ++ name ∧
    (front = "" ∨ front.toList.getLast? = some '/')

theorem below_append (path : Path) (first second : List String) :
    path.below (first ++ second) = (path.below first).below second :=
  List.foldl_append

theorem pieces_eq_splitOn (text : List Char) : pieces text = text.splitOn '/' := by
  rw [pieces, Text.split_eq_splitOnP, List.splitOn_eq_splitOnP]

theorem pieces_append_cons (before after : List Char) :
    pieces (before ++ '/' :: after) = pieces before ++ pieces after :=
  Text.split_append_cons rfl before after

/-- A text without separators is its only piece. -/
theorem pieces_eq_singleton {text : List Char} (htext : '/' ∉ text) : pieces text = [text] :=
  Text.split_eq_singleton fun _ hc => beq_false_of_ne fun heq => htext (heq ▸ hc)

/-- Names with separators between them are the pieces of the text. -/
theorem pieces_intercalate {names : List String} (hsome : names ≠ [])
    (hnames : ∀ name ∈ names, '/' ∉ name.toList) :
    pieces ("/".intercalate names).toList = names.map String.toList := by
  rw [String.toList_intercalate, pieces_eq_splitOn]
  refine List.splitOn_intercalate '/' ?_ (by simpa using hsome)
  intro piece hpiece
  obtain ⟨name, hname, rfl⟩ := List.mem_map.mp hpiece
  exact hnames name hname

theorem pieces_name {name : String} (hname : IsName name) :
    (pieces name.toList).filterMap step? = [.name name.toList] := by
  have hstep : step? name.toList = some (.name name.toList) := by
    have hfirst : ¬ (name.toList = [] || name.toList = ['.']) = true := by
      simp [hname.nonempty, hname.ne_here]
    rw [step?, if_neg hfirst, if_neg hname.ne_up]
  rw [pieces_eq_singleton hname.separated, List.filterMap_cons, hstep]
  rfl

theorem start_cons_cons (c d : Char) (first second : List Char) :
    start (c :: d :: first) = start (c :: d :: second) := by
  by_cases hc : c = '/'
  · rw [hc]
    rfl
  · by_cases hroot : c = '.' ∧ d = '/'
    · rw [hroot.1, hroot.2]
      rfl
    · have hnone (rest : List Char) : start (c :: d :: rest) = [] := by
        unfold start
        split <;> simp_all
      rw [hnone, hnone]

/-- What stands in front of the steps is known from the first two characters. -/
theorem start_append {text : List Char} (htext : text ≠ []) (more : List Char) :
    start (text ++ '/' :: more) = start text := by
  match text with
  | [] => exact absurd rfl htext
  | [c] =>
      by_cases hc : c = '/' ∨ c = '.'
      · rcases hc with rfl | rfl <;> rfl
      · rw [not_or] at hc
        unfold start
        split <;> simp_all
  | c :: d :: rest => exact start_cons_cons c d (rest ++ '/' :: more) rest

/-- A name behind a path is one more step. -/
theorem components_child {path : Path} (hpath : path.text.toList ≠ []) {name : String}
    (hname : IsName name) :
    components ⟨path.text ++ "/" ++ name⟩ = path.components ++ [.name name.toList] := by
  have htext : (path.text ++ "/" ++ name).toList = path.text.toList ++ '/' :: name.toList := by
    simp
  rw [components, components, htext, start_append hpath, pieces,
    Text.split_append_cons (by rfl), List.filterMap_append, List.append_assoc]
  exact congrArg _ (congrArg _ (pieces_name hname))

namespace EndsInName

variable {path : Path}

theorem text_ne_nil (hpath : path.EndsInName) : path.text.toList ≠ [] := by
  obtain ⟨front, name, hname, htext, -⟩ := hpath
  simp [htext, hname.nonempty]

theorem child (path : Path) {name : String} (hname : IsName name) :
    EndsInName ⟨path.text ++ "/" ++ name⟩ :=
  ⟨path.text ++ "/", name, hname, rfl, .inr (by simp)⟩

theorem below (hpath : path.EndsInName) {names : List String}
    (hnames : ∀ name ∈ names, IsName name) : (path.below names).EndsInName := by
  induction names generalizing path with
  | nil => exact hpath
  | cons name names ih =>
      obtain ⟨hname, hrest⟩ := List.forall_mem_cons.mp hnames
      exact ih (child path hname) hrest

/-- The last character of a name is not dropped from the back of a text. -/
theorem reverse_eq (hpath : path.EndsInName) :
    ∃ last rest, path.text.toList.reverse = last :: rest ∧ last ≠ '/' ∧
      dropTrailing (last :: rest) = last :: rest := by
  obtain ⟨front, name, hname, htext, -⟩ := hpath
  have hreverse : path.text.toList.reverse = name.toList.reverse ++ front.toList.reverse := by
    simp [htext]
  have hmem : ∀ c ∈ name.toList.reverse, c ≠ '/' := by
    intro c hc heq
    rw [heq, List.mem_reverse] at hc
    exact hname.separated hc
  -- what is dropped from the back is a separator, or `.` behind one
  match hlist : name.toList.reverse with
  | [] => exact absurd (List.reverse_eq_nil_iff.mp hlist) hname.nonempty
  | [last] =>
      have hlast : last ≠ '/' := hmem last (by simp [hlist])
      have hhere : last ≠ '.' := by
        rintro rfl
        exact hname.ne_here (by rw [← List.reverse_reverse name.toList, hlist]; rfl)
      refine ⟨last, _, by rw [hreverse, hlist]; rfl, hlast, ?_⟩
      unfold dropTrailing
      split <;> simp_all
  | last :: next :: rest =>
      have hlast : last ≠ '/' := hmem last (by simp [hlist])
      have hnext : next ≠ '/' := hmem next (by simp [hlist])
      refine ⟨last, _, by rw [hreverse, hlist]; rfl, hlast, ?_⟩
      unfold dropTrailing
      split <;> simp_all

/-- The parent of a name behind a path is the path. -/
theorem parent?_child (hpath : path.EndsInName) {name : String} (hname : IsName name) :
    parent? ⟨path.text ++ "/" ++ name⟩ = some path := by
  obtain ⟨last, rest, hreverse, hlast, hdrop⟩ := (child path hname).reverse_eq
  obtain ⟨last', rest', hreverse', -, hdrop'⟩ := hpath.reverse_eq
  have hwhole : last :: rest = name.toList.reverse ++ '/' :: last' :: rest' := by
    rw [← hreverse, ← hreverse']
    simp
  have hrest : (last :: rest).dropWhile (· != '/') = '/' :: last' :: rest' := by
    rw [hwhole, List.dropWhile_append_of_pos]
    · rfl
    · intro c hc
      rw [bne_iff_ne]
      rintro rfl
      exact hname.separated (List.mem_reverse.mp hc)
  have hparent : dropTrailing ('/' :: last' :: rest') = path.text.toList.reverse := by
    rw [dropTrailing, hdrop', hreverse']
    simp
  unfold parent?
  rw [hreverse, hdrop]
  split
  next heq => cases heq
  next heq =>
    obtain ⟨rfl, -⟩ := List.cons.inj heq
    exact absurd rfl hlast
  next =>
    rw [hrest, hparent, List.reverse_reverse, String.ofList_toList]

theorem parent?_below (hpath : path.EndsInName) {names : List String} {last : String}
    (hnames : ∀ name ∈ names, IsName name) (hlast : IsName last) :
    (path.below (names ++ [last])).parent? = some (path.below names) := by
  rw [below_append]
  exact (hpath.below hnames).parent?_child hlast

theorem components_below (hpath : path.EndsInName) {names : List String}
    (hnames : ∀ name ∈ names, IsName name) :
    (path.below names).components =
      path.components ++ names.map (fun name => .name name.toList) := by
  induction names generalizing path with
  | nil => exact (List.append_nil _).symm
  | cons name names ih =>
      obtain ⟨hname, hrest⟩ := List.forall_mem_cons.mp hnames
      have hbelow := ih (child path hname) hrest
      rw [components_child hpath.text_ne_nil hname, List.append_assoc] at hbelow
      exact hbelow

theorem text_below (path : Path) {names : List String} (hsome : names ≠ []) :
    (path.below names).text = path.text ++ "/" ++ "/".intercalate names := by
  induction names generalizing path with
  | nil => exact absurd rfl hsome
  | cons name names ih =>
      cases names with
      | nil =>
          rw [String.intercalate_singleton]
          rfl
      | cons next names =>
          have hrest := ih ⟨path.text ++ "/" ++ name⟩ (List.cons_ne_nil _ _)
          rw [String.intercalate_cons_cons, ← String.append_assoc, ← String.append_assoc]
          exact hrest

theorem head?_intercalate_ne {names : List String} (hsome : names ≠ [])
    (hnames : ∀ name ∈ names, IsName name) :
    ("/".intercalate names).toList.head? ≠ some '/' := by
  obtain ⟨name, names, rfl⟩ := List.exists_cons_of_ne_nil hsome
  have hname := hnames name List.mem_cons_self
  have hhead := hname.head?_ne
  obtain ⟨c, cs, hlist⟩ := List.exists_cons_of_ne_nil hname.nonempty
  cases names with
  | nil => rwa [String.intercalate_singleton]
  | cons next names => simpa [String.intercalate_cons_cons, hlist] using hhead

/-- Names joined by separators are joined to a path as its last steps. -/
theorem join_eq_below (hpath : path.EndsInName) {names : List String} (hsome : names ≠ [])
    (hnames : ∀ name ∈ names, IsName name) :
    path.join ("/".intercalate names) = path.below names := by
  rcases path.join_cases (head?_intercalate_ne hsome hnames) with
    ⟨hempty, -⟩ | ⟨hslash, -⟩ | ⟨-, hjoin⟩
  · exact absurd (congrArg String.toList hempty) hpath.text_ne_nil
  · obtain ⟨last, rest, hreverse, hlast, -⟩ := hpath.reverse_eq
    rw [List.getLast?_eq_head?_reverse, hreverse] at hslash
    exact absurd (Option.some.inj hslash) hlast
  · rw [hjoin, ← text_below path hsome]

end EndsInName

theorem destination_names (location : Location) (names : List String) :
    destination location (names.map (fun name => .name name.toList)) = location ++ names := by
  induction names generalizing location with
  | nil => simp [destination]
  | cons name names ih =>
      have hrest := ih (location ++ [name])
      rw [List.append_assoc, List.singleton_append] at hrest
      rw [← hrest, List.map_cons]
      simp [destination, arrive]

/-- Names lead through the locations of their beginnings. -/
theorem mem_ways_names {location place : Location} {names : List String} :
    place ∈ WireScript.ways location (names.map (fun name => .name name.toList)) ↔
      ∃ first, first ≠ [] ∧ first <+: names ∧ place = location ++ first := by
  induction names generalizing location with
  | nil =>
      simp only [List.map_nil, WireScript.ways, List.not_mem_nil, false_iff]
      intro hboth
      obtain ⟨first, hfirst, hbegins, -⟩ := hboth
      exact hfirst (List.prefix_nil.mp hbegins)
  | cons name names ih =>
      rw [List.map_cons, WireScript.ways, List.mem_cons, ih, arrive, String.ofList_toList]
      constructor
      · rintro (rfl | ⟨first, hfirst, hbegins, rfl⟩)
        · exact ⟨[name], by simp, by simp, rfl⟩
        · exact ⟨name :: first, by simp, by simpa using hbegins, by simp⟩
      · intro hboth
        obtain ⟨first, hfirst, hbegins, rfl⟩ := hboth
        obtain ⟨head, rest, rfl⟩ := List.exists_cons_of_ne_nil hfirst
        obtain ⟨rfl, hrest⟩ := List.cons_prefix_cons.mp hbegins
        by_cases hnil : rest = []
        · exact .inl (by rw [hnil])
        · exact .inr ⟨rest, hnil, hrest, by simp⟩

namespace EndsInName

variable {path : Path}

theorem location_below (hpath : path.EndsInName) {names : List String}
    (hnames : ∀ name ∈ names, IsName name) (origin : Location) :
    (path.below names).location origin = path.location origin ++ names := by
  rw [location, hpath.components_below hnames, destination_append, destination_names]
  rfl

theorem exists_components (hpath : path.EndsInName) :
    ∃ steps name, path.components = steps ++ [.name name] := by
  obtain ⟨front, name, hname, htext, hfront⟩ := hpath
  have hpieces : ∃ before, (pieces path.text.toList).filterMap step? =
      before ++ [.name name.toList] := by
    rw [htext]
    rcases hfront with rfl | hlast
    · exact ⟨[], by rw [String.empty_append, pieces_name hname]; rfl⟩
    · obtain ⟨before, hbefore⟩ := List.getLast?_eq_some_iff.mp hlast
      refine ⟨(pieces before).filterMap step?, ?_⟩
      rw [String.toList_append, hbefore, List.append_assoc, List.singleton_append, pieces,
        Text.split_append_cons (by rfl), List.filterMap_append]
      exact congrArg _ (pieces_name hname)
  obtain ⟨before, hbefore⟩ := hpieces
  exact ⟨start path.text.toList ++ before, name.toList, by
    rw [components, hbefore, List.append_assoc]⟩

theorem location_mem_ways (hpath : path.EndsInName) (origin : Location) :
    path.location origin ∈ path.ways origin := by
  apply destination_mem_ways
  obtain ⟨steps, name, hcomponents⟩ := hpath.exists_components
  rw [hcomponents]
  simp

/-- The way to a path below another passes that one, then the beginnings of the names. -/
theorem mem_ways_below (hpath : path.EndsInName) {names : List String}
    (hnames : ∀ name ∈ names, IsName name) {origin place : Location} :
    place ∈ (path.below names).ways origin ↔
      place ∈ path.ways origin ∨
        ∃ first, first <+: names ∧ place = path.location origin ++ first := by
  rw [ways, hpath.components_below hnames, ways_append, List.mem_append, mem_ways_names]
  constructor
  · rintro (hway | ⟨first, -, hbegins, hplace⟩)
    · exact .inl hway
    · exact .inr ⟨first, hbegins, hplace⟩
  · rintro (hway | ⟨first, hbegins, rfl⟩)
    · exact .inl hway
    · by_cases hnil : first = []
      · rw [hnil, List.append_nil]
        exact .inl (hpath.location_mem_ways origin)
      · exact .inr ⟨first, hnil, hbegins, rfl⟩

end EndsInName

end Path

end WireScript
