import WireScript.Proofs.Artifact.Lines

/-! # Lines of the registry

The registry by the embedded template, line by line: the imports of the message
modules, their registrations, and literal lines that are neither. Names and
numbers are read off a line by what it begins with, so an entry that differs from
the others in its name and its number has one import and one registration.
-/

namespace WireScript

namespace Listing

/-- Lines joined by line feeds, of which there is at least one. -/
def joined (lines : List String) : List String := if lines = [] then [""] else lines

theorem ofText_intercalate {lines : List String} (hlines : ∀ line ∈ lines, '\n' ∉ line.toList) :
    ofText ("\n".intercalate lines) = joined lines := by
  induction lines with
  | nil => rfl
  | cons line lines ih =>
      obtain ⟨hline, hrest⟩ := List.forall_mem_cons.mp hlines
      cases lines with
      | nil => rw [String.intercalate_singleton, ofText_eq_singleton hline]; rfl
      | cons next lines =>
          rw [String.intercalate_cons_cons, ofText_append, ofText_eq_singleton hline, ih hrest]
          rfl

theorem filter_joined {lines : List String} {keep : String → Bool} (hempty : keep "" = false) :
    (joined lines).filter keep = lines.filter keep := by
  unfold joined
  split
  next hnil => rw [hnil, List.filter_cons_of_neg (by simp [hempty])]
  next => rfl

/-- A line begins with a word and a separator only if that word is its first. -/
theorem begins_word {start word separator : String} {c : Char}
    (hseparator : separator.toList.head? = some c) (hword : c ∉ word.toList) {other : String}
    (hother : c ∉ other.toList) (rest : String) :
    begins (start ++ word ++ separator) (start ++ other ++ separator ++ rest) =
      decide (word = other) := by
  obtain ⟨tail, htail⟩ := List.head?_eq_some_iff.mp hseparator
  have htake (text : String) (htext : c ∉ text.toList) (behind : List Char) :
      (text.toList ++ c :: behind).takeWhile (· != c) = text.toList := by
    have hkeep : ∀ d ∈ text.toList, (d != c) = true := fun d hd =>
      bne_iff_ne.mpr (fun heq => htext (heq ▸ hd))
    rw [List.takeWhile_append_of_pos hkeep]
    simp
  rw [Bool.eq_iff_iff, begins, List.isPrefixOf_iff_prefix, decide_eq_true_iff]
  constructor
  · intro hbegins
    simp only [String.toList_append, htail, List.append_assoc, List.cons_append,
      List.prefix_append_right_inj] at hbegins
    obtain ⟨behind, hsame⟩ := hbegins
    have hwords := congrArg (List.takeWhile (· != c)) hsame
    rw [List.append_assoc, List.cons_append, htake word hword, htake other hother] at hwords
    exact String.toList_inj.mp hwords
  · rintro rfl
    simp only [String.toList_append]
    exact List.prefix_append _ _

theorem begins_of_append {start rest text : String}
    (htext : begins (start ++ rest) text = true) : begins start text = true := by
  rw [begins, List.isPrefixOf_iff_prefix] at htext ⊢
  rw [String.toList_append] at htext
  exact (List.prefix_append _ _).trans htext

end Listing

open Listing

/-- Of items told apart by a key, the lines of one are those that name its key. -/
theorem filter_map_eq_singleton {α β : Type} [DecidableEq β] {key : α → β} {line : α → String}
    {keep : String → Bool} {items : List α} {item : α} (hitem : item ∈ items)
    (hnodup : (items.map key).Nodup)
    (hkeep : ∀ other ∈ items, keep (line other) = decide (key item = key other)) :
    (items.map line).filter keep = [line item] := by
  induction items with
  | nil => cases hitem
  | cons first rest ih =>
      obtain ⟨hfirst, hrest⟩ := List.forall_mem_cons.mp hkeep
      rw [List.map_cons, List.nodup_cons, List.mem_map] at hnodup
      obtain ⟨hnew, hnodup⟩ := hnodup
      rw [List.map_cons, List.filter_cons, hfirst]
      rcases List.mem_cons.mp hitem with rfl | htail
      · have hnone : (rest.map line).filter keep = [] := by
          rw [List.filter_eq_nil_iff]
          intro text htext
          obtain ⟨other, hother, rfl⟩ := List.mem_map.mp htext
          rw [hrest other hother, decide_eq_true_iff]
          exact fun hsame => hnew ⟨other, hother, hsame.symm⟩
        rw [hnone, decide_eq_true rfl]
        rfl
      · have hother : key item ≠ key first := fun hsame => hnew ⟨item, htail, hsame⟩
        rw [decide_eq_false hother, ih htail hnodup hrest]
        rfl

namespace RegistryEntry

/-- The start of a line that imports a module under a name. -/
def importStart (name : String) : String := "import " ++ name ++ " from "

/-- The start of a line that registers something under a number. -/
def registrationStart (number : String) : String := "protocols.set(" ++ number ++ ", "

theorem registrationStart_eq (number : String) :
    registrationStart number = "protocols.set(" ++ number ++ ", " :=
  rfl

/-- The path an entry is imported from. -/
def path (entry : RegistryEntry) : String :=
  if Text.isBlankText entry.directory then entry.name ++ ".js"
  else entry.directory ++ "/" ++ entry.name ++ ".js"

/-- Whether some lines register one name under a number, and do it once. -/
def RegistersOnce (lines : List String) (number name : String) : Prop :=
  lines.filter (begins (registrationStart number)) = [registrationStart number ++ (name ++ ");")]

/-- Whether some lines import a name from one path, and do it once. -/
def ImportsOnce (lines : List String) (name path : String) : Prop :=
  lines.filter (begins (importStart name)) = [importStart name ++ ("'./" ++ path ++ "';")]

theorem importStatement_eq (entry : RegistryEntry) :
    entry.importStatement = importStart entry.name ++ ("'./" ++ entry.path ++ "';") := by
  unfold importStatement path importStart
  split <;> simp only [String.append_assoc] <;> rfl

theorem registration_eq (entry : RegistryEntry) :
    entry.registration =
      registrationStart (Text.decimal entry.id.toNat) ++ (entry.name ++ ");") :=
  String.append_assoc

/-- An entry whose statements are on lines of their own. -/
structure IsPlain (entry : RegistryEntry) : Prop where
  name : IsWord entry.name
  directory : '\n' ∉ entry.directory.toList

theorem notMem_decimal {c : Char} (hc : c.isDigit = false) (number : Nat) :
    c ∉ (Text.decimal number).toList := by
  intro hmem
  rw [Text.isDigit_of_mem_decimal hmem] at hc
  cases hc

/-- Lines that register something begin differently from those that import. -/
theorem begins_protocols {number line : String}
    (hline : begins (registrationStart number) line = true) :
    begins "protocols.set(" line = true := by
  have hstart : registrationStart number = "protocols.set(" ++ (number ++ ", ") :=
    String.append_assoc
  rw [hstart] at hline
  exact begins_of_append hline

theorem begins_import {name line : String} (hline : begins (importStart name) line = true) :
    begins "import " line = true := by
  have hstart : importStart name = "import " ++ (name ++ " from ") := String.append_assoc
  rw [hstart] at hline
  exact begins_of_append hline

/-- Lines that all begin with one character have none that begins with another. -/
theorem filter_map_eq_nil {entries : List RegistryEntry} {line : RegistryEntry → String}
    {keep : String → Bool} {start : String} {c : Char}
    (hkeep : ∀ {text}, keep text = true → begins start text = true)
    (hline : ∀ entry, (line entry).toList.head? = some c)
    (hstart : start.toList.head?.any (· != c) = true) : (entries.map line).filter keep = [] := by
  rw [List.filter_eq_nil_iff]
  intro text htext hkept
  obtain ⟨entry, -, rfl⟩ := List.mem_map.mp htext
  have hbegins := hkeep hkept
  rw [begins_eq_false (hline entry) hstart] at hbegins
  cases hbegins

/-- No import looks like a registration. -/
theorem filter_imports_eq_nil {entries : List RegistryEntry} {keep : String → Bool}
    (hkeep : ∀ {line}, keep line = true → begins "protocols.set(" line = true) :
    (entries.map importStatement).filter keep = [] :=
  filter_map_eq_nil (c := 'i') hkeep
    (fun entry => by simp [importStatement_eq, importStart]) (by simp)

/-- No registration looks like an import. -/
theorem filter_registrations_eq_nil {entries : List RegistryEntry} {keep : String → Bool}
    (hkeep : ∀ {line}, keep line = true → begins "import " line = true) :
    (entries.map registration).filter keep = [] :=
  filter_map_eq_nil (c := 'p') hkeep
    (fun entry => by simp [registration_eq, registrationStart_eq]) (by simp)

/-- A registration begins with the number of its entry and with no other. -/
theorem begins_registration (number : Nat) (entry : RegistryEntry) :
    begins (registrationStart (Text.decimal number)) entry.registration =
      decide (Text.decimal number = Text.decimal entry.id.toNat) := by
  rw [registration_eq, registrationStart_eq, registrationStart_eq]
  exact begins_word (c := ',') (by simp) (notMem_decimal (by decide) _)
    (notMem_decimal (by decide) _) _

/-- An import begins with the name of its entry and with no other. -/
theorem IsPlain.begins_importStatement {entry : RegistryEntry} (hplain : entry.IsPlain)
    {name : String} (hname : ' ' ∉ name.toList) :
    begins (importStart name) entry.importStatement = decide (name = entry.name) := by
  rw [importStatement_eq]
  exact begins_word (c := ' ') (by simp) hname (hplain.name.notMem (by decide)) _

theorem IsPlain.importStatement_plain {entry : RegistryEntry} (hplain : entry.IsPlain) :
    '\n' ∉ entry.importStatement.toList := by
  have hname := hplain.name.notMem (c := '\n') (by decide)
  have hdirectory := hplain.directory
  unfold importStatement
  split <;> simp [hname, hdirectory]

theorem IsPlain.registration_plain {entry : RegistryEntry} (hplain : entry.IsPlain) :
    '\n' ∉ entry.registration.toList := by
  have hname := hplain.name.notMem (c := '\n') (by decide)
  have hnumber := notMem_decimal (c := '\n') (by decide) entry.id.toNat
  rw [registration_eq, registrationStart_eq]
  simp [hname, hnumber]

end RegistryEntry

/-- A line that is neither an import nor a registration. -/
def Listing.isLiteral (line : String) : Bool :=
  !line.toList.contains '\n' && !begins "import " line && !begins "protocols.set(" line

namespace TemplateSet

open RegistryEntry

/-- The registry line by line: the imports and the registrations of its entries
among literal lines. -/
theorem registry_lines {entries : List RegistryEntry} (hplain : ∀ entry ∈ entries, entry.IsPlain) :
    ∃ text between behind, embedded.renderRegistry entries = .ok text ∧
      ofText text = joined (entries.map importStatement) ++
        (between ++ (joined (entries.map registration) ++ behind)) ∧
      (between ++ behind).all isLiteral = true := by
  have harity : Template.embeddedRegistry.placeholders = 2 := rfl
  have hhead : Template.embeddedRegistry.head = "" := rfl
  obtain ⟨table, manager, htail, htable, hmanager⟩ : ∃ table manager,
      Template.embeddedRegistry.tail = ["\n" ++ table ++ "\n", Text.paragraph ("" :: manager)] ∧
        (ofText table).all isLiteral = true ∧ manager.all isLiteral = true :=
    ⟨"\nconst protocols = new Map();\n\n// initProtocol", _, rfl, by decide +kernel,
      by decide +kernel⟩
  have hlines : ∀ line ∈ manager, '\n' ∉ line.toList := by
    intro line hline
    have hliteral := List.all_eq_true.mp hmanager line hline
    simp only [isLiteral, Bool.and_eq_true, Bool.not_eq_true', List.contains_eq_mem,
      decide_eq_false_iff_not] at hliteral
    exact hliteral.1.1
  have himports : ∀ line ∈ entries.map importStatement, '\n' ∉ line.toList :=
    List.forall_mem_map.mpr fun entry hentry => (hplain entry hentry).importStatement_plain
  have hregistrations : ∀ line ∈ entries.map registration, '\n' ∉ line.toList :=
    List.forall_mem_map.mpr fun entry hentry => (hplain entry hentry).registration_plain
  have htext : Template.embeddedRegistry.fill
      ["\n".intercalate (entries.map importStatement),
        "\n".intercalate (entries.map registration)] =
      "\n".intercalate (entries.map importStatement) ++ "\n" ++ (table ++ "\n" ++
        ("\n".intercalate (entries.map registration) ++ "\n" ++ Text.paragraph manager)) := by
    rw [Template.fill, htail, hhead]
    simp only [List.zipWith_cons_cons, List.zipWith_nil_left, String.join_cons, String.join_nil,
      Text.paragraph_cons, String.append_assoc, String.append_empty, String.empty_append]
  refine ⟨_, ofText table, manager ++ [""], Template.render_eq_ok harity, ?_, ?_⟩
  · rw [embedded, htext, ofText_append, ofText_append, ofText_append, ofText_intercalate himports,
      ofText_intercalate hregistrations, ofText_paragraph hlines]
  · rw [List.all_append, List.all_append, htable, hmanager]
    decide

/-- The lines of the registry that look like an import or a registration are those
of its entries. -/
theorem filter_registry {entries : List RegistryEntry} (hplain : ∀ entry ∈ entries, entry.IsPlain) :
    ∃ text, embedded.renderRegistry entries = .ok text ∧
      ∀ keep : String → Bool,
        (∀ line, keep line = true →
          begins "import " line = true ∨ begins "protocols.set(" line = true) →
        (ofText text).filter keep =
          (entries.map importStatement).filter keep ++
            (entries.map registration).filter keep := by
  obtain ⟨text, between, behind, htext, hlines, hliteral⟩ := registry_lines hplain
  refine ⟨text, htext, ?_⟩
  intro keep hstarts
  have hkeep (line : String) (hline : isLiteral line = true) : keep line = false := by
    simp only [isLiteral, Bool.and_eq_true, Bool.not_eq_true'] at hline
    rw [Bool.eq_false_iff]
    intro hkept
    rcases hstarts line hkept with hstart | hstart
    · rw [hline.1.2] at hstart
      cases hstart
    · rw [hline.2] at hstart
      cases hstart
  have hnone : (between ++ behind).filter keep = [] := by
    rw [List.filter_eq_nil_iff]
    intro line hline
    rw [hkeep line (List.all_eq_true.mp hliteral line hline)]
    exact Bool.false_ne_true
  rw [List.filter_append, List.append_eq_nil_iff] at hnone
  have hempty := hkeep "" (by decide)
  simp only [hlines, List.filter_append, filter_joined hempty, hnone.1, hnone.2, List.nil_append,
    List.append_nil]

/-- Entries with different names and numbers have one import and one registration
each, and nothing else is registered. -/
theorem registry_of_entries {entries : List RegistryEntry}
    (hplain : ∀ entry ∈ entries, entry.IsPlain)
    (hids : (entries.map RegistryEntry.id).Nodup) (hnames : (entries.map name).Nodup) :
    ∃ text, embedded.renderRegistry entries = .ok text ∧
      (∀ entry ∈ entries,
        RegistersOnce (ofText text) (Text.decimal entry.id.toNat) entry.name ∧
          ImportsOnce (ofText text) entry.name entry.path) ∧
      ∀ line ∈ ofText text, begins "protocols.set(" line = true →
        ∃ entry ∈ entries, line = entry.registration := by
  obtain ⟨text, htext, hfilter⟩ := filter_registry hplain
  refine ⟨text, htext, ?_, ?_⟩
  · intro entry hentry
    have hspace := (hplain entry hentry).name.notMem (c := ' ') (by decide)
    constructor
    · rw [RegistersOnce, hfilter _ fun _ hline => .inr (begins_protocols hline),
        filter_imports_eq_nil begins_protocols, List.nil_append, ← registration_eq]
      refine filter_map_eq_singleton hentry hids fun other _ => ?_
      rw [begins_registration, decide_eq_decide, Text.decimal_inj, UInt16.toNat_inj]
    · rw [ImportsOnce, hfilter _ fun _ hline => .inl (begins_import hline),
        filter_registrations_eq_nil begins_import, List.append_nil, ← importStatement_eq]
      exact filter_map_eq_singleton hentry hnames fun other hother =>
        (hplain other hother).begins_importStatement hspace
  · intro line hline hbegins
    have hkept := List.mem_filter.mpr ⟨hline, hbegins⟩
    rw [hfilter _ fun _ hstart => .inr hstart, filter_imports_eq_nil id, List.nil_append,
      List.mem_filter, List.mem_map] at hkept
    obtain ⟨⟨entry, hentry, hsame⟩, -⟩ := hkept
    exact ⟨entry, hentry, hsame.symm⟩

end TemplateSet

end WireScript
