import WireScript.Proofs.Kind.Division
import WireScript.Proofs.SchemaFile.Resolution

/-! # Descriptions of types

The description of a field is its type with one space for every run of blanks. It has
the words of the type, and blanks do nothing in a type but part words, so the
description is read like the type.
-/

namespace WireScript

namespace Token

/-- The tokens of some texts one after another, or the first character in them that
belongs to none. -/
def scanAll : List (List Char) → Except Char (List Token)
  | [] => .ok []
  | text :: rest => do return (← scan text) ++ (← scanAll rest)

/-- A blank parts the tokens before it from those behind it. -/
theorem scan_append_blank {c : Char} (hc : Text.isBlank c = true) (before after : List Char) :
    scan (before ++ c :: after) = do return (← scan before) ++ (← scan after) := by
  induction before using scan.induct with
  | case1 =>
      rw [List.nil_append, scan_blank hc, scan]
      cases scan after <;> rfl
  | case2 d rest token hmark ih =>
      rw [List.cons_append, scan_mark hmark, scan_mark hmark, ih]
      cases scan rest <;> cases scan after <;> rfl
  | case3 d rest _ hblank ih =>
      rw [List.cons_append, scan_blank hblank, scan_blank hblank, ih]
  | case4 d rest _ _ hchar ih =>
      obtain ⟨hsplit, hword, hend⟩ := @cons_eq_word_append d rest hchar
      have hnext : ∀ e ∈ (rest.dropWhile Text.isWordChar ++ c :: after).head?,
          Text.isWordChar e = false := by
        cases hlater : rest.dropWhile Text.isWordChar with
        | nil => simpa using Text.isWordChar_of_isBlank hc
        | cons e later => rwa [hlater] at hend
      rw [hsplit, List.append_assoc, scan_word (List.cons_ne_nil _ _) hword hnext,
        scan_word (List.cons_ne_nil _ _) hword hend, ih]
      cases scan (rest.dropWhile Text.isWordChar) <;> cases scan after <;> rfl
  | case5 d rest hmark hblank hchar =>
      rw [List.cons_append, scan, scan, hmark]
      simp [hblank, hchar, bind, Except.bind]

theorem scanAll_singleton (text : List Char) : scanAll [text] = scan text := by
  rw [scanAll, scanAll]
  cases scan text <;> simp [bind, Except.bind, pure, Except.pure]

theorem scanAll_append (first second : List (List Char)) :
    scanAll (first ++ second) = do return (← scanAll first) ++ (← scanAll second) := by
  induction first with
  | nil =>
      rw [List.nil_append, scanAll]
      cases scanAll second <;> rfl
  | cons text rest ih =>
      rw [List.cons_append, scanAll, scanAll, ih]
      cases scan text <;> cases scanAll rest <;> cases scanAll second <;>
        simp [bind, Except.bind, pure, Except.pure]

/-- Texts without a character in them have no tokens. -/
theorem scanAll_filter (texts : List (List Char)) :
    scanAll (texts.filter (fun text => !text.isEmpty)) = scanAll texts := by
  induction texts with
  | nil => rfl
  | cons text rest ih =>
      cases text with
      | nil =>
          rw [List.filter_cons_of_neg (by simp), ih, scanAll, scan]
          cases scanAll rest <;> rfl
      | cons c text => rw [List.filter_cons_of_pos (by simp), scanAll, scanAll, ih]

/-- The tokens of a text are those of the pieces between its blanks. -/
theorem scanAll_split (text : List Char) : scanAll (Text.split Text.isBlank text) = scan text := by
  by_cases hblank : ∃ c ∈ text, Text.isBlank c = true
  · obtain ⟨c, hmem, hc⟩ := hblank
    obtain ⟨before, after, rfl⟩ := List.append_of_mem hmem
    rw [Text.split_append_cons hc, scanAll_append, scanAll_split before, scanAll_split after,
      scan_append_blank hc]
  · rw [Text.split_eq_singleton, scanAll_singleton]
    intro c hc
    exact Bool.eq_false_iff.mpr fun htrue => hblank ⟨c, hc, htrue⟩
termination_by text.length
decreasing_by all_goals simp only [*, List.length_append, List.length_cons]; omega

theorem scan_intercalate_space (texts : List (List Char)) :
    scan ([' '].intercalate texts) = scanAll texts := by
  induction texts with
  | nil => rw [List.intercalate_nil, scan, scanAll]
  | cons text rest ih =>
      cases rest with
      | nil => rw [List.intercalate_singleton, scanAll_singleton]
      | cons next rest =>
          rw [List.intercalate_cons_cons, List.append_assoc, List.singleton_append,
            scan_append_blank (by decide), ih, ← scanAll]

/-- Blanks are passed over however many there are. -/
theorem scan_collapse (text : String) : scan (Text.collapse text).toList = scan text.toList := by
  have hspace : " ".toList = [' '] := rfl
  have hchars : String.toList ∘ String.ofList = id := funext fun _ => String.toList_ofList
  rw [Text.collapse, String.toList_intercalate, List.map_map, hchars, List.map_id, hspace,
    scan_intercalate_space, Text.words, scanAll_filter, scanAll_split]

end Token

/-- A type that is collapsed is the same type, or refused for the same reason. -/
theorem Kind.parse_collapse (names : Names) (text : String) :
    parse names (Text.collapse text) = parse names text := by
  rw [parse, parse, Token.scan_collapse]

theorem Kind.read_ok_iff_parse {names : Names} {text : String} {kind : Kind} :
    read names text = .ok kind ↔ parse names text = .ok kind := by
  rw [read]
  cases parse names text <;> simp

namespace SchemaFile

/-- The description of a field that was resolved is read as its kind. -/
theorem FieldMeans.read_description {names : Names} {entry : FieldEntry} {field : Field}
    (hmeans : FieldMeans names entry field) :
    Kind.read names field.description = .ok field.kind := by
  have hkind := Kind.read_ok_iff_parse.mp hmeans.kind
  rw [Kind.read_ok_iff_parse, hmeans.description, ← Text.collapse_trim, Kind.parse_collapse, hkind]

/-- A type that describes a field is read like the text it was taken from, whatever
messages there are. So the fields of a resolved file are described by types that are
read as their kinds. -/
theorem describedAs_faithful :
    (∀ (names : Names) (text : String) (field : Field) (kind : Kind),
        Kind.read names (field.describedAs text).description = .ok kind ↔
          Kind.read names text = .ok kind) ∧
      ∀ (file : SchemaFile) (resolved : ResolvedSchema), file.resolve = .ok resolved →
        ∀ message ∈ resolved.schema.messages, ∀ field ∈ message.fields,
          Kind.read file.names field.description = .ok field.kind := by
  constructor
  · intro names text field kind
    rw [Kind.read_ok_iff_parse, Kind.read_ok_iff_parse, Field.describedAs, Kind.parse_collapse]
  · intro file resolved hresolve message hmessage field hfield
    obtain ⟨entry, -, hmeans⟩ :=
      exists_of_mem_forall₂ (resolves_of_ok hresolve).messages hmessage
    obtain ⟨_, -, hfieldMeans⟩ := exists_of_mem_forall₂ hmeans.fields hfield
    exact hfieldMeans.read_description

/-- A type over several lines, with blanks of several kinds between its words. -/
theorem describedAs_faithful_wrapped :
    let text := "\n map<\u2003string,\r\n\tlist <Page\u00a0>\u3000> "
    let file : SchemaFile := ⟨[⟨4, "Page", none, [⟨"rows", text, none, true⟩]⟩]⟩
    ∃ resolved, file.resolve = .ok resolved ∧
      ∃ message ∈ resolved.schema.messages, ∃ field ∈ message.fields,
        field.description = "map< string, list <Page > >" ∧
          Kind.read file.names "map< string, list <Page > >" = .ok field.kind := by
  intro text file
  have hreadable : ∀ entry ∈ file.messages, ∀ field ∈ entry.fields,
      Readable file.names field := by
    decide +kernel
  obtain ⟨resolved, hresolve⟩ := resolve_succeeds_iff.mpr hreadable
  obtain ⟨message, _, hmessage, -, hschema⟩ :=
    List.forall₂_cons_left_iff.mp (resolves_of_ok hresolve).messages
  obtain ⟨field, _, hfield, -, hfields⟩ := List.forall₂_cons_left_iff.mp hmessage.fields
  have hmessageMem : message ∈ resolved.schema.messages := hschema ▸ List.mem_cons_self
  have hfieldMem : field ∈ message.fields := hfields ▸ List.mem_cons_self
  have hdescription : field.description = "map< string, list <Page > >" :=
    hfield.description.trans (by decide +kernel)
  have hkind := describedAs_faithful.2 file resolved hresolve message hmessageMem field hfieldMem
  rw [hdescription] at hkind
  exact ⟨resolved, hresolve, message, hmessageMem, field, hfieldMem, hdescription, hkind⟩

end SchemaFile

end WireScript
