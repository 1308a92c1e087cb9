import Mathlib.Data.List.Infix
import WireScript.Template.Embedded

/-! # Texts of templates

A text is taken apart at its markers and nowhere else, so the segments between them
and the text determine each other. Filling a template puts the values between the
segments as they are, markers in a value among them.
-/

namespace WireScript

namespace Template

/-- Whether there is a marker in a text. -/
def IsMarked (text : List Char) : Prop := marker.toList <:+: text

/-- The number of places where a brace that opens is followed by one that closes. -/
def markerCount (text : List Char) : Nat := (text.zip text.tail).count ('\x7b', '\x7d')

/-- Segments with values between them. -/
def alternate : List String → List String → List String
  | segment :: segments, value :: values => segment :: value :: alternate segments values
  | segments, _ => segments

section Segments

variable {c : Char} {text first : List Char} {others : List (List Char)}

/-- Whether a character begins a marker, given the text behind it. -/
def OpensMarker (c : Char) (text : List Char) : Prop :=
  c = '\x7b' ∧ text.head? = some '\x7d'

theorem isMarked_cons_iff : IsMarked (c :: text) ↔ OpensMarker c text ∨ IsMarked text := by
  have hmarker : marker.toList = ['\x7b', '\x7d'] := rfl
  have hhead : ['\x7d'] <+: text ↔ text.head? = some '\x7d' := by
    cases text <;> simp [eq_comm]
  rw [IsMarked, List.infix_cons_iff, hmarker, List.cons_prefix_cons, hhead, eq_comm (a := '\x7b')]
  rfl

theorem markerCount_cons_of_not (hc : ¬ OpensMarker c text) :
    markerCount (c :: text) = markerCount text := by
  cases text with
  | nil => rfl
  | cons d text =>
      have hpair : (c, d) ≠ ('\x7b', '\x7d') := by
        rintro ⟨⟩
        exact hc ⟨rfl, rfl⟩
      simp [markerCount, hpair]

/-- The segments of a text as one list. -/
def pieces (text : List Char) : List (List Char) := (segments text).1 :: (segments text).2

theorem pieces_marker (text : List Char) :
    pieces ('\x7b' :: '\x7d' :: text) = [] :: pieces text := by
  rw [pieces, segments]
  rfl

/-- A character that begins no marker belongs to the first segment. -/
theorem pieces_cons (hc : ¬ OpensMarker c text) (htext : pieces text = first :: others) :
    pieces (c :: text) = (c :: first) :: others := by
  rw [pieces, List.cons.injEq] at htext
  obtain ⟨rfl, rfl⟩ := htext
  rw [pieces, segments]
  · rfl
  · rintro rest rfl rfl
    exact hc ⟨rfl, rfl⟩

/-- Texts are made from their ends by markers and characters that begin none. -/
theorem markers_induction {motive : List Char → Prop} (text : List Char) (nil : motive [])
    (marker : ∀ rest, motive rest → motive ('\x7b' :: '\x7d' :: rest))
    (cons : ∀ c rest, ¬ OpensMarker c rest → motive rest → motive (c :: rest)) :
    motive text := by
  induction text using segments.induct with
  | case1 => exact nil
  | case2 rest _ _ _ ih => exact marker rest ih
  | case3 c rest hc ih =>
      refine cons c rest ?_ ih
      rintro ⟨rfl, hrest⟩
      obtain ⟨after, hafter⟩ := List.head?_eq_some_iff.mp hrest
      exact hc after rfl hafter

theorem intercalate_cons (c : Char) (first : List Char) (others : List (List Char)) :
    marker.toList.intercalate ((c :: first) :: others) =
      c :: marker.toList.intercalate (first :: others) := by
  cases others <;> simp

/-- The markers between the segments are those of the text. -/
theorem intercalate_pieces (text : List Char) :
    marker.toList.intercalate (pieces text) = text := by
  induction text using markers_induction with
  | nil => rfl
  | marker rest ih =>
      rw [pieces_marker, pieces, List.intercalate_cons_cons, ← pieces, ih]
      rfl
  | cons c rest hc ih => rw [pieces_cons hc rfl, intercalate_cons, ← pieces, ih]

/-- There are as many segments behind the first as there are markers. -/
theorem length_pieces (text : List Char) : (pieces text).length = markerCount text + 1 := by
  induction text using markers_induction with
  | nil => rfl
  | marker rest ih =>
      have hbrace : ¬ OpensMarker '\x7d' rest := by rintro ⟨⟨⟩, -⟩
      have hcount : markerCount ('\x7b' :: '\x7d' :: rest) = markerCount ('\x7d' :: rest) + 1 := by
        simp [markerCount]
      rw [pieces_marker, List.length_cons, ih, hcount, markerCount_cons_of_not hbrace]
  | cons c rest hc ih =>
      rw [pieces_cons hc rfl, List.length_cons, ← List.length_cons, ← pieces, ih,
        markerCount_cons_of_not hc]

/-- A segment ends before the first marker behind it. -/
theorem pieces_append_marker (htext : ¬ IsMarked text) (rest : List Char) :
    pieces (text ++ marker.toList ++ rest) = text :: pieces rest := by
  induction text with
  | nil => exact pieces_marker rest
  | cons c text ih =>
      rw [isMarked_cons_iff, not_or] at htext
      obtain ⟨hc, htext⟩ := htext
      refine pieces_cons ?_ (ih htext)
      rintro ⟨rfl, hhead⟩
      cases text with
      | nil => cases hhead
      | cons d text => exact hc ⟨rfl, hhead⟩

theorem pieces_eq_singleton (htext : ¬ IsMarked text) : pieces text = [text] := by
  induction text with
  | nil => rfl
  | cons c text ih =>
      rw [isMarked_cons_iff, not_or] at htext
      exact pieces_cons htext.1 (ih htext.2)

/-- Segments without a marker are those of the text they are joined to. -/
theorem pieces_intercalate {texts : List (List Char)} (hne : texts ≠ [])
    (htexts : ∀ text ∈ texts, ¬ IsMarked text) :
    pieces (marker.toList.intercalate texts) = texts := by
  induction texts with
  | nil => exact absurd rfl hne
  | cons text others ih =>
      obtain ⟨htext, hothers⟩ := List.forall_mem_cons.mp htexts
      cases others with
      | nil => rw [List.intercalate_singleton, pieces_eq_singleton htext]
      | cons next others =>
          rw [List.intercalate_cons_cons, pieces_append_marker htext, ih (by simp) hothers]

end Segments

theorem ofText_of_pieces {name text head : String} {tail : List String}
    (hpieces : pieces text.toList = (head :: tail).map String.toList) :
    ofText name text = ⟨name, head, tail⟩ := by
  rw [pieces, List.map_cons, List.cons.injEq] at hpieces
  obtain ⟨hhead, htail⟩ := hpieces
  simp [ofText, hhead, htail, Function.comp_def]

theorem placeholders_ofText (name text : String) :
    (ofText name text).placeholders = markerCount text.toList := by
  have hlength := length_pieces text.toList
  rw [pieces, List.length_cons, Nat.add_right_cancel_iff] at hlength
  rw [← hlength]
  exact List.length_map _

/-- The text of a template is the one it was made from. -/
theorem text_ofText (name text : String) : (ofText name text).text = text := by
  have hchars : String.toList ∘ String.ofList = id := funext fun _ => String.toList_ofList
  have hsegments : ((ofText name text).head :: (ofText name text).tail).map String.toList =
      pieces text.toList := by
    simp [ofText, pieces, hchars]
  apply String.toList_inj.mp
  rw [Template.text, String.toList_intercalate, hsegments, intercalate_pieces]

/-- Values are put behind the segments they follow. -/
theorem fill_eq_alternate {name head : String} {tail values : List String}
    (hvalues : values.length = tail.length) :
    fill ⟨name, head, tail⟩ values = String.join (alternate (head :: tail) values) := by
  induction tail generalizing head values with
  | nil =>
      obtain rfl := List.length_eq_zero_iff.mp hvalues
      rfl
  | cons segment tail ih =>
      obtain ⟨value, values, rfl⟩ := List.exists_cons_of_length_eq_add_one hvalues
      have hrest := @ih segment values (Nat.succ.inj hvalues)
      rw [fill] at hrest
      rw [fill, alternate, List.zipWith_cons_cons, String.join_cons, String.join_cons,
        String.join_cons, String.join_cons, ← hrest, String.join_cons, String.append_assoc]

/-- Filling in the markers themselves gives the text of the template. -/
theorem fill_markers (template : Template) :
    template.fill (List.replicate template.placeholders marker) = template.text := by
  obtain ⟨name, head, tail⟩ := template
  rw [fill, Template.text, placeholders]
  induction tail generalizing head with
  | nil => simp
  | cons segment tail ih =>
      have hrest := ih segment
      rw [String.join_cons] at hrest ⊢
      rw [List.length_cons, List.replicate_succ, List.zipWith_cons_cons, String.join_cons,
        String.intercalate_cons_cons, ← hrest]
      simp only [String.append_assoc]

theorem render_eq_ok {template : Template} {values : List String}
    (hvalues : template.placeholders = values.length) :
    template.render values = .ok (template.fill values) := by
  rw [render, checkArity, if_pos hvalues]
  rfl

theorem render_eq_error {template : Template} {values : List String}
    (hvalues : template.placeholders ≠ values.length) :
    template.render values =
      .error (.placeholderMismatch template.name template.placeholders values.length) := by
  rw [render, checkArity, if_neg hvalues]
  rfl

/-- A text without a segment before its first marker is empty. -/
theorem ofText_intercalate (name : String) {segments : List String}
    (hsegments : ∀ segment ∈ segments, ¬ IsMarked segment.toList) :
    ofText name (marker.intercalate segments) = ⟨name, segments.headD "", segments.tail⟩ := by
  cases segments with
  | nil => rfl
  | cons head tail =>
      apply ofText_of_pieces
      rw [String.toList_intercalate]
      apply pieces_intercalate (by simp)
      simpa using hsegments

/-- A template made from a text has the markers of the text, and between them what
stood there: it gives the text back when it is filled with markers. Segments without a
marker are kept apart by the markers they are joined with, and come out with any values
between them, as many as there are markers. Any other number of values is refused. -/
theorem ofText_faithful (name : String) :
    (∀ text, (ofText name text).placeholders = markerCount text.toList ∧
      (ofText name text).render (List.replicate (ofText name text).placeholders marker) =
        .ok text) ∧
      (∀ segments : List String, (∀ segment ∈ segments, ¬ IsMarked segment.toList) →
        ofText name (marker.intercalate segments) =
            ⟨name, segments.headD "", segments.tail⟩ ∧
          ∀ values : List String, values.length = segments.length - 1 →
            (ofText name (marker.intercalate segments)).render values =
              .ok (String.join (alternate segments values))) ∧
      ∀ (text : String) (values : List String), values.length ≠ markerCount text.toList →
        (ofText name text).render values =
          .error (.placeholderMismatch name (markerCount text.toList) values.length) := by
  refine ⟨fun text => ⟨placeholders_ofText name text, ?_⟩, ?_, ?_⟩
  · rw [render_eq_ok (by simp), fill_markers, text_ofText]
  · intro segments hsegments
    have htemplate := ofText_intercalate name hsegments
    refine ⟨htemplate, fun values hvalues => ?_⟩
    rw [htemplate]
    cases segments with
    | nil =>
        obtain rfl := List.length_eq_zero_iff.mp hvalues
        rfl
    | cons head tail =>
        have hcount : placeholders ⟨name, head, tail⟩ = values.length := hvalues.symm
        exact (render_eq_ok hcount).trans (congrArg Except.ok (fill_eq_alternate hvalues))
  · intro text values hvalues
    rw [← placeholders_ofText name] at hvalues ⊢
    exact render_eq_error hvalues.symm

-- Neither the braces around a marker nor a value become a marker.
example : (ofText "braces" "\x7b\x7b\x7d\x7d\x7b\x7d").render ["\x7b\x7d", "\x7d"] =
    .ok "\x7b\x7b\x7d\x7d\x7d" :=
  rfl

end Template

end WireScript
