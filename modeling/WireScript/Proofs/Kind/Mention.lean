import Mathlib.Data.List.Infix
import WireScript.Proofs.Kind.Walk

/-! # Messages a kind mentions

A kind is walked for the messages it refers to from left to right, as its type expression
is read: the key of a map goes on the stack last, so that it comes before the value. The
numbers found are those behind `message<` in the type expression, in the same order.
-/

namespace WireScript.Kind

/-- The messages a kind refers to, in the order its type expression names them. -/
def mentioned : Kind → List ProtocolId
  | .scalar _ => []
  | .sequence _ element => element.mentioned
  | .map key value => key.mentioned ++ value.mentioned
  | .message id => [id]

/-- The kinds that are pending are read off one after another. -/
theorem references_eq_flatMap (pending : List Kind) :
    references pending = pending.flatMap mentioned := by
  induction pending using references.induct with
  | case1 => rw [references, List.flatMap_nil]
  | case2 s pending ih => rw [references, ih, List.flatMap_cons, mentioned, List.nil_append]
  | case3 collection element pending ih =>
      rw [references, ih, List.flatMap_cons, List.flatMap_cons, mentioned]
  | case4 key value pending ih =>
      rw [references, ih, List.flatMap_cons, List.flatMap_cons, List.flatMap_cons, mentioned,
        List.append_assoc]
  | case5 id pending ih => rw [references, ih, List.flatMap_cons, mentioned, List.singleton_append]

theorem nestedIds_eq_mentioned (kind : Kind) : kind.nestedIds = kind.mentioned := by
  rw [nestedIds, references_eq_flatMap, List.flatMap_singleton]

theorem nestedIds_scalar (s : Scalar) : (scalar s).nestedIds = [] := nestedIds_eq_mentioned _

theorem nestedIds_message (id : ProtocolId) : (message id).nestedIds = [id] :=
  nestedIds_eq_mentioned _

theorem nestedIds_sequence (collection : Collection) (element : Kind) :
    (sequence collection element).nestedIds = element.nestedIds := by
  rw [nestedIds_eq_mentioned, nestedIds_eq_mentioned, mentioned]

theorem nestedIds_map (key value : Kind) :
    (map key value).nestedIds = key.nestedIds ++ value.nestedIds := by
  rw [nestedIds_eq_mentioned, nestedIds_eq_mentioned, nestedIds_eq_mentioned, mentioned]

section Walk

/-- Note the number of a message. -/
def noteId (ids : List ProtocolId) : Kind → List ProtocolId
  | .message id => ids ++ [id]
  | _ => ids

/-- A visit on the way through the messages mentioned. -/
def visitId : Walk (List ProtocolId) Kind → Walk (List ProtocolId) Kind :=
  Walk.visit noteId children

theorem append_mentioned (ids : List ProtocolId) (kind : Kind) :
    ids ++ kind.mentioned =
      kind.children.foldl (fun found child => found ++ child.mentioned) (noteId ids kind) := by
  cases kind with
  | scalar s => exact List.append_nil ids
  | sequence collection element => rfl
  | map key value => exact (List.append_assoc ids _ _).symm
  | message id => rfl

/-- From whatever is on the stack, a walk ends with the messages found before and those of
the kinds that are pending. -/
theorem visitId_iterate (ids : List ProtocolId) (pending : List Kind) (more : Nat) :
    visitId^[(pending.map size).sum + more] ⟨ids, pending⟩ = ⟨ids ++ references pending, []⟩ := by
  rw [references_eq_flatMap, List.flatMap_def, ← List.foldl_append_eq_append]
  exact Walk.iterate_eq size_eq append_mentioned ⟨ids, pending⟩ more

end Walk

section Text

/-- What stands behind each `message<` of a text up to the next `>`, from left to right. -/
def messageNumbers (text : List Char) : List (List Char) :=
  (text.tails.filter "message<".toList.isPrefixOf).map
    (fun rest => (rest.drop "message<".toList.length).takeWhile (· != '>'))

theorem messageNumbers_cons_of_opens {c : Char} {rest : List Char}
    (hc : "message<".toList.isPrefixOf (c :: rest) = true) :
    messageNumbers (c :: rest) =
      ((c :: rest).drop "message<".toList.length).takeWhile (· != '>') :: messageNumbers rest := by
  rw [messageNumbers, List.tails_cons, List.filter_cons_of_pos hc]
  rfl

theorem messageNumbers_cons_of_not {c : Char} {rest : List Char}
    (hc : "message<".toList.isPrefixOf (c :: rest) = false) :
    messageNumbers (c :: rest) = messageNumbers rest := by
  have hnot : ¬ "message<".toList.isPrefixOf (c :: rest) = true := by
    rw [hc]
    exact Bool.false_ne_true
  rw [messageNumbers, List.tails_cons, List.filter_cons_of_neg hnot]
  rfl

/-- A text in which no `m` occurs adds nothing in front of another one. -/
theorem messageNumbers_append {front : List Char} (hfront : 'm' ∉ front) (rest : List Char) :
    messageNumbers (front ++ rest) = messageNumbers rest := by
  induction front with
  | nil => rfl
  | cons c front ih =>
      rw [List.mem_cons, not_or] at hfront
      have hc : "message<".toList.isPrefixOf (c :: (front ++ rest)) = false := by
        simp [List.isPrefixOf, hfront.1]
      rw [List.cons_append, messageNumbers_cons_of_not hc, ih hfront.2]

/-- A reference to a message adds its number. -/
theorem messageNumbers_message (id : ProtocolId) (rest : List Char) :
    messageNumbers ((message id).text.toList ++ rest) =
      (Text.decimal id.toNat).toList :: messageNumbers rest := by
  have hnumber (c : Char) (hc : c.isDigit = false) : c ∉ (Text.decimal id.toNat).toList := by
    intro hmem
    rw [Text.isDigit_of_mem_decimal hmem] at hc
    cases hc
  generalize hdigits : (Text.decimal id.toNat).toList = digits at hnumber
  have htext : (message id).text.toList ++ rest =
      'm' :: ("essage<".toList ++ digits ++ ['>'] ++ rest) := by
    simp [text_message, hdigits]
  have hbehind : 'm' ∉ "essage<".toList ++ digits ++ ['>'] := by
    simp [hnumber 'm' rfl]
  have hbefore : ∀ c ∈ digits, (c != '>') = true := by
    intro c hc
    rw [bne_iff_ne]
    rintro rfl
    exact hnumber '>' rfl hc
  have htaken : (digits ++ '>' :: rest).takeWhile (· != '>') = digits := by
    rw [List.takeWhile_append_of_pos hbefore]
    simp
  rw [htext, messageNumbers_cons_of_opens (by simp), messageNumbers_append hbehind]
  simpa using htaken

/-- A type expression in front of a text adds the numbers of the messages it mentions. -/
theorem messageNumbers_text (kind : Kind) (rest : List Char) :
    messageNumbers (kind.text.toList ++ rest) =
      kind.mentioned.map (fun id => (Text.decimal id.toNat).toList) ++ messageNumbers rest := by
  have hclose (rest : List Char) : messageNumbers ('>' :: rest) = messageNumbers rest :=
    @messageNumbers_append ['>'] (by decide) rest
  induction kind generalizing rest with
  | scalar s =>
      have hname : 'm' ∉ s.name.toList := by cases s <;> decide
      rw [text_scalar, messageNumbers_append hname]
      rfl
  | sequence collection element ih =>
      have hname : 'm' ∉ collection.name.toList ++ ['<'] := by cases collection <;> decide
      have htext : (sequence collection element).text.toList ++ rest =
          (collection.name.toList ++ ['<']) ++ (element.text.toList ++ '>' :: rest) := by
        simp [text_sequence]
      rw [htext, messageNumbers_append hname, ih, hclose]
      rfl
  | map key value ihKey ihValue =>
      have htext : (map key value).text.toList ++ rest = 'm' :: (['a', 'p', '<'] ++
          (key.text.toList ++ ([',', ' '] ++ (value.text.toList ++ '>' :: rest)))) := by
        simp [text_map]
      have hmap (after : List Char) : "message<".toList.isPrefixOf
          ('m' :: (['a', 'p', '<'] ++ after)) = false := rfl
      rw [htext, messageNumbers_cons_of_not (hmap _), messageNumbers_append (by decide), ihKey,
        messageNumbers_append (by decide), ihValue, hclose, mentioned, List.map_append,
        List.append_assoc]
  | message id => exact messageNumbers_message id rest

end Text

/-- Walking a kind for the messages it refers to ends, after as many visits as the kind has
nodes and not before, with those of its parts from left to right, repetitions kept. They are
the numbers that can be read behind `message<` in its type expression, in their order there. -/
theorem nestedIds_walk (kind : Kind) :
    (∀ visits, (visitId^[visits] ⟨[], [kind]⟩).pending = [] ↔ kind.size ≤ visits) ∧
      (∀ more, visitId^[kind.size + more] ⟨[], [kind]⟩ = ⟨kind.nestedIds, []⟩) ∧
      kind.nestedIds = kind.mentioned ∧
      (messageNumbers kind.text.toList).map (Text.readDecimal 65535) =
        kind.nestedIds.map (fun id => some id.toNat) := by
  refine ⟨Walk.pending_iterate_eq_nil_iff size_eq ⟨[], [kind]⟩, visitId_iterate [] [kind],
    kind.nestedIds_eq_mentioned, ?_⟩
  have htext := kind.messageNumbers_text []
  have hread (id : ProtocolId) :
      Text.readDecimal 65535 (Text.decimal id.toNat).toList = some id.toNat :=
    Text.readDecimal_decimal (Nat.le_of_lt_succ id.toNat_lt)
  rw [List.append_nil] at htext
  rw [htext, kind.nestedIds_eq_mentioned, List.map_append, List.map_map]
  simp [messageNumbers, hread]

end WireScript.Kind
