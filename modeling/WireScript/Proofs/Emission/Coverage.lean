import WireScript.Proofs.Emission.Splicing
import WireScript.Proofs.Schema.FirstFault

/-! # Emission by a table with gaps

A table that lacks the strategies for some tags emits code for exactly the kinds that are
made of the others. What it refuses it refuses in both directions alike: by the tag of the
first kind it meets without a strategy, a kind before those inside it and a key before its
value.
-/

namespace WireScript

/-- The tags of a kind and of those inside it, a kind first, then its key and its value. -/
def Kind.tags : Kind → List Tag
  | .scalar s => [.scalar s]
  | .sequence collection element => .sequence collection :: element.tags
  | .map key value => .map :: (key.tags ++ value.tags)
  | .message _ => [.message]

namespace Table

/-- The table without the strategies for some tags. -/
def without (table : Table) (removed : List Tag) : Table := removed.foldl erase table

theorem contains_erase (table : Table) (tag other : Tag) :
    (table.erase tag).contains other = true ↔ table.contains other = true ∧ other ≠ tag := by
  unfold contains erase
  by_cases hsame : other = tag <;> simp [hsame]

/-- A table keeps the tags that are not taken out. -/
theorem contains_without (table : Table) (removed : List Tag) (tag : Tag) :
    (table.without removed).contains tag = true ↔
      table.contains tag = true ∧ tag ∉ removed := by
  induction removed generalizing table with
  | nil => simp [without]
  | cons first removed ih =>
      have hrest := ih (table.erase first)
      rw [contains_erase] at hrest
      rw [without, List.foldl_cons, List.mem_cons, not_or, ← and_assoc]
      exact hrest

/-- A table in which every strategy is the one that fits its tag. -/
def Fits (table : Table) : Prop :=
  ∀ tag strategy, table.strategy? tag = some strategy → strategy = Strategy.ofTag tag

theorem fits_full : full.Fits := by
  intro tag strategy hstrategy
  exact (Option.some.inj hstrategy).symm

theorem Fits.erase {table : Table} (hfits : table.Fits) (tag : Tag) : (table.erase tag).Fits := by
  intro other strategy hstrategy
  simp only [Table.erase] at hstrategy
  split at hstrategy
  next => cases hstrategy
  next => exact hfits other strategy hstrategy

theorem Fits.without {table : Table} (hfits : table.Fits) (removed : List Tag) :
    (table.without removed).Fits := by
  induction removed generalizing table with
  | nil => exact hfits
  | cons tag removed ih => exact ih (hfits.erase tag)

/-- A tag itself when it has no strategy. -/
def gap? (table : Table) (tag : Tag) : Option Tag := if table.contains tag then none else some tag

/-- The first tag of a kind that has no strategy. -/
def missing? (table : Table) (kind : Kind) : Option Tag :=
  kind.tags.find? (fun tag => !table.contains tag)

end Table

/-- The result of emission that wants the strategy for a tag, or for none. -/
def Emit.StopsAt {α : Type} : Option Tag → Except Fault α → Prop
  | some tag, result => result = .error (.unsupportedKind tag)
  | none, result => ∃ value, result = .ok value

/-- Emission that stops for want of a strategy, or that succeeds when none is wanting,
whatever the context. -/
def Emit.Lacks {α : Type} (action : Emit α) (missing : Option Tag) : Prop :=
  ∀ context, StopsAt missing (action context).1

namespace Emit.Lacks

variable {α β : Type} {missing missing' : Option Tag}

theorem pure (value : α) : (Pure.pure value : Emit α).Lacks none := fun _ => ⟨value, rfl⟩

theorem fresh (stem : String) : (Emit.fresh stem).Lacks none := fun _ => ⟨_, rfl⟩

/-- A sequence wants what its first part wants, and else what the second wants. -/
theorem bind {first : Emit α} {next : α → Emit β} (hfirst : first.Lacks missing)
    (hnext : ∀ value, (next value).Lacks missing') :
    (first >>= next).Lacks (missing.or missing') := by
  intro context
  have hstart := hfirst context
  rcases haction : first context with ⟨result, after⟩
  rw [haction] at hstart
  cases missing with
  | some tag =>
      obtain rfl : result = .error (.unsupportedKind tag) := hstart
      exact congrArg Prod.fst (bind_of_error haction)
  | none =>
      obtain ⟨value, rfl⟩ : ∃ value, result = .ok value := hstart
      rw [bind_of_ok haction]
      exact hnext value after

theorem map {action : Emit α} (haction : action.Lacks missing) (f : α → β) :
    (f <$> action).Lacks missing := by
  intro context
  have hresult := haction context
  rw [map_apply]
  cases missing with
  | some tag =>
      rw [StopsAt] at hresult
      rw [hresult]
      rfl
  | none =>
      obtain ⟨value, hvalue⟩ := hresult
      exact ⟨f value, by rw [hvalue]; rfl⟩

theorem last {action : Emit α} (haction : action.Lacks missing) (f : α → β) :
    (do return f (← action)).Lacks missing := by
  rw [bind_pure_comp]
  exact haction.map f

/-- Taking a name wants nothing. -/
theorem named {next : String → Emit α} (stem : String) (hnext : ∀ name, (next name).Lacks missing) :
    (Emit.fresh stem >>= next).Lacks missing :=
  (fresh stem).bind hnext

theorem declared {next : String × Code → Emit α} (container : Container)
    (hnext : ∀ declaration, (next declaration).Lacks missing) :
    (Strategy.declare container >>= next).Lacks missing := by
  have hdeclare : (Strategy.declare container).Lacks none := fun _ => ⟨_, rfl⟩
  exact hdeclare.bind hnext

end Emit.Lacks

namespace Strategy

variable (table : Table) (collection : Collection) (element key value : Kind) (source : String)

-- Looking up the strategy for a kind and using it is emission by the table again.

theorem write_sequence :
    (sequence collection).write table (.sequence collection element) source = do
      let name ← Emit.fresh "element"
      let body ← table.write element name
      return writeContainer source collection.measure [name] body := by
  simp only [write, Table.write, bind_assoc]

theorem write_entries :
    entries.write table (.map key value) source = do
      let keyName ← Emit.fresh "key"
      let valueName ← Emit.fresh "value"
      let keyCode ← table.write key keyName
      let valueCode ← table.write value valueName
      return writeContainer source "size" [valueName, keyName] (keyCode ++ valueCode) := by
  simp only [write, Table.write, bind_assoc]

theorem read_sequence :
    (sequence collection).read table (.sequence collection element) = do
      let (name, declaration) ← declare collection.container
      let size ← Emit.fresh "size"
      let index ← Emit.fresh "index"
      let entry ← table.read element
      return ⟨readContainer declaration size index
        (entry.code ++ .one (.insert collection.container name [entry.value])), name⟩ := by
  simp only [read, Table.read, bind_assoc]

theorem read_entries :
    entries.read table (.map key value) = do
      let (name, declaration) ← declare .map
      let size ← Emit.fresh "size"
      let index ← Emit.fresh "index"
      let keyEntry ← table.read key
      let valueEntry ← table.read value
      return ⟨readContainer declaration size index
        (keyEntry.code ++ valueEntry.code ++
          .one (.insert .map name [keyEntry.value, valueEntry.value])), name⟩ := by
  simp only [read, Table.read, bind_assoc]

end Strategy

namespace Table

variable {table : Table}

theorem find?_cons_tag (tag : Tag) (tags : List Tag) :
    (tag :: tags).find? (fun tag => !table.contains tag) =
      (table.gap? tag).or (tags.find? (fun tag => !table.contains tag)) := by
  rw [List.find?_cons, gap?]
  cases table.contains tag <;> rfl

theorem missing?_eq (kind : Kind) :
    table.missing? kind = (table.gap? kind.tag).or
      (match kind with
        | .scalar _ => none
        | .sequence _ element => table.missing? element
        | .map key value => (table.missing? key).or (table.missing? value)
        | .message _ => none) := by
  cases kind with
  | scalar s => exact find?_cons_tag _ _
  | sequence collection element => exact find?_cons_tag _ _
  | map key value =>
      rw [missing?, Kind.tags, find?_cons_tag, List.find?_append]
      rfl
  | message id => exact find?_cons_tag _ _

theorem lacks_resolve {α : Type} {kind : Kind} {next : Strategy → Emit α} {missing : Option Tag}
    (hfits : table.Fits) (hnext : (next (Strategy.ofTag kind.tag)).Lacks missing) :
    ((do next (← table.resolve kind)) : Emit α).Lacks ((table.gap? kind.tag).or missing) := by
  unfold resolve gap? contains
  cases hstrategy : table.strategy? kind.tag with
  | none => exact fun context => rfl
  | some strategy =>
      obtain rfl := hfits _ _ hstrategy
      exact hnext

/-- Code that writes a kind wants the strategy for the first of its tags without one. -/
theorem write_lacks (hfits : table.Fits) (kind : Kind) (source : String) :
    (table.write kind source).Lacks (table.missing? kind) := by
  induction kind generalizing source with
  | scalar s =>
      rw [missing?_eq]
      exact lacks_resolve hfits (.pure _)
  | sequence collection element ih =>
      rw [missing?_eq]
      apply lacks_resolve hfits
      rw [Kind.tag, Strategy.ofTag, Strategy.write_sequence]
      refine .named _ fun name => ?_
      exact (ih name).last _
  | map key value ihKey ihValue =>
      rw [missing?_eq]
      apply lacks_resolve hfits
      rw [Kind.tag, Strategy.ofTag, Strategy.write_entries]
      refine .named _ fun keyName => .named _ fun valueName => ?_
      exact (ihKey keyName).bind fun keyCode => (ihValue valueName).last _
  | message id =>
      rw [missing?_eq]
      exact lacks_resolve hfits (.pure _)

/-- Code that reads a kind wants the same strategy. -/
theorem read_lacks (hfits : table.Fits) (kind : Kind) :
    (table.read kind).Lacks (table.missing? kind) := by
  induction kind with
  | scalar s =>
      rw [missing?_eq]
      apply lacks_resolve hfits
      exact (Emit.Lacks.fresh _).last _
  | sequence collection element ih =>
      rw [missing?_eq]
      apply lacks_resolve hfits
      rw [Kind.tag, Strategy.ofTag, Strategy.read_sequence]
      refine .declared _ fun declaration => .named _ fun size => .named _ fun index => ?_
      exact ih.last _
  | map key value ihKey ihValue =>
      rw [missing?_eq]
      apply lacks_resolve hfits
      rw [Kind.tag, Strategy.ofTag, Strategy.read_entries]
      refine .declared _ fun declaration => .named _ fun size => .named _ fun index => ?_
      exact ihKey.bind fun keyEntry => ihValue.last _
  | message id =>
      rw [missing?_eq]
      apply lacks_resolve hfits
      exact (Emit.Lacks.fresh _).last _

theorem missing?_eq_none_iff {kind : Kind} :
    table.missing? kind = none ↔ ∀ tag ∈ kind.tags, table.contains tag = true := by
  simp [missing?, List.find?_eq_none]

theorem missing?_eq_some_iff {kind : Kind} {tag : Tag} :
    table.missing? kind = some tag ↔
      ∃ earlier, IsFirst (fun _ other => table.contains other = false) kind.tags earlier tag := by
  rw [missing?, List.find?_eq_some_iff_append]
  simp only [isFirst_iff, Bool.not_eq_true', Bool.not_eq_false', Bool.not_eq_false]
  constructor
  · rintro ⟨hmissing, earlier, later, htags, hearlier⟩
    exact ⟨earlier, ⟨later, htags⟩, hmissing, hearlier⟩
  · rintro ⟨earlier, ⟨later, htags⟩, hmissing, hearlier⟩
    exact ⟨hmissing, earlier, later, htags, hearlier⟩

/-- Whatever strategies are taken out of the full table, a kind is written and read when
the table has the tags of all kinds in it. Otherwise neither is done, and both faults name
the first tag that is missing. No strategy ever meets a kind of another shape. -/
theorem emission_wants_first (removed : List Tag) (kind : Kind) (source : String) (depth : Nat)
    (context : Context) :
    let table := full.without removed
    let written := (table.writeAt kind source depth context).1
    let read := (table.readAt kind depth context).1
    ((∀ tag ∈ kind.tags, table.contains tag = true) →
      (∃ lines, written = .ok lines) ∧ ∃ lines value, read = .ok (lines, value)) ∧
    ((∃ tag ∈ kind.tags, table.contains tag = false) →
      ∃ earlier tag, IsFirst (fun _ other => table.contains other = false) kind.tags earlier tag ∧
        written = .error (.unsupportedKind tag) ∧ read = .error (.unsupportedKind tag)) ∧
    ∀ issue, written ≠ .error (.config issue) ∧ read ≠ .error (.config issue) := by
  intro table written read
  have hfits : table.Fits := fits_full.without removed
  have hwritten : Emit.StopsAt (table.missing? kind) written := by
    have hlines := (write_lacks hfits kind source).map (Code.fragment · depth)
    rw [← writeAt_eq] at hlines
    exact hlines context
  have hread : Emit.StopsAt (table.missing? kind) read := by
    have hlines := (read_lacks hfits kind).map (ReadCode.linesAt · depth)
    rw [← readAt_eq] at hlines
    exact hlines context
  cases hmissing : table.missing? kind with
  | none =>
      rw [hmissing] at hwritten hread
      obtain ⟨lines, hwritten⟩ := hwritten
      obtain ⟨⟨lines', value⟩, hread⟩ := hread
      rw [hwritten, hread]
      refine ⟨fun _ => ⟨⟨_, rfl⟩, _, _, rfl⟩, ?_, fun issue => ⟨nofun, nofun⟩⟩
      rintro ⟨tag, htag, hgap⟩
      rw [missing?_eq_none_iff.mp hmissing tag htag] at hgap
      cases hgap
  | some tag =>
      rw [hmissing] at hwritten hread
      simp only [Emit.StopsAt] at hwritten hread
      obtain ⟨earlier, hfirst⟩ := missing?_eq_some_iff.mp hmissing
      rw [hwritten, hread]
      refine ⟨fun hall => ?_, fun _ => ⟨earlier, tag, hfirst, rfl, rfl⟩,
        fun issue => ⟨nofun, nofun⟩⟩
      have hgap := hfirst.broken
      rw [hall tag hfirst.mem] at hgap
      cases hgap

end Table

end WireScript
