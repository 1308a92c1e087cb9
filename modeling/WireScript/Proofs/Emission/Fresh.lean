import Mathlib.Data.List.Induction
import WireScript.Proofs.Emission.Numbering

/-! # Names asked for

A context answers a request for a name with the stem and the number of requests before
it, whatever the stem is. Names with one stem differ by their numbers. Names with two
stems may run into each other: `item1` with the number 0 and `item` with the number 10
are one name. The names of a message are distinct as long as no stem is another one with
a number behind it, which holds of the stems of the strategies.
-/

namespace WireScript

namespace Text

/-- The digits in front of the last ones of a number are a number too. -/
theorem exists_decimal_of_append {number : Nat} {front back : List Char}
    (hfront : front ≠ []) (hnumber : (decimal number).toList = front ++ back) :
    ∃ leading, front = (decimal leading).toList ∧ (0 < number → 0 < leading) := by
  simp only [decimal, Nat.toList_repr] at hnumber ⊢
  induction back using List.reverseRecOn generalizing number with
  | nil => exact ⟨number, by simpa using hnumber.symm, id⟩
  | append_singleton back last ih =>
      have hlarge : 10 ≤ number := by
        by_contra hsmall
        have hlength := congrArg List.length hnumber
        have hpositive := List.length_pos_iff.mpr hfront
        rw [Nat.toDigits_of_lt_base (by omega)] at hlength
        simp only [List.length_append, List.length_singleton] at hlength
        omega
      rw [Nat.toDigits_of_base_le (by decide) hlarge, ← List.append_assoc] at hnumber
      obtain ⟨leading, hleading, hpositive⟩ := ih (List.append_inj_left' hnumber rfl)
      exact ⟨leading, hleading, fun _ => hpositive (by omega)⟩

/-- Digits in front do not make a number smaller. -/
theorem le_of_decimal_eq_append {number rest : Nat} {front : List Char}
    (hnumber : (decimal number).toList = front ++ (decimal rest).toList) : rest ≤ number := by
  have hvalue := congrArg (Nat.ofDigitChars 10 · 0) hnumber
  simp only [Nat.ofDigitChars_append, ofDigitChars_decimal] at hvalue
  rw [Nat.ofDigitChars_eq_ofDigitChars_zero, ofDigitChars_decimal] at hvalue
  omega

/-- A zero behind a number multiplies it by ten. -/
theorem decimal_ten_mul {number : Nat} (hnumber : 0 < number) :
    decimal (10 * number) = decimal number ++ decimal 0 := by
  simp only [decimal, ← String.toList_inj, String.toList_append, Nat.toList_repr]
  rw [Nat.toDigits_of_base_le (by decide) (by omega)]
  simp [Nat.toDigits_of_lt_base]

end Text

namespace Name

/-- Two stems make one name of two numbers when the stem of the smaller number already
ends in the digits that the larger number begins with. -/
theorem temporary_eq_iff {first second : String} {smaller larger : Nat}
    (hlt : smaller < larger) :
    temporary first smaller = temporary second larger ↔
      ∃ number, 0 < number ∧ first = temporary second number ∧
        Text.decimal larger = Text.decimal number ++ Text.decimal smaller := by
  constructor
  · intro hsame
    simp only [temporary, ← String.toList_inj, String.toList_append] at hsame ⊢
    obtain ⟨front, hfirst, hlarger⟩ | ⟨front, -, hsmaller⟩ :=
      List.append_eq_append_iff.mp hsame.symm
    · have hfront : front ≠ [] := by
        rintro rfl
        have hle := @Text.le_of_decimal_eq_append _ _ [] hlarger.symm
        omega
      obtain ⟨number, rfl, hpositive⟩ := Text.exists_decimal_of_append hfront hlarger
      exact ⟨number, hpositive (by omega), hfirst, hlarger⟩
    · have hle := Text.le_of_decimal_eq_append hsmaller
      omega
  · rintro ⟨number, -, rfl, hlarger⟩
    simp only [temporary, hlarger, String.append_assoc]

/-- No stem of the strategies is another one with a number behind it. -/
theorem temporary_notMem_temporaryStems {stem : String} (hstem : stem ∈ temporaryStems)
    {number : Nat} (hnumber : 0 < number) : temporary stem number ∉ temporaryStems := by
  intro hmem
  have hnone : ∀ stem ∈ temporaryStems, Name.number stem = 0 := by decide
  have hvalue := hnone _ hmem
  rw [number_temporary stem hstem] at hvalue
  omega

end Name

/-- A request for the name of a temporary: made to the context, or through the handle that
strategies are given. -/
inductive Request where
  | ofContext (stem : String)
  | ofEmission (stem : String)

namespace Request

/-- The stem that is asked for. -/
def stem : Request → String
  | ofContext stem => stem
  | ofEmission stem => stem

/-- Answer a request. -/
def take : Request → Emit String
  | ofContext stem => fun context =>
      let (name, after) := context.fresh stem
      (.ok name, after)
  | ofEmission stem => Emit.fresh stem

/-- The names for requests numbered from `next` on. -/
def names (next : Nat) (requests : List Request) : List String :=
  requests.mapIdx (fun index request => Name.temporary request.stem (next + index))

theorem take_eq (request : Request) (context : Context) :
    request.take context =
      (.ok (Name.temporary request.stem context.next), context.advance 1) := by
  cases request <;> rfl

/-- Requests are answered one after the other and never refused. -/
theorem mapM_take_eq (requests : List Request) (context : Context) :
    requests.mapM take context =
      (.ok (names context.next requests), context.advance requests.length) := by
  induction requests generalizing context with
  | nil => rfl
  | cons request rest ih =>
      have hnames : names context.next (request :: rest) =
          Name.temporary request.stem context.next :: names (context.advance 1).next rest := by
        simp [names, Context.advance, List.mapIdx_cons, Nat.add_comm, Nat.add_left_comm]
      rw [List.mapM_cons, Emit.bind_of_ok (take_eq request context), Emit.bind_of_ok (ih _),
        hnames, Context.advance_advance, List.length_cons, Nat.add_comm]
      rfl

/-- An earlier and a later request, numbered from `next` on, whose stems and numbers run
into each other. -/
def Meet (requests : List Request) (next earlier later : Nat) : Prop :=
  ∃ (hlt : earlier < later) (hlater : later < requests.length), ∃ number, 0 < number ∧
    requests[earlier].stem = Name.temporary requests[later].stem number ∧
    Text.decimal (next + later) = Text.decimal number ++ Text.decimal (next + earlier)

theorem nodup_names_iff (next : Nat) (requests : List Request) :
    (names next requests).Nodup ↔ ∀ earlier later, ¬ Meet requests next earlier later := by
  rw [List.Nodup, List.pairwise_iff_getElem]
  constructor
  · rintro hnodup earlier later ⟨hlt, hlater, hmeet⟩
    have hsame := (Name.temporary_eq_iff (by omega)).mpr hmeet
    refine hnodup earlier later (by simp [names]; omega) (by simp [names]; omega) hlt ?_
    simpa [names] using hsame
  · intro hnone earlier later hearlier hlater hlt hsame
    simp only [names, List.length_mapIdx] at hlater
    refine hnone earlier later ⟨hlt, hlater, (Name.temporary_eq_iff (by omega)).mp ?_⟩
    simpa [names] using hsame

/-- A stem and the same stem with a number behind it meet in the name that has the stem,
the number and a zero. -/
theorem meet_replicate (stem : String) {number : Nat} (hnumber : 0 < number) :
    Meet (ofContext (Name.temporary stem number) ::
      List.replicate (10 * number) (ofEmission stem)) 0 0 (10 * number) := by
  refine ⟨by omega, by simp, number, hnumber, ?_, ?_⟩
  · rw [List.getElem_cons_zero, List.getElem_cons, dif_neg (by omega), List.getElem_replicate]
    rfl
  · rw [Nat.zero_add, Nat.zero_add, Text.decimal_ten_mul hnumber]

/-- The stems with which all requests of a message get names of their own are those of
which none is another one with a number behind it. -/
theorem forall_nodup_names_iff (allowed : String → Prop) :
    (∀ requests : List Request, (∀ request ∈ requests, allowed request.stem) →
      (names 0 requests).Nodup) ↔
      ∀ stem number, 0 < number → allowed stem → ¬ allowed (Name.temporary stem number) := by
  constructor
  · intro hnodup stem number hnumber hstem hlonger
    refine (nodup_names_iff _ _).mp (hnodup _ ?_) _ _ (meet_replicate stem hnumber)
    intro request hrequest
    obtain rfl | hrequest := List.mem_cons.mp hrequest
    · exact hlonger
    · rw [List.eq_of_mem_replicate hrequest]
      exact hstem
  · intro hstems requests hallowed
    rw [nodup_names_iff]
    rintro earlier later ⟨hlt, hlater, number, hnumber, hstem, -⟩
    refine hstems requests[later].stem number hnumber (hallowed _ (List.getElem_mem _)) ?_
    rw [← hstem]
    exact hallowed _ (List.getElem_mem _)

/-- Requests like those of the strategies get names of their own. -/
theorem nodup_names_of_temporaryStems {requests : List Request}
    (hrequests : ∀ request ∈ requests, request.stem ∈ Name.temporaryStems) :
    (names 0 requests).Nodup :=
  (forall_nodup_names_iff (· ∈ Name.temporaryStems)).mpr
    (fun _ _ hnumber hstem => Name.temporary_notMem_temporaryStems hstem hnumber)
    requests hrequests

/-- Every sequence of requests within a message is answered in full, and the names are
distinct unless two of the requests meet. Which stems a message may ask for freely is
decided by the stems alone. -/
theorem take_nodup_iff (context : Context) (message : String) :
    (∀ requests : List Request, ∃ names,
      requests.mapM take (context.begin message) =
        (.ok names, (context.begin message).advance requests.length) ∧
      (names.Nodup ↔ ∀ earlier later, ¬ Meet requests 0 earlier later)) ∧
    ∀ allowed : String → Prop,
      (∀ requests : List Request, (∀ request ∈ requests, allowed request.stem) →
        ∃ names after, requests.mapM take (context.begin message) = (.ok names, after) ∧
          names.Nodup) ↔
        ∀ stem number, 0 < number → allowed stem →
          ¬ allowed (Name.temporary stem number) := by
  have hanswered (requests : List Request) := mapM_take_eq requests (context.begin message)
  refine ⟨fun requests => ⟨_, hanswered requests, nodup_names_iff 0 requests⟩, ?_⟩
  intro allowed
  rw [← forall_nodup_names_iff]
  refine forall₂_congr fun requests hallowed => ⟨?_, ?_⟩
  · rintro ⟨found, after, hfound, hnodup⟩
    rw [hanswered requests, Prod.mk.injEq] at hfound
    obtain rfl := Except.ok.inj hfound.1
    exact hnodup
  · exact fun hnodup => ⟨_, _, hanswered requests, hnodup⟩

/-- The stem `item1` with the number 0 and the stem `item` with the number 10. -/
theorem take_repeats : ∃ names after,
    (ofContext "item1" :: List.replicate 10 (ofEmission "item")).mapM take
      ((Context.ofLimit 32).begin "M") = (.ok names, after) ∧
    names[0]? = some "item10" ∧ names[10]? = some "item10" ∧ ¬ names.Nodup := by
  exact ⟨_, _, mapM_take_eq _ _, by decide, by decide, by decide⟩

end Request

end WireScript
