import EventAlgebra.Proofs.Expression
import EventAlgebra.Proofs.Resolving
import EventAlgebra.Proofs.Validation

/-!
# Calls in stored algebra

A reference that cannot be expanded stays a call of its event on one leaf. Once the algebra with
the call is stored and spliced in further on, the call is renumbered as a text, its name included.
An event name is an identifier, but identifiers and the words of algebra text are not the same: a
name can be a leaf, as `M1` is, or hold one behind a numeral that is part of no word, as `Key²M7`
does. Renumbering then gives a call of another event. It keeps the call exactly if no leaf in the
name can be moved; a name made of word characters that is not a leaf itself has none
(`shift_unexpanded`).
-/

set_option autoImplicit false

namespace EventAlgebra

open Text

/-! ## Words -/

/-- A text that is a leaf: `M` and at least one digit. -/
def IsLeaf (text : String) : Prop :=
  ∃ digits, text.toList = 'M' :: digits ∧ digits ≠ [] ∧ ∀ d ∈ digits, isWordDigit d = true

/-- A word character begins no literal. -/
theorem literalAt?_of_isWord {c : Char} (h : isWord c = true) (rest : List Char) :
    literalAt? (c :: rest) = none := by
  apply literalAt?_eq_none_of_ne
  rintro ⟨rfl, -⟩
  exact absurd h (by decide)

/-- Inside a word no leaf begins. -/
theorem scanFrom_of_words {cs : List Char} (h : ∀ c ∈ cs, isWord c = true) :
    scanFrom true cs = cs.map .plain := by
  induction cs with
  | nil => rw [scanFrom_nil, List.map_nil]
  | cons c rest ih =>
      obtain ⟨hc, hrest⟩ := List.forall_mem_cons.1 h
      have hnext : nextToken true c rest = (.plain c, rest) :=
        nextToken_plain (literalAt?_of_isWord hc rest) (Or.inl rfl)
      have hends : (Token.plain c).endsInWord = true := hc
      rw [scanFrom_cons, hnext, hends, ih hrest, List.map_cons]

/-- A word has no leaf unless it is one. -/
theorem leafFree_of_words {text : String} (hwords : ∀ c ∈ text.toList, isWord c = true)
    (hleaf : ¬ IsLeaf text) : LeafFree text := by
  have hscan : scan text = text.toList.map .plain := by
    unfold scan
    cases htext : text.toList with
    | nil => rw [scanFrom_nil, List.map_nil]
    | cons c rest =>
        rw [htext] at hwords
        obtain ⟨hc, hrest⟩ := List.forall_mem_cons.1 hwords
        -- a leaf at the front would be followed by no word character, so by nothing
        have hnone : leafAt? (c :: rest) = none := by
          rw [Option.eq_none_iff_forall_ne_some]
          rintro ⟨digits, after⟩ hsome
          by_cases hM : c = 'M'
          · subst hM
            obtain ⟨rfl, hne, hdigits, hafter⟩ := leafAt?_eq_some_iff.1 hsome
            cases after with
            | nil => exact hleaf ⟨digits, by rw [htext, List.append_nil], hne, hdigits⟩
            | cons d after =>
                have hd := hrest d (by simp)
                rw [hafter d rfl] at hd
                cases hd
          · rw [leafAt?_eq_none_of_ne hM] at hsome
            cases hsome
        have hnext : nextToken false c rest = (.plain c, rest) :=
          nextToken_plain (literalAt?_of_isWord hc rest) (Or.inr hnone)
        have hends : (Token.plain c).endsInWord = true := hc
        rw [scanFrom_cons, hnext, hends, scanFrom_of_words hrest, List.map_cons]
  rw [leafFree_iff, leafIndices, hscan, List.filterMap_map]
  exact List.filterMap_eq_nil_iff.2 fun c _ => rfl

/-! ## Renumbered identifiers -/

/-- Renumbering brings in no character but decimal digits. -/
theorem mem_shift {text : String} {amount : Nat} {c : Char}
    (h : c ∈ (shift text amount).toList) : c ∈ text.toList ∨ c.isDigit = true := by
  by_cases hamount : amount = 0
  · rw [hamount, shift_zero] at h
    exact Or.inl h
  rw [shift, if_neg hamount, String.toList_ofList, Token.concat, List.flatMap_map] at h
  obtain ⟨token, htoken, hc⟩ := List.mem_flatMap.1 h
  have htext : ∀ d ∈ token.chars, d ∈ text.toList := by
    intro d hd
    rw [← concat_scan text]
    exact List.mem_flatMap.2 ⟨token, htoken, hd⟩
  cases token with
  | plain d => exact Or.inl (htext c hc)
  | literal body => exact Or.inl (htext c hc)
  | leaf digits =>
      simp only [Token.shift] at hc
      split at hc
      · split at hc
        · rcases List.mem_cons.1 hc with rfl | hdigit
          · exact Or.inl (htext 'M' List.mem_cons_self)
          · exact Or.inr (Nat.isDigit_of_mem_toDigits (by decide) (by decide) hdigit)
        · exact Or.inl (htext c hc)
      · exact Or.inl (htext c hc)

theorem head?_shift (text : String) (amount : Nat) :
    (shift text amount).toList.head? = text.toList.head? := by
  by_cases hamount : amount = 0
  · rw [hamount, shift_zero]
  · rw [shift, if_neg hamount, String.toList_ofList]
    exact head?_renumberFrom amount false text.toList

/-- A renumbered identifier is an identifier. -/
theorem isIdentifier_shift {name : String} (h : isIdentifier name = true) (amount : Nat) :
    isIdentifier (shift name amount) = true := by
  obtain ⟨hfirst, hall⟩ := isIdentifier_iff.1 h
  refine isIdentifier_iff.2 ⟨?_, ?_⟩
  · rwa [head?_shift]
  · intro c hc
    rcases mem_shift hc with hname | hdigit
    · exact hall c hname
    · have hword := isWordDigit_of_isDigit hdigit
      rw [isWordDigit, Bool.and_eq_true] at hword
      rw [isNumeral, hword.1, Bool.true_or, Bool.or_true, Bool.true_or]

theorem quoteFree_of_isIdentifier {name : String} (h : isIdentifier name = true) :
    QuoteFree name := by
  intro hquote
  exact absurd ((isIdentifier_iff.1 h).2 '"' hquote) (by decide)

/-! ## Calls -/

/-- An operand that was not expanded is a call of its event on one leaf. -/
theorem Library.fragment_of_unexpanded {library : Library} {definition name : String}
    {filters : List Filter} {start : Nat}
    (h : (library.resolve definition ⟨.saved name, filters⟩ start).origin = .unexpanded) :
    (library.resolve definition ⟨.saved name, filters⟩ start).fragment =
      Layout.call name (leafName start) := by
  simp only [resolve, resolveSaved] at h ⊢
  cases hget : library.get? name with
  | none => rfl
  | some event =>
      simp only [hget] at h ⊢
      cases halgebra : event.algebra? with
      | none => rfl
      | some algebra =>
          simp only [halgebra] at h ⊢
          rcases event.resolve_cases algebra name filters start
              (if name = definition then .priorVersion else .inlined) with
            ⟨-, issues, heq⟩ | ⟨-, issues, heq⟩
          · rw [heq]
            rfl
          · -- algebra that is spliced in has one of two other origins
            rw [heq] at h
            simp only [Resolved.splice] at h
            split at h <;> cases h

theorem call_inj {name name' leaf : String} :
    Layout.call name leaf = Layout.call name' leaf ↔ name = name' := by
  rw [Layout.call_eq_append, Layout.call_eq_append, String.append_left_inj]

/-- Take an event name that is an identifier, and a reference to it that is not expanded. It is a
call on its start leaf. Renumbered as a part of stored algebra it is a call on the leaf that many
further on, of the event whose name is the renumbered name, which is an identifier as well. That is
the same event exactly if nothing was added or no leaf in the name can be moved. It is the same for
every name that is a word and not a leaf. -/
theorem shift_unexpanded {name : String} (hname : isIdentifier name = true) {library : Library}
    {definition : String} {filters : List Filter} {start amount : Nat}
    (hcall : (library.resolve definition ⟨.saved name, filters⟩ start).origin = .unexpanded)
    (hsum : start + amount ≤ largestNat64) :
    let fragment := (library.resolve definition ⟨.saved name, filters⟩ start).fragment
    fragment = Layout.call name (leafName start) ∧
      shift fragment amount = Layout.call (shift name amount) (leafName (start + amount)) ∧
      isIdentifier (shift name amount) = true ∧
      (shift fragment amount = Layout.call name (leafName (start + amount)) ↔
        amount = 0 ∨ Immovable name amount) ∧
      ((∀ c ∈ name.toList, isWord c = true) → ¬ IsLeaf name →
        shift fragment amount = Layout.call name (leafName (start + amount))) := by
  intro fragment
  have hfragment : fragment = Layout.call name (leafName start) :=
    Library.fragment_of_unexpanded hcall
  have hshift : shift fragment amount =
      Layout.call (shift name amount) (leafName (start + amount)) := by
    rw [hfragment, Layout.call_eq_append, Layout.call_eq_append]
    exact shift_name_leafCell (quoteFree_of_isIdentifier hname) start hsum
  have hsame : shift fragment amount = Layout.call name (leafName (start + amount)) ↔
      amount = 0 ∨ Immovable name amount := by
    rw [hshift, call_inj, shift_eq_self_iff]
  refine ⟨hfragment, hshift, isIdentifier_shift hname amount, hsame, ?_⟩
  intro hwords hleaf
  rw [hshift, shift_of_leafFree (leafFree_of_words hwords hleaf)]

/-- A superscript is part of an identifier but of no word, so that the name has a leaf behind it;
renumbering makes it another name. It keeps a word that only begins like a leaf. -/
theorem shift_unexpanded_superscript :
    let resolve := fun name => Library.empty.resolve "New" ⟨.saved name, []⟩ 2
    (isIdentifier "Key²M7" = true ∧ (resolve "Key²M7").origin = .unexpanded ∧
        2 + 3 ≤ largestNat64 ∧
        shift (resolve "Key²M7").fragment 3 = Layout.call "Key²M10" (leafName (2 + 3)) ∧
        isIdentifier "Key²M10" = true ∧
        shift (resolve "Key²M7").fragment 3 ≠ Layout.call "Key²M7" (leafName (2 + 3))) ∧
      isIdentifier "M7_goal" = true ∧ (resolve "M7_goal").origin = .unexpanded ∧
        (∀ c ∈ "M7_goal".toList, isWord c = true) ∧ ¬ IsLeaf "M7_goal" ∧
        shift (resolve "M7_goal").fragment 3 = Layout.call "M7_goal" (leafName (2 + 3)) := by
  intro resolve
  have hsum : 2 + 3 ≤ largestNat64 := by decide
  constructor
  · have hname : isIdentifier "Key²M7" = true := by decide +kernel
    have hcall : (resolve "Key²M7").origin = .unexpanded := by decide +kernel
    have hmoved : shift "Key²M7" 3 = "Key²M10" := by decide +kernel
    obtain ⟨-, hshift, hidentifier, -, -⟩ := shift_unexpanded hname hcall hsum
    rw [hmoved] at hshift hidentifier
    refine ⟨hname, hcall, hsum, hshift, hidentifier, ?_⟩
    rw [hshift, Ne, call_inj]
    decide
  · have hname : isIdentifier "M7_goal" = true := by decide +kernel
    have hcall : (resolve "M7_goal").origin = .unexpanded := by decide +kernel
    -- as a fact about the list, since a search for an instance may go through all characters
    have hwords : ∀ c ∈ "M7_goal".toList, isWord c = true := List.all_eq_true.1 (by decide +kernel)
    have hleaf : ¬ IsLeaf "M7_goal" := by
      rintro ⟨digits, htext, -, hdigits⟩
      obtain rfl : ['7', '_', 'g', 'o', 'a', 'l'] = digits := List.tail_eq_of_cons_eq htext
      exact absurd (hdigits '_' (by decide)) (by decide)
    obtain ⟨-, -, -, -, hkept⟩ := shift_unexpanded hname hcall hsum
    exact ⟨hname, hcall, hwords, hleaf, hkept hwords hleaf⟩

end EventAlgebra
