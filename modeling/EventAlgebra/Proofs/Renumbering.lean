import EventAlgebra.Proofs.Scanning
import Mathlib.Data.List.Forall2

/-!
# Renumbering as an action

Renumbering by nothing keeps a text, and renumbering twice is renumbering by the sum
(`shift_shift`), since the tokens of a renumbered text are those of the text but for the indices in
them. So the amounts act on the texts, as long as no index grows too large. Token by token, the
index that a leaf denotes grows by the amount, and everything else stays (`movedBy_shift`):
literals, the characters between the tokens, and leaves whose digits denote no index.
-/

set_option autoImplicit false

namespace EventAlgebra

open Text

/-! ## Renumbering twice -/

/-- The index that the digits of a leaf denote, if they denote one. -/
def Token.denoted? : Token → Option Nat
  | leaf digits => readNat64? digits
  | _ => none

/-- Adding to an index twice is adding the sum, if the sum does not grow too large. Digits that
denote no index stay as they are both times. -/
theorem Token.shift_shift {token : Token} {amount more : Nat}
    (h : ∀ index ∈ token.denoted?, index + amount + more ≤ largestNat64) :
    (token.shift amount).shift more = token.shift (amount + more) := by
  cases token with
  | plain c => rfl
  | literal body => rfl
  | leaf digits =>
      cases hread : readNat64? digits with
      | none => simp only [shift, hread]
      | some index =>
          have hsum := h index hread
          have hfirst : index + amount ≤ largestNat64 := by omega
          have hboth : index + (amount + more) ≤ largestNat64 := by omega
          simp only [shift, hread, if_pos hfirst, readNat64?_toDigits hfirst, if_pos hboth,
            Nat.add_assoc]

/-- Renumbering twice is renumbering by the sum, if no index grows too large. -/
theorem shift_shift {text : String} {amount more : Nat}
    (h : ∀ token ∈ scan text, ∀ index ∈ token.denoted?, index + amount + more ≤ largestNat64) :
    shift (shift text amount) more = shift text (amount + more) := by
  by_cases hamount : amount = 0
  · rw [hamount, shift_zero, Nat.zero_add]
  by_cases hmore : more = 0
  · rw [hmore, shift_zero, Nat.add_zero]
  -- the renumbered text is scanned afresh, and gives the renumbered tokens
  have hsum : amount + more ≠ 0 := by omega
  have htokens : (scan (shift text amount)).map (Token.shift more) =
      (scan text).map (Token.shift (amount + more)) := by
    rw [scan_shift text hamount, List.map_map]
    apply List.map_congr_left
    intro token htoken
    exact Token.shift_shift (h token htoken)
  rw [shift, if_neg hmore, htokens, shift, if_neg hsum]

/-- An index that a leaf denotes is one of the leaf indices. -/
theorem mem_leafIndices_of_denoted? {text : String} {token : Token} {index : Nat}
    (htoken : token ∈ scan text) (h : index ∈ token.denoted?) : index ∈ leafIndices text := by
  cases token with
  | plain c => cases h
  | literal body => cases h
  | leaf digits =>
      have hread : readNat64? digits = some index := h
      exact List.mem_filterMap.2 ⟨.leaf digits, htoken, by simp [Token.leafIndex?, hread]⟩

/-! ## Token by token -/

/-- What renumbering by an amount makes of a token. -/
inductive Token.MovedBy (amount : Nat) : Token → Token → Prop where
  /-- The index that a leaf denotes grows by the amount. -/
  | moved {digits digits' : List Char} {index : Nat} (hread : readNat64? digits = some index)
      (hmoved : readNat64? digits' = some (index + amount)) :
      MovedBy amount (.leaf digits) (.leaf digits')
  /-- A token that denotes no index stays as it is. -/
  | kept {token : Token} (hnone : token.denoted? = none) : MovedBy amount token token

namespace Token

/-- A token that stays is moved by nothing. -/
theorem movedBy_zero (token : Token) : token.MovedBy 0 token := by
  cases hdenoted : token.denoted? with
  | none => exact .kept hdenoted
  | some index =>
      cases token with
      | plain c => cases hdenoted
      | literal body => cases hdenoted
      | leaf digits => exact .moved hdenoted hdenoted

/-- Renumbering moves a token, if its index has room. -/
theorem movedBy_shift {token : Token} {amount : Nat}
    (h : ∀ index ∈ token.denoted?, index + amount ≤ largestNat64) :
    token.MovedBy amount (token.shift amount) := by
  cases token with
  | plain c => exact .kept rfl
  | literal body => exact .kept rfl
  | leaf digits =>
      cases hread : readNat64? digits with
      | none =>
          have hkept : (leaf digits).shift amount = leaf digits := by simp only [shift, hread]
          rw [hkept]
          exact .kept hread
      | some index =>
          have hroom := h index hread
          have hmoved : (leaf digits).shift amount = leaf (Nat.toDigits 10 (index + amount)) := by
            simp only [shift, hread, if_pos hroom]
          rw [hmoved]
          exact .moved hread (readNat64?_toDigits hroom)

end Token

/-- Renumbering moves the tokens of a text one by one. -/
theorem movedBy_shift {text : String} {amount : Nat}
    (h : ∀ token ∈ scan text, ∀ index ∈ token.denoted?, index + amount ≤ largestNat64) :
    List.Forall₂ (Token.MovedBy amount) (scan text) (scan (shift text amount)) := by
  by_cases hzero : amount = 0
  · -- leading zeros stay as well
    subst hzero
    rw [shift_zero, List.forall₂_same]
    exact fun token _ => token.movedBy_zero
  · rw [scan_shift text hzero, List.forall₂_map_right_iff, List.forall₂_same]
    exact fun token htoken => Token.movedBy_shift (h token htoken)

/-! ## The largest leaf -/

/-- Adding to all numbers of a list adds to the largest of them. -/
theorem max?_map_add (indices : List Nat) (amount : Nat) :
    (indices.map (· + amount)).max? = indices.max?.map (· + amount) := by
  cases hmax : indices.max? with
  | none =>
      rw [List.max?_eq_none_iff] at hmax
      rw [hmax]
      rfl
  | some largest =>
      obtain ⟨hmem, hle⟩ := List.max?_eq_some_iff.1 hmax
      rw [Option.map_some, List.max?_eq_some_iff]
      refine ⟨List.mem_map_of_mem hmem, ?_⟩
      rw [List.forall_mem_map]
      exact fun index hindex => Nat.add_le_add_right (hle index hindex) amount

/-- Renumbering is an action of the amounts on texts, and keeps their leaves in place. Adding
nothing keeps a text. Adding one amount and then another is adding the sum, if no index that a leaf
of the text denotes grows too large. Each leaf that denotes an index is then a leaf with the amount
added, and all other tokens stay as they are: literals, the characters in between, and leaves that
denote no index. If all leaves denote one, the leaf indices are the old ones in the same order with
the amount added to each, and so is the largest, if there is one. -/
theorem shift_action {text : String} {amount more : Nat}
    (hroom : ∀ digits, Token.leaf digits ∈ scan text →
      ∀ index, readNat64? digits = some index → index + amount + more ≤ largestNat64) :
    shift text 0 = text ∧
      shift (shift text amount) more = shift text (amount + more) ∧
      List.Forall₂ (Token.MovedBy amount) (scan text) (scan (shift text amount)) ∧
      ((∀ digits, Token.leaf digits ∈ scan text → (readNat64? digits).isSome) →
        leafIndices (shift text amount) = (leafIndices text).map (· + amount) ∧
          maxLeaf? (shift text amount) = (maxLeaf? text).map (· + amount)) := by
  have hdenoted : ∀ token ∈ scan text, ∀ index ∈ token.denoted?,
      index + amount + more ≤ largestNat64 := by
    intro token htoken index hindex
    cases token with
    | plain c => cases hindex
    | literal body => cases hindex
    | leaf digits => exact hroom digits htoken index hindex
  refine ⟨shift_zero text, shift_shift hdenoted, ?_, ?_⟩
  · apply movedBy_shift
    intro token htoken index hindex
    exact Nat.le_trans (Nat.le_add_right _ more) (hdenoted token htoken index hindex)
  · intro hreads
    -- every leaf index is one that a leaf denotes, so there is room for all of them
    have hfits : ∀ index ∈ leafIndices text, index + amount ≤ largestNat64 := by
      intro index hindex
      obtain ⟨token, htoken, hleaf⟩ := List.mem_filterMap.1 hindex
      cases token with
      | plain c => cases hleaf
      | literal body => cases hleaf
      | leaf digits =>
          obtain ⟨denoted, hread⟩ := Option.isSome_iff_exists.1 (hreads digits htoken)
          have hsame : denoted = index := by simpa [Token.leafIndex?, hread] using hleaf
          subst hsame
          exact Nat.le_trans (Nat.le_add_right _ more) (hroom digits htoken denoted hread)
    have hindices := leafIndices_shift hfits
    refine ⟨hindices, ?_⟩
    rw [maxLeaf?, hindices, max?_map_add]
    rfl

/-- A text with a literal, leading zeros, the index zero, a word that is no leaf, and a literal that
is left open, so that the leaves behind it count. -/
def crowdedText : String :=
  "x=\"M5\" ∧ M007.a(M0) ROM12 M9x y=\"M99 M3"

/-- Indices that get more digits, and digits that lose their leading zeros, keep their places. -/
theorem shift_action_crowdedText :
    (∀ digits, Token.leaf digits ∈ scan crowdedText →
        ∀ index, readNat64? digits = some index → index + 3 + 990 ≤ largestNat64) ∧
      (∀ digits, Token.leaf digits ∈ scan crowdedText → (readNat64? digits).isSome) ∧
      shift (shift crowdedText 3) 990 = "x=\"M5\" ∧ M1000.a(M993) ROM12 M9x y=\"M1092 M996" ∧
      List.Forall₂ (Token.MovedBy 3) (scan crowdedText) (scan (shift crowdedText 3)) ∧
      leafIndices (shift crowdedText 3) = [10, 3, 102, 6] ∧
      maxLeaf? (shift crowdedText 3) = some 102 := by
  have hroom : ∀ digits, Token.leaf digits ∈ scan crowdedText →
      ∀ index, readNat64? digits = some index → index + 3 + 990 ≤ largestNat64 := by
    have htokens : ∀ token ∈ scan crowdedText, ∀ index ∈ token.denoted?,
        index + 3 + 990 ≤ largestNat64 := by decide +kernel
    exact fun digits hleaf index hread => htokens _ hleaf index hread
  have hreads : ∀ digits, Token.leaf digits ∈ scan crowdedText → (readNat64? digits).isSome := by
    have htokens : ∀ token ∈ scan crowdedText, token.denoted? = token.leafIndex? := by
      decide +kernel
    intro digits hleaf
    exact Option.isSome_iff_exists.2 ⟨_, htokens _ hleaf⟩
  have hboth : shift crowdedText (3 + 990) =
      "x=\"M5\" ∧ M1000.a(M993) ROM12 M9x y=\"M1092 M996" := by decide +kernel
  have hindices : leafIndices crowdedText = [7, 0, 99, 3] := by decide +kernel
  obtain ⟨-, htwice, hmoved, hleaves⟩ := shift_action hroom
  obtain ⟨hlist, hmax⟩ := hleaves hreads
  refine ⟨hroom, hreads, htwice.trans hboth, hmoved, ?_, ?_⟩
  · rw [hlist, hindices]
    rfl
  · rw [hmax, maxLeaf?, hindices]
    rfl

end EventAlgebra
