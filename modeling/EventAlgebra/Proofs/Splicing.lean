import EventAlgebra.Proofs.Expression
import EventAlgebra.Proofs.Renumbering
import EventAlgebra.Proofs.Resolving

/-!
# Splicing further on

An operand that is resolved further on becomes the text that it becomes here, renumbered
(`resolve_moved`). Nothing is asked of the algebra that is stored: it may leave literals open, write
its indices with leading zeros, use the index zero or digits of another script.

Two things make this work. Renumbering twice is renumbering once by the sum (`shift_shift`), since
the tokens of a renumbered text are those of the text but for the indices in them. And the layout
around an algebra neither lends it a quote nor runs into one of its leaves, so that renumbering the
whole renumbers the algebra (`shift_grouped`).
-/

set_option autoImplicit false

namespace EventAlgebra

open Text

/-! ## Operands further on -/

/-- Renumbering a spliced algebra splices it in further on. -/
theorem shift_splice {algebra : String} {filters : List Filter} {start amount : Nat}
    (hfilters : ∀ filter ∈ filters, filter.Plain) (hstart : 1 ≤ start)
    (halgebra : ∀ index ∈ leafIndices algebra, index + (start - 1) + amount ≤ largestNat64)
    (schema : List SchemaField) (slots : Nat) (origin : Origin) (issues : List Issue) :
    shift (Resolved.splice algebra schema filters start slots origin issues).fragment amount =
      (Resolved.splice algebra schema filters (start + amount) slots origin issues).fragment := by
  have htwice : shift (shift algebra (start - 1)) amount = shift algebra (start - 1 + amount) := by
    apply shift_shift
    intro token htoken index hindex
    exact halgebra index (mem_leafIndices_of_denoted? htoken hindex)
  have hsum : start - 1 + amount = start + amount - 1 := by omega
  simp only [Resolved.splice]
  rw [shift_grouped schema hfilters, htwice, hsum]

/-- Let no string of an operand have a quote, and let neither its filter fields nor the name of its
event have a leaf. Resolved a number of leaves further on, it becomes the text that it becomes here
with all leaves renumbered by that number. It uses as many slots, has the same origin, and gives
rise to the same issues and warnings. This holds for any stored algebra, as long as no leaf within
the limit can grow too large. -/
theorem resolve_moved (library : Library) (definition : String) {operand : Operand}
    (hplain : operand.Plain) {start amount : Nat} (hstart : 1 ≤ start)
    (hbound : start + amount + leafLimit ≤ largestNat64) :
    library.resolve definition operand (start + amount) =
      { library.resolve definition operand start with
        fragment := shift (library.resolve definition operand start).fragment amount } := by
  have htext : QuoteFree operand.target.text := hplain.quoteFree _ (by simp [Operand.strings])
  have hsum : start + amount ≤ largestNat64 := by omega
  rcases library.resolve_everywhere definition operand with
    ⟨predicate, htarget, -, heq⟩ | ⟨name, issues, htarget, -, heq⟩ |
      ⟨name, algebra, origin, issues, -, hspliced, heq⟩
  · have hpredicate : QuoteFree predicate := by simpa [htarget, Target.text] using htext
    rw [heq, heq, shift_selection hpredicate hplain.filters hsum]
    rfl
  · have hquote : QuoteFree name := by simpa [htarget, Target.text] using htext
    have hname : LeafFree name :=
      hplain.leafFree name (by simp [Operand.labels, htarget, Target.reference?])
    rw [heq, heq, call_fragment, shift_call hquote start hname hsum,
      ← call_fragment name operand.filters (start + amount) issues]
    rfl
  · -- what is spliced in keeps within the limit, so its leaves have room to move
    have hlimit := Library.le_of_spliced? hspliced
    have halgebra : ∀ index ∈ leafIndices algebra, index + (start - 1) + amount ≤ largestNat64 := by
      intro index hindex
      have hindex := le_of_mem_leafIndices hindex
      omega
    rw [heq, heq, shift_splice hplain.filters hstart halgebra]
    rfl

/-- A library with an event whose algebra has leading zeros, the index zero, and a literal that is
left open, so that the leaves behind it count. -/
def openLiteralLibrary : Library :=
  .ofEvents [.withAlgebra "Open" [] "x=\"M5\" ∧ M007(M0) ∧ y=\"M2 M03"]

/-- That event, under a filter with a leaf in its value. -/
def openLiteralOperand : Operand :=
  ⟨.saved "Open", [⟨"who", "M1"⟩]⟩

theorem resolve_moved_openLiteral :
    let here := openLiteralLibrary.resolve "New" openLiteralOperand 3
    let further := openLiteralLibrary.resolve "New" openLiteralOperand (3 + 4)
    openLiteralOperand.Plain ∧ 1 ≤ 3 ∧ 3 + 4 + leafLimit ≤ largestNat64 ∧
      further = { here with fragment := shift here.fragment 4 } ∧
      further.fragment =
        "σ_\x7b who=\"M1\" \x7d ( \n x=\"M5\" ∧ M13(M6) ∧ y=\"M8 M9 \n )" := by
  intro here further
  have hplain : openLiteralOperand.Plain := by decide +kernel
  have hbound : 3 + 4 + leafLimit ≤ largestNat64 := by decide
  have hfragment : further.fragment =
      "σ_\x7b who=\"M1\" \x7d ( \n x=\"M5\" ∧ M13(M6) ∧ y=\"M8 M9 \n )" := by decide +kernel
  exact ⟨hplain, by decide, hbound,
    resolve_moved openLiteralLibrary "New" hplain (by decide) hbound, hfragment⟩

end EventAlgebra
