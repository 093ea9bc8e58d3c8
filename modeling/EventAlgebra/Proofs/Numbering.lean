import EventAlgebra.Proofs.Archive

/-!
# The numbering of leaves

In the algebra of an event that is compiled at any point of a plain history, the leaves between
parentheses are numbered from `1` to the number of leaves, without a gap and from left to right,
and every other leaf is one of them. The algebra is the print of a tree, and so the numbering is
that of the tree.
-/

set_option autoImplicit false

namespace EventAlgebra

open Text

/-- The numbering of leaves in a text that has `count` of them: each stands once between
parentheses, in order, and no other index is used. -/
structure NumberedTo (text : String) (count : Nat) : Prop where
  enclosed : enclosedLeaves text = List.range' 1 count
  range : ∀ index ∈ leafIndices text, 1 ≤ index ∧ index ≤ count
  largest : maxLeaf? text = some count

/-- The algebra of a plain definition is numbered to its number of leaves. -/
theorem Definition.Plain.numberedTo {definition : Definition} (h : definition.Plain) :
    NumberedTo (definition.tree.print 1) definition.tree.leaves := by
  have hbound : 1 + definition.tree.leaves ≤ largestNat64 := by
    have hlt := h.leaves_lt
    omega
  refine ⟨Tree.enclosedLeaves_print h.tree hbound, ?_, h.maxLeaf?_print⟩
  intro index hindex
  have hrange := Tree.mem_leafIndices_print h.tree hbound index hindex
  omega

/-- A plain form without faults that is compiled and saved after any plain history of a store that
is kept nowhere gives an algebra numbered to its number of leaves. -/
theorem compiled_numberedTo {m : Type → Type} [Monad m] [Files m] [LawfulMonad m]
    (changes : List Change) (hchanges : ∀ change ∈ changes, change.Plain) (form : Form)
    (request : Request) (hvalidate : form.validate = .ok request) (hplain : request.Plain)
    (date : String) :
    ∃ compiled : Compiled,
      (Store.inMemory.performAll changes >>= fun store =>
          Prod.fst <$> (Store.compileForm date form true).run.run store) =
        (pure (.ok compiled) : m (Except Error Compiled)) ∧
      NumberedTo compiled.expression compiled.leaves := by
  have hagrees := Library.agrees_after hchanges
  have hrelation := Form.decimal_of_validate hvalidate
  obtain ⟨hexpression, hleaves, -⟩ := hagrees.compile hplain
  refine ⟨(Library.after changes).compile .positional request, ?_, ?_⟩
  · rw [Store.performAll_inMemory, pure_bind, Store.run_compileForm, map_pure,
      Library.compileForm_of_validate _ hvalidate]
  · rw [hexpression, hleaves]
    exact (Archive.plain_define hagrees.plain hplain hrelation).numberedTo

/-- A form on two events of the nested history, with a leaf inside a literal. -/
def echoForm : Form :=
  ⟨" Echo ", ⟨"EXISTING", "Late", [⟨"arg1", "M30"⟩]⟩, ⟨"EXISTING", "Pass", []⟩,
    ⟨"sequential", "after", "2.5", "", "", ""⟩, [⟨"M2.sf", "<=", "M1.ef", "-4"⟩], false, .blank⟩

/-- The request of that form. -/
def echoRequest : Request :=
  ⟨"Echo", ⟨.saved "Late", [⟨"arg1", "M30"⟩]⟩, ⟨.saved "Pass", []⟩,
    .sequential .after (.numeric "2.5"), [⟨"M2.sf", .le, "M1.ef", some (-4)⟩], false,
    .boundariesOnly⟩

theorem compiled_numberedTo_echo :
    (∀ change ∈ nestedHistory, change.Plain) ∧ echoForm.validate = .ok echoRequest ∧
      echoRequest.Plain ∧ ∃ compiled : Compiled,
        (Store.inMemory.performAll nestedHistory >>= fun store =>
            Prod.fst <$> (Store.compileForm "d5" echoForm true).run.run store) =
          (pure (.ok compiled) : StateM Desk (Except Error Compiled)) ∧
        NumberedTo compiled.expression compiled.leaves :=
  have hchanges : ∀ change ∈ nestedHistory, change.Plain := by decide +kernel
  have hvalidate : echoForm.validate = .ok echoRequest := rfl
  have hplain : echoRequest.Plain := by decide +kernel
  ⟨hchanges, hvalidate, hplain,
    compiled_numberedTo nestedHistory hchanges echoForm echoRequest hvalidate hplain "d5"⟩

end EventAlgebra
