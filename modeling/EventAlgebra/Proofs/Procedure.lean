import EventAlgebra.Compilation
import EventAlgebra.Proofs.Filling
import EventAlgebra.Proofs.Frame

/-!
# The text of a stored procedure

A stored procedure should be fixed text around a name, a signature and an expression
(`Layout.completed`). It is made by replacing placeholders one after the other, so that a
placeholder in a part that was filled in early is filled in as well
(`Layout.procedure_eq_completed`). The expression comes last and is never searched; the name is
searched for two placeholders and the signature for one.

A signature and an expression are longer than their placeholders. So each placeholder that is found
makes the procedure longer than it should be, and the procedure is as it should be exactly if none
is found (`procedure_compile_iff`).
-/

set_option autoImplicit false

namespace EventAlgebra

namespace Text

/-! ## Occurrences of a pattern -/

/-- In two texts apart from each other, a pattern occurs in one of them or not at all. -/
theorem Apart.infix_append_iff {pattern before after : List Char}
    (h : Apart pattern before after) (hpattern : pattern ≠ []) :
    pattern <:+: before ++ after ↔ pattern <:+: before ∨ pattern <:+: after := by
  induction before with
  | nil => simp [hpattern]
  | cons c rest ih =>
      have hstarts := h.prefix_append_iff (List.cons_ne_nil c rest)
      rw [List.cons_append] at hstarts
      rw [List.cons_append, List.infix_cons_iff, hstarts, ih (h.drop 1), List.infix_cons_iff,
        or_assoc]

/-- A pattern occurs on one side of a text that has no character of it. -/
theorem occurs_around_iff {pattern between : String} (hpattern : pattern ≠ "")
    (hbetween : between ≠ "") (hapart : ∀ c ∈ between.toList, c ∉ pattern.toList)
    (before after : String) :
    Occurs pattern (before ++ between ++ after) ↔ Occurs pattern before ∨ Occurs pattern after := by
  have hne : pattern.toList ≠ [] := mt String.toList_eq_nil_iff.1 hpattern
  have hfront : Apart pattern.toList before.toList between.toList :=
    .inr fun c hc => hapart c (List.mem_of_mem_head? hc)
  have hback : Apart pattern.toList (before.toList ++ between.toList) after.toList := by
    refine .inl fun c hc => hapart c ?_
    rw [List.getLast?_append_of_ne_nil _ (mt String.toList_eq_nil_iff.1 hbetween)] at hc
    exact List.mem_of_getLast? hc
  have hnone : ¬ pattern.toList <:+: between.toList := by
    intro hfound
    obtain ⟨c, hc⟩ := List.exists_mem_of_ne_nil _ hne
    exact hapart c (hfound.subset hc) hc
  simp only [Occurs, String.toList_append]
  rw [hback.infix_append_iff hne, hfront.infix_append_iff hne, or_iff_left hnone]

/-- A pattern without characters of the separator occurs in one of the parts. -/
theorem occurs_joinWith_iff {pattern separator : String} (hpattern : pattern ≠ "")
    (hseparator : separator ≠ "") (hapart : ∀ c ∈ separator.toList, c ∉ pattern.toList)
    (parts : List String) :
    Occurs pattern (joinWith separator parts) ↔ ∃ part ∈ parts, Occurs pattern part := by
  induction parts with
  | nil =>
      have hne : pattern.toList ≠ [] := mt String.toList_eq_nil_iff.1 hpattern
      simp [joinWith, Occurs, hne]
  | cons part parts ih =>
      cases parts with
      | nil => simp [joinWith]
      | cons next parts =>
          rw [joinWith, occurs_around_iff hpattern hseparator hapart, ih]
          exact (List.exists_mem_cons_iff ..).symm

/-! ## Replacing by something longer -/

section Longer

variable {first : Char} {others replacement : List Char}

theorem length_le_replaceAllChars (h : others.length + 1 ≤ replacement.length)
    (text : List Char) :
    text.length ≤ (replaceAllChars first others replacement text).length := by
  fun_induction replaceAllChars first others replacement text with
  | case1 => simp
  | case2 c rest htest ih =>
      rw [Bool.and_eq_true, List.isPrefixOf_iff_prefix] at htest
      have hfits : others.length ≤ rest.length := htest.2.length_le
      rw [List.length_drop] at ih
      rw [List.length_append, List.length_cons]
      omega
  | case3 c rest htest ih =>
      rw [List.length_cons, List.length_cons]
      omega

/-- A pattern that occurs is found, and the text gets longer. -/
theorem length_lt_replaceAllChars (h : others.length + 1 < replacement.length)
    {text : List Char} (hoccurs : first :: others <:+: text) :
    text.length < (replaceAllChars first others replacement text).length := by
  -- up to the first match the text is copied, and behind it nothing gets shorter
  induction text with
  | nil => simp at hoccurs
  | cons c rest ih =>
      by_cases hmatch : first :: others <+: c :: rest
      · have hfits : others.length ≤ rest.length := by
          simpa using hmatch.length_le
        have hrest : (rest.drop others.length).length ≤
            (replaceAllChars first others replacement (rest.drop others.length)).length :=
          length_le_replaceAllChars h.le _
        rw [List.length_drop] at hrest
        rw [replaceAllChars_cons_of_match hmatch, List.length_append, List.length_cons]
        omega
      · have hlater := ih ((List.infix_cons_iff.1 hoccurs).resolve_left hmatch)
        rw [replaceAllChars_cons_of_no_match hmatch, List.length_cons, List.length_cons]
        omega

end Longer

theorem length_le_replaceAll {pattern replacement : String}
    (h : pattern.length ≤ replacement.length) (text : String) :
    text.length ≤ (replaceAll pattern replacement text).length := by
  unfold replaceAll
  cases hpattern : pattern.toList with
  | nil => exact le_refl _
  | cons first others =>
      rw [← String.length_toList, hpattern, ← String.length_toList] at h
      rw [String.length_ofList, ← String.length_toList]
      exact length_le_replaceAllChars h text.toList

theorem length_lt_replaceAll {pattern replacement text : String} (hpattern : pattern ≠ "")
    (h : pattern.length < replacement.length) (hoccurs : Occurs pattern text) :
    text.length < (replaceAll pattern replacement text).length := by
  unfold Occurs at hoccurs
  unfold replaceAll
  cases hchars : pattern.toList with
  | nil => exact absurd (String.toList_eq_nil_iff.1 hchars) hpattern
  | cons first others =>
      rw [← String.length_toList, hchars, ← String.length_toList] at h
      rw [hchars] at hoccurs
      rw [String.length_ofList, ← String.length_toList]
      exact length_lt_replaceAllChars h hoccurs

end Text

namespace Layout

open Text

/-! ## The parts in their places -/

/-- The fixed text of a stored procedure, around four places. -/
def procedureFrame : Frame :=
  ⟨heading, [creation, columnsOpening, queryOpening], closing⟩

theorem completed_eq_fill (name signature expression : String) :
    completed name signature expression =
      procedureFrame.fill name [name, signature, expression] :=
  completed_eq_named name signature expression

/-- A procedure is as it should be exactly if no placeholder occurs where one is searched for. -/
theorem procedure_eq_completed_iff {name signature expression : String}
    (hsignature : "__SIGNATURE__".length < signature.length)
    (hexpression : "__EXPRESSION__".length < expression.length) :
    procedure name signature expression = completed name signature expression ↔
      ¬ Occurs "__SIGNATURE__" name ∧ ¬ Occurs "__EXPRESSION__" name ∧
        ¬ Occurs "__EXPRESSION__" signature := by
  rw [procedure_eq_completed]
  constructor
  · intro h
    rw [completed_eq_fill, completed_eq_fill] at h
    have hname := length_le_replaceAll hsignature.le name
    have hsearched := length_le_replaceAll hexpression.le
      (replaceAll "__SIGNATURE__" signature name)
    have hcolumns := length_le_replaceAll hexpression.le signature
    -- no part gets shorter, so that none gets longer
    obtain ⟨hkept, hothers⟩ := Frame.fill_inj (hname.trans hsearched)
      (.cons (hname.trans hsearched) (.cons hcolumns (.cons (le_refl _) .nil))) (le_refl _) h.symm
    obtain ⟨-, hkeptSignature, -⟩ := by simpa only [List.cons.injEq] using hothers
    have hfirst : ¬ Occurs "__SIGNATURE__" name := by
      intro hoccurs
      have hlonger := length_lt_replaceAll (by decide) hsignature hoccurs
      rw [← hkept] at hsearched
      omega
    rw [replaceAll_of_not_occurs hfirst] at hkept
    refine ⟨hfirst, fun hoccurs => ?_, fun hoccurs => ?_⟩
    · have hlonger := length_lt_replaceAll (by decide) hexpression hoccurs
      rw [← hkept] at hlonger
      exact lt_irrefl _ hlonger
    · have hlonger := length_lt_replaceAll (by decide) hexpression hoccurs
      rw [← hkeptSignature] at hlonger
      exact lt_irrefl _ hlonger
  · rintro ⟨hfirst, hsecond, hthird⟩
    rw [searchedName, replaceAll_of_not_occurs hfirst, replaceAll_of_not_occurs hsecond,
      replaceAll_of_not_occurs hthird]

end Layout

open Text

/-! ## Signatures and expressions -/

/-- A placeholder occurs in a signature if it occurs in the name of a column. -/
theorem occurs_renderSignature_iff (columns : List Column) :
    Occurs "__EXPRESSION__" (renderSignature columns) ↔
      ∃ column ∈ columns, Occurs "__EXPRESSION__" column.name := by
  have hcolumn : ∀ column : Column,
      Occurs "__EXPRESSION__" column.render ↔ Occurs "__EXPRESSION__" column.name := by
    intro column
    have htype : ¬ Occurs "__EXPRESSION__" column.type.render := by
      cases column.type with
      | varchar => decide
      | integer => decide
    rw [Column.render, occurs_around_iff (by decide) (by decide) (by simp), or_iff_left htype]
  rw [renderSignature, occurs_joinWith_iff (by decide) (by decide) (by simp)]
  simp only [List.mem_map, exists_exists_and_eq_and, hcolumn]

/-- The boundaries alone make a signature longer than its placeholder. -/
theorem Projection.lt_length_signature (naming : Naming) (projection : Projection) :
    "__SIGNATURE__".length < (renderSignature (projection.output naming).signature).length := by
  let boundaries : List Column := [⟨"sf", .integer⟩, ⟨"ef", .integer⟩]
  -- the other columns stand in front of the boundaries
  have hsublist : boundaries.Sublist (projection.output naming).signature :=
    List.sublist_append_right _ _
  have hle : (renderSignature boundaries).length ≤
      (renderSignature (projection.output naming).signature).length :=
    length_joinWith_le ", " (hsublist.map Column.render).subperm
  refine lt_of_lt_of_le ?_ hle
  decide +kernel

/-- The layout alone makes an expression longer than its placeholder. -/
theorem Request.lt_length_expression (request : Request) (starts : Starts)
    (clause first second : String) :
    "__EXPRESSION__".length < (request.expression starts clause first second).length := by
  -- what is filled in may be empty: the fixed text of the layout is long enough
  have hempty : ∀ text : String, "".length ≤ text.length := fun text => Nat.zero_le _
  unfold Request.expression
  split
  · rw [Layout.exclusion_eq_fill]
    refine lt_of_lt_of_le ?_ (Frame.length_fill_le (hempty _)
      (.cons (hempty _) (.cons (hempty _) (.cons (hempty _) .nil))) _)
    decide +kernel
  · rw [Layout.relational_eq_fill]
    refine lt_of_lt_of_le ?_ (Frame.length_fill_le (hempty _)
      (.cons (hempty _) (.cons (hempty _) (.cons (hempty _) (.cons (hempty _) .nil)))) _)
    decide +kernel

/-- The procedure of a compiled request has the name in two places, the signature and the
expression, where the expression is as it was compiled, the name is searched for two placeholders,
and the signature for one. So it has its three parts and nothing else exactly if no placeholder is
found: the name has neither `__SIGNATURE__` nor `__EXPRESSION__` in it, and no column has
`__EXPRESSION__` in its name. -/
theorem procedure_compile_iff (library : Library) (naming : Naming) (request : Request) :
    let compiled := library.compile naming request
    let signature := renderSignature compiled.signature
    compiled.procedure =
        Layout.completed
          (replaceAll "__EXPRESSION__" compiled.expression
            (replaceAll "__SIGNATURE__" signature compiled.name))
          (replaceAll "__EXPRESSION__" compiled.expression signature) compiled.expression ∧
      (compiled.procedure = Layout.completed compiled.name signature compiled.expression ↔
        ¬ Occurs "__SIGNATURE__" compiled.name ∧ ¬ Occurs "__EXPRESSION__" compiled.name ∧
          ∀ column ∈ compiled.signature, ¬ Occurs "__EXPRESSION__" column.name) := by
  intro compiled signature
  refine ⟨Layout.procedure_eq_completed _ _ _, ?_⟩
  have hsignature : "__SIGNATURE__".length < signature.length :=
    Projection.lt_length_signature naming _
  have hexpression : "__EXPRESSION__".length < compiled.expression.length :=
    request.lt_length_expression _ _ _ _
  have hiff : compiled.procedure =
        Layout.completed compiled.name signature compiled.expression ↔
      ¬ Occurs "__SIGNATURE__" compiled.name ∧ ¬ Occurs "__EXPRESSION__" compiled.name ∧
        ¬ Occurs "__EXPRESSION__" signature :=
    Layout.procedure_eq_completed_iff hsignature hexpression
  rw [hiff, occurs_renderSignature_iff]
  simp only [not_exists, not_and]

/-- A request for an event of a name, with one column under an alias. -/
def labelledRequest (name label : String) : Request :=
  { Request.plain name ⟨.atomic "hasBall", []⟩ ⟨.atomic "inArea", []⟩ .before with
    projection := ⟨[⟨"M1.arg1", some label⟩], "M1.sf", "M2.ef"⟩ }

/-- A placeholder is an identifier. It does harm as a name or as an alias if it is replaced later
than that part is filled in, and only then. -/
theorem procedure_compile_iff_labelledRequest :
    let complete := fun name label =>
      let compiled := Library.empty.compile .quoted (labelledRequest name label)
      compiled.procedure =
        Layout.completed compiled.name (renderSignature compiled.signature) compiled.expression
    isIdentifier "__SIGNATURE__" ∧ ¬ complete "__SIGNATURE__" "who" ∧
      ¬ complete "Pass" "__EXPRESSION__" ∧ complete "__NAME__" "__SIGNATURE__" := by
  refine ⟨by decide +kernel, fun hcomplete => ?_, fun hcomplete => ?_, ?_⟩
  · exact ((procedure_compile_iff _ _ _).2.1 hcomplete).1 (by decide +kernel)
  · obtain ⟨-, -, hcolumns⟩ := (procedure_compile_iff _ _ _).2.1 hcomplete
    exact hcolumns ⟨"__EXPRESSION__", .varchar⟩ (by decide +kernel) (by decide +kernel)
  · exact (procedure_compile_iff _ _ _).2.2
      ⟨by decide +kernel, by decide +kernel, by decide +kernel⟩

end EventAlgebra
