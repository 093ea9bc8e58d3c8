import EventAlgebra.Layout
import Mathlib.Data.List.Infix

/-!
# Filling in the stored procedure

The stored procedure is made by replacing the placeholders of a template one after the other, and a
part that was filled in early is searched for the later placeholders. What comes of it can be told
piece by piece where no occurrence of a placeholder goes across a joint (`replaceAll_append`), and
none does where a character that no placeholder has stands on one side of the joint.

The fixed texts of the template have such a character at both ends, so that a placeholder is
replaced in each part by itself (`replaceAll_completed`). That gives the procedure of any name,
signature and expression (`procedure_eq_completed`). If no placeholder occurs in the name, it goes
to its two places and what stands behind it does not depend on it (`procedure_eq_named`).
-/

set_option autoImplicit false

namespace EventAlgebra

namespace Text

/-! ## Replacing in pieces -/

/-- A pattern occurs in a text. -/
def Occurs (pattern text : String) : Prop :=
  pattern.toList <:+: text.toList

instance (pattern text : String) : Decidable (Occurs pattern text) :=
  inferInstanceAs (Decidable (pattern.toList <:+: text.toList))

/-- No occurrence of a pattern goes across the joint of two texts, since one of the characters
beside the joint is not in the pattern. -/
def Apart (pattern before after : List Char) : Prop :=
  (∀ c ∈ before.getLast?, c ∉ pattern) ∨ ∀ c ∈ after.head?, c ∉ pattern

theorem replaceAllChars_cons_of_match {first c : Char} {others rest : List Char}
    (h : first :: others <+: c :: rest) (replacement : List Char) :
    replaceAllChars first others replacement (c :: rest) =
      replacement ++ replaceAllChars first others replacement (rest.drop others.length) := by
  obtain ⟨rfl, hothers⟩ := List.cons_prefix_cons.1 h
  rw [replaceAllChars, if_pos]
  simpa using hothers

theorem replaceAllChars_cons_of_no_match {first c : Char} {others rest : List Char}
    (h : ¬ first :: others <+: c :: rest) (replacement : List Char) :
    replaceAllChars first others replacement (c :: rest) =
      c :: replaceAllChars first others replacement rest := by
  rw [replaceAllChars, if_neg]
  intro htest
  rw [Bool.and_eq_true, beq_iff_eq, List.isPrefixOf_iff_prefix] at htest
  exact h (List.cons_prefix_cons.2 ⟨htest.1.symm, htest.2⟩)

/-- A text in which the pattern does not occur stays as it is. -/
theorem replaceAllChars_of_absent {first : Char} {others text : List Char}
    (h : ¬ first :: others <:+: text) (replacement : List Char) :
    replaceAllChars first others replacement text = text := by
  induction text with
  | nil => rw [replaceAllChars]
  | cons c rest ih =>
      have hmatch : ¬ first :: others <+: c :: rest := fun hmatch => h hmatch.isInfix
      have hrest : ¬ first :: others <:+: rest :=
        fun hrest => h (hrest.trans (List.suffix_cons c rest).isInfix)
      rw [replaceAllChars_cons_of_no_match hmatch, ih hrest]

/-- At the front of two texts apart from each other, the pattern stands in the first or not at
all. -/
theorem Apart.prefix_append_iff {pattern before after : List Char}
    (h : Apart pattern before after) (hbefore : before ≠ []) :
    pattern <+: before ++ after ↔ pattern <+: before := by
  constructor
  · rintro ⟨tail, htail⟩
    rcases List.append_eq_append_iff.1 htail with ⟨rest, hrest, -⟩ | ⟨overlap, hover, hafter⟩
    · exact ⟨rest, hrest.symm⟩
    · -- the pattern would go across the joint, with a character from each side
      cases overlap with
      | nil => exact ⟨[], by simpa using hover⟩
      | cons c overlap =>
          exfalso
          subst hover
          rcases h with hlast | hhead
          · apply hlast (before.getLast hbefore) (List.getLast?_eq_some_getLast hbefore)
            exact List.mem_append_left _ (List.getLast_mem hbefore)
          · exact hhead c (by rw [hafter]; rfl) (by simp)
  · exact fun hmatch => hmatch.trans (List.prefix_append before after)

theorem Apart.drop {pattern before after : List Char} (h : Apart pattern before after)
    (count : Nat) : Apart pattern (before.drop count) after := by
  refine h.imp (fun hlast c hc => hlast c ?_) id
  rw [List.getLast?_drop] at hc
  split at hc
  · cases hc
  · exact hc

/-- A pattern is replaced in each of two parts by itself, if no occurrence goes across the joint. -/
theorem replaceAllChars_append {first : Char} {others before after : List Char}
    (h : Apart (first :: others) before after) (replacement : List Char) :
    replaceAllChars first others replacement (before ++ after) =
      replaceAllChars first others replacement before ++
        replaceAllChars first others replacement after := by
  -- what is left of the first text gets shorter, by a whole pattern where one is found
  induction hlength : before.length using Nat.strong_induction_on generalizing before with
  | _ length ih =>
      cases before with
      | nil => rw [replaceAllChars, List.nil_append, List.nil_append]
      | cons c rest =>
          have hrest : Apart (first :: others) rest after := h.drop 1
          have hiff := h.prefix_append_iff (List.cons_ne_nil c rest)
          rw [List.cons_append] at hiff
          rw [List.length_cons] at hlength
          by_cases hmatch : first :: others <+: c :: rest
          · have hfits : others.length ≤ rest.length := by
              simpa using hmatch.length_le
            have hshorter : (rest.drop others.length).length < length := by
              rw [List.length_drop]
              omega
            rw [List.cons_append, replaceAllChars_cons_of_match (hiff.2 hmatch),
              replaceAllChars_cons_of_match hmatch, List.drop_append_of_le_length hfits,
              ih _ hshorter (hrest.drop others.length) rfl, List.append_assoc]
          · rw [List.cons_append, replaceAllChars_cons_of_no_match (mt hiff.1 hmatch),
              replaceAllChars_cons_of_no_match hmatch, ih rest.length (by omega) hrest rfl,
              List.cons_append]

/-- A text in which a pattern does not occur has nothing to be replaced. -/
theorem replaceAll_of_not_occurs {pattern text : String} (h : ¬ Occurs pattern text)
    (replacement : String) : replaceAll pattern replacement text = text := by
  unfold Occurs at h
  unfold replaceAll
  cases hpattern : pattern.toList with
  | nil => rfl
  | cons first others =>
      rw [hpattern] at h
      simp only [replaceAllChars_of_absent h, String.ofList_toList]

/-- A text that is nothing but the pattern is replaced as a whole. -/
theorem replaceAll_self {pattern : String} (h : pattern ≠ "") (replacement : String) :
    replaceAll pattern replacement pattern = replacement := by
  unfold replaceAll
  cases hpattern : pattern.toList with
  | nil => exact absurd (String.toList_eq_nil_iff.1 hpattern) h
  | cons first others =>
      simp only [replaceAllChars_cons_of_match (List.prefix_refl (first :: others)),
        List.drop_length, replaceAllChars, List.append_nil, String.ofList_toList]

theorem replaceAll_append {pattern before after : String}
    (h : Apart pattern.toList before.toList after.toList) (replacement : String) :
    replaceAll pattern replacement (before ++ after) =
      replaceAll pattern replacement before ++ replaceAll pattern replacement after := by
  unfold replaceAll
  cases hpattern : pattern.toList with
  | nil => rfl
  | cons first others =>
      rw [hpattern] at h
      simp only [String.toList_append, replaceAllChars_append h, String.ofList_append]

end Text

namespace Layout

open Text

/-! ## The texts of a procedure -/

/-- What stands in front of the first place of the name. -/
def heading : String := "-- ISEQL Definition for "

/-- What stands between the two places of the name. -/
def creation : String := "\nCREATE OR REPLACE FUNCTION "

/-- What stands between the name and the signature. -/
def columnsOpening : String := " (source VARCHAR) \nRETURNS TABLE ("

/-- What stands between the signature and the expression. -/
def queryOpening : String :=
  ") AS $$\nBEGIN\n    RETURN QUERY \n    SELECT * FROM \n    \n"

/-- What stands behind the expression. -/
def closing : String := ";\nEND;\n$$ LANGUAGE plpgsql;"

/-- What a template has behind the signature. -/
def queryPart : String := queryOpening ++ ("__EXPRESSION__" ++ closing)

/-- A text with a name in the two places in which a procedure has it. -/
def named (name rest : String) : String :=
  heading ++ (name ++ (creation ++ (name ++ rest)))

/-- What a procedure has behind its name. A signature in which the placeholder of the expression
occurs is filled in too. -/
def procedureRest (signature expression : String) : String :=
  replaceAll "__EXPRESSION__" expression
    (columnsOpening ++ (signature ++ queryPart))

/-- The placeholders of the template. -/
def placeholders : List String := ["__NAME__", "__SIGNATURE__", "__EXPRESSION__"]

/-- The fixed texts of a procedure. -/
def fixedTexts : List String := [heading, creation, columnsOpening, queryOpening, closing]

/-- The stored procedure with its three parts in their places. -/
def completed (name signature expression : String) : String :=
  "-- ISEQL Definition for " ++ name ++ "\nCREATE OR REPLACE FUNCTION " ++ name ++
    " (source VARCHAR) \nRETURNS TABLE (" ++ signature ++
    ") AS $$\nBEGIN\n    RETURN QUERY \n    SELECT * FROM \n    \n" ++ expression ++
    ";\nEND;\n$$ LANGUAGE plpgsql;"

theorem completed_eq_named (name signature expression : String) :
    completed name signature expression =
      named name (columnsOpening ++ (signature ++ (queryOpening ++ (expression ++ closing)))) := by
  unfold completed
  simp only [String.append_assoc]
  rfl

/-! ## Replacing a placeholder -/

/-- A fixed text has no placeholder in it, and a character at each end that no placeholder has. -/
theorem fixedTexts_apart : ∀ pattern ∈ placeholders, ∀ text ∈ fixedTexts,
    ¬ Occurs pattern text ∧ text.toList ≠ [] ∧ (∀ c ∈ text.toList.head?, c ∉ pattern.toList) ∧
      ∀ c ∈ text.toList.getLast?, c ∉ pattern.toList := by
  -- at most one character at each end has to be looked at, instead of all characters
  have hends : ∀ pattern ∈ placeholders, ∀ text ∈ fixedTexts,
      ¬ Occurs pattern text ∧ text.toList ≠ [] ∧ text.toList.head?.all (· ∉ pattern.toList) ∧
        text.toList.getLast?.all (· ∉ pattern.toList) := by
    decide +kernel
  simpa only [Option.all_eq_true, decide_eq_true_eq, Option.mem_def] using hends

section Placeholder

variable {pattern : String} (h : pattern ∈ placeholders) (replacement : String)

include h

theorem replaceAll_fixed_append {text : String} (htext : text ∈ fixedTexts) (after : String) :
    replaceAll pattern replacement (text ++ after) =
      text ++ replaceAll pattern replacement after := by
  obtain ⟨hnone, -, -, hlast⟩ := fixedTexts_apart pattern h text htext
  rw [replaceAll_append (.inl hlast), replaceAll_of_not_occurs hnone]

theorem apart_fixed {text : String} (htext : text ∈ fixedTexts) (before after : String) :
    Apart pattern.toList before.toList (text ++ after).toList := by
  obtain ⟨-, hne, hhead, -⟩ := fixedTexts_apart pattern h text htext
  refine .inr fun c hc => hhead c ?_
  rwa [String.toList_append, List.head?_append_of_ne_nil _ hne] at hc

theorem replaceAll_append_fixed {text : String} (htext : text ∈ fixedTexts) (before : String) :
    replaceAll pattern replacement (before ++ text) =
      replaceAll pattern replacement before ++ text := by
  have hapart := apart_fixed h htext before ""
  rw [String.append_empty] at hapart
  rw [replaceAll_append hapart, replaceAll_of_not_occurs (fixedTexts_apart pattern h text htext).1]

/-- Replacing a placeholder on both sides of a fixed text. -/
theorem replaceAll_around_fixed {text : String} (htext : text ∈ fixedTexts)
    (before after : String) :
    replaceAll pattern replacement (before ++ (text ++ after)) =
      replaceAll pattern replacement before ++
        (text ++ replaceAll pattern replacement after) := by
  rw [replaceAll_append (apart_fixed h htext before after),
    replaceAll_fixed_append h replacement htext]

end Placeholder

/-- A placeholder is replaced in each part by itself. -/
theorem replaceAll_completed {pattern : String} (h : pattern ∈ placeholders)
    (replacement name signature expression : String) :
    replaceAll pattern replacement (completed name signature expression) =
      completed (replaceAll pattern replacement name) (replaceAll pattern replacement signature)
        (replaceAll pattern replacement expression) := by
  rw [completed_eq_named, completed_eq_named, named, named,
    replaceAll_fixed_append h replacement (by simp [fixedTexts]),
    replaceAll_around_fixed h replacement (by simp [fixedTexts]),
    replaceAll_around_fixed h replacement (by simp [fixedTexts]),
    replaceAll_around_fixed h replacement (by simp [fixedTexts]),
    replaceAll_append_fixed h replacement (by simp [fixedTexts])]

/-! ## Filling in -/

theorem procedureTemplate_eq :
    procedureTemplate = completed "__NAME__" "__SIGNATURE__" "__EXPRESSION__" := by
  decide +kernel

/-- No placeholder occurs in one that is replaced later. -/
theorem placeholders_apart : placeholders.Pairwise fun pattern later => ¬ Occurs pattern later := by
  decide +kernel

/-- A name that was filled in is searched for the later placeholders. -/
def searchedName (name signature expression : String) : String :=
  replaceAll "__EXPRESSION__" expression (replaceAll "__SIGNATURE__" signature name)

/-- The expression goes to its place as it is. The signature is searched for the placeholder of the
expression, and the name for both. -/
theorem procedure_eq_completed (name signature expression : String) :
    procedure name signature expression =
      completed (searchedName name signature expression)
        (replaceAll "__EXPRESSION__" expression signature) expression := by
  have hlater := placeholders_apart
  simp only [placeholders, List.pairwise_cons, List.forall_mem_cons] at hlater
  obtain ⟨⟨hsignature, hexpression, -⟩, ⟨hexpression', -⟩, -⟩ := hlater
  rw [procedure, procedureTemplate_eq, replaceAll_completed (by decide),
    replaceAll_self (by decide), replaceAll_of_not_occurs hsignature,
    replaceAll_of_not_occurs hexpression, replaceAll_completed (by decide),
    replaceAll_self (by decide), replaceAll_of_not_occurs hexpression',
    replaceAll_completed (by decide), replaceAll_self (by decide), searchedName]

theorem procedureRest_eq (signature expression : String) :
    procedureRest signature expression =
      columnsOpening ++ (replaceAll "__EXPRESSION__" expression signature ++
        (queryOpening ++ (expression ++ closing))) := by
  have hmem : "__EXPRESSION__" ∈ placeholders := by decide
  rw [procedureRest, queryPart, replaceAll_fixed_append hmem _ (by simp [fixedTexts]),
    replaceAll_around_fixed hmem _ (by simp [fixedTexts]),
    replaceAll_append_fixed hmem _ (by simp [fixedTexts]), replaceAll_self (by decide)]

/-- A name in which no placeholder occurs goes to its two places, and what stands behind them does
not depend on it. -/
theorem procedure_eq_named {name : String} (h : ∀ pattern ∈ placeholders, ¬ Occurs pattern name)
    (signature expression : String) :
    procedure name signature expression = named name (procedureRest signature expression) := by
  have hsignature : ¬ Occurs "__SIGNATURE__" name := h _ (by decide)
  have hexpression : ¬ Occurs "__EXPRESSION__" name := h _ (by decide)
  rw [procedure_eq_completed, completed_eq_named, searchedName,
    replaceAll_of_not_occurs hsignature, replaceAll_of_not_occurs hexpression, procedureRest_eq]

end Layout

end EventAlgebra
