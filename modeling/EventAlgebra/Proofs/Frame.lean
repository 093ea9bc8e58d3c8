import EventAlgebra.Layout
import EventAlgebra.Proofs.Scanning
import Mathlib.Data.List.Flatten
import Mathlib.Data.List.Perm.Subperm

/-!
# Frames

A frame is the fixed text of a layout: an opening, dividers, and a closing, between which parts are
set. The fixed texts of a sound frame keep every leaf and literal of a part inside the part, and
bring in no leaf of their own. So a filled frame closes its literals if its parts do
(`Frame.closed_fill`), its leaves, and those of them that parentheses enclose, are those of the
parts (`Frame.read_fill`), and renumbering it renumbers the parts (`Frame.shift_fill`). Renumbering
asks less of the parts than reading does: the last one may leave a literal open
(`Frame.Sound.shift_fill_last`). Two fillings of one frame are equal only if their parts are, when
no part of the first is longer than its counterpart (`Frame.fill_inj`).

The layouts of expressions, operands, columns and constraints are sound frames, and so is a list of
texts with a separator.
-/

set_option autoImplicit false

namespace EventAlgebra

open Text

/-! ## Readings -/

/-- A way to list leaves of a text that lists those of its parts one after the other. -/
structure LeafReading where
  read : String → List Nat
  append : ∀ {a b : String}, Closed a → EndsApart a.toList ∨ StartsApart b.toList →
    read (a ++ b) = read a ++ read b
  leafFree : ∀ {text : String}, LeafFree text → read text = []

namespace LeafReading

/-- All leaves. -/
def all : LeafReading where
  read := leafIndices
  append hclosed hborder := leafIndices_append (Or.inl hclosed) hborder
  leafFree h := leafFree_iff.1 h

/-- The leaves that stand immediately between parentheses. -/
def enclosed : LeafReading where
  read := enclosedLeaves
  append hclosed hborder := enclosedLeaves_append (Or.inl hclosed) hborder
  leafFree h := enclosedLeaves_of_leafFree h

end LeafReading

/-! ## Fixed texts -/

/-- The fixed texts of a layout. The first part stands behind the opening, every other one behind
its divider, and the closing at the end. -/
structure Frame where
  opening : String
  dividers : List String
  closing : String
deriving DecidableEq, Repr

namespace Frame

/-- The parts after the first, each behind its divider, and the closing. -/
def follow (closing : String) : List String → List String → String
  | divider :: dividers, part :: parts => divider ++ (part ++ follow closing dividers parts)
  | _, _ => closing

/-- The frame with parts set in it. -/
def fill (frame : Frame) (first : String) (others : List String) : String :=
  frame.opening ++ (first ++ follow frame.closing frame.dividers others)

/-- A text that can stand between two parts: it keeps them apart and has neither quotes nor
leaves. -/
structure IsDivider (text : String) : Prop where
  nonempty : text.toList ≠ []
  startsApart : StartsApart text.toList
  endsApart : EndsApart text.toList
  quoteFree : QuoteFree text
  leafFree : LeafFree text

/-- A frame whose fixed texts keep the parts apart and have neither quotes nor leaves. -/
structure Sound (frame : Frame) : Prop where
  opening : EndsApart frame.opening.toList ∧ QuoteFree frame.opening ∧ LeafFree frame.opening
  dividers : ∀ divider ∈ frame.dividers, IsDivider divider
  closing : StartsApart frame.closing.toList ∧ QuoteFree frame.closing ∧ LeafFree frame.closing

instance (text : String) : Decidable (IsDivider text) :=
  decidable_of_iff (text.toList ≠ [] ∧ StartsApart text.toList ∧ EndsApart text.toList ∧
      QuoteFree text ∧ LeafFree text)
    ⟨fun ⟨a, b, c, d, e⟩ => ⟨a, b, c, d, e⟩, fun ⟨a, b, c, d, e⟩ => ⟨a, b, c, d, e⟩⟩

instance (frame : Frame) : Decidable frame.Sound :=
  decidable_of_iff
    ((EndsApart frame.opening.toList ∧ QuoteFree frame.opening ∧ LeafFree frame.opening) ∧
      (∀ divider ∈ frame.dividers, IsDivider divider) ∧
      (StartsApart frame.closing.toList ∧ QuoteFree frame.closing ∧ LeafFree frame.closing))
    ⟨fun ⟨a, b, c⟩ => ⟨a, b, c⟩, fun ⟨a, b, c⟩ => ⟨a, b, c⟩⟩

/-! ## Filled frames -/

section Fill

variable {closing : String} {dividers : List String}

theorem startsApart_follow (hclosing : StartsApart closing.toList)
    (hdividers : ∀ divider ∈ dividers, IsDivider divider) (parts : List String) :
    StartsApart (follow closing dividers parts).toList := by
  cases dividers with
  | nil => exact hclosing
  | cons divider dividers =>
      cases parts with
      | nil => exact hclosing
      | cons part parts =>
          have hdivider := hdividers divider (by simp)
          intro c hc
          apply hdivider.startsApart c
          obtain ⟨d, ds, hds⟩ := List.exists_cons_of_ne_nil hdivider.nonempty
          simpa [follow, hds] using hc

theorem closed_follow (hclosing : StartsApart closing.toList ∧ QuoteFree closing)
    (hdividers : ∀ divider ∈ dividers, IsDivider divider) {parts : List String}
    (hparts : ∀ part ∈ parts, Closed part) : Closed (follow closing dividers parts) := by
  induction dividers generalizing parts with
  | nil => exact closed_of_quoteFree hclosing.2
  | cons divider dividers ih =>
      cases parts with
      | nil => exact closed_of_quoteFree hclosing.2
      | cons part parts =>
          rw [List.forall_mem_cons] at hdividers hparts
          have hrest := startsApart_follow hclosing.1 hdividers.2 parts
          -- both borders of the part are kept apart by the fixed texts around it
          have hpart := closed_append hparts.1 (ih hdividers.2 hparts.2) (Or.inr hrest)
          exact closed_append (closed_of_quoteFree hdividers.1.quoteFree) hpart
            (Or.inl hdividers.1.endsApart)

theorem read_follow (reading : LeafReading)
    (hclosing : StartsApart closing.toList ∧ LeafFree closing)
    (hdividers : ∀ divider ∈ dividers, IsDivider divider) {parts : List String}
    (hparts : ∀ part ∈ parts, Closed part) (hlength : parts.length ≤ dividers.length) :
    reading.read (follow closing dividers parts) = parts.flatMap reading.read := by
  induction dividers generalizing parts with
  | nil =>
      cases parts with
      | nil => exact reading.leafFree hclosing.2
      | cons part parts => simp at hlength
  | cons divider dividers ih =>
      cases parts with
      | nil => exact reading.leafFree hclosing.2
      | cons part parts =>
          rw [List.forall_mem_cons] at hdividers hparts
          have hdivider := hdividers.1
          have hrest := startsApart_follow hclosing.1 hdividers.2 parts
          rw [follow, reading.append (closed_of_quoteFree hdivider.quoteFree)
              (Or.inl hdivider.endsApart), reading.append hparts.1 (Or.inr hrest),
            reading.leafFree hdivider.leafFree, ih hdividers.2 hparts.2 (by simpa using hlength)]
          rfl

/-- When all parts but the last close their literals, what follows a part either ends no literal of
it, since the part is closed, or has no quote to end one. -/
theorem closed_or_quoteFree_follow (hclosing : QuoteFree closing) {part : String}
    {parts : List String} (hparts : ∀ member ∈ (part :: parts).dropLast, Closed member) :
    (Closed part ∨ QuoteFree (follow closing dividers parts)) ∧
      ∀ member ∈ parts.dropLast, Closed member := by
  cases parts with
  | nil =>
      refine ⟨Or.inr ?_, by simp⟩
      cases dividers with
      | nil => exact hclosing
      | cons divider dividers => exact hclosing
  | cons next parts =>
      rw [List.dropLast_cons_cons, List.forall_mem_cons] at hparts
      exact ⟨Or.inl hparts.1, hparts.2⟩

theorem shift_follow (hclosing : StartsApart closing.toList ∧ QuoteFree closing ∧ LeafFree closing)
    (hdividers : ∀ divider ∈ dividers, IsDivider divider) {parts : List String}
    (hparts : ∀ part ∈ parts.dropLast, Closed part) (amount : Nat) :
    shift (follow closing dividers parts) amount =
      follow closing dividers (parts.map (shift · amount)) := by
  induction dividers generalizing parts with
  | nil => exact shift_of_leafFree hclosing.2.2 amount
  | cons divider dividers ih =>
      cases parts with
      | nil => exact shift_of_leafFree hclosing.2.2 amount
      | cons part parts =>
          rw [List.forall_mem_cons] at hdividers
          have hdivider := hdividers.1
          have hrest := startsApart_follow hclosing.1 hdividers.2 parts
          obtain ⟨hopen, hlater⟩ := closed_or_quoteFree_follow hclosing.2.1 hparts
          rw [follow, shift_append amount (Or.inl (closed_of_quoteFree hdivider.quoteFree))
              (Or.inl hdivider.endsApart), shift_append amount hopen (Or.inr hrest),
            shift_of_leafFree hdivider.leafFree, ih hdividers.2 hlater]
          rfl

end Fill

/-- Renumbering a filled frame renumbers its parts, whatever literals the last part leaves open. -/
theorem Sound.shift_fill_last {frame : Frame} (h : frame.Sound) {first : String}
    {others : List String} (hparts : ∀ part ∈ (first :: others).dropLast, Closed part)
    (amount : Nat) :
    shift (frame.fill first others) amount =
      frame.fill (shift first amount) (others.map (shift · amount)) := by
  have hrest := startsApart_follow h.closing.1 h.dividers others
  obtain ⟨hopen, hlater⟩ := closed_or_quoteFree_follow h.closing.2.1 hparts
  rw [fill, shift_append amount (Or.inl (closed_of_quoteFree h.opening.2.1)) (Or.inl h.opening.1),
    shift_append amount hopen (Or.inr hrest), shift_of_leafFree h.opening.2.2,
    shift_follow h.closing h.dividers hlater amount]
  rfl

section Sound

variable {frame : Frame} (h : frame.Sound) {first : String} {others : List String}
  (hfirst : Closed first) (hothers : ∀ part ∈ others, Closed part)

include h hfirst hothers

/-- A sound frame closes its literals if its parts do. -/
theorem closed_fill : Closed (frame.fill first others) := by
  have hrest := startsApart_follow h.closing.1 h.dividers others
  have hfollow := closed_follow ⟨h.closing.1, h.closing.2.1⟩ h.dividers hothers
  exact closed_append (closed_of_quoteFree h.opening.2.1)
    (closed_append hfirst hfollow (Or.inr hrest)) (Or.inl h.opening.1)

/-- The leaves of a filled frame are those of its parts. -/
theorem read_fill (reading : LeafReading) (hlength : others.length ≤ frame.dividers.length) :
    reading.read (frame.fill first others) =
      reading.read first ++ others.flatMap reading.read := by
  have hrest := startsApart_follow h.closing.1 h.dividers others
  rw [fill, reading.append (closed_of_quoteFree h.opening.2.1) (Or.inl h.opening.1),
    reading.append hfirst (Or.inr hrest), reading.leafFree h.opening.2.2,
    read_follow reading ⟨h.closing.1, h.closing.2.2⟩ h.dividers hothers hlength]
  rfl

/-- Renumbering a filled frame renumbers its parts. -/
theorem shift_fill (amount : Nat) :
    shift (frame.fill first others) amount =
      frame.fill (shift first amount) (others.map (shift · amount)) := by
  refine h.shift_fill_last (fun part hpart => ?_) amount
  exact List.forall_mem_cons.2 ⟨hfirst, hothers⟩ part (List.dropLast_subset _ hpart)

end Sound

theorem head?_fill {frame : Frame} (h : frame.opening.toList ≠ []) (first : String)
    (others : List String) :
    (frame.fill first others).toList.head? = frame.opening.toList.head? := by
  rw [fill, String.toList_append, List.head?_append_of_ne_nil _ h]

theorem getLast?_follow {closing : String} (h : closing.toList ≠ [])
    (dividers parts : List String) :
    (follow closing dividers parts).toList.getLast? = closing.toList.getLast? := by
  induction dividers generalizing parts with
  | nil => rfl
  | cons divider dividers ih =>
      cases parts with
      | nil => rfl
      | cons part parts =>
          obtain ⟨last, hlast⟩ : ∃ last, closing.toList.getLast? = some last :=
            ⟨_, List.getLast?_eq_some_getLast h⟩
          simp [follow, List.getLast?_append, ih parts, hlast]

theorem getLast?_fill {frame : Frame} (h : frame.closing.toList ≠ []) (first : String)
    (others : List String) :
    (frame.fill first others).toList.getLast? = frame.closing.toList.getLast? := by
  obtain ⟨last, hlast⟩ : ∃ last, frame.closing.toList.getLast? = some last :=
    ⟨_, List.getLast?_eq_some_getLast h⟩
  simp [fill, List.getLast?_append, getLast?_follow h, hlast]

/-! ## Comparing filled frames -/

/-- Texts in order, none of them longer than the one beside it. -/
abbrev NoLonger : List String → List String → Prop :=
  List.Forall₂ fun shorter longer => shorter.length ≤ longer.length

/-- Two texts that are put together alike, with neither part longer, have the same parts. -/
theorem append_inj_of_length_le {a b c d : String} (h : a ++ b = c ++ d)
    (hfirst : a.length ≤ c.length) (hsecond : b.length ≤ d.length) : a = c ∧ b = d := by
  have hlength := congrArg String.length h
  rw [String.length_append, String.length_append] at hlength
  rw [← String.toList_inj, String.toList_append, String.toList_append] at h
  obtain ⟨hac, hbd⟩ := List.append_inj h (by simp only [String.length_toList]; omega)
  exact ⟨String.toList_inj.1 hac, String.toList_inj.1 hbd⟩

theorem length_follow_le {shorter longer : List String} (h : NoLonger shorter longer)
    (closing : String) (dividers : List String) :
    (follow closing dividers shorter).length ≤ (follow closing dividers longer).length := by
  induction h generalizing dividers with
  | nil => exact Nat.le_refl _
  | cons hpart hparts ih =>
      cases dividers with
      | nil => exact Nat.le_refl _
      | cons divider dividers =>
          have hrest := ih dividers
          simp only [follow, String.length_append]
          omega

theorem follow_inj {shorter longer : List String} (h : NoLonger shorter longer) {closing : String}
    {dividers : List String} (hlength : longer.length ≤ dividers.length)
    (heq : follow closing dividers shorter = follow closing dividers longer) :
    shorter = longer := by
  induction h generalizing dividers with
  | nil => rfl
  | cons hpart hparts ih =>
      cases dividers with
      | nil => simp at hlength
      | cons divider dividers =>
          have hrest := length_follow_le hparts closing dividers
          have hsame := (append_inj_of_length_le heq (Nat.le_refl _)
            (by simp only [String.length_append]; omega)).2
          obtain ⟨rfl, hfollow⟩ := append_inj_of_length_le hsame hpart hrest
          rw [ih (by simpa using hlength) hfollow]

section Compare

variable {first first' : String} {others others' : List String}
  (hfirst : first.length ≤ first'.length) (hothers : NoLonger others others')

include hfirst hothers

/-- Shorter parts do not make a filled frame longer. -/
theorem length_fill_le (frame : Frame) :
    (frame.fill first others).length ≤ (frame.fill first' others').length := by
  have hfollow := length_follow_le hothers frame.closing frame.dividers
  simp only [fill, String.length_append]
  omega

/-- A frame filled with parts that are no longer is the same text only if all parts are the
same. -/
theorem fill_inj {frame : Frame} (hlength : others'.length ≤ frame.dividers.length)
    (heq : frame.fill first others = frame.fill first' others') :
    first = first' ∧ others = others' := by
  have hfollow := length_follow_le hothers frame.closing frame.dividers
  have hsame := (append_inj_of_length_le heq (Nat.le_refl _)
    (by simp only [String.length_append]; omega)).2
  obtain ⟨rfl, hrest⟩ := append_inj_of_length_le hsame hfirst hfollow
  exact ⟨rfl, follow_inj hothers hlength hrest⟩

end Compare

end Frame

/-! ## Separated lists -/

namespace Frame

/-- The frame of a list of `count + 1` texts with a separator. -/
def separated (separator : String) (count : Nat) : Frame :=
  ⟨"", List.replicate count separator, ""⟩

theorem sound_separated {separator : String} (h : IsDivider separator) (count : Nat) :
    (separated separator count).Sound := by
  have hempty : QuoteFree "" ∧ LeafFree "" := ⟨by decide, leafFree_of_notMem (by decide)⟩
  refine ⟨⟨fun c hc => ?_, hempty⟩, ?_, fun c hc => ?_, hempty⟩
  · simp [separated] at hc
  · intro divider hdivider
    rw [List.eq_of_mem_replicate hdivider]
    exact h
  · simp [separated] at hc

theorem joinWith_cons (separator first : String) (others : List String) :
    joinWith separator (first :: others) =
      (separated separator others.length).fill first others := by
  induction others generalizing first with
  | nil => simp [joinWith, fill, separated, follow]
  | cons next others ih =>
      rw [joinWith, ih]
      simp [fill, separated, follow, List.replicate_succ, String.append_assoc]

end Frame

theorem toList_joinWith {separator : String} {parts : List String} (h : parts ≠ []) :
    (joinWith separator parts).toList ++ separator.toList =
      parts.flatMap fun part => part.toList ++ separator.toList := by
  induction parts with
  | nil => exact absurd rfl h
  | cons part parts ih =>
      cases parts with
      | nil => simp [joinWith]
      | cons next parts =>
          rw [joinWith, List.flatMap_cons, ← ih (by simp)]
          simp only [String.toList_append, List.append_assoc]

/-- Fewer parts do not make a separated list longer. -/
theorem length_joinWith_le (separator : String) {parts parts' : List String}
    (h : parts.Subperm parts') :
    (joinWith separator parts).length ≤ (joinWith separator parts').length := by
  by_cases hnil : parts = []
  · simp [hnil, joinWith]
  · have hnil' : parts' ≠ [] := by
      intro hnil'
      rw [hnil', List.subperm_nil] at h
      exact hnil h
    -- each part, with a separator behind it, is compared on its own
    obtain ⟨middle, hperm, hsublist⟩ := h
    have hlength := (hsublist.flatMap fun part => part.toList ++ separator.toList).length_le
    rw [(hperm.flatMap_right _).length_eq, ← toList_joinWith hnil, ← toList_joinWith hnil']
      at hlength
    simpa only [List.length_append, String.length_toList, Nat.add_le_add_iff_right] using hlength

section Separated

variable {separator : String} (h : Frame.IsDivider separator) {parts : List String}
  (hparts : ∀ part ∈ parts, Closed part)

include h hparts

theorem closed_joinWith : Closed (joinWith separator parts) := by
  cases parts with
  | nil => exact closed_of_quoteFree (show QuoteFree "" by decide)
  | cons first others =>
      rw [List.forall_mem_cons] at hparts
      rw [Frame.joinWith_cons]
      exact Frame.closed_fill (Frame.sound_separated h _) hparts.1 hparts.2

theorem read_joinWith (reading : LeafReading) :
    reading.read (joinWith separator parts) = parts.flatMap reading.read := by
  cases parts with
  | nil =>
      show reading.read "" = []
      exact reading.leafFree (leafFree_of_notMem (by decide))
  | cons first others =>
      rw [List.forall_mem_cons] at hparts
      rw [Frame.joinWith_cons, Frame.read_fill (Frame.sound_separated h _) hparts.1 hparts.2 reading
        (by simp [Frame.separated])]
      rfl

theorem shift_joinWith (amount : Nat) :
    shift (joinWith separator parts) amount = joinWith separator (parts.map (shift · amount)) := by
  cases parts with
  | nil =>
      show shift "" amount = ""
      exact shift_of_leafFree (leafFree_of_notMem (by decide)) amount
  | cons first others =>
      rw [List.forall_mem_cons] at hparts
      rw [Frame.joinWith_cons, Frame.shift_fill (Frame.sound_separated h _) hparts.1 hparts.2,
        List.map_cons, Frame.joinWith_cons, List.length_map]

end Separated

/-! ## The layouts -/

namespace Frame

/-- The frame of an expression that relates two operands: the projection, then the predicate, the
first operand, the operator and the second operand. -/
def relational : Frame where
  opening := "π_\x7b "
  dividers := [" \x7d (\n  σ_\x7b ", " \x7d (\n    ", " \n    ", " \n    "]
  closing := "\n  ) \n)"

/-- The frame of an exclusion: the projection, then the two operands and the predicate. -/
def exclusion : Frame where
  opening := "π_\x7b "
  dividers := [" \x7d (\n  ( \n    ", " \n  ) \n  MINUS \n  ( \n    ", " \n  ) \n  WHERE "]
  closing := "\n)"

/-- The frame of an algebra on lines of its own. -/
def group : Frame where
  opening := "( \n "
  dividers := []
  closing := " \n )"

/-- The frame of an algebra on lines of its own under a selection: the conditions, then the
algebra. -/
def selectedGroup : Frame where
  opening := "σ_\x7b "
  dividers := [" \x7d ( \n "]
  closing := " \n )"

/-- The frame of a selection on one leaf: the conditions, then the leaf in its parentheses. -/
def selection : Frame where
  opening := "σ_\x7b "
  dividers := [" \x7d"]
  closing := ""

/-- The frame of a column: the source, then the alias. -/
def column : Frame where
  opening := ""
  dividers := [" AS "]
  closing := ""

/-- The frames of the layouts are sound. -/
theorem sound_layouts :
    ∀ frame ∈ [relational, exclusion, group, selectedGroup, selection, column], frame.Sound := by
  decide +kernel

theorem sound_relational : relational.Sound := sound_layouts _ (by simp)
theorem sound_exclusion : exclusion.Sound := sound_layouts _ (by simp)
theorem sound_group : group.Sound := sound_layouts _ (by simp)
theorem sound_selectedGroup : selectedGroup.Sound := sound_layouts _ (by simp)
theorem sound_selection : selection.Sound := sound_layouts _ (by simp)
theorem sound_column : column.Sound := sound_layouts _ (by simp)

/-- The separators of the layouts keep texts apart. -/
theorem isDivider_separators : ∀ separator ∈ [" ∧ ", ", ", " "], IsDivider separator := by
  decide +kernel

theorem isDivider_and : IsDivider " ∧ " := isDivider_separators _ (by simp)
theorem isDivider_comma : IsDivider ", " := isDivider_separators _ (by simp)
theorem isDivider_space : IsDivider " " := isDivider_separators _ (by simp)

end Frame

namespace Layout

theorem relational_eq_fill (projection predicate first operator second : String) :
    relational projection predicate first operator second =
      Frame.relational.fill projection [predicate, first, operator, second] := by
  unfold relational
  simp only [String.append_assoc]
  rfl

theorem exclusion_eq_fill (projection predicate first second : String) :
    exclusion projection predicate first second =
      Frame.exclusion.fill projection [first, second, predicate] := by
  unfold exclusion
  simp only [String.append_assoc]
  rfl

theorem grouped_nil (algebra : String) : grouped [] algebra = Frame.group.fill algebra [] := by
  simp [grouped, Frame.group, Frame.fill, Frame.follow, String.append_assoc]

theorem grouped_cons (condition : String) (conditions : List String) (algebra : String) :
    grouped (condition :: conditions) algebra =
      Frame.selectedGroup.fill (conjunction (condition :: conditions)) [algebra] := by
  simp [grouped, Frame.selectedGroup, Frame.fill, Frame.follow, String.append_assoc]

theorem selection_eq_fill (conditions : List String) (leaf : String) :
    selection conditions leaf =
      Frame.selection.fill (conjunction conditions) ["(" ++ (leaf ++ ")")] := by
  have hdivider : " \x7d(" = " \x7d" ++ "(" := by decide
  simp only [selection, Frame.selection, Frame.fill, Frame.follow, hdivider, String.append_assoc,
    String.append_empty]

theorem call_eq_append (name leaf : String) : call name leaf = name ++ ("(" ++ (leaf ++ ")")) := by
  simp [call, String.append_assoc]

end Layout

end EventAlgebra
