import EventAlgebra.Proofs.Clauses
import EventAlgebra.Proofs.Resolving

/-!
# Slots and indices

Leaf indices are numbers of 64 bits. The leaf counter of a compilation stops at the largest index,
digits that denote no index count as the largest one, and renumbering leaves a leaf alone that has
no room to move. A compilation meets none of these cases (`compile_exact`): what is spliced in
keeps within the limit of leaves, so its digits denote indices, and two operands within the limit
leave room for both of them.

The slots of the operands follow one another. An operand uses a slot unless all leaves of its
stored algebra are `M0`, and the leaves of the second operand stand behind the slots of the first
unless one of them was `M0` (`operand_ranges`). Nothing keeps that index out of stored algebra.
-/

set_option autoImplicit false

namespace EventAlgebra

open Text

/-! ## Renumbering without a bound -/

/-- Digits are read as the number that they denote. -/
theorem eq_digitRunValue_of_read {digits : List Char} {index : Nat}
    (h : readNat64? digits = some index) : index = digitRunValue digits := by
  unfold readNat64? at h
  split at h
  · exact (Option.some.inj h).symm
  · cases h

/-- Add `amount` to the number that the digits of a leaf denote, however large it gets. -/
def Token.moved (amount : Nat) : Token → Token
  | leaf digits => leaf (Nat.toDigits 10 (digitRunValue digits + amount))
  | token => token

/-- A text with `amount` added to every leaf index, however large they get. -/
def moveLeaves (text : String) (amount : Nat) : String :=
  String.ofList (Token.concat ((scan text).map (Token.moved amount)))

/-- Where no leaf counts as the largest index, the digits of every leaf denote its index. -/
theorem readNat64?_of_mem_scan {text : String}
    (h : ∀ index ∈ leafIndices text, index < largestNat64) {digits : List Char}
    (hleaf : Token.leaf digits ∈ scan text) : readNat64? digits = some (digitRunValue digits) := by
  have hindex : (readNat64? digits).getD largestNat64 < largestNat64 := by
    apply h
    exact List.mem_filterMap.2 ⟨_, hleaf, rfl⟩
  cases hread : readNat64? digits with
  | none =>
      rw [hread, Option.getD_none] at hindex
      exact absurd hindex (Nat.lt_irrefl _)
  | some index => rw [eq_digitRunValue_of_read hread]

/-- The number that the digits of a leaf denote is one of the leaf indices. -/
theorem digitRunValue_mem_leafIndices {text : String} {digits : List Char}
    (hleaf : Token.leaf digits ∈ scan text)
    (hread : readNat64? digits = some (digitRunValue digits)) :
    digitRunValue digits ∈ leafIndices text := by
  refine List.mem_filterMap.2 ⟨.leaf digits, hleaf, ?_⟩
  rw [Token.leafIndex?, hread, Option.getD_some]

/-- Renumbering moves every leaf by the exact amount, if none grows too large. -/
theorem shift_eq_moveLeaves {text : String} {amount : Nat} (hamount : amount ≠ 0)
    (h : ∀ index ∈ leafIndices text, index + amount ≤ largestNat64) :
    shift text amount = moveLeaves text amount := by
  -- a leaf that counts as the largest index could not be moved at all
  have hbelow : ∀ index ∈ leafIndices text, index < largestNat64 := by
    intro index hindex
    have hroom := h index hindex
    omega
  have hmap : (scan text).map (Token.shift amount) = (scan text).map (Token.moved amount) := by
    apply List.map_congr_left
    intro token htoken
    cases token with
    | plain c => rfl
    | literal body => rfl
    | leaf digits =>
        have hread := readNat64?_of_mem_scan hbelow htoken
        have hroom := h _ (digitRunValue_mem_leafIndices htoken hread)
        simp only [Token.shift, hread, if_pos hroom, Token.moved]
  rw [shift, if_neg hamount, hmap, moveLeaves]

/-! ## Stored algebra in its place -/

/-- What an algebra becomes from a start index on, in exact numbers: all its leaves denote indices
that have room to move, and from the second index on they have been moved by the slots in front. -/
structure Placed (algebra : String) (start : Nat) (placed : String) : Prop where
  denotes : ∀ digits, Token.leaf digits ∈ scan algebra →
    readNat64? digits = some (digitRunValue digits) ∧
      digitRunValue digits + (start - 1) ≤ largestNat64
  text : placed = if 1 < start then moveLeaves algebra (start - 1) else algebra

theorem placed_shift {algebra : String} {start : Nat}
    (halgebra : ∀ index ∈ leafIndices algebra, index ≤ leafLimit) (hstart : start ≤ 1 + leafLimit) :
    Placed algebra start (shift algebra (start - 1)) := by
  have hlimit : leafLimit + leafLimit < largestNat64 := by decide
  have hbelow : ∀ index ∈ leafIndices algebra, index < largestNat64 := by
    intro index hindex
    have hle := halgebra index hindex
    omega
  have hroom : ∀ index ∈ leafIndices algebra, index + (start - 1) ≤ largestNat64 := by
    intro index hindex
    have hle := halgebra index hindex
    omega
  constructor
  · intro digits hleaf
    have hread := readNat64?_of_mem_scan hbelow hleaf
    exact ⟨hread, hroom _ (digitRunValue_mem_leafIndices hleaf hread)⟩
  · split
    · apply shift_eq_moveLeaves _ hroom
      omega
    · -- nothing is in front of the first index
      have hzero : start - 1 = 0 := by omega
      rw [hzero, shift_zero]

/-- The leaves of spliced algebra keep within the slots that are counted for it. -/
theorem Library.le_slots_of_spliced? {library : Library} {operand : Operand} {algebra : String}
    (hspliced : library.spliced? operand = some algebra) (definition : String) (start : Nat) :
    ∀ index ∈ leafIndices algebra,
      index ≤ (library.resolve definition operand start).slots := by
  intro index hindex
  rw [slots_resolve, hspliced]
  exact le_of_mem_leafIndices hindex

/-- A fragment that holds stored algebra, as opposed to a selection or a call. -/
def Resolved.HoldsStored (resolved : Resolved) : Prop :=
  resolved.origin = .inlined ∨ resolved.origin = .priorVersion

/-- The fragment of an operand is the algebra of its event, in its place from a start index on,
under the conditions of the filters. -/
def Library.Inlines (library : Library) (operand : Operand) (start : Nat) (fragment : String) :
    Prop :=
  ∃ name algebra placed, operand.target = .saved name ∧ library.spliced? operand = some algebra ∧
    Placed algebra start placed ∧
    fragment = Layout.grouped (conditions (library.filterSchema name) operand.filters) placed

theorem Library.inlines_of_holdsStored {library : Library} {operand : Operand}
    {definition : String} {start : Nat} (hstart : start ≤ 1 + leafLimit)
    (h : (library.resolve definition operand start).HoldsStored) :
    library.Inlines operand start (library.resolve definition operand start).fragment := by
  rcases library.resolve_everywhere definition operand with
    ⟨predicate, -, -, heq⟩ | ⟨name, issues, -, -, heq⟩ |
      ⟨name, algebra, origin, issues, htarget, hspliced, heq⟩
  · rw [heq] at h
    rcases h with h | h <;> cases h
  · rw [heq] at h
    rcases h with h | h <;> cases h
  · rw [heq]
    refine ⟨name, algebra, _, htarget, hspliced, ?_, rfl⟩
    apply placed_shift _ hstart
    intro index hindex
    exact (library.le_slots_of_spliced? hspliced definition start index hindex).trans
      (library.slots_le definition operand start)

/-- No operand of a request uses more slots than the limit of leaves allows. The counter never stops
at the largest index and never comes to zero, so the second operand starts right behind the slots of
the first and the leaves are the slots of both. Where an operand becomes stored algebra, every leaf
of it denotes an index and is moved by the exact number of slots in front of the operand. -/
theorem compile_exact (library : Library) (naming : Naming) (request : Request) :
    let compiled := library.compile naming request
    let first := library.resolve request.name request.first 1
    let second := library.resolve request.name request.second compiled.secondStart
    (first.slots ≤ leafLimit ∧ second.slots ≤ leafLimit) ∧
      compiled.secondStart = 1 + first.slots ∧
      second.advance compiled.secondStart = compiled.secondStart + second.slots ∧
      compiled.leaves + 1 = second.advance compiled.secondStart ∧
      compiled.leaves = first.slots + second.slots ∧
      (first.HoldsStored → library.Inlines request.first 1 first.fragment) ∧
      (second.HoldsStored →
        library.Inlines request.second compiled.secondStart second.fragment) := by
  intro compiled first second
  have hstart : compiled.secondStart = 1 + first.slots := library.secondStart_compile naming request
  have hwithin : compiled.secondStart ≤ 1 + leafLimit := library.secondStart_le naming request
  have hadvance : second.advance compiled.secondStart = compiled.secondStart + second.slots :=
    library.advance_resolve request.name request.second _ hwithin
  have hleaves : compiled.leaves = first.slots + second.slots :=
    library.leaves_compile naming request
  refine ⟨⟨library.slots_le _ _ _, library.slots_le _ _ _⟩, hstart, hadvance, ?_, hleaves, ?_, ?_⟩
  · omega
  · exact Library.inlines_of_holdsStored (Nat.le_add_right 1 leafLimit)
  · exact Library.inlines_of_holdsStored hwithin

/-- A library with an event that uses the last leaf within the limit, and one that writes an index
with leading zeros. -/
def brimLibrary : Library :=
  .ofEvents [.withAlgebra "Brim" [] "(M1048576)", .withAlgebra "Padded" [] "(M007) Bef (M2)"]

/-- A request that puts the second of them behind the first. -/
def brimRequest : Request :=
  .plain "New" ⟨.saved "Brim", []⟩ ⟨.saved "Padded", []⟩ .before

theorem compile_exact_brim :
    let compiled := brimLibrary.compile .quoted brimRequest
    let first := brimLibrary.resolve brimRequest.name brimRequest.first 1
    let second := brimLibrary.resolve brimRequest.name brimRequest.second compiled.secondStart
    first.HoldsStored ∧ second.HoldsStored ∧
      second.fragment = "( \n (M1048583) Bef (M1048578) \n )" ∧
      compiled.secondStart = 1048577 ∧ compiled.leaves = first.slots + second.slots ∧
      brimLibrary.Inlines brimRequest.first 1 first.fragment ∧
      brimLibrary.Inlines brimRequest.second compiled.secondStart second.fragment := by
  intro compiled first second
  have hfirst : first.HoldsStored := Or.inl (by decide +kernel)
  have hsecond : second.HoldsStored := Or.inl (by decide +kernel)
  have hfragment : second.fragment = "( \n (M1048583) Bef (M1048578) \n )" := by decide +kernel
  have hstart : compiled.secondStart = 1048577 := by decide +kernel
  obtain ⟨-, -, -, -, hleaves, hinlines, hinlines'⟩ := compile_exact brimLibrary .quoted brimRequest
  exact ⟨hfirst, hsecond, hfragment, hstart, hleaves, hinlines hfirst, hinlines' hsecond⟩

/-! ## The ranges of operands -/

/-- An operand for which algebra is spliced in that has leaves, and all of them are `M0`. -/
def Library.Hollow (library : Library) (operand : Operand) : Prop :=
  ∃ algebra, library.spliced? operand = some algebra ∧ leafIndices algebra ≠ [] ∧
    ∀ index ∈ leafIndices algebra, index = 0

/-- An operand uses a slot exactly if it is not hollow. -/
theorem Library.slots_pos_iff (library : Library) (definition : String) (operand : Operand)
    (start : Nat) :
    1 ≤ (library.resolve definition operand start).slots ↔ ¬ library.Hollow operand := by
  rw [slots_resolve]
  cases hspliced : library.spliced? operand with
  | none => simp [Hollow, hspliced]
  | some algebra =>
      simp only [Hollow, hspliced, Option.some.injEq, exists_eq_left']
      cases hmax : maxLeaf? algebra with
      | none => simp [leafFree_iff.1 hmax]
      | some largest =>
          obtain ⟨hmem, hle⟩ := List.max?_eq_some_iff.1 hmax
          constructor
          · rintro hpos ⟨-, hzero⟩
            have hlargest := hzero largest hmem
            rw [Option.getD_some] at hpos
            omega
          · intro hnot
            -- with the largest index at zero, all of them would be
            by_contra hpos
            rw [Option.getD_some] at hpos
            apply hnot
            refine ⟨List.ne_nil_of_mem hmem, ?_⟩
            intro index hindex
            have hlargest := hle index hindex
            omega

/-- The leaves of spliced algebra, moved to a start index. -/
theorem Library.leafIndices_shift_spliced {library : Library} {operand : Operand}
    {algebra : String} (hspliced : library.spliced? operand = some algebra) {start : Nat}
    (hstart : start ≤ 1 + leafLimit) :
    leafIndices (shift algebra (start - 1)) = (leafIndices algebra).map (· + (start - 1)) := by
  have hlimit : leafLimit + leafLimit ≤ largestNat64 := by decide
  apply leafIndices_shift
  intro index hindex
  have hle := (le_of_mem_leafIndices hindex).trans (library.le_of_spliced? hspliced)
  omega

theorem leafName_inj {index index' : Nat} : leafName index = leafName index' ↔ index = index' := by
  rw [leafName, leafName, String.append_right_inj, toString_nat_inj]

/-- The root of a moved variable is the leaf that it was moved to. -/
theorem variableRoot_leafName (index : Nat) (term : String) :
    variableRoot (leafName index ++ variableField term) = leafName index := by
  have hdot : ∀ c ∈ (leafName index).toList, (c != '.') = true := by
    intro c hc
    rw [toList_leafName, List.mem_cons] at hc
    rcases hc with rfl | hc
    · decide
    · rw [bne_iff_ne]
      rintro rfl
      exact absurd (Nat.isDigit_of_mem_toDigits (by decide) (by decide) hc) (by decide)
  have hfield : (variableField term).toList.takeWhile (· != '.') = [] := by
    rcases variableField_cases term with h | h
    · rw [h]
      rfl
    · rw [h]
      simp
  rw [variableRoot, String.toList_append, List.takeWhile_append_of_pos hdot, hfield,
    List.append_nil, String.ofList_toList]

/-- A variable of the first operand and one of the second are moved to the same leaf exactly if the
operands start at the same leaf. -/
theorem variableRoot_remap_eq_iff {term term' : String} (hterm : variableRoot term = "M1")
    (hterm' : variableRoot term' = "M2") (starts : Starts) :
    variableRoot (remap starts term) = variableRoot (remap starts term') ↔
      starts.first = starts.second := by
  rw [remap_eq, if_pos hterm, remap_eq, if_neg (by rw [hterm']; decide), if_pos hterm',
    variableRoot_leafName, variableRoot_leafName, leafName_inj]

/-- An operand uses a slot exactly if it is not hollow. So the second operand starts behind the
first, and variables of the two are moved to different leaves, exactly if the first is not hollow;
and there are leaves from the second start on exactly if the second is not hollow. Stored algebra
keeps below the end of its operand. That of the second operand keeps behind the first operand
exactly if it does not use the index zero. -/
theorem operand_ranges (library : Library) (naming : Naming) (request : Request) :
    let compiled := library.compile naming request
    let first := library.resolve request.name request.first 1
    let second := library.resolve request.name request.second compiled.secondStart
    let starts : Starts := ⟨1, compiled.secondStart⟩
    (1 ≤ first.slots ↔ ¬ library.Hollow request.first) ∧
      (1 ≤ second.slots ↔ ¬ library.Hollow request.second) ∧
      (1 < compiled.secondStart ↔ ¬ library.Hollow request.first) ∧
      (compiled.secondStart ≤ compiled.leaves ↔ ¬ library.Hollow request.second) ∧
      (∀ term term', variableRoot term = "M1" → variableRoot term' = "M2" →
        (variableRoot (remap starts term) = variableRoot (remap starts term') ↔
          library.Hollow request.first)) ∧
      (∀ algebra, library.spliced? request.first = some algebra →
        ∀ index ∈ leafIndices algebra, index < compiled.secondStart) ∧
      ∀ algebra, library.spliced? request.second = some algebra →
        let placed := leafIndices (shift algebra (compiled.secondStart - 1))
        (∀ index ∈ placed, index ≤ compiled.leaves) ∧
          ((∀ index ∈ placed, compiled.secondStart ≤ index) ↔ 0 ∉ leafIndices algebra) := by
  intro compiled first second starts
  have hstart : compiled.secondStart = 1 + first.slots := library.secondStart_compile naming request
  have hwithin : compiled.secondStart ≤ 1 + leafLimit := library.secondStart_le naming request
  have hleaves : compiled.leaves = first.slots + second.slots :=
    library.leaves_compile naming request
  have hfirst : 1 ≤ first.slots ↔ ¬ library.Hollow request.first := library.slots_pos_iff _ _ _
  have hsecond : 1 ≤ second.slots ↔ ¬ library.Hollow request.second := library.slots_pos_iff _ _ _
  refine ⟨hfirst, hsecond, ?_, ?_, ?_, ?_, ?_⟩
  · rw [← hfirst]
    omega
  · rw [← hsecond]
    omega
  · intro term term' hterm hterm'
    rw [variableRoot_remap_eq_iff hterm hterm', ← not_iff_not, ← hfirst]
    show ¬ 1 = compiled.secondStart ↔ _
    omega
  · intro algebra hspliced index hindex
    have hle : index ≤ first.slots := library.le_slots_of_spliced? hspliced _ _ index hindex
    omega
  · intro algebra hspliced placed
    have hplaced : placed = (leafIndices algebra).map (· + (compiled.secondStart - 1)) :=
      Library.leafIndices_shift_spliced hspliced hwithin
    rw [hplaced]
    simp only [List.forall_mem_map]
    refine ⟨?_, ?_, ?_⟩
    · intro index hindex
      have hle : index ≤ second.slots := library.le_slots_of_spliced? hspliced _ _ index hindex
      omega
    · intro hbehind hzero
      have hlow := hbehind 0 hzero
      omega
    · intro hzero index hindex
      have hpos : index ≠ 0 := ne_of_mem_of_not_mem hindex hzero
      omega

/-- A library with an event whose only leaf is `M0`, and one that uses `M0` beside another leaf. -/
def zeroLibrary : Library :=
  .ofEvents [.withAlgebra "Zero" [] "(M0)", .withAlgebra "Mixed" [] "(M2) Bef (M0)"]

/-- A request on these two events. -/
def zeroRequest : Request :=
  .plain "New" ⟨.saved "Zero", []⟩ ⟨.saved "Mixed", []⟩ .before

/-- Both operands start at the first leaf, variables of the two are moved to it, and a leaf of the
second operand stands in front of its start. -/
theorem operand_ranges_zero :
    let compiled := zeroLibrary.compile .quoted zeroRequest
    let starts : Starts := ⟨1, compiled.secondStart⟩
    zeroLibrary.Hollow zeroRequest.first ∧
      zeroLibrary.spliced? zeroRequest.second = some "(M2) Bef (M0)" ∧
      ¬ 1 < compiled.secondStart ∧
      variableRoot (remap starts "M1.sf") = variableRoot (remap starts "M2.ef") ∧
      ¬ ∀ index ∈ leafIndices (shift "(M2) Bef (M0)" (compiled.secondStart - 1)),
        compiled.secondStart ≤ index := by
  intro compiled starts
  have hhollow : zeroLibrary.Hollow zeroRequest.first :=
    ⟨"(M0)", by decide +kernel, by decide +kernel, by decide +kernel⟩
  have hspliced : zeroLibrary.spliced? zeroRequest.second = some "(M2) Bef (M0)" := by
    decide +kernel
  obtain ⟨-, -, hstart, -, hvariables, -, hsecond⟩ :=
    operand_ranges zeroLibrary .quoted zeroRequest
  refine ⟨hhollow, hspliced, ?_, ?_, ?_⟩
  · intro hlt
    exact hstart.1 hlt hhollow
  · exact (hvariables "M1.sf" "M2.ef" rfl rfl).2 hhollow
  · intro hbehind
    exact (hsecond _ hspliced).2.1 hbehind (by decide +kernel)

end EventAlgebra
