import EventAlgebra.Proofs.Expression

/-!
# Event trees

A tree keeps the structure of an event's algebra: selections and calls at the leaves, requests at
the nodes, and groups where a saved event stands in for an operand. A tree is printed from a start
index on; the leaves are numbered from left to right, and the variables of a node are moved to the
first leaves of its operands. No text is renumbered for that.

A printed plain tree behaves like the structure it was printed from:

- `Tree.shift_print`: renumbering the text is printing from another start;
- `Tree.mem_leafIndices_print`: every leaf index is one of the tree's;
- `Tree.enclosedLeaves_print`: the leaves between parentheses are all of them, in order;
- `Tree.maxLeaf?_print`: the largest index printed from `1` on is the number of leaves.
-/

set_option autoImplicit false

namespace EventAlgebra

open Text

/-- The structure of an event's algebra. -/
inductive Tree where
  /-- The occurrences of a predicate under filters. -/
  | selection (predicate : String) (filters : List Filter)
  /-- A call of an event that is not expanded. -/
  | call (name : String)
  /-- The algebra of a saved event under filters, which its schema puts in order. -/
  | group (schema : List SchemaField) (filters : List Filter) (inner : Tree)
  /-- A request with the trees of its operands. -/
  | node (request : Request) (first second : Tree)
deriving DecidableEq, Repr

namespace Tree

/-- The number of leaves. -/
def leaves : Tree → Nat
  | selection _ _ => 1
  | call _ => 1
  | group _ _ inner => inner.leaves
  | node _ first second => first.leaves + second.leaves

/-- The text of a tree whose first leaf has the index `start`. -/
def print : Tree → Nat → String
  | selection predicate filters, start =>
    Layout.selection (("pred=\"" ++ predicate ++ "\"") :: conditions defaultSchema filters)
      (leafName start)
  | call name, start => Layout.call name (leafName start)
  | group schema filters inner, start =>
    Layout.grouped (conditions schema filters) (inner.print start)
  | node request first second, start =>
    let starts : Starts := ⟨start, start + first.leaves⟩
    request.expression starts ((request.projection.remap starts).output .positional).clause
      (first.print starts.first) (second.print starts.second)

/-- A tree all of whose requests, filters and names are plain. -/
def Plain : Tree → Prop
  | selection predicate filters => QuoteFree predicate ∧ ∀ filter ∈ filters, filter.Plain
  | call name => QuoteFree name ∧ LeafFree name
  | group _ filters inner => (∀ filter ∈ filters, filter.Plain) ∧ inner.Plain
  | node request first second =>
    (request.Plain ∧ request.relation.Decimal) ∧ first.Plain ∧ second.Plain

theorem leaves_pos (tree : Tree) : 0 < tree.leaves := by
  induction tree with
  | selection predicate filters => exact Nat.one_pos
  | call name => exact Nat.one_pos
  | group schema filters inner ih => exact ih
  | node request first second ihfirst ihsecond => exact Nat.add_pos_left ihfirst second.leaves

/-! ## Printing in frames -/

theorem print_selection (predicate : String) (filters : List Filter) (start : Nat) :
    (selection predicate filters).print start =
      (Resolved.selection predicate filters start).fragment := rfl

theorem print_call (name : String) (start : Nat) :
    (call name).print start = name ++ leafCell start :=
  Layout.call_eq_append _ _

theorem print_group (schema : List SchemaField) (filters : List Filter) (inner : Tree)
    (start : Nat) :
    (group schema filters inner).print start =
      Layout.grouped (conditions schema filters) (inner.print start) := rfl

theorem print_node (request : Request) (first second : Tree) (start : Nat) :
    (node request first second).print start =
      request.expressionAt ⟨start, start + first.leaves⟩ (first.print start)
        (second.print (start + first.leaves)) := rfl

/-- A printed tree closes its literals. -/
theorem closed_print {tree : Tree} (h : tree.Plain) (start : Nat) : Closed (tree.print start) := by
  induction tree generalizing start with
  | selection predicate filters =>
      rw [print_selection]
      exact closed_selection h.1 (fun filter hfilter => (h.2 filter hfilter).1) start
  | call name =>
      rw [print_call]
      exact closed_call h.1 start
  | group schema filters inner ih =>
      rw [print_group]
      exact closed_grouped schema (fun filter hfilter => (h.1 filter hfilter).1) (ih h.2 start)
  | node request first second ihfirst ihsecond =>
      rw [print_node]
      exact Request.closed_expressionAt (h.1.1.quoteFreeClauses h.1.2) _ (ihfirst h.2.1 _)
        (ihsecond h.2.2 _)

/-- Renumbering is printing from another start. The induction is on the tree; at a node both
operands and both starts move by the same amount. -/
theorem shift_print {tree : Tree} (h : tree.Plain) {start amount : Nat}
    (hbound : start + amount + tree.leaves ≤ largestNat64) :
    shift (tree.print start) amount = tree.print (start + amount) := by
  induction tree generalizing start with
  | selection predicate filters =>
      rw [print_selection, print_selection]
      exact shift_selection h.1 h.2 (by simp only [leaves] at hbound; omega)
  | call name =>
      rw [print_call, print_call]
      exact shift_call h.1 start h.2 (by simp only [leaves] at hbound; omega)
  | group schema filters inner ih =>
      rw [print_group, print_group, shift_grouped schema h.1, ih h.2 hbound]
  | node request first second ihfirst ihsecond =>
      simp only [leaves] at hbound
      -- the second operand moves along behind the first
      have hsecond : start + first.leaves + amount = start + amount + first.leaves := by omega
      rw [print_node, print_node, Request.shift_expressionAt h.1.1 h.1.2 (closed_print h.2.1 _)
          (closed_print h.2.2 _) (by show start + amount ≤ _; omega)
          (by show start + first.leaves + amount ≤ _; omega),
        ihfirst h.2.1 (by omega), ihsecond h.2.2 (by omega), Starts.shift, hsecond]

/-! ## The leaves of a printed tree -/

section Readings

variable (reading : LeafReading) {start : Nat}

theorem read_print_selection {predicate : String} {filters : List Filter}
    (h : (selection predicate filters).Plain) :
    reading.read ((selection predicate filters).print start) = reading.read (leafCell start) := by
  rw [print_selection, read_selection h.1 (fun filter hfilter => (h.2 filter hfilter).1),
    read_orderFilters h.2, List.nil_append]

theorem read_print_call {name : String} (h : (call name).Plain) :
    reading.read ((call name).print start) = reading.read (leafCell start) := by
  rw [print_call, read_call h.1, reading.leafFree h.2, List.nil_append]

theorem read_print_group {schema : List SchemaField} {filters : List Filter} {inner : Tree}
    (h : (group schema filters inner).Plain) :
    reading.read ((group schema filters inner).print start) = reading.read (inner.print start) := by
  rw [print_group, read_grouped schema (fun filter hfilter => (h.1 filter hfilter).1)
    (closed_print h.2 start), read_orderFilters h.1, List.nil_append]

end Readings

/-- Every leaf of a printed tree is one of the tree's. -/
theorem mem_leafIndices_print {tree : Tree} (h : tree.Plain) {start : Nat}
    (hbound : start + tree.leaves ≤ largestNat64) :
    ∀ index ∈ leafIndices (tree.print start), start ≤ index ∧ index < start + tree.leaves := by
  intro index hindex
  induction tree generalizing start with
  | selection predicate filters =>
      have hread : leafIndices ((selection predicate filters).print start) =
          leafIndices (leafCell start) := read_print_selection LeafReading.all h
      rw [hread] at hindex
      exact mem_leafIndices_leafCell (by omega) hindex
  | call name =>
      have hread : leafIndices ((call name).print start) = leafIndices (leafCell start) :=
        read_print_call LeafReading.all h
      rw [hread] at hindex
      exact mem_leafIndices_leafCell (by omega) hindex
  | group schema filters inner ih =>
      have hread : leafIndices ((group schema filters inner).print start) =
          leafIndices (inner.print start) := read_print_group LeafReading.all h
      rw [hread] at hindex
      exact ih h.2 hbound hindex
  | node request first second ihfirst ihsecond =>
      simp only [leaves] at hbound ⊢
      have hfirst := first.leaves_pos
      have hsecond := second.leaves_pos
      rw [print_node] at hindex
      -- a leaf of a clause is the first leaf of an operand
      rcases h.1.1.mem_leafIndices_expressionAt h.1.2 (closed_print h.2.1 _)
          (closed_print h.2.2 _) (by show start ≤ _; omega)
          (by show start + first.leaves ≤ _; omega) hindex with (hindex | hindex) | hindex | hindex
      · simp only at hindex
        omega
      · simp only at hindex
        omega
      · have hrange := ihfirst h.2.1 (by omega) hindex
        omega
      · have hrange := ihsecond h.2.2 (by omega) hindex
        omega

/-- The leaves between parentheses of a printed tree are all its leaves, from left to right. -/
theorem enclosedLeaves_print {tree : Tree} (h : tree.Plain) {start : Nat}
    (hbound : start + tree.leaves ≤ largestNat64) :
    enclosedLeaves (tree.print start) = List.range' start tree.leaves := by
  induction tree generalizing start with
  | selection predicate filters =>
      exact (read_print_selection LeafReading.enclosed h).trans
        (enclosedLeaves_leafCell (by omega))
  | call name =>
      exact (read_print_call LeafReading.enclosed h).trans (enclosedLeaves_leafCell (by omega))
  | group schema filters inner ih =>
      exact (read_print_group LeafReading.enclosed h).trans (ih h.2 hbound)
  | node request first second ihfirst ihsecond =>
      simp only [leaves] at hbound
      -- the second operand goes on counting where the first one ends
      rw [print_node, h.1.1.enclosedLeaves_expressionAt h.1.2 (closed_print h.2.1 _)
        (closed_print h.2.2 _), ihfirst h.2.1 (by omega), ihsecond h.2.2 (by omega), leaves,
        List.range'_append_1]

/-- The largest leaf index of a tree printed from `1` on is its number of leaves. -/
theorem maxLeaf?_print {tree : Tree} (h : tree.Plain) (hbound : tree.leaves < largestNat64) :
    maxLeaf? (tree.print 1) = some tree.leaves := by
  have hpos := tree.leaves_pos
  rw [maxLeaf?, List.max?_eq_some_iff]
  constructor
  · -- the last leaf stands between parentheses
    apply (enclosedLeaves_sublist (tree.print 1)).subset
    rw [enclosedLeaves_print h (by omega), List.mem_range'_1]
    omega
  · intro index hindex
    have hrange := mem_leafIndices_print h (by omega) index hindex
    omega

end Tree

end EventAlgebra
