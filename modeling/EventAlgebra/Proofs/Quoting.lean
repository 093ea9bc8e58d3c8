import EventAlgebra.Proofs.Expression

/-!
# Quotes in filter values

The predicate and the filter values of a selection are set between double quotes as they are. A
literal ends at the first quote, wherever it came from: the rest of a value with a quote is read as
algebra, leaves included, up to the quote that should have ended the value. If an equals sign stands
in front of that quote, a literal begins there instead. It swallows the next field, and the next
value is read as algebra from its first character on.

`leakedLeaves` follows the values in this way, one after the other. What is found in a selection is
what its values leak, and then its own leaf (`leafIndices_selection`); values without quotes leak
nothing.
-/

set_option autoImplicit false

namespace EventAlgebra

open Text

/-! ## Literals that are left open -/

/-- A text closes its literals if the first token leaves none open and neither does what follows
it. -/
theorem closed_scanFrom_cons_iff {afterWord : Bool} {c : Char} {rest after : List Char}
    {token : Token} (h : nextToken afterWord c rest = (token, after)) :
    Token.Closed (scanFrom afterWord (c :: rest)) ↔
      (∀ inside, c :: rest = '=' :: '"' :: inside → '"' ∈ inside) ∧
        Token.Closed (scanFrom token.endsInWord after) := by
  have hscan := scanFrom_cons afterWord c rest
  rw [h] at hscan
  constructor
  · intro hclosed
    constructor
    · intro inside heq
      obtain ⟨rfl, rfl⟩ := List.cons.inj heq
      by_contra hquote
      exact not_open_of_closed hclosed (literalAt?_eq_none_iff.2 hquote) ⟨rfl, rfl⟩
    · rw [hscan] at hclosed
      exact List.IsChain.tail hclosed
  · rintro ⟨hends, hafter⟩
    rw [hscan]
    refine List.isChain_cons.2 ⟨?_, hafter⟩
    rintro next hhead ⟨rfl, rfl⟩
    -- an equals sign for a token, and a quote behind it, are a literal that does not end
    obtain ⟨tokens, htokens⟩ := List.head?_eq_some_iff.1 (Option.mem_def.1 hhead)
    have hquote : after = '"' :: Token.concat tokens := by
      rw [← concat_scanFrom (Token.plain '=').endsInWord after, htokens]
      rfl
    rcases nextToken_cases h with ⟨body, htoken, -⟩ | ⟨digits, htoken, -⟩ | ⟨hplain, rfl, hnone, -⟩
    · cases htoken
    · cases htoken
    · cases hplain
      subst hquote
      exact literalAt?_eq_none_iff.1 hnone (hends _ rfl)

/-- The first token in front of a literal is there without the literal as well, and leaves none
open itself. -/
theorem nextToken_before_literal {afterWord : Bool} {c : Char} {tail inside front : List Char}
    {token : Token}
    (h : nextToken afterWord c (tail ++ '=' :: '"' :: inside) =
      (token, front ++ '=' :: '"' :: inside)) :
    nextToken afterWord c tail = (token, front) ∧
      ∀ body, c :: tail = '=' :: '"' :: body → '"' ∈ body := by
  have hends : ∀ body, c :: tail = '=' :: '"' :: body → '"' ∈ body := by
    intro body heq
    obtain ⟨rfl, rfl⟩ := List.cons.inj heq
    by_contra hbody
    -- the quote of the literal would end the one in front of it
    have hliteral := nextToken_literal afterWord inside
      (show '"' ∉ body ++ ['='] by simpa using hbody)
    rw [List.append_assoc] at hliteral
    have hsame := congrArg List.length (Prod.mk.inj (hliteral.symm.trans h)).2
    rw [List.length_append, List.length_cons, List.length_cons] at hsame
    omega
  have hopen : literalAt? (c :: tail) = none →
      ¬ (c = '=' ∧ tail.head? = some '"') ∨ '"' ∉ '=' :: '"' :: inside := by
    intro hnone
    refine Or.inl ?_
    rintro ⟨rfl, hhead⟩
    obtain ⟨body, rfl⟩ := List.head?_eq_some_iff.1 hhead
    exact literalAt?_eq_none_iff.1 hnone (hends body rfl)
  have hstarts : StartsApart ('=' :: '"' :: inside) := by
    intro d hd
    obtain rfl : '=' = d := by simpa using hd
    decide
  have happ := nextToken_append afterWord _ hopen (Or.inr hstarts)
  rw [h] at happ
  obtain ⟨htoken, hfront⟩ := Prod.mk.inj happ
  exact ⟨Prod.ext htoken.symm (List.append_cancel_right hfront).symm, hends⟩

/-- Where a literal is left open, its equals sign and its quote stand behind closed text, and no
quote follows them. -/
theorem exists_open_of_not_closed {afterWord : Bool} {cs : List Char}
    (h : ¬ Token.Closed (scanFrom afterWord cs)) :
    ∃ front inside, cs = front ++ '=' :: '"' :: inside ∧ '"' ∉ inside ∧
      Token.Closed (scanFrom afterWord front) := by
  induction afterWord, cs using scanInduction with
  | nil afterWord =>
      rw [scanFrom_nil] at h
      exact absurd .nil h
  | cons afterWord c rest token after hnext ih =>
      rw [closed_scanFrom_cons_iff hnext, not_and_or] at h
      rcases h with hopens | hopens
      · -- the literal is opened here
        push Not at hopens
        obtain ⟨inside, heq, hquote⟩ := hopens
        refine ⟨[], inside, heq, hquote, ?_⟩
        rw [scanFrom_nil]
        exact .nil
      · -- the literal is opened further on
        obtain ⟨front, inside, rfl, hquote, hfront⟩ := ih hopens
        have hchars := chars_nextToken afterWord c rest
        rw [hnext, ← List.append_assoc] at hchars
        have hne : token.chars ++ front ≠ [] := by
          cases token <;> exact List.cons_ne_nil _ _
        obtain ⟨d, tail, htail⟩ := List.exists_cons_of_ne_nil hne
        rw [htail, List.cons_append] at hchars
        obtain ⟨rfl, rfl⟩ := List.cons.inj hchars
        obtain ⟨htoken, hends⟩ := nextToken_before_literal hnext
        refine ⟨token.chars ++ front, inside, ?_, hquote, ?_⟩
        · rw [htail, List.cons_append]
        · rw [htail, closed_scanFrom_cons_iff htoken]
          exact ⟨hends, hfront⟩

/-- A quote that leaves a literal open has an equals sign in front of it, and closed text before
that. -/
theorem exists_eq_of_not_closed {shown : String} (h : ¬ Closed (shown ++ "\"")) :
    ∃ front, shown = front ++ "=" ∧ Closed front := by
  rw [Closed, scan, String.toList_append] at h
  obtain ⟨front, inside, heq, hquote, hfront⟩ := exists_open_of_not_closed h
  change shown.toList ++ ['"'] = _ at heq
  -- the quote stands last, so nothing is inside
  obtain rfl : inside = [] := by
    rcases List.eq_nil_or_concat inside with hnil | ⟨init, last, rfl⟩
    · exact hnil
    · have hsplit : shown.toList ++ ['"'] = (front ++ '=' :: '"' :: init) ++ [last] := by
        rw [heq, List.concat_eq_append, List.append_assoc]
        rfl
      obtain rfl : '"' = last := by simpa using (List.append_inj' hsplit rfl).2
      simp at hquote
  have hshown : shown.toList ++ ['"'] = (front ++ ['=']) ++ ['"'] := by
    rw [heq, List.append_assoc]
    rfl
  refine ⟨String.ofList front, ?_, ?_⟩
  · rw [← String.toList_inj, String.toList_append, String.toList_ofList]
    exact List.append_cancel_right hshown
  · rwa [Closed, scan, String.toList_ofList]

/-! ## Texts around a quote -/

theorem endsApart_append_quote (text : String) : EndsApart (text ++ "\"").toList := by
  intro c hc
  obtain rfl : '"' = c := by simpa using hc
  decide

/-- A literal behind closed text brings in no leaf and leaves what follows as it is. -/
theorem leafIndices_append_literalText {front body : String} (hfront : Closed front)
    (hbody : QuoteFree body) (rest : String) :
    leafIndices (front ++ (literalText body ++ rest)) = leafIndices front ++ leafIndices rest := by
  have hstarts : StartsApart (literalText body ++ rest).toList := by
    intro c hc
    obtain rfl : '=' = c := by simpa [literalText] using hc
    decide
  rw [leafIndices_append (Or.inl hfront) (Or.inr hstarts),
    leafIndices_append (Or.inl (closed_literalText hbody)) (Or.inl (endsApart_append_quote _)),
    leafFree_iff.1 (leafFree_literalText hbody), List.nil_append]

/-- A quote that opens a literal swallows the text up to the next quote. -/
theorem leafIndices_swallowed {shown gap : String} (hopen : ¬ Closed (shown ++ "\""))
    (hgap : QuoteFree gap) (rest : String) :
    leafIndices (shown ++ ("\"" ++ (gap ++ ("\"" ++ rest)))) =
      leafIndices (shown ++ "\"") ++ leafIndices rest := by
  obtain ⟨front, rfl, hfront⟩ := exists_eq_of_not_closed hopen
  have hliteral : front ++ "=" ++ ("\"" ++ (gap ++ ("\"" ++ rest))) =
      front ++ (literalText gap ++ rest) := by
    simp [← String.toList_inj, literalText]
  have hsign : leafIndices (front ++ "=" ++ "\"") = leafIndices front := by
    have hnone : leafIndices ("=" ++ "\"") = [] := leafIndices_of_notMem (by decide)
    rw [String.append_assoc, leafIndices_append (Or.inl hfront) (Or.inr (by decide)), hnone,
      List.append_nil]
  rw [hliteral, leafIndices_append_literalText hfront hgap, hsign]

/-! ## What values leak -/

/-- The part of a value that is read as algebra. If the value is set inside a literal, it is what
follows its first quote, if it has one; otherwise it is the value. -/
def exposed? (inside : Bool) (value : String) : Option String :=
  if inside then
    match value.toList.dropWhile (· != '"') with
    | [] => none
    | _ :: after => some (String.ofList after)
  else some value

/-- The leaves that values set between quotes show, the first of them inside a literal or not. The
value behind the quote of an exposed part is inside a literal, unless that quote opens one. -/
def leakedLeaves : Bool → List String → List Nat
  | _, [] => []
  | inside, value :: values =>
    match exposed? inside value with
    | none => leakedLeaves true values
    | some shown =>
      leafIndices (shown ++ "\"") ++ leakedLeaves (decide (Closed (shown ++ "\""))) values

theorem exposed?_of_quoteFree {value : String} (h : QuoteFree value) :
    exposed? true value = none := by
  have hdrop : value.toList.dropWhile (· != '"') = [] := by
    rw [List.dropWhile_eq_nil_iff]
    intro c hc
    simpa using fun heq : c = '"' => h (heq ▸ hc)
  simp [exposed?, hdrop]

/-- The exposed part of a value in a literal follows its first quote. -/
theorem exists_of_exposed? {value : String} (h : ¬ QuoteFree value) :
    ∃ body shown, QuoteFree body ∧ value = body ++ ("\"" ++ shown) ∧
      exposed? true value = some shown := by
  cases hdrop : value.toList.dropWhile (· != '"') with
  | nil =>
      rw [List.dropWhile_eq_nil_iff] at hdrop
      exact absurd (fun hmem => by simpa using hdrop '"' hmem) h
  | cons q after =>
      refine ⟨String.ofList (value.toList.takeWhile (· != '"')), String.ofList after, ?_, ?_, ?_⟩
      · rw [QuoteFree, String.toList_ofList]
        intro hmem
        simpa using List.mem_takeWhile_imp hmem
      · simpa [← String.toList_inj] using (takeWhile_quote_append hdrop).symm
      · simp [exposed?, hdrop]

/-- Values without quotes leak nothing. -/
theorem leakedLeaves_of_quoteFree {values : List String} (h : ∀ value ∈ values, QuoteFree value) :
    leakedLeaves true values = [] := by
  induction values with
  | nil => rfl
  | cons value values ih =>
      obtain ⟨hvalue, hvalues⟩ := List.forall_mem_cons.1 h
      simp only [leakedLeaves, exposed?_of_quoteFree hvalue]
      exact ih hvalues

/-! ## Selections -/

/-- A field whose name has neither quotes nor leaves. -/
def Filter.CleanField (filter : Filter) : Prop :=
  EventAlgebra.QuoteFree filter.field ∧ LeafFree filter.field

/-- What stands behind a condition of a selection: more conditions, and the end of the list. -/
def conditionsAfter : List Filter → String
  | [] => " \x7d"
  | filter :: filters => " ∧ " ++ (filter.render ++ conditionsAfter filters)

theorem conjunction_append (filter : Filter) (filters : List Filter) :
    Layout.conjunction ((filter :: filters).map Filter.render) ++ " \x7d" =
      filter.render ++ conditionsAfter filters := by
  induction filters generalizing filter with
  | nil => rfl
  | cons next filters ih =>
      have hnext := ih next
      rw [List.map_cons, Layout.conjunction] at hnext ⊢
      rw [List.map_cons, joinWith, String.append_assoc, hnext, String.append_assoc, conditionsAfter]

/-- A condition in front of a text: the text goes on where the literal of the condition ends. -/
theorem leafIndices_render_append {filter : Filter} (hfield : filter.CleanField) (rest : String) :
    leafIndices (filter.render ++ rest) =
      match exposed? true filter.value with
      | none => leafIndices rest
      | some shown => leafIndices (shown ++ ("\"" ++ rest)) := by
  have hclosed := closed_of_quoteFree hfield.1
  have hleaves := leafFree_iff.1 hfield.2
  by_cases hvalue : QuoteFree filter.value
  · rw [exposed?_of_quoteFree hvalue, Filter.render_eq, String.append_assoc,
      leafIndices_append_literalText hclosed hvalue, hleaves, List.nil_append]
  · obtain ⟨body, shown, hbody, heq, hexposed⟩ := exists_of_exposed? hvalue
    have hrender : filter.render ++ rest =
        filter.field ++ (literalText body ++ (shown ++ ("\"" ++ rest))) := by
      rw [Filter.render_eq, heq]
      simp [← String.toList_inj, literalText]
    rw [hexposed, hrender, leafIndices_append_literalText hclosed hbody, hleaves, List.nil_append]

section Conditions

variable {filters : List Filter}

/-- One more condition in front of conditions whose leaves are those that their values leak, both
by themselves and behind an exposed part. -/
theorem leafIndices_render_conditionsAfter {filter : Filter} (hfield : filter.CleanField)
    (hafter : leafIndices (conditionsAfter filters) = leakedLeaves true (filters.map (·.value)))
    (hshown : ∀ shown, leafIndices (shown ++ ("\"" ++ conditionsAfter filters)) =
      leafIndices (shown ++ "\"") ++
        leakedLeaves (decide (Closed (shown ++ "\""))) (filters.map (·.value))) :
    leafIndices (filter.render ++ conditionsAfter filters) =
      leakedLeaves true (filter.value :: filters.map (·.value)) := by
  rw [leafIndices_render_append hfield, leakedLeaves]
  cases exposed? true filter.value with
  | none => exact hafter
  | some shown => exact hshown shown

/-- The leaves of conditions are those that their values leak, by themselves and behind an exposed
part. The induction is on the conditions; what is exposed changes from one to the next. -/
theorem leafIndices_conditionsAfter (hfields : ∀ filter ∈ filters, filter.CleanField) :
    leafIndices (conditionsAfter filters) = leakedLeaves true (filters.map (·.value)) ∧
      ∀ shown, leafIndices (shown ++ ("\"" ++ conditionsAfter filters)) =
        leafIndices (shown ++ "\"") ++
          leakedLeaves (decide (Closed (shown ++ "\""))) (filters.map (·.value)) := by
  induction filters with
  | nil =>
      have hend : leafIndices " \x7d" = [] := leafIndices_of_notMem (by decide)
      refine ⟨hend, fun shown => ?_⟩
      rw [conditionsAfter, ← String.append_assoc,
        leafIndices_append (Or.inr (by decide)) (Or.inl (endsApart_append_quote shown)), hend]
      rfl
  | cons filter filters ih =>
      obtain ⟨hfield, hothers⟩ := List.forall_mem_cons.1 hfields
      obtain ⟨hafter, hshown⟩ := ih hothers
      have hconditions : leafIndices (conditionsAfter (filter :: filters)) =
          leakedLeaves true ((filter :: filters).map (·.value)) := by
        have hand : leafIndices " ∧ " = [] := leafIndices_of_notMem (by decide)
        rw [conditionsAfter, leafIndices_append (Or.inl (closed_of_quoteFree (by decide)))
          (Or.inl (by decide)), hand, List.nil_append,
          leafIndices_render_conditionsAfter hfield hafter hshown, List.map_cons]
      refine ⟨hconditions, fun shown => ?_⟩
      by_cases hclosed : Closed (shown ++ "\"")
      · rw [← String.append_assoc, leafIndices_append (Or.inl hclosed)
          (Or.inl (endsApart_append_quote shown)), hconditions, decide_eq_true hclosed]
      · -- the field is swallowed, and the value exposed
        have hgap : QuoteFree (" ∧ " ++ (filter.field ++ "=")) := by
          have hquote := hfield.1
          simp only [QuoteFree, String.toList_append, List.mem_append, not_or] at hquote ⊢
          exact ⟨by decide, hquote, by decide⟩
        have hsplit : "\"" ++ conditionsAfter (filter :: filters) =
            "\"" ++ (" ∧ " ++ (filter.field ++ "=") ++ ("\"" ++
              (filter.value ++ ("\"" ++ conditionsAfter filters)))) := by
          rw [conditionsAfter, Filter.render_eq]
          simp [← String.toList_inj, literalText]
        rw [hsplit, leafIndices_swallowed hclosed hgap, hshown, decide_eq_false hclosed]
        rfl

end Conditions

/-- The predicate and the values of a selection, in the order in which they are written. -/
def quotedTexts (predicate : String) (filters : List Filter) : List String :=
  (selectionFilters predicate filters).map (·.value)

/-- A selection up to its leaf. -/
def selectionHead (predicate : String) (filters : List Filter) : String :=
  "σ_\x7b " ++ (Filter.render ⟨"pred", predicate⟩ ++
    conditionsAfter (orderFilters defaultSchema filters))

theorem selection_fragment_eq (predicate : String) (filters : List Filter) (start : Nat) :
    (Resolved.selection predicate filters start).fragment =
      selectionHead predicate filters ++ leafCell start := by
  rw [selectionHead, ← conjunction_append]
  simp [← String.toList_inj, Resolved.selection, Layout.selection, leafCell, conditions,
    Filter.render]

section Selection

variable {predicate : String} {filters : List Filter}
  (hfields : ∀ filter ∈ filters, filter.CleanField)

include hfields

theorem leafIndices_selectionHead :
    leafIndices (selectionHead predicate filters) =
      leakedLeaves true (quotedTexts predicate filters) := by
  have hpred : Filter.CleanField ⟨"pred", predicate⟩ :=
    show QuoteFree "pred" ∧ LeafFree "pred" from ⟨by decide, leafFree_of_notMem (by decide)⟩
  have hordered : ∀ filter ∈ orderFilters defaultSchema filters, filter.CleanField :=
    fun filter hfilter => hfields filter (mem_of_mem_orderFilters hfilter)
  obtain ⟨hafter, hshown⟩ := leafIndices_conditionsAfter hordered
  rw [selectionHead, leafIndices_append (Or.inl (closed_of_quoteFree (by decide)))
    (Or.inl (by decide)), leafIndices_of_notMem (by decide), List.nil_append,
    leafIndices_render_conditionsAfter hpred hafter hshown]
  rfl

/-- The leaves of a selection are those that its values leak, and then its own. -/
theorem leafIndices_selection {start : Nat} (hstart : start ≤ largestNat64) :
    leafIndices (Resolved.selection predicate filters start).fragment =
      leakedLeaves true (quotedTexts predicate filters) ++ [start] := by
  rw [selection_fragment_eq,
    leafIndices_append (Or.inr (quoteFree_leafCell start)) (Or.inr (startsApart_leafCell start)),
    leafIndices_selectionHead hfields, leafIndices_leafCell hstart]

/-- A renumbered selection is the selection further on exactly if no leaked leaf can be moved. -/
theorem shift_selection_iff {start amount : Nat} (hsum : start + amount ≤ largestNat64) :
    shift (Resolved.selection predicate filters start).fragment amount =
        (Resolved.selection predicate filters (start + amount)).fragment ↔
      amount = 0 ∨ ∀ index ∈ leakedLeaves true (quotedTexts predicate filters),
        largestNat64 < index + amount := by
  rw [selection_fragment_eq, selection_fragment_eq,
    shift_append amount (Or.inr (quoteFree_leafCell start)) (Or.inr (startsApart_leafCell start)),
    shift_leafCell hsum, String.append_left_inj, shift_eq_self_iff, Immovable,
    leafIndices_selectionHead hfields]

end Selection

/-- Take two atomic operands with the same filter fields, which have neither quotes nor leaves, and
with any predicates and values. The leaves found in each are those that its predicate and values
leak, and then its start. So the same leaves are found in both exactly if they leak the same, and no
other leaf than the start is found in one exactly if it leaks nothing, as it does if its predicate
and values have no quotes. Renumbered, it is the operand further on exactly if no leaked leaf can be
moved. -/
theorem leaves_of_like_selections {predicate predicate' : String} {filters filters' : List Filter}
    (hsame : filters.map (·.field) = filters'.map (·.field))
    (hfields : ∀ field ∈ filters.map (·.field), QuoteFree field ∧ LeafFree field)
    {start : Nat} (hstart : start ≤ largestNat64) (library : Library) (definition : String) :
    let fragment := fun operand start => (library.resolve definition operand start).fragment
    let operand : Operand := ⟨.atomic predicate, filters⟩
    let operand' : Operand := ⟨.atomic predicate', filters'⟩
    let leaked := leakedLeaves true (quotedTexts predicate filters)
    let leaked' := leakedLeaves true (quotedTexts predicate' filters')
    leafIndices (fragment operand start) = leaked ++ [start] ∧
      leafIndices (fragment operand' start) = leaked' ++ [start] ∧
      (leafIndices (fragment operand start) = leafIndices (fragment operand' start) ↔
        leaked = leaked') ∧
      (leafIndices (fragment operand start) = [start] ↔ leaked = []) ∧
      ((∀ text ∈ predicate :: filters.map (·.value), QuoteFree text) → leaked = []) ∧
      ∀ amount, start + amount ≤ largestNat64 →
        (shift (fragment operand start) amount = fragment operand (start + amount) ↔
          amount = 0 ∨ ∀ index ∈ leaked, largestNat64 < index + amount) := by
  intro fragment operand operand' leaked leaked'
  have hclean : ∀ filter ∈ filters, filter.CleanField := fun filter hfilter =>
    hfields filter.field (List.mem_map_of_mem hfilter)
  rw [hsame] at hfields
  have hclean' : ∀ filter ∈ filters', filter.CleanField := fun filter hfilter =>
    hfields filter.field (List.mem_map_of_mem hfilter)
  have hleaves : leafIndices (fragment operand start) = leaked ++ [start] :=
    leafIndices_selection hclean hstart
  have hleaves' : leafIndices (fragment operand' start) = leaked' ++ [start] :=
    leafIndices_selection hclean' hstart
  refine ⟨hleaves, hleaves', ?_, ?_, ?_, ?_⟩
  · rw [hleaves, hleaves', List.append_left_inj]
  · rw [hleaves, List.append_left_eq_self]
  · intro hquote
    apply leakedLeaves_of_quoteFree
    obtain ⟨hpredicate, hvalues⟩ := List.forall_mem_cons.1 hquote
    rw [List.forall_mem_map] at hvalues
    rw [quotedTexts, List.forall_mem_map]
    exact forall_selectionFilters hpredicate hvalues
  · intro amount hsum
    exact shift_selection_iff hclean hsum

/-- A quote in one value shows a leaf of that value and, since an equals sign stands before the
closing quote, the next value as well. The same words without the quotes show nothing. -/
theorem leaves_of_like_selections_quoted :
    let quoted : List Filter := [⟨"arg1", "the \"M9\" sign="⟩, ⟨"zone", "M5"⟩]
    let unquoted : List Filter := [⟨"arg1", "the M9 sign"⟩, ⟨"zone", "M5"⟩]
    let fragment := fun filters start =>
      (Library.empty.resolve "New" ⟨.atomic "says", filters⟩ start).fragment
    OperandForm.validate "op1" ⟨"says", "", quoted⟩ = .ok ⟨.atomic "says", quoted⟩ ∧
      OperandForm.validate "op1" ⟨"says", "", unquoted⟩ = .ok ⟨.atomic "says", unquoted⟩ ∧
      quoted.map (·.field) = unquoted.map (·.field) ∧
      (∀ field ∈ quoted.map (·.field), QuoteFree field ∧ LeafFree field) ∧ 1 ≤ largestNat64 ∧
      leafIndices (fragment quoted 1) = [9, 5, 1] ∧
      shift (fragment quoted 1) 1 ≠ fragment quoted (1 + 1) ∧
      (∀ text ∈ "says" :: unquoted.map (·.value), QuoteFree text) ∧
      leafIndices (fragment unquoted 1) = [1] ∧
      shift (fragment unquoted 1) 1 = fragment unquoted (1 + 1) := by
  intro quoted unquoted fragment
  have hsame : quoted.map (·.field) = unquoted.map (·.field) := rfl
  have hfields : ∀ field ∈ quoted.map (·.field), QuoteFree field ∧ LeafFree field := by
    show ∀ field ∈ ["arg1", "zone"], QuoteFree field ∧ LeafFree field
    decide +kernel
  have hstart : 1 ≤ largestNat64 := by decide
  have hsum : 1 + 1 ≤ largestNat64 := by decide
  have hquotes : ∀ text ∈ "says" :: unquoted.map (·.value), QuoteFree text := by decide
  have hleaked : leakedLeaves true (quotedTexts "says" quoted) = [9, 5] := by decide +kernel
  obtain ⟨hleaves, hleaves', -, -, -, hshift⟩ := @leaves_of_like_selections "says" "says" quoted
    unquoted hsame hfields 1 hstart Library.empty "New"
  obtain ⟨-, -, -, -, hfree, hshift'⟩ := @leaves_of_like_selections "says" "says" unquoted quoted
    hsame.symm hfields 1 hstart Library.empty "New"
  have hleaked' : leakedLeaves true (quotedTexts "says" unquoted) = [] := hfree hquotes
  rw [hleaked] at hleaves
  rw [hleaked'] at hleaves'
  refine ⟨by decide +kernel, by decide +kernel, hsame, hfields, hstart, hleaves, ?_, hquotes,
    hleaves', ?_⟩
  · intro hmoved
    rcases (hshift 1 hsum).1 hmoved with hzero | hall
    · cases hzero
    · rw [hleaked] at hall
      exact absurd (hall 9 (by decide)) (by decide)
  · apply (hshift' 1 hsum).2
    rw [hleaked']
    exact Or.inr fun index hindex => by cases hindex

end EventAlgebra
