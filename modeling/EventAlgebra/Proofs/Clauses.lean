import EventAlgebra.Proofs.Frame
import EventAlgebra.Request

/-!
# The leaves of clauses

What user strings bring into an expression: variables, conditions, constraints and columns. A
variable is plain (`PlainVariable`) when it is `M1` or `M2`, perhaps with a dot and text without
leaves, or has no leaf.

Clauses without quotes close their literals, and their leaves are those of the texts set in them.
If their variables are plain, renumbering moves the starts (`shift_remap`,
`Constraint.shift_predicateAt`, `Projection.shift_clauseAt`).
-/

set_option autoImplicit false

namespace EventAlgebra

open Text

/-! ## Leaves by name -/

theorem toList_leafName (index : Nat) : (leafName index).toList = 'M' :: Nat.toDigits 10 index := by
  simp [leafName]

/-- The name of a leaf is one leaf token. -/
theorem scan_leafName (index : Nat) : scan (leafName index) = [.leaf (Nat.toDigits 10 index)] := by
  have hdigits : ∀ d ∈ Nat.toDigits 10 index, isWordDigit d = true := fun d hd =>
    isWordDigit_of_isDigit (Nat.isDigit_of_mem_toDigits (by decide) (by decide) hd)
  have hread := nextToken_leaf Nat.toDigits_ne_nil hdigits [] (by simp)
  rw [List.append_nil] at hread
  rw [scan, toList_leafName, scanFrom_cons, hread]
  simp

theorem quoteFree_leafName (index : Nat) : QuoteFree (leafName index) := by
  rw [QuoteFree, toList_leafName, List.mem_cons]
  rintro (h | h)
  · exact absurd h (by decide)
  · exact absurd (Nat.isDigit_of_mem_toDigits (by decide) (by decide) h) (by decide)

theorem closed_leafName (index : Nat) : Closed (leafName index) :=
  closed_of_quoteFree (quoteFree_leafName index)

theorem leafIndices_leafName {index : Nat} (h : index ≤ largestNat64) :
    leafIndices (leafName index) = [index] := by
  simp [leafIndices, scan_leafName, Token.leafIndex?, readNat64?_toDigits h]

/-- Renumbering the name of a leaf gives the name of the leaf that many further on. -/
theorem shift_leafName {index amount : Nat} (h : index + amount ≤ largestNat64) :
    shift (leafName index) amount = leafName (index + amount) := by
  by_cases hzero : amount = 0
  · subst hzero
    exact shift_zero _
  · have hindex : readNat64? (Nat.toDigits 10 index) = some index :=
      readNat64?_toDigits (by omega)
    rw [← String.toList_inj, shift, if_neg hzero, scan_leafName, toList_leafName]
    simp [Token.shift, hindex, h, Token.concat, Token.chars]

/-- A leaf in its parentheses. -/
def leafCell (index : Nat) : String :=
  "(" ++ (leafName index ++ ")")

theorem toList_leafCell (index : Nat) :
    (leafCell index).toList = '(' :: 'M' :: (Nat.toDigits 10 index ++ [')']) := by
  rw [leafCell, String.toList_append, String.toList_append, toList_leafName]
  rfl

theorem scan_leafCell (index : Nat) :
    scan (leafCell index) = [.plain '(', .leaf (Nat.toDigits 10 index), .plain ')'] := by
  have hdigits : ∀ d ∈ Nat.toDigits 10 index, isWordDigit d = true := fun d hd =>
    isWordDigit_of_isDigit (Nat.isDigit_of_mem_toDigits (by decide) (by decide) hd)
  -- the parenthesis is no word character, so a leaf may begin behind it
  have hopening : nextToken false '(' ('M' :: (Nat.toDigits 10 index ++ [')'])) =
      (.plain '(', 'M' :: (Nat.toDigits 10 index ++ [')'])) :=
    nextToken_plain (literalAt?_eq_none_of_ne (by simp))
      (Or.inr (leafAt?_eq_none_of_ne (by decide) _))
  have hleaf := nextToken_leaf Nat.toDigits_ne_nil hdigits [')'] (by simp; decide)
  have hclosing : scanFrom true [')'] = [.plain ')'] := by
    rw [scanFrom_cons, nextToken_plain (literalAt?_eq_none_of_ne (by simp))
      (Or.inr (leafAt?_eq_none_of_ne (by decide) _)), scanFrom_nil]
  rw [scan, toList_leafCell, scanFrom_cons, hopening]
  show _ :: scanFrom false _ = _
  rw [scanFrom_cons, hleaf]
  show _ :: _ :: scanFrom true _ = _
  rw [hclosing]

theorem startsApart_leafCell (index : Nat) : StartsApart (leafCell index).toList := by
  intro c hc
  rw [toList_leafCell] at hc
  obtain rfl : '(' = c := by simpa using hc
  decide

theorem quoteFree_leafCell (index : Nat) : QuoteFree (leafCell index) := by
  have hleaf := quoteFree_leafName index
  rw [QuoteFree, toList_leafName] at hleaf
  rw [QuoteFree, toList_leafCell]
  simpa using hleaf

theorem closed_leafCell (index : Nat) : Closed (leafCell index) :=
  closed_of_quoteFree (quoteFree_leafCell index)

theorem leafIndices_leafCell {index : Nat} (h : index ≤ largestNat64) :
    leafIndices (leafCell index) = [index] := by
  rw [leafIndices, scan_leafCell]
  simp [List.filterMap_cons, Token.leafIndex?, readNat64?_toDigits h]

theorem mem_leafIndices_leafCell {start index : Nat} (h : start ≤ largestNat64)
    (hindex : index ∈ leafIndices (leafCell start)) : start ≤ index ∧ index < start + 1 := by
  rw [leafIndices_leafCell h, List.mem_singleton] at hindex
  omega

theorem enclosedLeaves_leafCell {index : Nat} (h : index ≤ largestNat64) :
    enclosedLeaves (leafCell index) = [index] := by
  simp [enclosedLeaves, Token.enclosed, scan_leafCell, Token.leafIndex?, readNat64?_toDigits h]

theorem shift_leafCell {index amount : Nat} (h : index + amount ≤ largestNat64) :
    shift (leafCell index) amount = leafCell (index + amount) := by
  by_cases hzero : amount = 0
  · subst hzero
    exact shift_zero _
  · have hindex : readNat64? (Nat.toDigits 10 index) = some index :=
      readNat64?_toDigits (by omega)
    rw [← String.toList_inj, shift, if_neg hzero, scan_leafCell, toList_leafCell]
    simp [Token.shift, hindex, h, Token.concat, Token.chars]

/-! ## Variables -/

/-- The part of a variable up to the first dot. -/
def variableRoot (term : String) : String :=
  String.ofList (term.toList.takeWhile (· != '.'))

/-- The part of a variable from the first dot on. -/
def variableField (term : String) : String :=
  String.ofList (term.toList.dropWhile (· != '.'))

/-- The roots that stand for the two operands. -/
def operandRoots : List String := ["M1", "M2"]

/-- A variable whose only leaf, if any, is its root, and the root stands for an operand. -/
def PlainVariable (term : String) : Prop :=
  LeafFree term ∨
    variableRoot term ∈ operandRoots ∧ LeafFree (String.ofList (variableField term).toList.tail)

instance (term : String) : Decidable (PlainVariable term) :=
  inferInstanceAs (Decidable (LeafFree term ∨ variableRoot term ∈ operandRoots ∧
    LeafFree (String.ofList (variableField term).toList.tail)))

namespace Starts

/-- The starts of operands that were moved. -/
def shift (starts : Starts) (amount : Nat) : Starts :=
  ⟨starts.first + amount, starts.second + amount⟩

end Starts

/-- A variable is its root and its field. -/
theorem variableRoot_append (term : String) : variableRoot term ++ variableField term = term := by
  rw [← String.toList_inj, String.toList_append, variableRoot, variableField,
    String.toList_ofList, String.toList_ofList, List.takeWhile_append_dropWhile]

/-- The field is empty or begins with the dot. -/
theorem variableField_cases (term : String) :
    variableField term = "" ∨
      variableField term = "." ++ String.ofList (variableField term).toList.tail := by
  cases hfield : term.toList.dropWhile (· != '.') with
  | nil => exact Or.inl (by rw [variableField, hfield])
  | cons c rest =>
      have hdot : c = '.' := by
        have hhead := List.head?_dropWhile_not (p := (· != '.')) (l := term.toList)
        simpa [hfield] using hhead
      refine Or.inr ?_
      rw [← String.toList_inj, variableField, hfield, hdot]
      simp

theorem startsApart_variableField (term : String) : StartsApart (variableField term).toList := by
  intro c hc
  rcases variableField_cases term with h | h
  · rw [h] at hc
    simp at hc
  · rw [h] at hc
    obtain rfl : '.' = c := by simpa using hc
    decide

/-- Moving a variable replaces its root, if that stands for an operand. -/
theorem remap_eq (starts : Starts) (term : String) :
    remap starts term =
      if variableRoot term = "M1" then leafName starts.first ++ variableField term
      else if variableRoot term = "M2" then leafName starts.second ++ variableField term
      else term := by
  have h1 : variableRoot term = "M1" ↔ term.toList.takeWhile (· != '.') = ['M', '1'] := by
    rw [← String.toList_inj, variableRoot, String.toList_ofList]
    rfl
  have h2 : variableRoot term = "M2" ↔ term.toList.takeWhile (· != '.') = ['M', '2'] := by
    rw [← String.toList_inj, variableRoot, String.toList_ofList]
    rfl
  simp only [remap, h1, h2, variableField]

/-- A variable without leaves names no operand and stays as it is. -/
theorem remap_of_leafFree {term : String} (h : LeafFree term) (starts : Starts) :
    remap starts term = term := by
  have hroot : ∀ root ∈ operandRoots, variableRoot term ≠ root := by
    intro root hmem heq
    have hfield := startsApart_variableField term
    -- the root would be a leaf, and the field cannot make anything else of it
    have hquote : ∀ root ∈ operandRoots, QuoteFree root := by decide
    have hclosed : Closed root := closed_of_quoteFree (hquote root hmem)
    have hindices := leafFree_iff.1 h
    rw [← variableRoot_append term, heq, leafIndices_append (Or.inl hclosed) (Or.inr hfield),
      List.append_eq_nil_iff] at hindices
    have hleaf : ∀ root ∈ operandRoots, root = leafName 1 ∨ root = leafName 2 := by decide
    rcases hleaf root hmem with rfl | rfl
    · rw [leafIndices_leafName (by decide)] at hindices
      exact absurd hindices.1 (by simp)
    · rw [leafIndices_leafName (by decide)] at hindices
      exact absurd hindices.1 (by simp)
  rw [remap_eq, if_neg (hroot "M1" (by decide)), if_neg (hroot "M2" (by decide))]

/-- What a plain variable becomes when it is moved: itself, having no leaf, or the start of one of
the operands and a field without leaves. -/
theorem PlainVariable.remap_cases {term : String} (h : PlainVariable term) :
    (LeafFree term ∧ ∀ starts, remap starts term = term) ∨
      ∃ field, LeafFree field ∧ StartsApart field.toList ∧
        ((∀ starts, remap starts term = leafName starts.first ++ field) ∨
          ∀ starts, remap starts term = leafName starts.second ++ field) := by
  rcases h with hfree | ⟨hroot, hfield⟩
  · exact Or.inl ⟨hfree, remap_of_leafFree hfree⟩
  · have hfree : LeafFree (variableField term) := by
      rcases variableField_cases term with heq | heq
      · rw [heq]
        exact leafFree_of_notMem (by decide)
      · have hdot : leafIndices "." = [] := leafIndices_of_notMem (by decide)
        rw [heq, leafFree_iff, leafIndices_append (Or.inl (closed_of_quoteFree (by decide)))
          (Or.inl (by decide)), leafFree_iff.1 hfield, hdot]
        rfl
    refine Or.inr ⟨variableField term, hfree, startsApart_variableField term, ?_⟩
    rcases List.mem_cons.1 hroot with heq | hmem
    · exact Or.inl fun starts => by rw [remap_eq, if_pos heq]
    · have heq : variableRoot term = "M2" := List.mem_singleton.1 hmem
      exact Or.inr fun starts => by rw [remap_eq, heq, if_neg (by decide), if_pos rfl]

/-- Moving a variable brings in no quotes. -/
theorem quoteFree_remap {term : String} (h : QuoteFree term) (starts : Starts) :
    QuoteFree (remap starts term) := by
  have hfield : QuoteFree (variableField term) := by
    intro hmem
    apply h
    rw [← variableRoot_append term, String.toList_append]
    exact List.mem_append_right _ hmem
  have happ : ∀ index, QuoteFree (leafName index ++ variableField term) := by
    intro index hmem
    rw [String.toList_append, List.mem_append] at hmem
    exact hmem.elim (quoteFree_leafName index) hfield
  rw [remap_eq]
  split
  · exact happ starts.first
  · split
    · exact happ starts.second
    · exact h

section PlainVariable

variable {term : String} (h : PlainVariable term) {starts : Starts}

include h

/-- The leaves of a moved plain variable are starts of operands. -/
theorem mem_leafIndices_remap (hfirst : starts.first ≤ largestNat64)
    (hsecond : starts.second ≤ largestNat64) :
    ∀ index ∈ leafIndices (remap starts term), index = starts.first ∨ index = starts.second := by
  have happ : ∀ start field, start ≤ largestNat64 → LeafFree field → StartsApart field.toList →
      leafIndices (leafName start ++ field) = [start] := by
    intro start field hstart hfree hapart
    rw [leafIndices_append (Or.inl (closed_leafName start)) (Or.inr hapart),
      leafIndices_leafName hstart, leafFree_iff.1 hfree]
    rfl
  intro index hindex
  rcases h.remap_cases with ⟨hfree, heq⟩ | ⟨field, hfree, hapart, heq | heq⟩
  · rw [heq, leafFree_iff.1 hfree] at hindex
    cases hindex
  · rw [heq, happ _ _ hfirst hfree hapart] at hindex
    exact Or.inl (List.mem_singleton.1 hindex)
  · rw [heq, happ _ _ hsecond hfree hapart] at hindex
    exact Or.inr (List.mem_singleton.1 hindex)

/-- No leaf of a moved plain variable is enclosed. -/
theorem enclosedLeaves_remap : enclosedLeaves (remap starts term) = [] := by
  have happ : ∀ start field, LeafFree field → StartsApart field.toList →
      enclosedLeaves (leafName start ++ field) = [] := by
    intro start field hfree hapart
    rw [enclosedLeaves_append (Or.inl (closed_leafName start)) (Or.inr hapart),
      enclosedLeaves_of_leafFree hfree, List.append_nil, enclosedLeaves, scan_leafName]
    rfl
  rcases h.remap_cases with ⟨hfree, heq⟩ | ⟨field, hfree, hapart, heq | heq⟩
  · rw [heq]
    exact enclosedLeaves_of_leafFree hfree
  · rw [heq, happ _ _ hfree hapart]
  · rw [heq, happ _ _ hfree hapart]

/-- Renumbering a moved variable moves it to the renumbered starts. -/
theorem shift_remap {amount : Nat} (hfirst : starts.first + amount ≤ largestNat64)
    (hsecond : starts.second + amount ≤ largestNat64) :
    shift (remap starts term) amount = remap (starts.shift amount) term := by
  have happ : ∀ start field, start + amount ≤ largestNat64 → LeafFree field →
      StartsApart field.toList →
      shift (leafName start ++ field) amount = leafName (start + amount) ++ field := by
    intro start field hstart hfree hapart
    rw [shift_append amount (Or.inl (closed_leafName start)) (Or.inr hapart),
      shift_leafName hstart, shift_of_leafFree hfree]
  rcases h.remap_cases with ⟨hfree, heq⟩ | ⟨field, hfree, hapart, heq | heq⟩
  · rw [heq, heq, shift_of_leafFree hfree]
  · rw [heq, heq, happ _ _ hfirst hfree hapart]
    rfl
  · rw [heq, heq, happ _ _ hsecond hfree hapart]
    rfl

end PlainVariable

/-! ## Conditions -/

/-- A filter without quotes. -/
def Filter.QuoteFree (filter : Filter) : Prop :=
  EventAlgebra.QuoteFree filter.field ∧ EventAlgebra.QuoteFree filter.value

instance (filter : Filter) : Decidable filter.QuoteFree :=
  inferInstanceAs (Decidable (EventAlgebra.QuoteFree filter.field ∧
    EventAlgebra.QuoteFree filter.value))

/-- The text of a literal. -/
def literalText (body : String) : String :=
  "=\"" ++ body ++ "\""

theorem scan_literalText {body : String} (h : QuoteFree body) :
    scan (literalText body) = [.literal body.toList] := by
  have hchars : (literalText body).toList = '=' :: '"' :: (body.toList ++ '"' :: []) := by
    simp [literalText]
  rw [scan, hchars, scanFrom_cons, nextToken_literal false [] h]
  simp

theorem closed_literalText {body : String} (h : QuoteFree body) : Closed (literalText body) := by
  rw [Closed, scan_literalText h]
  exact .singleton _

theorem leafFree_literalText {body : String} (h : QuoteFree body) :
    LeafFree (literalText body) := by
  rw [leafFree_iff, leafIndices, scan_literalText h]
  rfl

theorem startsApart_literalText (body : String) : StartsApart (literalText body).toList := by
  intro c hc
  obtain rfl : '=' = c := by simpa [literalText] using hc
  decide

namespace Filter

theorem render_eq (filter : Filter) : filter.render = filter.field ++ literalText filter.value := by
  simp [render, literalText, String.append_assoc]

theorem closed_render {filter : Filter} (h : filter.QuoteFree) : Closed filter.render := by
  rw [render_eq]
  exact closed_append (closed_of_quoteFree h.1) (closed_literalText h.2)
    (Or.inr (startsApart_literalText filter.value))

/-- The value of a filter brings in no leaf. -/
theorem read_render {filter : Filter} (h : filter.QuoteFree) (reading : LeafReading) :
    reading.read filter.render = reading.read filter.field := by
  rw [render_eq, reading.append (closed_of_quoteFree h.1)
      (Or.inr (startsApart_literalText filter.value)),
    reading.leafFree (leafFree_literalText h.2), List.append_nil]

end Filter

section Conjunction

variable {filters : List Filter} (h : ∀ filter ∈ filters, filter.QuoteFree)

include h

theorem closed_conditions : ∀ condition ∈ filters.map Filter.render, Closed condition := by
  intro condition hcondition
  obtain ⟨filter, hfilter, rfl⟩ := List.mem_map.1 hcondition
  exact Filter.closed_render (h filter hfilter)

theorem closed_conjunction : Closed (Layout.conjunction (filters.map Filter.render)) :=
  closed_joinWith Frame.isDivider_and (closed_conditions h)

/-- The leaves of conditions are those of the fields. -/
theorem read_conjunction (reading : LeafReading) :
    reading.read (Layout.conjunction (filters.map Filter.render)) =
      filters.flatMap fun filter => reading.read filter.field := by
  rw [Layout.conjunction, read_joinWith Frame.isDivider_and (closed_conditions h),
    List.flatMap_map]
  exact List.flatMap_congr fun filter hfilter => Filter.read_render (h filter hfilter) reading

end Conjunction

/-- Ordering filters by a schema brings in no new ones. -/
theorem mem_of_mem_orderFilters {schema : List SchemaField} {filters : List Filter}
    {filter : Filter} (h : filter ∈ orderFilters schema filters) : filter ∈ filters := by
  rw [orderFilters, List.mem_append, List.mem_flatMap] at h
  rcases h with ⟨field, -, hmem⟩ | hmem
  · exact List.mem_of_mem_filter hmem
  · exact List.mem_of_mem_filter hmem

/-! ## Constraints -/

namespace Constraint

/-- The variables of a constraint. -/
def terms (c : Constraint) : List String :=
  [c.left, c.right]

/-- The offset of a constraint as it is written, if it is. -/
def offsetText (c : Constraint) : List String :=
  (c.offset.filter (· ≠ 0)).toList.map signed

theorem render_eq_joinWith (c : Constraint) :
    c.render = joinWith " " ([c.left, c.comparison.render, c.right] ++ c.offsetText) := by
  obtain ⟨left, comparison, right, offset⟩ := c
  cases offset with
  | none => simp [render, offsetText, joinWith, String.append_assoc]
  | some offset =>
      by_cases hzero : offset = 0
      · simp [render, offsetText, joinWith, hzero, Option.filter, String.append_assoc]
      · simp [render, offsetText, joinWith, hzero, Option.filter, String.append_assoc]

end Constraint

theorem signed_ofNat (n : Nat) : signed (Int.ofNat n) = "+" ++ toString n := by
  rw [signed, if_neg (by simp)]
  rfl

theorem signed_negSucc (n : Nat) : signed (Int.negSucc n) = "-" ++ toString (n + 1) := by
  rw [signed, if_pos (Int.negSucc_lt_zero n)]
  rfl

/-- The sign and the digits of an integer are neither quotes nor the letter of a leaf. -/
theorem notMem_signed {c : Char} (hc : c.isDigit = false) (hminus : c ≠ '-') (hplus : c ≠ '+')
    (value : Int) : c ∉ (signed value).toList := by
  have hrepr : ∀ n : Nat, c ∉ (toString n).toList := by
    intro n hmem
    have hdigit : c ∈ Nat.toDigits 10 n := by simpa using hmem
    rw [Nat.isDigit_of_mem_toDigits (by decide) (by decide) hdigit] at hc
    exact Bool.noConfusion hc
  cases value with
  | ofNat n =>
      rw [signed_ofNat, String.toList_append, List.mem_append]
      rintro (h | h)
      · exact hplus (by simpa using h)
      · exact hrepr n h
  | negSucc n =>
      rw [signed_negSucc, String.toList_append, List.mem_append]
      rintro (h | h)
      · exact hminus (by simpa using h)
      · exact hrepr (n + 1) h

theorem quoteFree_signed (value : Int) : QuoteFree (signed value) :=
  notMem_signed (by decide) (by decide) (by decide) value

theorem leafFree_signed (value : Int) : LeafFree (signed value) :=
  leafFree_of_notMem (notMem_signed (by decide) (by decide) (by decide) value)

namespace Comparison

theorem quoteFree_render (comparison : Comparison) : QuoteFree comparison.render := by
  cases comparison <;> decide

theorem leafFree_render (comparison : Comparison) : LeafFree comparison.render := by
  cases comparison <;> exact leafFree_of_notMem (by decide)

end Comparison

namespace Constraint

/-- The texts between and behind the variables of a constraint have neither quotes nor leaves. -/
theorem quoteFree_offsetText (c : Constraint) :
    ∀ text ∈ c.offsetText, QuoteFree text ∧ LeafFree text := by
  intro text htext
  obtain ⟨value, -, rfl⟩ := List.mem_map.1 htext
  exact ⟨quoteFree_signed value, leafFree_signed value⟩

theorem closed_parts {c : Constraint} (h : ∀ term ∈ c.terms, QuoteFree term) :
    ∀ part ∈ [c.left, c.comparison.render, c.right] ++ c.offsetText, Closed part := by
  intro part hpart
  rw [List.mem_append] at hpart
  rcases hpart with hpart | hpart
  · simp only [List.mem_cons, List.not_mem_nil, or_false] at hpart
    rcases hpart with rfl | rfl | rfl
    · exact closed_of_quoteFree (h _ (by simp [terms]))
    · exact closed_of_quoteFree c.comparison.quoteFree_render
    · exact closed_of_quoteFree (h _ (by simp [terms]))
  · exact closed_of_quoteFree (quoteFree_offsetText c part hpart).1

theorem closed_render {c : Constraint} (h : ∀ term ∈ c.terms, QuoteFree term) :
    Closed c.render := by
  rw [render_eq_joinWith]
  exact closed_joinWith Frame.isDivider_space (closed_parts h)

/-- The leaves of a constraint are those of its variables. -/
theorem read_render {c : Constraint} (h : ∀ term ∈ c.terms, QuoteFree term)
    (reading : LeafReading) : reading.read c.render = c.terms.flatMap reading.read := by
  have hoffset : c.offsetText.flatMap reading.read = [] := by
    rw [List.flatMap_eq_nil_iff]
    intro text htext
    exact reading.leafFree (quoteFree_offsetText c text htext).2
  rw [render_eq_joinWith, read_joinWith Frame.isDivider_space (closed_parts h),
    List.flatMap_append, hoffset]
  simp [terms, reading.leafFree c.comparison.leafFree_render]

/-- Renumbering a constraint renumbers its variables. -/
theorem shift_render {c : Constraint} (h : ∀ term ∈ c.terms, QuoteFree term) (amount : Nat) :
    shift c.render amount =
      { c with left := shift c.left amount, right := shift c.right amount }.render := by
  have hoffset : c.offsetText.map (shift · amount) = c.offsetText := by
    refine (List.map_congr_left fun text htext => ?_).trans (List.map_id c.offsetText)
    exact shift_of_leafFree (quoteFree_offsetText c text htext).2 amount
  rw [render_eq_joinWith, render_eq_joinWith,
    shift_joinWith Frame.isDivider_space (closed_parts h), List.map_append, hoffset]
  simp [offsetText, shift_of_leafFree c.comparison.leafFree_render]

/-- The predicate of constraints that were moved to the starts of their operands. -/
def predicateAt (starts : Starts) (constraints : List Constraint) : String :=
  predicate (constraints.map (remap starts))

theorem predicateAt_nil (starts : Starts) : predicateAt starts [] = "True" := rfl

theorem predicateAt_cons (starts : Starts) (c : Constraint) (rest : List Constraint) :
    predicateAt starts (c :: rest) =
      joinWith " ∧ " ((c :: rest).map fun c => (c.remap starts).render) := by
  rw [predicateAt, predicate, if_neg (by simp), List.map_map]
  rfl

section PredicateAt

variable {constraints : List Constraint} (starts : Starts)
  (h : ∀ term ∈ constraints.flatMap terms, QuoteFree term)

include h

theorem quoteFree_remap_terms : ∀ c ∈ constraints, ∀ term ∈ (c.remap starts).terms,
    QuoteFree term := by
  intro c hc term hterm
  have hmem : ∀ term ∈ c.terms, QuoteFree term := fun term hterm =>
    h term (List.mem_flatMap.2 ⟨c, hc, hterm⟩)
  simp only [terms, remap, List.mem_cons, List.not_mem_nil, or_false] at hterm
  rcases hterm with rfl | rfl
  · exact quoteFree_remap (hmem c.left (by simp [terms])) starts
  · exact quoteFree_remap (hmem c.right (by simp [terms])) starts

theorem closed_remap_renders :
    ∀ part ∈ constraints.map fun c => (c.remap starts).render, Closed part := by
  intro part hpart
  obtain ⟨c, hc, rfl⟩ := List.mem_map.1 hpart
  exact closed_render (quoteFree_remap_terms starts h c hc)

theorem closed_predicateAt : Closed (predicateAt starts constraints) := by
  cases constraints with
  | nil =>
      rw [predicateAt_nil]
      exact closed_of_quoteFree (by decide)
  | cons c rest =>
      rw [predicateAt_cons]
      exact closed_joinWith Frame.isDivider_and (closed_remap_renders starts h)

/-- The leaves of a predicate are those of the moved variables. -/
theorem read_predicateAt (reading : LeafReading) :
    reading.read (predicateAt starts constraints) =
      (constraints.flatMap terms).flatMap fun term =>
        reading.read (EventAlgebra.remap starts term) := by
  have hterms := quoteFree_remap_terms starts h
  cases constraints with
  | nil =>
      show reading.read "True" = []
      exact reading.leafFree (leafFree_of_notMem (by decide))
  | cons c rest =>
      rw [predicateAt_cons, read_joinWith Frame.isDivider_and (closed_remap_renders starts h),
        List.flatMap_map, List.flatMap_assoc]
      apply List.flatMap_congr
      intro c' hc'
      rw [read_render (hterms c' hc')]
      simp [terms, remap]

end PredicateAt

/-- Renumbering a predicate moves its variables to the renumbered starts. -/
theorem shift_predicateAt {constraints : List Constraint} {starts : Starts} {amount : Nat}
    (hquote : ∀ term ∈ constraints.flatMap terms, QuoteFree term)
    (hplain : ∀ term ∈ constraints.flatMap terms, PlainVariable term)
    (hfirst : starts.first + amount ≤ largestNat64)
    (hsecond : starts.second + amount ≤ largestNat64) :
    shift (predicateAt starts constraints) amount =
      predicateAt (starts.shift amount) constraints := by
  have hterms := quoteFree_remap_terms starts hquote
  cases constraints with
  | nil => exact shift_of_leafFree (leafFree_of_notMem (show 'M' ∉ "True".toList by decide)) amount
  | cons c rest =>
      rw [predicateAt_cons, predicateAt_cons,
        shift_joinWith Frame.isDivider_and (closed_remap_renders starts hquote), List.map_map]
      congr 1
      apply List.map_congr_left
      intro c' hc'
      have hmem : ∀ term ∈ c'.terms, PlainVariable term := fun term hterm =>
        hplain term (List.mem_flatMap.2 ⟨c', hc', hterm⟩)
      rw [Function.comp_apply, shift_render (hterms c' hc')]
      simp only [remap, shift_remap (hmem c'.left (by simp [terms])) hfirst hsecond,
        shift_remap (hmem c'.right (by simp [terms])) hfirst hsecond]

end Constraint

/-! ## Columns -/

/-- Names by position depend on the aliases that were chosen, and not on the sources. -/
theorem aliasesFrom_map {change : ProjectionField → ProjectionField}
    (hchange : ∀ field, (change field).chosen = field.chosen) (taken : List String)
    (position : Nat) (fields : List ProjectionField) :
    aliasesFrom .positional taken position (fields.map change) =
      aliasesFrom .positional taken position fields := by
  induction fields generalizing taken position with
  | nil => rfl
  | cons field fields ih =>
      cases hchosen : field.chosen with
      | none => simp only [List.map_cons, aliasesFrom, hchange, hchosen, ih]
      | some label => simp only [List.map_cons, aliasesFrom, hchange, hchosen, ih]

theorem aliases_map (change : ProjectionField → ProjectionField)
    (hchange : ∀ field, (change field).chosen = field.chosen) (fields : List ProjectionField) :
    aliases .positional (fields.map change) = aliases .positional fields := by
  have hchosen : (fields.map change).filterMap (·.chosen) = fields.filterMap (·.chosen) := by
    rw [List.filterMap_map]
    exact List.filterMap_congr fun field _ => hchange field
  rw [aliases, aliases, hchosen, aliasesFrom_map hchange]

/-- A column is named by its alias or by a position. -/
theorem mem_aliasesFrom {taken : List String} {position : Nat} {fields : List ProjectionField}
    {name : String} (h : name ∈ aliasesFrom .positional taken position fields) :
    name ∈ fields.filterMap (·.chosen) ∨ ∃ number, name = positionalAlias number := by
  induction fields generalizing taken position with
  | nil => simp [aliasesFrom] at h
  | cons field fields ih =>
      cases hchosen : field.chosen with
      | none =>
          simp only [aliasesFrom, hchosen, List.mem_cons] at h
          rw [List.filterMap_cons_none hchosen]
          rcases h with rfl | h
          · exact Or.inr ⟨_, rfl⟩
          · exact ih h
      | some label =>
          simp only [aliasesFrom, hchosen, List.mem_cons] at h
          rw [List.filterMap_cons_some hchosen, List.mem_cons]
          rcases h with rfl | h
          · exact Or.inl (Or.inl rfl)
          · exact (ih h).imp_left Or.inr

theorem notMem_positionalAlias {c : Char} (hc : c.isDigit = false) (harg : c ∉ ['a', 'r', 'g'])
    (number : Nat) : c ∉ (positionalAlias number).toList := by
  rw [positionalAlias, String.toList_append, List.mem_append]
  rintro (h | h)
  · exact harg h
  · have hdigit : c ∈ Nat.toDigits 10 number := by simpa using h
    rw [Nat.isDigit_of_mem_toDigits (by decide) (by decide) hdigit] at hc
    exact Bool.noConfusion hc

namespace Projection

/-- The variables of a projection. -/
def terms (projection : Projection) : List String :=
  projection.fields.map (·.source) ++ [projection.start, projection.finish]

/-- The aliases that were chosen. -/
def labels (projection : Projection) : List String :=
  projection.fields.filterMap (·.chosen)

/-- The columns of a projection: the source and the name of each, the boundaries included. -/
def columns (projection : Projection) : List (String × String) :=
  (projection.fields.map (·.source)).zip (aliases .positional projection.fields) ++
    [(projection.start, "sf"), (projection.finish, "ef")]

/-- The projection clause with all sources moved to the starts of their operands. -/
def clauseAt (starts : Starts) (projection : Projection) : String :=
  ((projection.remap starts).output .positional).clause

/-- The columns of a projection as they are written at the starts of the operands. -/
def columnTexts (starts : Starts) (projection : Projection) : List String :=
  projection.columns.map fun column => renderColumn (EventAlgebra.remap starts column.1) column.2

/-- Moving the sources of a projection renames no column. -/
theorem aliases_remap (starts : Starts) (projection : Projection) :
    aliases .positional (projection.remap starts).fields = aliases .positional projection.fields :=
  aliases_map (fun field => { field with source := EventAlgebra.remap starts field.source })
    (fun _ => rfl) projection.fields

theorem clauseAt_eq (starts : Starts) (projection : Projection) :
    projection.clauseAt starts = joinWith ", " (projection.columnTexts starts) := by
  rw [clauseAt, output, aliases_remap, columnTexts, columns, List.map_append, List.zip_map_left,
    List.map_map]
  simp only [remap, List.zipWith_map_left, List.map_cons, List.map_nil]
  rw [List.zip, List.map_zipWith]
  rfl

/-- A column has a variable of the projection for its source, and a name that was chosen or that
has neither quotes nor leaves. -/
theorem mem_columns {projection : Projection} {column : String × String}
    (h : column ∈ projection.columns) :
    column.1 ∈ projection.terms ∧
      (column.2 ∈ projection.labels ∨ QuoteFree column.2 ∧ LeafFree column.2) := by
  rw [columns, List.mem_append] at h
  rcases h with h | h
  · -- a column that was asked for, under its alias or under a position
    obtain ⟨source, name⟩ := column
    have hzip := List.of_mem_zip h
    refine ⟨List.mem_append_left _ hzip.1, (mem_aliasesFrom hzip.2).imp_right ?_⟩
    rintro ⟨number, rfl⟩
    exact ⟨notMem_positionalAlias (by decide) (by decide) number,
      leafFree_of_notMem (notMem_positionalAlias (by decide) (by decide) number)⟩
  · -- one of the two boundaries, whose names are fixed
    simp only [List.mem_cons, List.not_mem_nil, or_false] at h
    rcases h with rfl | rfl
    · have hname : QuoteFree "sf" ∧ LeafFree "sf" :=
        ⟨by decide, leafFree_of_notMem (by decide)⟩
      exact ⟨by simp [terms], Or.inr hname⟩
    · have hname : QuoteFree "ef" ∧ LeafFree "ef" :=
        ⟨by decide, leafFree_of_notMem (by decide)⟩
      exact ⟨by simp [terms], Or.inr hname⟩

end Projection

theorem renderColumn_eq_fill (source name : String) :
    renderColumn source name = Frame.column.fill source [name] := by
  simp [renderColumn, Frame.column, Frame.fill, Frame.follow, String.append_assoc]

namespace Projection

section ClauseAt

variable {projection : Projection} (starts : Starts)
  (hterms : ∀ term ∈ projection.terms, QuoteFree term)
  (hlabels : ∀ label ∈ projection.labels, QuoteFree label)

include hterms hlabels

theorem quoteFree_columns : ∀ column ∈ projection.columns,
    QuoteFree (EventAlgebra.remap starts column.1) ∧ QuoteFree column.2 := by
  intro column hcolumn
  obtain ⟨hsource, hname⟩ := mem_columns hcolumn
  refine ⟨quoteFree_remap (hterms _ hsource) starts, ?_⟩
  rcases hname with hname | hname
  · exact hlabels _ hname
  · exact hname.1

theorem closed_columnTexts : ∀ text ∈ projection.columnTexts starts, Closed text := by
  intro text htext
  obtain ⟨column, hcolumn, rfl⟩ := List.mem_map.1 htext
  obtain ⟨hsource, hname⟩ := quoteFree_columns starts hterms hlabels column hcolumn
  rw [renderColumn_eq_fill]
  exact Frame.closed_fill Frame.sound_column (closed_of_quoteFree hsource)
    (by simpa using closed_of_quoteFree hname)

theorem closed_clauseAt : Closed (projection.clauseAt starts) := by
  rw [clauseAt_eq]
  exact closed_joinWith Frame.isDivider_comma (closed_columnTexts starts hterms hlabels)

/-- The leaves of a projection clause are those of the moved sources and of the names. -/
theorem read_clauseAt (reading : LeafReading) :
    reading.read (projection.clauseAt starts) = projection.columns.flatMap fun column =>
      reading.read (EventAlgebra.remap starts column.1) ++ reading.read column.2 := by
  rw [clauseAt_eq, read_joinWith Frame.isDivider_comma (closed_columnTexts starts hterms hlabels),
    columnTexts, List.flatMap_map]
  apply List.flatMap_congr
  intro column hcolumn
  obtain ⟨hsource, hname⟩ := quoteFree_columns starts hterms hlabels column hcolumn
  rw [renderColumn_eq_fill, Frame.read_fill Frame.sound_column (closed_of_quoteFree hsource)
    (by simpa using closed_of_quoteFree hname) reading (by simp [Frame.column])]
  simp

/-- Renumbering a projection clause moves its sources to the renumbered starts. -/
theorem shift_clauseAt {amount : Nat} (hplain : ∀ term ∈ projection.terms, PlainVariable term)
    (hfree : ∀ label ∈ projection.labels, LeafFree label)
    (hfirst : starts.first + amount ≤ largestNat64)
    (hsecond : starts.second + amount ≤ largestNat64) :
    shift (projection.clauseAt starts) amount = projection.clauseAt (starts.shift amount) := by
  rw [clauseAt_eq, clauseAt_eq,
    shift_joinWith Frame.isDivider_comma (closed_columnTexts starts hterms hlabels), columnTexts,
    columnTexts, List.map_map]
  congr 1
  apply List.map_congr_left
  intro column hcolumn
  obtain ⟨hsource, hname⟩ := quoteFree_columns starts hterms hlabels column hcolumn
  obtain ⟨hterm, hlabel⟩ := mem_columns hcolumn
  -- the name of the column stays, and only its source moves
  have hnameFree : LeafFree column.2 := by
    rcases hlabel with hlabel | hlabel
    · exact hfree _ hlabel
    · exact hlabel.2
  rw [Function.comp_apply, renderColumn_eq_fill, renderColumn_eq_fill,
    Frame.shift_fill Frame.sound_column (closed_of_quoteFree hsource)
      (by simpa using closed_of_quoteFree hname),
    shift_remap (hplain _ hterm) hfirst hsecond, List.map_cons, List.map_nil,
    shift_of_leafFree hnameFree]

end ClauseAt

end Projection

end EventAlgebra
