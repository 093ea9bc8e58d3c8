import EventAlgebra.Proofs.History
import EventAlgebra.Proofs.Resolving

/-!
# Counting the leaves of a saved event

When a request is compiled, the leaves of its two operands are added up. When the saved event is
referred to later, its leaves are counted by the largest leaf index of its algebra. A reference to
an event that was just saved is spliced in unchanged and uses that many slots, up to the limit of
leaves (`resolve_saved_compiled`).

The two counts can differ, since a user string outside of literals can bring in a leaf of its own
(`not_forall_expands_leaves`). They agree when no such leaf goes beyond the operands, the strings
have no quotes, and the algebra spliced in for the operands is well behaved (`Library.Counts`).
-/

set_option autoImplicit false

namespace EventAlgebra

open Text

/-! ## Referring to a saved event -/

/-- An algebra was spliced in as it stands, and uses a number of slots. -/
structure Resolved.Expands (resolved : Resolved) (algebra : String) (slots : Nat) : Prop where
  origin : resolved.origin = .inlined
  fragment : resolved.fragment = "( \n " ++ algebra ++ " \n )"
  slots : resolved.slots = slots

instance (resolved : Resolved) (algebra : String) (slots : Nat) :
    Decidable (resolved.Expands algebra slots) :=
  decidable_of_iff (resolved.origin = .inlined ∧
      resolved.fragment = "( \n " ++ algebra ++ " \n )" ∧ resolved.slots = slots)
    ⟨fun ⟨a, b, c⟩ => ⟨a, b, c⟩, fun ⟨a, b, c⟩ => ⟨a, b, c⟩⟩

/-- The algebra that a compiled event is saved with is its expression. -/
theorem algebra?_toEvent_compile (library : Library) (naming : Naming) (request : Request)
    (form : Form) (date : String) :
    ((library.compile naming request).toEvent form date).algebra? =
      some (library.compile naming request).expression := by
  have htrim : trim (library.compile naming request).expression =
      (library.compile naming request).expression := Request.trim_expression _ _ _ _ _
  have hne : (library.compile naming request).expression ≠ "" :=
    Request.expression_ne_empty _ _ _ _ _
  simp [Event.algebra?, Compiled.toEvent, Option.filter, htrim, hne]

theorem conditions_nil (schema : List SchemaField) : conditions schema [] = [] := by
  simp [conditions, orderFilters]

/-- Without filters and from the first index on, an algebra is spliced in as it stands. -/
theorem Resolved.expands_splice (algebra : String) (schema : List SchemaField) (slots : Nat)
    (issues : List Issue) :
    (Resolved.splice algebra schema [] 1 slots .inlined issues).Expands algebra slots := by
  refine ⟨rfl, ?_, rfl⟩
  simp only [Resolved.splice, conditions_nil, Nat.sub_self, shift_zero]
  rfl

/-! ## The leaves of an operand -/

/-- The own leaves of a resolved operand: its one leaf, or those of the spliced algebra, moved to
the start. -/
def Library.ownLeaves (library : Library) (operand : Operand) (start : Nat) : List Nat :=
  match library.spliced? operand with
  | none => [start]
  | some algebra => (leafIndices algebra).map (· + (start - 1))

/-- What is known of a resolved operand: its text closes its literals, and has the leaves of some
labels and then its own. -/
structure Resolved.Reads (resolved : Resolved) (labels : List String) (own : List Nat) : Prop where
  closed : Closed resolved.fragment
  leaves : ∃ outer, leafIndices resolved.fragment = outer ++ own ∧
    ∀ index ∈ outer, ∃ label ∈ labels, index ∈ leafIndices label

theorem mem_labels_of_orderFilters {operand : Operand} (schema : List SchemaField) {index : Nat}
    (h : index ∈ (orderFilters schema operand.filters).flatMap fun filter =>
      leafIndices filter.field) :
    ∃ label ∈ operand.labels, index ∈ leafIndices label := by
  obtain ⟨filter, hfilter, hindex⟩ := List.mem_flatMap.1 h
  refine ⟨filter.field, List.mem_append_right _ (List.mem_map.2 ⟨filter, ?_, rfl⟩), hindex⟩
  exact mem_of_mem_orderFilters hfilter

section Reads

variable {operand : Operand} (hquote : ∀ text ∈ operand.strings, QuoteFree text) {start : Nat}

include hquote

theorem Operand.quoteFree_target : QuoteFree operand.target.text :=
  hquote _ (by simp [Operand.strings])

theorem Resolved.reads_selection {predicate : String}
    (htarget : operand.target = .atomic predicate) (hstart : start ≤ largestNat64) :
    (Resolved.selection predicate operand.filters start).Reads operand.labels [start] := by
  have hpredicate := Operand.quoteFree_target hquote
  have hfilters := Operand.quoteFree_filters hquote
  rw [htarget] at hpredicate
  refine ⟨closed_selection hpredicate hfilters start, _, ?_,
    fun index => mem_labels_of_orderFilters defaultSchema⟩
  rw [← leafIndices_leafCell hstart]
  exact read_selection hpredicate hfilters start LeafReading.all

theorem Resolved.reads_call {name : String} (htarget : operand.target = .saved name)
    (hstart : start ≤ largestNat64) (issues : List Issue) :
    (Resolved.call name operand.filters start issues).Reads operand.labels [start] := by
  have hname := Operand.quoteFree_target hquote
  rw [htarget] at hname
  refine ⟨?_, leafIndices name, ?_, ?_⟩
  · rw [call_fragment]
    exact closed_call hname start
  · rw [call_fragment, ← leafIndices_leafCell hstart]
    exact read_call hname start LeafReading.all
  · intro index hindex
    exact ⟨name, by simp [Operand.labels, htarget, Target.reference?], hindex⟩

theorem Resolved.reads_splice {algebra : String} (hclosed : Closed algebra)
    (hshift : ∀ index ∈ leafIndices algebra, index + (start - 1) ≤ largestNat64)
    (schema : List SchemaField) (slots : Nat) (origin : Origin) (issues : List Issue) :
    (Resolved.splice algebra schema operand.filters start slots origin issues).Reads
      operand.labels ((leafIndices algebra).map (· + (start - 1))) := by
  have hfilters := Operand.quoteFree_filters hquote
  have hshifted := closed_shift hclosed (start - 1)
  refine ⟨closed_grouped schema hfilters hshifted, _, ?_,
    fun index => mem_labels_of_orderFilters schema⟩
  rw [← leafIndices_shift hshift]
  exact read_grouped schema hfilters hshifted LeafReading.all

/-- A resolved operand without quotes has the leaves of its labels and its own. -/
theorem Library.reads_resolve {library : Library}
    (hclosed : ∀ algebra ∈ library.spliced? operand, Closed algebra) (definition : String)
    (hstart : start ≤ 1 + leafLimit) :
    (library.resolve definition operand start).Reads operand.labels
      (library.ownLeaves operand start) := by
  -- the limit of leaves is far below the largest index that can be written
  have hlimit : leafLimit + leafLimit ≤ largestNat64 := by decide
  have hpositive : 1 ≤ leafLimit := by decide
  rw [ownLeaves]
  rcases library.resolve_everywhere definition operand with
    ⟨predicate, htarget, hspliced, hresolve⟩ | ⟨name, issues, htarget, hspliced, hresolve⟩ |
      ⟨name, algebra, origin, issues, -, hspliced, hresolve⟩
  · rw [hresolve, hspliced]
    exact Resolved.reads_selection hquote htarget (by omega)
  · rw [hresolve, hspliced]
    exact Resolved.reads_call hquote htarget (by omega) issues
  · have hshift : ∀ index ∈ leafIndices algebra, index + (start - 1) ≤ largestNat64 := by
      intro index hindex
      have hlargest := le_of_mem_leafIndices hindex
      have hwithin := le_of_spliced? hspliced
      omega
    rw [hresolve, hspliced]
    exact Resolved.reads_splice hquote (hclosed algebra hspliced) hshift _ _ _ _

end Reads

section OwnLeaves

variable {library : Library} {operand : Operand} {start : Nat} (hstart : 1 ≤ start)
  (definition : String)

include hstart

/-- The own leaves of a resolved operand keep within its slots. -/
theorem Library.lt_of_mem_ownLeaves :
    ∀ index ∈ library.ownLeaves operand start,
      index < start + (library.resolve definition operand start).slots := by
  intro index hindex
  rw [slots_resolve]
  rw [ownLeaves] at hindex
  cases hspliced : library.spliced? operand with
  | none =>
      simp only [hspliced, List.mem_singleton] at hindex ⊢
      omega
  | some algebra =>
      simp only [hspliced, List.mem_map] at hindex ⊢
      obtain ⟨inner, hinner, rfl⟩ := hindex
      have hle := le_of_mem_leafIndices hinner
      omega

/-- The last slot of a resolved operand is used by a leaf of its own, unless the spliced algebra
has none. -/
theorem Library.last_mem_ownLeaves
    (hleaf : ∀ algebra ∈ library.spliced? operand, ¬ LeafFree algebra) :
    start + (library.resolve definition operand start).slots - 1 ∈
      library.ownLeaves operand start := by
  rw [slots_resolve, ownLeaves]
  cases hspliced : library.spliced? operand with
  | none => simp
  | some algebra =>
      simp only [List.mem_map]
      cases hmax : maxLeaf? algebra with
      | none => exact absurd hmax (hleaf algebra hspliced)
      | some largest =>
          -- the largest leaf of the algebra is moved to the last slot
          refine ⟨largest, (List.max?_eq_some_iff.1 hmax).1, ?_⟩
          rw [Option.getD_some]
          omega

end OwnLeaves

/-! ## Requests that count their leaves -/

/-- The leaves of a request outside of its operands: those of labels and of moved variables. -/
def Request.outerLeaves (request : Request) (starts : Starts) : List Nat :=
  request.labels.flatMap leafIndices ++
    request.terms.flatMap fun term => leafIndices (remap starts term)

/-- What makes the largest leaf of a compiled request the number of its leaves: no quotes in its
strings, no open literal in the algebra of its operands, a leaf in that of the second operand, and
no leaf outside of the operands beyond theirs. -/
structure Library.Counts (library : Library) (request : Request) : Prop where
  quoteFree : ∀ text ∈ request.strings, QuoteFree text
  firstClosed : ∀ algebra ∈ library.spliced? request.first, Closed algebra
  secondClosed : ∀ algebra ∈ library.spliced? request.second, Closed algebra
  secondLeaf : ∀ algebra ∈ library.spliced? request.second, ¬ LeafFree algebra
  outer : ∀ index ∈ request.outerLeaves ⟨1, (library.compile .positional request).secondStart⟩,
    index ≤ (library.compile .positional request).leaves

instance (library : Library) (request : Request) : Decidable (library.Counts request) :=
  decidable_of_iff ((∀ text ∈ request.strings, QuoteFree text) ∧
      (∀ algebra ∈ library.spliced? request.first, Closed algebra) ∧
      (∀ algebra ∈ library.spliced? request.second, Closed algebra) ∧
      (∀ algebra ∈ library.spliced? request.second, ¬ LeafFree algebra) ∧
      ∀ index ∈ request.outerLeaves ⟨1, (library.compile .positional request).secondStart⟩,
        index ≤ (library.compile .positional request).leaves)
    ⟨fun ⟨a, b, c, d, e⟩ => ⟨a, b, c, d, e⟩, fun ⟨a, b, c, d, e⟩ => ⟨a, b, c, d, e⟩⟩

theorem Library.Counts.quoteFreeClauses {library : Library} {request : Request}
    (h : library.Counts request) (hrelation : request.relation.Decimal) :
    request.QuoteFreeClauses where
  terms term hterm := h.quoteFree term (by simp [Request.strings, hterm])
  labels label hlabel := h.quoteFree label (by simp [Request.strings, hlabel])
  relation := hrelation

/-- A leaf of a resolved operand is one of a label, or keeps within the slots. -/
theorem Library.le_of_reads {library : Library} {operand : Operand} {definition : String}
    {start : Nat} (hstart : 1 ≤ start)
    (hreads : (library.resolve definition operand start).Reads operand.labels
      (library.ownLeaves operand start)) :
    ∀ index ∈ leafIndices (library.resolve definition operand start).fragment,
      (∃ label ∈ operand.labels, index ∈ leafIndices label) ∨
        index < start + (library.resolve definition operand start).slots := by
  intro index hindex
  obtain ⟨outer, hleaves, houter⟩ := hreads.leaves
  rw [hleaves, List.mem_append] at hindex
  rcases hindex with hindex | hindex
  · exact Or.inl (houter index hindex)
  · exact Or.inr (lt_of_mem_ownLeaves hstart definition index hindex)

theorem Library.one_le_secondStart (library : Library) (request : Request) :
    1 ≤ (library.compile .positional request).secondStart := by
  rw [secondStart_compile]
  exact Nat.le_add_right 1 _

/-- The slots of the second operand end with the last leaf. -/
theorem Library.secondStart_add_slots (library : Library) (request : Request) :
    (library.compile .positional request).secondStart +
        (library.resolve request.name request.second
          (library.compile .positional request).secondStart).slots =
      1 + (library.compile .positional request).leaves := by
  have hstart := library.secondStart_compile .positional request
  have hleaves := library.leaves_compile .positional request
  omega

namespace Library.Counts

variable {library : Library} {request : Request} (h : library.Counts request)
  (hrelation : request.relation.Decimal)

include h

theorem reads_first :
    (library.resolve request.name request.first 1).Reads request.first.labels
      (library.ownLeaves request.first 1) :=
  reads_resolve (fun text htext => h.quoteFree text (by simp [Request.strings, htext]))
    h.firstClosed request.name (by decide)

theorem reads_second :
    (library.resolve request.name request.second
        (library.compile .positional request).secondStart).Reads request.second.labels
      (library.ownLeaves request.second (library.compile .positional request).secondStart) := by
  exact reads_resolve (fun text htext => h.quoteFree text (by simp [Request.strings, htext]))
    h.secondClosed request.name (library.secondStart_le .positional request)

/-- A leaf of a label or of a moved variable keeps within the leaves. -/
theorem le_of_outer {index : Nat}
    (hindex : (∃ label ∈ request.labels, index ∈ leafIndices label) ∨
      ∃ term ∈ request.terms, index ∈ leafIndices
        (remap ⟨1, (library.compile .positional request).secondStart⟩ term)) :
    index ≤ (library.compile .positional request).leaves := by
  apply h.outer index
  rw [Request.outerLeaves, List.mem_append, List.mem_flatMap, List.mem_flatMap]
  exact hindex

include hrelation

/-- The last leaf of the second operand is the last of all. -/
theorem leaves_mem : (library.compile .positional request).leaves ∈
    leafIndices (library.compile .positional request).expression := by
  have hlast := last_mem_ownLeaves (library.one_le_secondStart request) request.name h.secondLeaf
  rw [library.secondStart_add_slots request, Nat.add_sub_cancel_left] at hlast
  obtain ⟨outer, hleaves, -⟩ := h.reads_second.leaves
  refine (Request.mem_read_expressionAt (h.quoteFreeClauses hrelation) _ h.reads_first.closed
    h.reads_second.closed LeafReading.all _).2 (Or.inr (Or.inr ?_))
  show _ ∈ leafIndices _
  rw [hleaves]
  exact List.mem_append_right _ hlast

/-- No leaf goes beyond the leaves. -/
theorem le_leaves {index : Nat}
    (hindex : index ∈ leafIndices (library.compile .positional request).expression) :
    index ≤ (library.compile .positional request).leaves := by
  have hclauses := h.quoteFreeClauses hrelation
  have hleaves := library.secondStart_add_slots request
  have hstart := library.secondStart_compile .positional request
  -- the leaf stands in a clause, in the first operand or in the second
  rcases (Request.mem_read_expressionAt hclauses _ h.reads_first.closed h.reads_second.closed
    LeafReading.all index).1 hindex with hindex | hindex | hindex
  · apply h.le_of_outer
    refine (hclauses.mem_read_clauses _ LeafReading.all hindex).imp_left ?_
    rintro ⟨label, hlabel, hindex⟩
    exact ⟨label, List.mem_append_right _ hlabel, hindex⟩
  · rcases le_of_reads (Nat.le_refl 1) h.reads_first index hindex with
      ⟨label, hlabel, hindex⟩ | hlt
    · exact h.le_of_outer (Or.inl ⟨label, by simp [Request.labels, hlabel], hindex⟩)
    · omega
  · rcases le_of_reads (library.one_le_secondStart request) h.reads_second index hindex with
      ⟨label, hlabel, hindex⟩ | hlt
    · exact h.le_of_outer (Or.inl ⟨label, by simp [Request.labels, hlabel], hindex⟩)
    · omega

/-- The largest leaf of a compiled expression is the number of its leaves. -/
theorem maxLeaf?_compile :
    maxLeaf? (library.compile .positional request).expression =
      some (library.compile .positional request).leaves := by
  rw [maxLeaf?, List.max?_eq_some_iff]
  exact ⟨h.leaves_mem hrelation, fun index hindex => h.le_leaves hrelation hindex⟩

end Library.Counts

/-! ## Saving and referring -/

/-- The reference to a saved event, without filters and while another event is defined. -/
theorem Library.resolve_put_toEvent (library : Library) (request : Request) (form : Form)
    (date : String) {definition : String} (h : definition ≠ request.name) :
    let compiled := library.compile .positional request
    (library.put (compiled.toEvent form date)).resolve definition
        ⟨.saved compiled.name, []⟩ 1 =
      (compiled.toEvent form date).resolve compiled.expression compiled.name [] 1 .inlined := by
  intro compiled
  have hget : (library.put (compiled.toEvent form date)).get? compiled.name =
      some (compiled.toEvent form date) := get?_put library (compiled.toEvent form date)
  have hname : compiled.name ≠ definition := Ne.symm h
  simp only [resolve, resolveSaved, hget, if_neg hname]
  rw [algebra?_toEvent_compile]

/-- After a form was compiled and its event saved, a reference without filters from another
definition is spliced in as it stands and uses as many slots as the largest leaf of the expression
says, if that keeps within the limit, and is a call otherwise. The slots are the leaves that were
counted when the form was compiled if the request counts its leaves. -/
theorem resolve_saved_compiled {library : Library} {form : Form} {request : Request}
    (hvalidate : form.validate = .ok request) (date : String) {definition : String}
    (hdefinition : definition ≠ request.name) :
    let compiled := library.compile .positional request
    let resolved := (library.put (compiled.toEvent form date)).resolve definition
      ⟨.saved compiled.name, []⟩ 1
    let largest := (maxLeaf? compiled.expression).getD 1
    library.compileForm true form = .ok compiled ∧
      (largest ≤ leafLimit → resolved.Expands compiled.expression largest) ∧
      (leafLimit < largest → resolved.origin = .unexpanded ∧
        resolved.fragment = Layout.call compiled.name (leafName 1)) ∧
      (library.Counts request → compiled.leaves ≤ leafLimit →
        resolved.Expands compiled.expression compiled.leaves) := by
  intro compiled resolved largest
  have hresolved : resolved =
      (compiled.toEvent form date).resolve compiled.expression compiled.name [] 1 .inlined :=
    library.resolve_put_toEvent request form date hdefinition
  have hexpands : largest ≤ leafLimit → resolved.Expands compiled.expression largest := by
    intro hlimit
    rcases (compiled.toEvent form date).resolve_cases compiled.expression compiled.name [] 1
      .inlined with ⟨hbeyond, -⟩ | ⟨-, issues, heq⟩
    · exact absurd hlimit (Nat.not_le.2 hbeyond)
    · rw [hresolved, heq]
      exact Resolved.expands_splice _ _ _ _
  refine ⟨library.compileForm_of_validate hvalidate, hexpands, ?_, ?_⟩
  · intro hbeyond
    rcases (compiled.toEvent form date).resolve_cases compiled.expression compiled.name [] 1
      .inlined with ⟨-, issues, heq⟩ | ⟨hlimit, -⟩
    · rw [hresolved, heq]
      exact ⟨rfl, rfl⟩
    · exact absurd hlimit (Nat.not_le.2 hbeyond)
  · intro hcounts hlimit
    have hrelation := Form.decimal_of_validate hvalidate
    have hlargest : largest = compiled.leaves := by
      rw [← Option.getD_some (a := compiled.leaves) (b := 1), ← hcounts.maxLeaf?_compile hrelation]
    rw [← hlargest] at hlimit ⊢
    exact hexpands hlimit

/-- A library with one event, whose algebra uses three leaves. -/
def tripleLibrary : Library :=
  Library.empty.put (.withAlgebra "Triple" [] "a(M1) b(M3) c=\"M8\"")

/-- A form with leaves in an alias and in a filter field that do not go beyond those of the
operands. -/
def relayForm : Form :=
  ⟨"Relay", ⟨"hasBall", "", []⟩, ⟨" EXISTING", "Triple ", [⟨"M2", "x"⟩]⟩,
    ⟨"overlap", "", "", "RDJ", "", "3"⟩, [⟨"M2.sf", "<", "M1.ef", ""⟩], false,
    ⟨"", "", [⟨"M2.arg1", "M4"⟩]⟩⟩

/-- The request of that form. -/
def relayRequest : Request :=
  ⟨"Relay", ⟨.atomic "hasBall", []⟩, ⟨.saved "Triple", [⟨"M2", "x"⟩]⟩,
    .overlap .reverseDuring .unbounded (.numeric "3"), [⟨"M2.sf", .lt, "M1.ef", none⟩], false,
    ⟨[⟨"M2.arg1", some "M4"⟩], "M1.sf", "M2.ef"⟩⟩

theorem resolve_saved_relay :
    relayForm.validate = .ok relayRequest ∧ "Other" ≠ relayRequest.name ∧
      tripleLibrary.Counts relayRequest ∧
      (tripleLibrary.compile .positional relayRequest).leaves = 4 ∧
      Resolved.Expands
        ((tripleLibrary.put
            ((tripleLibrary.compile .positional relayRequest).toEvent relayForm "d2")).resolve
          "Other" ⟨.saved "Relay", []⟩ 1)
        (tripleLibrary.compile .positional relayRequest).expression
        (tripleLibrary.compile .positional relayRequest).leaves := by
  have hvalidate : relayForm.validate = .ok relayRequest := rfl
  have hname : "Other" ≠ relayRequest.name := by decide
  have hcounts : tripleLibrary.Counts relayRequest := by decide +kernel
  have hleaves : (tripleLibrary.compile .positional relayRequest).leaves = 4 := by decide +kernel
  have hlimit : (tripleLibrary.compile .positional relayRequest).leaves ≤ leafLimit := by
    rw [hleaves]
    decide
  exact ⟨hvalidate, hname, hcounts, hleaves,
    (resolve_saved_compiled hvalidate "d2" hname).2.2.2 hcounts hlimit⟩

/-- A form with an alias that is a leaf beyond those of the operands. -/
def taggedForm : Form :=
  ⟨"Tagged", ⟨"hasBall", "", []⟩, ⟨"inArea", "", []⟩, ⟨"sequential", "", "", "", "", ""⟩, [],
    false, ⟨"", "", [⟨"M1.arg1", "M9"⟩]⟩⟩

/-- The request of that form. -/
def taggedRequest : Request :=
  { Request.plain "Tagged" ⟨.atomic "hasBall", []⟩ ⟨.atomic "inArea", []⟩ .before with
    projection := ⟨[⟨"M1.arg1", some "M9"⟩], "M1.sf", "M2.ef"⟩ }

/-- An alias can be a leaf beyond those of the operands, and the reference then uses more slots
than there are leaves. -/
theorem not_forall_expands_leaves :
    ¬ ∀ (library : Library) (form : Form) (compiled : Compiled) (date definition : String),
      library.compileForm true form = .ok compiled → compiled.leaves ≤ leafLimit →
      definition ≠ compiled.name →
      ((library.put (compiled.toEvent form date)).resolve definition
        ⟨.saved compiled.name, []⟩ 1).Expands compiled.expression compiled.leaves := by
  intro h
  have hexpands := h .empty taggedForm _ "d1" "Other"
    (Library.empty.compileForm_of_validate (show taggedForm.validate = .ok taggedRequest from rfl))
    (by decide +kernel) (by decide)
  exact absurd hexpands.slots (by decide +kernel)

end EventAlgebra
