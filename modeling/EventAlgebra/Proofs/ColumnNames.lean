import EventAlgebra.Proofs.Clauses
import EventAlgebra.Proofs.Trimming
import Mathlib.Data.List.Forall2
import Mathlib.Data.List.Nodup
import Mathlib.Data.List.Perm.Subperm
import Mathlib.Data.Set.Insert
import Mathlib.Order.Bounds.Defs

/-!
# Names of columns by position

A column without an alias is named `arg<n>` when columns are named by position. The search for `n`
starts at the position of the column and goes on while the name is taken, by an alias of any column
or by a name that was made for an earlier one (`Search`). It comes to an end, since there are more
candidates than taken names (`search_freePosition`), and it ends at the least free number
(`Search.isLeast`).

`Named` says what one column after the other does to the names that are taken, and
`named_aliases` that the columns are named so. What holds of all columns follows by induction over
it: the names that were made are free and distinct, and with the aliases they make up all names. So
the search of a column can be told from the aliases and the names in front of it
(`positional_columns`).

The id of a column is its name without the quotes around it, while it is the name that is compared
with the taken ones. So an alias in quotes can have the id of a name that is made for another
column. Nothing else makes two ids equal, if those of the aliases are distinct
(`nodup_schema_ids_iff`).
-/

set_option autoImplicit false

namespace EventAlgebra

open Text

/-! ## The search for a free name -/

theorem positionalAlias_inj {number number' : Nat} :
    positionalAlias number = positionalAlias number' ↔ number = number' := by
  rw [positionalAlias, positionalAlias, String.append_right_inj, toString_nat_inj]

/-- The search for a name that is not taken, from one candidate to the next. -/
inductive Search (taken : Set String) : Nat → Nat → Prop where
  | stop {number : Nat} (free : positionalAlias number ∉ taken) : Search taken number number
  | next {number found : Nat} (busy : positionalAlias number ∈ taken)
      (later : Search taken (number + 1) found) : Search taken number found

/-- A search ends at the least number from its start on whose name is not taken. -/
theorem Search.isLeast {taken : Set String} {start found : Nat} (h : Search taken start found) :
    IsLeast {number | start ≤ number ∧ positionalAlias number ∉ taken} found := by
  induction h with
  | stop free => exact ⟨⟨le_refl _, free⟩, fun _ hnumber => hnumber.1⟩
  | @next start found busy later ih =>
      obtain ⟨⟨hstart, hfree⟩, hleast⟩ := ih
      refine ⟨⟨by omega, hfree⟩, ?_⟩
      rintro number ⟨hle, hnumber⟩
      -- the start itself is taken, so that the number is a candidate of the later search too
      have hne : start ≠ number := by
        rintro rfl
        exact hnumber busy
      exact hleast ⟨by omega, hnumber⟩

/-- A search comes to the least number whose name is not taken. -/
theorem search_of_isLeast {taken : Set String} {start found : Nat}
    (h : IsLeast {number | start ≤ number ∧ positionalAlias number ∉ taken} found) :
    Search taken start found := by
  obtain ⟨⟨hle, hfree⟩, hleast⟩ := h
  -- by induction on the number of candidates that are passed over
  induction hrounds : found - start generalizing start with
  | zero =>
      obtain rfl : start = found := by omega
      exact .stop hfree
  | succ rounds ih =>
      have hbusy : positionalAlias start ∈ taken := by
        by_contra hstart
        have hfound := hleast ⟨le_refl start, hstart⟩
        omega
      apply Search.next hbusy
      apply ih
      · rintro number ⟨hnext, hnumber⟩
        exact hleast ⟨by omega, hnumber⟩
      · omega
      · omega

/-- Among one more candidates than there are taken names, one is free. -/
theorem exists_free (taken : List String) (start : Nat) :
    ∃ number, start ≤ number ∧ number < start + (taken.length + 1) ∧
      positionalAlias number ∉ taken := by
  by_contra hnone
  let candidates := (List.range' start (taken.length + 1)).map positionalAlias
  have hnodup : candidates.Nodup := by
    apply List.Nodup.map
    · exact fun _ _ => positionalAlias_inj.1
    · exact List.nodup_range'
  have hsubset : candidates ⊆ taken := by
    intro name hname
    obtain ⟨number, hnumber, rfl⟩ := List.mem_map.1 hname
    rw [List.mem_range'_1] at hnumber
    by_contra hfree
    exact hnone ⟨number, hnumber.1, hnumber.2, hfree⟩
  have hlength : candidates.length ≤ taken.length := (hnodup.subperm hsubset).length_le
  rw [List.length_map, List.length_range'] at hlength
  omega

/-- The search ends, and so it ends at the position that is used. -/
theorem search_freePosition (taken : List String) (position : Nat) :
    Search {name | name ∈ taken} position (freePosition taken position) := by
  apply search_of_isLeast
  unfold freePosition
  cases hfind : (List.range' position (taken.length + 1)).find? fun candidate =>
      !taken.contains (positionalAlias candidate) with
  | none =>
      obtain ⟨number, hstart, hlimit, hfree⟩ := exists_free taken position
      rw [List.find?_range'_eq_none] at hfind
      simpa [hfree] using hfind number hstart hlimit
  | some found =>
      obtain ⟨hfree, hrange, hbusy⟩ := List.find?_range'_eq_some.1 hfind
      rw [Option.getD_some]
      refine ⟨⟨(List.mem_range'_1.1 hrange).1, by simpa using hfree⟩, ?_⟩
      rintro number ⟨hle, hnumber⟩
      by_contra hlt
      have htaken : positionalAlias number ∈ taken := by
        simpa using hbusy number hle (Nat.lt_of_not_le hlt)
      exact hnumber htaken

/-! ## Naming one column after the other -/

/-- Columns named from a position on, where some names are taken. A name that is made is taken for
the columns behind. -/
inductive Named : Set String → Nat → List ProjectionField → List String → Prop where
  | done {taken : Set String} {position : Nat} : Named taken position [] []
  | chosen {taken : Set String} {position : Nat} {field : ProjectionField} {label : String}
      {fields : List ProjectionField} {names : List String} (given : field.chosen = some label)
      (later : Named taken (position + 1) fields names) :
      Named taken position (field :: fields) (label :: names)
  | made {taken : Set String} {position number : Nat} {field : ProjectionField}
      {fields : List ProjectionField} {names : List String} (absent : field.chosen = none)
      (search : Search taken position number)
      (later : Named (insert (positionalAlias number) taken) (position + 1) fields names) :
      Named taken position (field :: fields) (positionalAlias number :: names)

theorem setOf_mem_cons (name : String) (names : List String) :
    {other | other ∈ name :: names} = insert name {other | other ∈ names} :=
  Set.ext fun _ => List.mem_cons

theorem named_aliasesFrom (taken : List String) (position : Nat) (fields : List ProjectionField) :
    Named {name | name ∈ taken} position fields
      (aliasesFrom .positional taken position fields) := by
  induction fields generalizing taken position with
  | nil => exact .done
  | cons field fields ih =>
      cases hchosen : field.chosen with
      | some label =>
          simp only [aliasesFrom, hchosen]
          exact .chosen hchosen (ih taken (position + 1))
      | none =>
          simp only [aliasesFrom, hchosen]
          apply Named.made hchosen (search_freePosition taken position)
          rw [← setOf_mem_cons]
          exact ih (positionalAlias (freePosition taken position) :: taken) (position + 1)

/-- The columns of a projection are named from the first on, and all aliases are taken. -/
theorem named_aliases (fields : List ProjectionField) :
    Named {name | name ∈ fields.filterMap (·.chosen)} 1 fields (aliases .positional fields) :=
  named_aliasesFrom _ 1 fields

/-- The names that were made for columns without an alias, among the names of all columns. -/
def madeNames (fields : List ProjectionField) (names : List String) : List String :=
  ((fields.zip names).filter (·.1.chosen.isNone)).map (·.2)

theorem madeNames_cons_chosen {field : ProjectionField} {label : String}
    (h : field.chosen = some label) (fields : List ProjectionField) (name : String)
    (names : List String) :
    madeNames (field :: fields) (name :: names) = madeNames fields names := by
  simp [madeNames, h]

theorem madeNames_cons_made {field : ProjectionField} (h : field.chosen = none)
    (fields : List ProjectionField) (name : String) (names : List String) :
    madeNames (field :: fields) (name :: names) = name :: madeNames fields names := by
  simp [madeNames, h]

namespace Named

variable {taken : Set String} {position : Nat} {fields : List ProjectionField}
  {names : List String} (h : Named taken position fields names)

include h

/-- Every column has one name. -/
theorem length_eq : names.length = fields.length := by
  induction h with
  | done => rfl
  | chosen given later ih => rw [List.length_cons, ih, List.length_cons]
  | made absent search later ih => rw [List.length_cons, ih, List.length_cons]

/-- The names are the aliases and the names that were made. -/
theorem perm : names.Perm (fields.filterMap (·.chosen) ++ madeNames fields names) := by
  induction h with
  | done => exact List.Perm.refl _
  | chosen given later ih =>
      rw [madeNames_cons_chosen given, List.filterMap_cons_some given]
      exact ih.cons _
  | made absent search later ih =>
      rw [madeNames_cons_made absent, List.filterMap_cons_none absent]
      exact (ih.cons _).trans List.perm_middle.symm

/-- A name that is made has a number, and it was not taken. -/
theorem made_free : ∀ name ∈ madeNames fields names,
    name ∉ taken ∧ ∃ number, name = positionalAlias number := by
  induction h with
  | done => simp [madeNames]
  | chosen given later ih =>
      rw [madeNames_cons_chosen given]
      exact ih
  | made absent search later ih =>
      rw [madeNames_cons_made absent, List.forall_mem_cons]
      refine ⟨⟨search.isLeast.1.2, _, rfl⟩, fun name hname => ?_⟩
      obtain ⟨hfree, hnumber⟩ := ih name hname
      exact ⟨fun htaken => hfree (Set.mem_insert_of_mem _ htaken), hnumber⟩

/-- No name is made twice. -/
theorem nodup_made : (madeNames fields names).Nodup := by
  induction h with
  | done => exact List.nodup_nil
  | chosen given later ih =>
      rw [madeNames_cons_chosen given]
      exact ih
  | made absent search later ih =>
      rw [madeNames_cons_made absent, List.nodup_cons]
      -- a name that is made later is free where this one is taken
      exact ⟨fun hagain => (later.made_free _ hagain).1 (Set.mem_insert _ _), ih⟩

/-- A column with an alias has it for its name. -/
theorem getElem?_chosen {index : Nat} {field : ProjectionField} {label : String}
    (hfield : fields[index]? = some field) (hlabel : field.chosen = some label) :
    names[index]? = some label := by
  induction h generalizing index with
  | done => simp at hfield
  | chosen given later ih =>
      cases index with
      | zero =>
          obtain rfl := Option.some.inj hfield
          exact given.symm.trans hlabel
      | succ index => exact ih hfield
  | made absent search later ih =>
      cases index with
      | zero =>
          obtain rfl := Option.some.inj hfield
          rw [absent] at hlabel
          cases hlabel
      | succ index => exact ih hfield

/-- A column without an alias has the name that the search from its position ends at, where the
names that were made in front are taken. -/
theorem getElem?_made {index : Nat} {field : ProjectionField}
    (hfield : fields[index]? = some field) (habsent : field.chosen = none) :
    ∃ number, names[index]? = some (positionalAlias number) ∧
      Search (taken ∪ {name | name ∈ madeNames (fields.take index) names}) (position + index)
        number := by
  induction h generalizing index with
  | done => simp at hfield
  | chosen given later ih =>
      cases index with
      | zero =>
          obtain rfl := Option.some.inj hfield
          rw [given] at habsent
          cases habsent
      | succ index =>
          obtain ⟨number, hname, hsearch⟩ := ih hfield
          refine ⟨number, hname, ?_⟩
          rw [List.take_succ_cons, madeNames_cons_chosen given, ← Nat.add_assoc,
            Nat.add_right_comm]
          exact hsearch
  | @made taken position first _ _ names absent search later ih =>
      cases index with
      | zero => exact ⟨first, rfl, by simpa [madeNames] using search⟩
      | succ index =>
          obtain ⟨number, hname, hsearch⟩ := ih hfield
          refine ⟨number, hname, ?_⟩
          -- the name of the first column is one in front, and is taken from the next column on
          rw [List.take_succ_cons, madeNames_cons_made absent, setOf_mem_cons,
            Set.union_insert, ← Set.insert_union, ← Nat.add_assoc, Nat.add_right_comm]
          exact hsearch

end Named

/-! ## Columns and ids -/

/-- The id of a column under a name: what is left of the name without the quotes around it. -/
def IsIdOf (name id : String) : Prop :=
  Stripped (· == '"') name.toList id.toList

theorem isIdOf_iff {name id : String} : IsIdOf name id ↔ id = stripQuotes name := by
  rw [IsIdOf, stripped_iff, stripQuotes, ← String.toList_inj, String.toList_ofList]

/-- A text without quotes has none around it. -/
theorem stripQuotes_of_quoteFree {text : String} (h : QuoteFree text) :
    stripQuotes text = text := by
  have hne : ∀ c ∈ text.toList, (c == '"') = false := by
    intro c hc
    rw [beq_eq_false_iff_ne]
    rintro rfl
    exact h hc
  refine (isIdOf_iff.1 (.self ?_ ?_)).symm
  · exact fun c hc => hne c (List.mem_of_mem_head? hc)
  · exact fun c hc => hne c (List.mem_of_mem_getLast? hc)

theorem quoteFree_positionalAlias (number : Nat) : QuoteFree (positionalAlias number) :=
  notMem_positionalAlias (by decide) (by decide) number

/-- The ids of a schema are the names of the columns without quotes around them. -/
theorem Projection.ids_schema (projection : Projection) :
    (projection.output .positional).schema.map (·.id) =
      (aliases .positional projection.fields).map stripQuotes := by
  let names := aliases .positional projection.fields
  have hlength : names.length = projection.fields.length :=
    (named_aliases projection.fields).length_eq
  calc (List.zipWith schemaField projection.fields names).map (·.id)
      = ((projection.fields.zip names).map Prod.snd).map stripQuotes := by
        rw [List.zip, List.map_zipWith, List.map_zipWith, List.map_zipWith]
        rfl
    _ = names.map stripQuotes := by rw [List.map_snd_zip hlength.le]

/-- The names that are made are distinct, and none is an alias of any column. The column at an index
has its alias for its name. If it has none, the search that starts at its position ends, at the
least number whose name is neither an alias nor made for a column in front. The clause, the
signature and the schema list the columns in the same order. The first two give them these names and
end with the boundaries, and the schema gives them the names without the quotes around them. -/
theorem positional_columns (projection : Projection) :
    let fields := projection.fields
    let names := aliases .positional fields
    let output := projection.output .positional
    (madeNames fields names).Nodup ∧
      (∀ name ∈ madeNames fields names, name ∉ projection.labels) ∧
      (∀ index (field : ProjectionField), fields[index]? = some field →
        match field.chosen with
        | some label => names[index]? = some label
        | none => ∃ number, names[index]? = some (positionalAlias number) ∧
            Search {name | name ∈ projection.labels ∨ name ∈ madeNames (fields.take index) names}
              (index + 1) number ∧
            IsLeast {candidate | index + 1 ≤ candidate ∧
              positionalAlias candidate ∉ projection.labels ∧
              positionalAlias candidate ∉ madeNames (fields.take index) names} number) ∧
      names.length = fields.length ∧
      output.clause = joinWith ", "
        (List.zipWith (fun field name => field.source ++ " AS " ++ name) fields names ++
          [projection.start ++ " AS " ++ "sf", projection.finish ++ " AS " ++ "ef"]) ∧
      output.signature =
        names.map (Column.mk · .varchar) ++ [⟨"sf", .integer⟩, ⟨"ef", .integer⟩] ∧
      List.Forall₂ IsIdOf names (output.schema.map (·.id)) := by
  intro fields names output
  have hnamed : Named {name | name ∈ projection.labels} 1 fields names := named_aliases fields
  have hids : List.Forall₂ IsIdOf names (output.schema.map (·.id)) := by
    rw [projection.ids_schema, List.forall₂_map_right_iff, List.forall₂_same]
    exact fun name _ => isIdOf_iff.2 rfl
  refine ⟨hnamed.nodup_made, fun name hname => (hnamed.made_free name hname).1, ?_,
    hnamed.length_eq, rfl, rfl, hids⟩
  intro index field hfield
  cases hchosen : field.chosen with
  | some label => exact hnamed.getElem?_chosen hfield hchosen
  | none =>
      obtain ⟨number, hname, hsearch⟩ := hnamed.getElem?_made hfield hchosen
      rw [Nat.add_comm 1 index] at hsearch
      refine ⟨number, hname, hsearch, ?_⟩
      simpa only [Set.mem_union, Set.mem_ofPred_eq, not_or] using hsearch.isLeast

/-- A projection in which an alias comes behind the column that would have had its name, and one
alias has quotes around it and inside of it. -/
def crossedProjection : Projection :=
  ⟨[⟨"M1.arg1", some "arg2"⟩, ⟨"M2.arg1", none⟩, ⟨"M2.arg2", none⟩, ⟨"M1.arg2", some "arg4"⟩,
    ⟨"M1.who", some "\"\"the \"one\" who\""⟩], "M1.sf", "M2.ef"⟩

theorem positional_columns_crossedProjection :
    let names := aliases .positional crossedProjection.fields
    let ids := (crossedProjection.output .positional).schema.map (·.id)
    names = ["arg2", "arg3", "arg5", "arg4", "\"\"the \"one\" who\""] ∧
      "arg3" ∉ crossedProjection.labels ∧ names[0]? = some "arg2" ∧
      (∃ number, names[2]? = some (positionalAlias number) ∧
        Search {name | name ∈ crossedProjection.labels ∨
          name ∈ madeNames (crossedProjection.fields.take 2) names} 3 number) ∧
      ids = ["arg2", "arg3", "arg5", "arg4", "the \"one\" who"] ∧
      IsIdOf "\"\"the \"one\" who\"" "the \"one\" who" := by
  intro names ids
  obtain ⟨-, hfree, hcolumns, -, -, -, hids⟩ := positional_columns crossedProjection
  obtain ⟨number, hname, hsearch, -⟩ := hcolumns 2 ⟨"M2.arg2", none⟩ rfl
  have hnames : names = ["arg2", "arg3", "arg5", "arg4", "\"\"the \"one\" who\""] := by
    decide +kernel
  have hlist : ids = ["arg2", "arg3", "arg5", "arg4", "the \"one\" who"] := by decide +kernel
  have hpairs : List.Forall₂ IsIdOf names ids := hids
  rw [hnames, hlist] at hpairs
  simp only [List.forall₂_cons] at hpairs
  obtain ⟨-, -, -, -, hquoted, -⟩ := hpairs
  exact ⟨hnames, hfree "arg3" (by decide +kernel), hcolumns 0 ⟨"M1.arg1", some "arg2"⟩ rfl,
    ⟨number, hname, hsearch⟩, hlist, hquoted⟩

/-- Ids are distinct exactly if those of the aliases are, and no alias in quotes has between them a
name that is made for another column. From the aliases alone this can be told if no alias is
`arg<n>` between quotes. -/
theorem nodup_schema_ids_iff (projection : Projection) :
    let ids := (projection.output .positional).schema.map (·.id)
    let aliasIds := projection.labels.map stripQuotes
    (ids.Nodup ↔ aliasIds.Nodup ∧ ∀ label ∈ projection.labels, stripQuotes label ≠ label →
        stripQuotes label ∉ madeNames projection.fields (aliases .positional projection.fields)) ∧
      (aliasIds.Nodup →
        (∀ label ∈ projection.labels, ∀ number, stripQuotes label = positionalAlias number →
          stripQuotes label = label) → ids.Nodup) := by
  intro ids aliasIds
  let names := aliases .positional projection.fields
  let made := madeNames projection.fields names
  have hnamed : Named {name | name ∈ projection.labels} 1 projection.fields names :=
    named_aliases projection.fields
  have hperm : ids.Perm (aliasIds ++ made) := by
    -- a name that was made has no quotes, and is its own id
    have hmade : made.map stripQuotes = made := by
      refine (List.map_congr_left fun name hname => ?_).trans (List.map_id made)
      obtain ⟨-, number, rfl⟩ := hnamed.made_free name hname
      exact stripQuotes_of_quoteFree (quoteFree_positionalAlias number)
    have hids : ids = names.map stripQuotes := projection.ids_schema
    rw [hids, ← hmade, ← List.map_append]
    exact hnamed.perm.map stripQuotes
  have hiff : ids.Nodup ↔ aliasIds.Nodup ∧ ∀ label ∈ projection.labels,
      stripQuotes label ≠ label → stripQuotes label ∉ made := by
    rw [hperm.nodup_iff, List.nodup_append]
    constructor
    · rintro ⟨haliases, -, hdisjoint⟩
      refine ⟨haliases, fun label hlabel _ hmade => ?_⟩
      exact hdisjoint _ (List.mem_map_of_mem hlabel) _ hmade rfl
    · rintro ⟨haliases, hquoted⟩
      refine ⟨haliases, hnamed.nodup_made, ?_⟩
      rintro _ hid name hmade rfl
      obtain ⟨label, hlabel, rfl⟩ := List.mem_map.1 hid
      by_cases hplain : stripQuotes label = label
      · -- an alias as it stands is taken for the names that are made
        rw [hplain] at hmade
        exact (hnamed.made_free label hmade).1 hlabel
      · exact hquoted label hlabel hplain hmade
  refine ⟨hiff, fun haliases hnumbers => hiff.2 ⟨haliases, ?_⟩⟩
  intro label hlabel hquoted hmade
  obtain ⟨-, number, hnumber⟩ := hnamed.made_free _ hmade
  exact hquoted (hnumbers label hlabel number hnumber)

/-- A projection of a column without an alias in front of one with an alias. -/
def labelledProjection (label : String) : Projection :=
  ⟨[⟨"M1.arg1", none⟩, ⟨"M2.arg1", some label⟩], "M1.sf", "M2.ef"⟩

/-- Of two aliases in quotes, one has the name of the first column between them. An alias without
quotes never does harm. -/
theorem nodup_schema_ids_labelledProjection :
    ¬ (((labelledProjection "\"arg1\"").output .positional).schema.map (·.id)).Nodup ∧
      (((labelledProjection "\"arg2\"").output .positional).schema.map (·.id)).Nodup ∧
      (((labelledProjection "arg1").output .positional).schema.map (·.id)).Nodup := by
  refine ⟨fun hnodup => ?_, ?_, ?_⟩
  · have hquoted := ((nodup_schema_ids_iff _).1.1 hnodup).2 "\"arg1\""
    exact hquoted (by decide) (by decide +kernel) (by decide +kernel)
  · exact (nodup_schema_ids_iff _).1.2 ⟨by decide +kernel, by decide +kernel⟩
  · apply (nodup_schema_ids_iff _).2 (by decide +kernel)
    intro label hlabel _ _
    obtain rfl : label = "arg1" := List.mem_singleton.1 hlabel
    decide +kernel

end EventAlgebra
