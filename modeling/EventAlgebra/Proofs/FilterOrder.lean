import EventAlgebra.Proofs.Clauses
import Mathlib.Data.List.Nodup

/-!
# The order of conditions

The filters on an operand are written as conditions, those on fields of the schema first. The
filters on one field are picked out of the list in one piece, once for each time that the schema
lists the field, and once if it does not (`filter_field_orderFilters`). So no filter is lost and
none is made up, whatever the schema.

In a schema that lists no field twice, each filter is picked exactly once. The conditions are then
what a stable sort by the position in the schema makes of the filters, with all other fields behind
the schema (`conditions_stablyOrdered`).
-/

set_option autoImplicit false

namespace EventAlgebra

/-! ## The filters on one field -/

/-- Going through the schema picks the filters on a field as often as the field is listed. -/
theorem filter_field_flatMap (schema : List SchemaField) (filters : List Filter) (name : String) :
    (schema.flatMap fun field => filters.filter (·.field = field.id)).filter (·.field = name) =
      (List.replicate ((schema.map (·.id)).count name)
        (filters.filter (·.field = name))).flatten := by
  induction schema with
  | nil => rfl
  | cons field schema ih =>
      rw [List.flatMap_cons, List.filter_append, ih, List.map_cons, List.filter_filter]
      by_cases hname : field.id = name
      · subst hname
        rw [List.count_cons_self, List.replicate_succ, List.flatten_cons]
        simp
      · -- no filter is on two fields
        have hnone : (filters.filter fun filter =>
            decide (filter.field = name) && decide (filter.field = field.id)) = [] := by
          rw [List.filter_eq_nil_iff]
          intro filter _ hboth
          simp only [Bool.and_eq_true, decide_eq_true_eq] at hboth
          exact hname (hboth.2.symm.trans hboth.1)
        rw [hnone, List.count_cons_of_ne hname, List.nil_append]

/-- What is left behind the schema are the filters on fields that it does not list. -/
theorem filter_not_any (schema : List SchemaField) (filters : List Filter) :
    filters.filter (fun filter => !schema.any (·.id = filter.field)) =
      filters.filter (·.field ∉ schema.map (·.id)) := by
  apply List.filter_congr
  intro filter _
  rw [Bool.eq_iff_iff]
  simp

/-- The filters on a field keep their order. They are picked once for each time that the schema
lists the field, and once if it does not. -/
theorem filter_field_orderFilters (schema : List SchemaField) (filters : List Filter)
    (name : String) :
    (orderFilters schema filters).filter (·.field = name) =
      (List.replicate (max 1 ((schema.map (·.id)).count name))
        (filters.filter (·.field = name))).flatten := by
  rw [orderFilters, List.filter_append, filter_field_flatMap, filter_not_any, List.filter_filter]
  by_cases hlisted : name ∈ schema.map (·.id)
  · have hcount := List.count_pos_iff.2 hlisted
    have hnone : (filters.filter fun filter =>
        decide (filter.field = name) && decide (filter.field ∉ schema.map (·.id))) = [] := by
      rw [List.filter_eq_nil_iff]
      intro filter _ hboth
      simp only [Bool.and_eq_true, decide_eq_true_eq] at hboth
      exact hboth.2 (hboth.1 ▸ hlisted)
    rw [hnone, List.append_nil, max_eq_right hcount]
  · have hall : (filters.filter fun filter =>
        decide (filter.field = name) && decide (filter.field ∉ schema.map (·.id))) =
          filters.filter (·.field = name) := by
      apply List.filter_congr
      intro filter _
      rw [Bool.eq_iff_iff]
      simp only [Bool.and_eq_true, decide_eq_true_eq, and_iff_left_iff_imp]
      rintro rfl
      exact hlisted
    rw [hall, List.count_eq_zero.2 hlisted]
    simp

/-- The filters on fields that the schema does not list keep their order. -/
theorem filter_outside_orderFilters (schema : List SchemaField) (filters : List Filter) :
    (orderFilters schema filters).filter (·.field ∉ schema.map (·.id)) =
      filters.filter (·.field ∉ schema.map (·.id)) := by
  rw [orderFilters, List.filter_append, filter_not_any, List.filter_filter]
  have hnone : (schema.flatMap fun field => filters.filter (·.field = field.id)).filter
      (·.field ∉ schema.map (·.id)) = [] := by
    rw [List.filter_eq_nil_iff]
    intro filter hpicked
    obtain ⟨field, hfield, hmem⟩ := List.mem_flatMap.1 hpicked
    have hid : filter.field = field.id := by simpa using (List.mem_filter.1 hmem).2
    simpa [hid] using ⟨field, hfield, rfl⟩
  rw [hnone, List.nil_append]
  simp

/-- Ordering filters loses none and brings in no new ones. -/
theorem mem_orderFilters {schema : List SchemaField} {filters : List Filter} {filter : Filter} :
    filter ∈ orderFilters schema filters ↔ filter ∈ filters := by
  refine ⟨mem_of_mem_orderFilters, fun hmem => ?_⟩
  -- it is found among the filters on its field, of which there is at least one copy
  have hpicked : filter ∈ (orderFilters schema filters).filter (·.field = filter.field) := by
    rw [filter_field_orderFilters]
    simp [hmem]
  exact List.mem_of_mem_filter hpicked

/-! ## Stable orders -/

/-- The position of the field of a filter in a schema. It is the number of its fields, and so behind
all of them, if the schema does not list the field. -/
def Filter.position (schema : List SchemaField) (filter : Filter) : Nat :=
  (schema.map (·.id)).idxOf filter.field

/-- A list of filters as a stable sort by position leaves it. -/
structure StablyOrdered (schema : List SchemaField) (filters ordered : List Filter) : Prop where
  /-- Every filter is kept, as often as it was given. -/
  perm : ordered.Perm filters
  /-- Filters on schema fields stand in the order of the schema and in front of the others. -/
  sorted : ordered.Pairwise fun left right => left.position schema ≤ right.position schema
  /-- Filters on one field keep their order. -/
  field_order : ∀ name, ordered.filter (·.field = name) = filters.filter (·.field = name)
  /-- Filters on fields that the schema does not list keep their order. -/
  outside_order : ordered.filter (·.field ∉ schema.map (·.id)) =
    filters.filter (·.field ∉ schema.map (·.id))

section Schema

variable {schema : List SchemaField}

theorem position_le (filter : Filter) : filter.position schema ≤ schema.length := by
  have hle : filter.position schema ≤ (schema.map (·.id)).length := List.idxOf_le_length
  rwa [List.length_map] at hle

theorem position_eq_length_iff {filter : Filter} :
    filter.position schema = schema.length ↔ filter.field ∉ schema.map (·.id) := by
  have hiff : filter.position schema = (schema.map (·.id)).length ↔
      filter.field ∉ schema.map (·.id) := List.idxOf_eq_length_iff
  rwa [List.length_map] at hiff

/-- Two filters at one position are on the same field, or both on fields that are not listed. -/
theorem field_eq_of_position_eq {left right : Filter}
    (h : left.position schema = right.position schema) :
    left.field = right.field ∨
      (left.field ∉ schema.map (·.id) ∧ right.field ∉ schema.map (·.id)) := by
  by_cases hlisted : left.field ∈ schema.map (·.id)
  · exact Or.inl ((List.idxOf_inj hlisted).1 h)
  · refine Or.inr ⟨hlisted, ?_⟩
    rw [← position_eq_length_iff, ← h]
    exact position_eq_length_iff.2 hlisted

variable (hnodup : (schema.map (·.id)).Nodup)

include hnodup

/-- Where no field is listed twice, positions grow along the schema. -/
theorem pairwise_idxOf :
    schema.Pairwise fun left right =>
      (schema.map (·.id)).idxOf left.id ≤ (schema.map (·.id)).idxOf right.id := by
  rw [List.pairwise_iff_getElem]
  intro i j hi hj hlt
  have hposition : ∀ k (hk : k < schema.length), (schema.map (·.id)).idxOf schema[k].id = k := by
    intro k hk
    have hindex := hnodup.idxOf_getElem k (by simpa using hk)
    rwa [List.getElem_map] at hindex
  rw [hposition i hi, hposition j hj]
  omega

theorem pairwise_position_orderFilters (filters : List Filter) :
    (orderFilters schema filters).Pairwise fun left right =>
      left.position schema ≤ right.position schema := by
  rw [orderFilters, filter_not_any, List.pairwise_append, List.pairwise_flatMap]
  refine ⟨⟨?_, ?_⟩, ?_, ?_⟩
  · -- within the filters on one field
    intro field _
    refine List.pairwise_of_forall_mem_list fun left hleft right hright => ?_
    have hfield : left.field = right.field := by
      simp only [List.mem_filter, decide_eq_true_eq] at hleft hright
      exact hleft.2.trans hright.2.symm
    rw [Filter.position, Filter.position, hfield]
  · -- from one field of the schema to a later one
    refine (pairwise_idxOf hnodup).imp fun {first second} hle => ?_
    intro left hleft right hright
    simp only [List.mem_filter, decide_eq_true_eq] at hleft hright
    rw [Filter.position, Filter.position, hleft.2, hright.2]
    exact hle
  · -- within the filters behind the schema
    refine List.pairwise_of_forall_mem_list fun left hleft right hright => ?_
    simp only [List.mem_filter, decide_eq_true_eq] at hleft hright
    rw [position_eq_length_iff.2 hleft.2, position_eq_length_iff.2 hright.2]
  · -- from the schema to what is behind it
    intro left _ right hright
    simp only [List.mem_filter, decide_eq_true_eq] at hright
    rw [position_eq_length_iff.2 hright.2]
    exact position_le left

/-- Where no field is listed twice, ordering is a stable sort. -/
theorem stablyOrdered_orderFilters (filters : List Filter) :
    StablyOrdered schema filters (orderFilters schema filters) := by
  have hfield : ∀ name, (orderFilters schema filters).filter (·.field = name) =
      filters.filter (·.field = name) := by
    intro name
    have hcount : (schema.map (·.id)).count name ≤ 1 := List.nodup_iff_count_le_one.1 hnodup name
    rw [filter_field_orderFilters, max_eq_left hcount]
    simp
  refine ⟨?_, pairwise_position_orderFilters hnodup filters, hfield, ?_⟩
  · -- a filter is counted among those on its field
    rw [List.perm_iff_count]
    intro filter
    have hown : ∀ list : List Filter,
        (list.filter (·.field = filter.field)).count filter = list.count filter := fun list =>
      List.count_filter (by simp)
    rw [← hown, hfield, hown]
  · exact filter_outside_orderFilters schema filters

end Schema

/-- Every filter is among those on its field. -/
theorem mem_iff_of_filter_eq {first second : List Filter}
    (h : ∀ name, first.filter (·.field = name) = second.filter (·.field = name))
    (filter : Filter) : filter ∈ first ↔ filter ∈ second := by
  have hown : ∀ list : List Filter,
      filter ∈ list.filter (·.field = filter.field) ↔ filter ∈ list := by simp
  rw [← hown, h, hown]

/-- Sorted filters are told by the order of those on each field and of those that are not listed.
The filters that come first in two such lists stand at the same position, so they are the same. -/
theorem eq_of_sorted {schema : List SchemaField} {first second : List Filter}
    (hfirst : first.Pairwise fun left right => left.position schema ≤ right.position schema)
    (hsecond : second.Pairwise fun left right => left.position schema ≤ right.position schema)
    (hfield : ∀ name, first.filter (·.field = name) = second.filter (·.field = name))
    (houtside : first.filter (·.field ∉ schema.map (·.id)) =
      second.filter (·.field ∉ schema.map (·.id))) : first = second := by
  induction first generalizing second with
  | nil =>
      symm
      rw [List.eq_nil_iff_forall_not_mem]
      intro filter hfilter
      exact List.not_mem_nil ((mem_iff_of_filter_eq hfield filter).2 hfilter)
  | cons a first ih =>
      have hmem := mem_iff_of_filter_eq hfield
      cases second with
      | nil => exact absurd ((hmem a).1 List.mem_cons_self) List.not_mem_nil
      | cons b second =>
          have hposition : a.position schema = b.position schema := by
            apply Nat.le_antisymm
            · rcases List.mem_cons.1 ((hmem b).2 List.mem_cons_self) with rfl | hb
              · exact Nat.le_refl _
              · exact List.rel_of_pairwise_cons hfirst hb
            · rcases List.mem_cons.1 ((hmem a).1 List.mem_cons_self) with rfl | ha
              · exact Nat.le_refl _
              · exact List.rel_of_pairwise_cons hsecond ha
          have hhead : ∀ kept : Filter → Bool, kept a = true → kept b = true →
              (a :: first).filter kept = (b :: second).filter kept → a = b := by
            intro kept ha hb heq
            rw [List.filter_cons_of_pos ha, List.filter_cons_of_pos hb] at heq
            exact (List.cons.inj heq).1
          obtain rfl : a = b := by
            rcases field_eq_of_position_eq hposition with heq | ⟨ha, hb⟩
            · exact hhead _ (decide_eq_true heq) (decide_eq_true rfl) (hfield b.field)
            · exact hhead _ (decide_eq_true ha) (decide_eq_true hb) houtside
          have htail : ∀ kept : Filter → Bool,
              (a :: first).filter kept = (a :: second).filter kept →
                first.filter kept = second.filter kept := by
            intro kept heq
            rw [List.filter_cons, List.filter_cons] at heq
            split at heq
            · exact (List.cons.inj heq).2
            · exact heq
          rw [ih hfirst.of_cons hsecond.of_cons (fun name => htail _ (hfield name))
            (htail _ houtside)]

/-! ## Conditions -/

/-- The conditions are those of the filters, with none left out and none added. If the schema lists
no field twice, they stand in the one order that a stable sort by position in the schema gives. -/
theorem conditions_stablyOrdered (schema : List SchemaField) (filters : List Filter) :
    ∃ ordered, conditions schema filters = ordered.map Filter.render ∧
      (∀ filter, filter ∈ ordered ↔ filter ∈ filters) ∧
      ((schema.map (·.id)).Nodup →
        ∀ other, StablyOrdered schema filters other ↔ other = ordered) := by
  refine ⟨orderFilters schema filters, rfl, fun filter => mem_orderFilters, fun hnodup other => ?_⟩
  have hstable := stablyOrdered_orderFilters hnodup filters
  constructor
  · intro hother
    exact eq_of_sorted hother.sorted hstable.sorted
      (fun name => (hother.field_order name).trans (hstable.field_order name).symm)
      (hother.outside_order.trans hstable.outside_order.symm)
  · rintro rfl
    exact hstable

/-- A schema of two fields. -/
def handoverSchema : List SchemaField :=
  [⟨"who", "Who"⟩, ⟨"what", "What"⟩]

/-- Filters on both fields of the schema, two of them alike, and on others. -/
def handoverFilters : List Filter :=
  [⟨"what", "keys"⟩, ⟨"when", "now"⟩, ⟨"who", "bob"⟩, ⟨"what", "door"⟩, ⟨"how", "fast"⟩,
    ⟨"who", "ann"⟩, ⟨"what", "keys"⟩]

/-- The same filters by the order of the schema. -/
def handoverOrdered : List Filter :=
  [⟨"who", "bob"⟩, ⟨"who", "ann"⟩, ⟨"what", "keys"⟩, ⟨"what", "door"⟩, ⟨"what", "keys"⟩,
    ⟨"when", "now"⟩, ⟨"how", "fast"⟩]

/-- The filters on the fields of the schema come first, and a filter given twice is stated twice. -/
theorem conditions_stablyOrdered_handover :
    (handoverSchema.map (·.id)).Nodup ∧
      StablyOrdered handoverSchema handoverFilters handoverOrdered ∧
      conditions handoverSchema handoverFilters = handoverOrdered.map Filter.render := by
  have hnodup : (handoverSchema.map (·.id)).Nodup := by decide
  have hordered : StablyOrdered handoverSchema handoverFilters handoverOrdered :=
    stablyOrdered_orderFilters hnodup handoverFilters
  obtain ⟨ordered, hconditions, -, hstable⟩ :=
    conditions_stablyOrdered handoverSchema handoverFilters
  obtain rfl := (hstable hnodup handoverOrdered).1 hordered
  exact ⟨hnodup, hordered, hconditions⟩

end EventAlgebra
