import EventAlgebra.Compilation
import Mathlib.Data.List.Induction
import Mathlib.Data.List.Perm.Subperm
import Mathlib.Data.String.Basic

/-!
# Stored forms

A saved event keeps the form it was compiled from as a JSON value in normal form, in which the
members of every object are sorted by key and only the last member of each key stays. The records
of a form have fixed keys, so they are read back as they were. The filters of an operand are the
members of an object themselves: they come back sorted by field, and of several filters on a field
only the last is left (`OperandForm.restored`).

`Form.ofJson?_normal` states what the whole form is read back as.
-/

set_option autoImplicit false

namespace EventAlgebra

namespace Json

/-! ## Sorted members -/

section Members

variable {α β : Type}

theorem lookup_cons_ite (key : String) (value : α) (members : List (String × α)) (name : String) :
    List.lookup name ((key, value) :: members) =
      if name = key then some value else List.lookup name members := by
  by_cases h : name = key
  · rw [List.lookup_cons, h, beq_self_eq_true, if_pos rfl]
  · have hbeq : (name == key) = false := beq_eq_false_iff_ne.2 h
    rw [List.lookup_cons, hbeq, if_neg h]

/-- What a key leads to after a member was put in. -/
theorem lookup_insertMember (key : String) (value : α) (members : List (String × α))
    (name : String) :
    List.lookup name (insertMember key value members) =
      if name = key then some value else List.lookup name members := by
  induction members with
  | nil => exact lookup_cons_ite key value [] name
  | cons member rest ih =>
      obtain ⟨other, held⟩ := member
      simp only [insertMember]
      -- the member goes in front, takes the place of its key, or goes further back
      split
      · exact lookup_cons_ite key value _ name
      · split
        · rename_i heq
          subst heq
          rw [lookup_cons_ite, lookup_cons_ite]
          by_cases h : name = key
          · simp [h]
          · simp [h]
        · rename_i hne
          rw [lookup_cons_ite, lookup_cons_ite, ih]
          by_cases h : name = key
          · simp [h, hne]
          · simp [h]

/-- Putting a member in adds nothing but the member. -/
theorem subperm_insertMember (key : String) (value : α) (members : List (String × α)) :
    (insertMember key value members).Subperm ((key, value) :: members) := by
  induction members with
  | nil => exact List.Subperm.refl _
  | cons member rest ih =>
      simp only [insertMember]
      split
      · exact List.Subperm.refl _
      · split
        · exact ((List.sublist_cons_self member rest).cons_cons (key, value)).subperm
        · exact ((List.subperm_cons member).2 ih).trans
            (List.Perm.swap (key, value) member rest).subperm

/-- Putting a member with a new key in hides no other member. -/
theorem perm_insertMember {key : String} {members : List (String × α)}
    (h : ∀ member ∈ members, key ≠ member.1) (value : α) :
    (insertMember key value members).Perm ((key, value) :: members) := by
  induction members with
  | nil => exact List.Perm.refl _
  | cons member rest ih =>
      rw [List.forall_mem_cons] at h
      simp only [insertMember, if_neg h.1]
      split
      · exact List.Perm.refl _
      · exact ((ih h.2).cons member).trans (List.Perm.swap (key, value) member rest)

theorem pairwise_insertMember {members : List (String × α)}
    (h : members.Pairwise fun a b => a.1 < b.1) (key : String) (value : α) :
    (insertMember key value members).Pairwise fun a b => a.1 < b.1 := by
  induction members with
  | nil => exact List.pairwise_singleton _ _
  | cons member rest ih =>
      have hhead := h
      rw [List.pairwise_cons] at h
      simp only [insertMember]
      split
      · rename_i hlt
        refine List.pairwise_cons.2 ⟨?_, hhead⟩
        rw [List.forall_mem_cons]
        exact ⟨hlt, fun other hother => lt_trans hlt (h.1 other hother)⟩
      · split
        · rename_i heq
          exact List.pairwise_cons.2 ⟨fun other hother => heq ▸ h.1 other hother, h.2⟩
        · rename_i hlt hne
          refine List.pairwise_cons.2 ⟨?_, ih h.2⟩
          -- what stands in the rest was there before, or is the new member
          intro other hother
          rcases List.mem_cons.1 ((subperm_insertMember key value rest).subset hother) with
            rfl | hrest
          · exact lt_of_le_of_ne (not_lt.1 hlt) (Ne.symm hne)
          · exact h.1 other hrest

theorem insertMember_map (change : α → β) (key : String) (value : α)
    (members : List (String × α)) :
    insertMember key (change value) (members.map fun member => (member.1, change member.2)) =
      (insertMember key value members).map fun member => (member.1, change member.2) := by
  induction members with
  | nil => rfl
  | cons member rest ih =>
      simp only [insertMember, List.map_cons]
      split
      · rfl
      · split
        · rfl
        · rw [ih, List.map_cons]

/-- Members are sorted by putting in the last after the others. -/
theorem sortMembers_concat (members : List (String × α)) (member : String × α) :
    sortMembers (members ++ [member]) = insertMember member.1 member.2 (sortMembers members) := by
  rw [sortMembers, List.foldl_append]
  rfl

/-- In sorted members a key leads to its last member. -/
theorem lookup_sortMembers (members : List (String × α)) (name : String) :
    List.lookup name (sortMembers members) = List.lookup name members.reverse := by
  induction members using List.reverseRecOn with
  | nil => rfl
  | append_singleton members member ih =>
      rw [sortMembers_concat, lookup_insertMember, ih, List.reverse_concat, lookup_cons_ite]

/-- Sorting members drops some and adds none. -/
theorem subperm_sortMembers (members : List (String × α)) :
    (sortMembers members).Subperm members := by
  induction members using List.reverseRecOn with
  | nil => exact List.Subperm.refl _
  | append_singleton members member ih =>
      rw [sortMembers_concat]
      refine (subperm_insertMember _ _ _).trans ?_
      exact ((List.subperm_cons member).2 ih).trans
        (List.perm_append_singleton member _).symm.subperm

/-- Sorting members with distinct keys drops none. -/
theorem perm_sortMembers {members : List (String × α)}
    (h : members.Pairwise fun a b => a.1 ≠ b.1) : (sortMembers members).Perm members := by
  induction members using List.reverseRecOn with
  | nil => exact List.Perm.refl _
  | append_singleton members member ih =>
      obtain ⟨hmembers, -, hmember⟩ := List.pairwise_append.1 h
      have hnew : ∀ other ∈ sortMembers members, member.1 ≠ other.1 := fun other hother =>
        (hmember other ((subperm_sortMembers members).subset hother) member (by simp)).symm
      rw [sortMembers_concat]
      refine (perm_insertMember hnew _).trans ?_
      exact ((ih hmembers).cons member).trans (List.perm_append_singleton member _).symm

/-- Sorted members stand in the order of their keys. -/
theorem pairwise_sortMembers (members : List (String × α)) :
    (sortMembers members).Pairwise fun a b => a.1 < b.1 := by
  induction members using List.reverseRecOn with
  | nil => exact List.Pairwise.nil
  | append_singleton members member ih =>
      rw [sortMembers_concat]
      exact pairwise_insertMember ih _ _

/-- Sorting looks at keys only. -/
theorem sortMembers_map (change : α → β) (members : List (String × α)) :
    sortMembers (members.map fun member => (member.1, change member.2)) =
      (sortMembers members).map fun member => (member.1, change member.2) := by
  induction members using List.reverseRecOn with
  | nil => rfl
  | append_singleton members member ih =>
      rw [List.map_append, List.map_singleton, sortMembers_concat, ih, sortMembers_concat]
      exact insertMember_map change _ _ _

/-- A key that occurs once leads to the same member from both ends. -/
theorem lookup_reverse {members : List (String × α)} {name : String}
    (h : occursOnce members name = true) :
    List.lookup name members.reverse = List.lookup name members := by
  rw [occursOnce, decide_eq_true_iff] at h
  induction members with
  | nil => rfl
  | cons member rest ih =>
      obtain ⟨key, value⟩ := member
      rw [List.countP_cons] at h
      rw [List.reverse_cons, List.lookup_append, lookup_cons_ite, lookup_cons_ite]
      by_cases hname : name = key
      · -- the key is used up, so that it leads nowhere in the rest
        have hrest : List.lookup name rest.reverse = none := by
          have hcount : rest.countP (·.1 == name) = 0 := by
            simp only [hname, beq_self_eq_true, if_true] at h ⊢
            omega
          rw [List.lookup_eq_none_iff]
          intro member hmember
          have hne := List.countP_eq_zero.1 hcount member (List.mem_reverse.1 hmember)
          rw [bne_iff_ne]
          exact fun heq => hne (by simp [heq])
        rw [if_pos hname, if_pos hname, hrest, Option.none_or]
      · rw [if_neg hname, if_neg hname, List.lookup_nil, Option.or_none, ih (by omega)]

theorem lookup_map (change : α → β) (members : List (String × α)) (name : String) :
    List.lookup name (members.map fun member => (member.1, change member.2)) =
      (List.lookup name members).map change := by
  induction members with
  | nil => rfl
  | cons member rest ih =>
      obtain ⟨key, value⟩ := member
      rw [List.map_cons, lookup_cons_ite, lookup_cons_ite, ih]
      by_cases h : name = key
      · simp [h]
      · simp [h]

end Members

/-! ## Reading values in normal form -/

theorem normalItems_eq_map (items : List Json) : normalItems items = items.map normal := by
  induction items with
  | nil => rw [normalItems, List.map_nil]
  | cons item rest ih => rw [normalItems, ih, List.map_cons]

theorem normalMembers_eq_map (members : List (String × Json)) :
    normalMembers members = members.map fun member => (member.1, normal member.2) := by
  induction members with
  | nil => rw [normalMembers, List.map_nil]
  | cons member rest ih => rw [normalMembers, ih, List.map_cons]

/-- The normal form of an object: its members are sorted, and their values in normal form. -/
theorem normal_object (members : List (String × Json)) :
    normal (.object members) =
      .object ((sortMembers members).map fun member => (member.1, normal member.2)) := by
  rw [normal, normalMembers_eq_map, sortMembers_map]

/-- The fields of a record are found in its normal form, with their values in normal form. -/
theorem fields?_normal {names : List String} {members : List (String × Json)}
    (h : names.all (occursOnce members) = true) :
    (normal (.object members)).fields? names =
      some (names.map fun name => (List.lookup name members).map normal) := by
  rw [List.all_eq_true] at h
  -- sorting keeps no more members of a key than there were
  have honce : names.all (occursOnce
      ((sortMembers members).map fun member => (member.1, normal member.2))) = true := by
    rw [List.all_eq_true]
    intro name hname
    have hle := (subperm_sortMembers members).countP_le (·.1 == name)
    have hcount := h name hname
    simp only [occursOnce, decide_eq_true_iff, List.countP_map] at hcount ⊢
    exact Nat.le_trans hle hcount
  rw [normal_object, fields?, if_pos honce]
  refine congrArg some (List.map_congr_left ?_)
  intro name hname
  rw [lookup_map, lookup_sortMembers, lookup_reverse (h name hname)]

/-- A list is read item by item. -/
theorem mapM_map {α β γ : Type} {write : α → β} {read : β → Option γ} {change : α → γ}
    (h : ∀ item, read (write item) = some (change item)) (items : List α) :
    (items.map write).mapM read = some (items.map change) := by
  induction items with
  | nil => rfl
  | cons item rest ih =>
      rw [List.map_cons, List.mapM_cons, h, ih]
      rfl

/-- A list is read back if its items are. -/
theorem listField_map {α : Type} {write : α → Json} {read : Json → Option α}
    (h : ∀ item, read (write item) = some item) (items : List α) :
    listField read (some (.array (items.map write))) = some items := by
  have hread := mapM_map h items
  rw [List.map_id'] at hread
  exact hread

theorem listField_normal {α : Type} {write : α → Json} {read : Json → Option α}
    (h : ∀ item, read (normal (write item)) = some item) (items : List α) :
    listField read (some (normal (.array (items.map write)))) = some items := by
  rw [normal, normalItems_eq_map, List.map_map]
  exact listField_map h items

end Json

/-! ## Records that are read back as they were -/

theorem RelationForm.ofJson?_normal (form : RelationForm) :
    RelationForm.ofJson? (Json.normal form.toJson) = some form := by
  rw [RelationForm.ofJson?, RelationForm.toJson, Json.fields?_normal rfl]
  rfl

theorem ConstraintForm.ofJson?_normal (form : ConstraintForm) :
    ConstraintForm.ofJson? (Json.normal form.toJson) = some form := by
  rw [ConstraintForm.ofJson?, ConstraintForm.toJson, Json.fields?_normal rfl]
  rfl

theorem FieldForm.ofJson?_normal (form : FieldForm) :
    FieldForm.ofJson? (Json.normal form.toJson) = some form := by
  rw [FieldForm.ofJson?, FieldForm.toJson, Json.fields?_normal rfl]
  rfl

theorem ProjectionForm.ofJson?_normal (form : ProjectionForm) :
    ProjectionForm.ofJson? (Json.normal form.toJson) = some form := by
  have hfields := Json.listField_normal FieldForm.ofJson?_normal form.fields
  rw [ProjectionForm.ofJson?, ProjectionForm.toJson, Json.fields?_normal rfl]
  simp only [List.map_cons, List.map_nil]
  show (Json.listField FieldForm.ofJson? (some (Json.normal (.array _)))).bind _ = _
  rw [hfields]
  rfl

/-! ## Filters -/

/-- Filters sorted by field, the last of each field. -/
def sortFilters (filters : List Filter) : List Filter :=
  (Json.sortMembers (filters.map fun filter => (filter.field, filter.value))).map fun member =>
    ⟨member.1, member.2⟩

section SortFilters

variable (filters : List Filter)

theorem map_members :
    (filters.map fun filter => (filter.field, filter.value)).map
      (fun member => Filter.mk member.1 member.2) = filters := by
  rw [List.map_map]
  exact List.map_id filters

/-- Sorting filters drops some and adds none. -/
theorem subperm_sortFilters : (sortFilters filters).Subperm filters := by
  obtain ⟨members, hperm, hsublist⟩ := Json.subperm_sortMembers
    (filters.map fun filter => (filter.field, filter.value))
  have hmap := hsublist.map fun member => Filter.mk member.1 member.2
  rw [map_members] at hmap
  exact ⟨_, hperm.map _, hmap⟩

variable {filters} in
/-- Sorting filters on distinct fields drops none. -/
theorem perm_sortFilters (h : filters.Pairwise fun a b => a.field ≠ b.field) :
    (sortFilters filters).Perm filters := by
  have hmembers : (filters.map fun filter => (filter.field, filter.value)).Pairwise
      fun a b => a.1 ≠ b.1 := List.pairwise_map.2 h
  have hperm := (Json.perm_sortMembers hmembers).map fun member => Filter.mk member.1 member.2
  rw [map_members] at hperm
  exact hperm

/-- Sorted filters stand in the order of their fields. -/
theorem pairwise_sortFilters : (sortFilters filters).Pairwise fun a b => a.field < b.field :=
  List.pairwise_map.2 (Json.pairwise_sortMembers _)

end SortFilters

theorem OperandForm.filtersOfJson?_normal (filters : List Filter) :
    OperandForm.filtersOfJson? (Json.normal
        (.object (filters.map fun filter => (filter.field, .string filter.value)))) =
      some (sortFilters filters) := by
  have hmembers : (filters.map fun filter => (filter.field, Json.string filter.value)) =
      (filters.map fun filter => (filter.field, filter.value)).map fun member =>
        (member.1, Json.string member.2) := by
    rw [List.map_map]
    rfl
  rw [hmembers, Json.normal_object, Json.sortMembers_map, List.map_map]
  rw [filtersOfJson?, Json.object?, Option.bind_some]
  refine Json.mapM_map ?_ _
  intro member
  simp [Json.normal, Json.string?]

/-- An operand slot as it is read back from its normal form. -/
def OperandForm.restored (form : OperandForm) : OperandForm :=
  { form with filters := sortFilters form.filters }

theorem OperandForm.ofJson?_normal (form : OperandForm) :
    OperandForm.ofJson? (Json.normal form.toJson) = some form.restored := by
  have hfilters := OperandForm.filtersOfJson?_normal form.filters
  rw [OperandForm.ofJson?, OperandForm.toJson, Json.fields?_normal rfl]
  show (OperandForm.filtersOfJson? (Json.normal (.object _))).bind _ = _
  rw [hfilters]
  rfl

/-! ## Forms -/

/-- A form as it is read back from the event of a name. -/
def Form.restored (form : Form) (name : String) : Form :=
  { form with name := name, first := form.first.restored, second := form.second.restored }

/-- A form kept without its name is read back as it was, but for the order of the filters and the
filters that a later one on the same field hides. -/
theorem Form.ofJson?_normal (form : Form) :
    Form.ofJson? (Json.normal { form with name := "" }.toJson) = some (form.restored "") := by
  have hconstraints := Json.listField_normal ConstraintForm.ofJson?_normal form.constraints
  rw [Form.ofJson?, Form.toJson]
  simp only [if_true, List.nil_append]
  -- each key leads to its member again, wherever sorting has put it
  rw [Json.fields?_normal rfl]
  show (do
    let first ← OperandForm.ofJson? (Json.normal form.first.toJson)
    let second ← OperandForm.ofJson? (Json.normal form.second.toJson)
    let relation ← RelationForm.ofJson? (Json.normal form.relation.toJson)
    let constraints ← Json.listField ConstraintForm.ofJson?
      (some (Json.normal (.array (form.constraints.map ConstraintForm.toJson))))
    let projection ← ProjectionForm.ofJson? (Json.normal form.projection.toJson)
    some (Form.mk "" first second relation constraints form.exclusion projection)) = _
  rw [OperandForm.ofJson?_normal, OperandForm.ofJson?_normal, RelationForm.ofJson?_normal,
    hconstraints, ProjectionForm.ofJson?_normal]
  rfl

/-- The form of a compiled event, as it is read back from the event. -/
theorem Compiled.form?_toEvent (compiled : Compiled) (form : Form) (date : String) :
    (compiled.toEvent form date).form? = .ok (some (form.restored compiled.name)) := by
  simp only [Event.form?, Compiled.toEvent, Form.ofJson?_normal]
  rfl

end EventAlgebra
