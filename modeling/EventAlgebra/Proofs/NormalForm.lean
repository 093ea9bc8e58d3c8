import EventAlgebra.Proofs.StoredForm
import Mathlib.Data.Char
import Mathlib.Data.List.Lex

/-!
# Stored forms in normal form

What a form is read back as can be said without the way it is stored. The filters of an operand are
the last ones on their fields, in the order in which the bytes of the fields put them
(`NormalFilters`). There is one such list only (`NormalFilters.unique`), and everything else comes
back as it was (`form?_toEvent_normal`).

Texts are compared character by character. This is the order of their bytes as well, since a
character with a greater code has greater bytes, whatever follows (`Text.lt_iff_bytes_lt`).
-/

set_option autoImplicit false

namespace EventAlgebra

/-! ## The order of bytes -/

namespace Text

/-- The bytes of a text. -/
def bytes (text : String) : List UInt8 :=
  text.toUTF8.data.toList

theorem bytes_eq_flatMap (text : String) :
    bytes text = text.toList.flatMap String.utf8EncodeChar := by
  have hencoded : text.toUTF8 = text.toList.utf8Encode := by
    rw [String.toUTF8_eq_toByteArray, ← String.toByteArray_ofList, String.ofList_toList]
  rw [bytes, hencoded, List.utf8Encode, List.data_toByteArray]

/-- The first byte decides. -/
theorem ofNat_cons_lt {a b : Nat} (hbyte : b < 256) (h : a < b) (s t : List UInt8) :
    UInt8.ofNat a :: s < UInt8.ofNat b :: t := by
  apply List.cons_lt_cons_iff.2
  left
  have ha : (UInt8.ofNat a).toNat = a := UInt8.toNat_ofNat_of_lt' (Nat.lt_trans h hbyte)
  have hb : (UInt8.ofNat b).toNat = b := UInt8.toNat_ofNat_of_lt' hbyte
  rw [UInt8.lt_iff_toNat_lt, ha, hb]
  exact h

/-- A code in several bytes. Each byte after the first has six bits of it, and the first has the
rest. -/
def spread (lead size : Nat) : Nat → Nat → List UInt8
  | 0, code => [UInt8.ofNat (code % size + lead)]
  | count + 1, code => spread lead size count (code / 64) ++ [UInt8.ofNat (code % 64 + 128)]

/-- A greater code has greater bytes in as many bytes, whatever follows. -/
theorem spread_append_lt (lead size : Nat) (hsize : size + lead ≤ 256) (count : Nat) {a b : Nat}
    (h : a < b) (hfits : b < size * 64 ^ count) (s t : List UInt8) :
    spread lead size count a ++ s < spread lead size count b ++ t := by
  induction count generalizing a b s t with
  | zero =>
      have hb : b < size := by simpa using hfits
      have ha : a < size := Nat.lt_trans h hb
      simp only [spread, Nat.mod_eq_of_lt ha, Nat.mod_eq_of_lt hb, List.singleton_append]
      apply ofNat_cons_lt
      · omega
      · omega
  | succ count ih =>
      simp only [spread, List.append_assoc, List.singleton_append]
      -- the bytes before the last decide, unless the last six bits are all that differs
      rcases Nat.lt_or_eq_of_le (Nat.div_le_div_right (c := 64) h.le) with hrest | hrest
      · apply ih hrest
        rw [Nat.div_lt_iff_lt_mul (by decide), Nat.mul_assoc, ← Nat.pow_succ]
        exact hfits
      · rw [hrest]
        apply List.append_left_lt
        apply ofNat_cons_lt
        · omega
        · omega

/-- A greater character has greater bytes, whatever follows. -/
theorem utf8EncodeChar_append_lt {c d : Char} (h : c < d) (s t : List UInt8) :
    String.utf8EncodeChar c ++ s < String.utf8EncodeChar d ++ t := by
  have hlt : c.val.toNat < d.val.toNat := h
  have hmax : d.val.toNat < 1114112 := by
    rcases d.valid with hcode | hcode
    · omega
    · exact hcode.2
  simp only [String.utf8EncodeChar]
  generalize c.val.toNat = a at *
  generalize d.val.toNat = b at *
  -- the first byte grows with the number of bytes, which leaves as many bytes on both sides
  split_ifs
  all_goals first | omega | apply ofNat_cons_lt <;> omega | skip
  · exact spread_append_lt 192 32 (by decide) 1 hlt (by omega) s t
  · have hspread := spread_append_lt 224 16 (by decide) 2 hlt (by omega) s t
    simpa [spread, Nat.div_div_eq_div_mul] using hspread
  · have hspread := spread_append_lt 240 8 (by decide) 3 hlt (by omega) s t
    simpa [spread, Nat.div_div_eq_div_mul] using hspread

theorem flatMap_utf8EncodeChar_lt {cs ds : List Char} (h : cs < ds) :
    cs.flatMap String.utf8EncodeChar < ds.flatMap String.utf8EncodeChar := by
  induction cs generalizing ds with
  | nil =>
      cases ds with
      | nil => exact absurd h (List.not_lt_nil [])
      | cons d ds =>
          have hpos : 0 < (String.utf8EncodeChar d).length := by
            rw [String.length_utf8EncodeChar]
            exact d.utf8Size_pos
          obtain ⟨byte, rest, hbytes⟩ := List.exists_cons_of_length_pos hpos
          rw [List.flatMap_nil, List.flatMap_cons, hbytes]
          exact List.nil_lt_cons _ _
  | cons c cs ih =>
      cases ds with
      | nil => exact absurd h (List.not_lt_nil _)
      | cons d ds =>
          rw [List.flatMap_cons, List.flatMap_cons]
          rcases List.cons_lt_cons_iff.1 h with hchar | ⟨rfl, hrest⟩
          · exact utf8EncodeChar_append_lt hchar _ _
          · exact List.append_left_lt (ih hrest)

/-- The order of texts is the order of their bytes. -/
theorem lt_iff_bytes_lt (a b : String) : a < b ↔ bytes a < bytes b := by
  -- both orders are total, so that one direction is enough
  have hmono : ∀ {a b : String}, a < b → bytes a < bytes b := by
    intro a b h
    rw [bytes_eq_flatMap, bytes_eq_flatMap]
    exact flatMap_utf8EncodeChar_lt h
  constructor
  · exact hmono
  · intro h
    rcases lt_trichotomy a b with hlt | rfl | hgt
    · exact hlt
    · exact absurd h (List.lt_irrefl _)
    · exact absurd h (List.lt_asymm (hmono hgt))

end Text

/-! ## Filters in normal form -/

/-- The fields of the filters strictly increase, in the order of their bytes. -/
def IncreasingFields (filters : List Filter) : Prop :=
  filters.Pairwise fun a b => Text.bytes a.field < Text.bytes b.field

/-- No filter on the same field comes after this one. -/
def Filter.LastIn (filter : Filter) (filters : List Filter) : Prop :=
  ∃ before after, filters = before ++ filter :: after ∧ ∀ other ∈ after, other.field ≠ filter.field

/-- The last filters on their fields, in the order of the fields. -/
structure NormalFilters (filters kept : List Filter) : Prop where
  increasing : IncreasingFields kept
  mem_iff : ∀ filter, filter ∈ kept ↔ filter.LastIn filters

theorem increasingFields_iff {filters : List Filter} :
    IncreasingFields filters ↔ filters.Pairwise fun a b => a.field < b.field := by
  simp only [IncreasingFields, Text.lt_iff_bytes_lt]

/-- There is one normal form only. -/
theorem NormalFilters.unique {filters kept other : List Filter} (h : NormalFilters filters kept)
    (hother : NormalFilters filters other) : kept = other := by
  have hkept := increasingFields_iff.1 h.increasing
  have hothers := increasingFields_iff.1 hother.increasing
  -- the same filters are in both, and they can be put in increasing order in one way only
  have hperm : kept.Perm other := by
    apply (List.perm_ext_iff_of_nodup ?_ ?_).2
    · intro filter
      rw [h.mem_iff, hother.mem_iff]
    · exact hkept.imp fun hlt heq => hlt.ne (congrArg Filter.field heq)
    · exact hothers.imp fun hlt heq => hlt.ne (congrArg Filter.field heq)
  refine hperm.eq_of_pairwise ?_ hkept hothers
  intro a b _ _ hab hba
  exact absurd hab hba.asymm

/-- Filters with increasing fields are their own normal form. -/
theorem NormalFilters.self {filters : List Filter} (h : IncreasingFields filters) :
    NormalFilters filters filters := by
  refine ⟨h, fun filter => ⟨?_, ?_⟩⟩
  · intro hmem
    obtain ⟨before, after, hsplit⟩ := List.append_of_mem hmem
    refine ⟨before, after, hsplit, ?_⟩
    intro other hother
    rw [increasingFields_iff, hsplit] at h
    have hafter := (List.pairwise_cons.1 (List.pairwise_append.1 h).2.1).1
    exact (hafter other hother).ne'
  · rintro ⟨before, after, hsplit, -⟩
    rw [hsplit]
    exact List.mem_append_right _ List.mem_cons_self

/-- Among members in the order of their keys, the members are what the keys lead to. -/
theorem Json.mem_iff_lookup_eq {α : Type} {members : List (String × α)}
    (h : members.Pairwise fun a b => a.1 < b.1) (key : String) (value : α) :
    (key, value) ∈ members ↔ List.lookup key members = some value := by
  rw [List.lookup_eq_some_iff]
  constructor
  · intro hmem
    obtain ⟨before, after, hsplit⟩ := List.append_of_mem hmem
    refine ⟨before, after, hsplit, ?_⟩
    intro other hother
    rw [hsplit] at h
    have hlt := (List.pairwise_append.1 h).2.2 other hother (key, value) List.mem_cons_self
    exact bne_iff_ne.2 hlt.ne'
  · rintro ⟨before, after, hsplit, -⟩
    rw [hsplit]
    exact List.mem_append_right _ List.mem_cons_self

/-- From the end, a field leads to the last filter on it. -/
theorem lookup_reverse_eq_some_iff (filters : List Filter) (filter : Filter) :
    List.lookup filter.field (filters.map fun filter => (filter.field, filter.value)).reverse =
      some filter.value ↔ filter.LastIn filters := by
  rw [← List.map_reverse, List.lookup_eq_some_iff]
  constructor
  · -- what comes before it in the reversed list comes after it in the list
    rintro ⟨after, before, hsplit, hafter⟩
    obtain ⟨later, rest, hfilters, rfl, hrest⟩ := List.map_eq_append_iff.1 hsplit
    obtain ⟨last, earlier, rfl, hlast, -⟩ := List.map_eq_cons_iff.1 hrest
    have hsame : last = filter := congrArg (fun member => Filter.mk member.1 member.2) hlast
    refine ⟨earlier.reverse, later.reverse, ?_, ?_⟩
    · rw [← List.reverse_reverse filters, hfilters, hsame]
      simp
    · intro other hother
      have hmember := List.mem_map_of_mem (f := fun filter : Filter => (filter.field, filter.value))
        (List.mem_reverse.1 hother)
      exact (bne_iff_ne.1 (hafter _ hmember)).symm
  · rintro ⟨before, after, rfl, hafter⟩
    refine ⟨after.reverse.map fun filter => (filter.field, filter.value),
      before.reverse.map fun filter => (filter.field, filter.value), by simp, ?_⟩
    intro member hmember
    obtain ⟨other, hother, rfl⟩ := List.mem_map.1 hmember
    exact bne_iff_ne.2 (hafter other (List.mem_reverse.1 hother)).symm

/-- Sorting keeps the last filter on each field. -/
theorem mem_sortFilters_iff {filters : List Filter} {filter : Filter} :
    filter ∈ sortFilters filters ↔ filter.LastIn filters := by
  rw [← lookup_reverse_eq_some_iff, ← Json.lookup_sortMembers,
    ← Json.mem_iff_lookup_eq (Json.pairwise_sortMembers _), sortFilters, List.mem_map]
  constructor
  · rintro ⟨member, hmember, rfl⟩
    exact hmember
  · intro hmember
    exact ⟨(filter.field, filter.value), hmember, rfl⟩

/-- Stored filters are read back in normal form. -/
theorem normalFilters_sortFilters (filters : List Filter) :
    NormalFilters filters (sortFilters filters) where
  increasing := increasingFields_iff.2 (pairwise_sortFilters filters)
  mem_iff _ := mem_sortFilters_iff

theorem sortFilters_eq_self_iff {filters : List Filter} :
    sortFilters filters = filters ↔ IncreasingFields filters := by
  constructor
  · intro heq
    rw [← heq]
    exact (normalFilters_sortFilters filters).increasing
  · intro h
    exact (normalFilters_sortFilters filters).unique (.self h)

/-! ## Forms in normal form -/

theorem Form.restored_eq_iff {form : Form} {name : String} :
    form.restored name = { form with name := name } ↔
      sortFilters form.first.filters = form.first.filters ∧
        sortFilters form.second.filters = form.second.filters := by
  constructor
  · intro heq
    exact ⟨congrArg (·.first.filters) heq, congrArg (·.second.filters) heq⟩
  · rintro ⟨hfirst, hsecond⟩
    rw [Form.restored, OperandForm.restored, OperandForm.restored, hfirst, hsecond]

/-- Whatever form was compiled, its event gives a form back. That form has the name of the event.
Its filters are those of the given form in normal form: of the filters on a field the last one is
left, and the fields increase in the order of their bytes. All else is as it was given. So the given
form itself comes back, but for the name, if and only if the fields of its filters strictly increase
in both operands. -/
theorem form?_toEvent_normal (compiled : Compiled) (form : Form) (date : String) :
    ∃ kept : Form, (compiled.toEvent form date).form? = .ok (some kept) ∧
      kept = { form with
        name := compiled.name
        first := { form.first with filters := kept.first.filters }
        second := { form.second with filters := kept.second.filters } } ∧
      NormalFilters form.first.filters kept.first.filters ∧
      NormalFilters form.second.filters kept.second.filters ∧
      (kept = { form with name := compiled.name } ↔
        IncreasingFields form.first.filters ∧ IncreasingFields form.second.filters) := by
  refine ⟨form.restored compiled.name, compiled.form?_toEvent form date, rfl, ?_, ?_, ?_⟩
  · exact normalFilters_sortFilters form.first.filters
  · exact normalFilters_sortFilters form.second.filters
  · rw [Form.restored_eq_iff, sortFilters_eq_self_iff, sortFilters_eq_self_iff]

end EventAlgebra
