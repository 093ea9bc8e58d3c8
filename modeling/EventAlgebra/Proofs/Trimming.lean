import EventAlgebra.Text.Blank
import Mathlib.Data.List.TakeWhile

/-!
# Stripping the ends of a text

Blanks are trimmed at both ends of a text, and so are the quotes around a name. `Stripped` says what
is left, without saying how it is found: a middle part that neither begins nor ends with what is
stripped, where all that stands around it is. There is one such part (`stripped_iff`), so the laws
of trimming follow from what it is.
-/

set_option autoImplicit false

namespace EventAlgebra.Text

/-! ## What is left -/

section Stripping

variable {α : Type} {p : α → Bool} {l inner : List α}

/-- What is left of a list without the elements at its two ends that pass a test. -/
structure Stripped (p : α → Bool) (l inner : List α) : Prop where
  around : ∃ front back, l = front ++ inner ++ back ∧ (∀ a ∈ front, p a = true) ∧
    ∀ a ∈ back, p a = true
  head : ∀ a ∈ inner.head?, p a = false
  last : ∀ a ∈ inner.getLast?, p a = false

/-- Nothing is stripped if neither end passes the test. -/
theorem Stripped.self (hhead : ∀ a ∈ l.head?, p a = false)
    (hlast : ∀ a ∈ l.getLast?, p a = false) : Stripped p l l :=
  ⟨⟨[], [], by simp, by simp, by simp⟩, hhead, hlast⟩

/-- Nothing is left exactly if everything passes the test. -/
theorem stripped_nil_iff : Stripped p l [] ↔ ∀ a ∈ l, p a = true := by
  constructor
  · rintro ⟨⟨front, back, rfl, hfront, hback⟩, -, -⟩
    simpa [or_imp, forall_and] using ⟨hfront, hback⟩
  · intro h
    exact ⟨⟨l, [], by simp, h, by simp⟩, by simp, by simp⟩

/-- Elements are dropped in front, and then at the end. -/
theorem stripped_dropWhile (p : α → Bool) (l : List α) :
    Stripped p l ((l.dropWhile p).reverse.dropWhile p).reverse := by
  have hstop : ∀ l : List α, ∀ a ∈ (l.dropWhile p).head?, p a = false := by
    intro l a ha
    have hhead := List.head?_dropWhile_not p l
    rwa [Option.mem_def.1 ha] at hhead
  let rest := l.dropWhile p
  let inner := (rest.reverse.dropWhile p).reverse
  have hrest : rest = inner ++ (rest.reverse.takeWhile p).reverse := by
    rw [← List.reverse_append, List.takeWhile_append_dropWhile, List.reverse_reverse]
  refine ⟨⟨l.takeWhile p, (rest.reverse.takeWhile p).reverse, ?_, ?_, ?_⟩, ?_, ?_⟩
  · rw [List.append_assoc, ← hrest, List.takeWhile_append_dropWhile]
  · exact fun a ha => List.mem_takeWhile_imp ha
  · exact fun a ha => List.mem_takeWhile_imp (List.mem_reverse.1 ha)
  · -- the middle begins where the rest does
    intro a ha
    apply hstop l a
    show rest.head? = some a
    rw [hrest, List.head?_append, Option.mem_def.1 ha]
    rfl
  · intro a ha
    rw [List.getLast?_reverse] at ha
    exact hstop rest.reverse a ha

/-- There is one middle part only. -/
theorem Stripped.eq_dropWhile (h : Stripped p l inner) :
    inner = ((l.dropWhile p).reverse.dropWhile p).reverse := by
  obtain ⟨⟨front, back, rfl, hfront, hback⟩, hhead, hlast⟩ := h
  rw [List.append_assoc, List.dropWhile_append_of_pos hfront]
  cases inner with
  | nil =>
      rw [List.nil_append, List.dropWhile_eq_nil_iff.2 hback]
      rfl
  | cons first middle =>
      -- the first element stops the dropping in front, and the last one that at the end
      have hfirst : ¬ p first = true := by simp [hhead first rfl]
      have hback' : ∀ a ∈ back.reverse, p a = true := fun a ha => hback a (List.mem_reverse.1 ha)
      rw [List.cons_append, List.dropWhile_cons_of_neg hfirst, ← List.cons_append,
        List.reverse_append, List.dropWhile_append_of_pos hback']
      cases hends : (first :: middle).reverse with
      | nil => simp at hends
      | cons last others =>
          have hstop : ¬ p last = true := by
            rw [hlast last (by rw [← List.head?_reverse, hends]; rfl)]
            exact Bool.false_ne_true
          rw [List.dropWhile_cons_of_neg hstop, ← hends, List.reverse_reverse]

theorem stripped_iff :
    Stripped p l inner ↔ inner = ((l.dropWhile p).reverse.dropWhile p).reverse := by
  constructor
  · exact Stripped.eq_dropWhile
  · rintro rfl
    exact stripped_dropWhile p l

end Stripping

/-! ## Laws of trimming -/

/-- Trimming strips the blanks at the ends of a text. -/
theorem trim_eq_iff {text result : String} :
    trim text = result ↔ Stripped isBlank text.toList result.toList := by
  rw [stripped_iff, ← String.toList_inj, trim, String.toList_ofList, eq_comm]
  rfl

theorem stripped_trim (text : String) : Stripped isBlank text.toList (trim text).toList :=
  trim_eq_iff.1 rfl

/-- Trimming changes nothing of a text without blanks at its ends. -/
theorem trim_eq_self {text : String} (hhead : ∀ c ∈ text.toList.head?, isBlank c = false)
    (hlast : ∀ c ∈ text.toList.getLast?, isBlank c = false) : trim text = text :=
  trim_eq_iff.2 (.self hhead hlast)

/-- Trimming changes nothing of a text without blanks. -/
theorem trim_of_not_isBlank {text : String} (h : ∀ c ∈ text.toList, isBlank c = false) :
    trim text = text := by
  apply trim_eq_self
  · exact fun c hc => h c (List.mem_of_mem_head? hc)
  · exact fun c hc => h c (List.mem_of_mem_getLast? hc)

/-- Trimming twice is trimming once. -/
theorem trim_trim (text : String) : trim (trim text) = trim text :=
  trim_eq_self (stripped_trim text).head (stripped_trim text).last

/-- A text is trimmed away exactly when all of it is blank. -/
theorem trim_eq_empty_iff (text : String) :
    trim text = "" ↔ ∀ c ∈ text.toList, isBlank c = true := by
  rw [trim_eq_iff]
  exact stripped_nil_iff

end EventAlgebra.Text
