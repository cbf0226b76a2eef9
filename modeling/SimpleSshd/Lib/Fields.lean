import Mathlib.Data.List.Basic
import Mathlib.Data.List.TakeWhile

/-!
# Fields

Separators cut a list into fields: the maximal runs of elements that are no separators. An empty run
between two separators is no field.
-/

namespace Fields

variable {α : Type*} {p : α → Bool} {a : α} {xs ys : List α}

/-- The fields of a list, with the separators given by `p`. -/
def fields (p : α → Bool) (l : List α) : List (List α) := (l.splitOnP p).filter fun f => !f.isEmpty

/-- A run as a field, unless it is empty. -/
def field (xs : List α) : List (List α) := if xs.isEmpty then [] else [xs]

@[simp] theorem field_nil : field ([] : List α) = [] := rfl

theorem field_of_ne_nil (h : xs ≠ []) : field xs = [xs] :=
  if_neg fun hempty => h (List.isEmpty_iff.mp hempty)

theorem fields_of_forall (h : ∀ x ∈ xs, p x = false) : fields p xs = field xs := by
  rw [fields, List.splitOnP_eq_singleton h]
  cases xs with
  | nil => rfl
  | cons x xs => rfl

/-- A separator ends the field before it. -/
theorem fields_append_cons (h : ∀ x ∈ xs, p x = false) (ha : p a = true) :
    fields p (xs ++ a :: ys) = field xs ++ fields p ys := by
  rw [fields, List.splitOnP_append_cons_of_forall_mem h a ha]
  cases xs with
  | nil => rfl
  | cons x xs => rfl

theorem fields_cons (ha : p a = true) : fields p (a :: ys) = fields p ys := by
  rw [← List.nil_append (a :: ys), fields_append_cons (List.forall_mem_nil _) ha, field_nil,
    List.nil_append]

theorem fields_dropWhile (l : List α) : fields p (l.dropWhile p) = fields p l := by
  induction l with
  | nil => rfl
  | cons a l ih =>
    by_cases ha : p a = true
    · rw [List.dropWhile_cons_of_pos ha, ih, fields_cons ha]
    · rw [List.dropWhile_cons_of_neg ha]

/-- A run that is followed by the end or by a separator is a field. -/
theorem fields_append (h : ∀ x ∈ xs, p x = false) (hys : ∀ y, ys.head? = some y → p y = true) :
    fields p (xs ++ ys) = field xs ++ fields p ys := by
  cases ys with
  | nil =>
    rw [List.append_nil, fields_of_forall h]
    exact (List.append_nil _).symm
  | cons y ys =>
    have hy := hys y rfl
    rw [fields_append_cons h hy, fields_cons hy]

/-- The first field, and the others. -/
theorem fields_eq_takeWhile (l : List α) :
    fields p l = field (l.takeWhile fun x => !p x) ++ fields p (l.dropWhile fun x => !p x) := by
  have htake : ∀ x ∈ l.takeWhile fun x => !p x, p x = false := by
    intro x hx
    have hnot := List.mem_takeWhile_imp hx
    simpa using hnot
  have hdrop : ∀ y, (l.dropWhile fun x => !p x).head? = some y → p y = true := by
    intro y hy
    have hnot := List.head?_dropWhile_not (fun x => !p x) l
    rw [hy] at hnot
    simpa using hnot
  rw [← fields_append htake hdrop, List.takeWhile_append_dropWhile]

/-- What is known of a field so far is the beginning of one. -/
theorem exists_field (h : ∀ x ∈ xs, p x = false) (hne : xs ≠ []) :
    ∃ f ∈ fields p (xs ++ ys), xs <+: f := by
  have hall : (xs ++ ys).takeWhile (fun x => !p x) = xs ++ ys.takeWhile fun x => !p x := by
    refine List.takeWhile_append_of_pos fun x hx => ?_
    rw [h x hx]
    rfl
  refine ⟨xs ++ ys.takeWhile fun x => !p x, ?_, List.prefix_append _ _⟩
  rw [fields_eq_takeWhile, hall, field_of_ne_nil (List.append_ne_nil_of_left_ne_nil hne _)]
  exact List.mem_append_left _ (List.mem_singleton_self _)

/-- What is dropped of the beginning of a list is dropped of the list. -/
theorem dropWhile_takeWhile (p q : α → Bool) (l : List α) :
    (l.takeWhile q).dropWhile p = (l.dropWhile fun x => p x && q x).takeWhile q := by
  induction l with
  | nil => rfl
  | cons a l ih =>
    by_cases hq : q a = true
    · by_cases hp : p a = true
      · simp [hp, hq, ih]
      · simp [hp, hq]
    · simp [hq]

theorem dropWhile_dropWhile_and (p q : α → Bool) (l : List α) :
    (l.dropWhile fun x => p x && q x).dropWhile q = l.dropWhile q := by
  induction l with
  | nil => rfl
  | cons a l ih =>
    by_cases hq : q a = true
    · by_cases hp : p a = true
      · simp [hp, hq, ih]
      · simp [hp, hq]
    · simp [hq]

/-- Fields that are joined by a separator are found again. -/
theorem fields_intercalate {fs : List (List α)} (ha : p a = true)
    (h : ∀ f ∈ fs, f ≠ [] ∧ ∀ x ∈ f, p x = false) : fields p ([a].intercalate fs) = fs := by
  induction fs with
  | nil => rfl
  | cons f fs ih =>
    obtain ⟨hne, hf⟩ := h f List.mem_cons_self
    have hfs := ih fun g hg => h g (List.mem_cons_of_mem _ hg)
    cases fs with
    | nil =>
      have hone : [a].intercalate [f] = f := List.append_nil f
      rw [hone, fields_of_forall hf, field_of_ne_nil hne]
    | cons g gs =>
      have hmore : [a].intercalate (f :: g :: gs) = f ++ a :: [a].intercalate (g :: gs) := by
        simp [List.intercalate]
      rw [hmore, fields_append_cons hf ha, field_of_ne_nil hne, hfs]
      rfl

theorem mem_intercalate {fs : List (List α)} {x : α} (h : x ∈ [a].intercalate fs) :
    x = a ∨ ∃ f ∈ fs, x ∈ f := by
  induction fs with
  | nil => cases h
  | cons f fs ih =>
    cases fs with
    | nil => exact .inr ⟨f, List.mem_cons_self, by simpa [List.intercalate] using h⟩
    | cons g gs =>
      have hmore : x ∈ f ∨ x = a ∨ x ∈ [a].intercalate (g :: gs) := by
        simpa [List.intercalate] using h
      rcases hmore with hf | ha | hgs
      · exact .inr ⟨f, List.mem_cons_self, hf⟩
      · exact .inl ha
      · apply (ih hgs).imp_right
        rintro ⟨f', hf', hx⟩
        exact ⟨f', List.mem_cons_of_mem _ hf', hx⟩

end Fields
