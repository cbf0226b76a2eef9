import Mathlib.Data.List.Basic

/-!
# Gates

A gate lets items through, in the order in which they are submitted. While it is closed it lets only
some of them through and holds the others back, until it is flushed when it is open again. What it
lets through is marked. If nothing is submitted between the opening and the flush, the items that can
be held back leave the gate in the order of their submission.

The second part is about sequences in which some items begin a section and others end it, and about
a gate that is closed within the sections of what passed. The third is about marks that are turned on
by an item.
-/

namespace Gates

variable {α β : Type*}

structure Gate (α β : Type*) where
  isOpen : Bool
  passed : List (α × β)
  held : List α
  submitted : List α

variable (okay : α → Bool) (mark : β) {g : Gate α β} {a : α}

/-- An item is submitted: it passes with this mark, or it is held back. -/
def Gate.submit (g : Gate α β) (a : α) : Gate α β :=
  if !g.isOpen && !okay a then
    { g with held := g.held ++ [a], submitted := g.submitted ++ [a] }
  else { g with passed := g.passed ++ [(a, mark)], submitted := g.submitted ++ [a] }

def Gate.setOpen (g : Gate α β) (isOpen : Bool) : Gate α β := { g with isOpen }

/-- If the gate is open, what was held back passes. -/
def Gate.flush (g : Gate α β) : Gate α β :=
  if !g.isOpen then g
  else { g with passed := g.passed ++ g.held.map (·, mark), held := [] }

/-- The items that passed. -/
def Gate.items (g : Gate α β) : List α := g.passed.map Prod.fst

/-- Nothing is held back by an open gate. -/
def Gate.Clear (g : Gate α β) : Prop := g.isOpen = true → g.held = []

/-- **Conservation**: the items that are not always let through have passed or are held back, in the
order of their submission. -/
structure Gate.Faithful (g : Gate α β) : Prop where
  conserved : g.items.filter (!okay ·) ++ g.held = g.submitted.filter (!okay ·)
  held : ∀ a ∈ g.held, okay a = false

variable {okay mark}

/-- What passes. -/
theorem submit_passes (h : g.isOpen = true ∨ okay a = true) : g.submit okay mark a =
    { g with passed := g.passed ++ [(a, mark)], submitted := g.submitted ++ [a] } := by
  refine if_neg ?_
  rcases h with h | h <;> simp [h]

/-- What is held back. -/
theorem submit_held (h : g.isOpen = false) (ha : okay a = false) : g.submit okay mark a =
    { g with held := g.held ++ [a], submitted := g.submitted ++ [a] } :=
  if_pos (by simp [h, ha])

/-- Either of the two. -/
theorem submit_cases (okay : α → Bool) (mark : β) (g : Gate α β) (a : α) :
    ((g.isOpen = true ∨ okay a = true) ∧ g.submit okay mark a =
        { g with passed := g.passed ++ [(a, mark)], submitted := g.submitted ++ [a] }) ∨
      (g.isOpen = false ∧ okay a = false ∧ g.submit okay mark a =
        { g with held := g.held ++ [a], submitted := g.submitted ++ [a] }) := by
  by_cases h : g.isOpen = true ∨ okay a = true
  · exact .inl ⟨h, submit_passes h⟩
  · obtain ⟨hopen, ha⟩ := not_or.mp h
    have hclosed := Bool.eq_false_iff.mpr hopen
    have hblocked := Bool.eq_false_iff.mpr ha
    exact .inr ⟨hclosed, hblocked, submit_held hclosed hblocked⟩

theorem items_passed : Gate.items { g with
    passed := g.passed ++ [(a, mark)], submitted := g.submitted ++ [a] } = g.items ++ [a] := by
  simp [Gate.items]

theorem items_flushed : Gate.items { g with
    passed := g.passed ++ g.held.map (·, mark), held := [] } = g.items ++ g.held := by
  have hmap : (g.held.map (·, mark)).map Prod.fst = g.held := by
    rw [List.map_map]
    exact List.map_id g.held
  simp only [Gate.items, List.map_append, hmap]

theorem Gate.Clear.submit (h : g.Clear) : (g.submit okay mark a).Clear := by
  rcases submit_cases okay mark g a with ⟨-, heq⟩ | ⟨hclosed, -, heq⟩
  · rw [heq]
    exact h
  · rw [heq]
    intro hopen
    cases hclosed.symm.trans hopen

theorem Gate.Faithful.submit (h : g.Faithful okay) (hclear : g.Clear) :
    (g.submit okay mark a).Faithful okay := by
  have hconserved := h.conserved
  rcases submit_cases okay mark g a with ⟨hpass, heq⟩ | ⟨hclosed, hblocked, heq⟩
  · rw [heq]
    refine ⟨?_, h.held⟩
    rw [items_passed, List.filter_append, List.filter_append, ← hconserved]
    cases hokay : okay a with
    | true => simp [hokay]
    | false =>
      have hnil := hclear (hpass.resolve_right (by simp [hokay]))
      simp [hokay, hnil]
  · rw [heq]
    refine ⟨?_, ?_⟩
    · show g.items.filter (!okay ·) ++ (g.held ++ [a]) = _
      rw [← List.append_assoc, hconserved, List.filter_append]
      simp [hblocked]
    · intro b hb
      rcases List.mem_append.mp hb with hb | hb
      · exact h.held b hb
      · rwa [List.mem_singleton.mp hb]

theorem Gate.Faithful.setOpen (h : g.Faithful okay) (isOpen : Bool) :
    (g.setOpen isOpen).Faithful okay := ⟨h.conserved, h.held⟩

theorem Gate.Faithful.flush (h : g.Faithful okay) : (g.flush mark).Faithful okay := by
  unfold Gate.flush
  split_ifs
  · exact h
  · refine ⟨?_, List.forall_mem_nil _⟩
    have hheld : g.held.filter (!okay ·) = g.held := by
      refine List.filter_eq_self.mpr fun a ha => ?_
      rw [h.held a ha]
      rfl
    rw [items_flushed, List.filter_append, hheld, List.append_nil]
    exact h.conserved

theorem flush_isOpen : (g.flush mark).isOpen = g.isOpen := by
  unfold Gate.flush
  split_ifs <;> rfl

theorem clear_flush : (g.flush mark).Clear := by
  unfold Gate.flush
  split_ifs with h
  · intro hopen
    rw [hopen] at h
    cases h
  · exact fun _ => rfl

/-! ## Sections -/

/-- The relation holds between every item and those before it. -/
def AtEach (R : List α → α → Prop) (l : List α) : Prop :=
  ∀ before a after, l = before ++ a :: after → R before a

variable (begins ends : α → Bool) {l : List α} {R : List α → α → Prop}

theorem atEach_nil : AtEach R [] := by
  intro before a after h
  cases before <;> cases h

theorem AtEach.snoc (h : AtEach R l) (ha : R l a) : AtEach R (l ++ [a]) := by
  intro before b after heq
  rcases List.eq_nil_or_concat after with rfl | ⟨after, c, rfl⟩
  · obtain ⟨rfl, hb⟩ := List.append_inj' heq rfl
    cases hb
    exact ha
  · rw [List.concat_eq_append, ← List.cons_append, ← List.append_assoc] at heq
    obtain ⟨hl, -⟩ := List.append_inj' heq rfl
    exact h before b after hl

/-- The sequence ends within a section. -/
def inside (l : List α) : Bool :=
  l.foldl (fun b a => if begins a then true else if ends a then false else b) false

/-- Within the sections there are only such items. -/
def OnlyInside (okay : α → Bool) : List α → Prop :=
  AtEach fun before a => inside begins ends before = true → okay a = true

variable {begins ends}

theorem inside_snoc : inside begins ends (l ++ [a]) =
    if begins a then true else if ends a then false else inside begins ends l := by
  simp only [inside, List.foldl_append, List.foldl_cons, List.foldl_nil]

/-- A section that was begun and not ended. -/
theorem inside_of_begun {before during : List α} (ha : begins a = true)
    (hduring : ∀ b ∈ during, ends b = false) :
    inside begins ends (before ++ a :: during) = true := by
  have hfold : ∀ l : List α, (∀ b ∈ l, ends b = false) →
      l.foldl (fun b a => if begins a then true else if ends a then false else b) true = true := by
    intro l hl
    induction l with
    | nil => rfl
    | cons b l ih =>
      have hrest := ih fun c hc => hl c (List.mem_cons_of_mem _ hc)
      rw [List.foldl_cons, hl b List.mem_cons_self]
      simpa using hrest
  simp only [inside, List.foldl_append, List.foldl_cons, ha, if_true]
  exact hfold during hduring

theorem OnlyInside.append (h : OnlyInside begins ends okay l) (hout : inside begins ends l = false)
    {new : List α} (hnew : ∀ a ∈ new, begins a = false) :
    OnlyInside begins ends okay (l ++ new) ∧ inside begins ends (l ++ new) = false := by
  induction new generalizing l with
  | nil =>
    rw [List.append_nil]
    exact ⟨h, hout⟩
  | cons a new ih =>
    have hin : inside begins ends (l ++ [a]) = false := by
      rw [inside_snoc, hnew a List.mem_cons_self, hout]
      simp
    have hfirst : OnlyInside begins ends okay (l ++ [a]) :=
      AtEach.snoc h fun hinside => absurd (hout.symm.trans hinside) Bool.false_ne_true
    have hrest := ih hfirst hin fun b hb => hnew b (List.mem_cons_of_mem _ hb)
    rwa [List.append_assoc] at hrest

/-! ## Gates that are closed within sections -/

variable (okay begins ends)

/-- The gate is closed within the sections of what passed, and then only lets through what it always
does. -/
structure Gate.Sectioned (g : Gate α β) : Prop where
  faithful : g.Faithful okay
  held : ∀ a ∈ g.held, begins a = false
  closed : g.isOpen = !inside begins ends g.items
  only : OnlyInside begins ends okay g.items

variable {okay begins ends}

theorem Gate.Sectioned.outside (h : g.Sectioned okay begins ends) (hopen : g.isOpen = true) :
    inside begins ends g.items = false := by
  have hclosed := h.closed
  rw [hopen] at hclosed
  simpa using hclosed.symm

/-- What passes within a section. -/
theorem Gate.Sectioned.only_snoc (h : g.Sectioned okay begins ends)
    (hpass : g.isOpen = true ∨ okay a = true) :
    OnlyInside begins ends okay (g.items ++ [a]) := by
  refine AtEach.snoc h.only fun hin => hpass.resolve_left fun hopen => ?_
  cases (h.outside hopen).symm.trans hin

theorem Gate.Sectioned.submit (h : g.Sectioned okay begins ends) (hclear : g.Clear)
    (hbegins : begins a = false) (hends : ends a = false) :
    (g.submit okay mark a).Sectioned okay begins ends := by
  have hfaithful : (g.submit okay mark a).Faithful okay := h.faithful.submit hclear
  rcases submit_cases okay mark g a with ⟨hpass, heq⟩ | ⟨-, -, heq⟩
  · rw [heq] at hfaithful ⊢
    refine ⟨hfaithful, h.held, ?_, ?_⟩
    · rw [items_passed, inside_snoc, hbegins, hends]
      simpa using h.closed
    · rw [items_passed]
      exact h.only_snoc hpass
  · rw [heq] at hfaithful ⊢
    refine ⟨hfaithful, fun b hb => ?_, h.closed, h.only⟩
    rcases List.mem_append.mp hb with hb | hb
    · exact h.held b hb
    · rwa [List.mem_singleton.mp hb]

/-- The beginning of a section passes the open gate and closes it. -/
theorem Gate.Sectioned.submit_begin (h : g.Sectioned okay begins ends) (hclear : g.Clear)
    (hopen : g.isOpen = true) (hbegins : begins a = true) :
    ((g.submit okay mark a).setOpen false).Sectioned okay begins ends := by
  have hfaithful : ((g.submit okay mark a).setOpen false).Faithful okay :=
    (h.faithful.submit hclear).setOpen false
  rw [submit_passes (.inl hopen)] at hfaithful ⊢
  refine ⟨hfaithful, h.held, ?_, ?_⟩
  · show false = !inside begins ends (Gate.items { g with
      passed := g.passed ++ [(a, mark)], submitted := g.submitted ++ [a] })
    rw [items_passed, inside_snoc, hbegins]
    rfl
  · show OnlyInside begins ends okay (Gate.items { g with
      passed := g.passed ++ [(a, mark)], submitted := g.submitted ++ [a] })
    rw [items_passed]
    exact h.only_snoc (.inl hopen)

/-- The end of a section always passes, and opens the gate. -/
theorem Gate.Sectioned.submit_end (h : g.Sectioned okay begins ends) (hclear : g.Clear)
    (hokay : okay a = true) (hbegins : begins a = false) (hends : ends a = true) :
    ((g.submit okay mark a).setOpen true).Sectioned okay begins ends := by
  have hfaithful : ((g.submit okay mark a).setOpen true).Faithful okay :=
    (h.faithful.submit hclear).setOpen true
  rw [submit_passes (.inr hokay)] at hfaithful ⊢
  refine ⟨hfaithful, h.held, ?_, ?_⟩
  · show true = !inside begins ends (Gate.items { g with
      passed := g.passed ++ [(a, mark)], submitted := g.submitted ++ [a] })
    rw [items_passed, inside_snoc, hbegins, hends]
    rfl
  · show OnlyInside begins ends okay (Gate.items { g with
      passed := g.passed ++ [(a, mark)], submitted := g.submitted ++ [a] })
    rw [items_passed]
    exact h.only_snoc (.inr hokay)

theorem Gate.Sectioned.flush (h : g.Sectioned okay begins ends) :
    (g.flush mark).Sectioned okay begins ends := by
  have hfaithful : (g.flush mark).Faithful okay := h.faithful.flush
  unfold Gate.flush at hfaithful ⊢
  by_cases hclosed : (!g.isOpen) = true
  · rw [if_pos hclosed]
    exact h
  · rw [if_neg hclosed] at hfaithful ⊢
    have hopen : g.isOpen = true := by simpa using hclosed
    obtain ⟨honly, hout⟩ := h.only.append (h.outside hopen) h.held
    refine ⟨hfaithful, List.forall_mem_nil _, ?_, ?_⟩
    · rw [items_flushed, hout]
      exact hopen
    · rw [items_flushed]
      exact honly

/-! ## Marks that an item turns on -/

variable (turns : α → Bool) {on : Bool} {marked : List (α × Bool)}

/-- An item is marked if and only if one that turns the marks on came before it. -/
def MarkedAfter : List (α × Bool) → Prop :=
  AtEach fun before p => p.2 = before.any fun q => turns q.1

/-- What passed is marked that way, and `on` says whether the marks are turned on. -/
structure Gate.InStep (on : Bool) (g : Gate α Bool) : Prop where
  marked : MarkedAfter turns g.passed
  on_eq : (g.passed.any fun q => turns q.1) = on
  held : ∀ a ∈ g.held, turns a = false

variable {turns}

theorem any_snoc : ((marked ++ [(a, on)]).any fun q => turns q.1) =
    ((marked.any fun q => turns q.1) || turns a) := by
  simp

/-- Items that do not turn the marks on. -/
theorem MarkedAfter.append (h : MarkedAfter turns marked)
    (hon : (marked.any fun q => turns q.1) = on) {new : List α} (hnew : ∀ a ∈ new, turns a = false) :
    MarkedAfter turns (marked ++ new.map (·, on)) ∧
      ((marked ++ new.map (·, on)).any fun q => turns q.1) = on := by
  induction new generalizing marked with
  | nil =>
    rw [List.map_nil, List.append_nil]
    exact ⟨h, hon⟩
  | cons a new ih =>
    have hnext : ((marked ++ [(a, on)]).any fun q => turns q.1) = on := by
      rw [any_snoc, hon, hnew a List.mem_cons_self, Bool.or_false]
    have hrest := ih (AtEach.snoc h hon.symm) hnext fun b hb => hnew b (List.mem_cons_of_mem _ hb)
    rwa [List.append_assoc] at hrest

variable {g : Gate α Bool}

theorem Gate.InStep.submit (h : g.InStep turns on) (ha : turns a = false) :
    (g.submit okay on a).InStep turns on := by
  rcases submit_cases okay on g a with ⟨-, heq⟩ | ⟨-, -, heq⟩
  · rw [heq]
    refine ⟨AtEach.snoc h.marked h.on_eq.symm, ?_, h.held⟩
    show ((g.passed ++ [(a, on)]).any fun q => turns q.1) = on
    rw [any_snoc, h.on_eq, ha, Bool.or_false]
  · rw [heq]
    refine ⟨h.marked, h.on_eq, fun b hb => ?_⟩
    rcases List.mem_append.mp hb with hb | hb
    · exact h.held b hb
    · rwa [List.mem_singleton.mp hb]

/-- The item that turns the marks on passes the open gate without one. -/
theorem Gate.InStep.submit_turn (h : g.InStep turns false) (hopen : g.isOpen = true)
    (ha : turns a = true) : (g.submit okay false a).InStep turns true := by
  rw [submit_passes (.inl hopen)]
  refine ⟨AtEach.snoc h.marked h.on_eq.symm, ?_, h.held⟩
  show ((g.passed ++ [(a, false)]).any fun q => turns q.1) = true
  rw [any_snoc, ha, Bool.or_true]

theorem Gate.InStep.setOpen (h : g.InStep turns on) (isOpen : Bool) :
    (g.setOpen isOpen).InStep turns on := ⟨h.marked, h.on_eq, h.held⟩

theorem Gate.InStep.flush (h : g.InStep turns on) : (g.flush on).InStep turns on := by
  unfold Gate.flush
  by_cases hclosed : (!g.isOpen) = true
  · rw [if_pos hclosed]
    exact h
  · rw [if_neg hclosed]
    obtain ⟨hmarked, hon⟩ := h.marked.append h.on_eq h.held
    exact ⟨hmarked, hon, List.forall_mem_nil _⟩

end Gates
