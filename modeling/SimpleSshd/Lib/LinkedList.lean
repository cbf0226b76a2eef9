import Mathlib.Data.List.Perm.Subperm

/-!
# Doubly linked lists in a heap

A heap maps addresses to cells; a cell holds a link to the next cell, one to the previous cell and
some data. `IsList` says that the cells reached from `head` form a well-linked list that ends at
`tail` and holds the given data. The rules below say what the three operations of a queue do to it:
appending a fresh cell, changing the data of the first cell and removing the first cell. Everything
else the heap holds is framed off.
-/

namespace LinkedList

/-- Where a cell keeps its links and its data. -/
structure Layout (Addr Cell α : Type*) where
  next : Cell → Option Addr
  prev : Cell → Option Addr
  data : Cell → α

variable {Addr Cell α : Type*} (L : Layout Addr Cell α)

/-- Following `next` from the given pointer visits exactly the cells of the list, and every cell's
`prev` is the cell visited before it (`before` for the first). -/
inductive Seg (heap : Addr → Option Cell) : Option Addr → Option Addr → List (Addr × α) → Prop
  | nil (before : Option Addr) : Seg heap before none []
  | cons {before : Option Addr} {a : Addr} {c : Cell} {l : List (Addr × α)} :
      heap a = some c → L.prev c = before → Seg heap (some a) (L.next c) l →
        Seg heap before (some a) ((a, L.data c) :: l)

/-- A well-formed list from `head` to `tail`. -/
structure IsList (heap : Addr → Option Cell) (head tail : Option Addr) (l : List (Addr × α)) :
    Prop where
  seg : Seg L heap none head l
  last : tail = l.getLast?.map Prod.fst
  nodup : (l.map Prod.fst).Nodup

variable {L} {heap heap' : Addr → Option Cell} {before head tail p : Option Addr} {a q : Addr}
  {c c' n : Cell} {d : α} {l : List (Addr × α)}

namespace Seg

/-- A segment only depends on the cells it visits. -/
theorem frame (h : Seg L heap before p l) (hsame : ∀ b ∈ l.map Prod.fst, heap' b = heap b) :
    Seg L heap' before p l := by
  induction h with
  | nil before => exact .nil before
  | @cons before a c l hc hprev _ ih =>
    refine .cons ?_ hprev (ih fun b hb => hsame b (List.mem_cons_of_mem _ hb))
    rw [hsame a (by simp), hc]

theorem eq_none_iff (h : Seg L heap before p l) : p = none ↔ l = [] := by
  cases h <;> simp

/-- Every visited address is allocated. -/
theorem allocated (h : Seg L heap before p l) (hq : q ∈ l.map Prod.fst) : ∃ c, heap q = some c := by
  induction h with
  | nil => simp at hq
  | @cons before a c l hc _ _ ih =>
    rw [List.map_cons, List.mem_cons] at hq
    rcases hq with rfl | hq
    · exact ⟨c, hc⟩
    · exact ih hq

/-- The last cell of a segment links to nothing, so a fresh cell can be hung on it. -/
theorem push (h : Seg L heap before p l) (hnodup : (l.map Prod.fst).Nodup)
    (hlast : l.getLast?.map Prod.fst = some q) (hfresh : a ∉ l.map Prod.fst)
    (hq : ∀ c, heap q = some c → ∃ c', heap' q = some c' ∧ L.next c' = some a ∧
      L.prev c' = L.prev c ∧ L.data c' = L.data c)
    (ha : heap' a = some n) (hnext : L.next n = none) (hprev : L.prev n = some q)
    (hrest : ∀ b, b ≠ a → b ≠ q → heap' b = heap b) :
    Seg L heap' before p (l ++ [(a, L.data n)]) := by
  induction h with
  | nil => simp at hlast
  | @cons before b c l hc hb htail ih =>
    have hba : b ≠ a := fun hab => hfresh (by simp [hab])
    rw [List.map_cons, List.nodup_cons] at hnodup
    by_cases hl : l = []
    · -- `b` is the last cell: its new contents link to the fresh one
      subst hl
      have hbq : b = q := by simpa using hlast
      subst hbq
      obtain ⟨c', hc', hnext', hprev', hdata'⟩ := hq c hc
      rw [← hdata']
      refine .cons hc' (hprev'.trans hb) ?_
      rw [hnext']
      exact .cons ha hprev (by rw [hnext]; exact .nil _)
    · have hlast' : l.getLast?.map Prod.fst = some q := by
        rwa [List.getLast?_cons_of_ne_nil hl] at hlast
      have hbq : b ≠ q := by
        rintro rfl
        obtain ⟨x, hx, hxb⟩ := Option.map_eq_some_iff.mp hlast'
        exact hnodup.1 (List.mem_map.mpr ⟨x, List.mem_of_getLast? hx, hxb⟩)
      refine .cons ((hrest b hba hbq).trans hc) hb (ih hnodup.2 hlast' ?_)
      exact fun hmem => hfresh (List.mem_cons_of_mem _ hmem)

end Seg

namespace IsList

theorem nil : IsList L heap none none [] := ⟨.nil none, rfl, List.nodup_nil⟩

theorem frame (h : IsList L heap head tail l)
    (hsame : ∀ b ∈ l.map Prod.fst, heap' b = heap b) : IsList L heap' head tail l :=
  ⟨h.seg.frame hsame, h.last, h.nodup⟩

theorem head_eq_none_iff (h : IsList L heap head tail l) : head = none ↔ l = [] :=
  h.seg.eq_none_iff

theorem tail_eq_none_iff (h : IsList L heap head tail l) : tail = none ↔ l = [] := by
  rw [h.last]; simp

/-- The tail is one of the cells. -/
theorem tail_mem (h : IsList L heap head (some q) l) : q ∈ l.map Prod.fst := by
  obtain ⟨x, hx, hxq⟩ := Option.map_eq_some_iff.mp h.last.symm
  exact List.mem_map.mpr ⟨x, List.mem_of_getLast? hx, hxq⟩

/-- The first cell of a list that is not empty. -/
theorem head_cell (h : IsList L heap (some a) tail l) :
    ∃ c rest, heap a = some c ∧ l = (a, L.data c) :: rest ∧ Seg L heap (some a) (L.next c) rest := by
  cases h.seg with
  | cons hc hprev hrest => exact ⟨_, _, hc, rfl, hrest⟩

/-- **Append**: a fresh cell, linked to the tail, becomes the tail. -/
theorem push (h : IsList L heap head tail l) (hfresh : a ∉ l.map Prod.fst)
    (hq : ∀ q c, tail = some q → heap q = some c → ∃ c', heap' q = some c' ∧
      L.next c' = some a ∧ L.prev c' = L.prev c ∧ L.data c' = L.data c)
    (ha : heap' a = some n) (hnext : L.next n = none) (hprev : L.prev n = tail)
    (hrest : ∀ b, b ≠ a → tail ≠ some b → heap' b = heap b) :
    IsList L heap' (if head.isSome then head else some a) (some a) (l ++ [(a, L.data n)]) := by
  refine ⟨?_, by simp, ?_⟩
  · cases tail with
    | none =>
      obtain rfl := h.tail_eq_none_iff.mp rfl
      obtain rfl := h.head_eq_none_iff.mpr rfl
      exact .cons ha hprev (by rw [hnext]; exact .nil _)
    | some q =>
      have hhead : head.isSome := by
        cases head with
        | some _ => rfl
        | none => simp [h.head_eq_none_iff.mp rfl] at h; simpa using h.last
      rw [if_pos hhead]
      refine h.seg.push h.nodup h.last.symm hfresh (fun c hc => hq q c rfl hc) ha hnext hprev ?_
      exact fun b hba hbq => hrest b hba fun hb => hbq (Option.some.inj hb).symm
  · rw [List.map_append, List.nodup_append]
    refine ⟨h.nodup, by simp, ?_⟩
    intro b hb b' hb' hbb
    obtain rfl : b' = a := by simpa using hb'
    exact hfresh (hbb ▸ hb)

/-- The cells behind the first one are not the first one. -/
theorem rest_ne (h : IsList L heap head tail ((a, d) :: l)) {b : Addr} (hb : b ∈ l.map Prod.fst) :
    b ≠ a := by
  rintro rfl
  exact (List.nodup_cons.mp h.nodup).1 hb

/-- **Change the first cell**, leaving its links as they are. -/
theorem modify_head (h : IsList L heap (some a) tail ((a, d) :: l)) (hc : heap a = some c)
    (hc' : heap' a = some c') (hnext : L.next c' = L.next c) (hprev : L.prev c' = L.prev c)
    (hrest : ∀ b, b ≠ a → heap' b = heap b) :
    IsList L heap' (some a) tail ((a, L.data c') :: l) := by
  refine ⟨?_, ?_, h.nodup⟩
  · have hframe : ∀ b ∈ l.map Prod.fst, heap' b = heap b := fun b hb => hrest b (h.rest_ne hb)
    cases h.seg with
    | cons hc₀ hprev₀ hseg =>
      rw [hc] at hc₀
      obtain rfl := Option.some.inj hc₀
      exact .cons hc' (hprev.trans hprev₀) (by rw [hnext]; exact hseg.frame hframe)
  · rw [h.last]
    cases l <;> simp

/-- The successor of the first cell is a cell of the list. -/
theorem next_mem (h : IsList L heap (some a) tail ((a, d) :: l)) (hc : heap a = some c)
    (hnext : L.next c = some q) : q ∈ l.map Prod.fst := by
  cases h.seg with
  | cons hc₀ _ hseg =>
    rw [hc] at hc₀
    obtain rfl := Option.some.inj hc₀
    rw [hnext] at hseg
    cases hseg with
    | cons _ _ _ => simp

/-- **Remove the first cell** of several: its successor becomes the head. -/
theorem pop (h : IsList L heap (some a) tail ((a, d) :: l)) (hc : heap a = some c)
    (hnext : L.next c = some q)
    (hq : ∀ c, heap q = some c → ∃ c', heap' q = some c' ∧ L.prev c' = none ∧
      L.next c' = L.next c ∧ L.data c' = L.data c)
    (hrest : ∀ b, b ≠ a → b ≠ q → heap' b = heap b) : IsList L heap' (some q) tail l := by
  refine ⟨?_, ?_, (List.nodup_cons.mp h.nodup).2⟩
  · cases h.seg with
    | cons hc₀ _ hseg =>
      rw [hc] at hc₀
      obtain rfl := Option.some.inj hc₀
      rw [hnext] at hseg
      cases hseg with
      | @cons _ _ c₁ l hc₁ _ hseg =>
        obtain ⟨c', hc', hprev', hnext', hdata'⟩ := hq c₁ hc₁
        have hqa := (List.nodup_cons.mp h.nodup).2
        rw [← hdata']
        refine .cons hc' hprev' ?_
        rw [hnext']
        refine hseg.frame fun b hb => hrest b (h.rest_ne (List.mem_cons_of_mem _ hb)) ?_
        rintro rfl
        exact (List.nodup_cons.mp hqa).1 hb
  · have hmem := h.next_mem hc hnext
    rw [h.last, List.getLast?_cons_of_ne_nil]
    rintro rfl
    simp at hmem

/-- The first cell of a list whose first cell has no successor is the only one. -/
theorem rest_eq_nil (h : IsList L heap (some a) tail ((a, d) :: l)) (hc : heap a = some c)
    (hnext : L.next c = none) : l = [] := by
  cases h.seg with
  | cons hc₀ _ hseg =>
    rw [hc] at hc₀
    obtain rfl := Option.some.inj hc₀
    exact hseg.eq_none_iff.mp hnext

end IsList

/-- A list whose addresses are all below `k` has at most `k` cells. -/
theorem length_le_of_lt {l : List (Nat × α)} {k : Nat} (hnodup : (l.map Prod.fst).Nodup)
    (hlt : ∀ b ∈ l.map Prod.fst, b < k) : l.length ≤ k := by
  have hsub : (l.map Prod.fst).Subperm (List.range k) :=
    List.Nodup.subperm hnodup fun b hb => List.mem_range.mpr (hlt b hb)
  simpa using hsub.length_le

end LinkedList
