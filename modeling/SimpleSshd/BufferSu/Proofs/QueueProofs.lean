import SimpleSshd.BufferSu.BufferSu
import SimpleSshd.Lib.Fallible
import SimpleSshd.Lib.LinkedList

/-!
# Proofs: the block list of one direction is a queue of bytes

`Holds h b l` says that the heap `h` holds, from `b.head` to `b.tail`, the blocks `l`. Each queue
operation is specified against the bytes of those blocks: `buf_length` counts them, `buf_read` appends
to them, `buf_write` takes from their front. None of them touches a block of another list.
-/

namespace SimpleSshd.BufferSu

open LinkedList Fallible

/-- How a `struct block` links to its neighbours. -/
def blockLayout : Layout Addr Block Span := ⟨Block.next, Block.prev, Block.toSpan⟩

/-- The unread parts of a list of blocks, from head to tail. -/
def contents (l : List (Addr × Span)) : Bytes := l.flatMap fun x => x.2.unread

/-- A block in a queue has unread bytes, and they are inside its array. -/
def Span.Queued (c : Span) : Prop := 0 < c.len ∧ c.ofs + c.len ≤ BLKSZ

structure Holds (h : Heap) (b : Buf) (l : List (Addr × Span)) : Prop where
  list : IsList blockLayout h.cells b.head b.tail l
  spans : ∀ x ∈ l, x.2.Queued

variable {h : Heap} {b : Buf} {l : List (Addr × Span)} {a : Addr} {c : Span}

@[simp] theorem contents_nil : contents [] = [] := rfl

@[simp] theorem contents_cons : contents ((a, c) :: l) = c.unread ++ contents l := rfl

@[simp] theorem contents_append (l' : List (Addr × Span)) :
    contents (l ++ l') = contents l ++ contents l' := List.flatMap_append

theorem Span.Queued.length_unread (hc : c.Queued) : c.unread.length = c.len := by
  have hfit := hc.2
  simp only [Span.unread, List.length_take, List.length_drop, Vector.length_toList]
  omega

/-- Advancing a block past `n` bytes drops them. -/
theorem Span.unread_advance (c : Span) (n : Nat) :
    ({ c with ofs := c.ofs + n, len := c.len - n } : Span).unread = c.unread.drop n := by
  simp only [Span.unread, List.drop_take, List.drop_drop]

/-! ### The heap -/

theorem load_eq_ok {blk : Block} : h.load a = .ok blk ↔ h.cells a = some blk := by
  unfold Heap.load
  cases h.cells a with
  | none => simp
  | some _ => simp

theorem store_of_allocated {blk : Block} (hblk : h.cells a = some blk) (blk' : Block) :
    h.store a blk' = .ok (h.alloc a blk') := by
  unfold Heap.store
  rw [hblk]
  rfl

@[simp] theorem alloc_cells (blk : Block) :
    (h.alloc a blk).cells = Function.update h.cells a (some blk) := rfl

@[simp] theorem free_cells : (h.free a).cells = Function.update h.cells a none := rfl

/-! ### `buf_length` -/

theorem buf_length_loop {before p : Option Addr} (hseg : Seg blockLayout h.cells before p l)
    (hspans : ∀ x ∈ l, x.2.Queued) {k : Nat} (hk : l.length ≤ k) (ret : Nat) :
    buf_length.loop h k p ret = .ok (ret + (contents l).length) := by
  induction hseg generalizing k ret with
  | nil => cases k <;> rfl
  | @cons before a blk l hblk _ _ ih =>
    obtain ⟨k, rfl⟩ : ∃ k', k = k' + 1 := ⟨k - 1, by simp at hk; omega⟩
    have hlen := (hspans _ List.mem_cons_self).length_unread
    have hrest := ih (fun x hx => hspans x (List.mem_cons_of_mem _ hx)) (by simpa using hk)
      (ret + blk.len)
    rw [buf_length.loop, load_eq_ok.mpr hblk, ok_bind, contents_cons, List.length_append, hlen,
      ← Nat.add_assoc]
    exact hrest

theorem Holds.lt_brk (hl : Holds h b l) : ∀ x ∈ l.map Prod.fst, x < h.brk := by
  intro x hx
  obtain ⟨blk, hblk⟩ := hl.list.seg.allocated hx
  by_contra hge
  rw [h.above x (Nat.le_of_not_lt hge)] at hblk
  exact absurd hblk nofun

theorem buf_length_spec (hl : Holds h b l) : buf_length h b = .ok (contents l).length := by
  have hlen := length_le_of_lt hl.list.nodup hl.lt_brk
  rw [buf_length, buf_length_loop hl.list.seg hl.spans hlen, Nat.zero_add]

/-! ### `buf_read` -/

/-- The block `buf_read` puts the bytes in. -/
def newBlock (t : Vector UInt8 BLKSZ) (n : Nat) (tail : Option Addr) : Block :=
  { buf := t, ofs := 0, len := n, next := none, prev := tail }

theorem Holds.not_mem_of_free (hl : Holds h b l) (hfree : h.cells a = none) :
    a ∉ l.map Prod.fst := by
  intro ha
  obtain ⟨blk, hblk⟩ := hl.list.seg.allocated ha
  rw [hfree] at hblk
  exact absurd hblk nofun

/-- **`buf_read` appends** the bytes read as one more block. -/
theorem buf_read_spec (hl : Holds h b l) {n : Nat} {t : Vector UInt8 BLKSZ} (hpos : 0 < n)
    (hfit : n ≤ BLKSZ) (hfree : h.cells a = none) :
    ∃ h' b', buf_read h b (.data n t (some a)) = .ok (h', b', n) ∧
      Holds h' b' (l ++ [(a, ⟨t, 0, n⟩)]) ∧
      ∀ x, x ≠ a → x ∉ l.map Prod.fst → h'.cells x = h.cells x := by
  have hfresh := hl.not_mem_of_free hfree
  have hspans : ∀ x ∈ l ++ [(a, (⟨t, 0, n⟩ : Span))], x.2.Queued := by
    intro x hx
    rcases List.mem_append.mp hx with hx | hx
    · exact hl.spans x hx
    · obtain rfl := List.mem_singleton.mp hx
      exact ⟨hpos, by simpa using hfit⟩
  have hlist := hl.list
  cases htail : b.tail with
  | none =>
    rw [htail] at hlist
    have hother : ∀ x, x ≠ a → (h.alloc a (newBlock t n none)).cells x = h.cells x :=
      fun x hx => Function.update_of_ne hx _ _
    refine ⟨h.alloc a (newBlock t n none), _, by simp only [buf_read, htail]; rfl, ⟨?_, hspans⟩,
      fun x hx _ => hother x hx⟩
    exact hlist.push hfresh (fun q _ hq => absurd hq nofun) (n := newBlock t n none)
      (Function.update_self _ _ _) rfl rfl fun x hx _ => hother x hx
  | some q =>
    rw [htail] at hlist
    have hqa : q ≠ a := fun heq => hfresh (heq ▸ hlist.tail_mem)
    obtain ⟨blk, hblk⟩ := hlist.seg.allocated hlist.tail_mem
    have hblk' : (h.alloc a (newBlock t n (some q))).cells q = some blk := by
      rw [alloc_cells, Function.update_of_ne hqa, hblk]
    have hother : ∀ x, x ≠ a → x ≠ q → ((h.alloc a (newBlock t n (some q))).alloc q
        { blk with next := some a }).cells x = h.cells x := by
      intro x hxa hxq
      rw [alloc_cells, Function.update_of_ne hxq, alloc_cells, Function.update_of_ne hxa]
    refine ⟨(h.alloc a (newBlock t n (some q))).alloc q { blk with next := some a },
      { head := if b.head.isSome then b.head else some a, tail := some a }, ?_, ⟨?_, hspans⟩,
      fun x hxa hx => hother x hxa fun heq => hx (heq ▸ hlist.tail_mem)⟩
    · simp only [buf_read, htail]
      rw [← newBlock, load_eq_ok.mpr hblk', ok_bind, store_of_allocated hblk']
      rfl
    · refine hlist.push hfresh ?_ (n := newBlock t n (some q)) ?_ rfl rfl
        fun x hxa hxq => hother x hxa fun heq => hxq (heq ▸ rfl)
      · rintro q' blk₀ hq' hblk₀
        obtain rfl := Option.some.inj hq'
        obtain rfl := Option.some.inj (hblk.symm.trans hblk₀)
        exact ⟨_, Function.update_self _ _ _, rfl, rfl, rfl⟩
      · rw [alloc_cells, Function.update_of_ne hqa.symm, alloc_cells, Function.update_self]

/-! ### `buf_write` -/

theorem buf_waiting_iff (hl : Holds h b l) : buf_waiting b = true ↔ l ≠ [] := by
  have hhead := hl.list.head_eq_none_iff
  rw [buf_waiting, Option.isSome_iff_ne_none, Ne, hhead]

/-- The block at the head of a queue that is not empty. -/
theorem Holds.head_block (hl : Holds h b ((a, c) :: l)) :
    b.head = some a ∧ ∃ blk : Block, h.cells a = some blk ∧ blk.toSpan = c := by
  have hlist := hl.list
  cases hhead : b.head with
  | none => rw [hhead] at hlist; exact absurd (hlist.head_eq_none_iff.mp rfl) (by simp)
  | some p =>
    rw [hhead] at hlist
    obtain ⟨blk, rest, hblk, hcons, _⟩ := hlist.head_cell
    obtain ⟨hpair, rfl⟩ := List.cons.inj hcons
    obtain ⟨rfl, rfl⟩ := Prod.mk.inj hpair
    exact ⟨rfl, blk, hblk, rfl⟩

theorem offered_eq (hl : Holds h b ((a, c) :: l)) : offered h b = c.unread := by
  obtain ⟨hhead, blk, hblk, rfl⟩ := hl.head_block
  rw [offered, hhead, Option.bind_some, hblk]

section Write

variable {blk d : Block} {q : Addr} {n : Nat}

/-- The block at the head after `write` took `n` bytes of it. -/
def Block.advance (blk : Block) (n : Nat) : Block :=
  { blk with ofs := blk.ofs + n, len := blk.len - n }

theorem advance_unread : (blk.advance n).unread = blk.unread.drop n := Span.unread_advance _ _

theorem advance_queued (hq : blk.toSpan.Queued) (hn : n < blk.len) :
    (blk.advance n).toSpan.Queued := by
  obtain ⟨_, hfit⟩ := hq
  exact ⟨by show 0 < blk.len - n; omega,
    by show blk.ofs + n + (blk.len - n) ≤ BLKSZ; omega⟩

theorem buf_write_failed (hhead : b.head = some a) (hblk : h.cells a = some blk) :
    buf_write h b 0 = .ok (h, b) := by
  simp only [buf_write, hhead, load_eq_ok.mpr hblk, ok_bind]
  rfl

theorem buf_write_some (hhead : b.head = some a) (hblk : h.cells a = some blk) (hn : n ≠ 0)
    (hlen : blk.len - n ≠ 0) : buf_write h b n = .ok (h.alloc a (blk.advance n), b) := by
  simp only [buf_write, hhead, load_eq_ok.mpr hblk, ok_bind, if_neg hn, store_of_allocated hblk,
    if_neg hlen]
  rfl

theorem buf_write_only (hhead : b.head = some a) (hblk : h.cells a = some blk) (hn : n ≠ 0)
    (hlen : blk.len - n = 0) (hnext : blk.next = none) :
    buf_write h b n = .ok ((h.alloc a (blk.advance n)).free a, {}) := by
  rw [Block.advance]
  simp only [buf_write, hhead, load_eq_ok.mpr hblk, ok_bind, if_neg hn, store_of_allocated hblk,
    if_pos hlen, hnext]
  rfl

theorem buf_write_first (hhead : b.head = some a) (hblk : h.cells a = some blk) (hn : n ≠ 0)
    (hlen : blk.len - n = 0) (hnext : blk.next = some q) (hqa : q ≠ a) (hq : h.cells q = some d) :
    buf_write h b n = .ok (((h.alloc a (blk.advance n)).alloc q { d with prev := none }).free a,
      { b with head := some q }) := by
  have hq' : (h.alloc a (blk.advance n)).cells q = some d := by
    rw [alloc_cells, Function.update_of_ne hqa, hq]
  rw [Block.advance] at hq' ⊢
  simp only [hnext] at hq'
  simp only [buf_write, hhead, load_eq_ok.mpr hblk, ok_bind, if_neg hn, store_of_allocated hblk,
    if_pos hlen, hnext, load_eq_ok.mpr hq', store_of_allocated hq']
  rfl

theorem Holds.advance (hl : Holds h b ((a, blk.toSpan) :: l)) (hblk : h.cells a = some blk)
    (hn : n < blk.len) :
    Holds (h.alloc a (blk.advance n)) b ((a, (blk.advance n).toSpan) :: l) := by
  have hlist := hl.list
  have hhead := hl.head_block.1
  refine ⟨?_, ?_⟩
  · rw [hhead] at hlist ⊢
    exact hlist.modify_head hblk (Function.update_self _ _ _) rfl rfl
      fun x hx => Function.update_of_ne hx _ _
  · intro x hx
    rcases List.mem_cons.mp hx with rfl | hx
    · exact advance_queued (hl.spans _ List.mem_cons_self) hn
    · exact hl.spans x (List.mem_cons_of_mem _ hx)

/-- Removing the first of several blocks. -/
theorem Holds.pop (hl : Holds h b ((a, blk.toSpan) :: l)) (hblk : h.cells a = some blk)
    (hnext : blk.next = some q) :
    ∃ d, h.cells q = some d ∧ q ≠ a ∧ q ∈ l.map Prod.fst ∧
      Holds (((h.alloc a (blk.advance n)).alloc q { d with prev := none }).free a)
        { b with head := some q } l := by
  have hlist := hl.list
  rw [hl.head_block.1] at hlist
  have hmem : q ∈ l.map Prod.fst := hlist.next_mem hblk hnext
  have hqa : q ≠ a := hlist.rest_ne hmem
  obtain ⟨d, hd⟩ := hlist.seg.allocated (List.mem_cons_of_mem _ hmem)
  refine ⟨d, hd, hqa, hmem, hlist.pop hblk hnext ?_ ?_,
    fun x hx => hl.spans x (List.mem_cons_of_mem _ hx)⟩
  · intro d₀ hd₀
    obtain rfl := Option.some.inj (hd.symm.trans hd₀)
    refine ⟨{ d with prev := none }, ?_, rfl, rfl, rfl⟩
    rw [free_cells, Function.update_of_ne hqa, alloc_cells, Function.update_self]
  · intro x hxa hxq
    rw [free_cells, Function.update_of_ne hxa, alloc_cells, Function.update_of_ne hxq, alloc_cells,
      Function.update_of_ne hxa]

end Write

/-- **`buf_write` takes** the bytes that `write` accepted from the front. -/
theorem buf_write_spec (hl : Holds h b l) (hne : l ≠ []) {bs : Bytes} (hbs : bs <+: offered h b) :
    ∃ h' b' l', buf_write h b bs.length = .ok (h', b') ∧ Holds h' b' l' ∧
      bs ++ contents l' = contents l ∧ l'.map Prod.fst ⊆ l.map Prod.fst ∧
      ∀ x, x ∉ l.map Prod.fst → h'.cells x = h.cells x := by
  obtain ⟨⟨a, c⟩, l, rfl⟩ := List.exists_cons_of_ne_nil hne
  rw [offered_eq hl] at hbs
  obtain ⟨hhead, blk, hblk, rfl⟩ := hl.head_block
  have hlen : blk.unread.length = blk.len := (hl.spans _ List.mem_cons_self).length_unread
  have hle : bs.length ≤ blk.len := hlen ▸ hbs.length_le
  have hsplit : bs ++ blk.unread.drop bs.length = blk.unread := by
    obtain ⟨rest, hrest⟩ := hbs
    rw [← hrest, List.drop_left]
  have hframe : ∀ x, x ∉ ((a, blk.toSpan) :: l).map Prod.fst →
      (h.alloc a (blk.advance bs.length)).cells x = h.cells x ∧ x ≠ a := by
    intro x hx
    have hxa : x ≠ a := fun heq => hx (by simp [heq])
    exact ⟨Function.update_of_ne hxa _ _, hxa⟩
  by_cases hn : bs.length = 0
  · -- `write` failed: nothing changes
    refine ⟨h, b, _, by rw [hn]; exact buf_write_failed hhead hblk, hl, ?_, List.Subset.refl _,
      fun _ _ => rfl⟩
    rw [List.length_eq_zero_iff.mp hn, List.nil_append]
  by_cases hempty : blk.len - bs.length = 0
  · -- the whole block was written: it is unlinked and freed
    have hall : bs ++ contents l = contents ((a, blk.toSpan) :: l) := by
      have hnone : blk.unread.drop bs.length = [] := List.drop_eq_nil_of_le (by omega)
      rw [hnone, List.append_nil] at hsplit
      rw [contents_cons, ← hsplit]
    cases hnext : blk.next with
    | none =>
      have hlist := hl.list
      rw [hhead] at hlist
      obtain rfl := hlist.rest_eq_nil hblk hnext
      refine ⟨_, _, [], buf_write_only hhead hblk hn hempty hnext, ⟨.nil, by simp⟩, hall, by simp,
        fun x hx => ?_⟩
      obtain ⟨hsame, hxa⟩ := hframe x hx
      rw [free_cells, Function.update_of_ne hxa, hsame]
    | some q =>
      obtain ⟨d, hd, hqa, hq, hpop⟩ := hl.pop (n := bs.length) hblk hnext
      refine ⟨_, _, l, buf_write_first hhead hblk hn hempty hnext hqa hd, hpop, hall,
        List.subset_cons_self _ _, fun x hx => ?_⟩
      obtain ⟨hsame, hxa⟩ := hframe x hx
      have hxq : x ≠ q := fun heq => hx (List.mem_cons_of_mem _ (heq ▸ hq))
      rw [free_cells, Function.update_of_ne hxa, alloc_cells, Function.update_of_ne hxq, hsame]
  · refine ⟨_, _, _, buf_write_some hhead hblk hn hempty, hl.advance hblk (by omega), ?_,
      List.Subset.refl _, fun x hx => (hframe x hx).1⟩
    rw [contents_cons, contents_cons, advance_unread, ← List.append_assoc, hsplit]

end SimpleSshd.BufferSu
