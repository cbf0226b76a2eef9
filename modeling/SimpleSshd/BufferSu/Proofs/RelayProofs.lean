import SimpleSshd.BufferSu.Proofs.QueueProofs
import SimpleSshd.BufferSu.Proofs.StepsProofs

/-!
# Proofs: the relay neither loses, duplicates nor reorders a byte

For each direction `Flow` says that what was written followed by what is queued is what was read,
and that the queue only grows while it was below `MAX_BUFSZ` at the head of the loop.
-/

namespace SimpleSshd.BufferSu

open Runs

variable {s t : State} {e : Event} {es : List Event}

/-! ### The invariant of one direction -/

theorem bytesRead_snoc (fd : Fd) : bytesRead fd (es ++ [e]) = bytesRead fd es ++ bytesRead fd [e] :=
  List.flatMap_append

theorem bytesWritten_snoc (fd : Fd) :
    bytesWritten fd (es ++ [e]) = bytesWritten fd es ++ bytesWritten fd [e] :=
  List.flatMap_append

@[simp] theorem bytesRead_read (fd : Fd) (r : ReadResult) : bytesRead fd [.read fd r] = r.bytes := by
  simp [bytesRead]

@[simp] theorem bytesWritten_write (fd : Fd) (bs : Bytes) :
    bytesWritten fd [.write fd bs] = bs := by
  simp [bytesWritten]

/-- The call of `read` on the descriptor is still to come in this round of the loop. -/
def Pc.awaits : Pc → Fd → Bool
  | .out_stdout, .stdin | .out_child, .stdin | .select, .stdin | .read_stdin, .stdin => true
  | .out_stdout, .child_stdout | .out_child, .child_stdout | .select, .child_stdout => true
  | .read_stdin, .child_stdout | .read_child, .child_stdout => true
  | _, _ => false

/-- Before `select` has returned, both calls of `read` are still to come. -/
theorem awaits_of_early {pc pc' : Pc} (h : pc = .out_stdout ∨ pc = .out_child ∨ pc = .select)
    (fd : Fd) (haw : pc'.awaits fd = true) : pc.awaits fd = true := by
  rcases h with rfl | rfl | rfl <;> cases pc' <;> cases fd <;> first | rfl | exact absurd haw nofun

/-- The blocks `l` queued in `b` on the way from `src` to `dst`. -/
structure Flow (es : List Event) (s : State) (src dst : Fd) (b : Buf) (l : List (Addr × Span)) :
    Prop where
  queue : Holds s.heap b l
  conserved : bytesWritten dst es ++ contents l = bytesRead src es
  bound : (contents l).length ≤ MAX_BUFSZ - 1 + BLKSZ
  room : s.pc.awaits src = true → src ∈ s.ifds → (contents l).length < MAX_BUFSZ

variable {src dst : Fd} {b b' : Buf} {l l' : List (Addr × Span)}

/-- What an event must do to keep a direction's invariant. -/
theorem Flow.next (hf : Flow es s src dst b l) (hq : Holds t.heap b' l')
    (hbytes : bytesWritten dst [e] ++ contents l' = contents l ++ bytesRead src [e])
    (hbound : (contents l').length ≤ MAX_BUFSZ - 1 + BLKSZ)
    (hroom : t.pc.awaits src = true → src ∈ t.ifds → (contents l').length < MAX_BUFSZ) :
    Flow (es ++ [e]) t src dst b' l' := by
  refine ⟨hq, ?_, hbound, hroom⟩
  rw [bytesWritten_snoc, bytesRead_snoc, List.append_assoc, hbytes, ← List.append_assoc,
    hf.conserved]

theorem Holds.frame {h h' : Heap} (hl : Holds h b l)
    (hsame : ∀ x ∈ l.map Prod.fst, h'.cells x = h.cells x) : Holds h' b l :=
  ⟨hl.list.frame hsame, hl.spans⟩

/-- An event that neither reads `src` nor writes `dst` nor touches the blocks. -/
theorem Flow.idle (hf : Flow es s src dst b l) (hr : bytesRead src [e] = [])
    (hw : bytesWritten dst [e] = []) (hheap : ∀ x ∈ l.map Prod.fst, t.heap.cells x = s.heap.cells x)
    (hpc : t.pc.awaits src = true → s.pc.awaits src = true) (hset : t.ifds ⊆ s.ifds) :
    Flow (es ++ [e]) t src dst b l := by
  refine hf.next (hf.queue.frame hheap) (by rw [hr, hw]; simp) hf.bound ?_
  exact fun haw hmem => hf.room (hpc haw) (hset hmem)

/-- A call of `read` that delivered data appends it to the queue. -/
theorem Flow.read (hf : Flow es s src dst b l) (hawait : s.pc.awaits src = true)
    (hset : src ∈ s.ifds) {n : Nat} {x : Vector UInt8 BLKSZ} {a : Addr}
    (hr : State.admits s.heap (.data n x (some a))) :
    ∃ h' b' l', buf_read s.heap b (.data n x (some a)) = .ok (h', b', n) ∧
      (∀ t : State, t.heap = h' → t.pc.awaits src = false →
        Flow (es ++ [.read src (.data n x (some a))]) t src dst b' l') ∧
      l'.map Prod.fst = l.map Prod.fst ++ [a] ∧
      ∀ y, y ≠ a → y ∉ l.map Prod.fst → h'.cells y = s.heap.cells y := by
  obtain ⟨hpos, hfit, hfree⟩ := hr
  obtain ⟨h', b', hok, hholds, hframe⟩ := buf_read_spec (t := x) hf.queue hpos hfit hfree
  refine ⟨h', b', l ++ [(a, ⟨x, 0, n⟩)], hok, ?_, by simp, hframe⟩
  intro t ht hpc
  have hlt := hf.room hawait hset
  have hnew : contents [(a, (⟨x, 0, n⟩ : Span))] = x.toList.take n := by simp [contents, Span.unread]
  refine hf.next (ht ▸ hholds) ?_ ?_ (by simp [hpc])
  · rw [bytesRead_read, contents_append, hnew]
    rfl
  · rw [contents_append, hnew, List.length_append, List.length_take]
    omega

/-- A call of `write` takes what it accepted from the queue. -/
theorem Flow.write (hf : Flow es s src dst b l) (hwait : buf_waiting b = true) {bs : Bytes}
    (hbs : bs <+: offered s.heap b) :
    ∃ h' b' l', buf_write s.heap b bs.length = .ok (h', b') ∧
      (∀ t : State, t.heap = h' → t.pc.awaits src = false →
        Flow (es ++ [.write dst bs]) t src dst b' l') ∧
      l'.map Prod.fst ⊆ l.map Prod.fst ∧
      ∀ y, y ∉ l.map Prod.fst → h'.cells y = s.heap.cells y := by
  have hne := (buf_waiting_iff hf.queue).mp hwait
  obtain ⟨h', b', l', hok, hholds, hbytes, hsub, hframe⟩ := buf_write_spec hf.queue hne hbs
  refine ⟨h', b', l', hok, ?_, hsub, hframe⟩
  intro t ht hpc
  have hlen := congrArg List.length hbytes
  rw [List.length_append] at hlen
  refine hf.next (ht ▸ hholds) ?_ ?_ (by simp [hpc])
  · rw [bytesWritten_write, hbytes]
    exact (List.append_nil _).symm
  · have hbound := hf.bound
    omega

/-! ### Both directions -/

/-- Both directions keep their invariant, and no block is in both queues. -/
structure Relaying (es : List Event) (s : State) (l0 l1 : List (Addr × Span)) : Prop where
  inward : Flow es s .stdin .child_stdin s.buf0 l0
  outward : Flow es s .child_stdout .stdout s.buf1 l1
  disjoint : ∀ x ∈ l0.map Prod.fst, x ∉ l1.map Prod.fst

/-- `malloc` returned the null pointer. -/
def OutOfMemory (es : List Event) : Prop := ∃ fd n x, .read fd (.data n x none) ∈ es

/-- The relay keeps its invariant unless it crashed because `malloc` failed. -/
def RelayInv (es : List Event) (s : State) : Prop :=
  s.pc = .stopped .fault ∧ OutOfMemory es ∨ ∃ l0 l1, Relaying es s l0 l1

theorem Moves.running (h : Moves s e t) : s.running = true := by
  cases h with
  | skip h => cases h <;> simp [State.running, *]
  | sigchld h => exact h
  | sigpipe h => exact h
  | child_write h => exact h
  | child_close h => exact h
  | child_exit h => exact h
  | _ => simp [State.running, *]

theorem Moves.not_stopped (h : Moves s e t) (why : Exit) : s.pc ≠ .stopped why := by
  intro hpc
  have hrun := h.running
  simp [State.running, hpc] at hrun

/-- Events that change neither the heap nor the queues. -/
theorem Relaying.idle {l0 l1 : List (Addr × Span)} (hr : Relaying es s l0 l1)
    (hheap : t.heap = s.heap) (h0 : t.buf0 = s.buf0) (h1 : t.buf1 = s.buf1)
    (hread : ∀ fd, bytesRead fd [e] = []) (hwrite : ∀ fd, bytesWritten fd [e] = [])
    (hpc : ∀ fd, t.pc.awaits fd = true → s.pc.awaits fd = true) (hset : t.ifds ⊆ s.ifds) :
    RelayInv (es ++ [e]) t := by
  refine .inr ⟨l0, l1, ?_, ?_, hr.disjoint⟩
  · exact h0 ▸ hr.inward.idle (hread _) (hwrite _) (fun _ _ => by rw [hheap]) (hpc _) hset
  · exact h1 ▸ hr.outward.idle (hread _) (hwrite _) (fun _ _ => by rw [hheap]) (hpc _) hset

theorem awaits_stopped (why : Exit) (fd : Fd) : (Pc.stopped why).awaits fd = false := by
  cases fd <;> rfl

theorem Relaying.stop {l0 l1 : List (Addr × Span)} (hr : Relaying es s l0 l1) (why : Exit)
    (hread : ∀ fd, bytesRead fd [e] = []) (hwrite : ∀ fd, bytesWritten fd [e] = []) :
    RelayInv (es ++ [e]) (s.stop why) := by
  refine hr.idle (e := e) (t := s.stop why) rfl rfl rfl hread hwrite ?_ (Finset.Subset.refl _)
  intro fd haw
  rw [State.stop, awaits_stopped] at haw
  exact absurd haw Bool.false_ne_true

/-- The code only moves on past a call of `read`. -/
theorem Skips.awaits {pc : Pc} (h : Skips s pc) (fd : Fd) (haw : pc.awaits fd = true) :
    s.pc.awaits fd = true := by
  cases h with
  | out_child hpc => exact awaits_of_early (.inr (.inl hpc)) fd haw
  | read_stdin hpc => rw [hpc]; cases fd <;> first | rfl | exact absurd haw nofun
  | read_child => cases fd <;> exact absurd haw nofun
  | write_stdout => cases fd <;> exact absurd haw nofun
  | test_child => cases fd <;> exact absurd haw nofun
  | test_top => cases fd <;> exact absurd haw nofun
  | write_child => cases fd <;> exact absurd haw nofun

theorem RelayInv.readStdin {l0 l1 : List (Addr × Span)} (hr : Relaying es s l0 l1)
    {r : ReadResult} (hpc : s.pc = .read_stdin) (hset : .stdin ∈ s.ifds)
    (hadm : State.admits s.heap r) : RelayInv (es ++ [.read .stdin r]) (s.readStdin r) := by
  cases r with
  | error => exact hr.stop .read_error (fun fd => by cases fd <;> rfl) fun _ => rfl
  | eof =>
    refine hr.idle rfl rfl rfl (fun fd => by cases fd <;> rfl) (fun _ => rfl) ?_
      (Finset.Subset.refl _)
    intro fd haw
    rw [hpc]
    cases fd <;> first | rfl | exact absurd haw nofun
  | data n x p =>
    cases p with
    | none => exact .inl ⟨rfl, .stdin, n, x, by simp⟩
    | some a =>
      obtain ⟨h', b', l', hok, hflow, haddr, hframe⟩ := hr.inward.read (by rw [hpc]; rfl) hset hadm
      have hout : a ∉ l1.map Prod.fst := hr.outward.queue.not_mem_of_free hadm.2.2
      rw [State.readStdin, hok]
      refine .inr ⟨l', l1, hflow _ rfl rfl, ?_, ?_⟩
      · refine hr.outward.idle rfl rfl ?_ (fun _ => by rw [hpc]; rfl) (Finset.Subset.refl _)
        exact fun y hy => hframe y (fun heq => hout (heq ▸ hy)) fun hy' => hr.disjoint y hy' hy
      · intro y hy
        rw [haddr, List.mem_append, List.mem_singleton] at hy
        rcases hy with hy | rfl
        · exact hr.disjoint y hy
        · exact hout

theorem RelayInv.readChild {l0 l1 : List (Addr × Span)} (hr : Relaying es s l0 l1)
    {r : ReadResult} (hpc : s.pc = .read_child) (hset : .child_stdout ∈ s.ifds)
    (hadm : State.admits s.heap r) : RelayInv (es ++ [.read .child_stdout r]) (s.readChild r) := by
  cases r with
  | error => exact hr.stop .read_error (fun fd => by cases fd <;> rfl) fun _ => rfl
  | eof =>
    refine hr.idle rfl rfl rfl (fun fd => by cases fd <;> rfl) (fun _ => rfl) ?_
      (Finset.Subset.refl _)
    intro fd haw
    cases fd <;> exact absurd haw nofun
  | data n x p =>
    cases p with
    | none => exact .inl ⟨rfl, .child_stdout, n, x, by simp⟩
    | some a =>
      obtain ⟨h', b', l', hok, hflow, haddr, hframe⟩ :=
        hr.outward.read (by rw [hpc]; rfl) hset hadm
      have hout : a ∉ l0.map Prod.fst := hr.inward.queue.not_mem_of_free hadm.2.2
      rw [State.readChild, hok]
      refine .inr ⟨l0, l', ?_, hflow _ rfl rfl, ?_⟩
      · refine hr.inward.idle rfl rfl ?_ nofun (Finset.Subset.refl _)
        exact fun y hy => hframe y (fun heq => hout (heq ▸ hy)) (hr.disjoint y hy)
      · intro y hy hy'
        rw [haddr, List.mem_append, List.mem_singleton] at hy'
        rcases hy' with hy' | rfl
        · exact hr.disjoint y hy hy'
        · exact hout hy

theorem RelayInv.writeStdout {l0 l1 : List (Addr × Span)} (hr : Relaying es s l0 l1) {bs : Bytes}
    (hwait : buf_waiting s.buf1 = true) (hbs : bs <+: offered s.heap s.buf1) :
    RelayInv (es ++ [.write .stdout bs]) (s.writeStdout bs.length) := by
  obtain ⟨h', b', l', hok, hflow, hsub, hframe⟩ := hr.outward.write hwait hbs
  rw [State.writeStdout, hok]
  refine .inr ⟨l0, l', ?_, hflow _ rfl rfl, fun y hy hy' => hr.disjoint y hy (hsub hy')⟩
  exact hr.inward.idle rfl rfl (fun y hy => hframe y (hr.disjoint y hy)) nofun
    (Finset.Subset.refl _)

theorem RelayInv.writeChild {l0 l1 : List (Addr × Span)} (hr : Relaying es s l0 l1) {bs : Bytes}
    (hwait : buf_waiting s.buf0 = true) (hbs : bs <+: offered s.heap s.buf0) :
    RelayInv (es ++ [.write .child_stdin bs]) (s.writeChild bs.length) := by
  obtain ⟨h', b', l', hok, hflow, hsub, hframe⟩ := hr.inward.write hwait hbs
  rw [State.writeChild, hok]
  refine .inr ⟨l', l1, hflow _ rfl rfl, ?_, fun y hy => hr.disjoint y (hsub hy)⟩
  exact hr.outward.idle rfl rfl (fun y hy => hframe y fun hy' => hr.disjoint y hy' hy) nofun
    (Finset.Subset.refl _)

/-- Filling `ifds` records that the queues have room. -/
theorem RelayInv.fill {l0 l1 : List (Addr × Span)} (hr : Relaying es s l0 l1) {n0 n1 : Nat}
    (h0 : buf_length s.heap s.buf0 = .ok n0) (h1 : buf_length s.heap s.buf1 = .ok n1) :
    RelayInv (es ++ [.tau]) { s with ifds := polled n0 n1, ofds := ∅, pc := .out_stdout } := by
  rw [buf_length_spec hr.inward.queue] at h0
  rw [buf_length_spec hr.outward.queue] at h1
  obtain rfl := Except.ok.inj h0
  obtain rfl := Except.ok.inj h1
  refine .inr ⟨l0, l1, ?_, ?_, hr.disjoint⟩
  · exact hr.inward.next hr.inward.queue (List.append_nil _).symm hr.inward.bound
      fun _ hmem => stdin_mem_polled.mp hmem
  · exact hr.outward.next hr.outward.queue (List.append_nil _).symm hr.outward.bound
      fun _ hmem => child_stdout_mem_polled.mp hmem

/-- **Step lemma**: every event keeps the invariant. -/
theorem RelayInv.step (hinv : RelayInv es s) (h : Moves s e t) : RelayInv (es ++ [e]) t := by
  obtain ⟨hpc, _⟩ | ⟨l0, l1, hr⟩ := hinv
  · exact absurd hpc (h.not_stopped _)
  have hself : s.ifds ⊆ s.ifds := Finset.Subset.refl _
  cases h with
  | fill hpc h0 h1 => exact .fill hr h0 h1
  | broken hpc h =>
    rw [buf_length_spec hr.inward.queue, buf_length_spec hr.outward.queue] at h
    rcases h with h | h <;> exact absurd h nofun
  | await_stdout hpc h =>
    exact hr.idle rfl rfl rfl (fun _ => rfl) (fun _ => rfl) (awaits_of_early (.inl hpc)) hself
  | die hpc h hdead => exact hr.stop _ (fun _ => rfl) fun _ => rfl
  | idle_stdout hpc h hdead =>
    exact hr.idle rfl rfl rfl (fun _ => rfl) (fun _ => rfl) (awaits_of_early (.inl hpc)) hself
  | await_child hpc h hdead =>
    exact hr.idle rfl rfl rfl (fun _ => rfl) (fun _ => rfl) (awaits_of_early (.inr (.inl hpc))) hself
  | skip h => exact hr.idle rfl rfl rfl (fun _ => rfl) (fun _ => rfl) h.awaits hself
  | select_failed hpc =>
    exact hr.idle rfl rfl rfl (fun _ => rfl) (fun _ => rfl) (awaits_of_early (.inr (.inr hpc))) hself
  | selected hpc hi ho =>
    exact hr.idle rfl rfl rfl (fun _ => rfl) (fun _ => rfl) (awaits_of_early (.inr (.inr hpc))) hi
  | read_stdin hpc hset hadm => exact .readStdin hr hpc hset hadm
  | read_child hpc hset hadm hpipe => exact .readChild hr hpc hset hadm
  | write_stdout hpc hset hwait hbs => exact .writeStdout hr hwait hbs
  | write_child hpc hwait hbs => exact .writeChild hr hwait hbs
  | sigchld => exact hr.idle rfl rfl rfl (fun _ => rfl) (fun _ => rfl) (fun _ => id) hself
  | sigpipe => exact hr.stop _ (fun _ => rfl) fun _ => rfl
  | child_write => exact hr.idle rfl rfl rfl (fun _ => rfl) (fun _ => rfl) (fun _ => id) hself
  | child_close => exact hr.idle rfl rfl rfl (fun _ => rfl) (fun _ => rfl) (fun _ => id) hself
  | child_exit => exact hr.idle rfl rfl rfl (fun _ => rfl) (fun _ => rfl) (fun _ => id) hself

theorem RelayInv.init : RelayInv [] start := by
  have hempty : Holds start.heap {} [] := ⟨.nil, by simp⟩
  exact .inr ⟨[], [], ⟨hempty, rfl, Nat.zero_le _, nofun⟩, ⟨hempty, rfl, Nat.zero_le _, nofun⟩,
    by simp⟩

/-- **Run lemma.** -/
theorem relayInv_of_run (h : Run (ofFun step) start es s) : RelayInv es s := by
  have hstep : ∀ ⦃es s e t⦄, RelayInv es s → ofFun step s e t → RelayInv (es ++ [e]) t :=
    fun _ _ _ _ hinv hst => hinv.step (step_moves hst)
  have hend := h.trace_invariant hstep RelayInv.init
  exact hend

/-- What `b` holds of the bytes on their way from `src` to `dst`: a well-linked list of blocks whose
unread parts are exactly what was read and not yet written. -/
def Relayed (es : List Event) (s : State) (src dst : Fd) (b : Buf) : Prop :=
  ∃ l, LinkedList.IsList blockLayout s.heap.cells b.head b.tail l ∧
    bytesWritten dst es ++ contents l = bytesRead src es ∧
    (∀ x ∈ l, 0 < x.2.len ∧ x.2.ofs + x.2.len ≤ BLKSZ) ∧
    (b.head = none ↔ b.tail = none) ∧ b.tail = l.getLast?.map Prod.fst ∧
    buf_length s.heap b = .ok (contents l).length ∧
    (contents l).length ≤ MAX_BUFSZ - 1 + BLKSZ

theorem Flow.relayed (hf : Flow es s src dst b l) : Relayed es s src dst b := by
  have hlist := hf.queue.list
  refine ⟨l, hlist, hf.conserved, hf.queue.spans, ?_, hlist.last, buf_length_spec hf.queue, hf.bound⟩
  rw [hlist.head_eq_none_iff, hlist.tail_eq_none_iff]

/-- **The relay is faithful**: at every loop head, in both directions, the bytes written and then the
bytes queued are the bytes read. -/
theorem relay_faithful (h : Run (ofFun step) start es s) (hpc : s.pc = .top) :
    Relayed es s .stdin .child_stdin s.buf0 ∧ Relayed es s .child_stdout .stdout s.buf1 := by
  obtain ⟨hfault, _⟩ | ⟨l0, l1, hr⟩ := relayInv_of_run h
  · rw [hpc] at hfault
    exact absurd hfault nofun
  · exact ⟨hr.inward.relayed, hr.outward.relayed⟩

/-- Two rounds of the loop: 2 bytes of fd 0 and 3 of the child's output are read, all of the former
and one of the latter are written. -/
def twoRounds : List Event :=
  [.child_write [2, 2, 2], .tau, .tau, .tau,
    .select {.child_stdout, .stdin} ∅ (some ({.child_stdout, .stdin}, ∅)),
    .read .stdin (.data 2 (Vector.replicate BLKSZ 1) (some 0)),
    .read .child_stdout (.data 3 (Vector.replicate BLKSZ 2) (some 1)), .tau, .tau,
    .tau, .tau, .tau,
    .select {.child_stdout, .stdin} {.child_stdin, .stdout} (some (∅, {.child_stdin, .stdout})),
    .tau, .tau, .write .stdout [2], .tau, .write .child_stdin [1, 1]]

theorem relay_faithful_rounds : ∃ s, Run (ofFun step) start twoRounds s ∧ s.pc = .top ∧
    Relayed twoRounds s .stdin .child_stdin s.buf0 ∧
    Relayed twoRounds s .child_stdout .stdout s.buf1 := by
  have hexec : (exec step start twoRounds).any (fun s => decide (s.pc = .top)) = true := by
    decide +kernel
  obtain ⟨s, hs, hpc⟩ := (Option.any_eq_true _ _).mp hexec
  have hrun := run_of_exec hs
  have htop : s.pc = .top := by simpa using hpc
  exact ⟨s, hrun, htop, relay_faithful hrun htop⟩

end SimpleSshd.BufferSu
