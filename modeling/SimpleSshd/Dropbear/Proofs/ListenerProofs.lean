import SimpleSshd.Dropbear.Proofs.TcpFwdProofs

/-!
# Proofs: a listener that cannot be created

When there are too many listeners, `new_listener` is to close the sockets that it was given. It closes
the descriptor at an index behind the end of the array instead, once for each socket. So it leaves no
trace only if the table has room, or if there were no sockets.
-/

namespace SimpleSshd.Dropbear

open Descriptors Slots

variable {s : Forwarding} {socks : CArray} {type : Nat} {typedata tcpinfo : TCPListener} {env : FwdEnv}
  {bound : Bound}

/-! ## The table is full -/

/-- There are too many listeners. -/
def Forwarding.Full (s : Forwarding) : Prop :=
  (firstFree s.listeners).isNone = true ∧ s.listeners.length > MAX_LISTENERS

instance Forwarding.decidableFull (s : Forwarding) : Decidable s.Full :=
  inferInstanceAs (Decidable (_ ∧ _))

/-- `new_listener`, with an array that is somewhere in memory. -/
def Forwarding.create (s : Forwarding) (socks : CArray) (type : Nat) (typedata : TCPListener) :
    Option Nat × Forwarding :=
  s.new_listener socks.elems type typedata (socks.read s.listeners.length)

theorem new_listener_full (h : s.Full) (socks : List Nat) (type : Nat) (typedata : TCPListener)
    (overread : Nat) :
    s.new_listener socks type typedata overread =
      (none, (List.replicate socks.length overread).foldl Forwarding.close s) := by
  have hrounds : ∀ (l : List Nat) (s : Forwarding), l.foldl (fun s _ => s.close overread) s =
      (List.replicate l.length overread).foldl Forwarding.close s := by
    intro l
    induction l with
    | nil =>
      intro s
      rfl
    | cons _ l ih =>
      intro s
      exact ih (s.close overread)
  unfold Forwarding.Full at h
  rw [Forwarding.new_listener, if_pos h, hrounds]

/-- Each round reads the index behind the last slot of the table. -/
theorem calls_full (h : s.Full) (socks : CArray) :
    s.new_listener_calls socks =
      { reads := List.replicate socks.elems.length s.listeners.length
        closed := List.replicate socks.elems.length (socks.read s.listeners.length) } := by
  have hnone : firstFree s.listeners = none := Option.isNone_iff_eq_none.mp h.1
  unfold Forwarding.Full at h
  unfold Forwarding.new_listener_calls
  simp only
  rw [if_pos h, hnone]
  simp [List.map_const']

/-- **A listener that cannot be created closes the descriptors of its calls**, and nothing else
happens. -/
theorem create_full (h : s.Full) :
    s.create socks type typedata =
      (none, (s.new_listener_calls socks).closed.foldl Forwarding.close s) := by
  rw [calls_full h, Forwarding.create, new_listener_full h]

/-! ## The table has room -/

theorem calls_room (h : ¬ s.Full) (socks : CArray) :
    s.new_listener_calls socks = { reads := List.range socks.elems.length, closed := [] } :=
  if_neg h

/-- Then there is a new listener, in a slot that was free. -/
theorem new_listener_room (h : ¬ s.Full) (socks : List Nat) (type : Nat) (typedata : TCPListener)
    (overread : Nat) :
    ∃ i, (s.new_listener socks type typedata overread).1 = some i ∧ lookup s.listeners i = none ∧
      (s.new_listener socks type typedata overread).2.fds = s.fds := by
  obtain ⟨-, hfree, hsame, -⟩ := alloc_spec (show 0 < LISTENER_EXTEND_SIZE by decide) s.listeners
  unfold Forwarding.Full at h
  refine ⟨(alloc LISTENER_EXTEND_SIZE s.listeners).2, ?_, (hsame _).symm.trans hfree, ?_⟩
  · rw [Forwarding.new_listener, if_neg h]
  · rw [Forwarding.new_listener, if_neg h]

theorem create_room (h : ¬ s.Full) :
    ∃ i, (s.create socks type typedata).1 = some i ∧ lookup s.listeners i = none ∧
      (s.create socks type typedata).2.fds = s.fds :=
  new_listener_room h socks.elems type typedata (socks.read s.listeners.length)

/-! ## Failures that leave no trace -/

/-- The sockets are closed, each of them once, no other index is read, and the table is as it was. -/
structure CleanFailure (s : Forwarding) (socks : CArray) (type : Nat) (typedata : TCPListener) : Prop where
  closed : (s.new_listener_calls socks).closed.Perm socks.elems
  inside : ∀ k ∈ (s.new_listener_calls socks).reads, k < socks.elems.length
  table : (s.create socks type typedata).2.listeners = s.listeners

/-- The table is never changed by a failure. -/
theorem create_table (h : (s.create socks type typedata).1 = none) :
    (s.create socks type typedata).2.listeners = s.listeners := by
  by_cases hfull : s.Full
  · rw [create_full hfull]
    exact (close_all _ s).1
  · obtain ⟨i, hsome, -⟩ := create_room hfull
    cases h.symm.trans hsome

theorem cleanFailure (h : ¬ s.Full ∨ socks.elems = [])
    (hnone : (s.create socks type typedata).1 = none) : CleanFailure s socks type typedata := by
  by_cases hfull : s.Full
  · have hnil : socks.elems = [] := h.resolve_left fun hroom => hroom hfull
    refine ⟨?_, ?_, create_table hnone⟩
    · rw [calls_full hfull, hnil]
      exact List.Perm.nil
    · rw [calls_full hfull, hnil]
      exact List.forall_mem_nil _
  · obtain ⟨i, hsome, -⟩ := create_room hfull
    cases hnone.symm.trans hsome

/-- **The condition is exact** for sockets that are different from one another. -/
theorem cleanFailure_iff (hnodup : socks.elems.Nodup) :
    ((s.create socks type typedata).1 = none → CleanFailure s socks type typedata) ↔
      ¬ s.Full ∨ socks.elems = [] := by
  constructor
  · intro hclean
    by_cases hfull : s.Full
    · obtain ⟨hclosed, hinside, -⟩ := hclean (by rw [create_full hfull])
      rw [calls_full hfull] at hclosed hinside
      have hmany := hfull.2
      have honce : socks.elems.length ≤ 1 := by
        have hnodup' := hclosed.nodup_iff.mpr hnodup
        exact List.nodup_replicate.mp hnodup'
      by_cases hnil : socks.elems = []
      · exact .inr hnil
      · have hlen := List.length_pos_iff.mpr hnil
        have hlt := hinside s.listeners.length (List.mem_replicate.mpr ⟨by omega, rfl⟩)
        omega
    · exact .inl hfull
  · intro h hnone
    exact cleanFailure h hnone

/-! ## Forwards that fail -/

theorem full_listen (bound : Bound) (n : Numbering) : (s.dropbear_listen bound n).2.Full ↔ s.Full := by
  unfold Forwarding.Full
  rw [(dropbear_listen_spec s bound n).1]

/-- While the table has room, a forward fails only if nothing can be bound. -/
theorem listen_tcpfwd_room (h : ¬ s.Full) (hnone : (s.listen_tcpfwd tcpinfo env).1 = none) :
    (s.listen_tcpfwd tcpinfo env).2 = s := by
  unfold Forwarding.listen_tcpfwd at hnone ⊢
  cases hlisten : env.listen with
  | none => rfl
  | some bound =>
    have hroom : ¬ (s.dropbear_listen bound env.numbering).2.Full := by
      rw [full_listen]
      exact h
    obtain ⟨i, hsome, -⟩ := new_listener_room hroom (s.dropbear_listen bound env.numbering).1
      CHANNEL_ID_TCPFORWARDED tcpinfo env.overread
    rw [hlisten] at hnone
    dsimp only at hnone
    generalize (s.dropbear_listen bound env.numbering).2.new_listener _ _ _ _ = r at hnone hsome
    obtain ⟨slot, s'⟩ := r
    cases hsome
    cases hnone

/-- **On a full table a forward fails and keeps its sockets**: what is closed is a descriptor that
happens to be found behind the array. -/
theorem listen_tcpfwd_full (tcpinfo : TCPListener) (env : FwdEnv) (h : s.Full)
    (hlisten : env.listen = some bound) :
    (s.listen_tcpfwd tcpinfo env).1 = none ∧
      ∀ fd, fd ∈ (s.listen_tcpfwd tcpinfo env).2.fds ↔
        fd ∈ (s.dropbear_listen bound env.numbering).2.fds ∧ fd ≠ env.overread := by
  have hfull := (full_listen bound env.numbering).mpr h
  have hsocks : (s.dropbear_listen bound env.numbering).1.length ≠ 0 := by
    unfold Forwarding.dropbear_listen
    split_ifs
    · simp
    · simp
  unfold Forwarding.listen_tcpfwd
  rw [hlisten]
  dsimp only
  rw [new_listener_full hfull]
  refine ⟨rfl, ?_⟩
  intro fd
  rw [(close_all _ _).2.2, List.mem_replicate]
  simp [hsocks]

/-- **A listener that cannot be created leaves no trace if the table has room, where this does not
happen, or if it has no sockets; and a forward that fails on a table with room changes nothing.** -/
theorem failed_listener_clean (s : Forwarding) (socks : CArray) (type : Nat) (typedata : TCPListener)
    (h : ¬ s.Full ∨ socks.elems = []) :
    ((s.create socks type typedata).1 = none → CleanFailure s socks type typedata) ∧
      (¬ s.Full → (∃ i, (s.create socks type typedata).1 = some i ∧ lookup s.listeners i = none) ∧
        (s.new_listener_calls socks).closed = [] ∧
        ∀ tcpinfo env, (s.listen_tcpfwd tcpinfo env).1 = none →
          (s.listen_tcpfwd tcpinfo env).2 = s) := by
  constructor
  · intro hnone
    exact cleanFailure h hnone
  · intro hroom
    obtain ⟨i, hsome, hfree, -⟩ := create_room hroom
    refine ⟨⟨i, hsome, hfree⟩, ?_, ?_⟩
    · rw [calls_room hroom]
    · intro tcpinfo env hnone
      exact listen_tcpfwd_room hroom hnone

/-- A forward to a port. -/
def forwardTo (port : Nat) : TCPListener :=
  { listenaddr := none, listenport := port, request_listenaddr := [], chantype := .svr_chan_tcpremote }

theorem failed_listener_clean_first :
    ∃ i, (listeners_initialise.create ⟨[3], fun _ => 0⟩ CHANNEL_ID_TCPFORWARDED (forwardTo 2222)).1 =
      some i ∧ lookup listeners_initialise.listeners i = none := by
  have hroom : ¬ listeners_initialise.Full := by decide
  exact ((failed_listener_clean listeners_initialise ⟨[3], fun _ => 0⟩ CHANNEL_ID_TCPFORWARDED
    (forwardTo 2222) (.inl hroom)).2 hroom).1

/-- As many forwards as there can be. -/
def allForwards : List FwdEvent := (List.range 21).map fun k => forwards "10.0.0.1" (2222 + k)

/-- **When all the listeners are in use, one more forward fails, its socket stays open, and the socket of
another listener is closed**, if that is the number behind the array. -/
theorem full_table_leaks : ∃ s l, FwdRun { listen_fwd_all := true } allForwards s ∧
    lookup s.listeners 0 = some l ∧ l.socks = [0] ∧
      ∃ sock s', s.listen_tcpfwd (forwardTo 2300) { listen := some { port := 2300 }, overread := 0 } =
          (none, s') ∧
        sock ∉ s.fds ∧ sock ∈ s'.fds ∧ 0 ∈ s.fds ∧ 0 ∉ s'.fds ∧
        s.new_listener_calls ⟨[sock], fun _ => 0⟩ = { reads := [21], closed := [0] } := by
  have hexec : (runForwarding { listen_fwd_all := true } allForwards).any (fun s =>
      decide s.Full && decide (s.listeners.length = 21) && decide (0 ∈ s.fds) &&
        (lookup s.listeners 0).any fun l => decide (l.socks = [0])) = true := by
    decide +kernel
  obtain ⟨s, hrun, htest⟩ := (Option.any_eq_true _ _).mp hexec
  simp only [Bool.and_eq_true, decide_eq_true_eq] at htest
  obtain ⟨⟨⟨hfull, hsize⟩, hopen⟩, hfirst⟩ := htest
  obtain ⟨l, hslot, hsocks⟩ := (Option.any_eq_true _ _).mp hfirst
  let env : FwdEnv := { listen := some { port := 2300 }, overread := 0 }
  let sock := number s.fds [] env.numbering
  obtain ⟨hnone, hfds⟩ := listen_tcpfwd_full (forwardTo 2300) env hfull rfl
  obtain ⟨-, hfresh, -⟩ := dropbear_listen_spec s { port := 2300 } env.numbering
  obtain ⟨hnew, hkept⟩ := hfresh sock List.mem_cons_self
  refine ⟨s, l, Runs.run_of_exec hrun, hslot, of_decide_eq_true hsocks, sock,
    (s.listen_tcpfwd (forwardTo 2300) env).2, Prod.ext hnone rfl, hnew, ?_, hopen, ?_, ?_⟩
  · exact (hfds sock).mpr ⟨hkept, (ne_number hopen).symm⟩
  · intro hmem
    exact ((hfds 0).mp hmem).2 rfl
  · rw [calls_full hfull, hsize]
    rfl

end SimpleSshd.Dropbear
