import SimpleSshd.Dropbear.TcpFwd
import SimpleSshd.Dropbear.Proofs.BufferProofs

/-!
# Proofs: forwards and the answers to global requests

The loop of `get_listener` looks at the first slot in every round. So a forward is found only there, and
a request to cancel one ends the process if that slot is empty, or if the forward in it has no address.
The answers to requests have gaps of their own: none is sent while forwarding is disabled, and one is
always sent for a forward that succeeds.
-/

namespace SimpleSshd.Dropbear

open Descriptors Fallible Slots

variable {opts : FwdOpts} {s s' : Forwarding} {l : Listener} {i fd port : Nat} {addr : Bytes}

/-! ## Looking for a listener -/

section GetListener

variable {type : Nat} {matches_ : TCPListener → Except Exit Bool}

theorem get_listener_loop_found (htype : l.type = type) (h : matches_ l.typedata = .ok true) (n : Nat) :
    get_listener_loop (some l) type matches_ (n + 1) = .ok (some l) := by
  simp [get_listener_loop, htype, h]

/-- All rounds are the same. -/
theorem get_listener_loop_missed (htype : l.type = type) (h : matches_ l.typedata = .ok false) (n : Nat) :
    get_listener_loop (some l) type matches_ n = .ok none := by
  induction n with
  | zero => rfl
  | succ n ih => simp [get_listener_loop, htype, h, ih]

theorem get_listener_loop_error {e : Exit} (htype : l.type = type)
    (h : matches_ l.typedata = .error e) (n : Nat) :
    get_listener_loop (some l) type matches_ (n + 1) = .error e := by
  rw [get_listener_loop, if_neg (not_not_intro htype), h]
  rfl

theorem get_listener_loop_type (htype : l.type ≠ type) (n : Nat) :
    get_listener_loop (some l) type matches_ n = .ok none := by
  induction n with
  | zero => rfl
  | succ n ih => rw [get_listener_loop, if_pos htype, ih]

end GetListener

/-- A null pointer is dereferenced: the first slot is empty, or its forward agrees with the request in all
that is compared before the address, which it does not have. -/
def Forwarding.CancelFaults (s : Forwarding) (port : Nat) (chantype : Option ChanType) : Prop :=
  0 < s.listeners.length ∧ ∀ l, lookup s.listeners 0 = some l → l.type = CHANNEL_ID_TCPFORWARDED ∧
    l.typedata.listenport = port ∧ chantype = some l.typedata.chantype ∧ l.typedata.listenaddr = none

theorem get_listener_faults {chantype : Option ChanType} (addr : Bytes) (h : s.CancelFaults port chantype) :
    s.get_listener CHANNEL_ID_TCPFORWARDED (matchtcp (some (cstr addr)) port chantype) =
      .error .fault := by
  obtain ⟨hsize, hfirst⟩ := h
  obtain ⟨n, hn⟩ := Nat.exists_eq_add_one_of_ne_zero (Nat.ne_of_gt hsize)
  rw [Forwarding.get_listener, hn]
  cases hslot : lookup s.listeners 0 with
  | none => rfl
  | some l =>
    obtain ⟨htype, hport, hchantype, haddr⟩ := hfirst l hslot
    apply get_listener_loop_error htype
    rw [matchtcp, if_neg (by simp [hport]), if_neg (by simp [hchantype]), haddr]
    rfl

/-- Otherwise the lookup returns. -/
theorem get_listener_returns {chantype : Option ChanType} (addr : Bytes) (h : ¬ s.CancelFaults port chantype) :
    ∃ r, s.get_listener CHANNEL_ID_TCPFORWARDED (matchtcp (some (cstr addr)) port chantype) =
      .ok r := by
  rw [Forwarding.get_listener]
  cases hn : s.listeners.length with
  | zero => exact ⟨none, rfl⟩
  | succ n =>
    have hsize : 0 < s.listeners.length := by omega
    cases hslot : lookup s.listeners 0 with
    | none =>
      refine absurd ⟨hsize, ?_⟩ h
      intro l hl
      rw [hslot] at hl
      cases hl
    | some l =>
      by_cases htype : l.type = CHANNEL_ID_TCPFORWARDED
      · cases hmatch : matchtcp (some (cstr addr)) port chantype l.typedata with
        | ok found =>
          cases found with
          | true => exact ⟨_, get_listener_loop_found htype hmatch n⟩
          | false => exact ⟨_, get_listener_loop_missed htype hmatch (n + 1)⟩
        | error e =>
          refine absurd ⟨hsize, ?_⟩ h
          intro l' hl'
          obtain rfl : l = l' := Option.some.inj (hslot.symm.trans hl')
          unfold matchtcp at hmatch
          split_ifs at hmatch with hport hchantype
          · cases hmatch
          · cases hmatch
          · refine ⟨htype, (not_not.mp hport).symm, not_not.mp hchantype, ?_⟩
            cases haddr : l.typedata.listenaddr with
            | none => rfl
            | some a =>
              rw [haddr] at hmatch
              cases hmatch
      · exact ⟨none, get_listener_loop_type htype (n + 1)⟩

/-! ## Closing and opening -/

theorem close_all (socks : List Nat) (s : Forwarding) :
    (socks.foldl Forwarding.close s).listeners = s.listeners ∧
      (socks.foldl Forwarding.close s).submitted = s.submitted ∧
      ∀ fd, fd ∈ (socks.foldl Forwarding.close s).fds ↔ fd ∈ s.fds ∧ fd ∉ socks := by
  induction socks generalizing s with
  | nil => simp
  | cons sock socks ih =>
    obtain ⟨hlisteners, hsubmitted, hfds⟩ := ih (s.close sock)
    refine ⟨hlisteners, hsubmitted, ?_⟩
    intro fd
    rw [List.foldl_cons, hfds, Forwarding.close, AList.mem_erase, List.mem_cons, not_or]
    tauto

theorem listeners_remove (s : Forwarding) (l : Listener) :
    (s.remove_listener l).listeners = clear s.listeners l.index := by
  rw [Forwarding.remove_listener, (close_all l.socks s).1]

theorem mem_fds_remove (s : Forwarding) (l : Listener) :
    fd ∈ (s.remove_listener l).fds ↔ fd ∈ s.fds ∧ fd ∉ l.socks :=
  (close_all l.socks s).2.2 fd

/-- The sockets of a new listener are new. -/
theorem dropbear_listen_spec (s : Forwarding) (bound : Bound) (n : Numbering) :
    (s.dropbear_listen bound n).2.listeners = s.listeners ∧
      (∀ fd ∈ (s.dropbear_listen bound n).1, fd ∉ s.fds ∧ fd ∈ (s.dropbear_listen bound n).2.fds) ∧
      ∀ fd ∈ s.fds, fd ∈ (s.dropbear_listen bound n).2.fds := by
  have hsock := number_notMem s.fds [] n
  unfold Forwarding.dropbear_listen
  split_ifs with hboth
  · have hsock' := number_notMem (s.fds.insert (number s.fds [] n) bound.port) [] n
    simp only [AList.mem_insert, not_or, List.mem_cons, List.not_mem_nil, or_false] at hsock' ⊢
    refine ⟨trivial, ?_, ?_⟩
    · rintro fd (rfl | rfl)
      · exact ⟨hsock, .inr (.inl rfl)⟩
      · exact ⟨hsock'.2, .inl rfl⟩
    · intro fd hfd
      exact .inr (.inr hfd)
  · simp only [AList.mem_insert, List.mem_singleton]
    refine ⟨trivial, ?_, ?_⟩
    · rintro fd rfl
      exact ⟨hsock, .inl rfl⟩
    · intro fd hfd
      exact .inr hfd

/-- **A forward that succeeds** takes a free slot. -/
structure Entered (s : Forwarding) (tcpinfo : TCPListener) (port : Nat) (i : Nat) (l : Listener)
    (s' : Forwarding) : Prop where
  free : lookup s.listeners i = none
  slot : lookup s'.listeners i = some l
  others : ∀ j, j ≠ i → lookup s'.listeners j = lookup s.listeners j
  size : s.listeners.length ≤ s'.listeners.length
  index : l.index = i
  type : l.type = CHANNEL_ID_TCPFORWARDED
  typedata : l.typedata = { tcpinfo with listenport := port }
  fresh : ∀ fd ∈ l.socks, fd ∉ s.fds ∧ fd ∈ s'.fds
  kept : ∀ fd ∈ s.fds, fd ∈ s'.fds

theorem listen_tcpfwd_spec {tcpinfo : TCPListener} {env : FwdEnv}
    (h : s.listen_tcpfwd tcpinfo env = (some port, s')) : ∃ i l, Entered s tcpinfo port i l s' := by
  unfold Forwarding.listen_tcpfwd at h
  cases hlisten : env.listen with
  | none =>
    rw [hlisten] at h
    cases h
  | some bound =>
    obtain ⟨hlisteners, hfresh, hkept⟩ := dropbear_listen_spec s bound env.numbering
    obtain ⟨hlt, hfree, hsame, -⟩ :=
      alloc_spec (show 0 < LISTENER_EXTEND_SIZE by decide) s.listeners
    have hlonger := length_le_alloc LISTENER_EXTEND_SIZE s.listeners
    rw [hlisten] at h
    simp only [Forwarding.new_listener, hlisteners] at h
    generalize alloc LISTENER_EXTEND_SIZE s.listeners = table at h hlt hfree hsame hlonger
    obtain ⟨listeners, i⟩ := table
    split_ifs at h with hfull
    · cases h
    · obtain ⟨hport, rfl⟩ := Prod.mk.inj h
      obtain rfl := Option.some.inj hport
      refine ⟨i, _, (hsame i).symm.trans hfree, lookup_place_self ?_, ?_, ?_, rfl, rfl, rfl, hfresh,
        hkept⟩
      · rw [length_place]
        exact hlt
      · intro j hj
        exact (lookup_place_ne (Ne.symm hj)).trans ((lookup_place_ne (Ne.symm hj)).trans (hsame j))
      · show s.listeners.length ≤ (place (place _ i _) i _).length
        rw [length_place, length_place]
        exact hlonger

/-! ## The table of listeners -/

/-- What is in a slot. -/
structure Listener.Sound (l : Listener) (i : Nat) : Prop where
  index : l.index = i
  type : l.type = CHANNEL_ID_TCPFORWARDED
  chantype : l.typedata.chantype = .svr_chan_tcpremote
  /-- The address is the one in the request, if there is one. -/
  listenaddr : ∀ a, l.typedata.listenaddr = some a → a = l.typedata.request_listenaddr

structure FwdInv (s : Forwarding) : Prop where
  size : 0 < s.listeners.length
  sound : ∀ i l, lookup s.listeners i = some l → l.Sound i
  opened : ∀ i l, lookup s.listeners i = some l → ∀ fd ∈ l.socks, fd ∈ s.fds
  apart : ∀ i j l l', lookup s.listeners i = some l → lookup s.listeners j = some l' → i ≠ j →
    ∀ fd ∈ l.socks, fd ∉ l'.socks

theorem FwdInv.start : FwdInv listeners_initialise := by
  have hfree : ∀ i, lookup listeners_initialise.listeners i = none := by
    intro i
    cases i with
    | zero => rfl
    | succ i => rfl
  refine ⟨by decide, ?_, ?_, ?_⟩
  · intro i l h
    rw [hfree] at h
    cases h
  · intro i l h
    rw [hfree] at h
    cases h
  · intro i j l l' h
    rw [hfree] at h
    cases h

theorem FwdInv.entered {tcpinfo : TCPListener} (h : FwdInv s) (henter : Entered s tcpinfo port i l s')
    (hchantype : tcpinfo.chantype = .svr_chan_tcpremote)
    (haddr : ∀ a, tcpinfo.listenaddr = some a → a = tcpinfo.request_listenaddr) : FwdInv s' := by
  -- a slot has the new listener, or what it had before
  have hcases : ∀ {j l'}, lookup s'.listeners j = some l' →
      j = i ∧ l' = l ∨ lookup s.listeners j = some l' := by
    intro j l' hj
    by_cases hji : j = i
    · subst hji
      exact .inl ⟨rfl, Option.some.inj (hj.symm.trans henter.slot)⟩
    · exact .inr ((henter.others j hji).symm.trans hj)
  refine ⟨Nat.lt_of_lt_of_le h.size henter.size, ?_, ?_, ?_⟩
  · intro j l' hj
    rcases hcases hj with ⟨rfl, rfl⟩ | hold
    · refine ⟨henter.index, henter.type, ?_, ?_⟩
      · rw [henter.typedata]
        exact hchantype
      · rw [henter.typedata]
        exact haddr
    · exact h.sound j l' hold
  · intro j l' hj fd hfd
    rcases hcases hj with ⟨rfl, rfl⟩ | hold
    · exact (henter.fresh fd hfd).2
    · exact henter.kept fd (h.opened j l' hold fd hfd)
  · intro j k l' l'' hj hk hne fd hfd hfd'
    rcases hcases hj with ⟨rfl, rfl⟩ | hj
    · rcases hcases hk with ⟨rfl, rfl⟩ | hk
      · exact hne rfl
      · exact (henter.fresh fd hfd).1 (h.opened k l'' hk fd hfd')
    · rcases hcases hk with ⟨rfl, rfl⟩ | hk
      · exact (henter.fresh fd hfd').1 (h.opened j l' hj fd hfd)
      · exact h.apart j k l' l'' hj hk hne fd hfd hfd'

theorem FwdInv.removed (h : FwdInv s) (hslot : lookup s.listeners i = some l) :
    FwdInv (s.remove_listener l) := by
  have hindex := (h.sound i l hslot).index
  have hcases : ∀ {j l'}, lookup (s.remove_listener l).listeners j = some l' →
      i ≠ j ∧ lookup s.listeners j = some l' := by
    intro j l' hj
    rw [listeners_remove, hindex] at hj
    exact lookup_clear_eq_some hj
  refine ⟨?_, ?_, ?_, ?_⟩
  · rw [listeners_remove, length_clear]
    exact h.size
  · intro j l' hj
    exact h.sound j l' (hcases hj).2
  · intro j l' hj fd hfd
    obtain ⟨hne, hj⟩ := hcases hj
    exact (mem_fds_remove s l).mpr ⟨h.opened j l' hj fd hfd, h.apart j i l' l hj hslot hne.symm fd hfd⟩
  · intro j k l' l'' hj hk
    exact h.apart j k l' l'' (hcases hj).2 (hcases hk).2

/-- A request to cancel removes the listener in the first slot, or does nothing. -/
theorem get_listener_first {type : Nat} {matches_ : TCPListener → Except Exit Bool}
    (h : s.get_listener type matches_ = .ok (some l)) : lookup s.listeners 0 = some l := by
  have hloop : ∀ {first : Option Listener} {n : Nat},
      get_listener_loop first type matches_ n = .ok (some l) → first = some l := by
    intro first n hn
    induction n with
    | zero => cases hn
    | succ n ih =>
      cases first with
      | none => cases hn
      | some first =>
        rw [get_listener_loop] at hn
        split_ifs at hn with htype
        · exact ih hn
        · obtain ⟨found, -, hn⟩ := bind_eq_ok.mp hn
          split_ifs at hn with hfound
          · exact (pure_eq_ok _ _).mp hn
          · exact ih hn
  exact hloop h

theorem svr_cancelremotetcp_cases {payload : Buffer} {chantype : Option ChanType} {ret : Status}
    (h : s.svr_cancelremotetcp payload chantype = .ok (ret, s')) :
    s' = s ∨ ∃ l, lookup s.listeners 0 = some l ∧ s' = s.remove_listener l := by
  unfold Forwarding.svr_cancelremotetcp at h
  obtain ⟨⟨bindaddr, b⟩, -, h⟩ := bind_eq_ok.mp h
  dsimp only at h
  split_ifs at h with hlen
  · obtain ⟨-, rfl⟩ := Prod.mk.inj ((pure_eq_ok _ _).mp h)
    exact .inl rfl
  · obtain ⟨⟨port, b'⟩, -, h⟩ := bind_eq_ok.mp h
    obtain ⟨listener, hget, h⟩ := bind_eq_ok.mp h
    cases listener with
    | none =>
      obtain ⟨-, rfl⟩ := Prod.mk.inj ((pure_eq_ok _ _).mp h)
      exact .inl rfl
    | some l =>
      obtain ⟨-, rfl⟩ := Prod.mk.inj ((pure_eq_ok _ _).mp h)
      exact .inr ⟨l, get_listener_first hget, rfl⟩

theorem svr_remotetcpreq_success {payload : Buffer} {env : FwdEnv}
    (h : s.svr_remotetcpreq opts payload env = .ok (some port, s')) :
    ∃ tcpinfo i l, Entered s tcpinfo port i l s' ∧ tcpinfo.chantype = .svr_chan_tcpremote ∧
      ∀ a, tcpinfo.listenaddr = some a → a = tcpinfo.request_listenaddr := by
  unfold Forwarding.svr_remotetcpreq at h
  obtain ⟨⟨request_addr, b⟩, -, h⟩ := bind_eq_ok.mp h
  dsimp only at h
  split_ifs at h with hlen
  · cases h
  · obtain ⟨⟨port', b'⟩, -, h⟩ := bind_eq_ok.mp h
    dsimp only at h
    split_ifs at h with hbad hpriv
    · cases h
    · cases h
    · obtain ⟨i, l, henter⟩ := listen_tcpfwd_spec ((pure_eq_ok _ _).mp h)
      refine ⟨_, i, l, henter, rfl, ?_⟩
      intro a ha
      unfold FwdOpts.tcpinfo at ha
      split_ifs at ha with hlocal
      exact (Option.some.inj ha).symm

theorem FwdInv.step {e : FwdEvent} (h : FwdInv s) (hstep : stepForwarding opts s e = some s') :
    FwdInv s' := by
  cases e with
  | forward payload env =>
    simp only [stepForwarding] at hstep
    split at hstep
    · rename_i port s₁ hreq
      cases hstep
      obtain ⟨tcpinfo, i, l, henter, hchantype, haddr⟩ := svr_remotetcpreq_success hreq
      exact h.entered henter hchantype haddr
    · cases hstep
  | cancel payload chantype =>
    obtain ⟨⟨ret, s₁⟩, hcancel, rfl⟩ := Option.map_eq_some_iff.mp hstep
    rcases svr_cancelremotetcp_cases (toOption_eq_some hcancel) with rfl | ⟨l, hslot, rfl⟩
    · exact h
    · exact h.removed hslot
  | remove i =>
    obtain ⟨l, hslot, rfl⟩ := Option.map_eq_some_iff.mp hstep
    exact h.removed hslot

theorem FwdInv.run {es : List FwdEvent} (h : FwdRun opts es s) : FwdInv s :=
  Runs.Run.invariant (fun _ _ _ hinv hstep => hinv.step hstep) h FwdInv.start

/-! ## Cancelling -/

/-- The address and the port of a request. -/
def Carries (payload : Buffer) (addr : Bytes) (port : Nat) : Prop :=
  ∃ b b', buf_getstring payload = .ok (addr, b) ∧ buf_getint b = .ok (port, b')

/-- The listener in slot `i` is that of a forward which was requested with this address and has this
port. -/
def Forwarding.Active (s : Forwarding) (addr : Bytes) (port i : Nat) (l : Listener) : Prop :=
  lookup s.listeners i = some l ∧ l.typedata.request_listenaddr = cstr addr ∧
    l.typedata.listenport = port

/-- `svr_cancelremotetcp` in terms of its lookup. -/
theorem svr_cancelremotetcp_eq {payload : Buffer} {chantype : Option ChanType}
    (hread : Carries payload addr port) (hlen : addr.length ≤ MAX_IP_LEN) :
    s.svr_cancelremotetcp payload chantype =
      s.get_listener CHANNEL_ID_TCPFORWARDED (matchtcp (some (cstr addr)) port chantype) >>= fun
        | some l => pure (DROPBEAR_SUCCESS, s.remove_listener l)
        | none => pure (DROPBEAR_FAILURE, s) := by
  obtain ⟨b, b', hstring, hint⟩ := hread
  rw [Forwarding.svr_cancelremotetcp, hstring, ok_bind]
  dsimp only
  rw [if_neg (Nat.not_lt.mpr hlen), hint]
  rfl

/-- What makes a request to cancel work: the first slot is in use, and if the port is that of the forward
in it, then so is the address, which was not left out, and the uninitialised pointer has the right value.
No other slot has the forward. -/
structure Cancellable (s : Forwarding) (addr : Bytes) (port : Nat) (chantype : Option ChanType) :
    Prop where
  first : ∃ l, lookup s.listeners 0 = some l ∧ (l.typedata.listenport = port →
    l.typedata.listenaddr = some (cstr addr) ∧ chantype = some .svr_chan_tcpremote)
  only : ∀ i l, s.Active addr port i l → i = 0

/-- **Remote forwarding is a map**, as far as `get_listener` looks: a request to cancel removes exactly the
forward that it names, and without such a forward it changes nothing. -/
theorem cancel_removes {es : List FwdEvent} {payload : Buffer} {chantype : Option ChanType}
    (hrun : FwdRun opts es s) (hread : Carries payload addr port) (hlen : addr.length ≤ MAX_IP_LEN)
    (hworks : Cancellable s addr port chantype) :
    (∀ i l, s.Active addr port i l →
      ∃ s', s.svr_cancelremotetcp payload chantype = .ok (DROPBEAR_SUCCESS, s') ∧
        (∀ fd ∈ l.socks, fd ∉ s'.fds) ∧ lookup s'.listeners i = none ∧
        ∀ j, j ≠ i → lookup s'.listeners j = lookup s.listeners j ∧
          ∀ l', lookup s.listeners j = some l' → ∀ fd ∈ l'.socks, fd ∈ s'.fds) ∧
      ((∀ i l, ¬ s.Active addr port i l) →
        ∀ chantype', s.svr_cancelremotetcp payload chantype' = .ok (DROPBEAR_FAILURE, s)) := by
  have hinv := FwdInv.run hrun
  obtain ⟨l₀, hslot, hport⟩ := hworks.first
  have hsound := hinv.sound 0 l₀ hslot
  obtain ⟨n, hn⟩ := Nat.exists_eq_add_one_of_ne_zero (Nat.ne_of_gt hinv.size)
  constructor
  · intro i l hactive
    obtain rfl := hworks.only i l hactive
    obtain ⟨hl, haddr, hlport⟩ := hactive
    obtain rfl : l₀ = l := Option.some.inj (hslot.symm.trans hl)
    obtain ⟨hlistenaddr, hchantype⟩ := hport hlport
    have hmatch : matchtcp (some (cstr addr)) port chantype l₀.typedata = .ok true := by
      rw [matchtcp, if_neg (by simp [hlport]), hchantype, hsound.chantype, if_neg (by simp),
        hlistenaddr]
      simp [strcmp, pure, Except.pure]
    refine ⟨s.remove_listener l₀, ?_, ?_, ?_, ?_⟩
    · rw [svr_cancelremotetcp_eq hread hlen, Forwarding.get_listener, hslot, hn,
        get_listener_loop_found hsound.type hmatch]
      rfl
    · intro fd hfd hopen
      exact ((mem_fds_remove s l₀).mp hopen).2 hfd
    · rw [listeners_remove, hsound.index, lookup_clear_self]
    · intro j hj
      constructor
      · rw [listeners_remove, hsound.index, lookup_clear_ne (Ne.symm hj)]
      · intro l' hl' fd hfd
        exact (mem_fds_remove s l₀).mpr ⟨hinv.opened j l' hl' fd hfd,
          hinv.apart j 0 l' l₀ hl' hslot hj fd hfd⟩
  · intro hnone chantype'
    have hother : port ≠ l₀.typedata.listenport := by
      intro heq
      have haddr := hsound.listenaddr _ (hport heq.symm).1
      exact hnone 0 l₀ ⟨hslot, haddr.symm, heq.symm⟩
    have hmatch : matchtcp (some (cstr addr)) port chantype' l₀.typedata = .ok false := by
      rw [matchtcp, if_pos hother]
      rfl
    rw [svr_cancelremotetcp_eq hread hlen, Forwarding.get_listener, hslot,
      get_listener_loop_missed hsound.type hmatch]
    rfl

/-- The arguments of a request. -/
def fwdPayload (addr : String) (port : Nat) : Buffer :=
  Buffer.full ((putstring (ascii addr) ++ Framing.be32 port).take BUF_MAX_SIZE)
    (List.length_take_le _ _)

def forwards (addr : String) (port : Nat) : FwdEvent :=
  .forward (fwdPayload addr port) { listen := some { port } }

theorem cancel_removes_forwards : ∃ s l s', FwdRun { listen_fwd_all := true } [forwards "10.0.0.1" 2222] s ∧
    s.Active (ascii "10.0.0.1") 2222 0 l ∧
      s.svr_cancelremotetcp (fwdPayload "10.0.0.1" 2222) (some .svr_chan_tcpremote) =
        .ok (DROPBEAR_SUCCESS, s') ∧ lookup s'.listeners 0 = none ∧ ∀ fd ∈ l.socks, fd ∉ s'.fds := by
  have hexec : (runForwarding { listen_fwd_all := true } [forwards "10.0.0.1" 2222]).any (fun s =>
      decide (s.listeners.length = 1) && (lookup s.listeners 0).any fun l =>
        decide (l.typedata = {
          listenaddr := some (ascii "10.0.0.1")
          listenport := 2222
          request_listenaddr := ascii "10.0.0.1"
          chantype := .svr_chan_tcpremote })) = true := by
    decide +kernel
  obtain ⟨s, hrun, htest⟩ := (Option.any_eq_true _ _).mp hexec
  obtain ⟨hsize, htest⟩ := Bool.and_eq_true_iff.mp htest
  obtain ⟨l, hslot, hl⟩ := (Option.any_eq_true _ _).mp htest
  have hdata := of_decide_eq_true hl
  have hactive : s.Active (ascii "10.0.0.1") 2222 0 l := by
    refine ⟨hslot, ?_, ?_⟩
    · rw [hdata]
      decide
    · rw [hdata]
  have hworks : Cancellable s (ascii "10.0.0.1") 2222 (some .svr_chan_tcpremote) := by
    refine ⟨⟨l, hslot, ?_⟩, ?_⟩
    · intro _
      rw [hdata]
      exact ⟨by decide, rfl⟩
    · intro i l' hi
      have hlt := lt_of_lookup hi.1
      rw [of_decide_eq_true hsize] at hlt
      omega
  obtain ⟨hfound, -⟩ := cancel_removes (Runs.run_of_exec hrun)
    (show Carries (fwdPayload "10.0.0.1" 2222) (ascii "10.0.0.1") 2222 from ⟨_, _, rfl, rfl⟩)
    (by decide) hworks
  obtain ⟨s', hcancel, hclosed, hfree, -⟩ := hfound 0 l hactive
  exact ⟨s, l, s', Runs.run_of_exec hrun, hactive, hcancel, hfree, hclosed⟩

/-- **A forward is not always found**: not in the second slot; and the process ends if there is no forward,
or one that only accepts local connections. -/
theorem cancel_misses :
    (∃ s l s', FwdRun { listen_fwd_all := true } [forwards "10.0.0.1" 2222, forwards "10.0.0.1" 2223] s ∧
      s.Active (ascii "10.0.0.1") 2223 1 l ∧
      s.svr_cancelremotetcp (fwdPayload "10.0.0.1" 2223) (some .svr_chan_tcpremote) =
        .ok (DROPBEAR_FAILURE, s')) ∧
      listeners_initialise.svr_cancelremotetcp (fwdPayload "10.0.0.1" 2222) none = .error .fault ∧
      ∃ s l, FwdRun {} [forwards "10.0.0.1" 2222] s ∧ s.Active (ascii "10.0.0.1") 2222 0 l ∧
        s.svr_cancelremotetcp (fwdPayload "10.0.0.1" 2222) (some .svr_chan_tcpremote) =
          .error .fault := by
  refine ⟨?_, rfl, ?_⟩
  · have hexec : (runForwarding { listen_fwd_all := true }
        [forwards "10.0.0.1" 2222, forwards "10.0.0.1" 2223]).any (fun s =>
        ((lookup s.listeners 1).any fun l =>
          decide (l.typedata.request_listenaddr = cstr (ascii "10.0.0.1")) &&
            decide (l.typedata.listenport = 2223)) &&
          okAnd (s.svr_cancelremotetcp (fwdPayload "10.0.0.1" 2223) (some .svr_chan_tcpremote))
            fun r => decide (r.1 = DROPBEAR_FAILURE)) = true := by
      decide +kernel
    obtain ⟨s, hrun, htest⟩ := (Option.any_eq_true _ _).mp hexec
    obtain ⟨hslot, hcancel⟩ := Bool.and_eq_true_iff.mp htest
    obtain ⟨l, hl, hdata⟩ := (Option.any_eq_true _ _).mp hslot
    obtain ⟨haddr, hport⟩ := Bool.and_eq_true_iff.mp hdata
    obtain ⟨⟨ret, s'⟩, hok, hret⟩ := okAnd_eq_true.mp hcancel
    obtain rfl : ret = DROPBEAR_FAILURE := of_decide_eq_true hret
    exact ⟨s, l, s', Runs.run_of_exec hrun, ⟨hl, of_decide_eq_true haddr, of_decide_eq_true hport⟩, hok⟩
  · have hexec : (runForwarding {} [forwards "10.0.0.1" 2222]).any (fun s =>
        decide (s.listeners.length = 1) && (lookup s.listeners 0).any fun l =>
          decide (l.type = CHANNEL_ID_TCPFORWARDED ∧ l.typedata = {
            listenaddr := none
            listenport := 2222
            request_listenaddr := ascii "10.0.0.1"
            chantype := .svr_chan_tcpremote })) = true := by
      decide +kernel
    obtain ⟨s, hrun, htest⟩ := (Option.any_eq_true _ _).mp hexec
    obtain ⟨hsize, htest⟩ := Bool.and_eq_true_iff.mp htest
    obtain ⟨l, hslot, hl⟩ := (Option.any_eq_true _ _).mp htest
    obtain ⟨htype, hdata⟩ := of_decide_eq_true hl
    have hfaults : s.CancelFaults 2222 (some .svr_chan_tcpremote) := by
      refine ⟨by rw [of_decide_eq_true hsize]; decide, ?_⟩
      intro l' hl'
      obtain rfl : l = l' := Option.some.inj (hslot.symm.trans hl')
      simp [htype, hdata]
    refine ⟨s, l, Runs.run_of_exec hrun, ⟨hslot, ?_, ?_⟩, ?_⟩
    · rw [hdata]
      decide
    · rw [hdata]
    · rw [svr_cancelremotetcp_eq (show Carries _ (ascii "10.0.0.1") 2222 from ⟨_, _, rfl, rfl⟩)
        (by decide), get_listener_faults _ hfaults]
      rfl

/-! ## Answers -/

/-- The name of a request and whether an answer is wanted; `rest` has the arguments. -/
def Requests (payload : Buffer) (reqname : Bytes) (wantreply : Bool) (rest : Buffer) : Prop :=
  ∃ b, buf_getstring payload = .ok (reqname, b) ∧ buf_getbool b = .ok (wantreply, rest)

/-- Remote forwarding is disabled, by an option of the server or of the key. -/
def FwdOpts.Disabled (opts : FwdOpts) : Prop :=
  opts.noremotetcp = true ∨ svr_pubkey_allows_tcpfwd opts.pubkey_options = false

/-- A name that is not too long for the request with this name. -/
def Names (reqname : Bytes) (name : String) : Prop :=
  reqname.length ≤ MAX_NAME_LEN ∧ cstr reqname = ascii name

/-- The requests that are not answered as they should be. -/
inductive OutOfStep (opts : FwdOpts) (s : Forwarding) (env : FwdEnv) (reqname : Bytes)
    (wantreply : Bool) (rest : Buffer) : Prop
  /-- An answer is wanted and not sent, because forwarding is disabled. -/
  | disabled (h : opts.Disabled) (hwant : wantreply = true)
  /-- A forward succeeds, and this is reported although no answer is wanted. -/
  | forwarded (h : ¬ opts.Disabled) (hname : Names reqname "tcpip-forward") (hwant : wantreply = false)
      (hsuccess : ∃ port s', s.svr_remotetcpreq opts rest env = .ok (some port, s'))
  /-- The process ends while it looks for the forward. -/
  | cancelled (h : ¬ opts.Disabled) (hname : Names reqname "cancel-tcpip-forward")
      (hfaults : ∃ addr port, Carries rest addr port ∧ addr.length ≤ MAX_IP_LEN ∧
        s.CancelFaults port env.chantype)

/-- The request is answered once if an answer is wanted, and not at all otherwise. -/
def Answered (opts : FwdOpts) (s : Forwarding) (payload : Buffer) (env : FwdEnv) (wantreply : Bool) :
    Prop :=
  ∃ s' replies, recv_msg_global_request_remotetcp opts s payload env = .ok s' ∧
    s'.submitted = s.submitted ++ replies ∧ replies.length = wantreply.toNat

theorem submitted_remove (s : Forwarding) (l : Listener) :
    (s.remove_listener l).submitted = s.submitted := (close_all l.socks s).2.1

theorem submitted_listen (s : Forwarding) (tcpinfo : TCPListener) (env : FwdEnv) :
    (s.listen_tcpfwd tcpinfo env).2.submitted = s.submitted := by
  have hclose : ∀ (socks : List Nat) (s : Forwarding) (sock : Nat),
      (socks.foldl (fun s _ => s.close sock) s).submitted = s.submitted := by
    intro socks s sock
    induction socks generalizing s with
    | nil => rfl
    | cons _ socks ih => exact ih (s.close sock)
  have hsocks : ∀ bound, (s.dropbear_listen bound env.numbering).2.submitted = s.submitted := by
    intro bound
    unfold Forwarding.dropbear_listen
    split_ifs
    · rfl
    · rfl
  unfold Forwarding.listen_tcpfwd Forwarding.new_listener
  cases env.listen with
  | none => rfl
  | some bound =>
    dsimp only
    split_ifs
    · exact (hclose _ _ _).trans (hsocks bound)
    · exact hsocks bound

theorem svr_remotetcpreq_returns {rest : Buffer} (opts : FwdOpts) (s : Forwarding) (env : FwdEnv)
    (hread : Carries rest addr port) :
    ∃ port' s', s.svr_remotetcpreq opts rest env = .ok (port', s') ∧ s'.submitted = s.submitted := by
  obtain ⟨b, b', hstring, hint⟩ := hread
  rw [Forwarding.svr_remotetcpreq, hstring, ok_bind]
  dsimp only
  split_ifs with hlen
  · exact ⟨none, s, rfl, rfl⟩
  · rw [hint, ok_bind]
    dsimp only
    split_ifs with hbad hpriv
    · exact ⟨none, s, rfl, rfl⟩
    · exact ⟨none, s, rfl, rfl⟩
    · exact ⟨_, _, rfl, submitted_listen s _ env⟩

theorem svr_cancelremotetcp_returns {rest : Buffer} {chantype : Option ChanType}
    (hread : Carries rest addr port) (h : addr.length ≤ MAX_IP_LEN → ¬ s.CancelFaults port chantype) :
    ∃ ret s', s.svr_cancelremotetcp rest chantype = .ok (ret, s') ∧ s'.submitted = s.submitted := by
  by_cases hlen : addr.length ≤ MAX_IP_LEN
  · obtain ⟨r, hr⟩ := get_listener_returns addr (h hlen)
    rw [svr_cancelremotetcp_eq hread hlen, hr, ok_bind]
    cases r with
    | none => exact ⟨_, _, rfl, rfl⟩
    | some l => exact ⟨_, _, rfl, submitted_remove s l⟩
  · obtain ⟨b, b', hstring, -⟩ := hread
    rw [Forwarding.svr_cancelremotetcp, hstring, ok_bind]
    dsimp only
    rw [if_pos (Nat.lt_of_not_le hlen)]
    exact ⟨_, _, rfl, rfl⟩

theorem submitted_answer (s : Forwarding) (wantreply : Bool) (ret : Status) :
    ∃ replies, (s.answer wantreply ret).submitted = s.submitted ++ replies ∧
      replies.length = wantreply.toNat := by
  cases wantreply with
  | false => exact ⟨[], (List.append_nil _).symm, rfl⟩
  | true => exact ⟨[_], rfl, rfl⟩

theorem Answered.of_eq {payload : Buffer} {env : FwdEnv} {wantreply : Bool} {ret : Status}
    (h : recv_msg_global_request_remotetcp opts s payload env = .ok (s'.answer wantreply ret))
    (hsame : s'.submitted = s.submitted) : Answered opts s payload env wantreply := by
  obtain ⟨replies, hreplies, hlength⟩ := submitted_answer s' wantreply ret
  exact ⟨_, replies, h, by rw [hreplies, hsame], hlength⟩

theorem answered_disabled {payload rest : Buffer} {env : FwdEnv} {reqname : Bytes} {wantreply : Bool}
    (h : opts.Disabled) :
    Answered opts s payload env wantreply ↔ ¬ OutOfStep opts s env reqname wantreply rest := by
  have hrecv : recv_msg_global_request_remotetcp opts s payload env = .ok s := by
    rw [recv_msg_global_request_remotetcp, if_pos]
    · rfl
    · rcases h with h | h
      · simp [h]
      · simp [h]
  constructor
  · rintro ⟨s', replies, hs', hreplies, hlength⟩ hout
    obtain rfl : s = s' := Except.ok.inj (hrecv.symm.trans hs')
    rw [List.self_eq_append_right.mp hreplies] at hlength
    cases hout with
    | disabled _ hwant =>
      rw [hwant] at hlength
      cases hlength
    | forwarded henabled => exact henabled h
    | cancelled henabled => exact henabled h
  · intro hin
    cases wantreply with
    | true => exact absurd (.disabled h rfl) hin
    | false => exact ⟨s, [], hrecv, (List.append_nil _).symm, rfl⟩

section Enabled

variable {payload rest : Buffer} {env : FwdEnv} {reqname : Bytes} {wantreply : Bool}

theorem recv_enabled (s : Forwarding) (env : FwdEnv) (henabled : ¬ opts.Disabled)
    (hreq : Requests payload reqname wantreply rest) :
    recv_msg_global_request_remotetcp opts s payload env =
      s.global_request opts reqname wantreply rest env := by
  obtain ⟨b, hname, hwant⟩ := hreq
  have hon : ¬ (opts.noremotetcp || !svr_pubkey_allows_tcpfwd opts.pubkey_options) = true := by
    intro h
    apply henabled
    simpa [FwdOpts.Disabled] using h
  rw [recv_msg_global_request_remotetcp, if_neg hon, hname, ok_bind]
  dsimp only
  rw [hwant, ok_bind]

theorem answered_forward (henabled : ¬ opts.Disabled) (hreq : Requests payload reqname wantreply rest)
    (hname : Names reqname "tcpip-forward") (hread : Carries rest addr port) :
    Answered opts s payload env wantreply ↔
      ¬ (wantreply = false ∧ ∃ port s', s.svr_remotetcpreq opts rest env = .ok (some port, s')) := by
  obtain ⟨port', s₁, hforward, hsame⟩ := svr_remotetcpreq_returns opts s env hread
  have hrecv := recv_enabled s env henabled hreq
  rw [Forwarding.global_request, if_neg (Nat.not_lt.mpr hname.1), if_pos hname.2, hforward,
    ok_bind] at hrecv
  cases port' with
  | none =>
    refine iff_of_true (.of_eq hrecv hsame) ?_
    rintro ⟨-, port, s₂, hs₂⟩
    rw [hforward] at hs₂
    cases hs₂
  | some port' =>
    -- the answer with the port, whether it is wanted or not
    constructor
    · rintro ⟨s₂, replies, hs₂, hreplies, hlength⟩ ⟨hwant, -⟩
      obtain rfl := Except.ok.inj (hrecv.symm.trans hs₂)
      have hone : s₁.submitted ++ [_] = s.submitted ++ replies := hreplies
      rw [hsame] at hone
      rw [← List.append_cancel_left hone, hwant] at hlength
      cases hlength
    · intro hwant
      cases wantreply with
      | false => exact absurd ⟨rfl, port', s₁, hforward⟩ hwant
      | true =>
        refine ⟨_, [.success (some port')], hrecv, ?_, rfl⟩
        show s₁.submitted ++ [_] = _
        rw [hsame]

theorem answered_cancel (henabled : ¬ opts.Disabled) (hreq : Requests payload reqname wantreply rest)
    (hname : Names reqname "cancel-tcpip-forward") (hread : Carries rest addr port) :
    Answered opts s payload env wantreply ↔
      ¬ ∃ addr port, Carries rest addr port ∧ addr.length ≤ MAX_IP_LEN ∧
        s.CancelFaults port env.chantype := by
  have hrecv := recv_enabled s env henabled hreq
  have hnot : cstr reqname ≠ ascii "tcpip-forward" := by
    rw [hname.2]
    decide
  rw [Forwarding.global_request, if_neg (Nat.not_lt.mpr hname.1), if_neg hnot, if_pos hname.2] at hrecv
  constructor
  · rintro ⟨s₂, replies, hs₂, -⟩ ⟨addr', port', hread', hlen, hfaults⟩
    rw [svr_cancelremotetcp_eq hread' hlen, get_listener_faults _ hfaults] at hrecv
    cases hrecv.symm.trans hs₂
  · intro hreturns
    have hno : addr.length ≤ MAX_IP_LEN → ¬ s.CancelFaults port env.chantype := by
      intro hlen hfaults
      exact hreturns ⟨addr, port, hread, hlen, hfaults⟩
    obtain ⟨ret, s₁, hcancel, hsame⟩ := svr_cancelremotetcp_returns hread hno
    rw [hcancel, ok_bind] at hrecv
    exact .of_eq hrecv hsame

theorem answered_other (henabled : ¬ opts.Disabled) (hreq : Requests payload reqname wantreply rest)
    (hforward : ¬ Names reqname "tcpip-forward") (hcancel : ¬ Names reqname "cancel-tcpip-forward") :
    Answered opts s payload env wantreply := by
  have hrecv := recv_enabled s env henabled hreq
  rw [Forwarding.global_request] at hrecv
  by_cases hlong : reqname.length > MAX_NAME_LEN
  · rw [if_pos hlong] at hrecv
    exact .of_eq hrecv rfl
  · have hlen := Nat.not_lt.mp hlong
    rw [if_neg hlong, if_neg (fun h => hforward ⟨hlen, h⟩), if_neg (fun h => hcancel ⟨hlen, h⟩)] at hrecv
    exact .of_eq hrecv rfl

end Enabled

/-- **A request is answered exactly once** if an answer is wanted and not otherwise, unless it is one of
those listed above. -/
theorem global_request_answered (opts : FwdOpts) (s : Forwarding) (env : FwdEnv) (payload rest : Buffer)
    (reqname : Bytes) (wantreply : Bool) (hreq : Requests payload reqname wantreply rest)
    (hargs : Names reqname "tcpip-forward" ∨ Names reqname "cancel-tcpip-forward" →
      ∃ addr port, Carries rest addr port) :
    Answered opts s payload env wantreply ↔ ¬ OutOfStep opts s env reqname wantreply rest := by
  by_cases hdisabled : opts.Disabled
  · exact answered_disabled hdisabled
  by_cases hforward : Names reqname "tcpip-forward"
  · obtain ⟨addr, port, hread⟩ := hargs (.inl hforward)
    rw [answered_forward hdisabled hreq hforward hread, not_iff_not]
    constructor
    · rintro ⟨hwant, hsuccess⟩
      exact .forwarded hdisabled hforward hwant hsuccess
    · intro hout
      cases hout with
      | disabled h => exact absurd h hdisabled
      | forwarded _ _ hwant hsuccess => exact ⟨hwant, hsuccess⟩
      | cancelled _ hcancel => exact absurd (hforward.2.symm.trans hcancel.2) (by decide)
  by_cases hcancel : Names reqname "cancel-tcpip-forward"
  · obtain ⟨addr, port, hread⟩ := hargs (.inr hcancel)
    rw [answered_cancel hdisabled hreq hcancel hread, not_iff_not]
    constructor
    · intro hfaults
      exact .cancelled hdisabled hcancel hfaults
    · intro hout
      cases hout with
      | disabled h => exact absurd h hdisabled
      | forwarded _ hname => exact absurd hname hforward
      | cancelled _ _ hfaults => exact hfaults
  · refine iff_of_true (answered_other hdisabled hreq hforward hcancel) ?_
    intro hout
    cases hout with
    | disabled h => exact hdisabled h
    | forwarded _ hname => exact hforward hname
    | cancelled _ hname => exact hcancel hname

/-- A request as it is in a packet. -/
def globalPayload (reqname : String) (wantreply : UInt8) (addr : String) (port : Nat) : Buffer :=
  Buffer.full ((putstring (ascii reqname) ++ wantreply :: (putstring (ascii addr) ++
    Framing.be32 port)).take BUF_MAX_SIZE) (List.length_take_le _ _)

theorem global_request_answered_forward :
    Answered {} listeners_initialise (globalPayload "tcpip-forward" 1 "" 2222)
      { listen := some { port := 2222 } } true := by
  have hreq : Requests (globalPayload "tcpip-forward" 1 "" 2222) (ascii "tcpip-forward") true _ :=
    ⟨_, rfl, rfl⟩
  refine (global_request_answered _ _ _ _ _ _ _ hreq (fun _ => ⟨_, _, _, _, rfl, rfl⟩)).mpr ?_
  intro hout
  cases hout with
  | disabled h =>
    rcases h with h | h
    · cases h
    · cases h
  | forwarded _ _ hwant => cases hwant
  | cancelled _ hname => exact absurd hname.2 (by decide)

/-- **Requests that are out of step**: no answer is sent while forwarding is disabled, and an answer is
sent for a forward although none is wanted. -/
theorem answers_out_of_step :
    recv_msg_global_request_remotetcp { noremotetcp := true } listeners_initialise
        (globalPayload "tcpip-forward" 1 "" 2222) {} = .ok listeners_initialise ∧
      ∃ s, recv_msg_global_request_remotetcp {} listeners_initialise
          (globalPayload "tcpip-forward" 0 "" 2222) { listen := some { port := 2222 } } = .ok s ∧
        s.submitted = [.success (some 2222)] := by
  refine ⟨rfl, ?_⟩
  have htest : okAnd (recv_msg_global_request_remotetcp {} listeners_initialise
      (globalPayload "tcpip-forward" 0 "" 2222) { listen := some { port := 2222 } })
      (fun s => decide (s.submitted = [.success (some 2222)])) = true := by
    decide +kernel
  obtain ⟨s, hs, hsubmitted⟩ := okAnd_eq_true.mp htest
  exact ⟨s, hs, of_decide_eq_true hsubmitted⟩

end SimpleSshd.Dropbear
