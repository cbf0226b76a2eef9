import SimpleSshd.Dropbear.Main
import SimpleSshd.Dropbear.SignKey
import Mathlib.Data.Nat.Count

/-!
# Proofs: the clients and the descriptors of the process that listens

What an iteration can do is said once: a slot is released together with its pipe, a connection is
refused and leaves nothing behind, it takes a free slot, or `fork` fails. In the last case both ends of
the new pipe stay open, and nothing refers to them any more. Everything else follows from this.
-/

namespace SimpleSshd.Dropbear

open Descriptors Slots Fallible

variable {d d' : Daemon} {host : Bytes} {i fd : Nat}

/-! ## Slots -/

/-- The slot is that of a client on this host. -/
def Daemon.Client (d : Daemon) (host : Bytes) (i : Nat) : Prop :=
  (lookup d.childpipes i).isSome = true ∧ lookup d.preauth_addrs i = some host

instance (d : Daemon) (host : Bytes) : DecidablePred (d.Client host) := fun _ =>
  inferInstanceAs (Decidable (_ ∧ _))

/-- How many slots are those of clients on this host. -/
def Daemon.clients (d : Daemon) (host : Bytes) : Nat := Nat.count (d.Client host) MAX_UNAUTH_CLIENTS

/-- The descriptor is the pipe of a child that was forked for this host. -/
def Daemon.ChildPipe (d : Daemon) (fd : Nat) (host : Bytes) : Prop :=
  ∃ k f, d.fds.lookup fd = some (.readEnd k) ∧ d.forks[k]? = some f ∧ f.readEnd = fd ∧
    f.remote_host = host ∧ f.pid.isSome = true

/-- **The pass over the slots** counts the clients and finds a free slot if there is one. -/
theorem countSlots_spec (host : Bytes)
    (haddr : ∀ i fd, lookup d.childpipes i = some fd → (lookup d.preauth_addrs i).isSome = true)
    (n : Nat) : ∃ c, (List.range n).foldlM (d.countSlot host) {} = .ok c ∧
      c.num_unauthed_total = Nat.count (fun i => (lookup d.childpipes i).isSome = true) n ∧
      c.num_unauthed_for_addr = Nat.count (d.Client host) n ∧
      ((∃ i < n, lookup d.childpipes i = none) →
        c.conn_idx < n ∧ lookup d.childpipes c.conn_idx = none) := by
  induction n with
  | zero => exact ⟨{}, rfl, rfl, rfl, fun ⟨i, hi, _⟩ => absurd hi (Nat.not_lt_zero i)⟩
  | succ n ih =>
    obtain ⟨c, hfold, htotal, haddrs, hfree⟩ := ih
    simp only [List.range_succ, List.foldlM_append, hfold, ok_bind, List.foldlM_cons,
      List.foldlM_nil, Nat.count_succ, Daemon.countSlot]
    cases hslot : lookup d.childpipes n with
    | none =>
      have hnot : ¬ d.Client host n := by
        rintro ⟨hsome, -⟩
        rw [hslot] at hsome
        cases hsome
      rw [if_neg hnot, if_neg (by simp)]
      exact ⟨_, rfl, htotal, haddrs, fun _ => ⟨Nat.lt_succ_self n, hslot⟩⟩
    | some fd =>
      obtain ⟨addr, haddr⟩ := Option.isSome_iff_exists.mp (haddr n fd hslot)
      have hclient : d.Client host n ↔ host = addr := by
        rw [Daemon.Client, hslot, haddr, Option.some.injEq]
        exact ⟨fun h => h.2.symm, fun h => ⟨rfl, h.symm⟩⟩
      rw [haddr, if_pos (by simp)]
      refine ⟨_, rfl, congrArg (· + 1) htotal, ?_, ?_⟩
      · simp only [hclient, haddrs]
      · rintro ⟨i, hi, hnone⟩
        have hlt : i < n := by
          refine Nat.lt_of_le_of_ne (Nat.le_of_lt_succ hi) ?_
          rintro rfl
          rw [hslot] at hnone
          cases hnone
        obtain ⟨hidx, hidxfree⟩ := hfree ⟨i, hlt, hnone⟩
        exact ⟨Nat.lt_succ_of_lt hidx, hidxfree⟩

/-! ## What a connection does -/

/-- `fork` failed: the pipe stays. -/
def Daemon.lost (d : Daemon) (host : Bytes) (readEnd writeEnd : Nat) : Daemon :=
  { d with
    fds := (d.fds.insert readEnd (.readEnd d.forks.length)).insert writeEnd
      (.writeEnd d.forks.length)
    forks := d.forks ++ [{ remote_host := host, readEnd, writeEnd, pid := none }] }

/-- The client has a slot. -/
def Daemon.entered (d : Daemon) (host : Bytes) (readEnd writeEnd pid idx : Nat) : Daemon :=
  { d with
    childpipes := place d.childpipes idx readEnd
    preauth_addrs := place d.preauth_addrs idx host
    fds := d.fds.insert readEnd (.readEnd d.forks.length)
    forks := d.forks ++ [{ remote_host := host, readEnd, writeEnd, pid := some pid }] }

/-- What a listening socket that `select` reported can lead to. -/
inductive SocketEffect (d : Daemon) : Daemon → Prop
  | refused : SocketEffect d d
  | lost (host : Bytes) {readEnd writeEnd : Nat} (hread : readEnd ∉ d.fds) (hwrite : writeEnd ∉ d.fds)
      (hne : readEnd ≠ writeEnd) : SocketEffect d (d.lost host readEnd writeEnd)
  | entered {host : Bytes} {readEnd idx : Nat} (writeEnd pid : Nat) (hread : readEnd ∉ d.fds)
      (hidx : idx < MAX_UNAUTH_CLIENTS) (hfree : lookup d.childpipes idx = none)
      (hroom : d.clients host < MAX_UNAUTH_PER_IP) :
      SocketEffect d (d.entered host readEnd writeEnd pid idx)

/-- Three new descriptors: the first is closed in the end, and the last may be closed before it. -/
theorem three_new {t : Table Handle} {a b c : Nat} {x y z : Handle} (ha : a ∉ t)
    (hb : b ∉ t.insert a x) (hc : c ∉ (t.insert a x).insert b y) :
    b ∉ t ∧ c ∉ t ∧ b ≠ c ∧
      (((t.insert a x).insert b y).insert c z).erase a = (t.insert b y).insert c z ∧
      ((((t.insert a x).insert b y).insert c z).erase c).erase a = t.insert b y := by
  obtain ⟨hba, hbt⟩ := not_or.mp ((AList.mem_insert _).not.mp hb)
  obtain ⟨hcb, hca⟩ := not_or.mp ((AList.mem_insert _).not.mp hc)
  obtain ⟨hca, hct⟩ := not_or.mp ((AList.mem_insert _).not.mp hca)
  have hfirst : ((t.insert a x).insert b y).erase a = t.insert b y := by
    rw [erase_insert_of_ne (Ne.symm hba) hb, erase_insert_self ha]
  refine ⟨hbt, hct, Ne.symm hcb, ?_, ?_⟩
  · rw [erase_insert_of_ne (Ne.symm hca) hc, hfirst]
  · rw [erase_insert_self hc, hfirst]

/-- Among the first `m` slots there is a free one, if fewer are in use. -/
theorem exists_free_slot {t : List (Option Nat)} {m : Nat}
    (h : Nat.count (fun i => (lookup t i).isSome = true) m < m) : ∃ i < m, lookup t i = none := by
  by_contra hfull
  push Not at hfull
  have hall : Nat.count (fun i => (lookup t i).isSome = true) m = m :=
    Nat.count_iff_forall.mpr fun i hi => Option.isSome_iff_ne_none.mpr (hfull i hi)
  omega

theorem socket_effect {a : Answer}
    (haddr : ∀ i fd, lookup d.childpipes i = some fd → (lookup d.preauth_addrs i).isSome = true)
    (h : d.socket a = .ok d') : SocketEffect d d' := by
  unfold Daemon.socket at h
  cases haccept : a.accept with
  | none =>
    rw [haccept] at h
    cases h
    exact .refused
  | some host =>
    rw [haccept] at h
    simp only [Daemon.newfd, bind_eq_ok, pure_eq_ok] at h
    obtain ⟨d₁, haccepted, rfl⟩ := h
    have hsock := number_notMem d.fds d.listensocks a.numbering
    generalize number d.fds d.listensocks a.numbering = childsock at haccepted hsock ⊢
    -- a connection that is refused
    have hclosed : Daemon.m_close { d with fds := d.fds.insert childsock (.connection host) } childsock =
        d := by
      rw [Daemon.m_close, erase_insert_self hsock]
    unfold Daemon.accepted at haccepted
    obtain ⟨c, hcount, haccepted⟩ := bind_eq_ok.mp haccepted
    obtain ⟨c', hcount', htotal, hforaddr, hfree⟩ :=
      countSlots_spec (d := { d with fds := d.fds.insert childsock (.connection host) }) host haddr
        MAX_UNAUTH_CLIENTS
    obtain rfl : c = c' := Except.ok.inj (hcount.symm.trans hcount')
    split_ifs at haccepted with hlimit hseed hpipe
    · cases haccepted
      rw [hclosed]
      exact .refused
    · cases haccepted
    · cases haccepted
      rw [hclosed]
      exact .refused
    · -- a pipe
      simp only [Daemon.newfd] at haccepted
      have hread := number_notMem (d.fds.insert childsock (.connection host)) d.listensocks a.numbering
      generalize number (d.fds.insert childsock (.connection host)) d.listensocks a.numbering =
        readEnd at haccepted hread
      have hwrite := number_notMem ((d.fds.insert childsock (.connection host)).insert readEnd
        (.readEnd d.forks.length)) d.listensocks a.numbering
      generalize number ((d.fds.insert childsock (.connection host)).insert readEnd
        (.readEnd d.forks.length)) d.listensocks a.numbering = writeEnd at haccepted hwrite
      obtain ⟨hread, hwrite, hne, hkept, hclose⟩ := three_new hsock hread hwrite
        (z := Handle.writeEnd d.forks.length)
      cases hfork : a.fork with
      | none =>
        rw [hfork] at haccepted
        cases haccepted
        simp only [Daemon.m_close, hkept]
        exact .lost host hread hwrite hne
      | some pid =>
        rw [hfork] at haccepted
        cases haccepted
        simp only [Daemon.m_close, hclose]
        obtain ⟨hroom, hhost⟩ := not_or.mp hlimit
        rw [htotal] at hroom
        obtain ⟨hidx, hidxfree⟩ := hfree (exists_free_slot (Nat.lt_of_not_le hroom))
        rw [hforaddr] at hhost
        exact .entered writeEnd pid hread hidx hidxfree (Nat.lt_of_not_le hhost)

/-! ## The invariant -/

/-- What holds whenever `select` is called or a socket is handled. -/
structure DaemonInv (d : Daemon) : Prop where
  pipes : d.childpipes.length = MAX_UNAUTH_CLIENTS
  addrs : d.preauth_addrs.length = MAX_UNAUTH_CLIENTS
  /-- A slot in use has the host and the pipe of one child. -/
  client : ∀ i fd, lookup d.childpipes i = some fd →
    ∃ host, lookup d.preauth_addrs i = some host ∧ d.ChildPipe fd host
  distinct : ∀ i j fd, lookup d.childpipes i = some fd → lookup d.childpipes j = some fd → i = j
  perHost : ∀ host, d.clients host ≤ MAX_UNAUTH_PER_IP
  /-- A pipe whose child could not be forked stays open. -/
  lost : ∀ k f, d.forks[k]? = some f → f.pid = none →
    d.fds.lookup f.readEnd = some (.readEnd k) ∧ d.fds.lookup f.writeEnd = some (.writeEnd k)
  /-- There are no other descriptors. -/
  known : ∀ fd ∈ d.fds, (∃ i, lookup d.childpipes i = some fd) ∨
    ∃ f ∈ d.forks, f.pid = none ∧ (fd = f.readEnd ∨ fd = f.writeEnd)
  opened : opened d.fds = used d.childpipes + 2 * d.forks.countP fun f => f.pid.isNone

theorem DaemonInv.start (listensocks : List Nat) : DaemonInv (Daemon.start listensocks) := by
  have hfree : ∀ i, lookup (Daemon.start listensocks).childpipes i = none := by
    intro i
    show (List.replicate MAX_UNAUTH_CLIENTS none)[i]?.join = none
    rw [List.getElem?_replicate]
    split_ifs
    · rfl
    · rfl
  have hno : ∀ {i fd}, lookup (Daemon.start listensocks).childpipes i ≠ some fd := by
    intro i fd
    rw [hfree]
    exact Option.some_ne_none fd |>.symm
  have hclients : ∀ host, (Daemon.start listensocks).clients host = 0 := by
    intro host
    refine Nat.count_iff_forall_not.mpr fun i _ => ?_
    rintro ⟨hsome, -⟩
    rw [hfree] at hsome
    cases hsome
  refine ⟨List.length_replicate, List.length_replicate, fun i fd h => absurd h hno,
    fun i j fd h => absurd h hno, fun host => ?_, fun k f h => ?_, fun fd h => ?_, rfl⟩
  · rw [hclients]
    exact Nat.zero_le _
  · cases h
  · exact absurd h (AList.notMem_empty fd)

/-- The invariant says nothing about the sockets that were not handled yet. -/
theorem DaemonInv.withPending (h : DaemonInv d) (pending : List Nat) :
    DaemonInv { d with pending := pending } :=
  ⟨h.pipes, h.addrs, h.client, h.distinct, h.perHost, h.lost, h.known, h.opened⟩

theorem DaemonInv.addr (h : DaemonInv d) (hslot : lookup d.childpipes i = some fd) :
    (lookup d.preauth_addrs i).isSome = true := by
  obtain ⟨host, hhost, -⟩ := h.client i fd hslot
  rw [hhost]
  rfl

/-- A pipe in a slot is not one that was lost. -/
theorem DaemonInv.not_lost (h : DaemonInv d) (hslot : lookup d.childpipes i = some fd) {f : Fork}
    (hf : f ∈ d.forks) (hpid : f.pid = none) : fd ≠ f.readEnd ∧ fd ≠ f.writeEnd := by
  obtain ⟨host, -, k, g, hfd, hg, -, -, hchild⟩ := h.client i fd hslot
  obtain ⟨k', hk'⟩ := List.mem_iff_getElem?.mp hf
  obtain ⟨hread, hwrite⟩ := h.lost k' f hk' hpid
  constructor
  · rintro rfl
    obtain ⟨rfl⟩ := Handle.readEnd.inj (Option.some.inj (hfd.symm.trans hread))
    obtain rfl := Option.some.inj (hg.symm.trans hk')
    rw [hpid] at hchild
    cases hchild
  · rintro rfl
    cases Option.some.inj (hfd.symm.trans hwrite)

/-! ## Releasing -/

theorem DaemonInv.releaseSlot (h : DaemonInv d) (readable : List Nat) (i : Nat) :
    DaemonInv (d.releaseSlot readable i) := by
  unfold Daemon.releaseSlot
  cases hslot : lookup d.childpipes i with
  | none => exact h
  | some fd =>
    dsimp only
    split_ifs with hreadable
    · obtain ⟨host, -, k, f, hfd, -⟩ := h.client i fd hslot
      have hmem : fd ∈ d.fds := AList.lookup_isSome.mp (by rw [hfd]; rfl)
      -- the other slots have other pipes
      have hother : ∀ {j fd'}, lookup (clear d.childpipes i) j = some fd' →
          i ≠ j ∧ fd' ≠ fd ∧ lookup d.childpipes j = some fd' := by
        intro j fd' hj
        obtain ⟨hne, hj⟩ := lookup_clear_eq_some hj
        refine ⟨hne, ?_, hj⟩
        rintro rfl
        exact hne (h.distinct i j fd' hslot hj)
      refine ⟨(length_clear _ _).trans h.pipes, (length_clear _ _).trans h.addrs, ?_, ?_, ?_, ?_, ?_, ?_⟩
      · intro j fd' hj
        obtain ⟨hne, hfd', hj⟩ := hother hj
        obtain ⟨host', hhost', k', f', hlook, hrest⟩ := h.client j fd' hj
        refine ⟨host', (lookup_clear_ne hne).trans hhost', k', f', ?_, hrest⟩
        rw [Daemon.m_close, AList.lookup_erase_ne hfd']
        exact hlook
      · intro j j' fd' hj hj'
        exact h.distinct j j' fd' (hother hj).2.2 (hother hj').2.2
      · intro host'
        refine (Nat.count_mono_left fun j _ => ?_).trans (h.perHost host')
        rintro ⟨hsome, haddr⟩
        obtain ⟨fd', hj⟩ := Option.isSome_iff_exists.mp hsome
        exact ⟨Option.isSome_iff_exists.mpr ⟨fd', (hother hj).2.2⟩, (lookup_clear_eq_some haddr).2⟩
      · intro k' f' hf' hpid
        obtain ⟨hread, hwrite⟩ := h.not_lost hslot (List.mem_of_getElem? hf') hpid
        rw [Daemon.m_close, AList.lookup_erase_ne hread.symm, AList.lookup_erase_ne hwrite.symm]
        exact h.lost k' f' hf' hpid
      · intro fd' hmem'
        obtain ⟨hne, hmem'⟩ := AList.mem_erase.mp hmem'
        rcases h.known fd' hmem' with ⟨j, hj⟩ | hlost
        · refine .inl ⟨j, (lookup_clear_ne ?_).trans hj⟩
          rintro rfl
          exact hne (Option.some.inj (hj.symm.trans hslot))
        · exact .inr hlost
      · have hused := used_clear hslot
        have hopen := opened_erase hmem
        have hbefore := h.opened
        show Descriptors.opened (d.fds.erase fd) =
          used (clear d.childpipes i) + 2 * d.forks.countP fun f => f.pid.isNone
        omega
    · exact h

theorem DaemonInv.release (h : DaemonInv d) (readable : List Nat) : DaemonInv (d.release readable) :=
  List.foldlRecOn _ _ h fun _ h i _ => h.releaseSlot readable i

/-! ## Accepting -/

theorem getElem?_forks {forks : List Fork} {f g : Fork} {k : Nat}
    (h : (forks ++ [f])[k]? = some g) : forks[k]? = some g ∨ k = forks.length ∧ g = f := by
  rw [List.getElem?_append] at h
  split_ifs at h with hlt
  · exact .inl h
  · obtain ⟨hzero, hg⟩ := List.getElem?_eq_some_iff.mp h
    rw [List.length_singleton] at hzero
    refine .inr ⟨by omega, ?_⟩
    rw [← hg, List.getElem_singleton]

/-- A child's pipe stays one while descriptors are created and children are forked. -/
theorem Daemon.ChildPipe.mono {f : Fork} (h : d.ChildPipe fd host) (hforks : d'.forks = d.forks ++ [f])
    (hfds : ∀ what, d.fds.lookup fd = some what → d'.fds.lookup fd = some what) :
    d'.ChildPipe fd host := by
  obtain ⟨k, g, hlook, hg, hrest⟩ := h
  refine ⟨k, g, hfds _ hlook, ?_, hrest⟩
  rw [hforks, List.getElem?_append_left (List.getElem?_eq_some_iff.mp hg).1]
  exact hg

theorem lookup_insert_new {t : Table Handle} {r : Nat} {what new : Handle} (hr : r ∉ t)
    (h : t.lookup fd = some what) : (t.insert r new).lookup fd = some what := by
  have hmem : fd ∈ t := AList.lookup_isSome.mp (by rw [h]; rfl)
  rw [AList.lookup_insert_ne (ne_of_mem_of_not_mem hmem hr), h]

theorem DaemonInv.afterLost (h : DaemonInv d) {r w : Nat} (hr : r ∉ d.fds) (hw : w ∉ d.fds)
    (hne : r ≠ w) : DaemonInv (d.lost host r w) := by
  have hw' : w ∉ d.fds.insert r (.readEnd d.forks.length) := by
    rw [AList.mem_insert]
    exact not_or.mpr ⟨hne.symm, hw⟩
  have hkept : ∀ {fd what}, d.fds.lookup fd = some what → (d.lost host r w).fds.lookup fd = some what :=
    fun hlook => lookup_insert_new hw' (lookup_insert_new hr hlook)
  refine ⟨h.pipes, h.addrs, ?_, h.distinct, h.perHost, ?_, ?_, ?_⟩
  · intro i fd hslot
    obtain ⟨host', hhost', hchild⟩ := h.client i fd hslot
    exact ⟨host', hhost', hchild.mono rfl fun _ => hkept⟩
  · intro k f hf hpid
    rcases getElem?_forks hf with hf | ⟨rfl, rfl⟩
    · obtain ⟨hread, hwrite⟩ := h.lost k f hf hpid
      exact ⟨hkept hread, hkept hwrite⟩
    · refine ⟨?_, AList.lookup_insert _⟩
      exact (AList.lookup_insert_ne hne).trans (AList.lookup_insert _)
  · intro fd hmem
    have hnew : { remote_host := host, readEnd := r, writeEnd := w, pid := none } ∈
        (d.lost host r w).forks := List.mem_append_right _ List.mem_cons_self
    rcases (AList.mem_insert _).mp hmem with rfl | hmem
    · exact .inr ⟨_, hnew, rfl, .inr rfl⟩
    · rcases (AList.mem_insert _).mp hmem with rfl | hmem
      · exact .inr ⟨_, hnew, rfl, .inl rfl⟩
      · rcases h.known fd hmem with hslot | ⟨f, hf, hlost⟩
        · exact .inl hslot
        · exact .inr ⟨f, List.mem_append_left _ hf, hlost⟩
  · have hbefore := h.opened
    simp only [Daemon.lost, opened_insert hw', opened_insert hr, List.countP_append, List.countP_cons,
      List.countP_nil, Option.isNone_none, if_true]
    omega

theorem count_le_succ {p q : Nat → Prop} [DecidablePred p] [DecidablePred q]
    (h : ∀ j, q j → p j ∨ j = i) (n : Nat) : Nat.count q n ≤ Nat.count p n + 1 := by
  rw [Nat.count_eq_card_filter_range, Nat.count_eq_card_filter_range]
  refine (Finset.card_le_card ?_).trans (Finset.card_insert_le i _)
  intro j hj
  obtain ⟨hn, hq⟩ := Finset.mem_filter.mp hj
  rcases h j hq with hp | rfl
  · exact Finset.mem_insert_of_mem (Finset.mem_filter.mpr ⟨hn, hp⟩)
  · exact Finset.mem_insert_self _ _

/-- The clients on a host when one has come. -/
theorem clients_entered {r w pid idx : Nat} (host' : Bytes) :
    (d.entered host r w pid idx).clients host' ≤
      d.clients host' + if host = host' then 1 else 0 := by
  have hclient : ∀ j, (d.entered host r w pid idx).Client host' j →
      d.Client host' j ∨ j = idx ∧ host = host' := by
    rintro j ⟨hsome, haddr⟩
    obtain ⟨fd, hslot⟩ := Option.isSome_iff_exists.mp hsome
    rcases lookup_place_eq_some haddr with ⟨rfl, rfl⟩ | ⟨hne, haddr⟩
    · exact .inr ⟨rfl, rfl⟩
    · rcases lookup_place_eq_some hslot with ⟨rfl, -⟩ | ⟨-, hslot⟩
      · exact absurd rfl hne
      · exact .inl ⟨Option.isSome_iff_exists.mpr ⟨fd, hslot⟩, haddr⟩
  split_ifs with heq
  · exact count_le_succ (fun j hj => (hclient j hj).imp_right And.left) _
  · exact Nat.count_mono_left fun j _ hj => (hclient j hj).resolve_right fun hnew => heq hnew.2

theorem DaemonInv.afterEntered (h : DaemonInv d) {r idx : Nat} (w pid : Nat) (hr : r ∉ d.fds)
    (hidx : idx < MAX_UNAUTH_CLIENTS) (hfree : lookup d.childpipes idx = none)
    (hroom : d.clients host < MAX_UNAUTH_PER_IP) : DaemonInv (d.entered host r w pid idx) := by
  have hkept : ∀ {fd what}, d.fds.lookup fd = some what →
      (d.entered host r w pid idx).fds.lookup fd = some what := lookup_insert_new hr
  have hpipe : idx < d.childpipes.length := h.pipes.symm ▸ hidx
  have haddr : idx < d.preauth_addrs.length := h.addrs.symm ▸ hidx
  have hnotr : ∀ {j}, lookup d.childpipes j ≠ some r := by
    intro j hj
    obtain ⟨host', -, k, f, hlook, -⟩ := h.client j r hj
    exact hr (AList.lookup_isSome.mp (by rw [hlook]; rfl))
  refine ⟨(length_place _ _ _).trans h.pipes, (length_place _ _ _).trans h.addrs, ?_, ?_, ?_, ?_, ?_, ?_⟩
  · intro i fd hslot
    rcases lookup_place_eq_some hslot with ⟨rfl, rfl⟩ | ⟨hne, hslot⟩
    · exact ⟨host, lookup_place_self haddr, d.forks.length, _, AList.lookup_insert _,
        List.getElem?_concat_length, rfl, rfl, rfl⟩
    · obtain ⟨host', hhost', hchild⟩ := h.client i fd hslot
      exact ⟨host', (lookup_place_ne hne).trans hhost', hchild.mono rfl fun _ => hkept⟩
  · intro i j fd hi hj
    rcases lookup_place_eq_some hi with ⟨rfl, rfl⟩ | ⟨-, hold⟩
    · rcases lookup_place_eq_some hj with ⟨rfl, -⟩ | ⟨-, hold⟩
      · rfl
      · exact absurd hold hnotr
    · rcases lookup_place_eq_some hj with ⟨-, rfl⟩ | ⟨-, hold'⟩
      · exact absurd hold hnotr
      · exact h.distinct i j fd hold hold'
  · intro host'
    refine (clients_entered host').trans ?_
    split_ifs with heq
    · subst heq
      exact hroom
    · exact h.perHost host'
  · intro k f hf hpid
    rcases getElem?_forks hf with hf | ⟨-, rfl⟩
    · obtain ⟨hread, hwrite⟩ := h.lost k f hf hpid
      exact ⟨hkept hread, hkept hwrite⟩
    · cases hpid
  · intro fd hmem
    rcases (AList.mem_insert _).mp hmem with rfl | hmem
    · exact .inl ⟨idx, lookup_place_self hpipe⟩
    · rcases h.known fd hmem with ⟨i, hslot⟩ | ⟨f, hf, hlost⟩
      · refine .inl ⟨i, (lookup_place_ne ?_).trans hslot⟩
        rintro rfl
        rw [hfree] at hslot
        cases hslot
      · exact .inr ⟨f, List.mem_append_left _ hf, hlost⟩
  · have hbefore := h.opened
    have hused := used_place (a := r) hpipe hfree
    simp only [Daemon.entered, opened_insert hr, hused, List.countP_append, List.countP_cons,
      List.countP_nil, Option.isNone_some, Bool.false_eq_true, if_false]
    omega

/-! ## Runs -/

theorem DaemonInv.socketEffect (h : DaemonInv d) (heffect : SocketEffect d d') : DaemonInv d' := by
  cases heffect with
  | refused => exact h
  | lost host hread hwrite hne => exact h.afterLost hread hwrite hne
  | entered writeEnd pid hread hidx hfree hroom => exact h.afterEntered writeEnd pid hread hidx hfree hroom

theorem DaemonInv.step {e : DaemonEvent} (h : DaemonInv d) (hstep : DaemonStep d e d') :
    DaemonInv d' := by
  obtain ⟨-, hstep⟩ := hstep
  cases e with
  | select outcome =>
    cases outcome with
    | exitflag => cases hstep
    | timeout =>
      cases hstep
      exact h
    | eintr =>
      cases hstep
      exact h
    | error => cases hstep
    | ready readable =>
      rw [← (pure_eq_ok _ _).mp hstep]
      exact (h.release readable).withPending _
  | socket a =>
    have hinv := h.withPending d.pending.tail
    exact hinv.socketEffect (socket_effect (fun _ _ => hinv.addr) hstep)

theorem DaemonInv.run {listensocks : List Nat} {es : List DaemonEvent}
    (h : DaemonRun listensocks es d) : DaemonInv d :=
  Runs.Run.invariant (fun _ _ _ => DaemonInv.step) h (DaemonInv.start listensocks)

/-- **Unauthenticated connections are limited**: in every reachable state there are no more of them
than slots and no more on one host than allowed, the slots have the hosts and pipes of the children,
and a new connection takes only a slot that is free. -/
theorem unauthenticated_limits {listensocks : List Nat} {es : List DaemonEvent}
    (h : DaemonRun listensocks es d) :
    used d.childpipes ≤ MAX_UNAUTH_CLIENTS ∧ (∀ host, d.clients host ≤ MAX_UNAUTH_PER_IP) ∧
      (∀ i fd, lookup d.childpipes i = some fd →
        ∃ host, lookup d.preauth_addrs i = some host ∧ d.ChildPipe fd host) ∧
      ∀ a d', DaemonStep d (.socket a) d' →
        ∀ i, lookup d'.childpipes i ≠ lookup d.childpipes i → lookup d.childpipes i = none := by
  have hinv := DaemonInv.run h
  refine ⟨?_, hinv.perHost, hinv.client, ?_⟩
  · rw [← hinv.pipes]
    exact List.countP_le_length
  · rintro a d' ⟨-, hstep⟩ i hchanged
    have heffect := socket_effect (fun _ _ => (hinv.withPending d.pending.tail).addr) hstep
    cases heffect with
    | refused => exact absurd rfl hchanged
    | lost => exact absurd rfl hchanged
    | @entered host readEnd idx writeEnd pid hread hidx hfree hroom =>
      by_cases heq : idx = i
      · exact heq ▸ hfree
      · exact absurd (lookup_place_ne heq) hchanged

/-- A connection from a host, in an iteration of its own. -/
def connects (host : String) (fork : Option Nat) : List DaemonEvent :=
  [.select (.ready [3]), .socket { accept := some (ascii host), fork, numbering := .lowest }]

/-- Five clients on a host, and a sixth that is refused. -/
def sixConnections : List DaemonEvent :=
  (List.range 6).flatMap fun i => connects "10.0.0.1" (some (100 + i))

theorem unauthenticated_limits_sixConnections : ∃ d, DaemonRun [3] sixConnections d ∧
    d.clients (ascii "10.0.0.1") = 5 ∧ used d.childpipes = 5 ∧
      ∀ i fd, lookup d.childpipes i = some fd →
        ∃ host, lookup d.preauth_addrs i = some host ∧ d.ChildPipe fd host := by
  have hexec : (runDaemon [3] sixConnections).any (fun d =>
      decide (d.clients (ascii "10.0.0.1") = 5) && decide (used d.childpipes = 5)) = true := by
    decide +kernel
  obtain ⟨d, hrun, htest⟩ := (Option.any_eq_true _ _).mp hexec
  obtain ⟨hclients, hused⟩ := Bool.and_eq_true_iff.mp htest
  have hdaemon := daemonRun_of_runDaemon hrun
  exact ⟨d, hdaemon, of_decide_eq_true hclients, of_decide_eq_true hused,
    (unauthenticated_limits hdaemon).2.2.1⟩

/-- **No descriptor is leaked exactly if no `fork` has failed**: there are the pipes in the slots, and two
more for every failure. -/
theorem descriptors_leaked {listensocks : List Nat} {es : List DaemonEvent}
    (h : DaemonRun listensocks es d) :
    ((∀ fd, fd ∈ d.fds ↔ ∃ i, lookup d.childpipes i = some fd) ↔
        ∀ f ∈ d.forks, f.pid.isSome = true) ∧
      opened d.fds = used d.childpipes + 2 * d.forks.countP fun f => f.pid.isNone := by
  have hinv := DaemonInv.run h
  have hopen : ∀ {fd what}, d.fds.lookup fd = some what → fd ∈ d.fds := by
    intro fd what hlook
    exact AList.lookup_isSome.mp (by rw [hlook]; rfl)
  refine ⟨⟨?_, ?_⟩, hinv.opened⟩
  · intro hexact f hf
    by_contra hfailed
    have hpid : f.pid = none := Option.not_isSome_iff_eq_none.mp hfailed
    obtain ⟨k, hk⟩ := List.mem_iff_getElem?.mp hf
    obtain ⟨i, hslot⟩ := (hexact f.readEnd).mp (hopen (hinv.lost k f hk hpid).1)
    exact (hinv.not_lost hslot hf hpid).1 rfl
  · intro hall fd
    constructor
    · intro hmem
      rcases hinv.known fd hmem with hslot | ⟨f, hf, hpid, -⟩
      · exact hslot
      · have hsome := hall f hf
        rw [hpid] at hsome
        cases hsome
    · rintro ⟨i, hslot⟩
      obtain ⟨host, -, k, f, hlook, -⟩ := hinv.client i fd hslot
      exact hopen hlook

theorem descriptors_leaked_connects : ∃ d, DaemonRun [3] (connects "10.0.0.1" (some 100)) d ∧
    opened d.fds = 1 ∧ ∀ fd, fd ∈ d.fds ↔ ∃ i, lookup d.childpipes i = some fd := by
  have hexec : (runDaemon [3] (connects "10.0.0.1" (some 100))).any (fun d =>
      decide (opened d.fds = 1) && d.forks.all (·.pid.isSome)) = true := by
    decide +kernel
  obtain ⟨d, hrun, htest⟩ := (Option.any_eq_true _ _).mp hexec
  obtain ⟨hopened, hforks⟩ := Bool.and_eq_true_iff.mp htest
  have hdaemon := daemonRun_of_runDaemon hrun
  exact ⟨d, hdaemon, of_decide_eq_true hopened,
    (descriptors_leaked hdaemon).1.mpr (List.all_eq_true.mp hforks)⟩

/-- **A failed `fork` leaks two descriptors**: after the iteration no slot is in use, and both ends of the
pipe are open. -/
theorem failed_fork_leaks : ∃ d, DaemonRun [3] (connects "10.0.0.1" none) d ∧ d.pending = [] ∧
    opened d.fds = 2 ∧ ∃ fd ∈ d.fds, ¬ ∃ i, lookup d.childpipes i = some fd := by
  have hexec : (runDaemon [3] (connects "10.0.0.1" none)).any (fun d =>
      decide (d.pending = []) && decide (opened d.fds = 2) &&
        decide (∃ fd ∈ d.fds.keys, some fd ∉ d.childpipes)) = true := by
    decide +kernel
  obtain ⟨d, hrun, htest⟩ := (Option.any_eq_true _ _).mp hexec
  simp only [Bool.and_eq_true, decide_eq_true_eq] at htest
  obtain ⟨⟨hpending, hopened⟩, fd, hmem, hnone⟩ := htest
  exact ⟨d, daemonRun_of_runDaemon hrun, hpending, hopened, fd, AList.mem_keys.mpr hmem,
    fun hslot => hnone (mem_iff_lookup.mpr hslot)⟩

end SimpleSshd.Dropbear
