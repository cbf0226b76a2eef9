import SimpleSshd.Dropbear.Proofs.SlotProofs

/-!
# Proofs: channels and the connections they wait for

The table of channels and the list of connections point at each other. What one event does to the table
is known, so there is one lemma for each way in which both sides change together: a channel begins to
wait, a channel goes, a connection ends. None of them follows a pointer to what has been freed.
-/

namespace SimpleSshd.Dropbear

open Fallible Slots
open Backrefs (Linked)

variable {cfg : Config} {opts : Opts} {s' : Server} {n n' : Net} {i id : Nat} {x : Entry}
  {c c' : Connection}

/-! ## The invariant -/

/-- The channel that is told when the connection is made. -/
def Connection.owner (c : Connection) : Option Nat :=
  match c.cb with
  | .channel_connect_done channel => some channel
  | .cancel_callback => none

theorem owner_eq_some {channel : Nat} (h : c.cb = .channel_connect_done channel) :
    c.owner = some channel := by
  rw [Connection.owner, h]

def Net.ids (n : Net) : List Nat := n.conn_pending.map Connection.id

structure NetInv (opts : Opts) (n : Net) : Prop where
  table : TableInv opts n.server
  /-- A channel waits as long as it points to a connection. -/
  flag : ∀ i x, n.server.entry i = some x → x.conn_pending = (n.pointers x.serial).isSome
  linked : Linked Connection.id Connection.owner n.server.Live n.pointers n.conn_pending
  below : ∀ c ∈ n.conn_pending, c.id < n.begun
  /-- No channel that is still to come points to a connection. -/
  unborn : ∀ channel, n.server.opened ≤ channel → n.pointers channel = none

theorem NetInv.start (authstate : AuthState) : NetInv opts (Net.start authstate) where
  table := .start authstate
  flag i x hx := by
    rw [Net.start, Server.entry, lookup_start] at hx
    cases hx
  linked := by
    refine .nil _ _ ?_
    rintro channel ⟨i, x, hx, -⟩
    rw [Net.start, Server.entry, lookup_start] at hx
    cases hx
  below _ hc := absurd hc List.not_mem_nil
  unborn _ _ := rfl

/-- Two channels do not have the same serial number. -/
theorem NetInv.serial_ne {j : Nat} {y : Entry} (h : NetInv opts n) (hx : n.server.entry i = some x)
    (hy : n.server.entry j = some y) (hj : j ≠ i) : y.serial ≠ x.serial :=
  fun hserial => hj (h.table.unique hy hx hserial)

/-! ## Connections change -/

theorem NetInv.connection_of_mem (h : NetInv opts n) (hc : c ∈ n.conn_pending) :
    n.connection c.id = .ok c := by
  rw [Net.connection, h.linked.find_key hc]
  rfl

/-- A connection gets another socket, or none. -/
theorem NetInv.update (h : NetInv opts n) (hc : c ∈ n.conn_pending) (hid : c'.id = c.id)
    (hcb : c'.cb = c.cb) :
    NetInv opts { n with
      conn_pending := Backrefs.modify Connection.id c.id (fun _ => c') n.conn_pending } where
  table := h.table
  flag := h.flag
  linked := by
    refine h.linked.modify (fun _ _ => hid) ?_
    intro r hr hkey
    rw [h.linked.eq_of_key hr hc hkey, Connection.owner, hcb]
    rfl
  below r hr := by
    rcases Backrefs.mem_modify hr with ⟨hold, -⟩ | ⟨-, -, -, rfl⟩
    · exact h.below r hold
    · rw [hid]
      exact h.below c hc
  unborn := h.unborn

theorem ids_update (n : Net) (c : Connection) {c' : Connection} (hid : c'.id = c.id) :
    Net.ids { n with
      conn_pending := Backrefs.modify Connection.id c.id (fun _ => c') n.conn_pending } = n.ids :=
  Backrefs.map_key_modify fun _ _ => hid

/-- A connection that was cancelled ends. -/
theorem NetInv.removeConnect (h : NetInv opts n)
    (hnone : ∀ c ∈ n.conn_pending, c.id = id → c.owner = none) : NetInv opts (remove_connect n id) where
  table := h.table
  flag := h.flag
  linked := h.linked.discard hnone
  below c hc := h.below c (Backrefs.mem_discard.mp hc).1
  unborn := h.unborn

/-! ## The table changes -/

theorem NetInv.same (h : NetInv opts n) (ht : TableInv opts s')
    (hsame : ∀ j, s'.entry j = n.server.entry j) (hle : n.server.opened ≤ s'.opened) :
    NetInv opts { n with server := s' } where
  table := ht
  flag j y hy := h.flag j y ((hsame j).symm.trans hy)
  linked := h.linked.congr (live_same hsame)
  below := h.below
  unborn channel hchannel := h.unborn channel (Nat.le_trans hle hchannel)

/-- **A channel is opened** that waits for nothing. -/
theorem NetInv.entered (h : NetInv opts n) (ht : TableInv opts s') (hfree : n.server.entry i = none)
    (hchanged : n.server.Changed i (some ⟨n.server.opened, i, false⟩) s')
    (hle : n.server.opened ≤ s'.opened) : NetInv opts { n with server := s' } where
  table := ht
  flag j y hy := by
    by_cases hj : j = i
    · rw [hj, hchanged.here] at hy
      cases hy
      rw [h.unborn _ (Nat.le_refl _)]
      rfl
    · exact h.flag j y ((hchanged.others j hj).symm.trans hy)
  linked := h.linked.enter (h.unborn _ (Nat.le_refl _)) (hchanged.live_entered hfree)
  below := h.below
  unborn channel hchannel := h.unborn channel (Nat.le_trans hle hchannel)

theorem connect_remote_pointers_self (n : Net) (channel addresses : Nat) :
    (connect_remote n channel addresses).pointers channel = some n.begun :=
  Function.update_self _ _ _

theorem connect_remote_pointers_of_ne {channel addresses k : Nat} (hne : k ≠ channel) :
    (connect_remote n channel addresses).pointers k = n.pointers k :=
  Function.update_of_ne hne _ _

/-- **A channel is opened** and begins to wait. -/
theorem NetInv.connecting (h : NetInv opts n) (ht : TableInv opts s') (hfree : n.server.entry i = none)
    (hchanged : n.server.Changed i (some ⟨n.server.opened, i, true⟩) s') (addresses : Nat) :
    NetInv opts (connect_remote { n with server := s' } n.server.opened addresses) where
  table := ht
  flag j y hy := by
    by_cases hj : j = i
    · rw [hj, connect_remote, hchanged.here] at hy
      cases hy
      rw [connect_remote_pointers_self]
      rfl
    · rw [connect_remote, hchanged.others j hj] at hy
      have hne : y.serial ≠ n.server.opened := Nat.ne_of_lt (h.table.serial_lt hy)
      rw [connect_remote_pointers_of_ne hne]
      exact h.flag j y hy
  linked := by
    have hnull := h.unborn _ (Nat.le_refl _)
    have hlive := hchanged.live_entered hfree
    have hlinked := h.linked.enter hnull hlive
    have hnew : n.begun ∉ n.conn_pending.map Connection.id := ?_
    · exact hlinked.append (r := ⟨n.begun, .channel_connect_done n.server.opened, addresses, none⟩)
        ((hlive _).mpr (.inr rfl)) hnull rfl hnew
    intro hmem
    obtain ⟨c, hc, hid⟩ := List.mem_map.mp hmem
    exact absurd hid (Nat.ne_of_lt (h.below c hc))
  below c hc := by
    rcases List.mem_append.mp hc with hold | hlast
    · exact Nat.lt_succ_of_lt (h.below c hold)
    · rw [List.mem_singleton.mp hlast]
      exact Nat.lt_succ_self _
  unborn channel hchannel := by
    have hnew : n.server.opened < s'.opened := ht.serial_lt hchanged.here
    have hle : s'.opened ≤ channel := hchannel
    rw [connect_remote_pointers_of_ne (by omega)]
    exact h.unborn channel (by omega)

theorem update_none_of_none {pointers : Nat → Option Nat} {k channel : Nat}
    (h : pointers channel = none) : Function.update pointers k none channel = none := by
  by_cases heq : channel = k
  · rw [heq, Function.update_self]
  · rw [Function.update_of_ne heq, h]

/-- A channel keeps its flag if the pointer of another is set to `NULL`. -/
theorem NetInv.flag_update {j : Nat} {y : Entry} (h : NetInv opts n) (hy : n.server.entry j = some y)
    (hne : y.serial ≠ x.serial) :
    y.conn_pending = (Function.update n.pointers x.serial none y.serial).isSome := by
  rw [Function.update_of_ne hne]
  exact h.flag j y hy

/-- Who is still there when a channel was removed has another serial number. -/
theorem NetInv.entry_of_removed {j : Nat} {y : Entry} (h : NetInv opts n)
    (hx : n.server.entry i = some x) (hchanged : n.server.Changed i none s')
    (hy : s'.entry j = some y) : n.server.entry j = some y ∧ y.serial ≠ x.serial := by
  have hj : j ≠ i := by
    rintro rfl
    rw [hchanged.here] at hy
    cases hy
  rw [hchanged.others j hj] at hy
  exact ⟨hy, h.serial_ne hx hy hj⟩

/-- A channel that waits for nothing is removed. -/
theorem NetInv.left (h : NetInv opts n) (ht : TableInv opts s') (hx : n.server.entry i = some x)
    (hchanged : n.server.Changed i none s') (hle : n.server.opened ≤ s'.opened)
    (hnull : n.pointers x.serial = none) : NetInv opts { n with server := s' } where
  table := ht
  flag j y hy := h.flag j y (h.entry_of_removed hx hchanged hy).1
  linked := h.linked.leave hnull (hchanged.live_removed h.table hx)
  below := h.below
  unborn channel hchannel := h.unborn channel (Nat.le_trans hle hchannel)

/-- A channel that waits for a connection is removed, and the connection cancelled. -/
theorem NetInv.retired (h : NetInv opts n) (ht : TableInv opts s') (hx : n.server.entry i = some x)
    (hchanged : n.server.Changed i none s') (hle : n.server.opened ≤ s'.opened)
    (hpointer : n.pointers x.serial = some id) :
    NetInv opts { n with
      server := s'
      conn_pending := Backrefs.modify Connection.id id (fun c => { c with cb := .cancel_callback })
        n.conn_pending
      pointers := Function.update n.pointers x.serial none } where
  table := ht
  flag j y hy := by
    obtain ⟨hold, hne⟩ := h.entry_of_removed hx hchanged hy
    exact h.flag_update hold hne
  linked := h.linked.retire (live_of_entry hx) hpointer (fun _ hid => hid) (fun _ => rfl)
    (hchanged.live_removed h.table hx)
  below r hr := by
    rcases Backrefs.mem_modify hr with ⟨hold, -⟩ | ⟨r', hr', -, rfl⟩
    · exact h.below r hold
    · exact h.below r' hr'
  unborn channel hchannel := update_none_of_none (h.unborn channel (Nat.le_trans hle hchannel))

/-- **A channel is removed**: what it waits for is there to be cancelled. -/
theorem NetInv.removed (h : NetInv opts n) (ht : TableInv opts s') (hx : n.server.entry i = some x)
    (hchanged : n.server.Changed i none s') (hle : n.server.opened ≤ s'.opened) :
    ∃ n', Net.remove_channel { n with server := s' } x.serial = .ok n' ∧ n'.server = s' ∧
      NetInv opts n' ∧ n'.ids = n.ids ∧
      ∀ c ∈ n'.conn_pending, n.pointers x.serial = some c.id → c.owner = none := by
  cases hpointer : n.pointers x.serial with
  | none =>
    refine ⟨{ n with server := s' }, ?_, rfl, h.left ht hx hchanged hle hpointer, rfl, ?_⟩
    · simp only [Net.remove_channel, hpointer]
      rfl
    · intro c _ hnone
      cases hnone
  | some id =>
    obtain ⟨c, hc, rfl, -⟩ := h.linked.points x.serial (live_of_entry hx) id hpointer
    have hfound : Net.connection { n with server := s' } c.id = .ok c := h.connection_of_mem hc
    refine ⟨_, ?_, rfl, h.retired ht hx hchanged hle hpointer, ?_, ?_⟩
    · simp only [Net.remove_channel, hpointer, cancel_connect, hfound, ok_bind]
      rfl
    · exact Backrefs.map_key_modify fun _ hid => hid
    · intro r hr hid
      rcases Backrefs.mem_modify hr with ⟨-, hne⟩ | ⟨r', -, -, rfl⟩
      · exact absurd (Option.some.inj hid).symm hne
      · rfl

/-! ## Events of the channels -/

/-- The process may end, but not because something was used that had been freed. -/
def NetAbort.Ordinary (f : NetAbort) : Prop := ∃ a, f = .abort a

theorem aborts_eq_ok {α : Type} {y : Except Abort α} {a : α} : aborts y = .ok a ↔ y = .ok a := by
  cases y with
  | error e => simp [aborts, Except.mapError]
  | ok b => simp [aborts, Except.mapError]

/-- The events of the tables lead from the one to the other, which is in order. -/
def Follows (cfg : Config) (opts : Opts) (n n' : Net) : Prop :=
  NetInv opts n' ∧ ∃ es, Runs.Run (ServerStep cfg opts) n.server es n'.server

theorem Follows.trans {n₁ n₂ n₃ : Net} (h₁ : Follows cfg opts n₁ n₂) (h₂ : Follows cfg opts n₂ n₃) :
    Follows cfg opts n₁ n₃ := by
  obtain ⟨-, es₁, hrun₁⟩ := h₁
  obtain ⟨hinv, es₂, hrun₂⟩ := h₂
  exact ⟨hinv, es₁ ++ es₂, hrun₁.append hrun₂⟩

/-- The channel that is opened last is looked for by its serial number. -/
theorem connecting_eq (s : Server) (channel : Nat) :
    (s.channels.any fun entry =>
      entry.any fun slot => decide (slot.serial = channel) && slot.channel.conn_pending) = true ↔
        ∃ i y, s.entry i = some y ∧ y.serial = channel ∧ y.conn_pending = true := by
  rw [List.any_eq_true]
  constructor
  · rintro ⟨entry, hmem, hany⟩
    obtain ⟨slot, rfl, htest⟩ := (Option.any_eq_true _ _).mp hany
    obtain ⟨i, hslot⟩ := mem_iff_lookup.mp hmem
    simp only [Bool.and_eq_true, decide_eq_true_eq] at htest
    exact ⟨i, slot.entry, entry_of_lookup hslot, htest⟩
  · rintro ⟨i, y, hy, hserial, hpending⟩
    obtain ⟨slot, hslot, rfl⟩ := entry_eq_some hy
    refine ⟨some slot, mem_iff_lookup.mpr ⟨i, hslot⟩, ?_⟩
    simp only [Option.any_some, Bool.and_eq_true, decide_eq_true_eq]
    exact ⟨hserial, hpending⟩

theorem NetInv.follow_same (h : NetInv opts n) {e : ServerEvent}
    (hsame : ∀ j, s'.entry j = n.server.entry j) (addresses : Nat) :
    n.follow s' addresses e = .ok { n with server := s' } := by
  cases e with
  | channelOpen chantype remotechan transwindow transmaxpacket prohibited =>
    have hnone : ¬ ((s'.channels.any fun entry => entry.any fun slot =>
        decide (slot.serial = n.server.opened) && slot.channel.conn_pending) = true) := by
      rw [connecting_eq]
      rintro ⟨i, y, hy, hserial, -⟩
      rw [hsame] at hy
      exact absurd hserial (Nat.ne_of_lt (h.table.serial_lt hy))
    simp only [Net.follow, if_neg hnone]
    rfl
  | channel i e =>
    have hboth : lookup s'.channels i = none ↔ lookup n.server.channels i = none := by
      rw [← entry_eq_none, ← entry_eq_none, hsame]
    cases hnew : lookup s'.channels i with
    | none =>
      simp only [Net.follow, hnew, hboth.mp hnew]
      rfl
    | some slot =>
      obtain ⟨slot', hold⟩ := Option.ne_none_iff_exists'.mp (mt hboth.mpr (by rw [hnew]; simp))
      simp only [Net.follow, hnew, hold]
      rfl
  | _ => rfl

/-- **An event of the channels** leaves both sides in order. -/
theorem follow_ok {e : ServerEvent} (h : NetInv opts n) (hstep : ServerStep cfg opts n.server e s')
    (hcallback : e.isConnectDone = false) (addresses : Nat) :
    ∃ n', n.follow s' addresses e = .ok n' ∧ n'.server = s' ∧ NetInv opts n' := by
  have htable := hstep.tableStep h.table.settled hcallback
  have ht : TableInv opts s' := h.table.step hstep (htable.index h.table.index)
  have hle := hstep.opened_le h.table.settled
  cases htable with
  | same hsame => exact ⟨_, h.follow_same hsame addresses, rfl, h.same ht hsame hle⟩
  | incoming i conn_pending hfree hchanged =>
    have hconnecting := connecting_eq s' n.server.opened
    cases conn_pending with
    | false =>
      have hnone : ¬ ((s'.channels.any fun entry => entry.any fun slot =>
          decide (slot.serial = n.server.opened) && slot.channel.conn_pending) = true) := by
        rw [hconnecting]
        rintro ⟨j, y, hy, hserial, hpending⟩
        have hj : j = i := ht.unique hy hchanged.here hserial
        rw [hj, hchanged.here] at hy
        cases hy
        cases hpending
      refine ⟨{ n with server := s' }, ?_, rfl, h.entered ht hfree hchanged hle⟩
      simp only [Net.follow, if_neg hnone]
      rfl
    | true =>
      refine ⟨_, ?_, rfl, h.connecting ht hfree hchanged addresses⟩
      simp only [Net.follow, if_pos (hconnecting.mpr ⟨i, _, hchanged.here, rfl, rfl⟩)]
      rfl
  | outgoing i hfree hchanged => exact ⟨_, rfl, rfl, h.entered ht hfree hchanged hle⟩
  | removed x hold hchanged =>
    obtain ⟨slot, hslot, rfl⟩ := entry_eq_some hold
    obtain ⟨n', hremove, hserver, hinv, -, -⟩ := h.removed ht hold hchanged hle
    refine ⟨n', ?_, hserver, hinv⟩
    simp only [Net.follow, hslot, entry_eq_none.mp hchanged.here]
    exact hremove

/-! ## Callbacks -/

theorem TableInv.slotOf_eq {s : Server} (h : TableInv opts s) (hx : s.entry i = some x) :
    s.slotOf x.serial = some i := by
  obtain ⟨slot, hslot, rfl⟩ := entry_eq_some hx
  unfold Server.slotOf
  cases hfind : s.channels.findIdx? fun entry =>
      entry.any fun slot' => decide (slot'.serial = slot.entry.serial) with
  | none =>
    have hnone := List.findIdx?_eq_none_iff.mp hfind (some slot) (mem_iff_lookup.mpr ⟨i, hslot⟩)
    simp [Slot.entry] at hnone
  | some j =>
    obtain ⟨hlt, htest, -⟩ := List.findIdx?_eq_some_iff_getElem.mp hfind
    obtain ⟨slot', hslot', hserial⟩ := (Option.any_eq_true _ _).mp htest
    have hj : lookup s.channels j = some slot' := by
      rw [lookup_eq_some, List.getElem?_eq_getElem hlt, hslot']
    rw [h.unique (entry_of_lookup hj) hx (of_decide_eq_true hserial)]

/-- A channel whose connection was made waits no longer. -/
theorem NetInv.completed (h : NetInv opts n) (ht : TableInv opts s') (hx : n.server.entry i = some x)
    (hchanged : n.server.Changed i (some { x with conn_pending := false }) s')
    (hle : n.server.opened ≤ s'.opened) (hc : c ∈ n.conn_pending) (howner : c.owner = some x.serial) :
    NetInv opts (remove_connect
      { n with server := s', pointers := Function.update n.pointers x.serial none } c.id) where
  table := ht
  flag j y hy := by
    by_cases hj : j = i
    · have hy' : s'.entry i = some y := hj ▸ hy
      rw [hchanged.here] at hy'
      cases hy'
      have hpointer : Function.update n.pointers x.serial none x.serial = none :=
        Function.update_self _ _ _
      exact (congrArg Option.isSome hpointer).symm
    · have hy' : n.server.entry j = some y := (hchanged.others j hj).symm.trans hy
      exact h.flag_update hy' (h.serial_ne hx hy' hj)
  linked := by
    have hlinked := h.linked.complete hc howner
    exact hlinked.congr (hchanged.live_changed hx rfl)
  below r hr := h.below r (Backrefs.mem_discard.mp hr).1
  unborn channel hchannel :=
    update_none_of_none (h.unborn channel (Nat.le_trans hle hchannel))

/-- **Every callback** is called for a channel that is there, and leaves both sides in order. -/
theorem conclude_ok (h : NetInv opts n) (hc : c ∈ n.conn_pending) (sock : Option Nat) :
    ∃ n', n.conclude cfg opts c sock = .ok n' ∧ Follows cfg opts n n' ∧
      n'.ids = n.ids.filter fun id => decide (id ≠ c.id) := by
  cases hcb : c.cb with
  | cancel_callback =>
    have howner : c.owner = none := by rw [Connection.owner, hcb]
    refine ⟨remove_connect n c.id, ?_, ⟨h.removeConnect ?_, [], .nil _⟩, Backrefs.map_key_discard⟩
    · simp only [Net.conclude, hcb]
      rfl
    · intro r hr hid
      rw [h.linked.eq_of_key hr hc hid, howner]
  | channel_connect_done channel =>
    have howner := owner_eq_some hcb
    obtain ⟨⟨i, x, hx, rfl⟩, hpointer⟩ := h.linked.refers c hc channel howner
    have hpending : x.conn_pending = true := by rw [h.flag i x hx, hpointer]; rfl
    obtain ⟨s', hstep, hchanged⟩ : ∃ s', ServerStep cfg opts n.server _ s' ∧ _ :=
      connectDone_changed h.table.settled hx hpending sock
    have hle := hstep.opened_le h.table.settled
    have hrun : Runs.Run (ServerStep cfg opts) n.server _ s' := .single hstep
    have hindex : ∀ j y, s'.entry j = some y → y.index = j := by
      refine hchanged.index h.table.index ?_
      intro y hy
      cases sock with
      | none => cases hy
      | some sock =>
        cases hy
        exact h.table.index i x hx
    have ht := h.table.step hstep hindex
    have hserver : aborts (serverStep cfg opts n.server (.channel i (.connectDone sock))) = .ok s' :=
      aborts_eq_ok.mpr hstep.2
    cases sock with
    | some sock =>
      refine ⟨_, ?_, ⟨h.completed ht hx hchanged hle hc howner, _, hrun⟩, Backrefs.map_key_discard⟩
      simp only [Net.conclude, hcb, Net.channel_connect_done, h.table.slotOf_eq hx, hserver, ok_bind]
      rfl
    | none =>
      obtain ⟨n₁, hremove, rfl, hinv, hids, hnone⟩ := h.removed ht hx hchanged hle
      refine ⟨remove_connect n₁ c.id, ?_, ⟨hinv.removeConnect ?_, _, hrun⟩, ?_⟩
      · simp only [Net.conclude, hcb, Net.channel_connect_done, h.table.slotOf_eq hx, hserver, ok_bind,
          hremove]
        rfl
      · intro r hr hid
        exact hnone r hr (hid ▸ hpointer)
      · rw [← hids]
        exact Backrefs.map_key_discard

/-! ## The loops -/

theorem Connection.setGoing_id (c : Connection) (attempt : Nat → Option Nat) :
    (c.setGoing attempt).id = c.id := by
  unfold Connection.setGoing
  split
  · rfl
  · rfl

theorem Connection.setGoing_cb (c : Connection) (attempt : Nat → Option Nat) :
    (c.setGoing attempt).cb = c.cb := by
  unfold Connection.setGoing
  split
  · rfl
  · rfl

theorem setConnection_ok (h : NetInv opts n) (attempt : Nat → Nat → Option Nat) (hid : id ∈ n.ids) :
    ∃ n', n.setConnection cfg opts attempt id = .ok n' ∧ Follows cfg opts n n' ∧
      ∀ k ∈ n.ids, k ≠ id → k ∈ n'.ids := by
  obtain ⟨c, hc, rfl⟩ := List.mem_map.mp hid
  have hsame := c.setGoing_id (attempt c.id)
  have hinv := h.update hc hsame (c.setGoing_cb (attempt c.id))
  have hids := ids_update n c hsame
  cases hsock : (c.setGoing (attempt c.id)).sock with
  | some sock =>
    refine ⟨_, ?_, ⟨hinv, [], .nil _⟩, ?_⟩
    · simp only [Net.setConnection, h.connection_of_mem hc, ok_bind, hsock]
      rfl
    · intro k hk _
      rw [hids]
      exact hk
  | none =>
    obtain ⟨n', hconclude, hfollows, hids'⟩ : ∃ n', _ ∧ Follows cfg opts _ n' ∧ _ :=
      conclude_ok hinv (Backrefs.mem_modify_of_eq hc rfl) none
    refine ⟨n', ?_, hfollows, ?_⟩
    · simp only [Net.setConnection, h.connection_of_mem hc, ok_bind, hsock]
      exact hconclude
    · intro k hk hne
      rw [hids', hids, hsame]
      exact List.mem_filter.mpr ⟨hk, decide_eq_true hne⟩

/-- **The rounds of `set_connect_fds`** do not take out a connection that is still to come. -/
theorem setConnections_ok (attempt : Nat → Nat → Option Nat) (ids : List Nat) (h : NetInv opts n)
    (hids : ∀ id ∈ ids, id ∈ n.ids) (hnodup : ids.Nodup) :
    ∃ n', ids.foldlM (Net.setConnection cfg opts attempt) n = .ok n' ∧ Follows cfg opts n n' := by
  induction ids generalizing n with
  | nil => exact ⟨n, rfl, h, [], .nil _⟩
  | cons id ids ih =>
    obtain ⟨hnot, hnodup⟩ := List.nodup_cons.mp hnodup
    obtain ⟨n₁, hone, hfollows, hkeep⟩ : ∃ n₁, _ ∧ Follows cfg opts n n₁ ∧ _ :=
      setConnection_ok h attempt (hids id List.mem_cons_self)
    have hids₁ : ∀ k ∈ ids, k ∈ n₁.ids := by
      intro k hk
      refine hkeep k (hids k (List.mem_cons_of_mem id hk)) ?_
      rintro rfl
      exact hnot hk
    obtain ⟨n₂, hrest, hfollows₂⟩ := ih hfollows.1 hids₁ hnodup
    refine ⟨n₂, ?_, hfollows.trans hfollows₂⟩
    rw [List.foldlM_cons, hone, ok_bind]
    exact hrest

/-- **The loop of `handle_connect_fds`** takes out one connection at most, and ends then. -/
theorem handle_connect_fds_loop_ok (ready : Nat → Option Bool) (ids : List Nat) (h : NetInv opts n)
    (hids : ∀ id ∈ ids, id ∈ n.ids) :
    ∃ n', handle_connect_fds_loop cfg opts ready n ids = .ok n' ∧ Follows cfg opts n n' := by
  induction ids generalizing n with
  | nil => exact ⟨n, rfl, h, [], .nil _⟩
  | cons id ids ih =>
    obtain ⟨c, hc, rfl⟩ := List.mem_map.mp (hids id List.mem_cons_self)
    have hfound := h.connection_of_mem hc
    have htail : ∀ k ∈ ids, k ∈ n.ids := fun k hk => hids k (List.mem_cons_of_mem _ hk)
    obtain ⟨n₁, hrest, hfollows⟩ := ih h htail
    cases hsock : c.sock with
    | none =>
      refine ⟨n₁, ?_, hfollows⟩
      simp only [handle_connect_fds_loop, hfound, ok_bind, hsock]
      exact hrest
    | some sock =>
      cases hready : ready c.id with
      | none =>
        refine ⟨n₁, ?_, hfollows⟩
        simp only [handle_connect_fds_loop, hfound, ok_bind, hsock, hready]
        exact hrest
      | some connected =>
        cases connected with
        | true =>
          obtain ⟨n₂, hconclude, hfollows₂, -⟩ : ∃ n₂, _ ∧ Follows cfg opts n n₂ ∧ _ :=
            conclude_ok h hc (some sock)
          refine ⟨n₂, ?_, hfollows₂⟩
          simp only [handle_connect_fds_loop, hfound, ok_bind, hsock, hready]
          exact hconclude
        | false =>
          have hclosed : ({ c with sock := none } : Connection).id = c.id := rfl
          have hinv := h.update hc hclosed rfl
          obtain ⟨n₂, hrest₂, hfollows₂⟩ := ih hinv ((ids_update n c hclosed).symm ▸ htail)
          refine ⟨n₂, ?_, hfollows₂⟩
          simp only [handle_connect_fds_loop, hfound, ok_bind, hsock, hready]
          exact hrest₂

/-! ## Every run -/

/-- **Every event** leaves both sides in order, or ends the process without using anything that has been
freed. -/
theorem netStep_meets {e : NetEvent} (h : NetInv opts n) (hpossible : e.Possible n) :
    Meets (netStep cfg opts n e) NetAbort.Ordinary (Follows cfg opts n) := by
  cases e with
  | server e addresses =>
    cases hserver : serverStep cfg opts n.server e with
    | error a =>
      simp only [netStep, hserver]
      exact ⟨a, rfl⟩
    | ok s' =>
      have hstep : ServerStep cfg opts n.server e s' := ⟨hpossible.1, hserver⟩
      obtain ⟨n', hfollow, hsame, hinv⟩ := follow_ok h hstep hpossible.2 addresses
      have hok : netStep cfg opts n (.server e addresses) = .ok n' := by
        simp only [netStep, hserver]
        exact hfollow
      rw [hok]
      refine ⟨hinv, [e], ?_⟩
      rw [hsame]
      exact .single hstep
  | setConnects attempt =>
    obtain ⟨n', hok, hfollows⟩ : ∃ n', _ ∧ Follows cfg opts n n' :=
      setConnections_ok attempt n.ids h (fun _ hid => hid) h.linked.distinct
    have hnet : netStep cfg opts n (.setConnects attempt) = .ok n' := hok
    rw [hnet]
    exact hfollows
  | handleConnects ready =>
    obtain ⟨n', hok, hfollows⟩ : ∃ n', _ ∧ Follows cfg opts n n' :=
      handle_connect_fds_loop_ok ready n.ids h fun _ hid => hid
    have hnet : netStep cfg opts n (.handleConnects ready) = .ok n' := hok
    rw [hnet]
    exact hfollows

theorem NetStep.follows {e : NetEvent} (h : NetStep cfg opts n e n') (hinv : NetInv opts n) :
    Follows cfg opts n n' :=
  (netStep_meets hinv h.1).of_ok h.2

/-- A run of the whole is a run of the tables. -/
theorem NetRun.follows {es : List NetEvent} (h : Runs.Run (NetStep cfg opts) n es n')
    (hinv : NetInv opts n) : Follows cfg opts n n' := by
  have hstep : ∀ ⦃n₁ e n₂⦄, Follows cfg opts n n₁ → NetStep cfg opts n₁ e n₂ →
      Follows cfg opts n n₂ := fun _ _ _ hfollows hnet => hfollows.trans (hnet.follows hfollows.1)
  have hall := h.invariant hstep ⟨hinv, [], .nil _⟩
  exact hall

/-- A channel stays in its slot until it is removed. -/
theorem Follows.keeps {channel : Nat} (h : Follows cfg opts n n') (hinv : NetInv opts n)
    (hkeeps : n.server.Keeps i channel) : n'.server.Keeps i channel := by
  obtain ⟨-, es, hrun⟩ := h
  have hstep : ∀ ⦃s₁ e s₂⦄, Settled opts s₁ ∧ s₁.Keeps i channel → ServerStep cfg opts s₁ e s₂ →
      Settled opts s₂ ∧ s₂.Keeps i channel :=
    fun _ _ _ hboth hnext => ⟨hnext.settled hboth.1, hnext.keeps hboth.1 hboth.2⟩
  have hall := hrun.invariant hstep ⟨hinv.table.settled, hkeeps⟩
  exact hall.2

/-- **The table of channels and the pending connections are consistent**, whatever happens in which
order: a channel in the table has the index of its slot, the channels are counted, and a channel stays
in its slot until it is removed; a connection that will tell a channel tells one that is in the table
and points back to it. So no callback and no channel uses what has been freed. -/
theorem channels_and_connects_consistent {env₀ : Env} {es : List NetEvent}
    (h : NetRun cfg opts env₀ es n) :
    (∀ i slot, lookup n.server.channels i = some slot → slot.channel.index = i) ∧
      n.server.chancount = used n.server.channels ∧
      (∀ es' n', Runs.Run (NetStep cfg opts) n es' n' → ∀ i slot,
        lookup n.server.channels i = some slot →
          (∃ slot', lookup n'.server.channels i = some slot' ∧ slot'.serial = slot.serial) ∨
            ∃ gone ∈ n'.server.gone, gone.serial = slot.serial) ∧
      (∀ c ∈ n.conn_pending, ∀ channel, c.cb = .channel_connect_done channel →
        ∃ i slot, lookup n.server.channels i = some slot ∧ slot.serial = channel ∧
          slot.channel.conn_pending = true ∧ n.pointers channel = some c.id) ∧
      ∀ e : NetEvent, e.Possible n → ∀ k, netStep cfg opts n e ≠ .error (.freedChannel k) ∧
        netStep cfg opts n e ≠ .error (.freedConnection k) := by
  have hinv : NetInv opts n := (NetRun.follows h (.start _)).1
  refine ⟨?_, hinv.table.settled.inv.chancount, ?_, ?_, ?_⟩
  · intro i slot hslot
    exact hinv.table.index i slot.entry (entry_of_lookup hslot)
  · intro es' n' hrun i slot hslot
    exact (NetRun.follows hrun hinv).keeps hinv (.inl ⟨slot, hslot, rfl⟩)
  · intro c hc channel hcb
    obtain ⟨⟨i, x, hx, rfl⟩, hpointer⟩ := hinv.linked.refers c hc channel (owner_eq_some hcb)
    obtain ⟨slot, hslot, rfl⟩ := entry_eq_some hx
    refine ⟨i, slot, hslot, rfl, ?_, hpointer⟩
    have hflag := hinv.flag i slot.entry hx
    rw [hpointer] at hflag
    exact hflag
  · intro e hpossible k
    have hmeets : Meets (netStep cfg opts n e) _ _ := netStep_meets hinv hpossible
    constructor
    · intro herror
      obtain ⟨a, ha⟩ := hmeets.of_error herror
      cases ha
    · intro herror
      obtain ⟨a, ha⟩ := hmeets.of_error herror
      cases ha

/-- A client closes a channel before its connection is made, and opens another one, which gets the same
slot. Then the first connection is made. -/
def closedWhileConnecting : List NetEvent :=
  loginAndOpen.map (fun e => .server e 0) ++ [
    .server (.channelOpen .svr_chan_tcpdirect 1 100 100 false) 1,
    .setConnects fun _ _ => some 20,
    .server (.channel 1 (.close noFlush)) 0,
    .server (.channelOpen .svr_chan_tcpdirect 2 100 100 false) 2,
    .handleConnects fun _ => some true]

theorem channels_and_connects_consistent_closedWhileConnecting : ∃ n c,
    NetRun (plainConfig noCrypto noKexCrypto) tinyOpts noKeysEnv closedWhileConnecting n ∧
      n.conn_pending = [c] ∧ c.cb = .channel_connect_done 2 ∧
      ∃ i slot, lookup n.server.channels i = some slot ∧ slot.serial = 2 ∧
        slot.channel.conn_pending = true ∧ n.pointers 2 = some c.id := by
  have hexec : (runNet (plainConfig noCrypto noKexCrypto) tinyOpts noKeysEnv
      closedWhileConnecting).any (fun n =>
        decide (n.conn_pending = [⟨1, .channel_connect_done 2, 2, none⟩])) = true := by
    decide +kernel
  obtain ⟨n, hn, htest⟩ := (Option.any_eq_true _ _).mp hexec
  have hrun := netRun_of_runNet hn
  have hlist := of_decide_eq_true htest
  obtain ⟨-, -, -, hrefers, -⟩ := channels_and_connects_consistent hrun
  refine ⟨n, _, hrun, hlist, rfl, hrefers _ ?_ 2 rfl⟩
  rw [hlist]
  exact List.mem_singleton_self _

end SimpleSshd.Dropbear
