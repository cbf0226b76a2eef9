import SimpleSshd.Dropbear.Server
import SimpleSshd.Dropbear.Proofs.CloseProofs
import SimpleSshd.Dropbear.Proofs.KeyOptionsProofs

/-!
# Proofs: the tables of a connection

Every event of a connection is a sequence of a few acts on its tables. Every channel in the table is in
a state that a run of its own events leads to, so that what holds of every channel holds of those in
the table; and every entry of `childpids` names a session that started a process with its pid.
-/

namespace SimpleSshd.Dropbear

open Fallible Slots

variable {cfg : Config} {opts : Opts} {fresh : Server → Nat → Prop} {s s' : Server} {i : Nat}
  {slot : Slot} {c c' : Channel}

/-! ## Acts -/

/-- The channel in a slot has changed. -/
def Server.put (s : Server) (i : Nat) (slot : Slot) (channel : Channel) : Server :=
  { s with channels := place s.channels i { slot with channel := channel } }

/-- A channel was opened. -/
def Server.entered (s : Server) (channels : List (Option Slot)) (i : Nat) (channel : Channel) :
    Server :=
  { s with
    channels := place channels i { serial := s.opened, channel := channel }
    chancount := s.chancount + 1
    opened := s.opened + 1 }

/-- A request is handled, by a session which is `rest` apart from its authentication state. -/
def Authenticates (cfg : Config) (rest : Session) (r : Request) (s s' : Server) : Prop :=
  ∃ session, recv_msg_userauth_request cfg r.env { rest with authstate := s.authstate } r.payload =
    .ok session ∧ s' = { s with authstate := session.authstate }

/-- One thing that happens to the tables. Processes are started only with a pid that is `fresh`. -/
inductive ServerAct (opts : Opts) (fresh : Server → Nat → Prop) : Server → Server → Prop
  -- channels
  | entered {s : Server} {channels : List (Option Slot)} {i : Nat} {c : Channel}
      (hauth : s.authstate.authdone = true) (hnew : s.newchannel = some (channels, i))
      (hcreated : Created opts c) :
      ServerAct opts fresh s (s.entered channels i c)
  | stepped {s : Server} {i : Nat} {slot : Slot} {e : ChannelEvent} {c' : Channel}
      (hslot : lookup s.channels i = some slot) (hstep : ChannelStep opts slot.channel e c')
      (hexit : ∀ info, e ≠ .childExited info)
      (hstarted : c'.trace.started = slot.channel.trace.started) :
      ServerAct opts fresh s (s.put i slot c')
  | removed {s : Server} {i : Nat} {slot : Slot} (hslot : lookup s.channels i = some slot) :
      ServerAct opts fresh s (s.remove_channel i slot)
  -- processes
  | started {s : Server} {i : Nat} {slot : Slot} {payload : Buffer} {env : RequestEnv} {c' : Channel}
      {p : Started} {spawn : Spawned} (hslot : lookup s.channels i = some slot)
      (hstep : ChannelStep opts slot.channel (.request payload env) c')
      (hstarted : c'.trace.started = slot.channel.trace.started ++ [p]) (hpid : p.pid = spawn.pid)
      (hforced : Forced opts s.authstate.pubkey_options p) (hfree : s.PidFree spawn.pid)
      (hfresh : fresh s spawn.pid) :
      ServerAct opts fresh s
        (((s.put i slot c').fork spawn.pid slot.serial).addchildpid i spawn.pid spawn.pid_pos)
  | late {s : Server} {i : Nat} {slot : Slot} {info : ExitInfo} (hlast : s.lastexit = some info)
      (hsession : s.sessionOf info.exitpid = some i) (hslot : lookup s.channels i = some slot)
      (hstep : ChannelStep opts slot.channel (.childExited info) (slot.channel.recordExit info)) :
      ServerAct opts fresh s
        { s.put i slot (slot.channel.recordExit info) with lastexit := none }
  | exited {s : Server} (pid : Nat) (status : ExitStatus) :
      ServerAct opts fresh s { s with processes := s.processes.map (Process.exit pid status) }
  | reaped {s : Server} {i : Nat} {slot : Slot} {info : ExitInfo}
      (hzombie : ∃ p ∈ s.processes, p.pid = info.exitpid ∧ p.state = .zombie info.status)
      (hsession : s.sessionOf info.exitpid = some i) (hslot : lookup s.channels i = some slot)
      (hstep : ChannelStep opts slot.channel (.childExited info) (slot.channel.recordExit info)) :
      ServerAct opts fresh s
        { s.put i slot (slot.channel.recordExit info) with
          processes := s.processes.map (Process.reap info) }
  | unmatched {s : Server} {info : ExitInfo} (hsession : s.sessionOf info.exitpid = none) :
      ServerAct opts fresh s { s with
        processes := s.processes.map (Process.reap info)
        lastexit := some info }

/-- A sequence of acts. -/
abbrev ServerActs (opts : Opts) (fresh : Server → Nat → Prop) : Server → Server → Prop :=
  Relation.ReflTransGen (ServerAct opts fresh)

/-! ## Looking up sessions -/

theorem sessionOf_eq_some {pid : Nat} (h : s.sessionOf pid = some i) :
    ∃ child, some child ∈ s.childpids ∧ child.pid = pid ∧ child.chansess = i := by
  obtain ⟨entry, hmem, hentry⟩ := List.exists_of_findSome?_eq_some h
  obtain ⟨child, rfl, hchild⟩ := Option.bind_eq_some_iff.mp hentry
  split at hchild
  · rename_i hpid
    exact ⟨child, hmem, hpid, Option.some.inj hchild⟩
  · cases hchild

theorem sessionOf_eq_none {pid : Nat} (h : s.sessionOf pid = none) {child : ChildPid}
    (hmem : some child ∈ s.childpids) : child.pid ≠ pid := by
  intro hpid
  have hentry := List.findSome?_eq_none_iff.mp h (some child) hmem
  rw [Option.bind_some, if_pos hpid] at hentry
  cases hentry

/-! ## The invariant -/

/-- The events of some run lead to the channel. -/
def Reached (opts : Opts) (c : Channel) : Prop := ∃ es, ChannelRun opts es c

theorem Reached.of_created (h : Created opts c) : Reached opts c := ⟨[], c, h, .nil c⟩

theorem Reached.step {e : ChannelEvent} (h : Reached opts c) (hstep : ChannelStep opts c e c') :
    Reached opts c' := by
  obtain ⟨es, c₀, hcreated, hrun⟩ := h
  exact ⟨es ++ [e], c₀, hcreated, hrun.append (.single hstep)⟩

theorem Reached.known (h : Reached opts c) : Known c := by
  obtain ⟨es, hrun⟩ := h
  exact hrun.known.2

structure ServerInv (opts : Opts) (s : Server) : Prop where
  channels : ∀ i slot, lookup s.channels i = some slot →
    Reached opts slot.channel ∧ slot.serial < s.opened
  gone : ∀ slot ∈ s.gone, Reached opts slot.channel
  chancount : s.chancount = used s.channels
  /-- An entry of `childpids` names a session that started a process with its pid. -/
  children : ∀ child, some child ∈ s.childpids → ∃ slot,
    lookup s.channels child.chansess = some slot ∧
      child.pid ∈ slot.channel.trace.started.map Started.pid
  unauthenticated : s.authstate.authdone = false →
    (∀ i, lookup s.channels i = none) ∧ s.gone = []

theorem lookup_start (authstate : AuthState) (i : Nat) :
    lookup (Server.start authstate).channels i = none := by
  cases i with
  | zero => rfl
  | succ i => rfl

theorem ServerInv.start (authstate : AuthState) : ServerInv opts (Server.start authstate) := by
  refine ⟨fun i slot hslot => ?_, fun slot hslot => (nomatch hslot), rfl, fun child hchild => ?_,
    fun _ => ⟨lookup_start authstate, rfl⟩⟩
  · rw [lookup_start] at hslot
    cases hslot
  · cases List.mem_singleton.mp hchild

/-- A connection with channels is authenticated. -/
theorem ServerInv.authdone (h : ServerInv opts s) (hslot : lookup s.channels i = some slot) :
    s.authstate.authdone = true := by
  by_contra hauth
  have hnone := (h.unauthenticated (Bool.eq_false_iff.mpr hauth)).1 i
  rw [hslot] at hnone
  cases hnone

/-! ### What the acts are made of -/

/-- **Once authenticated, always**: a request that is handled then changes nothing. -/
theorem Authenticates.eq_of_authdone {rest : Session} {r : Request}
    (h : Authenticates cfg rest r s s') (hdone : s.authstate.authdone = true) : s' = s := by
  obtain ⟨session, hrecv, rfl⟩ := h
  rw [recv_msg_userauth_request_done hdone hrecv]

theorem Authenticates.inv {rest : Session} {r : Request} (h : Authenticates cfg rest r s s')
    (hinv : ServerInv opts s) : ServerInv opts s' := by
  by_cases hdone : s.authstate.authdone = true
  · rw [h.eq_of_authdone hdone]
    exact hinv
  · obtain ⟨session, -, rfl⟩ := h
    exact ⟨hinv.channels, hinv.gone, hinv.chancount, hinv.children,
      fun _ => hinv.unauthenticated (Bool.eq_false_iff.mpr hdone)⟩

/-- The processes and `lastexit` do not matter. -/
theorem ServerInv.kernel (h : ServerInv opts s) (processes : List Process)
    (lastexit : Option ExitInfo) :
    ServerInv opts { s with processes := processes, lastexit := lastexit } :=
  ⟨h.channels, h.gone, h.chancount, h.children, h.unauthenticated⟩

/-- What is in the table when a channel has changed. -/
theorem lookup_put {j : Nat} {a : Slot} (h : lookup (s.put i slot c').channels j = some a) :
    i = j ∧ a = { slot with channel := c' } ∨ i ≠ j ∧ lookup s.channels j = some a :=
  lookup_place_eq_some h

theorem ServerInv.put (h : ServerInv opts s) (hslot : lookup s.channels i = some slot)
    (hreached : Reached opts c')
    (hstarted : ∃ new, c'.trace.started = slot.channel.trace.started ++ new) :
    ServerInv opts (s.put i slot c') := by
  have hlt := lt_of_lookup hslot
  obtain ⟨new, hnew⟩ := hstarted
  refine ⟨fun j slot' hslot' => ?_, h.gone, ?_, fun child hchild => ?_, fun hauth => ?_⟩
  · rcases lookup_put hslot' with ⟨rfl, rfl⟩ | ⟨-, hold⟩
    · exact ⟨hreached, (h.channels i slot hslot).2⟩
    · exact h.channels j slot' hold
  · exact h.chancount.trans (used_replace hslot).symm
  · obtain ⟨slot', hslot', hpid⟩ := h.children child hchild
    by_cases hij : i = child.chansess
    · rw [← hij, hslot] at hslot'
      cases hslot'
      refine ⟨{ slot with channel := c' }, ?_, ?_⟩
      · rw [← hij]
        exact lookup_place_self hlt
      · rw [hnew, List.map_append]
        exact List.mem_append_left _ hpid
    · exact ⟨slot', (lookup_place_ne hij).trans hslot', hpid⟩
  · exact absurd ((h.authdone hslot).symm.trans hauth) (by decide)

theorem newchannel_spec {channels : List (Option Slot)} (h : s.newchannel = some (channels, i)) :
    i < channels.length ∧ lookup s.channels i = none ∧
      (∀ j, lookup channels j = lookup s.channels j) ∧ used channels = used s.channels := by
  unfold Server.newchannel at h
  split at h
  · cases h
  · obtain ⟨hlt, hfree, hsame, hused⟩ := alloc_spec (show 0 < CHAN_EXTEND_SIZE by decide) s.channels
    rw [Option.some.inj h] at hlt hfree hsame hused
    exact ⟨hlt, (hsame i).symm.trans hfree, hsame, hused⟩

/-- What is in the table when a channel was opened. -/
theorem lookup_entered {channels : List (Option Slot)} {j : Nat} {a : Slot}
    (hnew : s.newchannel = some (channels, i))
    (h : lookup (s.entered channels i c).channels j = some a) :
    i = j ∧ a = { serial := s.opened, channel := c } ∨ i ≠ j ∧ lookup s.channels j = some a := by
  obtain ⟨-, -, hsame, -⟩ := newchannel_spec hnew
  rcases lookup_place_eq_some h with hlast | ⟨hij, hold⟩
  · exact .inl hlast
  · exact .inr ⟨hij, (hsame j).symm.trans hold⟩

theorem ServerInv.entered {channels : List (Option Slot)} (h : ServerInv opts s)
    (hauth : s.authstate.authdone = true) (hnew : s.newchannel = some (channels, i))
    (hcreated : Created opts c) : ServerInv opts (s.entered channels i c) := by
  obtain ⟨hlt, hfree, hsame, hused⟩ := newchannel_spec hnew
  refine ⟨fun j slot hslot => ?_, h.gone, ?_, fun child hchild => ?_, fun hfalse => ?_⟩
  · rcases lookup_entered hnew hslot with ⟨-, rfl⟩ | ⟨-, hold⟩
    · exact ⟨.of_created hcreated, Nat.lt_succ_self _⟩
    · obtain ⟨hreached, hserial⟩ := h.channels j slot hold
      exact ⟨hreached, Nat.lt_succ_of_lt hserial⟩
  · rw [Server.entered, used_place hlt ((hsame i).trans hfree), hused, h.chancount]
  · obtain ⟨slot, hslot, hpid⟩ := h.children child hchild
    have hij : i ≠ child.chansess := by
      intro hij
      rw [← hij, hfree] at hslot
      cases hslot
    exact ⟨slot, (lookup_place_ne hij).trans ((hsame _).trans hslot), hpid⟩
  · rw [Server.entered, hauth] at hfalse
    cases hfalse

/-- The entries of `childpids` that are left when a channel is removed. -/
theorem mem_childpids_remove {child : ChildPid} (h : ServerInv opts s)
    (hslot : lookup s.channels i = some slot)
    (hchild : some child ∈ (s.remove_channel i slot).childpids) :
    some child ∈ s.childpids ∧ child.chansess ≠ i := by
  by_cases htype : slot.channel.type = .svrchansess
  · rw [Server.remove_channel, if_pos htype] at hchild
    obtain ⟨hmem, hkeep⟩ := mem_retain.mp hchild
    exact ⟨hmem, bne_iff_ne.mp hkeep⟩
  · -- only a session has entries there
    rw [Server.remove_channel, if_neg htype] at hchild
    refine ⟨hchild, fun heq => ?_⟩
    obtain ⟨slot', hslot', hpid⟩ := h.children child hchild
    rw [heq, hslot] at hslot'
    cases hslot'
    have hcheck : slot.channel.type.check_close = false := by
      cases hkind : slot.channel.type with
      | svrchansess => exact absurd hkind htype
      | svr_chan_tcpdirect => rfl
      | svr_chan_tcpremote => rfl
    rw [(h.channels i slot hslot).1.known.processes.other hcheck] at hpid
    cases hpid

theorem remove_channel_eq (s : Server) (i : Nat) (slot : Slot) :
    s.remove_channel i slot =
      { s with
        channels := clear s.channels i
        chancount := s.chancount - 1
        childpids := (s.remove_channel i slot).childpids
        gone := s.gone ++ [slot] } := by
  unfold Server.remove_channel
  split
  · rfl
  · rfl

/-- What is in the table when a channel was removed. -/
theorem lookup_removed {j : Nat} {a : Slot}
    (h : lookup (s.remove_channel i slot).channels j = some a) :
    i ≠ j ∧ lookup s.channels j = some a := by
  rw [remove_channel_eq] at h
  exact lookup_clear_eq_some h

theorem ServerInv.removed (h : ServerInv opts s) (hslot : lookup s.channels i = some slot) :
    ServerInv opts (s.remove_channel i slot) := by
  have hchildren : ∀ child, some child ∈ (s.remove_channel i slot).childpids →
      some child ∈ s.childpids ∧ child.chansess ≠ i := fun _ => mem_childpids_remove h hslot
  rw [remove_channel_eq]
  refine ⟨fun j slot' hslot' => ?_, fun slot' hslot' => ?_, ?_, fun child hchild => ?_, fun hauth => ?_⟩
  · exact h.channels j slot' (lookup_clear_eq_some hslot').2
  · rcases List.mem_append.mp hslot' with hold | hnew
    · exact h.gone slot' hold
    · obtain rfl := List.mem_singleton.mp hnew
      exact (h.channels i _ hslot).1
  · have hused := used_clear hslot
    have hcount := h.chancount
    show s.chancount - 1 = used (clear s.channels i)
    omega
  · obtain ⟨hmem, hne⟩ := hchildren child hchild
    obtain ⟨slot', hslot', hpid⟩ := h.children child hmem
    exact ⟨slot', (lookup_clear_ne hne.symm).trans hslot', hpid⟩
  · exact absurd ((h.authdone hslot).symm.trans hauth) (by decide)

theorem mem_addchildpid {child : ChildPid} {pid : Nat} {pid_pos : 0 < pid}
    (h : some child ∈ (s.addchildpid i pid pid_pos).childpids) :
    child = { pid, pid_pos, chansess := i } ∨ some child ∈ s.childpids := by
  rcases mem_place h with hnew | hold
  · exact .inl hnew
  · exact .inr ((mem_alloc (by decide)).mp hold)

theorem ServerInv.addchildpid {pid : Nat} {pid_pos : 0 < pid} (h : ServerInv opts s)
    (hslot : lookup s.channels i = some slot)
    (hpid : pid ∈ slot.channel.trace.started.map Started.pid) :
    ServerInv opts (s.addchildpid i pid pid_pos) := by
  refine ⟨h.channels, h.gone, h.chancount, fun child hchild => ?_, h.unauthenticated⟩
  rcases mem_addchildpid hchild with rfl | hold
  · exact ⟨slot, hslot, hpid⟩
  · exact h.children child hold

/-- **Every act** keeps the invariant. -/
theorem ServerAct.inv (h : ServerAct opts fresh s s') (hinv : ServerInv opts s) :
    ServerInv opts s' := by
  cases h with
  | entered hauth hnew hcreated => exact hinv.entered hauth hnew hcreated
  | stepped hslot hstep _ hstarted =>
    exact hinv.put hslot ((hinv.channels _ _ hslot).1.step hstep)
      ⟨[], hstarted.trans (List.append_nil _).symm⟩
  | removed hslot => exact hinv.removed hslot
  | started hslot hstep hstarted hpid =>
    have hput := hinv.put hslot ((hinv.channels _ _ hslot).1.step hstep) ⟨_, hstarted⟩
    refine (hput.kernel _ _).addchildpid (lookup_place_self (lt_of_lookup hslot)) ?_
    rw [hstarted, List.map_append, ← hpid]
    exact List.mem_append_right _ (List.mem_singleton_self _)
  | late _ _ hslot hstep =>
    have hput := hinv.put hslot ((hinv.channels _ _ hslot).1.step hstep) ⟨[], (List.append_nil _).symm⟩
    exact hput.kernel _ _
  | exited => exact hinv.kernel _ _
  | reaped _ _ hslot hstep =>
    have hput := hinv.put hslot ((hinv.channels _ _ hslot).1.step hstep) ⟨[], (List.append_nil _).symm⟩
    exact hput.kernel _ _
  | unmatched => exact hinv.kernel _ _

/-! ### Channels that are or were there -/

/-- The channel is in the table, or has been. -/
def Server.Has (s : Server) (slot : Slot) : Prop :=
  (∃ i, lookup s.channels i = some slot) ∨ slot ∈ s.gone

theorem not_has_start (authstate : AuthState) (slot : Slot) :
    ¬ (Server.start authstate).Has slot := by
  rintro (⟨i, hi⟩ | hgone)
  · rw [lookup_start] at hi
    cases hi
  · cases hgone

theorem has_put {slot' : Slot} (h : (s.put i slot c').Has slot') :
    slot' = { slot with channel := c' } ∨ s.Has slot' := by
  rcases h with ⟨j, hj⟩ | hgone
  · rcases lookup_put hj with ⟨-, heq⟩ | ⟨-, hold⟩
    · exact .inl heq
    · exact .inr (.inl ⟨j, hold⟩)
  · exact .inr (.inr hgone)

theorem has_entered {channels : List (Option Slot)} {slot' : Slot}
    (hnew : s.newchannel = some (channels, i)) (h : (s.entered channels i c).Has slot') :
    slot' = { serial := s.opened, channel := c } ∨ s.Has slot' := by
  rcases h with ⟨j, hj⟩ | hgone
  · rcases lookup_entered hnew hj with ⟨-, heq⟩ | ⟨-, hold⟩
    · exact .inl heq
    · exact .inr (.inl ⟨j, hold⟩)
  · exact .inr (.inr hgone)

theorem has_remove {slot' : Slot} (hslot : lookup s.channels i = some slot)
    (h : (s.remove_channel i slot).Has slot') : s.Has slot' := by
  rcases h with ⟨j, hj⟩ | hgone
  · exact .inl ⟨j, (lookup_removed hj).2⟩
  · rw [remove_channel_eq] at hgone
    rcases List.mem_append.mp hgone with hold | hnew
    · exact .inr hold
    · obtain rfl := List.mem_singleton.mp hnew
      exact .inl ⟨i, hslot⟩

/-- A connection that has or had channels is authenticated. -/
theorem ServerInv.authdone_of_has (h : ServerInv opts s) (hslot : s.Has slot) :
    s.authstate.authdone = true := by
  rcases hslot with ⟨i, hi⟩ | hgone
  · exact h.authdone hi
  · by_contra hauth
    rw [(h.unauthenticated (Bool.eq_false_iff.mpr hauth)).2] at hgone
    cases hgone

/-! ## Every event is a sequence of acts -/

/-- No channel in the table has been removed. -/
def Server.Present (s : Server) : Prop :=
  ∀ i slot, lookup s.channels i = some slot → slot.channel.removed = false

theorem Server.Present.put (h : s.Present) (hkeep : c'.removed = false) :
    (s.put i slot c').Present := by
  intro j slot' hslot'
  rcases lookup_put hslot' with ⟨-, rfl⟩ | ⟨-, hold⟩
  · exact hkeep
  · exact h j slot' hold

/-- A removed channel is taken out of the table. -/
theorem Server.Present.of_remove
    (h : ∀ j slot', i ≠ j → lookup s.channels j = some slot' → slot'.channel.removed = false) :
    (s.remove_channel i slot).Present := by
  intro j slot' hslot'
  obtain ⟨hij, hold⟩ := lookup_removed hslot'
  exact h j slot' hij hold

/-- Only requests start processes. -/
theorem EventActs.started_eq {e : ChannelEvent} (h : EventActs opts e c c')
    (hreq : ∀ payload env, e ≠ .request payload env) : c'.trace.started = c.trace.started := by
  have hallow : ∀ kind, e.Allows kind → kind ≠ .request := by
    intro kind hkind
    cases e with
    | request payload env => exact absurd rfl (hreq payload env)
    | childExited info =>
      rw [show kind = .exit from hkind]
      decide
    | _ => exact hkind.1
  induction h with
  | refl => rfl
  | tail _ hact ih =>
    obtain ⟨kind, hkind, hact⟩ := hact
    exact (hact.started_eq (hallow kind hkind)).trans ih

/-- A request does not remove the channel. -/
theorem ActsOf.removed_eq (h : ActsOf opts .request c c') : c'.removed = c.removed := by
  induction h with
  | refl => rfl
  | tail _ hact ih =>
    refine Eq.trans ?_ ih
    cases hact with
    | session => rfl
    | started => rfl
    | startedPty => rfl
    | succeeded => rfl
    | failed => rfl

/-- The exit of the child of a session is recorded. -/
theorem ServerInv.exit_step {info : ExitInfo} (h : ServerInv opts s) (hpresent : s.Present)
    (hsession : s.sessionOf info.exitpid = some i) :
    ∃ slot, lookup s.channels i = some slot ∧
      ChannelStep opts slot.channel (.childExited info) (slot.channel.recordExit info) := by
  obtain ⟨child, hmem, hpid, rfl⟩ := sessionOf_eq_some hsession
  obtain ⟨slot, hslot, hstarted⟩ := h.children child hmem
  rw [hpid] at hstarted
  exact ⟨slot, hslot, hpresent _ slot hslot, hstarted, rfl⟩

theorem recordExit_eq {info : ExitInfo} (hslot : lookup s.channels i = some slot) :
    s.recordExit i info = s.put i slot (slot.channel.recordExit info) := by
  rw [Server.recordExit, hslot]
  rfl

/-- What is known of the state between two events. -/
structure Settled (opts : Opts) (s : Server) : Prop where
  inv : ServerInv opts s
  present : s.Present

theorem takeLastexit_acts (fresh : Server → Nat → Prop) (h : Settled opts s) :
    ServerActs opts fresh s s.takeLastexit ∧ s.takeLastexit.Present := by
  unfold Server.takeLastexit
  cases hlast : s.lastexit with
  | none => exact ⟨.refl, h.present⟩
  | some info =>
    dsimp only
    cases hsession : s.sessionOf info.exitpid with
    | none => exact ⟨.refl, h.present⟩
    | some i =>
      obtain ⟨slot, hslot, hstep⟩ := h.inv.exit_step h.present hsession
      dsimp only
      rw [recordExit_eq hslot]
      refine ⟨.single (.late hlast hsession hslot hstep), ?_⟩
      exact h.present.put (h.present i slot hslot)

theorem checksignal_acts {info : ExitInfo} (h : Settled opts s)
    (hzombie : ∃ p ∈ s.processes, p.pid = info.exitpid ∧ p.state = .zombie info.status) :
    let s₁ := Server.checksignal { s with processes := s.processes.map (Process.reap info) } info
    ServerActs opts fresh s s₁ ∧ s₁.Present := by
  dsimp only
  unfold Server.checksignal
  cases hsession : Server.sessionOf { s with processes := s.processes.map (Process.reap info) }
      info.exitpid with
  | none => exact ⟨.single (.unmatched hsession), h.present⟩
  | some i =>
    obtain ⟨slot, hslot, hstep⟩ := h.inv.exit_step h.present hsession
    dsimp only
    rw [Server.recordExit, show lookup _ i = some slot from hslot]
    refine ⟨.single (.reaped hzombie hsession hslot hstep), ?_⟩
    exact h.present.put (h.present i slot hslot)

theorem enter_acts {channels : List (Option Slot)} (h : Settled opts s)
    (hauth : s.authstate.authdone = true) (hnew : s.newchannel = some (channels, i))
    (hcreated : Created opts c) :
    ServerActs opts fresh s (s.enter channels i c) ∧ (s.enter channels i c).Present := by
  have hentered : ServerAct opts fresh s (s.entered channels i c) :=
    .entered hauth hnew hcreated
  obtain ⟨hlt, -, hsame, -⟩ := newchannel_spec hnew
  have hothers : ∀ j slot, i ≠ j → lookup (s.entered channels i c).channels j = some slot →
      slot.channel.removed = false := by
    intro j slot hij hslot
    rw [Server.entered, lookup_place_ne hij, hsame] at hslot
    exact h.present j slot hslot
  unfold Server.enter
  by_cases hremoved : c.removed = true
  · rw [if_pos hremoved]
    exact ⟨.tail (.single hentered) (.removed (lookup_place_self hlt)), .of_remove hothers⟩
  · rw [if_neg hremoved]
    refine ⟨.single hentered, fun j slot hslot => ?_⟩
    by_cases hij : i = j
    · subst hij
      rw [lookup_place_self hlt] at hslot
      cases hslot
      exact Bool.eq_false_iff.mpr hremoved
    · exact hothers j slot hij hslot

/-- The pid of a process that the event may start is such a one. -/
def ServerEvent.SpawnsOnly (ok : Nat → Prop) : ServerEvent → Prop
  | .channel _ (.request _ env) => ∀ spawn ∈ env.spawn, ok spawn.pid
  | _ => True

/-- A request, after which a process may have been started. -/
theorem request_acts {payload : Buffer} {env : RequestEnv} (h : Settled opts s)
    (hslot : lookup s.channels i = some slot) (hfree : ∀ spawn ∈ env.spawn, s.PidFree spawn.pid)
    (hfresh : ∀ spawn ∈ env.spawn, fresh s spawn.pid)
    (hstep : channelStep opts slot.channel
      (.request payload { env with pubkey_options := s.authstate.pubkey_options }) = .ok c') :
    ServerActs opts fresh s (s.handled i slot (.request payload env) c') ∧
      (s.handled i slot (.request payload env) c').Present := by
  have hkept := h.present i slot hslot
  have hchannel : ChannelStep opts slot.channel
      (.request payload { env with pubkey_options := s.authstate.pubkey_options }) c' :=
    ⟨hkept, trivial, hstep⟩
  have hreq := (recv_msg_channel_request_meets payload _).of_ok hstep
  have hkeep : c'.removed = false := (ActsOf.removed_eq hreq.acts).trans hkept
  have hput : (s.put i slot c').Present := h.present.put hkeep
  have hhandled : s.handled i slot (.request payload env) c' =
      (s.put i slot c').requested i slot c' env := by
    unfold Server.handled
    dsimp only
    rw [if_neg (Bool.eq_false_iff.mp hkeep)]
    rfl
  rw [hhandled]
  cases hreq.starts with
  | nothing hnone =>
    have hsame : (s.put i slot c').requested i slot c' env = s.put i slot c' := by
      rw [Server.requested, hnone, List.getElem?_eq_none (Nat.le_refl _)]
    rw [hsame]
    exact ⟨.single (.stepped hslot hchannel nofun hnone), hput⟩
  | one spawn p hspawn hone hpid hforced =>
    have hspawn : env.spawn = some spawn := hspawn
    have hact : ServerAct opts fresh s
        (((s.put i slot c').fork spawn.pid slot.serial).addchildpid i spawn.pid spawn.pid_pos) :=
      .started hslot hchannel hone hpid hforced (hfree spawn hspawn)
        (hfresh spawn hspawn)
    have hlast : c'.trace.started[slot.channel.trace.started.length]? = some p := by
      rw [hone, List.getElem?_concat_length]
    rw [Server.requested, hlast, hspawn]
    dsimp only
    unfold Server.spawned
    by_cases hpty : p.pty = true
    · rw [if_pos hpty]
      exact ⟨.single hact, hput⟩
    · rw [if_neg hpty]
      have hlate := takeLastexit_acts fresh ⟨hact.inv h.inv, hput⟩
      exact ⟨.trans (.single hact) hlate.1, hlate.2⟩

/-- Another event, after which the channel may be removed. -/
theorem handled_acts {e : ChannelEvent} (h : Settled opts s)
    (hslot : lookup s.channels i = some slot) (hstep : ChannelStep opts slot.channel e c')
    (hreq : ∀ payload env, e ≠ .request payload env) (hexit : ∀ info, e ≠ .childExited info) :
    ServerActs opts fresh s (s.handled i slot e c') ∧ (s.handled i slot e c').Present := by
  obtain ⟨es, hrun⟩ := (h.inv.channels i slot hslot).1
  have hstarted := EventActs.started_eq (hstep.handled hrun.orderly).1 hreq
  have hact : ServerAct opts fresh s (s.put i slot c') := .stepped hslot hstep hexit hstarted
  have hhandled : s.handled i slot e c' = if c'.removed then
      (s.put i slot c').remove_channel i { slot with channel := c' } else s.put i slot c' := by
    cases e with
    | request payload env => exact absurd rfl (hreq payload env)
    | _ => rfl
  rw [hhandled]
  by_cases hremoved : c'.removed = true
  · rw [if_pos hremoved]
    refine ⟨.tail (.single hact) (.removed (lookup_place_self (lt_of_lookup hslot))), ?_⟩
    refine .of_remove fun j slot' hij hslot' => ?_
    rw [Server.put, lookup_place_ne hij] at hslot'
    exact h.present j slot' hslot'
  · rw [if_neg hremoved]
    exact ⟨.single hact, h.present.put (Bool.eq_false_iff.mpr hremoved)⟩

/-- **Inversion**: an event of the connection is a request for authentication or a sequence of acts. -/
theorem ServerStep.acts {e : ServerEvent} (h : ServerStep cfg opts s e s') (hs : Settled opts s)
    (hfresh : e.SpawnsOnly (fresh s)) :
    ((∃ rest r, e = .userauth rest r ∧ Authenticates cfg rest r s s') ∨ ServerActs opts fresh s s') ∧
      s'.Present := by
  obtain ⟨hpossible, hstep⟩ := h
  have hacts : ∀ {s₁ : Server}, ServerActs opts fresh s s₁ ∧ s₁.Present →
      ((∃ rest r, e = .userauth rest r ∧ Authenticates cfg rest r s s₁) ∨
        ServerActs opts fresh s s₁) ∧ s₁.Present := fun h => ⟨.inr h.1, h.2⟩
  cases e with
  | userauth rest r =>
    obtain ⟨session, hrecv, hs'⟩ := bind_eq_ok.mp hstep
    cases hs'
    exact ⟨.inl ⟨rest, r, rfl, session, exits_eq_ok.mp hrecv, rfl⟩, hs.present⟩
  | channelOpen chantype remotechan transwindow transmaxpacket prohibited =>
    cases hnew : s.newchannel with
    | none =>
      simp only [serverStep, hnew] at hstep
      cases hstep
      exact hacts ⟨.refl, hs.present⟩
    | some found =>
      simp only [serverStep, hnew] at hstep
      obtain ⟨c, hopen, hs'⟩ := bind_eq_ok.mp hstep
      cases hs'
      exact hacts (enter_acts hs hpossible.1 hnew
        (.incoming _ chantype remotechan transwindow transmaxpacket prohibited hpossible.2
          (exits_eq_ok.mp hopen)))
  | forwarded fd =>
    cases hnew : s.newchannel with
    | none =>
      simp only [serverStep, hnew] at hstep
      cases hstep
      exact hacts ⟨.refl, hs.present⟩
    | some found =>
      simp only [serverStep, hnew] at hstep
      obtain ⟨c, hopen, hs'⟩ := bind_eq_ok.mp hstep
      cases hs'
      exact hacts (enter_acts hs hpossible hnew (.outgoing _ fd (exits_eq_ok.mp hopen)))
  | channel i e =>
    cases hslot : lookup s.channels i with
    | none =>
      simp only [serverStep, hslot] at hstep
      exact absurd (exits_eq_ok.mp hstep) (dropbear_exit_ne_ok _ _)
    | some slot =>
      simp only [serverStep, hslot] at hstep
      obtain ⟨c', hchannel, hs'⟩ := bind_eq_ok.mp hstep
      cases hs'
      have hcan : s.Possible slot e := hpossible.2 slot hslot
      have hkept := hs.present i slot hslot
      cases e with
      | request payload env =>
        exact hacts (request_acts hs hslot hcan hfresh hchannel)
      | childExited info => exact hcan.elim
      | _ => exact hacts (handled_acts hs hslot ⟨hkept, hcan, hchannel⟩ nofun nofun)
  | exits pid status =>
    cases hstep
    exact hacts ⟨.single (.exited pid status), hs.present⟩
  | reap info =>
    cases hstep
    exact hacts (checksignal_acts hs hpossible)

/-! ## Every run -/

theorem ServerAct.authstate_eq (h : ServerAct opts fresh s s') : s'.authstate = s.authstate := by
  cases h with
  | removed => rw [remove_channel_eq]
  | _ => rfl

theorem ServerActs.authstate_eq (h : ServerActs opts fresh s s') : s'.authstate = s.authstate := by
  induction h with
  | refl => rfl
  | tail _ hact ih => exact hact.authstate_eq.trans ih

theorem ServerActs.inv (h : ServerActs opts fresh s s') (hinv : ServerInv opts s) :
    ServerInv opts s' := by
  induction h with
  | refl => exact hinv
  | tail _ hact ih => exact hact.inv ih

/-- Every pid will do. -/
def anyPid (_ : Server) (_ : Nat) : Prop := True

theorem ServerEvent.spawnsOnly_anyPid (e : ServerEvent) (s : Server) : e.SpawnsOnly (anyPid s) := by
  unfold ServerEvent.SpawnsOnly
  split
  · exact fun _ _ => trivial
  · trivial

theorem ServerStep.settled {e : ServerEvent} (h : ServerStep cfg opts s e s') (hs : Settled opts s) :
    Settled opts s' := by
  have hfresh : e.SpawnsOnly (anyPid s) := e.spawnsOnly_anyPid s
  obtain ⟨⟨rest, r, -, hauth⟩ | hacts, hpresent⟩ := h.acts hs hfresh
  · exact ⟨hauth.inv hs.inv, hpresent⟩
  · exact ⟨ServerActs.inv hacts hs.inv, hpresent⟩

/-- Processes are only started with a pid that is fresh. -/
def FreshRun (cfg : Config) (opts : Opts) (fresh : Server → Nat → Prop) :
    Server → List ServerEvent → Server → Prop :=
  Runs.Run (Runs.guarded (ServerStep cfg opts) fun s e => e.SpawnsOnly (fresh s))

/-- **Invariant rule**: what every act and every request for authentication preserve. -/
theorem FreshRun.invariant {inv : Server → Prop} {es : List ServerEvent} {s₀ : Server}
    (hauth : ∀ ⦃rest r s s'⦄, ServerInv opts s → inv s → Authenticates cfg rest r s s' → inv s')
    (hact : ∀ ⦃s s'⦄, ServerInv opts s → inv s → ServerAct opts fresh s s' → inv s')
    (h : FreshRun cfg opts fresh s₀ es s) (h0 : Settled opts s₀ ∧ inv s₀) :
    Settled opts s ∧ inv s := by
  have hacts : ∀ ⦃s s'⦄, ServerActs opts fresh s s' → ServerInv opts s ∧ inv s →
      ServerInv opts s' ∧ inv s' := by
    intro s s' hacts hs
    induction hacts with
    | refl => exact hs
    | tail _ hone ih => exact ⟨hone.inv ih.1, hact ih.1 ih.2 hone⟩
  have hstep : ∀ ⦃s e s'⦄, Settled opts s ∧ inv s →
      Runs.guarded (ServerStep cfg opts) (fun s e => e.SpawnsOnly (fresh s)) s e s' →
      Settled opts s' ∧ inv s' := by
    rintro s e s' ⟨hs, hinv⟩ ⟨hfresh, hstep⟩
    refine ⟨hstep.settled hs, ?_⟩
    rcases (hstep.acts hs hfresh).1 with ⟨rest, r, -, hrequest⟩ | hall
    · exact hauth hs.inv hinv hrequest
    · exact (hacts hall ⟨hs.inv, hinv⟩).2
  have hall := Runs.Run.invariant hstep h h0
  exact hall

theorem Settled.start (authstate : AuthState) : Settled opts (Server.start authstate) := by
  refine ⟨.start authstate, fun i slot hslot => ?_⟩
  rw [lookup_start] at hslot
  cases hslot

theorem ServerRun.settled {env₀ : Env} {es : List ServerEvent} (h : ServerRun cfg opts env₀ es s) :
    Settled opts s := by
  have hstep : ∀ ⦃s e s'⦄, Settled opts s → ServerStep cfg opts s e s' → Settled opts s' :=
    fun _ _ _ hs hstep => hstep.settled hs
  exact Runs.Run.invariant hstep h (.start _)

theorem ServerRun.freshRun {env₀ : Env} {es : List ServerEvent} (h : ServerRun cfg opts env₀ es s) :
    FreshRun cfg opts anyPid (Server.start (svr_authinitialise env₀)) es s :=
  Runs.Run.mono (fun s e _ hstep => ⟨e.spawnsOnly_anyPid s, hstep⟩) h

end SimpleSshd.Dropbear
