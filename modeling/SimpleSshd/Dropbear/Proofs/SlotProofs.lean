import SimpleSshd.Dropbear.Netio
import SimpleSshd.Dropbear.Proofs.ChildrenProofs

/-!
# Proofs: which channel is in which slot

For those who point to channels only a part of their table matters: which channel is in which slot, with
which index, and whether it waits for a connection. Every event changes at most one slot of that part.
A channel stays in its slot until it is removed.
-/

namespace SimpleSshd.Dropbear

open Fallible Slots

variable {cfg : Config} {opts : Opts} {s s' : Server} {i : Nat} {slot : Slot}
  {c c' : Channel} {kind : ActKind}

/-! ## What a channel keeps -/

theorem ChannelAct.index_eq (h : ChannelAct opts kind c c') : c'.index = c.index := by
  cases h <;> rfl

/-- What does not wait does not begin to. -/
theorem ChannelAct.not_waiting (h : ChannelAct opts kind c c') (hfalse : c.conn_pending = false) :
    c'.conn_pending = false := by
  cases h with
  | closedRemoved => rfl
  | removed => rfl
  | refused => rfl
  | connected => rfl
  | connectFailed => rfl
  | _ => exact hfalse

/-- Only the peer or a callback ends the waiting of a channel that stays. -/
theorem ChannelAct.waiting (h : ChannelAct opts kind c c') (hkind : kind ≠ .peer) :
    c'.removed = true ∨ c'.removed = c.removed ∧ c'.conn_pending = c.conn_pending := by
  cases h with
  | closedRemoved => exact .inl rfl
  | removed => exact .inl rfl
  | adjusted => exact absurd rfl hkind
  | confirmed => exact absurd rfl hkind
  | refused => exact absurd rfl hkind
  | connected => exact absurd rfl hkind
  | connectFailed => exact absurd rfl hkind
  | keptAlive => exact absurd rfl hkind
  | _ => exact .inr ⟨rfl, rfl⟩

theorem ActsOf.waiting (h : ActsOf opts kind c c') (hkind : kind ≠ .peer) :
    c'.removed = true ∨ c'.removed = c.removed ∧ c'.conn_pending = c.conn_pending := by
  induction h with
  | refl => exact .inr ⟨rfl, rfl⟩
  | tail _ hact ih =>
    rcases hact.waiting hkind with hremoved | ⟨hsame, hpending⟩
    · exact .inl hremoved
    · rw [hsame, hpending]
      exact ih

theorem ChannelStep.index_eq {e : ChannelEvent} (h : ChannelStep opts c e c')
    (horder : Orderly opts c) : c'.index = c.index :=
  ChannelActs.invariant (fun _ _ _ hinv hact => hact.index_eq.trans hinv)
    (EventActs.acts (h.handled horder).1) rfl

/-- Data for a channel without a descriptor is dropped. -/
theorem recv_msg_channel_data_dropped {payload : Buffer} {answer : WriteAnswer} (hclosed : c.writefd < 0)
    (h : recv_msg_channel_data opts c payload answer = .ok c') : c' = c.arrived payload := by
  simp only [recv_msg_channel_data, common_recv_msg_channel_data] at h
  split at h
  · exact absurd (exits_eq_ok.mp h) (dropbear_exit_ne_ok _ _)
  · rw [if_pos (show (c.arrived payload).writefd < 0 from hclosed)] at h
    cases h
    rfl

/-- **Only its callback** ends the waiting of a channel that stays. -/
theorem ChannelStep.waiting {e : ChannelEvent} (h : ChannelStep opts c e c')
    (horder : Orderly opts c) (hk : Known c) (hcallback : ∀ sock, e ≠ .connectDone sock) :
    c'.removed = true ∨ c'.conn_pending = c.conn_pending := by
  have hweaken : (c'.removed = true ∨ c'.removed = c.removed ∧ c'.conn_pending = c.conn_pending) →
      c'.removed = true ∨ c'.conn_pending = c.conn_pending := Or.imp_right And.right
  by_cases hpending : c.conn_pending = true
  · -- a channel that waits has no descriptor yet
    have hclosed : c.writefd < 0 := (hk.wiring.unset (hk.wiring.pending hpending).setups).1
    obtain ⟨-, -, hstep⟩ := h
    cases e with
    | data payload answer =>
      rw [recv_msg_channel_data_dropped hclosed hstep]
      exact .inr rfl
    | eof answers =>
      have hacts := (check_close_meets opts { c with recv_eof := true } horder.idle answers).of_ok hstep
      have hwaiting := ActsOf.waiting hacts (by decide)
      exact hweaken hwaiting
    | close answers =>
      have hacts := (check_close_meets opts { c with recv_eof := true, recv_close := true }
        horder.idle answers).of_ok hstep
      have hwaiting := ActsOf.waiting hacts (by decide)
      exact hweaken hwaiting
    | windowAdjust payload =>
      obtain ⟨r, -, hstep⟩ := bind_eq_ok.mp hstep
      cases hstep
      exact .inr rfl
    | request payload env =>
      have hacts := ((recv_msg_channel_request_meets payload env).of_ok hstep).acts
      exact hweaken (ActsOf.waiting hacts (by decide))
    | openConfirmation payload =>
      simp only [channelStep, recv_msg_channel_open_confirmation] at hstep
      split at hstep
      · exact absurd (exits_eq_ok.mp hstep) (dropbear_exit_ne_ok _ _)
      · obtain ⟨r₁, -, hstep⟩ := bind_eq_ok.mp hstep
        obtain ⟨r₂, -, hstep⟩ := bind_eq_ok.mp hstep
        obtain ⟨r₃, -, hstep⟩ := bind_eq_ok.mp hstep
        cases hstep
        exact .inr rfl
    | openFailure =>
      simp only [channelStep, recv_msg_channel_open_failure] at hstep
      split at hstep
      · exact absurd (exits_eq_ok.mp hstep) (dropbear_exit_ne_ok _ _)
      · cases hstep
        exact .inl rfl
    | connectDone sock => exact absurd rfl (hcallback sock)
    | childExited info =>
      cases hstep
      exact .inr rfl
    | io ready =>
      have hacts := (channelio_meets horder.sound horder.idle ready).of_ok hstep
      exact hweaken (ActsOf.waiting hacts (by decide))
    | keepalive =>
      cases hstep
      exact .inr rfl
  · have hfalse : c.conn_pending = false := Bool.eq_false_iff.mpr hpending
    rw [hfalse]
    exact .inr (ChannelActs.invariant (fun _ _ _ hinv hact => hact.not_waiting hinv)
      (EventActs.acts (h.handled horder).1) hfalse)

/-! ## What is seen of the table -/

/-- What is seen of a channel. -/
structure Entry where
  serial : Nat
  index : Nat
  conn_pending : Bool

def Slot.entry (slot : Slot) : Entry where
  serial := slot.serial
  index := slot.channel.index
  conn_pending := slot.channel.conn_pending

def Server.entry (s : Server) (i : Nat) : Option Entry := (lookup s.channels i).map Slot.entry

/-- The channel is in the table. -/
def Server.Live (s : Server) (channel : Nat) : Prop := ∃ i x, s.entry i = some x ∧ x.serial = channel

theorem entry_eq_some {x : Entry} (h : s.entry i = some x) :
    ∃ slot, lookup s.channels i = some slot ∧ slot.entry = x :=
  Option.map_eq_some_iff.mp h

theorem entry_eq_none : s.entry i = none ↔ lookup s.channels i = none := Option.map_eq_none_iff

theorem entry_of_lookup (h : lookup s.channels i = some slot) : s.entry i = some slot.entry := by
  rw [Server.entry, h]
  rfl

/-- The table is another one in one slot only. -/
structure Server.Changed (s : Server) (i : Nat) (x : Option Entry) (s' : Server) : Prop where
  here : s'.entry i = x
  others : ∀ j, j ≠ i → s'.entry j = s.entry j

theorem entry_place {t : List (Option Slot)} (hlt : i < t.length)
    (hsame : ∀ j, lookup t j = lookup s.channels j) (hplace : s'.channels = place t i slot) :
    s.Changed i (some slot.entry) s' := by
  constructor
  · rw [Server.entry, hplace, lookup_place_self hlt]
    rfl
  · intro j hj
    rw [Server.entry, Server.entry, hplace, lookup_place_ne hj.symm, hsame]

theorem entry_remove_channel (s : Server) (i : Nat) (slot : Slot) :
    s.Changed i none (s.remove_channel i slot) := by
  rw [remove_channel_eq]
  constructor
  · rw [entry_eq_none]
    exact lookup_clear_self
  · intro j hj
    exact congrArg (Option.map Slot.entry) (lookup_clear_ne hj.symm)

/-- An exit is not seen. -/
theorem entry_recordExit (s : Server) (i j : Nat) (info : ExitInfo) :
    (s.recordExit i info).entry j = s.entry j := by
  cases hslot : lookup s.channels i with
  | none =>
    rw [Server.recordExit, hslot]
  | some slot =>
    rw [recordExit_eq hslot]
    have hchanged : s.Changed i
        (some (Slot.entry { slot with channel := slot.channel.recordExit info }))
        (s.put i slot (slot.channel.recordExit info)) :=
      entry_place (lt_of_lookup hslot) (fun _ => rfl) rfl
    by_cases hij : j = i
    · subst hij
      rw [entry_of_lookup hslot]
      exact hchanged.here
    · exact hchanged.others j hij

theorem entry_takeLastexit (s : Server) (j : Nat) : s.takeLastexit.entry j = s.entry j := by
  unfold Server.takeLastexit
  split
  · rfl
  · split
    · rfl
    · exact entry_recordExit s _ j _

theorem entry_requested (s : Server) (i j : Nat) (slot : Slot) (c : Channel) (env : RequestEnv) :
    (s.requested i slot c env).entry j = s.entry j := by
  unfold Server.requested
  split
  · unfold Server.spawned
    dsimp only
    split
    · rfl
    · exact entry_takeLastexit _ j
  · rfl

theorem entry_checksignal (s : Server) (j : Nat) (info : ExitInfo) :
    (s.checksignal info).entry j = s.entry j := by
  unfold Server.checksignal
  split
  · exact entry_recordExit s _ j info
  · rfl

/-- A channel that was removed is no longer seen. -/
def Channel.seen (c : Channel) (serial : Nat) : Option Entry :=
  if c.removed then none else some (Slot.entry { serial := serial, channel := c })

theorem Server.Changed.remove {x : Option Entry} {slot' : Slot} (h : s.Changed i x s') :
    s.Changed i none (s'.remove_channel i slot') := by
  have hremove := entry_remove_channel s' i slot'
  refine ⟨hremove.here, ?_⟩
  intro j hj
  rw [hremove.others j hj, h.others j hj]

/-- **An event of a channel** changes its slot. -/
theorem entry_handled (hslot : lookup s.channels i = some slot) (e : ChannelEvent) (c : Channel) :
    s.Changed i (c.seen slot.serial) (s.handled i slot e c) := by
  have hput : s.Changed i (some (Slot.entry { slot with channel := c })) (s.put i slot c) :=
    entry_place (lt_of_lookup hslot) (fun _ => rfl) rfl
  obtain ⟨s₁, hs₁, hhandled⟩ : ∃ s₁, s.Changed i (some (Slot.entry { slot with channel := c })) s₁ ∧
      s.handled i slot e c =
        if c.removed then s₁.remove_channel i { slot with channel := c } else s₁ := by
    cases e with
    | request payload env =>
      refine ⟨(s.put i slot c).requested i slot c env, ⟨?_, ?_⟩, rfl⟩
      · rw [entry_requested]
        exact hput.here
      · intro j hj
        rw [entry_requested]
        exact hput.others j hj
    | _ => exact ⟨s.put i slot c, hput, rfl⟩
  rw [hhandled, Channel.seen]
  by_cases hremoved : c.removed = true
  · rw [if_pos hremoved, if_pos hremoved]
    exact hs₁.remove
  · rw [if_neg hremoved, if_neg hremoved]
    exact hs₁

theorem entry_enter {channels : List (Option Slot)} (hnew : s.newchannel = some (channels, i))
    (c : Channel) : s.Changed i (c.seen s.opened) (s.enter channels i c) := by
  obtain ⟨hlt, -, hsame, -⟩ := newchannel_spec hnew
  have hentered : s.Changed i (some (Slot.entry { serial := s.opened, channel := c }))
      (s.entered channels i c) := entry_place hlt hsame rfl
  have henter : s.enter channels i c = if c.removed then
      (s.entered channels i c).remove_channel i { serial := s.opened, channel := c }
      else s.entered channels i c := rfl
  rw [henter, Channel.seen]
  by_cases hremoved : c.removed = true
  · rw [if_pos hremoved, if_pos hremoved]
    exact hentered.remove
  · rw [if_neg hremoved, if_neg hremoved]
    exact hentered

/-! ## What an event changes -/

theorem recv_msg_channel_open_index {chantype : ChanType}
    {remotechan transwindow transmaxpacket : Nat} {prohibited : Bool}
    (h : recv_msg_channel_open opts i chantype remotechan transwindow transmaxpacket prohibited =
      .ok c) : c.index = i := by
  obtain ⟨chan, hnew, h⟩ := bind_eq_ok.mp h
  obtain ⟨writebuf, -, hnew⟩ := bind_eq_ok.mp hnew
  cases hnew
  cases chantype with
  | svrchansess =>
    cases h
    rfl
  | svr_chan_tcpdirect =>
    cases prohibited with
    | true =>
      cases h
      rfl
    | false =>
      cases h
      rfl
  | svr_chan_tcpremote =>
    cases h
    rfl

/-- What an event that is not a callback changes. -/
inductive TableStep (s s' : Server) : ServerEvent → Prop
  | same {e : ServerEvent} (hsame : ∀ j, s'.entry j = s.entry j) : TableStep s s' e
  | incoming {chantype : ChanType} {remotechan transwindow transmaxpacket : Nat} {prohibited : Bool}
      (i : Nat) (conn_pending : Bool) (hfree : s.entry i = none)
      (hchanged : s.Changed i (some ⟨s.opened, i, conn_pending⟩) s') :
      TableStep s s' (.channelOpen chantype remotechan transwindow transmaxpacket prohibited)
  | outgoing {fd : Nat} (i : Nat) (hfree : s.entry i = none)
      (hchanged : s.Changed i (some ⟨s.opened, i, false⟩) s') : TableStep s s' (.forwarded fd)
  | removed {i : Nat} {e : ChannelEvent} (x : Entry) (hold : s.entry i = some x)
      (hchanged : s.Changed i none s') : TableStep s s' (.channel i e)

theorem Server.Changed.same {x : Option Entry} (h : s.Changed i x s') (hx : s.entry i = x) (j : Nat) :
    s'.entry j = s.entry j := by
  by_cases hj : j = i
  · rw [hj, h.here, hx]
  · exact h.others j hj

theorem Settled.channelStep_of_ok {e : ChannelEvent} (hs : Settled opts s)
    (hslot : lookup s.channels i = some slot) (hpossible : s.Possible slot e)
    (hok : channelStep opts slot.channel (e.withOptions s.authstate.pubkey_options) = .ok c) :
    ChannelStep opts slot.channel (e.withOptions s.authstate.pubkey_options) c := by
  refine ⟨hs.present i slot hslot, ?_, hok⟩
  cases e with
  | request payload env => trivial
  | childExited info => exact hpossible.elim
  | _ => exact hpossible

/-- An event of a channel that is not its callback: the channel is removed, or nothing is seen. -/
theorem channel_tableStep {e : ChannelEvent} (hs : Settled opts s)
    (hslot : lookup s.channels i = some slot) (hpossible : s.Possible slot e)
    (hcallback : ∀ sock, e ≠ .connectDone sock)
    (hok : channelStep opts slot.channel (e.withOptions s.authstate.pubkey_options) = .ok c) :
    TableStep s (s.handled i slot e c) (.channel i e) := by
  have hchannel := hs.channelStep_of_ok hslot hpossible hok
  obtain ⟨es, hrun⟩ := (hs.inv.channels i slot hslot).1
  have hindex := hchannel.index_eq hrun.orderly
  have hnot : ∀ sock, e.withOptions s.authstate.pubkey_options ≠ .connectDone sock := by
    intro sock heq
    cases e with
    | connectDone sock => exact hcallback sock rfl
    | _ => cases heq
  have hchanged := entry_handled hslot e c
  have hentry := entry_of_lookup hslot
  rw [Channel.seen] at hchanged
  split at hchanged
  · exact .removed slot.entry hentry hchanged
  · rename_i hkept
    have hpending := (hchannel.waiting hrun.orderly hrun.known.2 hnot).resolve_left hkept
    refine .same (hchanged.same ?_)
    rw [hentry, Slot.entry, Slot.entry, hindex, hpending]

/-- **Inversion**: every event that is not a callback changes one slot or none. -/
theorem ServerStep.tableStep {e : ServerEvent} (h : ServerStep cfg opts s e s') (hs : Settled opts s)
    (hcallback : e.isConnectDone = false) : TableStep s s' e := by
  obtain ⟨hpossible, hstep⟩ := h
  cases e with
  | userauth rest r =>
    obtain ⟨session, -, hstep⟩ := bind_eq_ok.mp hstep
    cases hstep
    exact .same fun _ => rfl
  | channelOpen chantype remotechan transwindow transmaxpacket prohibited =>
    simp only [serverStep] at hstep
    split at hstep
    · cases hstep
      exact .same fun _ => rfl
    · rename_i channels i hnew
      obtain ⟨c, hopen, hstep⟩ := bind_eq_ok.mp hstep
      cases hstep
      have hindex := recv_msg_channel_open_index (exits_eq_ok.mp hopen)
      have hfree : s.entry i = none := entry_eq_none.mpr (newchannel_spec hnew).2.1
      have hchanged := entry_enter hnew c
      rw [Channel.seen] at hchanged
      split at hchanged
      · exact .same (hchanged.same hfree)
      · refine .incoming i c.conn_pending hfree ?_
        rw [Slot.entry, hindex] at hchanged
        exact hchanged
  | forwarded fd =>
    simp only [serverStep] at hstep
    split at hstep
    · cases hstep
      exact .same fun _ => rfl
    · rename_i channels i hnew
      obtain ⟨c, hopen, hstep⟩ := bind_eq_ok.mp hstep
      cases hstep
      have hfree : s.entry i = none := entry_eq_none.mpr (newchannel_spec hnew).2.1
      have hchanged := entry_enter hnew c
      obtain ⟨chan, hchan, hopen⟩ := bind_eq_ok.mp (exits_eq_ok.mp hopen)
      obtain ⟨writebuf, -, hchan⟩ := bind_eq_ok.mp hchan
      cases hchan
      cases hopen
      exact .outgoing i hfree hchanged
  | channel i e =>
    simp only [serverStep] at hstep
    split at hstep
    · exact absurd (exits_eq_ok.mp hstep) (dropbear_exit_ne_ok _ _)
    · rename_i slot hslot
      obtain ⟨c, hok, hstep⟩ := bind_eq_ok.mp hstep
      cases hstep
      refine channel_tableStep hs hslot (hpossible.2 slot hslot) ?_ hok
      rintro sock rfl
      cases hcallback
  | exits pid status =>
    cases hstep
    exact .same fun _ => rfl
  | reap info =>
    cases hstep
    exact .same fun j => entry_checksignal _ j info

/-- **A callback** ends the waiting of its channel, which is removed if the connection failed. -/
theorem connectDone_changed {x : Entry} (hs : Settled opts s) (hentry : s.entry i = some x)
    (hpending : x.conn_pending = true) (sock : Option Nat) :
    ∃ s', ServerStep cfg opts s (.channel i (.connectDone sock)) s' ∧
      s.Changed i (sock.map fun _ => { x with conn_pending := false }) s' := by
  obtain ⟨slot, hslot, rfl⟩ := entry_eq_some hentry
  refine ⟨s.handled i slot (.connectDone sock) (channel_connect_done slot.channel sock), ⟨?_, ?_⟩, ?_⟩
  · refine ⟨hs.inv.authdone hslot, ?_⟩
    intro slot' hslot'
    rw [Option.mem_def, hslot] at hslot'
    cases hslot'
    exact hpending
  · simp only [serverStep, hslot]
    rfl
  · have hchanged := entry_handled hslot (.connectDone sock) (channel_connect_done slot.channel sock)
    cases sock with
    | none => exact hchanged
    | some sock =>
      have hkept : slot.channel.removed = false := hs.present i slot hslot
      have hseen : (channel_connect_done slot.channel (some sock)).seen slot.serial =
          some { slot.entry with conn_pending := false } :=
        if_neg (show ¬ slot.channel.removed = true by rw [hkept]; decide)
      rw [hseen] at hchanged
      exact hchanged

/-! ## Every run -/

/-- The channel is in the slot, or has been removed. -/
def Server.Keeps (s : Server) (i channel : Nat) : Prop :=
  (∃ slot, lookup s.channels i = some slot ∧ slot.serial = channel) ∨
    ∃ slot ∈ s.gone, slot.serial = channel

theorem Server.Keeps.put {channel j : Nat} (h : s.Keeps j channel)
    (hslot : lookup s.channels i = some slot) (c : Channel) : (s.put i slot c).Keeps j channel := by
  rcases h with ⟨slot', hslot', hserial⟩ | hgone
  · by_cases hij : i = j
    · subst hij
      rw [hslot] at hslot'
      cases hslot'
      exact .inl ⟨_, lookup_place_self (lt_of_lookup hslot), hserial⟩
    · exact .inl ⟨slot', (lookup_place_ne hij).trans hslot', hserial⟩
  · exact .inr hgone

theorem Server.Keeps.entered {channel j : Nat} {channels : List (Option Slot)} (h : s.Keeps j channel)
    (hnew : s.newchannel = some (channels, i)) : (s.entered channels i c).Keeps j channel := by
  obtain ⟨-, hfree, hsame, -⟩ := newchannel_spec hnew
  rcases h with ⟨slot', hslot', hserial⟩ | hgone
  · have hij : i ≠ j := by
      rintro rfl
      rw [hfree] at hslot'
      cases hslot'
    exact .inl ⟨slot', (lookup_place_ne hij).trans ((hsame j).trans hslot'), hserial⟩
  · exact .inr hgone

theorem Server.Keeps.removed {channel j : Nat} (h : s.Keeps j channel)
    (hslot : lookup s.channels i = some slot) : (s.remove_channel i slot).Keeps j channel := by
  rw [remove_channel_eq]
  rcases h with ⟨slot', hslot', hserial⟩ | ⟨slot', hmem, hserial⟩
  · by_cases hij : i = j
    · subst hij
      rw [hslot] at hslot'
      cases hslot'
      exact .inr ⟨slot, List.mem_append_right _ (List.mem_singleton_self slot), hserial⟩
    · exact .inl ⟨slot', (lookup_clear_ne hij).trans hslot', hserial⟩
  · exact .inr ⟨slot', List.mem_append_left _ hmem, hserial⟩

theorem ServerAct.keeps {fresh : Server → Nat → Prop} {channel j : Nat}
    (h : ServerAct opts fresh s s') (hk : s.Keeps j channel) : s'.Keeps j channel := by
  cases h with
  | entered _ hnew _ => exact hk.entered hnew
  | stepped hslot _ _ _ => exact hk.put hslot _
  | removed hslot => exact hk.removed hslot
  | started hslot => exact hk.put hslot _
  | late _ _ hslot _ => exact hk.put hslot _
  | exited => exact hk
  | reaped _ _ hslot _ => exact hk.put hslot _
  | unmatched => exact hk

theorem ServerAct.opened_le {fresh : Server → Nat → Prop} (h : ServerAct opts fresh s s') :
    s.opened ≤ s'.opened := by
  cases h with
  | entered => exact Nat.le_succ _
  | removed =>
    rw [remove_channel_eq]
  | _ => exact Nat.le_refl _

/-- What is known of the table between two events. -/
structure TableInv (opts : Opts) (s : Server) : Prop where
  settled : Settled opts s
  serials : Serials s
  index : ∀ i x, s.entry i = some x → x.index = i

theorem TableInv.start (authstate : AuthState) : TableInv opts (Server.start authstate) := by
  refine ⟨.start authstate, (Attribution.start authstate).serials, ?_⟩
  intro i x hx
  rw [Server.entry, lookup_start] at hx
  cases hx

theorem TableInv.unique {j : Nat} {x y : Entry} (h : TableInv opts s) (hx : s.entry i = some x)
    (hy : s.entry j = some y) (hserial : x.serial = y.serial) : i = j := by
  obtain ⟨a, ha, rfl⟩ := entry_eq_some hx
  obtain ⟨b, hb, rfl⟩ := entry_eq_some hy
  exact h.serials.table i j a b ha hb hserial

theorem TableInv.serial_lt {x : Entry} (h : TableInv opts s) (hx : s.entry i = some x) :
    x.serial < s.opened := by
  obtain ⟨slot, hslot, rfl⟩ := entry_eq_some hx
  exact (h.settled.inv.channels i slot hslot).2

/-- What every act and every request for authentication keep. -/
theorem ServerStep.invariant (inv : Server → Prop) {e : ServerEvent} (h : ServerStep cfg opts s e s')
    (hs : Settled opts s)
    (hauth : ∀ ⦃rest r s s'⦄, ServerInv opts s → inv s → Authenticates cfg rest r s s' → inv s')
    (hact : ∀ ⦃s s'⦄, ServerInv opts s → inv s → ServerAct opts anyPid s s' → inv s')
    (h0 : inv s) : inv s' := by
  have hrun : FreshRun cfg opts anyPid s [e] s' := .single ⟨e.spawnsOnly_anyPid s, h⟩
  exact (hrun.invariant hauth hact ⟨hs, h0⟩).2

theorem ServerStep.keeps {e : ServerEvent} {channel j : Nat} (h : ServerStep cfg opts s e s')
    (hs : Settled opts s) (hk : s.Keeps j channel) : s'.Keeps j channel := by
  refine h.invariant _ hs ?_ (fun _ _ _ hkeeps hact => hact.keeps hkeeps) hk
  rintro rest r s₁ s₂ - hkeeps ⟨session, -, rfl⟩
  exact hkeeps

theorem ServerStep.opened_le {e : ServerEvent} (h : ServerStep cfg opts s e s')
    (hs : Settled opts s) : s.opened ≤ s'.opened := by
  refine h.invariant (fun s₁ => s.opened ≤ s₁.opened) hs ?_
    (fun _ _ _ hle hact => Nat.le_trans hle hact.opened_le) (Nat.le_refl _)
  rintro rest r s₁ s₂ - hle ⟨session, -, rfl⟩
  exact hle

theorem ServerStep.serials {e : ServerEvent} (h : ServerStep cfg opts s e s') (hs : Settled opts s)
    (hserials : Serials s) : Serials s' := by
  refine h.invariant _ hs ?_ (fun _ _ hinv hserials hact => hact.serials hinv hserials) hserials
  rintro rest r s₁ s₂ - ⟨htable, hapart, hgone, hbelow⟩ ⟨session, -, rfl⟩
  exact ⟨htable, hapart, hgone, hbelow⟩

theorem Server.Changed.index {y : Option Entry} (h : s.Changed i y s')
    (hindex : ∀ j x, s.entry j = some x → x.index = j) (hy : ∀ x, y = some x → x.index = i) :
    ∀ j x, s'.entry j = some x → x.index = j := by
  intro j x hx
  by_cases hj : j = i
  · rw [hj, h.here] at hx
    rw [hj]
    exact hy x hx
  · rw [h.others j hj] at hx
    exact hindex j x hx

theorem TableStep.index {e : ServerEvent} (h : TableStep s s' e)
    (hindex : ∀ i x, s.entry i = some x → x.index = i) :
    ∀ i x, s'.entry i = some x → x.index = i := by
  cases h with
  | same hsame =>
    intro i x hx
    rw [hsame] at hx
    exact hindex i x hx
  | incoming i conn_pending hfree hchanged =>
    refine hchanged.index hindex ?_
    intro x hx
    cases hx
    rfl
  | outgoing i hfree hchanged =>
    refine hchanged.index hindex ?_
    intro x hx
    cases hx
    rfl
  | removed x hold hchanged =>
    refine hchanged.index hindex ?_
    intro x hx
    cases hx

/-- Everything else follows from the acts. -/
theorem TableInv.step {e : ServerEvent} (h : TableInv opts s) (hstep : ServerStep cfg opts s e s')
    (hindex : ∀ i x, s'.entry i = some x → x.index = i) : TableInv opts s' :=
  ⟨hstep.settled h.settled, hstep.serials h.settled h.serials, hindex⟩

/-! ### Which channels are there -/

theorem live_of_entry {x : Entry} (h : s.entry i = some x) : s.Live x.serial := ⟨i, x, h, rfl⟩

theorem live_same (h : ∀ j, s'.entry j = s.entry j) (b : Nat) : s'.Live b ↔ s.Live b := by
  unfold Server.Live
  simp only [h]

theorem Server.Changed.live_entered {x : Entry} (h : s.Changed i (some x) s') (hfree : s.entry i = none)
    (b : Nat) : s'.Live b ↔ s.Live b ∨ b = x.serial := by
  constructor
  · rintro ⟨j, y, hy, rfl⟩
    by_cases hj : j = i
    · rw [hj, h.here] at hy
      cases hy
      exact .inr rfl
    · rw [h.others j hj] at hy
      exact .inl (live_of_entry hy)
  · rintro (⟨j, y, hy, rfl⟩ | rfl)
    · have hj : j ≠ i := by
        rintro rfl
        rw [hfree] at hy
        cases hy
      rw [← h.others j hj] at hy
      exact live_of_entry hy
    · exact live_of_entry h.here

theorem Server.Changed.live_removed {x : Entry} (h : s.Changed i none s') (ht : TableInv opts s)
    (hold : s.entry i = some x) (b : Nat) : s'.Live b ↔ s.Live b ∧ b ≠ x.serial := by
  constructor
  · rintro ⟨j, y, hy, rfl⟩
    have hj : j ≠ i := by
      rintro rfl
      rw [h.here] at hy
      cases hy
    rw [h.others j hj] at hy
    exact ⟨live_of_entry hy, fun hserial => hj (ht.unique hy hold hserial)⟩
  · rintro ⟨⟨j, y, hy, rfl⟩, hne⟩
    have hj : j ≠ i := by
      rintro rfl
      rw [hold] at hy
      cases hy
      exact hne rfl
    rw [← h.others j hj] at hy
    exact live_of_entry hy

theorem Server.Changed.live_changed {x y : Entry} (h : s.Changed i (some y) s')
    (hold : s.entry i = some x) (hserial : y.serial = x.serial) (b : Nat) : s'.Live b ↔ s.Live b := by
  constructor
  · rintro ⟨j, z, hz, rfl⟩
    by_cases hj : j = i
    · rw [hj, h.here] at hz
      cases hz
      rw [hserial]
      exact live_of_entry hold
    · rw [h.others j hj] at hz
      exact live_of_entry hz
  · rintro ⟨j, z, hz, rfl⟩
    by_cases hj : j = i
    · rw [hj, hold] at hz
      cases hz
      rw [← hserial]
      exact live_of_entry h.here
    · rw [← h.others j hj] at hz
      exact live_of_entry hz

end SimpleSshd.Dropbear
