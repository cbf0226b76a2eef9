import SimpleSshd.Dropbear.Proofs.ChannelAccountProofs

/-!
# Proofs: every event of a channel is a sequence of acts

Each handler is a sequence of acts, or ends the process in one of the ways listed by `EventAbort`. So
what holds of every new channel and is preserved by every act holds in every run.
-/

namespace SimpleSshd.Dropbear

open Fallible
open Wire (sub32 sub32_of_le)

variable {opts : Opts} {c c' : Channel} {contents : Bytes}

/-! ## Data from the peer -/

/-- A part of an event that may only exit because of the message. -/
theorem Meets.peer {α : Type} {x : Except Abort α} {post : α → Prop} {e : ChannelEvent}
    (h : Meets x PeerExit post) : Meets x (EventAbort opts c e) post :=
  h.imp (fun _ ha => .peer ha) fun _ hpost => hpost

/-- The acts that an event can lead to. -/
def ChannelEvent.Allows : ChannelEvent → ActKind → Prop
  | .request _ _, kind => kind = .request
  | .childExited _, kind => kind = .exit
  | _, kind => kind ≠ .request ∧ kind ≠ .exit

/-- A sequence of acts because of an event. -/
abbrev EventActs (opts : Opts) (e : ChannelEvent) : Channel → Channel → Prop :=
  Relation.ReflTransGen fun c c' => ∃ kind, e.Allows kind ∧ ChannelAct opts kind c c'

theorem ActsOf.because {kind : ActKind} {e : ChannelEvent} (hallow : e.Allows kind)
    (h : ActsOf opts kind c c') : EventActs opts e c c' :=
  Relation.ReflTransGen.mono (fun _ _ hact => ⟨kind, hallow, hact⟩) _ _ h

theorem EventActs.acts {e : ChannelEvent} (h : EventActs opts e c c') : ChannelActs opts c c' :=
  Relation.ReflTransGen.mono (fun _ _ hact => ⟨hact.choose, hact.choose_spec.2⟩) _ _ h

/-- What an event leads to. -/
def Handled (opts : Opts) (e : ChannelEvent) (c c' : Channel) : Prop :=
  EventActs opts e c c' ∧ c'.trace.inflight = []

theorem Handled.of_acts {kind : ActKind} {e : ChannelEvent} (hallow : e.Allows kind)
    (hkind : kind ≠ .data) (hidle : c.trace.inflight = []) (h : ActsOf opts kind c c') :
    Handled opts e c c' :=
  ⟨ActsOf.because hallow h, (ActsOf.inflight hkind h).trans hidle⟩

theorem recv_msg_channel_data_meets (hsound : Sound opts c) (hidle : c.trace.inflight = [])
    (payload : Buffer) (answer : WriteAnswer) :
    Meets (recv_msg_channel_data opts c payload answer) (EventAbort opts c (.data payload answer))
      (Handled opts (.data payload answer) c) := by
  have hallow : ∀ kind : ActKind, kind = .io ∨ kind = .data →
      (ChannelEvent.data payload answer).Allows kind := by
    rintro kind (rfl | rfl)
    · exact ⟨nofun, nofun⟩
    · exact ⟨nofun, nofun⟩
  unfold recv_msg_channel_data common_recv_msg_channel_data
  dsimp only
  split
  · exact .peer ⟨_, "Received data after eof", by decide, rfl⟩
  · split
    · rename_i hclosed
      exact ⟨.single ⟨_, hallow _ (.inr rfl), .dropped payload hclosed⟩, hidle⟩
    · rename_i hopen
      have hopen : 0 ≤ c.writefd := Int.not_lt.mp hopen
      refine (Meets.peer (exits_meets (buf_getint_meets payload))).bind ?_
      rintro ⟨datalen, payload'⟩ ⟨hfour, hdatalen, hadv⟩
      obtain rfl : datalen = dataLength payload := hdatalen
      have hrest : payload'.rest = payload.rest.drop 4 := hadv.rest
      dsimp only at hrest ⊢
      split
      · rename_i hlarge
        exact .oversized hlarge
      · by_cases hwindow : dataLength payload ≤ c.recvwindow
        · obtain ⟨contents, hacc⟩ := hsound
          have hold := hacc.window
          have hsmall := opts.recv_window_small
          have hsub : sub32 c.recvwindow (dataLength payload) ≤ opts.recv_window := by
            rw [sub32_of_le hwindow (by omega)]
            omega
          rw [dropbear_assertion_true (show (c.arrived payload).recvwindow ≥ dataLength payload
            from hwindow), ok_bind, dropbear_assertion_true (by exact hsub), ok_bind]
          refine (Meets.peer (exits_meets (buf_getptr_meets payload' (dataLength payload)))).bind ?_
          rintro _ ⟨hlen, -⟩
          have hdata : payload'.rest.take (dataLength payload) = messageData payload := by
            rw [hrest]
            rfl
          have hdatalen : (messageData payload).length = dataLength payload := by
            rw [← hdata, List.length_take]
            omega
          have hcharged : ChannelAct opts .data c
              ((c.arrived payload).charge (dataLength payload) (messageData payload)) :=
            .charged payload hidle hopen hwindow hdatalen
          have hsound₁ := hcharged.sound ⟨contents, hacc⟩
          obtain ⟨res, c₂, hwrite, hacts, hsuccess, hfailure⟩ :=
            writechannel_written hsound₁ hopen answer
          have hinflight : c₂.trace.inflight = payload'.rest.take (dataLength payload) :=
            (ActsOf.inflight (by decide) hacts).trans hdata.symm
          obtain ⟨c₃, hkeep, hact, hdone⟩ := keepData_acts (ActsOf.sound hacts hsound₁) hinflight
            hlen (fun hres => (hsuccess hres).symm ▸ hopen) hfailure
          have hmove : buf_incrpos payload' (toInt32 0) = .ok payload' :=
            buf_incrpos_ok.mpr ⟨Nat.zero_le _, rfl, rfl, rfl⟩
          have hnone : sub32 (dataLength payload) 0 = dataLength payload :=
            sub32_of_le (Nat.zero_le _) (by omega)
          have hwrite' : writechannel opts
              ((c.arrived payload).charge (dataLength payload) (messageData payload))
              (c.arrived payload).writefd answer = .ok (res, 0, c₂) := hwrite
          simp only [hdata, hwrite', hmove, exits_ok, ok_bind, hnone, hkeep]
          have hwritten := ActsOf.because (hallow .io (.inl rfl)) hacts
          exact ⟨(hwritten.head ⟨_, hallow _ (.inr rfl), hcharged⟩).tail
            ⟨_, hallow _ (.inr rfl), hact⟩, hdone⟩
        · rw [dropbear_assertion, if_neg (show ¬ (c.arrived payload).recvwindow ≥ dataLength payload
            from hwindow)]
          exact .window (Nat.lt_of_not_le hwindow)

/-! ## Requests -/

theorem forceCommand_pid (pubkey_options : Option PubKeyOptions) (chansess : ChanSess) :
    (forceCommand opts pubkey_options chansess).pid = chansess.pid := by
  unfold forceCommand
  split
  · rfl
  · unfold svr_pubkey_set_forced_command
    split
    · rfl
    · rfl

theorem sessionwinchange_meets (chansess : ChanSess) (payload : Buffer) :
    Meets (sessionwinchange chansess payload) PeerExit fun _ => True := by
  unfold sessionwinchange
  split
  · trivial
  · refine (exits_meets (buf_getint_meets payload)).bind fun r₁ _ => ?_
    refine (exits_meets (buf_getint_meets r₁.2)).bind fun r₂ _ => ?_
    refine (exits_meets (buf_getint_meets r₂.2)).bind fun r₃ _ => ?_
    exact (exits_meets (buf_getint_meets r₃.2)).bind fun r₄ _ => trivial

/-- The loop over the modes ends where they end, or with an exit. -/
theorem termmodes_meets (modes : Bytes) : Meets (termmodes modes) PeerError fun _ => True := by
  fun_induction termmodes modes with
  | case1 => exact ⟨"Bad buf_getbyte", by decide, rfl⟩
  | case2 => trivial
  | case3 opcode _ _ _ _ _ modes ih => exact ih
  | case4 => exact ⟨"Bad buf_getptr", by decide, rfl⟩

theorem get_termmodes_meets (payload : Buffer) (tcgetattr : Bool) :
    Meets (get_termmodes payload tcgetattr) PeerError fun _ => True := by
  unfold get_termmodes
  split
  · trivial
  · refine (buf_getint_meets payload).bind fun r _ => ?_
    dsimp only
    split
    · exact ⟨"Bad term mode string", by decide, rfl⟩
    · split
      · trivial
      · exact termmodes_meets r.2.rest

/-- A terminal changes neither the command nor the process. -/
theorem sessionpty_meets (chansess : ChanSess) (payload : Buffer) (env : RequestEnv) :
    Meets (sessionpty chansess payload env) PeerExit fun r =>
      r.2.cmd = chansess.cmd ∧ r.2.pid = chansess.pid ∧ r.2.exit = chansess.exit := by
  unfold sessionpty
  split
  · exact ⟨rfl, rfl, rfl⟩
  · refine (exits_meets (buf_getstring_meets payload)).bind fun r _ => ?_
    dsimp only
    split
    · exact ⟨rfl, rfl, rfl⟩
    · split
      · exact ⟨_, "Multiple pty requests", by decide, rfl⟩
      · split
        · exact ⟨rfl, rfl, rfl⟩
        · refine (sessionwinchange_meets _ _).bind fun r' _ => ?_
          exact (exits_meets (get_termmodes_meets r'.2 env.tcgetattr)).bind fun _ _ => ⟨rfl, rfl, rfl⟩

theorem sessionsignal_meets (chansess : ChanSess) (payload : Buffer) (env : RequestEnv) :
    Meets (sessionsignal chansess payload env) PeerExit fun _ => True := by
  unfold sessionsignal
  split
  · trivial
  · refine (exits_meets (buf_getstring_meets payload)).bind fun r _ => ?_
    dsimp only
    split
    · trivial
    · trivial

theorem requestedCommand_meets (opts : Opts) (iscmd issubsys : Bool) (payload : Buffer) :
    Meets (requestedCommand opts iscmd issubsys payload) PeerExit fun _ => True := by
  unfold requestedCommand
  split
  · trivial
  · refine (exits_meets (buf_getstring_meets payload)).bind fun r _ => ?_
    dsimp only
    split
    · trivial
    · split
      · trivial
      · split
        · trivial
        · trivial

/-- The command of the process is the forced one, if there is one. -/
structure Forced (opts : Opts) (pubkey_options : Option PubKeyOptions) (p : Started) : Prop where
  server : ∀ forced, opts.forced_command = some forced → p.cmd = some (cstr forced)
  key : opts.forced_command = none → ∀ forced,
    pubkey_options.bind PubKeyOptions.forced_command = some forced → p.cmd = some (cstr forced)

/-- A request starts one process or none. -/
inductive Starts (opts : Opts) (env : RequestEnv) (c c' : Channel) : Prop
  | nothing (h : c'.trace.started = c.trace.started)
  | one (spawn : Spawned) (p : Started) (hspawn : env.spawn = some spawn)
      (h : c'.trace.started = c.trace.started ++ [p]) (hpid : p.pid = spawn.pid)
      (hforced : Forced opts env.pubkey_options p)

/-- What a request leads to. -/
structure Requested (opts : Opts) (env : RequestEnv) (c c' : Channel) : Prop where
  acts : ActsOf opts .request c c'
  starts : Starts opts env c c'

theorem Requested.refl (opts : Opts) (env : RequestEnv) (c : Channel) : Requested opts env c c :=
  ⟨.refl, .nothing rfl⟩

theorem forceCommand_cmd (opts : Opts) (pubkey_options : Option PubKeyOptions) (chansess : ChanSess) :
    (∀ forced, opts.forced_command = some forced →
        (forceCommand opts pubkey_options chansess).cmd = some (cstr forced)) ∧
      (opts.forced_command = none → ∀ forced,
        pubkey_options.bind PubKeyOptions.forced_command = some forced →
        (forceCommand opts pubkey_options chansess).cmd = some (cstr forced)) := by
  unfold forceCommand
  cases opts.forced_command with
  | some server =>
    refine ⟨fun forced heq => ?_, fun hnone => nomatch hnone⟩
    cases heq
    rfl
  | none =>
    refine ⟨fun forced heq => (nomatch heq), fun _ forced hforced => ?_⟩
    rw [svr_pubkey_set_forced_command, hforced]

/-- A process is started for a session that has no command yet, or nothing but the session's data
changes. -/
theorem startCommand_requested {old chansess : ChanSess} {requested : Option Bytes} {env : RequestEnv}
    (h : c.chansess = some old) (htype : c.type = .svrchansess) (hfree : old.cmd = none)
    (hchansess : chansess = forceCommand opts env.pubkey_options { old with cmd := requested }) :
    Requested opts env c (startCommand c chansess env.spawn).2 := by
  have hfailed : Requested opts env c { c with chansess := some { chansess with cmd := none } } := by
    refine ⟨.single (.session old _ h hfree.symm ?_ ?_), .nothing rfl⟩
    · rw [hchansess]
      exact forceCommand_pid _ _
    · rw [hchansess]
      exact forceCommand_exit _ _
  obtain ⟨hserver, hkey⟩ := forceCommand_cmd opts env.pubkey_options { old with cmd := requested }
  rw [← hchansess] at hserver hkey
  unfold startCommand
  by_cases hterm : chansess.term = none
  · rw [if_pos hterm]
    cases hspawn : env.spawn with
    | none => exact hfailed
    | some spawn =>
      exact ⟨.single (.started old requested env spawn chansess h htype hfree hspawn hchansess hterm),
        .one spawn _ hspawn rfl rfl ⟨hserver, hkey⟩⟩
  · rw [if_neg hterm]
    unfold ptycommand
    by_cases hpty : chansess.master = -1 ∨ chansess.tty = none
    · rw [if_pos hpty]
      exact hfailed
    · rw [if_neg hpty]
      cases hspawn : env.spawn with
      | none => exact hfailed
      | some spawn =>
        have hmaster : chansess.master ≠ -1 := fun hm => hpty (.inl hm)
        exact ⟨.single
          (.startedPty old requested env spawn chansess h htype hfree hspawn hchansess hmaster),
          .one spawn _ hspawn rfl rfl ⟨hserver, hkey⟩⟩

theorem sessioncommand_meets {old : ChanSess} (h : c.chansess = some old)
    (htype : c.type = .svrchansess) (iscmd issubsys : Bool) (payload : Buffer) (env : RequestEnv) :
    Meets (sessioncommand opts c old iscmd issubsys payload env) PeerExit fun r =>
      Requested opts env c r.2 := by
  unfold sessioncommand
  split
  · exact .refl opts env c
  · rename_i hfree
    have hfree : old.cmd = none := by simpa using hfree
    refine (requestedCommand_meets opts iscmd issubsys payload).bind fun requested _ => ?_
    cases requested with
    | none => exact .refl opts env c
    | some cmd => exact startCommand_requested h htype hfree rfl

theorem sessionRequest_meets {old : ChanSess} (h : c.chansess = some old)
    (htype : c.type = .svrchansess) (type : Bytes) (payload : Buffer) (env : RequestEnv) :
    Meets (sessionRequest opts c old type payload env) PeerExit fun r =>
      Requested opts env c r.2 := by
  unfold sessionRequest
  split
  · exact (sessionwinchange_meets old payload).bind fun _ _ => .refl opts env c
  · split
    · exact sessioncommand_meets h htype false false payload env
    · split
      · refine (sessionpty_meets old payload env).bind fun r hr => ?_
        exact ⟨.single (.session old r.2 h hr.1 hr.2.1 hr.2.2), .nothing rfl⟩
      · split
        · exact sessioncommand_meets h htype true false payload env
        · split
          · exact sessioncommand_meets h htype true true payload env
          · split
            · exact (sessionsignal_meets old payload env).bind fun _ _ => .refl opts env c
            · exact .refl opts env c

/-- A reply to a request is an act of its own. -/
theorem Requested.reply {env : RequestEnv} (h : Requested opts env c c') (wantreply : Bool)
    (ret : Status) : Requested opts env c (c'.reply wantreply ret) := by
  have hsubmit : ∀ {c₁ : Channel}, ChannelAct opts .request c' c₁ →
      c₁.trace.started = c'.trace.started → Requested opts env c c₁ := by
    intro c₁ hact hsame
    refine ⟨h.acts.tail hact, ?_⟩
    cases h.starts with
    | nothing hnone => exact .nothing (hsame.trans hnone)
    | one spawn p hspawn hone hpid hforced =>
      exact .one spawn p hspawn (hsame.trans hone) hpid hforced
  cases ret with
  | DROPBEAR_SUCCESS =>
    unfold Channel.reply
    dsimp only
    split
    · unfold send_msg_channel_success
      split
      · exact h
      · rename_i hclose
        exact hsubmit (.succeeded (by simpa using hclose)) rfl
    · exact h
  | DROPBEAR_FAILURE =>
    unfold Channel.reply
    dsimp only
    split
    · unfold send_msg_channel_failure
      split
      · exact h
      · rename_i hclose
        exact hsubmit (.failed (by simpa using hclose)) rfl
    · exact h

theorem recv_msg_channel_request_meets (payload : Buffer) (env : RequestEnv) :
    Meets (recv_msg_channel_request opts c payload env) (EventAbort opts c (.request payload env))
      (Requested opts env c) := by
  unfold recv_msg_channel_request
  cases htype : c.type with
  | svrchansess =>
    refine (Meets.peer (exits_meets (buf_getstring_meets payload))).bind fun r₁ _ => ?_
    refine (Meets.peer (exits_meets (buf_getbool_meets r₁.2))).bind fun r₂ _ => ?_
    have hhandled : Meets (handleSessionRequest opts c r₁.1 r₂.2 env)
        (EventAbort opts c (.request payload env)) fun r => Requested opts env c r.2 := by
      unfold handleSessionRequest
      split
      · exact .refl opts env c
      · cases hsess : c.chansess with
        | none => exact .chansess htype hsess
        | some old =>
          exact Meets.peer (sessionRequest_meets hsess htype _ _ _)
    exact hhandled.bind fun r hr => hr.reply r₂.1 r.1
  | svr_chan_tcpdirect =>
    refine Meets.peer ?_
    refine (exits_meets (buf_eatstring_meets payload)).bind fun b _ => ?_
    exact (exits_meets (buf_getbool_meets b)).bind fun r _ =>
      (Requested.refl opts env c).reply r.1 DROPBEAR_FAILURE
  | svr_chan_tcpremote =>
    refine Meets.peer ?_
    refine (exits_meets (buf_eatstring_meets payload)).bind fun b _ => ?_
    exact (exits_meets (buf_getbool_meets b)).bind fun r _ =>
      (Requested.refl opts env c).reply r.1 DROPBEAR_FAILURE

/-! ## Descriptors that are ready -/

theorem ioRead_meets (c : Channel) (isextended : Bool) (answer : Option ReadAnswer) :
    Meets (c.ioRead isextended answer) (SendAbort opts c) fun r => ActsOf opts .io c r.1 := by
  cases answer with
  | none => exact .refl
  | some answer =>
    unfold Channel.ioRead
    dsimp only
    split
    · rename_i hfd
      exact (send_msg_channel_data_meets isextended answer hfd).bind fun _ h => h
    · exact .refl

theorem ioWrite_acts (hsound : Sound opts c) (answer : Option WriteAnswer) :
    ∃ r, c.ioWrite opts answer = .ok r ∧ ActsOf opts .io c r.1 := by
  cases answer with
  | none => exact ⟨_, rfl, .refl⟩
  | some answer =>
    unfold Channel.ioWrite
    dsimp only
    split
    · rename_i hopen
      obtain ⟨res, c', hwrite, hwritten⟩ := writechannel_written hsound hopen answer
      refine ⟨(c', true), ?_, hwritten.acts⟩
      rw [hwrite]
      rfl
    · exact ⟨_, rfl, .refl⟩

theorem channelio_meets (hsound : Sound opts c) (hidle : c.trace.inflight = []) (ready : Ready) :
    Meets (channelio opts c ready) (SendAbort opts c) (ActsOf opts .io c) := by
  refine (ioRead_meets c false ready.read).bind fun r₁ h₁ => ?_
  refine Meets.after_acts h₁ ((ioRead_meets r₁.1 true ready.err).bind fun r₂ h₂ => ?_)
  refine Meets.after_acts h₂ ?_
  have hsound₂ : Sound opts r₂.1 := ActsOf.sound (h₁.trans h₂) hsound
  obtain ⟨r₃, hwrite, h₃⟩ := ioWrite_acts hsound₂ ready.write
  dsimp only
  rw [hwrite, ok_bind]
  refine Meets.after_acts h₃ ?_
  split
  · exact check_close_meets opts _ ((ActsOf.inflight (by decide) ((h₁.trans h₂).trans h₃)).trans hidle) ready.flush
  · exact .refl

/-! ## Every event -/

/-- **Inversion**: an event is a sequence of acts, or ends the process in one of the ways of
`EventAbort`. -/
theorem channelStep_meets (hsound : Sound opts c) (hidle : c.trace.inflight = [])
    {e : ChannelEvent} (hpossible : e.Possible c) :
    Meets (channelStep opts c e) (EventAbort opts c e) (Handled opts e c) := by
  have hio : e.Allows .io → ∀ {x : Except Abort Channel},
      Meets x (SendAbort opts c) (ActsOf opts .io c) →
      Meets x (EventAbort opts c e) (Handled opts e c) := fun hallow _ h =>
    h.imp (fun _ ha => .send ha) fun _ hacts => .of_acts hallow (by decide) hidle hacts
  have hpeer : e.Allows .peer → ∀ {x : Except Abort Channel},
      Meets x PeerExit (ActsOf opts .peer c) →
      Meets x (EventAbort opts c e) (Handled opts e c) := fun hallow _ h =>
    (Meets.peer h).imp (fun _ ha => ha) fun _ hacts => .of_acts hallow (by decide) hidle hacts
  have hact : ∀ (kind : ActKind) {c'}, e.Allows kind → kind ≠ .data → ChannelAct opts kind c c' →
      Handled opts e c c' := fun _ _ hallow hkind h => .of_acts hallow hkind hidle (.single h)
  cases e with
  | data payload answer => exact recv_msg_channel_data_meets hsound hidle payload answer
  | eof answers =>
    have hcheck := check_close_meets opts { c with recv_eof := true } hidle answers
    exact hio ⟨nofun, nofun⟩ (Meets.after_acts (.single (.recvEof c)) hcheck)
  | close answers =>
    have hcheck := check_close_meets opts { c with recv_eof := true, recv_close := true }
      hidle answers
    exact hio ⟨nofun, nofun⟩ (Meets.after_acts (.single (.recvClose c)) hcheck)
  | windowAdjust payload =>
    refine hpeer ⟨nofun, nofun⟩ ((exits_meets (buf_getint_meets payload)).bind fun r _ => ?_)
    exact .single (.adjusted c r.1)
  | request payload env =>
    exact (recv_msg_channel_request_meets payload env).imp (fun _ h => h) fun _ hreq =>
      .of_acts rfl (by decide) hidle hreq.acts
  | openConfirmation payload =>
    refine hpeer ⟨nofun, nofun⟩ ?_
    show Meets (recv_msg_channel_open_confirmation c payload) PeerExit (ActsOf opts .peer c)
    unfold recv_msg_channel_open_confirmation
    split
    · exact ⟨_, "Unexpected channel reply", by decide, rfl⟩
    · rename_i hopen
      refine (exits_meets (buf_getint_meets payload)).bind fun r₁ _ => ?_
      refine (exits_meets (buf_getint_meets r₁.2)).bind fun r₂ hr₂ => ?_
      refine (exits_meets (buf_getint_meets r₂.2)).bind fun r₃ _ => ?_
      have hsmall : r₂.1 < 2 ^ 32 := by
        rw [hr₂.2.1]
        exact ofBytes_take_four_lt _
      exact .single (.confirmed r₁.1 r₂.1 r₃.1 (by simpa using hopen) hsmall)
  | openFailure =>
    refine hpeer ⟨nofun, nofun⟩ ?_
    show Meets (recv_msg_channel_open_failure c) PeerExit (ActsOf opts .peer c)
    unfold recv_msg_channel_open_failure
    split
    · exact ⟨_, "Unexpected channel reply", by decide, rfl⟩
    · rename_i hopen
      exact .single (.refused (by simpa using hopen))
  | connectDone sock =>
    cases sock with
    | none => exact hact .peer ⟨nofun, nofun⟩ nofun (.connectFailed hpossible)
    | some sock => exact hact .peer ⟨nofun, nofun⟩ nofun (.connected sock hpossible)
  | childExited info => exact hact .exit rfl nofun (.exited info hpossible)
  | io ready => exact hio ⟨nofun, nofun⟩ (channelio_meets hsound hidle ready)
  | keepalive => exact hact .peer ⟨nofun, nofun⟩ nofun (.keptAlive hpossible)

/-! ## Every run -/

/-- What `newchannel` makes, with the ring `writebuf`. -/
def blank (opts : Opts) (index remotechan : Nat) (type : ChanType)
    (transwindow transmaxpacket announced : Nat) (writebuf : Circbuffer) : Channel where
  index := index
  remotechan := remotechan
  recvwindow := opts.recv_window
  transwindow := transwindow
  recvdonelen := 0
  recvmaxpacket := RECV_MAX_CHANNEL_DATA_LEN
  transmaxpacket := transmaxpacket
  writefd := FD_UNINIT
  readfd := FD_UNINIT
  errfd := FD_CLOSED
  writebuf := writebuf
  sent_close := false
  recv_close := false
  recv_eof := false
  sent_eof := false
  conn_pending := false
  await_open := false
  flushing := false
  type := type
  chansess := none
  removed := false
  sent := []
  trace := { announced := announced }

/-- The ways in which a channel can begin. -/
inductive Fresh (opts : Opts) : Channel → Prop
  | session (index remotechan transwindow transmaxpacket : Nat) (writebuf : Circbuffer)
      (hring : writebuf.Holds opts.recv_window []) :
      Fresh opts (send_msg_channel_open_confirmation
        { blank opts index remotechan .svrchansess (min transwindow TRANS_MAX_WINDOW)
          (min transmaxpacket TRANS_MAX_PAYLOAD_LEN) transwindow writebuf with
          chansess := some newchansess })
  | connecting (index remotechan transwindow transmaxpacket : Nat) (writebuf : Circbuffer)
      (hring : writebuf.Holds opts.recv_window []) :
      Fresh opts { blank opts index remotechan .svr_chan_tcpdirect (min transwindow TRANS_MAX_WINDOW)
        (min transmaxpacket TRANS_MAX_PAYLOAD_LEN) transwindow writebuf with
        conn_pending := true }
  | prohibited (index remotechan transwindow transmaxpacket reason : Nat) (writebuf : Circbuffer)
      (hring : writebuf.Holds opts.recv_window []) :
      Fresh opts ((remove_channel
        (blank opts index remotechan .svr_chan_tcpdirect (min transwindow TRANS_MAX_WINDOW)
          (min transmaxpacket TRANS_MAX_PAYLOAD_LEN) transwindow writebuf)).submit
            (.CHANNEL_OPEN_FAILURE remotechan reason))
  | outgoing (index fd : Nat) (writebuf : Circbuffer)
      (hring : writebuf.Holds opts.recv_window []) :
      Fresh opts ({ (blank opts index 0 .svr_chan_tcpremote 0 0 0 writebuf).openedOn fd with
        await_open := true }.submit
          (.CHANNEL_OPEN ChanType.svr_chan_tcpremote.name index opts.recv_window
            RECV_MAX_CHANNEL_DATA_LEN))

theorem Created.fresh (h : Created opts c) : Fresh opts c := by
  have hle : opts.recv_window ≤ MAX_CBUF_SIZE := Nat.le_trans opts.recv_window_le (by decide)
  obtain ⟨writebuf, hnew, hring⟩ := cbuf_new_holds opts.recv_window_pos hle
  cases h with
  | incoming index chantype remotechan transwindow transmaxpacket prohibited htype hopen =>
    rw [recv_msg_channel_open, newchannel, hnew] at hopen
    cases chantype with
    | svrchansess =>
      cases hopen
      exact .session index remotechan transwindow transmaxpacket writebuf hring
    | svr_chan_tcpdirect =>
      cases prohibited with
      | true =>
        cases hopen
        exact .prohibited index remotechan transwindow transmaxpacket _ writebuf hring
      | false =>
        cases hopen
        exact .connecting index remotechan transwindow transmaxpacket writebuf hring
    | svr_chan_tcpremote => exact absurd htype (by decide)
  | outgoing index fd hopen =>
    rw [send_msg_channel_open_init, newchannel, hnew] at hopen
    cases hopen
    exact .outgoing index fd writebuf hring

theorem Fresh.sound (h : Fresh opts c) : Sound opts c := by
  have hstart : ∀ {c₁ : Channel}, c₁.writebuf.Holds opts.recv_window [] →
      c₁.recvwindow = opts.recv_window → c₁.recvdonelen = 0 → c₁.granted = 0 →
      c₁.trace.inflight = [] → c₁.trace.received = [] → Sound opts c₁ := by
    intro c₁ hring hwindow hdone hgranted hinflight hreceived
    refine ⟨[], hring, ?_, fun _ => ?_, ?_, ?_⟩
    · simp [hwindow, hdone, hinflight]
    · simp [hwindow, hdone, hinflight]
    · simp [hwindow, hgranted, hreceived]
    · simp [hreceived]
  cases h with
  | session _ _ _ _ _ hring => exact hstart hring rfl rfl rfl rfl rfl
  | connecting _ _ _ _ _ hring => exact hstart hring rfl rfl rfl rfl rfl
  | prohibited _ _ _ _ _ _ hring => exact hstart hring rfl rfl rfl rfl rfl
  | outgoing _ _ _ hring => exact hstart hring rfl rfl rfl rfl rfl

theorem Fresh.idle (h : Fresh opts c) : c.trace.inflight = [] := by
  cases h <;> rfl

/-- Between two events a channel is in good order. -/
structure Orderly (opts : Opts) (c : Channel) : Prop where
  sound : Sound opts c
  idle : c.trace.inflight = []

theorem Fresh.orderly (h : Fresh opts c) : Orderly opts c := ⟨h.sound, h.idle⟩

/-- The step of a channel in good order is a sequence of acts. -/
theorem ChannelStep.handled {e : ChannelEvent} (h : ChannelStep opts c e c')
    (horder : Orderly opts c) : Handled opts e c c' :=
  (channelStep_meets horder.sound horder.idle h.2.1).of_ok h.2.2

/-- **Invariant rule** for events: what every act preserves. -/
theorem ChannelStep.invariant {inv : Channel → Prop} {e : ChannelEvent}
    (hact : ∀ ⦃kind c c'⦄, Sound opts c → inv c → ChannelAct opts kind c c' → inv c')
    (h : ChannelStep opts c e c') (h0 : Orderly opts c ∧ inv c) : Orderly opts c' ∧ inv c' := by
  have hhandled := h.handled h0.1
  have hboth : ∀ ⦃kind c c'⦄, Sound opts c ∧ inv c → ChannelAct opts kind c c' →
      Sound opts c' ∧ inv c' :=
    fun _ _ _ hinv hact' => ⟨hact'.sound hinv.1, hact hinv.1 hinv.2 hact'⟩
  obtain ⟨hsound, hinv⟩ := ChannelActs.invariant hboth (EventActs.acts hhandled.1) ⟨h0.1.sound, h0.2⟩
  exact ⟨⟨hsound, hhandled.2⟩, hinv⟩

/-- **Invariant rule**: what holds of every new channel and is preserved by every act holds in every
run. -/
theorem ChannelRun.invariant {inv : Channel → Prop} {es : List ChannelEvent}
    (hfresh : ∀ ⦃c⦄, Fresh opts c → inv c)
    (hact : ∀ ⦃kind c c'⦄, Sound opts c → inv c → ChannelAct opts kind c c' → inv c')
    (h : ChannelRun opts es c) : Orderly opts c ∧ inv c := by
  obtain ⟨c₀, hcreated, hrun⟩ := h
  have hstep : ∀ ⦃c e c'⦄, Orderly opts c ∧ inv c → ChannelStep opts c e c' →
      Orderly opts c' ∧ inv c' := fun _ _ _ hinv hstep => hstep.invariant hact hinv
  have hall := hrun.invariant hstep ⟨hcreated.fresh.orderly, hfresh hcreated.fresh⟩
  exact hall

/-- **Every channel is in good order**, whatever has happened on it. -/
theorem ChannelRun.orderly {es : List ChannelEvent} (h : ChannelRun opts es c) : Orderly opts c := by
  have hact : ∀ ⦃kind c c'⦄, Sound opts c → True → ChannelAct opts kind c c' → True :=
    fun _ _ _ _ _ _ => trivial
  exact (h.invariant (fun _ _ => trivial) hact).1

end SimpleSshd.Dropbear
