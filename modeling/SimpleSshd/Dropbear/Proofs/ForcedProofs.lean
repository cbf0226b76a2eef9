import SimpleSshd.Dropbear.Proofs.ServerProofs

/-!
# Proofs: forced commands

The command of the server, or else that of the line with which the client logged in, replaces what the
client asks for. The options of the line are set once, when a request is accepted, and every process is
started by `sessioncommand`, which looks at them.
-/

namespace SimpleSshd.Dropbear

open Fallible Slots

variable {cfg : Config} {opts : Opts} {fresh : Server → Nat → Prop} {env₀ : Env} {s s' : Server}
  {es : List ServerEvent}

/-! ## The command of a line -/

theorem mem_of_match_option {options_buf rest : Bytes} {opt_name : String} {b : UInt8}
    (h : match_option options_buf opt_name = some rest) (hb : b ∈ rest) : b ∈ options_buf := by
  simp only [match_option] at h
  split_ifs at h
  cases h
  exact List.mem_of_mem_drop hb

theorem mem_of_forced_command_scan {escaped : Bool} {bs cmd rest : Bytes} {b : UInt8}
    (h : forced_command_scan escaped bs = some (cmd, rest)) (hb : b ∈ cmd ∨ b ∈ rest) : b ∈ bs := by
  induction bs generalizing escaped cmd with
  | nil => cases h
  | cons c cs ih =>
    rw [forced_command_scan] at h
    split_ifs at h
    · cases h
      rcases hb with hb | hb
      · cases hb
      · exact List.mem_cons_of_mem _ hb
    · obtain ⟨⟨cmd', rest'⟩, hscan, hcons⟩ := Option.map_eq_some_iff.mp h
      cases hcons
      rcases hb with hb | hb
      · rcases List.mem_cons.mp hb with rfl | hb
        · exact List.mem_cons_self
        · exact List.mem_cons_of_mem _ (ih hscan (.inl hb))
      · exact List.mem_cons_of_mem _ (ih hscan (.inr hb))

/-- The bytes of the command come from the options. -/
def CommandWithin (bs : Bytes) (o : PubKeyOptions) : Prop :=
  ∀ forced, o.forced_command = some forced → ∀ b ∈ forced, b ∈ bs

theorem match_one_option_within {bs options_buf rest : Bytes} {o o' : PubKeyOptions}
    (h : match_one_option o options_buf = some (o', rest)) (ho : CommandWithin bs o)
    (hsub : ∀ b ∈ options_buf, b ∈ bs) : CommandWithin bs o' ∧ ∀ b ∈ rest, b ∈ bs := by
  unfold match_one_option at h
  split at h
  · rename_i r hport
    cases h
    exact ⟨ho, fun b hb => hsub b (mem_of_match_option hport hb)⟩
  · split at h
    · rename_i r hpty
      cases h
      exact ⟨ho, fun b hb => hsub b (mem_of_match_option hpty hb)⟩
    · split at h
      · rename_i r hcommand
        split_ifs at h
        obtain ⟨⟨cmd, rest'⟩, hscan, hcons⟩ := Option.map_eq_some_iff.mp h
        cases hcons
        have hscanned : ∀ b, b ∈ cmd ∨ b ∈ rest → b ∈ bs := fun b hb =>
          hsub b (mem_of_match_option hcommand (mem_of_forced_command_scan hscan hb))
        refine ⟨fun forced hforced b hb => ?_, fun b hb => hscanned b (.inr hb)⟩
        cases hforced
        exact hscanned b (.inl hb)
      · cases h
        exact ⟨ho, hsub⟩

theorem add_pubkey_options_loop_within {bs options_buf : Bytes} {o o' : PubKeyOptions}
    (h : add_pubkey_options_loop o options_buf = some o') (ho : CommandWithin bs o)
    (hsub : ∀ b ∈ options_buf, b ∈ bs) : CommandWithin bs o' := by
  fun_induction add_pubkey_options_loop o options_buf with
  | case1 o =>
    cases h
    exact ho
  | case2 => cases h
  | case3 o c cs o₁ hone =>
    cases h
    exact (match_one_option_within hone ho hsub).1
  | case4 => cases h
  | case5 o c cs o₁ d ds hone hcomma ih =>
    obtain ⟨ho₁, hrest⟩ := match_one_option_within hone ho hsub
    exact ih h ho₁ fun b hb => hrest b (List.mem_cons_of_mem _ hb)

theorem mem_of_options_scan {quoted escape : Bool} {bs : Bytes} {b : UInt8}
    (hb : b ∈ (options_scan quoted escape bs).1) : b ∈ bs := by
  induction bs generalizing quoted escape with
  | nil => exact hb
  | cons c cs ih =>
    rw [options_scan] at hb
    split_ifs at hb
    · cases hb
    · rcases List.mem_cons.mp hb with rfl | hb
      · exact List.mem_cons_self
      · exact List.mem_cons_of_mem _ (ih hb)

/-- A line that is accepted holds no NUL. -/
theorem lineStatus_no_nul {line algo keyblob : Bytes}
    (h : lineStatus algo keyblob line = .ok DROPBEAR_SUCCESS) : 0 ∉ line := by
  intro hnul
  unfold lineStatus checkpubkey_line at h
  split_ifs at h
  · cases h
  · cases h

/-- **The forced command is a C string**: the bytes of the line, all of them. -/
theorem LineOptions.forced_cstr {line algo keyblob forced : Bytes} {options : Option PubKeyOptions}
    (h : LineOptions algo line options)
    (hline : lineStatus algo keyblob line = .ok DROPBEAR_SUCCESS)
    (hforced : options.bind PubKeyOptions.forced_command = some forced) : cstr forced = forced := by
  obtain ⟨o, rfl, hcommand⟩ := Option.bind_eq_some_iff.mp hforced
  obtain ⟨field, hfield⟩ := Option.isSome_iff_exists.mp (h.isSome.symm.trans rfl)
  have hparsed := h.parsed field hfield
  have hloop : add_pubkey_options_loop {} field = some o := by
    unfold svr_add_pubkey_options at hparsed
    cases hl : add_pubkey_options_loop {} field with
    | none =>
      rw [hl] at hparsed
      cases hparsed
    | some o' =>
      rw [hl] at hparsed
      exact (Prod.mk.inj hparsed).2
  have hsub : ∀ b ∈ field, b ∈ line := by
    intro b hb
    unfold optionsField at hfield
    split_ifs at hfield
    cases hfield
    exact (List.dropWhile_sublist _).subset (mem_of_options_scan hb)
  have hwithin := add_pubkey_options_loop_within hloop nofun hsub forced hcommand
  refine List.takeWhile_eq_self_iff.mpr fun b hb => decide_eq_true ?_
  rintro rfl
  exact lineStatus_no_nul hline (hwithin 0 hb)

/-! ## The login -/

/-- The request among the events with which the client logged in, and the options that the session has
because of it: none, or those of the line that was accepted for the key. -/
def LoggedIn (cfg : Config) (opts : Opts) (env₀ : Env) (es : List ServerEvent)
    (options : Option PubKeyOptions) : Prop :=
  ∃ (before : List ServerEvent) (rest : Session) (r : Request) (after : List ServerEvent)
    (s₁ s₂ : Server), es = before ++ .userauth rest r :: after ∧
    ServerRun cfg opts env₀ before s₁ ∧ s₁.authstate.authdone = false ∧
    Authenticates cfg rest r s₁ s₂ ∧ s₂.authstate.authdone = true ∧
    (ByPassword env₀ s₁.authstate r ∧ options = none ∨
      ByKeyWithOptions cfg { rest with authstate := s₁.authstate } r options)

/-- Only a request changes the authentication state. -/
theorem ServerStep.authstate {e : ServerEvent} (h : ServerStep cfg opts s e s')
    (hs : Settled opts s) :
    s'.authstate = s.authstate ∨
      ∃ rest r, e = .userauth rest r ∧ Authenticates cfg rest r s s' := by
  have hfresh : e.SpawnsOnly (anyPid s) := e.spawnsOnly_anyPid s
  rcases (h.acts hs hfresh).1 with hauth | hacts
  · exact .inr hauth
  · exact .inl (ServerActs.authstate_eq hacts)

theorem ServerStep.authstate_eq {e : ServerEvent} (h : ServerStep cfg opts s e s')
    (hs : Settled opts s) (hdone : s.authstate.authdone = true) : s'.authstate = s.authstate := by
  rcases h.authstate hs with hsame | ⟨rest, r, -, hauth⟩
  · exact hsame
  · rw [hauth.eq_of_authdone hdone]

/-- The authentication state of a connection is one of those of its requests. -/
theorem ServerRun.options (h : ServerRun cfg opts env₀ es s) :
    Settled opts s ∧ OptionsInv cfg env₀ s.authstate := by
  have hauth : ∀ ⦃rest r s s'⦄, ServerInv opts s → OptionsInv cfg env₀ s.authstate →
      Authenticates cfg rest r s s' → OptionsInv cfg env₀ s'.authstate := by
    rintro rest r s s' - hinv ⟨session, hrecv, rfl⟩
    have hrequest : RequestStep cfg { rest with authstate := s.authstate } r session :=
      ⟨_, rfl, hrecv⟩
    exact OptionsInv.step hinv hrequest
  have hact : ∀ ⦃s s'⦄, ServerInv opts s → OptionsInv cfg env₀ s.authstate →
      ServerAct opts anyPid s s' → OptionsInv cfg env₀ s'.authstate := by
    intro s s' _ hinv hact
    rw [hact.authstate_eq]
    exact hinv
  have hinit : OptionsInv cfg env₀ (Server.start (svr_authinitialise env₀)).authstate :=
    OptionsInv.init
  have hall := FreshRun.invariant hauth hact h.freshRun ⟨Settled.start _, hinit⟩
  exact hall

/-- **The login** of a connection that is authenticated. -/
theorem ServerRun.login (h : ServerRun cfg opts env₀ es s) (hdone : s.authstate.authdone = true) :
    LoggedIn cfg opts env₀ es s.authstate.pubkey_options := by
  have hstart : ¬ (Server.start (svr_authinitialise env₀)).authstate.authdone = true := by
    show ¬ (svr_authinitialise env₀).authdone = true
    unfold svr_authinitialise
    split_ifs
    · exact not_false
    · exact not_false
  obtain ⟨before, e, after, s₁, s₂, rfl, hbefore, hnot, hstep, hyes, hafter⟩ :=
    Runs.Run.exists_step (fun s => s.authstate.authdone = true) h hstart hdone
  obtain ⟨hs₁, hopts⟩ := ServerRun.options hbefore
  have hnot := Bool.eq_false_iff.mpr hnot
  -- the state does not change any more
  have hkeep : ∀ ⦃s e s'⦄, Settled opts s ∧ s.authstate = s₂.authstate → ServerStep cfg opts s e s' →
      Settled opts s' ∧ s'.authstate = s₂.authstate := by
    rintro s e s' ⟨hs, hsame⟩ hstep
    refine ⟨hstep.settled hs, ?_⟩
    rw [hstep.authstate_eq hs (hsame ▸ hyes), hsame]
  have hsame := (hafter.invariant hkeep ⟨hstep.settled hs₁, rfl⟩).2
  rw [hsame]
  rcases hstep.authstate hs₁ with hold | ⟨rest, r, rfl, hauth⟩
  · rw [hold, hnot] at hyes
    cases hyes
  · refine ⟨before, rest, r, after, s₁, s₂, rfl, hbefore, hnot, hauth, hyes, ?_⟩
    obtain ⟨session, hrecv, rfl⟩ := hauth
    rcases hopts.auth.request_options hnot (hopts.none hnot) hrecv with ⟨hfalse, -⟩ | ⟨-, hby⟩
    · rw [hfalse] at hyes
      cases hyes
    · exact hby

/-- The command of the line with which the client logged in is a C string. -/
theorem LoggedIn.forced_cstr {options : Option PubKeyOptions} {forced : Bytes}
    (h : LoggedIn cfg opts env₀ es options)
    (hforced : options.bind PubKeyOptions.forced_command = some forced) : cstr forced = forced := by
  obtain ⟨_, _, _, _, _, _, -, -, -, -, -, hby⟩ := h
  rcases hby with ⟨-, rfl⟩ | ⟨_, _, _, _, _, _, _, _, -, -, _, _, line, -, ⟨-, -, hline⟩, hopts⟩
  · cases hforced
  · exact hopts.forced_cstr hline hforced

/-! ## Processes -/

/-- Every process was started with the forced command, if there is one. -/
def AllForced (opts : Opts) (s : Server) : Prop :=
  ∀ slot, s.Has slot → ∀ p ∈ slot.channel.trace.started, Forced opts s.authstate.pubkey_options p

/-- **A request** changes the options only as long as there are no channels. -/
theorem AllForced.auth {rest : Session} {r : Request} (h : AllForced opts s)
    (hinv : ServerInv opts s) (hauth : Authenticates cfg rest r s s') : AllForced opts s' := by
  intro slot hslot
  by_cases hdone : s.authstate.authdone = true
  · rw [hauth.eq_of_authdone hdone] at hslot ⊢
    exact h slot hslot
  · obtain ⟨session, -, rfl⟩ := hauth
    exact absurd (hinv.authdone_of_has hslot) hdone

/-- A channel changes without starting a process. -/
theorem AllForced.put {i : Nat} {slot : Slot} {c' : Channel} (h : AllForced opts s)
    (hslot : lookup s.channels i = some slot)
    (hstarted : c'.trace.started = slot.channel.trace.started) : AllForced opts (s.put i slot c') := by
  intro slot' hslot' p hp
  rcases has_put hslot' with rfl | hold
  · rw [show (_ : Channel).trace.started = _ from hstarted] at hp
    exact h slot (.inl ⟨i, hslot⟩) p hp
  · exact h slot' hold p hp

theorem ServerAct.allForced (h : ServerAct opts fresh s s') (hforced : AllForced opts s) :
    AllForced opts s' := by
  cases h with
  | entered _ hnew hcreated =>
    intro slot hslot p hp
    rcases has_entered hnew hslot with rfl | hold
    · rw [hcreated.fresh.unstarted.1] at hp
      cases hp
    · exact hforced slot hold p hp
  | stepped hslot _ _ hstarted => exact hforced.put hslot hstarted
  | removed hslot =>
    intro slot' hslot'
    rw [remove_channel_eq]
    exact hforced slot' (has_remove hslot hslot')
  | started hslot hstep hstarted hpid hnew =>
    intro slot' hslot' p' hp'
    rcases has_put hslot' with rfl | hold
    · rw [show (_ : Channel).trace.started = _ from hstarted] at hp'
      rcases List.mem_append.mp hp' with hold | hlast
      · exact hforced _ (.inl ⟨_, hslot⟩) p' hold
      · rw [List.mem_singleton.mp hlast]
        exact hnew
    · exact hforced slot' hold p' hp'
  | late _ _ hslot _ => exact hforced.put hslot rfl
  | exited => exact hforced
  | reaped _ _ hslot _ => exact hforced.put hslot rfl
  | unmatched => exact hforced

theorem ServerRun.allForced (h : ServerRun cfg opts env₀ es s) :
    Settled opts s ∧ AllForced opts s := by
  have hauth : ∀ ⦃rest r s s'⦄, ServerInv opts s → AllForced opts s →
      Authenticates cfg rest r s s' → AllForced opts s' :=
    fun _ _ _ _ hinv hforced hauth => hforced.auth hinv hauth
  have hact : ∀ ⦃s s'⦄, ServerInv opts s → AllForced opts s → ServerAct opts anyPid s s' →
      AllForced opts s' := fun _ _ _ hforced hact => hact.allForced hforced
  have hinit : AllForced opts (Server.start (svr_authinitialise env₀)) :=
    fun slot hslot => absurd hslot (not_has_start _ slot)
  have hall := FreshRun.invariant hauth hact h.freshRun ⟨Settled.start _, hinit⟩
  exact hall

/-- **Forced commands cannot be bypassed**, whatever the client asks for: every process that was
started for a channel of the connection has the command of the server or, if there is none, that of the
line with which the client logged in. -/
theorem forced_command_not_bypassed (h : ServerRun cfg opts env₀ es s) {slot : Slot}
    (hslot : s.Has slot) {p : Started} (hp : p ∈ slot.channel.trace.started) :
    (∀ forced, opts.forced_command = some forced → p.cmd = some (cstr forced)) ∧
      (opts.forced_command = none → ∃ options, LoggedIn cfg opts env₀ es options ∧
        ∀ forced, options.bind PubKeyOptions.forced_command = some forced → p.cmd = some forced) := by
  obtain ⟨hs, hall⟩ := h.allForced
  have hforced := hall slot hslot p hp
  have hlogin := h.login (hs.inv.authdone_of_has hslot)
  refine ⟨hforced.server, fun hnone => ⟨_, hlogin, fun forced hkey => ?_⟩⟩
  have hcmd := hforced.key hnone forced hkey
  rw [hlogin.forced_cstr hkey] at hcmd
  exact hcmd

/-- A client that logs in with a key for `ls` asks for `cat`. -/
def catInsteadOfLs : List ServerEvent :=
  [.userauth clientSession ⟨commandEnv, clientPacketAt 1 (by decide)⟩,
    .channelOpen .svrchansess 0 100 100 false,
    .channel 0 (.request (requestOf "exec" (stringOf (ascii "cat"))) plainEnv)]

theorem forced_command_not_bypassed_catInsteadOfLs : ∃ s slot p,
    ServerRun (plainConfig clientCrypto noKexCrypto) tinyOpts truncatedEnv catInsteadOfLs s ∧
      s.Has slot ∧ p ∈ slot.channel.trace.started ∧ p.cmd = some (ascii "ls") ∧
      ∃ options, LoggedIn (plainConfig clientCrypto noKexCrypto) tinyOpts truncatedEnv catInsteadOfLs
        options ∧ ∀ forced, options.bind PubKeyOptions.forced_command = some forced →
          p.cmd = some forced := by
  have hexec : (runServer (plainConfig clientCrypto noKexCrypto) tinyOpts truncatedEnv
      catInsteadOfLs).any (fun s => (lookup s.channels 0).any fun slot =>
        slot.channel.trace.started.any fun p => p.cmd = some (ascii "ls")) = true := by
    decide +kernel
  obtain ⟨s, hs, hany⟩ := (Option.any_eq_true _ _).mp hexec
  obtain ⟨slot, hslot, hany⟩ := (Option.any_eq_true _ _).mp hany
  obtain ⟨p, hp, hcmd⟩ := List.any_eq_true.mp hany
  have hrun := serverRun_of_runServer hs
  have hhas : s.Has slot := .inl ⟨0, hslot⟩
  exact ⟨s, slot, p, hrun, hhas, hp, of_decide_eq_true hcmd,
    (forced_command_not_bypassed hrun hhas hp).2 rfl⟩

end SimpleSshd.Dropbear
