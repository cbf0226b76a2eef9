import SimpleSshd.Dropbear.Proofs.AuthSafetyProofs
import SimpleSshd.Dropbear.Proofs.PubkeyProofs

/-!
# Proofs: the options of the key that logged in

A line's options are attached when its key matches, before the signature is checked. They are taken
away again when the options are bad, when the request was a probe and when the signature is wrong. So
before the session is authenticated there are none, and afterwards there are those of the line that
was accepted.
-/

namespace SimpleSshd.Dropbear

open Fallible Runs

variable {cfg : Config} {env₀ : Env} {s s' : Session} {r : Request} {a a' : AuthState}
  {algo keyblob line : Bytes} {options options' : Option PubKeyOptions}

/-! ## The options of a line -/

/-- The options field of a line: there is none if the line begins with the algorithm. -/
def optionsField (algo line : Bytes) : Option Bytes :=
  if line.take algo.length = algo then none
  else some (options_scan false false (line.dropWhile isBlank)).1

/-- The options that an accepted line gives. -/
structure LineOptions (algo line : Bytes) (options : Option PubKeyOptions) : Prop where
  isSome : options.isSome = (optionsField algo line).isSome
  parsed : ∀ field, optionsField algo line = some field →
    svr_add_pubkey_options field = (DROPBEAR_SUCCESS, options)

theorem svr_add_pubkey_options_cases (field : Bytes) :
    (∃ opts, svr_add_pubkey_options field = (DROPBEAR_SUCCESS, some opts)) ∨
      svr_add_pubkey_options field = (DROPBEAR_FAILURE, none) := by
  unfold svr_add_pubkey_options
  cases add_pubkey_options_loop {} field with
  | some opts => exact .inl ⟨opts, rfl⟩
  | none => exact .inr rfl

/-- What the end of a line makes of no options. -/
theorem checkpubkey_tail_options {options_buf : Option Bytes} {rest : Bytes} {ret : Status}
    (h : checkpubkey_tail algo keyblob none options_buf rest = .ok (ret, options)) :
    ret = DROPBEAR_FAILURE ∧ options = none ∨
      ret = DROPBEAR_SUCCESS ∧ options.isSome = options_buf.isSome ∧
        ∀ field, options_buf = some field →
          svr_add_pubkey_options field = (DROPBEAR_SUCCESS, options) := by
  cases rest with
  | nil => exact absurd h (dropbear_exit_ne_ok _ _)
  | cons c rest =>
    simp only [checkpubkey_tail] at h
    split_ifs at h with hc
    · obtain ⟨rfl, rfl⟩ := Prod.mk.inj ((pure_eq_ok _ _).mp h)
      exact .inl ⟨rfl, rfl⟩
    · obtain ⟨cmp, -, h⟩ := bind_eq_ok.mp h
      cases cmp with
      | DROPBEAR_FAILURE =>
        obtain ⟨rfl, rfl⟩ := Prod.mk.inj ((pure_eq_ok _ _).mp h)
        exact .inl ⟨rfl, rfl⟩
      | DROPBEAR_SUCCESS =>
        cases options_buf with
        | none =>
          obtain ⟨rfl, rfl⟩ := Prod.mk.inj ((pure_eq_ok _ _).mp h)
          exact .inr ⟨rfl, rfl, fun field hfield => absurd hfield.symm (Option.some_ne_none field)⟩
        | some field =>
          have hadd := (pure_eq_ok _ _).mp h
          rcases svr_add_pubkey_options_cases field with ⟨opts, hok⟩ | hbad
          · obtain ⟨rfl, rfl⟩ := Prod.mk.inj (hok.symm.trans hadd)
            refine .inr ⟨rfl, rfl, fun field' hfield => ?_⟩
            cases hfield
            exact hok
          · obtain ⟨rfl, rfl⟩ := Prod.mk.inj (hbad.symm.trans hadd)
            exact .inl ⟨rfl, rfl⟩

/-- **A line** that is rejected leaves no options, and one that is accepted its own. -/
theorem checkpubkey_line_options {ret : Status}
    (h : checkpubkey_line line algo keyblob none = .ok (ret, options)) :
    ret = DROPBEAR_FAILURE ∧ options = none ∨
      ret = DROPBEAR_SUCCESS ∧ LineOptions algo line options := by
  have hreject : ∀ {x : Status × Option PubKeyOptions},
      (pure (DROPBEAR_FAILURE, none) : Except Exit (Status × Option PubKeyOptions)) = .ok x →
      x.1 = DROPBEAR_FAILURE ∧ x.2 = none := by
    intro x hx
    rw [← (pure_eq_ok _ _).mp hx]
    exact ⟨rfl, rfl⟩
  unfold checkpubkey_line at h
  split_ifs at h with hlen hnul hshort halgo
  · exact .inl (hreject h)
  · exact .inl (hreject h)
  · exact .inl (hreject h)
  · have hfield : optionsField algo line = none := if_pos halgo
    rcases checkpubkey_tail_options h with hfail | ⟨hret, hsome, -⟩
    · exact .inl hfail
    · refine .inr ⟨hret, ?_, ?_⟩
      · rw [hfield]
        exact hsome
      · rw [hfield]
        exact nofun
  · have hfield : optionsField algo line =
        some (options_scan false false (line.dropWhile isBlank)).1 := if_neg halgo
    rcases hblank : line.dropWhile isBlank with _ | ⟨c, cs⟩
    · rw [hblank] at h
      exact absurd h (dropbear_exit_ne_ok _ _)
    · rw [hblank] at h hfield
      simp only at h
      split_ifs at h with hhash hrest halgo'
      · exact .inl (hreject h)
      · exact .inl (hreject h)
      · exact .inl (hreject h)
      · rcases checkpubkey_tail_options h with hfail | ⟨hret, hsome, hparsed⟩
        · exact .inl hfail
        · refine .inr ⟨hret, ?_, ?_⟩
          · rw [hfield]
            exact hsome
          · rw [hfield]
            exact hparsed

/-- **The lines of a file**: the options are those of the line that is accepted. -/
theorem checkLines_options {lines : List Bytes} {ret : Status}
    (h : checkLines algo keyblob none lines = .ok (ret, options)) :
    ret = DROPBEAR_FAILURE ∧ options = none ∨
      ret = DROPBEAR_SUCCESS ∧ ∃ pre line, FirstAccepted algo keyblob lines pre line ∧
        LineOptions algo line options := by
  induction lines with
  | nil =>
    obtain ⟨rfl, rfl⟩ := Prod.mk.inj ((pure_eq_ok _ _).mp h)
    exact .inl ⟨rfl, rfl⟩
  | cons line lines ih =>
    simp only [checkLines, bind_eq_ok, Prod.exists] at h
    obtain ⟨ret₁, options₁, hline, hrest⟩ := h
    rcases checkpubkey_line_options hline with ⟨rfl, rfl⟩ | ⟨rfl, hopts⟩
    · rcases ih hrest with hfail | ⟨hret, pre, l, ⟨⟨post, rfl⟩, hpre, hl⟩, hopts⟩
      · exact .inl hfail
      · refine .inr ⟨hret, line :: pre, l, ⟨⟨post, rfl⟩, ?_, hl⟩, hopts⟩
        exact List.forall_mem_cons.mpr ⟨lineStatus_of_ok _ _ hline, hpre⟩
    · obtain ⟨rfl, rfl⟩ := Prod.mk.inj ((pure_eq_ok _ _).mp hrest)
      exact .inr ⟨rfl, [], line, ⟨⟨lines, rfl⟩, List.forall_mem_nil _, lineStatus_of_ok _ _ hline⟩,
        hopts⟩

/-- The first line of the file that is accepted for the key has these options. -/
def KeyOptions (authfile : Option Bytes) (algo keyblob : Bytes) (options : Option PubKeyOptions) :
    Prop :=
  ∃ file pre line, authfile = some file ∧
    FirstAccepted algo keyblob ((physicalLines file).map kept) pre line ∧
    LineOptions algo line options

theorem checkpubkey_options {authfile : Option Bytes} {ret : Status}
    (h : checkpubkey authfile algo keyblob none = .ok (ret, options)) :
    ret = DROPBEAR_FAILURE ∧ options = none ∨
      ret = DROPBEAR_SUCCESS ∧ KeyOptions authfile algo keyblob options := by
  unfold checkpubkey at h
  split_ifs at h
  · obtain ⟨rfl, rfl⟩ := Prod.mk.inj ((pure_eq_ok _ _).mp h)
    exact .inl ⟨rfl, rfl⟩
  · cases authfile with
    | none =>
      obtain ⟨rfl, rfl⟩ := Prod.mk.inj ((pure_eq_ok _ _).mp h)
      exact .inl ⟨rfl, rfl⟩
    | some file =>
      simp only [checkpubkey_loop_eq] at h
      rcases checkLines_options h with hfail | ⟨hret, pre, line, hfirst, hopts⟩
      · exact .inl hfail
      · exact .inr ⟨hret, file, pre, line, rfl, hfirst, hopts⟩

/-! ## Requests -/

/-- The request was accepted with a key, and the options are those of its line. -/
def ByKeyWithOptions (cfg : Config) (s : Session) (r : Request) (options : Option PubKeyOptions) :
    Prop :=
  ∃ username servicename rest algo keyblob b b' key,
    ReadsRequest r.payload username servicename AUTH_METHOD_PUBKEY rest ∧
      PubkeyAccepted cfg r.env s.session_id s.payload_beginning rest none options algo keyblob
        b b' key ∧
      KeyOptions r.env.authfile algo keyblob options

theorem NameChecked.pubkey_options {username : Bytes} {ret : Status}
    (h : NameChecked cfg a username ret a') : a'.pubkey_options = a.pubkey_options := by
  cases h <;> rfl

/-- **A request** to a session without options: there are some afterwards only if it was accepted with
a key that has them. -/
theorem AuthInv.request_options (hinv : AuthInv cfg env₀ s.authstate)
    (hdone : s.authstate.authdone = false) (hnone : s.authstate.pubkey_options = none)
    (h : recv_msg_userauth_request cfg r.env s r.payload = .ok s') :
    s'.authstate.authdone = false ∧ s'.authstate.pubkey_options = none ∨
      s'.authstate.authdone = true ∧
        (ByPassword env₀ s.authstate r ∧ s'.authstate.pubkey_options = none ∨
          ByKeyWithOptions cfg s r s'.authstate.pubkey_options) := by
  obtain ⟨username, servicename, methodname, rest, ret, a, hreads, hname, hout⟩ :=
    recv_msg_userauth_request_ok hdone h
  obtain ⟨hinv', hsame⟩ := hinv.name hname
  have hstill : a.authdone = false := hsame.trans hdone
  have hnone' : a.pubkey_options = none := hname.pubkey_options.trans hnone
  have hauth := hinv.authenticates hdone h
  generalize s'.authstate = a' at hout hauth ⊢
  cases hout with
  | refused opts hopts href =>
    have hgone : opts = none := hopts.elim (fun heq => heq.trans hnone') id
    rw [href.eq]
    exact .inl ⟨hstill, hgone⟩
  | wrongPassword href =>
    rw [href.eq]
    exact .inl ⟨hstill, hnone'⟩
  | probed => exact .inl ⟨hstill, rfl⟩
  | blank _ hblank => exact absurd hblank hinv'.not_blank
  | password hmethod hallowed hpw =>
    refine .inr ⟨rfl, .inl ⟨?_, hnone'⟩⟩
    rcases hauth rfl with hpassword | ⟨_, _, _, _, _, _, _, _, _, _, hreads', -⟩
    · exact hpassword
    · -- the request has one method
      rw [hmethod] at hreads
      obtain ⟨b₁, b₂, h₁, h₂, h₃⟩ := hreads
      obtain ⟨b₁', b₂', h₁', h₂', h₃'⟩ := hreads'
      obtain ⟨-, rfl⟩ := Prod.mk.inj (Except.ok.inj (h₁.symm.trans h₁'))
      obtain ⟨-, rfl⟩ := Prod.mk.inj (Except.ok.inj (h₂.symm.trans h₂'))
      obtain ⟨hbad, -⟩ := Prod.mk.inj (Except.ok.inj (h₃.symm.trans h₃'))
      exact absurd hbad (by decide)
  | @pubkey opts algo keyblob b b' key hmethod _ hacc =>
    rw [hmethod] at hreads
    rw [hnone'] at hacc
    rcases checkpubkey_options hacc.authorised with ⟨hbad, -⟩ | ⟨-, hopts⟩
    · cases hbad
    · exact .inr ⟨rfl, .inr ⟨username, servicename, rest, algo, keyblob, b, b', key, hreads, hacc,
        hopts⟩⟩

/-- Before the session is authenticated there are no options. -/
structure OptionsInv (cfg : Config) (env₀ : Env) (a : AuthState) : Prop where
  auth : AuthInv cfg env₀ a
  none : a.authdone = false → a.pubkey_options = none

theorem OptionsInv.init : OptionsInv cfg env₀ (svr_authinitialise env₀) := by
  refine ⟨AuthInv.init, fun _ => ?_⟩
  unfold svr_authinitialise
  split_ifs
  · rfl
  · rfl

theorem OptionsInv.step (hinv : OptionsInv cfg env₀ s.authstate) (h : RequestStep cfg s r s') :
    OptionsInv cfg env₀ s'.authstate := by
  refine ⟨hinv.auth.step h, fun hdone' => ?_⟩
  obtain ⟨s₁, hauth, hrecv⟩ := h
  rw [← hauth] at hinv
  by_cases hdone : s₁.authstate.authdone = true
  · rw [recv_msg_userauth_request_done hdone hrecv] at hdone' ⊢
    exact hinv.none hdone'
  · have hdone := Bool.eq_false_iff.mpr hdone
    rcases hinv.auth.request_options hdone (hinv.none hdone) hrecv with ⟨-, hgone⟩ | ⟨htrue, -⟩
    · exact hgone
    · rw [htrue] at hdone'
      cases hdone'

theorem OptionsInv.run {s₀ : Session} {rs : List Request}
    (h0 : s₀.authstate = svr_authinitialise env₀) (hrun : Run (RequestStep cfg) s₀ rs s) :
    OptionsInv cfg env₀ s.authstate := by
  have hstep : ∀ ⦃s r s'⦄, OptionsInv cfg env₀ s.authstate → RequestStep cfg s r s' →
      OptionsInv cfg env₀ s'.authstate := fun _ _ _ hinv h => hinv.step h
  have hinit : OptionsInv cfg env₀ s₀.authstate := h0 ▸ OptionsInv.init
  have hall := hrun.invariant hstep hinit
  exact hall

/-- **The options are those of the key that logged in**, for every sequence of requests: before one
succeeds there are none; one that succeeds with a key leaves the options of the first line that is
accepted for that key; and later ones change nothing. -/
theorem key_options_of_login (cfg : Config) (env₀ : Env) {s₀ s : Session} {rs : List Request}
    (h0 : s₀.authstate = svr_authinitialise env₀) (hrun : Run (RequestStep cfg) s₀ rs s) :
    (s.authstate.authdone = false → s.authstate.pubkey_options = none) ∧
      ∀ (s₁ : Session) (r : Request) (s' : Session), s₁.authstate = s.authstate →
        recv_msg_userauth_request cfg r.env s₁ r.payload = .ok s' →
        (s.authstate.authdone = true → s'.authstate = s.authstate) ∧
        (s.authstate.authdone = false → s'.authstate.authdone = true →
          ByPassword env₀ s.authstate r ∧ s'.authstate.pubkey_options = none ∨
            ByKeyWithOptions cfg s₁ r s'.authstate.pubkey_options) := by
  have hinv := OptionsInv.run h0 hrun
  refine ⟨hinv.none, fun s₁ r s' hauth hrecv => ?_⟩
  rw [← hauth] at hinv ⊢
  refine ⟨fun hdone => ?_, fun hdone hdone' => ?_⟩
  · rw [recv_msg_userauth_request_done hdone hrecv]
  · rcases hinv.auth.request_options hdone (hinv.none hdone) hrecv with ⟨hfalse, -⟩ | ⟨-, hby⟩
    · rw [hfalse] at hdone'
      cases hdone'
    · exact hby

/-- The key may only run one command. -/
def commandEnv : Env :=
  { truncatedEnv with authfile := some (ascii "command=\"ls\" ssh-rsa AAAAB3NzaC1yc2E=") }

theorem key_options_of_login_command : ∃ s',
    recv_msg_userauth_request (plainConfig clientCrypto noKexCrypto) commandEnv clientSession
        (clientPacketAt 1 (by decide)) = .ok s' ∧
      s'.authstate.pubkey_options = some { forced_command := some (ascii "ls") } ∧
      (ByPassword truncatedEnv clientSession.authstate ⟨commandEnv, clientPacketAt 1 (by decide)⟩ ∧
          s'.authstate.pubkey_options = none ∨
        ByKeyWithOptions (plainConfig clientCrypto noKexCrypto) clientSession
          ⟨commandEnv, clientPacketAt 1 (by decide)⟩ s'.authstate.pubkey_options) := by
  have hexec : okAnd (recv_msg_userauth_request (plainConfig clientCrypto noKexCrypto) commandEnv
      clientSession (clientPacketAt 1 (by decide))) (fun s => s.authstate.authdone &&
        s.authstate.pubkey_options == some { forced_command := some (ascii "ls") }) = true := by
    decide +kernel
  obtain ⟨s', hrecv, htest⟩ := okAnd_eq_true.mp hexec
  obtain ⟨hdone, hopts⟩ := Bool.and_eq_true_iff.mp htest
  have hrun : Run (RequestStep (plainConfig clientCrypto noKexCrypto)) clientSession []
      clientSession := .nil _
  have hlogin := (key_options_of_login _ truncatedEnv rfl hrun).2 clientSession
    ⟨commandEnv, clientPacketAt 1 (by decide)⟩ s' rfl hrecv
  exact ⟨s', hrecv, beq_iff_eq.mp hopts, hlogin.2 rfl hdone⟩

end SimpleSshd.Dropbear
