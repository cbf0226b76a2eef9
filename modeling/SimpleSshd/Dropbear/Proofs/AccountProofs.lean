import SimpleSshd.Dropbear.Proofs.AuthSafetyProofs

/-!
# Proofs: the account of an authenticated session

`checkusername` returns early on a user name that is too long, before it fills in the account, and
the password method does not look at its verdict. The account of an authenticated session is
therefore known exactly when no request so far had such a name.
-/

namespace SimpleSshd.Dropbear

open Fallible Runs

variable {cfg : Config} {env₀ : Env} {s s' t : Session} {r : Request} {rs : List Request}
  {a a' : AuthState}

/-- The user name a request carries. -/
def usernameOf (payload : Buffer) : Option Bytes :=
  match buf_getstring payload with
  | .ok (username, _) => some username
  | .error _ => none

/-- The fields that the code run after authentication dereferences. -/
structure Populated (a : AuthState) : Prop where
  username : a.username.isSome
  pw_name : a.pw_name.isSome
  pw_dir : a.pw_dir.isSome
  pw_shell : a.pw_shell.isSome

/-- The fields of the account are the same. -/
structure SameAccount (a a' : AuthState) : Prop where
  username : a'.username = a.username
  pw_name : a'.pw_name = a.pw_name
  pw_dir : a'.pw_dir = a.pw_dir
  pw_shell : a'.pw_shell = a.pw_shell

theorem Populated.same (h : Populated a) (hsame : SameAccount a a') : Populated a' := by
  obtain ⟨huser, hname, hdir, hshell⟩ := hsame
  refine ⟨?_, ?_, ?_, ?_⟩
  · rw [huser]
    exact h.username
  · rw [hname]
    exact h.pw_name
  · rw [hdir]
    exact h.pw_dir
  · rw [hshell]
    exact h.pw_shell

/-- No method touches the account. -/
theorem AuthOutcome.sameAccount {env : Env} {session_id : Option Bytes} {beginning : Nat}
    {payload : Buffer} {methodname : Bytes} {valid_user : Bool}
    (h : AuthOutcome cfg env session_id beginning payload methodname valid_user a a') :
    SameAccount a a' := by
  cases h with
  | refused opts _ href =>
    rw [href.eq]
    exact ⟨rfl, rfl, rfl, rfl⟩
  | wrongPassword href =>
    rw [href.eq]
    exact ⟨rfl, rfl, rfl, rfl⟩
  | probed => exact ⟨rfl, rfl, rfl, rfl⟩
  | blank => exact ⟨rfl, rfl, rfl, rfl⟩
  | password => exact ⟨rfl, rfl, rfl, rfl⟩
  | pubkey => exact ⟨rfl, rfl, rfl, rfl⟩

/-! ## The invariant -/

/-- After the requests `rs`: a user name that is set is short and comes with the account, and every
short user name of a request is the one that is set. -/
structure NamesInv (rs : List Request) (a : AuthState) : Prop where
  account : ∀ u, a.username = some u → u.length ≤ MAX_USERNAME_LEN ∧ Populated a
  names : ∀ q ∈ rs, ∃ u, usernameOf q.payload = some u ∧
    (u.length ≤ MAX_USERNAME_LEN → a.username = some u)

theorem svr_authinitialise_fresh : (svr_authinitialise env₀).authdone = false ∧
    (svr_authinitialise env₀).username = none := by
  unfold svr_authinitialise
  split_ifs <;> exact ⟨rfl, rfl⟩

theorem NamesInv.init : NamesInv [] (svr_authinitialise env₀) := by
  refine ⟨fun u hu => ?_, fun q hq => absurd hq List.not_mem_nil⟩
  rw [svr_authinitialise_fresh.2] at hu
  cases hu

theorem NamesInv.same (h : NamesInv rs a) (hsame : SameAccount a a') : NamesInv rs a' := by
  refine ⟨fun u hu => ?_, fun q hq => ?_⟩
  · rw [hsame.username] at hu
    obtain ⟨hlen, hpop⟩ := h.account u hu
    exact ⟨hlen, hpop.same hsame⟩
  · rw [hsame.username]
    exact h.names q hq

/-- One more request with this user name. -/
theorem NamesInv.name {u : Bytes} {ret : Status} (hinv : NamesInv rs a)
    (hu : usernameOf r.payload = some u) (h : NameChecked cfg a u ret a') :
    NamesInv (rs ++ [r]) a' := by
  obtain ⟨haccount, hnames⟩ := hinv
  -- the new request is one of those with a short name, or its name is too long
  have hnew : ∀ {b : AuthState}, (u.length ≤ MAX_USERNAME_LEN → b.username = some u) →
      (∀ q ∈ rs, ∃ u, usernameOf q.payload = some u ∧
        (u.length ≤ MAX_USERNAME_LEN → b.username = some u)) →
      ∀ q ∈ rs ++ [r], ∃ u, usernameOf q.payload = some u ∧
        (u.length ≤ MAX_USERNAME_LEN → b.username = some u) := by
    intro b hb hrs q hq
    rcases List.mem_append.mp hq with hq | hq
    · exact hrs q hq
    · obtain rfl := List.mem_singleton.mp hq
      exact ⟨u, hu, hb⟩
  cases h with
  | tooLong hlong =>
    refine ⟨haccount, hnew (fun hshort => ?_) hnames⟩
    exact absurd hshort (Nat.not_le_of_lt hlong)
  | first failed hlen hnone =>
    refine ⟨fun v hv => ?_, hnew (fun _ => rfl) fun q hq => ?_⟩
    · obtain rfl := Option.some.inj hv
      exact ⟨hlen, rfl, rfl, rfl, rfl⟩
    · -- no earlier name was short
      obtain ⟨v, hv, hshort⟩ := hnames q hq
      refine ⟨v, hv, fun hle => ?_⟩
      have hset := hshort hle
      rw [hnone] at hset
      cases hset
  | again failed hlen hsome =>
    have hsame : SameAccount a { a with checkusername_failed := failed } := ⟨rfl, rfl, rfl, rfl⟩
    refine ⟨fun v hv => ?_, hnew (fun _ => hsome) hnames⟩
    obtain ⟨hle, hpop⟩ := haccount v hv
    exact ⟨hle, hpop.same hsame⟩

theorem NamesInv.step (hinv : NamesInv rs s.authstate) (hdone : s.authstate.authdone = false)
    (h : RequestStep cfg s r s') : NamesInv (rs ++ [r]) s'.authstate := by
  obtain ⟨s₁, hauth, hrecv⟩ := h
  rw [← hauth] at hinv hdone
  obtain ⟨u, _, _, _, _, a, ⟨_, _, huser, _, _⟩, hname, hout⟩ :=
    recv_msg_userauth_request_ok hdone hrecv
  have hu : usernameOf r.payload = some u := by
    unfold usernameOf
    rw [huser]
  exact (hinv.name hu hname).same hout.sameAccount

/-- What authenticates a session is final. -/
theorem RequestStep.authdone (h : RequestStep cfg s r s') (hdone : s.authstate.authdone = true) :
    s'.authstate = s.authstate := by
  obtain ⟨s₁, hauth, hrecv⟩ := h
  rw [← hauth] at hdone ⊢
  rw [recv_msg_userauth_request_done hdone hrecv]

theorem NamesInv.run {s₀ : Session} (h0 : s₀.authstate = svr_authinitialise env₀)
    (hrun : Run (RequestStep cfg) s₀ rs s) (hdone : s.authstate.authdone = false) :
    NamesInv rs s.authstate := by
  have hstep : ∀ ⦃rs s r s'⦄, (s.authstate.authdone = false → NamesInv rs s.authstate) →
      RequestStep cfg s r s' →
      (s'.authstate.authdone = false → NamesInv (rs ++ [r]) s'.authstate) := by
    intro rs s r s' hinv h hdone'
    have hdone : s.authstate.authdone = false := by
      by_contra hset
      have hset : s.authstate.authdone = true := Bool.eq_true_of_not_eq_false hset
      rw [h.authdone hset, hset] at hdone'
      cases hdone'
    exact (hinv hdone).step hdone h
  have hinit : s₀.authstate.authdone = false → NamesInv [] s₀.authstate := by
    intro _
    rw [h0]
    exact NamesInv.init
  exact hrun.trace_invariant hstep hinit hdone

/-! ## The account -/

/-- The account is filled in, and its user name is the one of each of these requests. -/
def AccountKnown (rs : List Request) (a : AuthState) : Prop :=
  Populated a ∧ ∀ q ∈ rs, usernameOf q.payload = a.username

theorem NamesInv.accountKnown (hinv : NamesInv rs a) (hne : rs ≠ []) :
    AccountKnown rs a ↔
      ∀ q ∈ rs, ∀ u, usernameOf q.payload = some u → u.length ≤ MAX_USERNAME_LEN := by
  refine ⟨fun ⟨_, hnames⟩ q hq u hu => ?_, fun hshort => ?_⟩
  · rw [hnames q hq] at hu
    exact (hinv.account u hu).1
  · have hset : ∀ q ∈ rs, ∃ u, usernameOf q.payload = some u ∧ a.username = some u := by
      intro q hq
      obtain ⟨u, hu, hsame⟩ := hinv.names q hq
      exact ⟨u, hu, hsame (hshort q hq u hu)⟩
    obtain ⟨q, hq⟩ := List.exists_mem_of_ne_nil rs hne
    obtain ⟨u, _, hu⟩ := hset q hq
    refine ⟨(hinv.account u hu).2, fun q' hq' => ?_⟩
    obtain ⟨v, hv, hv'⟩ := hset q' hq'
    rw [hv, hv']

/-- The run through the requests `rs`, `r` and `rs'` becomes authenticated at `r`. -/
structure AuthenticatedBy (cfg : Config) (s₀ : Session) (rs : List Request) (r : Request)
    (rs' : List Request) (t : Session) : Prop where
  split : ∃ s s', Run (RequestStep cfg) s₀ rs s ∧ s.authstate.authdone = false ∧
    RequestStep cfg s r s' ∧ s'.authstate.authdone = true ∧ Run (RequestStep cfg) s' rs' t

theorem authenticatedBy_of_run {s₀ : Session} {es : List Request}
    (h0 : s₀.authstate = svr_authinitialise env₀) (hrun : Run (RequestStep cfg) s₀ es t)
    (hdone : t.authstate.authdone = true) :
    ∃ rs r rs', es = rs ++ r :: rs' ∧ AuthenticatedBy cfg s₀ rs r rs' t := by
  have hnot : ¬ s₀.authstate.authdone = true := by
    rw [h0, svr_authinitialise_fresh.1]
    exact Bool.false_ne_true
  obtain ⟨rs, r, rs', s, s', heq, hbefore, hs, hstep, hs', hafter⟩ :=
    hrun.exists_step (fun s => s.authstate.authdone = true) hnot hdone
  exact ⟨rs, r, rs', heq, s, s', hbefore, Bool.eq_false_iff.mpr hs, hstep, hs', hafter⟩

theorem AuthenticatedBy.namesInv {s₀ : Session} {rs' : List Request}
    (h0 : s₀.authstate = svr_authinitialise env₀) (h : AuthenticatedBy cfg s₀ rs r rs' t) :
    NamesInv (rs ++ [r]) t.authstate := by
  obtain ⟨s, s', hbefore, hs, hstep, hs', hafter⟩ := h.split
  have hinv := (NamesInv.run h0 hbefore hs).step hs hstep
  have hkeep : ∀ ⦃u q v⦄, u.authstate = s'.authstate → RequestStep cfg u q v →
      v.authstate = s'.authstate := by
    intro u q v hu hstep
    rw [hstep.authdone (hu ▸ hs'), hu]
  rw [hafter.invariant hkeep rfl]
  exact hinv

/-- **The account of an authenticated session**: every run that ends authenticated became so at one
request, and the account is filled in and named as in every request up to that one exactly when none
of them had a user name that is too long. -/
theorem account_known_iff (cfg : Config) (env₀ : Env) {s₀ t : Session} {es : List Request}
    (h0 : s₀.authstate = svr_authinitialise env₀) (hrun : Run (RequestStep cfg) s₀ es t)
    (hdone : t.authstate.authdone = true) :
    (∃ rs r rs', es = rs ++ r :: rs' ∧ AuthenticatedBy cfg s₀ rs r rs' t) ∧
      ∀ rs r rs', AuthenticatedBy cfg s₀ rs r rs' t →
        (AccountKnown (rs ++ [r]) t.authstate ↔
          ∀ q ∈ rs ++ [r], ∀ u, usernameOf q.payload = some u → u.length ≤ MAX_USERNAME_LEN) := by
  refine ⟨authenticatedBy_of_run h0 hrun hdone, fun rs r rs' h => ?_⟩
  have hne : rs ++ [r] ≠ [] := List.append_ne_nil_of_right_ne_nil rs (List.cons_ne_nil r [])
  exact (h.namesInv h0).accountKnown hne

/-- What one request leads to, in a session that began without authorized keys. -/
theorem passwordRequest_run (username : Bytes) (test : Session → Bool)
    (h : (passwordPayload username).length ≤ BUF_MAX_SIZE)
    (hrecv : okAnd (recv_msg_userauth_request (plainConfig noCrypto noKexCrypto) noKeysEnv
      passwordSession (payloadOf (passwordPayload username) h)) test = true) :
    ∃ t, Run (RequestStep (plainConfig noCrypto noKexCrypto)) passwordSession
      [passwordRequest username h] t ∧ test t = true := by
  obtain ⟨t, hstep, htest⟩ := okAnd_eq_true.mp hrecv
  exact ⟨t, Run.single ⟨passwordSession, rfl, hstep⟩, htest⟩

theorem account_known_user : ∃ t : Session,
    Run (RequestStep (plainConfig noCrypto noKexCrypto)) passwordSession
      [passwordRequest (ascii "user") (by decide)] t ∧
      ∃ rs r rs', [passwordRequest (ascii "user") (by decide)] = rs ++ r :: rs' ∧
        AuthenticatedBy (plainConfig noCrypto noKexCrypto) passwordSession rs r rs' t := by
  obtain ⟨t, hrun, hdone⟩ := passwordRequest_run (ascii "user") (fun s => s.authstate.authdone)
    (by decide) (by decide +kernel)
  exact ⟨t, hrun, (account_known_iff _ noKeysEnv rfl hrun hdone).1⟩

/-- One byte more than `MAX_USERNAME_LEN`. -/
def longName : Bytes := List.replicate 101 97

theorem length_passwordPayload_longName : (passwordPayload longName).length ≤ BUF_MAX_SIZE := by
  decide +kernel

/-- A user name of 101 bytes and the right password: the session is authenticated, and none of the
fields is set. -/
theorem account_unknown : ∃ t : Session,
    Run (RequestStep (plainConfig noCrypto noKexCrypto)) passwordSession
      [passwordRequest longName length_passwordPayload_longName] t ∧
      t.authstate.authdone = true ∧ t.authstate.username = none ∧ t.authstate.pw_name = none ∧
      t.authstate.pw_dir = none ∧ t.authstate.pw_shell = none ∧ ¬ Populated t.authstate := by
  obtain ⟨t, hrun, htest⟩ := passwordRequest_run longName
    (fun s => s.authstate.authdone && s.authstate.username == none &&
      s.authstate.pw_name == none && s.authstate.pw_dir == none && s.authstate.pw_shell == none)
    length_passwordPayload_longName (by decide +kernel)
  simp only [Bool.and_eq_true, beq_iff_eq] at htest
  obtain ⟨⟨⟨⟨hdone, huser⟩, hname⟩, hdir⟩, hshell⟩ := htest
  refine ⟨t, hrun, hdone, huser, hname, hdir, hshell, fun hpop => ?_⟩
  have hset := hpop.username
  rw [huser] at hset
  cases hset

end SimpleSshd.Dropbear
