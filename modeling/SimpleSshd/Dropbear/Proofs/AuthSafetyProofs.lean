import SimpleSshd.Dropbear.Proofs.AuthProofs

/-!
# Proofs: when a session becomes authenticated

Over every sequence of requests: the methods that are allowed and the stored password are those of
the start of the session, and the passwords that were compared are among the counted failures.
-/

namespace SimpleSshd.Dropbear

open Fallible Runs

variable {cfg : Config} {env₀ : Env} {s s' : Session} {r : Request} {a a' : AuthState}

/-! ## The invariant -/

/-- What the start of the session decided stays so, and the attempts are counted. -/
structure AuthInv (cfg : Config) (env₀ : Env) (a : AuthState) : Prop where
  authtypes_eq : a.authtypes = (svr_authinitialise env₀).authtypes
  stored : authkeys_exists env₀ = false → a.pw_passwd = some (ascii "12345678")
  not_blank : a.pw_passwd ≠ some []
  failcount_lt : a.failcount < cfg.maxauthtries
  attempts_le : a.attempts ≤ a.failcount + if a.authdone then 1 else 0

theorem AuthInv.init : AuthInv cfg env₀ (svr_authinitialise env₀) := by
  have hpos := cfg.maxauthtries_pos
  by_cases hkeys : authkeys_exists env₀ = true
  · have heq : svr_authinitialise env₀ = { authtypes := { pubkey := true } } := if_pos hkeys
    refine ⟨rfl, fun hnot => absurd hkeys (Bool.eq_false_iff.mp hnot), ?_, ?_, ?_⟩
    · rw [heq]
      exact nofun
    · rw [heq]
      exact hpos
    · rw [heq]
      exact Nat.le_refl _
  · have heq : svr_authinitialise env₀ =
        { authtypes := { password := true }, pw_passwd := some (ascii "12345678") } := if_neg hkeys
    refine ⟨rfl, fun _ => by rw [heq], ?_, ?_, ?_⟩
    · rw [heq]
      decide
    · rw [heq]
      exact hpos
    · rw [heq]
      exact Nat.le_refl _

theorem NameChecked.pw_passwd {username : Bytes} {ret : Status}
    (h : NameChecked cfg a username ret a') {stored : Bytes} (hpw : a.pw_passwd = some stored) :
    a'.pw_passwd = some stored := by
  cases h with
  | tooLong => exact hpw
  | first =>
    show some (a.pw_passwd.getD _) = some stored
    rw [hpw, Option.getD_some]
  | again => exact hpw

/-- An account that is filled in gets a locked password unless there is one. -/
theorem NameChecked.not_blank {username : Bytes} {ret : Status}
    (h : NameChecked cfg a username ret a') (hblank : a.pw_passwd ≠ some []) :
    a'.pw_passwd ≠ some [] := by
  cases hpw : a.pw_passwd with
  | some stored =>
    rw [h.pw_passwd hpw, ← hpw]
    exact hblank
  | none =>
    cases h with
    | tooLong => exact hblank
    | first =>
      show some (a.pw_passwd.getD _) ≠ some []
      rw [hpw, Option.getD_none]
      decide
    | again => exact hblank

theorem AuthInv.name (hinv : AuthInv cfg env₀ a) {username : Bytes} {ret : Status}
    (h : NameChecked cfg a username ret a') : AuthInv cfg env₀ a' ∧ a'.authdone = a.authdone := by
  have hstored : authkeys_exists env₀ = false → a'.pw_passwd = some (ascii "12345678") :=
    fun hkeys => h.pw_passwd (hinv.stored hkeys)
  have hblank := h.not_blank hinv.not_blank
  cases h with
  | tooLong => exact ⟨hinv, rfl⟩
  | first =>
    exact ⟨⟨hinv.authtypes_eq, hstored, hblank, hinv.failcount_lt, hinv.attempts_le⟩, rfl⟩
  | again =>
    exact ⟨⟨hinv.authtypes_eq, hstored, hblank, hinv.failcount_lt, hinv.attempts_le⟩, rfl⟩

theorem AuthInv.outcome {session_id : Option Bytes} {beginning : Nat} {payload : Buffer}
    {methodname : Bytes} {valid_user : Bool} {env : Env} (hinv : AuthInv cfg env₀ a)
    (hdone : a.authdone = false)
    (h : AuthOutcome cfg env session_id beginning payload methodname valid_user a a') :
    AuthInv cfg env₀ a' := by
  obtain ⟨htypes, hstored, hblank, hfail, hatt⟩ := hinv
  rw [hdone, if_neg Bool.false_ne_true, Nat.add_zero] at hatt
  -- an outcome that compares nothing keeps the attempts among the failures
  have hkeep : ∀ n, a.attempts ≤ a.failcount + n := fun n => Nat.le_add_right_of_le hatt
  cases h with
  | @refused _ incrfail opts _ href =>
    obtain ⟨hlt, rfl⟩ := href
    refine ⟨htypes, hstored, hblank, hlt, ?_⟩
    cases incrfail with
    | false => exact hkeep _
    | true => exact Nat.le_trans (hkeep 1) (Nat.le_add_right _ _)
  | wrongPassword href =>
    obtain ⟨hlt, rfl⟩ := href
    refine ⟨htypes, hstored, hblank, hlt, ?_⟩
    exact Nat.le_trans (Nat.succ_le_succ hatt) (Nat.le_add_right _ _)
  | probed => exact ⟨htypes, hstored, hblank, hfail, hkeep _⟩
  | blank => exact ⟨htypes, hstored, hblank, hfail, hkeep _⟩
  | password => exact ⟨htypes, hstored, hblank, hfail, Nat.succ_le_succ hatt⟩
  | pubkey => exact ⟨htypes, hstored, hblank, hfail, hkeep _⟩

theorem AuthInv.step (hinv : AuthInv cfg env₀ s.authstate) (h : RequestStep cfg s r s') :
    AuthInv cfg env₀ s'.authstate := by
  obtain ⟨s₁, hauth, hrecv⟩ := h
  rw [← hauth] at hinv
  by_cases hdone : s₁.authstate.authdone = true
  · rw [recv_msg_userauth_request_done hdone hrecv]
    exact hinv
  · have hdone : s₁.authstate.authdone = false := Bool.eq_false_iff.mpr hdone
    obtain ⟨_, _, _, _, _, a, -, hname, hout⟩ := recv_msg_userauth_request_ok hdone hrecv
    obtain ⟨hinv', hsame⟩ := hinv.name hname
    exact hinv'.outcome (hsame.trans hdone) hout

/-! ## Safety -/

/-- The session had no authorized keys when it began, and this is a password request with the stored
password, without the change flag. -/
def ByPassword (env₀ : Env) (a : AuthState) (r : Request) : Prop :=
  authkeys_exists env₀ = false ∧ ∃ username servicename rest,
    ReadsRequest r.payload username servicename AUTH_METHOD_PASSWORD rest ∧
      PasswordAccepted rest a

/-- This is a publickey request with the signature flag set; the key is authorised by the file as it
is now, and the signature over the session id and the payload up to it verifies. -/
def ByPubkey (cfg : Config) (s : Session) (r : Request) : Prop :=
  ∃ username servicename rest opts opts' algo keyblob b b' key,
    ReadsRequest r.payload username servicename AUTH_METHOD_PUBKEY rest ∧
      PubkeyAccepted cfg r.env s.session_id s.payload_beginning rest opts opts' algo keyblob b b' key

theorem svr_authinitialise_password (h : (svr_authinitialise env₀).authtypes.password = true) :
    authkeys_exists env₀ = false := by
  unfold svr_authinitialise at h
  by_cases hkeys : authkeys_exists env₀ = true
  · rw [if_pos hkeys] at h
    cases h
  · exact Bool.eq_false_iff.mpr hkeys

/-- A request that authenticates does so by password or by public key. -/
theorem AuthInv.authenticates (hinv : AuthInv cfg env₀ s.authstate)
    (hdone : s.authstate.authdone = false)
    (h : recv_msg_userauth_request cfg r.env s r.payload = .ok s')
    (hdone' : s'.authstate.authdone = true) :
    ByPassword env₀ s.authstate r ∨ ByPubkey cfg s r := by
  obtain ⟨username, servicename, methodname, rest, ret, a, hreads, hname, hout⟩ :=
    recv_msg_userauth_request_ok hdone h
  obtain ⟨hinv', hsame⟩ := hinv.name hname
  have hstill : a.authdone = false := hsame.trans hdone
  generalize s'.authstate = a' at hout hdone'
  cases hout with
  | refused opts _ href =>
    rw [href.eq] at hdone'
    exact absurd hdone' (Bool.eq_false_iff.mp hstill)
  | wrongPassword href =>
    rw [href.eq] at hdone'
    exact absurd hdone' (Bool.eq_false_iff.mp hstill)
  | probed => exact absurd hdone' (Bool.eq_false_iff.mp hstill)
  | blank _ hblank => exact absurd hblank hinv'.not_blank
  | password hmethod hallowed hpw =>
    rw [hinv'.authtypes_eq] at hallowed
    have hkeys := svr_authinitialise_password hallowed
    obtain ⟨b, b', password, stored, hbool, hstring, hstored, heq⟩ := hpw
    rw [hinv'.stored hkeys, ← hinv.stored hkeys] at hstored
    rw [hmethod] at hreads
    exact Or.inl ⟨hkeys, username, servicename, rest, hreads, b, b', password, stored, hbool,
      hstring, hstored, heq⟩
  | @pubkey opts algo keyblob b b' key hmethod _ hacc =>
    rw [hmethod] at hreads
    exact Or.inr ⟨username, servicename, rest, _, opts, algo, keyblob, b, b', key, hreads, hacc⟩

/-- **Authentication safety**, in every state a sequence of requests leads to. The next request
authenticates only by the password, in a session that began without authorized keys, or by a key
that the file authorises. The passwords compared so far are at most the limit, and before the
session is authenticated they are fewer, so that the next request's is within it too. -/
theorem authentication_safety (cfg : Config) (env₀ : Env) {s₀ s : Session} {rs : List Request}
    (h0 : s₀.authstate = svr_authinitialise env₀) (hrun : Run (RequestStep cfg) s₀ rs s) :
    (∀ (s₁ : Session) (r : Request) (s' : Session), s₁.authstate = s.authstate →
        recv_msg_userauth_request cfg r.env s₁ r.payload = .ok s' →
        s.authstate.authdone = false → s'.authstate.authdone = true →
        ByPassword env₀ s.authstate r ∨ ByPubkey cfg s₁ r) ∧
      s.authstate.attempts ≤ cfg.maxauthtries ∧
      (s.authstate.authdone = false → s.authstate.attempts + 1 ≤ cfg.maxauthtries) := by
  have hstep : ∀ ⦃s r s'⦄, AuthInv cfg env₀ s.authstate → RequestStep cfg s r s' →
      AuthInv cfg env₀ s'.authstate := fun _ _ _ hinv h => hinv.step h
  have hinit : AuthInv cfg env₀ s₀.authstate := h0 ▸ AuthInv.init
  have hinv := hrun.invariant hstep hinit
  have hlt := hinv.failcount_lt
  have hle := hinv.attempts_le
  refine ⟨?_, ?_, ?_⟩
  · intro s₁ r s' hauth hrecv hdone hdone'
    rw [← hauth] at hinv hdone ⊢
    exact hinv.authenticates hdone hrecv hdone'
  · split_ifs at hle <;> omega
  · intro hdone
    rw [hdone, if_neg Bool.false_ne_true] at hle
    omega

/-- No authorized keys, and nothing else of interest. -/
def noKeysEnv : Env := { now := 0, authfile := none, random := [] }

/-- The session that begins there. -/
def passwordSession : Session := { authstate := svr_authinitialise noKeysEnv }

/-- The payload of a request for the connection service with the password. -/
def passwordPayload (username : Bytes) : Bytes :=
  putstring username ++ putstring SSH_SERVICE_CONNECTION ++ putstring AUTH_METHOD_PASSWORD ++
    [0] ++ putstring (ascii "12345678")

def passwordRequest (username : Bytes) (h : (passwordPayload username).length ≤ BUF_MAX_SIZE) :
    Request where
  env := noKeysEnv
  payload := payloadOf (passwordPayload username) h

theorem authentication_safety_password :
    ByPassword noKeysEnv passwordSession.authstate (passwordRequest (ascii "user") (by decide)) ∨
      ByPubkey (plainConfig noCrypto noKexCrypto) passwordSession
        (passwordRequest (ascii "user") (by decide)) := by
  have hrun : Run (RequestStep (plainConfig noCrypto noKexCrypto)) passwordSession []
      passwordSession := .nil _
  obtain ⟨s', hrecv, hdone⟩ := okAnd_eq_true.mp (show okAnd
    (recv_msg_userauth_request (plainConfig noCrypto noKexCrypto) noKeysEnv passwordSession
      (passwordRequest (ascii "user") (by decide)).payload) (fun s => s.authstate.authdone) = true
    by decide +kernel)
  exact (authentication_safety _ noKeysEnv rfl hrun).1 _ _ s' rfl hrecv (by decide) hdone

end SimpleSshd.Dropbear
