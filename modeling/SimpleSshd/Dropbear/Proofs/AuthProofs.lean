import SimpleSshd.Dropbear.Auth
import SimpleSshd.Dropbear.Proofs.SessionProofs
import SimpleSshd.Lib.Runs
import Mathlib.Data.List.TakeWhile

/-!
# Proofs: what an authentication request can do

One lemma says everything a request can do to the authentication state (`AuthOutcome`): it is
refused, it is a probe, or it authenticates for one of the reasons listed there. The safety of a
whole sequence of requests is an invariant of that.
-/

namespace SimpleSshd.Dropbear

open Fallible

variable {cfg : Config} {env : Env} {s s' : Session} {payload : Buffer}

/-! ## Replies -/

/-- The state after a refusal: the failure is counted or not, and the session goes on only while the
count is below the limit. -/
structure Refused (cfg : Config) (incrfail : Bool) (a a' : AuthState) : Prop where
  failcount_lt : a'.failcount < cfg.maxauthtries
  eq : a' = { a with failcount := if incrfail then a.failcount + 1 else a.failcount }

theorem send_msg_userauth_failure_ok {p incrfail : Bool}
    (h : send_msg_userauth_failure cfg env s p incrfail = .ok s') :
    Refused cfg incrfail s.authstate s'.authstate := by
  simp only [send_msg_userauth_failure, bind_eq_ok, ite_exit_eq_ok] at h
  obtain ⟨s₁, hsent, hlt, h⟩ := h
  obtain rfl := (pure_eq_ok _ _).mp h
  rw [(encrypt_packet_sent hsent).authstate] at hlt
  simp only [(encrypt_packet_sent hsent).authstate]
  exact ⟨Nat.lt_of_not_le hlt, rfl⟩

theorem send_msg_userauth_success_ok (h : send_msg_userauth_success cfg env s = .ok s') :
    s'.authstate = { s.authstate with authdone := true } := by
  simp only [send_msg_userauth_success, bind_eq_ok] at h
  obtain ⟨s₁, hsent, h⟩ := h
  obtain rfl := (pure_eq_ok _ _).mp h
  simp only [(encrypt_packet_sent hsent).authstate]

/-! ## Methods -/

theorem cstr_eq_self {bs : Bytes} (h : 0 ∉ bs) : cstr bs = bs := by
  refine List.takeWhile_eq_self_iff.mpr fun b hb => ?_
  rw [decide_eq_true_eq]
  rintro rfl
  exact h hb

/-- The password read from the request is the stored one. -/
def PasswordAccepted (payload : Buffer) (a : AuthState) : Prop :=
  ∃ b b' password stored, buf_getbool payload = .ok (false, b) ∧
    buf_getstring b = .ok (password, b') ∧ a.pw_passwd = some stored ∧ cstr password = stored

/-- What `svr_auth_pubkey` read and checked before it sent success. -/
structure PubkeyAccepted (cfg : Config) (env : Env) (session_id : Option Bytes) (beginning : Nat)
    (payload : Buffer) (opts opts' : Option PubKeyOptions) (algo keyblob : Bytes) (b b' : Buffer)
    (key : SignKey) : Prop where
  request : ∃ b₁ b₂, buf_getbool payload = .ok (true, b₁) ∧ buf_getstring b₁ = .ok (algo, b₂) ∧
    buf_getint b₂ = .ok (keyblob.length, b) ∧ buf_getptr b keyblob.length = .ok keyblob
  authorised : checkpubkey env.authfile algo keyblob opts = .ok (DROPBEAR_SUCCESS, opts')
  key_read : buf_get_pub_key b new_sign_key none = .ok (some key, b')
  verified : ∃ id, session_id = some id ∧
    buf_verify cfg.crypto b' key (signedData id beginning b') = .ok DROPBEAR_SUCCESS

/-- What a request of this method can make of the authentication state `a`. -/
inductive AuthOutcome (cfg : Config) (env : Env) (session_id : Option Bytes) (beginning : Nat)
    (payload : Buffer) (methodname : Bytes) (valid_user : Bool) (a : AuthState) : AuthState → Prop
  | refused {a' : AuthState} {incrfail : Bool} (opts : Option PubKeyOptions)
      (hopts : opts = a.pubkey_options ∨ opts = none)
      (h : Refused cfg incrfail { a with pubkey_options := opts } a') :
      AuthOutcome cfg env session_id beginning payload methodname valid_user a a'
  | wrongPassword {a' : AuthState}
      (h : Refused cfg true { a with attempts := a.attempts + 1 } a') :
      AuthOutcome cfg env session_id beginning payload methodname valid_user a a'
  | probed : AuthOutcome cfg env session_id beginning payload methodname valid_user a
      { a with pubkey_options := none }
  | blank (hvalid : valid_user = true) (hblank : a.pw_passwd = some []) :
      AuthOutcome cfg env session_id beginning payload methodname valid_user a
        { a with authdone := true }
  | password (hmethod : methodname = AUTH_METHOD_PASSWORD) (hallowed : a.authtypes.password = true)
      (h : PasswordAccepted payload a) :
      AuthOutcome cfg env session_id beginning payload methodname valid_user a
        { a with attempts := a.attempts + 1, authdone := true }
  | pubkey {opts : Option PubKeyOptions} {algo keyblob : Bytes} {b b' : Buffer} {key : SignKey}
      (hmethod : methodname = AUTH_METHOD_PUBKEY) (hvalid : valid_user = true)
      (h : PubkeyAccepted cfg env session_id beginning payload a.pubkey_options opts algo keyblob
        b b' key) :
      AuthOutcome cfg env session_id beginning payload methodname valid_user a
        { a with pubkey_options := opts, authdone := true }

theorem refused_pubkey_options {incrfail : Bool} {a a' : AuthState}
    (h : Refused cfg incrfail a a') (opts : Option PubKeyOptions) :
    Refused cfg incrfail { a with pubkey_options := opts } { a' with pubkey_options := opts } := by
  obtain ⟨hlt, rfl⟩ := h
  exact ⟨hlt, rfl⟩

section Methods

variable {methodname : Bytes} {valid_user : Bool}

theorem svr_auth_password_ok (hmethod : methodname = AUTH_METHOD_PASSWORD)
    (hallowed : s.authstate.authtypes.password = true)
    (h : svr_auth_password cfg env s payload true = .ok s') :
    AuthOutcome cfg env s.session_id s.payload_beginning payload methodname valid_user s.authstate
      s'.authstate := by
  have hrefused : ∀ {t : Session}, t.authstate = s.authstate →
      send_msg_userauth_failure cfg env t false true = .ok s' →
      AuthOutcome cfg env s.session_id s.payload_beginning payload methodname valid_user
        s.authstate s'.authstate := by
    intro t ht hfail
    have href := send_msg_userauth_failure_ok hfail
    rw [ht] at href
    exact .refused s.authstate.pubkey_options (.inl rfl) href
  simp only [svr_auth_password, Bool.not_true, Bool.false_eq_true, if_false, bind_eq_ok,
    Prod.exists] at h
  obtain ⟨changepw, b, hbool, h⟩ := h
  by_cases hchange : changepw = true
  · rw [if_pos hchange] at h
    exact hrefused rfl h
  · rw [if_neg hchange, bind_eq_ok] at h
    obtain ⟨⟨password, b'⟩, hpassword, h⟩ := h
    by_cases hlong : password.length > DROPBEAR_MAX_PASSWORD_LEN
    · rw [if_pos hlong] at h
      exact hrefused rfl h
    · rw [if_neg hlong] at h
      cases htest : testcrypt true password with
      | none =>
        rw [htest] at h
        exact hrefused rfl h
      | some test =>
        rw [htest] at h
        simp only at h
        split at h
        case h_1 => exact absurd h (throw_ne_ok _ _)
        case h_2 stored hstored =>
          by_cases hblank : stored = []
          · rw [if_pos hblank] at h
            exact hrefused rfl h
          · rw [if_neg hblank] at h
            by_cases heq : test = stored
            · rw [if_pos heq] at h
              rw [send_msg_userauth_success_ok h]
              have hcstr : test = cstr password := by
                unfold testcrypt at htest
                split_ifs at htest
                exact (Option.some.inj htest).symm
              have hflag : changepw = false := Bool.eq_false_iff.mpr hchange
              subst hflag
              exact .password hmethod hallowed
                ⟨b, b', password, stored, hbool, hpassword, hstored, hcstr.symm.trans heq⟩
            · rw [if_neg heq] at h
              exact .wrongPassword (send_msg_userauth_failure_ok h)

/-- Reading the key and checking the signature ends in success only with both done. -/
theorem auth_pubkey_verify_ok {b : Buffer} (h : auth_pubkey_verify cfg env s b = .ok s') :
    Refused cfg true s.authstate s'.authstate ∨
      s'.authstate = { s.authstate with authdone := true } ∧ ∃ key b' id,
        buf_get_pub_key b new_sign_key none = .ok (some key, b') ∧ s.session_id = some id ∧
        buf_verify cfg.crypto b' key (signedData id s.payload_beginning b') =
          .ok DROPBEAR_SUCCESS := by
  simp only [auth_pubkey_verify, bind_eq_ok, Prod.exists] at h
  obtain ⟨key, b', hkey, h⟩ := h
  cases key with
  | none => exact Or.inl (send_msg_userauth_failure_ok h)
  | some key =>
    simp only [ite_throw_eq_ok] at h
    obtain ⟨-, h⟩ := h
    cases hid : s.session_id with
    | none =>
      rw [hid] at h
      exact absurd h (throw_ne_ok _ _)
    | some id =>
      rw [hid] at h
      obtain ⟨ret, hverify, h⟩ := bind_eq_ok.mp h
      cases ret with
      | DROPBEAR_SUCCESS =>
        exact Or.inr ⟨send_msg_userauth_success_ok h, key, b', id, hkey, rfl, hverify⟩
      | DROPBEAR_FAILURE => exact Or.inl (send_msg_userauth_failure_ok h)

/-- A public key request is refused, is a probe, or is accepted. -/
theorem auth_pubkey_body_ok (h : auth_pubkey_body cfg env s payload valid_user = .ok s') :
    (∃ opts incrfail, Refused cfg incrfail { s.authstate with pubkey_options := opts }
        s'.authstate) ∨
      (∃ opts, s'.authstate = { s.authstate with pubkey_options := opts }) ∨
      valid_user = true ∧ ∃ opts algo keyblob b b' key,
        s'.authstate = { s.authstate with pubkey_options := opts, authdone := true } ∧
        PubkeyAccepted cfg env s.session_id s.payload_beginning payload
          s.authstate.pubkey_options opts algo keyblob b b' key := by
  simp only [auth_pubkey_body, bind_eq_ok, Prod.exists] at h
  obtain ⟨flag, b₁, hflag, algo, b₂, halgo, n, b, hn, keyblob, hblob, h⟩ := h
  cases valid_user with
  | false => exact Or.inl ⟨s.authstate.pubkey_options, false, send_msg_userauth_failure_ok h⟩
  | true =>
    simp only [Bool.not_true, Bool.false_eq_true, if_false, bind_eq_ok, Prod.exists] at h
    obtain ⟨ret, opts, hcheck, h⟩ := h
    cases ret with
    | DROPBEAR_FAILURE => exact Or.inl ⟨opts, false, send_msg_userauth_failure_ok h⟩
    | DROPBEAR_SUCCESS =>
      simp only at h
      cases flag with
      | false => exact Or.inr (Or.inl ⟨opts, (encrypt_packet_sent h).authstate⟩)
      | true =>
        rcases auth_pubkey_verify_ok h with href | ⟨hdone, key, b', id, hkey, hid, hverify⟩
        · exact Or.inl ⟨opts, true, href⟩
        · have hlen : keyblob.length = n := by
            obtain ⟨hle, rfl⟩ := buf_getptr_ok.mp hblob
            rw [List.length_take, Nat.min_eq_left hle]
          subst hlen
          refine Or.inr (Or.inr ⟨rfl, opts, algo, keyblob, b, b', key, hdone, ?_⟩)
          exact ⟨⟨b₁, b₂, hflag, halgo, hn, hblob⟩, hcheck, hkey, id, hid, hverify⟩

theorem svr_auth_pubkey_ok (hmethod : methodname = AUTH_METHOD_PUBKEY)
    (hdone : s.authstate.authdone = false)
    (h : svr_auth_pubkey cfg env s payload valid_user = .ok s') :
    AuthOutcome cfg env s.session_id s.payload_beginning payload methodname valid_user s.authstate
      s'.authstate := by
  simp only [svr_auth_pubkey, bind_eq_ok] at h
  obtain ⟨s₁, hbody, h⟩ := h
  rcases auth_pubkey_body_ok hbody with
    ⟨opts, incrfail, href⟩ | ⟨opts, heq⟩ | ⟨hvalid, opts, algo, keyblob, b, b', key, heq, hacc⟩
  · have hstill : s₁.authstate.authdone = false := by rw [href.eq]; exact hdone
    rw [if_neg (Bool.eq_false_iff.mp hstill)] at h
    obtain rfl := (pure_eq_ok _ _).mp h
    exact .refused none (.inr rfl) (refused_pubkey_options href none)
  · have hstill : s₁.authstate.authdone = false := by rw [heq]; exact hdone
    rw [if_neg (Bool.eq_false_iff.mp hstill)] at h
    obtain rfl := (pure_eq_ok _ _).mp h
    simp only [heq]
    exact .probed
  · have hset : s₁.authstate.authdone = true := by rw [heq]
    rw [if_pos hset] at h
    obtain rfl := (pure_eq_ok _ _).mp h
    rw [heq]
    exact .pubkey hmethod hvalid hacc

theorem blankPassword_ok {a : AuthState} (h : blankPassword cfg a valid_user = .ok true) :
    valid_user = true ∧ a.pw_passwd = some [] := by
  unfold blankPassword at h
  split_ifs at h with hopts
  · simp only [Bool.and_eq_true] at hopts
    cases hpw : a.pw_passwd with
    | none =>
      rw [hpw] at h
      exact absurd h (throw_ne_ok _ _)
    | some passwd =>
      rw [hpw] at h
      have hnil : passwd = [] := of_decide_eq_true ((pure_eq_ok _ _).mp h)
      exact ⟨hopts.1.1.1, congrArg some hnil⟩
  · exact absurd ((pure_eq_ok _ _).mp h) Bool.false_ne_true

/-- Everything a request can do, once its user name was looked at. -/
theorem userauth_method_ok (hdone : s.authstate.authdone = false)
    (h : userauth_method cfg env s payload methodname valid_user = .ok s') :
    AuthOutcome cfg env s.session_id s.payload_beginning payload methodname valid_user s.authstate
      s'.authstate := by
  unfold userauth_method at h
  by_cases hnone : methodname = AUTH_METHOD_NONE
  · rw [if_pos hnone, bind_eq_ok] at h
    obtain ⟨granted, hblank, h⟩ := h
    cases granted with
    | true =>
      obtain ⟨hvalid, hpw⟩ := blankPassword_ok hblank
      rw [if_pos rfl] at h
      rw [send_msg_userauth_success_ok h]
      exact .blank hvalid hpw
    | false =>
      rw [if_neg Bool.false_ne_true] at h
      exact .refused s.authstate.pubkey_options (.inl rfl) (send_msg_userauth_failure_ok h)
  · rw [if_neg hnone] at h
    by_cases hpw : s.authstate.authtypes.password = true ∧ methodname = AUTH_METHOD_PASSWORD
    · rw [if_pos hpw] at h
      exact svr_auth_password_ok hpw.2 hpw.1 h
    · rw [if_neg hpw] at h
      by_cases hpk : methodname = AUTH_METHOD_PUBKEY
      · rw [if_pos hpk] at h
        exact svr_auth_pubkey_ok hpk hdone h
      · rw [if_neg hpk] at h
        exact .refused s.authstate.pubkey_options (.inl rfl) (send_msg_userauth_failure_ok h)

end Methods

/-! ## Requests -/

/-- The three strings a request begins with, and what follows them. -/
def ReadsRequest (payload : Buffer) (username servicename methodname : Bytes) (rest : Buffer) :
    Prop :=
  ∃ b₁ b₂, buf_getstring payload = .ok (username, b₁) ∧ buf_getstring b₁ = .ok (servicename, b₂) ∧
    buf_getstring b₂ = .ok (methodname, rest)

/-- What `checkusername` makes of the authentication state. -/
inductive NameChecked (cfg : Config) (a : AuthState) (username : Bytes) :
    Status → AuthState → Prop
  | tooLong (h : username.length > MAX_USERNAME_LEN) :
      NameChecked cfg a username DROPBEAR_FAILURE a
  | first {ret : Status} (failed : Bool) (hlen : username.length ≤ MAX_USERNAME_LEN)
      (h : a.username = none) :
      NameChecked cfg a username ret
        { fill_passwd cfg a with username := some username, checkusername_failed := failed }
  | again {ret : Status} (failed : Bool) (hlen : username.length ≤ MAX_USERNAME_LEN)
      (h : a.username = some username) :
      NameChecked cfg a username ret { a with checkusername_failed := failed }

theorem checkusername_ok {a a' : AuthState} {username : Bytes} {ret : Status}
    (h : checkusername cfg a username = .ok (ret, a')) : NameChecked cfg a username ret a' := by
  unfold checkusername at h
  by_cases hlen : username.length > MAX_USERNAME_LEN
  · rw [if_pos hlen, pure_eq_ok, Prod.mk.injEq] at h
    obtain ⟨rfl, rfl⟩ := h
    exact .tooLong hlen
  · simp only [if_neg hlen, ite_exit_eq_ok, bind_eq_ok] at h
    obtain ⟨-, a₁, hname, h⟩ := h
    -- the rest only sets the flag
    have hflag : ∃ failed, a' = { a₁ with checkusername_failed := failed } := by
      split_ifs at h
      · obtain ⟨-, rfl⟩ := Prod.mk.inj ((pure_eq_ok _ _).mp h)
        exact ⟨_, rfl⟩
      · obtain ⟨-, rfl⟩ := Prod.mk.inj ((pure_eq_ok _ _).mp h)
        exact ⟨_, rfl⟩
      · obtain ⟨-, rfl⟩ := Prod.mk.inj ((pure_eq_ok _ _).mp h)
        exact ⟨_, rfl⟩
    obtain ⟨failed, rfl⟩ := hflag
    unfold sameusername at hname
    split at hname
    case h_1 hnone =>
      obtain rfl := (pure_eq_ok _ _).mp hname
      exact .first failed (Nat.le_of_not_lt hlen) hnone
    case h_2 name hsome =>
      rw [ite_exit_eq_ok, pure_eq_ok] at hname
      obtain ⟨hsame, rfl⟩ := hname
      rw [← Decidable.not_not.mp hsame] at hsome
      exact .again failed (Nat.le_of_not_lt hlen) hsome

theorem sendBanner_ok (h : sendBanner cfg env s = .ok s') :
    s'.authstate = s.authstate ∧ s'.session_id = s.session_id ∧
      s'.payload_beginning = s.payload_beginning := by
  unfold sendBanner at h
  split at h
  case h_1 =>
    obtain rfl := (pure_eq_ok _ _).mp h
    exact ⟨rfl, rfl, rfl⟩
  case h_2 banner _ =>
    obtain ⟨s₁, hsent, h⟩ := bind_eq_ok.mp h
    obtain ⟨out, new, rfl, -⟩ := encrypt_packet_sent hsent
    obtain rfl := (pure_eq_ok _ _).mp h
    exact ⟨rfl, rfl, rfl⟩

/-- Once authenticated, further requests are ignored. -/
theorem recv_msg_userauth_request_done (hdone : s.authstate.authdone = true)
    (h : recv_msg_userauth_request cfg env s payload = .ok s') : s' = s := by
  unfold recv_msg_userauth_request at h
  rw [if_pos hdone, pure_eq_ok] at h
  exact h.symm

/-- **What a request does**: its strings are read, its user name is checked, and its method has one
of the outcomes. -/
theorem recv_msg_userauth_request_ok (hdone : s.authstate.authdone = false)
    (h : recv_msg_userauth_request cfg env s payload = .ok s') :
    ∃ username servicename methodname rest ret a,
      ReadsRequest payload username servicename methodname rest ∧
      NameChecked cfg s.authstate username ret a ∧
      AuthOutcome cfg env s.session_id s.payload_beginning rest methodname
        (decide (ret = DROPBEAR_SUCCESS)) a s'.authstate := by
  unfold recv_msg_userauth_request at h
  simp only [if_neg (Bool.eq_false_iff.mp hdone), bind_eq_ok, Prod.exists, ite_exit_eq_ok] at h
  obtain ⟨s₁, hbanner, username, b₁, huser, servicename, b₂, hservice, methodname, rest, hmethod,
    -, ret, a, hname, h⟩ := h
  obtain ⟨hauth, hid, hbeg⟩ := sendBanner_ok hbanner
  rw [hauth] at hname
  have hchecked := checkusername_ok hname
  have hstill : a.authdone = false := by
    cases hchecked with
    | tooLong => exact hdone
    | first => exact hdone
    | again => exact hdone
  have hout := userauth_method_ok (s := { s₁ with authstate := a }) hstill h
  simp only [hid, hbeg] at hout
  exact ⟨username, servicename, methodname, rest, ret, a, ⟨b₁, b₂, huser, hservice, hmethod⟩,
    hchecked, hout⟩

end SimpleSshd.Dropbear
