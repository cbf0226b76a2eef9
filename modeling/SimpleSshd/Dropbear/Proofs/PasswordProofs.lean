import Mathlib.Data.List.TakeWhile
import SimpleSshd.Dropbear.Proofs.AuthSafetyProofs

/-!
# Proofs: which password is accepted

The password of a request is read with its length, and then looked at as a C string: up to its first
NUL. That part is compared with the stored password. So what follows a NUL does not matter, and only
a password without NUL has to be the stored one as a whole.
-/

namespace SimpleSshd.Dropbear

open Fallible

variable {s : Session} {payload : Buffer} {valid_user : Bool}

/-! ## Comparing -/

theorem foldl_or_eq_zero (bs : Bytes) (c : UInt8) :
    bs.foldl (· ||| ·) c = 0 ↔ c = 0 ∧ ∀ b ∈ bs, b = 0 := by
  induction bs generalizing c with
  | nil => simp
  | cons b bs ih =>
    rw [List.foldl_cons, ih, UInt8.or_eq_zero_iff, List.forall_mem_cons, and_assoc]

theorem constant_time_memcmp_eq_zero {a b : Bytes} (hlen : a.length = b.length) :
    constant_time_memcmp a b = 0 ↔ a = b := by
  rw [constant_time_memcmp, foldl_or_eq_zero]
  induction a generalizing b with
  | nil =>
    rw [List.length_eq_zero_iff.mp hlen.symm]
    simp
  | cons x a ih =>
    cases b with
    | nil => cases hlen
    | cons y b =>
      have hrest := ih (Nat.succ.inj hlen)
      rw [List.zipWith_cons_cons, List.forall_mem_cons, and_left_comm, hrest,
        UInt8.xor_eq_zero_iff, List.cons.injEq]

theorem constant_time_strcmp_eq_zero {a b : Bytes} : constant_time_strcmp a b = 0 ↔ a = b := by
  unfold constant_time_strcmp
  split_ifs with hlen
  · constructor
    · intro h
      cases h
    · rintro rfl
      exact absurd rfl hlen
  · exact constant_time_memcmp_eq_zero (not_not.mp hlen)

/-! ## What a request leads to -/

/-- A password was compared with the stored one. -/
def Session.attempted (s : Session) : Session :=
  { s with authstate := { s.authstate with attempts := s.authstate.attempts + 1 } }

/-- What `svr_auth_password` can end in: it sends success, it sends failure, or the request cannot be
read. -/
inductive PasswordReply (cfg : Config) (env : Env) (s : Session) : Bool → Except Exit Session → Prop
  | success : PasswordReply cfg env s true (send_msg_userauth_success cfg env s.attempted)
  | failure (t : Session) (ht : t = s ∨ t = s.attempted) :
      PasswordReply cfg env s false (send_msg_userauth_failure cfg env t false true)
  | exit (e : Exit) : PasswordReply cfg env s false (.error e)

/-- The request does not ask for a change, and this is the password in it. -/
def Transmits (payload : Buffer) (password : Bytes) : Prop :=
  ∃ b b', buf_getbool payload = .ok (false, b) ∧ buf_getstring b = .ok (password, b')

theorem Transmits.unique {p q : Bytes} (hp : Transmits payload p) (hq : Transmits payload q) :
    p = q := by
  obtain ⟨b, b', hb, hp⟩ := hp
  obtain ⟨c, c', hc, hq⟩ := hq
  obtain ⟨-, rfl⟩ := Prod.mk.inj (Except.ok.inj (hb.symm.trans hc))
  exact (Prod.mk.inj (Except.ok.inj (hp.symm.trans hq))).1

theorem testcrypt_eq_some {password test : Bytes} (h : testcrypt valid_user password = some test) :
    test = cstr password ∧ (cstr password).length = 8 := by
  unfold testcrypt at h
  split_ifs at h with htest
  rw [Bool.and_eq_true, decide_eq_true_eq] at htest
  exact ⟨(Option.some.inj h).symm, htest.2⟩

/-- A request for a change, or one that cannot be read. -/
theorem svr_auth_password_unread (cfg : Config) (env : Env) (s : Session) (valid_user : Bool)
    (h : ∀ password, ¬ Transmits payload password) :
    PasswordReply cfg env s false (svr_auth_password cfg env s payload valid_user) := by
  unfold svr_auth_password
  cases hbool : buf_getbool payload with
  | error e => exact .exit e
  | ok r =>
    obtain ⟨changepw, b⟩ := r
    rw [ok_bind]
    dsimp only
    cases changepw with
    | true => exact .failure s (.inl rfl)
    | false =>
      cases hpassword : buf_getstring b with
      | error e => exact .exit e
      | ok r =>
        obtain ⟨password, b'⟩ := r
        exact absurd ⟨b, b', hbool, hpassword⟩ (h password)

/-- **What is compared** is the part of the password before its first NUL. -/
theorem svr_auth_password_compares (cfg : Config) (env : Env) (valid_user : Bool)
    {password stored : Bytes} (hsent : Transmits payload password)
    (hstored : s.authstate.pw_passwd = some stored) :
    ∃ accepted, PasswordReply cfg env s accepted (svr_auth_password cfg env s payload valid_user) ∧
      (accepted = true ↔ valid_user = true ∧ password.length ≤ DROPBEAR_MAX_PASSWORD_LEN ∧
        stored.length = 8 ∧ constant_time_strcmp (cstr password) stored = 0) := by
  rw [constant_time_strcmp_eq_zero]
  -- a refusal, because of a condition that is not met
  have hno : ∀ {P : Prop} {t : Session}, t = s ∨ t = s.attempted → ¬ P → ∃ accepted,
      PasswordReply cfg env s accepted (send_msg_userauth_failure cfg env t false true) ∧
        (accepted = true ↔ P) := by
    intro P t ht hP
    exact ⟨false, .failure t ht, Bool.false_ne_true.elim, fun h => absurd h hP⟩
  obtain ⟨b, b', hbool, hpassword⟩ := hsent
  simp only [svr_auth_password, hbool, hpassword, ok_bind, Bool.false_eq_true, if_false]
  cases valid_user with
  | false => exact hno (.inl rfl) fun h => Bool.false_ne_true h.1
  | true =>
    rw [Bool.not_true, if_neg Bool.false_ne_true]
    by_cases hlong : password.length > DROPBEAR_MAX_PASSWORD_LEN
    · rw [if_pos hlong]
      exact hno (.inl rfl) fun h => absurd hlong (Nat.not_lt.mpr h.2.1)
    · rw [if_neg hlong]
      cases htest : testcrypt true password with
      | none =>
        refine hno (.inl rfl) ?_
        rintro ⟨-, hle, hlen, rfl⟩
        unfold testcrypt at htest
        simp [hle, hlen] at htest
      | some test =>
        obtain ⟨rfl, hlen⟩ := testcrypt_eq_some htest
        dsimp only
        split
        case h_1 hnone =>
          rw [hstored] at hnone
          cases hnone
        case h_2 stored' hsome =>
          rw [hstored] at hsome
          cases hsome
          by_cases hblank : stored = []
          · rw [if_pos hblank]
            refine hno (.inl rfl) ?_
            rintro ⟨-, -, hlen', -⟩
            rw [hblank] at hlen'
            cases hlen'
          · rw [if_neg hblank]
            by_cases heq : cstr password = stored
            · rw [if_pos heq]
              have hcond : password.length ≤ DROPBEAR_MAX_PASSWORD_LEN ∧ stored.length = 8 :=
                ⟨Nat.le_of_not_lt hlong, heq ▸ hlen⟩
              exact ⟨true, .success, fun _ => ⟨rfl, hcond.1, hcond.2, heq⟩, fun _ => rfl⟩
            · rw [if_neg heq]
              exact hno (.inr rfl) fun h => heq h.2.2.2

/-! ## The whole password -/

/-- What follows the method's name in a request with a password. -/
def passwordField (password : Bytes) (h : (0 :: putstring password).length ≤ BUF_MAX_SIZE) : Buffer :=
  payloadOf (0 :: putstring password) h

end SimpleSshd.Dropbear
