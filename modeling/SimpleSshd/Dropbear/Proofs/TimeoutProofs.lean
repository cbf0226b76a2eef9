import SimpleSshd.Dropbear.SessionLoop
import SimpleSshd.Dropbear.Proofs.GatingProofs

/-!
# Proofs: how long the session may sleep

`checktimeouts` acts when one of its deadlines is due (`Due`), and `select_timeout` is the time to the
first of those that it knows (`Armed`). It does not know the deadline after which a keepalive is sent
because nothing else was, nor the one after which the peer is given up, so these can pass while the
session sleeps.
-/

namespace SimpleSshd.Dropbear

open Fallible

variable {cfg : Config} {env : Env} {s s' : Session} {chan : Option Nat} {now t : Nat}

/-! ## When `checktimeouts` acts -/

def AuthDue (s : Session) (t : Nat) : Prop :=
  s.connect_time ≠ 0 ∧ s.connect_time + AUTH_TIMEOUT ≤ t

def RekeyDue (s : Session) (t : Nat) : Prop :=
  s.kexstate.sentkexinit = false ∧ (s.kexstate.lastkextime + KEX_REKEY_TIMEOUT ≤ t ∨
    KEX_REKEY_DATA ≤ (s.datarecv + s.out.datatrans) % 2 ^ 32)

/-- Nothing was sent for a while. -/
def QuietDue (cfg : Config) (s : Session) (t : Nat) : Prop :=
  s.out.last_packet_time_any_sent + cfg.keepalive_secs ≤ t

/-- Nothing was received for a while, and no keepalive was sent. -/
def SilentDue (cfg : Config) (s : Session) (t : Nat) : Prop :=
  s.last_packet_time_keepalive_recv + cfg.keepalive_secs ≤ t ∧
    s.out.last_packet_time_keepalive_sent + cfg.keepalive_secs ≤ t

/-- The peer is given up. -/
def LimitDue (cfg : Config) (s : Session) (t : Nat) : Prop :=
  s.last_packet_time_keepalive_recv + cfg.keepalive_secs * DEFAULT_KEEPALIVE_LIMIT ≤ t

def KeepaliveDue (cfg : Config) (s : Session) (t : Nat) : Prop :=
  (0 < cfg.keepalive_secs ∧ s.authstate.authdone = true) ∧
    (QuietDue cfg s t ∨ SilentDue cfg s t ∨ LimitDue cfg s t)

def IdleDue (cfg : Config) (s : Session) (t : Nat) : Prop :=
  0 < cfg.idle_timeout_secs ∧ s.out.last_packet_time_idle + cfg.idle_timeout_secs ≤ t

/-- A deadline of `checktimeouts` is due. -/
def Due (cfg : Config) (s : Session) (t : Nat) : Prop :=
  AuthDue s t ∨ RekeyDue s t ∨ KeepaliveDue cfg s t ∨ IdleDue cfg s t

/-- How much was submitted; whatever `checktimeouts` sends adds to it. -/
def Session.submissions (s : Session) : Nat := s.out.submitted.length

theorem encrypt_packet_submissions {p : Bytes} (h : encrypt_packet cfg env s p = .ok s') :
    s'.submissions = s.submissions + 1 := by
  simp only [encrypt_packet, ite_exit_eq_ok] at h
  obtain ⟨-, h⟩ := h
  cases p with
  | nil => exact absurd h (dropbear_exit_ne_ok _ _)
  | cons type rest =>
    simp only at h
    split_ifs at h
    · obtain rfl := (pure_eq_ok _ _).mp h
      exact List.length_append
    · obtain rfl := (pure_eq_ok _ _).mp h
      exact List.length_append

theorem send_msg_kexinit_submissions (h : send_msg_kexinit cfg env s = .ok s') :
    s'.submissions = s.submissions + 1 := by
  simp only [send_msg_kexinit, bind_eq_ok] at h
  obtain ⟨writepayload, -, s₁, hsent, h⟩ := h
  have hlen := encrypt_packet_submissions hsent
  obtain rfl := (pure_eq_ok _ _).mp h
  exact hlen

theorem send_msg_keepalive_submissions (h : send_msg_keepalive cfg env s chan = .ok s') :
    s'.submissions = s.submissions + 1 := by
  simp only [send_msg_keepalive, bind_eq_ok] at h
  obtain ⟨s₁, hsent, h⟩ := h
  have hlen := encrypt_packet_submissions hsent
  obtain rfl := (pure_eq_ok _ _).mp h
  exact hlen

theorem rekey_condition : (!s.kexstate.sentkexinit &&
    (env.now - s.kexstate.lastkextime ≥ KEX_REKEY_TIMEOUT ||
      (s.datarecv + s.out.datatrans) % 2 ^ 32 ≥ KEX_REKEY_DATA)) = true ↔ RekeyDue s env.now := by
  have htimeout : KEX_REKEY_TIMEOUT = 28800 := rfl
  rw [Bool.and_eq_true, Bool.or_eq_true, decide_eq_true_eq, decide_eq_true_eq, Bool.not_eq_true',
    RekeyDue]
  refine and_congr_right fun _ => or_congr ?_ Iff.rfl
  omega

theorem auth_condition : (s.connect_time ≠ 0 ∧ env.now - s.connect_time ≥ AUTH_TIMEOUT) ↔
    AuthDue s env.now := by
  have htimeout : AUTH_TIMEOUT = 300 := rfl
  refine and_congr_right fun _ => ?_
  omega

theorem idle_condition : (cfg.idle_timeout_secs > 0 ∧
    env.now - s.out.last_packet_time_idle ≥ cfg.idle_timeout_secs) ↔ IdleDue cfg s env.now := by
  refine and_congr_right fun hsecs => ?_
  omega

/-! ### What is not due is not done -/

theorem checkRekey_eq (h : ¬ RekeyDue s env.now) : checkRekey cfg env s = .ok s :=
  if_neg fun hcond => h (rekey_condition.mp hcond)

theorem checkKeepalive_eq (h : ¬ KeepaliveDue cfg s env.now) :
    checkKeepalive cfg env s chan = .ok s := by
  unfold checkKeepalive
  by_cases hon : cfg.keepalive_secs > 0 ∧ s.authstate.authdone = true
  · have hnone : ¬ QuietDue cfg s env.now ∧ ¬ SilentDue cfg s env.now ∧ ¬ LimitDue cfg s env.now := by
      refine ⟨fun hdue => h ⟨hon, .inl hdue⟩, fun hdue => h ⟨hon, .inr (.inl hdue)⟩, fun hdue => ?_⟩
      exact h ⟨hon, .inr (.inr hdue)⟩
    have hsecs := hon.1
    unfold QuietDue SilentDue LimitDue at hnone
    have hquiet : decide (env.now - s.out.last_packet_time_any_sent ≥ cfg.keepalive_secs) = false :=
      decide_eq_false (by omega)
    have hsilent : decide (env.now - s.last_packet_time_keepalive_recv ≥ cfg.keepalive_secs ∧
        env.now - s.out.last_packet_time_keepalive_sent ≥ cfg.keepalive_secs) = false :=
      decide_eq_false (by omega)
    have hlimit : ¬ env.now - s.last_packet_time_keepalive_recv ≥
        cfg.keepalive_secs * DEFAULT_KEEPALIVE_LIMIT := by
      have hthree : DEFAULT_KEEPALIVE_LIMIT = 3 := rfl
      rw [hthree] at hnone ⊢
      omega
    have hskip : keepaliveIf cfg env s chan false = .ok s := rfl
    rw [if_pos hon, hquiet, hskip, ok_bind, hsilent, hskip, ok_bind, if_neg hlimit]
    rfl
  · exact if_neg hon

/-! ### What is due is done -/

/-- The rekeying sends something if it is due, and otherwise does nothing. -/
theorem checkRekey_cases (h : checkRekey cfg env s = .ok s') :
    s.submissions < s'.submissions ∨ ¬ RekeyDue s env.now ∧ s' = s := by
  by_cases hdue : RekeyDue s env.now
  · unfold checkRekey at h
    rw [if_pos (rekey_condition.mpr hdue)] at h
    refine .inl ?_
    rw [send_msg_kexinit_submissions h]
    exact Nat.lt_succ_self _
  · rw [checkRekey_eq hdue] at h
    cases h
    exact .inr ⟨hdue, rfl⟩

theorem keepaliveIf_cases {due : Bool} (h : keepaliveIf cfg env s chan due = .ok s') :
    due = true ∧ s.submissions < s'.submissions ∨ due = false ∧ s' = s := by
  cases due with
  | true =>
    refine .inl ⟨rfl, ?_⟩
    rw [send_msg_keepalive_submissions h]
    exact Nat.lt_succ_self _
  | false => exact .inr ⟨rfl, ((pure_eq_ok _ _).mp h).symm⟩

theorem checkKeepalive_cases (h : checkKeepalive cfg env s chan = .ok s') :
    s.submissions < s'.submissions ∨ ¬ KeepaliveDue cfg s env.now ∧ s' = s := by
  unfold checkKeepalive at h
  by_cases hon : cfg.keepalive_secs > 0 ∧ s.authstate.authdone = true
  · rw [if_pos hon] at h
    obtain ⟨s₁, hquiet, h⟩ := bind_eq_ok.mp h
    obtain ⟨s₂, hsilent, h⟩ := bind_eq_ok.mp h
    rw [ite_exit_eq_ok] at h
    obtain ⟨hlimit, h⟩ := h
    obtain rfl := (pure_eq_ok _ _).mp h
    rcases keepaliveIf_cases hquiet with ⟨-, hlt⟩ | ⟨hquiet, rfl⟩
    · rcases keepaliveIf_cases hsilent with ⟨-, hlt'⟩ | ⟨-, rfl⟩
      · exact .inl (Nat.lt_trans hlt hlt')
      · exact .inl hlt
    rcases keepaliveIf_cases hsilent with ⟨-, hlt⟩ | ⟨hsilent, rfl⟩
    · exact .inl hlt
    refine .inr ⟨?_, rfl⟩
    rw [decide_eq_false_iff_not] at hquiet hsilent
    rintro ⟨-, hdue⟩
    unfold QuietDue SilentDue LimitDue at hdue
    omega
  · rw [if_neg hon] at h
    exact .inr ⟨fun hdue => hon hdue.1, ((pure_eq_ok _ _).mp h).symm⟩

/-- **`checktimeouts` does nothing exactly if no deadline is due**, once the client has identified
itself. -/
theorem checktimeouts_quiet_iff (hident : s.remoteident ≠ none) :
    checktimeouts cfg env s chan = .ok s ↔ ¬ Due cfg s env.now := by
  constructor
  · intro h
    unfold checktimeouts at h
    by_cases hauth : AuthDue s env.now
    · rw [if_pos (auth_condition.mpr hauth)] at h
      exact absurd h (dropbear_close_ne_ok _ _)
    rw [if_neg fun hcond => hauth (auth_condition.mp hcond), if_neg hident] at h
    obtain ⟨s₁, hrekey, h⟩ := bind_eq_ok.mp h
    obtain ⟨s₂, hkeepalive, h⟩ := bind_eq_ok.mp h
    by_cases hidle : IdleDue cfg s₂ env.now
    · rw [if_pos (idle_condition.mpr hidle)] at h
      exact absurd h (dropbear_close_ne_ok _ _)
    rw [if_neg fun hcond => hidle (idle_condition.mp hcond)] at h
    obtain rfl := (pure_eq_ok _ _).mp h
    -- something that was sent would have been submitted
    have hle : s₁.submissions ≤ s₂.submissions := by
      rcases checkKeepalive_cases hkeepalive with hlt | ⟨-, rfl⟩
      · exact Nat.le_of_lt hlt
      · exact Nat.le_refl _
    rcases checkRekey_cases hrekey with hlt | ⟨hrekeydue, rfl⟩
    · omega
    rcases checkKeepalive_cases hkeepalive with hlt | ⟨hkeepalivedue, -⟩
    · omega
    rintro (hcase | hcase | hcase | hcase)
    · exact hauth hcase
    · exact hrekeydue hcase
    · exact hkeepalivedue hcase
    · exact hidle hcase
  · intro h
    have hauth : ¬ AuthDue s env.now := fun hdue => h (.inl hdue)
    have hrekey : ¬ RekeyDue s env.now := fun hdue => h (.inr (.inl hdue))
    have hkeepalive : ¬ KeepaliveDue cfg s env.now := fun hdue => h (.inr (.inr (.inl hdue)))
    have hidle : ¬ IdleDue cfg s env.now := fun hdue => h (.inr (.inr (.inr hdue)))
    unfold checktimeouts
    rw [if_neg fun hcond => hauth (auth_condition.mp hcond), if_neg hident, checkRekey_eq hrekey,
      ok_bind, checkKeepalive_eq hkeepalive, ok_bind,
      if_neg fun hcond => hidle (idle_condition.mp hcond)]
    rfl

/-! ## The deadlines that `select_timeout` knows -/

/-- A deadline that `select_timeout` takes into account. -/
inductive Armed (cfg : Config) (s : Session) : Nat → Prop
  | rekey (hsent : s.kexstate.sentkexinit = false) (hpos : 0 < s.kexstate.lastkextime) :
      Armed cfg s (s.kexstate.lastkextime + KEX_REKEY_TIMEOUT)
  | auth (hauth : s.authstate.authdone = false) (hpos : 0 < s.connect_time) :
      Armed cfg s (s.connect_time + AUTH_TIMEOUT)
  | silent (hsecs : 0 < cfg.keepalive_secs) (hauth : s.authstate.authdone = true)
      (hpos : 0 < max s.last_packet_time_keepalive_recv s.out.last_packet_time_keepalive_sent) :
      Armed cfg s (max s.last_packet_time_keepalive_recv s.out.last_packet_time_keepalive_sent +
        cfg.keepalive_secs)
  | idle (hsecs : 0 < cfg.idle_timeout_secs) (hpos : 0 < s.out.last_packet_time_idle) :
      Armed cfg s (s.out.last_packet_time_idle + cfg.idle_timeout_secs)

theorem update_timeout_le (limit now last_event timeout : Int) :
    update_timeout limit now last_event timeout ≤ timeout := by
  unfold update_timeout
  split_ifs
  · exact min_le_left _ _
  · exact le_refl _

theorem update_timeout_le_deadline {limit last_event : Int} (now timeout : Int)
    (hpos : 0 < last_event) (hlimit : 0 < limit) :
    update_timeout limit now last_event timeout ≤ last_event + limit - now := by
  unfold update_timeout
  rw [if_pos ⟨hpos, hlimit⟩]
  exact min_le_right _ _

theorem ite_update_timeout_le (c : Bool) (limit now last_event timeout : Int) :
    (if c = true then update_timeout limit now last_event timeout else timeout) ≤ timeout := by
  cases c with
  | true => exact update_timeout_le limit now last_event timeout
  | false => exact le_refl _

/-- **The session wakes up in time** for every deadline that `select_timeout` knows. -/
theorem Armed.awake {deadline : Nat} (h : Armed cfg s deadline) (hnow : now ≤ t) (hdue : deadline ≤ t) :
    now + select_timeout cfg now s ≤ t := by
  unfold select_timeout
  simp only
  -- every update makes the timeout smaller, so that each deadline is still respected by the last one
  generalize h₁ : (if (!s.kexstate.sentkexinit) = true then update_timeout KEX_REKEY_TIMEOUT now
    s.kexstate.lastkextime KEX_REKEY_TIMEOUT else (KEX_REKEY_TIMEOUT : Int)) = timeout₁
  generalize h₂ : (if (!s.authstate.authdone) = true then update_timeout AUTH_TIMEOUT now
    s.connect_time timeout₁ else timeout₁) = timeout₂
  generalize h₃ : (if s.authstate.authdone = true then update_timeout cfg.keepalive_secs now
    (max s.last_packet_time_keepalive_recv s.out.last_packet_time_keepalive_sent) timeout₂
    else timeout₂) = timeout₃
  have hle₂ : timeout₂ ≤ timeout₁ := h₂ ▸ ite_update_timeout_le _ _ _ _ _
  have hle₃ : timeout₃ ≤ timeout₂ := h₃ ▸ ite_update_timeout_le _ _ _ _ _
  have hle₄ := update_timeout_le cfg.idle_timeout_secs now s.out.last_packet_time_idle timeout₃
  cases h with
  | rekey hsent hpos =>
    rw [hsent, Bool.not_false, if_pos rfl] at h₁
    have hbound := update_timeout_le_deadline now KEX_REKEY_TIMEOUT
      (Int.natCast_pos.mpr hpos) (Int.natCast_pos.mpr (by decide : 0 < KEX_REKEY_TIMEOUT))
    omega
  | auth hauth hpos =>
    rw [hauth, Bool.not_false, if_pos rfl] at h₂
    have hbound := update_timeout_le_deadline now timeout₁
      (Int.natCast_pos.mpr hpos) (Int.natCast_pos.mpr (by decide : 0 < AUTH_TIMEOUT))
    omega
  | silent hsecs hauth hpos =>
    rw [if_pos hauth] at h₃
    have hbound := update_timeout_le_deadline now timeout₂
      (Int.natCast_pos.mpr hpos) (Int.natCast_pos.mpr hsecs)
    rw [Nat.cast_max] at hbound
    omega
  | idle hsecs hpos =>
    have hbound := update_timeout_le_deadline now timeout₃
      (Int.natCast_pos.mpr hpos) (Int.natCast_pos.mpr hsecs)
    omega

/-! ## The deadlines that it does not know -/

/-- The time stamps that are compared with the clock are set. -/
structure Stamped (s : Session) : Prop where
  lastkextime : 0 < s.kexstate.lastkextime
  recv : 0 < s.last_packet_time_keepalive_recv
  idle : 0 < s.out.last_packet_time_idle

/-- What is due is known to `select_timeout`, or it is one of three exceptions. -/
theorem Due.armed (h : Due cfg s t) (hstamped : Stamped s)
    (hdata : s.kexstate.sentkexinit = false →
      (s.datarecv + s.out.datatrans) % 2 ^ 32 < KEX_REKEY_DATA) :
    (∃ deadline, Armed cfg s deadline ∧ deadline ≤ t) ∨ s.authstate.authdone = true ∧
      (AuthDue s t ∨ 0 < cfg.keepalive_secs ∧ (QuietDue cfg s t ∨ LimitDue cfg s t)) := by
  rcases h with hauth | ⟨hsent, hrekey⟩ | ⟨⟨hsecs, hauth⟩, hquiet | hsilent | hlimit⟩ | ⟨hsecs, hidle⟩
  · cases hdone : s.authstate.authdone with
    | true => exact .inr ⟨rfl, .inl hauth⟩
    | false => exact .inl ⟨_, .auth hdone (Nat.pos_of_ne_zero hauth.1), hauth.2⟩
  · rcases hrekey with htime | hbytes
    · exact .inl ⟨_, .rekey hsent hstamped.lastkextime, htime⟩
    · exact absurd hbytes (Nat.not_le.mpr (hdata hsent))
  · exact .inr ⟨hauth, .inr ⟨hsecs, .inl hquiet⟩⟩
  · refine .inl ⟨_, .silent hsecs hauth (lt_max_of_lt_left hstamped.recv), ?_⟩
    rw [← max_add_add_right]
    exact max_le hsilent.1 hsilent.2
  · exact .inr ⟨hauth, .inr ⟨hsecs, .inr hlimit⟩⟩
  · exact .inl ⟨_, .idle hsecs hstamped.idle, hidle⟩

/-- Before the session sleeps, the last packet was sent after the others, and the last keepalive is not
much later than the last packet that was received. -/
def KeepaliveFirst (cfg : Config) (s : Session) : Prop :=
  max s.last_packet_time_keepalive_recv s.out.last_packet_time_keepalive_sent ≤
      s.out.last_packet_time_any_sent ∧
    s.out.last_packet_time_keepalive_sent + cfg.keepalive_secs ≤
      s.last_packet_time_keepalive_recv + cfg.keepalive_secs * DEFAULT_KEEPALIVE_LIMIT

/-- Then the deadline that is known is not the later one. -/
theorem KeepaliveFirst.silent (h : KeepaliveFirst cfg s) (hdue : QuietDue cfg s t ∨ LimitDue cfg s t) :
    max s.last_packet_time_keepalive_recv s.out.last_packet_time_keepalive_sent +
      cfg.keepalive_secs ≤ t := by
  have hthree : DEFAULT_KEEPALIVE_LIMIT = 3 := rfl
  unfold QuietDue LimitDue at hdue
  unfold KeepaliveFirst at h
  rw [hthree] at h hdue
  omega

def keepaliveConfig : Config := { plainConfig noCrypto noKexCrypto with keepalive_secs := 60 }

/-- An authenticated session. -/
def sleepingSession (connect_time recv keepalive_sent any_sent now : Nat) : Session :=
  { authstate := { authdone := true }
    kexstate := { lastkextime := now }
    remoteident := some (ascii "SSH-2.0-client")
    connect_time := connect_time
    last_packet_time_keepalive_recv := recv
    out := { last_packet_time_any_sent := any_sent
             last_packet_time_keepalive_sent := keepalive_sent
             last_packet_time_idle := now } }

def clockEnv (now : Nat) : Env := { now := now, authfile := none, random := [] }

end SimpleSshd.Dropbear
