import SimpleSshd.Dropbear.Proofs.AccountProofs
import SimpleSshd.Dropbear.Proofs.GatingProofs

/-!
# Proofs: authentication in a running session

As far as authentication goes, a session is the sequence of the authentication requests that were
handled in it. What holds of every sequence of requests therefore holds of every session.
-/

namespace SimpleSshd.Dropbear

open Fallible Runs

variable {cfg : Config} {env : Env} {s s₀ s₁ s' : Session} {payload b : Buffer} {type : UInt8}
  {banner : Option Bytes} {es : List Event}

/-! ## Sessions as sequences of requests -/

/-- The request `r` was handled, in `s₁`, by the step from `s` to `s'`. -/
structure RequestHandled (cfg : Config) (s : Session) (r : Request) (s₁ s' : Session) : Prop where
  authstate : s₁.authstate = s.authstate
  session_id : s₁.session_id = s.session_id
  recv : recv_msg_userauth_request cfg r.env s₁ r.payload = .ok s'

/-- **One step** of a session handles a request, or leaves the authentication state alone. -/
theorem SessionStep.request {e : Event} (hinv : KexInv s) (h : SessionStep cfg s e s') :
    s'.authstate = s.authstate ∨ ∃ r s₁, RequestHandled cfg s r s₁ s' := by
  cases SessionStep.anyEffect hinv h with
  | ident hback | timeouts hback | channels hback => exact Or.inl hback.authstate
  | flush hflush => exact Or.inl (maybe_flush_reply_queue_quiet hflush).2
  | write => exact Or.inl rfl
  | rekeyed _ hkexinit hback =>
    exact Or.inl (hback.authstate.trans (send_msg_kexinit_ok hkexinit).authstate)
  | packet hback heffect =>
    have hinv₀ := hinv.quiet hback.quiet
    cases heffect with
    | background hback' => exact Or.inl (hback'.authstate.trans hback.authstate)
    | handled _ hd heffect =>
      have hauth := hd.authstate.trans hback.authstate
      have hid := hd.session_id.trans hback.quiet.session_id
      -- of the handlers, only that of requests changes the authentication state
      cases heffect with
      | request hcall => exact Or.inr ⟨⟨_, _⟩, _, hauth, hid, hcall⟩
      | kexinit hcall => exact Or.inl ((recv_msg_kexinit_ok hcall).authstate.trans hauth)
      | kexdh hcall =>
        exact Or.inl ((recv_msg_kexdh_init_ok (hd.recvnewkeys hinv₀) hcall).authstate.trans hauth)
      | newkeys hcall => exact Or.inl ((hinv₀.newkeys hd hcall).2.authstate.trans hauth)
      | other _ hback' => exact Or.inl (hback'.authstate.trans hauth)

theorem svr_session_authstate (h : svr_session cfg env banner = .ok s) :
    s.authstate = svr_authinitialise env := (send_msg_kexinit_ok h).authstate

/-- **A session is a sequence of requests**, as far as authentication goes. -/
theorem requests_of_session (h0 : svr_session cfg env banner = .ok s₀)
    (hrun : Run (SessionStep cfg) s₀ es s) :
    ∃ rs t, Run (RequestStep cfg) s₀ rs t ∧ s.authstate = t.authstate := by
  have hsim : ∀ ⦃s e s' a⦄, KexInv s ∧ s.authstate = a.authstate → SessionStep cfg s e s' →
      (KexInv s' ∧ s'.authstate = a.authstate) ∨
        ∃ r a', RequestStep cfg a r a' ∧ KexInv s' ∧ s'.authstate = a'.authstate := by
    intro s e s' a hrel hstep
    have hinv' := (hrel.1.step hstep).1
    rcases SessionStep.request hrel.1 hstep with hsame | ⟨r, s₁, hrequest⟩
    · exact Or.inl ⟨hinv', hsame.trans hrel.2⟩
    · exact Or.inr ⟨r, s', ⟨s₁, hrequest.authstate.trans hrel.2, hrequest.recv⟩, hinv', rfl⟩
  obtain ⟨rs, t, hruns, -, hauth⟩ := hrun.simulation hsim ⟨KexInv.init h0, rfl⟩
  exact ⟨rs, t, hruns, hauth⟩

/-- What holds of the authentication state after every request holds in every state of a session. -/
theorem authInv_of_session (h0 : svr_session cfg env banner = .ok s₀)
    (hrun : Run (SessionStep cfg) s₀ es s) : AuthInv cfg env s.authstate := by
  have hstep : ∀ ⦃u r v⦄, AuthInv cfg env u.authstate → RequestStep cfg u r v →
      AuthInv cfg env v.authstate := fun _ _ _ hinv h => hinv.step h
  have hinit : AuthInv cfg env s₀.authstate := svr_session_authstate h0 ▸ AuthInv.init
  obtain ⟨rs, t, hruns, hauth⟩ := requests_of_session h0 hrun
  have hinv := hruns.invariant hstep hinit
  rw [hauth]
  exact hinv

/-- **An authenticated session** became so at one of its events. That event handled a request with
the password, if the session began without authorized keys, or with a key that the file authorised
then and a signature over the id of this session. -/
theorem session_authenticated (h0 : svr_session cfg env banner = .ok s₀)
    (hrun : Run (SessionStep cfg) s₀ es s) (hdone : s.authstate.authdone = true) :
    ∃ before e after u v, es = before ++ e :: after ∧ Run (SessionStep cfg) s₀ before u ∧
      u.authstate.authdone = false ∧ SessionStep cfg u e v ∧ Run (SessionStep cfg) v after s ∧
      ∃ r u₁, RequestHandled cfg u r u₁ v ∧ (ByPassword env u.authstate r ∨ ByPubkey cfg u₁ r) := by
  have hnot : ¬ s₀.authstate.authdone = true := by
    rw [svr_session_authstate h0, svr_authinitialise_fresh.1]
    exact Bool.false_ne_true
  obtain ⟨before, e, after, u, v, heq, hbefore, hu, hstep, hv, hafter⟩ :=
    hrun.exists_step (fun s => s.authstate.authdone = true) hnot hdone
  have hu' := Bool.eq_false_iff.mpr hu
  have hkex := ((KexInv.init h0).run hbefore).1
  refine ⟨before, e, after, u, v, heq, hbefore, hu', hstep, hafter, ?_⟩
  rcases SessionStep.request hkex hstep with hsame | ⟨r, u₁, hrequest⟩
  · rw [hsame] at hv
    exact absurd hv hu
  · have hinv := authInv_of_session h0 hbefore
    rw [← hrequest.authstate] at hinv hu'
    refine ⟨r, u₁, hrequest, ?_⟩
    rw [← hrequest.authstate]
    exact hinv.authenticates hu' hrequest.recv hv

end SimpleSshd.Dropbear
