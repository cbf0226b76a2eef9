import SimpleSshd.Dropbear.Proofs.KexProofs
import SimpleSshd.Lib.History
import SimpleSshd.Lib.Runs

/-!
# Proofs: what a session handles, and when

The log of a session is justified entry by entry (`EntryOk`): a handler is called only after what has
to come before it, and keys change only at their place in a key exchange. The invariant that carries
this ties the packet that is required next to the state of the key exchange (`Phase`).
-/

namespace SimpleSshd.Dropbear

open Fallible History Runs

variable {cfg : Config} {env : Env} {s s₁ s' : Session} {payload b : Buffer} {type : UInt8}
  {log new : List LogEntry} {keys : KeyContext}

/-! ## What justifies an entry of the log -/

def IsHandled (type : UInt8) (e : LogEntry) : Prop :=
  ∃ payload authdone, e = .handled type payload authdone

/-- A `KEXINIT` was handled in the current exchange. -/
def KexinitHandled : List LogEntry → Prop :=
  Since (· = .kexinitialised) (IsHandled SSH_MSG_KEXINIT) fun _ => True

/-- And after it a `KEXDH_INIT`. -/
def KexdhHandled : List LogEntry → Prop :=
  Since (· = .kexinitialised) (IsHandled SSH_MSG_KEXDH_INIT) KexinitHandled

/-- The receiving direction has changed over to keys that were negotiated. -/
def Switched (log : List LogEntry) : Prop :=
  ∃ old new : Direction, new.valid = true ∧ .switchedRecv old new ∈ log

/-- The packets that are of no use before the first key exchange. -/
def NeedsKeys (type : UInt8) : Prop :=
  type = SSH_MSG_SERVICE_REQUEST ∨ type = SSH_MSG_USERAUTH_REQUEST ∨ type ≥ 80

/-- The keys an entry says are now used to receive. -/
def recvKeys : LogEntry → Option Direction
  | .switchedRecv _ new => some new
  | _ => none

def transKeys : LogEntry → Option Direction
  | .switchedTrans _ new => some new
  | _ => none

theorem latest_switchedRecv (old k : Direction) (log : List LogEntry) :
    latest recvKeys {} (.switchedRecv old k :: log) = k := latest_cons_some rfl

theorem latest_switchedTrans (old k : Direction) (log : List LogEntry) :
    latest transKeys {} (.switchedTrans old k :: log) = k := latest_cons_some rfl

/-- What has to be in the log before this entry. -/
def EntryOk : LogEntry → List LogEntry → Prop
  | .handled type _ authdone, before =>
    (NeedsKeys type → Switched before) ∧ (type > MAX_UNAUTH_PACKET_TYPE → authdone = true)
  | .switchedRecv old new, before => old = latest recvKeys {} before ∧ new.valid = true ∧
      ∃ payload authdone earlier, before = .handled SSH_MSG_NEWKEYS payload authdone :: earlier ∧
        KexdhHandled earlier
  | .switchedTrans old _, before => old = latest transKeys {} before ∧
      ∃ earlier, before = .sealed SSH_MSG_NEWKEYS old :: earlier
  | .sealed _ _, _ => True
  | .kexinitialised, _ => True

/-- The log is justified, and the keys in use are the last ones it tells of. -/
structure LogInv (log : List LogEntry) (keys : KeyContext) : Prop where
  justified : Justified EntryOk log
  recv : keys.recv = latest recvKeys {} log
  trans : keys.trans = latest transKeys {} log

theorem LogInv.allSealed {k : Direction} (h : LogInv log keys) (hnew : AllSealed k new) :
    LogInv (new ++ log) keys := by
  refine ⟨h.justified.append fun e he before => ?_, ?_, ?_⟩
  · obtain ⟨type, rfl⟩ := hnew e he
    trivial
  · rw [latest_append]
    · exact h.recv
    · intro e he
      obtain ⟨type, rfl⟩ := hnew e he
      rfl
  · rw [latest_append]
    · exact h.trans
    · intro e he
      obtain ⟨type, rfl⟩ := hnew e he
      rfl

theorem LogInv.handled {authdone : Bool} (h : LogInv log keys)
    (hok : EntryOk (.handled type b authdone) log) :
    LogInv (.handled type b authdone :: log) keys :=
  ⟨justified_cons.mpr ⟨hok, h.justified⟩, h.recv, h.trans⟩

theorem AllSealed.not_kexinitialised {k : Direction} (hnew : AllSealed k new) :
    ∀ e ∈ new, ¬ e = .kexinitialised := by
  intro e he hend
  obtain ⟨type, rfl⟩ := hnew e he
  cases hend

theorem Switched.mono {log' : List LogEntry} (h : Switched log) (hsub : log ⊆ log') :
    Switched log' := by
  obtain ⟨old, k, hvalid, hmem⟩ := h
  exact ⟨old, k, hvalid, hsub hmem⟩

/-! ## The invariant -/

/-- Between exchanges: the first one is still to begin, or there was one. -/
theorem between_append {req : UInt8} (h : req = SSH_MSG_KEXINIT ∨ req = 0 ∧ Switched log) :
    req = SSH_MSG_KEXINIT ∨ req = 0 ∧ Switched (new ++ log) := by
  rcases h with hreq | ⟨hreq, hswitched⟩
  · exact Or.inl hreq
  · exact Or.inr ⟨hreq, hswitched.mono (List.subset_append_right _ _)⟩

/-- Where the key exchange is, and which packet it requires. -/
inductive Phase (s : Session) : Prop
  | idle (hreq : s.requirenext = SSH_MSG_KEXINIT ∨ s.requirenext = 0 ∧ Switched s.log)
      (hrecv : s.kexstate.recvkexinit = false) (hsent : s.kexstate.sentnewkeys = false)
  | kexinit (hreq : s.requirenext = SSH_MSG_KEXDH_INIT) (hsent : s.kexstate.sentkexinit = true)
      (hlog : KexinitHandled s.log)
  | newkeys (hreq : s.requirenext = SSH_MSG_NEWKEYS) (hkexinit : s.kexstate.sentkexinit = true)
      (hsent : s.kexstate.sentnewkeys = true)
      (hkeys : ∃ newkeys, s.newkeys = some newkeys ∧ newkeys.recv.valid = true ∧
        newkeys.trans.valid = false)
      (hlog : KexdhHandled s.log)

structure KexInv (s : Session) : Prop where
  log : LogInv s.log s.keys
  recvnewkeys : s.kexstate.recvnewkeys = false
  phase : Phase s

theorem Phase.quiet (h : Phase s) (hquiet : Quiet s s') : Phase s' := by
  obtain ⟨hkex, -, hnewkeys, hreq', -, new, hlog', hnew⟩ := hquiet
  cases h with
  | idle hreq hrecv hsent =>
    refine .idle ?_ (by rw [hkex]; exact hrecv) (by rw [hkex]; exact hsent)
    rw [hreq', hlog']
    exact between_append hreq
  | kexinit hreq hsent hlog =>
    refine .kexinit (hreq'.trans hreq) (by rw [hkex]; exact hsent) ?_
    rw [hlog']
    exact hlog.append hnew.not_kexinitialised
  | newkeys hreq hkexinit hsent hkeys hlog =>
    refine .newkeys (hreq'.trans hreq) (by rw [hkex]; exact hkexinit)
      (by rw [hkex]; exact hsent) (by rw [hnewkeys]; exact hkeys) ?_
    rw [hlog']
    exact hlog.append hnew.not_kexinitialised

theorem KexInv.quiet (hinv : KexInv s) (h : Quiet s s') : KexInv s' := by
  obtain ⟨new, hlog, hnew⟩ := h.log
  refine ⟨?_, ?_, hinv.phase.quiet h⟩
  · rw [hlog, h.keys]
    exact hinv.log.allSealed hnew
  · rw [h.kexstate]
    exact hinv.recvnewkeys

/-- Our own `KEXINIT` only goes out between exchanges. -/
theorem KexInv.kexinitSent (hinv : KexInv s) (hnot : s.kexstate.sentkexinit = false)
    (h : KexinitSent s s') : KexInv s' := by
  obtain ⟨-, hkex, hkeys, hreq', -, new, hlog, hnew⟩ := h
  refine ⟨?_, ?_, ?_⟩
  · rw [hlog, hkeys]
    exact hinv.log.allSealed hnew
  · rw [hkex]
    exact hinv.recvnewkeys
  · cases hinv.phase with
    | idle hreq hrecv hsent =>
      refine .idle ?_ (by rw [hkex]; exact hrecv) (by rw [hkex]; exact hsent)
      rw [hreq', hlog]
      exact between_append hreq
    | kexinit _ hsent => exact absurd hsent (Bool.eq_false_iff.mp hnot)
    | newkeys _ hkexinit => exact absurd hkexinit (Bool.eq_false_iff.mp hnot)

/-! ## Handled packets -/

/-- The packet `b` of this type passed the checks of `process_packet` in `s`, and its handler is
called in `s₁`. -/
structure Dispatched (s : Session) (type : UInt8) (b : Buffer) (s₁ : Session) : Prop where
  required : s.requirenext = 0 ∨ s.requirenext = type
  authenticated : type > MAX_UNAUTH_PACKET_TYPE → s.authstate.authdone = true
  kexstate : s₁.kexstate = s.kexstate
  keys : s₁.keys = s.keys
  newkeys : s₁.newkeys = s.newkeys
  session_id : s₁.session_id = s.session_id
  authstate : s₁.authstate = s.authstate
  requirenext : s₁.requirenext = 0
  out : outView s₁ = outView s
  log : s₁.log = .handled type b s.authstate.authdone :: s.log

theorem not_needsKeys : ¬ NeedsKeys SSH_MSG_KEXINIT ∧ ¬ NeedsKeys SSH_MSG_KEXDH_INIT ∧
    ¬ NeedsKeys SSH_MSG_NEWKEYS := by
  unfold NeedsKeys
  decide

/-- Only the packet that is required is handled. -/
theorem Dispatched.type_eq {req : UInt8} (h : Dispatched s type b s₁) (hreq : s.requirenext = req)
    (hne : req ≠ 0) : type = req := by
  rcases h.required with hzero | hsame
  · exact absurd (hreq.symm.trans hzero) hne
  · exact hsame.symm.trans hreq

theorem Dispatched.recvnewkeys (h : Dispatched s type b s₁) (hinv : KexInv s) :
    s₁.kexstate.recvnewkeys = false := by
  rw [h.kexstate]
  exact hinv.recvnewkeys

/-- The call of the handler is justified if there are keys where they are needed. -/
theorem Dispatched.logInv (h : Dispatched s type b s₁) (hinv : KexInv s)
    (hkeys : NeedsKeys type → Switched s.log) : LogInv s₁.log s₁.keys := by
  rw [h.log, h.keys]
  exact hinv.log.handled ⟨hkeys, h.authenticated⟩

theorem Dispatched.isHandled (h : Dispatched s type b s₁) :
    ∃ e, IsHandled type e ∧ s₁.log = e :: s.log := ⟨_, ⟨b, _, rfl⟩, h.log⟩

/-- A packet without a place in the key exchange needs none to be going on. -/
theorem KexInv.ordinary (hinv : KexInv s) (h : Dispatched s type b s₁) (htype : NeedsKeys type) :
    KexInv s₁ := by
  obtain ⟨hnot_kexinit, hnot_kexdh, hnot_newkeys⟩ := not_needsKeys
  cases hinv.phase with
  | idle hreq hrecv hsent =>
    have hswitched : Switched s.log := by
      rcases hreq with hreq | ⟨-, hswitched⟩
      · obtain rfl := h.type_eq hreq (by decide)
        exact absurd htype hnot_kexinit
      · exact hswitched
    refine ⟨h.logInv hinv fun _ => hswitched, h.recvnewkeys hinv,
      .idle (Or.inr ⟨h.requirenext, ?_⟩) ?_ ?_⟩
    · rw [h.log]
      exact hswitched.mono (List.subset_cons_self _ _)
    · rw [h.kexstate]
      exact hrecv
    · rw [h.kexstate]
      exact hsent
  | kexinit hreq =>
    obtain rfl := h.type_eq hreq (by decide)
    exact absurd htype hnot_kexdh
  | newkeys hreq =>
    obtain rfl := h.type_eq hreq (by decide)
    exact absurd htype hnot_newkeys

/-- A `KEXINIT` that is handled begins an exchange. -/
theorem KexInv.kexinit (hinv : KexInv s) (h : Dispatched s SSH_MSG_KEXINIT b s₁)
    (hrecv : KexinitReceived s₁ s') : KexInv s' := by
  obtain ⟨-, hsent, -, -, hrecvnewkeys, hkeys, hreq, -, new, hlog, hnew⟩ := hrecv
  have hbase := h.logInv hinv fun hneeds => absurd hneeds not_needsKeys.1
  have hhandled : KexinitHandled s₁.log := by
    obtain ⟨e, he, hcons⟩ := h.isHandled
    rw [hcons]
    exact since_cons he trivial
  refine ⟨?_, hrecvnewkeys.trans (h.recvnewkeys hinv), .kexinit hreq hsent ?_⟩
  · rw [hlog, hkeys]
    exact hbase.allSealed hnew
  · rw [hlog]
    exact hhandled.append hnew.not_kexinitialised

/-- A `KEXDH_INIT` that is handled comes after the `KEXINIT` of the exchange. -/
theorem Dispatched.kexinitHandled (h : Dispatched s SSH_MSG_KEXDH_INIT b s₁) (hinv : KexInv s)
    (hset : s₁.kexstate.recvkexinit = true) : KexinitHandled s.log := by
  cases hinv.phase with
  | idle _ hnot =>
    -- recv_msg_kexdh_init itself refuses then
    rw [h.kexstate, hnot] at hset
    cases hset
  | kexinit _ _ hlog => exact hlog
  | newkeys hreq => exact absurd (h.type_eq hreq (by decide)) (by decide)

theorem KexInv.kexdh (hinv : KexInv s) (h : Dispatched s SSH_MSG_KEXDH_INIT b s₁)
    (hrecv : KexdhReceived s₁ s') : KexInv s' := by
  obtain ⟨new, hlog, hnew⟩ := hrecv.log
  have hbase := (h.logInv hinv fun hneeds => absurd hneeds not_needsKeys.2.1).allSealed hnew
  have hhandled : KexdhHandled (new ++ s₁.log) := by
    obtain ⟨e, he, hcons⟩ := h.isHandled
    rw [hcons]
    exact (since_cons he (h.kexinitHandled hinv hrecv.recvkexinit)).append hnew.not_kexinitialised
  refine ⟨?_, hrecv.recvnewkeys, .newkeys hrecv.requirenext hrecv.sentkexinit hrecv.sentnewkeys
    hrecv.newkeys ?_⟩
  · rw [hlog]
    refine ⟨justified_cons.mpr ⟨⟨hbase.trans, _, rfl⟩, justified_cons.mpr ⟨trivial,
      hbase.justified⟩⟩, ?_, (latest_switchedTrans _ _ _).symm⟩
    rw [hrecv.recv, latest_cons_none rfl, latest_cons_none rfl]
    exact hbase.recv
  · rw [hlog]
    refine Since.cons (Since.cons hhandled ?_) ?_
    · exact nofun
    · exact nofun

/-- A `NEWKEYS` that is handled comes after ours. -/
theorem Dispatched.newkeysSent (h : Dispatched s SSH_MSG_NEWKEYS b s₁) (hinv : KexInv s)
    (hcall : recv_msg_newkeys env s₁ = .ok s') :
    s₁.kexstate.sentnewkeys = true ∧ KexdhHandled s.log ∧ ∃ newkeys,
      s₁.newkeys = some newkeys ∧ newkeys.recv.valid = true ∧ newkeys.trans.valid = false := by
  rw [h.newkeys]
  cases hinv.phase with
  | idle _ hnot =>
    -- switch_keys itself refuses then
    have hset := recv_msg_newkeys_recvkexinit hcall
    rw [h.kexstate, hnot] at hset
    cases hset
  | kexinit hreq => exact absurd (h.type_eq hreq (by decide)) (by decide)
  | newkeys _ _ hsent hkeys hhandled =>
    rw [← h.kexstate] at hsent
    exact ⟨hsent, hhandled, hkeys⟩

/-- It ends the exchange. -/
theorem KexInv.newkeys (hinv : KexInv s) (h : Dispatched s SSH_MSG_NEWKEYS b s₁)
    (hcall : recv_msg_newkeys env s₁ = .ok s') : KexInv s' ∧ NewkeysReceived s₁ s' := by
  obtain ⟨hsent, hhandled, newkeys, hnew, hvrecv, hvtrans⟩ := h.newkeysSent hinv hcall
  have hrecv := recv_msg_newkeys_ok hsent hnew hvrecv hvtrans hcall
  have hbase := h.logInv hinv fun hneeds => absurd hneeds not_needsKeys.2.2
  refine ⟨⟨?_, hrecv.recvnewkeys, .idle (Or.inr ⟨hrecv.requirenext.trans h.requirenext, ?_⟩)
    hrecv.recvkexinit hrecv.sentnewkeys⟩, hrecv⟩
  · rw [hrecv.log]
    have hswitch : EntryOk (.switchedRecv s₁.keys.recv s'.keys.recv) s₁.log :=
      ⟨hbase.recv, hrecv.valid, b, _, s.log, h.log, hhandled⟩
    refine ⟨justified_cons.mpr ⟨trivial, justified_cons.mpr ⟨hswitch, hbase.justified⟩⟩, ?_, ?_⟩
    · rw [latest_cons_none rfl, latest_switchedRecv]
    · rw [hrecv.trans, latest_cons_none rfl, latest_cons_none rfl]
      exact hbase.trans
  · rw [hrecv.log]
    exact ⟨_, _, hrecv.valid, List.mem_cons_of_mem _ List.mem_cons_self⟩

/-! ## Steps -/

theorem Dispatched.later (h : Dispatched s type b s₁) : Later s s₁ := by
  refine ⟨fun id hid => h.session_id.trans hid, ?_⟩
  rw [h.log]
  exact List.suffix_cons _ _

/-- **What a handler does** with a packet of this type. Those of the connection protocol are for
packets that need keys, and only send. -/
inductive HandlerEffect (cfg : Config) (P : Bytes → Prop) (env : Env) (b : Buffer)
    (s s' : Session) : UInt8 → Prop
  | request (h : recv_msg_userauth_request cfg env s b = .ok s') :
      HandlerEffect cfg P env b s s' SSH_MSG_USERAUTH_REQUEST
  | kexinit (h : recv_msg_kexinit cfg env s b = .ok s') :
      HandlerEffect cfg P env b s s' SSH_MSG_KEXINIT
  | kexdh (h : recv_msg_kexdh_init cfg env s b = .ok s') :
      HandlerEffect cfg P env b s s' SSH_MSG_KEXDH_INIT
  | newkeys (h : recv_msg_newkeys env s = .ok s') :
      HandlerEffect cfg P env b s s' SSH_MSG_NEWKEYS
  | other {type : UInt8} (hkeys : NeedsKeys type) (h : Background cfg P s s') :
      HandlerEffect cfg P env b s s' type

/-- The handlers of authentication and of the key exchange have their own packet types, and the
others are for packets that need keys. -/
def Handler.ForType (type : UInt8) : Handler → Prop
  | .recv_msg_userauth_request => type = SSH_MSG_USERAUTH_REQUEST
  | .recv_msg_kexinit => type = SSH_MSG_KEXINIT
  | .recv_msg_kexdh_init => type = SSH_MSG_KEXDH_INIT
  | .recv_msg_newkeys => type = SSH_MSG_NEWKEYS
  | _ => NeedsKeys type

theorem forType_of_lookup {handler : Handler}
    (h : svr_packettypes.lookup type = some handler) : handler.ForType type := by
  obtain ⟨l₁, l₂, heq, -⟩ := List.lookup_eq_some_iff.mp h
  have hmem : (type, handler) ∈ svr_packettypes := by
    rw [heq]
    exact List.mem_append_right l₁ List.mem_cons_self
  have hall : ∀ e ∈ svr_packettypes, e.2.ForType e.1 := by
    simp only [svr_packettypes, List.forall_mem_cons, List.not_mem_nil, false_implies, implies_true,
      Handler.ForType, NeedsKeys]
    decide
  exact hall _ hmem

theorem callHandler_effect {P : Bytes → Prop} (hP : ∀ p, Ordinary p → P p)
    {replies : Except Exit (List Bytes)} {handler : Handler}
    (hreplies : ∀ payloads, replies = .ok payloads → ∀ p ∈ payloads, P p)
    (hlookup : svr_packettypes.lookup type = some handler)
    (h : callHandler cfg env s b replies handler = .ok s') :
    HandlerEffect cfg P env b s s' type := by
  have htype := forType_of_lookup hlookup
  have hconnection : (replies >>= fun payloads => encrypt_packets cfg env s payloads) = .ok s' →
      Background cfg P s s' := by
    intro h
    obtain ⟨payloads, hok, hsent⟩ := bind_eq_ok.mp h
    exact encrypt_packets_background (hreplies payloads hok) hsent
  cases handler with
  | recv_msg_userauth_request => exact (show type = _ from htype) ▸ .request h
  | recv_msg_kexinit => exact (show type = _ from htype) ▸ .kexinit h
  | recv_msg_kexdh_init => exact (show type = _ from htype) ▸ .kexdh h
  | recv_msg_newkeys => exact (show type = _ from htype) ▸ .newkeys h
  | recv_msg_service_request => exact .other htype (recv_msg_service_request_background hP h)
  | ignore_recv_response =>
    obtain rfl := (pure_eq_ok _ _).mp h
    exact .other htype (background_of_view rfl rfl)
  | _ => exact .other htype (hconnection h)

theorem KexInv.dispatched {P : Bytes → Prop} (hinv : KexInv s) (h : Dispatched s type b s₁)
    (heffect : HandlerEffect cfg P env b s₁ s' type) : KexInv s' ∧ Later s s' := by
  cases heffect with
  | request hcall =>
    have hquiet := (recv_msg_userauth_request_acts (fun _ _ => trivial) hcall).quiet
    exact ⟨(hinv.ordinary h (by unfold NeedsKeys; decide)).quiet hquiet,
      h.later.trans hquiet.later⟩
  | kexinit hcall =>
    have hrecv := recv_msg_kexinit_ok hcall
    exact ⟨hinv.kexinit h hrecv, h.later.trans hrecv.later⟩
  | kexdh hcall =>
    have hrecv := recv_msg_kexdh_init_ok (h.recvnewkeys hinv) hcall
    exact ⟨hinv.kexdh h hrecv, h.later.trans hrecv.later⟩
  | newkeys hcall =>
    obtain ⟨hinv', hrecv⟩ := hinv.newkeys h hcall
    exact ⟨hinv', h.later.trans hrecv.later⟩
  | other hkeys hback =>
    exact ⟨(hinv.ordinary h hkeys).quiet hback.quiet, h.later.trans hback.quiet.later⟩

theorem dropbear_close_ne_ok {α : Type} (msg : String) (a : α) :
    (dropbear_close msg : Except Exit α) ≠ .ok a := nofun

theorem dispatch_packet_ok {replies : Except Exit (List Bytes)}
    (h : dispatch_packet cfg env s type b replies = .ok s') :
    (svr_packettypes.lookup type = none ∧ recv_unimplemented cfg env s = .ok s') ∨ ∃ handler,
      (type > MAX_UNAUTH_PACKET_TYPE → s.authstate.authdone = true) ∧
      svr_packettypes.lookup type = some handler ∧
      callHandler cfg env { s with log := .handled type b s.authstate.authdone :: s.log } b replies
        handler = .ok s' := by
  unfold dispatch_packet at h
  rw [ite_exit_eq_ok] at h
  obtain ⟨hauth, h⟩ := h
  split at h
  case h_1 handler hlookup =>
    refine Or.inr ⟨handler, fun hbig => ?_, hlookup, h⟩
    simpa [hbig] using hauth
  case h_2 hlookup => exact Or.inl ⟨hlookup, h⟩

/-- A packet that passes the checks is handled, and any other leaves the key exchange alone. -/
theorem require_packet_ok {P : Bytes → Prop} (hP : ∀ p, Ordinary p → P p) {replies : Except Exit (List Bytes)}
    (h : require_packet cfg env s type b replies = .ok s')
    (hknown : s.requirenext = 0 ∨ svr_packettypes.lookup s.requirenext ≠ none) :
    Background cfg P s s' ∨ ∃ handler s₁, Dispatched s type b s₁ ∧
      svr_packettypes.lookup type = some handler ∧
      callHandler cfg env s₁ b replies handler = .ok s' := by
  unfold require_packet at h
  by_cases hreq : s.requirenext ≠ 0 ∧ s.requirenext ≠ type
  · rw [if_pos hreq] at h
    split at h
    · exact Or.inl (recv_unimplemented_background hP h)
    · exact absurd h (dropbear_exit_ne_ok _ _)
  · rw [if_neg hreq] at h
    have hrequired : s.requirenext = 0 ∨ s.requirenext = type := by
      by_cases hzero : s.requirenext = 0
      · exact Or.inl hzero
      · exact Or.inr (Decidable.not_not.mp fun hne => hreq ⟨hzero, hne⟩)
    split at h
    · -- the packet was a wrong guess
      obtain rfl := (pure_eq_ok _ _).mp h
      exact Or.inl (background_of_view rfl rfl)
    · have hclear : (if s.requirenext ≠ 0 ∧ s.requirenext = type then 0 else s.requirenext) =
          (0 : UInt8) := by
        by_cases hzero : s.requirenext = 0
        · rw [hzero]
          exact ite_self 0
        · exact if_pos ⟨hzero, hrequired.resolve_left hzero⟩
      simp only [hclear] at h
      rcases dispatch_packet_ok h with ⟨hlookup, hsent⟩ | ⟨handler, hauth, hlookup, hcall⟩
      · -- what is required is known, so nothing was
        have hzero : s.requirenext = 0 := by
          rcases hrequired with hzero | hsame
          · exact hzero
          · rw [hsame] at hknown ⊢
            exact hknown.resolve_right (not_not_intro hlookup)
        have hclears : Background cfg P s { s with requirenext := 0 } := by
          refine background_of_view ?_ rfl
          simp only [coreView, kexView, hzero]
          rfl
        exact Or.inl (hclears.trans (recv_unimplemented_background hP hsent))
      · refine Or.inr ⟨handler, _, ?_, hlookup, hcall⟩
        exact ⟨hrequired, hauth, rfl, rfl, rfl, rfl, rfl, rfl, rfl, rfl⟩

theorem Phase.known (h : Phase s) :
    s.requirenext = 0 ∨ svr_packettypes.lookup s.requirenext ≠ none := by
  cases h with
  | idle hreq =>
    rcases hreq with hreq | ⟨hzero, -⟩
    · rw [hreq]
      decide
    · exact Or.inl hzero
  | kexinit hreq =>
    rw [hreq]
    decide
  | newkeys hreq =>
    rw [hreq]
    decide

/-- What `process_packet` does: the packet is passed over, or its handler is called. -/
inductive PacketEffect (cfg : Config) (P : Bytes → Prop) (env : Env) (payload : Buffer)
    (s s' : Session) : Prop
  | background (h : Background cfg P s s')
  | handled {s₁ : Session} {type : UInt8} {b : Buffer}
      (hbyte : buf_getbyte payload = .ok (type, b)) (hd : Dispatched s type b s₁)
      (heffect : HandlerEffect cfg P env b s₁ s' type)

theorem process_packet_effect {P : Bytes → Prop} (hP : ∀ p, Ordinary p → P p)
    {replies : Except Exit (List Bytes)}
    (hreplies : ∀ payloads, replies = .ok payloads → ∀ p ∈ payloads, P p) (hinv : KexInv s)
    (h : process_packet cfg env s payload replies = .ok s') :
    PacketEffect cfg P env payload s s' := by
  simp only [process_packet, bind_eq_ok, Prod.exists] at h
  obtain ⟨type, b, hbyte, h⟩ := h
  split at h
  · obtain rfl := (pure_eq_ok _ _).mp h
    exact .background (background_of_view rfl rfl)
  split at h
  · exact absurd h (dropbear_close_ne_ok _ _)
  rcases require_packet_ok hP h hinv.phase.known with hback | ⟨handler, s₁, hd, hlookup, hcall⟩
  · refine .background (Background.trans ?_ hback)
    exact background_of_view rfl rfl
  · exact .handled hbyte ⟨hd.required, hd.authenticated, hd.kexstate, hd.keys, hd.newkeys,
      hd.session_id, hd.authstate, hd.requirenext, hd.out, hd.log⟩
      (callHandler_effect hP hreplies hlookup hcall)

theorem checkRekey_ok (h : checkRekey cfg env s = .ok s') :
    s' = s ∨ s.kexstate.sentkexinit = false ∧ send_msg_kexinit cfg env s = .ok s' := by
  unfold checkRekey at h
  split at h
  case isTrue hdue =>
    have hnot : s.kexstate.sentkexinit = false := by
      rw [Bool.and_eq_true] at hdue
      simpa using hdue.1
    exact Or.inr ⟨hnot, h⟩
  case isFalse => exact Or.inl ((pure_eq_ok _ _).mp h).symm

theorem checktimeouts_ok {chan : Option Nat} (h : checktimeouts cfg env s chan = .ok s') :
    s' = s ∨ ∃ s₁, checkRekey cfg env s = .ok s₁ ∧ checkKeepalive cfg env s₁ chan = .ok s' := by
  unfold checktimeouts at h
  split at h
  · exact absurd h (dropbear_close_ne_ok _ _)
  split at h
  · exact Or.inl ((pure_eq_ok _ _).mp h).symm
  · simp only [bind_eq_ok] at h
    obtain ⟨s₁, hrekey, s₂, hkeepalive, h⟩ := h
    split at h
    · exact absurd h (dropbear_close_ne_ok _ _)
    · obtain rfl := (pure_eq_ok _ _).mp h
      exact Or.inr ⟨s₁, hrekey, hkeepalive⟩

/-- What the handlers of the connection protocol and the channels submit has the property `P`. -/
def Event.Submits (P : Bytes → Prop) : Event → Prop
  | .packet _ _ _ replies => ∀ payloads, replies = .ok payloads → ∀ p ∈ payloads, P p
  | .channels _ payloads => ∀ p ∈ payloads, P p
  | _ => True

/-- **What one step does**, by its event: most leave the key exchange and the authentication state
alone, the timeouts may begin a key exchange, and a packet may be handled. -/
inductive StepEffect (cfg : Config) (P : Bytes → Prop) (s : Session) : Event → Session → Prop
  | ident {lines : List (Option Bytes)} {s' : Session} (h : Background cfg P s s') :
      StepEffect cfg P s (.ident lines) s'
  | packet {env : Env} {payload : Buffer} {wirelen : Nat} {replies : Except Exit (List Bytes)}
      {s₀ s' : Session} (h : Background cfg P s s₀)
      (heffect : PacketEffect cfg P env payload s₀ s') :
      StepEffect cfg P s (.packet env payload wirelen replies) s'
  | timeouts {env : Env} {chan : Option Nat} {s' : Session} (h : Background cfg P s s') :
      StepEffect cfg P s (.timeouts env chan) s'
  | rekeyed {env : Env} {chan : Option Nat} {s₁ s' : Session}
      (hnot : s.kexstate.sentkexinit = false) (hsent : send_msg_kexinit cfg env s = .ok s₁)
      (h : Background cfg P s₁ s') : StepEffect cfg P s (.timeouts env chan) s'
  | flush {env : Env} {s' : Session} (h : maybe_flush_reply_queue cfg env s = .ok s') :
      StepEffect cfg P s (.flush env) s'
  | channels {env : Env} {payloads : List Bytes} {s' : Session} (h : Background cfg P s s') :
      StepEffect cfg P s (.channels env payloads) s'
  | write {n : Nat} :
      StepEffect cfg P s (.write n)
        { s with out := { s.out with writequeue := s.out.writequeue.drop n } }

section

variable {P : Bytes → Prop} (hP : ∀ p, Ordinary p → P p)
include hP

theorem checktimeouts_effect {chan : Option Nat} (h : checktimeouts cfg env s chan = .ok s') :
    StepEffect cfg P s (.timeouts env chan) s' := by
  rcases checktimeouts_ok h with rfl | ⟨s₁, hrekey, hkeepalive⟩
  · exact .timeouts (background_of_view rfl rfl)
  have hback := checkKeepalive_background hP hkeepalive
  rcases checkRekey_ok hrekey with rfl | ⟨hnot, hkexinit⟩
  · exact .timeouts hback
  · exact .rekeyed hnot hkexinit hback

theorem SessionStep.effect {e : Event} (he : e.Submits P) (hinv : KexInv s)
    (h : SessionStep cfg s e s') : StepEffect cfg P s e s' := by
  cases e with
  | ident lines => exact .ident (read_session_identification_background h.2)
  | packet env payload wirelen replies =>
    have hdecrypt : Background cfg P s (decrypt_packet s payload wirelen) :=
      background_of_view rfl rfl
    exact .packet hdecrypt (process_packet_effect hP he (hinv.quiet hdecrypt.quiet) h.2)
  | timeouts env chan => exact checktimeouts_effect hP h
  | flush env => exact .flush h
  | channels env payloads => exact .channels (encrypt_packets_background he h)
  | write n =>
    obtain rfl := h
    exact .write

end

theorem Event.submits_anything (e : Event) : e.Submits fun _ => True := by
  cases e with
  | packet => exact fun _ _ _ _ => trivial
  | channels => exact fun _ _ => trivial
  | _ => trivial

/-- The effects when nothing is asked of what is submitted. -/
theorem SessionStep.anyEffect {e : Event} (hinv : KexInv s) (h : SessionStep cfg s e s') :
    StepEffect cfg (fun _ => True) s e s' :=
  SessionStep.effect (fun _ _ => trivial) e.submits_anything hinv h

/-- **One step** of the loop keeps the invariant and the past. -/
theorem KexInv.step {e : Event} (hinv : KexInv s) (h : SessionStep cfg s e s') :
    KexInv s' ∧ Later s s' := by
  cases SessionStep.anyEffect hinv h with
  | ident hback | timeouts hback | channels hback =>
    exact ⟨hinv.quiet hback.quiet, hback.quiet.later⟩
  | flush hflush =>
    have hquiet := (maybe_flush_reply_queue_quiet hflush).1
    exact ⟨hinv.quiet hquiet, hquiet.later⟩
  | write => exact ⟨hinv.quiet (quiet_of_view rfl), fun _ hid => hid, List.suffix_refl _⟩
  | rekeyed hnot hkexinit hback =>
    have hsent := send_msg_kexinit_ok hkexinit
    exact ⟨(hinv.kexinitSent hnot hsent).quiet hback.quiet, hsent.later.trans hback.quiet.later⟩
  | packet hback heffect =>
    have hinv₀ := hinv.quiet hback.quiet
    cases heffect with
    | background hback' =>
      exact ⟨hinv₀.quiet hback'.quiet, hback.quiet.later.trans hback'.quiet.later⟩
    | handled _ hd heffect =>
      obtain ⟨hnext, hlater⟩ := hinv₀.dispatched hd heffect
      exact ⟨hnext, hback.quiet.later.trans hlater⟩

theorem KexInv.init {banner : Option Bytes} (h : svr_session cfg env banner = .ok s) :
    KexInv s := by
  obtain ⟨-, hkex, hkeys, hreq, -, new, hlog, hnew⟩ := send_msg_kexinit_ok h
  refine ⟨?_, ?_, .idle (Or.inl hreq) ?_ ?_⟩
  · rw [hlog, hkeys]
    refine LogInv.allSealed ⟨?_, rfl, rfl⟩ hnew
    exact justified_cons.mpr ⟨trivial, justified_nil⟩
  all_goals rw [hkex]; rfl

theorem KexInv.run {es : List Event} {t : Session} (hinv : KexInv s)
    (hrun : Run (SessionStep cfg) s es t) : KexInv t ∧ Later s t := by
  have hstep : ∀ ⦃u e v⦄, KexInv u ∧ Later s u → SessionStep cfg u e v →
      KexInv v ∧ Later s v := by
    intro u e v hu h
    obtain ⟨hinv', hlater⟩ := hu.1.step h
    exact ⟨hinv', hu.2.trans hlater⟩
  have hend := hrun.invariant hstep ⟨hinv, Later.refl s⟩
  exact hend

/-- **Gating**: in every state a session reaches, each handler call and each change of keys so far is
justified by what came before it, and the keys in use are those of the last change. Later the log
only grows, and the session id, once it is set, does not change. -/
theorem kex_gating (cfg : Config) (env : Env) (banner : Option Bytes) {s₀ s : Session}
    {es : List Event} (h0 : svr_session cfg env banner = .ok s₀)
    (hrun : Run (SessionStep cfg) s₀ es s) :
    Justified EntryOk s.log ∧ s.keys.recv = latest recvKeys {} s.log ∧
      s.keys.trans = latest transKeys {} s.log ∧
      ∀ fs t, Run (SessionStep cfg) s fs t → s.log <:+ t.log ∧
        ∀ id, s.session_id = some id → t.session_id = some id := by
  obtain ⟨hinv, -⟩ := (KexInv.init h0).run hrun
  refine ⟨hinv.log.justified, hinv.log.recv, hinv.log.trans, fun fs t hlater => ?_⟩
  obtain ⟨-, hpast⟩ := hinv.run hlater
  exact ⟨hpast.log, hpast.session_id⟩

/-! ## A first key exchange -/

/-- The loop, as a function of its events. -/
def execEvent (cfg : Config) (s : Session) : Event → Except Exit Session
  | .ident lines =>
    if s.remoteident = none then read_session_identification s lines else throw .fault
  | .packet env payload wirelen replies =>
    if s.remoteident = none then throw .fault
    else process_packet cfg env (decrypt_packet s payload wirelen) payload replies
  | .timeouts env chan => checktimeouts cfg env s chan
  | .flush env => maybe_flush_reply_queue cfg env s
  | .channels env payloads => encrypt_packets cfg env s payloads
  | .write n => pure { s with out := { s.out with writequeue := s.out.writequeue.drop n } }

theorem execEvent_ok {e : Event} (h : execEvent cfg s e = .ok s') : SessionStep cfg s e s' := by
  cases e with
  | ident lines =>
    simp only [execEvent] at h
    split at h
    case isTrue hnone => exact ⟨hnone, h⟩
    case isFalse => exact absurd h (throw_ne_ok _ _)
  | packet env payload wirelen replies => exact ite_throw_eq_ok.mp h
  | timeouts env chan => exact h
  | flush env => exact h
  | channels env payloads => exact h
  | write n => exact ((pure_eq_ok _ _).mp h).symm

def execEvents (cfg : Config) (s : Session) : List Event → Except Exit Session
  | [] => pure s
  | e :: es => do
    let s ← execEvent cfg s e
    execEvents cfg s es

theorem run_of_execEvents {es : List Event} (h : execEvents cfg s es = .ok s') :
    Run (SessionStep cfg) s es s' := by
  induction es generalizing s with
  | nil =>
    obtain rfl := (pure_eq_ok _ _).mp h
    exact .nil s
  | cons e es ih =>
    obtain ⟨s₁, hstep, hrest⟩ := bind_eq_ok.mp h
    exact .cons (execEvent_ok hstep) (ih hrest)

/-- The server's RSA host key. -/
def hostKey : RsaKey where
  e := 65537
  n := (0xf51bb3956acd10a4f5f6f739848f611c76bad76c26156d7eb0d4b9bf82d54fc8 * 2 ^ 256 +
      0x44e0938c47daeadc48165411383639f8d6f28303fc5c69c77b4214debdabb98f) *
    (0xc8523f7cd59bb78cd0daae6f95e0b63248cf1fde04d836dcce6f498f3bcf6771 * 2 ^ 256 +
      0xd1ea34e7f0e3fe19d7847d11581e70a1fba893e4461927bece451971a6d38f9)

def hostKeyBlob : Bytes :=
  putstring (putstring (ascii "ssh-rsa") ++ putmpint hostKey.e ++ putmpint hostKey.n)

/-- The public values of curve25519, the shared secret, and the random bytes of the server. -/
def clientQ : Bytes :=
  mp_to_unsigned_bin 0xb91173124d73e482c5786e3ccee3f613e0b6730f5c027b080fb80bbd39a43d78

def serverQ : Bytes :=
  mp_to_unsigned_bin 0x7a37cbc142093c8b755dc1b10e86cb426374ad16aa853ed0bdfc0b2b86d1c7c

def sharedK : Nat := 0x923418872030badc675689db63823d64f536a22217263b1af140957deeacc32a

def serverRandom : Bytes := (List.range 32).map fun i => UInt8.ofNat (i + 1)

/-- The client's `KEXINIT` proposes what the server has; its cookie is zero. -/
def kexinitLists : Bytes :=
  putstring (ascii "curve25519-sha256") ++ putstring (ascii "ssh-rsa") ++
    putstring (ascii "aes128-ctr") ++ putstring (ascii "aes128-ctr") ++
    putstring (ascii "hmac-sha1") ++ putstring (ascii "hmac-sha1") ++ putstring (ascii "none") ++
    putstring (ascii "none") ++ putstring [] ++ putstring [] ++ [0] ++ be32 0

def clientKexinit : Bytes := SSH_MSG_KEXINIT :: (List.replicate 16 0 ++ kexinitLists)

/-- What is hashed, and its SHA-256. -/
def exchangeBytes : Bytes :=
  putstring (ascii "SSH-2.0-client") ++ putstring (ascii "SSH-2.0-dropbear_2019.78") ++
    putstring clientKexinit ++
    putstring (SSH_MSG_KEXINIT :: (serverRandom.take 16 ++ kexinitLists)) ++ hostKeyBlob ++
    putstring clientQ ++ putstring serverQ ++ putmpint sharedK

def exchangeHash : Bytes :=
  mp_to_unsigned_bin 0xe869c41b7facb49e8c49235f9e05018abb43234987a579a83c702cc574684ff

def hostSignature : Nat :=
  0x8582c04ace5888bac3f5360d35b53391699f05cbadc3019bdbca21fcbd96d850 * 2 ^ 768 +
    0xe1769a6ea983ddf401d31fbc0ba3fe66511b1a51e259042755c90c9e6c35ed2e * 2 ^ 512 +
    0x2c0c62d73b11f450f49629f5357e57cbe3222f885428148ebfb1c654a5dc5b20 * 2 ^ 256 +
    0xb693c5897724f1e084b842202253a91a376cf9341f5c72bc9076bee5038b7e33

/-- The initialisation vector, the key and the MAC key of each direction. -/
def recvSecret : Bytes :=
  mp_to_unsigned_bin (0xdf4074a300c1b150946aecb59408825b6c6f63ff * 2 ^ 256 +
    0x410e6828dd6af5825396153c26d0db23e076b54dc26dd4991aa46a901a84aea2)

def transSecret : Bytes :=
  mp_to_unsigned_bin (0xe3476bfa80c814d37226725c751c15eb78c8c7b9 * 2 ^ 256 +
    0xbb46841ea02c3605897aac3d148dc63986a0c7e53b41d68d84401280b9d108be)

/-- The arithmetic, as far as this exchange needs it. -/
def exchangeCrypto : KexCrypto where
  comb_key _ theirs random :=
    if theirs = .ecdh clientQ ∧ random = serverRandom then pure (.ecdh serverQ, sharedK)
    else dropbear_exit "Bad curve25519"
  hash _ bytes := if bytes = exchangeBytes then exchangeHash else []
  put_pub_key _ := pure hostKeyBlob
  put_sign _ hash := if hash = exchangeHash then
    putstring (putstring (ascii "ssh-rsa") ++ putstring (mp_to_unsigned_bin hostSignature)) else []
  hashkeys _ dh_K hash session_id recv _ :=
    if dh_K = sharedK ∧ hash = exchangeHash ∧ session_id = exchangeHash then
      pure (if recv then recvSecret else transSecret)
    else dropbear_exit "Crypto error"
  deflate _ payload := payload

def exchangeEnv : Env := { now := 1000, authfile := none, random := serverRandom }

/-- The client identifies itself, exchanges keys and requests the authentication service. -/
def exchangeEvents : List Event :=
  [.ident [some (ascii "SSH-2.0-client")],
   .packet exchangeEnv (payloadOf clientKexinit (by decide +kernel)) 0 (.ok []),
   .packet exchangeEnv (payloadOf (SSH_MSG_KEXDH_INIT :: putstring clientQ) (by decide +kernel)) 0
    (.ok []),
   .packet exchangeEnv (payloadOf [SSH_MSG_NEWKEYS] (by decide)) 0 (.ok []),
   .packet exchangeEnv (payloadOf (SSH_MSG_SERVICE_REQUEST :: putstring SSH_SERVICE_USERAUTH)
    (by decide)) 0 (.ok [])]

theorem kex_gating_exchange : ∃ s₀ s, svr_session (plainConfig noCrypto exchangeCrypto) exchangeEnv
      none = .ok s₀ ∧
    Run (SessionStep (plainConfig noCrypto exchangeCrypto)) s₀ exchangeEvents s ∧
    s.session_id = some exchangeHash ∧ s.keys.recv.secret = recvSecret ∧
    s.keys.trans.secret = transSecret ∧ (∃ e ∈ s.log, IsHandled SSH_MSG_SERVICE_REQUEST e) ∧
    Justified EntryOk s.log := by
  have hcompute : okAnd (svr_session (plainConfig noCrypto exchangeCrypto) exchangeEnv none >>=
      fun s₀ => execEvents (plainConfig noCrypto exchangeCrypto) s₀ exchangeEvents)
      (fun s => s.session_id == some exchangeHash && s.keys.recv.secret == recvSecret &&
        s.keys.trans.secret == transSecret && s.log.any fun
          | .handled type _ _ => type == SSH_MSG_SERVICE_REQUEST
          | _ => false) = true := by
    decide +kernel
  obtain ⟨s, hok, htest⟩ := okAnd_eq_true.mp hcompute
  obtain ⟨s₀, h0, hexec⟩ := bind_eq_ok.mp hok
  have hrun := run_of_execEvents hexec
  simp only [Bool.and_eq_true, beq_iff_eq, List.any_eq_true] at htest
  obtain ⟨⟨⟨hid, hrecv⟩, htrans⟩, e, hmem, hhandled⟩ := htest
  refine ⟨s₀, s, h0, hrun, hid, hrecv, htrans, ⟨e, hmem, ?_⟩, (kex_gating _ _ _ h0 hrun).1⟩
  cases e with
  | handled type payload authdone =>
    obtain rfl := beq_iff_eq.mp hhandled
    exact ⟨payload, authdone, rfl⟩
  | _ => cases hhandled

end SimpleSshd.Dropbear
