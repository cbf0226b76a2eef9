import SimpleSshd.Dropbear.Proofs.OutboundProofs
import SimpleSshd.Dropbear.Proofs.SessionAuthProofs

/-!
# Proofs: where delayed compression starts

With `zlib@openssh.com` a packet is compressed if `authdone` is set when it is encrypted. The client
starts to inflate after the message of success. The two agree as long as that message is encrypted at
once: then everything that is encrypted later is also behind it. If the message is held back because
our `KEXINIT` is outstanding, they do not.
-/

namespace SimpleSshd.Dropbear

open Fallible Gates History Runs

variable {cfg : Config} {env : Env} {s s₁ s' : Session} {payload b : Buffer} {e : Event}

/-! ## The keys for sending -/

def TransSwitched (log : List LogEntry) : Prop := ∃ old new, .switchedTrans old new ∈ log

/-- In every key exchange so far, delayed compression was negotiated for our direction. -/
def DelayNegotiated (log : List LogEntry) : Prop :=
  ∀ old new, .switchedTrans old new ∈ log → new.algo_comp = .ZLIB_DELAY

theorem DelayNegotiated.mono {log log' : List LogEntry} (h : DelayNegotiated log')
    (hsub : log ⊆ log') : DelayNegotiated log := fun old new hmem => h old new (hsub hmem)

/-- After the first exchange, and during it once ours are in use, there are new keys for sending. -/
structure TransInv (s : Session) : Prop where
  switched : Switched s.log → TransSwitched s.log
  sentnewkeys : s.kexstate.sentnewkeys = true → TransSwitched s.log
  authdone : s.authstate.authdone = true → TransSwitched s.log

theorem transKeys_eq_some {e : LogEntry} {k : Direction} (h : transKeys e = some k) :
    ∃ old, e = .switchedTrans old k := by
  cases e with
  | switchedTrans old new =>
    cases h
    exact ⟨old, rfl⟩
  | _ => cases h

theorem transKeys_eq_none {log : List LogEntry} (h : ¬ TransSwitched log) :
    ∀ e ∈ log, transKeys e = none := by
  intro e he
  cases e with
  | switchedTrans old new => exact absurd ⟨old, new, he⟩ h
  | _ => rfl

/-- **Compression is on** exactly if `authdone` is set. -/
theorem is_compress_trans_eq (hlog : LogInv s.log s.keys) (htrans : TransInv s)
    (hdelay : DelayNegotiated s.log) : is_compress_trans s = s.authstate.authdone := by
  have hkeys := hlog.trans
  unfold is_compress_trans
  by_cases hswitched : TransSwitched s.log
  · obtain ⟨old, new, hmem⟩ := hswitched
    obtain ⟨e, he, hval⟩ : ∃ e ∈ s.log, transKeys e = some (latest transKeys {} s.log) :=
      latest_recorded ⟨_, hmem, rfl⟩
    obtain ⟨old', rfl⟩ := transKeys_eq_some hval
    have hcomp : s.keys.trans.algo_comp = .ZLIB_DELAY := by
      rw [hkeys]
      exact hdelay _ _ he
    rw [hcomp]
    simp
  · have hnone : s.keys.trans = {} := hkeys.trans (latest_unrecorded (transKeys_eq_none hswitched))
    have hdone : s.authstate.authdone = false :=
      Bool.eq_false_iff.mpr fun hdone => hswitched (htrans.authdone hdone)
    rw [hnone, hdone]
    decide

/-! ## The invariant -/

def isSuccess (p : Bytes) : Bool := packetType p == SSH_MSG_USERAUTH_SUCCESS

theorem Ordinary.not_success {p : Bytes} (h : Ordinary p) : isSuccess p = false :=
  beq_eq_false_iff_ne.mpr h.2.2

/-- Everything behind the message of success is compressed, and nothing else. -/
def InStep (s : Session) : Prop := s.gate.InStep isSuccess s.authstate.authdone

/-- Compression is on exactly if `authdone` is set. -/
def Marks (s : Session) : Prop := is_compress_trans s = s.authstate.authdone

theorem InStep.compressed_iff (h : InStep s) {before after : List Packet} {p : Packet}
    (hsent : s.out.sent = before ++ p :: after) :
    p.compressed = true ↔ ∃ q ∈ before, packetType q.payload = SSH_MSG_USERAUTH_SUCCESS := by
  have hpassed : s.gate.passed = before.map (fun q => (q.payload, q.compressed)) ++
      (p.payload, p.compressed) :: after.map fun q => (q.payload, q.compressed) := by
    simp only [Session.gate, hsent, List.map_append, List.map_cons]
  have hmark : p.compressed = _ := h.marked _ _ _ hpassed
  rw [hmark, List.any_map, List.any_eq_true]
  simp only [Function.comp_apply, isSuccess, beq_iff_eq]

theorem Marks.congr (h : Marks s) (hkeys : s'.keys = s.keys)
    (hdone : s'.authstate.authdone = s.authstate.authdone) : Marks s' := by
  unfold Marks
  rw [is_compress_trans_congr hkeys hdone, hdone]
  exact h

theorem Acts.marks {P : Bytes → Prop} (h : Acts cfg P s s') (hmarks : Marks s) : Marks s' :=
  hmarks.congr h.quiet.keys h.authdone

theorem InStep.of_view (h : InStep s) (hout : outView s' = outView s)
    (hdone : s'.authstate.authdone = s.authstate.authdone) : InStep s' := by
  unfold InStep
  rw [gate_of_view hout, hdone]
  exact h

theorem InStep.submit {p : Bytes} (h : InStep s) (hmarks : Marks s) (hp : isSuccess p = false)
    (hsent : encrypt_packet cfg env s p = .ok s') : InStep s' := by
  unfold InStep
  rw [encrypt_packet_gate hsent, encrypt_packet_authdone hsent, hmarks]
  exact Gate.InStep.submit h hp

theorem InStep.acts (h : InStep s) (hmarks : Marks s) (hacts : Acts cfg Ordinary s s') :
    InStep s' := by
  induction hacts with
  | refl => exact h
  | @tail u v hbefore hact ih =>
    cases hact with
    | other hview =>
      simp only [coreView, Prod.mk.injEq] at hview
      exact ih.of_view hview.2.1 hview.2.2
    | submit hp hsent => exact ih.submit (Acts.marks hbefore hmarks) hp.not_success hsent

theorem Acts.dataallowed {P : Bytes → Prop} (h : Acts cfg P s s') :
    s'.dataallowed = s.dataallowed := by
  induction h with
  | refl => rfl
  | tail _ hact ih =>
    cases hact with
    | other hview =>
      simp only [coreView, outView, Prod.mk.injEq] at hview
      exact hview.2.1.1.trans ih
    | submit _ hsent => exact (encrypt_packet_sent hsent).dataallowed.trans ih

/-- **The message of success** is not held back if the gate is open. -/
theorem InStep.authActs (h : InStep s) (hmarks : Marks s)
    (hopen : s.authstate.authdone = false → s.dataallowed = true)
    (hacts : AuthActs cfg Ordinary s s') : InStep s' := by
  cases hacts with
  | refused hacts => exact h.acts hmarks hacts
  | @accepted s₁ env hacts hnot hsuccess =>
    have h₁ : s₁.gate.InStep isSuccess s₁.authstate.authdone := h.acts hmarks hacts
    have hmarks₁ : is_compress_trans s₁ = s₁.authstate.authdone := hacts.marks hmarks
    have hopen₁ : s₁.dataallowed = true := by
      rw [hacts.authdone] at hnot
      exact hacts.dataallowed.trans (hopen hnot)
    obtain ⟨s₂, hsent, hout⟩ := send_msg_userauth_success_out hsuccess
    unfold InStep
    rw [gate_of_view hout, encrypt_packet_gate hsent, send_msg_userauth_success_authdone hsuccess,
      hmarks₁, hnot]
    rw [hnot] at h₁
    exact h₁.submit_turn hopen₁ rfl

theorem InStep.kexinitSent (h : InStep s) (hmarks : Marks s)
    (hsent : send_msg_kexinit cfg env s = .ok s') : InStep s' := by
  obtain ⟨-, p, hp, hgate⟩ := send_msg_kexinit_out hsent
  have hsuccess : isSuccess p = false := by
    unfold isSuccess
    rw [beq_iff_eq.mp hp]
    decide
  unfold InStep
  rw [hgate, (send_msg_kexinit_ok hsent).authstate, hmarks]
  exact (Gate.InStep.submit h hsuccess).setOpen false

theorem InStep.kexinitReceived (h : InStep s) (hmarks : Marks s)
    (hrecv : recv_msg_kexinit cfg env s payload = .ok s') : InStep s' := by
  have hdone : s'.authstate.authdone = s.authstate.authdone := by
    rw [(recv_msg_kexinit_ok hrecv).authstate]
  unfold recv_msg_kexinit at hrecv
  by_cases hsent : s.kexstate.sentkexinit = true
  · rw [if_pos hsent] at hrecv
    exact h.of_view (recv_kexinit_body_out hrecv) hdone
  · rw [if_neg hsent, bind_eq_ok] at hrecv
    obtain ⟨s₁, hkexinit, hrecv⟩ := hrecv
    refine (h.kexinitSent hmarks hkexinit).of_view (recv_kexinit_body_out hrecv) ?_
    rw [hdone, (send_msg_kexinit_ok hkexinit).authstate]

theorem InStep.kexdhReceived (h : InStep s) (hmarks : Marks s)
    (hnot : s.kexstate.recvnewkeys = false)
    (hrecv : recv_msg_kexdh_init cfg env s payload = .ok s') : InStep s' := by
  obtain ⟨-, p, hp, hgate⟩ := recv_msg_kexdh_init_out hrecv
  have hsuccess : isSuccess p = false := by
    unfold isSuccess
    rw [hp]
    decide
  unfold InStep
  rw [hgate, (recv_msg_kexdh_init_ok hnot hrecv).authstate, hmarks]
  exact ((Gate.InStep.submit h hsuccess).submit rfl).setOpen true

theorem InStep.newkeysReceived (h : InStep s) (hauth : s'.authstate = s.authstate)
    (hrecv : recv_msg_newkeys env s = .ok s') : InStep s' :=
  h.of_view (recv_msg_newkeys_out hrecv) (by rw [hauth])

theorem InStep.flushed (h : InStep s) (hmarks : Marks s)
    (hflush : maybe_flush_reply_queue cfg env s = .ok s') : InStep s' := by
  unfold InStep
  rw [maybe_flush_reply_queue_gate hflush, (maybe_flush_reply_queue_quiet hflush).2, hmarks]
  exact Gate.InStep.flush h

/-! ## New keys for sending -/

/-- Entries that tell of no change of keys. -/
def NoSwitch (new : List LogEntry) : Prop := ∀ old k, .switchedRecv old k ∉ new

theorem AllSealed.noSwitch {k : Direction} {new : List LogEntry} (h : AllSealed k new) :
    NoSwitch new := by
  intro old k' hmem
  obtain ⟨type, heq⟩ := h _ hmem
  cases heq

theorem TransInv.of_log {new : List LogEntry} (h : TransInv s) (hlog : s'.log = new ++ s.log)
    (hnew : NoSwitch new) (hsent : s'.kexstate.sentnewkeys = s.kexstate.sentnewkeys)
    (hdone : s'.authstate.authdone = s.authstate.authdone) : TransInv s' := by
  have hmono : TransSwitched s.log → TransSwitched s'.log := by
    rintro ⟨old, k, hmem⟩
    exact ⟨old, k, by rw [hlog]; exact List.mem_append_right _ hmem⟩
  refine ⟨?_, ?_, ?_⟩
  · rintro ⟨old, k, hvalid, hmem⟩
    rw [hlog] at hmem
    rcases List.mem_append.mp hmem with hmem | hmem
    · exact absurd hmem (hnew old k)
    · exact hmono (h.switched ⟨old, k, hvalid, hmem⟩)
  · intro hset
    exact hmono (h.sentnewkeys (hsent.symm.trans hset))
  · intro hset
    exact hmono (h.authdone (hdone.symm.trans hset))

theorem TransInv.quiet (h : TransInv s) (hquiet : Quiet s s')
    (hdone : s'.authstate.authdone = s.authstate.authdone) : TransInv s' := by
  obtain ⟨new, hlog, hnew⟩ := hquiet.log
  exact h.of_log hlog hnew.noSwitch (by rw [hquiet.kexstate]) hdone

theorem TransInv.of_transSwitched (h : TransSwitched s.log) : TransInv s :=
  ⟨fun _ => h, fun _ => h, fun _ => h⟩

theorem TransInv.dispatched {type : UInt8} (h : TransInv s) (hd : Dispatched s type b s₁) :
    TransInv s₁ := by
  have hlog : s₁.log = [.handled type b s.authstate.authdone] ++ s.log := hd.log
  refine h.of_log hlog ?_ (by rw [hd.kexstate]) (by rw [hd.authstate])
  intro old k hmem
  cases List.mem_singleton.mp hmem

/-- An authentication request is handled only with new keys. -/
theorem TransInv.request (h : TransInv s) (hinv : KexInv s)
    (hd : Dispatched s SSH_MSG_USERAUTH_REQUEST b s₁) (hquiet : Quiet s₁ s') : TransInv s' := by
  have hneeds : NeedsKeys SSH_MSG_USERAUTH_REQUEST := by unfold NeedsKeys; decide
  have hentry : EntryOk (.handled SSH_MSG_USERAUTH_REQUEST b s.authstate.authdone) s.log := by
    have hjust := (hinv.ordinary hd hneeds).log.justified
    rw [hd.log] at hjust
    exact (justified_cons.mp hjust).1
  obtain ⟨old, k, hmem⟩ := h.switched (hentry.1 hneeds)
  obtain ⟨new, hlog, -⟩ := hquiet.log
  refine .of_transSwitched ⟨old, k, ?_⟩
  rw [hlog, hd.log]
  exact List.mem_append_right _ (List.mem_cons_of_mem _ hmem)

theorem TransInv.handled {type : UInt8} (h : TransInv s) (hinv : KexInv s)
    (hd : Dispatched s type b s₁) (heffect : HandlerEffect cfg Ordinary env b s₁ s' type) :
    TransInv s' := by
  have h₁ := h.dispatched hd
  cases heffect with
  | request hcall =>
    have hacts := recv_msg_userauth_request_acts (fun _ hp => hp) hcall
    exact h.request hinv hd hacts.quiet
  | kexinit hcall =>
    have hrecv := recv_msg_kexinit_ok hcall
    obtain ⟨new, hlog, hnew⟩ := hrecv.log
    exact h₁.of_log hlog hnew.noSwitch hrecv.sentnewkeys (by rw [hrecv.authstate])
  | kexdh hcall =>
    obtain ⟨new, hlog, -⟩ := (recv_msg_kexdh_init_ok (hd.recvnewkeys hinv) hcall).log
    exact .of_transSwitched ⟨_, _, by rw [hlog]; exact List.mem_cons_self⟩
  | newkeys hcall =>
    obtain ⟨old, k, hmem⟩ := h₁.sentnewkeys (hd.newkeysSent hinv hcall).1
    refine .of_transSwitched ⟨old, k, ?_⟩
    rw [(hinv.newkeys hd hcall).2.log]
    exact List.mem_cons_of_mem _ (List.mem_cons_of_mem _ hmem)
  | other _ hback => exact h₁.quiet hback.quiet (by rw [hback.authstate])

/-! ## Steps -/

/-- The type of a packet that was received. -/
def payloadType (payload : Buffer) : Option UInt8 := (buf_getbyte payload).toOption.map Prod.fst

/-- An authentication request is not handled while our `KEXINIT` is outstanding. -/
def RequestAllowed (s : Session) : Event → Prop
  | .packet _ payload _ _ => payloadType payload = some SSH_MSG_USERAUTH_REQUEST →
      s.authstate.authdone = false → s.dataallowed = true
  | .ident _ | .timeouts _ _ | .flush _ | .channels _ _ | .write _ => True

instance (s : Session) : (e : Event) → Decidable (RequestAllowed s e)
  | .packet _ payload _ _ => inferInstanceAs (Decidable
      (payloadType payload = some SSH_MSG_USERAUTH_REQUEST → s.authstate.authdone = false →
        s.dataallowed = true))
  | .ident _ | .timeouts _ _ | .flush _ | .channels _ _ | .write _ =>
    inferInstanceAs (Decidable True)

structure DelayInv (s : Session) : Prop where
  trans : TransInv s
  inStep : InStep s

theorem InStep.handled {type : UInt8} (h : InStep s) (hmarks : Marks s) (hinv : KexInv s)
    (hopen : type = SSH_MSG_USERAUTH_REQUEST → s.authstate.authdone = false → s.dataallowed = true)
    (hd : Dispatched s type b s₁) (heffect : HandlerEffect cfg Ordinary env b s₁ s' type) :
    InStep s' := by
  have hdone : s₁.authstate.authdone = s.authstate.authdone := by rw [hd.authstate]
  have h₁ := h.of_view hd.out hdone
  have hmarks₁ := hmarks.congr hd.keys hdone
  cases heffect with
  | request hcall =>
    refine h₁.authActs hmarks₁ ?_ (recv_msg_userauth_request_acts (fun _ hp => hp) hcall)
    have hallowed : s₁.dataallowed = s.dataallowed := congrArg Prod.fst hd.out
    rw [hdone, hallowed]
    exact hopen rfl
  | kexinit hcall => exact h₁.kexinitReceived hmarks₁ hcall
  | kexdh hcall => exact h₁.kexdhReceived hmarks₁ (hd.recvnewkeys hinv) hcall
  | newkeys hcall => exact h₁.newkeysReceived (hinv.newkeys hd hcall).2.authstate hcall
  | other _ hback => exact h₁.acts hmarks₁ hback.acts

/-- **One step** keeps the invariant, if delayed compression was negotiated so far and a request is
handled only while the gate is open. -/
theorem DelayInv.step (hinv : DelayInv s) (hkex : KexInv s) (hdelay : DelayNegotiated s.log)
    (he : e.Submits Ordinary) (hallowed : RequestAllowed s e) (h : SessionStep cfg s e s') :
    DelayInv s' := by
  have hmarks : Marks s := is_compress_trans_eq hkex.log hinv.trans hdelay
  cases SessionStep.effect (fun _ hp => hp) he hkex h with
  | ident hback | timeouts hback | channels hback =>
    exact ⟨hinv.trans.quiet hback.quiet (by rw [hback.authstate]), hinv.inStep.acts hmarks hback.acts⟩
  | packet hback heffect =>
    have htrans := hinv.trans.quiet hback.quiet hback.acts.authdone
    have hin := hinv.inStep.acts hmarks hback.acts
    have hmarks₀ := hback.acts.marks hmarks
    have hkex₀ := hkex.quiet hback.quiet
    cases heffect with
    | background hback' =>
      exact ⟨htrans.quiet hback'.quiet hback'.acts.authdone, hin.acts hmarks₀ hback'.acts⟩
    | handled hbyte hd heffect =>
      refine ⟨htrans.handled hkex₀ hd heffect, hin.handled hmarks₀ hkex₀ ?_ hd heffect⟩
      rintro rfl hnot
      rw [hback.acts.authdone] at hnot
      refine hback.acts.dataallowed.trans (hallowed ?_ hnot)
      rw [payloadType, hbyte]
      rfl
  | rekeyed hnot hsent hback =>
    have hkexinit := send_msg_kexinit_ok hsent
    obtain ⟨new, hlog, hnew⟩ := hkexinit.log
    have htrans := hinv.trans.of_log hlog hnew.noSwitch (by rw [hkexinit.kexstate])
      (by rw [hkexinit.authstate])
    have hmarks₁ := hmarks.congr hkexinit.keys (by rw [hkexinit.authstate])
    exact ⟨htrans.quiet hback.quiet hback.acts.authdone,
      (hinv.inStep.kexinitSent hmarks hsent).acts hmarks₁ hback.acts⟩
  | flush hflush =>
    obtain ⟨hquiet, hauth⟩ := maybe_flush_reply_queue_quiet hflush
    exact ⟨hinv.trans.quiet hquiet (by rw [hauth]), hinv.inStep.flushed hmarks hflush⟩
  | write => exact ⟨hinv.trans.quiet (quiet_of_view rfl) rfl, hinv.inStep⟩

theorem TransInv.fresh {banner : Option Bytes} : TransInv (freshSession env banner) := by
  refine ⟨?_, ?_, ?_⟩
  · rintro ⟨old, k, -, hmem⟩
    cases List.mem_singleton.mp hmem
  · intro hset
    cases hset
  · intro hset
    have hfresh : (svr_authinitialise env).authdone = false := svr_authinitialise_fresh.1
    cases hfresh.symm.trans hset

theorem DelayInv.init {banner : Option Bytes} (h : svr_session cfg env banner = .ok s) :
    DelayInv s := by
  rw [svr_session_eq] at h
  have hnot : (freshSession env banner).authstate.authdone = false := svr_authinitialise_fresh.1
  have hmarks : Marks (freshSession env banner) := by
    unfold Marks is_compress_trans
    rw [hnot]
    rfl
  have hfresh : InStep (freshSession env banner) :=
    ⟨atEach_nil, hnot.symm, List.forall_mem_nil _⟩
  have hkexinit := send_msg_kexinit_ok h
  obtain ⟨new, hlog, hnew⟩ := hkexinit.log
  exact ⟨TransInv.fresh.of_log hlog hnew.noSwitch (by rw [hkexinit.kexstate])
    (by rw [hkexinit.authstate]), hfresh.kexinitSent hmarks h⟩

/-! ## Runs -/

def LoopAllowed (l : Loop) : Option Event → Prop
  | some e => RequestAllowed l.ses e
  | none => True

instance (l : Loop) : (e : Option Event) → Decidable (LoopAllowed l e)
  | some e => inferInstanceAs (Decidable (RequestAllowed l.ses e))
  | none => inferInstanceAs (Decidable True)

/-- **Delayed compression**: if it was negotiated for our direction and no authentication request is
handled while our `KEXINIT` is outstanding, then in every state that the loop reaches exactly the
packets behind a message of success were compressed. -/
theorem compression_in_step (cfg : Config) (env : Env) (banner : Option Bytes) {s₀ : Session}
    {l : Loop} {es : List (Option Event)} (h0 : svr_session cfg env banner = .ok s₀)
    (hrun : Run (guarded (LoopStep cfg) LoopAllowed) ⟨.connects, s₀⟩ es l)
    (hsubmits : ∀ e, some e ∈ es → e.Submits Ordinary) (hdelay : DelayNegotiated l.ses.log)
    {before after : List Packet} {p : Packet} (hsent : l.ses.out.sent = before ++ p :: after) :
    p.compressed = true ↔ ∃ q ∈ before, packetType q.payload = SSH_MSG_USERAUTH_SUCCESS := by
  have hguard := hrun.guard_events (P := fun e => ∀ e', e = some e' → e'.Submits Ordinary)
    fun e he e' heq => hsubmits e' (heq ▸ he)
  have hstep : ∀ ⦃l e l'⦄, KexInv l.ses ∧ (DelayNegotiated l.ses.log → DelayInv l.ses) →
      guarded (guarded (LoopStep cfg) LoopAllowed)
        (fun _ e => ∀ e', e = some e' → e'.Submits Ordinary) l e l' →
      KexInv l'.ses ∧ (DelayNegotiated l'.ses.log → DelayInv l'.ses) := by
    rintro l e l' ⟨hkex, hinv⟩ ⟨hsub, hallowed, h⟩
    cases h with
    | idle => exact ⟨hkex, hinv⟩
    | call _ hses =>
      obtain ⟨hkex', hlater⟩ := hkex.step hses
      refine ⟨hkex', fun hdelay => ?_⟩
      have hbefore := hdelay.mono hlater.log.subset
      exact (hinv hbefore).step hkex hbefore (hsub _ rfl) hallowed hses
  obtain ⟨-, hend⟩ := hguard.invariant hstep ⟨KexInv.init h0, fun _ => DelayInv.init h0⟩
  exact (hend hdelay).inStep.compressed_iff hsent

/-! ## A concrete client -/

/-- A number in base `2 ^ 256`. -/
def ofChunks (chunks : List Nat) : Nat := chunks.foldl (fun n chunk => n * 2 ^ 256 + chunk) 0

/-- One key exchange with the host key: the client's cookie, the random bytes of the server, and what
follows from them. -/
structure Exchange where
  cookie : Bytes
  random : Bytes
  clientQ : Bytes
  serverQ : Bytes
  sharedK : Nat
  hash : Bytes
  signature : Bytes
  recvSecret : Bytes
  transSecret : Bytes

def delayedLists : Bytes :=
  putstring (ascii "curve25519-sha256") ++ putstring (ascii "ssh-rsa") ++
    putstring (ascii "aes128-ctr") ++ putstring (ascii "aes128-ctr") ++
    putstring (ascii "hmac-sha1") ++ putstring (ascii "hmac-sha1") ++
    putstring (ascii "zlib@openssh.com,none") ++ putstring (ascii "zlib@openssh.com,none") ++
    putstring [] ++ putstring [] ++ [0] ++ be32 0

def Exchange.kexinit (x : Exchange) : Bytes := SSH_MSG_KEXINIT :: (x.cookie ++ delayedLists)

def Exchange.kexdhInit (x : Exchange) : Bytes := SSH_MSG_KEXDH_INIT :: putstring x.clientQ

/-- What is hashed. -/
def Exchange.bytes (x : Exchange) : Bytes :=
  putstring (ascii "SSH-2.0-client") ++ putstring (ascii "SSH-2.0-dropbear_2019.78") ++
    putstring x.kexinit ++ putstring (SSH_MSG_KEXINIT :: (x.random.take 16 ++ delayedLists)) ++
    hostKeyBlob ++ putstring x.clientQ ++ putstring x.serverQ ++ putmpint x.sharedK

def Exchange.sign (x : Exchange) : Bytes :=
  putstring (putstring (ascii "ssh-rsa") ++ putstring x.signature)

def Exchange.reply (x : Exchange) : Bytes :=
  SSH_MSG_KEXDH_REPLY :: (hostKeyBlob ++ putstring x.serverQ ++ x.sign)

def firstExchange : Exchange where
  cookie := List.replicate 16 0
  random := serverRandom
  clientQ := mp_to_unsigned_bin
    0x48a304d343da66e557efd07ea7345458aee145fae4a6873c2d8b5c8c47289206
  serverQ := mp_to_unsigned_bin
    0x7a37cbc142093c8b755dc1b10e86cb426374ad16aa853ed0bdfc0b2b86d1c7c
  sharedK := 0xdb9beeb71762ebb90aa024dd94dd9f97038ae492b0d9bc7e4d32fe51f00fb36a
  hash := mp_to_unsigned_bin
    0x8791e8822a5d20dfb0de3372fd1669220aba3bb698042422455b7f092c79a769
  signature := mp_to_unsigned_bin (ofChunks [
    0x2cfdc38c4d26012c2be8133c74061975b997eb27ae96c6d2183fe7b5af66e1a7,
    0xadc0778a5358279ebea9ba70920c5706c08eb65d5e8484f4e873861b968cd027,
    0x5ed7104837ad244f76b072e5424ea7f94d31bf9115812c1abb6374a6f14ed41,
    0xf11243e7b258cce6249f1bcee4a3ba1f9500cc2c6cf4ffa01db35c5ae02a4617])
  recvSecret := mp_to_unsigned_bin (ofChunks [
    0x560f612c7d099fce5a9cf764a12b7d1715b40ce,
    0xe7269e0a7a3d0ae513bcefa059652e3bdac76eedd0b3dec78f4d8e0cac9781d1])
  transSecret := mp_to_unsigned_bin (ofChunks [
    0xd4589d4b47870a79da8d6eb611eb261edb458596,
    0x3c1fdbcab47a8b2124d6c5c05c7c27ac69623ec3d6dfb42cd48dfc95865522dc])

/-- Its session id is the hash of the first one. -/
def secondExchange : Exchange where
  cookie := List.replicate 16 1
  random := (List.range 32).map fun i => UInt8.ofNat (i + 33)
  clientQ := mp_to_unsigned_bin
    0x3d003b5afa06880e71c3c43198eaad383201339e90bd87aa0967270bbefa2023
  serverQ := mp_to_unsigned_bin
    0x5869aff450549732cbaaed5e5df9b30a6da31cb0e5742bad5ad4a1a768f1a67b
  sharedK := 0x5ec56699a18a5965f1c9c01fb247feb6ad2b1da0f7f9c81c9513da71619ad119
  hash := mp_to_unsigned_bin
    0x5b32d4286ccd37521e84af4c5a2c3d57f84f0e75a62253cb294f7d67cd6511d3
  signature := mp_to_unsigned_bin (ofChunks [
    0x6fe6a3d2548c235f0c6c6da99a337d86744c983bf5e51fa2bde4e43edd8f6b9b,
    0xb042aee05b3c605dc734b468e910410686cde2eedf89927e482740a49975da2,
    0x658590adaae8973f3d942caac425852aee7dd61109726218b64ba0fad01e9877,
    0x12da8febe22c0af0fafc76603d345dc1cea3c0dc4561a5aaa169969e084250a5])
  recvSecret := mp_to_unsigned_bin (ofChunks [
    0x69a8f150a1369c766c770113ace645984026b13c,
    0x3a70e475da43d15512c59c75d23dc0e92c329b8ff51cf4898356e646a112e7a0])
  transSecret := mp_to_unsigned_bin (ofChunks [
    0xaf3e74c74e62185d7ced41be8ab9d009f1d99839,
    0x354b4673d71f513de2cda01bdb3f4269c09774901ba8e22af095bac6c3b697fe])

/-- The packets that are compressed below: the reply and `NEWKEYS` of the second exchange, and then
the message of success. -/
def deflated : List (Bytes × Bytes) :=
  [(secondExchange.reply, mp_to_unsigned_bin (ofChunks [
    0x789c92676060980ec4ecc5c519ba45c589402633230323906a,
    0x64d87f26f9eb8cbc007751bbc92e317384dc5de2a734cd36d33ce96c7bb6c8e4,
    0x7fd02c59977d5c3ecb548e876fe38cd9c6faf39742eb8fca02db76c7bf1b6c74,
    0xffae3d5aec16f5262e73f9a566d73a59adb53f9f59741f16e6a863cc4dd925ec,
    0x93f3fef39aabde1fca937d766c6651397563638452f1a2b29868e9fbe78ba2d4,
    0x7d5f174f693c220e74844244e6fa2f0121d38d4eaf7a1b17fb733357ee62990d,
    0x4f4bb4d7465d59b83ce3e3b26aa09a7e54e737e43f5b7c29a447399e272777e5,
    0x2ce3dab6129f19d65f9fca2fdafbe489ddddfeecd9dc2c5aef58371f63bd53ec,
    0xedd63791452023e79ededb1f33d59f349570794e8f5d94da3a61edaa17d3ed6d,
    0xa7e8ac3aa2daaaf5aef69a20675192c436ef05bf2ec8cd2817bad5fffa910ed7,
    0x875f7fca126c4d620f9e5b7ce08e6be2d2550b33a7cde3700a580a000000ffff])),
   ([SSH_MSG_NEWKEYS], mp_to_unsigned_bin 0x1205000000ffff),
   ([SSH_MSG_USERAUTH_SUCCESS], mp_to_unsigned_bin 0x789c3201000000ffff)]

/-- The arithmetic, as far as the two exchanges need it. -/
def delayedCrypto : KexCrypto where
  comb_key _ theirs random :=
    match [firstExchange, secondExchange].find? fun x =>
      decide (theirs = .ecdh x.clientQ ∧ random = x.random) with
    | some x => pure (.ecdh x.serverQ, x.sharedK)
    | none => dropbear_exit "Bad curve25519"
  hash _ bytes :=
    match [firstExchange, secondExchange].find? fun x => decide (bytes = x.bytes) with
    | some x => x.hash
    | none => []
  put_pub_key _ := pure hostKeyBlob
  put_sign _ hash :=
    match [firstExchange, secondExchange].find? fun x => decide (hash = x.hash) with
    | some x => x.sign
    | none => []
  hashkeys _ dh_K hash session_id recv _ :=
    match [firstExchange, secondExchange].find? fun x =>
      decide (dh_K = x.sharedK ∧ hash = x.hash ∧ session_id = firstExchange.hash) with
    | some x => pure (if recv then x.recvSecret else x.transSecret)
    | none => dropbear_exit "Crypto error"
  deflate _ payload := (deflated.lookup payload).getD payload

def delayedConfig : Config :=
  { plainConfig noCrypto delayedCrypto with
    compress_algos :=
      [⟨ascii "zlib@openssh.com", true, .ZLIB_DELAY⟩, ⟨ascii "none", true, .NONE⟩] }

def startEnv : Env := { now := 1000, authfile := none, random := firstExchange.random }

def laterEnv : Env := { now := 1200, authfile := none, random := secondExchange.random }

def delayedInputs : List (Option Event) :=
  clientInputs startEnv firstExchange.kexinit firstExchange.kexdhInit (by decide +kernel)
    (by decide +kernel)

/-- The client's authentication request with the password. -/
def passwordInput (env : Env) : Event :=
  received env keyedDirection (SSH_MSG_USERAUTH_REQUEST :: passwordPayload (ascii "user"))
    (by decide)

/-- Whether delayed compression was negotiated. -/
def delayedEntry : LogEntry → Bool
  | .switchedTrans _ new => new.algo_comp == .ZLIB_DELAY
  | _ => true

theorem delayNegotiated_of_all {log : List LogEntry} (h : log.all delayedEntry = true) :
    DelayNegotiated log := fun _ _ hmem => beq_iff_eq.mp (List.all_eq_true.mp h _ hmem)

/-- The client authenticates between two exchanges. -/
theorem compression_in_step_password : ∃ s₀ l,
    svr_session delayedConfig startEnv none = .ok s₀ ∧
    Run (guarded (LoopStep delayedConfig) LoopAllowed) ⟨.connects, s₀⟩
      ((delayedInputs ++ [some (passwordInput startEnv)]).flatMap (iteration startEnv)) l ∧
    l.ses.out.sent.map (packetType ·.payload) = [SSH_MSG_KEXINIT, SSH_MSG_KEXDH_REPLY,
      SSH_MSG_NEWKEYS, SSH_MSG_SERVICE_ACCEPT, SSH_MSG_USERAUTH_SUCCESS] ∧
    ∀ before p after, l.ses.out.sent = before ++ p :: after →
      (p.compressed = true ↔ ∃ q ∈ before, packetType q.payload = SSH_MSG_USERAUTH_SUCCESS) := by
  have hcompute : ((svr_session delayedConfig startEnv none).toOption.bind fun s₀ =>
      exec (fun l e => if LoopAllowed l e then loopFun delayedConfig l e else none) ⟨.connects, s₀⟩
        ((delayedInputs ++ [some (passwordInput startEnv)]).flatMap (iteration startEnv))).any
      (fun l => l.ses.log.all delayedEntry && l.ses.out.sent.map (packetType ·.payload) ==
        [SSH_MSG_KEXINIT, SSH_MSG_KEXDH_REPLY, SSH_MSG_NEWKEYS, SSH_MSG_SERVICE_ACCEPT,
          SSH_MSG_USERAUTH_SUCCESS]) = true := by
    decide +kernel
  obtain ⟨l, hl, htest⟩ := (Option.any_eq_true _ _).mp hcompute
  obtain ⟨s₀, h0, hexec⟩ := Option.bind_eq_some_iff.mp hl
  rw [Bool.and_eq_true, beq_iff_eq] at htest
  have hstep : ∀ ⦃l e l'⦄, guarded (ofFun (loopFun delayedConfig)) LoopAllowed l e l' →
      guarded (LoopStep delayedConfig) LoopAllowed l e l' := fun _ _ _ h => ⟨h.1, loopFun_step h.2⟩
  have hrun := (run_guarded_of_exec hexec).mono hstep
  refine ⟨s₀, l, toOption_eq_some h0, hrun, htest.2, fun before p after hsent => ?_⟩
  refine compression_in_step _ _ _ (toOption_eq_some h0) hrun (iterations_submits ?_)
    (delayNegotiated_of_all htest.1) hsent
  intro e he
  rcases List.mem_append.mp he with he | he
  · exact clientInputs_submits e he
  · cases List.mem_singleton.mp he
    exact received_submits

/-! ## A request while our `KEXINIT` is outstanding -/

/-- An ignored packet with the largest payload. -/
def ignoreBytes : Bytes := SSH_MSG_IGNORE :: putstring (List.replicate 32763 0)

theorem length_ignoreBytes : ignoreBytes.length = 32768 := by
  simp only [ignoreBytes, putstring, List.length_cons, List.length_append, List.length_replicate,
    Framing.length_be32]

def ignoreInput : Event :=
  received laterEnv keyedDirection ignoreBytes (by rw [length_ignoreBytes]; decide)

/-- After `n` such packets. -/
def flooded (s : Session) (n : Nat) : Session :=
  { s with
    lastpacket := SSH_MSG_IGNORE
    last_packet_time_keepalive_recv := laterEnv.now
    payload_beginning := 0
    recvseq := (s.recvseq + n) % 2 ^ 32
    datarecv := (s.datarecv + n * 32804) % 2 ^ 32 }

/-- Nothing but such packets happens, and they are not yet enough for new keys. -/
structure Floodable (s : Session) : Prop where
  remoteident : s.remoteident ≠ none
  connect_time : s.connect_time = startEnv.now
  lastkextime : s.kexstate.lastkextime = startEnv.now
  dataallowed : s.dataallowed = true
  writequeue : s.out.writequeue = []
  reply_queue : s.out.reply_queue = []
  data : s.datarecv + s.out.datatrans < KEX_REKEY_DATA

theorem checktimeouts_floodable (h : Floodable s) :
    checktimeouts delayedConfig laterEnv s none = .ok s := by
  have hdata := h.data
  unfold checktimeouts
  rw [if_neg, if_neg h.remoteident]
  · have hnotdue : ¬ (!s.kexstate.sentkexinit && (decide (laterEnv.now - s.kexstate.lastkextime ≥
        KEX_REKEY_TIMEOUT) || decide ((s.datarecv + s.out.datatrans) % 2 ^ 32 ≥ KEX_REKEY_DATA)))
        = true := by
      rw [h.lastkextime]
      unfold KEX_REKEY_DATA at hdata ⊢
      simp only [Bool.and_eq_true, Bool.or_eq_true, decide_eq_true_eq, not_and, not_or]
      intro _
      exact ⟨by decide, by omega⟩
    have hrekey : checkRekey delayedConfig laterEnv s = .ok s := if_neg hnotdue
    have hkeepalive : checkKeepalive delayedConfig laterEnv s none = .ok s :=
      if_neg fun hset => absurd hset.1 (by decide)
    rw [hrekey, ok_bind, hkeepalive, ok_bind]
    exact if_neg fun hset => absurd hset.1 (by decide)
  · rw [h.connect_time]
    decide

theorem maybe_flush_reply_queue_empty (hopen : s.dataallowed = true)
    (hempty : s.out.reply_queue = []) : maybe_flush_reply_queue cfg env s = .ok s := by
  have hout : ({ s.out with reply_queue := [] } : Out) = s.out := by rw [← hempty]
  have hsame : { s with out := { s.out with reply_queue := [] } } = s := by rw [hout]
  unfold maybe_flush_reply_queue
  rw [hopen, hempty]
  exact congrArg Except.ok hsame

theorem buf_getbyte_payloadOf (type : UInt8) (rest : Bytes)
    (h : (type :: rest).length ≤ BUF_MAX_SIZE) :
    ∃ b, buf_getbyte (payloadOf (type :: rest) h) = .ok (type, b) := by
  have hpos : ¬ (payloadOf (type :: rest) h).pos ≥ (payloadOf (type :: rest) h).len := by
    show ¬ 0 ≥ (type :: rest).length
    simp
  exact ⟨_, dif_neg hpos⟩

theorem process_packet_ignore {replies : Except Exit (List Bytes)}
    (h : buf_getbyte payload = .ok (SSH_MSG_IGNORE, b)) :
    process_packet cfg env s payload replies = .ok { s with
      lastpacket := SSH_MSG_IGNORE, last_packet_time_keepalive_recv := env.now } := by
  unfold process_packet
  rw [h, ok_bind]
  rfl

theorem ignore_floodable (h : Floodable s) :
    SessionStep delayedConfig s ignoreInput (flooded s 1) := by
  obtain ⟨b, hbyte⟩ := buf_getbyte_payloadOf SSH_MSG_IGNORE (putstring (List.replicate 32763 0))
    (by rw [← ignoreBytes, length_ignoreBytes]; decide)
  refine ⟨h.remoteident, (process_packet_ignore hbyte).trans ?_⟩
  rw [length_ignoreBytes]
  rfl

theorem flood_iteration (h : Floodable s) : Run (LoopStep delayedConfig) ⟨.connects, s⟩
    (iteration laterEnv (some ignoreInput)) ⟨.connects, flooded s 1⟩ := by
  have hflush : maybe_flush_reply_queue delayedConfig laterEnv (flooded s 1) = .ok (flooded s 1) :=
    maybe_flush_reply_queue_empty h.dataallowed h.reply_queue
  have hwrite : SessionStep delayedConfig (flooded s 1) (.write 2) (flooded s 1) := by
    show flooded s 1 = { flooded s 1 with out := { s.out with
      writequeue := s.out.writequeue.drop 2 } }
    have hout : ({ s.out with writequeue := s.out.writequeue.drop 2 } : Out) = s.out := by
      rw [h.writequeue, List.drop_nil, ← h.writequeue]
    rw [hout]
    rfl
  refine .cons (.call rfl rfl) (.cons (.call rfl (checktimeouts_floodable h)) (.cons
    (.call rfl (ignore_floodable h)) (.cons (.call rfl hflush) (.cons
      (.call rfl rfl) (.cons (.call rfl hwrite) (.nil _))))))

theorem flooded_one (n : Nat) : flooded (flooded s n) 1 = flooded s (n + 1) := by
  have hseq : ((s.recvseq + n) % 2 ^ 32 + 1) % 2 ^ 32 = (s.recvseq + (n + 1)) % 2 ^ 32 := by omega
  have hdata : ((s.datarecv + n * 32804) % 2 ^ 32 + 1 * 32804) % 2 ^ 32 =
      (s.datarecv + (n + 1) * 32804) % 2 ^ 32 := by omega
  simp only [flooded, hseq, hdata]

theorem Floodable.flooded {n : Nat} (h : Floodable s)
    (hn : s.datarecv + n * 32804 + s.out.datatrans < KEX_REKEY_DATA) : Floodable (flooded s n) := by
  refine ⟨h.remoteident, h.connect_time, h.lastkextime, h.dataallowed, h.writequeue, h.reply_queue, ?_⟩
  have hle : (s.datarecv + n * 32804) % 2 ^ 32 ≤ s.datarecv + n * 32804 := Nat.mod_le _ _
  exact Nat.lt_of_le_of_lt (Nat.add_le_add_right hle _) hn

/-- The flood, one iteration of the loop at a time. -/
theorem flood_run {n : Nat} (h : Floodable s)
    (hn : s.datarecv + n * 32804 + s.out.datatrans < KEX_REKEY_DATA) :
    Run (LoopStep delayedConfig) ⟨.connects, s⟩
      ((List.replicate (n + 1) (some ignoreInput)).flatMap (iteration laterEnv))
      ⟨.connects, flooded s (n + 1)⟩ := by
  induction n with
  | zero =>
    rw [List.replicate_one, List.flatMap_singleton]
    exact flood_iteration h
  | succ n ih =>
    have hless : s.datarecv + n * 32804 + s.out.datatrans < KEX_REKEY_DATA :=
      Nat.lt_of_le_of_lt (by omega) hn
    have hprev := ih hless
    have hlast := flood_iteration (h.flooded hn)
    rw [flooded_one] at hlast
    rw [List.replicate_succ', List.flatMap_append, List.flatMap_singleton]
    exact hprev.append hlast

/-- Our `KEXINIT` is due; the client has sent its authentication request, and exchanges keys. -/
def rekeyInputs : List (Option Event) :=
  [some (passwordInput laterEnv),
   some (received laterEnv keyedDirection secondExchange.kexinit (by decide +kernel)),
   some (received laterEnv keyedDirection secondExchange.kexdhInit (by decide +kernel))]

theorem rekeyInputs_submits {P : Bytes → Prop} : ∀ e, some e ∈ rekeyInputs → e.Submits P := by
  intro e he
  simp only [rekeyInputs, List.mem_cons, List.not_mem_nil, or_false, Option.some.injEq] at he
  rcases he with rfl | rfl | rfl
  all_goals exact received_submits

/-- What makes a session ready for the flood. -/
def floodableTest (s : Session) : Bool :=
  s.remoteident != none && s.connect_time == startEnv.now &&
    s.kexstate.lastkextime == startEnv.now && s.dataallowed && s.out.writequeue == [] &&
    s.out.reply_queue == [] && s.datarecv == 52 && s.out.datatrans == 52

/-- So much is not yet enough for new keys, and one more packet is. -/
theorem flood_of_test (h : floodableTest s = true) : Run (LoopStep delayedConfig) ⟨.connects, s⟩
    ((List.replicate 32733 (some ignoreInput)).flatMap (iteration laterEnv))
    ⟨.connects, flooded s 32733⟩ := by
  simp only [floodableTest, Bool.and_eq_true, beq_iff_eq, bne_iff_ne] at h
  obtain ⟨⟨⟨⟨⟨⟨⟨hident, hconnect⟩, hkex⟩, hopen⟩, hwrite⟩, hreply⟩, hrecv⟩, htrans⟩ := h
  have hready : Floodable s := by
    refine ⟨hident, hconnect, hkex, hopen, hwrite, hreply, ?_⟩
    rw [hrecv, htrans]
    decide
  refine flood_run hready ?_
  rw [hrecv, htrans]
  decide

/-- The eighth packet is the first message of success, and it is compressed. -/
def successCompressed (sent : List Packet) : Bool :=
  (sent.take 7).all (packetType ·.payload != SSH_MSG_USERAUTH_SUCCESS) &&
    (sent.drop 7).head?.any fun p =>
      packetType p.payload == SSH_MSG_USERAUTH_SUCCESS && p.compressed

theorem successCompressed_spec {sent : List Packet} (h : successCompressed sent = true) :
    ∃ before p after, sent = before ++ p :: after ∧
      packetType p.payload = SSH_MSG_USERAUTH_SUCCESS ∧ p.compressed = true ∧
      ∀ q ∈ before, packetType q.payload ≠ SSH_MSG_USERAUTH_SUCCESS := by
  rw [successCompressed, Bool.and_eq_true, List.all_eq_true] at h
  obtain ⟨hbefore, hsuccess⟩ := h
  obtain ⟨p, hhead, hp⟩ := (Option.any_eq_true _ _).mp hsuccess
  obtain ⟨after, hdrop⟩ := List.head?_eq_some_iff.mp hhead
  rw [Bool.and_eq_true, beq_iff_eq] at hp
  refine ⟨sent.take 7, p, after, ?_, hp.1, hp.2, fun q hq => bne_iff_ne.mp (hbefore q hq)⟩
  rw [← hdrop, List.take_append_drop]

/-- **The message of success is compressed**: the client sends so much ignored data before it
authenticates that our `KEXINIT` is due, and the authentication request is processed while it is
outstanding. -/
theorem success_compressed : ∃ s₀ l es, svr_session delayedConfig startEnv none = .ok s₀ ∧
    Run (LoopStep delayedConfig) ⟨.connects, s₀⟩ es l ∧
    (∀ e, some e ∈ es → e.Submits Ordinary) ∧ DelayNegotiated l.ses.log ∧
    ∃ before p after, l.ses.out.sent = before ++ p :: after ∧
      packetType p.payload = SSH_MSG_USERAUTH_SUCCESS ∧ p.compressed = true ∧
      ∀ q ∈ before, packetType q.payload ≠ SSH_MSG_USERAUTH_SUCCESS := by
  have hcompute : ((svr_session delayedConfig startEnv none).toOption.bind fun s₀ =>
      exec (loopFun delayedConfig) ⟨.connects, s₀⟩
        (delayedInputs.flatMap (iteration startEnv))).any (fun l =>
      l.phase == .connects && floodableTest l.ses && (exec (loopFun delayedConfig)
        ⟨.connects, flooded l.ses 32733⟩ (rekeyInputs.flatMap (iteration laterEnv))).any fun l =>
          l.ses.log.all delayedEntry && successCompressed l.ses.out.sent) = true := by
    decide +kernel
  obtain ⟨s₀, ⟨phase, s₁⟩, h0, hbegin, htest⟩ := session_run _ hcompute
  simp only [Bool.and_eq_true, beq_iff_eq] at htest
  obtain ⟨⟨rfl, hflood⟩, hrest⟩ := htest
  obtain ⟨l, hexec, hend⟩ := (Option.any_eq_true _ _).mp hrest
  rw [Bool.and_eq_true] at hend
  obtain ⟨hdelay, hsuccess⟩ := hend
  have hrekey : Run (LoopStep delayedConfig) _ _ l :=
    (run_of_exec hexec).mono fun _ _ _ hstep => loopFun_step hstep
  refine ⟨s₀, l, _, h0, hbegin.append ((flood_of_test hflood).append hrekey), ?_,
    delayNegotiated_of_all hdelay, successCompressed_spec hsuccess⟩
  intro e he
  rcases List.mem_append.mp he with he | he
  · exact iterations_submits clientInputs_submits e he
  rcases List.mem_append.mp he with he | he
  · refine iterations_submits (fun e he => ?_) e he
    cases List.eq_of_mem_replicate he
    exact received_submits
  · exact iterations_submits rekeyInputs_submits e he

end SimpleSshd.Dropbear
