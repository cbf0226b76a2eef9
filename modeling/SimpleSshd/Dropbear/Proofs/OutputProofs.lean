import SimpleSshd.Dropbear.ExecRun
import SimpleSshd.Dropbear.Proofs.HalfCloseProofs
import SimpleSshd.Dropbear.Proofs.TransmitProofs

/-!
# Proofs: no output of a command is lost

A descriptor of a command on pipes is closed only when a call of `read` has found the end, or has got
less than it could while the channel is flushed. In both cases everything the command wrote was read:
its pipe has hung up, or it had exited before. So when the server ends its output, all of it was sent.
-/

namespace SimpleSshd.Dropbear

open Pipes Runs

variable {opts : Opts} {c c' : Channel} {w w' : World} {kind : ActKind} {p : Started} {call : ReadCall}
  {isextended : Bool}

/-! ## What is sent on a stream -/

/-- The bytes of a message, if it is one of the stream. -/
def ChannelMsg.output (isextended : Bool) : ChannelMsg → Bytes
  | .CHANNEL_DATA _ data => if isextended then [] else data
  | .CHANNEL_EXTENDED_DATA _ data => if isextended then data else []
  | _ => []

def outputOf (isextended : Bool) (msgs : List ChannelMsg) : Bytes :=
  msgs.flatMap (ChannelMsg.output isextended)

theorem outputOf_append (isextended : Bool) (msgs msgs' : List ChannelMsg) :
    outputOf isextended (msgs ++ msgs') = outputOf isextended msgs ++ outputOf isextended msgs' :=
  List.flatMap_append

theorem ChannelMsg.output_of_data {m : ChannelMsg} (h : m.data = []) (isextended : Bool) :
    m.output isextended = [] := by
  cases m with
  | CHANNEL_DATA remotechan data =>
    rw [ChannelMsg.output, show data = [] from h, ite_self]
  | CHANNEL_EXTENDED_DATA remotechan data =>
    rw [ChannelMsg.output, show data = [] from h, ite_self]
  | _ => rfl

theorem ChannelMsg.output_of_role {m : ChannelMsg} (h : m.role ≠ .data) (isextended : Bool) :
    m.output isextended = [] := by
  cases m with
  | CHANNEL_DATA remotechan data => exact absurd rfl h
  | CHANNEL_EXTENDED_DATA remotechan data => exact absurd rfl h
  | _ => rfl

theorem outputOf_eq_nil {msgs : List ChannelMsg} (h : ∀ m ∈ msgs, m.output isextended = []) :
    outputOf isextended msgs = [] :=
  List.flatMap_eq_nil_iff.mpr h

theorem outputOf_messages (call : ReadCall) (remotechan : Nat) (isextended : Bool) :
    outputOf isextended (call.messages remotechan) =
      if isextended = call.isextended then call.data else [] := by
  unfold ReadCall.messages
  by_cases hdata : call.data = []
  · rw [if_pos hdata, hdata, ite_self]
    rfl
  · rw [if_neg hdata, dataMessage]
    cases call.isextended <;> cases isextended <;> simp [outputOf, ChannelMsg.output]

/-! ## The pipes -/

@[simp] theorem World.pipe_setPipe (w : World) (isextended : Bool) (q : Pipe UInt8) :
    (w.setPipe isextended q).pipe isextended = q := by
  cases isextended with
  | false => rfl
  | true => rfl

@[simp] theorem World.pipe_setPipe_ne (w : World) {isextended other : Bool} (h : other ≠ isextended)
    (q : Pipe UInt8) : (w.setPipe isextended q).pipe other = w.pipe other := by
  cases isextended <;> cases other <;> first | rfl | exact absurd rfl h

@[simp] theorem World.alive_setPipe (w : World) (isextended : Bool) (q : Pipe UInt8) :
    (w.setPipe isextended q).alive = w.alive := by
  cases isextended with
  | false => rfl
  | true => rfl

/-- The command has written all it could to the pipe, and all of it was read. -/
structure Final (w : World) (isextended : Bool) : Prop where
  drained : (w.pipe isextended).Drained
  ended : (w.pipe isextended).hungup = true ∨ w.alive = false

/-- A pipe changes: either it is another one, or its end is not undone. -/
theorem Final.setPipe {other : Bool} {q : Pipe UInt8} (h : Final w isextended)
    (hq : isextended = other → q.Drained ∧ (q.hungup = true ∨ w.alive = false)) :
    Final (w.setPipe other q) isextended := by
  by_cases hsame : isextended = other
  · obtain ⟨hdrained, hended⟩ := hq hsame
    subst hsame
    refine ⟨?_, ?_⟩
    · rw [World.pipe_setPipe]
      exact hdrained
    · rw [World.pipe_setPipe, World.alive_setPipe]
      exact hended
  · refine ⟨?_, ?_⟩
    · rw [World.pipe_setPipe_ne w hsame]
      exact h.drained
    · rw [World.pipe_setPipe_ne w hsame, World.alive_setPipe]
      exact h.ended

theorem World.delivered_setPipe {other : Bool} {q : Pipe UInt8}
    (hq : q.delivered = (w.pipe other).delivered) (isextended : Bool) :
    ((w.setPipe other q).pipe isextended).delivered = (w.pipe isextended).delivered := by
  by_cases hsame : isextended = other
  · subst hsame
    rw [World.pipe_setPipe]
    exact hq
  · rw [World.pipe_setPipe_ne w hsame]

/-- **The end of a stream is final.** -/
theorem Final.step {e : WorldEvent} (h : Final w isextended) (hstep : w.step e = some w') :
    Final w' isextended := by
  cases e with
  | writes other data command =>
    simp only [World.step, Option.ite_none_right_eq_some, Option.some.injEq] at hstep
    obtain ⟨⟨hopen, hcommand⟩, rfl⟩ := hstep
    refine h.setPipe ?_
    rintro rfl
    -- the command has exited, so another process writes
    have hdead : w.alive = false := h.ended.resolve_left (by rw [hopen]; exact Bool.false_ne_true)
    have hother : command = false := by
      by_contra hcmd
      rw [hcommand (Bool.eq_true_of_not_eq_false hcmd)] at hdead
      cases hdead
    subst hother
    exact ⟨h.drained.write data, .inr hdead⟩
  | hangup other =>
    cases hstep
    refine h.setPipe ?_
    rintro rfl
    exact ⟨h.drained, .inl rfl⟩
  | exits =>
    cases hstep
    exact ⟨h.drained, .inr rfl⟩

theorem World.step_delivered {e : WorldEvent} (hstep : w.step e = some w') (isextended : Bool) :
    (w'.pipe isextended).delivered = (w.pipe isextended).delivered := by
  cases e with
  | writes other data command =>
    simp only [World.step, Option.ite_none_right_eq_some, Option.some.injEq] at hstep
    obtain ⟨-, rfl⟩ := hstep
    exact World.delivered_setPipe (Pipe.delivered_write _ _ _) isextended
  | hangup other =>
    cases hstep
    exact World.delivered_setPipe (Pipe.delivered_hangup _) isextended
  | exits =>
    cases hstep
    rfl

theorem World.step_alive {e : WorldEvent} (hstep : w.step e = some w') (h : w.alive = false) :
    w'.alive = false := by
  cases e with
  | writes other data command =>
    simp only [World.step, Option.ite_none_right_eq_some, Option.some.injEq] at hstep
    obtain ⟨-, rfl⟩ := hstep
    rw [World.alive_setPipe]
    exact h
  | hangup other =>
    cases hstep
    rw [World.alive_setPipe]
    exact h
  | exits =>
    cases hstep
    rfl

/-! ## A call of `read` -/

theorem World.consume_alive (w : World) (call : ReadCall) : (w.consume call).alive = w.alive := by
  unfold World.consume
  split
  · exact World.alive_setPipe _ _ _
  · rfl

/-- **What is read is what is delivered.** -/
theorem World.consume_delivered (h : w.CanAnswer call call.answer) (isextended : Bool) :
    ((w.consume call).pipe isextended).delivered =
      (w.pipe isextended).delivered ++ if isextended = call.isextended then call.data else [] := by
  have hnothing : call.data = [] → w.consume call = w → ((w.consume call).pipe isextended).delivered =
      (w.pipe isextended).delivered ++ if isextended = call.isextended then call.data else [] := by
    intro hdata hsame
    rw [hdata, hsame, ite_self, List.append_nil]
  cases hanswer : call.answer with
  | bytes data =>
    rw [hanswer] at h
    obtain ⟨rfl, -⟩ := h
    have hdata : call.data = (w.pipe call.isextended).available.take call.maxlen := by
      rw [ReadCall.data, hanswer]
      rfl
    rw [World.consume, hanswer]
    by_cases hsame : isextended = call.isextended
    · rw [if_pos hsame, hsame, World.pipe_setPipe, Pipe.delivered_read, hdata]
    · rw [if_neg hsame, World.pipe_setPipe_ne w hsame, List.append_nil]
  | EINTR =>
    exact hnothing (by rw [ReadCall.data, hanswer]; rfl) (by rw [World.consume, hanswer])
  | EAGAIN =>
    exact hnothing (by rw [ReadCall.data, hanswer]; rfl) (by rw [World.consume, hanswer])
  | error =>
    rw [hanswer] at h
    exact h.elim

theorem Final.consume (h : Final w isextended) (call : ReadCall) :
    Final (w.consume call) isextended := by
  unfold World.consume
  split
  · refine h.setPipe ?_
    rintro rfl
    exact ⟨h.drained.read _, h.ended⟩
  · exact h

/-- **A call after which the descriptor is closed** has got everything: there is no writer any more, or
the channel was flushed. -/
theorem World.ends_drained (h : w.CanAnswer call call.answer) (hmax : call.maxlen ≠ 0)
    (hends : call.ends = true) :
    ((w.consume call).pipe call.isextended).Drained ∧
      (((w.consume call).pipe call.isextended).hungup = true ∨ call.flushing = true) := by
  rw [ReadCall.ends, Bool.or_eq_true] at hends
  cases hanswer : call.answer with
  | bytes data =>
    rw [hanswer] at h hends
    obtain ⟨rfl, hend⟩ := h
    rw [World.consume, hanswer, World.pipe_setPipe]
    have hshort : ((w.pipe call.isextended).available.take call.maxlen).length < call.maxlen := by
      rcases hends with hfailed | hflushed
      · rw [show _ = [] from of_decide_eq_true hfailed]
        exact Nat.pos_of_ne_zero hmax
      · exact of_decide_eq_true (Bool.and_eq_true_iff.mp hflushed).2
    refine ⟨Pipe.drained_read_of_short hshort, ?_⟩
    rcases hends with hfailed | hflushed
    · -- nothing was there
      have hnone : (w.pipe call.isextended).available = [] := by
        rcases List.take_eq_nil_iff.mp (of_decide_eq_true hfailed) with hzero | hnone
        · exact absurd hzero hmax
        · exact hnone
      exact (hend.resolve_left (not_not_intro hnone)).2
    · exact .inr (Bool.and_eq_true_iff.mp (Bool.and_eq_true_iff.mp hflushed).1).1
  | EINTR =>
    rw [hanswer] at hends
    simp [ReadAnswer.failed, ReadAnswer.data] at hends
  | EAGAIN =>
    rw [hanswer] at h
    obtain ⟨hnone, hended⟩ := h
    rw [World.consume, hanswer]
    exact ⟨Pipe.drained_of_available hnone, hended⟩
  | error =>
    rw [hanswer] at h
    exact h.elim

/-! ## The descriptors of a command on pipes -/

theorem ChannelAct.reads_cases (h : ChannelAct opts kind c c') :
    c'.trace.reads = c.trace.reads ∨ ∃ isextended answer, 0 ≤ c.sourceFd isextended ∧
      c.maxlen isextended ≠ 0 ∧ c' = c.didRead (c.readCall isextended answer) := by
  cases h with
  | read isextended answer hclose hfd hmax => exact .inr ⟨isextended, answer, hfd, hmax, rfl⟩
  | _ => exact .inl rfl

/-- A session whose only process runs on pipes. -/
structure OnlyOnPipes (p : Started) (c : Channel) : Prop where
  one : c.trace.started = [p]
  pty : p.pty = false

theorem OnlyOnPipes.type (h : OnlyOnPipes p c) (hk : Known c) : c.type.check_close = true := by
  by_contra hother
  have hnone := hk.processes.other (Bool.eq_false_iff.mpr hother)
  rw [h.one] at hnone
  cases hnone

theorem OnlyOnPipes.apart (h : OnlyOnPipes p c) (hk : Known c) (hopen : 0 ≤ c.sourceFd isextended) :
    Apart c isextended := by
  have htype : c.type = .svrchansess := by
    have hcheck := h.type hk
    cases hkind : c.type with
    | svrchansess => rfl
    | svr_chan_tcpdirect =>
      rw [hkind] at hcheck
      cases hcheck
    | svr_chan_tcpremote =>
      rw [hkind] at hcheck
      cases hcheck
  refine hk.apart htype (fun q hq => ?_) hopen
  rw [h.one] at hq
  cases hq
  exact h.pty

/-- **Only reading closes an output descriptor** of a command on pipes, unless the peer has closed the
channel. -/
theorem ChannelAct.source_kept (h : ChannelAct opts kind c c') (hk : Known c)
    (hone : OnlyOnPipes p c') (hrecv : c'.recv_close = false)
    (hreads : c'.trace.reads = c.trace.reads) (isextended : Bool) :
    0 ≤ c'.sourceFd isextended ∨
      OnlyOnPipes p c ∧ (0 ≤ c.sourceFd isextended → 0 ≤ c'.sourceFd isextended) := by
  have hcheck : c.type.check_close = true := h.type_eq ▸ hone.type (h.known hk)
  -- closing the input descriptor
  have hinput : ∀ {c₁ : Channel}, OnlyOnPipes p c → c₁.writefd = c.writefd →
      (∀ b, c₁.sourceFd b = c.sourceFd b) → 0 ≤ c.sourceFd isextended →
      0 ≤ (close_chan_fd c₁ c₁.writefd .SHUT_WR).sourceFd isextended := by
    intro c₁ hold hwrite hsource hopen
    have hapart := hold.apart hk hopen
    have hapart₁ : Apart c₁ isextended :=
      ⟨by rw [hsource, hwrite]; exact hapart.write, by rw [hsource, hsource]; exact hapart.other⟩
    rw [hapart₁.close_writefd, hsource]
    exact hopen
  have hsame : c'.trace.started = c.trace.started → OnlyOnPipes p c :=
    fun hstarted => ⟨hstarted.symm.trans hone.one, hone.pty⟩
  cases h with
  | read isextended answer hclose hfd hmax => exact absurd hreads (by simp [Channel.didRead])
  | started old requested env spawn chansess hold htype hfree hspawn hchansess hterm =>
    left
    cases isextended with
    | false => exact Int.natCast_nonneg _
    | true => exact Int.natCast_nonneg _
  | startedPty old requested env spawn chansess hold htype hfree hspawn hchansess hmaster =>
    -- that process would be on a terminal
    have hlast : Started.pty _ = false :=
      (List.append_eq_singleton_iff.mp hone.one).elim
        (fun h => (List.singleton_inj.mp h.2) ▸ hone.pty) fun h => absurd h.2 (List.cons_ne_nil _ _)
    cases hlast
  | writeError hfd => exact .inr ⟨hsame rfl, hinput (hsame rfl) rfl fun _ => rfl⟩
  | writeErrorExtended hfd hmuch => exact .inr ⟨hsame rfl, hinput (hsame rfl) rfl fun _ => rfl⟩
  | closedInput hidle hwhy => exact .inr ⟨hsame rfl, hinput (hsame rfl) rfl fun _ => rfl⟩
  | sentClose hclose hallowed hread hwrite =>
    -- the descriptor was closed before
    rw [Channel.readClosed, Bool.and_eq_true, beq_iff_eq, beq_iff_eq] at hread
    refine .inr ⟨hsame rfl, fun hopen => ?_⟩
    cases isextended with
    | false =>
      rw [show c.sourceFd false = FD_CLOSED from hread.1] at hopen
      exact absurd hopen (Int.not_le.mpr FD_CLOSED_neg)
    | true =>
      rw [show c.sourceFd true = FD_CLOSED from hread.2] at hopen
      exact absurd hopen (Int.not_le.mpr FD_CLOSED_neg)
  | closedRemoved hidle hrecv' hclose hallowed hdone =>
    exact absurd (hrecv'.symm.trans hrecv) (by decide)
  | removed hidle hrecv' hclose hdone => exact absurd (hrecv'.symm.trans hrecv) (by decide)
  | refused hawait => exact absurd (hcheck.symm.trans (hk.wiring.awaiting hawait)) (by decide)
  | connected sock hpending =>
    exact absurd (hcheck.symm.trans (hk.wiring.pending hpending).check_close) (by decide)
  | connectFailed hpending =>
    exact absurd (hcheck.symm.trans (hk.wiring.pending hpending).check_close) (by decide)
  | _ => exact .inr ⟨hsame rfl, id⟩

/-! ## The invariant -/

/-- What was sent, and which descriptors are open, in terms of the pipes. -/
structure Delivered (p : Started) (c : Channel) (w : World) : Prop where
  ordered : ∀ isextended, outputOf isextended c.sent = (w.pipe isextended).delivered
  exited : c.exit.isSome = true → w.alive = false
  /-- A descriptor is open, or all of the output behind it was read. -/
  final : OnlyOnPipes p c → c.recv_close = false →
    ∀ isextended, 0 ≤ c.sourceFd isextended ∨ Final w isextended

/-- Something happens to the pipes. -/
theorem Delivered.step {e : WorldEvent} (h : Delivered p c w) (hstep : w.step e = some w') :
    Delivered p c w' where
  ordered isextended := (h.ordered isextended).trans (World.step_delivered hstep isextended).symm
  exited hexit := World.step_alive hstep (h.exited hexit)
  final hone hrecv isextended := (h.final hone hrecv isextended).imp_right fun hf => hf.step hstep

theorem ChannelAct.recv_close_mono (h : ChannelAct opts kind c c') (hrecv : c'.recv_close = false) :
    c.recv_close = false := by
  cases h with
  | recvClose => cases hrecv
  | _ => exact hrecv

/-- An act that does not read. -/
theorem ChannelAct.delivered (h : ChannelAct opts kind c c') (hk : Known c) (hd : Delivered p c w)
    (hexit : kind = .exit → w.alive = false) (hreads : c'.trace.reads = c.trace.reads) :
    Delivered p c' w where
  ordered isextended := by
    obtain ⟨msgs, hsent, hdata⟩ := h.messages hreads
    rw [hsent, outputOf_append, outputOf_eq_nil fun m hm => ChannelMsg.output_of_data (hdata m hm) _,
      List.append_nil]
    exact hd.ordered isextended
  exited hsome := by
    by_cases hkind : kind = .exit
    · exact hexit hkind
    · rw [h.exit_eq hkind] at hsome
      exact hd.exited hsome
  final hone hrecv isextended := by
    rcases h.source_kept hk hone hrecv hreads isextended with hopen | ⟨hbefore, hkept⟩
    · exact .inl hopen
    · exact (hd.final hbefore (h.recv_close_mono hrecv) isextended).imp_left hkept

/-- **A call of `read`**: what it got is sent on its stream, and its descriptor is closed only if it
has got everything. -/
theorem Delivered.read {answer : ReadAnswer} (hd : Delivered p c w) (hk : Known c)
    (hmax : c.maxlen isextended ≠ 0)
    (hcan : w.CanAnswer (c.readCall isextended answer) (c.readCall isextended answer).answer) :
    Delivered p (c.didRead (c.readCall isextended answer))
      (w.consume (c.readCall isextended answer)) := by
  obtain ⟨call, hcall⟩ : ∃ call, call = c.readCall isextended answer := ⟨_, rfl⟩
  have hstream : call.isextended = isextended := by rw [hcall]; rfl
  have hflushing : call.flushing = c.flushing := by rw [hcall]; rfl
  have hroom : call.maxlen ≠ 0 := by rw [hcall]; exact hmax
  rw [← hcall] at hcan ⊢
  refine ⟨fun b => ?_, fun hexit => ?_, fun hone hrecv b => ?_⟩
  · show outputOf b (c.sent ++ call.messages c.remotechan) = _
    rw [outputOf_append, outputOf_messages, World.consume_delivered hcan, hd.ordered b]
  · rw [World.consume_alive]
    exact hd.exited hexit
  · have hbefore : OnlyOnPipes p c := ⟨hone.one, hone.pty⟩
    have hsource : (c.didRead call).sourceFd b = (c.afterCall call).sourceFd b := by
      cases b with
      | false => rfl
      | true => rfl
    rw [hsource, Channel.afterCall]
    rcases hd.final hbefore hrecv b with hopen | hfinal
    · by_cases hends : call.ends = true
      · rw [if_pos hends, hstream]
        by_cases hsame : b = isextended
        · subst hsame
          obtain ⟨hdrained, hended⟩ := World.ends_drained hcan hroom hends
          rw [hstream] at hdrained hended
          refine .inr ⟨hdrained, hended.imp_right fun hflush => ?_⟩
          rw [World.consume_alive]
          rw [hflushing] at hflush
          exact hd.exited (Bool.and_eq_true_iff.mp (hk.wiring.flushing hflush)).2
        · left
          have hother : isextended = !b := by
            cases b <;> cases isextended <;> first | rfl | exact absurd rfl hsame
          rw [hother, (hbefore.apart hk hopen).close_other]
          exact hopen
      · rw [if_neg hends]
        exact .inl hopen
    · exact .inr (hfinal.consume call)

/-! ## A whole event -/

/-- What can happen before a call of `read`, the call, and the others. -/
theorem World.serve_cons {calls : List ReadCall} {between : List (List WorldEvent)}
    (h : w.serve (call :: calls) between = some w') :
    ∃ w₁, Run (ofFun World.step) w (between.headD []) w₁ ∧ w₁.CanAnswer call call.answer ∧
      (w₁.consume call).serve calls between.tail = some w' := by
  rw [World.serve] at h
  obtain ⟨w₁, hexec, hrest⟩ := Option.bind_eq_some_iff.mp h
  rw [Option.ite_none_right_eq_some] at hrest
  exact ⟨w₁, run_of_exec hexec, hrest.1, hrest.2⟩

theorem ChannelAct.reads_append (h : ChannelAct opts kind c c') :
    ∃ calls, c'.trace.reads = c.trace.reads ++ calls := by
  rcases h.reads_cases with hsame | ⟨isextended, answer, -, -, rfl⟩
  · exact ⟨[], by rw [hsame, List.append_nil]⟩
  · exact ⟨_, rfl⟩

theorem EventActs.reads_append {e : ChannelEvent} (h : EventActs opts e c c') :
    ∃ calls, c'.trace.reads = c.trace.reads ++ calls := by
  induction h with
  | refl => exact ⟨[], (List.append_nil _).symm⟩
  | tail _ hact ih =>
    obtain ⟨kind, -, hact⟩ := hact
    obtain ⟨calls, hcalls⟩ := ih
    obtain ⟨more, hmore⟩ := hact.reads_append
    exact ⟨calls ++ more, by rw [hmore, hcalls, List.append_assoc]⟩

theorem Channel.callsSince_eq {calls : List ReadCall}
    (h : c'.trace.reads = c.trace.reads ++ calls) : c'.callsSince c = calls := by
  rw [Channel.callsSince, h, List.drop_left]

theorem ChannelEvent.isExit_of_allows {e : ChannelEvent} (h : e.Allows .exit) : e.isExit = true := by
  cases e with
  | childExited info => rfl
  | request payload env => cases (show ActKind.exit = .request from h)
  | _ => exact absurd rfl h.2

/-- The acts of an event, with the pipes answering the calls of `read` among them. -/
theorem EventActs.delivered {e : ChannelEvent} {between : List (List WorldEvent)}
    (h : EventActs opts e c c') (hk : Known c) (hd : Delivered p c w)
    (hexit : e.isExit = true → w.alive = false)
    (hserve : w.serve (c'.callsSince c) between = some w') : Delivered p c' w' := by
  induction h using Relation.ReflTransGen.head_induction_on generalizing w between with
  | refl =>
    rw [Channel.callsSince_eq (List.append_nil _).symm] at hserve
    cases hserve
    exact hd
  | head hact hrest ih =>
    obtain ⟨kind, hallow, hact⟩ := hact
    obtain ⟨more, hmore⟩ := EventActs.reads_append hrest
    rcases hact.reads_cases with hsame | ⟨isextended, answer, hfd, hmax, rfl⟩
    · have hdead : kind = .exit → w.alive = false := by
        rintro rfl
        exact hexit (ChannelEvent.isExit_of_allows hallow)
      rw [Channel.callsSince, ← hsame] at hserve
      exact ih (hact.known hk) (hact.delivered hk hd hdead hsame) hexit hserve
    · -- the call, and what happened before it
      rw [Channel.callsSince_eq (hmore.trans (List.append_assoc _ _ _))] at hserve
      obtain ⟨w₁, hrun, hcan, hserve⟩ := World.serve_cons hserve
      rw [← Channel.callsSince_eq hmore] at hserve
      have hd₁ : Delivered p _ w₁ := hrun.invariant (fun _ _ _ hinv hstep => hinv.step hstep) hd
      have hdead : ∀ ⦃w e w'⦄, World.alive w = false → ofFun World.step w e w' → w'.alive = false :=
        fun _ _ _ hinv hstep => World.step_alive hstep hinv
      refine ih (hact.known hk) (hd₁.read hk hmax hcan) (fun he => ?_) hserve
      have halive := hrun.invariant hdead (hexit he)
      rw [World.consume_alive]
      exact halive

/-! ## Runs -/

/-- A channel that was closed has also ended its output, when a process is started. -/
def Channel.CloseNoted (c : Channel) : Prop :=
  ∀ q ∈ c.trace.started, q.afterClose = true → q.afterEof = true

theorem ChannelAct.closeNoted (h : ChannelAct opts kind c c') (hw : Wiring c) (hn : c.CloseNoted) :
    c'.CloseNoted := by
  have hstart : ∀ {chansess : ChanSess} {pid : Nat} {pty : Bool} {writefd readfd errfd : Int},
      (c.startedOn chansess pid pty writefd readfd errfd).CloseNoted := by
    intro chansess pid pty writefd readfd errfd q hq
    rcases List.mem_append.mp hq with hold | hnew
    · exact hn q hold
    · rw [List.mem_singleton.mp hnew]
      exact hw.finished
  cases h with
  | started old requested env spawn chansess hold htype hfree hspawn hchansess hterm => exact hstart
  | startedPty old requested env spawn chansess hold htype hfree hspawn hchansess hmaster =>
    exact hstart
  | _ => exact hn

structure ExecInv (opts : Opts) (p : Started) (x : Exec) : Prop where
  orderly : Orderly opts x.channel
  known : Known x.channel
  closeNoted : x.channel.CloseNoted
  delivered : Delivered p x.channel x.world

theorem Fresh.delivered (h : Fresh opts c) : Delivered p c .new where
  ordered isextended := by
    have hnone : ∀ m ∈ c.sent, m.output isextended = [] := by
      cases h with
      | connecting => exact fun m hm => absurd hm List.not_mem_nil
      | _ =>
        intro m hm
        rw [List.mem_singleton.mp hm]
        rfl
    rw [outputOf_eq_nil hnone]
    cases isextended with
    | false => rfl
    | true => rfl
  exited hexit := by
    rw [h.unstarted.2] at hexit
    cases hexit
  final hone := by
    have hstarted := h.unstarted.1.symm.trans hone.one
    cases hstarted

theorem ExecInv.step {x x' : Exec} {e : ExecEvent} (h : ExecInv opts p x)
    (hstep : execStep opts x e = some x') : ExecInv opts p x' := by
  cases e with
  | world e =>
    rw [execStep, Option.ite_none_left_eq_some] at hstep
    obtain ⟨w, hw, rfl⟩ := Option.map_eq_some_iff.mp hstep.2
    exact ⟨h.orderly, h.known, h.closeNoted, h.delivered.step hw⟩
  | channel e between =>
    rw [execStep, Option.ite_none_right_eq_some] at hstep
    obtain ⟨hexit, hstep⟩ := hstep
    obtain ⟨c, hc, hstep⟩ := Option.bind_eq_some_iff.mp hstep
    obtain ⟨w, hw, rfl⟩ := Option.map_eq_some_iff.mp hstep
    have hchannel := stepChannel_eq_some hc
    have hact : ∀ ⦃kind c c'⦄, Sound opts c → Known c ∧ c.CloseNoted → ChannelAct opts kind c c' →
        Known c' ∧ c'.CloseNoted :=
      fun _ _ _ _ hinv hact => ⟨hact.known hinv.1, hact.closeNoted hinv.1.wiring hinv.2⟩
    obtain ⟨horderly, hknown, hnoted⟩ := hchannel.invariant hact ⟨h.orderly, h.known, h.closeNoted⟩
    exact ⟨horderly, hknown, hnoted,
      (hchannel.handled h.orderly).1.delivered h.known h.delivered hexit hw⟩

/-- **What is sent is what was read**, and a descriptor is only closed at the end. -/
theorem ExecRun.inv {es : List ExecEvent} {x : Exec} (h : ExecRun opts es x) (p : Started) :
    ExecInv opts p x := by
  obtain ⟨c₀, hcreated, hrun⟩ := h
  have hfresh := hcreated.fresh
  have hnoted : c₀.CloseNoted := by
    intro q hq
    rw [hfresh.unstarted.1] at hq
    cases hq
  have hstart : ExecInv opts p { channel := c₀, world := .new } :=
    ⟨hfresh.orderly, ⟨hfresh.wiring, hfresh.processes, hfresh.closing⟩, hnoted, hfresh.delivered⟩
  have hstep : ∀ ⦃x e x'⦄, ExecInv opts p x → ofFun (execStep opts) x e x' → ExecInv opts p x' :=
    fun _ _ _ hinv hstep => hinv.step hstep
  exact hrun.invariant hstep hstart

/-! ## The end of the output -/

/-- The end of the output was sent, and nothing is sent on a stream after that. -/
theorem Known.output_ended (hk : Known c) (hfirst : c.OutputFirst) (hfinal : c.CloseFinal)
    {pre post : List ChannelMsg} {m : ChannelMsg} (hsent : c.sent = pre ++ m :: post)
    (hm : m.role = .eof ∨ m.role = .close) :
    c.sent_eof = true ∧ ∀ b, outputOf b c.sent = outputOf b pre := by
  have hroles : c.roles = pre.map ChannelMsg.role ++ m.role :: post.map ChannelMsg.role := by
    rw [Channel.roles, hsent, List.map_append, List.map_cons]
  have hmem : m.role ∈ c.roles := by
    rw [hroles]
    exact List.mem_append_right _ List.mem_cons_self
  have hlater : ∀ m' ∈ post, m'.role ≠ .data := by
    intro m' hm'
    have hmem' := List.mem_map_of_mem hm' (f := ChannelMsg.role)
    rcases hm with heof | hclose
    · have hpair := hk.closing.dataFirst hfirst
      rw [hroles, List.pairwise_append, List.pairwise_cons] at hpair
      exact hpair.2.1.1 _ hmem' heof
    · have hpair := hk.closing.closeLast hfinal
      rw [hroles, List.pairwise_append, List.pairwise_cons] at hpair
      exact absurd hclose (hpair.2.1.1 _ hmem')
  refine ⟨?_, fun b => ?_⟩
  · rcases hm with heof | hclose
    · have hcount := hk.closing.eofs
      rw [heof, ← List.one_le_count_iff] at hmem
      exact Bool.toNat_eq_one.mp (by have := c.sent_eof.toNat_le; omega)
    · have hcount := hk.closing.closes
      rw [hclose, ← List.one_le_count_iff] at hmem
      exact hk.wiring.finished (Bool.toNat_eq_one.mp (by have := c.sent_close.toNat_le; omega))
  · have hrole : m.role ≠ .data := by
      rcases hm with h | h
      · rw [h]
        decide
      · rw [h]
        decide
    rw [hsent, outputOf_append, List.append_right_eq_self]
    refine outputOf_eq_nil fun m' hm' => ChannelMsg.output_of_role ?_ b
    rcases List.mem_cons.mp hm' with rfl | hmem'
    · exact hrole
    · exact hlater m' hmem'

/-- **No output is lost**: of a session whose only process was started on pipes, before the output had
ended, what is sent on each stream is what was written to its pipe, in that order; and when the end of
the output or of the channel is sent, everything that the command ever writes was sent before. -/
theorem no_output_lost {es : List ExecEvent} {x : Exec} (h : ExecRun opts es x)
    (hone : x.channel.trace.started = [p]) (hpipes : p.pty = false)
    (hpeer : x.channel.recv_close = false) (hfirst : p.afterEof = false) :
    (∀ isextended, outputOf isextended x.channel.sent <+: (x.world.pipe isextended).written) ∧
      ∀ pre m post, x.channel.sent = pre ++ m :: post → m.role = .eof ∨ m.role = .close →
        ∀ isextended, (x.world.pipe isextended).marked <+: outputOf isextended pre := by
  have hinv := h.inv p
  have honly : OnlyOnPipes p x.channel := ⟨hone, hpipes⟩
  have hall : ∀ {P : Started → Prop}, P p → ∀ q ∈ x.channel.trace.started, P q := by
    intro P hp q hq
    rw [hone] at hq
    rw [List.mem_singleton.mp hq]
    exact hp
  have houtput : x.channel.OutputFirst := hall hfirst
  have hfinal : x.channel.CloseFinal := by
    intro q hq
    by_contra hclosed
    have heof := hinv.closeNoted q hq (Bool.eq_true_of_not_eq_false hclosed)
    exact absurd (heof.symm.trans (houtput q hq)) (by decide)
  refine ⟨fun b => ?_, fun pre m post hsent hm b => ?_⟩
  · rw [hinv.delivered.ordered b]
    exact List.take_prefix _ _
  · obtain ⟨heof, hpre⟩ := hinv.known.output_ended houtput hfinal hsent hm
    obtain ⟨hread, herr⟩ := hinv.known.closing.unread houtput heof
    -- both descriptors are closed
    have hend : Final x.world b := by
      refine (hinv.delivered.final honly hpeer b).resolve_left (Int.not_le.mpr ?_)
      cases b with
      | false => exact hread
      | true => exact herr
    rw [← hpre b, hinv.delivered.ordered b]
    exact hend.drained.marked

def execLs : ExecEvent := .channel (.request (requestOf "exec" (stringOf (ascii "ls"))) plainEnv) []

/-- What the command writes before it exits is read when the channel is flushed. -/
def lastWords : List ExecEvent :=
  [execLs,
    .world (.writes false (ascii "hi") true),
    .channel (readable (some (.bytes (ascii "hi"))) none false) [],
    .world (.writes true (ascii "no") true),
    .world .exits,
    .channel (.childExited succeeded) [],
    .channel (.io {
      read := none
      err := none
      write := none
      signal := true
      flush := { read := .EAGAIN, err := .bytes (ascii "no") } }) []]

theorem no_output_lost_lastWords : ∃ x, ExecRun tinyOpts lastWords x ∧
    x.channel.sent = [.CHANNEL_OPEN_CONFIRMATION 0 0 8 RECV_MAX_CHANNEL_DATA_LEN, .CHANNEL_SUCCESS 0,
      .CHANNEL_DATA 0 (ascii "hi"), .CHANNEL_EXTENDED_DATA 0 (ascii "no"), .CHANNEL_EOF 0,
      .exitstatus 0 0, .CHANNEL_CLOSE 0] ∧
    ∀ pre m post, x.channel.sent = pre ++ m :: post → m.role = .eof ∨ m.role = .close →
      ∀ isextended, (x.world.pipe isextended).marked <+: outputOf isextended pre := by
  have hexec : (runExec tinyOpts 100 100 lastWords).any (fun x =>
      x.channel.sent == [.CHANNEL_OPEN_CONFIRMATION 0 0 8 RECV_MAX_CHANNEL_DATA_LEN,
        .CHANNEL_SUCCESS 0, .CHANNEL_DATA 0 (ascii "hi"), .CHANNEL_EXTENDED_DATA 0 (ascii "no"),
        .CHANNEL_EOF 0, .exitstatus 0 0, .CHANNEL_CLOSE 0] &&
      x.channel.trace.started.length == 1 &&
      x.channel.trace.started.all (fun p => !p.pty && !p.afterEof) &&
      !x.channel.recv_close) = true := by
    decide +kernel
  obtain ⟨x, hx, htest⟩ := (Option.any_eq_true _ _).mp hexec
  simp only [Bool.and_eq_true, beq_iff_eq, Bool.not_eq_true'] at htest
  obtain ⟨⟨⟨hsent, hone⟩, hall⟩, hpeer⟩ := htest
  obtain ⟨p, hp⟩ := List.length_eq_one_iff.mp hone
  rw [hp] at hall
  simp only [List.all_cons, List.all_nil, Bool.and_true, Bool.and_eq_true, Bool.not_eq_true'] at hall
  have hrun := execRun_of_runExec hx
  exact ⟨x, hrun, hsent, (no_output_lost hrun hp hall.1 hpeer hall.2).2⟩

/-- The client ends its input before it asks for the command. -/
def eofBeforeOutput : List ExecEvent :=
  [.channel (.eof noFlush) [], execLs,
    .world (.writes false (ascii "hi") true),
    .channel (readable (some (.bytes (ascii "hi"))) none false) []]

/-- **Output after the end of the output**: a session without a process ends its output when the client
ends its input, and the command that is started then still writes. -/
theorem output_after_eof : ∃ x p, ExecRun tinyOpts eofBeforeOutput x ∧
    x.channel.trace.started = [p] ∧ p.pty = false ∧ x.channel.recv_close = false ∧
    ∃ pre m post, x.channel.sent = pre ++ m :: post ∧ m.role = .eof ∧
      ¬ (x.world.pipe false).marked <+: outputOf false pre := by
  have hexec : (runExec tinyOpts 100 100 eofBeforeOutput).any (fun x =>
      x.channel.sent == [.CHANNEL_OPEN_CONFIRMATION 0 0 8 RECV_MAX_CHANNEL_DATA_LEN] ++
        .CHANNEL_EOF 0 :: [.CHANNEL_SUCCESS 0, .CHANNEL_DATA 0 (ascii "hi")] &&
      x.channel.trace.started.length == 1 &&
      x.channel.trace.started.all (fun p => !p.pty) &&
      !x.channel.recv_close &&
      (x.world.pipe false).marked == ascii "hi") = true := by
    decide +kernel
  obtain ⟨x, hx, htest⟩ := (Option.any_eq_true _ _).mp hexec
  simp only [Bool.and_eq_true, beq_iff_eq, Bool.not_eq_true'] at htest
  obtain ⟨⟨⟨⟨hsent, hone⟩, hall⟩, hpeer⟩, hmarked⟩ := htest
  obtain ⟨p, hp⟩ := List.length_eq_one_iff.mp hone
  rw [hp] at hall
  simp only [List.all_cons, List.all_nil, Bool.and_true, Bool.not_eq_true'] at hall
  refine ⟨x, p, execRun_of_runExec hx, hp, hall, hpeer, _, _, _, hsent, rfl, ?_⟩
  rw [hmarked]
  decide

end SimpleSshd.Dropbear
