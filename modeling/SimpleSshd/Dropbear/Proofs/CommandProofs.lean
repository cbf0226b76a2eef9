import SimpleSshd.Dropbear.Proofs.WiringProofs

/-!
# Proofs: the processes of a session

`sessioncommand` refuses to start a command while `chansess->cmd` is set. So once a process was started
with a command it stays the only one, and the session's pid, descriptors and exit are its own. A shell
that was asked for without a command leaves `chansess->cmd` at `NULL`, and can be followed by others.
-/

namespace SimpleSshd.Dropbear

variable {opts : Opts} {c c' : Channel} {es : List ChannelEvent}

/-- The descriptors are those of the process, as far as they have not been closed. -/
structure Started.Owns (p : Started) (c : Channel) : Prop where
  writefd : SameOrClosed p.writefd c.writefd
  readfd : SameOrClosed p.readfd c.readfd
  errfd : SameOrClosed p.errfd c.errfd

/-- Three pipes, which differ. -/
structure OnPipes (writefd readfd errfd : Int) : Prop where
  write_nonneg : 0 ≤ writefd
  read_nonneg : 0 ≤ readfd
  err_nonneg : 0 ≤ errfd
  read_ne_write : readfd ≠ writefd
  read_ne_err : readfd ≠ errfd
  err_ne_write : errfd ≠ writefd

theorem Spawned.onPipes (s : Spawned) : OnPipes s.infd s.outfd s.errfd where
  write_nonneg := Int.natCast_nonneg _
  read_nonneg := Int.natCast_nonneg _
  err_nonneg := Int.natCast_nonneg _
  read_ne_write h := s.in_ne_out (Int.ofNat.inj h.symm)
  read_ne_err h := s.out_ne_err (Int.ofNat.inj h)
  err_ne_write h := s.in_ne_err (Int.ofNat.inj h.symm)

structure Processes (c : Channel) : Prop where
  /-- Other channels have no processes. -/
  other : c.type.check_close = false → c.trace.started = []
  /-- A session has its data. -/
  data : c.type.check_close = true → c.chansess ≠ none
  setups : c.type.check_close = true → c.trace.setups = c.trace.started.length
  /-- A command that was started is still there. -/
  held : ∀ cs, c.chansess = some cs → ∀ p ∈ c.trace.started, p.cmd ≠ none → cs.cmd = p.cmd
  /-- What was started before the last process had no command. -/
  shells : ∀ p ∈ c.trace.started.dropLast, p.cmd = none
  latest : ∀ cs, c.chansess = some cs → ∀ p ∈ c.trace.started.getLast?, cs.pid = p.pid
  owns : ∀ p ∈ c.trace.started.getLast?, p.Owns c
  pipes : ∀ p ∈ c.trace.started, p.pty = false → OnPipes p.writefd p.readfd p.errfd
  exits : ∀ info, c.exit = some info → info.exitpid ∈ c.trace.started.map Started.pid

theorem Fresh.unstarted (h : Fresh opts c) : c.trace.started = [] ∧ c.exit = none := by
  cases h with
  | session => exact ⟨rfl, rfl⟩
  | connecting => exact ⟨rfl, rfl⟩
  | prohibited => exact ⟨rfl, rfl⟩
  | outgoing => exact ⟨rfl, rfl⟩

theorem Fresh.processes (h : Fresh opts c) : Processes c := by
  obtain ⟨hstarted, hexit⟩ := h.unstarted
  refine ⟨fun _ => hstarted, fun hcheck => ?_, fun hcheck => ?_, ?_, ?_, ?_, ?_, ?_, ?_⟩
  · cases h with
    | session => exact Option.some_ne_none _
    | connecting => cases hcheck
    | prohibited => cases hcheck
    | outgoing => cases hcheck
  · cases h with
    | session => rfl
    | connecting => cases hcheck
    | prohibited => cases hcheck
    | outgoing => cases hcheck
  · intro cs _ p hp
    rw [hstarted] at hp
    cases hp
  · intro p hp
    rw [hstarted] at hp
    cases hp
  · intro cs _ p hp
    rw [hstarted] at hp
    cases hp
  · intro p hp
    rw [hstarted] at hp
    cases hp
  · intro p hp
    rw [hstarted] at hp
    cases hp
  · intro info hinfo
    rw [hexit] at hinfo
    cases hinfo

/-- An act that has nothing to do with processes. -/
theorem Processes.congr (h : Processes c) (htype : c'.type = c.type)
    (hstarted : c'.trace.started = c.trace.started) (hsetups : c'.trace.setups = c.trace.setups)
    (hdata : c'.chansess ≠ none ↔ c.chansess ≠ none)
    (hsess : ∀ cs', c'.chansess = some cs' → ∃ cs, c.chansess = some cs ∧ cs'.cmd = cs.cmd ∧
      cs'.pid = cs.pid)
    (hexit : ∀ info, c'.exit = some info → info.exitpid ∈ c.trace.started.map Started.pid)
    (hfds : SameOrClosed c.writefd c'.writefd ∧ SameOrClosed c.readfd c'.readfd ∧
      SameOrClosed c.errfd c'.errfd) : Processes c' := by
  refine ⟨?_, ?_, ?_, ?_, ?_, ?_, ?_, ?_, ?_⟩
  · rw [htype, hstarted]
    exact h.other
  · rw [htype, hdata]
    exact h.data
  · rw [htype, hstarted, hsetups]
    exact h.setups
  · intro cs' hcs' p hp hcmd
    obtain ⟨cs, hcs, hcmd', -⟩ := hsess cs' hcs'
    rw [hstarted] at hp
    exact hcmd'.trans (h.held cs hcs p hp hcmd)
  · rw [hstarted]
    exact h.shells
  · intro cs' hcs' p hp
    obtain ⟨cs, hcs, -, hpid⟩ := hsess cs' hcs'
    rw [hstarted] at hp
    exact hpid.trans (h.latest cs hcs p hp)
  · intro p hp
    rw [hstarted] at hp
    obtain ⟨hwrite, hread, herr⟩ := h.owns p hp
    exact ⟨hwrite.trans hfds.1, hread.trans hfds.2.1, herr.trans hfds.2.2⟩
  · rw [hstarted]
    exact h.pipes
  · rw [hstarted]
    exact hexit

/-- **A process is started** only for a session that holds no command. -/
theorem Processes.startedOn (h : Processes c) {old chansess : ChanSess} (hold : c.chansess = some old)
    (htype : c.type = .svrchansess) (hfree : old.cmd = none) (hexit : chansess.exit = old.exit)
    (pid : Nat) {pty : Bool} {writefd readfd errfd : Int}
    (hpipes : pty = false → OnPipes writefd readfd errfd) :
    Processes (c.startedOn chansess pid pty writefd readfd errfd) := by
  have hcheck : c.type.check_close = true := by
    rw [htype]
    rfl
  -- so none of those that were started before had one
  have hshells : ∀ p ∈ c.trace.started, p.cmd = none := by
    intro p hp
    by_contra hcmd
    exact hcmd ((h.held old hold p hp hcmd).symm.trans hfree)
  have hlast : ∀ p ∈ (c.startedOn chansess pid pty writefd readfd errfd).trace.started.getLast?,
      p.pid = pid ∧ p.writefd = writefd ∧ p.readfd = readfd ∧ p.errfd = errfd := by
    intro p hp
    rw [Channel.startedOn, List.getLast?_concat] at hp
    cases hp
    exact ⟨rfl, rfl, rfl, rfl⟩
  refine ⟨?_, fun _ => Option.some_ne_none _, fun _ => ?_, ?_, ?_, ?_, ?_, ?_, ?_⟩
  · intro hother
    exact absurd (hcheck.symm.trans hother) (Ne.symm Bool.false_ne_true)
  · show c.trace.setups + 1 = (c.trace.started ++ [_]).length
    rw [h.setups hcheck, List.length_append, List.length_singleton]
  · intro cs hcs p hp hcmd
    cases hcs
    rcases List.mem_append.mp hp with hp | hp
    · exact absurd (hshells p hp) hcmd
    · rw [List.mem_singleton.mp hp]
  · intro p hp
    rw [Channel.startedOn, List.dropLast_concat] at hp
    exact hshells p hp
  · intro cs hcs p hp
    cases hcs
    exact (hlast p hp).1.symm
  · intro p hp
    obtain ⟨-, rfl, rfl, rfl⟩ := hlast p hp
    exact ⟨.inl rfl, .inl rfl, .inl rfl⟩
  · intro p hp hpty
    rcases List.mem_append.mp hp with hp | hp
    · exact h.pipes p hp hpty
    · rw [List.mem_singleton.mp hp] at hpty ⊢
      exact hpipes hpty
  · intro info hinfo
    have hold' : c.exit = some info := by
      rw [Channel.exit, hold]
      exact hexit.symm.trans hinfo
    obtain ⟨p, hp, hpid⟩ := List.mem_map.mp (h.exits info hold')
    exact List.mem_map.mpr ⟨p, List.mem_append_left _ hp, hpid⟩

theorem ChannelAct.processes {kind : ActKind} (h : ChannelAct opts kind c c') (hw : Wiring c)
    (hp : Processes c) : Processes c' := by
  have hfds := h.descriptors
  cases h with
  | started old requested env spawn chansess hold htype hfree hspawn hchansess hterm =>
    have hexit : chansess.exit = old.exit := by
      rw [hchansess, forceCommand_exit]
    exact hp.startedOn hold htype hfree hexit _ fun _ => spawn.onPipes
  | startedPty old requested env spawn chansess hold htype hfree hspawn hchansess hmaster =>
    have hexit : chansess.exit = old.exit := by
      rw [hchansess, forceCommand_exit]
    exact hp.startedOn hold htype hfree hexit _ fun hpty => nomatch hpty
  | connected sock hpending =>
    -- only TCP channels are connected; they have no processes
    have htype := (hw.pending hpending).check_close
    have hnone := hp.other htype
    refine ⟨fun _ => hnone, ?_, ?_, hp.held, hp.shells, hp.latest, ?_, hp.pipes, hp.exits⟩
    · intro hcheck
      exact absurd (hcheck.symm.trans htype) (Ne.symm Bool.false_ne_true)
    · intro hcheck
      exact absurd (hcheck.symm.trans htype) (Ne.symm Bool.false_ne_true)
    · intro p hmem
      have hempty : c.trace.started.getLast? = some p := hmem
      rw [hnone] at hempty
      cases hempty
  | exited info hpid =>
    have hkept : ∀ cs', (c.recordExit info).chansess = some cs' →
        ∃ cs, c.chansess = some cs ∧ cs'.cmd = cs.cmd ∧ cs'.pid = cs.pid ∧ cs'.exit = some info := by
      intro cs' hcs'
      obtain ⟨cs, hcs, rfl⟩ := Option.map_eq_some_iff.mp hcs'
      exact ⟨cs, hcs, rfl, rfl, rfl⟩
    refine hp.congr rfl rfl rfl (not_congr Option.map_eq_none_iff) ?_ ?_
      ⟨.inl rfl, .inl rfl, .inl rfl⟩
    · intro cs' hcs'
      obtain ⟨cs, hcs, hcmd, hsame, -⟩ := hkept cs' hcs'
      exact ⟨cs, hcs, hcmd, hsame⟩
    · intro info' hinfo'
      obtain ⟨cs', hcs', hexit'⟩ := Option.bind_eq_some_iff.mp hinfo'
      obtain ⟨-, -, -, -, hexit⟩ := hkept cs' hcs'
      rw [Option.some.inj (hexit'.symm.trans hexit)]
      exact hpid
  | session old new hold hcmd hpid hexit =>
    refine hp.congr rfl rfl rfl ?_ ?_ ?_ ⟨.inl rfl, .inl rfl, .inl rfl⟩
    · rw [hold]
      exact iff_of_true (Option.some_ne_none _) (Option.some_ne_none _)
    · intro cs' hcs'
      cases hcs'
      exact ⟨old, hold, hcmd, hpid⟩
    · intro info hinfo
      have hold' : c.exit = some info := by
        rw [Channel.exit, hold]
        exact hexit.symm.trans hinfo
      exact hp.exits info hold'
  | _ =>
    rcases hfds with hset | ⟨-, hfds⟩
    · exact absurd hset (Nat.succ_ne_self _).symm
    · exact hp.congr rfl rfl rfl Iff.rfl (fun cs hcs => ⟨cs, hcs, rfl, rfl⟩) hp.exits hfds

theorem ChannelRun.processes (h : ChannelRun opts es c) : Wiring c ∧ Processes c := by
  have hact : ∀ ⦃kind c c'⦄, Sound opts c → Wiring c ∧ Processes c → ChannelAct opts kind c c' →
      Wiring c' ∧ Processes c' := fun _ _ _ _ hinv hact =>
    ⟨hact.wiring hinv.1, hact.processes hinv.1 hinv.2⟩
  have hall := h.invariant (fun _ hfresh => ⟨hfresh.wiring, hfresh.processes⟩) hact
  exact hall.2

/-! ## One process per session -/

theorem Processes.single (h : Processes c) (hfirst : ∀ p ∈ c.trace.started.head?, p.cmd ≠ none) :
    c.trace.started = [] ∨ ∃ p, c.trace.started = [p] ∧ p.cmd ≠ none := by
  rcases hstarted : c.trace.started with _ | ⟨p, _ | ⟨q, rest⟩⟩
  · exact .inl rfl
  · refine .inr ⟨p, rfl, hfirst p ?_⟩
    rw [hstarted]
    rfl
  · -- another one after it: then the first had no command
    have hmem : p ∈ c.trace.started.dropLast := by
      rw [hstarted]
      exact List.mem_cons_self
    have hhead : p ∈ c.trace.started.head? := by
      rw [hstarted]
      rfl
    exact absurd (h.shells p hmem) (hfirst p hhead)

/-- **One command per session**: if the first process of a session was started with a command, it is the
only one, and the session's pid, command, exit and descriptors are those of that process. -/
theorem one_process_per_session (h : ChannelRun opts es c)
    (hfirst : ∀ p ∈ c.trace.started.head?, p.cmd ≠ none) :
    c.trace.started.length ≤ 1 ∧ ∀ p ∈ c.trace.started, p.Owns c ∧
      ∃ chansess, c.chansess = some chansess ∧ chansess.pid = p.pid ∧ chansess.cmd = p.cmd ∧
        ∀ info, chansess.exit = some info → info.exitpid = p.pid := by
  have hp := h.processes.2
  rcases hp.single hfirst with hnone | ⟨p, hone, hcmd⟩
  · rw [hnone]
    exact ⟨Nat.zero_le 1, fun q hq => nomatch hq⟩
  refine ⟨by rw [hone, List.length_singleton], fun q hq => ?_⟩
  have hlast : p ∈ c.trace.started.getLast? := by
    rw [hone]
    rfl
  have hcheck : c.type.check_close = true := by
    by_contra hother
    have hnone := hp.other (Bool.eq_false_iff.mpr hother)
    rw [hone] at hnone
    cases hnone
  obtain ⟨cs, hcs⟩ := Option.ne_none_iff_exists'.mp (hp.data hcheck)
  have hq' : q = p := by
    rw [hone] at hq
    exact List.mem_singleton.mp hq
  subst hq'
  refine ⟨hp.owns q hlast, cs, hcs, hp.latest cs hcs q hlast, hp.held cs hcs q hq hcmd, ?_⟩
  intro info hinfo
  have hexit : c.exit = some info := by
    rw [Channel.exit, hcs]
    exact hinfo
  have hpid := hp.exits info hexit
  rw [hone] at hpid
  exact List.mem_singleton.mp hpid

/-- A command, then a shell, which is refused, and the command ends. -/
def execThenShell : List ChannelEvent :=
  [.request (requestOf "exec" (stringOf (ascii "ls"))) plainEnv,
    .request (requestOf "shell" []) plainEnv, .childExited succeeded]

theorem one_process_per_session_execThenShell : ∃ c p, ChannelRun tinyOpts execThenShell c ∧
    c.trace.started = [p] ∧ p.cmd = some (ascii "ls") ∧ p.Owns c := by
  have hexec : (runSession tinyOpts 100 100 execThenShell).any (fun c =>
      c.trace.started.map Started.cmd == [some (ascii "ls")]) = true := by
    decide +kernel
  obtain ⟨c, hc, htest⟩ := (Option.any_eq_true _ _).mp hexec
  obtain ⟨p, hone, hcmd⟩ := List.map_eq_singleton_iff.mp (beq_iff_eq.mp htest)
  have hrun := channelRun_of_runSession hc
  have hfirst : ∀ q ∈ c.trace.started.head?, q.cmd ≠ none := by
    intro q hq
    rw [hone] at hq
    cases hq
    rw [hcmd]
    exact Option.some_ne_none _
  have hmem : p ∈ c.trace.started := by
    rw [hone]
    exact List.mem_singleton_self p
  exact ⟨c, p, hrun, hone, hcmd, ((one_process_per_session hrun hfirst).2 p hmem).1⟩

/-- Another process, for the second request. -/
def spawnedNext : Spawned where
  pid := 43
  pid_pos := Nat.succ_pos 42
  infd := 11
  outfd := 12
  errfd := 13
  in_ne_out := Nat.ne_of_lt (Nat.lt_succ_self 11)
  in_ne_err := Nat.ne_of_lt (Nat.le_of_ble_eq_true rfl)
  out_ne_err := Nat.ne_of_lt (Nat.lt_succ_self 12)

def twoShells : List ChannelEvent :=
  [.request (requestOf "shell" []) plainEnv,
    .request (requestOf "shell" []) { plainEnv with spawn := some spawnedNext }]

/-- **A shell can be followed by another**: both are started, and the descriptors and the pid of the
first are overwritten. -/
theorem two_shells_on_one_session : ∃ c, ChannelRun tinyOpts twoShells c ∧
    c.trace.started.map Started.pid = [42, 43] ∧ c.trace.started.map Started.readfd = [6, 12] ∧
      c.readfd = 12 ∧ c.chansess.map ChanSess.pid = some 43 := by
  have hexec : (runSession tinyOpts 100 100 twoShells).any (fun c =>
      decide (c.trace.started.map Started.pid = [42, 43] ∧
        c.trace.started.map Started.readfd = [6, 12] ∧ c.readfd = 12 ∧
          c.chansess.map ChanSess.pid = some 43)) = true := by
    decide +kernel
  obtain ⟨c, hc, htest⟩ := (Option.any_eq_true _ _).mp hexec
  exact ⟨c, channelRun_of_runSession hc, of_decide_eq_true htest⟩

end SimpleSshd.Dropbear
