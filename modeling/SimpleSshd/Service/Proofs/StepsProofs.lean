import Mathlib.Data.List.Basic
import SimpleSshd.Service.Service

/-!
# Proofs: what one event can do

`Moves` lists, one constructor for each atomic section, everything an event can do to a state.
Every invariant of the service is proved by cases on it; `step` is not unfolded again.
-/

namespace SimpleSshd.Service

variable {digit : Char → Option Nat} {s t : State} {e : Event}

inductive Moves (digit : Char → Option Nat) (s : State) : Event → State → Prop
  | command {c : Command} (h : s.threads[0]? = some .idle) :
      Moves digit s (.command c) (s.setPc 0 (c.first digit))
  | stop_enter {i : Nat} {now : Int} {k : Caller} (h : s.threads[i]? = some (.stop_enter k))
      (hl : s.lock = none) :
      Moves digit s (.advance i now) ({ s with sshd_pid := 0 }.setPc i
        (if s.sshd_pid ≠ 0 then .stop_kill k s.sshd_pid else k.next))
  | stop_kill {i : Nat} {now pid : Int} {k : Caller}
      (h : s.threads[i]? = some (.stop_kill k pid)) :
      Moves digit s (.advance i now) ({ s with procs := kill pid s.procs }.setPc i k.next)
  | start_clock {i : Nat} {now pid : Int} (h : s.threads[i]? = some (.start_clock pid)) :
      Moves digit s (.advance i now) (s.setPc i (.start_enter pid now))
  | start_enter {i : Nat} {now pid u : Int} (h : s.threads[i]? = some (.start_enter pid u))
      (hl : s.lock = none) :
      Moves digit s (.advance i now) ({ s with sshd_pid := 0, lock := some i }.setPc i
        (if s.sshd_pid ≠ 0 then .start_kill pid u s.sshd_pid else .start_set pid u))
  | start_kill {i : Nat} {now pid u old : Int}
      (h : s.threads[i]? = some (.start_kill pid u old)) :
      Moves digit s (.advance i now)
        ({ s with procs := kill old s.procs }.setPc i (.start_set pid u))
  | start_set {i : Nat} {now pid u : Int} (h : s.threads[i]? = some (.start_set pid u)) :
      Moves digit s (.advance i now) ({ s with
        sshd_pid := pid
        sshd_duration := if s.sshd_when ≠ 0 then u - s.sshd_when else 0
        sshd_when := u
        lock := none }.setPc i (.start_spawn pid))
  | start_spawn {i : Nat} {now pid : Int} (h : s.threads[i]? = some (.start_spawn pid)) :
      Moves digit s (.advance i now)
        { s with threads := s.threads.set i .idle ++ [.watch_wait pid] }
  | file_enter {i : Nat} {now pid : Int} (h : s.threads[i]? = some (.file_enter pid))
      (hl : s.lock = none) :
      Moves digit s (.advance i now) ({ s with sshd_pid := 0, lock := some i }.setPc i
        (if s.sshd_pid ≠ 0 then .file_kill pid s.sshd_pid else .file_set pid))
  | file_kill {i : Nat} {now pid old : Int} (h : s.threads[i]? = some (.file_kill pid old)) :
      Moves digit s (.advance i now) ({ s with procs := kill old s.procs }.setPc i (.file_set pid))
  | file_set {i : Nat} {now pid : Int} (h : s.threads[i]? = some (.file_set pid)) :
      Moves digit s (.advance i now)
        ({ s with sshd_pid := pid, sshd_when := now, sshd_duration := 0, lock := none }.setPc i
          (.stop_enter .onCreate))
  | watch_clock {i : Nat} {now pid : Int} (h : s.threads[i]? = some (.watch_clock pid)) :
      Moves digit s (.advance i now) (s.setPc i (.watch_enter pid now))
  | forget {i : Nat} {now pid u : Int} (h : s.threads[i]? = some (.watch_enter pid u))
      (hl : s.lock = none) (hpid : s.sshd_pid = pid) :
      Moves digit s (.advance i now) ({ s with sshd_pid := 0 }.setPc i
        (if do_restart s u then .stop_enter .do_start else .idle))
  | ignore {i : Nat} {now pid u : Int} (h : s.threads[i]? = some (.watch_enter pid u))
      (hl : s.lock = none) (hpid : s.sshd_pid ≠ pid) :
      Moves digit s (.advance i now) (s.setPc i .idle)
  | fork {i : Nat} {res : Int} (h : s.threads[i]? = some .start_fork)
      (hf : forkable s.procs res = true) :
      Moves digit s (.fork i res)
        ({ s with procs := if 0 < res then s.procs ++ [({ pid := res } : Proc)] else s.procs }.setPc
          i (if res ≠ 0 then .start_clock res else .idle))
  | reap {i j : Nat} {pid : Int} {d : Proc} (h : s.threads[i]? = some (.watch_wait pid))
      (hd : s.procs[j]? = some d) (hx : d.exited = true) (ha : d.awaited pid = true) :
      Moves digit s (.waitpid i (some j))
        ({ s with procs := s.procs.set j { d with reaped := true } }.setPc i (.watch_clock pid))
  | nochild {i : Nat} {pid : Int} (h : s.threads[i]? = some (.watch_wait pid))
      (hn : ∀ d ∈ s.procs, d.awaited pid = false) :
      Moves digit s (.waitpid i none) (s.setPc i (.watch_clock pid))
  | exit {j : Nat} {d : Proc} (hd : s.procs[j]? = some d) (hx : d.exited = false) :
      Moves digit s (.exit j) { s with procs := s.procs.set j { d with exited := true } }

theorem advance_moves {i : Nat} {now : Int} {pc : Pc} (h : s.threads[i]? = some pc)
    (hs : advance s i now pc = some t) : Moves digit s (.advance i now) t := by
  cases pc with
  | idle => simp [advance] at hs
  | start_fork => simp [advance] at hs
  | watch_wait pid => simp [advance] at hs
  | stop_enter k =>
    simp only [advance, Option.ite_none_right_eq_some, Option.some.injEq] at hs
    exact hs.2 ▸ .stop_enter h hs.1
  | stop_kill k pid => simp only [advance, Option.some.injEq] at hs; exact hs ▸ .stop_kill h
  | start_clock pid => simp only [advance, Option.some.injEq] at hs; exact hs ▸ .start_clock h
  | start_enter pid u =>
    simp only [advance, Option.ite_none_right_eq_some, Option.some.injEq] at hs
    exact hs.2 ▸ .start_enter h hs.1
  | start_kill pid u old => simp only [advance, Option.some.injEq] at hs; exact hs ▸ .start_kill h
  | start_set pid u => simp only [advance, Option.some.injEq] at hs; exact hs ▸ .start_set h
  | start_spawn pid => simp only [advance, Option.some.injEq] at hs; exact hs ▸ .start_spawn h
  | file_enter pid =>
    simp only [advance, Option.ite_none_right_eq_some, Option.some.injEq] at hs
    exact hs.2 ▸ .file_enter h hs.1
  | file_kill pid old => simp only [advance, Option.some.injEq] at hs; exact hs ▸ .file_kill h
  | file_set pid => simp only [advance, Option.some.injEq] at hs; exact hs ▸ .file_set h
  | watch_clock pid => simp only [advance, Option.some.injEq] at hs; exact hs ▸ .watch_clock h
  | watch_enter pid u =>
    simp only [advance, Option.ite_none_right_eq_some] at hs
    obtain ⟨hl, hs⟩ := hs
    by_cases hpid : s.sshd_pid = pid
    · rw [if_pos hpid, Option.some.injEq] at hs
      exact hs ▸ .forget h hl hpid
    · rw [if_neg hpid, Option.some.injEq] at hs
      exact hs ▸ .ignore h hl hpid

/-- **Inversion of `step`.** -/
theorem step_moves (h : step digit s e = some t) : Moves digit s e t := by
  cases e with
  | command c =>
    simp only [step, Option.ite_none_right_eq_some, Option.some.injEq] at h
    exact h.2 ▸ .command h.1
  | advance i now =>
    simp only [step, Option.bind_eq_some_iff] at h
    obtain ⟨pc, hpc, hs⟩ := h
    exact advance_moves hpc hs
  | fork i res =>
    simp only [step, Option.ite_none_right_eq_some, Option.some.injEq] at h
    exact h.2 ▸ .fork h.1.1 h.1.2
  | waitpid i j =>
    simp only [step] at h
    split at h
    case h_2 => simp at h
    case h_1 pid hpc =>
      cases j with
      | none =>
        simp only [Option.ite_none_right_eq_some, Option.some.injEq] at h
        exact h.2 ▸ .nochild hpc (by simpa using h.1)
      | some j =>
        simp only at h
        split at h
        case h_2 => simp at h
        case h_1 d hd =>
          simp only [Option.ite_none_right_eq_some, Option.some.injEq] at h
          exact h.2 ▸ .reap hpc hd h.1.1 h.1.2
  | exit j =>
    simp only [step] at h
    split at h
    case h_2 => simp at h
    case h_1 d hd =>
      simp only [Option.ite_none_left_eq_some, Option.some.injEq] at h
      exact h.2 ▸ .exit hd (by simpa using h.1)

/-! ## Threads after a section -/

/-- Where thread `j` stands after thread `i` went to `p`. -/
theorem getElem?_set_cases {l : List Pc} {i j : Nat} {p pc : Pc} (h : (l.set i p)[j]? = some pc) :
    (j = i ∧ pc = p) ∨ (j ≠ i ∧ l[j]? = some pc) := by
  rw [List.getElem?_set] at h
  split_ifs at h with hij hlt
  · exact Or.inl ⟨hij.symm, by simpa using h.symm⟩
  · exact Or.inr ⟨Ne.symm hij, h⟩

/-- The same when the threads `new` were started. -/
theorem getElem?_set_append {l new : List Pc} {i j : Nat} {p pc : Pc}
    (h : (l.set i p ++ new)[j]? = some pc) :
    (j = i ∧ pc = p) ∨ (j ≠ i ∧ l[j]? = some pc) ∨ pc ∈ new := by
  by_cases hj : j < (l.set i p).length
  · rw [List.getElem?_append_left hj] at h
    exact (getElem?_set_cases h).imp_right Or.inl
  · rw [List.getElem?_append_right (by omega)] at h
    exact Or.inr (Or.inr (List.mem_of_getElem? h))

theorem mem_set_append {l new : List Pc} {i : Nat} {p pc : Pc} (h : pc ∈ l.set i p ++ new) :
    pc = p ∨ pc ∈ l ∨ pc ∈ new := by
  rcases List.mem_append.mp h with h | h
  · rcases List.mem_or_eq_of_mem_set h with h | rfl
    · exact Or.inr (Or.inl h)
    · exact Or.inl rfl
  · exact Or.inr (Or.inr h)

/-- An entry survives the update of entry `i` unless it is the one that was there. -/
theorem mem_set_of_mem {α : Type} {l : List α} {i : Nat} {a b x : α} (hi : l[i]? = some a)
    (hx : x ∈ l) : x ∈ l.set i b ∨ x = a := by
  obtain ⟨j, hj, rfl⟩ := List.getElem_of_mem hx
  by_cases hij : i = j
  · subst hij
    rw [List.getElem?_eq_getElem hj, Option.some.injEq] at hi
    exact Or.inr hi
  · refine Or.inl (List.mem_iff_getElem.mpr ⟨j, by simpa using hj, ?_⟩)
    simp [hij]

theorem mem_set_self {l : List Pc} {i : Nat} {a b : Pc} (hi : l[i]? = some a) : b ∈ l.set i b := by
  obtain ⟨hlt, -⟩ := List.getElem?_eq_some_iff.mp hi
  exact List.mem_set hlt b

/-! ## Processes after a section -/

/-- The process table `ds'` after a section that forks nothing: the same processes, each at least as
far in its life as in `ds`. -/
structure Later (ds ds' : List Proc) : Prop where
  pids : ds'.map Proc.pid = ds.map Proc.pid
  back : ∀ d' ∈ ds', ∃ d ∈ ds, d.pid = d'.pid ∧ (d.exited = true → d'.exited = true) ∧
    (d.killed = true → d'.killed = true) ∧
    ((d.reaped = true → d.exited = true) → d'.reaped = true → d'.exited = true)

theorem Later.forth {ds ds' : List Proc} (h : Later ds ds') {d : Proc} (hd : d ∈ ds) :
    ∃ d' ∈ ds', d'.pid = d.pid := by
  have hmem : d.pid ∈ ds'.map Proc.pid := h.pids ▸ List.mem_map_of_mem hd
  exact List.mem_map.mp hmem

theorem kill_pids (pid : Int) (ds : List Proc) : (kill pid ds).map Proc.pid = ds.map Proc.pid := by
  rw [kill, List.map_map]
  refine List.map_congr_left fun d _ => ?_
  simp only [Function.comp_apply]
  split_ifs <;> rfl

theorem later_kill (pid : Int) (ds : List Proc) : Later ds (kill pid ds) := by
  refine ⟨kill_pids pid ds, fun d' hd' => ?_⟩
  obtain ⟨d, hd, rfl⟩ := List.mem_map.mp hd'
  refine ⟨d, hd, ?_⟩
  split_ifs <;> simp

theorem later_set {ds : List Proc} {j : Nat} {d x : Proc} (hd : ds[j]? = some d)
    (hpid : x.pid = d.pid) (hx : d.exited = true → x.exited = true) (hk : x.killed = d.killed)
    (hr : (d.reaped = true → d.exited = true) → x.reaped = true → x.exited = true) :
    Later ds (ds.set j x) := by
  refine ⟨?_, fun d' hd' => ?_⟩
  · obtain ⟨hj, rfl⟩ := List.getElem?_eq_some_iff.mp hd
    rw [List.map_set, hpid, ← List.getElem_map Proc.pid (h := by simpa using hj),
      List.set_getElem_self]
  · rcases List.mem_or_eq_of_mem_set hd' with h | rfl
    · exact ⟨d', h, rfl, id, id, id⟩
    · exact ⟨d, List.mem_of_getElem? hd, hpid.symm, hx, by rw [hk]; exact id, hr⟩

theorem later_reaped {ds : List Proc} {j : Nat} {d : Proc} (hd : ds[j]? = some d)
    (hx : d.exited = true) : Later ds (ds.set j { d with reaped := true }) :=
  later_set hd rfl id rfl fun _ _ => hx

theorem later_exited {ds : List Proc} {j : Nat} {d : Proc} (hd : ds[j]? = some d) :
    Later ds (ds.set j { d with exited := true }) :=
  later_set hd rfl (fun _ => rfl) rfl fun _ _ => rfl

/-- A process that `kill(pid)` left unsignalled either had been reaped or has another pid. -/
theorem not_killed_of_kill {pid : Int} {ds : List Proc} {d' : Proc} (hd' : d' ∈ kill pid ds)
    (hk : d'.killed = false) (hr : d'.reaped = false) : d'.pid ≠ pid := by
  obtain ⟨d, hd, rfl⟩ := List.mem_map.mp hd'
  intro hpid
  split_ifs at hk hr hpid with hs
  simp [Proc.signalled, hr, hpid] at hs

end SimpleSshd.Service
