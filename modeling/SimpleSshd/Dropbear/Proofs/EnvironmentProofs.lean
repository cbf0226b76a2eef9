import SimpleSshd.Dropbear.Environment
import SimpleSshd.Dropbear.Proofs.AuthProofs
import SimpleSshd.Lib.Fields
import Mathlib.Data.List.Induction

/-!
# Proofs: the configured variables are set

The lines of `conf_env` are the fields between the ends of lines. The loop of `install_environment`
sets what they say one after another: one round consumes one line and the ends of lines behind it.
-/

namespace SimpleSshd.Dropbear

open Fields

variable {s : Bytes} {env : Environ}

/-! ## The reference -/

/-- What a line sets: a name, and everything behind the first `=`. -/
def setting (line : Bytes) : Option (Bytes × Bytes) :=
  let n := line.takeWhile (· ≠ EQUALS)
  if n = [] then none else some (n, (line.dropWhile (· ≠ EQUALS)).tail)

/-- What the lines of a text set, in their order. -/
def settings (text : Bytes) : List (Bytes × Bytes) := (fields isLineEnd text).filterMap setting

/-- Variables are set one after another. -/
def install (env : Environ) (l : List (Bytes × Bytes)) : Environ :=
  l.foldl (fun env p => setenv env p.1 p.2) env

/-- The last setting of a variable counts. -/
theorem install_apply (env : Environ) (l : List (Bytes × Bytes)) (n : Bytes) :
    install env l n = (l.reverse.lookup n).or (env n) := by
  induction l using List.reverseRecOn with
  | nil => rfl
  | append_singleton l p ih =>
    have hlast : install env (l ++ [p]) = setenv (install env l) p.1 p.2 := by
      simp [install]
    rw [hlast, List.reverse_append, List.reverse_singleton, List.singleton_append]
    obtain ⟨m, v⟩ := p
    by_cases hn : n = m
    · subst hn
      rw [setenv, Function.update_self, List.lookup_cons_self, Option.some_or]
    · have hbeq : (n == m) = false := beq_false_of_ne hn
      rw [setenv, Function.update_of_ne hn, List.lookup_cons, hbeq, ih]

/-! ## One round -/

/-- The line at which the pointer stands. -/
def lineAt (s : Bytes) : Bytes := s.takeWhile isValue

theorem isName_eq : isName = fun c => decide (c ≠ EQUALS) && isValue c := by
  funext c
  simp only [isName, isValue, Bool.decide_and]
  cases decide (c ≠ 0) <;> cases decide (c ≠ EQUALS) <;> rfl

theorem isValue_eq : isValue = fun c => !isLineEnd c && decide (c ≠ 0) := by
  funext c
  simp only [isValue, isLineEnd]
  by_cases h0 : c = 0
  · simp [h0]
  · by_cases hcr : c = CR
    · simp [hcr]
    · simp [h0, hcr]

theorem isLineEnd_eq : isLineEnd = fun c => isLineEnd c && decide (c ≠ 0) := by
  funext c
  by_cases h0 : c = 0
  · subst h0
    rfl
  · simp [h0]

theorem env_line_name (s : Bytes) : (env_line s).name = (lineAt s).takeWhile (· ≠ EQUALS) := by
  have hname : (env_line s).name = s.takeWhile isName := by
    unfold env_line
    simp only
    split_ifs
    · rfl
    · rfl
  rw [hname, lineAt, List.takeWhile_takeWhile, isName_eq]
  simp [Bool.decide_and]

/-- Where the name ends, the rest of the line begins. -/
theorem lineAt_dropWhile (s : Bytes) :
    (lineAt s).dropWhile (· ≠ EQUALS) = (s.dropWhile isName).takeWhile isValue := by
  rw [lineAt, dropWhile_takeWhile, isName_eq]

/-- The name ends at an `=`, or it is the whole line. -/
theorem nameEnd_cases (s : Bytes) :
    (∃ rest, s.dropWhile isName = EQUALS :: rest) ∨
      peek (s.dropWhile isName) ≠ EQUALS ∧ (s.dropWhile isName).takeWhile isValue = [] ∧
        (s.dropWhile isName).dropWhile isValue = s.dropWhile isName := by
  have hhead := List.head?_dropWhile_not isName s
  cases hrest : s.dropWhile isName with
  | nil => exact .inr ⟨by decide, rfl, rfl⟩
  | cons c rest =>
    by_cases hequals : c = EQUALS
    · exact .inl ⟨rest, by rw [hequals]⟩
    · have hvalue : isValue c = false := by
        rw [hrest, isName_eq] at hhead
        simpa [hequals] using hhead
      refine .inr ⟨hequals, ?_, ?_⟩
      · simp [hvalue]
      · simp [hvalue]

theorem env_line_val (s : Bytes) :
    (env_line s).val = ((lineAt s).dropWhile (· ≠ EQUALS)).tail := by
  rw [lineAt_dropWhile]
  unfold env_line
  simp only
  rcases nameEnd_cases s with ⟨rest, hrest⟩ | ⟨hequals, hnone, -⟩
  · have hequals : peek (EQUALS :: rest) = EQUALS := rfl
    rw [hrest, if_pos hequals]
    rfl
  · rw [if_neg hequals, hnone]
    rfl

/-- The pointer stands behind the line and the ends of lines that follow. -/
theorem env_line_rest (s : Bytes) :
    (env_line s).rest = (s.dropWhile isValue).dropWhile isLineEnd := by
  have hvalue : s.dropWhile isValue = (s.dropWhile isName).dropWhile isValue := by
    rw [isName_eq, dropWhile_dropWhile_and]
  rw [hvalue]
  unfold env_line
  simp only
  rcases nameEnd_cases s with ⟨rest, hrest⟩ | ⟨hequals, -, hsame⟩
  · have hequals : peek (EQUALS :: rest) = EQUALS := rfl
    rw [hrest, if_pos hequals]
    rfl
  · rw [if_neg hequals, hsame]

/-- A round takes one field, or none. -/
theorem fields_round (s : Bytes) :
    fields isLineEnd (cstr s) =
      field (lineAt s) ++ fields isLineEnd (cstr (env_line s).rest) := by
  have hline : (cstr s).takeWhile (fun c => !isLineEnd c) = lineAt s := by
    rw [cstr, List.takeWhile_takeWhile, lineAt, isValue_eq]
    simp [Bool.decide_and]
  have hbehind : (cstr s).dropWhile (fun c => !isLineEnd c) = cstr (s.dropWhile isValue) := by
    rw [cstr, dropWhile_takeWhile, isValue_eq, cstr]
  have hends : cstr (env_line s).rest = (cstr (s.dropWhile isValue)).dropWhile isLineEnd := by
    rw [env_line_rest, cstr, cstr, dropWhile_takeWhile, ← isLineEnd_eq]
  rw [fields_eq_takeWhile, hline, hbehind, hends, fields_dropWhile]

theorem setting_nil : setting [] = none := rfl

theorem settings_round (s : Bytes) :
    settings (cstr s) = (setting (lineAt s)).toList ++ settings (cstr (env_line s).rest) := by
  have hfield : (field (lineAt s)).filterMap setting = (setting (lineAt s)).toList := by
    by_cases hnil : lineAt s = []
    · rw [hnil, field_nil, setting_nil]
      rfl
    · rw [field_of_ne_nil hnil]
      cases hsetting : setting (lineAt s) with
      | none => simp [hsetting]
      | some p => simp [hsetting]
  rw [settings, fields_round, List.filterMap_append, hfield]
  rfl

/-- A round sets what its line says. -/
theorem env_line_setting (s : Bytes) (env : Environ) :
    (if (env_line s).name.length ≠ 0 then setenv env (env_line s).name (env_line s).val else env) =
      install env (setting (lineAt s)).toList := by
  rw [env_line_name, env_line_val]
  unfold setting
  simp only
  by_cases hnil : (lineAt s).takeWhile (· ≠ EQUALS) = []
  · rw [if_pos hnil, hnil]
    rfl
  · rw [if_neg hnil, if_pos fun hzero => hnil (List.eq_nil_of_length_eq_zero hzero)]
    rfl

/-! ## The loop -/

theorem install_append (env : Environ) (l l' : List (Bytes × Bytes)) :
    install env (l ++ l') = install (install env l) l' :=
  List.foldl_append

/-- **The loop sets what the lines say, in their order.** -/
theorem install_loop_eq (s : Bytes) (env : Environ) :
    install_loop s env = install env (settings (cstr s)) := by
  fun_induction install_loop s env with
  | case1 s env hend =>
    have hnil : cstr s = [] := by
      cases s with
      | nil => rfl
      | cons c s =>
        change c = 0 at hend
        simp [cstr, hend]
    rw [hnil]
    rfl
  | case2 s env hend line ih =>
    simp only [dite_eq_ite] at ih
    rw [ih, env_line_setting, settings_round s, install_append]

/-! ## Variables that were joined to a text -/

/-- A name and a value that a line can hold: neither has a CR, an LF or a NUL in it. -/
structure Settable (p : Bytes × Bytes) : Prop where
  named : p.1 ≠ []
  plain : EQUALS ∉ p.1
  clean : ∀ c ∈ p.1 ++ p.2, c ≠ 0 ∧ c ≠ CR ∧ c ≠ LF

def lineOf (p : Bytes × Bytes) : Bytes := p.1 ++ EQUALS :: p.2

/-- One line for each variable. -/
def textOf (pairs : List (Bytes × Bytes)) : Bytes := [LF].intercalate (pairs.map lineOf)

theorem Settable.isValue_line {p : Bytes × Bytes} (h : Settable p) :
    ∀ c ∈ lineOf p, isValue c = true := by
  intro c hc
  rcases List.mem_append.mp hc with hname | hrest
  · exact decide_eq_true (h.clean c (List.mem_append_left _ hname))
  · rcases List.mem_cons.mp hrest with rfl | hvalue
    · rfl
    · exact decide_eq_true (h.clean c (List.mem_append_right _ hvalue))

theorem Settable.setting_line {p : Bytes × Bytes} (h : Settable p) : setting (lineOf p) = some p := by
  have hname : ∀ c ∈ p.1, decide (c ≠ EQUALS) = true := by
    intro c hc
    apply decide_eq_true
    rintro rfl
    exact h.plain hc
  have htake : (lineOf p).takeWhile (· ≠ EQUALS) = p.1 := by
    rw [lineOf, List.takeWhile_append_of_pos hname]
    simp
  have hdrop : (lineOf p).dropWhile (· ≠ EQUALS) = EQUALS :: p.2 := by
    rw [lineOf, List.dropWhile_append_of_pos hname]
    simp
  unfold setting
  simp only
  rw [htake, if_neg h.named, hdrop]
  rfl

theorem settings_textOf {pairs : List (Bytes × Bytes)} (h : ∀ p ∈ pairs, Settable p) :
    settings (textOf pairs) = pairs := by
  have hfields : fields isLineEnd (textOf pairs) = pairs.map lineOf := by
    apply fields_intercalate rfl
    intro f hf
    obtain ⟨p, hp, rfl⟩ := List.mem_map.mp hf
    refine ⟨List.append_ne_nil_of_right_ne_nil _ (List.cons_ne_nil _ _), ?_⟩
    intro c hc
    have hvalue := (h p hp).isValue_line c hc
    rw [isValue_eq] at hvalue
    simpa using (Bool.and_eq_true_iff.mp hvalue).1
  rw [settings, hfields]
  clear hfields
  induction pairs with
  | nil => rfl
  | cons p pairs ih =>
    have hp := (h p List.mem_cons_self).setting_line
    have hpairs := ih fun q hq => h q (List.mem_cons_of_mem _ hq)
    rw [List.map_cons, List.filterMap_cons_some hp, hpairs]

theorem cstr_textOf {pairs : List (Bytes × Bytes)} (h : ∀ p ∈ pairs, Settable p) :
    cstr (textOf pairs) = textOf pairs := by
  apply cstr_eq_self
  intro hmem
  rcases mem_intercalate hmem with hzero | ⟨f, hf, hzero⟩
  · cases hzero
  · obtain ⟨p, hp, rfl⟩ := List.mem_map.mp hf
    have hvalue := (h p hp).isValue_line 0 hzero
    cases hvalue

/-! ## The environment -/

/-- **The environment of a command: the lines of `conf_env` are set in their order, the last setting of
a variable counts, and `SSHD_LIBDIR` is always the directory of the libraries. Variables that are joined
to a text are set just as they are.** -/
theorem install_environment_eq (conf_env conf_lib : Bytes) (env : Environ) :
    install_environment (some conf_env) conf_lib env =
        setenv (install env (settings (cstr conf_env))) SSHD_LIBDIR conf_lib ∧
      (∀ n ≠ SSHD_LIBDIR, install_environment (some conf_env) conf_lib env n =
        ((settings (cstr conf_env)).reverse.lookup n).or (env n)) ∧
      install_environment (some conf_env) conf_lib env SSHD_LIBDIR = some conf_lib ∧
      ∀ pairs : List (Bytes × Bytes), (∀ p ∈ pairs, Settable p) →
        install_environment (some (textOf pairs)) conf_lib env =
          setenv (install env pairs) SSHD_LIBDIR conf_lib := by
  have hall : ∀ text, install_environment (some text) conf_lib env =
      setenv (install env (settings (cstr text))) SSHD_LIBDIR conf_lib := by
    intro text
    rw [install_environment, install_loop_eq]
  refine ⟨hall conf_env, ?_, ?_, ?_⟩
  · intro n hn
    rw [hall, setenv, Function.update_of_ne hn, install_apply]
  · rw [hall, setenv, Function.update_self]
  · intro pairs hpairs
    rw [hall, cstr_textOf hpairs, settings_textOf hpairs]

theorem install_environment_eq_overridden :
    install_environment (some (textOf [(ascii "A", ascii "1"), (ascii "A", ascii "x=y")]))
      (ascii "/lib") (fun _ => none) (ascii "A") = some (ascii "x=y") := by
  have hpairs : ∀ p ∈ [(ascii "A", ascii "1"), (ascii "A", ascii "x=y")], Settable p := by
    intro p hp
    simp only [List.mem_cons, List.not_mem_nil, or_false] at hp
    rcases hp with rfl | rfl
    · exact ⟨by decide, by decide, by decide +kernel⟩
    · exact ⟨by decide, by decide, by decide +kernel⟩
  rw [(install_environment_eq [] _ _).2.2.2 _ hpairs]
  decide

end SimpleSshd.Dropbear
