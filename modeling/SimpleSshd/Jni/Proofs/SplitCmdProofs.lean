import SimpleSshd.Jni.Interface
import SimpleSshd.Dropbear.Proofs.AuthProofs
import SimpleSshd.Lib.Fields

/-!
# Proofs: the extra options are cut into arguments

The reference reads the text as a sequence of pieces, characters of arguments and separators; an
argument is a run of characters. `split_cmd` agrees with it as long as no argument reaches the limit of
`curr` and no backslash at the end stands where an argument would begin.
-/

namespace SimpleSshd.Jni

open Dropbear (Bytes ascii cstr cstr_eq_self)
open Fields

variable {max_argc : Nat} {input curr : Bytes} {in_quotes : Bool} {argv : List Bytes}

/-! ## The reference -/

/-- What the text stands for: a character of an argument, or nothing for a separator. -/
def pieces : Bool → Bytes → List (Option UInt8)
  | _, [] => []
  | in_quotes, c :: input =>
    if c = QUOTE then pieces (!in_quotes) input
    else if c = BACKSLASH then
      match input with
      | [] => []
      | d :: input => some (unescape d) :: pieces in_quotes input
    else if !in_quotes && isspace c then none :: pieces in_quotes input
    else some c :: pieces in_quotes input

/-- The arguments among the pieces. -/
def words (ps : List (Option UInt8)) : List Bytes := (fields Option.isNone ps).map (·.filterMap id)

/-- The arguments in a text. -/
def tokens (input : Bytes) : List Bytes := words (pieces false input)

/-- The text ends with a backslash that nothing follows. -/
def unfinished : Bytes → Bool
  | [] => false
  | c :: input =>
    if c = BACKSLASH then
      match input with
      | [] => true
      | _ :: input => unfinished input
    else unfinished input

/-! ## Words -/

theorem not_isNone_of_mem {ps : List (Option UInt8)} (h : ps = curr.map some) :
    ∀ p ∈ ps, Option.isNone p = false := by
  rintro p hp
  rw [h] at hp
  obtain ⟨c, -, rfl⟩ := List.mem_map.mp hp
  rfl

theorem map_field : (field (curr.map some)).map (fun f => f.filterMap id) = field curr := by
  cases curr with
  | nil => rfl
  | cons c cs =>
    have hne : (c :: cs).map some ≠ [] := List.cons_ne_nil _ _
    rw [field_of_ne_nil hne, field_of_ne_nil (List.cons_ne_nil _ _), List.map_singleton,
      List.filterMap_map]
    simp

/-- The last word. -/
theorem words_end : words (curr.map some) = field curr := by
  rw [words, fields_of_forall (not_isNone_of_mem rfl), map_field]

/-- A word ends at a separator. -/
theorem words_separator (ps : List (Option UInt8)) :
    words (curr.map some ++ none :: ps) = field curr ++ words ps := by
  rw [words, fields_append_cons (not_isNone_of_mem rfl) rfl, List.map_append, map_field]
  rfl

/-- A character belongs to the word that was begun. -/
theorem map_some_char (c : UInt8) (ps : List (Option UInt8)) :
    curr.map some ++ some c :: ps = (curr ++ [c]).map some ++ ps := by
  rw [List.map_append, List.append_assoc]
  rfl

/-- The word that was begun is not longer than some word in the end. -/
theorem exists_longer_word (ps : List (Option UInt8)) (h : curr ≠ []) :
    ∃ w ∈ words (curr.map some ++ ps), curr.length ≤ w.length := by
  have hne : curr.map some ≠ [] := fun hnil => h (List.map_eq_nil_iff.mp hnil)
  obtain ⟨f, hf, rest, rfl⟩ := exists_field (p := Option.isNone) (not_isNone_of_mem rfl) hne
  refine ⟨_, List.mem_map.mpr ⟨_, hf, rfl⟩, ?_⟩
  rw [List.filterMap_append, List.length_append, List.filterMap_map]
  simp

/-! ## The loop -/

/-- What is still to come fits: no word is too long, there is room for the words in `argv`, and if a
backslash at the end escapes nothing, it is not the beginning of a word. -/
structure Fits (max_argc : Nat) (input : Bytes) (argv : List Bytes) (ps : List (Option UInt8)) :
    Prop where
  short : ∀ w ∈ words ps, w.length + 10 < CURR_SIZE
  few : argv.length + (words ps).length ≤ max_argc - 2
  finished : unfinished input = true → ∃ c, ps.getLast? = some (some c)

theorem Fits.room {ps : List (Option UInt8)} (h : Fits max_argc input argv (curr.map some ++ ps)) :
    curr.length + 10 < CURR_SIZE := by
  by_cases hnil : curr = []
  · rw [hnil]
    decide
  · obtain ⟨w, hw, hle⟩ := exists_longer_word ps hnil
    have hshort := h.short w hw
    omega

/-- At a separator the word that was begun goes to `argv`. -/
theorem Fits.separator {ps : List (Option UInt8)} {input' : Bytes}
    (h : Fits max_argc input argv (curr.map some ++ none :: ps))
    (hinput : unfinished input' = unfinished input) :
    Fits max_argc input' (argv ++ field curr) ([].map some ++ ps) := by
  have hwords : words (([] : Bytes).map some ++ ps) = words ps := rfl
  refine ⟨?_, ?_, ?_⟩
  · intro w hw
    refine h.short w ?_
    rw [words_separator]
    exact List.mem_append_right _ hw
  · have hfew := h.few
    rw [words_separator, List.length_append] at hfew
    rw [hwords, List.length_append]
    omega
  · intro hunfinished
    obtain ⟨c, hlast⟩ := h.finished (hinput ▸ hunfinished)
    rw [List.getLast?_append] at hlast
    cases ps with
    | nil => cases hlast
    | cons p ps => exact ⟨c, by simpa [List.getLast?_cons_cons] using hlast⟩

theorem unescape_ne_zero {c : UInt8} (h : c ≠ 0) : unescape c ≠ 0 := by
  unfold unescape
  split_ifs
  · decide
  · decide
  · decide
  · decide
  · exact h

theorem cstr_append_nul (h : 0 ∉ curr) : cstr (curr ++ [0]) = curr := by
  have hcurr : ∀ c ∈ curr, decide (c ≠ 0) = true := by
    intro c hc
    rw [decide_eq_true_eq]
    rintro rfl
    exact h hc
  exact (List.takeWhile_append_of_pos hcurr).trans (List.append_nil curr)

/-- At the end, what is stored goes to `argv` as far as it is a string. -/
theorem split_loop_end {stored : Bytes} (hstored : cstr stored = curr) (hne : curr ≠ [])
    (hfew : argv.length + 1 ≤ max_argc - 2) :
    split_loop max_argc [] stored in_quotes argv = argv ++ [curr] := by
  have hlen : stored.length ≠ 0 := by
    intro hzero
    rw [List.eq_nil_of_length_eq_zero hzero] at hstored
    exact hne hstored.symm
  rw [split_loop, if_pos ⟨hlen, by omega⟩, hstored]

/-- At a separator it does, too. -/
theorem split_loop_space {c : UInt8} (hspace : (!in_quotes && isspace c) = true) (hcurr : 0 ∉ curr)
    (hfew : argv.length + (field curr).length ≤ max_argc - 2) :
    split_loop max_argc (c :: input) curr in_quotes argv =
      split_loop max_argc input [] in_quotes (argv ++ field curr) := by
  rw [split_loop.eq_def]
  simp only
  rw [if_pos (.inr hspace)]
  by_cases hnil : curr = []
  · rw [hnil, if_neg (by decide), field_nil, List.append_nil]
  · rw [field_of_ne_nil hnil] at hfew ⊢
    rw [List.length_singleton] at hfew
    rw [if_pos (fun hzero => hnil (List.eq_nil_of_length_eq_zero hzero)), if_neg (by omega),
      cstr_eq_self hcurr]

theorem not_emitted {c : UInt8} (hroom : curr.length + 10 < CURR_SIZE)
    (hspace : ¬ (!in_quotes && isspace c) = true) :
    ¬ (curr.length + 10 ≥ CURR_SIZE ∨ (!in_quotes && isspace c) = true) := by
  rintro (hfull | hsep)
  · exact absurd hroom (Nat.not_lt.mpr hfull)
  · exact hspace hsep

theorem not_space_of_isspace {c : UInt8} (h : isspace c = false) :
    ¬ (!in_quotes && isspace c) = true := by
  rw [h, Bool.and_false]
  exact Bool.false_ne_true

theorem split_loop_quote (hroom : curr.length + 10 < CURR_SIZE) :
    split_loop max_argc (QUOTE :: input) curr in_quotes argv =
      split_loop max_argc input curr (!in_quotes) argv := by
  rw [split_loop.eq_def]
  simp only
  rw [if_neg (not_emitted hroom (not_space_of_isspace rfl)), if_pos trivial]

theorem split_loop_escape (d : UInt8) (hroom : curr.length + 10 < CURR_SIZE) :
    split_loop max_argc (BACKSLASH :: d :: input) curr in_quotes argv =
      split_loop max_argc input (curr ++ [unescape d]) in_quotes argv := by
  rw [split_loop.eq_def]
  simp only
  rw [if_neg (not_emitted hroom (not_space_of_isspace rfl)), if_neg (by decide), if_pos trivial]

/-- A backslash at the end stores the NUL. -/
theorem split_loop_unfinished (hroom : curr.length + 10 < CURR_SIZE) :
    split_loop max_argc [BACKSLASH] curr in_quotes argv =
      split_loop max_argc [] (curr ++ [0]) in_quotes argv := by
  rw [split_loop.eq_def]
  simp only
  rw [if_neg (not_emitted hroom (not_space_of_isspace rfl)), if_neg (by decide), if_pos trivial]

theorem split_loop_char {c : UInt8} (hroom : curr.length + 10 < CURR_SIZE)
    (hspace : ¬ (!in_quotes && isspace c) = true) (hquote : c ≠ QUOTE) (hescape : c ≠ BACKSLASH) :
    split_loop max_argc (c :: input) curr in_quotes argv =
      split_loop max_argc input (curr ++ [c]) in_quotes argv := by
  rw [split_loop.eq_def]
  simp only
  rw [if_neg (not_emitted hroom hspace), if_neg hquote, if_neg hescape]

theorem unfinished_cons {c : UInt8} (h : c ≠ BACKSLASH) :
    unfinished (c :: input) = unfinished input := by
  rw [unfinished.eq_def]
  simp only
  rw [if_neg h]

theorem unfinished_escape (d : UInt8) : unfinished (BACKSLASH :: d :: input) = unfinished input := by
  rw [unfinished.eq_def]
  simp only
  rw [if_pos trivial]

theorem Fits.of_eq {ps ps' : List (Option UInt8)} {input' : Bytes} (h : Fits max_argc input argv ps)
    (hps : ps = ps') (hinput : unfinished input = unfinished input') :
    Fits max_argc input' argv ps' :=
  ⟨hps ▸ h.short, hps ▸ h.few, fun hunfinished => hps ▸ h.finished (hinput ▸ hunfinished)⟩

theorem nul_notMem_append {c : UInt8} (hcurr : 0 ∉ curr) (hc : c ≠ 0) : 0 ∉ curr ++ [c] := by
  rw [List.mem_append, List.mem_singleton]
  rintro (hmem | hzero)
  · exact hcurr hmem
  · exact hc hzero.symm

/-- **The loop appends the words among what was begun and what is still to come.** -/
theorem split_loop_eq (hnul : 0 ∉ input) (hcurr : 0 ∉ curr)
    (h : Fits max_argc input argv (curr.map some ++ pieces in_quotes input)) :
    split_loop max_argc input curr in_quotes argv =
      argv ++ words (curr.map some ++ pieces in_quotes input) := by
  have hroom := h.room
  fun_induction pieces in_quotes input generalizing curr argv with
  | case1 in_quotes =>
    have hfew := h.few
    rw [List.append_nil, words_end] at hfew ⊢
    by_cases hnil : curr = []
    · rw [hnil, split_loop, if_neg (fun hlen => hlen.1 rfl), field_nil, List.append_nil]
    · rw [field_of_ne_nil hnil] at hfew ⊢
      exact split_loop_end (cstr_eq_self hcurr) hnil hfew
  | case2 in_quotes input ih =>
    -- a quote
    rw [split_loop_quote hroom]
    exact ih (List.not_mem_of_not_mem_cons hnul) hcurr (h.of_eq rfl (unfinished_cons (by decide))) hroom
  | case3 in_quotes =>
    -- a backslash at the end: a word was begun, and the NUL behind it changes nothing
    have hfew := h.few
    have hlast := h.finished rfl
    rw [List.append_nil] at hfew hlast ⊢
    have hnil : curr ≠ [] := by
      rintro rfl
      obtain ⟨c, hc⟩ := hlast
      cases hc
    rw [words_end, field_of_ne_nil hnil] at hfew ⊢
    rw [split_loop_unfinished hroom]
    exact split_loop_end (cstr_append_nul hcurr) hnil hfew
  | case4 in_quotes d input hquote ih =>
    -- a character behind a backslash
    have hinput : 0 ∉ d :: input := List.not_mem_of_not_mem_cons hnul
    have hd : d ≠ 0 := fun hzero => hinput (hzero ▸ List.mem_cons_self)
    rw [map_some_char] at h ⊢
    have hfits := h.of_eq rfl (unfinished_escape d)
    rw [split_loop_escape d hroom]
    exact ih (List.not_mem_of_not_mem_cons hinput) (nul_notMem_append hcurr (unescape_ne_zero hd))
      hfits hfits.room
  | case5 in_quotes c input hquote hescape hspace ih =>
    -- a separator
    have hfits := h.separator (unfinished_cons hescape).symm
    have hfew := h.few
    rw [words_separator, List.length_append] at hfew
    rw [split_loop_space hspace hcurr (by omega), words_separator, ← List.append_assoc]
    exact ih (List.not_mem_of_not_mem_cons hnul) List.not_mem_nil hfits hfits.room
  | case6 in_quotes c input hquote hescape hspace ih =>
    -- any other character
    have hc : c ≠ 0 := fun hzero => hnul (hzero ▸ List.mem_cons_self)
    rw [map_some_char] at h ⊢
    have hfits := h.of_eq rfl (unfinished_cons hescape)
    rw [split_loop_char hroom hspace hquote hescape]
    exact ih (List.not_mem_of_not_mem_cons hnul) (nul_notMem_append hcurr hc) hfits hfits.room

/-! ## The arguments -/

/-- The text yields at most `max_argc - 2` arguments, each of them is short enough for `curr`, and no
backslash at the end stands where an argument would begin. -/
def TextFits (max_argc : Nat) (input : Bytes) : Prop := Fits max_argc input [] (pieces false input)

theorem split_cmd_eq (hnul : 0 ∉ input) (h : TextFits max_argc input) :
    split_cmd (some input) max_argc =
      ((tokens input).length, (tokens input).map some ++ [none]) := by
  have hloop : split_loop max_argc input [] false [] = tokens input :=
    split_loop_eq hnul List.not_mem_nil h
  simp only [split_cmd, hloop]

/-- The daemon gets the fixed arguments, and the extra options behind them. -/
theorem start_sshd_args_eq (port : Int) (hnul : 0 ∉ input)
    (h : TextFits (ARGV_SIZE - (fixedArgs port).length) input) :
    start_sshd_args port (some input) =
      ((fixedArgs port ++ tokens input).length, (fixedArgs port ++ tokens input).map some ++ [none]) := by
  have hextra := split_cmd_eq hnul h
  simp only [start_sshd_args, from_java_string, Option.getD_some, hextra, List.length_append,
    List.map_append, List.append_assoc]

/-! ## Arguments that are too long -/

/-- The character stands for itself. -/
def Plain (c : UInt8) : Prop := isspace c = false ∧ c ≠ QUOTE ∧ c ≠ BACKSLASH

theorem pieces_plain (h : ∀ c ∈ input, Plain c) : pieces in_quotes input = input.map some := by
  induction input with
  | nil => rfl
  | cons c input ih =>
    obtain ⟨hspace, hquote, hescape⟩ := h c List.mem_cons_self
    have hinput := ih fun c hc => h c (List.mem_cons_of_mem _ hc)
    rw [pieces.eq_def]
    simp only
    rw [if_neg hquote, if_neg hescape, if_neg (not_space_of_isspace hspace), hinput]
    rfl

theorem tokens_plain (h : ∀ c ∈ input, Plain c) : tokens input = field input := by
  rw [tokens, pieces_plain h, words_end]

/-- Plain characters are stored as long as there is room. -/
theorem split_loop_plain {xs : Bytes} (h : ∀ c ∈ xs, Plain c)
    (hroom : curr.length + xs.length + 10 ≤ CURR_SIZE) :
    split_loop max_argc (xs ++ input) curr in_quotes argv =
      split_loop max_argc input (curr ++ xs) in_quotes argv := by
  induction xs generalizing curr with
  | nil => rw [List.nil_append, List.append_nil]
  | cons c xs ih =>
    obtain ⟨hspace, hquote, hescape⟩ := h c List.mem_cons_self
    have hxs : ∀ c ∈ xs, Plain c := fun c hc => h c (List.mem_cons_of_mem _ hc)
    have hlen : (curr ++ [c]).length = curr.length + 1 := List.length_append
    rw [List.length_cons] at hroom
    rw [List.cons_append, split_loop_char (by omega) (not_space_of_isspace hspace) hquote hescape,
      ih hxs (by omega), List.append_assoc]
    rfl

/-- **Where there is no room left, the argument ends, and the next character is lost**, whatever it
is. -/
theorem split_loop_overlong {xs : Bytes} (c : UInt8) (hnul : 0 ∉ xs) (h : ∀ c ∈ xs, Plain c)
    (hfull : xs.length + 10 = CURR_SIZE) (hfew : argv.length + 2 < max_argc) :
    split_loop max_argc (xs ++ c :: input) [] in_quotes argv =
      split_loop max_argc input [] in_quotes (argv ++ [xs]) := by
  have hstored : ([] : Bytes).length + xs.length + 10 ≤ CURR_SIZE := by
    rw [List.length_nil]
    omega
  have hne : xs.length ≠ 0 := by
    rintro hzero
    rw [hzero] at hfull
    cases hfull
  rw [split_loop_plain h hstored, List.nil_append, split_loop.eq_def]
  simp only
  rw [if_pos (.inl hfull.ge), if_pos hne, if_neg (by omega), cstr_eq_self hnul]

/-- An argument of 992 characters: `split_cmd` makes two of it, and one character is in none of them. -/
def overlong : Bytes := List.replicate 990 0x61 ++ [0x78, 0x62]

theorem overlong_plain : ∀ c ∈ overlong, Plain c := by
  have hplain : Plain 0x61 ∧ Plain 0x78 ∧ Plain 0x62 := by
    unfold Plain
    decide
  intro c hc
  rcases List.mem_append.mp hc with hrun | hend
  · rw [List.eq_of_mem_replicate hrun]
    exact hplain.1
  · simp only [List.mem_cons, List.not_mem_nil, or_false] at hend
    rcases hend with rfl | rfl
    · exact hplain.2.1
    · exact hplain.2.2

end SimpleSshd.Jni
