import SimpleSshd.Dropbear.Proofs.KeyLineProofs
import SimpleSshd.Dropbear.Proofs.OptionsProofs
import Mathlib.Algebra.Group.Nat.Even
import Mathlib.Data.List.Infix

/-!
# Proofs: the two scanners of a quoted command

`svr_add_pubkey_options` ends a command at the first quote without a backslash. `checkpubkey_line`,
which looks for the end of the options before that, counts a quote with a backslash as well: after an
odd number of them in the command it takes a blank of the command for the end of the options.
-/

namespace SimpleSshd.Dropbear

open Fallible Framing

variable {algo blob s field rest bs : Bytes} {opts opts' : Option PubKeyOptions} {n : Nat}

/-! ## Where the options end -/

/-- Every blank has an odd number of quotes before it, `n` of them before the bytes. -/
def Enclosed (n : Nat) (bs : Bytes) : Prop :=
  ∀ pre c post, bs = pre ++ c :: post → isBlank c = true → Odd (n + pre.count QUOTE)

theorem enclosed_nil (n : Nat) : Enclosed n [] := by
  intro pre c post hsplit
  exact absurd hsplit.symm (List.append_ne_nil_of_right_ne_nil _ (List.cons_ne_nil _ _))

theorem enclosed_cons {c : UInt8} {cs : Bytes} :
    Enclosed n (c :: cs) ↔ (isBlank c = true → Odd n) ∧ Enclosed (n + [c].count QUOTE) cs := by
  constructor
  · intro h
    refine ⟨h [] c cs rfl, ?_⟩
    intro pre d post hsplit hblank
    have hodd := h (c :: pre) d post (congrArg (c :: ·) hsplit) hblank
    rwa [← List.singleton_append, List.count_append, ← Nat.add_assoc] at hodd
  · rintro ⟨hfirst, hrest⟩ pre d post hsplit hblank
    cases pre with
    | nil =>
      obtain ⟨rfl, -⟩ := List.cons.inj hsplit
      exact hfirst hblank
    | cons p pre =>
      obtain ⟨rfl, htail⟩ := List.cons.inj hsplit
      rw [← List.singleton_append, List.count_append, ← Nat.add_assoc]
      exact hrest pre d post htail hblank

theorem enclosed_append {as bs : Bytes} :
    Enclosed n (as ++ bs) ↔ Enclosed n as ∧ Enclosed (n + as.count QUOTE) bs := by
  induction as generalizing n with
  | nil => exact ⟨fun h => ⟨enclosed_nil n, h⟩, fun h => h.2⟩
  | cons c as ih =>
    rw [List.cons_append, enclosed_cons, enclosed_cons, ih, and_assoc, Nat.add_assoc,
      ← List.count_append, List.singleton_append]

/-- The next state of the quotes; the state of the backslash has no part in it. -/
theorem quoted_next (n : Nat) (escape : Bool) (c : UInt8) :
    (if (!(!escape && c == BACKSLASH) && c == QUOTE) = true then !decide (Odd n)
      else decide (Odd n)) = decide (Odd (n + [c].count QUOTE)) := by
  by_cases hquote : c = QUOTE
  · subst hquote
    have hone : n + [QUOTE].count QUOTE = n + 1 := rfl
    rw [hone, if_pos (by cases escape <;> decide), ← decide_not, decide_eq_decide]
    exact Nat.odd_add_one.symm
  · rw [List.count_singleton, if_neg (by simp [hquote]), if_neg (by simp [hquote]), Nat.add_zero]

/-- **The options go on** as long as every blank is enclosed. -/
theorem options_scan_append (h : Enclosed n field) (escape : Bool) (bs : Bytes) :
    ∃ escape', options_scan (decide (Odd n)) escape (field ++ bs) =
      (field ++ (options_scan (decide (Odd (n + field.count QUOTE))) escape' bs).1,
        (options_scan (decide (Odd (n + field.count QUOTE))) escape' bs).2) := by
  induction field generalizing n escape with
  | nil => exact ⟨escape, rfl⟩
  | cons c field ih =>
    obtain ⟨hfirst, hrest⟩ := enclosed_cons.mp h
    obtain ⟨escape', hscan⟩ := ih hrest (!escape && c == BACKSLASH)
    have hgo : ¬ (!decide (Odd n) && isBlank c) = true := by
      intro hend
      obtain ⟨heven, hblank⟩ := Bool.and_eq_true_iff.mp hend
      rw [decide_eq_true (hfirst hblank)] at heven
      cases heven
    refine ⟨escape', ?_⟩
    rw [List.cons_append, options_scan, if_neg hgo]
    dsimp only
    rw [quoted_next, hscan, Nat.add_assoc, ← List.count_append, List.singleton_append]
    rfl

theorem options_scan_enclosed {escape : Bool}
    (h : options_scan (decide (Odd n)) escape bs = (field, rest)) : Enclosed n field := by
  induction bs generalizing n escape field with
  | nil =>
    obtain ⟨rfl, -⟩ := Prod.mk.inj h
    exact enclosed_nil n
  | cons c cs ih =>
    rw [options_scan] at h
    split_ifs at h with hend
    · obtain ⟨rfl, -⟩ := Prod.mk.inj h
      exact enclosed_nil n
    · dsimp only at h
      rw [quoted_next] at h
      obtain ⟨rfl, rfl⟩ := Prod.mk.inj h
      refine enclosed_cons.mpr ⟨fun hblank => ?_, ih rfl⟩
      by_contra heven
      exact hend (by rw [hblank, decide_eq_false heven]; rfl)

/-! ## The quoted command -/

theorem quoted_cons (c : UInt8) (s : Bytes) :
    quoted (c :: s) =
      (if c = QUOTE ∨ c = BACKSLASH then BACKSLASH :: c :: quoted s else c :: quoted s) := by
  rw [quoted, List.flatMap_cons]
  split_ifs
  · rfl
  · rfl

theorem commandText_quoted (s : Bytes) : CommandText (quoted s) := by
  induction s with
  | nil => exact .nil
  | cons c s ih =>
    rw [quoted_cons]
    split_ifs with hc
    · exact .escaped c ih
    · rw [not_or] at hc
      exact .plain hc.1 hc.2 ih

theorem count_quoted (s : Bytes) : (quoted s).count QUOTE = s.count QUOTE := by
  induction s with
  | nil => rfl
  | cons c s ih =>
    rw [quoted_cons]
    split_ifs
    · rw [List.count_cons_of_ne (by decide), List.count_cons, List.count_cons, ih]
    · rw [List.count_cons, List.count_cons, ih]

theorem enclosed_quoted : Enclosed n (quoted s) ↔ Enclosed n s := by
  induction s generalizing n with
  | nil => rfl
  | cons c s ih =>
    rw [quoted_cons]
    split_ifs
    · have hblank : isBlank BACKSLASH = true → Odd n := fun h => absurd h (by decide)
      rw [enclosed_cons, and_iff_right hblank, enclosed_cons, enclosed_cons, ih]
      rfl
    · rw [enclosed_cons, enclosed_cons, ih]

theorem mem_quoted {c : UInt8} (h : c ∈ quoted s) : c ∈ s ∨ c = BACKSLASH := by
  obtain ⟨d, hd, hc⟩ := List.mem_flatMap.mp h
  split_ifs at hc
  · rcases List.mem_pair.mp hc with rfl | rfl
    · exact .inr rfl
    · exact .inl hd
  · rw [List.mem_singleton.mp hc]
    exact .inl hd

/-! ## The options of the line -/

/-- The options of the line: a command and nothing else. -/
def commandItem (s : Bytes) : Bytes := ascii "command=\"" ++ quoted s ++ [QUOTE]

theorem commandLine_eq (s algo blob : Bytes) :
    commandLine s algo blob = commandItem s ++ SP :: (algo ++ SP :: base64_encode blob) := by
  simp only [commandLine, commandItem, List.append_assoc, List.cons_append, List.nil_append]

theorem count_commandItem (s : Bytes) : (commandItem s).count QUOTE = s.count QUOTE + 2 := by
  have hopen : (ascii "command=\"").count QUOTE = 1 := by decide
  have hclose : [QUOTE].count QUOTE = 1 := rfl
  rw [commandItem, List.count_append, List.count_append, count_quoted, hopen, hclose]
  omega

theorem enclosed_commandItem : Enclosed 0 (commandItem s) ↔ Enclosed 1 s := by
  have hopen : Enclosed 0 (ascii "command=\"") := by
    intro pre c post hsplit hblank
    have hmem : c ∈ ascii "command=\"" := by
      rw [hsplit]
      exact List.mem_append_right _ List.mem_cons_self
    exact absurd hblank (Bool.not_eq_true _ ▸
      (show ∀ c ∈ ascii "command=\"", isBlank c = false by decide +kernel) c hmem)
  have hclose : ∀ {m}, Enclosed m [QUOTE] := fun {m} =>
    enclosed_cons.mpr ⟨fun h => absurd h (by decide), enclosed_nil _⟩
  have hone : 0 + (ascii "command=\"").count QUOTE = 1 := by decide
  rw [commandItem, enclosed_append, enclosed_append, hone, enclosed_quoted]
  exact ⟨fun h => h.1.2, fun h => ⟨⟨hopen, h⟩, hclose⟩⟩

/-- `svr_add_pubkey_options` finds the command. -/
theorem svr_add_pubkey_options_commandItem (s : Bytes) :
    svr_add_pubkey_options (commandItem s) =
      (DROPBEAR_SUCCESS, some { forced_command := some (quoted s) }) := by
  have htext : OptionsText Opener [.command (quoted s)] (commandItem s) :=
    .one ⟨commandText_quoted s, ascii "command=\"", rfl, rfl⟩
  have hroom : Room {} [.command (quoted s)] := Nat.le_refl 1
  rw [svr_add_pubkey_options, add_pubkey_options_loop_text htext hroom]
  rfl

/-- A command is an item of the options, and has its name and quotes around it. -/
theorem command_length {items : List OptionItem} {text : Bytes} (h : OptionsText Opener items field)
    (htext : text ∈ commandsOf items) : text.length + 10 ≤ field.length := by
  have hitem : ∀ {item : OptionItem} {bs : Bytes}, item.Spells Opener bs →
      item.command? = some text → text.length + 10 ≤ bs.length := by
    intro item bs hspells hcommand
    cases item with
    | command t =>
      obtain ⟨-, opener, hopener, rfl⟩ := hspells
      cases hcommand
      have hlen : opener.length = 9 := by
        rw [← List.length_map toLower, hopener]
        decide
      rw [List.length_append, List.length_append, hlen, List.length_singleton]
      omega
    | empty => cases hcommand
    | no_port_forwarding => cases hcommand
    | no_pty => cases hcommand
  induction h with
  | @one item bs hspells =>
    obtain ⟨item', hmem, hcommand⟩ := List.mem_filterMap.mp htext
    rw [List.mem_singleton.mp hmem] at hcommand
    exact hitem hspells hcommand
  | @cons item items bs rest hspells _ ih =>
    rw [List.length_append, List.length_cons]
    obtain ⟨item', hmem, hcommand⟩ := List.mem_filterMap.mp htext
    rcases List.mem_cons.mp hmem with rfl | hmem
    · have hlen := hitem hspells hcommand
      omega
    · have hlen := ih (List.mem_filterMap.mpr ⟨item', hmem, hcommand⟩)
      omega

/-- **The command that is found** is that of the line only if the options end after its closing
quote. -/
theorem svr_add_pubkey_options_command_only (hline : field <+: commandItem s ++ SP :: rest)
    (h : svr_add_pubkey_options field =
      (DROPBEAR_SUCCESS, some { forced_command := some (quoted s) })) : field = commandItem s := by
  have hloop : add_pubkey_options_loop {} field = some { forced_command := some (quoted s) } := by
    unfold svr_add_pubkey_options at h
    cases hloop : add_pubkey_options_loop {} field with
    | none =>
      rw [hloop] at h
      cases h
    | some o =>
      rw [hloop] at h
      cases h
      rfl
  obtain ⟨items, htext, -, hopts⟩ := add_pubkey_options_loop_items hloop
  have hhead : (commandsOf items).head? = some (quoted s) := by
    have hforced := congrArg PubKeyOptions.forced_command hopts
    exact hforced.symm
  have hlen : (commandItem s).length ≤ field.length := by
    have hcommand := command_length htext (List.mem_of_head? hhead)
    have hitem : (commandItem s).length = (quoted s).length + 10 := by
      have hopen : (ascii "command=\"").length = 9 := by decide
      rw [commandItem, List.length_append, List.length_append, hopen, List.length_singleton]
      omega
    omega
  obtain ⟨more, rfl⟩ := List.prefix_of_prefix_length_le (List.prefix_append _ _) hline hlen
  cases more with
  | nil => exact List.append_nil _
  | cons c more =>
    -- after the closing quote there is a space, and no option begins with one
    obtain ⟨tail, htail⟩ := hline
    rw [List.append_assoc] at htail
    obtain ⟨rfl, -⟩ := List.cons.inj (List.append_cancel_left htail)
    have hopener : Opener (ascii "command=\"") := rfl
    have hone := match_one_option_command (commandText_quoted s) hopener
      (show (PubKeyOptions.forced_command {}) = none from rfl) (SP :: more)
    have hne : commandItem s ++ SP :: more ≠ [] :=
      List.append_ne_nil_of_right_ne_nil _ (List.cons_ne_nil _ _)
    have hbad := add_pubkey_options_loop_bad (by decide) hone hne
    exact absurd (hloop.symm.trans hbad) (Option.some_ne_none _)

/-! ## The line -/

theorem have_algo_plain (h : have_algo algo sshhostkey = true) :
    0 ∉ algo ∧ algo.head? ≠ (ascii "command=\"").head? := by
  obtain ⟨name, hmem, hname⟩ := List.any_eq_true.mp h
  obtain rfl := of_decide_eq_true hname
  exact (show ∀ name ∈ sshhostkey, 0 ∉ name ∧ name.head? ≠ (ascii "command=\"").head? by decide)
    name hmem

/-- The line gets as far as the scan for the end of its options. -/
theorem checkpubkey_line_command (opts : Option PubKeyOptions) (halgo : have_algo algo sshhostkey = true)
    (hs : 0 ∉ s) (hlen : (commandLine s algo blob).length ≤ MAX_AUTHKEYS_LINE)
    (hscan : options_scan false false (commandLine s algo blob) = (field, rest)) :
    checkpubkey_line (commandLine s algo blob) algo blob opts =
      if algo.length + 3 > rest.length then pure (DROPBEAR_FAILURE, opts)
      else if rest.take algo.length ≠ algo then pure (DROPBEAR_FAILURE, opts)
      else checkpubkey_tail algo blob opts (some field) (rest.drop algo.length) := by
  obtain ⟨hnul, hhead⟩ := have_algo_plain halgo
  have hlong : algo.length + 12 ≤ (commandLine s algo blob).length := by
    have hopen : (ascii "command=\"").length = 9 := by decide
    simp only [commandLine, List.length_append, List.length_cons, hopen]
    omega
  have hsize : ¬ ((commandLine s algo blob).length < MIN_AUTHKEYS_LINE ∨
      (commandLine s algo blob).length > MAX_AUTHKEYS_LINE) := by
    rw [MIN_AUTHKEYS_LINE]
    omega
  have h0 : 0 ∉ commandLine s algo blob := by
    simp only [commandLine, List.mem_append, List.mem_cons, not_or]
    refine ⟨⟨by decide, fun h => ?_⟩, by decide, by decide, hnul, by decide, fun h => ?_⟩
    · rcases mem_quoted h with h | h
      · exact hs h
      · exact absurd h (by decide)
    · exact (base64_encode_plain h).1 rfl
  have htake : (commandLine s algo blob).take algo.length ≠ algo := by
    intro htake
    cases algo with
    | nil => exact absurd halgo (by decide)
    | cons a algo =>
      obtain ⟨hfirst, -⟩ := List.cons.inj htake
      exact hhead (congrArg some hfirst.symm)
  have hskip : (commandLine s algo blob).dropWhile isBlank = commandLine s algo blob := rfl
  rw [checkpubkey_line, if_neg hsize, if_neg h0, if_neg (by omega), if_neg htake, hskip]
  have hcons : ∃ cs, commandLine s algo blob = 0x63 :: cs := ⟨_, rfl⟩
  obtain ⟨cs, hcs⟩ := hcons
  rw [hcs] at hscan ⊢
  dsimp only
  rw [if_neg (by decide), hscan]

/-- A line that is accepted has options that are accepted. -/
theorem checkpubkey_tail_parsed
    (h : checkpubkey_tail algo blob opts (some field) rest = .ok (DROPBEAR_SUCCESS, opts')) :
    svr_add_pubkey_options field = (DROPBEAR_SUCCESS, opts') := by
  cases rest with
  | nil => exact absurd h (dropbear_exit_ne_ok _ _)
  | cons c rest =>
    simp only [checkpubkey_tail] at h
    split_ifs at h
    · cases h
    · obtain ⟨ret, -, h⟩ := bind_eq_ok.mp h
      cases ret with
      | DROPBEAR_FAILURE => cases h
      | DROPBEAR_SUCCESS => exact (pure_eq_ok _ _).mp h

/-- The key at the end of a line is found. -/
theorem checkpubkey_tail_encoded {tail : Bytes} (opts : Option PubKeyOptions)
    (hblob : takeField blob = some (algo, tail)) (hlen : (base64_encode blob).length ≤ MAX_AUTHKEYS_LINE) :
    checkpubkey_tail algo blob opts (some field) (SP :: base64_encode blob) =
      pure (svr_add_pubkey_options field) := by
  have htext : (base64_encode blob).takeWhile (· ≠ SP) = base64_encode blob :=
    List.takeWhile_eq_self_iff.mpr fun c hc => decide_eq_true (base64_encode_plain hc).2.1
  have hne : base64_encode blob ≠ [] := by
    have h4 := (takeField_eq_some.mp hblob).1
    have hle := length_base64_encode blob
    exact List.ne_nil_of_length_pos (by omega)
  have hcmp : cmp_base64_key blob algo (base64_encode blob) = .ok DROPBEAR_SUCCESS := by
    rw [cmp_base64_key_eq hblob hlen hne (base64_decode_encode blob), if_pos ⟨rfl, rfl⟩]
  rw [checkpubkey_tail, if_neg (not_not_intro rfl), htext, hcmp, ok_bind]

/-! ## The two scanners -/

/-- Every blank of the command has an even number of quotes before it, and there is an even number of
them in the command. -/
structure EvenQuotes (s : Bytes) : Prop where
  blanks : ∀ pre c post, s = pre ++ c :: post → isBlank c = true → Even (pre.count QUOTE)
  all : Even (s.count QUOTE)

theorem enclosed_one : Enclosed 1 s ↔
    ∀ pre c post, s = pre ++ c :: post → isBlank c = true → Even (pre.count QUOTE) := by
  simp only [Enclosed, Nat.add_comm 1, Nat.odd_add_one, Nat.not_odd_iff_even]

/-- The scan from the closing quote on. -/
theorem options_scan_closed (rest : Bytes) (hall : Enclosed 0 (commandItem s)) : ∃ escape,
    options_scan false false (commandItem s ++ SP :: rest) =
      (commandItem s ++ (options_scan (decide (Odd (s.count QUOTE))) escape (SP :: rest)).1,
        (options_scan (decide (Odd (s.count QUOTE))) escape (SP :: rest)).2) := by
  obtain ⟨escape, hscan⟩ := options_scan_append hall false (SP :: rest)
  have hparity : decide (Odd (0 + (commandItem s).count QUOTE)) = decide (Odd (s.count QUOTE)) := by
    rw [count_commandItem, decide_eq_decide, Nat.zero_add, Nat.odd_iff, Nat.odd_iff, Nat.add_mod_right]
  rw [hparity] at hscan
  exact ⟨escape, hscan⟩

/-- If the quotes are even, the options end after the closing quote. -/
theorem EvenQuotes.options_scan (h : EvenQuotes s) (rest : Bytes) :
    options_scan false false (commandItem s ++ SP :: rest) = (commandItem s, rest) := by
  obtain ⟨escape, hscan⟩ :=
    options_scan_closed rest (enclosed_commandItem.mpr (enclosed_one.mpr h.blanks))
  rw [hscan, decide_eq_false (Nat.not_odd_iff_even.mpr h.all), Dropbear.options_scan, if_pos (by decide),
    List.append_nil]

/-- If they are not, the options end earlier, or the scan goes on after the closing quote. -/
theorem evenQuotes_of_options_scan (rest : Bytes)
    (h : (options_scan false false (commandItem s ++ SP :: rest)).1 = commandItem s) :
    EvenQuotes s := by
  have hall : Enclosed 0 (commandItem s) := options_scan_enclosed (Prod.ext h rfl)
  refine ⟨enclosed_one.mp (enclosed_commandItem.mp hall), Nat.not_odd_iff_even.mp ?_⟩
  intro hodd
  obtain ⟨escape, hscan⟩ := options_scan_closed rest hall
  rw [hscan, decide_eq_true hodd, options_scan, if_neg (by decide)] at h
  exact absurd (List.append_right_eq_self.mp h) (List.cons_ne_nil _ _)

/-- **The option scanner and the option parser agree on quoting** exactly if every blank of the command
is preceded by an even number of quotes and the number of quotes is even. -/
theorem quoting_agrees (s algo blob tail : Bytes) (opts : Option PubKeyOptions)
    (halgo : have_algo algo sshhostkey = true) (hblob : takeField blob = some (algo, tail))
    (hs : 0 ∉ s) (hlen : (commandLine s algo blob).length ≤ MAX_AUTHKEYS_LINE) :
    checkpubkey_line (commandLine s algo blob) algo blob opts =
        .ok (DROPBEAR_SUCCESS, some { forced_command := some (quoted s) }) ↔
      EvenQuotes s := by
  constructor
  · intro haccept
    obtain ⟨field, rest, hscan⟩ : ∃ field rest,
      options_scan false false (commandLine s algo blob) = (field, rest) := ⟨_, _, rfl⟩
    rw [checkpubkey_line_command opts halgo hs hlen hscan] at haccept
    split_ifs at haccept
    · cases haccept
    · cases haccept
    · have hline : field <+: commandItem s ++ SP :: (algo ++ SP :: base64_encode blob) := by
        rw [← commandLine_eq]
        rcases (options_scan_spec hscan).2 with ⟨hall, -⟩ | ⟨sep, -, hall⟩
        · rw [hall]
        · exact ⟨_, hall.symm⟩
      have hfield := svr_add_pubkey_options_command_only hline (checkpubkey_tail_parsed haccept)
      rw [commandLine_eq] at hscan
      exact evenQuotes_of_options_scan _ (by rw [hscan, hfield])
  · intro heven
    have hscan := heven.options_scan (algo ++ SP :: base64_encode blob)
    rw [← commandLine_eq] at hscan
    have hline : (commandLine s algo blob).length =
        (commandItem s).length + (1 + (algo.length + (1 + (base64_encode blob).length))) := by
      rw [commandLine_eq, List.length_append, List.length_cons, List.length_append, List.length_cons]
      omega
    have h4 := (takeField_eq_some.mp hblob).1
    have hb64 := length_base64_encode blob
    have hroom : ¬ algo.length + 3 > (algo ++ SP :: base64_encode blob).length := by
      rw [List.length_append, List.length_cons]
      omega
    rw [checkpubkey_line_command opts halgo hs hlen hscan, if_neg hroom, List.take_left,
      if_neg (not_not_intro rfl), List.drop_left, checkpubkey_tail_encoded opts hblob (by omega),
      svr_add_pubkey_options_commandItem]
    rfl

/-- A command with a quoted word, and a space after it: `echo "a" b`. -/
def echoCommand : Bytes := ascii "echo \"a\" b"

theorem quoting_agrees_echoCommand :
    checkpubkey_line
        (ascii "command=\"echo \\\"a\\\" b\" ssh-rsa AAAAB3NzaC1yc2E=") (ascii "ssh-rsa")
        (be32 7 ++ ascii "ssh-rsa") none =
      .ok (DROPBEAR_SUCCESS, some { forced_command := some (ascii "echo \\\"a\\\" b") }) := by
  have heven : EvenQuotes echoCommand := evenQuotes_of_options_scan [] (by decide)
  have haccept := (quoting_agrees echoCommand (ascii "ssh-rsa") (be32 7 ++ ascii "ssh-rsa") [] none
    (by decide) (by decide) (by decide) (by decide)).mpr heven
  exact haccept

/-- **A space between quotes** of the command ends the options: the command `a "b c"` cannot be
written. -/
theorem quoted_space_rejected :
    checkpubkey_line (commandLine (ascii "a \"b c\"") (ascii "ssh-rsa") (be32 7 ++ ascii "ssh-rsa"))
        (ascii "ssh-rsa") (be32 7 ++ ascii "ssh-rsa") none = .ok (DROPBEAR_FAILURE, none) ∧
      svr_add_pubkey_options (commandItem (ascii "a \"b c\"")) =
        (DROPBEAR_SUCCESS, some { forced_command := some (quoted (ascii "a \"b c\"")) }) :=
  ⟨by decide +kernel, svr_add_pubkey_options_commandItem _⟩

end SimpleSshd.Dropbear
