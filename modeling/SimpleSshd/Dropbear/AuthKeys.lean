import SimpleSshd.Dropbear.SignKey

/-!
# `svr-authpubkey.c`, `svr-authpubkeyoptions.c`: the `authorized_keys` file

The line buffer is the list of its bytes, and a position in it is the list of the bytes from there
on. A file is what `fgetc` returns before the end.
-/

namespace SimpleSshd.Dropbear

def SP : UInt8 := 0x20
def TAB : UInt8 := 0x09
def LF : UInt8 := 0x0a
def CR : UInt8 := 0x0d
def HASH : UInt8 := 0x23
def QUOTE : UInt8 := 0x22
def COMMA : UInt8 := 0x2c
def BACKSLASH : UInt8 := 0x5c

/-! ## Base64 -/

/-- The table `map_base64`: the padding sign is 254, and what is not in the alphabet is 255. -/
def map_base64 (c : UInt8) : Nat :=
  let n := c.toNat
  if 65 ≤ n ∧ n ≤ 90 then n - 65
  else if 97 ≤ n ∧ n ≤ 122 then n - 71
  else if 48 ≤ n ∧ n ≤ 57 then n + 4
  else if n = 43 then 62
  else if n = 47 then 63
  else if n = 61 then 254
  else 255

/-- What is left over after the last group of four: `t` holds `y` digits, and `out` was written. -/
def base64_finish (outlen t y : Nat) (out : Bytes) : Option Bytes :=
  let t' := t * 2 ^ (6 * (4 - y))
  if y = 0 then some out
  else if y = 1 then none
  else if out.length + y - 1 > outlen then none
  else if y = 3 then some (out ++ [UInt8.ofNat (t' / 2 ^ 16), UInt8.ofNat (t' / 2 ^ 8)])
  else some (out ++ [UInt8.ofNat (t' / 2 ^ 16)])

/-- The loop of `_base64_decode_internal` in relaxed mode. -/
def base64_loop (outlen : Nat) : Bytes → Nat → Nat → Bytes → Option Bytes
  | [], t, y, out => base64_finish outlen t y out
  | c :: cs, t, y, out =>
    if map_base64 c = 254 ∨ map_base64 c = 255 then base64_loop outlen cs t y out
    else
      let t := t * 64 + map_base64 c
      if y + 1 = 4 then
        if out.length + 3 > outlen then none
        else base64_loop outlen cs 0 0
          (out ++ [UInt8.ofNat (t / 2 ^ 16), UInt8.ofNat (t / 2 ^ 8), UInt8.ofNat t])
      else base64_loop outlen cs t (y + 1) out

def base64_decode (input : Bytes) (outlen : Nat) : Option Bytes := base64_loop outlen input 0 0 []

/-- `cmp_base64_key` on the unread bytes of the line. -/
def cmp_base64_key (keyblob algoname line : Bytes) : Except Exit Status := do
  if line.length = 0 then pure DROPBEAR_FAILURE
  else
    -- big to be safe
    match base64_decode line (line.length * 2) with
    | none => pure DROPBEAR_FAILURE
    | some decoded =>
      let decodekey ← Buffer.holding decoded
      if decoded.length ≠ keyblob.length ∨ decoded ≠ keyblob then pure DROPBEAR_FAILURE
      else
        -- the algorithm of the line must be the one in the key
        let (filealgolen, decodekey) ← buf_getint decodekey
        let filealgo ← buf_getptr decodekey filealgolen
        if filealgolen ≠ algoname.length ∨ filealgo ≠ algoname then pure DROPBEAR_FAILURE
        else pure DROPBEAR_SUCCESS

/-! ## Options -/

/-- `struct PubKeyOptions`; agent and X11 forwarding are not compiled in. -/
structure PubKeyOptions where
  no_port_forwarding_flag : Bool := false
  no_pty_flag : Bool := false
  forced_command : Option Bytes := none
  deriving DecidableEq, Repr

def toLower (c : UInt8) : UInt8 := if 65 ≤ c.toNat ∧ c.toNat ≤ 90 then c + 32 else c

/-- What follows the option's name, if the options begin with it in any case. -/
def match_option (options_buf : Bytes) (opt_name : String) : Option Bytes :=
  let name := ascii opt_name
  if options_buf.length < name.length then none
  else if (options_buf.take name.length).map toLower = name.map toLower then
    some (options_buf.drop name.length)
  else none

/-- The text of a forced command up to its closing quote, and what follows the quote. -/
def forced_command_scan : Bool → Bytes → Option (Bytes × Bytes)
  | _, [] => none
  | escaped, c :: cs =>
    if !escaped && c == QUOTE then some ([], cs)
    else (forced_command_scan (!escaped && c == BACKSLASH) cs).map fun (cmd, rest) =>
      (c :: cmd, rest)

/-- One option: the options with it set and the bytes after it, or nothing if it is bad. Text that is
no option is left where it is. -/
def match_one_option (opts : PubKeyOptions) (options_buf : Bytes) :
    Option (PubKeyOptions × Bytes) :=
  match match_option options_buf "no-port-forwarding" with
  | some rest => some ({ opts with no_port_forwarding_flag := true }, rest)
  | none =>
    match match_option options_buf "no-pty" with
    | some rest => some ({ opts with no_pty_flag := true }, rest)
    | none =>
      match match_option options_buf "command=\"" with
      | some rest =>
        -- multiple command= options
        if opts.forced_command.isSome then none
        else (forced_command_scan false rest).map fun (cmd, rest) =>
          ({ opts with forced_command := some cmd }, rest)
      | none => some (opts, options_buf)

theorem match_option_length {options_buf rest : Bytes} {opt_name : String}
    (h : match_option options_buf opt_name = some rest) : rest.length ≤ options_buf.length := by
  simp only [match_option] at h
  split_ifs at h
  obtain rfl := Option.some.inj h
  rw [List.length_drop]
  omega

theorem forced_command_scan_length {escaped : Bool} {bs cmd rest : Bytes}
    (h : forced_command_scan escaped bs = some (cmd, rest)) : rest.length ≤ bs.length := by
  induction bs generalizing escaped cmd with
  | nil => simp only [forced_command_scan, reduceCtorEq] at h
  | cons c cs ih =>
    rw [forced_command_scan] at h
    split_ifs at h
    · obtain ⟨-, rfl⟩ := Prod.mk.inj (Option.some.inj h)
      simp only [List.length_cons]
      omega
    · obtain ⟨⟨cmd', rest'⟩, hscan, hcons⟩ := Option.map_eq_some_iff.mp h
      obtain ⟨-, rfl⟩ := Prod.mk.inj hcons
      have := ih hscan
      simp only [List.length_cons]
      omega

theorem match_one_option_length {opts opts' : PubKeyOptions} {options_buf rest : Bytes}
    (h : match_one_option opts options_buf = some (opts', rest)) :
    rest.length ≤ options_buf.length := by
  simp only [match_one_option] at h
  split at h
  case h_1 r hport =>
    obtain ⟨-, rfl⟩ := Prod.mk.inj (Option.some.inj h)
    exact match_option_length hport
  case h_2 =>
    split at h
    case h_1 r hpty =>
      obtain ⟨-, rfl⟩ := Prod.mk.inj (Option.some.inj h)
      exact match_option_length hpty
    case h_2 =>
      split at h
      case h_1 r hcommand =>
        split_ifs at h
        obtain ⟨⟨cmd, rest'⟩, hscan, hcons⟩ := Option.map_eq_some_iff.mp h
        obtain ⟨-, rfl⟩ := Prod.mk.inj hcons
        exact (forced_command_scan_length hscan).trans (match_option_length hcommand)
      case h_2 =>
        obtain ⟨-, rfl⟩ := Prod.mk.inj (Option.some.inj h)
        exact Nat.le_refl _

/-- The loop of `svr_add_pubkey_options`. A round ends the options or takes a comma. -/
def add_pubkey_options_loop (opts : PubKeyOptions) (options_buf : Bytes) : Option PubKeyOptions :=
  match options_buf with
  | [] => some opts
  | c :: cs =>
    match _h : match_one_option opts (c :: cs) with
    | none => none
    | some (opts', []) => some opts'
    | some (opts', d :: ds) =>
      if d ≠ COMMA then none else add_pubkey_options_loop opts' ds
termination_by options_buf.length
decreasing_by
  have := match_one_option_length _h
  simp only [List.length_cons] at this ⊢
  omega

/-- `svr_add_pubkey_options`: the new `pubkey_options`, or `NULL` and failure. -/
def svr_add_pubkey_options (options_buf : Bytes) : Status × Option PubKeyOptions :=
  match add_pubkey_options_loop {} options_buf with
  | some opts => (DROPBEAR_SUCCESS, some opts)
  | none => (DROPBEAR_FAILURE, none)

/-! ## Lines -/

def MIN_AUTHKEYS_LINE : Nat := 10
def MAX_AUTHKEYS_LINE : Nat := 4200

def isBlank (c : UInt8) : Bool := c == SP || c == TAB

/-- The options field: the bytes up to a blank that is not quoted, and what follows that blank. -/
def options_scan : Bool → Bool → Bytes → Bytes × Bytes
  | _, _, [] => ([], [])
  | quoted, escape, c :: cs =>
    if !quoted && isBlank c then ([], cs)
    else
      let escape := !escape && c == BACKSLASH
      let quoted := if !escape && c == QUOTE then !quoted else quoted
      let (field, rest) := options_scan quoted escape cs
      (c :: field, rest)

/-- `checkpubkey_line` from the point after the algorithm name. -/
def checkpubkey_tail (algo keyblob : Bytes) (pubkey_options : Option PubKeyOptions)
    (options_buf : Option Bytes) (rest : Bytes) :
    Except Exit (Status × Option PubKeyOptions) :=
  match rest with
  | [] => dropbear_exit "Bad buf_getbyte"
  | c :: rest =>
    if c ≠ SP then pure (DROPBEAR_FAILURE, pubkey_options)
    else do
      -- the line is truncated at the space after the base64 data
      let ret ← cmp_base64_key keyblob algo (rest.takeWhile (· ≠ SP))
      match ret, options_buf with
      | DROPBEAR_SUCCESS, some options_buf => pure (svr_add_pubkey_options options_buf)
      | ret, _ => pure (ret, pubkey_options)

def checkpubkey_line (line algo keyblob : Bytes) (pubkey_options : Option PubKeyOptions) :
    Except Exit (Status × Option PubKeyOptions) :=
  if line.length < MIN_AUTHKEYS_LINE ∨ line.length > MAX_AUTHKEYS_LINE then
    pure (DROPBEAR_FAILURE, pubkey_options)
  else if 0 ∈ line then pure (DROPBEAR_FAILURE, pubkey_options)
  -- enough bytes to read a space and some base64 characters too
  else if algo.length + 3 > line.length then pure (DROPBEAR_FAILURE, pubkey_options)
  else if line.take algo.length = algo then
    checkpubkey_tail algo keyblob pubkey_options none (line.drop algo.length)
  else
    match line.dropWhile isBlank with
    | [] => dropbear_exit "Bad buf_getptr"
    | c :: cs =>
      if c = HASH then pure (DROPBEAR_FAILURE, pubkey_options)
      else
        let (options_buf, rest) := options_scan false false (c :: cs)
        if algo.length + 3 > rest.length then pure (DROPBEAR_FAILURE, pubkey_options)
        else if rest.take algo.length ≠ algo then pure (DROPBEAR_FAILURE, pubkey_options)
        else checkpubkey_tail algo keyblob pubkey_options (some options_buf)
          (rest.drop algo.length)

/-! ## Files -/

/-- The loop of `buf_getline`: the line, what is left of the file, and whether the last `fgetc` was
at the end of it. A line that fills the buffer is zeroed where it stands. -/
def getline_loop (size : Nat) : Bytes → Bytes → Bytes × Bytes × Bool
  | read, [] => if read.length < size then (read, [], true) else ([], [], false)
  | read, c :: file =>
    if read.length < size then
      if c = LF ∨ c = CR then (read, file, false) else getline_loop size (read ++ [c]) file
    else ([], c :: file, false)

/-- `buf_getline` into an empty buffer: the line and what is left of the file, if there is one. -/
def buf_getline (size : Nat) (file : Bytes) : Option (Bytes × Bytes) :=
  let (line, rest, eof) := getline_loop size [] file
  if eof ∧ line.length = 0 then none else some (line, rest)

theorem getline_loop_length {size : Nat} {read file line rest : Bytes} {eof : Bool}
    (h : getline_loop size read file = (line, rest, eof)) :
    rest.length ≤ file.length ∧
      (read.length < size → eof = false ∨ line ≠ read → rest.length < file.length) := by
  induction file generalizing read with
  | nil =>
    rw [getline_loop] at h
    split_ifs at h with hsize
    · obtain ⟨rfl, rfl, rfl⟩ := Prod.mk.inj h |>.imp_right Prod.mk.inj
      exact ⟨Nat.le_refl _, fun _ hcase => by simp at hcase⟩
    · obtain ⟨rfl, rfl, rfl⟩ := Prod.mk.inj h |>.imp_right Prod.mk.inj
      exact ⟨Nat.le_refl _, fun hlt => absurd hlt hsize⟩
  | cons c file ih =>
    rw [getline_loop] at h
    split_ifs at h with hsize hend
    · obtain ⟨rfl, rfl, rfl⟩ := Prod.mk.inj h |>.imp_right Prod.mk.inj
      exact ⟨Nat.le_succ _, fun _ _ => Nat.lt_succ_self _⟩
    · have hle := (ih h).1
      exact ⟨Nat.le_succ_of_le hle, fun _ _ => Nat.lt_succ_of_le hle⟩
    · obtain ⟨rfl, rfl, rfl⟩ := Prod.mk.inj h |>.imp_right Prod.mk.inj
      exact ⟨Nat.le_refl _, fun hlt => absurd hlt hsize⟩

theorem buf_getline_length {size : Nat} (hsize : 0 < size) {file line rest : Bytes}
    (h : buf_getline size file = some (line, rest)) : rest.length < file.length := by
  rcases hloop : getline_loop size [] file with ⟨l, r, eof⟩
  simp only [buf_getline, hloop] at h
  split_ifs at h with hend
  obtain ⟨rfl, rfl⟩ := Prod.mk.inj (Option.some.inj h)
  refine (getline_loop_length hloop).2 hsize ?_
  rw [not_and_or] at hend
  rcases hend with hend | hend
  · exact Or.inl (Bool.eq_false_iff.mpr hend)
  · exact Or.inr fun hnil => hend (by rw [hnil, List.length_nil])

/-- The loop of `checkpubkey` over the rest of the file. -/
def checkpubkey_loop (algo keyblob : Bytes) (pubkey_options : Option PubKeyOptions)
    (file : Bytes) : Except Exit (Status × Option PubKeyOptions) :=
  match _h : buf_getline MAX_AUTHKEYS_LINE file with
  | none => pure (DROPBEAR_FAILURE, pubkey_options)
  | some (line, rest) => do
    let (ret, pubkey_options) ← checkpubkey_line line algo keyblob pubkey_options
    match ret with
    | DROPBEAR_SUCCESS => pure (DROPBEAR_SUCCESS, pubkey_options)
    | DROPBEAR_FAILURE => checkpubkey_loop algo keyblob pubkey_options rest
termination_by file.length
decreasing_by exact buf_getline_length (by decide) _h

/-- `checkpubkey`; `authfile` is the content of the file, if it can be opened. -/
def checkpubkey (authfile : Option Bytes) (algo keyblob : Bytes)
    (pubkey_options : Option PubKeyOptions) : Except Exit (Status × Option PubKeyOptions) :=
  if !have_algo algo sshhostkey then pure (DROPBEAR_FAILURE, pubkey_options)
  else
    match authfile with
    | none => pure (DROPBEAR_FAILURE, pubkey_options)
    | some file => checkpubkey_loop algo keyblob pubkey_options file

end SimpleSshd.Dropbear
