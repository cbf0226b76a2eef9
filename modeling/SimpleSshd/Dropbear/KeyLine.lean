import SimpleSshd.Dropbear.AuthKeys

/-!
# Writing a line of `authorized_keys`

What a user who wants to restrict a key to a command writes: the command in quotes, with a backslash
before every quote and backslash in it, the algorithm, and the key in base64 as `dropbearkey` prints
it.
-/

namespace SimpleSshd.Dropbear

/-! ## `base64_encode.c` -/

/-- The table `codes_base64`. -/
def codes_base64 (n : Nat) : UInt8 :=
  if n < 26 then UInt8.ofNat (n + 65)
  else if n < 52 then UInt8.ofNat (n + 71)
  else if n < 62 then UInt8.ofNat (n - 4)
  else if n = 62 then 43
  else 47

example : (List.range 64).map codes_base64 =
    ascii "ABCDEFGHIJKLMNOPQRSTUVWXYZabcdefghijklmnopqrstuvwxyz0123456789+/" := by decide

def PAD : UInt8 := 0x3d

/-- `base64_encode`: groups of three bytes, and the one or two bytes after them with padding. -/
def base64_encode : Bytes → Bytes
  | a :: b :: c :: rest =>
    codes_base64 (a.toNat / 4) :: codes_base64 (a.toNat % 4 * 16 + b.toNat / 16) ::
      codes_base64 (b.toNat % 16 * 4 + c.toNat / 64) :: codes_base64 (c.toNat % 64) ::
      base64_encode rest
  | [a, b] =>
    [codes_base64 (a.toNat / 4), codes_base64 (a.toNat % 4 * 16 + b.toNat / 16),
      codes_base64 (b.toNat % 16 * 4), PAD]
  | [a] => [codes_base64 (a.toNat / 4), codes_base64 (a.toNat % 4 * 16), PAD, PAD]
  | [] => []

/-! ## A line with a command -/

/-- Every backslash and every quote is preceded by a backslash. -/
def quoted (s : Bytes) : Bytes :=
  s.flatMap fun c => if c = QUOTE ∨ c = BACKSLASH then [BACKSLASH, c] else [c]

def commandLine (s algo blob : Bytes) : Bytes :=
  ascii "command=\"" ++ quoted s ++ QUOTE :: SP :: (algo ++ SP :: base64_encode blob)

end SimpleSshd.Dropbear
