/-
Hexadecimal digits, written in either case and read in both. The main statement is that reading
finds the number that was written, up to the digits that did not fit.
-/

namespace SwaggerRoutes.Text

/-- The digit for a number below sixteen, in lower case. -/
def lowerHexDigit (n : Nat) : Char :=
  if n < 10 then Char.ofNat (48 + n) else Char.ofNat (87 + n)

/-- The digit for a number below sixteen, in upper case. -/
def upperHexDigit (n : Nat) : Char :=
  if n < 10 then Char.ofNat (48 + n) else Char.ofNat (55 + n)

/-- The last `width` digits of a number in base sixteen, most significant first. -/
def hexDigits (digit : Nat → Char) : (width n : Nat) → List Char
  | 0, _ => []
  | width + 1, n => hexDigits digit width (n / 16) ++ [digit (n % 16)]

/-- The value of a hexadecimal digit of either case. -/
def hexValue? (c : Char) : Option Nat :=
  if '0' ≤ c && c ≤ '9' then some (c.toNat - 48)
  else if 'a' ≤ c && c ≤ 'f' then some (c.toNat - 87)
  else if 'A' ≤ c && c ≤ 'F' then some (c.toNat - 55)
  else none

/-- The value of exactly `width` hexadecimal digits, and the text after them. -/
def readHex? : (width : Nat) → List Char → (value : Nat) → Option (Nat × List Char)
  | 0, rest, value => some (value, rest)
  | _ + 1, [], _ => none
  | width + 1, c :: rest, value =>
    match hexValue? c with
    | some d => readHex? width rest (16 * value + d)
    | none => none

/-! ## Reading what was written -/

theorem hexValue?_lowerHexDigit {n : Nat} (h : n < 16) :
    hexValue? (lowerHexDigit n) = some n := by
  have all : ∀ n < 16, hexValue? (lowerHexDigit n) = some n := by decide
  exact all n h

theorem hexValue?_upperHexDigit {n : Nat} (h : n < 16) :
    hexValue? (upperHexDigit n) = some n := by
  have all : ∀ n < 16, hexValue? (upperHexDigit n) = some n := by decide
  exact all n h

theorem length_hexDigits (digit : Nat → Char) (width n : Nat) :
    (hexDigits digit width n).length = width := by
  induction width generalizing n with
  | zero => rfl
  | succ width ih => simp [hexDigits, ih]

theorem mem_hexDigits {digit : Nat → Char} {width n : Nat} {d : Char}
    (h : d ∈ hexDigits digit width n) : ∃ m < 16, d = digit m := by
  induction width generalizing n with
  | zero => simp [hexDigits] at h
  | succ width ih =>
    rw [hexDigits, List.mem_append, List.mem_singleton] at h
    rcases h with h | h
    · exact ih h
    · exact ⟨n % 16, Nat.mod_lt n (by decide), h⟩

/-- The last of the digits may be read on its own. -/
theorem readHex?_succ (width : Nat) (text : List Char) (value : Nat) :
    readHex? (width + 1) text value =
      (readHex? width text value).bind fun (value, rest) => readHex? 1 rest value := by
  induction width generalizing text value with
  | zero => rfl
  | succ width ih =>
    cases text with
    | nil => rfl
    | cons c rest =>
      rw [readHex?, readHex?]
      cases hexValue? c with
      | none => rfl
      | some d => exact ih rest (16 * value + d)

/-- Digits that have a value are read as the number that they write. -/
theorem readHex?_hexDigits {digit : Nat → Char}
    (valued : ∀ {n}, n < 16 → hexValue? (digit n) = some n) (width n : Nat) (rest : List Char)
    (value : Nat) :
    readHex? width (hexDigits digit width n ++ rest) value =
      some (Nat.pow 16 width * value + n % Nat.pow 16 width, rest) := by
  induction width generalizing n rest with
  | zero => simp [hexDigits, readHex?, Nat.mod_one]
  | succ width ih =>
    rw [readHex?_succ, hexDigits, List.append_assoc, ih]
    have last := valued (Nat.mod_lt n (show 16 > 0 by decide))
    have power : Nat.pow 16 (width + 1) = Nat.pow 16 width * 16 := rfl
    have split : n % (Nat.pow 16 width * 16) = 16 * (n / 16 % Nat.pow 16 width) + n % 16 := by
      rw [Nat.mul_comm, Nat.mod_mul, Nat.add_comm]
    simp only [Option.bind_some, List.singleton_append, readHex?, last, power, split]
    congr 2
    rw [Nat.mul_add, ← Nat.mul_assoc, Nat.mul_comm 16 (Nat.pow 16 width), Nat.add_assoc]

end SwaggerRoutes.Text
