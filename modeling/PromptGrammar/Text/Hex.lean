/-!
# PromptGrammar.Text.Hex

Hexadecimal digits: `hexFixed w n` writes the last `w` digits of `n` in lower
case, `hexDigit?` reads one digit of either case.

* `hexDigit?_hexDigit` — a digit that was written is read back;
* `ofHexDigits?_hexFixed` — so is a number that fits its width;
* `exists_of_mem_hexFixed` — nothing but digits is written.
-/

namespace PromptGrammar.Text

/-- The hexadecimal digit of a number below sixteen, in lower case. -/
def hexDigit (n : Nat) : Char :=
  if n < 10 then Char.ofNat (0x30 + n) else Char.ofNat (0x57 + n)

/-- The last `w` hexadecimal digits of a number, zeros included. -/
def hexFixed : (w : Nat) → (n : Nat) → List Char
  | 0, _ => []
  | w + 1, n => hexFixed w (n / 16) ++ [hexDigit (n % 16)]

/-- The value of a hexadecimal digit of either case. -/
def hexDigit? (c : Char) : Option Nat :=
  let n := c.toNat
  if 0x30 ≤ n ∧ n ≤ 0x39 then some (n - 0x30)
  else if 0x61 ≤ n ∧ n ≤ 0x66 then some (n - 0x57)
  else if 0x41 ≤ n ∧ n ≤ 0x46 then some (n - 0x37)
  else none

/-- The number that hexadecimal digits spell, continuing from `acc`. -/
def ofHexDigits? (acc : Nat) : List Char → Option Nat
  | [] => some acc
  | c :: cs => (hexDigit? c).bind fun d => ofHexDigits? (16 * acc + d) cs

@[simp] theorem length_hexFixed (w n : Nat) : (hexFixed w n).length = w := by
  induction w generalizing n with
  | zero => rfl
  | succ w ih => simp [hexFixed, ih]

/-- Every character that is written for a number is one of the sixteen digits. -/
theorem exists_of_mem_hexFixed {w n : Nat} {c : Char} (h : c ∈ hexFixed w n) :
    ∃ d : Fin 16, c = hexDigit d := by
  induction w generalizing n with
  | zero => simp [hexFixed] at h
  | succ w ih =>
      rw [hexFixed, List.mem_append, List.mem_singleton] at h
      cases h with
      | inl h => exact ih h
      | inr h => exact ⟨⟨n % 16, Nat.mod_lt n (by decide)⟩, h⟩

/-- A digit that was written is read back. -/
theorem hexDigit?_hexDigit {n : Nat} (h : n < 16) : hexDigit? (hexDigit n) = some n := by
  have : ∀ m : Fin 16, hexDigit? (hexDigit m) = some m.val := by decide
  exact this ⟨n, h⟩

/-- Digits in a row are read one after another. -/
theorem ofHexDigits?_append (acc : Nat) (xs ys : List Char) :
    ofHexDigits? acc (xs ++ ys) = (ofHexDigits? acc xs).bind fun n => ofHexDigits? n ys := by
  induction xs generalizing acc with
  | nil => rfl
  | cons c xs ih =>
      simp only [List.cons_append, ofHexDigits?]
      cases hexDigit? c with
      | none => rfl
      | some d => exact ih _

/-- The digits of a number are read back as its remainder at their width. -/
theorem ofHexDigits?_hexFixed (w n acc : Nat) :
    ofHexDigits? acc (hexFixed w n) = some (acc * Nat.pow 16 w + n % Nat.pow 16 w) := by
  induction w generalizing n with
  | zero => simp [hexFixed, ofHexDigits?, Nat.mod_one]
  | succ w ih =>
      have hd : n % 16 < 16 := Nat.mod_lt _ (by decide)
      have hp : Nat.pow 16 (w + 1) = 16 * Nat.pow 16 w := Nat.mul_comm _ _
      rw [hexFixed, ofHexDigits?_append, ih, Option.bind_some]
      simp only [ofHexDigits?, hexDigit?_hexDigit hd, Option.bind_some, Option.some.injEq]
      rw [hp, Nat.mod_mul, Nat.mul_add, Nat.mul_left_comm acc]
      omega

end PromptGrammar.Text
