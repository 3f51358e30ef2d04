/-!
# Numerals

- `decimal n`: the decimal numeral of a natural number, without leading zeros.
- `decimalInt i`: the same with a minus sign in front of a negative number.
- `hexDigits n`: the hexadecimal numeral in lower case.
- `readDecimal ds`: the number that a list of decimal digits stands for.
- `hexValue? c`: the value of a hexadecimal digit of either case.
-/

namespace CodeSearch.Text

/-- The numeral of `n` in base ten. -/
def decimalDigits (n : Nat) : List Char :=
  if n < 10 then [Nat.digitChar n] else decimalDigits (n / 10) ++ [Nat.digitChar (n % 10)]
termination_by n

/-- The numeral of `n` in base sixteen, in lower case. -/
def hexDigits (n : Nat) : List Char :=
  if n < 16 then [Nat.digitChar n] else hexDigits (n / 16) ++ [Nat.digitChar (n % 16)]
termination_by n

/-- The decimal numeral of a natural number. -/
def decimal (n : Nat) : String :=
  String.ofList (decimalDigits n)

/-- The decimal numeral of an integer, with a minus sign when it is negative. -/
def decimalInt (i : Int) : String :=
  if i < 0 then "-" ++ decimal i.natAbs else decimal i.natAbs

/-- The value of a digit from `0` to `9`. -/
def digitValue (c : Char) : Nat :=
  c.toNat - 48

/-- The number that a list of decimal digits stands for. -/
def readDecimal (digits : List Char) : Nat :=
  digits.foldl (fun n c => n * 10 + digitValue c) 0

/-- The value of a hexadecimal digit. -/
def hexValue? (c : Char) : Option Nat :=
  if '0' ≤ c && c ≤ '9' then some (c.toNat - 48)
  else if 'a' ≤ c && c ≤ 'f' then some (c.toNat - 87)
  else if 'A' ≤ c && c ≤ 'F' then some (c.toNat - 55)
  else none

/-! ## Laws -/

theorem digitValue_digitChar {d : Nat} (h : d < 10) : digitValue (Nat.digitChar d) = d := by
  have : ∀ d < 10, digitValue (Nat.digitChar d) = d := by decide
  exact this d h

theorem isDigit_digitChar {d : Nat} (h : d < 10) : (Nat.digitChar d).isDigit = true := by
  have : ∀ d < 10, (Nat.digitChar d).isDigit = true := by decide
  exact this d h

/-- A numeral holds digits only. -/
theorem isDigit_of_mem_decimalDigits {n : Nat} {c : Char} (h : c ∈ decimalDigits n) :
    c.isDigit = true := by
  fun_induction decimalDigits n with
  | case1 n hn => simp only [List.mem_singleton] at h; exact h ▸ isDigit_digitChar hn
  | case2 n hn ih =>
    simp only [List.mem_append, List.mem_singleton] at h
    rcases h with h | h
    · exact ih h
    · exact h ▸ isDigit_digitChar (Nat.mod_lt _ (by omega))

/-- Reading a numeral gives the number back. -/
theorem readDecimal_decimalDigits (n : Nat) : readDecimal (decimalDigits n) = n := by
  fun_induction decimalDigits n with
  | case1 n hn => simp [readDecimal, digitValue_digitChar hn]
  | case2 n hn ih =>
    simp only [readDecimal, List.foldl_append, List.foldl_cons, List.foldl_nil] at ih ⊢
    rw [ih, digitValue_digitChar (Nat.mod_lt _ (by omega))]
    omega

theorem decimalDigits_inj {m n : Nat} (h : decimalDigits m = decimalDigits n) : m = n := by
  rw [← readDecimal_decimalDigits m, h, readDecimal_decimalDigits]

theorem decimal_inj {m n : Nat} (h : decimal m = decimal n) : m = n :=
  decimalDigits_inj (String.ofList_injective h)

end CodeSearch.Text
