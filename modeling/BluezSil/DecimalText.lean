import Mathlib.Data.Int.Notation
import Mathlib.Data.List.TakeDrop
import Mathlib.Tactic.Common

/-!
# Numbers in decimal text

A number is printed without leading zeros, so the last character printed is the digit
of its units. A number is read from the digits after spaces and one sign. A text is
split at the last of its characters that is a separator.
-/

namespace DecimalText

def decimal (n : ℕ) : List Char := Nat.toDigits 10 n

theorem isDigit_of_mem_decimal {n : ℕ} {c : Char} (h : c ∈ decimal n) : c.isDigit = true :=
  Nat.isDigit_of_mem_toDigits (by decide) (by decide) h

theorem decimal_getLast? (n : ℕ) : (decimal n).getLast? = some (Nat.digitChar (n % 10)) := by
  unfold decimal
  rw [Nat.toDigits_eq_if (by decide)]
  split_ifs with h
  · rw [Nat.mod_eq_of_lt h]
    rfl
  · exact List.getLast?_concat

theorem decimal_injective : Function.Injective decimal := by
  intro m n h
  rw [← Nat.ofDigitChars_ten_toDigits (n := m), ← Nat.ofDigitChars_ten_toDigits (n := n)]
  exact congrArg (Nat.ofDigitChars 10 · 0) h

theorem decimal_ne_nil (n : ℕ) : decimal n ≠ [] := by
  intro h
  have hlast := decimal_getLast? n
  rw [h] at hlast
  cases hlast

theorem decimal_take_one (n : ℕ) : (decimal n).take 1 = decimal n ↔ n < 10 := by
  rw [List.take_eq_self_iff]
  by_cases h : n < 10
  · simp [decimal, Nat.toDigits_of_lt_base h, h]
  · have hrest : 0 < (Nat.toDigits 10 (n / 10)).length :=
      List.length_pos_iff.mpr (decimal_ne_nil (n / 10))
    rw [decimal, Nat.toDigits_eq_if (by decide), if_neg h, List.length_append]
    simp only [List.length_singleton, h, iff_false]
    omega

def readDigits (text : List Char) : Option ℕ :=
  match text.takeWhile Char.isDigit with
  | [] => none
  | digits => some (Nat.ofDigitChars 10 digits 0)

def isSpace (c : Char) : Bool := c == ' ' || ('\t' ≤ c && c ≤ '\r')

/-- `std::stoi`: no result without digits, or if the value is no `int`. -/
def stoi (text : List Char) : Option ℤ :=
  let value : Option ℤ :=
    match text.dropWhile isSpace with
    | '-' :: rest => (readDigits rest).map fun n => -n
    | '+' :: rest => (readDigits rest).map fun n => n
    | rest => (readDigits rest).map fun n => n
  value.filter fun v => -2147483648 ≤ v ∧ v ≤ 2147483647

theorem stoi_digitChar {d : ℕ} (h : d < 10) : stoi [Nat.digitChar d] = some (d : ℤ) := by
  have hall : ∀ d < 10, stoi [Nat.digitChar d] = some (d : ℤ) := by decide
  exact hall d h

section Split

variable {α : Type*} {isSeparator : α → Bool} {xs ys : List α} {c : α}

def splitLast (isSeparator : α → Bool) : List α → Option (List α × List α)
  | [] => none
  | c :: text =>
    match splitLast isSeparator text with
    | some (path, name) => some (c :: path, name)
    | none => if isSeparator c then some ([], text) else none

theorem splitLast_of_none (h : ∀ c ∈ ys, isSeparator c = false) :
    splitLast isSeparator ys = none := by
  induction ys with
  | nil => rfl
  | cons c ys ih =>
      rw [splitLast, ih fun d hd => h d (List.mem_cons_of_mem _ hd)]
      simp [h c List.mem_cons_self]

theorem splitLast_append (hc : isSeparator c = true) (h : ∀ c ∈ ys, isSeparator c = false) :
    splitLast isSeparator (xs ++ c :: ys) = some (xs, ys) := by
  induction xs with
  | nil =>
      rw [List.nil_append, splitLast, splitLast_of_none h]
      simp [hc]
  | cons x xs ih => rw [List.cons_append, splitLast, ih]

end Split

end DecimalText
