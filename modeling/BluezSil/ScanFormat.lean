import BluezSil.DecimalText
import Mathlib.Algebra.Group.Nat.Defs
import Mathlib.Data.List.TakeWhile
import Mathlib.Order.Basic

/-!
# Records read from text by a format

A format is a list of conversions of a limited width, each of which stores its number in a
member of a record, and of characters that have to stand in the text. The first part that
does not fit ends the reading. Numbers printed with as many digits as the widths say are read
back, wherever one ends and the next begins.
-/

namespace ScanFormat

open DecimalText

/-- A part of a format: `%<width>d` with the member it stores to, or a character. -/
inductive Directive (τ : Type*)
  | int (width : ℕ) (store : ℤ → τ → τ)
  | char (c : Char)

def scanDigits (width : ℕ) (text : List Char) : Option (ℕ × List Char) :=
  (readDigits (text.take width)).map fun n =>
    (n, text.drop ((text.take width).takeWhile Char.isDigit).length)

/-- `%<width>d` after spaces. A sign counts for the width. -/
def scanInt (width : ℕ) (text : List Char) : Option (ℤ × List Char) :=
  match text.dropWhile isSpace with
  | '-' :: rest => (scanDigits (width - 1) rest).map fun r => (-(r.1 : ℤ), r.2)
  | '+' :: rest => (scanDigits (width - 1) rest).map fun r => ((r.1 : ℤ), r.2)
  | rest => (scanDigits width rest).map fun r => ((r.1 : ℤ), r.2)

/-- `sscanf` of a text without a null character. -/
def sscanf {τ : Type*} : List (Directive τ) → List Char → τ → τ
  | [], _, t => t
  | .int width store :: format, text, t =>
    match scanInt width text with
    | some (n, rest) => sscanf format rest (store n t)
    | none => t
  | .char c :: format, c' :: rest, t => if c = c' then sscanf format rest t else t
  | .char _ :: _, [], t => t

/-- The last `width` digits of a number, with leading zeros. -/
def padded : ℕ → ℕ → List Char
  | 0, _ => []
  | width + 1, n => padded width (n / 10) ++ [Nat.digitChar (n % 10)]

variable {width n : ℕ} {rest : List Char}

theorem padded_length (width n : ℕ) : (padded width n).length = width := by
  induction width generalizing n with
  | zero => rfl
  | succ width ih => rw [padded, List.length_append, ih, List.length_singleton]

theorem digitChar_isDigit {d : ℕ} (h : d < 10) : (Nat.digitChar d).isDigit = true := by
  have hall : ∀ d < 10, (Nat.digitChar d).isDigit = true := by decide
  exact hall d h

theorem isDigit_of_mem_padded {c : Char} (h : c ∈ padded width n) : c.isDigit = true := by
  induction width generalizing n with
  | zero => cases h
  | succ width ih =>
      rcases List.mem_append.mp h with h | h
      · exact ih h
      · rw [List.mem_singleton.mp h]
        exact digitChar_isDigit (Nat.mod_lt n (by decide))

theorem ofDigitChars_padded (width n : ℕ) :
    Nat.ofDigitChars 10 (padded width n) 0 = n % 10 ^ width := by
  induction width generalizing n with
  | zero => rw [Nat.pow_zero, Nat.mod_one]; rfl
  | succ width ih =>
      rw [padded, Nat.ofDigitChars_append, ih,
        Nat.ofDigitChars_cons_digitChar_of_lt_ten (Nat.mod_lt n (by decide)),
        Nat.ofDigitChars_nil, Nat.pow_succ', Nat.mod_mul]
      omega

theorem scanDigits_padded (hwidth : 0 < width) (hn : n < 10 ^ width) :
    scanDigits width (padded width n ++ rest) = some (n, rest) := by
  have htake : (padded width n ++ rest).take width = padded width n := by
    rw [List.take_append_of_le_length (padded_length width n).ge,
      List.take_of_length_le (padded_length width n).le]
  have hdigits : (padded width n).takeWhile Char.isDigit = padded width n :=
    List.takeWhile_eq_self_iff.mpr fun _ => isDigit_of_mem_padded
  have hread : readDigits (padded width n) = some n := by
    unfold readDigits
    rw [hdigits]
    cases hpadded : padded width n with
    | nil =>
        have hlength := padded_length width n
        rw [hpadded] at hlength
        exact absurd hlength hwidth.ne
    | cons c cs =>
        dsimp only
        rw [← hpadded, ofDigitChars_padded, Nat.mod_eq_of_lt hn]
  unfold scanDigits
  rw [htake, hread, hdigits, Option.map_some, List.drop_left]

theorem isDigit_text {c : Char} (h : c.isDigit = true) :
    isSpace c = false ∧ c ≠ '-' ∧ c ≠ '+' ∧ c ≠ '\x00' := by
  have hlow : 48 ≤ c.toNat := (Bool.and_eq_true_iff.mp h).1 |> of_decide_eq_true
  have hne (d : Char) (hd : d.toNat < 48) : c ≠ d := by
    rintro rfl
    exact Nat.not_le_of_lt hd hlow
  have hhigh : ¬ c ≤ '\r' := fun hc =>
    absurd (Nat.le_trans hlow (show c.toNat ≤ '\r'.toNat from hc)) (by decide)
  refine ⟨?_, hne _ (by decide), hne _ (by decide), hne _ (by decide)⟩
  simp [isSpace, hne ' ' (by decide), hhigh]

theorem scanInt_padded (hwidth : 0 < width) (hn : n < 10 ^ width) :
    scanInt width (padded width n ++ rest) = some ((n : ℤ), rest) := by
  have hscan : scanDigits width (padded width n ++ rest) = some (n, rest) :=
    scanDigits_padded hwidth hn
  obtain ⟨c, cs, hpadded⟩ : ∃ c cs, padded width n = c :: cs := by
    apply List.exists_cons_of_length_pos
    rw [padded_length]
    exact hwidth
  have hdigit : c.isDigit = true :=
    isDigit_of_mem_padded (hpadded ▸ List.mem_cons_self)
  obtain ⟨hspace, hminus, hplus, _⟩ := isDigit_text hdigit
  have htext : (padded width n ++ rest).dropWhile isSpace = padded width n ++ rest := by
    rw [hpadded, List.cons_append, List.dropWhile_cons_of_neg (by rw [hspace]; decide)]
  unfold scanInt
  rw [htext]
  split
  · rename_i heq
    rw [hpadded] at heq
    exact absurd (List.cons.inj heq).1 hminus
  · rename_i heq
    rw [hpadded] at heq
    exact absurd (List.cons.inj heq).1 hplus
  · rw [hscan]
    rfl

theorem sscanf_int {τ : Type*} {store : ℤ → τ → τ} {format : List (Directive τ)} {t : τ}
    (hwidth : 0 < width) (hn : n < 10 ^ width) :
    sscanf (.int width store :: format) (padded width n ++ rest) t =
      sscanf format rest (store n t) := by
  rw [sscanf, scanInt_padded hwidth hn]

theorem sscanf_char {τ : Type*} {format : List (Directive τ)} {t : τ} {c : Char} :
    sscanf (.char c :: format) (c :: rest) t = sscanf format rest t := by
  rw [sscanf, if_pos rfl]

end ScanFormat
