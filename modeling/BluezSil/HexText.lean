import Mathlib.Data.List.TakeDrop
import BluezSil.DecimalText

/-!
# Bytes in hexadecimal text

A byte is printed as two lower-case digits. It is read from at most two characters, the first
of which may be a sign, after spaces.
-/

namespace HexText

open DecimalText

/-- `printf` of a byte with `%2.2x`. -/
def printByte (b : UInt8) : List Char :=
  [Nat.digitChar (b.toNat / 16), Nat.digitChar (b.toNat % 16)]

def hexValue (c : Char) : Option ℕ :=
  if '0' ≤ c ∧ c ≤ '9' then some (c.toNat - 48)
  else if 'a' ≤ c ∧ c ≤ 'f' then some (c.toNat - 87)
  else if 'A' ≤ c ∧ c ≤ 'F' then some (c.toNat - 55)
  else none

def readHexDigits (text : List Char) : Option ℕ :=
  match (text.map hexValue).takeWhile Option.isSome with
  | [] => none
  | digits => some (digits.reduceOption.foldl (fun value digit => 16 * value + digit) 0)

def readSigned (text : List Char) : Option UInt8 :=
  match text with
  | '-' :: rest => (readHexDigits rest).map fun n => -UInt8.ofNat n
  | '+' :: rest => (readHexDigits rest).map UInt8.ofNat
  | _ => (readHexDigits text).map UInt8.ofNat

/-- `sscanf` of a C string with `%02hhx`: nothing is stored without digits. -/
def sscanfByte (text : List Char) : Option UInt8 :=
  readSigned (((text.takeWhile (· ≠ '\x00')).dropWhile isSpace).take 2)

theorem readSigned_digits {m n : ℕ} (hm : m < 16) (hn : n < 16) :
    readSigned [Nat.digitChar m, Nat.digitChar n] = some (UInt8.ofNat (16 * m + n)) := by
  have hall : ∀ m < 16, ∀ n < 16,
      readSigned [Nat.digitChar m, Nat.digitChar n] = some (UInt8.ofNat (16 * m + n)) := by decide
  exact hall m hm n hn

theorem digitChar_text {n : ℕ} (h : n < 16) :
    Nat.digitChar n ≠ '\x00' ∧ isSpace (Nat.digitChar n) = false := by
  have hall : ∀ n < 16, Nat.digitChar n ≠ '\x00' ∧ isSpace (Nat.digitChar n) = false := by decide
  exact hall n h

theorem sscanfByte_printByte (b : UInt8) (rest : List Char) :
    sscanfByte (printByte b ++ rest) = some b := by
  have hhigh : b.toNat / 16 < 16 := by
    have hb := b.toNat_lt
    omega
  have hlow : b.toNat % 16 < 16 := Nat.mod_lt _ (by decide)
  have hvalue : UInt8.ofNat (16 * (b.toNat / 16) + b.toNat % 16) = b := by
    rw [Nat.div_add_mod]
    exact UInt8.ofNat_toNat
  simp [sscanfByte, printByte, digitChar_text hhigh, digitChar_text hlow,
    readSigned_digits hhigh hlow, hvalue]

theorem drop_printBytes (bytes : List UInt8) (i : ℕ) :
    (bytes.flatMap printByte).drop (i * 2) = (bytes.drop i).flatMap printByte := by
  induction i generalizing bytes with
  | zero => rw [Nat.zero_mul, List.drop_zero, List.drop_zero]
  | succ i ih =>
      cases bytes with
      | nil => rw [List.flatMap_nil, List.drop_nil, List.drop_nil, List.flatMap_nil]
      | cons b bytes =>
          rw [List.flatMap_cons, List.drop_succ_cons, ← ih bytes, Nat.succ_mul, Nat.add_comm,
            ← List.drop_drop]
          rfl

theorem printBytes_length (bytes : List UInt8) :
    (bytes.flatMap printByte).length = bytes.length * 2 := by
  induction bytes with
  | nil => rfl
  | cons b bytes ih =>
      rw [List.flatMap_cons, List.length_append, ih, List.length_cons]
      simp only [printByte, List.length_cons, List.length_nil]
      omega

end HexText
