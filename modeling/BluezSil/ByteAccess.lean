import Mathlib.Data.Nat.Bits
import Mathlib.Order.Basic
import Mathlib.Algebra.Order.Group.Nat
import Mathlib.Tactic.Common

/-!
# Bounds-checked reads of byte buffers

A pointer into a buffer is the list of the bytes from it to the end of the
buffer. A read past the end is a fault, so a computation that ends in `.ok` has
read inside its buffer only. Sixteen-bit words are stored little-endian or
big-endian, and each store is undone by the load of the same order. Two words make a
double word, which determines both.
-/

namespace ByteAccess

inductive Fault
  | outOfBounds
  deriving DecidableEq, Repr

abbrev Access (α : Type*) := Except Fault α

/-- The computation has read inside its buffer only. -/
def InBounds {α : Type*} (x : Access α) : Prop := ∃ a, x = .ok a

/-- The computation reads inside its buffers only and answers whether `P` holds. -/
def Decides (x : Access Bool) (P : Prop) : Prop := ∃ b, x = .ok b ∧ (b = true ↔ P)

def readAt {α : Type*} (xs : List α) (j : ℕ) : Access α :=
  match xs[j]? with
  | some a => .ok a
  | none => .error .outOfBounds

def readByte : List UInt8 → Access UInt8
  | b :: _ => .ok b
  | [] => .error .outOfBounds

def word16 (lo hi : UInt8) : UInt16 := hi.toUInt16 <<< 8 ||| lo.toUInt16

def word32 (lo hi : UInt16) : UInt32 := hi.toUInt32 <<< 16 ||| lo.toUInt32

def getLe16 : List UInt8 → Access UInt16
  | lo :: hi :: _ => .ok (word16 lo hi)
  | _ => .error .outOfBounds

def getBe16 : List UInt8 → Access UInt16
  | hi :: lo :: _ => .ok (word16 lo hi)
  | _ => .error .outOfBounds

def putLe16 (val : UInt16) : List UInt8 := [val.toUInt8, (val >>> 8).toUInt8]

def putBe16 (val : UInt16) : List UInt8 := [(val >>> 8).toUInt8, val.toUInt8]

theorem inBounds_ok {α : Type*} (a : α) : InBounds (.ok a : Access α) := ⟨a, rfl⟩

theorem not_inBounds_error {α : Type*} (f : Fault) : ¬ InBounds (.error f : Access α) := by
  rintro ⟨a, ha⟩
  cases ha

/-- A sequence of reads is in bounds when its first part is and its second part
is on the value the first one yields. -/
theorem inBounds_bind {α β : Type} (x : Access α) (f : α → Access β) :
    InBounds (x >>= f) ↔ ∃ a, x = .ok a ∧ InBounds (f a) := by
  cases x with
  | error e =>
      refine iff_of_false (not_inBounds_error e) ?_
      rintro ⟨a, ha, _⟩
      cases ha
  | ok a =>
      constructor
      · intro h
        exact ⟨a, rfl, h⟩
      · rintro ⟨b, hb, h⟩
        cases hb
        exact h

@[simp] theorem bind_ok {α β : Type} (a : α) (f : α → Access β) :
    ((.ok a : Access α) >>= f) = f a := rfl

theorem bind_eq_ok {α β : Type} {x : Access α} {f : α → Access β} {b : β} :
    (x >>= f) = .ok b ↔ ∃ a, x = .ok a ∧ f a = .ok b := by
  cases x with
  | error e =>
      refine iff_of_false (fun h => nomatch h) ?_
      rintro ⟨a, ha, _⟩
      cases ha
  | ok a =>
      constructor
      · intro h
        exact ⟨a, rfl, h⟩
      · rintro ⟨a', ha, h⟩
        cases ha
        exact h

theorem inBounds_mapM {α β : Type} {f : α → Access β} {xs : List α} :
    InBounds (xs.mapM f) ↔ ∀ x ∈ xs, InBounds (f x) := by
  induction xs with
  | nil => exact iff_of_true (inBounds_ok []) nofun
  | cons x xs ih =>
      rw [List.mapM_cons, inBounds_bind, List.forall_mem_cons, ← ih]
      constructor
      · rintro ⟨a, ha, hrest⟩
        obtain ⟨as, has, _⟩ := (inBounds_bind _ _).mp hrest
        exact ⟨⟨a, ha⟩, ⟨as, has⟩⟩
      · rintro ⟨⟨a, ha⟩, ⟨as, has⟩⟩
        exact ⟨a, ha, (inBounds_bind _ _).mpr ⟨as, has, inBounds_ok _⟩⟩

theorem mapM_eq_ok {α β : Type} {f : α → Access β} {g : α → β} {xs : List α}
    (h : ∀ x ∈ xs, f x = .ok (g x)) : xs.mapM f = .ok (xs.map g) := by
  induction xs with
  | nil => rfl
  | cons x xs ih =>
      rw [List.mapM_cons, h x List.mem_cons_self,
        ih fun y hy => h y (List.mem_cons_of_mem x hy)]
      rfl

theorem inBounds_readAt {α : Type*} {xs : List α} {j : ℕ} :
    InBounds (readAt xs j) ↔ j < xs.length := by
  unfold readAt
  by_cases h : j < xs.length
  · rw [List.getElem?_eq_getElem h]
    exact iff_of_true (inBounds_ok _) h
  · rw [List.getElem?_eq_none (Nat.le_of_not_lt h)]
    exact iff_of_false (not_inBounds_error _) h

theorem readAt_of_getElem? {α : Type*} {xs : List α} {j : ℕ} {a : α} (h : xs[j]? = some a) :
    readAt xs j = .ok a := by
  unfold readAt
  rw [h]

theorem decides_ok {b : Bool} {P : Prop} (h : b = true ↔ P) : Decides (.ok b) P := ⟨b, rfl, h⟩

theorem Decides.congr_iff {x : Access Bool} {P Q : Prop} (h : Decides x P) :
    Decides x Q ↔ (P ↔ Q) := by
  obtain ⟨b, hb, hP⟩ := h
  constructor
  · rintro ⟨c, hc, hQ⟩
    rw [hb] at hc
    cases hc
    exact hP.symm.trans hQ
  · intro hPQ
    exact ⟨b, hb, hP.trans hPQ⟩

theorem decides_anyM {α : Type} {f : α → Access Bool} {P : α → Prop} {xs : List α}
    (h : ∀ x ∈ xs, Decides (f x) (P x)) : Decides (xs.anyM f) (∃ x ∈ xs, P x) := by
  induction xs with
  | nil =>
      apply decides_ok
      simp
  | cons x xs ih =>
      obtain ⟨b, hb, hP⟩ := h x List.mem_cons_self
      rw [List.anyM, hb, bind_ok]
      cases b with
      | true =>
          apply decides_ok
          exact iff_of_true rfl ⟨x, List.mem_cons_self, hP.mp rfl⟩
      | false =>
          obtain ⟨c, hc, hrest⟩ := ih fun y hy => h y (List.mem_cons_of_mem x hy)
          refine ⟨c, hc, ?_⟩
          have hx : ¬ P x := fun hx => nomatch hP.mpr hx
          rw [hrest]
          simp only [List.mem_cons, exists_eq_or_imp, hx, false_or]

@[simp] theorem readByte_cons (b : UInt8) (data : List UInt8) :
    readByte (b :: data) = .ok b := rfl

@[simp] theorem getLe16_cons (lo hi : UInt8) (data : List UInt8) :
    getLe16 (lo :: hi :: data) = .ok (word16 lo hi) := rfl

@[simp] theorem getBe16_cons (hi lo : UInt8) (data : List UInt8) :
    getBe16 (hi :: lo :: data) = .ok (word16 lo hi) := rfl

theorem inBounds_getLe16 (data : List UInt8) : InBounds (getLe16 data) ↔ 2 ≤ data.length := by
  match data with
  | [] => exact iff_of_false (not_inBounds_error _) (by simp)
  | [b] => exact iff_of_false (not_inBounds_error _) (by simp)
  | lo :: hi :: rest => exact iff_of_true (inBounds_ok _) (by simp)

theorem word16_toNat (lo hi : UInt8) : (word16 lo hi).toNat = 256 * hi.toNat + lo.toNat := by
  have hhi := hi.toNat_lt
  have hlo := lo.toNat_lt
  have h8 : (8 : UInt16).toNat % 16 = 8 := rfl
  simp only [word16, UInt16.toNat_or, UInt16.toNat_shiftLeft, UInt8.toNat_toUInt16]
  rw [h8, Nat.shiftLeft_eq]
  have hshift : hi.toNat * 2 ^ 8 % 2 ^ 16 = 2 ^ 8 * hi.toNat := by omega
  rw [hshift, ← Nat.two_pow_add_eq_or_of_lt (by omega)]

theorem word16_ofNat (v : ℕ) :
    (word16 (UInt8.ofNat v) (UInt8.ofNat (v / 256))).toNat = v % 65536 := by
  rw [word16_toNat, UInt8.toNat_ofNat', UInt8.toNat_ofNat']
  omega

theorem highByte_toNat (val : UInt16) : (val >>> 8).toUInt8.toNat = val.toNat / 256 := by
  have hval := val.toNat_lt
  simp only [UInt16.toNat_toUInt8, UInt16.toNat_shiftRight, Nat.shiftRight_eq_div_pow]
  have h8 : (8 : UInt16).toNat % 16 = 8 := rfl
  rw [h8]
  omega

theorem lowByte_toNat (val : UInt16) : val.toUInt8.toNat = val.toNat % 256 := by
  simp only [UInt16.toNat_toUInt8]

theorem word16_bytes (val : UInt16) : word16 val.toUInt8 (val >>> 8).toUInt8 = val := by
  apply UInt16.toNat_inj.mp
  rw [word16_toNat, highByte_toNat, lowByte_toNat]
  omega

theorem lowByte_word16 (lo hi : UInt8) : (word16 lo hi).toUInt8 = lo := by
  apply UInt8.toNat_inj.mp
  have hlo := lo.toNat_lt
  rw [lowByte_toNat, word16_toNat]
  omega

theorem highByte_word16 (lo hi : UInt8) : (word16 lo hi >>> 8).toUInt8 = hi := by
  apply UInt8.toNat_inj.mp
  have hlo := lo.toNat_lt
  rw [highByte_toNat, word16_toNat]
  omega

theorem getLe16_putLe16 (val : UInt16) (data : List UInt8) :
    getLe16 (putLe16 val ++ data) = .ok val := congrArg Except.ok (word16_bytes val)

theorem putLe16_length (val : UInt16) : (putLe16 val).length = 2 := rfl

theorem putLe16_injective {val val' : UInt16} (h : putLe16 val = putLe16 val') : val = val' := by
  have hget := congrArg getLe16 h
  rw [← List.append_nil (putLe16 val), ← List.append_nil (putLe16 val'), getLe16_putLe16,
    getLe16_putLe16] at hget
  exact Except.ok.inj hget

theorem word32_toNat (lo hi : UInt16) :
    (word32 lo hi).toNat = 65536 * hi.toNat + lo.toNat := by
  have hhi := hi.toNat_lt
  have hlo := lo.toNat_lt
  have h16 : (16 : UInt32).toNat % 32 = 16 := rfl
  simp only [word32, UInt32.toNat_or, UInt32.toNat_shiftLeft, UInt16.toNat_toUInt32]
  rw [h16, Nat.shiftLeft_eq]
  have hshift : hi.toNat * 2 ^ 16 % 2 ^ 32 = 2 ^ 16 * hi.toNat := by omega
  rw [hshift, ← Nat.two_pow_add_eq_or_of_lt (by omega)]

theorem word32_low (lo hi : UInt16) : (word32 lo hi).toUInt16 = lo := by
  apply UInt16.toNat_inj.mp
  have hlo := lo.toNat_lt
  rw [UInt32.toNat_toUInt16, word32_toNat]
  omega

theorem word32_halves (w : UInt32) : word32 w.toUInt16 (w >>> 16).toUInt16 = w := by
  apply UInt32.toNat_inj.mp
  have hw := w.toNat_lt
  have h16 : (16 : UInt32).toNat % 32 = 16 := rfl
  rw [word32_toNat, UInt32.toNat_toUInt16, UInt32.toNat_toUInt16, UInt32.toNat_shiftRight, h16,
    Nat.shiftRight_eq_div_pow]
  omega

theorem word32_lo_inj {lo lo' hi : UInt16} : word32 lo hi = word32 lo' hi ↔ lo = lo' := by
  constructor
  · intro h
    rw [← word32_low lo hi, h, word32_low]
  · rintro rfl
    rfl

theorem putBe16_word16 (lo hi : UInt8) : putBe16 (word16 lo hi) = [hi, lo] := by
  simp only [putBe16, lowByte_word16, highByte_word16]

end ByteAccess
