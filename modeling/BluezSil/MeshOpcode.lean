import BluezSil.ByteAccess

/-!
# Mesh opcodes on the wire

`meshOpcodeSet` writes an opcode into a message and `meshOpcodeGet` reads it back
from a received one. `OpcodeForm` is the layout both of them follow: one byte
below the reserved value `0x7f`, two bytes from `0x80` to `0xbf` in the first, or
three bytes with the two top bits of the first set. Each function is shown to
agree with the layout, and the two are inverse because they do.
-/

namespace BluezSil.Mesh

open ByteAccess

/-- The bytes written at the start of the buffer. Their number is what the
function returns, and it is zero for an illegal opcode. -/
def meshOpcodeSet (opcode : UInt32) : List UInt8 :=
  if opcode ≤ 0x7e then [opcode.toUInt8]
  else if 0x8000 ≤ opcode ∧ opcode ≤ 0xbfff then putBe16 opcode.toUInt16
  else if 0xc00000 ≤ opcode ∧ opcode ≤ 0xffffff then
    ((opcode >>> 16) &&& 0xff).toUInt8 :: putBe16 opcode.toUInt16
  else []

/-- `none` where the function returns false, otherwise `*opcode` and `*n`. -/
def meshOpcodeGet (buf : List UInt8) (sz : UInt16) : Access (Option (UInt32 × ℕ)) :=
  if sz < 1 then .ok none
  else do
    let b ← readByte buf
    if b &&& 0xc0 = 0x00 ∨ b &&& 0xc0 = 0x40 then
      if b = 0x7f then return none
      return some (b.toUInt32, 1)
    else if b &&& 0xc0 = 0x80 then
      if sz < 2 then return none
      let opcode ← getBe16 buf
      return some (opcode.toUInt32, 2)
    else if b &&& 0xc0 = 0xc0 then
      if sz < 3 then return none
      let opcode ← getBe16 (buf.drop 1)
      return some (opcode.toUInt32 ||| b.toUInt32 <<< 16, 3)
    else return none

/-- The byte strings that stand for an opcode. -/
inductive OpcodeForm : List UInt8 → UInt32 → Prop
  | one (b : UInt8) : b.toNat < 0x7f → OpcodeForm [b] b.toUInt32
  | two (hi lo : UInt8) : 0x80 ≤ hi.toNat → hi.toNat < 0xc0 →
      OpcodeForm [hi, lo] (word16 lo hi).toUInt32
  | three (top hi lo : UInt8) : 0xc0 ≤ top.toNat →
      OpcodeForm [top, hi, lo] ((word16 lo hi).toUInt32 ||| top.toUInt32 <<< 16)

/-! ### The bit tests as ranges -/

theorem topBits_table : ∀ i : Fin 256,
    ((UInt8.ofNat i.val &&& 0xc0 = 0x00 ∨ UInt8.ofNat i.val &&& 0xc0 = 0x40) ↔ i.val < 0x80) ∧
    (UInt8.ofNat i.val &&& 0xc0 = 0x80 ↔ 0x80 ≤ i.val ∧ i.val < 0xc0) ∧
    (UInt8.ofNat i.val &&& 0xc0 = 0xc0 ↔ 0xc0 ≤ i.val) := by
  decide +kernel

theorem oneByte_iff (b : UInt8) : (b &&& 0xc0 = 0x00 ∨ b &&& 0xc0 = 0x40) ↔ b.toNat < 0x80 := by
  simpa using (topBits_table ⟨b.toNat, b.toNat_lt⟩).1

theorem twoByte_iff (b : UInt8) : b &&& 0xc0 = 0x80 ↔ 0x80 ≤ b.toNat ∧ b.toNat < 0xc0 := by
  simpa using (topBits_table ⟨b.toNat, b.toNat_lt⟩).2.1

theorem threeByte_iff (b : UInt8) : b &&& 0xc0 = 0xc0 ↔ 0xc0 ≤ b.toNat := by
  simpa using (topBits_table ⟨b.toNat, b.toNat_lt⟩).2.2

theorem reserved_iff (b : UInt8) : b = 0x7f ↔ b.toNat = 0x7f := by
  rw [← UInt8.toNat_inj]
  rfl

/-! ### The value of each form -/

theorem three_toNat (top hi lo : UInt8) :
    ((word16 lo hi).toUInt32 ||| top.toUInt32 <<< 16).toNat =
      65536 * top.toNat + 256 * hi.toNat + lo.toNat := by
  have hword : (word16 lo hi).toUInt32 ||| top.toUInt32 <<< 16 =
      word32 (word16 lo hi) top.toUInt16 := by
    rw [UInt32.or_comm, word32, UInt8.toUInt32_toUInt16]
  rw [hword, word32_toNat, word16_toNat, UInt8.toNat_toUInt16]
  omega

theorem two_toNat (hi lo : UInt8) :
    (word16 lo hi).toUInt32.toNat = 256 * hi.toNat + lo.toNat := by
  rw [UInt16.toNat_toUInt32, word16_toNat]

/-! ### Both functions follow the layout -/

theorem OpcodeForm.ne_nil {bytes : List UInt8} {opcode : UInt32}
    (h : OpcodeForm bytes opcode) : bytes ≠ [] := by
  cases h <;> exact List.cons_ne_nil _ _

theorem meshOpcodeSet_of_form {bytes : List UInt8} {opcode : UInt32}
    (h : OpcodeForm bytes opcode) : meshOpcodeSet opcode = bytes := by
  cases h with
  | one b hb =>
      have hle : b.toUInt32 ≤ 0x7e := by
        rw [UInt32.le_iff_toNat_le, UInt8.toNat_toUInt32]
        change b.toNat ≤ 126
        omega
      rw [meshOpcodeSet, if_pos hle, UInt8.toUInt8_toUInt32]
  | two hi lo hlow hhigh =>
      have hlo := lo.toNat_lt
      have hval := two_toNat hi lo
      have hone : ¬ (word16 lo hi).toUInt32 ≤ 0x7e := by
        rw [UInt32.le_iff_toNat_le, hval]
        change ¬ 256 * hi.toNat + lo.toNat ≤ 126
        omega
      have htwo : 0x8000 ≤ (word16 lo hi).toUInt32 ∧ (word16 lo hi).toUInt32 ≤ 0xbfff := by
        rw [UInt32.le_iff_toNat_le, UInt32.le_iff_toNat_le, hval]
        change 32768 ≤ 256 * hi.toNat + lo.toNat ∧ 256 * hi.toNat + lo.toNat ≤ 49151
        omega
      rw [meshOpcodeSet, if_neg hone, if_pos htwo, UInt16.toUInt16_toUInt32, putBe16_word16]
  | three top hi lo htop =>
      have hlo := lo.toNat_lt
      have hhi := hi.toNat_lt
      have htop' := top.toNat_lt
      have hval := three_toNat top hi lo
      set opcode := (word16 lo hi).toUInt32 ||| top.toUInt32 <<< 16
      have hone : ¬ opcode ≤ 0x7e := by
        rw [UInt32.le_iff_toNat_le, hval]
        change ¬ 65536 * top.toNat + 256 * hi.toNat + lo.toNat ≤ 126
        omega
      have htwo : ¬ (0x8000 ≤ opcode ∧ opcode ≤ 0xbfff) := by
        rw [UInt32.le_iff_toNat_le, UInt32.le_iff_toNat_le, hval]
        change ¬ (32768 ≤ 65536 * top.toNat + 256 * hi.toNat + lo.toNat ∧
          65536 * top.toNat + 256 * hi.toNat + lo.toNat ≤ 49151)
        omega
      have hthree : 0xc00000 ≤ opcode ∧ opcode ≤ 0xffffff := by
        rw [UInt32.le_iff_toNat_le, UInt32.le_iff_toNat_le, hval]
        change 12582912 ≤ 65536 * top.toNat + 256 * hi.toNat + lo.toNat ∧
          65536 * top.toNat + 256 * hi.toNat + lo.toNat ≤ 16777215
        omega
      have hword : opcode.toUInt16 = word16 lo hi := by
        apply UInt16.toNat_inj.mp
        rw [UInt32.toNat_toUInt16, hval, word16_toNat]
        omega
      have hfirst : ((opcode >>> 16) &&& 0xff).toUInt8 = top := by
        apply UInt8.toNat_inj.mp
        have h16 : (16 : UInt32).toNat % 32 = 16 := rfl
        have h255 : (0xff : UInt32).toNat = 2 ^ 8 - 1 := rfl
        rw [UInt32.toNat_toUInt8, UInt32.toNat_and, UInt32.toNat_shiftRight, h16, h255,
          Nat.and_two_pow_sub_one_eq_mod, Nat.shiftRight_eq_div_pow, hval]
        omega
      rw [meshOpcodeSet, if_neg hone, if_neg htwo, if_pos hthree, hfirst, hword, putBe16_word16]

theorem form_of_meshOpcodeSet {opcode : UInt32} (h : meshOpcodeSet opcode ≠ []) :
    OpcodeForm (meshOpcodeSet opcode) opcode := by
  by_cases hone : opcode ≤ 0x7e
  · rw [meshOpcodeSet, if_pos hone]
    rw [UInt32.le_iff_toNat_le] at hone
    change opcode.toNat ≤ 126 at hone
    have hb : opcode.toUInt8.toNat = opcode.toNat := by
      rw [UInt32.toNat_toUInt8]
      omega
    have hback : opcode.toUInt8.toUInt32 = opcode := by
      apply UInt32.toNat_inj.mp
      rw [UInt8.toNat_toUInt32, hb]
    have hform := OpcodeForm.one opcode.toUInt8 (by rw [hb]; omega)
    rwa [hback] at hform
  by_cases htwo : 0x8000 ≤ opcode ∧ opcode ≤ 0xbfff
  · rw [meshOpcodeSet, if_neg hone, if_pos htwo]
    rw [UInt32.le_iff_toNat_le, UInt32.le_iff_toNat_le] at htwo
    change 32768 ≤ opcode.toNat ∧ opcode.toNat ≤ 49151 at htwo
    have hw : opcode.toUInt16.toNat = opcode.toNat := by
      rw [UInt32.toNat_toUInt16]
      omega
    have hback : (word16 opcode.toUInt16.toUInt8 (opcode.toUInt16 >>> 8).toUInt8).toUInt32 =
        opcode := by
      apply UInt32.toNat_inj.mp
      rw [word16_bytes, UInt16.toNat_toUInt32, hw]
    have hhi := highByte_toNat opcode.toUInt16
    have hform := OpcodeForm.two (opcode.toUInt16 >>> 8).toUInt8 opcode.toUInt16.toUInt8
      (by omega) (by omega)
    rwa [hback] at hform
  by_cases hthree : 0xc00000 ≤ opcode ∧ opcode ≤ 0xffffff
  · rw [meshOpcodeSet, if_neg hone, if_neg htwo, if_pos hthree]
    rw [UInt32.le_iff_toNat_le, UInt32.le_iff_toNat_le] at hthree
    change 12582912 ≤ opcode.toNat ∧ opcode.toNat ≤ 16777215 at hthree
    have h16 : (16 : UInt32).toNat % 32 = 16 := rfl
    have h255 : (0xff : UInt32).toNat = 2 ^ 8 - 1 := rfl
    have htop : ((opcode >>> 16) &&& 0xff).toUInt8.toNat = opcode.toNat / 65536 := by
      rw [UInt32.toNat_toUInt8, UInt32.toNat_and, UInt32.toNat_shiftRight, h16, h255,
        Nat.and_two_pow_sub_one_eq_mod, Nat.shiftRight_eq_div_pow]
      omega
    have hlow : opcode.toUInt16.toNat = opcode.toNat % 65536 := by
      rw [UInt32.toNat_toUInt16]
    have hback : (word16 opcode.toUInt16.toUInt8 (opcode.toUInt16 >>> 8).toUInt8).toUInt32 |||
        ((opcode >>> 16) &&& 0xff).toUInt8.toUInt32 <<< 16 = opcode := by
      apply UInt32.toNat_inj.mp
      rw [three_toNat, htop, highByte_toNat, lowByte_toNat, hlow]
      omega
    have hform := OpcodeForm.three ((opcode >>> 16) &&& 0xff).toUInt8
      (opcode.toUInt16 >>> 8).toUInt8 opcode.toUInt16.toUInt8 (by rw [htop]; omega)
    rwa [hback] at hform
  · rw [meshOpcodeSet, if_neg hone, if_neg htwo, if_neg hthree] at h
    exact absurd rfl h

theorem sz_lt_one_iff (sz : UInt16) : sz < 1 ↔ sz.toNat < 1 :=
  UInt16.lt_iff_toNat_lt

theorem sz_lt_two_iff (sz : UInt16) : sz < 2 ↔ sz.toNat < 2 :=
  UInt16.lt_iff_toNat_lt

theorem sz_lt_three_iff (sz : UInt16) : sz < 3 ↔ sz.toNat < 3 :=
  UInt16.lt_iff_toNat_lt

theorem meshOpcodeGet_of_form {bytes : List UInt8} {opcode : UInt32}
    (h : OpcodeForm bytes opcode) (rest : List UInt8) (sz : UInt16)
    (hsz : bytes.length ≤ sz.toNat) :
    meshOpcodeGet (bytes ++ rest) sz = .ok (some (opcode, bytes.length)) := by
  have hsz1 : ¬ sz < 1 := by
    rw [sz_lt_one_iff]
    have := List.length_pos_iff.mpr h.ne_nil
    omega
  cases h with
  | one b hb =>
      have hbits := (oneByte_iff b).mpr (by omega)
      have hres : ¬ b = 0x7f := by
        rw [reserved_iff]
        omega
      simp only [meshOpcodeGet, if_neg hsz1, List.cons_append, readByte_cons, bind_ok,
        if_pos hbits, if_neg hres]
      rfl
  | two hi lo hlow hhigh =>
      have hbits : ¬ (hi &&& 0xc0 = 0x00 ∨ hi &&& 0xc0 = 0x40) := by
        rw [oneByte_iff]
        omega
      have htwo := (twoByte_iff hi).mpr ⟨hlow, hhigh⟩
      have hsz2 : ¬ sz < 2 := by
        rw [sz_lt_two_iff]
        exact Nat.not_lt.mpr hsz
      simp only [meshOpcodeGet, if_neg hsz1, List.cons_append, readByte_cons, bind_ok,
        if_neg hbits, if_pos htwo, if_neg hsz2, getBe16_cons]
      rfl
  | three top hi lo htop =>
      have hbits : ¬ (top &&& 0xc0 = 0x00 ∨ top &&& 0xc0 = 0x40) := by
        rw [oneByte_iff]
        omega
      have htwo : ¬ top &&& 0xc0 = 0x80 := by
        rw [twoByte_iff]
        omega
      have hthree := (threeByte_iff top).mpr htop
      have hsz3 : ¬ sz < 3 := by
        rw [sz_lt_three_iff]
        exact Nat.not_lt.mpr hsz
      simp only [meshOpcodeGet, if_neg hsz1, List.cons_append, readByte_cons, bind_ok,
        if_neg hbits, if_neg htwo, if_pos hthree, if_neg hsz3, List.drop_succ_cons, List.drop_zero,
        getBe16_cons]
      rfl

theorem form_of_meshOpcodeGet {buf : List UInt8} {sz : UInt16} {opcode : UInt32} {n : ℕ}
    (h : meshOpcodeGet buf sz = .ok (some (opcode, n))) :
    n ≤ sz.toNat ∧ n ≤ buf.length ∧ OpcodeForm (buf.take n) opcode := by
  by_cases hsz : sz < 1
  · rw [meshOpcodeGet, if_pos hsz] at h
    cases h
  rw [meshOpcodeGet, if_neg hsz] at h
  obtain ⟨b, hb, h⟩ := bind_eq_ok.mp h
  obtain ⟨rest, rfl⟩ : ∃ rest, buf = b :: rest := by
    cases buf with
    | nil => cases hb
    | cons b' rest => cases hb; exact ⟨rest, rfl⟩
  rw [sz_lt_one_iff] at hsz
  split_ifs at h with hone hres htwo hsz2 hthree hsz3
  · cases h
  · cases h
    rw [oneByte_iff] at hone
    rw [reserved_iff] at hres
    exact ⟨by omega, by simp, OpcodeForm.one b (by omega)⟩
  · cases h
  · obtain ⟨w, hw, h⟩ := bind_eq_ok.mp h
    rw [sz_lt_two_iff] at hsz2
    rw [twoByte_iff] at htwo
    match rest, hw with
    | lo :: rest, hw =>
        cases hw
        cases h
        exact ⟨by omega, by simp, OpcodeForm.two b lo htwo.1 htwo.2⟩
  · cases h
  · obtain ⟨w, hw, h⟩ := bind_eq_ok.mp h
    rw [sz_lt_three_iff] at hsz3
    rw [threeByte_iff] at hthree
    match rest, hw with
    | hi :: lo :: rest, hw =>
        cases hw
        cases h
        exact ⟨by omega, by simp, OpcodeForm.three b hi lo hthree⟩
  · cases h

/-- A read past the buffer cannot happen when the size passed is at most the
buffer's length. -/
theorem meshOpcodeGet_inBounds (buf : List UInt8) (sz : UInt16) (h : sz.toNat ≤ buf.length) :
    InBounds (meshOpcodeGet buf sz) := by
  by_cases hsz : sz < 1
  · rw [meshOpcodeGet, if_pos hsz]
    exact inBounds_ok _
  rw [meshOpcodeGet, if_neg hsz]
  rw [sz_lt_one_iff] at hsz
  obtain ⟨b, rest, rfl⟩ := List.exists_cons_of_length_pos (l := buf) (by omega)
  rw [inBounds_bind]
  refine ⟨b, rfl, ?_⟩
  split_ifs with hone hres htwo hsz2 hthree hsz3
  · exact inBounds_ok _
  · exact inBounds_ok _
  · exact inBounds_ok _
  · rw [sz_lt_two_iff] at hsz2
    obtain ⟨lo, rest, rfl⟩ := List.exists_cons_of_length_pos (l := rest) (by simp at h; omega)
    exact inBounds_ok _
  · exact inBounds_ok _
  · rw [sz_lt_three_iff] at hsz3
    match rest, h with
    | [], h => simp at h; omega
    | [hi], h => simp at h; omega
    | hi :: lo :: rest, _ => exact inBounds_ok _
  · exact inBounds_ok _

/-- Encoder and decoder are inverse on every opcode the encoder accepts, and the
decoder yields no other opcode. The length passed to the decoder is any 16-bit
value that covers the opcode, whatever follows it, and the decoder stays inside its buffer. -/
theorem meshOpcode_roundTrip :
    (∀ (opcode : UInt32) (rest : List UInt8) (sz : UInt16), meshOpcodeSet opcode ≠ [] →
      (meshOpcodeSet opcode).length ≤ sz.toNat →
      meshOpcodeGet (meshOpcodeSet opcode ++ rest) sz =
        .ok (some (opcode, (meshOpcodeSet opcode).length))) ∧
    (∀ (buf : List UInt8) (sz : UInt16) (opcode : UInt32) (n : ℕ),
      meshOpcodeGet buf sz = .ok (some (opcode, n)) →
      n ≤ sz.toNat ∧ n ≤ buf.length ∧ 0 < n ∧ meshOpcodeSet opcode = buf.take n) ∧
    (∀ opcode : UInt32, meshOpcodeSet opcode = [] →
      ∀ (buf : List UInt8) (sz : UInt16) (n : ℕ),
        meshOpcodeGet buf sz ≠ .ok (some (opcode, n))) ∧
    ∀ (buf : List UInt8) (sz : UInt16), sz.toNat ≤ buf.length →
      InBounds (meshOpcodeGet buf sz) := by
  refine ⟨?_, ?_, ?_, meshOpcodeGet_inBounds⟩
  · intro opcode rest sz hset hsz
    exact meshOpcodeGet_of_form (form_of_meshOpcodeSet hset) rest sz hsz
  · intro buf sz opcode n hget
    obtain ⟨hsz, hlen, hform⟩ := form_of_meshOpcodeGet hget
    refine ⟨hsz, hlen, ?_, meshOpcodeSet_of_form hform⟩
    by_contra hn
    have hzero : n = 0 := by omega
    subst hzero
    exact hform.ne_nil rfl
  · intro opcode hset buf sz n hget
    have hform := (form_of_meshOpcodeGet hget).2.2
    exact hform.ne_nil ((meshOpcodeSet_of_form hform).symm.trans hset)

/-- The opcode of an application key list, with one byte after it. -/
theorem meshOpcode_roundTrip_keyList :
    meshOpcodeGet (meshOpcodeSet 0x8002 ++ [0]) 3 =
      .ok (some (0x8002, (meshOpcodeSet 0x8002).length)) :=
  meshOpcode_roundTrip.1 0x8002 [0] 3 (by decide) (by decide)

end BluezSil.Mesh
