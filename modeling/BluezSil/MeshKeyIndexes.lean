import BluezSil.MeshConfigKeys
import Mathlib.Algebra.Group.Nat.Even

/-!
# Key indexes on the wire

A key index has twelve bits. Two of them are packed into three bytes, the first one
in the low half; an odd last one takes two bytes whose upper four bits are reserved.
The packing is stated over the numbers the bytes stand for, and the extractions of
the handler are compared with it.
-/

namespace BluezSil.Mesh

open ByteAccess

structure KeyIndex where
  val : UInt16
  lt : val.toNat < 4096

/-- Two indexes in three bytes, least significant byte first. -/
def packPair (a b : KeyIndex) : List UInt8 :=
  let v := a.val.toNat + 4096 * b.val.toNat
  [UInt8.ofNat v, UInt8.ofNat (v / 256), UInt8.ofNat (v / 65536)]

/-- One index in two bytes, with four reserved bits above it. -/
def packOne (reserved : Fin 16) (a : KeyIndex) : List UInt8 :=
  let v := a.val.toNat + 4096 * reserved.val
  [UInt8.ofNat v, UInt8.ofNat (v / 256)]

def packIndexes (reserved : Fin 16) : List KeyIndex → List UInt8
  | a :: b :: indexes => packPair a b ++ packIndexes reserved indexes
  | [a] => packOne reserved a
  | [] => []

/-! ### The extractions -/

theorem lowTwelve_toNat (w : UInt16) : (w &&& 0xfff).toNat = w.toNat % 4096 := by
  have hmask : (0xfff : UInt16).toNat = 2 ^ 12 - 1 := rfl
  rw [UInt16.toNat_and, hmask, Nat.and_two_pow_sub_one_eq_mod]

theorem highTwelve_toNat (w : UInt16) : (w >>> 4).toNat = w.toNat / 16 := by
  have h4 : (4 : UInt16).toNat % 16 = 4 := rfl
  rw [UInt16.toNat_shiftRight, h4, Nat.shiftRight_eq_div_pow]

theorem extract_packPair (a b : KeyIndex) {b₀ b₁ b₂ : UInt8} (h : packPair a b = [b₀, b₁, b₂]) :
    word16 b₀ b₁ &&& 0xfff = a.val ∧ word16 b₁ b₂ >>> 4 = b.val := by
  have ha := a.lt
  have hb := b.lt
  simp only [packPair, List.cons.injEq, and_true] at h
  obtain ⟨rfl, rfl, rfl⟩ := h
  constructor
  · apply UInt16.toNat_inj.mp
    rw [lowTwelve_toNat, word16_ofNat]
    omega
  · apply UInt16.toNat_inj.mp
    rw [highTwelve_toNat, word16_toNat, UInt8.toNat_ofNat', UInt8.toNat_ofNat']
    omega

theorem appKeyList_packPair (a b : KeyIndex) (data : List UInt8) :
    appKeyList (packPair a b ++ data) = a.val :: b.val :: appKeyList data := by
  obtain ⟨hlow, hhigh⟩ := extract_packPair a b rfl
  rw [packPair, List.cons_append, List.cons_append, List.cons_append, List.nil_append, appKeyList,
    hlow, hhigh]

/-- An odd last index is taken with the reserved bits above it. -/
theorem appKeyList_packOne (reserved : Fin 16) (a : KeyIndex) :
    ∃ w, appKeyList (packOne reserved a) = [w] ∧ w.toNat = a.val.toNat + 4096 * reserved.val := by
  have ha := a.lt
  refine ⟨_, rfl, ?_⟩
  rw [word16_ofNat]
  omega

/-- The extraction of a list finds the packed indexes when there is an even number of
them, or the reserved bits are zero, and otherwise an index above twelve bits. -/
theorem appKeyList_packIndexes_iff (reserved : Fin 16) (indexes : List KeyIndex) :
    appKeyList (packIndexes reserved indexes) = indexes.map (·.val) ↔
      Even indexes.length ∨ reserved = 0 := by
  induction indexes using packIndexes.induct with
  | case1 a b indexes ih =>
      rw [packIndexes, appKeyList_packPair, List.map_cons, List.map_cons, List.length_cons,
        List.length_cons, Nat.even_add_one, Nat.even_add_one, not_not, List.cons.injEq,
        List.cons.injEq]
      simpa only [true_and] using ih
  | case2 a =>
      obtain ⟨w, hlist, hw⟩ := appKeyList_packOne reserved a
      rw [packIndexes, hlist, List.map_cons, List.map_nil, List.length_singleton, List.cons.injEq,
        ← UInt16.toNat_inj, hw, Fin.ext_iff]
      have hodd : ¬ Even 1 := by decide
      simp only [and_true, hodd, false_or, Fin.val_zero]
      omega
  | case3 => exact iff_of_true rfl (Or.inl Even.zero)

theorem deleteBytes_eq_packPair (net app : KeyIndex) :
    [net.val.toUInt8, (((net.val >>> 8) &&& (0xf : UInt16)) |||
      ((app.val <<< 4) &&& (0xf0 : UInt16))).toUInt8, (app.val >>> 4).toUInt8] =
      packPair net app := by
  have hnet := net.lt
  have happ := app.lt
  have h8 : (8 : UInt16).toNat % 16 = 8 := rfl
  have h4 : (4 : UInt16).toNat % 16 = 4 := rfl
  have hlow : ((net.val >>> 8) &&& (0xf : UInt16)).toNat = net.val.toNat / 256 := by
    have hmask : (0xf : UInt16).toNat = 2 ^ 4 - 1 := rfl
    rw [UInt16.toNat_and, hmask, Nat.and_two_pow_sub_one_eq_mod, UInt16.toNat_shiftRight, h8,
      Nat.shiftRight_eq_div_pow]
    omega
  have hhigh : ((app.val <<< 4) &&& (0xf0 : UInt16)).toNat = 2 ^ 4 * (app.val.toNat % 16) := by
    have hmask : (0xf0 : UInt16).toNat = (2 ^ 4 - 1) <<< 4 := rfl
    rw [UInt16.toNat_and, hmask, UInt16.toNat_shiftLeft, h4,
      Nat.mod_eq_of_lt (by rw [Nat.shiftLeft_eq]; omega), ← Nat.shiftLeft_and_distrib,
      Nat.and_two_pow_sub_one_eq_mod, Nat.shiftLeft_eq, Nat.mul_comm]
  have hmiddle : (((net.val >>> 8) &&& (0xf : UInt16)) |||
      ((app.val <<< 4) &&& (0xf0 : UInt16))).toNat =
      net.val.toNat / 256 + 16 * (app.val.toNat % 16) := by
    rw [UInt16.toNat_or, hlow, hhigh, Nat.or_comm, ← Nat.two_pow_add_eq_or_of_lt (by omega)]
    omega
  rw [packPair, List.cons.injEq, List.cons.injEq, List.cons.injEq]
  refine ⟨?_, ?_, ?_, rfl⟩
  · apply UInt8.toNat_inj.mp
    rw [lowByte_toNat, UInt8.toNat_ofNat']
    omega
  · apply UInt8.toNat_inj.mp
    rw [lowByte_toNat, hmiddle, UInt8.toNat_ofNat']
    omega
  · apply UInt8.toNat_inj.mp
    rw [lowByte_toNat, highTwelve_toNat, UInt8.toNat_ofNat']
    omega

/-! ### Key indexes against what is reported -/

/-- The handler reports the packed indexes, none of them above twelve bits. -/
def ListSurvives (configuration : BleMeshConfiguration) (net₀ net₁ : UInt8) (reserved : Fin 16)
    (indexes : List KeyIndex) : Prop :=
  ∃ reported, decodeStatus opAppkeyList configuration
      (meshStatusSuccess :: net₀ :: net₁ :: packIndexes reserved indexes) =
        .ok (some { configuration with appKeyIndexes := some reported }) ∧
    reported = indexes.map (·.val) ∧ ∀ i ∈ reported, i ≤ 0xfff

theorem listSurvives_iff (configuration : BleMeshConfiguration) (net₀ net₁ : UInt8)
    (reserved : Fin 16) (indexes : List KeyIndex) :
    ListSurvives configuration net₀ net₁ reserved indexes ↔
      Even indexes.length ∨ reserved = 0 := by
  have hdecode : decodeStatus opAppkeyList configuration
      (meshStatusSuccess :: net₀ :: net₁ :: packIndexes reserved indexes) =
      .ok (some { configuration with
        appKeyIndexes := some (appKeyList (packIndexes reserved indexes)) }) :=
    decodeStatus_appKeyList meshStatusSuccess net₀ net₁ _ configuration
  rw [← appKeyList_packIndexes_iff]
  constructor
  · rintro ⟨reported, hreported, hindexes, _⟩
    rw [hdecode] at hreported
    have hfield := congrArg BleMeshConfiguration.appKeyIndexes
      (Option.some.inj (Except.ok.inj hreported))
    exact (Option.some.inj hfield).trans hindexes
  · intro hlist
    refine ⟨_, hdecode, hlist, ?_⟩
    intro i hi
    rw [hlist] at hi
    obtain ⟨a, _, rfl⟩ := List.mem_map.mp hi
    have ha := a.lt
    rw [UInt16.le_iff_toNat_le]
    have hbound : (0xfff : UInt16).toNat = 4095 := rfl
    omega

/-- The message of a deletion carries three bytes that the handler of a status takes
apart into the same two indexes. -/
def DeletionSurvives (c : ConfigClient) (destAddress : UInt16) (net app : KeyIndex)
    (reply : Reply) : Prop :=
  ∃ bytes, bytes.length = 3 ∧
    (c.configAppKeyDelete destAddress net.val app.val reply).outputs.head? =
      some (.devKeySend destAddress net.val (meshOpcodeSet opAppkeyDelete ++ bytes) reply) ∧
    ∀ (status : UInt8) (configuration : BleMeshConfiguration),
      decodeStatus opAppkeyStatus configuration (status :: bytes) =
        .ok (some { configuration with
          netKeyIndex := some net.val, appKeyIndex := some app.val })

theorem deletionSurvives (c : ConfigClient) (destAddress : UInt16) (net app : KeyIndex)
    (reply : Reply) : DeletionSurvives c destAddress net app reply := by
  refine ⟨packPair net app, rfl, ?_, ?_⟩
  · rw [← deleteBytes_eq_packPair]
    cases reply with
    | none => rfl
    | some message => rfl
  · intro status configuration
    obtain ⟨hnet, happ⟩ := extract_packPair net app rfl
    have hkey : statusKey (status :: packPair net app) = some (net.val, app.val) := by
      rw [packPair, statusKey, hnet, happ]
    exact decodeStatus_statusKey hkey configuration

/-- Key indexes survive the wire exactly when the packed list has an even length or its
reserved bits are zero; a deletion names its pair in any case. -/
theorem keyIndexes_survive_iff (configuration : BleMeshConfiguration) (net₀ net₁ : UInt8)
    (reserved : Fin 16) (indexes : List KeyIndex) (c : ConfigClient) (destAddress : UInt16)
    (net app : KeyIndex) (reply : Reply) :
    ListSurvives configuration net₀ net₁ reserved indexes ∧
        DeletionSurvives c destAddress net app reply ↔
      Even indexes.length ∨ reserved = 0 := by
  rw [listSurvives_iff]
  exact and_iff_left (deletionSurvives c destAddress net app reply)

/-- Index 1 with the reserved bits set is reported as index 0xf001. -/
theorem listSurvives_reserved :
    ¬ ∀ (configuration : BleMeshConfiguration) (net₀ net₁ : UInt8) (reserved : Fin 16)
      (indexes : List KeyIndex), ListSurvives configuration net₀ net₁ reserved indexes := by
  intro hall
  have hone := hall { config := "APPKEYINDEX", nodeAddress := 0x0005 } 0 0 15
    [⟨1, by decide⟩]
  exact absurd ((listSurvives_iff _ _ _ _ _).mp hone) (by decide)

end BluezSil.Mesh
