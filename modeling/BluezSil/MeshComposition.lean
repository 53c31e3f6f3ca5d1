import BluezSil.ByteAccess

/-!
# Composition data received from a node

`compositionReceived` walks over a payload whose layout comes from the remote
node: a page number, a ten-byte header, and element records up to the end. The
remaining length is a 16-bit counter that the reads do not check. `ElementsFramed`
describes the record sequences on which the walk ends exactly at the last byte,
and the walk is shown to stay inside the payload on those and on no others.
-/

namespace BluezSil.Mesh

open ByteAccess

def vendorIdMask : UInt32 := 0xffff0000

def featureRelay : UInt16 := 1
def featureProxy : UInt16 := 2
def featureFriend : UInt16 := 4
def featureLpn : UInt16 := 8

/-- The four values passed to the constructor, each masked out of the features word. -/
structure BleMeshFeature where
  relay : UInt16
  proxy : UInt16
  friend : UInt16
  lowPower : UInt16
  deriving DecidableEq, Repr

structure BleMeshElement where
  loc : UInt16
  numS : UInt8
  numV : UInt8
  sigModelIds : List UInt32
  vendorModelIds : List UInt32
  deriving DecidableEq, Repr

structure BleMeshCompositionData where
  companyId : UInt16
  productId : UInt16
  versionId : UInt16
  numRplEnteries : UInt16
  features : BleMeshFeature
  elements : List BleMeshElement
  deriving DecidableEq, Repr

def printModId (data : List UInt8) (vendor : Bool) : Access UInt32 :=
  if !vendor then do
    let modId ← getLe16 data
    return vendorIdMask ||| modId.toUInt32
  else do
    let modId ← getLe16 (data.drop 2)
    let companyId ← getLe16 data
    return companyId.toUInt32 <<< 16 ||| modId.toUInt32

/-- The model-id loops: `while (len >= size && count--)`, one id a turn. -/
def modelLoop (size : ℕ) (read : List UInt8 → Access UInt32) :
    ℕ → List UInt8 → UInt16 → Access (List UInt32 × List UInt8 × UInt16)
  | 0, data, len => .ok ([], data, len)
  | count + 1, data, len =>
    if size ≤ len.toNat then do
      let modId ← read data
      let (modIds, data, len) ←
        modelLoop size read count (data.drop size) (len - UInt16.ofNat size)
      return (modId :: modIds, data, len)
    else .ok ([], data, len)

def sigModel (data : List UInt8) : Access UInt32 := do
  let _ ← printModId data false
  let modId ← getLe16 data
  return modId.toUInt32

/-- Both halves of the id come from the first two bytes, as in the source. -/
def vendorModel (data : List UInt8) : Access UInt32 := do
  let _ ← printModId data true
  let modId ← getLe16 data
  let companyId ← getLe16 data
  return companyId.toUInt32 <<< 16 ||| modId.toUInt32

def readElement (data : List UInt8) (len : UInt16) :
    Access (BleMeshElement × List UInt8 × UInt16) := do
  let loc ← getLe16 data
  let data := data.drop 2
  let len := len - 2
  let m ← readByte data
  let v ← readByte (data.drop 1)
  let data := data.drop 2
  let len := len - 2
  let (sigModId, data, len) ← modelLoop 2 sigModel m.toNat data len
  let (vendorModId, data, len) ← modelLoop 4 vendorModel v.toNat data len
  return (⟨loc, m, v, sigModId, vendorModId⟩, data, len)

theorem modelLoop_length_le (size : ℕ) (read : List UInt8 → Access UInt32) (count : ℕ)
    (data : List UInt8) (len : UInt16) {ids : List UInt32} {data' : List UInt8} {len' : UInt16}
    (h : modelLoop size read count data len = .ok (ids, data', len')) :
    data'.length ≤ data.length := by
  induction count generalizing data len ids with
  | zero =>
      cases h
      exact Nat.le_refl _
  | succ count ih =>
      by_cases hlen : size ≤ len.toNat
      · rw [modelLoop, if_pos hlen] at h
        obtain ⟨modId, _, h⟩ := bind_eq_ok.mp h
        obtain ⟨⟨ids', data'', len''⟩, hrest, h⟩ := bind_eq_ok.mp h
        cases h
        have hle := ih _ _ hrest
        rw [List.length_drop] at hle
        omega
      · rw [modelLoop, if_neg hlen] at h
        cases h
        exact Nat.le_refl _

theorem getLe16_length {data : List UInt8} {w : UInt16} (h : getLe16 data = .ok w) :
    2 ≤ data.length := (inBounds_getLe16 data).mp ⟨w, h⟩

theorem readElement_length_lt {data : List UInt8} {len : UInt16} {e : BleMeshElement}
    {data' : List UInt8} {len' : UInt16} (h : readElement data len = .ok (e, data', len')) :
    data'.length < data.length := by
  obtain ⟨loc, hloc, h⟩ := bind_eq_ok.mp h
  obtain ⟨m, _, h⟩ := bind_eq_ok.mp h
  obtain ⟨v, _, h⟩ := bind_eq_ok.mp h
  obtain ⟨⟨sigModId, data₁, len₁⟩, hsig, h⟩ := bind_eq_ok.mp h
  obtain ⟨⟨vendorModId, data₂, len₂⟩, hvendor, h⟩ := bind_eq_ok.mp h
  cases h
  have hle₁ := modelLoop_length_le _ _ _ _ _ hsig
  have hle₂ := modelLoop_length_le _ _ _ _ _ hvendor
  have hdata := getLe16_length hloc
  simp only [List.length_drop] at hle₁
  omega

/-- The element loop: `while (len)`. -/
def readElements (data : List UInt8) (len : UInt16) : Access (List BleMeshElement) :=
  if len = 0 then .ok []
  else
    match _h : readElement data len with
    | .error f => .error f
    | .ok (element, data', len') => do
      let elements ← readElements data' len'
      return element :: elements
termination_by data.length
decreasing_by exact readElement_length_lt _h

def compositionReceived (data : List UInt8) (len : UInt16) : Access BleMeshCompositionData := do
  -- skip the page number
  let data := data.drop 1
  let len := len - 1
  let companyId ← getLe16 data
  let productId ← getLe16 (data.drop 2)
  let versionId ← getLe16 (data.drop 4)
  let numRplEnteries ← getLe16 (data.drop 6)
  let features ← getLe16 (data.drop 8)
  let data := data.drop 10
  let len := len - 10
  let meshFeatures : BleMeshFeature :=
    ⟨features &&& featureRelay, features &&& featureProxy, features &&& featureFriend,
      features &&& featureLpn⟩
  let elements ← readElements data len
  return ⟨companyId, productId, versionId, numRplEnteries, meshFeatures, elements⟩

/-! ### The payloads that are walked over without leaving them -/

/-- How many ids of `size` bytes are read when `count` are announced and
`available` bytes remain. -/
def idsRead (size count available : ℕ) : ℕ := min count (available / size)

/-- The bytes split exactly into element records: location, the two counts, then
as many of the announced SIG models and of the announced vendor models as fit. -/
inductive ElementsFramed : List UInt8 → Prop
  | nil : ElementsFramed []
  | element (l₀ l₁ m v : UInt8) (sig vendor rest : List UInt8) :
      sig.length = 2 * idsRead 2 m.toNat (sig.length + vendor.length + rest.length) →
      vendor.length = 4 * idsRead 4 v.toNat (vendor.length + rest.length) →
      ElementsFramed rest →
      ElementsFramed (l₀ :: l₁ :: m :: v :: (sig ++ (vendor ++ rest)))

/-- A page number, a header, and framed elements. -/
def PayloadFramed (payload : List UInt8) : Prop :=
  11 ≤ payload.length ∧ ElementsFramed (payload.drop 11)

theorem idsRead_le (size count available : ℕ) :
    size * idsRead size count available ≤ available := by
  calc size * idsRead size count available
      ≤ size * (available / size) := Nat.mul_le_mul_left _ (Nat.min_le_right _ _)
    _ ≤ available := Nat.mul_div_le _ _

theorem idsRead_succ (size count available : ℕ) (hsize : 0 < size) (h : size ≤ available) :
    idsRead size (count + 1) available = idsRead size count (available - size) + 1 := by
  have hdiv : available / size = (available - size) / size + 1 :=
    Nat.div_eq_sub_div hsize h
  rw [idsRead, idsRead, hdiv, Nat.add_min_add_right]

theorem idsRead_of_lt (size count available : ℕ) (h : available < size) :
    idsRead size count available = 0 := by
  rw [idsRead, Nat.div_eq_of_lt h, Nat.min_zero]

theorem sub_toNat (len : UInt16) (k : ℕ) (hk : k ≤ len.toNat) :
    (len - UInt16.ofNat k).toNat = len.toNat - k := by
  have hlen := len.toNat_lt
  have hofNat : (UInt16.ofNat k).toNat = k := by
    rw [UInt16.toNat_ofNat']
    omega
  rw [UInt16.toNat_sub_of_le, hofNat]
  rw [UInt16.le_iff_toNat_le, hofNat]
  exact hk

/-- The counter behind the page number and the header. -/
theorem behindHeader_toNat {n : ℕ} (h : n + 11 ≤ 65535) :
    (UInt16.ofNat (n + 11) - 1 - 10).toNat = n := by
  have hle : (UInt16.ofNat (n + 11)).toNat = n + 11 := by
    rw [UInt16.toNat_ofNat']
    omega
  have h₁ : (UInt16.ofNat (n + 11) - 1).toNat = _ := sub_toNat _ 1 (by omega)
  have h₂ : (UInt16.ofNat (n + 11) - 1 - 10).toNat = _ := sub_toNat _ 10 (by omega)
  omega

theorem behindCounts_toNat {n : ℕ} {len : UInt16} (h : len.toNat = n + 4) :
    (len - 2 - 2).toNat = n := by
  have h₁ : (len - 2).toNat = len.toNat - 2 := sub_toNat len 2 (by omega)
  have h₂ : (len - 2 - 2).toNat = (len - 2).toNat - 2 := sub_toNat (len - 2) 2 (by omega)
  omega

/-- While the counter tells the number of bytes left, the model-id loops stay in
bounds and keep it so. -/
theorem modelLoop_ok (size : ℕ) (hsize : 0 < size) (read : List UInt8 → Access UInt32)
    (hread : ∀ data : List UInt8, size ≤ data.length → InBounds (read data))
    (count : ℕ) (data : List UInt8) (len : UInt16) (hlen : len.toNat = data.length) :
    ∃ ids len', modelLoop size read count data len =
        .ok (ids, data.drop (size * idsRead size count data.length), len') ∧
      len'.toNat = data.length - size * idsRead size count data.length := by
  induction count generalizing data len with
  | zero =>
      refine ⟨[], len, ?_, ?_⟩
      · simp only [modelLoop, idsRead, Nat.zero_min, Nat.mul_zero, List.drop_zero]
      · simp only [idsRead, Nat.zero_min, Nat.mul_zero, Nat.sub_zero, hlen]
  | succ count ih =>
      by_cases hfit : size ≤ len.toNat
      · have hdata : size ≤ data.length := hlen ▸ hfit
        obtain ⟨modId, hmod⟩ := hread data hdata
        have hlen' : (len - UInt16.ofNat size).toNat = (data.drop size).length := by
          rw [sub_toNat len size hfit, hlen, List.length_drop]
        obtain ⟨ids, len', hloop, hleft⟩ := ih (data.drop size) _ hlen'
        have hturns := idsRead_succ size count data.length hsize hdata
        rw [List.length_drop] at hloop hleft
        refine ⟨modId :: ids, len', ?_, ?_⟩
        · rw [modelLoop, if_pos hfit, hmod, bind_ok, hloop, bind_ok, hturns, List.drop_drop,
            Nat.mul_succ, Nat.add_comm]
          rfl
        · rw [hleft, hturns, Nat.mul_succ]
          omega
      · have hturns := idsRead_of_lt size (count + 1) data.length (by omega)
        refine ⟨[], len, ?_, ?_⟩
        · rw [modelLoop, if_neg hfit, hturns, Nat.mul_zero, List.drop_zero]
        · rw [hturns, hlen, Nat.mul_zero, Nat.sub_zero]

theorem sigModel_inBounds (data : List UInt8) (h : 2 ≤ data.length) : InBounds (sigModel data) := by
  match data, h with
  | lo :: hi :: rest, _ => exact inBounds_ok _

theorem vendorModel_inBounds (data : List UInt8) (h : 4 ≤ data.length) :
    InBounds (vendorModel data) := by
  match data, h with
  | b₀ :: b₁ :: b₂ :: b₃ :: rest, _ => exact inBounds_ok _

theorem readElement_ok (l₀ l₁ m v : UInt8) (body : List UInt8) (len : UInt16)
    (hlen : len.toNat = body.length + 4) :
    ∃ element len', readElement (l₀ :: l₁ :: m :: v :: body) len =
        .ok (element, (body.drop (2 * idsRead 2 m.toNat body.length)).drop
          (4 * idsRead 4 v.toNat (body.length - 2 * idsRead 2 m.toNat body.length)), len') ∧
      len'.toNat = body.length - 2 * idsRead 2 m.toNat body.length -
        4 * idsRead 4 v.toNat (body.length - 2 * idsRead 2 m.toNat body.length) := by
  obtain ⟨sigs, len₁, hsig, hlen₁⟩ :=
    modelLoop_ok 2 (by omega) sigModel sigModel_inBounds m.toNat body _ (behindCounts_toNat hlen)
  rw [← List.length_drop] at hlen₁
  obtain ⟨vendors, len₂, hvendor, hlen₂⟩ :=
    modelLoop_ok 4 (by omega) vendorModel vendorModel_inBounds v.toNat _ _ hlen₁
  rw [List.length_drop] at hvendor hlen₂
  refine ⟨⟨word16 l₀ l₁, m, v, sigs, vendors⟩, len₂, ?_, hlen₂⟩
  simp only [readElement, getLe16_cons, bind_ok, List.drop_succ_cons, List.drop_zero,
    readByte_cons, hsig, hvendor]
  rfl

/-- A record is framed with what follows the ids that the walk reads of it. -/
theorem elementsFramed_cons_iff (l₀ l₁ m v : UInt8) (body : List UInt8) {sigs vendors : ℕ}
    (hsigs : sigs = 2 * idsRead 2 m.toNat body.length)
    (hvendors : vendors = 4 * idsRead 4 v.toNat (body.length - sigs)) :
    ElementsFramed (l₀ :: l₁ :: m :: v :: body) ↔
      ElementsFramed ((body.drop sigs).drop vendors) := by
  have hsigs_le : sigs ≤ body.length := hsigs ▸ idsRead_le 2 _ _
  have hvendors_le : vendors ≤ body.length - sigs := hvendors ▸ idsRead_le 4 _ _
  constructor
  · intro hframed
    cases hframed with
    | element _ _ _ _ sig vendor rest hsig hvendor hframed =>
        have hbody : (sig ++ (vendor ++ rest)).length =
            sig.length + vendor.length + rest.length := by
          simp only [List.length_append]
          omega
        have hs : sigs = sig.length := by rw [hsigs, hbody, ← hsig]
        have hv : vendors = vendor.length := by
          rw [hvendors, hs, hbody, hvendor]
          congr 2
          omega
        rwa [hs, hv, List.drop_left, List.drop_left]
  · intro hframed
    have hrest : ((body.drop sigs).drop vendors).length = body.length - sigs - vendors := by
      rw [List.length_drop, List.length_drop]
    have htake : (body.take sigs).length = sigs := List.length_take_of_le hsigs_le
    have htake' : ((body.drop sigs).take vendors).length = vendors :=
      List.length_take_of_le (by rw [List.length_drop]; exact hvendors_le)
    have hall := ElementsFramed.element l₀ l₁ m v (body.take sigs)
      ((body.drop sigs).take vendors) ((body.drop sigs).drop vendors)
      (by rw [htake, htake', hrest, hsigs]; congr 2; omega)
      (by rw [htake', hrest, hvendors]; congr 2; omega) hframed
    rwa [List.take_append_drop, List.take_append_drop] at hall

theorem readElements_inBounds (data : List UInt8) (len : UInt16)
    (hlen : len.toNat = data.length) : InBounds (readElements data len) ↔ ElementsFramed data := by
  induction hn : data.length using Nat.strong_induction_on generalizing data len with
  | _ n ih =>
    match data with
    | [] =>
        have hzero : len = 0 := UInt16.toNat_inj.mp hlen
        rw [readElements, if_pos hzero]
        exact iff_of_true (inBounds_ok _) ElementsFramed.nil
    | l₀ :: l₁ :: m :: v :: body =>
        have hpos : ¬ len = 0 := by
          rintro rfl
          simp at hlen
        obtain ⟨element, len', hread, hlen'⟩ := readElement_ok l₀ l₁ m v body len
          (by rw [hlen]; simp only [List.length_cons])
        rw [elementsFramed_cons_iff l₀ l₁ m v body rfl rfl]
        set sigs := 2 * idsRead 2 m.toNat body.length
        set vendors := 4 * idsRead 4 v.toNat (body.length - sigs)
        have hrest : ((body.drop sigs).drop vendors).length = body.length - sigs - vendors := by
          rw [List.length_drop, List.length_drop]
        have hstep := ih ((body.drop sigs).drop vendors).length
          (by simp only [List.length_cons] at hn; omega)
          ((body.drop sigs).drop vendors) len' (by rw [hlen', hrest]) rfl
        have hloop : InBounds (readElements (l₀ :: l₁ :: m :: v :: body) len) ↔
            InBounds (readElements ((body.drop sigs).drop vendors) len') := by
          rw [readElements, if_neg hpos, hread]
          simp only [inBounds_bind]
          constructor
          · rintro ⟨elements, he, _⟩
            exact ⟨elements, he⟩
          · rintro ⟨elements, he⟩
            exact ⟨elements, he, inBounds_ok _⟩
        rw [hloop, hstep]
    | [_] | [_, _] | [_, _, _] =>
        have hpos : ¬ len = 0 := by
          rintro rfl
          simp at hlen
        refine iff_of_false ?_ (fun hframed => by cases hframed)
        rw [readElements, if_neg hpos]
        exact not_inBounds_error _

/-- The walk over a received payload terminates without leaving it on the framed
payloads exactly. -/
theorem compositionReceived_inBounds_iff (payload : List UInt8) (hlen : payload.length ≤ 65535) :
    InBounds (compositionReceived payload (UInt16.ofNat payload.length)) ↔
      PayloadFramed payload := by
  match payload with
  | page :: c₀ :: c₁ :: p₀ :: p₁ :: v₀ :: v₁ :: r₀ :: r₁ :: f₀ :: f₁ :: rest =>
      have hwalk := readElements_inBounds rest _ (behindHeader_toNat hlen)
      have hparse : InBounds (compositionReceived
          (page :: c₀ :: c₁ :: p₀ :: p₁ :: v₀ :: v₁ :: r₀ :: r₁ :: f₀ :: f₁ :: rest)
          (UInt16.ofNat (rest.length + 11))) ↔
          InBounds (readElements rest (UInt16.ofNat (rest.length + 11) - 1 - 10)) := by
        simp only [compositionReceived, List.drop_succ_cons, List.drop_zero, getLe16_cons, bind_ok,
          inBounds_bind]
        constructor
        · rintro ⟨elements, he, _⟩
          exact ⟨elements, he⟩
        · rintro ⟨elements, he⟩
          exact ⟨elements, he, inBounds_ok _⟩
      rw [PayloadFramed]
      simp only [List.length_cons, List.drop_succ_cons, List.drop_zero]
      rw [hparse, hwalk]
      constructor
      · intro hframed
        exact ⟨by omega, hframed⟩
      · exact And.right
  | [] | [_] | [_, _] | [_, _, _] | [_, _, _, _] | [_, _, _, _, _] | [_, _, _, _, _, _]
  | [_, _, _, _, _, _, _] | [_, _, _, _, _, _, _, _] | [_, _, _, _, _, _, _, _, _]
  | [_, _, _, _, _, _, _, _, _, _] =>
      refine iff_of_false (not_inBounds_error _) ?_
      rintro ⟨hlong, _⟩
      simp at hlong

def pageOfTwo : List UInt8 :=
  [0, 0x4C, 0, 1, 0, 1, 0, 10, 0, 1, 0,
    0, 1, 1, 1, 0x00, 0x10, 0x4C, 0, 1, 0,
    0, 2, 0, 0]

theorem compositionReceived_inBounds_page :
    InBounds (compositionReceived pageOfTwo (UInt16.ofNat pageOfTwo.length)) := by
  have hsecond : ElementsFramed [0, 2, 0, 0] := .element 0 2 0 0 [] [] [] rfl rfl .nil
  have hboth : ElementsFramed (pageOfTwo.drop 11) :=
    .element 0 1 1 1 [0x00, 0x10] [0x4C, 0, 1, 0] [0, 2, 0, 0] rfl rfl hsecond
  exact (compositionReceived_inBounds_iff pageOfTwo (by decide)).mpr ⟨by decide, hboth⟩

/-- An empty composition status is read past its end. -/
theorem compositionReceived_empty_outOfBounds :
    ¬ InBounds (compositionReceived [] (UInt16.ofNat ([] : List UInt8).length)) :=
  not_inBounds_error _

end BluezSil.Mesh
