import BluezSil.MeshComposition

/-!
# Composition data against its encoding

`encode` lays out page zero the way a node sends it: the page number, the header
words, then one record for each element with its location, the two counts, the
SIG model ids and the vendor models, each a company id and a model id. The walk of
`compositionReceived` over such a payload finds every record, with the counter at
the number of bytes that are left. What it makes of a vendor model has the company
id in both halves.
-/

namespace BluezSil.Mesh

open ByteAccess

structure VendorModel where
  companyId : UInt16
  modelId : UInt16
  deriving DecidableEq, Repr

/-- An element as the node describes it, with counts that fit their byte. -/
structure PageElement where
  loc : UInt16
  sigModels : List UInt16
  vendorModels : List VendorModel
  sigModels_le : sigModels.length ≤ 255
  vendorModels_le : vendorModels.length ≤ 255

structure PageHeader where
  companyId : UInt16
  productId : UInt16
  versionId : UInt16
  numRplEnteries : UInt16
  features : UInt16
  deriving DecidableEq, Repr

def VendorModel.encode (v : VendorModel) : List UInt8 := putLe16 v.companyId ++ putLe16 v.modelId

/-- The id of a vendor model: `companyId << 16 | modelId`. -/
def VendorModel.id (v : VendorModel) : UInt32 := word32 v.modelId v.companyId

/-- What the walk pushes for a vendor model. -/
def VendorModel.idRead (v : VendorModel) : UInt32 := word32 v.companyId v.companyId

namespace PageElement

def encode (e : PageElement) : List UInt8 :=
  putLe16 e.loc ++ (UInt8.ofNat e.sigModels.length :: UInt8.ofNat e.vendorModels.length ::
    (e.sigModels.flatMap putLe16 ++ e.vendorModels.flatMap VendorModel.encode))

/-- The element with its vendor models under the ids that `vendorId` gives them. -/
def withVendorIds (vendorId : VendorModel → UInt32) (e : PageElement) : BleMeshElement where
  loc := e.loc
  numS := UInt8.ofNat e.sigModels.length
  numV := UInt8.ofNat e.vendorModels.length
  sigModelIds := e.sigModels.map (·.toUInt32)
  vendorModelIds := e.vendorModels.map vendorId

def element : PageElement → BleMeshElement := withVendorIds VendorModel.id

end PageElement

namespace PageHeader

def encode (h : PageHeader) : List UInt8 :=
  putLe16 h.companyId ++ (putLe16 h.productId ++ (putLe16 h.versionId ++
    (putLe16 h.numRplEnteries ++ putLe16 h.features)))

def composition (h : PageHeader) (elements : List BleMeshElement) : BleMeshCompositionData where
  companyId := h.companyId
  productId := h.productId
  versionId := h.versionId
  numRplEnteries := h.numRplEnteries
  features :=
    ⟨h.features &&& featureRelay, h.features &&& featureProxy, h.features &&& featureFriend,
      h.features &&& featureLpn⟩
  elements := elements

end PageHeader

/-- The payload of a composition status: page zero, the header and the elements. -/
def encodePage (h : PageHeader) (elements : List PageElement) : List UInt8 :=
  0 :: (h.encode ++ elements.flatMap PageElement.encode)

/-! ### The walk over an encoding -/

theorem modelLoop_encoded {α : Type} {size : ℕ} {enc : α → List UInt8} {id : α → UInt32}
    {read : List UInt8 → Access UInt32} (hsize : ∀ a, (enc a).length = size)
    (hread : ∀ a rest, read (enc a ++ rest) = .ok (id a)) (models : List α)
    (rest : List UInt8) (len : UInt16)
    (hlen : len.toNat = (models.flatMap enc ++ rest).length) :
    ∃ len', modelLoop size read models.length (models.flatMap enc ++ rest) len =
        .ok (models.map id, rest, len') ∧ len'.toNat = rest.length := by
  induction models generalizing len with
  | nil => exact ⟨len, rfl, hlen⟩
  | cons a models ih =>
      rw [List.flatMap_cons, List.append_assoc] at hlen ⊢
      have hfit : size ≤ len.toNat := by
        rw [hlen, List.length_append, hsize]
        exact Nat.le_add_right _ _
      have hdrop : (enc a ++ (models.flatMap enc ++ rest)).drop size =
          models.flatMap enc ++ rest := by rw [← hsize a, List.drop_left]
      have hlen' : (len - UInt16.ofNat size).toNat = (models.flatMap enc ++ rest).length := by
        rw [sub_toNat len size hfit, hlen, List.length_append, hsize, Nat.add_sub_cancel_left]
      obtain ⟨left, hloop, hleft⟩ := ih _ hlen'
      refine ⟨left, ?_, hleft⟩
      rw [List.length_cons, modelLoop, if_pos hfit, hread, bind_ok, hdrop, hloop, bind_ok]
      rfl

theorem sigModel_putLe16 (modelId : UInt16) (rest : List UInt8) :
    sigModel (putLe16 modelId ++ rest) = .ok modelId.toUInt32 := by
  simp only [sigModel, printModId, Bool.not_false, if_true, getLe16_putLe16, bind_ok]
  rfl

theorem VendorModel.encode_length (v : VendorModel) : v.encode.length = 4 := rfl

theorem VendorModel.getLe16_encode (v : VendorModel) (rest : List UInt8) :
    getLe16 (v.encode ++ rest) = .ok v.companyId ∧
      getLe16 ((v.encode ++ rest).drop 2) = .ok v.modelId := by
  rw [VendorModel.encode, List.append_assoc]
  exact ⟨getLe16_putLe16 _ _, getLe16_putLe16 v.modelId rest⟩

theorem VendorModel.printModId_encode (v : VendorModel) (rest : List UInt8) :
    printModId (v.encode ++ rest) true = .ok v.id := by
  obtain ⟨hcompany, hmodel⟩ := v.getLe16_encode rest
  rw [printModId, if_neg (by decide), hmodel, bind_ok, hcompany]
  rfl

theorem VendorModel.vendorModel_encode (v : VendorModel) (rest : List UInt8) :
    vendorModel (v.encode ++ rest) = .ok v.idRead := by
  rw [vendorModel, v.printModId_encode, bind_ok, (v.getLe16_encode rest).1]
  rfl

theorem count_toNat {n : ℕ} (h : n ≤ 255) : (UInt8.ofNat n).toNat = n := by
  rw [UInt8.toNat_ofNat']
  omega

namespace PageElement

theorem readElement_encode (e : PageElement) (rest : List UInt8) (len : UInt16)
    (hlen : len.toNat = (e.encode ++ rest).length) :
    ∃ len', readElement (e.encode ++ rest) len =
        .ok (e.withVendorIds VendorModel.idRead, rest, len') ∧ len'.toNat = rest.length := by
  set sigs := e.sigModels.flatMap putLe16 with hsigs
  set vendors := e.vendorModels.flatMap VendorModel.encode with hvendors
  have hencode : e.encode ++ rest = putLe16 e.loc ++ (UInt8.ofNat e.sigModels.length ::
      UInt8.ofNat e.vendorModels.length :: (sigs ++ (vendors ++ rest))) := by
    simp only [encode, List.append_assoc, List.cons_append, hsigs, hvendors]
  rw [hencode] at hlen ⊢
  have hheader : (len - 2 - 2).toNat = (sigs ++ (vendors ++ rest)).length :=
    behindCounts_toNat hlen
  obtain ⟨len₁, hsig, hlen₁⟩ :=
    modelLoop_encoded putLe16_length sigModel_putLe16 e.sigModels (vendors ++ rest) _ hheader
  obtain ⟨len₂, hvendor, hlen₂⟩ :=
    modelLoop_encoded VendorModel.encode_length VendorModel.vendorModel_encode e.vendorModels
      rest len₁ hlen₁
  refine ⟨len₂, ?_, hlen₂⟩
  have hdrop (tail : List UInt8) : (putLe16 e.loc ++ tail).drop 2 = tail := rfl
  simp only [readElement, getLe16_putLe16, hdrop, bind_ok, readByte_cons, List.drop_succ_cons,
    List.drop_zero, count_toNat e.sigModels_le, count_toNat e.vendorModels_le]
  rw [hsig, bind_ok, hvendor, bind_ok]
  rfl

theorem encode_length_pos (e : PageElement) : 0 < e.encode.length :=
  Nat.lt_of_lt_of_eq (Nat.succ_pos _) rfl

theorem readElements_encode (es : List PageElement) (len : UInt16)
    (hlen : len.toNat = (es.flatMap encode).length) :
    readElements (es.flatMap encode) len =
      .ok (es.map (withVendorIds VendorModel.idRead)) := by
  induction es generalizing len with
  | nil =>
      have hzero : len = 0 := UInt16.toNat_inj.mp hlen
      rw [readElements, if_pos hzero]
      rfl
  | cons e es ih =>
      rw [List.flatMap_cons] at hlen ⊢
      have hpos : ¬ len = 0 := by
        rintro rfl
        have hlong := e.encode_length_pos
        have hzero : (0 : UInt16).toNat = 0 := rfl
        rw [hzero, List.length_append] at hlen
        omega
      obtain ⟨len', hread, hlen'⟩ := e.readElement_encode (es.flatMap encode) len hlen
      rw [readElements, if_neg hpos, hread]
      simp only [ih len' hlen', bind_ok]
      rfl

/-- The ids that are read are the encoded ones when each vendor model repeats its
company id, and otherwise not. -/
theorem withVendorIds_idRead_iff (e : PageElement) :
    e.withVendorIds VendorModel.idRead = e.element ↔
      ∀ v ∈ e.vendorModels, v.companyId = v.modelId := by
  rw [element, withVendorIds, withVendorIds, BleMeshElement.mk.injEq]
  simp only [true_and, List.map_inj_left]
  exact forall₂_congr fun v _ => word32_lo_inj

end PageElement

theorem compositionReceived_encode (h : PageHeader) (es : List PageElement)
    (hfits : (encodePage h es).length ≤ 65535) :
    compositionReceived (encodePage h es) (UInt16.ofNat (encodePage h es).length) =
      .ok (h.composition (es.map (PageElement.withVendorIds VendorModel.idRead))) := by
  set body := es.flatMap PageElement.encode
  have hleft : (UInt16.ofNat (encodePage h es).length - 1 - 10).toNat = body.length :=
    behindHeader_toNat hfits
  have hwords : (encodePage h es).drop 1 = putLe16 h.companyId ++ (putLe16 h.productId ++
      (putLe16 h.versionId ++ (putLe16 h.numRplEnteries ++ (putLe16 h.features ++ body)))) := rfl
  have hdrop (k : ℕ) (w : UInt16) (tail : List UInt8) :
      (putLe16 w ++ tail).drop (k + 2) = tail.drop k := rfl
  rw [compositionReceived, hwords]
  simp only [getLe16_putLe16, bind_ok, hdrop, List.drop_zero]
  rw [PageElement.readElements_encode es _ hleft]
  rfl

/-! ### Decoding against encoding -/

/-- The decoded composition is the encoded one exactly when every vendor model has
its company id as model id; `printModId` reports the right id for each of them. -/
theorem compositionReceived_encode_iff (h : PageHeader) (es : List PageElement)
    (hfits : (encodePage h es).length ≤ 65535) :
    (∀ (v : VendorModel) (rest : List UInt8),
      printModId (v.encode ++ rest) true = .ok v.id) ∧
    (compositionReceived (encodePage h es) (UInt16.ofNat (encodePage h es).length) =
        .ok (h.composition (es.map PageElement.element)) ↔
      ∀ e ∈ es, ∀ v ∈ e.vendorModels, v.companyId = v.modelId) := by
  refine ⟨VendorModel.printModId_encode, ?_⟩
  rw [compositionReceived_encode h es hfits]
  calc Except.ok (h.composition (es.map (PageElement.withVendorIds VendorModel.idRead))) =
        (Except.ok (h.composition (es.map PageElement.element)) : Access _)
      ↔ es.map (PageElement.withVendorIds VendorModel.idRead) = es.map PageElement.element := by
        constructor
        · intro heq
          exact congrArg BleMeshCompositionData.elements (Except.ok.inj heq)
        · intro heq
          rw [heq]
    _ ↔ ∀ e ∈ es, ∀ v ∈ e.vendorModels, v.companyId = v.modelId := by
        rw [List.map_inj_left]
        exact forall₂_congr fun e _ => e.withVendorIds_idRead_iff

def vendorPage (companyId modelId : UInt16) : List PageElement :=
  [⟨0x0100, [0x0000, 0x1000], [⟨companyId, modelId⟩], by decide, by simp⟩]

def pageHeader : PageHeader := ⟨0x05f1, 0x0002, 0x0001, 0x000a, 0x0007⟩

theorem compositionReceived_encode_relay :
    (∀ (v : VendorModel) (rest : List UInt8),
      printModId (v.encode ++ rest) true = .ok v.id) ∧
    (compositionReceived (encodePage pageHeader (vendorPage 0x05f1 0x05f1))
        (UInt16.ofNat (encodePage pageHeader (vendorPage 0x05f1 0x05f1)).length) =
        .ok (pageHeader.composition ((vendorPage 0x05f1 0x05f1).map PageElement.element)) ↔
      ∀ e ∈ vendorPage 0x05f1 0x05f1, ∀ v ∈ e.vendorModels, v.companyId = v.modelId) :=
  compositionReceived_encode_iff pageHeader (vendorPage 0x05f1 0x05f1) (by decide)

/-- Model 0x0001 of company 0x05f1 is reported as model 0x05f1 of that company. -/
theorem compositionReceived_loses_model :
    ¬ ∀ (h : PageHeader) (es : List PageElement), (encodePage h es).length ≤ 65535 →
      compositionReceived (encodePage h es) (UInt16.ofNat (encodePage h es).length) =
        .ok (h.composition (es.map PageElement.element)) := by
  intro hall
  have hpage := hall pageHeader (vendorPage 0x05f1 0x0001) (by decide)
  rw [compositionReceived_encode pageHeader (vendorPage 0x05f1 0x0001) (by decide)] at hpage
  exact absurd hpage (by decide)

end BluezSil.Mesh
