import Mathlib.Data.List.GetD
import BluezSil.ByteAccess
import BluezSil.HexText
import BluezSil.SilApi

/-!
# The UUID of a mesh device as text

A scan result is reported with the first sixteen bytes of its data in hexadecimal text, and a
device is provisioned with the bytes read back from such a text. Both loops run sixteen times
whatever the length of what they are given.
-/

namespace BluezSil.Mesh

open ByteAccess HexText

structure ScanReport where
  adapterAddress : Text
  rssi : Int16
  uuid : Text
  deriving DecidableEq

def deviceUuid (result : List UInt8) : Access Text := do
  let digits ← (List.range 16).mapM fun i => printByte <$> readAt result i
  return digits.flatten

def handleScanResult (address : Text) (argRssi : Int16) (argData : List UInt8) :
    Access ScanReport := do
  let uuid ← deviceUuid argData
  return ⟨convertAddressToLowerCase address, argRssi, uuid⟩

/-- `sscanf` from a position of a string. The position after the last character holds the
terminating null. -/
def sscanfAt (text : Text) (pos : ℕ) : Access (Option UInt8) :=
  if pos ≤ text.length then .ok (sscanfByte (text.drop pos)) else .error .outOfBounds

/-- The loop over sixteen bytes, each of which is read if `reads` admits its position and is
zero if nothing is stored. -/
def scanBytes (reads : ℕ → Bool) (text : Text) : Access (List UInt8) :=
  (List.range 16).mapM fun i =>
    if reads (i * 2) then (·.getD 0) <$> sscanfAt text (i * 2) else .ok 0

def provision (uuid : Text) : Access (List UInt8) := scanBytes (fun _ => true) uuid

/-- The bytes that an invocation of the agent is answered with. -/
def supplyStatic (oobData : Text) : Access (List UInt8) :=
  scanBytes (fun pos => pos < oobData.length) oobData

theorem inBounds_map {α β : Type} {f : α → β} {x : Access α} :
    InBounds (f <$> x) ↔ InBounds x := by
  cases x with
  | error e => exact iff_of_false (not_inBounds_error e) (not_inBounds_error e)
  | ok a => exact iff_of_true (inBounds_ok (f a)) (inBounds_ok a)

theorem inBounds_sscanfAt {text : Text} {pos : ℕ} :
    InBounds (sscanfAt text pos) ↔ pos ≤ text.length := by
  unfold sscanfAt
  split_ifs with h
  · exact iff_of_true (inBounds_ok _) h
  · exact iff_of_false (not_inBounds_error _) h

theorem inBounds_scanBytes {reads : ℕ → Bool} {text : Text} :
    InBounds (scanBytes reads text) ↔
      ∀ i < 16, reads (i * 2) = true → i * 2 ≤ text.length := by
  unfold scanBytes
  rw [inBounds_mapM]
  simp only [List.mem_range]
  refine forall₂_congr fun i _ => ?_
  split_ifs with hreads
  · rw [inBounds_map, inBounds_sscanfAt]
    exact (imp_iff_right hreads).symm
  · exact iff_of_true (inBounds_ok 0) (absurd · hreads)

theorem provision_inBounds_iff (uuid : Text) : InBounds (provision uuid) ↔ 30 ≤ uuid.length := by
  unfold provision
  rw [inBounds_scanBytes]
  constructor
  · intro h
    exact h 15 (by decide) rfl
  · intro h i hi _
    omega

theorem supplyStatic_inBounds (oobData : Text) : InBounds (supplyStatic oobData) := by
  unfold supplyStatic
  rw [inBounds_scanBytes]
  intro i _ hreads
  exact (of_decide_eq_true hreads).le

theorem deviceUuid_inBounds_iff (result : List UInt8) :
    InBounds (deviceUuid result) ↔ 16 ≤ result.length := by
  unfold deviceUuid
  rw [inBounds_bind]
  constructor
  · rintro ⟨digits, hdigits, -⟩
    have hlast := inBounds_mapM.mp ⟨digits, hdigits⟩ 15 (by decide)
    exact inBounds_readAt.mp (inBounds_map.mp hlast)
  · intro h
    have hall : InBounds ((List.range 16).mapM fun i => printByte <$> readAt result i) := by
      refine inBounds_mapM.mpr fun i hi => inBounds_map.mpr (inBounds_readAt.mpr ?_)
      exact (List.mem_range.mp hi).trans_le h
    obtain ⟨digits, hdigits⟩ := hall
    exact ⟨digits, hdigits, inBounds_ok _⟩

theorem handleScanResult_inBounds_iff (address : Text) (argRssi : Int16) (argData : List UInt8) :
    InBounds (handleScanResult address argRssi argData) ↔ 16 ≤ argData.length := by
  rw [← deviceUuid_inBounds_iff]
  unfold handleScanResult
  rw [inBounds_bind]
  exact exists_congr fun uuid => and_iff_left (inBounds_ok _)

theorem map_getD_range (bytes : List UInt8) :
    (List.range bytes.length).map (fun i => bytes.getD i 0) = bytes := by
  apply List.ext_getElem
  · simp
  · intro i hi hi'
    simp [hi']

theorem deviceUuid_eq {bytes : List UInt8} (h : bytes.length = 16) :
    deviceUuid bytes = .ok (bytes.flatMap printByte) := by
  have hread : ∀ i ∈ List.range 16,
      printByte <$> readAt bytes i = .ok (printByte (bytes.getD i 0)) := by
    intro i hi
    have hlt : i < bytes.length := h ▸ List.mem_range.mp hi
    rw [readAt_of_getElem? (List.getElem?_eq_getElem hlt), List.getD_eq_getElem _ _ hlt]
    rfl
  unfold deviceUuid
  rw [mapM_eq_ok hread]
  change Except.ok (List.map _ _).flatten = _
  rw [← List.flatMap_def, ← h, ← List.flatMap_map, map_getD_range]

theorem provision_printBytes {bytes : List UInt8} (h : bytes.length = 16) :
    provision (bytes.flatMap printByte) = .ok bytes := by
  have hread : ∀ i ∈ List.range 16, (fun i => if true = true then
      (·.getD 0) <$> sscanfAt (bytes.flatMap printByte) (i * 2) else .ok 0) i =
        .ok (bytes.getD i 0) := by
    intro i hi
    have hlt : i < bytes.length := h ▸ List.mem_range.mp hi
    have hpos : i * 2 ≤ (bytes.flatMap printByte).length := by
      rw [printBytes_length]
      omega
    simp only [sscanfAt, if_pos hpos, if_true]
    rw [drop_printBytes, List.drop_eq_getElem_cons hlt, List.flatMap_cons,
      sscanfByte_printByte, List.getD_eq_getElem _ _ hlt]
    rfl
  unfold provision scanBytes
  rw [mapM_eq_ok hread, ← h, map_getD_range]

/-- The text of every UUID that is reported gives the UUID back. -/
def UuidRoundTrips : Prop :=
  ∀ address argRssi uuid, uuid.length = 16 →
    ∃ report, handleScanResult address argRssi uuid = .ok report ∧
      provision report.uuid = .ok uuid

theorem uuidRoundTrips : UuidRoundTrips := by
  intro address argRssi uuid h
  refine ⟨⟨convertAddressToLowerCase address, argRssi, uuid.flatMap printByte⟩, ?_,
    provision_printBytes h⟩
  unfold handleScanResult
  rw [deviceUuid_eq h]
  rfl

/-- The round trip is right, and both loops stay inside what they are given, if and only if that
is long enough. The agent, which looks at the length, stays inside any text. -/
theorem uuidText_inBounds_iff (address : Text) (argRssi : Int16) (argData : List UInt8)
    (uuid : Text) :
    (UuidRoundTrips ∧ InBounds (handleScanResult address argRssi argData) ∧
      InBounds (provision uuid) ↔ 16 ≤ argData.length ∧ 30 ≤ uuid.length) ∧
    InBounds (supplyStatic uuid) := by
  rw [handleScanResult_inBounds_iff, provision_inBounds_iff]
  exact ⟨and_iff_right uuidRoundTrips, supplyStatic_inBounds uuid⟩

/-- An empty advertisement and an empty string are both read outside. -/
theorem uuidText_empty_outOfBounds :
    ¬ ∀ address argRssi argData uuid,
      UuidRoundTrips ∧ InBounds (handleScanResult address argRssi argData) ∧
        InBounds (provision uuid) := by
  intro h
  obtain ⟨-, hscan, -⟩ := h [] 0 [] []
  exact absurd ((handleScanResult_inBounds_iff [] 0 []).mp hscan) (by decide)

end BluezSil.Mesh
