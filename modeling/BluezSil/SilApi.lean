import Mathlib.Tactic.Common

/-!
# Types shared with the service interface

The error codes the modelled operations return, the reply of a D-Bus call, and
the case conversions applied to addresses. Text is a list of characters wherever
the source compares it position by position.
-/

namespace BluezSil

inductive BluetoothError
  | none
  | fail
  | paramInvalid
  | noMem
  | notAllowed
  | notReady
  | unsupported
  | unknownDeviceAddr
  | meshNetKeyIndexDoesNotExist
  | meshAppKeyIndexDoesNotExist
  | meshCannotUpdateAppkey
  | meshNetkeyUpdateFailed
  | meshNoResponseFromNode
  deriving DecidableEq, Repr

/-- The message of the `GError` a D-Bus call has set, if it failed. -/
abbrev Reply := Option String

def strstr (haystack needle : String) : Bool :=
  haystack.toList.tails.any fun rest => needle.toList.isPrefixOf rest

abbrev Text := List Char

/-- For membership in lists of texts. -/
instance : LawfulBEq Text := inferInstance

def convertAddressToLowerCase (input : Text) : Text := input.map Char.toLower

def convertAddressToUpperCase (input : Text) : Text := input.map Char.toUpper

structure ConnectedReport where
  address : Text
  connected : Bool
  deriving DecidableEq

/-- What holds for 26 letters in a row holds for a character between the first and the last. -/
theorem of_letters {P : Char → Prop} {first : ℕ} (hletters : ∀ n < 26, P (Char.ofNat (first + n)))
    {c : Char} (hlow : first ≤ c.toNat) (hhigh : c.toNat ≤ first + 25) : P c := by
  have hc : Char.ofNat (first + (c.toNat - first)) = c := by
    rw [Nat.add_sub_cancel' hlow, Char.ofNat_toNat]
  have hn := hletters (c.toNat - first) (by omega)
  rwa [hc] at hn

theorem toLower_toUpper (c : Char) : c.toUpper.toLower = c.toLower := by
  by_cases h : 'a'.val ≤ c.val ∧ c.val ≤ 'z'.val
  · have hletters : ∀ n < 26, (Char.ofNat (97 + n)).toUpper.toLower =
        (Char.ofNat (97 + n)).toLower := by decide
    exact of_letters (P := fun c => c.toUpper.toLower = c.toLower) hletters h.1 h.2
  · have hc : c.toUpper = c := dif_neg h
    rw [hc]

theorem toLower_toLower (c : Char) : c.toLower.toLower = c.toLower := by
  by_cases h : c.val ≥ 'A'.val ∧ c.val ≤ 'Z'.val
  · have hletters : ∀ n < 26, (Char.ofNat (65 + n)).toLower.toLower =
        (Char.ofNat (65 + n)).toLower := by decide
    exact of_letters (P := fun c => c.toLower.toLower = c.toLower) hletters h.1 h.2
  · have hc : c.toLower = c := dif_neg h
    rw [hc, hc]

theorem toUpper_toLower (c : Char) : c.toLower.toUpper = c.toUpper := by
  by_cases h : c.val ≥ 'A'.val ∧ c.val ≤ 'Z'.val
  · have hletters : ∀ n < 26, (Char.ofNat (65 + n)).toLower.toUpper =
        (Char.ofNat (65 + n)).toUpper := by decide
    exact of_letters (P := fun c => c.toLower.toUpper = c.toUpper) hletters h.1 h.2
  · have hc : c.toLower = c := dif_neg h
    rw [hc]

@[simp] theorem lowerCase_upperCase (input : Text) :
    convertAddressToLowerCase (convertAddressToUpperCase input) =
      convertAddressToLowerCase input := by
  unfold convertAddressToLowerCase convertAddressToUpperCase
  rw [List.map_map]
  exact List.map_congr_left fun c _ => toLower_toUpper c

@[simp] theorem lowerCase_lowerCase (input : Text) :
    convertAddressToLowerCase (convertAddressToLowerCase input) =
      convertAddressToLowerCase input := by
  unfold convertAddressToLowerCase
  rw [List.map_map]
  exact List.map_congr_left fun c _ => toLower_toLower c

@[simp] theorem upperCase_lowerCase (input : Text) :
    convertAddressToUpperCase (convertAddressToLowerCase input) =
      convertAddressToUpperCase input := by
  unfold convertAddressToUpperCase convertAddressToLowerCase
  rw [List.map_map]
  exact List.map_congr_left fun c _ => toUpper_toLower c

theorem upperCase_eq_of_lowerCase_eq {a b : Text}
    (h : convertAddressToLowerCase a = convertAddressToLowerCase b) :
    convertAddressToUpperCase a = convertAddressToUpperCase b := by
  rw [← upperCase_lowerCase a, h, upperCase_lowerCase]

end BluezSil
