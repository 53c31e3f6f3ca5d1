import BluezSil.DecimalText
import BluezSil.SilApi

/-!
# Object paths of local GATT attributes

The three add functions print the ids of an attribute into its object path. The write
handlers take them back from the last character of each part, so what they find is
each id modulo ten.
-/

namespace BluezSil.Gatt

open DecimalText

def serviceObjPath (objPath : Text) (appId serviceId : UInt16) : Text :=
  objPath ++ "/App".toList ++ decimal appId.toNat ++ "/Service".toList ++
    decimal serviceId.toNat

def charObjPath (objPath : Text) (appId serviceId charId : UInt16) : Text :=
  serviceObjPath objPath appId serviceId ++ "/Char".toList ++ decimal charId.toNat

def descObjPath (objPath : Text) (appId serviceId charId descId : UInt16) : Text :=
  charObjPath objPath appId serviceId charId ++ "/Desc".toList ++ decimal descId.toNat

/-- `std::stoi` of the last character of a path. -/
def lastNumber (path : Text) : Option ℤ := path.getLast?.bind fun c => stoi [c]

/-- `substr(0, find_last_of("\\/"))`. -/
def parentPath (path : Text) : Text :=
  match splitLast (fun c => c == '\\' || c == '/') path with
  | some (parent, _) => parent
  | none => path

/-- The application and the service that `onHandleCharacteriscticWriteValue` reads from
the service path of the characteristic written. -/
def writtenService (servicePath : Text) : Option (ℤ × ℤ) :=
  (lastNumber servicePath).bind fun serviceId =>
    (lastNumber (parentPath servicePath)).map fun appId => (appId, serviceId)

/-- The application, the service and the characteristic that `onHandleDescrptorWriteValue`
reads from the characteristic path of the descriptor written. -/
def writtenCharacteristic (charPath : Text) : Option (ℤ × ℤ × ℤ) :=
  (lastNumber charPath).bind fun charId =>
    (writtenService (parentPath charPath)).map fun ids => (ids.1, ids.2, charId)

theorem lastNumber_decimal (path : Text) (n : ℕ) :
    lastNumber (path ++ decimal n) = some ((n % 10 : ℕ) : ℤ) := by
  unfold lastNumber
  rw [List.getLast?_append, decimal_getLast?, Option.some_or, Option.bind_some]
  exact stoi_digitChar (Nat.mod_lt _ (by decide))

theorem splitLast_part (path name : Text) (n : ℕ)
    (hname : (name.any fun c => c == '\\' || c == '/') = false) :
    splitLast (fun c => c == '\\' || c == '/') (path ++ '/' :: name ++ decimal n) =
      some (path, name ++ decimal n) := by
  have hlast : ∀ c ∈ name ++ decimal n, (c == '\\' || c == '/') = false := by
    intro c hc
    rcases List.mem_append.mp hc with hc | hc
    · exact Bool.eq_false_iff.mpr (List.any_eq_false.mp hname c hc)
    · have hdigit := isDigit_of_mem_decimal hc
      rw [Bool.or_eq_false_iff, beq_eq_false_iff_ne, beq_eq_false_iff_ne]
      constructor
      · rintro rfl
        exact absurd hdigit (by decide)
      · rintro rfl
        exact absurd hdigit (by decide)
  rw [List.append_assoc, List.cons_append, splitLast_append (by decide) hlast]

theorem parentPath_append (path name : Text) (n : ℕ)
    (hname : (name.any fun c => c == '\\' || c == '/') = false) :
    parentPath (path ++ '/' :: name ++ decimal n) = path := by
  unfold parentPath
  rw [splitLast_part path name n hname]

theorem writtenService_serviceObjPath (objPath : Text) (appId serviceId : UInt16) :
    writtenService (serviceObjPath objPath appId serviceId) =
      some (((appId.toNat % 10 : ℕ) : ℤ), ((serviceId.toNat % 10 : ℕ) : ℤ)) := by
  have hparent : parentPath (serviceObjPath objPath appId serviceId) =
      objPath ++ "/App".toList ++ decimal appId.toNat :=
    parentPath_append _ "Service".toList _ rfl
  unfold writtenService
  rw [hparent, lastNumber_decimal, serviceObjPath, lastNumber_decimal]
  rfl

theorem writtenCharacteristic_charObjPath (objPath : Text) (appId serviceId charId : UInt16) :
    writtenCharacteristic (charObjPath objPath appId serviceId charId) =
      some (((appId.toNat % 10 : ℕ) : ℤ), ((serviceId.toNat % 10 : ℕ) : ℤ),
        ((charId.toNat % 10 : ℕ) : ℤ)) := by
  have hparent : parentPath (charObjPath objPath appId serviceId charId) =
      serviceObjPath objPath appId serviceId :=
    parentPath_append _ "Char".toList _ rfl
  unfold writtenCharacteristic
  rw [hparent, writtenService_serviceObjPath, charObjPath, lastNumber_decimal]
  rfl

theorem digit_eq_iff (id : UInt16) : ((id.toNat % 10 : ℕ) : ℤ) = id.toNat ↔ id < 10 := by
  rw [UInt16.lt_iff_toNat_lt]
  change _ ↔ id.toNat < 10
  omega

/-- The handlers find the ids an attribute was added with if and only if each of them has
one digit. -/
theorem writtenIds_iff (objPath : Text) (appId serviceId charId : UInt16) :
    (writtenService (serviceObjPath objPath appId serviceId) =
        some ((appId.toNat : ℤ), (serviceId.toNat : ℤ)) ↔
      appId < 10 ∧ serviceId < 10) ∧
    (writtenCharacteristic (charObjPath objPath appId serviceId charId) =
        some ((appId.toNat : ℤ), (serviceId.toNat : ℤ), (charId.toNat : ℤ)) ↔
      appId < 10 ∧ serviceId < 10 ∧ charId < 10) := by
  rw [writtenService_serviceObjPath, writtenCharacteristic_charObjPath, Option.some.injEq,
    Option.some.injEq, Prod.mk.injEq, Prod.mk.injEq, Prod.mk.injEq]
  simp only [digit_eq_iff, and_self]

/-- A write on the tenth service goes to service 0. -/
theorem writtenService_tenth :
    ¬ ∀ (objPath : Text) (appId serviceId : UInt16),
      writtenService (serviceObjPath objPath appId serviceId) =
        some ((appId.toNat : ℤ), (serviceId.toNat : ℤ)) := by
  intro h
  exact absurd (h [] 1 10) (by decide)

end BluezSil.Gatt
