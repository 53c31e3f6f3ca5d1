import BluezSil.GattRemoteServices

/-!
# Flags of the local GATT server

The flags of a characteristic or a descriptor are collected in an array of pointers to their
names, which the caller reads up to the null pointer at the end. The null pointer is written
only at an index below the size of a pointer.
-/

namespace BluezSil.Gatt

open DecimalText

/-- A pointer in the array, which is not initialised. -/
inductive FlagCell
  | uninitialised
  | null
  | text (flag : Text)
  deriving DecidableEq, Repr

inductive BluetoothGattPermission
  | read
  | readEncrypted
  | readEncryptedMitm
  | write
  | writeEncrypted
  | writeEncryptedMitm
  | writeSigned
  deriving DecidableEq, Repr

/-- The entries of `characteristicPropertyMap` as they are iterated, by their keys. -/
def sortedPropertyMap : List (Text × Property) :=
  [("authenticated-signed-writes".toList, .authenticatedSignedWrites),
   ("broadcast".toList, .broadcast),
   ("indicate".toList, .indicate),
   ("notify".toList, .notify),
   ("read".toList, .read),
   ("write".toList, .write),
   ("write-without-response".toList, .writeWithoutResponse)]

def descriptorPermissionMap : List (Text × BluetoothGattPermission) :=
  [("read".toList, .read),
   ("encrypt-read".toList, .readEncrypted),
   ("encrypt-authenticated-read".toList, .readEncryptedMitm),
   ("write".toList, .write),
   ("encrypt-write".toList, .writeEncrypted),
   ("encrypt-authenticated-write".toList, .writeEncryptedMitm),
   ("secure-write".toList, .writeSigned)]

section Flags

variable {P : Type*}

def addFlag (isSet : P → Bool) (state : ℕ × List FlagCell) (propIt : Text × P) :
    ℕ × List FlagCell :=
  if isSet propIt.2 then (state.1 + 1, state.2.set state.1 (.text propIt.1)) else state

/-- The shape shared by the two functions that fill the array. The size they compare the index
with is that of the pointer to the array. -/
def updateFlags (sizeofPointer : ℕ) (map : List (Text × P)) (isSet : P → Bool)
    (flags : List FlagCell) : List FlagCell :=
  let (index, flags) := map.foldl (addFlag isSet) (0, flags)
  if index < sizeofPointer then flags.set index .null else flags

/-- The loop that adds the flags to the variant. The bound on its index is the size of the array
in bytes, so that nothing but the null pointer ends it. -/
def readFlags : List FlagCell → Option (List Text)
  | .null :: _ => some []
  | .text flag :: flags => (readFlags flags).map (flag :: ·)
  | .uninitialised :: _ => none
  | [] => none

/-- The flags of an attribute: the array has room for all of them and the null pointer. -/
def exportedFlags (sizeofPointer : ℕ) (map : List (Text × P)) (isSet : P → Bool) :
    Option (List Text) :=
  readFlags (updateFlags sizeofPointer map isSet (List.replicate (map.length + 1) .uninitialised))

end Flags

def updatePropertyFlags (sizeofPointer : ℕ) (characteristic : BluetoothGattCharacteristic) :
    List FlagCell → List FlagCell :=
  updateFlags sizeofPointer sortedPropertyMap characteristic.isPropertySet

def updatePermissionFlags (sizeofPointer : ℕ) (isPermissionSet : BluetoothGattPermission → Bool) :
    List FlagCell → List FlagCell :=
  updateFlags sizeofPointer descriptorPermissionMap isPermissionSet

section Flags

variable {P : Type*}

def setFlags (map : List (Text × P)) (isSet : P → Bool) : List Text :=
  (map.filter fun propIt => isSet propIt.2).map Prod.fst

/-- The loop puts the flags that are set at the start of the array. -/
theorem foldl_flags (map : List (Text × P)) (isSet : P → Bool) (done : List Text)
    (free : List FlagCell) (h : map.length ≤ free.length) :
    map.foldl (addFlag isSet) (done.length, done.map .text ++ free) =
    ((done ++ setFlags map isSet).length,
      (done ++ setFlags map isSet).map .text ++ free.drop (setFlags map isSet).length) := by
  induction map generalizing done free with
  | nil => simp [setFlags]
  | cons propIt map ih =>
      rw [List.foldl_cons, addFlag]
      by_cases hset : isSet propIt.2
      · obtain ⟨cell, free, rfl⟩ : ∃ cell rest, free = cell :: rest :=
          List.exists_cons_of_ne_nil (by rintro rfl; simp at h)
        have hstored : (done.map FlagCell.text ++ cell :: free).set done.length (.text propIt.1) =
            (done ++ [propIt.1]).map .text ++ free := by
          rw [List.set_append_right _ _ (by simp)]
          simp
        have hrest := ih (done ++ [propIt.1]) free (by simpa using h)
        rw [if_pos hset, hstored]
        simpa [setFlags, hset] using hrest
      · rw [if_neg hset]
        have hrest := ih done free (by simp at h; omega)
        simpa [setFlags, hset] using hrest

theorem readFlags_text (flags : List Text) (rest : List FlagCell) :
    readFlags (flags.map .text ++ rest) = (readFlags rest).map (flags ++ ·) := by
  induction flags with
  | nil => simp
  | cons flag flags ih =>
      rw [List.map_cons, List.cons_append, readFlags, ih, Option.map_map]
      rfl

theorem exportedFlags_eq (sizeofPointer : ℕ) (map : List (Text × P)) (isSet : P → Bool) :
    exportedFlags sizeofPointer map isSet =
      if (setFlags map isSet).length < sizeofPointer then some (setFlags map isSet) else none := by
  have hlength : (setFlags map isSet).length ≤ map.length := by
    rw [setFlags, List.length_map]
    exact List.length_filter_le _ _
  obtain ⟨rest, hrest⟩ : ∃ rest, (List.replicate (map.length + 1) FlagCell.uninitialised).drop
      (setFlags map isSet).length = .uninitialised :: rest := by
    rw [List.drop_replicate, Nat.succ_sub hlength, List.replicate_succ]
    exact ⟨_, rfl⟩
  have hfold := foldl_flags map isSet []
    (List.replicate (map.length + 1) .uninitialised) (by simp)
  rw [List.nil_append, hrest] at hfold
  unfold exportedFlags updateFlags
  rw [show List.replicate (map.length + 1) FlagCell.uninitialised =
    ([] : List Text).map .text ++ List.replicate (map.length + 1) .uninitialised from rfl]
  rw [show (0 : ℕ) = ([] : List Text).length from rfl, hfold]
  dsimp only
  split_ifs with hindex
  · rw [List.set_append_right _ _ (by simp)]
    simp [readFlags_text, readFlags]
  · rw [readFlags_text, readFlags]
    rfl

end Flags

def propertyFlags (sizeofPointer : ℕ) (characteristic : BluetoothGattCharacteristic) :
    Option (List Text) :=
  readFlags (updatePropertyFlags sizeofPointer characteristic
    (List.replicate (sortedPropertyMap.length + 1) .uninitialised))

def permissionFlags (sizeofPointer : ℕ) (isPermissionSet : BluetoothGattPermission → Bool) :
    Option (List Text) :=
  readFlags (updatePermissionFlags sizeofPointer isPermissionSet
    (List.replicate (descriptorPermissionMap.length + 1) .uninitialised))

theorem mem_setFlags {P : Type*} {map : List (Text × P)} {isSet : P → Bool} {flag : Text} :
    flag ∈ setFlags map isSet ↔ ∃ p, (flag, p) ∈ map ∧ isSet p = true := by
  simp [setFlags]

theorem length_setFlags {P : Type*} (map : List (Text × P)) (isSet : P → Bool) :
    (setFlags map isSet).length = map.countP fun propIt => isSet propIt.2 := by
  rw [setFlags, List.length_map, List.countP_eq_length_filter]

theorem mem_readProperties_setFlags (isSet : Property → Bool) (property : Property) :
    property ∈ readProperties (setFlags sortedPropertyMap isSet) ↔ isSet property = true := by
  have hread : ∀ propIt ∈ sortedPropertyMap,
      characteristicPropertyMap.lookup propIt.1 = some propIt.2 := by decide
  have hnamed : ∃ flag, (flag, property) ∈ sortedPropertyMap := by
    cases property <;> simp [sortedPropertyMap]
  rw [readProperties, List.mem_filterMap]
  constructor
  · rintro ⟨flag, hflag, hlookup⟩
    obtain ⟨p, hin, hset⟩ := mem_setFlags.mp hflag
    rw [hread _ hin] at hlookup
    cases hlookup
    exact hset
  · intro hset
    obtain ⟨flag, hin⟩ := hnamed
    exact ⟨flag, mem_setFlags.mpr ⟨property, hin, hset⟩, hread _ hin⟩

theorem mem_setFlags_permission {isSet : BluetoothGattPermission → Bool} {flag : Text}
    {permission : BluetoothGattPermission} (hin : (flag, permission) ∈ descriptorPermissionMap) :
    flag ∈ setFlags descriptorPermissionMap isSet ↔ isSet permission = true := by
  have hapart : ∀ x ∈ descriptorPermissionMap, ∀ y ∈ descriptorPermissionMap,
      x.1 = y.1 → x.2 = y.2 := by decide
  rw [mem_setFlags]
  constructor
  · rintro ⟨p, hp, hset⟩
    rw [show permission = p from hapart _ hin _ hp rfl]
    exact hset
  · exact fun hset => ⟨permission, hin, hset⟩

/-- A characteristic is exported with flags that give its properties back, and a descriptor with
the names of its permissions, if and only if fewer of them are set than a pointer has bytes. If
not, the array has no null pointer at its end, and is read past what has been written. -/
theorem flags_exported_iff (sizeofPointer : ℕ) (characteristic : BluetoothGattCharacteristic)
    (isPermissionSet : BluetoothGattPermission → Bool) :
    ((∃ flags, propertyFlags sizeofPointer characteristic = some flags ∧ ∀ property,
        property ∈ readProperties flags ↔ characteristic.isPropertySet property = true) ↔
      (sortedPropertyMap.countP fun propIt => characteristic.isPropertySet propIt.2) <
        sizeofPointer) ∧
    (sizeofPointer ≤
        (sortedPropertyMap.countP fun propIt => characteristic.isPropertySet propIt.2) →
      propertyFlags sizeofPointer characteristic = none) ∧
    ((∃ flags, permissionFlags sizeofPointer isPermissionSet = some flags ∧
        ∀ flag permission, (flag, permission) ∈ descriptorPermissionMap →
          (flag ∈ flags ↔ isPermissionSet permission = true)) ↔
      (descriptorPermissionMap.countP fun propIt => isPermissionSet propIt.2) <
        sizeofPointer) ∧
    (sizeofPointer ≤ (descriptorPermissionMap.countP fun propIt => isPermissionSet propIt.2) →
      permissionFlags sizeofPointer isPermissionSet = none) := by
  have hproperties : propertyFlags sizeofPointer characteristic = _ :=
    exportedFlags_eq sizeofPointer sortedPropertyMap characteristic.isPropertySet
  have hpermissions : permissionFlags sizeofPointer isPermissionSet = _ :=
    exportedFlags_eq sizeofPointer descriptorPermissionMap isPermissionSet
  rw [hproperties, hpermissions, length_setFlags, length_setFlags]
  refine ⟨?_, fun hmany => if_neg hmany.not_gt, ?_, fun hmany => if_neg hmany.not_gt⟩
  · split_ifs with hfew
    · exact iff_of_true ⟨_, rfl, mem_readProperties_setFlags _⟩ hfew
    · exact iff_of_false (fun ⟨_, hflags, _⟩ => by cases hflags) hfew
  · split_ifs with hfew
    · exact iff_of_true ⟨_, rfl, fun _ _ => mem_setFlags_permission⟩ hfew
    · exact iff_of_false (fun ⟨_, hflags, _⟩ => by cases hflags) hfew

example : propertyFlags 8 { properties := [.read, .write, .notify, .indicate] } =
    some ["indicate".toList, "notify".toList, "read".toList, "write".toList] := by decide

example : propertyFlags 4 { properties := [.read, .write, .notify, .indicate] } = none := by decide

end BluezSil.Gatt
