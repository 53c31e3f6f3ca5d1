import BluezSil.ConnectedUuids
import BluezSil.KeyedFold

/-!
# Device properties from a dictionary

BlueZ hands the properties of a device over as a dictionary, in no particular order.
Each entry fills fields of its own, except that a name is only taken while there is no
alias, which the alias overwrites, and that the properties of the MAP instances are
filed under the names at hand. Two entries of one dictionary can so be read in an
order that makes a difference.
-/

namespace BluezSil.Device

open KeyedFold

/-- The kinds of device in the role bits, `device` for the bits every device has. -/
inductive DeviceRole
  | device
  | hfpHf
  | hfpAg
  | a2dpSrc
  | a2dpSink
  | avrcpRmt
  | avrcpTgt
  deriving DecidableEq, Repr

/-- What the machine and the header of the service interface fix. -/
structure Platform where
  isLittleEndian : Bool
  roleBits : DeviceRole → UInt32

def supportedMessageTypes : List Text :=
  ["EMAIL".toList, "SMS_GSM".toList, "SMS_CDMA".toList, "MMS".toList]

structure ServiceData where
  mServiceDataUuid : Text := []
  mScanRecord : List UInt8 := []

/-- The loop over ServiceData, which stops after the first entry. -/
def ServiceData.addEntries (data : ServiceData) : List (Text × List UInt8) → ServiceData
  | [] => data
  | (uuid, bytes) :: _ =>
      { mServiceDataUuid := uuid, mScanRecord := data.mScanRecord ++ bytes }

/-- The fields the properties fill. A `std::map` is its lookups. -/
structure DeviceFields extends Bluez5Device where
  mName : Text := []
  mAlias : Text := []
  mClassOfDevice : UInt32 := 0
  mType : UInt32 := 0
  mUuids : List Text := []
  mMapInstancesName : List Text := []
  mMapSupportedMessageTypes : Text → Option (List Text) := fun _ => none
  mManufacturerData : List UInt8 := []
  mServiceData : ServiceData := {}
  mPaired : Bool := false
  mConnected : Bool := false
  mTrusted : Bool := false
  mBlocked : Bool := false
  mTxPower : Int16 := 0
  mRSSI : Int16 := 0
  mConnectedRole : UInt32

def fieldKeys : List String :=
  ["Name", "Alias", "Address", "Class", "DeviceType", "Paired", "Connected", "ConnectedUUIDS",
   "UUIDs", "MapInstances", "MapInstanceProperties", "Trusted", "Blocked", "ManufacturerData",
   "ServiceData", "TxPower", "RSSI"]

/-- An entry of the dictionary, of the type its key has on the bus. The keys of AVRCP call
the adapter only, so they are among the others. -/
inductive DeviceProperty
  | name (value : Text)
  | aliasName (value : Text)
  | address (value : Text)
  | deviceClass (value : UInt32)
  | deviceType (value : UInt32)
  | paired (value : Bool)
  | connected (value : Bool)
  | connectedUuids (values : List Text)
  | uuids (values : List Text)
  | mapInstances (values : List Text)
  | mapInstanceProperties (values : List Int32)
  | trusted (value : Bool)
  | blocked (value : Bool)
  | manufacturerData (entries : List (UInt16 × List UInt8))
  | serviceData (entries : List (Text × List UInt8))
  | txPower (value : Int16)
  | rssi (value : Int16)
  | other (key : String) (h : key ∉ fieldKeys)

namespace DeviceProperty

def key : DeviceProperty → String
  | name _ => "Name"
  | aliasName _ => "Alias"
  | address _ => "Address"
  | deviceClass _ => "Class"
  | deviceType _ => "DeviceType"
  | paired _ => "Paired"
  | connected _ => "Connected"
  | connectedUuids _ => "ConnectedUUIDS"
  | uuids _ => "UUIDs"
  | mapInstances _ => "MapInstances"
  | mapInstanceProperties _ => "MapInstanceProperties"
  | trusted _ => "Trusted"
  | blocked _ => "Blocked"
  | manufacturerData _ => "ManufacturerData"
  | serviceData _ => "ServiceData"
  | txPower _ => "TxPower"
  | rssi _ => "RSSI"
  | other key _ => key

end DeviceProperty

def swapInt32 (x : UInt32) : UInt32 :=
  (x >>> 24) ||| ((x &&& 0x00FF0000) >>> 8) ||| ((x &&& 0x0000FF00) <<< 8) ||| (x <<< 24)

def convertToSupportedtypes (data : UInt8) : List Text :=
  (supportedMessageTypes.zipIdx.filter fun type => data &&& (1 <<< UInt8.ofNat type.2) ≠ 0).map
    Prod.fst

namespace Platform

variable (platform : Platform)

/-- The last entry of the initializer is empty, so the empty UUID has no bits. -/
def uuidtoRoleMap : List (Text × UInt32) :=
  [("0000111e-0000-1000-8000-00805f9b34fb".toList, platform.roleBits .hfpHf),
   ("0000111f-0000-1000-8000-00805f9b34fb".toList, platform.roleBits .hfpAg),
   ("0000110a-0000-1000-8000-00805f9b34fb".toList, platform.roleBits .a2dpSrc),
   ("0000110b-0000-1000-8000-00805f9b34fb".toList, platform.roleBits .a2dpSink),
   ("0000110e-0000-1000-8000-00805f9b34fb".toList, platform.roleBits .avrcpRmt),
   ("0000110c-0000-1000-8000-00805f9b34fb".toList, platform.roleBits .avrcpTgt),
   ([], 0)]

def messageBits (properties : Int32) : UInt8 :=
  let mapInstance := properties.toUInt32
  let mapInstance := if platform.isLittleEndian then mapInstance else swapInt32 mapInstance
  mapInstance.toUInt8 &&& 0x0F

/-- The insertions of the loop over the instances, where an entry made first stays. -/
def fillMessageTypes (names : List Text) (properties : List Int32) :
    Text → Option (List Text) :=
  (names.zip properties).foldl
    (fun types instanceEntry name =>
      if name = instanceEntry.1 ∧ types name = none then
        some (convertToSupportedtypes (platform.messageBits instanceEntry.2))
      else types name)
    fun _ => none

def companyIdBytes (id : UInt16) : List UInt8 :=
  if platform.isLittleEndian then [((id &&& 0xFF00) >>> 8).toUInt8, (id &&& 0x00FF).toUInt8]
  else [(id &&& 0x00FF).toUInt8, ((id &&& 0xFF00) >>> 8).toUInt8]

/-- What the loop over ManufacturerData pushes, which stops after the first entry. -/
def manufacturerBytes : List (UInt16 × List UInt8) → List UInt8
  | [] => []
  | (id, bytes) :: _ => platform.companyIdBytes id ++ bytes

end Platform

namespace DeviceFields

variable (platform : Platform)

def initial : DeviceFields where
  mAddress := []
  mConnectedRole := platform.roleBits .device

def updateConnectedRole (device : DeviceFields) : DeviceFields :=
  { device with
    mConnectedRole := device.mConnectedUuids.foldl
      (fun role uuid => match platform.uuidtoRoleMap.lookup uuid with
        | some bits => role ||| bits
        | none => role)
      (platform.roleBits .device) }

/-- The fields after an entry, and whether it counts as a change. -/
def parsePropertyFromVariant (device : DeviceFields) : DeviceProperty → DeviceFields × Bool
  | .name value =>
      -- prefer Alias over Name
      if device.mAlias = [] then ({ device with mName := value }, true) else (device, false)
  | .aliasName value => ({ device with mAlias := value, mName := value }, true)
  | .address value => ({ device with mAddress := value }, true)
  | .deviceClass value => ({ device with mClassOfDevice := value }, true)
  | .deviceType value => ({ device with mType := value }, true)
  | .paired value => ({ device with mPaired := value }, true)
  | .connected value => ({ device with mConnected := value }, true)
  | .connectedUuids values =>
      -- the reports to the adapter are those of `setConnectedUuids`
      (updateConnectedRole platform
        { device with toBluez5Device := (device.setConnectedUuids values).1 }, true)
  | .uuids values => ({ device with mUuids := values }, true)
  | .mapInstances values => ({ device with mMapInstancesName := values }, true)
  | .mapInstanceProperties values =>
      ({ device with
        mMapSupportedMessageTypes :=
          platform.fillMessageTypes device.mMapInstancesName values }, true)
  | .trusted value => ({ device with mTrusted := value }, true)
  | .blocked value => ({ device with mBlocked := value }, true)
  | .manufacturerData entries =>
      ({ device with
        mManufacturerData :=
          device.mManufacturerData ++ platform.manufacturerBytes entries }, true)
  | .serviceData entries =>
      ({ device with mServiceData := device.mServiceData.addEntries entries }, true)
  | .txPower value => ({ device with mTxPower := value }, true)
  | .rssi value => ({ device with mRSSI := value }, true)
  | .other _ _ => (device, false)

def afterProperty (device : DeviceFields) (property : DeviceProperty) : DeviceFields :=
  (parsePropertyFromVariant platform device property).1

def handlePropertiesChanged (device : DeviceFields) (properties : List DeviceProperty) :
    DeviceFields × Bool :=
  properties.foldl
    (fun s property =>
      let (device, changed) := parsePropertyFromVariant platform s.1 property
      (device, s.2 || changed))
    (device, false)

def construct (properties : List DeviceProperty) : DeviceFields :=
  properties.foldl (afterProperty platform) (initial platform)

/-- Every order of the properties leaves the same fields. -/
def OrderFree (device : DeviceFields) (properties : List DeviceProperty) : Prop :=
  ∀ entries entries' : List DeviceProperty, entries.Perm properties → entries'.Perm properties →
    (handlePropertiesChanged platform device entries).1 =
      (handlePropertiesChanged platform device entries').1

end DeviceFields

/-- The names before and after give each name the same message bits: an instance is filed
under the name at its position, and the first of a name counts. -/
def Platform.SameBits (platform : Platform) (before after : List Text)
    (properties : List Int32) : Prop :=
  ∀ name, ((before.zip properties).lookup name).map platform.messageBits =
    ((after.zip properties).lookup name).map platform.messageBits

/-- When two entries of different keys can be read in either order, under the names of the
MAP instances at hand. -/
def Swaps (platform : Platform) (names : List Text) : DeviceProperty → DeviceProperty → Prop
  | .name value, .aliasName value' => value' = [] → value = []
  | .aliasName value', .name value => value' = [] → value = []
  | .mapInstances names', .mapInstanceProperties properties =>
      platform.SameBits names names' properties
  | .mapInstanceProperties properties, .mapInstances names' =>
      platform.SameBits names names' properties
  | _, _ => True

namespace Platform

variable {platform : Platform} {names before after : List Text} {properties : List Int32}

theorem messageBits_lt (platform : Platform) (p : Int32) : (platform.messageBits p).toNat < 16 := by
  unfold messageBits
  rw [UInt8.toNat_and]
  exact Nat.lt_of_le_of_lt Nat.and_le_right (by decide)

theorem convertToSupportedtypes_ofNat :
    ∀ m < 16, ∀ n < 16, convertToSupportedtypes (UInt8.ofNat m) =
      convertToSupportedtypes (UInt8.ofNat n) → m = n := by
  decide

theorem convertToSupportedtypes_messageBits {p q : Int32} :
    convertToSupportedtypes (platform.messageBits p) =
      convertToSupportedtypes (platform.messageBits q) ↔
    platform.messageBits p = platform.messageBits q := by
  refine ⟨fun h => ?_, congrArg convertToSupportedtypes⟩
  have hnat := convertToSupportedtypes_ofNat _ (messageBits_lt platform p) _
    (messageBits_lt platform q)
  rw [UInt8.ofNat_toNat, UInt8.ofNat_toNat] at hnat
  exact UInt8.toNat_inj.mp (hnat h)

/-- An insertion leaves what is there, so the first entry of a name counts. -/
theorem foldl_insert (instances : List (Text × Int32)) (types : Text → Option (List Text))
    (name : Text) :
    instances.foldl
      (fun types instanceEntry name =>
        if name = instanceEntry.1 ∧ types name = none then
          some (convertToSupportedtypes (platform.messageBits instanceEntry.2))
        else types name) types name =
    (types name).or ((instances.lookup name).map
      fun p => convertToSupportedtypes (platform.messageBits p)) := by
  induction instances generalizing types with
  | nil => exact (Option.or_none).symm
  | cons entry rest ih =>
      rw [List.foldl_cons, ih, List.lookup_cons]
      by_cases hname : name = entry.1
      · rw [beq_iff_eq.mpr hname, Option.map_some]
        cases htypes : types name with
        | none => rw [if_pos ⟨hname, rfl⟩, Option.some_or, Option.none_or]
        | some list => rw [if_neg (fun h => nomatch h.2), Option.some_or, Option.some_or]
      · rw [if_neg fun h => hname h.1, beq_eq_false_iff_ne.mpr hname]

theorem fillMessageTypes_apply (name : Text) :
    platform.fillMessageTypes names properties name =
      ((names.zip properties).lookup name).map
        fun p => convertToSupportedtypes (platform.messageBits p) := by
  unfold fillMessageTypes
  rw [foldl_insert, Option.none_or]

theorem fillMessageTypes_eq_iff :
    platform.fillMessageTypes before properties = platform.fillMessageTypes after properties ↔
      platform.SameBits before after properties := by
  rw [funext_iff]
  apply forall_congr'
  intro name
  rw [fillMessageTypes_apply, fillMessageTypes_apply]
  cases (before.zip properties).lookup name with
  | none =>
      cases (after.zip properties).lookup name with
      | none => exact iff_of_true rfl rfl
      | some q => exact iff_of_false (fun h => nomatch h) fun h => nomatch h
  | some p =>
      cases (after.zip properties).lookup name with
      | none => exact iff_of_false (fun h => nomatch h) fun h => nomatch h
      | some q =>
          rw [Option.map_some, Option.map_some, Option.map_some, Option.map_some,
            Option.some_inj, Option.some_inj]
          exact convertToSupportedtypes_messageBits

end Platform

section Dictionary

variable {platform : Platform} {device : DeviceFields} {properties : List DeviceProperty}

theorem handlePropertiesChanged_fst :
    (device.handlePropertiesChanged platform properties).1 =
      properties.foldl (DeviceFields.afterProperty platform) device := by
  unfold DeviceFields.handlePropertiesChanged
  generalize false = changed
  induction properties generalizing device changed with
  | nil => rfl
  | cons property rest ih =>
      rw [List.foldl_cons, List.foldl_cons]
      exact ih (changed || (device.parsePropertyFromVariant platform property).2)

theorem afterProperty_name (value : Text) :
    device.afterProperty platform (.name value) =
      { device with mName := if device.mAlias = [] then value else device.mName } := by
  unfold DeviceFields.afterProperty DeviceFields.parsePropertyFromVariant
  split_ifs
  · rfl
  · rfl

theorem afterProperty_names {property : DeviceProperty}
    (h : property.key ≠ "MapInstances") :
    (device.afterProperty platform property).mMapInstancesName = device.mMapInstancesName := by
  cases property with
  | name value => rw [afterProperty_name]
  | mapInstances values => exact absurd rfl h
  | _ => rfl

theorem Swaps.symm {names : List Text} {property property' : DeviceProperty}
    (h : Swaps platform names property property') : Swaps platform names property' property := by
  cases property <;> cases property' <;> exact h

/-- The names matter to no entries but the names and the properties of the MAP instances. -/
theorem Swaps.of_ne {names names' : List Text} {property property' : DeviceProperty}
    (hne : property.key ≠ "MapInstances") (hne' : property'.key ≠ "MapInstances")
    (h : Swaps platform names property property') :
    Swaps platform names' property property' := by
  cases property with
  | mapInstances values => exact absurd rfl hne
  | mapInstanceProperties values =>
      cases property' with
      | mapInstances values => exact absurd rfl hne'
      | _ => exact h
  | _ => cases property' <;> exact h

theorem afterProperty_name_comm {value : Text} {property : DeviceProperty}
    (hne : property.key ≠ "Name")
    (h : Swaps platform device.mMapInstancesName (.name value) property) :
    (device.afterProperty platform (.name value)).afterProperty platform property =
      (device.afterProperty platform property).afterProperty platform (.name value) := by
  rw [afterProperty_name, afterProperty_name]
  cases property with
  | name value' => exact absurd rfl hne
  | aliasName value' =>
      show { device with mAlias := value', mName := value' } =
        { device with
          mAlias := value'
          mName := if value' = [] then value else value' }
      split_ifs with hempty
      · rw [h hempty, hempty]
      · rfl
  | _ => rfl

theorem afterProperty_mapInstances_comm {names : List Text} {instances : List Int32}
    (h : platform.SameBits device.mMapInstancesName names instances) :
    (device.afterProperty platform (.mapInstances names)).afterProperty platform
        (.mapInstanceProperties instances) =
      (device.afterProperty platform (.mapInstanceProperties instances)).afterProperty platform
        (.mapInstances names) := by
  show { device with
      mMapInstancesName := names
      mMapSupportedMessageTypes := platform.fillMessageTypes names instances } =
    { device with
      mMapInstancesName := names
      mMapSupportedMessageTypes :=
        platform.fillMessageTypes device.mMapInstancesName instances }
  rw [Platform.fillMessageTypes_eq_iff.mpr h]

theorem afterProperty_comm {property property' : DeviceProperty}
    (hne : property.key ≠ property'.key)
    (h : Swaps platform device.mMapInstancesName property property') :
    (device.afterProperty platform property).afterProperty platform property' =
      (device.afterProperty platform property').afterProperty platform property := by
  cases property with
  | name value => exact afterProperty_name_comm hne.symm h
  | mapInstances names =>
      cases property' with
      | name value => exact (afterProperty_name_comm hne h.symm).symm
      | mapInstances names' => exact absurd rfl hne
      | mapInstanceProperties instances => exact afterProperty_mapInstances_comm h
      | _ => rfl
  | mapInstanceProperties instances =>
      cases property' with
      | name value => exact (afterProperty_name_comm hne h.symm).symm
      | mapInstances names => exact (afterProperty_mapInstances_comm h).symm
      | mapInstanceProperties instances' => exact absurd rfl hne
      | _ => rfl
  | _ =>
      cases property' with
      | name value => exact (afterProperty_name_comm hne h.symm).symm
      | _ => first | rfl | exact absurd rfl hne

theorem swapLaws (platform : Platform) :
    SwapLaws (DeviceFields.afterProperty platform) DeviceProperty.key
      fun device => Swaps platform device.mMapInstancesName where
  comm _ _ _ hne h := afterProperty_comm hne h
  keep device property property' other hother hother' h := by
    by_cases hkey : other.key = "MapInstances"
    · rw [hkey] at hother hother'
      exact h.of_ne hother.symm hother'.symm
    · rw [afterProperty_names hkey]
      exact h

theorem afterProperty_mName {property : DeviceProperty} (hname : property.key ≠ "Name")
    (halias : property.key ≠ "Alias") :
    (device.afterProperty platform property).mName = device.mName := by
  cases property with
  | name value => exact absurd rfl hname
  | aliasName value => exact absurd rfl halias
  | _ => rfl

theorem afterProperty_messageTypes {property : DeviceProperty}
    (h : property.key ≠ "MapInstanceProperties") :
    (device.afterProperty platform property).mMapSupportedMessageTypes =
      device.mMapSupportedMessageTypes := by
  cases property with
  | name value => rw [afterProperty_name]
  | mapInstanceProperties values => exact absurd rfl h
  | _ => rfl

theorem orderFree_iff_fold :
    device.OrderFree platform properties ↔
      KeyedFold.OrderFree (DeviceFields.afterProperty platform) device properties := by
  unfold DeviceFields.OrderFree KeyedFold.OrderFree
  simp only [handlePropertiesChanged_fst]

theorem construct_eq :
    DeviceFields.construct platform properties =
      ((DeviceFields.initial platform).handlePropertiesChanged platform properties).1 :=
  handlePropertiesChanged_fst.symm

/-- The alias overwrites a name that comes before it, and a name that comes after an empty
alias stays. -/
theorem name_of_orderFree (hkeys : (properties.map DeviceProperty.key).Nodup)
    (h : device.OrderFree platform properties) {value value' : Text}
    (hname : .name value ∈ properties) (halias : .aliasName value' ∈ properties)
    (hempty : value' = []) : value = [] := by
  have hread := (orderFree_iff_fold.mp h).read_eq (f := DeviceFields.mName) hkeys hname halias
    (by decide : "Name" ≠ "Alias") fun _ _ => afterProperty_mName
  have hvalue : value' = if value' = [] then value else value' :=
    hread.trans (congrArg DeviceFields.mName (afterProperty_name value))
  rw [if_pos hempty] at hvalue
  exact hvalue.symm.trans hempty

theorem sameBits_of_orderFree (hkeys : (properties.map DeviceProperty.key).Nodup)
    (h : device.OrderFree platform properties) {names : List Text} {instances : List Int32}
    (hnames : .mapInstances names ∈ properties)
    (hinstances : .mapInstanceProperties instances ∈ properties) :
    platform.SameBits device.mMapInstancesName names instances := by
  have hread := (orderFree_iff_fold.mp h).read_eq (f := DeviceFields.mMapSupportedMessageTypes)
    hkeys hnames hinstances (by decide : "MapInstances" ≠ "MapInstanceProperties")
    fun _ _ _ => afterProperty_messageTypes
  exact Platform.fillMessageTypes_eq_iff.mp hread.symm

/-- The order of a dictionary makes no difference if and only if it has no name beside an
empty alias, and its names of the MAP instances leave the message types of its properties
where the names before put them. -/
theorem dictionary_orderFree_iff (platform : Platform) (device : DeviceFields)
    (properties : List DeviceProperty) (hkeys : (properties.map DeviceProperty.key).Nodup) :
    device.OrderFree platform properties ↔
      (∀ value value', .name value ∈ properties → .aliasName value' ∈ properties →
        value' = [] → value = []) ∧
      ∀ names instances, .mapInstances names ∈ properties →
        .mapInstanceProperties instances ∈ properties →
        platform.SameBits device.mMapInstancesName names instances := by
  constructor
  · intro h
    exact ⟨fun _ _ hname halias => name_of_orderFree hkeys h hname halias,
      fun _ _ => sameBits_of_orderFree hkeys h⟩
  · rintro ⟨hname, hinstances⟩
    refine orderFree_iff_fold.mpr ((swapLaws platform).orderFree hkeys ?_)
    intro property hmem property' hmem' _
    cases property with
    | name value =>
        cases property' with
        | aliasName value' => exact hname value value' hmem hmem'
        | _ => trivial
    | aliasName value' =>
        cases property' with
        | name value => exact hname value value' hmem' hmem
        | _ => trivial
    | mapInstances names =>
        cases property' with
        | mapInstanceProperties instances => exact hinstances names instances hmem hmem'
        | _ => trivial
    | mapInstanceProperties instances =>
        cases property' with
        | mapInstances names => exact hinstances names instances hmem' hmem
        | _ => trivial
    | _ => cases property' <;> trivial

end Dictionary

def littleEndianPlatform : Platform := { isLittleEndian := true, roleBits := fun _ => 0 }

def mapNames : List Text := ["SMS".toList]

/-- A known instance with a name and an alias. -/
theorem dictionary_orderFree_iff_known :
    ({ DeviceFields.initial littleEndianPlatform with mMapInstancesName := mapNames } :
      DeviceFields).OrderFree littleEndianPlatform
      [.name "Phone".toList, .aliasName "Mine".toList, .mapInstances mapNames,
        .mapInstanceProperties [2]] := by
  refine (dictionary_orderFree_iff _ _ _ (by decide)).mpr ⟨fun _ value' _ halias => ?_, ?_⟩
  · have hvalue : value' = "Mine".toList := by simpa using halias
    rw [hvalue]
    exact fun h => absurd h (by decide)
  · intro names instances hnames _
    have heq : names = mapNames := by simpa using hnames
    rw [heq]
    exact fun _ => rfl

/-- The first dictionary of a device with a MAP instance: the message types are lost when the
properties come before the names. -/
theorem dictionary_order_matters :
    ¬ ∀ (platform : Platform) (device : DeviceFields) (properties : List DeviceProperty),
      (properties.map DeviceProperty.key).Nodup → device.OrderFree platform properties := by
  intro h
  have hfree := h littleEndianPlatform (DeviceFields.initial littleEndianPlatform)
    [.mapInstances mapNames, .mapInstanceProperties [2]] (by decide)
  have heq := congrArg (fun device => device.mMapSupportedMessageTypes "SMS".toList)
    (hfree _ _ (.refl _) (.swap _ _ _))
  exact absurd heq (by decide)

end BluezSil.Device
