import BluezSil.ChangeStream
import BluezSil.SilApi
import BluezSil.TransitionRun

/-!
# The properties of the adapter

The adapter keeps the power and discovery states, the UUIDs, the name and the alias that
BlueZ tells in its signals and answers. States go to the observer when they change, and
properties are handed out in lists, to the observer or to whoever asked. A profile that is
created adds its UUID, of which nobody is told. Other properties stay with BlueZ, where they
are set and asked for one by one.
-/

namespace BluezSil.AdapterMirror

open ChangeStream TransitionRun TransitionRun.Machine

inductive BluetoothProperty
  | name (value : Text)
  | interfaceName (value : Text)
  | aliasName (value : Text)
  | bdaddr (value : Text)
  | classOfDevice (value : UInt32)
  | typeOfDevice (value : UInt32)
  | discoverable (value : Bool)
  | discoverableTimeout (value : UInt32)
  | pairable (value : Bool)
  | pairableTimeout (value : UInt32)
  | discoveryTimeout (value : UInt32)
  | stackName (value : Text)
  | uuids (value : List Text)
  deriving DecidableEq

inductive PropertyType
  | name
  | interfaceName
  | aliasName
  | bdaddr
  | classOfDevice
  | typeOfDevice
  | discoverable
  | discoverableTimeout
  | pairable
  | pairableTimeout
  | discoveryTimeout
  | stackName
  | uuids
  deriving DecidableEq

def BluetoothProperty.getType : BluetoothProperty → PropertyType
  | .name _ => .name
  | .interfaceName _ => .interfaceName
  | .aliasName _ => .aliasName
  | .bdaddr _ => .bdaddr
  | .classOfDevice _ => .classOfDevice
  | .typeOfDevice _ => .typeOfDevice
  | .discoverable _ => .discoverable
  | .discoverableTimeout _ => .discoverableTimeout
  | .pairable _ => .pairable
  | .pairableTimeout _ => .pairableTimeout
  | .discoveryTimeout _ => .discoveryTimeout
  | .stackName _ => .stackName
  | .uuids _ => .uuids

/-- An entry of a signal or of the answer to GetAll, of the type its key has on the bus. -/
inductive AdapterEntry
  | name (value : Text)
  | aliasName (value : Text)
  | address (value : Text)
  | deviceClass (value : UInt32)
  | deviceType (value : UInt32)
  | discoverable (value : Bool)
  | discoverableTimeout (value : UInt32)
  | pairable (value : Bool)
  | pairableTimeout (value : UInt32)
  | powered (value : Bool)
  | discovering (value : Bool)
  | uuids (values : List Text)
  | other

inductive Variant
  | string (value : Text)
  | uint32 (value : UInt32)
  | boolean (value : Bool)
  deriving DecidableEq

/-- How BlueZ, in a state of `B`, answers a Get and a Set of a property of `org.bluez.Adapter1`.
An error is `none`, and a Set that is refused leaves BlueZ as it is. -/
structure PropertyStore (B : Type) where
  get : B → String → Option Variant
  set : B → String → Variant → Option B

/-- The calls of the observer and of the callback of a cancelled discovery, the answers, and the
profiles created with the UUIDs they add, which are told to nobody. -/
inductive AdapterReport
  | adapterStateChanged (powered : Bool)
  | discoveryStateChanged (discovering : Bool)
  | discoveryCancelled
  | adapterPropertiesChanged (properties : List BluetoothProperty)
  | answered (error : BluetoothError) (properties : List BluetoothProperty)
  | profileCreated (uuid : Text)
  deriving DecidableEq

structure Bluez5Adapter where
  mName : Text := []
  mAlias : Text := []
  mInterfaceName : Text := []
  mPowered : Bool := false
  mDiscovering : Bool := false
  mUuids : List Text := []
  mDiscoveryTimeout : UInt32 := 0
  /-- A discovery has been cancelled before. -/
  mCancelDiscCallback : Bool := false
  deriving DecidableEq

structure Reading where
  adapter : Bluez5Adapter
  properties : List BluetoothProperty := []
  changed : Bool := false
  reports : List AdapterReport := []

namespace Reading

variable (s : Reading)

def push (properties : List BluetoothProperty) : Reading :=
  { s with properties := s.properties ++ properties, changed := true }

def report (reports : List AdapterReport) : Reading := { s with reports := s.reports ++ reports }

def addPropertyFromVariant (s : Reading) : AdapterEntry → Reading
  | .name value =>
    -- prefer Alias over Name
    if s.adapter.mAlias = [] then
      { s with adapter := { s.adapter with mName := value } }.push
        [.name value, .interfaceName s.adapter.mInterfaceName]
    else s
  | .aliasName value =>
    { s with adapter := { s.adapter with mAlias := value } }.push
      [.name value, .interfaceName s.adapter.mInterfaceName]
  | .address value => s.push [.bdaddr value]
  | .deviceClass value => s.push [.classOfDevice value]
  | .deviceType value => s.push [.typeOfDevice value]
  | .discoverable value => s.push [.discoverable value]
  | .discoverableTimeout value => s.push [.discoverableTimeout value]
  | .pairable value => s.push [.pairable value]
  | .pairableTimeout value => s.push [.pairableTimeout value]
  | .powered value =>
    if value ≠ s.adapter.mPowered then
      { s with adapter := { s.adapter with mPowered := value } }.report
        [.adapterStateChanged value]
    else s
  | .discovering value =>
    if value ≠ s.adapter.mDiscovering then
      { s with adapter := { s.adapter with mDiscovering := value } }.report
        (.discoveryStateChanged value ::
          if s.adapter.mCancelDiscCallback then [.discoveryCancelled] else [])
    else s
  | .uuids values =>
    { s with adapter := { s.adapter with mUuids := values } }.push [.uuids values]
  | .other => s

end Reading

def PropertyType.propertyTypeToString : PropertyType → String
  | .name => "Name"
  | .aliasName => "Alias"
  | .bdaddr => "Address"
  | .classOfDevice => "Class"
  | .typeOfDevice => "DeviceType"
  | .discoverable => "Discoverable"
  | .discoverableTimeout => "DiscoverableTimeout"
  | .pairable => "Pairable"
  | .pairableTimeout => "PairableTimeout"
  | .discoveryTimeout => "DiscoveryTimeout"
  | _ => ""

def propertyValueToVariant : BluetoothProperty → Option Variant
  | .name value => some (.string value)
  | .aliasName value => some (.string value)
  | .bdaddr value => some (.string value)
  | .classOfDevice value => some (.uint32 value)
  | .discoverableTimeout value => some (.uint32 value)
  | .pairableTimeout value => some (.uint32 value)
  | .typeOfDevice value => some (.uint32 value)
  | .discoverable value => some (.boolean value)
  | .pairable value => some (.boolean value)
  | _ => none

/-- The adapter after the answer to a Get, and the property. A value is of the type that its
property has on the bus. -/
def Bluez5Adapter.readProperty (a : Bluez5Adapter) :
    PropertyType → Variant → Bluez5Adapter × Option BluetoothProperty
  | .name, .string value =>
    if a.mAlias = [] then ({ a with mName := value }, some (.name value))
    else (a, some (.name a.mAlias))
  | .aliasName, .string value => ({ a with mAlias := value }, some (.aliasName value))
  | .bdaddr, .string value => (a, some (.bdaddr value))
  | .classOfDevice, .uint32 value => (a, some (.classOfDevice value))
  | .discoverableTimeout, .uint32 value => (a, some (.discoverableTimeout value))
  | .pairableTimeout, .uint32 value => (a, some (.pairableTimeout value))
  | .typeOfDevice, .uint32 value => (a, some (.typeOfDevice value))
  | .discoverable, .boolean value => (a, some (.discoverable value))
  | .pairable, .boolean value => (a, some (.pairable value))
  | _, _ => (a, none)

def avrcpTargetUuid : Text := "0000110c-0000-1000-8000-00805f9b34fb".toList

def avrcpRemoteUuid : Text := "0000110e-0000-1000-8000-00805f9b34fb".toList

def remoteHfpHfUuid : Text := "0000111e-0000-1000-8000-00805f9b34fb".toList

def remoteHfpAgUuid : Text := "0000111f-0000-1000-8000-00805f9b34fb".toList

/-- The UUID that a profile with this one adds to those of the adapter. -/
def createdUuid (profileUuid : Text) : Text :=
  if profileUuid = avrcpRemoteUuid then avrcpTargetUuid
  else if profileUuid = remoteHfpAgUuid then remoteHfpHfUuid
  else profileUuid

/-- The adapter, BlueZ, and what has been reported, oldest first. -/
structure AdapterRun (B : Type) where
  adapter : Bluez5Adapter := {}
  bus : B
  reports : List AdapterReport := []

namespace AdapterRun

section Operations

variable {B : Type} (store : PropertyStore B) (s : AdapterRun B)

def answer (error : BluetoothError) (properties : List BluetoothProperty) : AdapterRun B :=
  { s with reports := s.reports ++ [.answered error properties] }

def read (dictionary : List AdapterEntry) : Reading :=
  dictionary.foldl Reading.addPropertyFromVariant { adapter := s.adapter, reports := s.reports }

def handleAdapterPropertiesChanged (changedProperties : List AdapterEntry) : AdapterRun B :=
  let r := s.read changedProperties
  { s with
    adapter := r.adapter
    reports := r.reports ++
      if r.changed then [.adapterPropertiesChanged r.properties] else [] }

def getAdapterProperties : Option (List AdapterEntry) → AdapterRun B
  | none => s.answer .fail []
  | some dictionary =>
    let r := s.read dictionary
    { s with adapter := r.adapter, reports := r.reports }.answer .none
      (r.properties ++ [BluetoothProperty.discoveryTimeout r.adapter.mDiscoveryTimeout,
        .stackName "bluez5".toList, .uuids r.adapter.mUuids])

def getAdapterProperty (type : PropertyType) : AdapterRun B :=
  let propertyName := type.propertyTypeToString
  if propertyName = "" then s.answer .paramInvalid []
  else if type = .discoveryTimeout then
    s.answer .none [.discoveryTimeout s.adapter.mDiscoveryTimeout]
  else if type = .stackName then s.answer .none [.stackName "bluez5".toList]
  else
    match store.get s.bus propertyName with
    | none => s.answer .fail []
    | some value =>
      match s.adapter.readProperty type value with
      | (adapter, some property) => { s with adapter }.answer .none [property]
      | (adapter, none) => { s with adapter }.answer .fail []

def setAdapterPropertySync (property : BluetoothProperty) : AdapterRun B × Bool :=
  match property with
  | .discoveryTimeout value =>
    ({ s with
        adapter := { s.adapter with mDiscoveryTimeout := value }
        reports := s.reports ++ [.adapterPropertiesChanged [property]] }, true)
  | _ =>
    match propertyValueToVariant property with
    | none => (s, false)
    | some value =>
      match store.set s.bus property.getType.propertyTypeToString value with
      | none => (s, false)
      | some bus => ({ s with bus }, true)

def setAdapterProperties (s : AdapterRun B) : List BluetoothProperty → AdapterRun B
  | [] => s.answer .none []
  | property :: rest =>
    match s.setAdapterPropertySync store property with
    | (s, false) => s.answer .fail []
    | (s, true) => s.setAdapterProperties rest

/-- `notifyA2dpRoleChnange` and `notifyAvrcpRoleChange`, for the two UUIDs of their profile. -/
def notifyRoleChange (source sink uuid : Text) : AdapterRun B :=
  let mUuids := s.adapter.mUuids.map fun pUuid =>
    if pUuid = source ∨ pUuid = sink then uuid else pUuid
  { s with
    adapter := { s.adapter with mUuids }
    reports := s.reports ++ [.adapterPropertiesChanged [.uuids mUuids]] }

def createProfile (profileUuid : Text) : AdapterRun B :=
  let uuid := createdUuid profileUuid
  { s with
    adapter := { s.adapter with mUuids := s.adapter.mUuids ++ [uuid] }
    reports := s.reports ++ [.profileCreated uuid] }

end Operations

end AdapterRun

inductive AdapterEvent (B : Type)
  | propertiesChanged (changedProperties : List AdapterEntry)
  | getAdapterProperties (reply : Option (List AdapterEntry))
  | getAdapterProperty (type : PropertyType)
  | setAdapterProperties (properties : List BluetoothProperty)
  | roleChange (source sink uuid : Text)
  | createProfile (profileUuid : Text)
  | cancelDiscovery
  | busChanged (bus : B)

section Machine

variable {B : Type} (store : PropertyStore B)

def AdapterRun.step (s : AdapterRun B) : AdapterEvent B → Option (AdapterRun B)
  | .propertiesChanged changedProperties =>
    some (s.handleAdapterPropertiesChanged changedProperties)
  | .getAdapterProperties reply => some (s.getAdapterProperties reply)
  | .getAdapterProperty type => some (s.getAdapterProperty store type)
  | .setAdapterProperties properties => some (s.setAdapterProperties store properties)
  | .roleChange source sink uuid => some (s.notifyRoleChange source sink uuid)
  | .createProfile profileUuid => some (s.createProfile profileUuid)
  | .cancelDiscovery => some { s with adapter := { s.adapter with mCancelDiscCallback := true } }
  | .busChanged bus => some { s with bus }

def adapterMachine (bus : B) : Machine (AdapterRun B) (AdapterEvent B) :=
  ⟨{ bus }, AdapterRun.step store⟩

end Machine

/-! ### What has been told -/

namespace AdapterReport

def powered? : AdapterReport → Option Bool
  | .adapterStateChanged powered => some powered
  | _ => none

def discovering? : AdapterReport → Option Bool
  | .discoveryStateChanged discovering => some discovering
  | _ => none

def properties : AdapterReport → List BluetoothProperty
  | .adapterPropertiesChanged properties => properties
  | .answered _ properties => properties
  | _ => []

end AdapterReport

namespace BluetoothProperty

def uuids? : BluetoothProperty → Option (List Text)
  | .uuids value => some value
  | _ => none

def name? : BluetoothProperty → Option Text
  | .name value => some value
  | .aliasName value => some value
  | _ => none

end BluetoothProperty

def handed (reports : List AdapterReport) : List BluetoothProperty :=
  reports.flatMap AdapterReport.properties

/-- The states told change each time, from `false` at the start to the state at hand. -/
def TellsState (told : List Bool) (state : Bool) : Prop :=
  (false :: told).IsChain (· ≠ ·) ∧ (false :: told).getLast? = some state

/-- The name handed out last is the alias if there is one, and the name or nothing else. -/
def TellsName (a : Bluez5Adapter) (names : List Text) : Prop :=
  match names.getLast? with
  | none => a.mAlias = []
  | some value => if a.mAlias = [] then value = a.mName ∨ value = [] else value = a.mAlias

def AdapterReport.uuidsAfter (uuids : List Text) : AdapterReport → List Text
  | .profileCreated uuid => uuids ++ [uuid]
  | report => (report.properties.filterMap BluetoothProperty.uuids?).getLast?.getD uuids

/-- The UUIDs handed out last, with those of the profiles created since. -/
def keptUuids (reports : List AdapterReport) : List Text :=
  reports.foldl AdapterReport.uuidsAfter []

/-- The adapter is what has been told of it, with the properties about to be handed out. -/
structure Mirrors (a : Bluez5Adapter) (reports : List AdapterReport)
    (pending : List BluetoothProperty) : Prop where
  powered : TellsState (reports.filterMap AdapterReport.powered?) a.mPowered
  discovering : TellsState (reports.filterMap AdapterReport.discovering?) a.mDiscovering
  uuids : (pending.filterMap BluetoothProperty.uuids?).getLast?.getD (keptUuids reports) =
    a.mUuids
  name : TellsName a ((handed reports ++ pending).filterMap BluetoothProperty.name?)

section Mirroring

variable {a b : Bluez5Adapter} {reports told : List AdapterReport}
variable {pending l : List BluetoothProperty}

theorem tellsState_concat {told : List Bool} {state value : Bool} (h : TellsState told state)
    (hne : value ≠ state) : TellsState (told ++ [value]) value := by
  obtain ⟨hchain, hlast⟩ := h
  have hnew : (false :: told).getLast? ≠ some value := by
    rw [hlast]
    exact fun heq => hne (Option.some.inj heq).symm
  exact ⟨isChain_concat hchain hnew, List.getLast?_concat (l := false :: told)⟩

theorem tellsName_concat {names : List Text} {value : Text}
    (h : if a.mAlias = [] then value = a.mName ∨ value = [] else value = a.mAlias) :
    TellsName a (names ++ [value]) := by
  unfold TellsName
  rw [List.getLast?_concat]
  exact h

theorem Mirrors.quiet (h : Mirrors a reports pending)
    (huuids : l.filterMap BluetoothProperty.uuids? = [])
    (hname : l.filterMap BluetoothProperty.name? = []) :
    Mirrors a reports (pending ++ l) := by
  refine ⟨h.powered, h.discovering, ?_, ?_⟩
  · rw [List.filterMap_append, huuids, List.append_nil]
    exact h.uuids
  · rw [← List.append_assoc, List.filterMap_append, hname, List.append_nil]
    exact h.name

theorem Mirrors.named (h : Mirrors a reports pending) (hpowered : b.mPowered = a.mPowered)
    (hdiscovering : b.mDiscovering = a.mDiscovering) (huuids : b.mUuids = a.mUuids) {value : Text}
    (hmore : l.filterMap BluetoothProperty.uuids? = [] ∧
      l.filterMap BluetoothProperty.name? = [value])
    (hvalue : if b.mAlias = [] then value = b.mName ∨ value = [] else value = b.mAlias) :
    Mirrors b reports (pending ++ l) := by
  refine ⟨?_, ?_, ?_, ?_⟩
  · rw [hpowered]
    exact h.powered
  · rw [hdiscovering]
    exact h.discovering
  · rw [List.filterMap_append, hmore.1, List.append_nil, huuids]
    exact h.uuids
  · rw [← List.append_assoc, List.filterMap_append, hmore.2]
    exact tellsName_concat hvalue

theorem Mirrors.withUuids (h : Mirrors a reports pending) (mUuids : List Text)
    (hmore : l.filterMap BluetoothProperty.name? = []) :
    Mirrors { a with mUuids } reports (pending ++ (l ++ [.uuids mUuids])) := by
  have hnone : (l ++ [BluetoothProperty.uuids mUuids]).filterMap BluetoothProperty.name? = [] := by
    rw [List.filterMap_append, hmore]
    rfl
  refine ⟨h.powered, h.discovering, ?_, ?_⟩
  · rw [← List.append_assoc, List.filterMap_append]
    exact congrArg (Option.getD · _) List.getLast?_concat
  · rw [← List.append_assoc, List.filterMap_append, hnone, List.append_nil]
    exact h.name

theorem handed_append_nil {l : List AdapterReport} (h : handed l = []) :
    handed (told ++ l) = handed told := by
  unfold handed at h ⊢
  rw [List.flatMap_append, h, List.append_nil]

theorem filterMap_append_nil {pick : AdapterReport → Option Bool} {l : List AdapterReport}
    (h : l.filterMap pick = []) : (told ++ l).filterMap pick = told.filterMap pick := by
  rw [List.filterMap_append, h, List.append_nil]

theorem Mirrors.reported (h : Mirrors a reports pending) {l : List AdapterReport}
    (hpowered : TellsState ((reports ++ l).filterMap AdapterReport.powered?) b.mPowered)
    (hdiscovering : TellsState ((reports ++ l).filterMap AdapterReport.discovering?)
      b.mDiscovering)
    (hkept : ∀ uuids, l.foldl AdapterReport.uuidsAfter uuids = uuids) (hhanded : handed l = [])
    (hsame : b.mUuids = a.mUuids ∧ b.mAlias = a.mAlias ∧ b.mName = a.mName) :
    Mirrors b (reports ++ l) pending := by
  obtain ⟨huuids, halias, hname⟩ := hsame
  refine ⟨hpowered, hdiscovering, ?_, ?_⟩
  · unfold keptUuids
    rw [List.foldl_append, hkept, huuids]
    exact h.uuids
  · unfold TellsName
    rw [handed_append_nil hhanded, halias, hname]
    exact h.name

structure ReadingGood (r : Reading) : Prop where
  mirrors : Mirrors r.adapter r.reports r.properties
  unchanged : r.changed = false → r.properties = []

variable {r : Reading}

theorem ReadingGood.push (h : ReadingGood r) (huuids : l.filterMap BluetoothProperty.uuids? = [])
    (hname : l.filterMap BluetoothProperty.name? = []) : ReadingGood (r.push l) where
  mirrors := h.mirrors.quiet huuids hname
  unchanged := fun hfalse => by cases hfalse

theorem ReadingGood.addPropertyFromVariant (h : ReadingGood r) (entry : AdapterEntry) :
    ReadingGood (r.addPropertyFromVariant entry) := by
  cases entry with
  | name value =>
      unfold Reading.addPropertyFromVariant
      dsimp only
      split_ifs with halias
      · refine ⟨?_, fun hfalse => by cases hfalse⟩
        exact h.mirrors.named (b := { r.adapter with mName := value }) rfl rfl rfl ⟨rfl, rfl⟩
          (by rw [if_pos halias]; exact .inl rfl)
      · exact h
  | aliasName value =>
      refine ⟨?_, fun hfalse => by cases hfalse⟩
      refine h.mirrors.named (b := { r.adapter with mAlias := value }) rfl rfl rfl ⟨rfl, rfl⟩ ?_
      dsimp only
      split_ifs with hempty
      · exact .inr hempty
      · rfl
  | address value | deviceClass value | deviceType value | discoverable value
  | discoverableTimeout value | pairable value | pairableTimeout value => exact h.push rfl rfl
  | powered value =>
      unfold Reading.addPropertyFromVariant
      dsimp only
      by_cases hne : value ≠ r.adapter.mPowered
      · rw [if_pos hne]
        refine ⟨h.mirrors.reported (b := { r.adapter with mPowered := value }) ?_ ?_
          (fun _ => rfl) rfl ⟨rfl, rfl, rfl⟩, h.unchanged⟩
        · rw [List.filterMap_append]
          exact tellsState_concat h.mirrors.powered hne
        · rw [filterMap_append_nil rfl]
          exact h.mirrors.discovering
      · rw [if_neg hne]
        exact h
  | discovering value =>
      unfold Reading.addPropertyFromVariant
      dsimp only
      by_cases hne : value ≠ r.adapter.mDiscovering
      · rw [if_pos hne]
        refine ⟨h.mirrors.reported (b := { r.adapter with mDiscovering := value }) ?_ ?_
          (fun _ => ?_) ?_ ⟨rfl, rfl, rfl⟩, h.unchanged⟩
        · rw [filterMap_append_nil (by split_ifs <;> rfl)]
          exact h.mirrors.powered
        · have htold : (AdapterReport.discoveryStateChanged value ::
              if r.adapter.mCancelDiscCallback then [AdapterReport.discoveryCancelled]
              else []).filterMap AdapterReport.discovering? = [value] := by
            split_ifs <;> rfl
          rw [List.filterMap_append, htold]
          exact tellsState_concat h.mirrors.discovering hne
        · split_ifs <;> rfl
        · split_ifs <;> rfl
      · rw [if_neg hne]
        exact h
  | uuids values =>
      refine ⟨?_, fun hfalse => by cases hfalse⟩
      exact h.mirrors.withUuids values (l := []) rfl
  | other => exact h

end Mirroring

namespace AdapterRun

variable {B : Type} {store : PropertyStore B} {s : AdapterRun B} {bus : B}

def Good (s : AdapterRun B) : Prop := Mirrors s.adapter s.reports []

theorem good_init (bus : B) : Good { bus } :=
  ⟨⟨List.isChain_singleton _, rfl⟩, ⟨List.isChain_singleton _, rfl⟩, rfl, rfl⟩

theorem Good.read (h : s.Good) (dictionary : List AdapterEntry) :
    ReadingGood (s.read dictionary) := by
  unfold AdapterRun.read
  have hstart : ReadingGood { adapter := s.adapter, reports := s.reports } := ⟨h, fun _ => rfl⟩
  generalize ({ adapter := s.adapter, reports := s.reports } : Reading) = r at hstart
  induction dictionary generalizing r with
  | nil => exact hstart
  | cons entry rest ih => exact ih _ (hstart.addPropertyFromVariant entry)

/-- A report that hands out what was about to be. -/
theorem good_of_report {a : Bluez5Adapter} {reports : List AdapterReport} {r : AdapterReport}
    (h : Mirrors a reports r.properties) (hpowered : r.powered? = none)
    (hdiscovering : r.discovering? = none)
    (huuids : ∀ uuids, r.uuidsAfter uuids =
      (r.properties.filterMap BluetoothProperty.uuids?).getLast?.getD uuids)
    (bus : B) : Good ⟨a, bus, reports ++ [r]⟩ := by
  refine ⟨?_, ?_, ?_, ?_⟩
  · rw [filterMap_append_nil (List.filterMap_cons_none hpowered)]
    exact h.powered
  · rw [filterMap_append_nil (List.filterMap_cons_none hdiscovering)]
    exact h.discovering
  · unfold keptUuids
    rw [List.foldl_append]
    exact (huuids _).trans h.uuids
  · unfold handed
    rw [List.append_nil, List.flatMap_append, List.flatMap_singleton]
    exact h.name

theorem Good.answer (h : s.Good) (error : BluetoothError) {properties : List BluetoothProperty}
    (huuids : properties.filterMap BluetoothProperty.uuids? = [])
    (hname : properties.filterMap BluetoothProperty.name? = []) :
    (s.answer error properties).Good :=
  good_of_report (r := .answered error properties) (h.quiet huuids hname) rfl rfl
    (fun _ => rfl) s.bus

theorem Good.handleAdapterPropertiesChanged (h : s.Good) (changedProperties : List AdapterEntry) :
    (s.handleAdapterPropertiesChanged changedProperties).Good := by
  obtain ⟨hmirrors, hunchanged⟩ := h.read changedProperties
  unfold AdapterRun.handleAdapterPropertiesChanged
  dsimp only
  cases hchanged : (s.read changedProperties).changed with
  | true =>
      exact good_of_report (r := .adapterPropertiesChanged _) hmirrors rfl rfl (fun _ => rfl) s.bus
  | false =>
      rw [hunchanged hchanged] at hmirrors
      rw [if_neg Bool.false_ne_true, List.append_nil]
      exact hmirrors

theorem Good.getAdapterProperties (h : s.Good) (reply : Option (List AdapterEntry)) :
    (s.getAdapterProperties reply).Good := by
  cases reply with
  | none => exact h.answer .fail rfl rfl
  | some dictionary =>
      have huuids := (h.read dictionary).mirrors.withUuids (s.read dictionary).adapter.mUuids
        (l := [.discoveryTimeout (s.read dictionary).adapter.mDiscoveryTimeout,
          .stackName "bluez5".toList]) rfl
      exact good_of_report (r := .answered .none _) huuids rfl rfl (fun _ => rfl) s.bus

theorem Good.readProperty (h : s.Good) {type : PropertyType} {value : Variant}
    {a : Bluez5Adapter} {property : BluetoothProperty}
    (hread : s.adapter.readProperty type value = (a, some property)) :
    Mirrors a s.reports [property] := by
  unfold Bluez5Adapter.readProperty at hread
  split at hread
  · split_ifs at hread with halias
    · cases hread
      exact h.named rfl rfl rfl ⟨rfl, rfl⟩ (by rw [if_pos halias]; exact .inl rfl)
    · cases hread
      exact h.named rfl rfl rfl ⟨rfl, rfl⟩ (by rw [if_neg halias])
  · cases hread
    refine h.named rfl rfl rfl ⟨rfl, rfl⟩ ?_
    dsimp only
    split_ifs with hempty
    · exact .inr hempty
    · rfl
  all_goals
    cases hread
    try exact h.quiet rfl rfl

theorem readProperty_none {a b : Bluez5Adapter} {type : PropertyType} {value : Variant}
    (hread : a.readProperty type value = (b, none)) : b = a := by
  unfold Bluez5Adapter.readProperty at hread
  split at hread
  · split_ifs at hread <;> cases hread
  all_goals
    cases hread
    try rfl

theorem Good.getAdapterProperty (h : s.Good) (type : PropertyType) :
    (s.getAdapterProperty store type).Good := by
  unfold AdapterRun.getAdapterProperty
  dsimp only
  split_ifs with hunknown htimeout hstack
  · exact h.answer .paramInvalid rfl rfl
  · exact h.answer .none rfl rfl
  · exact h.answer .none rfl rfl
  · cases store.get s.bus type.propertyTypeToString with
    | none => exact h.answer .fail rfl rfl
    | some value =>
        rcases hread : s.adapter.readProperty type value with ⟨a, _ | property⟩
        · dsimp only
          rw [hread, readProperty_none hread]
          exact h.answer .fail rfl rfl
        · dsimp only
          rw [hread]
          exact good_of_report (r := .answered .none [property]) (h.readProperty hread) rfl rfl
            (fun _ => rfl) s.bus

/-- A property that is not set here leaves the adapter alone. -/
theorem setAdapterPropertySync_cases (store : PropertyStore B) (s : AdapterRun B)
    (property : BluetoothProperty) :
    (∃ value, property = .discoveryTimeout value) ∨
      (s.setAdapterPropertySync store property).1.adapter = s.adapter ∧
        (s.setAdapterPropertySync store property).1.reports = s.reports := by
  cases property with
  | discoveryTimeout value => exact .inl ⟨value, rfl⟩
  | _ =>
      right
      unfold AdapterRun.setAdapterPropertySync
      dsimp only
      split
      · exact ⟨rfl, rfl⟩
      · split <;> exact ⟨rfl, rfl⟩

theorem Good.setAdapterPropertySync (store : PropertyStore B) (h : s.Good)
    (property : BluetoothProperty) :
    (s.setAdapterPropertySync store property).1.Good := by
  rcases setAdapterPropertySync_cases store s property with
    ⟨value, rfl⟩ | ⟨hadapter, hreports⟩
  · have hquiet := h.quiet (l := [.discoveryTimeout value]) rfl rfl
    exact good_of_report (a := { s.adapter with mDiscoveryTimeout := value })
      (r := .adapterPropertiesChanged [.discoveryTimeout value])
      ⟨hquiet.powered, hquiet.discovering, hquiet.uuids, hquiet.name⟩ rfl rfl (fun _ => rfl) s.bus
  · unfold Good
    rw [hadapter, hreports]
    exact h

theorem Good.setAdapterProperties (h : s.Good) (properties : List BluetoothProperty) :
    (s.setAdapterProperties store properties).Good := by
  induction properties generalizing s with
  | nil => exact h.answer .none rfl rfl
  | cons property rest ih =>
      have hset := h.setAdapterPropertySync store property
      unfold AdapterRun.setAdapterProperties
      generalize s.setAdapterPropertySync store property = o at hset
      obtain ⟨t, done⟩ := o
      cases done with
      | true => exact ih hset
      | false => exact Good.answer hset .fail rfl rfl

theorem Good.notifyRoleChange (h : s.Good) (source sink uuid : Text) :
    (s.notifyRoleChange source sink uuid).Good :=
  good_of_report (r := .adapterPropertiesChanged _) (h.withUuids _ (l := []) rfl)
    rfl rfl (fun _ => rfl) s.bus

theorem Good.createProfile (h : s.Good) (profileUuid : Text) :
    (s.createProfile profileUuid).Good := by
  refine ⟨?_, ?_, ?_, ?_⟩
  · unfold AdapterRun.createProfile
    dsimp only
    rw [filterMap_append_nil rfl]
    exact h.powered
  · unfold AdapterRun.createProfile
    dsimp only
    rw [filterMap_append_nil rfl]
    exact h.discovering
  · unfold AdapterRun.createProfile keptUuids
    dsimp only
    rw [List.foldl_append]
    exact congrArg (· ++ [createdUuid profileUuid]) h.uuids
  · unfold AdapterRun.createProfile
    dsimp only
    rw [handed_append_nil rfl]
    exact h.name

theorem good_of_reach (hs : (adapterMachine store bus).Reach s) : s.Good := by
  refine hs.invariant (P := Good) (good_init bus) ?_
  rintro s e t h - hstep
  cases e with
  | propertiesChanged changedProperties =>
      cases hstep
      exact h.handleAdapterPropertiesChanged changedProperties
  | getAdapterProperties reply =>
      cases hstep
      exact h.getAdapterProperties reply
  | getAdapterProperty type =>
      cases hstep
      exact h.getAdapterProperty type
  | setAdapterProperties properties =>
      cases hstep
      exact h.setAdapterProperties properties
  | roleChange source sink uuid =>
      cases hstep
      exact h.notifyRoleChange source sink uuid
  | createProfile profileUuid =>
      cases hstep
      exact h.createProfile profileUuid
  | cancelDiscovery =>
      cases hstep
      exact ⟨h.powered, h.discovering, h.uuids, h.name⟩
  | busChanged bus =>
      cases hstep
      exact h

end AdapterRun

end BluezSil.AdapterMirror
