import BluezSil.AdvertiserIds
import BluezSil.UpdateHistory

/-!
# Properties of a started advertisement

Starting an advertisement writes the properties of its skeleton one by one, each under
its own condition on the arguments. What the arguments do not ask for is not written,
so it stays as an earlier start has left it, and the service data of one service takes
the place of that of the service before it. A start that is refused has written the
first properties already.
-/

namespace BluezSil.Advertise

open UpdateHistory

/-- The properties of a skeleton that a start writes, as the skeleton has them at first. -/
@[ext]
structure AdvertisementProperties where
  type_ : Option Text := none
  discoverable : Bool := false
  timeout : UInt16 := 0
  includes : List Text := []
  manufacturerData : List (UInt16 × List UInt8) := []
  serviceUuids : List Text := []
  serviceData : List (Text × List UInt8) := []

structure AdvertiseSettings where
  connectable : Bool
  timeout : ℤ

/-- The services in the order in which an iteration meets them. -/
structure AdvertiseData where
  includeName : Bool := false
  includeTxPower : Bool := false
  manufacturerData : List UInt8 := []
  services : KeyedMap Text (List UInt8) := ∅

/-- The arguments of `startAdvertising`, with the number of instances BlueZ has left and its
answer to the registration. -/
structure StartCall where
  settings : AdvertiseSettings
  advertiseData : AdvertiseData
  scanResponse : AdvertiseData
  supportedInstances : UInt8
  reply : Reply

def includeTexts (isTxPowerInclude isLocalNameInclude isAppearanceInclude : Bool) : List Text :=
  (if isTxPowerInclude then ["tx-power".toList] else []) ++
  (if isLocalNameInclude then ["local-name".toList] else []) ++
  (if isAppearanceInclude then ["appearance".toList] else [])

/-- The dictionary built from the bytes: the first two are the id, in the byte order of the
machine. Fewer are ignored. -/
def manufacturerDictionary (isLittleEndian : Bool) :
    List UInt8 → Option (List (UInt16 × List UInt8))
  | first :: second :: rest =>
    let manufacturerId : UInt16 :=
      if isLittleEndian then second.toUInt16 <<< 8 ||| first.toUInt16
      else first.toUInt16 <<< 8 ||| second.toUInt16
    some [(manufacturerId, rest)]
  | _ => none

structure ExportedAdvertisers where
  advertise : Bluez5Advertise
  properties : ℕ → AdvertisementProperties

namespace ExportedAdvertisers

variable (s : ExportedAdvertisers) (advId : UInt8)

def setInterface (f : AdvertisementProperties → AdvertisementProperties) : ExportedAdvertisers :=
  match s.advertise.mAdvertiserMap.lookup advId with
  | none => s
  | some object =>
    { s with
      properties :=
        Function.update s.properties object.mInterface (f (s.properties object.mInterface)) }

def setAdRole (role : Text) : ExportedAdvertisers :=
  s.setInterface advId fun p => { p with type_ := some role }

def advertiseDiscoverable (discoverable : Bool) : ExportedAdvertisers :=
  s.setInterface advId fun p => { p with discoverable }

def advertiseTimeout (value : UInt16) : ExportedAdvertisers :=
  s.setInterface advId fun p => { p with timeout := value }

def advertiseIncludes (isTxPowerInclude isLocalNameInclude isAppearanceInclude : Bool) :
    ExportedAdvertisers :=
  s.setInterface advId fun p =>
    { p with includes := includeTexts isTxPowerInclude isLocalNameInclude isAppearanceInclude }

def advertiseManufacturerData (isLittleEndian : Bool) (data : List UInt8) :
    ExportedAdvertisers :=
  match manufacturerDictionary isLittleEndian data with
  | none => s
  | some manufacturerData => s.setInterface advId fun p => { p with manufacturerData }

def advertiseServiceUuids (serviceList : KeyedMap Text (List UInt8)) : ExportedAdvertisers :=
  s.setInterface advId fun p => { p with serviceUuids := serviceList.keys }

def advertiseServiceData (uuid : Text) (serviceData : List UInt8) : ExportedAdvertisers :=
  s.setInterface advId fun p => { p with serviceData := [(uuid, serviceData)] }

def registerAdvertisement (call : StartCall) : BluetoothError :=
  if call.supportedInstances = 0 then .fail
  else
    match call.reply with
    | none => .none
    | some _ => .fail

def advertiseRole (settings : AdvertiseSettings) : ExportedAdvertisers :=
  if settings.connectable then
    (s.setAdRole advId "peripheral".toList).advertiseDiscoverable advId true
  else s.setAdRole advId "broadcast".toList

def advertiseServices (services : KeyedMap Text (List UInt8)) : ExportedAdvertisers :=
  if 0 < services.entries.length then
    services.entries.foldl
      (fun s service =>
        if service.2.length ≠ 0 then s.advertiseServiceData advId service.1 service.2 else s)
      (s.advertiseServiceUuids advId services)
  else s

def startAdvertising (isLittleEndian : Bool) (call : StartCall) :
    ExportedAdvertisers × BluetoothError :=
  let s := s.advertiseRole advId call.settings
  let s :=
    if call.settings.timeout > 0 then
      s.advertiseTimeout advId (UInt16.ofInt call.settings.timeout)
    else s
  let s :=
    if call.scanResponse.includeName || call.advertiseData.includeTxPower then
      s.advertiseIncludes advId call.advertiseData.includeTxPower call.scanResponse.includeName
        false
    else s
  let manufacturerData := call.advertiseData.manufacturerData
  if manufacturerData.length > 1 then
    if manufacturerData.length > 31 then (s, .paramInvalid)
    else
      ((s.advertiseManufacturerData advId isLittleEndian manufacturerData).advertiseServices advId
        call.advertiseData.services, registerAdvertisement call)
  else (s.advertiseServices advId call.advertiseData.services, registerAdvertisement call)

def exported : Option AdvertisementProperties :=
  (s.advertise.mAdvertiserMap.lookup advId).map fun object => s.properties object.mInterface

def afterCalls (isLittleEndian : Bool) (history : List StartCall) : ExportedAdvertisers :=
  history.foldl (fun s call => (s.startAdvertising advId isLittleEndian call).1) s

/-- What a start exports does not depend on the calls before it, and has the data of every
service asked for. A start that is refused changes nothing. -/
def AdvertisesAsked (isLittleEndian : Bool) (history history' : List StartCall)
    (call : StartCall) : Prop :=
  let before := s.afterCalls advId isLittleEndian history
  let before' := s.afterCalls advId isLittleEndian history'
  let after := before.startAdvertising advId isLittleEndian call
  let after' := before'.startAdvertising advId isLittleEndian call
  (after.2 ≠ .paramInvalid → after.1.exported advId = after'.1.exported advId ∧
    ∀ p, after.1.exported advId = some p → ∀ uuid data,
      call.advertiseData.services.lookup uuid = some data → data ≠ [] →
      (uuid, data) ∈ p.serviceData) ∧
  (after.2 = .paramInvalid → after.1.exported advId = before.exported advId ∧
    after'.1.exported advId = before'.exported advId)

end ExportedAdvertisers

namespace StartCall

variable (isLittleEndian : Bool) (call : StartCall)

/-- The manufacturer data is too long. -/
def Refused : Prop := call.advertiseData.manufacturerData.length > 31

instance : Decidable call.Refused := by
  unfold Refused
  infer_instance

/-- What the call writes into each property, if it does. -/
def typeSet : Option (Option Text) :=
  some (some (if call.settings.connectable then "peripheral".toList else "broadcast".toList))

def discoverableSet : Option Bool := if call.settings.connectable then some true else none

def timeoutSet : Option UInt16 :=
  if call.settings.timeout > 0 then some (UInt16.ofInt call.settings.timeout) else none

def includesSet : Option (List Text) :=
  if call.scanResponse.includeName || call.advertiseData.includeTxPower then
    some (includeTexts call.advertiseData.includeTxPower call.scanResponse.includeName false)
  else none

def manufacturerDataSet : Option (List (UInt16 × List UInt8)) :=
  if call.Refused then none
  else manufacturerDictionary isLittleEndian call.advertiseData.manufacturerData

def serviceUuidsSet : Option (List Text) :=
  if call.Refused then none
  else if 0 < call.advertiseData.services.entries.length then
    some call.advertiseData.services.keys
  else none

def serviceDataSet : Option (List (Text × List UInt8)) :=
  if call.Refused then none
  else
    (call.advertiseData.services.entries.filter fun service => service.2.length ≠ 0).getLast?.map
      fun service => [(service.1, service.2)]

def exports (p : AdvertisementProperties) : AdvertisementProperties where
  type_ := call.typeSet.getD p.type_
  discoverable := call.discoverableSet.getD p.discoverable
  timeout := call.timeoutSet.getD p.timeout
  includes := call.includesSet.getD p.includes
  manufacturerData := (call.manufacturerDataSet isLittleEndian).getD p.manufacturerData
  serviceUuids := call.serviceUuidsSet.getD p.serviceUuids
  serviceData := call.serviceDataSet.getD p.serviceData

def OneServiceData : Prop :=
  ∀ uuid data uuid' data', call.advertiseData.services.lookup uuid = some data →
    call.advertiseData.services.lookup uuid' = some data' → data ≠ [] → data' ≠ [] → uuid = uuid'

end StartCall

section Histories

variable {α : Type} (pick : StartCall → Option α) (initial : α) (call : StartCall)

/-- What the calls of a history have written last into a property, that was `initial` before. -/
def lastSet (history : List StartCall) : α := (history.filterMap pick).getLast?.getD initial

/-- A property that the call does not write is left alike by both histories. -/
def LeftAlike (history history' : List StartCall) : Prop :=
  pick call = none → lastSet pick initial history = lastSet pick initial history'

/-- What the call writes into a property is there already. -/
def SetBefore (history : List StartCall) : Prop :=
  ∀ value, pick call = some value → lastSet pick initial history = value

theorem leftAlike_iff (history history' : List StartCall) :
    LeftAlike pick initial call history history' ↔
      (pick call).getD (lastSet pick initial history) =
        (pick call).getD (lastSet pick initial history') := by
  unfold LeftAlike
  cases pick call with
  | none => exact ⟨fun h => h rfl, fun h _ => h⟩
  | some value => exact iff_of_true (fun h => nomatch h) rfl

theorem setBefore_iff (history : List StartCall) :
    SetBefore pick initial call history ↔
      (pick call).getD (lastSet pick initial history) = lastSet pick initial history := by
  unfold SetBefore
  cases pick call with
  | none => exact iff_of_true (fun _ h => nomatch h) rfl
  | some value =>
      refine ⟨fun h => (h value rfl).symm, fun h _ hvalue => ?_⟩
      cases hvalue
      exact h.symm

end Histories

theorem manufacturerDictionary_eq_none {isLittleEndian : Bool} {data : List UInt8}
    (h : ¬ data.length > 1) : manufacturerDictionary isLittleEndian data = none := by
  match data with
  | [] => rfl
  | [_] => rfl
  | _ :: _ :: rest => exact absurd (Nat.succ_lt_succ (Nat.succ_pos rest.length)) h

theorem StartCall.Refused.sets_nothing {call : StartCall} (h : call.Refused)
    (isLittleEndian : Bool) :
    call.manufacturerDataSet isLittleEndian = none ∧ call.serviceUuidsSet = none ∧
      call.serviceDataSet = none :=
  ⟨if_pos h, if_pos h, if_pos h⟩

namespace ExportedAdvertisers

variable {s : ExportedAdvertisers} {advId : UInt8} {isLittleEndian : Bool} {call : StartCall}

@[simp]
theorem exported_setInterface (f : AdvertisementProperties → AdvertisementProperties) :
    (s.setInterface advId f).exported advId = (s.exported advId).map f := by
  unfold setInterface exported
  cases hobject : s.advertise.mAdvertiserMap.lookup advId with
  | none =>
      dsimp only
      rw [hobject]
      rfl
  | some object =>
      dsimp only
      rw [hobject, Option.map_some, Option.map_some, Function.update_self]
      rfl

theorem exported_advertiseRole :
    (s.advertiseRole advId call.settings).exported advId = (s.exported advId).map fun p =>
      { p with
        type_ := call.typeSet.getD p.type_
        discoverable := call.discoverableSet.getD p.discoverable } := by
  unfold advertiseRole setAdRole advertiseDiscoverable StartCall.typeSet StartCall.discoverableSet
  split_ifs
  · rw [exported_setInterface, exported_setInterface, Option.map_map]
    rfl
  · exact exported_setInterface _

theorem exported_advertiseManufacturerData (data : List UInt8) :
    (s.advertiseManufacturerData advId isLittleEndian data).exported advId =
      (s.exported advId).map fun p =>
        { p with
          manufacturerData := (manufacturerDictionary isLittleEndian data).getD
            p.manufacturerData } := by
  unfold advertiseManufacturerData
  cases manufacturerDictionary isLittleEndian data with
  | none => exact Option.map_id'.symm
  | some manufacturerData => exact exported_setInterface _

theorem exported_foldl_services (services : List (Sigma fun _ : Text => List UInt8)) :
    (services.foldl
        (fun s service =>
          if service.2.length ≠ 0 then s.advertiseServiceData advId service.1 service.2 else s)
        s).exported advId =
      (s.exported advId).map fun p =>
        { p with
          serviceData :=
            ((services.filter fun service => service.2.length ≠ 0).getLast?.map
              fun service => [(service.1, service.2)]).getD p.serviceData } := by
  induction services generalizing s with
  | nil => exact Option.map_id'.symm
  | cons service rest ih =>
      rw [List.foldl_cons, ih]
      by_cases hdata : service.2.length ≠ 0
      · unfold advertiseServiceData
        rw [if_pos hdata, exported_setInterface, Option.map_map,
          List.filter_cons_of_pos (by simpa using hdata), List.getLast?_cons]
        congr 1
        funext p
        cases (rest.filter fun service => service.2.length ≠ 0).getLast? with
        | none => rfl
        | some last => rfl
      · rw [if_neg hdata, List.filter_cons_of_neg (by simpa using hdata)]

theorem exported_advertiseServices (hnot : ¬ call.Refused) :
    (s.advertiseServices advId call.advertiseData.services).exported advId =
      (s.exported advId).map fun p =>
        { p with
          serviceUuids := call.serviceUuidsSet.getD p.serviceUuids
          serviceData := call.serviceDataSet.getD p.serviceData } := by
  unfold advertiseServices StartCall.serviceUuidsSet StartCall.serviceDataSet
  rw [if_neg hnot, if_neg hnot]
  by_cases hservices : 0 < call.advertiseData.services.entries.length
  · unfold advertiseServiceUuids
    rw [if_pos hservices, if_pos hservices, exported_foldl_services, exported_setInterface,
      Option.map_map]
    rfl
  · have hnone : call.advertiseData.services.entries = [] :=
      List.length_eq_zero_iff.mp (Nat.eq_zero_of_not_pos hservices)
    rw [if_neg hservices, if_neg hservices, hnone]
    exact Option.map_id'.symm

theorem exported_advertiseTimeout :
    (if call.settings.timeout > 0 then
        s.advertiseTimeout advId (UInt16.ofInt call.settings.timeout)
      else s).exported advId =
      (s.exported advId).map fun p => { p with timeout := call.timeoutSet.getD p.timeout } := by
  unfold advertiseTimeout StartCall.timeoutSet
  split_ifs
  · exact exported_setInterface _
  · exact Option.map_id'.symm

theorem exported_advertiseIncludes :
    (if call.scanResponse.includeName || call.advertiseData.includeTxPower then
        s.advertiseIncludes advId call.advertiseData.includeTxPower call.scanResponse.includeName
          false
      else s).exported advId =
      (s.exported advId).map fun p => { p with includes := call.includesSet.getD p.includes } := by
  unfold advertiseIncludes StartCall.includesSet
  split_ifs
  · exact exported_setInterface _
  · exact Option.map_id'.symm

theorem startAdvertising_spec :
    (s.startAdvertising advId isLittleEndian call).1.exported advId =
        (s.exported advId).map (call.exports isLittleEndian) ∧
      ((s.startAdvertising advId isLittleEndian call).2 = .paramInvalid ↔ call.Refused) := by
  have hregistered : registerAdvertisement call ≠ .paramInvalid := by
    unfold registerAdvertisement
    split_ifs
    · exact fun h => nomatch h
    · cases call.reply with
      | none => exact fun h => nomatch h
      | some error => exact fun h => nomatch h
  unfold startAdvertising
  dsimp only
  by_cases hrefused : call.Refused
  · have hlong : call.advertiseData.manufacturerData.length > 1 :=
      Nat.lt_trans (by decide) hrefused
    have htoo : call.advertiseData.manufacturerData.length > 31 := hrefused
    obtain ⟨hmanufacturer, huuids, hdata⟩ := hrefused.sets_nothing isLittleEndian
    rw [if_pos hlong, if_pos htoo, exported_advertiseIncludes, exported_advertiseTimeout,
      exported_advertiseRole, Option.map_map, Option.map_map]
    refine ⟨?_, iff_of_true rfl hrefused⟩
    congr 1
    funext p
    unfold StartCall.exports
    rw [hmanufacturer, huuids, hdata]
    rfl
  · have hfits : ¬ call.advertiseData.manufacturerData.length > 31 := hrefused
    have hset : call.manufacturerDataSet isLittleEndian =
        manufacturerDictionary isLittleEndian call.advertiseData.manufacturerData :=
      if_neg hrefused
    by_cases hlong : call.advertiseData.manufacturerData.length > 1
    · rw [if_pos hlong, if_neg hfits, exported_advertiseServices hrefused,
        exported_advertiseManufacturerData, exported_advertiseIncludes,
        exported_advertiseTimeout, exported_advertiseRole, Option.map_map, Option.map_map,
        Option.map_map, Option.map_map, ← hset]
      exact ⟨rfl, iff_of_false hregistered hrefused⟩
    · have hignored : call.manufacturerDataSet isLittleEndian = none :=
        hset.trans (manufacturerDictionary_eq_none hlong)
      rw [if_neg hlong, exported_advertiseServices hrefused, exported_advertiseIncludes,
        exported_advertiseTimeout, exported_advertiseRole, Option.map_map, Option.map_map,
        Option.map_map]
      refine ⟨?_, iff_of_false hregistered hrefused⟩
      congr 1
      funext p
      unfold StartCall.exports
      rw [hignored]
      rfl

theorem afterCalls_exported (history : List StartCall) :
    (s.afterCalls advId isLittleEndian history).exported advId =
      (s.exported advId).map fun p =>
        history.foldl (fun p call => call.exports isLittleEndian p) p := by
  unfold afterCalls
  induction history generalizing s with
  | nil => exact Option.map_id'.symm
  | cons call rest ih =>
      rw [List.foldl_cons, ih, startAdvertising_spec.1, Option.map_map]
      rfl

end ExportedAdvertisers

theorem foldl_exports (isLittleEndian : Bool) (history : List StartCall)
    (p : AdvertisementProperties) :
    history.foldl (fun p call => call.exports isLittleEndian p) p =
      { type_ := lastSet StartCall.typeSet p.type_ history
        discoverable := lastSet StartCall.discoverableSet p.discoverable history
        timeout := lastSet StartCall.timeoutSet p.timeout history
        includes := lastSet StartCall.includesSet p.includes history
        manufacturerData :=
          lastSet (StartCall.manufacturerDataSet isLittleEndian) p.manufacturerData history
        serviceUuids := lastSet StartCall.serviceUuidsSet p.serviceUuids history
        serviceData := lastSet StartCall.serviceDataSet p.serviceData history } := by
  refine AdvertisementProperties.ext ?_ ?_ ?_ ?_ ?_ ?_ ?_
  · exact foldl_replaced AdvertisementProperties.type_ (fun _ _ => rfl) p history
  · exact foldl_replaced AdvertisementProperties.discoverable (fun _ _ => rfl) p history
  · exact foldl_replaced AdvertisementProperties.timeout (fun _ _ => rfl) p history
  · exact foldl_replaced AdvertisementProperties.includes (fun _ _ => rfl) p history
  · exact foldl_replaced AdvertisementProperties.manufacturerData (fun _ _ => rfl) p history
  · exact foldl_replaced AdvertisementProperties.serviceUuids (fun _ _ => rfl) p history
  · exact foldl_replaced AdvertisementProperties.serviceData (fun _ _ => rfl) p history

section Start

variable {p : AdvertisementProperties} {isLittleEndian : Bool} {history history' : List StartCall}
variable {call : StartCall}

/-- After two histories a call exports the same if and only if they have left what it does not
write alike. -/
theorem exports_eq_iff :
    call.exports isLittleEndian
          (history.foldl (fun p call => call.exports isLittleEndian p) p) =
        call.exports isLittleEndian
          (history'.foldl (fun p call => call.exports isLittleEndian p) p) ↔
      LeftAlike StartCall.discoverableSet p.discoverable call history history' ∧
      LeftAlike StartCall.timeoutSet p.timeout call history history' ∧
      LeftAlike StartCall.includesSet p.includes call history history' ∧
      LeftAlike (StartCall.manufacturerDataSet isLittleEndian) p.manufacturerData call
        history history' ∧
      LeftAlike StartCall.serviceUuidsSet p.serviceUuids call history history' ∧
      LeftAlike StartCall.serviceDataSet p.serviceData call history history' := by
  rw [foldl_exports, foldl_exports, AdvertisementProperties.ext_iff]
  simp only [leftAlike_iff]
  exact and_iff_right rfl

theorem Refused.exports_eq_iff (h : call.Refused) :
    call.exports isLittleEndian
          (history.foldl (fun p call => call.exports isLittleEndian p) p) =
        history.foldl (fun p call => call.exports isLittleEndian p) p ↔
      SetBefore StartCall.typeSet p.type_ call history ∧
      SetBefore StartCall.discoverableSet p.discoverable call history ∧
      SetBefore StartCall.timeoutSet p.timeout call history ∧
      SetBefore StartCall.includesSet p.includes call history := by
  obtain ⟨hmanufacturer, huuids, hdata⟩ := h.sets_nothing isLittleEndian
  rw [foldl_exports, AdvertisementProperties.ext_iff]
  simp only [setBefore_iff]
  unfold StartCall.exports
  rw [hmanufacturer, huuids, hdata]
  simp only [Option.getD_none, and_true]

theorem serviceDataSet_cases (hnot : ¬ call.Refused) :
    (call.serviceDataSet = none ∧ ∀ uuid data,
        call.advertiseData.services.lookup uuid = some data → data = []) ∨
      ∃ uuid data, call.serviceDataSet = some [(uuid, data)] ∧ data ≠ [] ∧
        call.advertiseData.services.lookup uuid = some data := by
  unfold StartCall.serviceDataSet
  rw [if_neg hnot]
  generalize hwith : call.advertiseData.services.entries.filter
    (fun service => service.2.length ≠ 0) = withData
  have hmem (uuid : Text) (data : List UInt8) : ⟨uuid, data⟩ ∈ withData ↔
      call.advertiseData.services.lookup uuid = some data ∧ data ≠ [] := by
    rw [← hwith, List.mem_filter, ← Option.mem_def, AList.mem_lookup_iff]
    simp
  rcases List.eq_nil_or_concat withData with hnone | ⟨earlier, last, hlast⟩
  · refine .inl ⟨by rw [hnone]; rfl, fun uuid data hlookup => ?_⟩
    by_contra hdata
    have hin := (hmem uuid data).mpr ⟨hlookup, hdata⟩
    rw [hnone] at hin
    exact List.not_mem_nil hin
  · rw [List.concat_eq_append] at hlast
    have hin : last ∈ withData := hlast ▸ List.mem_append_right _ List.mem_cons_self
    obtain ⟨hlookup, hdata⟩ := (hmem last.1 last.2).mp hin
    refine .inr ⟨last.1, last.2, ?_, hdata, hlookup⟩
    rw [hlast, List.getLast?_concat]
    rfl

theorem serviceData_complete_iff (hnot : ¬ call.Refused) (old : List (Text × List UInt8)) :
    (∀ uuid data, call.advertiseData.services.lookup uuid = some data → data ≠ [] →
        (uuid, data) ∈ call.serviceDataSet.getD old) ↔ call.OneServiceData := by
  rcases serviceDataSet_cases hnot with ⟨_, hnone⟩ | ⟨last, lastData, hset, hdata, hlookup⟩
  · refine iff_of_true (fun uuid data hlookup hdata => ?_) fun uuid data _ _ hlookup _ hdata _ => ?_
    · exact absurd (hnone uuid data hlookup) hdata
    · exact absurd (hnone uuid data hlookup) hdata
  · rw [hset, Option.getD_some]
    constructor
    · intro h uuid data uuid' data' hfirst hsecond hdata hdata'
      have huuid := congrArg Prod.fst (List.mem_singleton.mp (h uuid data hfirst hdata))
      have huuid' := congrArg Prod.fst (List.mem_singleton.mp (h uuid' data' hsecond hdata'))
      exact huuid.trans huuid'.symm
    · intro h uuid data hfirst hother
      obtain rfl := h uuid data last lastData hfirst hlookup hother hdata
      rw [hlookup, Option.some_inj] at hfirst
      rw [hfirst]
      exact List.mem_singleton_self _

end Start

/-- An advertisement is what was asked for if and only if the histories left alike what the call
does not write, and at most one service has data; a call that is refused must have written what
was there before. -/
theorem advertises_asked_iff (s : ExportedAdvertisers) (advId : UInt8) {object : AdvertiseObject}
    (hexists : s.advertise.mAdvertiserMap.lookup advId = some object) (isLittleEndian : Bool)
    (history history' : List StartCall) (call : StartCall) :
    s.AdvertisesAsked advId isLittleEndian history history' call ↔
      let p := s.properties object.mInterface
      (¬ call.Refused →
        (LeftAlike StartCall.discoverableSet p.discoverable call history history' ∧
          LeftAlike StartCall.timeoutSet p.timeout call history history' ∧
          LeftAlike StartCall.includesSet p.includes call history history' ∧
          LeftAlike (StartCall.manufacturerDataSet isLittleEndian) p.manufacturerData call
            history history' ∧
          LeftAlike StartCall.serviceUuidsSet p.serviceUuids call history history' ∧
          LeftAlike StartCall.serviceDataSet p.serviceData call history history') ∧
        call.OneServiceData) ∧
      (call.Refused → ∀ h ∈ [history, history'],
        SetBefore StartCall.typeSet p.type_ call h ∧
        SetBefore StartCall.discoverableSet p.discoverable call h ∧
        SetBefore StartCall.timeoutSet p.timeout call h ∧
        SetBefore StartCall.includesSet p.includes call h) := by
  have hexported : s.exported advId = some (s.properties object.mInterface) := by
    unfold ExportedAdvertisers.exported
    rw [hexists]
    rfl
  unfold ExportedAdvertisers.AdvertisesAsked
  dsimp only
  rw [ExportedAdvertisers.startAdvertising_spec.1, ExportedAdvertisers.startAdvertising_spec.1,
    ExportedAdvertisers.afterCalls_exported, ExportedAdvertisers.afterCalls_exported, hexported,
    Ne, ExportedAdvertisers.startAdvertising_spec.2]
  simp only [Option.map_some, Option.some_inj, forall_eq', List.forall_mem_cons,
    List.not_mem_nil, false_implies, implies_true, and_true]
  refine and_congr (imp_congr_right fun hnot => ?_) (imp_congr_right fun hrefused => ?_)
  · exact and_congr exports_eq_iff (serviceData_complete_iff hnot _)
  · exact and_congr (Refused.exports_eq_iff hrefused) (Refused.exports_eq_iff hrefused)

def oneAdvertiser : ExportedAdvertisers where
  advertise := { mAdvertiserMap := AList.insert 1 ⟨0, advertisePath 1⟩ ∅ }
  properties := fun _ => {}

def batteryService : Text := "180f".toList

def fullCall : StartCall where
  settings := { connectable := true, timeout := 30 }
  advertiseData :=
    { includeTxPower := true
      manufacturerData := [0x4C, 0, 2]
      services := AList.insert batteryService [100] ∅ }
  scanResponse := { includeName := true }
  supportedInstances := 4
  reply := none

def plainCall : StartCall where
  settings := { connectable := false, timeout := 0 }
  advertiseData := {}
  scanResponse := {}
  supportedInstances := 4
  reply := none

/-- What the full call exports after a plain one is what it exports at first. -/
theorem advertises_asked_iff_full :
    oneAdvertiser.AdvertisesAsked 1 true [] [plainCall] fullCall := by
  refine (advertises_asked_iff oneAdvertiser 1 rfl true [] [plainCall] fullCall).mpr
    ⟨fun _ => ⟨⟨?_, ?_, ?_, ?_, ?_, ?_⟩, ?_⟩, fun h => absurd h (by decide)⟩
  · exact fun h => nomatch h
  · exact fun h => nomatch h
  · exact fun h => nomatch h
  · exact fun h => nomatch h
  · exact fun h => nomatch h
  · exact fun h => nomatch h
  · intro uuid data uuid' data' hfirst hsecond _ _
    obtain ⟨heq, _⟩ | ⟨_, hnone⟩ := KeyedMap.lookup_insert_cases hfirst
    · obtain ⟨heq', _⟩ | ⟨_, hnone⟩ := KeyedMap.lookup_insert_cases hsecond
      · exact heq.trans heq'.symm
      · cases hnone
    · cases hnone

/-- The timeout of an earlier call stays when the next one asks for none. -/
theorem advertises_earlier_timeout :
    ¬ ∀ (s : ExportedAdvertisers) (advId : UInt8) (object : AdvertiseObject),
      s.advertise.mAdvertiserMap.lookup advId = some object →
      ∀ isLittleEndian history history' call,
        s.AdvertisesAsked advId isLittleEndian history history' call := by
  intro h
  have hsame := ((h oneAdvertiser 1 _ rfl true [] [fullCall] plainCall).1 (by decide)).1
  exact absurd (congrArg (Option.map AdvertisementProperties.timeout) hsame) (by decide)

end BluezSil.Advertise
