import BluezSil.KeyedMap
import BluezSil.SilApi
import BluezSil.TransitionRun
import Mathlib.Logic.Function.Basic

/-!
# Pairing

An adapter remembers that it is pairing, and with which device. The agent keeps an entry for
each device that is being paired, under the object path of the device, with the D-Bus
invocations that wait for an answer of the user. An entry is made by `pair`, or by the first
request of BlueZ about a device that nobody here is pairing with.

The entries are unordered: where the agent looks for the first one that has an address, an
event says in which order they are come upon, and those it leaves out come last.
-/

namespace BluezSil.Pairing

open TransitionRun

inductive PairError
  | none
  | fail
  | paramInvalid
  | busy
  | notReady
  | unknownDeviceAddr
  | deviceAlreadyPaired
  | authenticationFailed
  | authenticationCanceled
  | authenticationTimeout
  deriving DecidableEq, Repr

structure Device where
  mAdapter : ℕ
  mAddress : Text
  mObjectPath : Text
  deriving DecidableEq, Repr

/-- The devices of each adapter, under the addresses they were added with. -/
structure Devices where
  mDevices : ℕ → KeyedMap Text Device
  adapter_eq : ∀ {a k d}, (mDevices a).lookup k = some d → d.mAdapter = a

namespace Devices

variable (devices : Devices)

def findDevice (a : ℕ) (address : Text) : Option Device :=
  (devices.mDevices a).lookup (convertAddressToUpperCase address)

def findDeviceByObjectPath (a : ℕ) (objectPath : Text) : Option Device :=
  (devices.mDevices a).values.find? (·.mObjectPath == objectPath)

end Devices

/-- The methods of the agent that BlueZ calls with an object path. -/
inductive AgentMethod
  | displayPasskey
  | displayPinCode
  | requestConfirmation
  | requestPasskey
  | requestPinCode
  deriving DecidableEq, Repr

structure Invocation where
  serial : ℕ
  method : AgentMethod
  deriving DecidableEq, Repr

/-- What an invocation is completed with: the reply of a method, an error of the agent, or
the error GDBus returns for a handler that has declined. -/
inductive AgentReply
  | displayPasskey
  | displayPinCode
  | requestConfirmation
  | requestPasskey (passkey : UInt32)
  | requestPinCode (pin : Text)
  | canceled
  | rejected
  | unknownMethod
  deriving DecidableEq, Repr

inductive PairingNotice
  | displayPasskey (address : Text) (passkey : UInt32)
  | displayPinCode (address : Text) (pincode : Text)
  | displayPairingConfirmation (address : Text) (passkey : UInt32)
  | requestPasskey (address : Text)
  | requestPin (address : Text)
  | pairingCanceled
  deriving DecidableEq, Repr

structure PairingInfo where
  adapter : ℕ
  deviceAddress : Text
  incoming : Bool
  requestConfirmation : Option Invocation := none
  requestAuthorization : Option Invocation := none
  requestPairingSecret : Option Invocation := none
  displayPairingSecret : Option Invocation := none
  deriving DecidableEq, Repr

/-- The agent is assigned to every adapter when it is made, and taken from all of them when
it is destroyed. `pairing`, `cancelling` and `unpairing` hold the calls to BlueZ that have no
reply yet. `openIncoming` holds the requests about incoming pairings that have been neither
answered nor cancelled, each with its path. -/
structure PairingState where
  mAgent : Bool := false
  mPairing : ℕ → Bool := fun _ => false
  mCurrentPairingDevice : ℕ → Option Device := fun _ => none
  mDevicePairings : KeyedMap Text PairingInfo := ∅
  pairing : List Device := []
  cancelling : List Device := []
  unpairing : List ℕ := []
  openIncoming : List (ℕ × Text) := []
  received : ℕ := 0
  completions : List (Invocation × AgentReply) := []
  notified : List PairingNotice := []
  replies : List PairError := []

inductive PairingEvent
  | createAgent
  | deleteAgent
  | pair (a : ℕ) (address : Text)
  | pairFinished (device : Device) (error : Reply)
  | cancelPairing (a : ℕ) (address : Text) (order : List Text)
  | cancelFinished (device : Device) (error : Reply)
  | unpair (a : ℕ) (address : Text)
  | unpairFinished (a : ℕ) (error : Reply)
  | supplyPairingConfirmation (a : ℕ) (address : Text) (accept : Bool) (order : List Text)
  | supplyPasskey (a : ℕ) (address : Text) (passkey : UInt32) (order : List Text)
  | supplyPin (a : ℕ) (address pin : Text) (order : List Text)
  | displayPasskey (objectPath : Text) (passkey : UInt32) (adapter : Option ℕ)
  | displayPinCode (objectPath pincode : Text) (adapter : Option ℕ)
  | requestConfirmation (objectPath : Text) (passkey : UInt32) (adapter : Option ℕ)
  | requestPasskey (objectPath : Text) (adapter : Option ℕ)
  | requestPinCode (objectPath : Text) (adapter : Option ℕ)
  | cancel (request : ℕ × Text) (defaultAdapter : Option ℕ)
  deriving DecidableEq, Repr

def pairError : Reply → PairError
  | some "GDBus.Error:org.bluez.Error.AlreadyExists: Already Exists" => .deviceAlreadyPaired
  | some "GDBus.Error:org.bluez.Error.AuthenticationFailed: Authentication Failed" =>
    .authenticationFailed
  | some "GDBus.Error:org.bluez.Error.AuthenticationCanceled: Authentication Canceled" =>
    .authenticationCanceled
  | some "Timeout was reached" => .authenticationTimeout
  | some _ => .fail
  | none => .none

namespace PairingState

variable (s : PairingState)

def reply (error : PairError) : PairingState := { s with replies := error :: s.replies }

def complete (invocation : Invocation) (r : AgentReply) : PairingState :=
  { s with completions := (invocation, r) :: s.completions }

def notify (notice : PairingNotice) : PairingState :=
  { s with notified := notice :: s.notified }

def setPairing (a : ℕ) (pairing : Bool) : PairingState :=
  { s with mPairing := Function.update s.mPairing a pairing }

def openRequest (info : PairingInfo) (request : ℕ × Text) : PairingState :=
  { s with openIncoming := if info.incoming then request :: s.openIncoming else s.openIncoming }

def closeRequest (request : ℕ × Text) : PairingState :=
  { s with openIncoming := s.openIncoming.filter (· ≠ request) }

/-! ### The agent -/

def findPairingInfoForDevice (objectPath : Text) : Option PairingInfo :=
  if objectPath = [] then none else s.mDevicePairings.lookup objectPath

def findPairingInfoForAddress (order : List Text) (address : Text) :
    Option (Text × PairingInfo) :=
  if address = [] then none
  else
    (order ++ s.mDevicePairings.keys).findSome? fun path =>
      (s.mDevicePairings.lookup path).bind fun info =>
        if info.deviceAddress = convertAddressToUpperCase address then some (path, info) else none

variable {s} in
theorem findPairingInfoForAddress_some {order : List Text} {address path : Text}
    {info : PairingInfo}
    (h : s.findPairingInfoForAddress order address = some (path, info)) :
    s.mDevicePairings.lookup path = some info := by
  unfold findPairingInfoForAddress at h
  split_ifs at h
  obtain ⟨_, q, _, _, hq, _⟩ := List.findSome?_eq_some_iff.mp h
  obtain ⟨i, hi, hsome⟩ := Option.bind_eq_some_iff.mp hq
  split_ifs at hsome
  cases hsome
  exact hi

/-- A device that has an entry keeps it. -/
def startPairingForDevice (device : Device) (incoming : Bool) : PairingState × Bool :=
  if device.mObjectPath ∈ s.mDevicePairings then (s, false)
  else
    let s := { s with
      mDevicePairings :=
        s.mDevicePairings.insert device.mObjectPath ⟨device.mAdapter, device.mAddress, incoming,
          none, none, none, none⟩ }
    (s.setPairing device.mAdapter true, true)

def stopPairingForDevice (device : Device) : PairingState :=
  if device.mObjectPath ∈ s.mDevicePairings then
    setPairing
      { s with
        mDevicePairings := s.mDevicePairings.erase device.mObjectPath
        openIncoming := s.openIncoming.filter (·.2 ≠ device.mObjectPath) }
      device.mAdapter false
  else s

/-- `adapter` is the adapter the object path is routed to. Without one the invocation is not
completed here. -/
def initiatePairing (devices : Devices) (invocation : Invocation) (objectPath : Text)
    (adapter : Option ℕ) : PairingState × Option PairingInfo :=
  match s.findPairingInfoForDevice objectPath with
  | some info => (s, some info)
  | none =>
    match adapter with
    | none => (s, none)
    | some a =>
      match devices.findDeviceByObjectPath a objectPath with
      | none => (s.complete invocation .canceled, none)
      | some device =>
        let (s, started) := s.startPairingForDevice device true
        if started then
          match s.findPairingInfoForDevice objectPath with
          | some info => (s, some info)
          | none => (s.complete invocation .canceled, none)
        else (s.complete invocation .canceled, none)

/-- What the handlers share: the invocation goes to a slot of the entry, the observer is told,
and a request with nothing to wait for is completed at once. GDBus completes the invocation
of a handler that has found no entry. -/
def handleRequest (devices : Devices) (method : AgentMethod)
    (keep : Invocation → PairingInfo → PairingInfo) (notice : PairingInfo → PairingNotice)
    (atOnce : Option AgentReply) (objectPath : Text) (adapter : Option ℕ) : PairingState :=
  let invocation := ⟨s.received, method⟩
  let s := { s with received := s.received + 1 }
  match s.initiatePairing devices invocation objectPath adapter with
  | (s, none) => s.complete invocation .unknownMethod
  | (s, some info) =>
    let s := { s with mDevicePairings := s.mDevicePairings.modify objectPath (keep invocation) }
    let s := s.notify (notice info)
    match atOnce with
    | some r => s.complete invocation r
    | none => s.openRequest info (invocation.serial, objectPath)

def handleDisplayPasskey (devices : Devices) (objectPath : Text) (passkey : UInt32)
    (adapter : Option ℕ) : PairingState :=
  s.handleRequest devices .displayPasskey
    (fun invocation info => { info with displayPairingSecret := some invocation })
    (fun info => .displayPasskey info.deviceAddress passkey) (some .displayPasskey) objectPath
    adapter

def handleDisplayPinCode (devices : Devices) (objectPath pincode : Text)
    (adapter : Option ℕ) : PairingState :=
  s.handleRequest devices .displayPinCode
    (fun invocation info => { info with displayPairingSecret := some invocation })
    (fun info => .displayPinCode info.deviceAddress pincode) (some .displayPinCode) objectPath
    adapter

def handleRequestConfirmation (devices : Devices) (objectPath : Text) (passkey : UInt32)
    (adapter : Option ℕ) : PairingState :=
  s.handleRequest devices .requestConfirmation
    (fun invocation info => { info with requestConfirmation := some invocation })
    (fun info => .displayPairingConfirmation info.deviceAddress passkey) none objectPath adapter

def handleRequestPasskey (devices : Devices) (objectPath : Text) (adapter : Option ℕ) :
    PairingState :=
  s.handleRequest devices .requestPasskey
    (fun invocation info => { info with requestPairingSecret := some invocation })
    (fun info => .requestPasskey info.deviceAddress) none objectPath adapter

def handleRequestPinCode (devices : Devices) (objectPath : Text) (adapter : Option ℕ) :
    PairingState :=
  s.handleRequest devices .requestPinCode
    (fun invocation info => { info with requestPairingSecret := some invocation })
    (fun info => .requestPin info.deviceAddress) none objectPath adapter

/-- The slot keeps the invocation that is completed here. -/
def agentSupplyPairingConfirmation (devices : Devices) (a : ℕ) (address : Text) (accept : Bool)
    (order : List Text) : PairingState × Bool :=
  match s.findPairingInfoForAddress order address with
  | none => (s, false)
  | some (path, info) =>
    match info.requestConfirmation with
    | none => (s, false)
    | some invocation =>
      let s := s.complete invocation (if accept then .requestConfirmation else .rejected)
      let s := s.closeRequest (invocation.serial, path)
      if info.incoming then
        match devices.findDevice a address with
        | none => (s, false)
        | some device => (s.stopPairingForDevice device, true)
      else (s, true)

/-- What both forms of `supplyPairingSecret` share. The invocation may be one of the other
form. -/
def agentSupplyPairingSecret (address : Text) (r : AgentReply) (order : List Text) :
    PairingState × Bool :=
  match s.findPairingInfoForAddress order address with
  | none => (s, false)
  | some (path, info) =>
    match info.requestPairingSecret with
    | none => (s, false)
    | some invocation =>
      ((s.complete invocation r).closeRequest (invocation.serial, path), true)

def agentSupplyPasskey (address : Text) (passkey : UInt32) (order : List Text) :
    PairingState × Bool :=
  s.agentSupplyPairingSecret address (.requestPasskey passkey) order

def agentSupplyPin (address pin : Text) (order : List Text) : PairingState × Bool :=
  if pin = [] then (s, false)
  else s.agentSupplyPairingSecret address (.requestPinCode pin) order

end PairingState

def PairingInfo.cancelled (info : PairingInfo) : Option Invocation :=
  info.requestConfirmation.or (info.requestAuthorization.or info.requestPairingSecret)

namespace PairingState

variable (s : PairingState)

def agentCancelPairing (address : Text) (order : List Text) : PairingState × Bool :=
  match s.findPairingInfoForAddress order address with
  | none => (s, false)
  | some (path, info) =>
    match info.cancelled with
    | none => (s, false)
    | some invocation =>
      ((s.complete invocation .canceled).closeRequest (invocation.serial, path), true)

/-- BlueZ cancels a request, and the entry it was about stays. -/
def handleCancel (request : ℕ × Text) (defaultAdapter : Option ℕ) : PairingState :=
  let s := s.closeRequest request
  if defaultAdapter.any s.mPairing then s.notify .pairingCanceled else s

/-! ### The device -/

def devicePair (device : Device) : PairingState :=
  if s.mAgent then
    let s := (s.startPairingForDevice device false).1
    { s with pairing := device :: s.pairing }
  else s.reply .notReady

/-- Without an agent the callback calls through a null pointer. -/
def pairCallback (device : Device) (error : Reply) : Option PairingState :=
  if device ∈ s.pairing ∧ s.mAgent then
    let s := { s with pairing := s.pairing.erase device }
    some ((s.stopPairingForDevice device).reply (pairError error))
  else none

def deviceCancelPairing (device : Device) : PairingState :=
  { s with cancelling := device :: s.cancelling }

def cancelPairingCallback (device : Device) (error : Reply) : Option PairingState :=
  if device ∈ s.cancelling then
    let s := { s with cancelling := s.cancelling.erase device }
    match error with
    | some _ => some (s.reply .fail)
    | none => some ((s.setPairing device.mAdapter false).reply .none)
  else none

/-! ### The adapter -/

def pair (devices : Devices) (a : ℕ) (address : Text) : PairingState :=
  if address = [] then s.reply .paramInvalid
  else if s.mPairing a then s.reply .busy
  else
    match devices.findDevice a address with
    | none => s.reply .unknownDeviceAddr
    | some device =>
      let s := s.setPairing a true
      let s := { s with
        mCurrentPairingDevice := Function.update s.mCurrentPairingDevice a (some device) }
      s.devicePair device

def supplyPairingConfirmation (devices : Devices) (a : ℕ) (address : Text) (accept : Bool)
    (order : List Text) : PairingState × PairError :=
  if s.mAgent then
    if address = [] then (s, .paramInvalid)
    else
      match s.agentSupplyPairingConfirmation devices a address accept order with
      | (s, true) => (s, .none)
      | (s, false) => (s, .fail)
  else (s, .fail)

def supplyPasskey (address : Text) (passkey : UInt32) (order : List Text) :
    PairingState × PairError :=
  if address = [] then (s, .paramInvalid)
  else if s.mAgent then
    ((s.agentSupplyPasskey address passkey order).1, .none)
  else (s, .fail)

def supplyPin (address pin : Text) (order : List Text) : PairingState × PairError :=
  if address = [] then (s, .paramInvalid)
  else if pin = [] then (s, .paramInvalid)
  else if s.mAgent then
    ((s.agentSupplyPin address pin order).1, .none)
  else (s, .fail)

def unpair (devices : Devices) (a : ℕ) (address : Text) : PairingState :=
  if address = [] then s.reply .paramInvalid
  else
    match devices.findDevice a address with
    | none => s.reply .unknownDeviceAddr
    | some _ => { s with unpairing := a :: s.unpairing }

def unPairCallback (a : ℕ) (error : Reply) : Option PairingState :=
  if a ∈ s.unpairing then
    let s := { s with unpairing := s.unpairing.erase a }
    match error with
    | some _ => some (s.reply .fail)
    | none => some (s.reply .none)
  else none

/-- A pairing with another device than the current one is cancelled by the agent, which is a
null pointer where there is none. -/
def cancelPairing (devices : Devices) (a : ℕ) (address : Text) (order : List Text) :
    Option PairingState :=
  if address = [] then some (s.reply .paramInvalid)
  else if s.mPairing a then
    match devices.findDevice a address with
    | none => some (s.reply .unknownDeviceAddr)
    | some device =>
      if some device = s.mCurrentPairingDevice a then some (s.deviceCancelPairing device)
      else if s.mAgent then
        match s.agentCancelPairing address order with
        | (s, true) => some ((s.reply .none).setPairing a false)
        | (s, false) => some (s.reply .fail)
      else none
  else some (s.reply .notReady)

/-- BlueZ calls the agent only while there is one. -/
def step (devices : Devices) : PairingEvent → Option PairingState
  | .createAgent => some { s with mAgent := true }
  | .deleteAgent => some { s with mAgent := false, mDevicePairings := ∅, openIncoming := [] }
  | .pair a address => some (s.pair devices a address)
  | .pairFinished device error => s.pairCallback device error
  | .cancelPairing a address order => s.cancelPairing devices a address order
  | .cancelFinished device error => s.cancelPairingCallback device error
  | .unpair a address => some (s.unpair devices a address)
  | .unpairFinished a error => s.unPairCallback a error
  | .supplyPairingConfirmation a address accept order =>
    some (s.supplyPairingConfirmation devices a address accept order).1
  | .supplyPasskey _ address passkey order => some (s.supplyPasskey address passkey order).1
  | .supplyPin _ address pin order => some (s.supplyPin address pin order).1
  | .displayPasskey objectPath passkey adapter =>
    if s.mAgent then some (s.handleDisplayPasskey devices objectPath passkey adapter) else none
  | .displayPinCode objectPath pincode adapter =>
    if s.mAgent then some (s.handleDisplayPinCode devices objectPath pincode adapter) else none
  | .requestConfirmation objectPath passkey adapter =>
    if s.mAgent then some (s.handleRequestConfirmation devices objectPath passkey adapter)
    else none
  | .requestPasskey objectPath adapter =>
    if s.mAgent then some (s.handleRequestPasskey devices objectPath adapter) else none
  | .requestPinCode objectPath adapter =>
    if s.mAgent then some (s.handleRequestPinCode devices objectPath adapter) else none
  | .cancel request defaultAdapter =>
    if s.mAgent then some (s.handleCancel request defaultAdapter) else none

end PairingState

/-! ### What the operations can do -/

namespace PairingState

variable {s t : PairingState} {devices : Devices} {a : ℕ} {address : Text} {order : List Text}

theorem initiatePairing_state (s : PairingState) (devices : Devices) (i : Invocation)
    (objectPath : Text) (adapter : Option ℕ) :
    ∃ u, (u = s ∨ ∃ device, u = (s.startPairingForDevice device true).1) ∧
      ((s.initiatePairing devices i objectPath adapter).1 = u ∨
        (s.initiatePairing devices i objectPath adapter).1 = u.complete i .canceled) := by
  unfold initiatePairing
  split
  · exact ⟨s, .inl rfl, .inl rfl⟩
  · split
    · exact ⟨s, .inl rfl, .inl rfl⟩
    · split
      · exact ⟨s, .inl rfl, .inr rfl⟩
      · next device _ =>
        refine ⟨(s.startPairingForDevice device true).1, .inr ⟨device, rfl⟩, ?_⟩
        dsimp only
        split_ifs
        · split
          · exact .inl rfl
          · exact .inr rfl
        · exact .inr rfl

/-- A cancellation is refused, or goes to the device, or to the agent where the adapter is
pairing with another device. -/
theorem cancelPairing_cases (h : s.cancelPairing devices a address order = some t) :
    ((address ≠ [] → s.mPairing a = true → ∀ device, devices.findDevice a address = some device →
        some device = s.mCurrentPairingDevice a) ∧
      ((∃ error, t = s.reply error) ∨ ∃ device, t = s.deviceCancelPairing device)) ∨
    (s.mPairing a = true ∧
      (∃ device, devices.findDevice a address = some device ∧
        some device ≠ s.mCurrentPairingDevice a) ∧
      ∃ u, s.agentCancelPairing address order = (u, true) ∧
          t = (u.reply .none).setPairing a false ∨
        s.agentCancelPairing address order = (u, false) ∧ t = u.reply .fail) := by
  unfold cancelPairing at h
  by_cases haddress : address = []
  · rw [if_pos haddress] at h
    cases h
    exact .inl ⟨fun hne => absurd haddress hne, .inl ⟨_, rfl⟩⟩
  rw [if_neg haddress] at h
  by_cases hpairing : s.mPairing a = true
  swap
  · rw [if_neg hpairing] at h
    cases h
    exact .inl ⟨fun _ hbusy => absurd hbusy hpairing, .inl ⟨_, rfl⟩⟩
  rw [if_pos hpairing] at h
  cases hdevice : devices.findDevice a address with
  | none =>
      rw [hdevice] at h
      cases h
      exact .inl ⟨fun _ _ _ => nofun, .inl ⟨_, rfl⟩⟩
  | some device =>
      rw [hdevice] at h
      dsimp only at h
      split_ifs at h with hcurrent hagent
      · cases h
        exact .inl ⟨fun _ _ _ hsame => hsame ▸ hcurrent, .inr ⟨device, rfl⟩⟩
      · refine .inr ⟨hpairing, ⟨device, rfl, hcurrent⟩, ?_⟩
        split at h
        · next u heq =>
          cases h
          exact ⟨u, .inl ⟨heq, rfl⟩⟩
        · next u heq =>
          cases h
          exact ⟨u, .inr ⟨heq, rfl⟩⟩

end PairingState

def pairingMachine (devices : Devices) : Machine PairingState PairingEvent :=
  ⟨{}, fun s e => s.step devices e⟩

def phone : Device := ⟨0, "AA:00".toList, "/hci0/dev_AA".toList⟩

def onePhone : Devices where
  mDevices := fun a => if a = 0 then (∅ : KeyedMap Text Device).emplace phone.mAddress phone else ∅
  adapter_eq := by
    intro a k d h
    split_ifs at h with ha
    · rcases KeyedMap.lookup_emplace_cases h with hempty | ⟨_, rfl⟩
      · rw [AList.lookup_empty] at hempty
        cases hempty
      · exact ha.symm
    · rw [AList.lookup_empty] at h
      cases h

end BluezSil.Pairing
