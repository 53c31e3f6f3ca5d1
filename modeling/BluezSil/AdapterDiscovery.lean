import BluezSil.KeyedMap
import BluezSil.LeFilterMatch

/-!
# Discovery on the adapter

Legacy scans and filtered LE scans share one discovery at BlueZ and one filter that
BlueZ applies to it. What BlueZ was told is remembered in `mUseBluezFilter`,
`mSILDiscovery` and `mLegacyScan`. Every operation makes its D-Bus calls in a fixed
order and may stop at each of them, so it takes the outcomes of the calls it could
make and returns the adapter as it leaves it.
-/

namespace BluezSil.Adapter

/-- The discovery timer of the main loop: the source the adapter remembers, zero if
none, and the sources that are live. -/
structure DiscoveryTimer where
  mDiscoveryTimeout : UInt32 := 0
  mDiscoveryTimeoutSource : ℕ := 0
  nextSource : ℕ := 1
  sources : List ℕ := []
  deriving DecidableEq

structure Bluez where
  discovering : Bool := false
  uuids : List Text := []
  deriving DecidableEq

/-- Which of the D-Bus calls an operation may make would succeed. `clear` and `set` are
SetDiscoveryFilter with no UUIDs and with UUIDs, `resume` and `start` the two
StartDiscovery calls. -/
structure Calls where
  stop : Bool := true
  clear : Bool := true
  set : Bool := true
  resume : Bool := true
  start : Bool := true
  deriving DecidableEq

/-- The callbacks of `cancelDiscovery`: one of a caller, or the empty one of the timer. -/
inductive CancelCallback
  | caller (id : ℕ)
  | timeout
  deriving DecidableEq

structure Bluez5Adapter where
  mDiscovering : Bool := false
  mSILDiscovery : Bool := false
  mUseBluezFilter : Bool := false
  mLegacyScan : Bool := false
  mLeScanFilters : KeyedMap UInt32 BluetoothLeDiscoveryFilter := ∅
  mLeScanFilterTypes : KeyedMap UInt32 UInt8 := ∅
  nextScanId : UInt32 := 1
  mCancelDiscCallback : Option CancelCallback := none
  timer : DiscoveryTimer := {}
  bluez : Bluez := {}

def DiscoveryTimer.reset (t : DiscoveryTimer) : DiscoveryTimer :=
  if t.mDiscoveryTimeoutSource ≠ 0 then
    { t with
      mDiscoveryTimeoutSource := 0
      sources := t.sources.erase t.mDiscoveryTimeoutSource }
  else t

def DiscoveryTimer.start (t : DiscoveryTimer) : DiscoveryTimer :=
  let t := t.reset
  if t.mDiscoveryTimeout > 0 then
    { t with
      mDiscoveryTimeoutSource := t.nextSource
      nextSource := t.nextSource + 1
      sources := t.nextSource :: t.sources }
  else t

namespace Bluez5Adapter

variable (s : Bluez5Adapter)

def resetDiscoveryTimeout : Bluez5Adapter := { s with timer := s.timer.reset }

def startDiscoveryTimeout : Bluez5Adapter := { s with timer := s.timer.start }

def stopLeDiscovery (stop : Bool) : Bluez5Adapter × Bool :=
  let s := s.resetDiscoveryTimeout
  if stop then ({ s with bluez := { s.bluez with discovering := false } }, true)
  else (s, false)

def resumeLeDiscovery (resume : Bool) : Bluez5Adapter × Bool :=
  if resume then
    let s := { s with bluez := { s.bluez with discovering := true } }
    (s.startDiscoveryTimeout, true)
  else (s, false)

/-- The UUIDs of the new filter and of all filters there are. -/
def setBluezFilter (filter : BluetoothLeDiscoveryFilter) (set : Bool) : Bluez5Adapter × Bool :=
  if set then
    let srvcUuidStr := fun f : BluetoothLeDiscoveryFilter => convertToLowerCase f.serviceUuid.uuid
    let uuids := srvcUuidStr filter :: s.mLeScanFilters.values.map srvcUuidStr
    ({ s with bluez := { s.bluez with uuids := uuids } }, true)
  else (s, false)

def clearPreviousFilter (clear : Bool) : Bluez5Adapter × Bool :=
  if clear then ({ s with bluez := { s.bluez with uuids := [] } }, true)
  else (s, false)

def bluezFilterUsageCriteria (mFilterType : UInt8) : Bool :=
  let tmpFilterType := s.mLeScanFilterTypes.values.foldl (· ||| ·) 0
  tmpFilterType ||| mFilterType == filterServiceUuid

def prepareFilterForDiscovery (calls : Calls) : Bluez5Adapter × BluetoothError :=
  let (s, stopped) := s.stopLeDiscovery calls.stop
  if ¬ stopped then (s, .fail)
  else
    let (s, cleared) := s.clearPreviousFilter calls.clear
    if ¬ cleared then (s, .fail)
    else if ¬ s.mUseBluezFilter then
      let (s, resumed) := s.resumeLeDiscovery calls.resume
      if ¬ resumed then (s, .fail) else (s, .none)
    else (s, .none)

/-- What stands under the label SUCCESS of `addLeDiscoveryFilter`. -/
def insertFilter (filter : BluetoothLeDiscoveryFilter) (mFilterType : UInt8) :
    Bluez5Adapter × Int32 :=
  let scanId := s.nextScanId
  ({ s with
    nextScanId := s.nextScanId + 1
    mLeScanFilters := s.mLeScanFilters.emplace scanId filter
    mLeScanFilterTypes := s.mLeScanFilterTypes.emplace scanId mFilterType }, scanId.toInt32)

def addPrepared (err : BluetoothError) (filter : BluetoothLeDiscoveryFilter)
    (mFilterType : UInt8) (calls : Calls) : Bluez5Adapter × Int32 :=
  if err = .none then
    if ¬ s.mUseBluezFilter then s.insertFilter filter mFilterType
    else
      let (s, isSet) := s.setBluezFilter filter calls.set
      if ¬ isSet then (s, -1)
      else if s.mSILDiscovery then
        let (s, resumed) := s.resumeLeDiscovery calls.resume
        if ¬ resumed then (s, -1)
        else { s with mSILDiscovery := true }.insertFilter filter mFilterType
      else { s with mSILDiscovery := true }.insertFilter filter mFilterType
  else (s, -1)

def addLeDiscoveryFilter (api : FilterApi) (filter : BluetoothLeDiscoveryFilter)
    (calls : Calls) : Bluez5Adapter × Int32 :=
  match api.isFilterValid filter with
  | none => (s, -1)
  | some (filter, mFilterType) =>
    if s.mLegacyScan then s.insertFilter filter mFilterType
    else
      let s := { s with mUseBluezFilter := s.bluezFilterUsageCriteria mFilterType }
      let (s, err) :=
        if s.mSILDiscovery then s.prepareFilterForDiscovery calls else (s, .none)
      s.addPrepared err filter mFilterType calls

def removeLeDiscoveryFilter (scanId : UInt32) : Bluez5Adapter × BluetoothError :=
  if scanId ∈ s.mLeScanFilters then
    ({ s with
      mLeScanFilters := s.mLeScanFilters.erase scanId
      mLeScanFilterTypes := s.mLeScanFilterTypes.erase scanId }, .none)
  else (s, .fail)

def callStartDiscovery (start : Bool) : Bluez5Adapter × BluetoothError :=
  if start then
    let s := { s with bluez := { s.bluez with discovering := true } }
    (s.startDiscoveryTimeout, .none)
  else (s, .fail)

def startDiscovery (calls : Calls) : Bluez5Adapter × BluetoothError :=
  let s := { s with mLegacyScan := true }
  let (s, err) :=
    if s.mUseBluezFilter then
      { s with mUseBluezFilter := false }.prepareFilterForDiscovery calls
    else (s, .none)
  if err = .fail then (s, .fail)
  else if s.mDiscovering then (s, .none)
  else s.callStartDiscovery calls.start

def startLeDiscovery (calls : Calls) : Bluez5Adapter × BluetoothError :=
  if s.mDiscovering then (s, .none) else s.callStartDiscovery calls.start

def callStopDiscovery (calls : Calls) : Bluez5Adapter × BluetoothError :=
  let s := { s with mSILDiscovery := false }.resetDiscoveryTimeout
  if ¬ calls.stop then (s, .fail)
  else
    let s := { s with bluez := { s.bluez with discovering := false } }
    if s.mUseBluezFilter then
      let (s, cleared) := s.clearPreviousFilter calls.clear
      if ¬ cleared then (s, .fail) else ({ s with mUseBluezFilter := false }, .none)
    else (s, .none)

/-- The second component is what the callback is told before the operation returns. -/
def cancelDiscovery (callback : CancelCallback) (calls : Calls) :
    Bluez5Adapter × Option BluetoothError :=
  if ¬ s.mDiscovering then (s, some .none)
  else
    let s := { s with mLegacyScan := false }
    if s.mLeScanFilters.keys.length = 0 then
      let (s, err) := s.callStopDiscovery calls
      if err = .none then ({ s with mCancelDiscCallback := some callback }, none)
      else (s, some err)
    else (s, some .none)

def cancelLeDiscovery (calls : Calls) : Bluez5Adapter × BluetoothError :=
  if ¬ s.mDiscovering then (s, .none)
  else if s.mLeScanFilters.keys.length = 0 ∧ s.mLegacyScan = false then
    s.callStopDiscovery calls
  else (s, .none)

/-- BlueZ reports its property Discovering. The second component is the callback that is
told about success. -/
def discoveringChanged (discovering : Bool) : Bluez5Adapter × Option CancelCallback :=
  let s := { s with bluez := { s.bluez with discovering := discovering } }
  if discovering ≠ s.mDiscovering then
    ({ s with mDiscovering := discovering }, s.mCancelDiscCallback)
  else (s, none)

def handleDiscoveryTimeout (source : ℕ) (calls : Calls) : Bluez5Adapter :=
  let s := (s.cancelDiscovery .timeout calls).1
  { s with timer := { s.timer with sources := s.timer.sources.erase source } }

end Bluez5Adapter

end BluezSil.Adapter
