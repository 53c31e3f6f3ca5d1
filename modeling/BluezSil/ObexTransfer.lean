import BluezSil.OwnedObjects
import BluezSil.SilApi

/-!
# OBEX transfers and what their watchers report

A transfer takes over the properties its daemon object reports and then calls its watcher,
a function of the profile that has started it. The watchers of the four profiles report
different things and have their own conditions for the end of a transfer. The watcher of a
phone book reports to the observer and remembers the state it has reported last.
-/

namespace BluezSil.Obex

inductive TransferState
  | inactive
  | queued
  | active
  | suspended
  | complete
  | error
  deriving DecidableEq, Repr

inductive TransferType
  | sending
  | receiving
  deriving DecidableEq, Repr

inductive TransferProperty
  | transferred (value : UInt64)
  | size (value : UInt64)
  | status (value : String)
  | name (value : String)
  | filename (value : String)
  | messageHandle (value : String)
  | other (key : String)
  deriving DecidableEq, Repr

/-- The function of a profile that is bound as the watcher of a transfer. -/
inductive Watcher
  | baseActive
  | ftpActive
  | mapActive
  | mapPush
  | pbapActive
  | pbapMonitor
  deriving DecidableEq, Repr

/-- Transfers are kept under an id or under their object path. -/
inductive TransferKey
  | id (id : UInt64)
  | path (objectPath : Text)
  deriving DecidableEq, Repr

/-- `key` is what is bound to the watcher besides the transfer. -/
structure ObexTransfer where
  mObjectPath : Text
  mTransferType : TransferType
  watcher : Watcher
  key : TransferKey
  mTransferProxy : Bool := true
  mPropertiesProxy : Bool := true
  mBytesTransferred : UInt64 := 0
  mFileSize : UInt64 := 0
  mState : TransferState := .inactive
  mFileName : String := ""
  mFilePath : String := ""
  mMessageHandle : String := ""
  deriving DecidableEq, Repr

/-- What a watcher tells the callback of the transfer, or the observer. -/
inductive TransferReport
  | transferResult (error : BluetoothError) (bytesTransferred totalSize : UInt64)
      (finished : Bool)
  | ftpResult (error : BluetoothError) (bytesTransferred : UInt64) (finished : Bool)
  | result (error : BluetoothError)
  | pushResult (error : BluetoothError) (messageHandle : String)
  | transferStatusChanged (filePath : String) (state : String)
  deriving DecidableEq, Repr

def TransferReport.terminal : TransferReport → Bool
  | .transferResult error _ _ finished => finished || error ≠ .none
  | .ftpResult error _ finished => finished || error ≠ .none
  | .result _ => true
  | .pushResult _ _ => true
  | .transferStatusChanged _ state => state == "completed" || state == "error"

def TransferState.final : TransferState → Bool
  | .complete => true
  | .error => true
  | _ => false

namespace ObexTransfer

variable (t : ObexTransfer)

def setStatus (state : String) : ObexTransfer :=
  if state = "queued" then { t with mState := .queued }
  else if state = "active" then { t with mState := .active }
  else if state = "suspended" then { t with mState := .suspended }
  else if state = "complete" then { t with mState := .complete }
  else if state = "error" then { t with mState := .error }
  else t

/-- A small file may be complete without a change of the bytes transferred. -/
def completeSize : ObexTransfer :=
  if t.mState = .complete ∧ t.mTransferType = .sending ∧ t.mBytesTransferred ≠ t.mFileSize then
    { t with mBytesTransferred := t.mFileSize }
  else t

/-- The transfer and whether the property is one the watcher is told of. -/
def parsePropertyFromVariant : TransferProperty → ObexTransfer × Bool
  | .transferred value => (completeSize { t with mBytesTransferred := value }, true)
  | .size value => (completeSize { t with mFileSize := value }, false)
  | .status value => ((t.setStatus value).completeSize, true)
  | .name value => (completeSize { t with mFileName := value }, false)
  | .filename value => (completeSize { t with mFilePath := value }, false)
  | .messageHandle value => (completeSize { t with mMessageHandle := value }, false)
  | .other _ => (t.completeSize, false)

def updateFromProperties (properties : List TransferProperty) : ObexTransfer × Bool :=
  properties.foldl
    (fun r property =>
      let o := r.1.parsePropertyFromVariant property
      (o.1, r.2 || o.2))
    (t, false)

/-- `mObjectPath.find(session->getObjectPath()) == 0`. -/
def isPartOfSession (sessionPath : Text) : Bool := sessionPath.isPrefixOf t.mObjectPath

end ObexTransfer

/-! ### The watchers -/

/-- What a watcher reports, in order, whether it removes the transfer, and the states it
remembers. `erasesEnd` is set where it erases the end of its map. -/
structure Watched where
  reports : List TransferReport := []
  cleanup : Bool := false
  states : KeyedMap Text String
  erasesEnd : Bool := false

def ObexProfileBase.updateActiveTransfer (t : ObexTransfer) (states : KeyedMap Text String) :
    Watched :=
  match t.mState with
  | .active =>
    { reports := [.transferResult .none t.mBytesTransferred t.mFileSize false], states }
  | .complete =>
    if t.mBytesTransferred ≠ 0 then
      { reports := [.transferResult .none t.mBytesTransferred t.mFileSize true]
        cleanup := true
        states }
    else { states }
  | .error =>
    { reports := [.transferResult .fail t.mBytesTransferred t.mFileSize false]
      cleanup := true
      states }
  | _ => { states }

def ProfileFtp.updateActiveTransfer (t : ObexTransfer) (states : KeyedMap Text String) :
    Watched :=
  match t.mState with
  | .active => { reports := [.ftpResult .none t.mBytesTransferred false], states }
  | .complete =>
    { reports := [.ftpResult .none t.mBytesTransferred true], cleanup := true, states }
  | .error =>
    { reports := [.ftpResult .fail t.mBytesTransferred false], cleanup := true, states }
  | _ => { states }

/-- The watchers that report nothing but the end. -/
def reportEnd (result : BluetoothError → TransferReport) (t : ObexTransfer)
    (states : KeyedMap Text String) : Watched :=
  match t.mState with
  | .complete => { reports := [result .none], cleanup := true, states }
  | .error => { reports := [result .fail], cleanup := true, states }
  | _ => { states }

def ProfileMap.updateActiveTransfer : ObexTransfer → KeyedMap Text String → Watched :=
  reportEnd .result

def ProfileMap.updatePushTransfer (t : ObexTransfer) : KeyedMap Text String → Watched :=
  reportEnd (.pushResult · t.mMessageHandle) t

def ProfilePbap.updateActiveTransfer : ObexTransfer → KeyedMap Text String → Watched :=
  reportEnd .result

def stateString : TransferState → String
  | .inactive => "idle"
  | .queued => "idle"
  | .active => "active"
  | .suspended => "active"
  | .complete => "completed"
  | .error => "error"

/-- The entry that is erased at the end is the one found before, which may be none. -/
def ProfilePbap.monitorTransfer (t : ObexTransfer) (states : KeyedMap Text String) : Watched :=
  let state := stateString t.mState
  let changed (s : String) := TransferReport.transferStatusChanged t.mFilePath s
  match states.lookup t.mObjectPath with
  | some reported =>
    let reports :=
      if state ≠ reported then
        (if t.mState = .complete ∧ reported = stateString .queued then
          [changed (stateString .active)] else []) ++ [changed state]
      else []
    let states := states.insert t.mObjectPath state
    if t.mState.final then
      { reports, cleanup := true, states := states.erase t.mObjectPath }
    else { reports, states }
  | none =>
    { reports := [changed state]
      cleanup := t.mState.final
      states := states.insert t.mObjectPath state
      erasesEnd := t.mState.final }

def ObexTransfer.mWatchCallback (t : ObexTransfer) : KeyedMap Text String → Watched :=
  match t.watcher with
  | .baseActive => ObexProfileBase.updateActiveTransfer t
  | .ftpActive => ProfileFtp.updateActiveTransfer t
  | .mapActive => ProfileMap.updateActiveTransfer t
  | .mapPush => ProfileMap.updatePushTransfer t
  | .pbapActive => ProfilePbap.updateActiveTransfer t
  | .pbapMonitor => ProfilePbap.monitorTransfer t

end BluezSil.Obex
