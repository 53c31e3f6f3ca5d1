import BluezSil.ObexTransfer
import BluezSil.TransitionRun

/-!
# Sessions and transfers of an OBEX profile

The four profiles share one life of a transfer: it is started, its properties change, it may
be cancelled, its session may go away, and the profile may be destroyed. They differ in who
keeps the transfers. The base profile and FTP delete the transfers of a session they remove.
MAP and PBAP have a table of their own, which no session removal looks at. Only PBAP deletes
transfers as it is destroyed.

Object push and file transfer keep transfers under an id, the others under the object path.
-/

namespace BluezSil.Obex

open TransitionRun

/-- Which profile it is: the base with object push, FTP, MAP or PBAP. -/
inductive ProfileKind
  | opp
  | ftp
  | map
  | pbap
  deriving DecidableEq, Repr

/-- A session and the key its status callback is bound to. -/
structure ObexSession where
  address : Text
  mObjectPath : Text
  deriving DecidableEq, Repr

/-- The transfers of a profile. `fetching` lists those whose properties have been asked for,
`cancelling` the cancellations under way. `misuses` lists the uses of an object that has been
deleted and the erasures of the end of a map. -/
structure Transfers where
  objects : OwnedObjects TransferKey ObexTransfer := {}
  mTransferStateMap : KeyedMap Text String := ∅
  fetching : List ℕ := []
  cancelling : List (ℕ × TransferKey) := []
  reports : List (ℕ × TransferReport) := []
  misuses : List ℕ := []

namespace Transfers

variable (s : Transfers)

def misuse (p : ℕ) : Transfers := { s with misuses := p :: s.misuses }

/-- `startTransfer`: the transfer asks for its properties if it has a proxy for them. -/
def startTransfer (t : ObexTransfer) : Transfers :=
  { s with
    objects := s.objects.make t.key t
    fetching :=
      if t.mTransferProxy && t.mPropertiesProxy then s.objects.next :: s.fetching
      else s.fetching }

/-- What a watcher does but for the removal of the transfer. -/
def record (p : ℕ) (w : Watched) : Transfers :=
  { s with
    mTransferStateMap := w.states
    reports := (w.reports.map fun r => (p, r)).reverse ++ s.reports
    misuses := if w.erasesEnd then p :: s.misuses else s.misuses }

def removeTransferBy (destroy : Transfers → ℕ → Transfers) (key : TransferKey) : Transfers :=
  match s.objects.table.lookup key with
  | none => s
  | some q => destroy { s with objects := s.objects.eraseKey key } q

/-- Calls the watcher of `t`, which may remove the transfer kept under the key. -/
def notifyBy (destroy : Transfers → ℕ → Transfers) (p : ℕ) (t : ObexTransfer) : Transfers :=
  let w := t.mWatchCallback s.mTransferStateMap
  let s := s.record p w
  if w.cleanup then s.removeTransferBy destroy t.key else s

/-- `delete transfer`: the destructor calls the watcher of a transfer that has not ended.
The watcher may delete what it finds, each time with one entry less in the table. -/
def destroyFuel : ℕ → Transfers → ℕ → Transfers
  | 0, s, p => s.misuse p
  | fuel + 1, s, p =>
    match s.objects.live.lookup p with
    | none => s.misuse p
    | some t =>
      let s :=
        if t.mState.final then s
        else
          notifyBy
            { s with objects := s.objects.modify p fun t => { t with mState := .error } }
            (destroyFuel fuel) p { t with mState := .error }
      { s with objects := s.objects.delete p }

def destroy (p : ℕ) : Transfers := destroyFuel (s.objects.table.entries.length + 1) s p

def removeTransfer (key : TransferKey) : Transfers := s.removeTransferBy destroy key

def notifyWatcher (p : ℕ) (t : ObexTransfer) : Transfers := s.notifyBy destroy p t

def update (p : ℕ) (t : ObexTransfer) (properties : List TransferProperty) : Transfers :=
  let o := t.updateFromProperties properties
  let s := { s with objects := s.objects.modify p fun _ => o.1 }
  if o.2 then s.notifyWatcher p o.1 else s

/-- The keys of the transfers that are part of a session, in the order of the table. -/
def keysOfSession (sessionPath : Text) : List TransferKey :=
  (s.objects.table.entries.filter fun e =>
    (s.objects.live.lookup e.2).any (·.isPartOfSession sessionPath)).map Sigma.fst

def removeTransfersOf (sessionPath : Text) : Transfers :=
  (s.keysOfSession sessionPath).foldl removeTransfer s

/-- `clearTransferMap` deletes each transfer while it is still in the table. -/
def clearTransferMap : Transfers :=
  s.objects.table.entries.foldl
    (fun s e =>
      let s := s.destroy e.2
      { s with objects := s.objects.eraseKey e.1 })
    s

end Transfers

structure ObexProfile where
  sessions : OwnedObjects Text ObexSession := {}
  transfers : Transfers := {}
  destroyed : Bool := false

def ProfileKind.findsTransfers : ProfileKind → Bool
  | .opp => true
  | .ftp => true
  | .map => false
  | .pbap => false

/-- The watchers of the profile, and what it keeps their transfers under. -/
def ProfileKind.starts (objectPath : Text) : ProfileKind → Watcher → TransferKey → Bool
  | .opp, .baseActive, .id _ => true
  | .ftp, .ftpActive, .id _ => true
  | .map, .mapActive, .path p => p == objectPath
  | .map, .mapPush, .path p => p == objectPath
  | .pbap, .pbapActive, .path p => p == objectPath
  | .pbap, .pbapMonitor, .path p => p == objectPath
  | _, _, _ => false

namespace ObexProfile

variable (kind : ProfileKind) (s : ObexProfile)

/-- A session is stored under the address unless there is one. -/
def storeSession (session : ObexSession) : ObexProfile :=
  { s with sessions := s.sessions.make session.address session }

def removeSession (address : Text) : ObexProfile :=
  match s.sessions.find address with
  | none => s
  | some session =>
    { s with
      sessions := s.sessions.remove address
      transfers :=
        if kind.findsTransfers then s.transfers.removeTransfersOf session.mObjectPath
        else s.transfers }

/-- `removeFromSessionList`, which looks at no transfers. -/
def removeFromSessionList (address : Text) : ObexProfile :=
  { s with sessions := s.sessions.remove address }

def disconnect (address : Text) : ObexProfile :=
  match kind with
  | .map => s.removeFromSessionList address
  | _ => s.removeSession kind address

def destroy : ObexProfile :=
  { s with
    destroyed := true
    transfers :=
      match kind with
      | .pbap => { s.transfers with mTransferStateMap := ∅ }.clearTransferMap
      | _ => s.transfers }

/-- New properties of a live transfer, whose watcher needs the profile. -/
def update (p : ℕ) (t : ObexTransfer) (properties : List TransferProperty) : ObexProfile :=
  { s with
    transfers :=
      if s.destroyed && (t.updateFromProperties properties).2 then s.transfers.misuse p
      else s.transfers.update p t properties }

end ObexProfile

/-! ### Runs -/

/-- A cancellation is answered in its place in the list of those under way. -/
inductive ObexEvent
  | sessionCreated (address objectPath : Text)
  | pushReceived (deviceAddress sessionPath : Text)
  | disconnect (address : Text)
  | sessionLost (session : ℕ)
  | started (watcher : Watcher) (key : TransferKey) (objectPath : Text) (type : TransferType)
      (transferProxy propertiesProxy : Bool)
  | propertiesChanged (transfer : ℕ) (properties : List TransferProperty)
  | fetched (transfer : ℕ) (properties : Option (List TransferProperty))
  | cancelTransfer (key : TransferKey)
  | cancelled (call : ℕ) (ok : Bool)
  | destroyed
  deriving DecidableEq, Repr

namespace ObexProfile

variable (kind : ProfileKind) (s : ObexProfile)

/-- The signals of a transfer come through a proxy that is kept while its properties are
being fetched, even if the transfer is gone. -/
def propertiesChanged (p : ℕ) (properties : List TransferProperty) : Option ObexProfile :=
  match s.transfers.objects.live.lookup p with
  | some t =>
    if t.mTransferProxy && t.mPropertiesProxy then some (s.update p t properties) else none
  | none =>
    if p ∈ s.transfers.fetching then some { s with transfers := s.transfers.misuse p }
    else none

def fetched (p : ℕ) (properties : Option (List TransferProperty)) : Option ObexProfile :=
  if p ∈ s.transfers.fetching then
    let s := { s with
      transfers := { s.transfers with fetching := s.transfers.fetching.erase p } }
    match s.transfers.objects.live.lookup p with
    | some t => some (properties.elim s (s.update p t))
    | none => some { s with transfers := s.transfers.misuse p }
  else none

def cancelTransfer (key : TransferKey) : ObexProfile :=
  match s.transfers.objects.table.lookup key, s.transfers.objects.find key with
  | some p, some t =>
    if t.mTransferProxy then
      { s with
        transfers := { s.transfers with cancelling := s.transfers.cancelling ++ [(p, key)] } }
    else s
  | _, _ => s

/-- The reply is read by the transfer, and the profile then removes what it finds. -/
def cancelled (call : ℕ) (ok : Bool) : Option ObexProfile :=
  match s.transfers.cancelling[call]? with
  | none => none
  | some (p, key) =>
    let transfers := { s.transfers with cancelling := s.transfers.cancelling.eraseIdx call }
    let transfers :=
      if p ∈ transfers.objects.live ∧ s.destroyed = false then transfers
      else transfers.misuse p
    some
      { s with
        transfers := if ok && !s.destroyed then transfers.removeTransfer key else transfers }

/-- A profile that is destroyed is still reached by what its transfers are sent. -/
def step : ObexEvent → Option ObexProfile
  | .sessionCreated address objectPath =>
    if s.destroyed then none else some (s.storeSession ⟨address, objectPath⟩)
  | .pushReceived deviceAddress sessionPath =>
    if s.destroyed ∨ kind ≠ .opp then none
    else some (s.storeSession ⟨deviceAddress, sessionPath⟩)
  | .disconnect address => if s.destroyed then none else some (s.disconnect kind address)
  | .sessionLost session =>
    if s.destroyed then none
    else (s.sessions.live.lookup session).map fun lost => s.removeSession kind lost.address
  | .started watcher key objectPath type transferProxy propertiesProxy =>
    if s.destroyed ∨ kind.starts objectPath watcher key = false then none
    else
      some
        { s with
          transfers := s.transfers.startTransfer
            { mObjectPath := objectPath
              mTransferType := type
              watcher := watcher
              key := key
              mTransferProxy := transferProxy
              mPropertiesProxy := propertiesProxy } }
  | .propertiesChanged transfer properties => s.propertiesChanged transfer properties
  | .fetched transfer properties => s.fetched transfer properties
  | .cancelTransfer key =>
    if s.destroyed ∨ kind.findsTransfers = false then none else some (s.cancelTransfer key)
  | .cancelled call ok => s.cancelled call ok
  | .destroyed => if s.destroyed then none else some (s.destroy kind)

end ObexProfile

def obexMachine (kind : ProfileKind) : Machine ObexProfile ObexEvent :=
  ⟨{}, ObexProfile.step kind⟩

end BluezSil.Obex
