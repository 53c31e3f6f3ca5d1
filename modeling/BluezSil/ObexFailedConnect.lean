import BluezSil.ObexProfile
import BluezSil.ReportLog

/-!
# Connects of an OBEX profile that fail

A connect fails if there is no OBEX client, or later if the daemon refuses the session. Both
are handled by a disconnect whose answer is turned into a failure, and a disconnect removes
the session that is stored for the address.
-/

namespace BluezSil.Obex

open ReportLog

/-- The code that creates the sessions: that of the base, or the copy in FTP. -/
inductive SessionCode
  | base
  | ftp
  deriving DecidableEq, Repr

def SessionCode.kind : SessionCode → ProfileKind
  | base => .opp
  | ftp => .ftp

/-- A profile with what it has told of its connections, latest first. Only FTP looks whether
there is an observer. -/
structure NotifyingProfile where
  profile : ObexProfile := {}
  observer : Bool := true
  log : List ConnectedReport := []

/-- How far a connect has come as a call returns. -/
inductive Progress
  | answered (s : NotifyingProfile) (answers : List BluetoothError)
  | awaitsDevice
  | awaitsDaemon

namespace NotifyingProfile

variable (code : SessionCode) (s : NotifyingProfile) (address : Text)

def notifySessionStatus (createdOrRemoved : Bool) : NotifyingProfile :=
  match code with
  | .base => { s with log := ⟨convertAddressToLowerCase address, createdOrRemoved⟩ :: s.log }
  | .ftp => if s.observer then { s with log := ⟨address, createdOrRemoved⟩ :: s.log } else s

def removeSession : NotifyingProfile :=
  match s.profile.sessions.find address with
  | none => s
  | some _ =>
    notifySessionStatus code { s with profile := s.profile.removeSession code.kind address }
      address false

/-- `callback` is what the caller is answered for the answer of the disconnect. -/
def disconnect (callback : BluetoothError → BluetoothError) :
    NotifyingProfile × List BluetoothError :=
  (s.removeSession code address, [callback .none])

def handleFailedToCreateSession : NotifyingProfile × List BluetoothError :=
  s.disconnect code address fun _ => .fail

/-- `client` tells whether there is an OBEX client. -/
def createSession (client : Bool) : Progress :=
  if client then .awaitsDaemon
  else
    let o := s.handleFailedToCreateSession code address
    .answered o.1 o.2

def sessionCreated : Option Text → NotifyingProfile × List BluetoothError
  | none => s.handleFailedToCreateSession code address
  | some objectPath =>
    (notifySessionStatus code { s with profile := s.profile.storeSession ⟨address, objectPath⟩ }
      address true, [.none])

/-- FTP connects the device first, if it is found. -/
def connect (found client : Bool) : Progress :=
  match code with
  | .base => s.createSession .base address client
  | .ftp => if found then .awaitsDevice else .answered s [.paramInvalid]

def deviceConnected (error : BluetoothError) (client : Bool) : Progress :=
  if error ≠ .none then .answered s [error] else s.createSession .ftp address client

def lastStatus (a : Text) : Option Bool :=
  (last ConnectedReport.address s.log a).map ConnectedReport.connected

/-- A connect fails because there is no client or the daemon refuses the session. -/
inductive ConnectFails : SessionCode → NotifyingProfile → List BluetoothError → Prop
  | base {found : Bool} {t : NotifyingProfile} {answers : List BluetoothError}
      (h : s.connect .base address found false = .answered t answers) :
      ConnectFails .base t answers
  | ftp {t : NotifyingProfile} {answers : List BluetoothError}
      (h : s.deviceConnected address .none false = .answered t answers) :
      ConnectFails .ftp t answers
  | refused {code : SessionCode} {t : NotifyingProfile} {answers : List BluetoothError}
      (h : s.sessionCreated code address none = (t, answers)) : ConnectFails code t answers

structure SameLinks (s t : NotifyingProfile) : Prop where
  sessions : t.profile.sessions = s.profile.sessions
  transfers : t.profile.transfers = s.profile.transfers
  status : ∀ a, t.lastStatus a = s.lastStatus a

variable {code s address} {t : NotifyingProfile} {answers : List BluetoothError}

theorem ConnectFails.handled (h : s.ConnectFails address code t answers) :
    t = s.removeSession code address ∧ answers = [.fail] := by
  cases h with
  | base h =>
      cases h
      exact ⟨rfl, rfl⟩
  | ftp h =>
      cases h
      exact ⟨rfl, rfl⟩
  | refused h =>
      cases h
      exact ⟨rfl, rfl⟩

theorem removeSession_of_none (h : s.profile.sessions.find address = none) :
    s.removeSession code address = s := by
  unfold removeSession
  rw [h]

theorem removeSession_table (code : SessionCode) {session : ObexSession}
    (h : s.profile.sessions.find address = some session) :
    (s.removeSession code address).profile.sessions.table.lookup address = none := by
  have hnotified : ∀ (s : NotifyingProfile),
      (s.notifySessionStatus code address false).profile = s.profile := by
    intro s
    unfold notifySessionStatus
    cases code with
    | base => rfl
    | ftp => split_ifs <;> rfl
  obtain ⟨p, hp, _⟩ := Option.bind_eq_some_iff.mp h
  unfold removeSession ObexProfile.removeSession
  rw [h]
  dsimp only
  rw [hnotified, OwnedObjects.remove_of_lookup hp]
  exact AList.lookup_erase _ _

/-- A connect that fails is answered with one failure, and leaves the sessions, the transfers and
what was last told alone if and only if no session is stored for the address. -/
theorem failed_connect_iff (h : s.ConnectFails address code t answers) :
    answers = [.fail] ∧ (s.SameLinks t ↔ s.profile.sessions.find address = none) := by
  obtain ⟨rfl, hanswers⟩ := h.handled
  refine ⟨hanswers, ?_, ?_⟩
  · intro hsame
    cases hfind : s.profile.sessions.find address with
    | none => rfl
    | some session =>
        have hgone := removeSession_table code hfind
        rw [hsame.sessions] at hgone
        rw [OwnedObjects.find, hgone] at hfind
        cases hfind
  · intro hnone
    rw [removeSession_of_none hnone]
    exact ⟨rfl, rfl, fun _ => rfl⟩

def sending : NotifyingProfile :=
  let s := (({} : NotifyingProfile).sessionCreated .base ['a'] (some "/session0".toList)).1
  { s with
    profile :=
      { s.profile with
        transfers := s.profile.transfers.startTransfer
          { mObjectPath := "/session0/transfer0".toList
            mTransferType := .sending
            watcher := .baseActive
            key := .id 1 } } }

/-- A connect to another address is refused. -/
theorem failed_connect_other :
    let t := (sending.sessionCreated .base ['b'] none).1
    sending.SameLinks t ∧ (t.profile.sessions.find ['a']).isSome = true ∧
      (t.profile.transfers.objects.find (.id 1)).isSome = true ∧
      t.lastStatus ['a'] = some true := by
  have hfails : ConnectFails sending ['b'] .base (sending.sessionCreated .base ['b'] none).1
      [.fail] := .refused rfl
  exact ⟨(failed_connect_iff hfails).2.mpr rfl, rfl, rfl, rfl⟩

/-- A second connect is refused, and the session of the first is gone. -/
theorem failed_connect_second :
    ¬ ∀ (code : SessionCode) (address : Text) (s t : NotifyingProfile)
      (answers : List BluetoothError), s.ConnectFails address code t answers → s.SameLinks t := by
  intro h
  have hconnected := h .base ['a']
    (({} : NotifyingProfile).sessionCreated .base ['a'] (some "/session0".toList)).1 _ _
    (.refused rfl)
  exact absurd (hconnected.status ['a']) (by decide)

end NotifyingProfile

end BluezSil.Obex
