import BluezSil.MarkedStream
import BluezSil.SppChannelState

/-!
# Data that comes in on serial port channels

A new connection brings a socket, which is watched by a callback that is given the record of
the channel and tells the observer what it reads. The watch goes when BlueZ requests the
disconnection. Where a channel goes in another way while it is connected, the watch is left
with a record that is gone.

A descriptor stands for the connection it has come with. The addresses and UUIDs reported and
sockets without data are left out.
-/

namespace BluezSil.Spp

open TransitionRun MarkedStream

structure Socket where
  read : List UInt8 := []
  unread : List UInt8 := []
  isOpen : Bool := true
  deriving DecidableEq, Repr

def Socket.sent (socket : Socket) : List UInt8 := socket.read ++ socket.unread

inductive SppReport
  | channelStateChanged (change : StateChange)
  | dataReceived (channelId : UInt8) (adapterAddress : Text) (data : List UInt8)
  deriving DecidableEq, Repr

/-- A change of the state of a channel begins its data anew. -/
def SppReport.entry : SppReport → Entry UInt8 UInt8
  | .channelStateChanged change => .mark change.channelId
  | .dataReceived channelId _ data => .piece channelId data

/-- The data of a channel told since its state has changed last, where `log` has the latest
report first. -/
def heard (channelId : UInt8) (log : List SppReport) : List UInt8 :=
  told channelId (log.map SppReport.entry)

/-- `mChannel` has the descriptor of a record's channel, which is the id of its watch too, and
`watches` the record that a watch is given. -/
structure SppData where
  profile : ProfileSpp := {}
  mChannel : KeyedMap ℕ ℕ := ∅
  watches : KeyedMap ℕ ℕ := ∅
  sockets : KeyedMap ℕ Socket := ∅
  nextDescriptor : ℕ := 0
  log : List SppReport := []

/-- The reads of the loop of `handleRxData`, of which each fills the buffer if it can. -/
def reads : ℕ → List UInt8 → List (List UInt8)
  | 0, _ => []
  | _ + 1, [] => []
  | fuel + 1, unread => unread.take 1024 :: reads fuel (unread.drop 1024)

namespace SppData

variable (s : SppData)

def connectChannel (record : ℕ) : SppData :=
  { s with
    mChannel := s.mChannel.insert record s.nextDescriptor
    watches := s.watches.insert s.nextDescriptor record
    sockets := s.sockets.insert s.nextDescriptor {}
    nextDescriptor := s.nextDescriptor + 1 }

/-- `g_io_channel_shutdown` on the channel of a record, which may be null. -/
def shutdown (record : ℕ) : SppData :=
  match s.mChannel.lookup record with
  | some descriptor =>
    { s with sockets := s.sockets.modify descriptor fun socket => { socket with isOpen := false } }
  | none => s

def disconnectChannel (record : ℕ) : SppData :=
  match s.mChannel.lookup record with
  | some descriptor =>
    { s.shutdown record with
      mChannel := s.mChannel.erase record
      watches := s.watches.erase descriptor }
  | none => s

/-- What an event does to the sockets, where `found` says whether its record is there. A
release closes the sockets of all records and leaves their watches. -/
def changeSockets (found : Bool) (records : List ℕ) : SppEvent → SppData
  | .newConnection record true _ _ => if found then s.connectChannel record else s
  | .requestDisconnection record _ => if found then s.disconnectChannel record else s
  | .release _ => if found then records.foldl shutdown s else s
  | _ => s

def called (e : SppEvent) : Option SppDeviceInfo :=
  match e with
  | .newConnection record _ _ _ => s.profile.find record
  | .requestDisconnection record _ => s.profile.find record
  | .release record => s.profile.find record
  | _ => none

def profileEvent (e : SppEvent) : Option SppData :=
  (s.profile.step e).map fun profile =>
    let changes := profile.notified.take (profile.notified.length - s.profile.notified.length)
    let t := { s with
      profile := profile
      log := changes.map SppReport.channelStateChanged ++ s.log }
    let records := s.profile.mConnectedDevices.values.map SppDeviceInfo.record
    t.changeSockets (s.called e).isSome records e

def send (descriptor : ℕ) (data : List UInt8) : Option SppData :=
  match s.sockets.lookup descriptor with
  | some socket =>
    if socket.isOpen then
      some { s with
        sockets := s.sockets.insert descriptor { socket with unread := socket.unread ++ data } }
    else none
  | none => none

def ioCallback (descriptor : ℕ) : Option SppData :=
  match s.watches.lookup descriptor, s.sockets.lookup descriptor with
  | some record, some socket =>
    if socket.isOpen then
      let t := { s with
        sockets := s.sockets.insert descriptor
          { socket with read := socket.sent, unread := [] } }
      match s.profile.find record with
      | some d =>
        some { t with
          log := ((reads socket.unread.length socket.unread).map
            (.dataReceived d.mChannelId d.mAdapterAddress)).reverse ++ s.log }
      | none => some { t with
          profile := { s.profile with staleReads := record :: s.profile.staleReads } }
    else none
  | _, _ => none

end SppData

inductive SppDataEvent
  | profile (e : SppEvent)
  | send (descriptor : ℕ) (data : List UInt8)
  | ioCallback (descriptor : ℕ)

def SppData.step (s : SppData) : SppDataEvent → Option SppData
  | .profile e => s.profileEvent e
  | .send descriptor data => s.send descriptor data
  | .ioCallback descriptor => s.ioCallback descriptor

def sppDataMachine : Machine SppData SppDataEvent := ⟨{}, SppData.step⟩

namespace SppData

/-- A channel that is opened takes the id of no connected record. -/
def PlaceFree (s : SppData) (order : List UInt8) : Prop :=
  (s.profile.allocateChannelId order).1 ≠ 0 →
    ∀ d, s.profile.mConnectedDevices.lookup (s.profile.allocateChannelId order).1 = some d →
      d.record ∉ s.mChannel

/-- Only a disconnection ends a connection: no connected channel is replaced, removed,
released or connected anew. -/
def Undisturbed (s : SppData) : SppDataEvent → Prop
  | .profile (.connectUuid found order _ outcome) => found = true → outcome = .exported →
    s.PlaceFree order
  | .profile (.createChannel order _ _ outcome) => outcome = .exported → s.PlaceFree order
  | .profile (.removeChannel order uuid _) => ∀ d, s.profile.getSppDevice order uuid = some d →
    d.record ∉ s.mChannel
  | .profile (.newConnection record true _ _) => (s.profile.find record).isSome = true →
    record ∉ s.mChannel
  | .profile (.release record) => (s.profile.find record).isSome = true →
    ∀ id d, s.profile.mConnectedDevices.lookup id = some d → d.record ∉ s.mChannel
  | _ => True

def HasRecord (s : SppData) (record : ℕ) : Prop :=
  ∃ id d, s.profile.mConnectedDevices.lookup id = some d ∧ d.record = record

/-- Every watch is that of a channel of a record that is there. -/
def Attached (s : SppData) : Prop :=
  ∀ descriptor record, s.watches.lookup descriptor = some record →
    s.HasRecord record ∧ s.mChannel.lookup record = some descriptor

inductive Effect (s : SppData) : SppEvent → SppData → Prop
  | quiet (e : SppEvent) (p : ProfileSpp)
      (hevent : s.Undisturbed (.profile e))
      (htable : p.mConnectedDevices = s.profile.mConnectedDevices)
      (hnext : p.nextRecord = s.profile.nextRecord) : Effect s e { s with profile := p }
  | opened (e : SppEvent) (p : ProfileSpp) (d : SppDeviceInfo)
      (hevent : s.Undisturbed (.profile e) ↔
        ∀ v, s.profile.mConnectedDevices.lookup d.mChannelId = some v → v.record ∉ s.mChannel)
      (hrecord : d.record = s.profile.nextRecord)
      (htable : p.mConnectedDevices = s.profile.mConnectedDevices.insert d.mChannelId d)
      (hnext : p.nextRecord = s.profile.nextRecord + 1) : Effect s e { s with profile := p }
  | removed (order : List UInt8) (uuid : String) (left : UInt8) (p : ProfileSpp)
      (d : SppDeviceInfo) (change : StateChange)
      (hfound : s.profile.getSppDevice order uuid = some d)
      (hchange : change.channelId = d.mChannelId)
      (htable : p.mConnectedDevices = s.profile.mConnectedDevices.erase d.mChannelId)
      (hnext : p.nextRecord = s.profile.nextRecord) :
      Effect s (.removeChannel order uuid left)
        { s with
          profile := p
          log := .channelStateChanged change :: s.log }
  | connected (record : ℕ) (adapterAddress : Text) (device : Option Text) (p : ProfileSpp)
      (d : SppDeviceInfo) (change : StateChange)
      (hfound : s.profile.find record = some d)
      (hchange : change.channelId = d.mChannelId)
      (f : SppDeviceInfo → SppDeviceInfo)
      (hkept : ∀ v, (f v).record = v.record ∧ (f v).mChannelId = v.mChannelId)
      (htable : p.mConnectedDevices = s.profile.mConnectedDevices.modify d.mChannelId f)
      (hnext : p.nextRecord = s.profile.nextRecord) :
      Effect s (.newConnection record true adapterAddress device)
        (connectChannel { s with
          profile := p
          log := .channelStateChanged change :: s.log } record)
  | disconnected (record : ℕ) (left : UInt8) (p : ProfileSpp) (d : SppDeviceInfo)
      (change : StateChange) (hfound : s.profile.find record = some d)
      (hchange : change.channelId = d.mChannelId)
      (htable : p.mConnectedDevices = s.profile.mConnectedDevices ∨
        p.mConnectedDevices = s.profile.mConnectedDevices.erase d.mChannelId)
      (hnext : p.nextRecord = s.profile.nextRecord) :
      Effect s (.requestDisconnection record left)
        (disconnectChannel { s with
          profile := p
          log := .channelStateChanged change :: s.log } record)
  | released (record : ℕ) (p : ProfileSpp) (hfound : (s.profile.find record).isSome = true)
      (htable : p.mConnectedDevices = ∅) (hnext : p.nextRecord = s.profile.nextRecord) :
      Effect s (.release record)
        ((s.profile.mConnectedDevices.values.map SppDeviceInfo.record).foldl shutdown
          { s with profile := p })

end SppData

namespace ProfileSpp

variable {s : ProfileSpp} {order : List UInt8} {role : DeviceRole} {name uuid : String}
variable {outcome : ExportOutcome} {u : ProfileSpp} {error : BluetoothError}

theorem allocated_zero_of_refused
    (h : s.openChannel order role name uuid .exported = (u, .error error)) :
    (s.allocateChannelId order).1 = 0 := by
  by_contra hid
  unfold openChannel at h
  dsimp only at h
  rw [if_neg hid] at h
  cases h

theorem openChannel_notified :
    (s.openChannel order role name uuid outcome).1.notified = s.notified := by
  rcases s.openChannel_stores order role name uuid outcome with
    ⟨u, error, hopen, -, hsame, -⟩ | ⟨-, u, hopen, -, hsame, -⟩
  · rw [hopen, hsame]
  · rw [hopen]
    exact hsame

theorem allocated_ne_zero {record : ℕ × UInt8}
    (h : s.openChannel order role name uuid outcome = (u, .ok record)) :
    (s.allocateChannelId order).1 ≠ 0 := by
  intro hid
  unfold openChannel at h
  dsimp only at h
  rw [if_pos hid] at h
  cases h

end ProfileSpp

namespace SppData

variable {s t : SppData} {e : SppEvent}

section Effects

variable {p : ProfileSpp}

theorem profileEvent_same (hp : s.profile.step e = some p)
    (h : p.notified = s.profile.notified) :
    s.profileEvent e = some (changeSockets { s with profile := p } (s.called e).isSome
      (s.profile.mConnectedDevices.values.map SppDeviceInfo.record) e) := by
  unfold profileEvent
  rw [hp, Option.map_some, h, Nat.sub_self, List.take_zero]
  rfl

theorem profileEvent_notified {change : StateChange} (hp : s.profile.step e = some p)
    (h : p.notified = change :: s.profile.notified) :
    s.profileEvent e = some (changeSockets
      { s with
        profile := p
        log := .channelStateChanged change :: s.log } (s.called e).isSome
      (s.profile.mConnectedDevices.values.map SppDeviceInfo.record) e) := by
  unfold profileEvent
  rw [hp, Option.map_some, h, List.length_cons, Nat.add_sub_cancel_left, List.take_succ_cons,
    List.take_zero]
  rfl

theorem effect_open {order : List UInt8} {role : DeviceRole} {name uuid : String}
    {outcome : ExportOutcome} (e : SppEvent)
    (hevent : s.Undisturbed (.profile e) ↔ (outcome = .exported → s.PlaceFree order))
    (q : ProfileSpp × Except BluetoothError (ℕ × UInt8) → ProfileSpp)
    (hq : ∀ o, (q o).mConnectedDevices = o.1.mConnectedDevices ∧
      (q o).nextRecord = o.1.nextRecord ∧ (q o).notified = o.1.notified) :
    Effect s e
      { s with profile := q (s.profile.openChannel order role name uuid outcome) } := by
  obtain ⟨htable, hnext, -⟩ := hq (s.profile.openChannel order role name uuid outcome)
  rcases s.profile.openChannel_stores order role name uuid outcome with
    ⟨u, error, hopen, hsame, -, hsameNext⟩ | ⟨hexported, u, hopen, hsame, -, hsameNext⟩
  · refine .quiet e _ (hevent.mpr fun hexported hid => ?_) ?_ ?_
    · subst hexported
      exact absurd (ProfileSpp.allocated_zero_of_refused hopen) hid
    · rw [htable, hopen, hsame]
    · rw [hnext, hopen, hsameNext]
  · refine .opened e _
      ⟨s.profile.nextRecord, (s.profile.allocateChannelId order).1, role, name, uuid, [], []⟩
      ?_ rfl ?_ ?_
    · rw [hevent]
      exact ⟨fun h => h hexported (ProfileSpp.allocated_ne_zero hopen), fun h _ _ => h⟩
    · rw [htable, hopen, ← hsame]
      rfl
    · rw [hnext, hopen, ← hsameNext]
      rfl

/-- A call on an interface whose record is gone, or that is not exported, changes no table. -/
theorem handle_cases {record : ℕ} {handler : SppDeviceInfo → ProfileSpp}
    (hstep : s.profile.handle record handler = some p) :
    (∃ d, s.profile.find record = some d ∧ p = handler d) ∨
      s.profile.find record = none ∧
        p = { s.profile with staleReads := record :: s.profile.staleReads } := by
  unfold ProfileSpp.handle at hstep
  split_ifs at hstep
  cases hfind : s.profile.find record with
  | none =>
      rw [hfind] at hstep
      exact .inr ⟨rfl, (Option.some.inj hstep).symm⟩
  | some d =>
      rw [hfind] at hstep
      exact .inl ⟨d, rfl, (Option.some.inj hstep).symm⟩

end Effects

/-- What is left to do for a client channel and for a server channel that have been opened, or
have not. -/
def connecting : ProfileSpp × Except BluetoothError (ℕ × UInt8) → ProfileSpp
  | (s, .error error) => s.reply error 0
  | (s, .ok channel) => { s with connecting := s.connecting ++ [channel] }

def created : ProfileSpp × Except BluetoothError (ℕ × UInt8) → ProfileSpp
  | (s, .error error) => s.reply error 0
  | (s, .ok _) => s.reply .none 0

theorem connecting_same (o : ProfileSpp × Except BluetoothError (ℕ × UInt8)) :
    (connecting o).mConnectedDevices = o.1.mConnectedDevices ∧
      (connecting o).nextRecord = o.1.nextRecord ∧ (connecting o).notified = o.1.notified := by
  obtain ⟨u, error | channel⟩ := o <;> exact ⟨rfl, rfl, rfl⟩

theorem created_same (o : ProfileSpp × Except BluetoothError (ℕ × UInt8)) :
    (created o).mConnectedDevices = o.1.mConnectedDevices ∧
      (created o).nextRecord = o.1.nextRecord ∧ (created o).notified = o.1.notified := by
  obtain ⟨u, error | channel⟩ := o <;> exact ⟨rfl, rfl, rfl⟩

theorem find_record {record : ℕ} {d : SppDeviceInfo} (hd : s.profile.find record = some d) :
    d.record = record :=
  eq_of_beq (List.find?_some (p := fun v : SppDeviceInfo => v.record == record) hd)

theorem profileEvent_effect (hstep : s.profileEvent e = some t) : Effect s e t := by
  obtain ⟨p, hp, -⟩ := Option.map_eq_some_iff.mp hstep
  cases e with
  | connectUuid found order uuid outcome =>
      cases found with
      | false =>
          have hq : p = s.profile.reply .notReady 0 := (Option.some.inj hp).symm
          subst hq
          cases (profileEvent_same hp rfl).symm.trans hstep
          exact .quiet _ _ Bool.noConfusion rfl rfl
      | true =>
          have hq : p = connecting (s.profile.openChannel order .client "SerialPort" uuid
              outcome) := (Option.some.inj hp).symm
          subst hq
          cases (profileEvent_same hp ((connecting_same _).2.2.trans
            ProfileSpp.openChannel_notified)).symm.trans hstep
          exact effect_open (.connectUuid true order uuid outcome)
            ⟨fun h => h rfl, fun h _ => h⟩ connecting connecting_same
  | connected call ok =>
      obtain ⟨c, -, rfl⟩ := Option.map_eq_some_iff.mp hp
      have hsame : (ProfileSpp.connectedCallback { s.profile with
          connecting := s.profile.connecting.eraseIdx call } c.1 c.2 ok).notified =
          s.profile.notified := by cases ok <;> rfl
      cases (profileEvent_same hp hsame).symm.trans hstep
      exact .quiet _ _ trivial (by cases ok <;> rfl) (by cases ok <;> rfl)
  | createChannel order name uuid outcome =>
      have hq : p = created (s.profile.openChannel order .server name uuid outcome) :=
        (Option.some.inj hp).symm
      subst hq
      have hsame := (created_same (s.profile.openChannel order .server name uuid outcome)).2.2
      cases (profileEvent_same hp (hsame.trans ProfileSpp.openChannel_notified)).symm.trans hstep
      exact effect_open (.createChannel order name uuid outcome) Iff.rfl created created_same
  | removeChannel order uuid left =>
      cases hfound : s.profile.getSppDevice order uuid with
      | none =>
          have hq : p = s.profile.reply .fail 0 := by
            simpa [ProfileSpp.step, ProfileSpp.removeChannel, hfound] using hp.symm
          subst hq
          cases (profileEvent_same hp rfl).symm.trans hstep
          exact .quiet _ _ (fun d hd => by rw [hfound] at hd; cases hd) rfl rfl
      | some d =>
          have hq : p = ((s.profile.notify d d.mAdapterAddress d.mDeviceAddress
              false).removeRecord d left).reply .none 0 := by
            simpa [ProfileSpp.step, ProfileSpp.removeChannel, hfound] using hp.symm
          subst hq
          cases (profileEvent_notified hp rfl).symm.trans hstep
          exact .removed order uuid left _ d _ hfound rfl rfl rfl
  | newConnection record descriptor adapter device =>
      rcases handle_cases hp with ⟨d, hd, hq⟩ | ⟨hnone, hq⟩
      · cases descriptor with
        | false =>
            subst hq
            cases (profileEvent_same hp rfl).symm.trans hstep
            exact .quiet _ _ trivial rfl rfl
        | true =>
            subst hq
            cases (profileEvent_notified hp rfl).symm.trans hstep
            have hcalled : s.called (.newConnection record true adapter device) = some d := hd
            rw [hcalled]
            exact .connected record adapter device _ d _ hd rfl
              (fun v => { v with
                mDeviceAddress := device.getD v.mDeviceAddress
                mAdapterAddress := adapter }) (fun _ => ⟨rfl, rfl⟩) rfl rfl
      · subst hq
        cases (profileEvent_same hp rfl).symm.trans hstep
        have hcalled : s.called (.newConnection record descriptor adapter device) = none := hnone
        rw [hcalled]
        cases descriptor with
        | false => exact .quiet _ _ trivial rfl rfl
        | true => exact .quiet _ _ (fun h => by rw [hnone] at h; cases h) rfl rfl
  | requestDisconnection record left =>
      rcases handle_cases hp with ⟨d, hd, hq⟩ | ⟨hnone, hq⟩
      · have hcalled : s.called (.requestDisconnection record left) = some d := hd
        have hnotified : p.notified = ⟨d.record, d.mAdapterAddress, d.mDeviceAddress, d.mUuid,
            d.mChannelId, false⟩ :: s.profile.notified := by
          rw [hq, ProfileSpp.handleRequestDisconnection]
          cases d.mDeviceRole <;> rfl
        cases (profileEvent_notified hp hnotified).symm.trans hstep
        rw [hcalled]
        refine .disconnected record left p d _ hd rfl ?_ ?_
        · rw [hq, ProfileSpp.handleRequestDisconnection]
          cases d.mDeviceRole with
          | client => exact .inr rfl
          | server => exact .inl rfl
        · rw [hq, ProfileSpp.handleRequestDisconnection]
          cases d.mDeviceRole <;> rfl
      · subst hq
        cases (profileEvent_same hp rfl).symm.trans hstep
        have hcalled : s.called (.requestDisconnection record left) = none := hnone
        rw [hcalled]
        exact .quiet _ _ trivial rfl rfl
  | release record =>
      rcases handle_cases hp with ⟨d, hd, hq⟩ | ⟨hnone, hq⟩
      · subst hq
        cases (profileEvent_same hp rfl).symm.trans hstep
        have hcalled : s.called (.release record) = some d := hd
        rw [hcalled]
        exact .released record _ (by rw [hd]; rfl) rfl rfl
      · subst hq
        cases (profileEvent_same hp rfl).symm.trans hstep
        have hcalled : s.called (.release record) = none := hnone
        rw [hcalled]
        exact .quiet _ _ (fun h => by rw [hnone] at h; cases h) rfl rfl

end SppData

namespace SppData

section Heard

variable {id : UInt8} {log : List SppReport} {change : StateChange}

theorem heard_change_self (h : change.channelId = id) :
    heard id (.channelStateChanged change :: log) = [] := by
  subst h
  exact told_mark_self

theorem heard_change_ne (h : change.channelId ≠ id) :
    heard id (.channelStateChanged change :: log) = heard id log :=
  told_mark_ne h

theorem map_entry_data (channelId : UInt8) (adapterAddress : Text) (pieces : List (List UInt8)) :
    ((pieces.map (SppReport.dataReceived channelId adapterAddress)).reverse ++ log).map
        SppReport.entry =
      (pieces.map (.piece channelId)).reverse ++ log.map SppReport.entry := by
  rw [List.map_append, List.map_reverse, List.map_map]
  rfl

theorem heard_data_self (adapterAddress : Text) (pieces : List (List UInt8)) :
    heard id ((pieces.map (.dataReceived id adapterAddress)).reverse ++ log) =
      heard id log ++ pieces.flatten := by
  rw [heard, map_entry_data, told_pieces_self]
  rfl

theorem heard_data_ne {channelId : UInt8} (h : channelId ≠ id) (adapterAddress : Text)
    (pieces : List (List UInt8)) :
    heard id ((pieces.map (.dataReceived channelId adapterAddress)).reverse ++ log) =
      heard id log := by
  rw [heard, map_entry_data, told_pieces_ne h]
  rfl

end Heard

theorem flatten_reads {fuel : ℕ} {unread : List UInt8} (h : unread.length ≤ fuel) :
    (reads fuel unread).flatten = unread := by
  induction fuel generalizing unread with
  | zero => rw [List.length_eq_zero_iff.mp (Nat.le_zero.mp h), reads, List.flatten_nil]
  | succ fuel ih =>
      cases unread with
      | nil => rfl
      | cons b unread =>
          have hrest : ((b :: unread).drop 1024).length ≤ fuel := by
            rw [List.length_drop]
            omega
          rw [reads, List.flatten_cons, ih hrest, List.take_append_drop]
          exact List.cons_ne_nil b unread

/-- The records are kept under their ids. A channel has its record, its watch and an open
socket, and what has been read from the socket is what has been heard on the channel. Nothing
has been heard on an id without a channel. -/
structure Wired (s : SppData) : Prop where
  keyed : ∀ id d, s.profile.mConnectedDevices.lookup id = some d → d.mChannelId = id
  unique : ∀ id d id' d', s.profile.mConnectedDevices.lookup id = some d →
    s.profile.mConnectedDevices.lookup id' = some d' → d.record = d'.record → id = id'
  fresh : ∀ id d, s.profile.mConnectedDevices.lookup id = some d → d.record < s.profile.nextRecord
  channel : ∀ record descriptor, s.mChannel.lookup record = some descriptor →
    s.watches.lookup descriptor = some record ∧ s.HasRecord record ∧
      ∃ socket, s.sockets.lookup descriptor = some socket ∧ socket.isOpen = true
  old : ∀ descriptor ∈ s.sockets, descriptor < s.nextDescriptor
  heard : ∀ id d descriptor socket, s.profile.mConnectedDevices.lookup id = some d →
    s.mChannel.lookup d.record = some descriptor → s.sockets.lookup descriptor = some socket →
      heard id s.log = socket.read
  silent : ∀ id, (∀ d, s.profile.mConnectedDevices.lookup id = some d → d.record ∉ s.mChannel) →
    Spp.heard id s.log = []

theorem attached_init : Attached {} := by
  intro descriptor record h
  cases h

theorem wired_init : Wired {} := by
  constructor
  · exact fun id d h => by cases h
  · exact fun id d id' d' h => by cases h
  · exact fun id d h => by cases h
  · exact fun record descriptor h => by cases h
  · exact fun descriptor h => absurd h (AList.notMem_empty descriptor)
  · exact fun id d descriptor socket h => by cases h
  · exact fun id h => rfl

variable {s t : SppData} {e : SppEvent} {p : ProfileSpp} {d : SppDeviceInfo} {record : ℕ}

theorem Wired.find (h : s.Wired) (hd : s.profile.find record = some d) :
    s.profile.mConnectedDevices.lookup d.mChannelId = some d ∧ d.record = record := by
  obtain ⟨id, hid⟩ := KeyedMap.mem_values_iff.mp (List.mem_of_find?_eq_some hd)
  rw [h.keyed id d hid]
  exact ⟨hid, find_record hd⟩

theorem find_isSome_iff : (s.profile.find record).isSome = true ↔ s.HasRecord record := by
  unfold ProfileSpp.find
  rw [List.find?_isSome]
  constructor
  · rintro ⟨d, hd, hrecord⟩
    obtain ⟨id, hid⟩ := KeyedMap.mem_values_iff.mp hd
    exact ⟨id, d, hid, eq_of_beq hrecord⟩
  · rintro ⟨id, d, hid, rfl⟩
    exact ⟨d, KeyedMap.mem_values_iff.mpr ⟨id, hid⟩, beq_self_eq_true _⟩

theorem Wired.quiet (h : s.Wired) (htable : p.mConnectedDevices = s.profile.mConnectedDevices)
    (hnext : p.nextRecord = s.profile.nextRecord) : Wired { s with profile := p } := by
  constructor
  · rw [htable]
    exact h.keyed
  · rw [htable]
    exact h.unique
  · rw [htable, hnext]
    exact h.fresh
  · unfold HasRecord
    rw [htable]
    exact h.channel
  · exact h.old
  · rw [htable]
    exact h.heard
  · rw [htable]
    exact h.silent

theorem Attached.quiet (h : s.Attached)
    (htable : p.mConnectedDevices = s.profile.mConnectedDevices) :
    Attached { s with profile := p } := by
  unfold Attached HasRecord
  rw [htable]
  exact h

section Opened

variable (hrecord : d.record = s.profile.nextRecord)
  (htable : p.mConnectedDevices = s.profile.mConnectedDevices.insert d.mChannelId d)

include hrecord htable

/-- A watch keeps its record when a channel is opened if and only if its id is not taken. -/
theorem Attached.opened_iff (h : s.Attached) (hw : s.Wired) :
    Attached { s with profile := p } ↔
      ∀ v, s.profile.mConnectedDevices.lookup d.mChannelId = some v → v.record ∉ s.mChannel := by
  constructor
  · intro hafter v hv hmem
    obtain ⟨descriptor, hdescriptor⟩ := KeyedMap.exists_lookup hmem
    obtain ⟨⟨id, w, hid, hsame⟩, -⟩ :=
      hafter descriptor v.record (hw.channel v.record descriptor hdescriptor).1
    dsimp only at hid
    rw [htable] at hid
    rcases KeyedMap.lookup_insert_cases hid with ⟨rfl, rfl⟩ | ⟨hne, hid⟩
    · have hlt := hw.fresh _ v hv
      omega
    · exact hne (hw.unique id w _ v hid hv hsame)
  · intro hfree descriptor r hwatch
    obtain ⟨⟨id, v, hid, rfl⟩, hchannel⟩ := h descriptor r hwatch
    refine ⟨⟨id, v, ?_, rfl⟩, hchannel⟩
    have hne : id ≠ d.mChannelId := by
      rintro rfl
      exact hfree v hid (KeyedMap.mem_of_lookup hchannel)
    dsimp only
    rw [htable, AList.lookup_insert_ne hne, hid]

theorem Wired.opened (hw : s.Wired) (hnext : p.nextRecord = s.profile.nextRecord + 1)
    (hfree : ∀ v, s.profile.mConnectedDevices.lookup d.mChannelId = some v →
      v.record ∉ s.mChannel) : Wired { s with profile := p } := by
  have hcases : ∀ id v, p.mConnectedDevices.lookup id = some v →
      id = d.mChannelId ∧ v = d ∨
        id ≠ d.mChannelId ∧ s.profile.mConnectedDevices.lookup id = some v := by
    rw [htable]
    exact fun id v hv => KeyedMap.lookup_insert_cases hv
  have hnew : d.record ∉ s.mChannel := by
    intro hmem
    obtain ⟨descriptor, hdescriptor⟩ := KeyedMap.exists_lookup hmem
    obtain ⟨-, ⟨id, v, hid, hsame⟩, -⟩ := hw.channel d.record descriptor hdescriptor
    have hlt := hw.fresh id v hid
    omega
  constructor
  · intro id v hv
    rcases hcases id v hv with ⟨rfl, rfl⟩ | ⟨-, hv⟩
    · rfl
    · exact hw.keyed id v hv
  · intro id v id' v' hv hv' hsame
    rcases hcases id v hv with ⟨rfl, rfl⟩ | ⟨-, hv⟩
    · rcases hcases id' v' hv' with ⟨rfl, rfl⟩ | ⟨-, hv'⟩
      · rfl
      · have hlt := hw.fresh id' v' hv'
        omega
    · rcases hcases id' v' hv' with ⟨rfl, rfl⟩ | ⟨-, hv'⟩
      · have hlt := hw.fresh id v hv
        omega
      · exact hw.unique id v id' v' hv hv' hsame
  · intro id v hv
    dsimp only
    rcases hcases id v hv with ⟨rfl, rfl⟩ | ⟨-, hv⟩
    · omega
    · have hlt := hw.fresh id v hv
      omega
  · intro r descriptor hdescriptor
    obtain ⟨hwatch, ⟨id, v, hid, rfl⟩, hsocket⟩ := hw.channel r descriptor hdescriptor
    refine ⟨hwatch, ⟨id, v, ?_, rfl⟩, hsocket⟩
    have hne : id ≠ d.mChannelId := by
      rintro rfl
      exact hfree v hid (KeyedMap.mem_of_lookup hdescriptor)
    dsimp only
    rw [htable, AList.lookup_insert_ne hne, hid]
  · exact hw.old
  · intro id v descriptor socket hv hchannel hsocket
    rcases hcases id v hv with ⟨rfl, rfl⟩ | ⟨-, hv⟩
    · exact absurd (KeyedMap.mem_of_lookup hchannel) hnew
    · exact hw.heard id v descriptor socket hv hchannel hsocket
  · intro id hsilent
    refine hw.silent id fun v hv => ?_
    by_cases hid : id = d.mChannelId
    · exact hfree v (hid ▸ hv)
    · refine hsilent v ?_
      dsimp only
      rw [htable, AList.lookup_insert_ne hid, hv]

end Opened

end SppData

namespace SppData

variable {s t : SppData} {e : SppEvent} {p : ProfileSpp} {d : SppDeviceInfo} {record : ℕ}
variable {change : StateChange}

section Removed

theorem Wired.removed (hw : s.Wired) (hd : s.profile.mConnectedDevices.lookup d.mChannelId = some d)
    (hchange : change.channelId = d.mChannelId)
    (htable : p.mConnectedDevices = s.profile.mConnectedDevices.erase d.mChannelId)
    (hnext : p.nextRecord = s.profile.nextRecord) (hfree : d.record ∉ s.mChannel) :
    Wired { s with
      profile := p
      log := .channelStateChanged change :: s.log } := by
  have hcases : ∀ id v, p.mConnectedDevices.lookup id = some v ↔
      id ≠ d.mChannelId ∧ s.profile.mConnectedDevices.lookup id = some v := by
    rw [htable]
    exact fun id v => KeyedMap.lookup_erase_eq_some
  constructor
  · exact fun id v hv => hw.keyed id v ((hcases id v).mp hv).2
  · exact fun id v id' v' hv hv' =>
      hw.unique id v id' v' ((hcases id v).mp hv).2 ((hcases id' v').mp hv').2
  · intro id v hv
    dsimp only
    rw [hnext]
    exact hw.fresh id v ((hcases id v).mp hv).2
  · intro r descriptor hdescriptor
    obtain ⟨hwatch, ⟨id, v, hid, rfl⟩, hsocket⟩ := hw.channel r descriptor hdescriptor
    refine ⟨hwatch, ⟨id, v, (hcases id v).mpr ⟨?_, hid⟩, rfl⟩, hsocket⟩
    rintro rfl
    rw [hd, Option.some.injEq] at hid
    exact hfree (hid ▸ KeyedMap.mem_of_lookup hdescriptor)
  · exact hw.old
  · intro id v descriptor socket hv hchannel hsocket
    obtain ⟨hne, hv⟩ := (hcases id v).mp hv
    rw [heard_change_ne fun h => hne (h.symm.trans hchange)]
    exact hw.heard id v descriptor socket hv hchannel hsocket
  · intro id hsilent
    by_cases hid : id = d.mChannelId
    · exact heard_change_self (hchange.trans hid.symm)
    · rw [heard_change_ne fun h => hid (h.symm.trans hchange)]
      exact hw.silent id fun v hv => hsilent v ((hcases id v).mpr ⟨hid, hv⟩)

theorem Attached.removed_iff (h : s.Attached) (hw : s.Wired)
    (hd : s.profile.mConnectedDevices.lookup d.mChannelId = some d)
    (htable : p.mConnectedDevices = s.profile.mConnectedDevices.erase d.mChannelId)
    (log : List SppReport) :
    Attached { s with
      profile := p
      log := log } ↔ d.record ∉ s.mChannel := by
  constructor
  · intro hafter hmem
    obtain ⟨descriptor, hdescriptor⟩ := KeyedMap.exists_lookup hmem
    obtain ⟨⟨id, w, hid, hsame⟩, -⟩ :=
      hafter descriptor d.record (hw.channel d.record descriptor hdescriptor).1
    dsimp only at hid
    rw [htable] at hid
    obtain ⟨hne, hid⟩ := KeyedMap.lookup_erase_some hid
    exact hne (hw.unique id w _ d hid hd hsame)
  · intro hfree descriptor r hwatch
    obtain ⟨⟨id, v, hid, rfl⟩, hchannel⟩ := h descriptor r hwatch
    refine ⟨⟨id, v, ?_, rfl⟩, hchannel⟩
    dsimp only
    rw [htable]
    refine KeyedMap.lookup_erase_eq_some.mpr ⟨?_, hid⟩
    rintro rfl
    rw [hd, Option.some.injEq] at hid
    exact hfree (hid ▸ KeyedMap.mem_of_lookup hchannel)

end Removed

section Connected

variable {f : SppDeviceInfo → SppDeviceInfo}

theorem hasRecord_modify (hkept : ∀ v, (f v).record = v.record ∧ (f v).mChannelId = v.mChannelId)
    (htable : p.mConnectedDevices = s.profile.mConnectedDevices.modify d.mChannelId f)
    (hp : t.profile = p) {r : ℕ} : t.HasRecord r ↔ s.HasRecord r := by
  unfold HasRecord
  rw [hp, htable]
  constructor
  · rintro ⟨id, v, hv, rfl⟩
    by_cases hid : id = d.mChannelId
    · subst hid
      rw [KeyedMap.lookup_modify_self, Option.map_eq_some_iff] at hv
      obtain ⟨w, hw, rfl⟩ := hv
      exact ⟨d.mChannelId, w, hw, (hkept w).1.symm⟩
    · rw [KeyedMap.lookup_modify_ne hid] at hv
      exact ⟨id, v, hv, rfl⟩
  · rintro ⟨id, v, hv, rfl⟩
    by_cases hid : id = d.mChannelId
    · subst hid
      refine ⟨d.mChannelId, f v, ?_, (hkept v).1⟩
      rw [KeyedMap.lookup_modify_self, hv, Option.map_some]
    · exact ⟨id, v, (KeyedMap.lookup_modify_ne hid).trans hv, rfl⟩

theorem Attached.connected_iff (h : s.Attached) (hw : s.Wired) (hrecord : s.HasRecord record)
    (hkept : ∀ v, (f v).record = v.record ∧ (f v).mChannelId = v.mChannelId)
    (htable : p.mConnectedDevices = s.profile.mConnectedDevices.modify d.mChannelId f)
    (log : List SppReport) :
    Attached (connectChannel { s with
      profile := p
      log := log } record) ↔ record ∉ s.mChannel := by
  have hhas : ∀ {r}, HasRecord (connectChannel { s with
      profile := p
      log := log } record) r ↔ s.HasRecord r := hasRecord_modify hkept htable rfl
  constructor
  · intro hafter hmem
    obtain ⟨descriptor, hdescriptor⟩ := KeyedMap.exists_lookup hmem
    obtain ⟨hwatch, -, socket, hsocket, -⟩ := hw.channel record descriptor hdescriptor
    have hlt := hw.old descriptor (KeyedMap.mem_of_lookup hsocket)
    obtain ⟨-, hchannel⟩ := hafter descriptor record
      ((AList.lookup_insert_ne (Nat.ne_of_lt hlt)).trans hwatch)
    have hnew : some s.nextDescriptor = some descriptor :=
      (AList.lookup_insert s.mChannel).symm.trans hchannel
    exact Nat.ne_of_lt hlt (Option.some.inj hnew).symm
  · intro hfree descriptor r hwatch
    rcases KeyedMap.lookup_insert_cases hwatch with ⟨rfl, rfl⟩ | ⟨-, hwatch⟩
    · exact ⟨hhas.mpr hrecord, AList.lookup_insert _⟩
    · obtain ⟨hthere, hchannel⟩ := h descriptor r hwatch
      refine ⟨hhas.mpr hthere, (AList.lookup_insert_ne ?_).trans hchannel⟩
      rintro rfl
      exact hfree (KeyedMap.mem_of_lookup hchannel)

theorem Wired.connected (hw : s.Wired)
    (hd : s.profile.mConnectedDevices.lookup d.mChannelId = some d)
    (hchange : change.channelId = d.mChannelId)
    (hkept : ∀ v, (f v).record = v.record ∧ (f v).mChannelId = v.mChannelId)
    (htable : p.mConnectedDevices = s.profile.mConnectedDevices.modify d.mChannelId f)
    (hnext : p.nextRecord = s.profile.nextRecord) :
    Wired (connectChannel { s with
      profile := p
      log := .channelStateChanged change :: s.log } d.record) := by
  have hhas : ∀ {r}, HasRecord (connectChannel { s with
      profile := p
      log := .channelStateChanged change :: s.log } d.record) r ↔ s.HasRecord r :=
    hasRecord_modify hkept htable rfl
  have hback : ∀ id v, p.mConnectedDevices.lookup id = some v →
      ∃ w, s.profile.mConnectedDevices.lookup id = some w ∧ w.record = v.record ∧
        w.mChannelId = v.mChannelId := by
    intro id v hv
    rw [htable] at hv
    by_cases hid : id = d.mChannelId
    · subst hid
      rw [KeyedMap.lookup_modify_self, Option.map_eq_some_iff] at hv
      obtain ⟨w, hw, rfl⟩ := hv
      exact ⟨w, hw, (hkept w).1.symm, (hkept w).2.symm⟩
    · rw [KeyedMap.lookup_modify_ne hid] at hv
      exact ⟨v, hv, rfl, rfl⟩
  constructor
  · intro id v hv
    obtain ⟨w, hw', -, hid⟩ := hback id v hv
    rw [← hid]
    exact hw.keyed id w hw'
  · intro id v id' v' hv hv' hsame
    obtain ⟨w, hlookup, hr, -⟩ := hback id v hv
    obtain ⟨w', hlookup', hr', -⟩ := hback id' v' hv'
    exact hw.unique id w id' w' hlookup hlookup' (hr.trans (hsame.trans hr'.symm))
  · intro id v hv
    obtain ⟨w, hlookup, hr, -⟩ := hback id v hv
    have hlt := hw.fresh id w hlookup
    show v.record < p.nextRecord
    omega
  · intro r descriptor hdescriptor
    rcases KeyedMap.lookup_insert_cases hdescriptor with ⟨rfl, rfl⟩ | ⟨hne, hdescriptor⟩
    · exact ⟨AList.lookup_insert _, hhas.mpr ⟨_, d, hd, rfl⟩, {}, AList.lookup_insert _, rfl⟩
    · obtain ⟨hwatch, hthere, socket, hsocket, hopen⟩ := hw.channel r descriptor hdescriptor
      have hlt := hw.old descriptor (KeyedMap.mem_of_lookup hsocket)
      exact ⟨(AList.lookup_insert_ne (Nat.ne_of_lt hlt)).trans hwatch, hhas.mpr hthere, socket,
        (AList.lookup_insert_ne (Nat.ne_of_lt hlt)).trans hsocket, hopen⟩
  · intro descriptor hmem
    show descriptor < s.nextDescriptor + 1
    rcases (AList.mem_insert _).mp hmem with rfl | hmem
    · exact Nat.lt_succ_self _
    · exact Nat.lt_succ_of_lt (hw.old descriptor hmem)
  · intro id v descriptor socket hv hchannel hsocket
    obtain ⟨w, hlookup, hr, -⟩ := hback id v hv
    by_cases hid : id = d.mChannelId
    · subst hid
      cases hd.symm.trans hlookup
      have hchannel : (s.mChannel.insert d.record s.nextDescriptor).lookup v.record =
          some descriptor := hchannel
      rw [← hr, AList.lookup_insert, Option.some.injEq] at hchannel
      subst hchannel
      have hsocket : (s.sockets.insert s.nextDescriptor {}).lookup s.nextDescriptor =
          some socket := hsocket
      rw [AList.lookup_insert, Option.some.injEq] at hsocket
      subst hsocket
      exact heard_change_self hchange
    · have hne : v.record ≠ d.record :=
        fun h => hid (hw.unique id w _ d hlookup hd (hr.trans h))
      have hold : s.mChannel.lookup w.record = some descriptor := by
        rw [hr]
        exact (AList.lookup_insert_ne hne).symm.trans hchannel
      obtain ⟨-, -, socket', hsocket', -⟩ := hw.channel w.record descriptor hold
      have hlt := hw.old descriptor (KeyedMap.mem_of_lookup hsocket')
      have hsame : s.sockets.lookup descriptor = some socket :=
        (AList.lookup_insert_ne (Nat.ne_of_lt hlt)).symm.trans hsocket
      have hlog := hw.heard id w descriptor socket hlookup hold hsame
      rw [← hlog]
      exact heard_change_ne fun h => hid (h.symm.trans hchange)
  · intro id hsilent
    by_cases hid : id = d.mChannelId
    · exact heard_change_self (hchange.trans hid.symm)
    · have hlog := hw.silent id fun v hv hmem => ?_
      · rw [← hlog]
        exact heard_change_ne fun h => hid (h.symm.trans hchange)
      · refine hsilent v ?_ ((AList.mem_insert _).mpr (.inr hmem))
        show p.mConnectedDevices.lookup id = some v
        rw [htable, KeyedMap.lookup_modify_ne hid, hv]

end Connected

section Disconnected

/-- The watch of a record goes with its channel, and only the socket of this channel changes. -/
theorem disconnectChannel_spec
    (h : ∀ descriptor r, s.watches.lookup descriptor = some r ↔
      s.mChannel.lookup r = some descriptor) :
    (s.disconnectChannel record).profile = s.profile ∧
    (s.disconnectChannel record).log = s.log ∧
    (s.disconnectChannel record).nextDescriptor = s.nextDescriptor ∧
    (∀ r descriptor, (s.disconnectChannel record).mChannel.lookup r = some descriptor ↔
      r ≠ record ∧ s.mChannel.lookup r = some descriptor) ∧
    (∀ descriptor r, (s.disconnectChannel record).watches.lookup descriptor = some r ↔
      r ≠ record ∧ s.watches.lookup descriptor = some r) ∧
    (∀ descriptor, descriptor ∈ (s.disconnectChannel record).sockets ↔ descriptor ∈ s.sockets) ∧
    ∀ descriptor, s.mChannel.lookup record ≠ some descriptor →
      (s.disconnectChannel record).sockets.lookup descriptor = s.sockets.lookup descriptor := by
  unfold disconnectChannel shutdown
  cases hrecord : s.mChannel.lookup record with
  | none =>
      have hne : ∀ r descriptor, s.mChannel.lookup r = some descriptor → r ≠ record := by
        rintro r descriptor hr rfl
        rw [hrecord] at hr
        cases hr
      refine ⟨rfl, rfl, rfl, fun r descriptor => ?_, fun descriptor r => ?_, fun _ => Iff.rfl,
        fun _ _ => rfl⟩
      · exact ⟨fun hr => ⟨hne r descriptor hr, hr⟩, And.right⟩
      · exact ⟨fun hr => ⟨hne r descriptor ((h descriptor r).mp hr), hr⟩, And.right⟩
  | some own =>
      refine ⟨rfl, rfl, rfl, fun r descriptor => KeyedMap.lookup_erase_eq_some,
        fun descriptor r => ?_, fun descriptor => KeyedMap.mem_modify, fun descriptor hother =>
          KeyedMap.lookup_modify_ne fun he => hother (congrArg some he.symm)⟩
      rw [KeyedMap.lookup_erase_eq_some]
      apply and_congr_left
      intro hr
      apply not_congr
      constructor
      · rintro rfl
        have hown := (h descriptor r).mp hr
        have hwatch := (h descriptor record).mpr hrecord
        exact Option.some.inj (hr.symm.trans hwatch)
      · rintro rfl
        exact Option.some.inj (((h descriptor r).mp hr).symm.trans hrecord)

theorem Wired.watch_iff (hw : s.Wired) (h : s.Attached) (descriptor r : ℕ) :
    s.watches.lookup descriptor = some r ↔ s.mChannel.lookup r = some descriptor :=
  ⟨fun hr => (h descriptor r hr).2, fun hr => (hw.channel r descriptor hr).1⟩

variable (htable : p.mConnectedDevices = s.profile.mConnectedDevices ∨
    p.mConnectedDevices = s.profile.mConnectedDevices.erase d.mChannelId)

include htable

theorem lookup_of_disconnected {id : UInt8} {v : SppDeviceInfo}
    (hv : p.mConnectedDevices.lookup id = some v) :
    s.profile.mConnectedDevices.lookup id = some v := by
  rcases htable with hsame | herase
  · exact hsame ▸ hv
  · rw [herase] at hv
    exact (KeyedMap.lookup_erase_some hv).2

theorem lookup_disconnected
    (hd : s.profile.mConnectedDevices.lookup d.mChannelId = some d) {id : UInt8}
    {v : SppDeviceInfo} (hv : s.profile.mConnectedDevices.lookup id = some v)
    (hne : v.record ≠ d.record) : p.mConnectedDevices.lookup id = some v := by
  rcases htable with hsame | herase
  · exact hsame ▸ hv
  · rw [herase]
    refine KeyedMap.lookup_erase_eq_some.mpr ⟨?_, hv⟩
    rintro rfl
    rw [hd, Option.some.injEq] at hv
    exact hne (congrArg SppDeviceInfo.record hv.symm)

theorem Wired.disconnected (hw : s.Wired) (h : s.Attached)
    (hd : s.profile.mConnectedDevices.lookup d.mChannelId = some d)
    (hchange : change.channelId = d.mChannelId)
    (hnext : p.nextRecord = s.profile.nextRecord) :
    Attached (disconnectChannel { s with
      profile := p
      log := .channelStateChanged change :: s.log } d.record) ∧
    Wired (disconnectChannel { s with
      profile := p
      log := .channelStateChanged change :: s.log } d.record) := by
  obtain ⟨hprofile, hlog, hnextDescriptor, hchannels, hwatches, hkeys, hsockets⟩ :=
    @disconnectChannel_spec { s with
      profile := p
      log := .channelStateChanged change :: s.log } d.record (hw.watch_iff h)
  have hthere : ∀ r, r ≠ d.record → s.HasRecord r →
      HasRecord (disconnectChannel { s with
        profile := p
        log := .channelStateChanged change :: s.log } d.record) r := by
    rintro r hne ⟨id, v, hv, rfl⟩
    unfold HasRecord
    rw [hprofile]
    exact ⟨id, v, lookup_disconnected htable hd hv hne, rfl⟩
  constructor
  · intro descriptor r hr
    obtain ⟨hne, hr⟩ := (hwatches descriptor r).mp hr
    obtain ⟨hhas, hchannel⟩ := h descriptor r hr
    exact ⟨hthere r hne hhas, (hchannels r descriptor).mpr ⟨hne, hchannel⟩⟩
  · constructor
    · rw [hprofile]
      exact fun id v hv => hw.keyed id v (lookup_of_disconnected htable hv)
    · rw [hprofile]
      exact fun id v id' v' hv hv' => hw.unique id v id' v' (lookup_of_disconnected htable hv)
        (lookup_of_disconnected htable hv')
    · rw [hprofile]
      intro id v hv
      dsimp only
      rw [hnext]
      exact hw.fresh id v (lookup_of_disconnected htable hv)
    · intro r descriptor hr
      obtain ⟨hne, hr⟩ := (hchannels r descriptor).mp hr
      obtain ⟨hwatch, hhas, socket, hsocket, hopen⟩ := hw.channel r descriptor hr
      have hother : s.mChannel.lookup d.record ≠ some descriptor := by
        intro hown
        have hwatch' := (hw.channel d.record descriptor hown).1
        exact hne (Option.some.inj (hwatch.symm.trans hwatch'))
      exact ⟨(hwatches descriptor r).mpr ⟨hne, hwatch⟩, hthere r hne hhas, socket,
        (hsockets descriptor hother).trans hsocket, hopen⟩
    · intro descriptor hmem
      rw [hnextDescriptor]
      exact hw.old descriptor ((hkeys descriptor).mp hmem)
    · intro id v descriptor socket hv hchannel hsocket
      rw [hprofile] at hv
      have hv := lookup_of_disconnected htable hv
      obtain ⟨hne, hchannel⟩ := (hchannels v.record descriptor).mp hchannel
      have hother : s.mChannel.lookup d.record ≠ some descriptor := by
        intro hown
        have hwatch := (hw.channel v.record descriptor hchannel).1
        have hwatch' := (hw.channel d.record descriptor hown).1
        exact hne (Option.some.inj (hwatch.symm.trans hwatch'))
      have hid : change.channelId ≠ id := by
        rintro rfl
        rw [hchange, hd, Option.some.injEq] at hv
        exact hne (congrArg SppDeviceInfo.record hv.symm)
      rw [hlog, heard_change_ne hid]
      exact hw.heard id v descriptor socket hv hchannel
        ((hsockets descriptor hother).symm.trans hsocket)
    · intro id hsilent
      rw [hprofile] at hsilent
      rw [hlog]
      by_cases hid : id = d.mChannelId
      · exact heard_change_self (hchange.trans hid.symm)
      · rw [heard_change_ne fun he => hid (he.symm.trans hchange)]
        refine hw.silent id fun v hv hmem => ?_
        have hne : v.record ≠ d.record := fun he => hid (hw.unique id v _ d hv hd he)
        obtain ⟨descriptor, hdescriptor⟩ := KeyedMap.exists_lookup hmem
        exact hsilent v (lookup_disconnected htable hd hv hne)
          (KeyedMap.mem_of_lookup ((hchannels v.record descriptor).mpr ⟨hne, hdescriptor⟩))

end Disconnected

section Released

theorem foldl_shutdown (records : List ℕ) (s : SppData) :
    (records.foldl shutdown s).profile = s.profile ∧
    (records.foldl shutdown s).mChannel = s.mChannel ∧
    (records.foldl shutdown s).watches = s.watches ∧
    (records.foldl shutdown s).nextDescriptor = s.nextDescriptor ∧
    (records.foldl shutdown s).log = s.log ∧
    ∀ descriptor, descriptor ∈ (records.foldl shutdown s).sockets ↔ descriptor ∈ s.sockets := by
  induction records generalizing s with
  | nil => exact ⟨rfl, rfl, rfl, rfl, rfl, fun _ => Iff.rfl⟩
  | cons r records ih =>
      obtain ⟨hprofile, hchannel, hwatches, hnext, hlog, hsockets⟩ := ih (s.shutdown r)
      rw [List.foldl_cons, hprofile, hchannel, hwatches, hnext, hlog]
      simp only [hsockets]
      unfold shutdown
      cases s.mChannel.lookup r with
      | none => exact ⟨rfl, rfl, rfl, rfl, rfl, fun _ => Iff.rfl⟩
      | some own => exact ⟨rfl, rfl, rfl, rfl, rfl, fun _ => KeyedMap.mem_modify⟩

variable (records : List ℕ) (htable : p.mConnectedDevices = ∅)

include htable

theorem Attached.released_iff (h : s.Attached) (hw : s.Wired) :
    Attached (records.foldl shutdown { s with profile := p }) ↔
      ∀ id v, s.profile.mConnectedDevices.lookup id = some v → v.record ∉ s.mChannel := by
  obtain ⟨hprofile, -, hwatches, -⟩ := foldl_shutdown records { s with profile := p }
  constructor
  · intro hafter id v hv hmem
    obtain ⟨descriptor, hdescriptor⟩ := KeyedMap.exists_lookup hmem
    have hwatch := (hw.channel v.record descriptor hdescriptor).1
    rw [← show _ = s.watches from hwatches] at hwatch
    obtain ⟨⟨other, w, hother, -⟩, -⟩ := hafter descriptor v.record hwatch
    rw [hprofile] at hother
    dsimp only at hother
    rw [htable] at hother
    cases hother
  · intro hfree descriptor r hwatch
    rw [hwatches] at hwatch
    obtain ⟨⟨id, v, hv, rfl⟩, hchannel⟩ := h descriptor r hwatch
    exact absurd (KeyedMap.mem_of_lookup hchannel) (hfree id v hv)

theorem Wired.released (hw : s.Wired)
    (hfree : ∀ id v, s.profile.mConnectedDevices.lookup id = some v → v.record ∉ s.mChannel) :
    Wired (records.foldl shutdown { s with profile := p }) := by
  obtain ⟨hprofile, hchannel, hwatches, hnext, hlog, hsockets⟩ :=
    foldl_shutdown records { s with profile := p }
  have hempty : ∀ id v, (records.foldl shutdown
      { s with profile := p }).profile.mConnectedDevices.lookup id ≠ some v := by
    intro id v hv
    rw [hprofile] at hv
    dsimp only at hv
    rw [htable] at hv
    cases hv
  constructor
  · exact fun id v hv => absurd hv (hempty id v)
  · exact fun id v id' v' hv => absurd hv (hempty id v)
  · exact fun id v hv => absurd hv (hempty id v)
  · intro r descriptor hr
    rw [hchannel] at hr
    obtain ⟨-, ⟨id, v, hv, rfl⟩, -⟩ := hw.channel r descriptor hr
    exact absurd (KeyedMap.mem_of_lookup hr) (hfree id v hv)
  · intro descriptor hmem
    rw [hnext]
    exact hw.old descriptor ((hsockets descriptor).mp hmem)
  · exact fun id v descriptor socket hv => absurd hv (hempty id v)
  · intro id _
    rw [hlog]
    exact hw.silent id (hfree id)

end Released

/-- An event of the profile keeps the watches attached if and only if it disturbs no connection. -/
theorem Effect.attached_iff (h : Effect s e t) (hs : s.Attached) (hw : s.Wired) :
    (t.Attached ↔ s.Undisturbed (.profile e)) ∧ (t.Attached → t.Wired) := by
  cases h with
  | quiet _ p hevent htable hnext =>
      exact ⟨iff_of_true (hs.quiet htable) hevent, fun _ => hw.quiet htable hnext⟩
  | opened _ p d hevent hrecord htable hnext =>
      have hiff := hs.opened_iff hrecord htable hw
      rw [hevent]
      exact ⟨hiff, fun hafter => hw.opened hrecord htable hnext (hiff.mp hafter)⟩
  | removed order uuid left p d change hfound hchange htable hnext =>
      obtain ⟨id, hid⟩ := ProfileSpp.lookup_of_getSppDevice hfound
      obtain rfl := hw.keyed id d hid
      have hiff := hs.removed_iff hw hid htable (.channelStateChanged change :: s.log)
      refine ⟨hiff.trans ?_, fun hafter =>
        hw.removed hid hchange htable hnext (hiff.mp hafter)⟩
      constructor
      · intro hfree v hv
        rw [hfound, Option.some.injEq] at hv
        exact hv ▸ hfree
      · exact fun hevent => hevent d hfound
  | connected record adapterAddress device p d change hfound hchange f hkept htable hnext =>
      obtain ⟨hid, rfl⟩ := hw.find hfound
      have hthere : s.HasRecord d.record := ⟨d.mChannelId, d, hid, rfl⟩
      have hiff := hs.connected_iff hw hthere hkept htable (.channelStateChanged change :: s.log)
      refine ⟨hiff.trans ?_, fun _ => hw.connected hid hchange hkept htable hnext⟩
      exact ⟨fun hfree _ => hfree, fun hevent => hevent (find_isSome_iff.mpr hthere)⟩
  | disconnected record left p d change hfound hchange htable hnext =>
      obtain ⟨hid, rfl⟩ := hw.find hfound
      obtain ⟨hafter, hwired⟩ := hw.disconnected htable hs hid hchange hnext
      exact ⟨iff_of_true hafter trivial, fun _ => hwired⟩
  | released record p hfound htable hnext =>
      have hiff := hs.released_iff (s.profile.mConnectedDevices.values.map SppDeviceInfo.record)
        htable hw
      refine ⟨hiff.trans ?_, fun hafter => hw.released _ htable (hiff.mp hafter)⟩
      exact ⟨fun hfree _ => hfree, fun hevent => hevent hfound⟩

section Sockets

variable {descriptor : ℕ} {data : List UInt8}

theorem Wired.send (hw : s.Wired) (hstep : s.send descriptor data = some t) :
    t.watches = s.watches ∧ t.mChannel = s.mChannel ∧ t.profile = s.profile ∧ t.log = s.log ∧
      t.Wired := by
  unfold SppData.send at hstep
  cases hsocket : s.sockets.lookup descriptor with
  | none =>
      rw [hsocket] at hstep
      cases hstep
  | some socket =>
      rw [hsocket] at hstep
      obtain ⟨hopen, hstep⟩ := Option.ite_none_right_eq_some.mp hstep
      cases hstep
      have hkept : ∀ other v, s.sockets.lookup other = some v →
          ∃ w, (s.sockets.insert descriptor
            { socket with unread := socket.unread ++ data }).lookup other = some w ∧
              w.read = v.read ∧ w.isOpen = v.isOpen := by
        intro other v hv
        by_cases hother : other = descriptor
        · subst hother
          rw [hsocket, Option.some.injEq] at hv
          subst hv
          exact ⟨_, AList.lookup_insert _, rfl, rfl⟩
        · exact ⟨v, (AList.lookup_insert_ne hother).trans hv, rfl, rfl⟩
      refine ⟨rfl, rfl, rfl, rfl, ?_⟩
      constructor
      · exact hw.keyed
      · exact hw.unique
      · exact hw.fresh
      · intro r other hr
        obtain ⟨hwatch, hthere, v, hv, hvopen⟩ := hw.channel r other hr
        obtain ⟨w, hlookup, -, hsame⟩ := hkept other v hv
        exact ⟨hwatch, hthere, w, hlookup, hsame.trans hvopen⟩
      · intro other hmem
        rcases (AList.mem_insert _).mp hmem with rfl | hmem
        · exact hw.old other (KeyedMap.mem_of_lookup hsocket)
        · exact hw.old other hmem
      · intro id v other w hv hchannel hlookup
        obtain ⟨-, -, old, hold, -⟩ := hw.channel v.record other hchannel
        obtain ⟨w', hlookup', hread, -⟩ := hkept other old hold
        cases hlookup.symm.trans hlookup'
        exact (hw.heard id v other old hv hchannel hold).trans hread.symm
      · exact hw.silent

/-- The callback of a watch tells all there is to read on the channel of its record. -/
theorem Wired.ioCallback (hw : s.Wired) (h : s.Attached)
    (hstep : s.ioCallback descriptor = some t) :
    ∃ d socket, s.profile.mConnectedDevices.lookup d.mChannelId = some d ∧
      s.mChannel.lookup d.record = some descriptor ∧
      s.sockets.lookup descriptor = some socket ∧
      t = { s with
        sockets := s.sockets.insert descriptor
          { socket with
            read := socket.sent
            unread := [] }
        log := ((reads socket.unread.length socket.unread).map
          (.dataReceived d.mChannelId d.mAdapterAddress)).reverse ++ s.log } := by
  unfold SppData.ioCallback at hstep
  cases hwatch : s.watches.lookup descriptor with
  | none => simp [hwatch] at hstep
  | some record =>
      cases hsocket : s.sockets.lookup descriptor with
      | none => simp [hwatch, hsocket] at hstep
      | some socket =>
          simp only [hwatch, hsocket] at hstep
          obtain ⟨-, hstep⟩ := Option.ite_none_right_eq_some.mp hstep
          obtain ⟨hthere, hchannel⟩ := h descriptor record hwatch
          obtain ⟨d, hd⟩ := Option.isSome_iff_exists.mp (find_isSome_iff.mpr hthere)
          obtain ⟨hid, rfl⟩ := hw.find hd
          rw [hd] at hstep
          cases hstep
          exact ⟨d, socket, hid, hchannel, rfl, rfl⟩

theorem Wired.heard_ioCallback (hw : s.Wired) {socket : Socket}
    (hd : s.profile.mConnectedDevices.lookup d.mChannelId = some d)
    (hchannel : s.mChannel.lookup d.record = some descriptor)
    (hsocket : s.sockets.lookup descriptor = some socket) :
    Spp.heard d.mChannelId (((reads socket.unread.length socket.unread).map
      (.dataReceived d.mChannelId d.mAdapterAddress)).reverse ++ s.log) = socket.sent := by
  rw [heard_data_self, flatten_reads (le_refl _), hw.heard _ d descriptor socket hd hchannel
    hsocket, Socket.sent]

theorem Wired.read (hw : s.Wired) {socket : Socket}
    (hd : s.profile.mConnectedDevices.lookup d.mChannelId = some d)
    (hchannel : s.mChannel.lookup d.record = some descriptor)
    (hsocket : s.sockets.lookup descriptor = some socket) :
    Wired { s with
      sockets := s.sockets.insert descriptor
        { socket with
          read := socket.sent
          unread := [] }
      log := ((reads socket.unread.length socket.unread).map
        (.dataReceived d.mChannelId d.mAdapterAddress)).reverse ++ s.log } := by
  constructor
  · exact hw.keyed
  · exact hw.unique
  · exact hw.fresh
  · intro r other hr
    obtain ⟨hwatch, hthere, v, hv, hopen⟩ := hw.channel r other hr
    refine ⟨hwatch, hthere, ?_⟩
    by_cases hother : other = descriptor
    · subst hother
      rw [hsocket, Option.some.injEq] at hv
      exact ⟨_, AList.lookup_insert _, hv ▸ hopen⟩
    · exact ⟨v, (AList.lookup_insert_ne hother).trans hv, hopen⟩
  · intro other hmem
    rcases (AList.mem_insert _).mp hmem with rfl | hmem
    · exact hw.old other (KeyedMap.mem_of_lookup hsocket)
    · exact hw.old other hmem
  · intro id v other w hv hother hlookup
    by_cases hid : id = d.mChannelId
    · subst hid
      cases hd.symm.trans hv
      cases hchannel.symm.trans hother
      cases (AList.lookup_insert _).symm.trans hlookup
      exact hw.heard_ioCallback hd hchannel hsocket
    · have hne : other ≠ descriptor := by
        rintro rfl
        have hwatch := (hw.channel v.record other hother).1
        have hown := (hw.channel d.record other hchannel).1
        exact hid (hw.unique id v _ d hv hd (Option.some.inj (hwatch.symm.trans hown)))
      rw [heard_data_ne (Ne.symm hid)]
      exact hw.heard id v other w hv hother ((AList.lookup_insert_ne hne).symm.trans hlookup)
  · intro id hsilent
    have hid : d.mChannelId ≠ id := by
      rintro rfl
      exact hsilent d hd (KeyedMap.mem_of_lookup hchannel)
    rw [heard_data_ne hid]
    exact hw.silent id hsilent

end Sockets

theorem step_attached_iff {e : SppDataEvent} (hs : s.Attached) (hw : s.Wired)
    (hstep : s.step e = some t) : (t.Attached ↔ s.Undisturbed e) ∧ (t.Attached → t.Wired) := by
  cases e with
  | profile e => exact (profileEvent_effect hstep).attached_iff hs hw
  | send descriptor data =>
      obtain ⟨hwatches, hchannel, hprofile, -, hwired⟩ := hw.send hstep
      refine ⟨iff_of_true ?_ trivial, fun _ => hwired⟩
      unfold Attached HasRecord
      rw [hwatches, hchannel, hprofile]
      exact hs
  | ioCallback descriptor =>
      obtain ⟨d, socket, hd, hchannel, hsocket, rfl⟩ := hw.ioCallback hs hstep
      exact ⟨iff_of_true hs trivial, fun _ => hw.read hd hchannel hsocket⟩

end SppData

/-- A server channel is connected, and the peer sends data that is read in part. -/
theorem reach_connected : ∃ s, sppDataMachine.ReachWith SppData.Undisturbed s ∧
    s.watches.lookup 0 = some 0 ∧ s.profile.mConnectedDevices.lookup 22 =
      some ⟨0, 22, .server, "chat", "1101", ['2'], ['0']⟩ ∧ s.mChannel.lookup 0 = some 0 ∧
    s.sockets.lookup 0 = some ⟨[1, 2, 3], [4], true⟩ ∧
    s.profile.getSppDevice [] "1101" =
      some ⟨0, 22, .server, "chat", "1101", ['2'], ['0']⟩ ∧
    (s.step (.profile (.removeChannel [] "1101" 0))).isSome = true ∧
    (s.step (.ioCallback 0)).isSome = true := by
  have hcreated := Machine.ReachWith.step (M := sppDataMachine) (G := SppData.Undisturbed)
    (e := .profile (.createChannel [] "chat" "1101" .exported)) .init
    (fun _ _ _ h => by cases h) rfl
  have hconnected := Machine.ReachWith.step (M := sppDataMachine)
    (e := .profile (.newConnection 0 true ['2'] (some ['0']))) hcreated
    (fun _ => AList.notMem_empty _) rfl
  have hsent := Machine.ReachWith.step (M := sppDataMachine) (e := .send 0 [1, 2, 3]) hconnected
    trivial rfl
  have hread := Machine.ReachWith.step (M := sppDataMachine) (e := .ioCallback 0) hsent trivial rfl
  exact ⟨_, .step (e := .send 0 [4]) hread trivial rfl, rfl, rfl, rfl, rfl, rfl, rfl, rfl⟩

/-- In a run that disturbs no connection every watch has the record it was given and is the
watch of its channel, and a step from there breaks this if and only if it disturbs one. -/
theorem watches_attached_iff {s : SppData}
    (hs : sppDataMachine.ReachWith SppData.Undisturbed s) :
    s.Attached ∧ ∀ e t, s.step e = some t → (t.Attached ↔ s.Undisturbed e) :=
  hs.invariant_iff_of (Q := SppData.Wired) SppData.attached_init SppData.wired_init
    fun _ _ _ hattached hwired hstep => SppData.step_attached_iff hattached hwired hstep

/-- The watch of a connected channel is left if the channel is removed. -/
theorem watches_attached_iff_removed : ∃ s, sppDataMachine.ReachWith SppData.Undisturbed s ∧
    s.Attached ∧ ∃ t, s.step (.profile (.removeChannel [] "1101" 0)) = some t ∧ ¬ t.Attached := by
  obtain ⟨s, hs, -, hd, hchannel, -, hfound, hremoved, -⟩ := reach_connected
  obtain ⟨t, ht⟩ := Option.isSome_iff_exists.mp hremoved
  obtain ⟨hattached, hiff⟩ := watches_attached_iff hs
  refine ⟨s, hs, hattached, t, ht, fun hafter => ?_⟩
  exact (hiff _ t ht).mp hafter _ hfound (KeyedMap.mem_of_lookup hchannel)

theorem reach_wired {s : SppData} (hs : sppDataMachine.ReachWith SppData.Undisturbed s) :
    s.Attached ∧ s.Wired := by
  refine hs.invariant (P := fun s => s.Attached ∧ s.Wired)
    ⟨SppData.attached_init, SppData.wired_init⟩ ?_
  rintro s e t ⟨hattached, hwired⟩ he hstep
  obtain ⟨hiff, hkept⟩ := SppData.step_attached_iff hattached hwired hstep
  exact ⟨hiff.mpr he, hkept (hiff.mpr he)⟩

/-- In a run that disturbs no connection, what has been heard on a connected channel since the
connection was told, with what is left to read, is what the peer of this connection has sent;
nothing is heard on a channel that is not connected; and after the callback of the watch all
that has been sent has been heard. -/
theorem data_heard {s : SppData} (hs : sppDataMachine.ReachWith SppData.Undisturbed s) :
    (∀ id d descriptor socket, s.profile.mConnectedDevices.lookup id = some d →
      s.mChannel.lookup d.record = some descriptor → s.sockets.lookup descriptor = some socket →
        heard id s.log ++ socket.unread = socket.sent) ∧
    (∀ id, (∀ d, s.profile.mConnectedDevices.lookup id = some d → d.record ∉ s.mChannel) →
      heard id s.log = []) ∧
    ∀ descriptor t, s.step (.ioCallback descriptor) = some t →
      ∃ id d socket, s.profile.mConnectedDevices.lookup id = some d ∧
        s.mChannel.lookup d.record = some descriptor ∧
        s.sockets.lookup descriptor = some socket ∧ heard id t.log = socket.sent := by
  obtain ⟨hattached, hwired⟩ := reach_wired hs
  refine ⟨fun id d descriptor socket hd hchannel hsocket => ?_, hwired.silent,
    fun descriptor t hstep => ?_⟩
  · rw [hwired.heard id d descriptor socket hd hchannel hsocket, Socket.sent]
  · obtain ⟨d, socket, hd, hchannel, hsocket, rfl⟩ := hwired.ioCallback hattached hstep
    exact ⟨d.mChannelId, d, socket, hd, hchannel, hsocket,
      hwired.heard_ioCallback hd hchannel hsocket⟩

/-- Of four bytes that have been sent three have been heard, until the last one is read too. -/
theorem data_heard_chat : ∃ s t : SppData, ∃ id, heard 22 s.log = [1, 2, 3] ∧
    s.step (.ioCallback 0) = some t ∧ heard id t.log = [1, 2, 3, 4] := by
  obtain ⟨s, hs, -, hd, hchannel, hsocket, -, -, hreadable⟩ := reach_connected
  obtain ⟨t, ht⟩ := Option.isSome_iff_exists.mp hreadable
  obtain ⟨hheard, -, hread⟩ := data_heard hs
  obtain ⟨id, d, socket, -, -, hlookup, hall⟩ := hread 0 t ht
  cases hsocket.symm.trans hlookup
  exact ⟨s, t, id, (List.append_left_inj [4]).mp (hheard 22 _ 0 _ hd hchannel hsocket), ht, hall⟩

end BluezSil.Spp
