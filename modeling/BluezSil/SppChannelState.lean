import BluezSil.SppChannels

/-!
# What the channel state says and what has been notified

`getChannelState` reads the address a record keeps. A record keeps the address of its last
connection as BlueZ spells it, also once a server channel has been disconnected. The answer
agrees with the last notifications as long as connected addresses are in lower case and a
record never outlives its connection.
-/

namespace BluezSil.Spp

open TransitionRun

namespace ProfileSpp

def lastChange (s : ProfileSpp) (record : ℕ) : Option StateChange :=
  s.notified.find? (·.record == record)

/-- The last notification for some channel with the UUID was a connection with the device. -/
def NotifiedConnected (s : ProfileSpp) (address : Text) (uuid : String) : Prop :=
  ∃ record n, s.lastChange record = some n ∧ n.connected = true ∧ n.uuid = uuid ∧
    convertAddressToLowerCase n.deviceAddress = convertAddressToLowerCase address

def StateAgrees (s : ProfileSpp) : Prop :=
  ∀ address uuid, address ≠ [] →
    (s.getChannelState address uuid = true ↔ s.NotifiedConnected address uuid)

/-- No record that has an address is stored under the id that would be taken. -/
def FreePlace (s : ProfileSpp) (order : List UInt8) : Prop :=
  ∀ d, s.mConnectedDevices.lookup (s.allocateChannelId order).1 = some d → d.mDeviceAddress = []

/-- A device that connects has an address in lower case, or is unknown to a record without
an address. A server is disconnected only if its record has no address. An id is not taken
from a record that has one, and no interface is called without its record. -/
def AddressesKept (s : ProfileSpp) : SppEvent → Prop
  | .connectUuid found order _ outcome => found = true → outcome = .exported →
    s.FreePlace order
  | .createChannel order _ _ outcome => outcome = .exported → s.FreePlace order
  | .newConnection record descriptor _ device => ∃ d, s.find record = some d ∧
    (descriptor = true →
      match device with
      | some address => convertAddressToLowerCase address = address
      | none => d.mDeviceAddress = [])
  | .requestDisconnection record _ => ∃ d, s.find record = some d ∧
    (d.mDeviceRole = .server → d.mDeviceAddress = [])
  | .release _ => False
  | _ => True

/-- The address of a record is in lower case and is the one last notified as connected. -/
structure Matches (s : ProfileSpp) (d : SppDeviceInfo) : Prop where
  lower : convertAddressToLowerCase d.mDeviceAddress = d.mDeviceAddress
  same : ∀ n, s.lastChange d.record = some n → n.connected = true →
    n.uuid = d.mUuid ∧ n.deviceAddress = d.mDeviceAddress
  connected : d.mDeviceAddress ≠ [] → ∃ n, s.lastChange d.record = some n ∧ n.connected = true

/-- Every record matches what has been notified, and every channel last notified as connected
with an address has its record. -/
structure Follows (s : ProfileSpp) : Prop where
  keyed : ∀ id d, s.mConnectedDevices.lookup id = some d → d.mChannelId = id
  unique : ∀ id d id' d', s.mConnectedDevices.lookup id = some d →
    s.mConnectedDevices.lookup id' = some d' → d.record = d'.record → id = id'
  fresh : ∀ id d, s.mConnectedDevices.lookup id = some d → d.record < s.nextRecord
  notified_lt : ∀ n ∈ s.notified, n.record < s.nextRecord
  stored : ∀ id d, s.mConnectedDevices.lookup id = some d → s.Matches d
  kept : ∀ record n, s.lastChange record = some n → n.connected = true →
    n.deviceAddress ≠ [] → ∃ id d, s.mConnectedDevices.lookup id = some d ∧ d.record = record

variable {s t : ProfileSpp} {id : UInt8} {d : SppDeviceInfo} {record : ℕ} {e : SppEvent}

theorem follows_init : Follows {} where
  keyed := nofun
  unique := nofun
  fresh := nofun
  notified_lt := nofun
  stored := nofun
  kept := nofun

theorem lastChange_notify_self (s : ProfileSpp) (d : SppDeviceInfo) (adapter device : Text)
    (connected : Bool) :
    (s.notify d adapter device connected).lastChange d.record =
      some ⟨d.record, adapter, device, d.mUuid, d.mChannelId, connected⟩ :=
  List.find?_cons_of_pos (beq_self_eq_true _)

theorem lastChange_notify_ne {adapter device : Text} {connected : Bool} (h : record ≠ d.record) :
    (s.notify d adapter device connected).lastChange record = s.lastChange record :=
  List.find?_cons_of_neg (by simpa using h.symm)

theorem Matches.congr (h : s.Matches d) (hlast : t.lastChange d.record = s.lastChange d.record) :
    t.Matches d := by
  refine ⟨h.lower, ?_, ?_⟩
  · rw [hlast]
    exact h.same
  · rw [hlast]
    exact h.connected

theorem Follows.of_same (h : s.Follows) (htable : t.mConnectedDevices = s.mConnectedDevices)
    (hnotified : t.notified = s.notified) (hnext : t.nextRecord = s.nextRecord) : t.Follows := by
  have hlast : ∀ r, t.lastChange r = s.lastChange r := by
    intro r
    rw [lastChange, hnotified]
    rfl
  refine ⟨?_, ?_, ?_, ?_, ?_, ?_⟩
  · rw [htable]
    exact h.keyed
  · rw [htable]
    exact h.unique
  · rw [htable, hnext]
    exact h.fresh
  · rw [hnotified, hnext]
    exact h.notified_lt
  · rw [htable]
    exact fun id d hd => (h.stored id d hd).congr (hlast d.record)
  · intro r
    rw [hlast, htable]
    exact h.kept r

theorem Follows.lookup_of_find (h : s.Follows) (hd : s.find record = some d) :
    s.mConnectedDevices.lookup d.mChannelId = some d ∧ d.record = record := by
  obtain ⟨id, hid⟩ := KeyedMap.mem_values_iff.mp (List.mem_of_find?_eq_some hd)
  have hrecord := List.find?_some (p := fun v : SppDeviceInfo => v.record == record) hd
  rw [h.keyed id d hid]
  exact ⟨hid, eq_of_beq hrecord⟩

theorem lookup_of_getSppDevice {order : List UInt8} {uuid : String}
    (hd : s.getSppDevice order uuid = some d) :
    ∃ id, s.mConnectedDevices.lookup id = some d := by
  obtain ⟨id, _, hid⟩ := List.exists_of_findSome?_eq_some hd
  exact ⟨id, (Option.filter_eq_some_iff.mp hid).1⟩

/-! ### What agrees -/

theorem getChannelState_iff (s : ProfileSpp) (address : Text) (uuid : String) :
    s.getChannelState address uuid = true ↔ ∃ id d, s.mConnectedDevices.lookup id = some d ∧
      d.mDeviceAddress = convertAddressToLowerCase address ∧ d.mUuid = uuid := by
  simp only [getChannelState, List.any_eq_true, KeyedMap.mem_values_iff, Bool.and_eq_true,
    beq_iff_eq]
  constructor
  · rintro ⟨d, ⟨id, hid⟩, hd⟩
    exact ⟨id, d, hid, hd⟩
  · rintro ⟨id, d, hid, hd⟩
    exact ⟨d, ⟨id, hid⟩, hd⟩

theorem lower_ne_nil {address : Text} (h : address ≠ []) :
    convertAddressToLowerCase address ≠ [] := by
  simpa [convertAddressToLowerCase] using h

theorem Follows.stateAgrees (h : s.Follows) : s.StateAgrees := by
  intro address uuid hne
  rw [getChannelState_iff]
  constructor
  · rintro ⟨id, d, hid, haddress, huuid⟩
    have hd := h.stored id d hid
    have hnonempty : d.mDeviceAddress ≠ [] := by
      rw [haddress]
      exact lower_ne_nil hne
    obtain ⟨n, hn, hconnected⟩ := hd.connected hnonempty
    obtain ⟨hsame, hdevice⟩ := hd.same n hn hconnected
    refine ⟨d.record, n, hn, hconnected, hsame.trans huuid, ?_⟩
    rw [hdevice, haddress, lowerCase_lowerCase]
  · rintro ⟨record, n, hn, hconnected, huuid, haddress⟩
    have hnonempty : n.deviceAddress ≠ [] := by
      intro hnil
      rw [hnil] at haddress
      exact lower_ne_nil hne haddress.symm
    obtain ⟨id, d, hid, rfl⟩ := h.kept record n hn hconnected hnonempty
    have hd := h.stored id d hid
    obtain ⟨hsame, hdevice⟩ := hd.same n hn hconnected
    refine ⟨id, d, hid, ?_, hsame.symm.trans huuid⟩
    rw [← haddress, hdevice, hd.lower]

/-! ### What a step keeps -/

theorem Follows.remove (h : s.Follows) (hid : s.mConnectedDevices.lookup d.mChannelId = some d)
    (adapter device : Text) (left : UInt8) :
    ((s.notify d adapter device false).removeRecord d left).Follows := by
  have hother : ∀ id v, (s.mConnectedDevices.erase d.mChannelId).lookup id = some v →
      s.mConnectedDevices.lookup id = some v ∧ v.record ≠ d.record := by
    intro id v hv
    obtain ⟨hne, hv⟩ := KeyedMap.lookup_erase_some hv
    exact ⟨hv, fun hrecord => hne (h.unique id v _ d hv hid hrecord)⟩
  refine ⟨?_, ?_, ?_, ?_, ?_, ?_⟩
  · exact fun id v hv => h.keyed id v (hother id v hv).1
  · exact fun id v id' v' hv hv' => h.unique id v id' v' (hother id v hv).1 (hother id' v' hv').1
  · exact fun id v hv => h.fresh id v (hother id v hv).1
  · intro n hn
    rcases List.mem_cons.mp hn with rfl | hn
    · exact h.fresh _ d hid
    · exact h.notified_lt n hn
  · intro id v hv
    obtain ⟨hv, hne⟩ := hother id v hv
    exact (h.stored id v hv).congr (lastChange_notify_ne hne)
  · intro r n hn hconnected hdevice
    have hne : r ≠ d.record := by
      rintro rfl
      have hself := (s.lastChange_notify_self d adapter device false).symm.trans hn
      rw [← Option.some.inj hself] at hconnected
      cases hconnected
    have hold := (lastChange_notify_ne (s := s) hne).symm.trans hn
    obtain ⟨id, v, hv, hrecord⟩ := h.kept r n hold hconnected hdevice
    refine ⟨id, v, (AList.lookup_erase_ne ?_).trans hv, hrecord⟩
    rintro rfl
    rw [hid, Option.some.injEq] at hv
    exact hne (hrecord.symm.trans (congrArg _ hv.symm))

theorem Follows.change (h : s.Follows) (hid : s.mConnectedDevices.lookup d.mChannelId = some d)
    {v : SppDeviceInfo} {adapter device : Text} {b : Bool} (hrecord : v.record = d.record)
    (hchannel : v.mChannelId = d.mChannelId) (huuid : v.mUuid = d.mUuid)
    (haddress : v.mDeviceAddress = device)
    (hlower : convertAddressToLowerCase device = device) (hconnected : b = false → device = [])
    (hself : t.mConnectedDevices.lookup d.mChannelId = some v)
    (hother : ∀ id, id ≠ d.mChannelId →
      t.mConnectedDevices.lookup id = s.mConnectedDevices.lookup id)
    (hnotified : t.notified = (s.notify d adapter device b).notified)
    (hnext : t.nextRecord = s.nextRecord) : t.Follows := by
  have hcases : ∀ id w, t.mConnectedDevices.lookup id = some w →
      id = d.mChannelId ∧ w = v ∨
        id ≠ d.mChannelId ∧ s.mConnectedDevices.lookup id = some w := by
    intro id w hw
    by_cases hne : id = d.mChannelId
    · rw [hne, hself, Option.some.injEq] at hw
      exact .inl ⟨hne, hw.symm⟩
    · rw [hother id hne] at hw
      exact .inr ⟨hne, hw⟩
  have hlast : ∀ r, t.lastChange r = (s.notify d adapter device b).lastChange r := by
    intro r
    rw [lastChange, hnotified]
    rfl
  have hapart : ∀ id w, id ≠ d.mChannelId → s.mConnectedDevices.lookup id = some w →
      w.record ≠ d.record := fun id w hne hw hr => hne (h.unique id w _ d hw hid hr)
  refine ⟨?_, ?_, ?_, ?_, ?_, ?_⟩
  · intro id w hw
    rcases hcases id w hw with ⟨rfl, rfl⟩ | ⟨_, hw⟩
    · exact hchannel
    · exact h.keyed id w hw
  · intro id w id' w' hw hw' hr
    rcases hcases id w hw with ⟨rfl, rfl⟩ | ⟨hne, hw⟩ <;>
      rcases hcases id' w' hw' with ⟨rfl, rfl⟩ | ⟨hne', hw'⟩
    · rfl
    · exact absurd (hr.symm.trans hrecord) (hapart id' w' hne' hw')
    · exact absurd (hr.trans hrecord) (hapart id w hne hw)
    · exact h.unique id w id' w' hw hw' hr
  · intro id w hw
    rw [hnext]
    rcases hcases id w hw with ⟨rfl, rfl⟩ | ⟨_, hw⟩
    · rw [hrecord]
      exact h.fresh _ d hid
    · exact h.fresh id w hw
  · intro n hn
    rw [hnotified] at hn
    rw [hnext]
    rcases List.mem_cons.mp hn with rfl | hn
    · exact h.fresh _ d hid
    · exact h.notified_lt n hn
  · intro id w hw
    rcases hcases id w hw with ⟨rfl, rfl⟩ | ⟨hne, hw⟩
    · refine ⟨by rw [haddress, hlower], ?_, fun hdevice => ?_⟩
      · intro n hn _
        rw [hrecord, hlast, lastChange_notify_self, Option.some.injEq] at hn
        rw [← hn, huuid, haddress]
        exact ⟨rfl, rfl⟩
      · rw [hrecord, hlast, lastChange_notify_self]
        refine ⟨_, rfl, Bool.of_not_eq_false fun hfalse => hdevice ?_⟩
        rw [haddress]
        exact hconnected hfalse
    · exact (h.stored id w hw).congr
        ((hlast w.record).trans (lastChange_notify_ne (hapart id w hne hw)))
  · intro r n hn hconnected' hdevice
    by_cases hr : r = d.record
    · exact ⟨_, _, hself, hrecord.trans hr.symm⟩
    · rw [hlast, lastChange_notify_ne hr] at hn
      obtain ⟨id, w, hw, hwr⟩ := h.kept r n hn hconnected' hdevice
      have hne : id ≠ d.mChannelId := by
        rintro rfl
        rw [hid, Option.some.injEq] at hw
        exact hr (hwr.symm.trans (congrArg _ hw.symm))
      exact ⟨id, w, (hother id hne).trans hw, hwr⟩

theorem Follows.store (h : s.Follows) (hrecord : d.record = s.nextRecord)
    (haddress : d.mDeviceAddress = [])
    (hplace : ∀ v, s.mConnectedDevices.lookup d.mChannelId = some v → v.mDeviceAddress = []) :
    (s.store d).Follows := by
  have hcases : ∀ id v, (s.mConnectedDevices.insert d.mChannelId d).lookup id = some v →
      id = d.mChannelId ∧ v = d ∨ s.mConnectedDevices.lookup id = some v :=
    fun id v hv => (KeyedMap.lookup_insert_cases hv).imp_right And.right
  have hnew : ∀ id v, s.mConnectedDevices.lookup id = some v → v.record ≠ d.record := by
    intro id v hv
    rw [hrecord]
    exact Nat.ne_of_lt (h.fresh id v hv)
  have hnone : s.lastChange d.record = none := by
    rw [lastChange, List.find?_eq_none]
    intro n hn heq
    rw [beq_iff_eq, hrecord] at heq
    exact Nat.ne_of_lt (h.notified_lt n hn) heq
  refine ⟨?_, ?_, ?_, fun n hn => Nat.lt_succ_of_lt (h.notified_lt n hn), ?_, ?_⟩
  · intro id v hv
    rcases hcases id v hv with ⟨rfl, rfl⟩ | hv
    · rfl
    · exact h.keyed id v hv
  · intro id v id' v' hv hv' hr
    rcases hcases id v hv with ⟨rfl, hvd⟩ | hv <;> rcases hcases id' v' hv' with ⟨rfl, hvd'⟩ | hv'
    · rfl
    · exact absurd (hr.symm.trans (congrArg _ hvd)) (hnew id' v' hv')
    · exact absurd (hr.trans (congrArg _ hvd')) (hnew id v hv)
    · exact h.unique id v id' v' hv hv' hr
  · intro id v hv
    rcases hcases id v hv with ⟨rfl, rfl⟩ | hv
    · rw [hrecord]
      exact Nat.lt_succ_self _
    · exact Nat.lt_succ_of_lt (h.fresh id v hv)
  · intro id v hv
    rcases hcases id v hv with ⟨rfl, rfl⟩ | hv
    · refine ⟨by rw [haddress]; rfl, fun n hn => ?_, fun hne => absurd haddress hne⟩
      have hn' : s.lastChange v.record = some n := hn
      rw [hnone] at hn'
      cases hn'
    · exact (h.stored id v hv).congr rfl
  · intro r n hn hconnected hdevice
    obtain ⟨id, v, hv, rfl⟩ := h.kept r n hn hconnected hdevice
    have hne : id ≠ d.mChannelId := by
      rintro rfl
      refine hdevice ?_
      rw [((h.stored _ v hv).same n hn hconnected).2]
      exact hplace v hv
    exact ⟨id, v, (AList.lookup_insert_ne hne).trans hv, rfl⟩

/-- Opening a channel fails and leaves the records alone, or stores a new record under the id
that has been taken. -/
theorem openChannel_stores (s : ProfileSpp) (order : List UInt8) (role : DeviceRole)
    (name uuid : String) (outcome : ExportOutcome) :
    (∃ u error, s.openChannel order role name uuid outcome = (u, .error error) ∧
      u.mConnectedDevices = s.mConnectedDevices ∧ u.notified = s.notified ∧
      u.nextRecord = s.nextRecord) ∨
    outcome = .exported ∧ ∃ u : ProfileSpp, s.openChannel order role name uuid outcome =
        (u.store ⟨s.nextRecord, (s.allocateChannelId order).1, role, name, uuid, [], []⟩,
          .ok (s.nextRecord, (s.allocateChannelId order).1)) ∧
      u.mConnectedDevices = s.mConnectedDevices ∧ u.notified = s.notified ∧
      u.nextRecord = s.nextRecord := by
  have hsame : (s.allocateChannelId order).2.mConnectedDevices = s.mConnectedDevices ∧
      (s.allocateChannelId order).2.notified = s.notified ∧
      (s.allocateChannelId order).2.nextRecord = s.nextRecord := by
    unfold allocateChannelId
    split <;> exact ⟨rfl, rfl, rfl⟩
  unfold openChannel
  dsimp only
  split_ifs
  · exact .inl ⟨_, _, rfl, hsame⟩
  · cases outcome with
    | noMemory => exact .inl ⟨_, _, rfl, hsame⟩
    | notRegistered => exact .inl ⟨_, _, rfl, hsame⟩
    | notExported => exact .inl ⟨_, _, rfl, hsame⟩
    | exported =>
        refine .inr ⟨rfl, (s.allocateChannelId order).2, ?_, hsame⟩
        dsimp only
        rw [hsame.2.2]

theorem Follows.connectUuid (h : s.Follows) {found : Bool} {order : List UInt8} {uuid : String}
    {outcome : ExportOutcome} (he : s.AddressesKept (.connectUuid found order uuid outcome)) :
    (s.connectUuid found order uuid outcome).Follows := by
  unfold ProfileSpp.connectUuid
  split_ifs with hfound
  · rcases s.openChannel_stores order .client "SerialPort" uuid outcome with
      ⟨u, error, hopen, htable, hnotified, hnext⟩ |
        ⟨hexported, u, hopen, htable, hnotified, hnext⟩ <;> rw [hopen]
    · exact h.of_same htable hnotified hnext
    · have hu := h.of_same htable hnotified hnext
      have hstored := hu.store
        (d := ⟨s.nextRecord, (s.allocateChannelId order).1, .client, "SerialPort", uuid, [], []⟩)
        hnext.symm rfl (by rw [htable]; exact he hfound hexported)
      exact hstored.of_same rfl rfl rfl
  · exact h.of_same rfl rfl rfl

theorem Follows.createChannel (h : s.Follows) {order : List UInt8} {name uuid : String}
    {outcome : ExportOutcome} (he : s.AddressesKept (.createChannel order name uuid outcome)) :
    (s.createChannel order name uuid outcome).Follows := by
  unfold ProfileSpp.createChannel
  rcases s.openChannel_stores order .server name uuid outcome with
    ⟨u, error, hopen, htable, hnotified, hnext⟩ |
      ⟨hexported, u, hopen, htable, hnotified, hnext⟩ <;> rw [hopen]
  · exact h.of_same htable hnotified hnext
  · have hu := h.of_same htable hnotified hnext
    have hstored := hu.store
      (d := ⟨s.nextRecord, (s.allocateChannelId order).1, .server, name, uuid, [], []⟩)
      hnext.symm rfl (by rw [htable]; exact he hexported)
    exact hstored.of_same rfl rfl rfl

theorem handle_of_find {handler : SppDeviceInfo → ProfileSpp} (hd : s.find record = some d)
    (hstep : s.handle record handler = some t) : t = handler d := by
  unfold handle at hstep
  split_ifs at hstep
  rw [hd] at hstep
  exact (Option.some.inj hstep).symm

theorem Follows.step (h : s.Follows) (he : s.AddressesKept e) (hstep : s.step e = some t) :
    t.Follows := by
  cases e with
  | connectUuid found order uuid outcome =>
      cases hstep
      exact h.connectUuid he
  | connected call ok =>
      obtain ⟨c, _, rfl⟩ := Option.map_eq_some_iff.mp hstep
      cases ok <;> exact h.of_same rfl rfl rfl
  | createChannel order name uuid outcome =>
      cases hstep
      exact h.createChannel he
  | removeChannel order uuid left =>
      cases hstep
      unfold removeChannel
      cases hfound : s.getSppDevice order uuid with
      | none => exact h.of_same rfl rfl rfl
      | some d =>
          obtain ⟨id, hid⟩ := lookup_of_getSppDevice hfound
          obtain rfl := h.keyed id d hid
          exact (h.remove hid d.mAdapterAddress d.mDeviceAddress left).of_same rfl rfl rfl
  | newConnection record descriptor adapter device =>
      obtain ⟨d, hd, haddress⟩ := he
      obtain rfl := handle_of_find hd hstep
      obtain ⟨hid, _⟩ := h.lookup_of_find hd
      split_ifs with hdescriptor
      · have hself : (s.handleNewConnection d adapter device).mConnectedDevices.lookup
            d.mChannelId = (s.mConnectedDevices.lookup d.mChannelId).map _ :=
          KeyedMap.lookup_modify_self _ _ _
        rw [hid] at hself
        cases device with
        | some address =>
            exact h.change hid (b := true)
              (v := { d with mDeviceAddress := address, mAdapterAddress := adapter })
              rfl rfl rfl rfl (haddress hdescriptor) nofun hself
              (fun _ hne => KeyedMap.lookup_modify_ne hne) rfl rfl
        | none =>
            exact h.change hid (b := true) (v := { d with mAdapterAddress := adapter })
              rfl rfl rfl (haddress hdescriptor) rfl nofun hself
              (fun _ hne => KeyedMap.lookup_modify_ne hne) rfl rfl
      · exact h
  | requestDisconnection record left =>
      obtain ⟨d, hd, haddress⟩ := he
      obtain rfl := handle_of_find hd hstep
      obtain ⟨hid, _⟩ := h.lookup_of_find hd
      unfold handleRequestDisconnection
      cases hrole : d.mDeviceRole with
      | client => exact h.remove hid d.mAdapterAddress d.mDeviceAddress left
      | server =>
          have hnil := haddress hrole
          exact h.change hid (b := false) rfl rfl rfl rfl (by rw [hnil]; rfl) (fun _ => hnil) hid
            (fun _ _ => rfl) rfl rfl
  | release record => exact he.elim

end ProfileSpp

/-- As long as the addresses are kept so that a record tells of its connection, the channel
state asked for any address agrees with the last notifications. -/
theorem channelState_agrees (s : ProfileSpp)
    (hs : sppMachine.ReachWith ProfileSpp.AddressesKept s) : s.StateAgrees :=
  (hs.invariant (P := ProfileSpp.Follows) ProfileSpp.follows_init fun _ _ _ h he hstep =>
    h.step he hstep).stateAgrees

/-- A device whose address has no letters connects to a server channel. -/
theorem channelState_agrees_connected : ∃ s : ProfileSpp,
    s.getChannelState "00:11".toList "1101" = true ∧ s.StateAgrees := by
  have hcreated := Machine.ReachWith.step (M := sppMachine) (G := ProfileSpp.AddressesKept)
    (e := .createChannel [] "chat" "1101" .exported) .init (fun _ _ h => by cases h) rfl
  have hconnected := Machine.ReachWith.step (M := sppMachine)
    (e := .newConnection 0 true "22:33".toList (some "00:11".toList)) hcreated
    ⟨_, rfl, fun _ => by decide⟩ rfl
  exact ⟨_, by decide, channelState_agrees _ hconnected⟩

/-- A server channel that has been disconnected is still said to be connected. -/
theorem channelState_agrees_disconnected : ¬ ∀ s : ProfileSpp, sppMachine.Reach s →
    s.StateAgrees := by
  intro h
  have hrun : ∃ t, sppMachine.run sppMachine.init
      [.createChannel [] "chat" "1101" .exported,
        .newConnection 0 true "22:33".toList (some "00:11".toList),
        .requestDisconnection 0 0] = some t ∧
      t.getChannelState "00:11".toList "1101" = true ∧
      t.lastChange 0 = some ⟨0, "22:33".toList, "00:11".toList, "1101", 22, false⟩ ∧
      ∀ n ∈ t.notified, n.record = 0 := ⟨_, rfl, by decide⟩
  obtain ⟨t, hrun, hstate, hlast, honly⟩ := hrun
  obtain ⟨record, n, hn, hconnected, _⟩ :=
    (h t (Machine.reach_of_run _ hrun) "00:11".toList "1101" (by decide)).mp hstate
  have hzero : record = 0 := by
    have hrecord := List.find?_some (p := fun v : StateChange => v.record == record) hn
    rw [← eq_of_beq hrecord]
    exact honly n (List.mem_of_find?_eq_some hn)
  rw [hzero, hlast] at hn
  cases hn
  cases hconnected

end BluezSil.Spp
