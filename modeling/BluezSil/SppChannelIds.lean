import BluezSil.SppChannels

/-!
# Ids and records of the channels

A channel that is opened takes a free id and its record is stored under it. Each way in
which a channel goes breaks the agreement between the two tables or reads a record that has
been erased, so the agreement lasts for as long as no channel goes.
-/

namespace BluezSil.Spp

open TransitionRun

namespace ProfileSpp

/-- The ids used are those of the records, none is given to a record while another has it,
an id that is freed is that of its own channel, and no erased record is read. -/
structure IdsTracked (s : ProfileSpp) : Prop where
  used : ∀ id, s.mChannelIdList.lookup id = some true ↔ id ∈ s.mConnectedDevices
  handed : ∀ h ∈ s.handed, ∀ r, h.holder = some r → r = h.record
  freed : ∀ f ∈ s.freed, f.1 = f.2
  reads : s.staleReads = []

/-- No connection fails, no channel is found to remove, no client is disconnected and no
profile is released. -/
def KeepsChannels (s : ProfileSpp) : SppEvent → Prop
  | .connected _ ok => ok = true
  | .removeChannel order uuid _ => s.getSppDevice order uuid = none
  | .requestDisconnection record _ =>
    ∀ d, s.find record = some d → d.mDeviceRole = .server
  | .release _ => False
  | _ => True

/-- The ids are tracked, and every interface and every connection under way has its record
stored under its id. -/
structure Settled (s : ProfileSpp) : Prop where
  tracked : s.IdsTracked
  zero : 0 ∉ s.mChannelIdList
  exported : ∀ r ∈ s.exported, ∃ id d, s.mConnectedDevices.lookup id = some d ∧ d.record = r
  connecting : ∀ c ∈ s.connecting, ∃ d, s.mConnectedDevices.lookup c.2 = some d ∧ d.record = c.1

variable {s t : ProfileSpp} {id : UInt8} {d : SppDeviceInfo} {e : SppEvent}

theorem settled_init : Settled {} where
  tracked := by
    refine ⟨fun id => iff_of_false (fun h => ?_) (AList.notMem_empty id), nofun, nofun, rfl⟩
    rcases KeyedMap.lookup_insert_cases h with ⟨_, hfree⟩ | ⟨_, h⟩
    · cases hfree
    · rcases KeyedMap.lookup_insert_cases h with ⟨_, hfree⟩ | ⟨_, hempty⟩
      · cases hfree
      · cases hempty
  zero := by decide
  exported := nofun
  connecting := nofun

theorem Settled.reply (h : s.Settled) (error : BluetoothError) (id : UInt8) :
    (s.reply error id).Settled :=
  ⟨⟨h.tracked.used, h.tracked.handed, h.tracked.freed, h.tracked.reads⟩, h.zero, h.exported,
    h.connecting⟩

theorem Settled.notify (h : s.Settled) (d : SppDeviceInfo) (adapter device : Text)
    (connected : Bool) : (s.notify d adapter device connected).Settled :=
  ⟨⟨h.tracked.used, h.tracked.handed, h.tracked.freed, h.tracked.reads⟩, h.zero, h.exported,
    h.connecting⟩

/-! ### Opening a channel -/

theorem allocateChannelId_cases (s : ProfileSpp) (order : List UInt8) :
    s.allocateChannelId order = (0, s) ∨
      ∃ id, s.mChannelIdList.lookup id = some false ∧
        s.allocateChannelId order = (id, s.mark id) := by
  unfold allocateChannelId
  cases hfind :
      (order ++ s.mChannelIdList.keys).find? (s.mChannelIdList.lookup · == some false) with
  | none => exact .inl rfl
  | some id => exact .inr ⟨id, by simpa using List.find?_some hfind, rfl⟩

/-- Opening a channel changes nothing, or takes a free id and frees it again, or stores a
new record under it. -/
theorem openChannel_cases (hzero : 0 ∉ s.mChannelIdList) (order : List UInt8)
    (role : DeviceRole) (name uuid : String) (outcome : ExportOutcome) :
    (∃ error, s.openChannel order role name uuid outcome = (s, .error error)) ∨
      ∃ id, s.mChannelIdList.lookup id = some false ∧
        ((∃ error, s.openChannel order role name uuid outcome =
            ((s.mark id).deallocateChannelId id id, .error error)) ∨
          s.openChannel order role name uuid outcome =
            ((s.mark id).store ⟨s.nextRecord, id, role, name, uuid, [], []⟩,
              .ok (s.nextRecord, id))) := by
  unfold openChannel
  rcases s.allocateChannelId_cases order with hnone | ⟨id, hfree, hsome⟩
  · rw [hnone]
    exact .inl ⟨_, rfl⟩
  · have hne : id ≠ 0 := by
      rintro rfl
      exact hzero (KeyedMap.mem_of_lookup hfree)
    rw [hsome]
    dsimp only
    rw [if_neg hne]
    refine .inr ⟨id, hfree, ?_⟩
    cases outcome with
    | noMemory => exact .inl ⟨_, rfl⟩
    | notRegistered => exact .inl ⟨_, rfl⟩
    | notExported => exact .inl ⟨_, rfl⟩
    | exported => exact .inr rfl

theorem Settled.free_not_mem (h : s.Settled) (hfree : s.mChannelIdList.lookup id = some false) :
    id ∉ s.mConnectedDevices := by
  intro hmem
  rw [← h.tracked.used, hfree] at hmem
  cases hmem

theorem Settled.withdraw (h : s.Settled) (hfree : s.mChannelIdList.lookup id = some false) :
    ((s.mark id).deallocateChannelId id id).Settled where
  tracked := by
    refine ⟨fun k => ?_, h.tracked.handed, ?_, h.tracked.reads⟩
    · change ((s.mChannelIdList.insert id true).insert id false).lookup k = some true ↔ _
      by_cases hk : k = id
      · rw [hk, AList.lookup_insert]
        exact iff_of_false (by decide) (h.free_not_mem hfree)
      · rw [AList.lookup_insert_ne hk, AList.lookup_insert_ne hk]
        exact h.tracked.used k
    · intro f hf
      rcases List.mem_cons.mp hf with rfl | hf
      · rfl
      · exact h.tracked.freed f hf
  zero := by
    intro hmem
    rcases (AList.mem_insert _).mp hmem with rfl | hmem
    · exact h.zero (KeyedMap.mem_of_lookup hfree)
    · rcases (AList.mem_insert _).mp hmem with rfl | hmem
      · exact h.zero (KeyedMap.mem_of_lookup hfree)
      · exact h.zero hmem
  exported := h.exported
  connecting := h.connecting

theorem Settled.store (h : s.Settled) (hfree : s.mChannelIdList.lookup d.mChannelId = some false) :
    ((s.mark d.mChannelId).store d).Settled := by
  have hnew := h.free_not_mem hfree
  have hkept : ∀ id v, s.mConnectedDevices.lookup id = some v →
      (s.mConnectedDevices.insert d.mChannelId d).lookup id = some v := by
    intro id v hv
    rw [AList.lookup_insert_ne]
    · exact hv
    · rintro rfl
      exact hnew (KeyedMap.mem_of_lookup hv)
  refine ⟨⟨fun k => ?_, ?_, h.tracked.freed, h.tracked.reads⟩, ?_, ?_, ?_⟩
  · change (s.mChannelIdList.insert d.mChannelId true).lookup k = some true ↔
      k ∈ s.mConnectedDevices.insert d.mChannelId d
    rw [AList.mem_insert]
    by_cases hk : k = d.mChannelId
    · rw [hk, AList.lookup_insert]
      exact iff_of_true rfl (.inl rfl)
    · rw [AList.lookup_insert_ne hk, h.tracked.used, or_iff_right hk]
  · intro g hg r hr
    rcases List.mem_cons.mp hg with rfl | hg
    · have hnone : s.mConnectedDevices.lookup d.mChannelId = none := AList.lookup_eq_none.mpr hnew
      change (s.mConnectedDevices.lookup d.mChannelId).map _ = some r at hr
      rw [hnone] at hr
      cases hr
    · exact h.tracked.handed g hg r hr
  · intro hmem
    rcases (AList.mem_insert _).mp hmem with hzero | hmem
    · rw [← hzero] at hfree
      exact h.zero (KeyedMap.mem_of_lookup hfree)
    · exact h.zero hmem
  · intro r hr
    rcases List.mem_cons.mp hr with rfl | hr
    · exact ⟨d.mChannelId, d, AList.lookup_insert _, rfl⟩
    · obtain ⟨id, v, hv, hrecord⟩ := h.exported r hr
      exact ⟨id, v, hkept id v hv, hrecord⟩
  · intro c hc
    obtain ⟨v, hv, hrecord⟩ := h.connecting c hc
    exact ⟨v, hkept c.2 v hv, hrecord⟩

theorem Settled.connectUuid (h : s.Settled) (found : Bool) (order : List UInt8) (uuid : String)
    (outcome : ExportOutcome) : (s.connectUuid found order uuid outcome).Settled := by
  unfold ProfileSpp.connectUuid
  split_ifs
  · rcases openChannel_cases h.zero order .client "SerialPort" uuid outcome with
      ⟨error, hopen⟩ | ⟨id, hfree, ⟨error, hopen⟩ | hopen⟩ <;> rw [hopen]
    · exact h.reply _ _
    · exact (h.withdraw hfree).reply _ _
    · have hstored := h.store (d := ⟨s.nextRecord, id, .client, "SerialPort", uuid, [], []⟩) hfree
      refine ⟨⟨hstored.tracked.used, hstored.tracked.handed, hstored.tracked.freed,
        hstored.tracked.reads⟩, hstored.zero, hstored.exported, fun c hc => ?_⟩
      rcases List.mem_append.mp hc with hc | hc
      · exact hstored.connecting c hc
      · rw [List.mem_singleton.mp hc]
        exact ⟨_, AList.lookup_insert _, rfl⟩
  · exact h.reply _ _

theorem Settled.createChannel (h : s.Settled) (order : List UInt8) (name uuid : String)
    (outcome : ExportOutcome) : (s.createChannel order name uuid outcome).Settled := by
  unfold ProfileSpp.createChannel
  rcases openChannel_cases h.zero order .server name uuid outcome with
    ⟨error, hopen⟩ | ⟨id, hfree, ⟨error, hopen⟩ | hopen⟩ <;> rw [hopen]
  · exact h.reply _ _
  · exact (h.withdraw hfree).reply _ _
  · exact (h.store (d := ⟨s.nextRecord, id, .server, name, uuid, [], []⟩) hfree).reply _ _

/-! ### Events of a channel -/

theorem Settled.connected (h : s.Settled) {call : ℕ} {c : ℕ × UInt8}
    (hc : s.connecting[call]? = some c) :
    (connectedCallback { s with connecting := s.connecting.eraseIdx call } c.1 c.2
      true).Settled := by
  obtain ⟨d, hd, hrecord⟩ := h.connecting c (List.mem_of_getElem? hc)
  refine ⟨⟨h.tracked.used, ?_, h.tracked.freed, h.tracked.reads⟩, h.zero, h.exported, ?_⟩
  · intro g hg r hr
    rcases List.mem_cons.mp hg with rfl | hg
    · change (s.mConnectedDevices.lookup c.2).map _ = some r at hr
      rw [hd, Option.map_some, Option.some.injEq] at hr
      rw [← hr, hrecord]
    · exact h.tracked.handed g hg r hr
  · exact fun c' hc' => h.connecting c' (List.mem_of_mem_eraseIdx hc')

theorem Settled.handleNewConnection (h : s.Settled) (d : SppDeviceInfo) (adapter : Text)
    (device : Option Text) : (s.handleNewConnection d adapter device).Settled := by
  have hkept : ∀ id v, s.mConnectedDevices.lookup id = some v →
      ∃ w, (s.handleNewConnection d adapter device).mConnectedDevices.lookup id = some w ∧
        w.record = v.record := by
    intro id v hv
    by_cases hid : id = d.mChannelId
    · subst hid
      have hself : (s.handleNewConnection d adapter device).mConnectedDevices.lookup
          d.mChannelId = (s.mConnectedDevices.lookup d.mChannelId).map _ :=
        KeyedMap.lookup_modify_self _ _ _
      rw [hv] at hself
      exact ⟨_, hself, rfl⟩
    · exact ⟨v, (KeyedMap.lookup_modify_ne hid).trans hv, rfl⟩
  refine ⟨⟨fun k => ?_, h.tracked.handed, h.tracked.freed, h.tracked.reads⟩, h.zero, ?_, ?_⟩
  · exact (h.tracked.used k).trans KeyedMap.mem_modify.symm
  · intro r hr
    obtain ⟨id, v, hv, rfl⟩ := h.exported r hr
    obtain ⟨w, hw, hrecord⟩ := hkept id v hv
    exact ⟨id, w, hw, hrecord⟩
  · intro c hc
    obtain ⟨v, hv, hrecord⟩ := h.connecting c hc
    obtain ⟨w, hw, hsame⟩ := hkept c.2 v hv
    exact ⟨w, hw, hsame.trans hrecord⟩

theorem Settled.handle (h : s.Settled) {record : ℕ} {handler : SppDeviceInfo → ProfileSpp}
    (hstep : s.handle record handler = some t) :
    ∃ d, s.find record = some d ∧ d.record = record ∧ t = handler d := by
  unfold ProfileSpp.handle at hstep
  split_ifs at hstep with hexported
  obtain ⟨id, d, hd, hrecord⟩ := h.exported record hexported
  have hsome : (s.find record).isSome = true :=
    List.find?_isSome.mpr
      ⟨d, KeyedMap.mem_values_iff.mpr ⟨id, hd⟩, by rw [hrecord, beq_self_eq_true]⟩
  obtain ⟨d', hd'⟩ := Option.isSome_iff_exists.mp hsome
  have hrecord' := List.find?_some (p := fun v : SppDeviceInfo => v.record == record) hd'
  rw [hd'] at hstep
  cases hstep
  exact ⟨d', hd', eq_of_beq hrecord', rfl⟩

theorem Settled.step (h : s.Settled) (he : s.KeepsChannels e) (hstep : s.step e = some t) :
    t.Settled := by
  cases e with
  | connectUuid found order uuid outcome =>
      cases hstep
      exact h.connectUuid found order uuid outcome
  | connected call ok =>
      obtain ⟨c, hc, rfl⟩ := Option.map_eq_some_iff.mp hstep
      obtain rfl : ok = true := he
      exact h.connected hc
  | createChannel order name uuid outcome =>
      cases hstep
      exact h.createChannel order name uuid outcome
  | removeChannel order uuid left =>
      have hnone : s.getSppDevice order uuid = none := he
      simp only [ProfileSpp.step, removeChannel, hnone, Option.some.injEq] at hstep
      subst hstep
      exact h.reply _ _
  | newConnection record descriptor adapter device =>
      obtain ⟨d, _, _, rfl⟩ := h.handle hstep
      split_ifs
      · exact h.handleNewConnection d adapter device
      · exact h
  | requestDisconnection record left =>
      obtain ⟨d, hd, _, rfl⟩ := h.handle hstep
      rw [handleRequestDisconnection, he d hd]
      exact h.notify _ _ _ _
  | release record => exact he.elim

/-! ### Each way a channel goes -/

theorem removeRecord_not_tracked (s : ProfileSpp) (d : SppDeviceInfo) (left : UInt8) :
    ¬ (s.removeRecord d left).IdsTracked := fun h => List.cons_ne_nil _ _ h.reads

/-- A connection that fails frees the id of a record that stays. -/
theorem Settled.failed_not_tracked (h : s.Settled) {call : ℕ} {c : ℕ × UInt8}
    (hc : s.connecting[call]? = some c) :
    ¬ (connectedCallback { s with connecting := s.connecting.eraseIdx call } c.1 c.2
      false).IdsTracked := by
  intro htracked
  obtain ⟨d, hd, _⟩ := h.connecting c (List.mem_of_getElem? hc)
  have hused := (htracked.used c.2).mpr (KeyedMap.mem_of_lookup hd)
  change (s.mChannelIdList.insert c.2 false).lookup c.2 = some true at hused
  rw [AList.lookup_insert] at hused
  cases hused

/-- A release leaves the ids of the records used. -/
theorem Settled.release_not_tracked (h : s.Settled) {record : ℕ} (hd : s.find record = some d) :
    ¬ s.handleRelease.IdsTracked := by
  intro htracked
  obtain ⟨id, hid⟩ := KeyedMap.mem_values_iff.mp (List.mem_of_find?_eq_some hd)
  have hused := (h.tracked.used id).mpr (KeyedMap.mem_of_lookup hid)
  exact AList.notMem_empty id ((htracked.used id).mp hused)

theorem Settled.tracked_step_iff (h : s.Settled) (hstep : s.step e = some t) :
    t.IdsTracked ↔ s.KeepsChannels e := by
  refine ⟨fun ht => ?_, fun he => (h.step he hstep).tracked⟩
  cases e with
  | connectUuid found order uuid outcome => trivial
  | connected call ok =>
      obtain ⟨c, hc, rfl⟩ := Option.map_eq_some_iff.mp hstep
      cases ok with
      | true => rfl
      | false => exact absurd ht (h.failed_not_tracked hc)
  | createChannel order name uuid outcome => trivial
  | removeChannel order uuid left =>
      cases hfound : s.getSppDevice order uuid with
      | none => exact hfound
      | some d =>
          simp only [ProfileSpp.step, removeChannel, hfound, Option.some.injEq] at hstep
          subst hstep
          exact absurd ⟨ht.used, ht.handed, ht.freed, ht.reads⟩ (removeRecord_not_tracked _ d left)
  | newConnection record descriptor adapter device => trivial
  | requestDisconnection record left =>
      obtain ⟨d, hd, _, rfl⟩ := h.handle hstep
      intro d' hd'
      rw [hd, Option.some.injEq] at hd'
      subst hd'
      cases hrole : d.mDeviceRole with
      | server => rfl
      | client =>
          rw [handleRequestDisconnection, hrole] at ht
          exact absurd ht (removeRecord_not_tracked _ d left)
  | release record =>
      obtain ⟨d, hd, _, rfl⟩ := h.handle hstep
      exact absurd ht (h.release_not_tracked hd)

end ProfileSpp

/-- The ids are tracked for as long as no connection fails and no channel goes. The first
step in which one does breaks this. -/
theorem channelIds_tracked (s : ProfileSpp)
    (hs : sppMachine.ReachWith ProfileSpp.KeepsChannels s) :
    s.IdsTracked ∧ ∀ e t, s.step e = some t → (t.IdsTracked ↔ s.KeepsChannels e) := by
  have hsettled : s.Settled :=
    hs.invariant (P := ProfileSpp.Settled) ProfileSpp.settled_init fun _ _ _ h he hstep =>
      h.step he hstep
  exact ⟨hsettled.tracked, fun e t hstep => hsettled.tracked_step_iff hstep⟩

/-- A server channel next to a client channel that is connected. -/
theorem channelIds_tracked_connected : ∃ s : ProfileSpp,
    s.replies = [(.none, 6), (.none, 0)] ∧ s.mConnectedDevices.keys = [6, 22] ∧
      s.IdsTracked := by
  have hcreated := Machine.ReachWith.step (M := sppMachine) (G := ProfileSpp.KeepsChannels)
    (e := .createChannel [] "chat" "1101" .exported) .init trivial rfl
  have hconnecting := Machine.ReachWith.step (M := sppMachine)
    (e := .connectUuid true [] "1102" .exported) hcreated trivial rfl
  have hconnected := Machine.ReachWith.step (M := sppMachine) (e := .connected 0 true)
    hconnecting rfl rfl
  exact ⟨_, rfl, rfl, (channelIds_tracked _ hconnected).1⟩

/-- A connection that fails leaves its record under a free id. -/
theorem channelIds_tracked_failed : ¬ ∀ s : ProfileSpp, sppMachine.Reach s → s.IdsTracked := by
  intro h
  have hrun : ∃ t, sppMachine.run sppMachine.init
      [.connectUuid true [] "1101" .exported, .connected 0 false] = some t ∧
      t.mChannelIdList.lookup 22 = some false ∧ 22 ∈ t.mConnectedDevices := ⟨_, rfl, by decide⟩
  obtain ⟨t, hrun, hfree, hmem⟩ := hrun
  have hused := ((h t (Machine.reach_of_run _ hrun)).used 22).mpr hmem
  rw [hfree] at hused
  cases hused

end BluezSil.Spp
