import BluezSil.PairingAgent

/-!
# The pairing flag and the entries of the agent

An adapter is pairing as long as the agent has an entry for one of its devices. The flag and
the entry are set and cleared in different functions. They stay together while each pairing
starts with an agent, is the only one of its adapter when it ends, and ends by its callback
or by the user's confirmation. An incoming pairing that is answered in another way, or that
BlueZ cancels, never ends.
-/

namespace BluezSil.Pairing

open TransitionRun

namespace PairingState

variable (s : PairingState)

/-- An adapter is pairing if and only if the agent has an entry for one of its devices. -/
def Tracks : Prop :=
  ∀ a, s.mPairing a = true ↔
    ∃ path info, s.mDevicePairings.lookup path = some info ∧ info.adapter = a

/-- With every callback fired and every incoming request answered or cancelled, no adapter is
busy. -/
def FreeWhenDone (devices : Devices) : Prop :=
  s.pairing = [] → s.openIncoming = [] →
    ∀ a address, (s.pair devices a address).replies ≠ .busy :: s.replies

def OnlyEntry (a : ℕ) (objectPath : Text) : Prop :=
  ∀ path info, s.mDevicePairings.lookup path = some info →
    (info.adapter = a ↔ path = objectPath)

def Begins (devices : Devices) (objectPath : Text) (adapter : Option ℕ) : Prop :=
  s.findPairingInfoForDevice objectPath = none ∧ ∃ a device, adapter = some a ∧
    devices.findDeviceByObjectPath a objectPath = some device ∧ objectPath ∉ s.mDevicePairings

def OpenBesides (path : Text) (serial : ℕ) : Prop := ∃ n, n ≠ serial ∧ (n, path) ∈ s.openIncoming

/-- The passkey or the PIN code of an incoming pairing is not the last that is asked of it. -/
def SecretNotLast (order : List Text) (address : Text) : Prop :=
  ∀ path info, s.findPairingInfoForAddress order address = some (path, info) →
    info.incoming = true → ∀ i, info.requestPairingSecret = some i → s.OpenBesides path i.serial

/-- A pairing starts with an agent that has no entry for the device, and is the only one of
its adapter when it ends. An incoming one begins with a request that waits for an answer. It is
confirmed or rejected through the adapter that knows its device, and is not answered or
cancelled otherwise. The agent is not asked to cancel a pairing that waits for an answer, an
outgoing pairing is cancelled only once its callback has fired, and the agent is deleted
only with no pairing under way. -/
def KeepsTrack (devices : Devices) : PairingEvent → Prop
  | .deleteAgent => s.mDevicePairings = ∅
  | .pair a address => address ≠ [] → s.mPairing a = false →
      ∀ device, devices.findDevice a address = some device →
        s.mAgent = true ∧ device.mObjectPath ∉ s.mDevicePairings
  | .pairFinished device _ => device.mObjectPath ∈ s.mDevicePairings →
      s.OnlyEntry device.mAdapter device.mObjectPath
  | .cancelPairing a address order => s.mPairing a = true →
      ∀ device, devices.findDevice a address = some device →
        some device ≠ s.mCurrentPairingDevice a →
          ∀ path info, s.findPairingInfoForAddress order address = some (path, info) →
            info.cancelled = none
  | .cancelFinished device none =>
      ∀ path info, s.mDevicePairings.lookup path = some info → info.adapter ≠ device.mAdapter
  | .supplyPairingConfirmation a address _ order =>
      ∀ path info, s.findPairingInfoForAddress order address = some (path, info) →
        info.requestConfirmation ≠ none → info.incoming = true →
          ∃ device, devices.findDevice a address = some device ∧ device.mObjectPath = path ∧
            s.OnlyEntry device.mAdapter path
  | .supplyPasskey _ address _ order => s.mAgent = true → s.SecretNotLast order address
  | .supplyPin _ address pin order => s.mAgent = true → pin ≠ [] → s.SecretNotLast order address
  | .displayPasskey objectPath _ adapter => ¬ s.Begins devices objectPath adapter
  | .displayPinCode objectPath _ adapter => ¬ s.Begins devices objectPath adapter
  | .requestConfirmation objectPath _ adapter => s.Begins devices objectPath adapter →
      objectPath ≠ []
  | .requestPasskey objectPath adapter => s.Begins devices objectPath adapter → objectPath ≠ []
  | .requestPinCode objectPath adapter => s.Begins devices objectPath adapter → objectPath ≠ []
  | .cancel request _ => ∀ info, s.mDevicePairings.lookup request.2 = some info →
      info.incoming = true → request ∈ s.openIncoming → s.OpenBesides request.2 request.1
  | _ => True

end PairingState

/-! ### The invariant -/

namespace PairingState

variable {s t : PairingState} {devices : Devices} {a : ℕ} {path : Text} {info : PairingInfo}

/-- The flags follow the entries. An outgoing entry has a call whose callback has not fired,
and an incoming one a request that is open. -/
structure Tracked (s : PairingState) : Prop where
  tracks : s.Tracks
  outgoing : ∀ path info, s.mDevicePairings.lookup path = some info → info.incoming = false →
    ∃ device ∈ s.pairing, device.mObjectPath = path
  incoming : ∀ path info, s.mDevicePairings.lookup path = some info → info.incoming = true →
    ∃ n, (n, path) ∈ s.openIncoming

theorem tracked_of_empty (hflag : ∀ a, s.mPairing a = false) (hmap : s.mDevicePairings = ∅) :
    s.Tracked := by
  have hnone : ∀ {path info}, s.mDevicePairings.lookup path ≠ some info := by
    intro path info
    rw [hmap, AList.lookup_empty]
    nofun
  refine ⟨fun a => ?_, fun _ _ hlookup => absurd hlookup hnone,
    fun _ _ hlookup => absurd hlookup hnone⟩
  rw [hflag a]
  exact ⟨fun h => absurd h Bool.false_ne_true,
    fun ⟨_, _, hlookup, _⟩ => absurd hlookup hnone⟩

theorem tracked_init : Tracked {} := tracked_of_empty (fun _ => rfl) rfl

theorem pair_replies_of_free (h : s.mPairing a = false) (address : Text) :
    (s.pair devices a address).replies ≠ .busy :: s.replies := by
  unfold pair
  rw [h, if_neg Bool.false_ne_true]
  split_ifs with haddress
  · simp [reply]
  · cases devices.findDevice a address with
    | none => simp [reply]
    | some device =>
        cases hagent : s.mAgent with
        | false => simp [devicePair, setPairing, reply, hagent]
        | true =>
            simp only [devicePair, setPairing, startPairingForDevice, hagent, if_true]
            split_ifs <;> exact fun h => List.cons_ne_self _ _ h.symm

theorem Tracked.freeWhenDone (h : s.Tracked) (devices : Devices) : s.FreeWhenDone devices := by
  intro hpairing hopen a address
  apply pair_replies_of_free
  rw [← Bool.not_eq_true, h.tracks a]
  rintro ⟨path, info, hlookup, _⟩
  cases hincoming : info.incoming with
  | true =>
      obtain ⟨n, hmem⟩ := h.incoming path info hlookup hincoming
      rw [hopen] at hmem
      cases hmem
  | false =>
      obtain ⟨device, hmem, _⟩ := h.outgoing path info hlookup hincoming
      rw [hpairing] at hmem
      cases hmem

/-! ### How the entries change -/

theorem Tracked.congr (h : s.Tracked) (hflag : t.mPairing = s.mPairing)
    (hentries : ∀ path, (t.mDevicePairings.lookup path).map (fun i => (i.adapter, i.incoming)) =
      (s.mDevicePairings.lookup path).map (fun i => (i.adapter, i.incoming)))
    (hpairing : s.pairing ⊆ t.pairing)
    (hopen : ∀ path info, s.mDevicePairings.lookup path = some info → info.incoming = true →
      (∃ n, (n, path) ∈ s.openIncoming) → ∃ n, (n, path) ∈ t.openIncoming) : t.Tracked := by
  have hback : ∀ {u v : PairingState} {path info},
      (u.mDevicePairings.lookup path).map (fun i => (i.adapter, i.incoming)) =
        (v.mDevicePairings.lookup path).map (fun i => (i.adapter, i.incoming)) →
      u.mDevicePairings.lookup path = some info → ∃ old, v.mDevicePairings.lookup path = some old ∧
        old.adapter = info.adapter ∧ old.incoming = info.incoming := by
    intro u v path info heq hlookup
    rw [hlookup, Option.map_some] at heq
    obtain ⟨old, hold, hpair⟩ := Option.map_eq_some_iff.mp heq.symm
    exact ⟨old, hold, congrArg Prod.fst hpair, congrArg Prod.snd hpair⟩
  refine ⟨fun a => ?_, ?_, ?_⟩
  · rw [hflag, h.tracks a]
    constructor
    · rintro ⟨path, info, hlookup, rfl⟩
      obtain ⟨new, hnew, hadapter, _⟩ := hback (hentries path).symm hlookup
      exact ⟨path, new, hnew, hadapter⟩
    · rintro ⟨path, info, hlookup, rfl⟩
      obtain ⟨old, hold, hadapter, _⟩ := hback (hentries path) hlookup
      exact ⟨path, old, hold, hadapter⟩
  · intro path info hlookup hincoming
    obtain ⟨old, hold, _, hsame⟩ := hback (hentries path) hlookup
    obtain ⟨device, hmem, hpath⟩ := h.outgoing path old hold (hsame.trans hincoming)
    exact ⟨device, hpairing hmem, hpath⟩
  · intro path info hlookup hincoming
    obtain ⟨old, hold, _, hsame⟩ := hback (hentries path) hlookup
    have hwas := hsame.trans hincoming
    exact hopen path old hold hwas (h.incoming path old hold hwas)

theorem Tracked.insert (h : s.Tracked)
    (hmap : t.mDevicePairings = s.mDevicePairings.insert path info)
    (hflag : t.mPairing = Function.update s.mPairing info.adapter true)
    (hnew : path ∉ s.mDevicePairings) (hpairing : s.pairing ⊆ t.pairing)
    (hopen : s.openIncoming ⊆ t.openIncoming)
    (hout : info.incoming = false → ∃ device ∈ t.pairing, device.mObjectPath = path)
    (hin : info.incoming = true → ∃ n, (n, path) ∈ t.openIncoming) : t.Tracked := by
  have hself : t.mDevicePairings.lookup path = some info := by rw [hmap, AList.lookup_insert]
  have hcases : ∀ {q old}, t.mDevicePairings.lookup q = some old →
      q = path ∧ old = info ∨ q ≠ path ∧ s.mDevicePairings.lookup q = some old := by
    intro q old hlookup
    rw [hmap] at hlookup
    exact KeyedMap.lookup_insert_cases hlookup
  refine ⟨fun a => ?_, ?_, ?_⟩
  · rw [hflag]
    by_cases ha : a = info.adapter
    · subst ha
      rw [Function.update_self]
      exact ⟨fun _ => ⟨path, info, hself, rfl⟩, fun _ => rfl⟩
    · rw [Function.update_of_ne ha, h.tracks a]
      constructor
      · rintro ⟨q, old, hold, hadapter⟩
        have hq : q ≠ path := by
          rintro rfl
          exact hnew (KeyedMap.mem_of_lookup hold)
        exact ⟨q, old, by rw [hmap, AList.lookup_insert_ne hq, hold], hadapter⟩
      · rintro ⟨q, old, hlookup, hadapter⟩
        rcases hcases hlookup with ⟨_, rfl⟩ | ⟨_, hold⟩
        · exact absurd hadapter.symm ha
        · exact ⟨q, old, hold, hadapter⟩
  · intro q old hlookup hincoming
    rcases hcases hlookup with ⟨rfl, rfl⟩ | ⟨_, hold⟩
    · exact hout hincoming
    · obtain ⟨device, hmem, hpath⟩ := h.outgoing q old hold hincoming
      exact ⟨device, hpairing hmem, hpath⟩
  · intro q old hlookup hincoming
    rcases hcases hlookup with ⟨rfl, rfl⟩ | ⟨_, hold⟩
    · exact hin hincoming
    · obtain ⟨n, hmem⟩ := h.incoming q old hold hincoming
      exact ⟨n, hopen hmem⟩

theorem Tracked.erase (h : s.Tracked) (honly : s.OnlyEntry a path)
    (hmap : t.mDevicePairings = s.mDevicePairings.erase path)
    (hflag : t.mPairing = Function.update s.mPairing a false) (hmem : path ∈ s.mDevicePairings)
    (hpairing : ∀ device ∈ s.pairing, device.mObjectPath ≠ path → device ∈ t.pairing)
    (hopen : ∀ q ∈ s.openIncoming, q.2 ≠ path → q ∈ t.openIncoming) : t.Tracked := by
  have hold : ∀ {q info}, t.mDevicePairings.lookup q = some info →
      q ≠ path ∧ s.mDevicePairings.lookup q = some info := by
    intro q info hlookup
    rw [hmap] at hlookup
    exact KeyedMap.lookup_erase_some hlookup
  obtain ⟨ended, hended⟩ := KeyedMap.exists_lookup hmem
  have hadapter : ended.adapter = a := (honly path ended hended).mpr rfl
  refine ⟨fun b => ?_, ?_, ?_⟩
  · rw [hflag]
    by_cases hb : b = a
    · subst hb
      rw [Function.update_self]
      refine ⟨nofun, ?_⟩
      rintro ⟨q, info, hlookup, hinfo⟩
      obtain ⟨hq, hwas⟩ := hold hlookup
      exact absurd ((honly q info hwas).mp hinfo) hq
    · rw [Function.update_of_ne hb, h.tracks b]
      constructor
      · rintro ⟨q, info, hlookup, rfl⟩
        have hq : q ≠ path := fun hq => hb ((honly q info hlookup).mpr hq)
        exact ⟨q, info, by rw [hmap, AList.lookup_erase_ne hq, hlookup], rfl⟩
      · rintro ⟨q, info, hlookup, hinfo⟩
        exact ⟨q, info, (hold hlookup).2, hinfo⟩
  · intro q info hlookup hincoming
    obtain ⟨hq, hwas⟩ := hold hlookup
    obtain ⟨device, hdevice, rfl⟩ := h.outgoing q info hwas hincoming
    exact ⟨device, hpairing device hdevice hq, rfl⟩
  · intro q info hlookup hincoming
    obtain ⟨hq, hwas⟩ := hold hlookup
    obtain ⟨n, hmem⟩ := h.incoming q info hwas hincoming
    exact ⟨n, hopen (n, q) hmem hq⟩

theorem Tracked.update_false (h : s.Tracked)
    (hnone : ∀ path info, s.mDevicePairings.lookup path = some info → info.adapter ≠ a) :
    Function.update s.mPairing a false = s.mPairing := by
  have hfree : s.mPairing a = false := by
    rw [← Bool.not_eq_true, h.tracks a]
    rintro ⟨path, info, hlookup, hadapter⟩
    exact hnone path info hlookup hadapter
  rw [← hfree, Function.update_eq_self]

theorem Tracked.frame (h : s.Tracked) (hflag : t.mPairing = s.mPairing)
    (hmap : t.mDevicePairings = s.mDevicePairings) (hpairing : t.pairing = s.pairing)
    (hopen : t.openIncoming = s.openIncoming) : t.Tracked := by
  refine h.congr hflag (fun _ => by rw [hmap]) ?_ fun _ _ _ _ hmem => ?_
  · rw [hpairing]
    exact List.Subset.refl _
  · rwa [hopen]

theorem Tracked.reply (h : s.Tracked) (error : PairError) : (s.reply error).Tracked :=
  h.frame rfl rfl rfl rfl

theorem Tracked.complete (h : s.Tracked) (invocation : Invocation) (r : AgentReply) :
    (s.complete invocation r).Tracked :=
  h.frame rfl rfl rfl rfl

/-- A request may be closed that is not about an incoming pairing, or not the only one about
it. -/
theorem Tracked.closeRequest (h : s.Tracked) {n : ℕ}
    (hbesides : ∀ info, s.mDevicePairings.lookup path = some info → info.incoming = true →
      (n, path) ∈ s.openIncoming → s.OpenBesides path n) : (s.closeRequest (n, path)).Tracked := by
  refine h.congr rfl (fun _ => rfl) (List.Subset.refl _) fun q info hlookup hincoming hopen => ?_
  obtain ⟨m, hm⟩ := hopen
  by_cases heq : (m, q) = (n, path)
  · cases heq
    obtain ⟨k, hne, hk⟩ := hbesides info hlookup hincoming hm
    exact ⟨k, List.mem_filter.mpr ⟨hk, decide_eq_true fun hsame => hne (congrArg Prod.fst hsame)⟩⟩
  · exact ⟨m, List.mem_filter.mpr ⟨hm, decide_eq_true heq⟩⟩

/-! ### Requests of BlueZ -/

/-- A request is about an entry, or finds none, or makes an entry for an incoming pairing. -/
theorem initiatePairing_begins (s : PairingState) (devices : Devices) (i : Invocation)
    {objectPath : Text} {adapter : Option ℕ}
    (hpath : s.Begins devices objectPath adapter → objectPath ≠ []) :
    (∃ info, s.initiatePairing devices i objectPath adapter = (s, some info) ∧
      s.mDevicePairings.lookup objectPath = some info) ∨
    (∃ u, s.initiatePairing devices i objectPath adapter = (u, none) ∧
      (u = s ∨ u = s.complete i .canceled)) ∨
    s.Begins devices objectPath adapter ∧ ∃ device, device.mObjectPath = objectPath ∧
      objectPath ∉ s.mDevicePairings ∧ s.initiatePairing devices i objectPath adapter =
        ((s.startPairingForDevice device true).1,
          some ⟨device.mAdapter, device.mAddress, true, none, none, none, none⟩) := by
  unfold initiatePairing
  cases hfind : s.findPairingInfoForDevice objectPath with
  | some info =>
      refine .inl ⟨info, rfl, ?_⟩
      unfold findPairingInfoForDevice at hfind
      split_ifs at hfind
      exact hfind
  | none =>
      cases adapter with
      | none => exact .inr (.inl ⟨s, rfl, .inl rfl⟩)
      | some a =>
          dsimp only
          cases hdevice : devices.findDeviceByObjectPath a objectPath with
          | none => exact .inr (.inl ⟨_, rfl, .inr rfl⟩)
          | some device =>
              obtain rfl : device.mObjectPath = objectPath := beq_iff_eq.mp
                (List.find?_some (p := fun d : Device => d.mObjectPath == objectPath) hdevice)
              dsimp only
              by_cases hmem : device.mObjectPath ∈ s.mDevicePairings
              · have hrefused : s.startPairingForDevice device true = (s, false) := if_pos hmem
                rw [hrefused]
                exact .inr (.inl ⟨_, rfl, .inr rfl⟩)
              · have hbegins : s.Begins devices device.mObjectPath (some a) :=
                  ⟨hfind, a, device, rfl, hdevice, hmem⟩
                have hstarted : (s.startPairingForDevice device true).2 = true := by
                  unfold startPairingForDevice
                  rw [if_neg hmem]
                have hfound : (s.startPairingForDevice device true).1.findPairingInfoForDevice
                    device.mObjectPath =
                      some ⟨device.mAdapter, device.mAddress, true, none, none, none, none⟩ := by
                  unfold findPairingInfoForDevice startPairingForDevice
                  rw [if_neg (hpath hbegins), if_neg hmem]
                  exact AList.lookup_insert _
                rw [if_pos hstarted, hfound]
                exact .inr (.inr ⟨hbegins, device, rfl, hmem, rfl⟩)

section

variable {method : AgentMethod} {keep : Invocation → PairingInfo → PairingInfo}
variable {notice : PairingInfo → PairingNotice} {atOnce : Option AgentReply}
variable {objectPath : Text} {adapter : Option ℕ}

theorem Tracked.slot (h : s.Tracked)
    (hkeep : ∀ i info, (keep i info).adapter = info.adapter ∧
      (keep i info).incoming = info.incoming) (i : Invocation) (objectPath : Text) :
    Tracked { s with mDevicePairings := s.mDevicePairings.modify objectPath (keep i) } := by
  refine h.congr rfl (fun path => ?_) (List.Subset.refl _) fun _ _ _ _ hmem => hmem
  by_cases hpath : path = objectPath
  · rw [hpath, KeyedMap.lookup_modify_self, Option.map_map]
    have hsame : ∀ info, ((keep i info).adapter, (keep i info).incoming) =
        (info.adapter, info.incoming) :=
      fun info => Prod.ext (hkeep i info).1 (hkeep i info).2
    exact congrFun (congrArg Option.map (funext hsame)) _
  · rw [KeyedMap.lookup_modify_ne hpath]

theorem Tracked.openRequest (h : s.Tracked) (info : PairingInfo) (request : ℕ × Text) :
    (s.openRequest info request).Tracked := by
  refine h.congr rfl (fun _ => rfl) (List.Subset.refl _) fun path _ _ _ hopen => ?_
  obtain ⟨n, hn⟩ := hopen
  refine ⟨n, ?_⟩
  unfold PairingState.openRequest
  dsimp only
  split_ifs
  · exact List.mem_cons_of_mem _ hn
  · exact hn

theorem Tracked.begin (h : s.Tracked) {device : Device}
    (hnew : device.mObjectPath ∉ s.mDevicePairings) (n : ℕ) :
    ((s.startPairingForDevice device true).1.openRequest
      ⟨device.mAdapter, device.mAddress, true, none, none, none, none⟩
      (n, device.mObjectPath)).Tracked := by
  unfold startPairingForDevice
  rw [if_neg hnew]
  exact h.insert rfl rfl hnew (List.Subset.refl _) (List.subset_cons_self _ _) nofun
    fun _ => ⟨n, List.mem_cons_self⟩

theorem Tracked.handleRequest (h : s.Tracked) (devices : Devices)
    (hkeep : ∀ i info, (keep i info).adapter = info.adapter ∧
      (keep i info).incoming = info.incoming)
    (hpath : s.Begins devices objectPath adapter → objectPath ≠ [])
    (hwaits : atOnce ≠ none → ¬ s.Begins devices objectPath adapter) :
    (s.handleRequest devices method keep notice atOnce objectPath adapter).Tracked := by
  unfold PairingState.handleRequest
  have hreceived : Tracked { s with received := s.received + 1 } := h.frame rfl rfl rfl rfl
  dsimp only
  rcases initiatePairing_begins { s with received := s.received + 1 } devices
    ⟨s.received, method⟩ hpath with ⟨info, heq, -⟩ | ⟨u, heq, hu⟩ |
    ⟨hbegins, device, rfl, hnew, heq⟩
  · rw [heq]
    have hslot := hreceived.slot hkeep ⟨s.received, method⟩ objectPath
    cases atOnce with
    | none =>
        refine Tracked.openRequest ?_ info _
        exact hslot.frame rfl rfl rfl rfl
    | some r => exact hslot.frame rfl rfl rfl rfl
  · rw [heq]
    rcases hu with rfl | rfl
    · exact hreceived.complete _ _
    · exact (hreceived.complete _ _).complete _ _
  · rw [heq]
    cases atOnce with
    | none =>
        have hopened := Tracked.begin hreceived hnew s.received
        exact (hopened.slot hkeep ⟨s.received, method⟩ device.mObjectPath).frame rfl rfl rfl rfl
    | some r => exact absurd hbegins (hwaits nofun)

end

/-! ### Pairings that end -/

/-- `t` is the state before the entry is taken out, with the call or the request that ends
the pairing taken off already. -/
theorem Tracked.stop (h : s.Tracked) {device : Device}
    (hmap : t.mDevicePairings = s.mDevicePairings) (hflag : t.mPairing = s.mPairing)
    (honly : device.mObjectPath ∈ s.mDevicePairings →
      s.OnlyEntry device.mAdapter device.mObjectPath)
    (hpairing : ∀ d ∈ s.pairing, d.mObjectPath ≠ device.mObjectPath → d ∈ t.pairing)
    (hopen : ∀ q ∈ s.openIncoming, q.2 ≠ device.mObjectPath → q ∈ t.openIncoming) :
    (t.stopPairingForDevice device).Tracked := by
  unfold stopPairingForDevice
  rw [hmap]
  split_ifs with hmem
  · refine h.erase (honly hmem) rfl ?_ hmem hpairing fun q hq hne =>
      List.mem_filter.mpr ⟨hopen q hq hne, decide_eq_true hne⟩
    change Function.update t.mPairing device.mAdapter false = _
    rw [hflag]
  · have hne : ∀ {path info}, s.mDevicePairings.lookup path = some info →
        path ≠ device.mObjectPath := by
      rintro _ _ hlookup rfl
      exact hmem (KeyedMap.mem_of_lookup hlookup)
    refine ⟨fun a => ?_, ?_, ?_⟩
    · rw [hmap, hflag]
      exact h.tracks a
    · intro path info hlookup hincoming
      rw [hmap] at hlookup
      obtain ⟨d, hd, rfl⟩ := h.outgoing path info hlookup hincoming
      exact ⟨d, hpairing d hd (hne hlookup), rfl⟩
    · intro path info hlookup hincoming
      rw [hmap] at hlookup
      obtain ⟨n, hn⟩ := h.incoming path info hlookup hincoming
      exact ⟨n, hopen (n, path) hn (hne hlookup)⟩

theorem Tracked.pairCallback (h : s.Tracked) {device : Device} {error : Reply}
    (honly : device.mObjectPath ∈ s.mDevicePairings →
      s.OnlyEntry device.mAdapter device.mObjectPath)
    (hstep : s.pairCallback device error = some t) : t.Tracked := by
  unfold PairingState.pairCallback at hstep
  split_ifs at hstep
  cases hstep
  refine Tracked.reply (Tracked.stop (t := { s with pairing := s.pairing.erase device }) h rfl
    rfl honly (fun d hd hne => ?_) fun q hq _ => hq) _
  exact (List.mem_erase_of_ne fun heq => hne (congrArg Device.mObjectPath heq)).mpr hd

theorem Tracked.agentSupplyPairingConfirmation (h : s.Tracked) {address : Text}
    {order : List Text} (accept : Bool)
    (honly : ∀ path info, s.findPairingInfoForAddress order address = some (path, info) →
      info.requestConfirmation ≠ none → info.incoming = true →
        ∃ device, devices.findDevice a address = some device ∧ device.mObjectPath = path ∧
          s.OnlyEntry device.mAdapter path) :
    (s.agentSupplyPairingConfirmation devices a address accept order).1.Tracked := by
  unfold PairingState.agentSupplyPairingConfirmation
  cases hfound : s.findPairingInfoForAddress order address with
  | none => exact h
  | some found =>
      obtain ⟨path, info⟩ := found
      dsimp only
      cases hslot : info.requestConfirmation with
      | none => exact h
      | some invocation =>
          have hlookup := findPairingInfoForAddress_some hfound
          cases hincoming : info.incoming with
          | true =>
              obtain ⟨device, hdevice, rfl, hthis⟩ := honly path info hfound
                (by rw [hslot]; nofun) hincoming
              dsimp only
              rw [if_pos rfl, hdevice]
              refine h.stop rfl rfl (fun _ => hthis) (fun _ hd _ => hd) fun q hq hne => ?_
              exact List.mem_filter.mpr
                ⟨hq, decide_eq_true fun heq => hne (congrArg Prod.snd heq)⟩
          | false =>
              refine (h.complete invocation _).closeRequest fun old hold hwas _ => ?_
              cases hlookup.symm.trans hold
              exact absurd (hincoming.symm.trans hwas) Bool.false_ne_true

theorem Tracked.agentSupplyPairingSecret (h : s.Tracked) {address : Text} {order : List Text}
    (hlast : s.SecretNotLast order address) (r : AgentReply) :
    (s.agentSupplyPairingSecret address r order).1.Tracked := by
  unfold PairingState.agentSupplyPairingSecret
  split
  · exact h
  · next path info hfound =>
    split
    · exact h
    · next i hslot =>
      refine (h.complete i r).closeRequest fun old hold hincoming _ => ?_
      cases (findPairingInfoForAddress_some hfound).symm.trans hold
      exact hlast path info hfound hincoming i hslot

/-! ### What a step keeps -/

theorem Tracked.pair (h : s.Tracked) {address : Text}
    (hguard : s.KeepsTrack devices (.pair a address)) : (s.pair devices a address).Tracked := by
  unfold PairingState.pair
  split_ifs with haddress hbusy
  · exact h.reply _
  · exact h.reply _
  · cases hdevice : devices.findDevice a address with
    | none => exact h.reply _
    | some device =>
        obtain ⟨hagent, hnew⟩ := hguard haddress (Bool.not_eq_true _ ▸ hbusy) device hdevice
        have hadapter : device.mAdapter = a := devices.adapter_eq hdevice
        unfold devicePair startPairingForDevice
        dsimp only [setPairing]
        rw [if_pos hagent, if_neg hnew]
        refine h.insert rfl ?_ hnew (List.subset_cons_self _ _) (List.Subset.refl _)
          (fun _ => ⟨device, List.mem_cons_self, rfl⟩) nofun
        rw [← hadapter]
        exact Function.update_idem _ _ _

theorem agentCancelPairing_of_none {address : Text} {order : List Text}
    (hnone : ∀ path info, s.findPairingInfoForAddress order address = some (path, info) →
      info.cancelled = none) : s.agentCancelPairing address order = (s, false) := by
  unfold agentCancelPairing
  cases hfound : s.findPairingInfoForAddress order address with
  | none => rfl
  | some found =>
      dsimp only
      rw [hnone found.1 found.2 hfound]

theorem Tracked.cancelPairing (h : s.Tracked) {address : Text} {order : List Text}
    (hguard : s.KeepsTrack devices (.cancelPairing a address order))
    (hstep : s.cancelPairing devices a address order = some t) : t.Tracked := by
  rcases cancelPairing_cases hstep with
    ⟨_, ⟨error, rfl⟩ | ⟨device, rfl⟩⟩ | ⟨hpairing, ⟨device, hdevice, hcurrent⟩, u, hagent⟩
  · exact h.reply error
  · exact h.frame rfl rfl rfl rfl
  · rw [agentCancelPairing_of_none (hguard hpairing device hdevice hcurrent)] at hagent
    rcases hagent with ⟨hasked, _⟩ | ⟨hasked, rfl⟩
    · cases hasked
    · cases hasked
      exact h.reply _

theorem Tracked.cancelPairingCallback (h : s.Tracked) {device : Device} {error : Reply}
    (hguard : s.KeepsTrack devices (.cancelFinished device error))
    (hstep : s.cancelPairingCallback device error = some t) : t.Tracked := by
  unfold PairingState.cancelPairingCallback at hstep
  split_ifs at hstep
  cases error with
  | some message =>
      cases hstep
      exact h.frame rfl rfl rfl rfl
  | none =>
      cases hstep
      exact h.frame (h.update_false hguard) rfl rfl rfl

theorem Tracked.unpair (h : s.Tracked) (devices : Devices) (a : ℕ) (address : Text) :
    (s.unpair devices a address).Tracked := by
  unfold PairingState.unpair
  split_ifs
  · exact h.reply _
  · split
    · exact h.reply _
    · exact h.frame rfl rfl rfl rfl

theorem Tracked.unPairCallback (h : s.Tracked) {error : Reply}
    (hstep : s.unPairCallback a error = some t) : t.Tracked := by
  obtain ⟨_, hcall⟩ := Option.ite_none_right_eq_some.mp hstep
  cases error <;> (cases hcall; exact h.frame rfl rfl rfl rfl)

theorem Tracked.supplyPairingConfirmation (h : s.Tracked) {address : Text} {order : List Text}
    {accept : Bool}
    (hguard : s.KeepsTrack devices (.supplyPairingConfirmation a address accept order)) :
    (s.supplyPairingConfirmation devices a address accept order).1.Tracked := by
  have hsupply := h.agentSupplyPairingConfirmation accept hguard
  unfold PairingState.supplyPairingConfirmation
  split_ifs
  · exact h
  · split
    · next heq => rwa [heq] at hsupply
    · next heq => rwa [heq] at hsupply
  · exact h

theorem Tracked.supplyPasskey (h : s.Tracked) {address : Text} {order : List Text}
    (hguard : s.mAgent = true → s.SecretNotLast order address) (passkey : UInt32) :
    (s.supplyPasskey address passkey order).1.Tracked := by
  unfold PairingState.supplyPasskey
  split_ifs with _ hagent
  · exact h
  · exact h.agentSupplyPairingSecret (hguard hagent) _
  · exact h

theorem Tracked.supplyPin (h : s.Tracked) {address pin : Text} {order : List Text}
    (hguard : s.mAgent = true → pin ≠ [] → s.SecretNotLast order address) :
    (s.supplyPin address pin order).1.Tracked := by
  unfold PairingState.supplyPin agentSupplyPin
  split_ifs with _ hpin hagent
  · exact h
  · exact h
  · exact h.agentSupplyPairingSecret (hguard hagent hpin) _
  · exact h

theorem Tracked.handleCancel (h : s.Tracked) {request : ℕ × Text} (defaultAdapter : Option ℕ)
    (hguard : s.KeepsTrack devices (.cancel request defaultAdapter)) :
    (s.handleCancel request defaultAdapter).Tracked := by
  have hclosed : (s.closeRequest request).Tracked := h.closeRequest hguard
  unfold PairingState.handleCancel
  dsimp only
  split_ifs
  · exact hclosed.frame rfl rfl rfl rfl
  · exact hclosed

theorem Tracked.step {e : PairingEvent} (h : s.Tracked) (hguard : s.KeepsTrack devices e)
    (hstep : s.step devices e = some t) : t.Tracked := by
  cases e with
  | createAgent =>
      cases hstep
      exact h.frame rfl rfl rfl rfl
  | deleteAgent =>
      cases hstep
      refine h.congr rfl (fun _ => by rw [hguard]) (List.Subset.refl _) fun path info hlookup => ?_
      rw [hguard, AList.lookup_empty] at hlookup
      cases hlookup
  | pair a address =>
      cases hstep
      exact h.pair hguard
  | pairFinished device error => exact h.pairCallback hguard hstep
  | cancelPairing a address order => exact h.cancelPairing hguard hstep
  | cancelFinished device error => exact h.cancelPairingCallback hguard hstep
  | unpair a address =>
      cases hstep
      exact h.unpair devices a address
  | unpairFinished a error => exact h.unPairCallback hstep
  | supplyPairingConfirmation a address accept order =>
      cases hstep
      exact h.supplyPairingConfirmation hguard
  | supplyPasskey a address passkey order =>
      cases hstep
      exact h.supplyPasskey hguard passkey
  | supplyPin a address pin order =>
      cases hstep
      exact h.supplyPin hguard
  | displayPasskey objectPath passkey adapter =>
      obtain ⟨_, hcall⟩ := Option.ite_none_right_eq_some.mp hstep
      cases hcall
      exact h.handleRequest devices (fun _ _ => ⟨rfl, rfl⟩) (fun hbegins => absurd hbegins hguard)
        fun _ => hguard
  | displayPinCode objectPath pincode adapter =>
      obtain ⟨_, hcall⟩ := Option.ite_none_right_eq_some.mp hstep
      cases hcall
      exact h.handleRequest devices (fun _ _ => ⟨rfl, rfl⟩) (fun hbegins => absurd hbegins hguard)
        fun _ => hguard
  | requestConfirmation objectPath passkey adapter =>
      obtain ⟨_, hcall⟩ := Option.ite_none_right_eq_some.mp hstep
      cases hcall
      exact h.handleRequest devices (fun _ _ => ⟨rfl, rfl⟩) hguard fun hnone => absurd rfl hnone
  | requestPasskey objectPath adapter =>
      obtain ⟨_, hcall⟩ := Option.ite_none_right_eq_some.mp hstep
      cases hcall
      exact h.handleRequest devices (fun _ _ => ⟨rfl, rfl⟩) hguard fun hnone => absurd rfl hnone
  | requestPinCode objectPath adapter =>
      obtain ⟨_, hcall⟩ := Option.ite_none_right_eq_some.mp hstep
      cases hcall
      exact h.handleRequest devices (fun _ _ => ⟨rfl, rfl⟩) hguard fun hnone => absurd rfl hnone
  | cancel request defaultAdapter =>
      obtain ⟨_, hcall⟩ := Option.ite_none_right_eq_some.mp hstep
      cases hcall
      exact h.handleCancel defaultAdapter hguard

end PairingState

/-- While the condition is met, an adapter is pairing if and only if the agent has an entry
for one of its devices, and once every pairing has ended no adapter refuses a new one as
busy. -/
theorem pairing_tracked (devices : Devices) (s : PairingState)
    (hs : (pairingMachine devices).ReachWith (PairingState.KeepsTrack · devices) s) :
    s.Tracks ∧ s.FreeWhenDone devices := by
  have htracked : s.Tracked :=
    hs.invariant (P := PairingState.Tracked) PairingState.tracked_init fun _ _ _ h he hstep =>
      h.step he hstep
  exact ⟨htracked.tracks, htracked.freeWhenDone devices⟩

theorem onlyEntry_of_entries {s : PairingState} {a : ℕ} {path : Text} {info : PairingInfo}
    (h : s.mDevicePairings.entries = [⟨path, info⟩]) (hinfo : info.adapter = a) :
    s.OnlyEntry a path := by
  intro q other hlookup
  have hentry := AList.mem_lookup_iff.mp hlookup
  rw [h] at hentry
  cases List.mem_singleton.mp hentry
  exact iff_of_true hinfo rfl

/-- An outgoing pairing that is confirmed and succeeds, and then an incoming one. -/
theorem pairing_tracked_confirmed : ∃ s : PairingState, s.replies = [.none] ∧
    s.completions = [(⟨1, .requestConfirmation⟩, .requestConfirmation),
      (⟨0, .requestConfirmation⟩, .requestConfirmation)] ∧
    s.Tracks ∧ s.FreeWhenDone onePhone := by
  have hagent := Machine.ReachWith.step (M := pairingMachine onePhone)
    (G := (PairingState.KeepsTrack · onePhone)) (e := .createAgent) .init trivial rfl
  have hpair := Machine.ReachWith.step (M := pairingMachine onePhone)
    (G := (PairingState.KeepsTrack · onePhone)) (e := .pair 0 "aa:00".toList) hagent
    (fun _ _ _ _ => ⟨rfl, nofun⟩) rfl
  have hrequest := Machine.ReachWith.step (M := pairingMachine onePhone)
    (G := (PairingState.KeepsTrack · onePhone))
    (e := .requestConfirmation "/hci0/dev_AA".toList 1234 (some 0)) hpair (fun _ => nofun) rfl
  have hconfirm := Machine.ReachWith.step (M := pairingMachine onePhone)
    (G := (PairingState.KeepsTrack · onePhone))
    (e := .supplyPairingConfirmation 0 "aa:00".toList true []) hrequest
    (by
      intro path info hfound _ hincoming
      obtain ⟨_, rfl⟩ := Prod.mk.inj (Option.some.inj hfound)
      exact absurd hincoming Bool.false_ne_true) rfl
  have hdone := Machine.ReachWith.step (M := pairingMachine onePhone)
    (G := (PairingState.KeepsTrack · onePhone)) (e := .pairFinished phone none) hconfirm
    (fun _ => onlyEntry_of_entries rfl rfl) rfl
  have hincoming := Machine.ReachWith.step (M := pairingMachine onePhone)
    (G := (PairingState.KeepsTrack · onePhone))
    (e := .requestConfirmation "/hci0/dev_AA".toList 5678 (some 0)) hdone (fun _ => nofun) rfl
  have hended := Machine.ReachWith.step (M := pairingMachine onePhone)
    (G := (PairingState.KeepsTrack · onePhone))
    (e := .supplyPairingConfirmation 0 "aa:00".toList true []) hincoming
    (by
      intro path info hfound _ _
      obtain ⟨rfl, rfl⟩ := Prod.mk.inj (Option.some.inj hfound)
      exact ⟨phone, rfl, rfl, onlyEntry_of_entries rfl rfl⟩) rfl
  exact ⟨_, rfl, rfl, pairing_tracked onePhone _ hended⟩

/-- Without an agent the adapter is left pairing with no entry. -/
theorem pairing_tracked_unassigned : ¬ ∀ (devices : Devices) (s : PairingState),
    (pairingMachine devices).Reach s → s.Tracks ∧ s.FreeWhenDone devices := by
  intro h
  have hrun : ∃ t, (pairingMachine onePhone).run (pairingMachine onePhone).init
      [.pair 0 "aa:00".toList] = some t ∧ t.mPairing 0 = true ∧ t.mDevicePairings = ∅ :=
    ⟨_, rfl, rfl, rfl⟩
  obtain ⟨t, hrun, hflag, hmap⟩ := hrun
  obtain ⟨path, info, hlookup, _⟩ :=
    ((h onePhone t (Machine.reach_of_run _ hrun)).1 0).mp hflag
  rw [hmap, AList.lookup_empty] at hlookup
  cases hlookup

end BluezSil.Pairing
