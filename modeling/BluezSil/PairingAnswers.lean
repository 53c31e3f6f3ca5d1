import BluezSil.PairingAgent
import Mathlib.Data.List.Nodup
import Mathlib.Order.Basic

/-!
# Answers to the requests of BlueZ

The slots of an entry keep an invocation after it has been completed, and a request for a
passkey and one for a PIN code share a slot. Whether an answer of the user completes an
invocation once and in kind depends on what the slot of the entry holds when it comes.
-/

namespace BluezSil.Pairing

open TransitionRun

def AgentReply.answers : AgentReply → AgentMethod → Bool
  | .displayPasskey, method => method = .displayPasskey
  | .displayPinCode, method => method = .displayPinCode
  | .requestConfirmation, method => method = .requestConfirmation
  | .requestPasskey _, method => method = .requestPasskey
  | .requestPinCode _, method => method = .requestPinCode
  | .canceled, _ => true
  | .rejected, _ => true
  | .unknownMethod, _ => true

/-- No invocation is completed twice, and each one only in kind. -/
def InKind (completions : List (Invocation × AgentReply)) : Prop :=
  (completions.map fun c => c.1.serial).Nodup ∧
    ∀ c ∈ completions, c.2.answers c.1.method = true

namespace PairingState

variable (s : PairingState)

def Unanswered (invocation : Invocation) : Prop :=
  invocation.serial ∉ s.completions.map fun c => c.1.serial

def invocationFor (order : List Text) (address : Text)
    (slot : PairingInfo → Option Invocation) : Option Invocation :=
  (s.findPairingInfoForAddress order address).bind fun found => slot found.2

/-- The device of the path has an entry, or is known to the adapter the path is routed to.
Where no adapter is found the request is declined without an answer. -/
def Known (devices : Devices) (objectPath : Text) (adapter : Option ℕ) : Prop :=
  adapter = none ∨ objectPath ≠ [] ∧ (objectPath ∈ s.mDevicePairings ∨
    ∃ a device, adapter = some a ∧ devices.findDeviceByObjectPath a objectPath = some device)

/-- An answer or a cancellation finds no invocation, or one that has not been completed, which
for a passkey or a PIN code is a request for it. A request is for a device that is known. -/
def AnswersOpen (devices : Devices) : PairingEvent → Prop
  | .supplyPairingConfirmation _ address _ order => s.mAgent = true →
      ∀ i, s.invocationFor order address PairingInfo.requestConfirmation = some i →
        s.Unanswered i
  | .supplyPasskey _ address _ order => s.mAgent = true →
      ∀ i, s.invocationFor order address PairingInfo.requestPairingSecret = some i →
        s.Unanswered i ∧ i.method = .requestPasskey
  | .supplyPin _ address pin order => s.mAgent = true → pin ≠ [] →
      ∀ i, s.invocationFor order address PairingInfo.requestPairingSecret = some i →
        s.Unanswered i ∧ i.method = .requestPinCode
  | .cancelPairing a address order => s.mPairing a = true →
      ∀ device, devices.findDevice a address = some device →
        some device ≠ s.mCurrentPairingDevice a →
          ∀ i, s.invocationFor order address PairingInfo.cancelled = some i → s.Unanswered i
  | .displayPasskey objectPath _ adapter => s.Known devices objectPath adapter
  | .displayPinCode objectPath _ adapter => s.Known devices objectPath adapter
  | .requestConfirmation objectPath _ adapter => s.Known devices objectPath adapter
  | .requestPasskey objectPath adapter => s.Known devices objectPath adapter
  | .requestPinCode objectPath adapter => s.Known devices objectPath adapter
  | _ => True

end PairingState

/-! ### Completions -/

theorem inKind_nil : InKind [] := ⟨List.nodup_nil, nofun⟩

theorem inKind_cons_iff {i : Invocation} {r : AgentReply}
    {completions : List (Invocation × AgentReply)} :
    InKind ((i, r) :: completions) ↔
      InKind completions ∧ i.serial ∉ completions.map (fun c => c.1.serial) ∧
        r.answers i.method = true := by
  unfold InKind
  rw [List.map_cons, List.nodup_cons, List.forall_mem_cons]
  tauto

theorem inKind_answer_iff {slot : Option Invocation} {r : AgentReply}
    {completions : List (Invocation × AgentReply)} (h : InKind completions) :
    InKind ((slot.map fun i => (i, r)).toList ++ completions) ↔
      ∀ i, slot = some i → i.serial ∉ completions.map (fun c => c.1.serial) ∧
        r.answers i.method = true := by
  cases slot with
  | none => exact ⟨fun _ => nofun, fun _ => h⟩
  | some i =>
      change InKind ((i, r) :: completions) ↔ _
      rw [inKind_cons_iff]
      constructor
      · rintro ⟨_, hopen⟩ j hj
        obtain rfl := Option.some.inj hj
        exact hopen
      · exact fun hopen => ⟨h, hopen i rfl⟩

/-! ### The slots -/

/-- What the slots of an entry hold once `n` invocations have been received. -/
structure PairingInfo.Kept (info : PairingInfo) (n : ℕ) : Prop where
  confirmation : ∀ i, info.requestConfirmation = some i →
    i.serial < n ∧ i.method = .requestConfirmation
  authorization : info.requestAuthorization = none
  secret : ∀ i, info.requestPairingSecret = some i → i.serial < n

theorem PairingInfo.Kept.mono {info : PairingInfo} {m n : ℕ} (h : info.Kept m) (hmn : m ≤ n) :
    info.Kept n :=
  ⟨fun i hi => ⟨Nat.lt_of_lt_of_le (h.confirmation i hi).1 hmn, (h.confirmation i hi).2⟩,
    h.authorization, fun i hi => Nat.lt_of_lt_of_le (h.secret i hi) hmn⟩

theorem PairingInfo.Kept.cancelled_lt {info : PairingInfo} {n : ℕ} (h : info.Kept n)
    {i : Invocation} (hi : info.cancelled = some i) : i.serial < n := by
  unfold PairingInfo.cancelled at hi
  rw [h.authorization, Option.none_or] at hi
  rcases Option.or_eq_some_iff.mp hi with hconfirmation | ⟨_, hsecret⟩
  · exact (h.confirmation i hconfirmation).1
  · exact h.secret i hsecret

section

variable {info : PairingInfo} {n : ℕ} {i : Invocation}

theorem PairingInfo.Kept.display (h : info.Kept n) :
    PairingInfo.Kept { info with displayPairingSecret := some i } n :=
  ⟨h.confirmation, h.authorization, h.secret⟩

theorem PairingInfo.Kept.confirm (h : info.Kept n) (hi : i.serial < n)
    (hmethod : i.method = .requestConfirmation) :
    PairingInfo.Kept { info with requestConfirmation := some i } n :=
  ⟨fun _ hj => Option.some.inj hj ▸ ⟨hi, hmethod⟩, h.authorization, h.secret⟩

theorem PairingInfo.Kept.ask (h : info.Kept n) (hi : i.serial < n) :
    PairingInfo.Kept { info with requestPairingSecret := some i } n :=
  ⟨h.confirmation, h.authorization, fun _ hj => Option.some.inj hj ▸ hi⟩

end

namespace PairingState

variable {s t : PairingState} {devices : Devices} {path : Text} {info : PairingInfo}
variable {order : List Text} {address : Text} {device : Device} {i : Invocation}

/-- Invocations are completed, and kept in their slots, after they have been received. -/
structure Slots (s : PairingState) : Prop where
  completed_lt : ∀ c ∈ s.completions, c.1.serial < s.received
  kept : ∀ path info, s.mDevicePairings.lookup path = some info → info.Kept s.received

theorem slots_init : Slots {} where
  completed_lt := nofun
  kept := fun path info h => by
    rw [AList.lookup_empty] at h
    cases h

theorem Slots.change (h : s.Slots) (hreceived : s.received ≤ t.received)
    (hcompletions : ∀ c ∈ t.completions, c ∈ s.completions ∨ c.1.serial < t.received)
    (hentries : ∀ path info, t.mDevicePairings.lookup path = some info →
      s.mDevicePairings.lookup path = some info ∨ info.Kept t.received) : t.Slots where
  completed_lt := fun c hc =>
    (hcompletions c hc).elim
      (fun hold => Nat.lt_of_lt_of_le (h.completed_lt c hold) hreceived) id
  kept := fun path info hlookup =>
    (hentries path info hlookup).elim (fun hold => (h.kept path info hold).mono hreceived) id

theorem Slots.frame (h : s.Slots) (hreceived : t.received = s.received)
    (hcompletions : t.completions = s.completions)
    (hentries : ∀ path info, t.mDevicePairings.lookup path = some info →
      s.mDevicePairings.lookup path = some info) : t.Slots :=
  h.change hreceived.ge (fun _ hc => .inl (hcompletions ▸ hc))
    fun path info hlookup => .inl (hentries path info hlookup)

theorem Slots.complete (h : s.Slots) (hi : i.serial < s.received) (r : AgentReply) :
    (s.complete i r).Slots :=
  h.change le_rfl
    (fun _ hc => (List.mem_cons.mp hc).symm.imp_right fun heq => by
      rw [heq]
      exact hi)
    fun _ _ hlookup => .inl hlookup

theorem Slots.invocationFor (h : s.Slots) {slot : PairingInfo → Option Invocation}
    (hi : s.invocationFor order address slot = some i) :
    ∃ info : PairingInfo, info.Kept s.received ∧ slot info = some i := by
  obtain ⟨found, hfound, hslot⟩ := Option.bind_eq_some_iff.mp hi
  exact ⟨found.2, h.kept found.1 found.2 (findPairingInfoForAddress_some hfound), hslot⟩

/-! ### Entries that come and go -/

theorem start_lookup {incoming : Bool}
    (h : (s.startPairingForDevice device incoming).1.mDevicePairings.lookup path = some info) :
    s.mDevicePairings.lookup path = some info ∨ ∀ n, info.Kept n := by
  unfold startPairingForDevice at h
  by_cases hmem : device.mObjectPath ∈ s.mDevicePairings
  · rw [if_pos hmem] at h
    exact .inl h
  · rw [if_neg hmem] at h
    change AList.lookup path (s.mDevicePairings.insert device.mObjectPath _) = some info at h
    rcases KeyedMap.lookup_insert_cases h with ⟨_, rfl⟩ | ⟨_, hold⟩
    · exact .inr fun _ => ⟨nofun, rfl, nofun⟩
    · exact .inl hold

theorem start_frame (s : PairingState) (device : Device) (incoming : Bool) :
    (s.startPairingForDevice device incoming).1.received = s.received ∧
      (s.startPairingForDevice device incoming).1.completions = s.completions := by
  unfold startPairingForDevice
  split_ifs <;> exact ⟨rfl, rfl⟩

theorem start_of_not_mem (h : device.mObjectPath ∉ s.mDevicePairings) (incoming : Bool) :
    (s.startPairingForDevice device incoming).2 = true ∧
      device.mObjectPath ∈ (s.startPairingForDevice device incoming).1.mDevicePairings := by
  unfold startPairingForDevice
  rw [if_neg h]
  exact ⟨rfl, (AList.mem_insert _).mpr (.inl rfl)⟩

theorem stop_lookup (h : (s.stopPairingForDevice device).mDevicePairings.lookup path = some info) :
    s.mDevicePairings.lookup path = some info := by
  unfold stopPairingForDevice at h
  split_ifs at h with hmem
  · exact (KeyedMap.lookup_erase_some h).2
  · exact h

theorem stop_frame (s : PairingState) (device : Device) :
    (s.stopPairingForDevice device).received = s.received ∧
      (s.stopPairingForDevice device).completions = s.completions := by
  unfold stopPairingForDevice
  split_ifs <;> exact ⟨rfl, rfl⟩

theorem Slots.start (h : s.Slots) (device : Device) (incoming : Bool) :
    (s.startPairingForDevice device incoming).1.Slots := by
  obtain ⟨hreceived, hcompletions⟩ := start_frame s device incoming
  refine h.change hreceived.ge (fun c hc => .inl (hcompletions ▸ hc)) fun path info hlookup => ?_
  exact (start_lookup hlookup).imp_right fun hkept => hkept _

theorem Slots.stop (h : s.Slots) (device : Device) : (s.stopPairingForDevice device).Slots :=
  h.frame (stop_frame s device).1 (stop_frame s device).2 fun _ _ => stop_lookup

/-! ### Requests -/

theorem findPairingInfoForDevice_eq_none :
    s.findPairingInfoForDevice path = none ↔ path = [] ∨ path ∉ s.mDevicePairings := by
  unfold findPairingInfoForDevice
  split_ifs with hpath
  · exact ⟨fun _ => .inl hpath, fun _ => rfl⟩
  · rw [AList.lookup_eq_none]
    exact ⟨.inr, fun h => h.resolve_left hpath⟩

theorem known_iff_of_none {objectPath : Text} {a : ℕ}
    (h : s.findPairingInfoForDevice objectPath = none) :
    s.Known devices objectPath (some a) ↔ objectPath ≠ [] ∧
      ∃ device, devices.findDeviceByObjectPath a objectPath = some device := by
  constructor
  · rintro (hadapter | ⟨hpath, hmem | ⟨b, device, hb, hfound⟩⟩)
    · cases hadapter
    · exact absurd hmem ((findPairingInfoForDevice_eq_none.mp h).resolve_left hpath)
    · cases hb
      exact ⟨hpath, device, hfound⟩
  · rintro ⟨hpath, device, hfound⟩
    exact .inr ⟨hpath, .inr ⟨a, device, rfl, hfound⟩⟩

theorem find_start (hpath : device.mObjectPath ≠ []) (hnew : device.mObjectPath ∉ s.mDevicePairings)
    (incoming : Bool) : ∃ info,
      (s.startPairingForDevice device incoming).1.findPairingInfoForDevice device.mObjectPath =
        some info := by
  apply Option.ne_none_iff_exists'.mp
  rw [Ne, findPairingInfoForDevice_eq_none, not_or, not_not]
  exact ⟨hpath, (start_of_not_mem hnew incoming).2⟩

theorem initiatePairing_cases (s : PairingState) (devices : Devices) (i : Invocation)
    (objectPath : Text) (adapter : Option ℕ) :
    s.Known devices objectPath adapter ∧
        (s.initiatePairing devices i objectPath adapter).1.completions = s.completions ∨
      ¬ s.Known devices objectPath adapter ∧
        (s.initiatePairing devices i objectPath adapter).2 = none ∧
        (s.initiatePairing devices i objectPath adapter).1.completions =
          (i, .canceled) :: s.completions := by
  unfold initiatePairing
  cases hfind : s.findPairingInfoForDevice objectPath with
  | some info =>
      have hentry : ¬ (objectPath = [] ∨ objectPath ∉ s.mDevicePairings) := by
        rw [← findPairingInfoForDevice_eq_none, hfind]
        nofun
      rw [not_or, not_not] at hentry
      exact .inl ⟨.inr ⟨hentry.1, .inl hentry.2⟩, rfl⟩
  | none =>
      cases adapter with
      | none => exact .inl ⟨.inl rfl, rfl⟩
      | some a =>
          rw [known_iff_of_none hfind]
          dsimp only
          cases hdevice : devices.findDeviceByObjectPath a objectPath with
          | none => exact .inr ⟨fun ⟨_, _, hfound⟩ => (nomatch hfound), rfl, rfl⟩
          | some device =>
              obtain rfl : device.mObjectPath = objectPath := beq_iff_eq.mp
                (List.find?_some (p := fun d : Device => d.mObjectPath == objectPath) hdevice)
              have hcompletions := (start_frame s device true).2
              dsimp only
              by_cases hpath : device.mObjectPath = []
              · have hempty : ∀ u : PairingState,
                    u.findPairingInfoForDevice device.mObjectPath = none :=
                  fun u => findPairingInfoForDevice_eq_none.mpr (.inl hpath)
                rw [hempty]
                refine .inr ⟨fun hknown => hknown.1 hpath, ?_, ?_⟩
                · split_ifs <;> rfl
                · split_ifs <;> exact congrArg (List.cons (i, AgentReply.canceled)) hcompletions
              · have hnew := (findPairingInfoForDevice_eq_none.mp hfind).resolve_left hpath
                obtain ⟨info, hfound⟩ := find_start hpath hnew true
                rw [if_pos (start_of_not_mem hnew true).1, hfound]
                exact .inl ⟨⟨hpath, device, rfl⟩, hcompletions⟩

theorem Slots.initiate (h : s.Slots) (devices : Devices) (hi : i.serial < s.received)
    (objectPath : Text) (adapter : Option ℕ) :
    (s.initiatePairing devices i objectPath adapter).1.Slots ∧
      (s.initiatePairing devices i objectPath adapter).1.received = s.received := by
  obtain ⟨u, hu, hstate⟩ := initiatePairing_state s devices i objectPath adapter
  have hslots : u.Slots ∧ u.received = s.received := by
    rcases hu with rfl | ⟨device, rfl⟩
    · exact ⟨h, rfl⟩
    · exact ⟨h.start device true, (start_frame s device true).1⟩
  rcases hstate with hstate | hstate <;> rw [hstate]
  · exact hslots
  · exact ⟨hslots.1.complete (hslots.2 ▸ hi) _, hslots.2⟩

section

variable {method : AgentMethod} {keep : Invocation → PairingInfo → PairingInfo}
variable {notice : PairingInfo → PairingNotice} {atOnce : Option AgentReply}
variable {objectPath : Text} {adapter : Option ℕ}

theorem Slots.handleRequest (h : s.Slots) (devices : Devices)
    (hkeep : ∀ {j info n}, PairingInfo.Kept info n → j.serial < n → j.method = method →
      (keep j info).Kept n) :
    (s.handleRequest devices method keep notice atOnce objectPath adapter).Slots := by
  unfold PairingState.handleRequest
  have hcounted : Slots { s with received := s.received + 1 } :=
    h.change (Nat.le_succ _) (fun _ hc => .inl hc) fun _ _ hlookup => .inl hlookup
  obtain ⟨hinitiate, hreceived⟩ := hcounted.initiate devices (i := ⟨s.received, method⟩)
    (Nat.lt_succ_self _) objectPath adapter
  dsimp only
  split
  · next u heq =>
    rw [heq] at hinitiate hreceived
    exact hinitiate.complete (hreceived ▸ Nat.lt_succ_self _) _
  · next u info heq =>
    rw [heq] at hinitiate hreceived
    have hlt : s.received < u.received := hreceived ▸ Nat.lt_succ_self _
    have hslot : Slots { u with
        mDevicePairings := u.mDevicePairings.modify objectPath (keep ⟨s.received, method⟩) } := by
      refine ⟨hinitiate.completed_lt, fun path info hlookup => ?_⟩
      by_cases hpath : path = objectPath
      · subst hpath
        change AList.lookup path (u.mDevicePairings.modify path _) = some info at hlookup
        rw [KeyedMap.lookup_modify_self] at hlookup
        obtain ⟨old, hold, rfl⟩ := Option.map_eq_some_iff.mp hlookup
        exact hkeep (hinitiate.kept path old hold) hlt rfl
      · change AList.lookup path (u.mDevicePairings.modify objectPath _) = some info at hlookup
        rw [KeyedMap.lookup_modify_ne hpath] at hlookup
        exact hinitiate.kept path info hlookup
    cases atOnce with
    | none => exact hslot.frame rfl rfl fun _ _ => id
    | some r => exact (hslot.complete hlt r).frame rfl rfl fun _ _ => id

/-- A request that is for an unknown device is completed twice. -/
theorem Slots.handleRequest_iff (hs : s.Slots) (h : InKind s.completions)
    (hatOnce : ∀ r, atOnce = some r → r.answers method = true) :
    InKind (s.handleRequest devices method keep notice atOnce objectPath adapter).completions ↔
      s.Known devices objectPath adapter := by
  have hfresh : s.received ∉ s.completions.map fun c => c.1.serial := by
    intro hmem
    obtain ⟨c, hc, hserial⟩ := List.mem_map.mp hmem
    exact Nat.lt_irrefl _ (hserial ▸ hs.completed_lt c hc)
  unfold PairingState.handleRequest
  dsimp only
  rcases initiatePairing_cases { s with received := s.received + 1 } devices
    ⟨s.received, method⟩ objectPath adapter with ⟨hknown, hc⟩ | ⟨hunknown, hnone, hc⟩
  · refine iff_of_true ?_ hknown
    split
    · next u heq =>
      rw [heq] at hc
      change InKind ((_, .unknownMethod) :: u.completions)
      rw [hc, inKind_cons_iff]
      exact ⟨h, hfresh, rfl⟩
    · next u info heq =>
      rw [heq] at hc
      cases atOnce with
      | none =>
          change InKind u.completions
          rw [hc]
          exact h
      | some r =>
          change InKind ((_, r) :: u.completions)
          rw [hc, inKind_cons_iff]
          exact ⟨h, hfresh, hatOnce r rfl⟩
  · refine iff_of_false ?_ hunknown
    split
    · next u heq =>
      rw [heq] at hc
      change ¬ InKind ((_, .unknownMethod) :: u.completions)
      rw [hc, inKind_cons_iff]
      exact fun htwice => htwice.2.1 List.mem_cons_self
    · next u info heq =>
      rw [heq] at hnone
      cases hnone

end

/-! ### Answers of the user -/

theorem invocationFor_of_empty {slot : PairingInfo → Option Invocation} :
    s.invocationFor order [] slot = none := by
  unfold invocationFor findPairingInfoForAddress
  rw [if_pos rfl, Option.bind_none]

theorem agentSupplyPairingSecret_completions (s : PairingState) (address : Text)
    (r : AgentReply) (order : List Text) :
    (s.agentSupplyPairingSecret address r order).1.completions =
      ((s.invocationFor order address PairingInfo.requestPairingSecret).map
        fun i => (i, r)).toList ++ s.completions := by
  unfold agentSupplyPairingSecret invocationFor
  cases s.findPairingInfoForAddress order address with
  | none => rfl
  | some found =>
      dsimp only [Option.bind_some]
      cases found.2.requestPairingSecret <;> rfl

theorem agentCancelPairing_completions (s : PairingState) (address : Text)
    (order : List Text) :
    (s.agentCancelPairing address order).1.completions =
      ((s.invocationFor order address PairingInfo.cancelled).map
        fun i => (i, AgentReply.canceled)).toList ++ s.completions := by
  unfold agentCancelPairing invocationFor
  cases s.findPairingInfoForAddress order address with
  | none => rfl
  | some found =>
      dsimp only [Option.bind_some]
      cases found.2.cancelled <;> rfl

theorem agentSupplyPairingConfirmation_completions (s : PairingState) (devices : Devices) (a : ℕ)
    (address : Text) (accept : Bool) (order : List Text) :
    (s.agentSupplyPairingConfirmation devices a address accept order).1.completions =
      ((s.invocationFor order address PairingInfo.requestConfirmation).map
        fun i => (i, if accept then AgentReply.requestConfirmation else .rejected)).toList ++
          s.completions := by
  unfold agentSupplyPairingConfirmation invocationFor
  cases s.findPairingInfoForAddress order address with
  | none => rfl
  | some found =>
      dsimp only [Option.bind_some]
      cases found.2.requestConfirmation with
      | none => rfl
      | some i =>
          generalize (if accept then AgentReply.requestConfirmation else .rejected) = r
          dsimp only
          split_ifs
          · cases devices.findDevice a address with
            | none => rfl
            | some device => exact (stop_frame _ device).2
          · rfl

theorem Slots.agentSupplyPairingSecret (h : s.Slots) (address : Text) (r : AgentReply)
    (order : List Text) : (s.agentSupplyPairingSecret address r order).1.Slots := by
  unfold PairingState.agentSupplyPairingSecret
  split
  · exact h
  · next path info hfound =>
    split
    · exact h
    · next i hslot =>
      have hlt := (h.kept path info (findPairingInfoForAddress_some hfound)).secret i hslot
      exact (h.complete hlt r).frame rfl rfl fun _ _ => id

theorem Slots.agentCancelPairing (h : s.Slots) (address : Text) (order : List Text) :
    (s.agentCancelPairing address order).1.Slots := by
  unfold PairingState.agentCancelPairing
  split
  · exact h
  · next path info hfound =>
    split
    · exact h
    · next i hslot =>
      have hlt := (h.kept path info (findPairingInfoForAddress_some hfound)).cancelled_lt hslot
      exact (h.complete hlt .canceled).frame rfl rfl fun _ _ => id

theorem Slots.agentSupplyPairingConfirmation (h : s.Slots) (devices : Devices) (a : ℕ)
    (address : Text) (accept : Bool) (order : List Text) :
    (s.agentSupplyPairingConfirmation devices a address accept order).1.Slots := by
  unfold PairingState.agentSupplyPairingConfirmation
  split
  · exact h
  · next path info hfound =>
    split
    · exact h
    · next i hslot =>
      have hkept := h.kept path info (findPairingInfoForAddress_some hfound)
      have hlt := (hkept.confirmation i hslot).1
      generalize (if accept then AgentReply.requestConfirmation else .rejected) = r
      have hclosed : ((s.complete i r).closeRequest (i.serial, path)).Slots :=
        (h.complete hlt r).frame rfl rfl fun _ _ => id
      dsimp only
      split_ifs
      · split
        · exact hclosed
        · exact hclosed.stop _
      · exact hclosed

/-! ### What a step does -/

/-- The entries and the completions stay as they are, but for entries that are new. -/
structure Quiet (s t : PairingState) : Prop where
  received : t.received = s.received
  completions : t.completions = s.completions
  entries : ∀ path info, t.mDevicePairings.lookup path = some info →
    s.mDevicePairings.lookup path = some info ∨ ∀ n, info.Kept n

theorem Slots.quiet (h : s.Slots) (hquiet : s.Quiet t) : t.Slots :=
  h.change hquiet.received.ge (fun _ hc => .inl (hquiet.completions ▸ hc))
    fun path info hlookup => (hquiet.entries path info hlookup).imp_right fun hkept => hkept _

theorem Quiet.rfl_of (hreceived : t.received = s.received)
    (hcompletions : t.completions = s.completions)
    (hentries : t.mDevicePairings = s.mDevicePairings) : s.Quiet t :=
  ⟨hreceived, hcompletions, fun _ _ hlookup => .inl (hentries ▸ hlookup)⟩

theorem quiet_devicePair (s : PairingState) (device : Device) : s.Quiet (s.devicePair device) := by
  unfold devicePair
  split_ifs
  · exact ⟨(start_frame s device false).1, (start_frame s device false).2,
      fun _ _ hlookup => start_lookup (s := s) hlookup⟩
  · exact .rfl_of rfl rfl rfl

theorem quiet_pair (s : PairingState) (devices : Devices) (a : ℕ) (address : Text) :
    s.Quiet (s.pair devices a address) := by
  unfold pair
  split_ifs
  · exact .rfl_of rfl rfl rfl
  · exact .rfl_of rfl rfl rfl
  · split
    · exact .rfl_of rfl rfl rfl
    · next device _ =>
      have hquiet := quiet_devicePair { s.setPairing a true with
        mCurrentPairingDevice := Function.update s.mCurrentPairingDevice a (some device) } device
      exact ⟨hquiet.received, hquiet.completions, hquiet.entries⟩

theorem quiet_pairCallback {error : Reply} (hstep : s.pairCallback device error = some t) :
    s.Quiet t := by
  obtain ⟨_, hcall⟩ := Option.ite_none_right_eq_some.mp hstep
  cases hcall
  obtain ⟨hreceived, hcompletions⟩ :=
    stop_frame { s with pairing := s.pairing.erase device } device
  exact ⟨hreceived, hcompletions, fun _ _ hlookup =>
    .inl (stop_lookup (s := { s with pairing := s.pairing.erase device }) hlookup)⟩

theorem quiet_cancelPairingCallback {error : Reply}
    (hstep : s.cancelPairingCallback device error = some t) : s.Quiet t := by
  obtain ⟨_, hcall⟩ := Option.ite_none_right_eq_some.mp hstep
  cases error <;> (cases hcall; exact .rfl_of rfl rfl rfl)

theorem quiet_unpair (s : PairingState) (devices : Devices) (a : ℕ) (address : Text) :
    s.Quiet (s.unpair devices a address) := by
  unfold unpair
  split_ifs
  · exact .rfl_of rfl rfl rfl
  · split
    · exact .rfl_of rfl rfl rfl
    · exact .rfl_of rfl rfl rfl

theorem quiet_unPairCallback {a : ℕ} {error : Reply}
    (hstep : s.unPairCallback a error = some t) : s.Quiet t := by
  obtain ⟨_, hcall⟩ := Option.ite_none_right_eq_some.mp hstep
  cases error <;> (cases hcall; exact .rfl_of rfl rfl rfl)

theorem quiet_handleCancel (s : PairingState) (request : ℕ × Text) (defaultAdapter : Option ℕ) :
    s.Quiet (s.handleCancel request defaultAdapter) := by
  unfold handleCancel
  dsimp only
  split_ifs <;> exact .rfl_of rfl rfl rfl

/-- The slots are kept, and the step answers in kind if and only if the condition is met. -/
structure Answered (s : PairingState) (devices : Devices) (e : PairingEvent)
    (t : PairingState) : Prop where
  slots : t.Slots
  inKind : InKind s.completions → (InKind t.completions ↔ s.AnswersOpen devices e)

variable {e : PairingEvent}

theorem Slots.answered_quiet (h : s.Slots) (hquiet : s.Quiet t) (he : s.AnswersOpen devices e) :
    s.Answered devices e t :=
  ⟨h.quiet hquiet, fun hin => iff_of_true (hquiet.completions ▸ hin) he⟩

theorem Quiet.refl (s : PairingState) : s.Quiet s := .rfl_of rfl rfl rfl

theorem Slots.answered_confirmation (h : s.Slots) (a : ℕ) (accept : Bool) :
    s.Answered devices (.supplyPairingConfirmation a address accept order)
      (s.supplyPairingConfirmation devices a address accept order).1 := by
  unfold PairingState.supplyPairingConfirmation
  split_ifs with hagent haddress
  · refine h.answered_quiet (.refl s) fun _ i hi => ?_
    rw [haddress, invocationFor_of_empty] at hi
    cases hi
  · have hslots := h.agentSupplyPairingConfirmation devices a address accept order
    have hcompletions :=
      agentSupplyPairingConfirmation_completions s devices a address accept order
    have hiff : InKind s.completions →
        (InKind (s.agentSupplyPairingConfirmation devices a address accept order).1.completions ↔
          s.AnswersOpen devices (.supplyPairingConfirmation a address accept order)) := by
      intro hin
      rw [hcompletions, inKind_answer_iff hin]
      constructor
      · exact fun hopen _ i hi => (hopen i hi).1
      · intro hopen i hi
        obtain ⟨info, hkept, hslot⟩ := h.invocationFor hi
        refine ⟨hopen hagent i hi, ?_⟩
        rw [(hkept.confirmation i hslot).2]
        cases accept <;> rfl
    split
    · next heq =>
      rw [heq] at hslots hiff
      exact ⟨hslots, hiff⟩
    · next heq =>
      rw [heq] at hslots hiff
      exact ⟨hslots, hiff⟩
  · exact h.answered_quiet (.refl s) fun hassigned => absurd hassigned hagent

theorem Slots.answered_secret (h : s.Slots) {r : AgentReply} (method : AgentMethod)
    (hr : ∀ m, r.answers m = true ↔ m = method)
    (he : s.AnswersOpen devices e ↔
      ∀ i, s.invocationFor order address PairingInfo.requestPairingSecret = some i →
        s.Unanswered i ∧ i.method = method) :
    s.Answered devices e (s.agentSupplyPairingSecret address r order).1 := by
  refine ⟨h.agentSupplyPairingSecret address r order, fun hin => ?_⟩
  rw [agentSupplyPairingSecret_completions, inKind_answer_iff hin, he]
  simp only [hr]
  rfl

theorem Slots.answered_passkey (h : s.Slots) (a : ℕ) (passkey : UInt32) :
    s.Answered devices (.supplyPasskey a address passkey order)
      (s.supplyPasskey address passkey order).1 := by
  unfold PairingState.supplyPasskey
  split_ifs with haddress hagent
  · refine h.answered_quiet (.refl s) fun _ i hi => ?_
    rw [haddress, invocationFor_of_empty] at hi
    cases hi
  · exact h.answered_secret .requestPasskey (fun _ => decide_eq_true_iff)
      ⟨fun he => he hagent, fun he _ => he⟩
  · exact h.answered_quiet (.refl s) fun hassigned => absurd hassigned hagent

theorem Slots.answered_pin (h : s.Slots) (a : ℕ) (pin : Text) :
    s.Answered devices (.supplyPin a address pin order) (s.supplyPin address pin order).1 := by
  unfold PairingState.supplyPin agentSupplyPin
  split_ifs with haddress hpin hagent
  · refine h.answered_quiet (.refl s) fun _ _ i hi => ?_
    rw [haddress, invocationFor_of_empty] at hi
    cases hi
  · exact h.answered_quiet (.refl s) fun _ hne => absurd hpin hne
  · exact h.answered_secret .requestPinCode (fun _ => decide_eq_true_iff)
      ⟨fun he => he hagent hpin, fun he _ _ => he⟩
  · exact h.answered_quiet (.refl s) fun hassigned => absurd hassigned hagent

theorem Slots.answered_request (h : s.Slots) {method : AgentMethod}
    {keep : Invocation → PairingInfo → PairingInfo} {notice : PairingInfo → PairingNotice}
    {atOnce : Option AgentReply} {objectPath : Text} {adapter : Option ℕ}
    (hkeep : ∀ {j info n}, PairingInfo.Kept info n → j.serial < n → j.method = method →
      (keep j info).Kept n)
    (hatOnce : ∀ r, atOnce = some r → r.answers method = true)
    (he : s.AnswersOpen devices e ↔ s.Known devices objectPath adapter) :
    s.Answered devices e
      (s.handleRequest devices method keep notice atOnce objectPath adapter) :=
  ⟨h.handleRequest devices hkeep, fun hin => (h.handleRequest_iff hin hatOnce).trans he.symm⟩

theorem Slots.answered_cancel (h : s.Slots) {a : ℕ}
    (hstep : s.cancelPairing devices a address order = some t) :
    s.Answered devices (.cancelPairing a address order) t := by
  rcases cancelPairing_cases hstep with ⟨hown, hreply⟩ |
    ⟨hpairing, ⟨device, hdevice, hcurrent⟩, u, hagent⟩
  · have hquiet : s.Quiet t := by
      rcases hreply with ⟨error, rfl⟩ | ⟨device, rfl⟩ <;> exact .rfl_of rfl rfl rfl
    refine h.answered_quiet hquiet fun hpairing device hdevice hcurrent i hi => ?_
    by_cases haddress : address = []
    · rw [haddress, invocationFor_of_empty] at hi
      cases hi
    · exact absurd (hown haddress hpairing device hdevice) hcurrent
  · have hslots := h.agentCancelPairing address order
    have hiff : InKind s.completions →
        (InKind (s.agentCancelPairing address order).1.completions ↔
          s.AnswersOpen devices (.cancelPairing a address order)) := by
      intro hin
      rw [agentCancelPairing_completions, inKind_answer_iff hin]
      constructor
      · exact fun hopen _ _ _ _ i hi => (hopen i hi).1
      · exact fun hopen i hi => ⟨hopen hpairing device hdevice hcurrent i hi, rfl⟩
    rcases hagent with ⟨heq, rfl⟩ | ⟨heq, rfl⟩ <;> rw [heq] at hslots hiff
    · exact ⟨hslots.frame rfl rfl fun _ _ => id, hiff⟩
    · exact ⟨hslots.frame rfl rfl fun _ _ => id, hiff⟩

theorem Slots.answered (h : s.Slots) (hstep : s.step devices e = some t) :
    s.Answered devices e t := by
  cases e with
  | createAgent =>
      cases hstep
      exact h.answered_quiet (.rfl_of rfl rfl rfl) trivial
  | deleteAgent =>
      cases hstep
      refine h.answered_quiet ⟨rfl, rfl, fun path info hlookup => ?_⟩ trivial
      change AList.lookup path (∅ : KeyedMap Text PairingInfo) = some info at hlookup
      rw [AList.lookup_empty] at hlookup
      cases hlookup
  | pair a address =>
      cases hstep
      exact h.answered_quiet (quiet_pair s devices a address) trivial
  | pairFinished device error => exact h.answered_quiet (quiet_pairCallback hstep) trivial
  | cancelPairing a address order => exact h.answered_cancel hstep
  | cancelFinished device error =>
      exact h.answered_quiet (quiet_cancelPairingCallback hstep) trivial
  | unpair a address =>
      cases hstep
      exact h.answered_quiet (quiet_unpair s devices a address) trivial
  | unpairFinished a error => exact h.answered_quiet (quiet_unPairCallback hstep) trivial
  | supplyPairingConfirmation a address accept order =>
      cases hstep
      exact h.answered_confirmation a accept
  | supplyPasskey a address passkey order =>
      cases hstep
      exact h.answered_passkey a passkey
  | supplyPin a address pin order =>
      cases hstep
      exact h.answered_pin a pin
  | displayPasskey objectPath passkey adapter =>
      obtain ⟨_, hcall⟩ := Option.ite_none_right_eq_some.mp hstep
      cases hcall
      exact h.answered_request (fun hkept _ _ => hkept.display) (by rintro _ ⟨⟩; rfl) .rfl
  | displayPinCode objectPath pincode adapter =>
      obtain ⟨_, hcall⟩ := Option.ite_none_right_eq_some.mp hstep
      cases hcall
      exact h.answered_request (fun hkept _ _ => hkept.display) (by rintro _ ⟨⟩; rfl) .rfl
  | requestConfirmation objectPath passkey adapter =>
      obtain ⟨_, hcall⟩ := Option.ite_none_right_eq_some.mp hstep
      cases hcall
      exact h.answered_request (fun hkept hlt hmethod => hkept.confirm hlt hmethod) nofun .rfl
  | requestPasskey objectPath adapter =>
      obtain ⟨_, hcall⟩ := Option.ite_none_right_eq_some.mp hstep
      cases hcall
      exact h.answered_request (fun hkept hlt _ => hkept.ask hlt) nofun .rfl
  | requestPinCode objectPath adapter =>
      obtain ⟨_, hcall⟩ := Option.ite_none_right_eq_some.mp hstep
      cases hcall
      exact h.answered_request (fun hkept hlt _ => hkept.ask hlt) nofun .rfl
  | cancel request defaultAdapter =>
      obtain ⟨_, hcall⟩ := Option.ite_none_right_eq_some.mp hstep
      cases hcall
      exact h.answered_quiet (quiet_handleCancel s request defaultAdapter) trivial

end PairingState

/-- While the condition is met, every invocation is completed at most once, with the reply of
its own method or with an error. The first step that does not meet it completes an
invocation again or with the reply of another method. -/
theorem requests_answeredInKind (devices : Devices) (s : PairingState)
    (hs : (pairingMachine devices).ReachWith (PairingState.AnswersOpen · devices) s) :
    InKind s.completions ∧
      ∀ e t, s.step devices e = some t → (InKind t.completions ↔ s.AnswersOpen devices e) := by
  refine hs.invariant_iff_of (P := fun s => InKind s.completions) (Q := PairingState.Slots)
    inKind_nil PairingState.slots_init ?_
  intro s e t hkind hslots hstep
  have hanswered := hslots.answered hstep
  exact ⟨hanswered.inKind hkind, fun _ => hanswered.slots⟩

/-- A passkey that is requested and supplied. -/
theorem requests_answeredInKind_passkey : ∃ s : PairingState,
    s.completions = [(⟨0, .requestPasskey⟩, .requestPasskey 123456)] ∧ InKind s.completions := by
  have hagent := Machine.ReachWith.step (M := pairingMachine onePhone)
    (G := (PairingState.AnswersOpen · onePhone)) (e := .createAgent) .init trivial rfl
  have hrequest := Machine.ReachWith.step (M := pairingMachine onePhone)
    (G := (PairingState.AnswersOpen · onePhone))
    (e := .requestPasskey "/hci0/dev_AA".toList (some 0)) hagent
    (.inr ⟨nofun, .inr ⟨0, phone, rfl, rfl⟩⟩) rfl
  have hsupply := Machine.ReachWith.step (M := pairingMachine onePhone)
    (G := (PairingState.AnswersOpen · onePhone))
    (e := .supplyPasskey 0 "aa:00".toList 123456 []) hrequest
    (fun _ _ hi => Option.some.inj hi ▸ ⟨List.not_mem_nil, rfl⟩) rfl
  exact ⟨_, rfl, (requests_answeredInKind onePhone _ hsupply).1⟩

/-- A confirmation that is supplied twice completes the request twice. -/
theorem requests_answeredInKind_repeated : ¬ ∀ (devices : Devices) (s : PairingState),
    (pairingMachine devices).Reach s → InKind s.completions := by
  intro h
  have hrun : ∃ t, (pairingMachine onePhone).run (pairingMachine onePhone).init
      [.createAgent, .pair 0 "aa:00".toList,
        .requestConfirmation "/hci0/dev_AA".toList 1234 (some 0),
        .supplyPairingConfirmation 0 "aa:00".toList true [],
        .supplyPairingConfirmation 0 "aa:00".toList true []] = some t ∧
      t.completions.map (fun c => c.1.serial) = [0, 0] := ⟨_, rfl, rfl⟩
  obtain ⟨t, hrun, hserials⟩ := hrun
  have htwice := (h onePhone t (Machine.reach_of_run _ hrun)).1
  rw [hserials] at htwice
  exact absurd htwice (by decide)

end BluezSil.Pairing
