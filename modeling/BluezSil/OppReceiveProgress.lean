import BluezSil.OppUpdateLog
import Mathlib.Algebra.GroupWithZero.Nat

/-!
# The progress of incoming object pushes

BlueZ counts the bytes of a transfer from its start, and the observer is sent increments.
The callback of a transfer that has been accepted remembers the last count under its id, and
a remembered zero stands for a transfer nothing has been reported of. Seen from one id the
remembered counts are a meter that is read by the reports of the transfer accepted under it,
and the increments of counts that never fall add up to the last one.
-/

namespace BluezSil.Opp

open Obex TransitionRun

structure StateChanged where
  id : UInt64
  bytesTransferred : UInt64
  finished : Bool
  deriving DecidableEq, Repr

/-- The counts remembered and what the observer is sent, the latest first. `underflows` lists
the ids under which a count was subtracted from a smaller one. -/
structure ReceiveCounts where
  mTransfersMap : KeyedMap UInt64 UInt64 := ∅
  changes : List StateChanged := []
  underflows : List UInt64 := []

namespace ReceiveCounts

variable (counts : ReceiveCounts)

/-- `mTransfersMap[transferId]`. -/
def remembered (transferId : UInt64) : UInt64 := (counts.mTransfersMap.lookup transferId).getD 0

/-- The callback of a transfer accepted under the id. It looks at no error. -/
def resultCallBack (transferId : UInt64) : TransferReport → ReceiveCounts
  | .transferResult _ bytesTransferred _ finished =>
    { mTransfersMap :=
        counts.mTransfersMap.insert transferId (if finished then 0 else bytesTransferred)
      changes :=
        ⟨transferId,
          if counts.remembered transferId ≠ 0 then
            bytesTransferred - counts.remembered transferId
          else bytesTransferred,
          finished⟩ :: counts.changes
      underflows :=
        if counts.remembered transferId ≠ 0 ∧ bytesTransferred < counts.remembered transferId then
          transferId :: counts.underflows
        else counts.underflows }
  | _ => counts

/-- Only transfers that have been accepted report to this callback. -/
def report (received : KeyedMap ℕ UInt64) (r : ℕ × TransferReport) : ReceiveCounts :=
  match received.lookup r.1 with
  | some transferId => counts.resultCallBack transferId r.2
  | none => counts

def incrementsOf (transferId : UInt64) : List UInt64 :=
  counts.changes.filterMap fun c => if c.id = transferId then some c.bytesTransferred else none

end ReceiveCounts

/-- The profile with the transfers it has accepted and their ids. `updates` lists the updates
the watchers have been shown, the latest first. -/
structure OppReceiver where
  profile : ObexProfile := {}
  mTranfserIdCounter : UInt64 := 0
  counts : ReceiveCounts := {}
  received : KeyedMap ℕ UInt64 := ∅
  updates : List (ℕ × ObexTransfer) := []

/-- An id is also taken for a file that is pushed and for a request that is rejected. -/
inductive ReceiverEvent
  | nextTransferId
  | confirmationRequested (deviceAddress sessionPath : Text)
  | accepted (transferId : UInt64) (objectPath : Text) (transferProxy propertiesProxy : Bool)
  | obex (e : ObexEvent)
  deriving DecidableEq, Repr

namespace OppReceiver

variable (s : OppReceiver)

def obexStep (e : ObexEvent) : Option OppReceiver :=
  (s.profile.step .opp e).map fun profile =>
    let reports := profile.transfers.reports
    let new := reports.take (reports.length - s.profile.transfers.reports.length)
    { s with
      profile := profile
      counts := new.foldr (fun r counts => counts.report s.received r) s.counts
      updates := s.profile.shown e ++ s.updates }

/-- A request that is announced stores its session and starts the count of a new id. -/
def step : ReceiverEvent → Option OppReceiver
  | .nextTransferId => some { s with mTranfserIdCounter := s.mTranfserIdCounter + 1 }
  | .confirmationRequested deviceAddress sessionPath =>
    (s.obexStep (.pushReceived deviceAddress sessionPath)).map fun s =>
      let transferId := s.mTranfserIdCounter + 1
      { s with
        mTranfserIdCounter := transferId
        counts :=
          { s.counts with mTransfersMap := s.counts.mTransfersMap.insert transferId 0 } }
  | .accepted transferId objectPath transferProxy propertiesProxy =>
    (s.obexStep (.started .baseActive (.id transferId) objectPath .receiving transferProxy
      propertiesProxy)).map fun t =>
        { t with received := t.received.insert s.profile.transfers.objects.next transferId }
  | .obex e => s.obexStep e

/-- The id a request is announced under is new: no transfer has been accepted under it. -/
def NewId : ReceiverEvent → Prop
  | .confirmationRequested _ _ => ∀ p, s.received.lookup p ≠ some (s.mTranfserIdCounter + 1)
  | _ => True

def AcceptedAs (p : ℕ) (transferId : UInt64) : Prop :=
  s.received.lookup p = some transferId ∧ ∀ q, s.received.lookup q = some transferId → q = p

end OppReceiver

def receiverMachine : Machine OppReceiver ReceiverEvent := ⟨{}, OppReceiver.step⟩

/-! ### The meter of one id -/

/-- What the counts are for one id. -/
structure Meter where
  remembered : UInt64 := 0
  increments : List UInt64 := []
  underflow : Bool := false

namespace Meter

variable {m : Meter} {bytes : UInt64}

/-- A zero needs no flag: nothing is subtracted anyway. -/
def note (r : TransferReport) (m : Meter) : Meter :=
  match r with
  | .transferResult _ bytes _ finished =>
    { remembered := if finished then 0 else bytes
      increments := (bytes - m.remembered) :: m.increments
      underflow := decide (bytes < m.remembered) || m.underflow }
  | _ => m

/-- The increments of the meter never fell below zero and add up to a count. -/
structure AddsUp (m : Meter) (bytes : UInt64) : Prop where
  underflow : m.underflow = false
  sum : (m.increments.map UInt64.toNat).sum = bytes.toNat

theorem AddsUp.note (h : m.AddsUp m.remembered) (hle : m.remembered ≤ bytes)
    (error : BluetoothError) (totalSize : UInt64) (finished : Bool) :
    (m.note (.transferResult error bytes totalSize finished)).AddsUp bytes where
  underflow := by
    have hnot : decide (bytes < m.remembered) = false :=
      decide_eq_false (UInt64.not_lt.mpr hle)
    rw [Meter.note, hnot, Bool.false_or]
    exact h.underflow
  sum := by
    have hnat : m.remembered.toNat ≤ bytes.toNat := UInt64.le_iff_toNat_le.mp hle
    rw [Meter.note, List.map_cons, List.sum_cons, h.sum, UInt64.toNat_sub_of_le _ _ hle]
    exact Nat.sub_add_cancel hnat

/-- The updates of a transfer that goes on, the latest first, whose active counts do not
fall. -/
theorem addsUp_of_open {updates : List ObexTransfer} (hopen : ∀ u ∈ updates, u.mState.final = false)
    (hcounts : List.Pairwise (· ≥ ·) (bytes ::
      (updates.filter (·.mState = .active)).map ObexTransfer.mBytesTransferred)) :
    let m := (updates.flatMap Transfers.baseReports).foldr note {}
    m.AddsUp m.remembered ∧ m.remembered ≤ bytes := by
  induction updates generalizing bytes with
  | nil => exact ⟨⟨rfl, rfl⟩, UInt64.zero_le⟩
  | cons u updates ih =>
      have hopen' : ∀ v ∈ updates, v.mState.final = false :=
        fun v hv => hopen v (List.mem_cons_of_mem u hv)
      by_cases hactive : u.mState = .active
      · rw [List.filter_cons_of_pos (by simpa using hactive), List.map_cons,
          List.pairwise_cons] at hcounts
        obtain ⟨hsum, hle⟩ := ih hopen' hcounts.2
        have hlast : u.mBytesTransferred ≤ bytes := hcounts.1 _ List.mem_cons_self
        rw [List.flatMap_cons, Transfers.baseReports_of_active hactive]
        exact ⟨hsum.note hle .none u.mFileSize false, hlast⟩
      · have hsilent := Transfers.baseReports_of_silent hactive (hopen u List.mem_cons_self)
        rw [List.filter_cons_of_neg (by simpa using hactive)] at hcounts
        rw [List.flatMap_cons, hsilent]
        exact ih hopen' hcounts

end Meter

namespace ReceiveCounts

variable {counts : ReceiveCounts} {transferId id : UInt64} {received : KeyedMap ℕ UInt64}

def meter (counts : ReceiveCounts) (id : UInt64) : Meter where
  remembered := counts.remembered id
  increments := counts.incrementsOf id
  underflow := decide (id ∈ counts.underflows)

theorem meter_resultCallBack_self (counts : ReceiveCounts) (id : UInt64) (r : TransferReport) :
    (counts.resultCallBack id r).meter id = (counts.meter id).note r := by
  cases r with
  | transferResult error bytes totalSize finished =>
      have hincrement : (if counts.remembered id ≠ 0 then bytes - counts.remembered id else bytes) =
          bytes - counts.remembered id := by
        split_ifs with h
        · rfl
        · rw [not_not.mp h, UInt64.sub_zero]
      have hunderflow : (counts.remembered id ≠ 0 ∧ bytes < counts.remembered id) ↔
          bytes < counts.remembered id := by
        refine and_iff_right_of_imp fun h h0 => ?_
        rw [h0] at h
        exact UInt64.not_lt_zero h
      simp only [resultCallBack, meter, Meter.note, hincrement, hunderflow, Meter.mk.injEq]
      refine ⟨?_, ?_, ?_⟩
      · simp [remembered]
      · simp [incrementsOf]
      · split_ifs with h <;> simp [h]
  | _ => rfl

theorem meter_resultCallBack_ne (h : id ≠ transferId) (r : TransferReport) :
    (counts.resultCallBack transferId r).meter id = counts.meter id := by
  cases r with
  | transferResult error bytes totalSize finished =>
      simp only [resultCallBack, meter, Meter.mk.injEq]
      refine ⟨?_, ?_, ?_⟩
      · simp [remembered, AList.lookup_insert_ne h]
      · simp [incrementsOf, h.symm]
      · split_ifs <;> simp [h]
  | _ => rfl

theorem meter_foldr_report (counts : ReceiveCounts) (new : List (ℕ × TransferReport)) :
    (new.foldr (fun r counts => counts.report received r) counts).meter id =
      (new.filterMap fun r => if received.lookup r.1 = some id then some r.2 else none).foldr
        Meter.note (counts.meter id) := by
  induction new with
  | nil => rfl
  | cons r new ih =>
      rw [List.foldr_cons, report, List.filterMap_cons]
      cases hr : received.lookup r.1 with
      | none => simpa using ih
      | some transferId =>
          by_cases hid : id = transferId
          · subst hid
            simpa [meter_resultCallBack_self] using congrArg (Meter.note r.2) ih
          · simpa [meter_resultCallBack_ne hid, Ne.symm hid] using ih

theorem meter_insert_zero (h : counts.meter transferId = {}) (id : UInt64) :
    meter { counts with mTransfersMap := counts.mTransfersMap.insert transferId 0 } id =
      counts.meter id := by
  have hremembered : remembered
      { counts with mTransfersMap := counts.mTransfersMap.insert transferId 0 } id =
        counts.remembered id := by
    by_cases hid : id = transferId
    · subst hid
      have hzero : counts.remembered id = 0 := congrArg Meter.remembered h
      rw [hzero, remembered, AList.lookup_insert, Option.getD_some]
    · rw [remembered, AList.lookup_insert_ne hid, remembered]
  exact congrArg (Meter.mk · (counts.incrementsOf id) (decide (id ∈ counts.underflows))) hremembered

end ReceiveCounts

/-! ### Runs -/

namespace OppReceiver

variable {s t : OppReceiver} {e : ReceiverEvent}

/-- The meter of an id stands at zero until a transfer is accepted under it, and is then read by
the reports of this transfer while it is the only one. -/
structure Metered (s : OppReceiver) : Prop where
  told : s.profile.transfers.Told s.updates
  received_lt : ∀ p id, s.received.lookup p = some id → p < s.profile.transfers.objects.next
  idle : ∀ id, (∀ p, s.received.lookup p ≠ some id) → s.counts.meter id = {}
  metered : ∀ p id, s.AcceptedAs p id →
    s.counts.meter id = (s.profile.transfers.reportsOf p).foldr Meter.note {}

theorem metered_init : Metered {} where
  told := Transfers.told_empty
  received_lt := fun _ _ h => by cases h
  idle := fun _ _ => rfl
  metered := fun _ _ h => by cases h.1

theorem obexStep_counts {o : ObexEvent} (hstep : s.obexStep o = some t) :
    s.profile.step .opp o = some t.profile ∧ t.received = s.received ∧
      t.mTranfserIdCounter = s.mTranfserIdCounter ∧
      t.updates = s.profile.shown o ++ s.updates ∧
      ∃ new, t.profile.transfers.reports = new ++ s.profile.transfers.reports ∧
        t.counts = new.foldr (fun r counts => counts.report s.received r) s.counts := by
  obtain ⟨profile, hprofile, rfl⟩ := Option.map_eq_some_iff.mp hstep
  obtain ⟨⟨new, hnew⟩, _⟩ := ObexProfile.reports_step hprofile
  refine ⟨hprofile, rfl, rfl, rfl, new, hnew, ?_⟩
  dsimp only
  rw [hnew, List.length_append, Nat.add_sub_cancel, List.take_left]

theorem Metered.obexStep {o : ObexEvent} (h : s.Metered) (hstep : s.obexStep o = some t) :
    t.Metered := by
  obtain ⟨hprofile, hreceived, _, hupdates, new, hnew, hcounts⟩ := obexStep_counts hstep
  obtain ⟨_, hnext⟩ := ObexProfile.reports_step hprofile
  refine ⟨?_, ?_, ?_, ?_⟩
  · rw [hupdates]
    exact ObexProfile.told_step h.told hprofile
  · intro p id hp
    rw [hreceived] at hp
    exact Nat.lt_of_lt_of_le (h.received_lt p id hp) hnext
  · intro id hid
    rw [hreceived] at hid
    have hnone : (new.filterMap fun r =>
        if s.received.lookup r.1 = some id then some r.2 else none) = [] :=
      List.filterMap_eq_nil_iff.mpr fun r _ => if_neg (hid r.1)
    rw [hcounts, ReceiveCounts.meter_foldr_report, hnone]
    exact h.idle id hid
  · intro p id hp
    rw [AcceptedAs, hreceived] at hp
    have hmine : (new.filterMap fun r =>
        if s.received.lookup r.1 = some id then some r.2 else none) =
        new.filterMap fun r => if r.1 = p then some r.2 else none := by
      refine List.filterMap_congr fun r _ => ?_
      have hiff : s.received.lookup r.1 = some id ↔ r.1 = p :=
        ⟨hp.2 r.1, fun hr => hr ▸ hp.1⟩
      simp only [hiff]
    rw [hcounts, ReceiveCounts.meter_foldr_report, hmine, h.metered p id hp,
      Transfers.reportsOf, Transfers.reportsOf, hnew, List.filterMap_append, List.foldr_append]

theorem Metered.accepted {transferId : UInt64} {p : ℕ} (h : s.Metered)
    (hp : ∀ id, s.received.lookup p ≠ some id) (hlt : p < s.profile.transfers.objects.next)
    (hnone : s.profile.transfers.reportsOf p = []) :
    Metered { s with received := s.received.insert p transferId } := by
  have hold {q : ℕ} {id : UInt64} (hq : s.received.lookup q = some id) :
      (s.received.insert p transferId).lookup q = some id := by
    have hqp : q ≠ p := by
      rintro rfl
      exact hp id hq
    rw [AList.lookup_insert_ne hqp, hq]
  refine ⟨h.told, ?_, ?_, ?_⟩
  · intro q id hq
    rcases KeyedMap.lookup_insert_cases hq with ⟨rfl, _⟩ | ⟨_, hq⟩
    · exact hlt
    · exact h.received_lt q id hq
  · exact fun id hid => h.idle id fun q hq => hid q (hold hq)
  · rintro q id ⟨hq, halone⟩
    rcases KeyedMap.lookup_insert_cases hq with ⟨rfl, rfl⟩ | ⟨_, hq⟩
    · -- any transfer accepted under the id before would be a second one
      have hidle : ∀ r, s.received.lookup r ≠ some id := by
        intro r hr
        obtain rfl := halone r (hold hr)
        exact hp id hr
      change s.counts.meter id = (s.profile.transfers.reportsOf q).foldr Meter.note {}
      rw [h.idle id hidle, hnone]
      rfl
    · exact h.metered q id ⟨hq, fun r hr => halone r (hold hr)⟩

theorem Metered.step (h : s.Metered) (he : s.NewId e) (hstep : s.step e = some t) :
    t.Metered := by
  cases e with
  | nextTransferId =>
      cases hstep
      exact ⟨h.told, h.received_lt, h.idle, h.metered⟩
  | confirmationRequested deviceAddress sessionPath =>
      obtain ⟨u, hu, rfl⟩ := Option.map_eq_some_iff.mp hstep
      obtain ⟨_, hreceived, hcounter, _⟩ := obexStep_counts hu
      have hu := h.obexStep hu
      have hidle : u.counts.meter (u.mTranfserIdCounter + 1) = {} := by
        refine hu.idle _ fun p => ?_
        rw [hreceived, hcounter]
        exact he p
      refine ⟨hu.told, hu.received_lt, ?_, ?_⟩
      · intro id hid
        exact (ReceiveCounts.meter_insert_zero hidle id).trans (hu.idle id hid)
      · intro p id hp
        exact (ReceiveCounts.meter_insert_zero hidle id).trans (hu.metered p id hp)
  | accepted transferId objectPath transferProxy propertiesProxy =>
      obtain ⟨u, hu, rfl⟩ := Option.map_eq_some_iff.mp hstep
      obtain ⟨hprofile, hreceived, _⟩ := obexStep_counts hu
      have hmade : u.profile.transfers.objects.next = s.profile.transfers.objects.next + 1 ∧
          u.profile.transfers.reports = s.profile.transfers.reports := by
        simp only [ObexProfile.step] at hprofile
        split_ifs at hprofile
        rw [← Option.some.inj hprofile]
        exact ⟨rfl, rfl⟩
      refine (h.obexStep hu).accepted ?_ ?_ ?_
      · intro id hid
        rw [hreceived] at hid
        exact Nat.lt_irrefl _ (h.received_lt _ id hid)
      · rw [hmade.1]
        exact Nat.lt_succ_self _
      · rw [Transfers.reportsOf, hmade.2]
        exact List.filterMap_eq_nil_iff.mpr
          fun r hr => if_neg (Nat.ne_of_lt (h.told.reports_lt r hr))
  | obex o => exact h.obexStep hstep

end OppReceiver

/-- The increments sent for the id of a transfer that has been accepted never underflow and add
up to the count of the update that completes it, whatever other transfers do, if the counts of
its active updates before do not fall. -/
theorem receiveProgress_sums (s : OppReceiver)
    (hs : receiverMachine.ReachWith OppReceiver.NewId s) {p : ℕ} {transferId : UInt64}
    (hp : s.AcceptedAs p transferId) {last : ObexTransfer} {earlier : List ObexTransfer}
    (hupdates : updatesOf s.updates p = last :: earlier)
    (hopen : ∀ u ∈ earlier, u.mState.final = false) (hlast : last.mState = .complete)
    (hbytes : last.mBytesTransferred ≠ 0)
    (hcounts : List.Pairwise (· ≥ ·) (last.mBytesTransferred ::
      (earlier.filter (·.mState = .active)).map ObexTransfer.mBytesTransferred)) :
    transferId ∉ s.counts.underflows ∧
      ((s.counts.incrementsOf transferId).map UInt64.toNat).sum =
        last.mBytesTransferred.toNat := by
  have hmetered : s.Metered := hs.invariant OppReceiver.metered_init fun _ _ _ h he hstep =>
    h.step he hstep
  have hreports : s.profile.transfers.reportsOf p =
      (updatesOf s.updates p).flatMap Transfers.baseReports := by
    rcases hmetered.told.told p with ⟨hreports, _⟩ | ⟨_, hended⟩
    · exact hreports
    · rw [hupdates, endedBy, hlast] at hended
      cases hended
  have hmeter := hmetered.metered p transferId hp
  rw [hreports, hupdates, List.flatMap_cons, Transfers.baseReports_of_complete hlast hbytes]
    at hmeter
  obtain ⟨hsum, hle⟩ := Meter.addsUp_of_open hopen hcounts
  have htotal : (s.counts.meter transferId).AddsUp last.mBytesTransferred := by
    rw [hmeter]
    exact hsum.note hle .none last.mFileSize true
  exact ⟨of_decide_eq_false htotal.underflow, htotal.sum⟩

/-- Two files are received at a time. The first one's count stands still once. -/
theorem receiveProgress_sums_two : ∃ s : OppReceiver, s.counts.incrementsOf 1 = [5, 0, 3] ∧
    s.counts.incrementsOf 2 = [6] ∧ 1 ∉ s.counts.underflows ∧
      ((s.counts.incrementsOf 1).map UInt64.toNat).sum = 8 := by
  have hfirst := Machine.ReachWith.step (M := receiverMachine) (G := OppReceiver.NewId)
    (e := .confirmationRequested "aa:00".toList "/session0".toList) .init
    (fun _ h => by cases h) rfl
  have hsecond := Machine.ReachWith.step (M := receiverMachine)
    (e := .confirmationRequested "bb:00".toList "/session1".toList) hfirst
    (fun _ h => by cases h) rfl
  have haccepted := Machine.ReachWith.step (M := receiverMachine)
    (e := .accepted 1 "/session0/transfer0".toList true true) hsecond trivial rfl
  have hboth := Machine.ReachWith.step (M := receiverMachine)
    (e := .accepted 2 "/session1/transfer1".toList true true) haccepted trivial rfl
  have hactive := Machine.ReachWith.step (M := receiverMachine)
    (e := .obex (.propertiesChanged 0 [.status "active", .transferred 3])) hboth trivial rfl
  have hother := Machine.ReachWith.step (M := receiverMachine)
    (e := .obex (.propertiesChanged 1 [.status "active", .transferred 6])) hactive trivial rfl
  have hstill := Machine.ReachWith.step (M := receiverMachine)
    (e := .obex (.propertiesChanged 0 [.transferred 3])) hother trivial rfl
  have hcomplete := Machine.ReachWith.step (M := receiverMachine)
    (e := .obex (.propertiesChanged 0 [.transferred 8, .status "complete"])) hstill trivial rfl
  refine ⟨_, rfl, rfl, receiveProgress_sums _ hcomplete (p := 0) ⟨rfl, fun q hq => ?_⟩ rfl
    (by decide) rfl (by decide) (by decide)⟩
  rcases KeyedMap.lookup_insert_cases hq with ⟨_, hid⟩ | ⟨_, hq⟩
  · cases hid
  · rcases KeyedMap.lookup_insert_cases hq with ⟨hzero, _⟩ | ⟨_, hq⟩
    · exact hzero
    · cases hq

end BluezSil.Opp
