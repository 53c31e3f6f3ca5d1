import BluezSil.PbapOperations
import Mathlib.Data.List.InsertIdx

/-!
# Phone books of several devices

A phone book on its own has a session, calls under way and results. The operations on one
address are those of a phone book on its own as long as `vCardListing` finds the proxy of
its session in the member, and every completion finds the proxy it was called on. The
results of one address are then fixed by the events of that address.
-/

namespace BluezSil.Pbap

open TransitionRun

/-! ### A phone book on its own -/

/-- `session` says of a session whether it has a phone book proxy. -/
structure PhoneBook where
  session : Option Bool := none
  pending : List PbapMethod := []
  results : List PbapResult := []

/-- The method an operation calls, and whether its arguments are accepted. -/
def PbapEvent.request : PbapEvent → Option (PbapMethod × Bool)
  | .setPhoneBook _ repository object =>
    some (.select repository object, repository ≠ "" ∧ object ≠ "" ∧
      object ∈ supportedObjects ∧ repository ∈ supportedRepositories)
  | .getPhonebookSize _ => some (.getSize, true)
  | .vCardListing _ => some (.list ["Offset", "MaxCount"], true)
  | .searchPhoneBook _ searchOrder searchKey searchValue =>
    some (.search searchKey searchValue searchOrder, searchOrder ≠ "" ∧ searchKey ≠ "" ∧
      searchValue ≠ "" ∧ searchKey ∈ supportedSearchKey ∧ searchOrder ∈ supportedSearchOrder)
  | .pullvCard _ targetFile vCardHandle vCardVersion vCardFilters =>
    some (.pull vCardHandle targetFile ((supportedVCardVersions vCardVersion).getD "NA")
        (filterFields vCardFilters),
      targetFile ≠ "" ∧ vCardHandle ≠ "" ∧ supportedVCardVersions vCardVersion ≠ none)
  | .pullPhoneBook _ destinationFile vCardVersion vCardFilters startIndex maxCount =>
    some (.pullAll destinationFile ((supportedVCardVersions vCardVersion).getD "NA")
        (filterFields vCardFilters) startIndex maxCount,
      destinationFile ≠ "" ∧ supportedVCardVersions vCardVersion ≠ none)
  | _ => none

theorem PbapEvent.request_eq_none {e : PbapEvent} (h : e.request = none) :
    (∃ address hasProxy, e = .sessionCreated address hasProxy) ∨
      (∃ address, e = .sessionRemoved address) ∨
      ∃ address index reply, e = .completed address index reply := by
  cases e with
  | sessionCreated address hasProxy => exact .inl ⟨address, hasProxy, rfl⟩
  | sessionRemoved address => exact .inr (.inl ⟨address, rfl⟩)
  | completed address index reply => exact .inr (.inr ⟨address, index, reply, rfl⟩)
  | setPhoneBook address repository object => cases h
  | getPhonebookSize address => cases h
  | vCardListing address => cases h
  | searchPhoneBook address searchOrder searchKey searchValue => cases h
  | pullvCard address targetFile vCardHandle vCardVersion vCardFilters => cases h
  | pullPhoneBook address destinationFile vCardVersion vCardFilters startIndex maxCount => cases h

namespace PhoneBook

variable (b : PhoneBook)

def callMethod (method : PbapMethod) : PhoneBook :=
  if b.session = some true then { b with pending := b.pending ++ [method] }
  else { b with results := method.failed .notAllowed :: b.results }

def operate (method : PbapMethod) (valid : Bool) : PhoneBook :=
  if valid then b.callMethod method
  else { b with results := method.failed .paramInvalid :: b.results }

def step (b : PhoneBook) (e : PbapEvent) : Option PhoneBook :=
  match e with
  | .sessionCreated _ hasProxy => some { b with session := b.session.or (some hasProxy) }
  | .sessionRemoved _ => some { b with session := none }
  | .completed _ index reply =>
    b.pending[index]?.map fun method =>
      { b with
        pending := b.pending.eraseIdx index
        results := method.callback (some reply) :: b.results }
  | e => e.request.map fun r => b.operate r.1 r.2

end PhoneBook

def phoneBookMachine : Machine PhoneBook PbapEvent := ⟨{}, PhoneBook.step⟩

/-! ### The profile and one of its phone books -/

namespace ProfilePbap

def phoneBook (s : ProfilePbap) (address : Text) : PhoneBook where
  session := (s.mSessions.lookup address).map Option.isSome
  pending := (s.pending address).map PbapCall.method
  results := s.results address

/-- Every call has been made on the proxy of its session and its result read from that. -/
def OnOwnSession (s : ProfilePbap) : Prop :=
  (∀ c ∈ s.calls, c.sessionProxy = some c.proxy) ∧ ∀ r ∈ s.readings, r.1.sessionProxy = r.2

/-- A step uses the proxy of its own session and does what it does on a phone book alone. -/
def StaysOnSession (s : ProfilePbap) (e : PbapEvent) (t : ProfilePbap) : Prop :=
  t.OnOwnSession ∧ (s.phoneBook e.address).step e = some (t.phoneBook e.address)

/-- `vCardListing` finds the proxy of the session in the member, and a completion finds the
proxy of its call there. -/
def OwnProxy (s : ProfilePbap) (e : PbapEvent) : Prop :=
  match e with
  | .vCardListing address =>
    (s.mSessions.lookup address).all (fun p => s.mObjectPhonebookProxy == p) = true
  | .completed address index _ =>
    (s.pending address)[index]?.all (fun c => s.mObjectPhonebookProxy == some c.proxy) = true
  | _ => True

instance decidableOwnProxy : DecidableRel OwnProxy := fun s e =>
  match e with
  | .vCardListing address =>
    inferInstanceAs (Decidable
      ((s.mSessions.lookup address).all (fun p => s.mObjectPhonebookProxy == p) = true))
  | .completed address index _ =>
    inferInstanceAs (Decidable ((s.pending address)[index]?.all
      (fun c => s.mObjectPhonebookProxy == some c.proxy) = true))
  | .sessionCreated _ _ => isTrue trivial
  | .sessionRemoved _ => isTrue trivial
  | .setPhoneBook _ _ _ => isTrue trivial
  | .getPhonebookSize _ => isTrue trivial
  | .searchPhoneBook _ _ _ _ => isTrue trivial
  | .pullvCard _ _ _ _ _ => isTrue trivial
  | .pullPhoneBook _ _ _ _ _ _ => isTrue trivial

variable {s t : ProfilePbap} {e : PbapEvent} {address a : Text} {method : PbapMethod}
  {valid : Bool} {result : PbapResult}

theorem phoneBook_report_self (s : ProfilePbap) (address : Text) (result : PbapResult) :
    (s.report address result).phoneBook address =
      { s.phoneBook address with results := result :: s.results address } := by
  simp [phoneBook, report]

theorem phoneBook_report_ne (h : a ≠ address) :
    (s.report address result).phoneBook a = s.phoneBook a := by
  simp [phoneBook, report, h]

/-! ### Operations -/

theorem vCardListing_eq_callSession (he : s.OwnProxy (.vCardListing address)) :
    s.vCardListing address = s.callSession address (.list ["Offset", "MaxCount"]) := by
  unfold vCardListing callSession
  cases hlookup : s.mSessions.lookup address with
  | none => rfl
  | some p =>
      have hp : s.mObjectPhonebookProxy = p := by
        simpa [OwnProxy, hlookup] using he
      subst hp
      rfl

/-- An operation reports arguments that are not accepted and otherwise calls the method on
the proxy of the session. -/
theorem step_of_request (he : s.OwnProxy e) (hr : e.request = some (method, valid)) :
    s.step e = some (if valid then s.callSession e.address method
      else s.report e.address (method.failed .paramInvalid)) := by
  cases e with
  | sessionCreated address hasProxy => cases hr
  | sessionRemoved address => cases hr
  | completed address index reply => cases hr
  | setPhoneBook address repository object =>
      cases hr
      simp only [step, setPhoneBook, PbapEvent.address]
      split_ifs with hbad hgood hgood
      · simp_all
      · rfl
      · rfl
      · simp_all
  | getPhonebookSize address =>
      cases hr
      rfl
  | vCardListing address =>
      cases hr
      exact congrArg some (vCardListing_eq_callSession he)
  | searchPhoneBook address searchOrder searchKey searchValue =>
      cases hr
      simp only [step, searchPhoneBook, PbapEvent.address]
      split_ifs with hbad hgood hgood
      · simp_all
      · rfl
      · rfl
      · simp_all
  | pullvCard address targetFile vCardHandle vCardVersion vCardFilters =>
      cases hr
      simp only [step, pullvCard, PbapEvent.address]
      cases hversion : supportedVCardVersions vCardVersion with
      | none =>
          split_ifs <;> simp_all [PbapMethod.failed]
      | some format =>
          split_ifs <;> simp_all [PbapMethod.failed]
  | pullPhoneBook address destinationFile vCardVersion vCardFilters startIndex maxCount =>
      cases hr
      simp only [step, pullPhoneBook, PbapEvent.address]
      cases hversion : supportedVCardVersions vCardVersion with
      | none =>
          split_ifs <;> simp_all [PbapMethod.failed]
      | some format =>
          split_ifs <;> simp_all [PbapMethod.failed]

theorem phoneBook_callSession_self (s : ProfilePbap) (address : Text) (method : PbapMethod) :
    (s.callSession address method).phoneBook address =
      (s.phoneBook address).callMethod method := by
  unfold callSession
  cases hlookup : s.mSessions.lookup address with
  | none =>
      dsimp only
      rw [phoneBook_report_self, PhoneBook.callMethod, if_neg (by simp [phoneBook, hlookup])]
      rfl
  | some p =>
      cases p with
      | none =>
          change (report { s with mObjectPhonebookProxy := none } address
            (method.failed .notAllowed)).phoneBook address = _
          rw [phoneBook_report_self, PhoneBook.callMethod, if_neg (by simp [phoneBook, hlookup])]
          rfl
      | some proxy =>
          rw [PhoneBook.callMethod, if_pos (by simp [phoneBook, hlookup])]
          simp [call, phoneBook]

theorem phoneBook_callSession_ne (h : a ≠ address) :
    (s.callSession address method).phoneBook a = s.phoneBook a := by
  unfold callSession
  cases s.mSessions.lookup address with
  | none => exact phoneBook_report_ne h
  | some p =>
      cases p with
      | none => exact phoneBook_report_ne h
      | some proxy => simp [call, phoneBook, h]

/-! ### The invariant -/

/-- The calls under way are among those made, and all have used their own session. -/
structure Sound (s : ProfilePbap) : Prop where
  own : s.OnOwnSession
  pending : ∀ address, ∀ c ∈ s.pending address, c ∈ s.calls

theorem sound_init : Sound {} where
  own := ⟨nofun, nofun⟩
  pending := fun _ => nofun

theorem Sound.report (h : s.Sound) (address : Text) (result : PbapResult) :
    (s.report address result).Sound := ⟨h.own, h.pending⟩

theorem Sound.callSession (h : s.Sound) (address : Text) (method : PbapMethod) :
    (s.callSession address method).Sound := by
  unfold ProfilePbap.callSession
  cases s.mSessions.lookup address with
  | none => exact h.report address _
  | some p =>
      cases p with
      | none => exact ⟨h.own, h.pending⟩
      | some proxy =>
          refine ⟨⟨fun c hc => ?_, h.own.2⟩, fun b c hc => ?_⟩
          · rcases List.mem_cons.mp hc with rfl | hc
            · rfl
            · exact h.own.1 c hc
          · by_cases hb : b = address
            · subst hb
              simp only [call, Function.update_self] at hc
              rcases List.mem_append.mp hc with hc | hc
              · exact List.mem_cons_of_mem _ (h.pending b c hc)
              · exact List.mem_cons.mpr (.inl (List.mem_singleton.mp hc))
            · simp only [call, Function.update_of_ne hb] at hc
              exact List.mem_cons_of_mem _ (h.pending b c hc)

theorem step_completed {index : ℕ} {reply : PbapReply}
    (hstep : s.step (.completed address index reply) = some t) :
    ∃ c, (s.pending address)[index]? = some c ∧
      t = report { s with
        pending := Function.update s.pending address ((s.pending address).eraseIdx index)
        readings := (c, s.mObjectPhonebookProxy) :: s.readings } address
        (c.method.callback (s.finish c reply)) := by
  obtain ⟨c, hc, rfl⟩ := Option.map_eq_some_iff.mp hstep
  exact ⟨c, hc, rfl⟩

theorem Sound.step (h : s.Sound) (he : s.OwnProxy e) (hstep : s.step e = some t) : t.Sound := by
  cases hr : e.request with
  | some r =>
      rw [step_of_request he hr] at hstep
      cases hstep
      split_ifs
      · exact h.callSession _ _
      · exact h.report _ _
  | none =>
      obtain ⟨address, hasProxy, rfl⟩ | ⟨address, rfl⟩ | ⟨address, index, reply, rfl⟩ :=
        PbapEvent.request_eq_none hr
      · cases hstep
        exact ⟨h.own, h.pending⟩
      · cases hstep
        exact ⟨h.own, h.pending⟩
      · obtain ⟨c, hc, rfl⟩ := step_completed hstep
        have hproxy : s.mObjectPhonebookProxy = some c.proxy := by
          simpa [OwnProxy, hc] using he
        refine ⟨⟨h.own.1, fun r hmem => ?_⟩, fun b d hd => ?_⟩
        · rcases List.mem_cons.mp hmem with rfl | hmem
          · exact (h.own.1 c (h.pending address c (List.mem_of_getElem? hc))).trans hproxy.symm
          · exact h.own.2 r hmem
        · by_cases hb : b = address
          · subst hb
            simp only [ProfilePbap.report, Function.update_self] at hd
            exact h.pending b d (List.mem_of_mem_eraseIdx hd)
          · simp only [ProfilePbap.report, Function.update_of_ne hb] at hd
            exact h.pending b d hd

theorem phoneBook_step_of_request (b : PhoneBook) (hr : e.request = some (method, valid)) :
    b.step e = some (b.operate method valid) := by
  cases e <;> cases hr <;> rfl

theorem phoneBook_step_self (he : s.OwnProxy e) (hstep : s.step e = some t) :
    (s.phoneBook e.address).step e = some (t.phoneBook e.address) := by
  cases hr : e.request with
  | some r =>
      rw [step_of_request he hr] at hstep
      cases hstep
      rw [phoneBook_step_of_request _ hr, PhoneBook.operate]
      split_ifs
      · rw [phoneBook_callSession_self]
      · rw [phoneBook_report_self]
        rfl
  | none =>
      obtain ⟨address, hasProxy, rfl⟩ | ⟨address, rfl⟩ | ⟨address, index, reply, rfl⟩ :=
        PbapEvent.request_eq_none hr
      · cases hstep
        simp only [PhoneBook.step, PbapEvent.address, phoneBook, Option.some.injEq]
        cases hlookup : s.mSessions.lookup address with
        | none =>
            rw [KeyedMap.lookup_emplace_self (AList.lookup_eq_none.mp hlookup)]
            cases hasProxy <;> rfl
        | some p =>
            rw [KeyedMap.lookup_emplace_of_some hlookup]
            rfl
      · cases hstep
        simp [PhoneBook.step, PbapEvent.address, phoneBook]
      · obtain ⟨c, hc, rfl⟩ := step_completed hstep
        have hproxy : s.mObjectPhonebookProxy = some c.proxy := by
          simpa [OwnProxy, hc] using he
        rw [finish, if_pos hproxy, PbapEvent.address, phoneBook_report_self]
        simp [PhoneBook.step, phoneBook, hc, List.eraseIdx_map]

theorem phoneBook_step_ne (he : s.OwnProxy e) (hstep : s.step e = some t)
    (ha : a ≠ e.address) : t.phoneBook a = s.phoneBook a := by
  cases hr : e.request with
  | some r =>
      rw [step_of_request he hr] at hstep
      cases hstep
      split_ifs
      · exact phoneBook_callSession_ne ha
      · exact phoneBook_report_ne ha
  | none =>
      obtain ⟨address, hasProxy, rfl⟩ | ⟨address, rfl⟩ | ⟨address, index, reply, rfl⟩ :=
        PbapEvent.request_eq_none hr
      · cases hstep
        have hne : a ≠ address := ha
        unfold phoneBook KeyedMap.emplace
        by_cases hmem : address ∈ s.mSessions
        · rw [if_pos hmem]
        · rw [if_neg hmem, AList.lookup_insert_ne hne]
      · cases hstep
        have hne : a ≠ address := ha
        simp only [phoneBook, AList.lookup_erase_ne hne]
      · obtain ⟨c, _, rfl⟩ := step_completed hstep
        have hne : a ≠ address := ha
        rw [phoneBook_report_ne hne]
        simp [phoneBook, hne]

/-! ### The steps that leave their session -/

theorem ownProxy_vCardListing
    (hstays : s.StaysOnSession (.vCardListing address) (s.vCardListing address)) :
    s.OwnProxy (.vCardListing address) := by
  obtain ⟨hown, hbook⟩ := hstays
  cases hlookup : s.mSessions.lookup address with
  | none => simp [OwnProxy, hlookup]
  | some p =>
      have hlisting : s.vCardListing address =
          s.call address (.list ["Offset", "MaxCount"]) p := by
        rw [vCardListing, hlookup]
      rw [hlisting] at hown hbook
      suffices hp : s.mObjectPhonebookProxy = p by simp [OwnProxy, hlookup, hp]
      cases hkept : s.mObjectPhonebookProxy with
      | none =>
          cases p with
          | none => rfl
          | some proxy =>
              -- the phone book alone would have made the call
              simp [PhoneBook.step, PbapEvent.request, PbapEvent.address, PhoneBook.operate,
                PhoneBook.callMethod, phoneBook, hlookup, call, hkept, ProfilePbap.report] at hbook
      | some proxy =>
          rw [call, hkept] at hown
          exact (hown.1 _ List.mem_cons_self).symm

theorem Sound.staysOnSession_iff (h : s.Sound) (hstep : s.step e = some t) :
    s.StaysOnSession e t ↔ s.OwnProxy e := by
  refine ⟨fun hstays => ?_, fun he => ⟨(h.step he hstep).own, phoneBook_step_self he hstep⟩⟩
  cases e with
  | sessionCreated address hasProxy => trivial
  | sessionRemoved address => trivial
  | setPhoneBook address repository object => trivial
  | getPhonebookSize address => trivial
  | vCardListing address =>
      cases hstep
      exact ownProxy_vCardListing hstays
  | searchPhoneBook address searchOrder searchKey searchValue => trivial
  | pullvCard address targetFile vCardHandle vCardVersion vCardFilters => trivial
  | pullPhoneBook address destinationFile vCardVersion vCardFilters startIndex maxCount => trivial
  | completed address index reply =>
      obtain ⟨c, hc, rfl⟩ := step_completed hstep
      have hread : c.sessionProxy = s.mObjectPhonebookProxy :=
        hstays.1.2 (c, s.mObjectPhonebookProxy) List.mem_cons_self
      have hcalled := h.own.1 c (h.pending address c (List.mem_of_getElem? hc))
      simp [OwnProxy, hc, ← hread, hcalled]

/-- The events on one address run a phone book on its own. -/
theorem run_phoneBook (es : List PbapEvent) (a : Text)
    (hrun : pbapMachine.runWith OwnProxy pbapMachine.init es = some s) :
    phoneBookMachine.run phoneBookMachine.init (es.filter fun e => e.address == a) =
      some (s.phoneBook a) := by
  refine Machine.run_filter_of_runWith (N := phoneBookMachine) (fun s => s.phoneBook a) _ Sound
    (fun s e t h he hstep => ?_) es sound_init hrun
  refine ⟨h.step he hstep, fun hkeep => ?_, fun hkeep => ?_⟩
  · rw [beq_iff_eq] at hkeep
    rw [← hkeep]
    exact phoneBook_step_self he hstep
  · exact phoneBook_step_ne he hstep fun ha => ne_of_beq_false hkeep ha.symm

end ProfilePbap

/-- As long as every listing and every completion finds the proxy of its own session, all
calls are made on it and read from it, and the results of an address are fixed by the events
of that address. The first step that does not find it leaves its session. -/
theorem operations_stayOnSession (es : List PbapEvent) (s : ProfilePbap)
    (hrun : pbapMachine.runWith ProfilePbap.OwnProxy pbapMachine.init es = some s) :
    s.OnOwnSession ∧
      (∀ e t, s.step e = some t → (s.StaysOnSession e t ↔ s.OwnProxy e)) ∧
      ∀ es' s', pbapMachine.runWith ProfilePbap.OwnProxy pbapMachine.init es' = some s' →
        ∀ address, (es.filter fun e => e.address == address) =
          (es'.filter fun e => e.address == address) →
          s.results address = s'.results address := by
  have hsound : s.Sound :=
    (Machine.reachWith_of_runWith es .init hrun).invariant (P := ProfilePbap.Sound)
      ProfilePbap.sound_init fun _ _ _ h he hstep => h.step he hstep
  refine ⟨hsound.own, fun e t hstep => hsound.staysOnSession_iff hstep, ?_⟩
  intro es' s' hrun' address hsame
  have hbook := ProfilePbap.run_phoneBook es address hrun
  rw [hsame, ProfilePbap.run_phoneBook es' address hrun', Option.some.injEq] at hbook
  exact congrArg PhoneBook.results hbook.symm

/-- Two devices, one after the other. -/
theorem operations_stayOnSession_apart : ∃ s : ProfilePbap,
    s.results "A".toList = [.size .none 5] ∧ s.OnOwnSession :=
  ⟨_, rfl, (operations_stayOnSession
    [.sessionCreated "A".toList true, .sessionCreated "B".toList true,
      .getPhonebookSize "A".toList, .completed "A".toList 0 (.outputs ⟨5, [], ""⟩),
      .getPhonebookSize "B".toList] _ rfl).1⟩

/-- The size asked of one device is read through the proxy of the other. -/
theorem operations_stayOnSession_mixed : ¬ ∀ es s,
    pbapMachine.run pbapMachine.init es = some s → s.OnOwnSession := by
  intro h
  have hown := h [.sessionCreated "A".toList true, .sessionCreated "B".toList true,
    .getPhonebookSize "A".toList, .getPhonebookSize "B".toList,
    .completed "A".toList 0 (.outputs ⟨5, [], ""⟩)] _ rfl
  have hread := hown.2 _ List.mem_cons_self
  cases hread

end BluezSil.Pbap
