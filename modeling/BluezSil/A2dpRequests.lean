import BluezSil.A2dpStatus
import BluezSil.CallProgram
import BluezSil.KeyedMap

/-!
# A2DP requests and their answers

`connect` and `disconnect` first find out the UUID to use and then go on to the operations of
the base class, `enable` and `disable` first select a role. Each hands the callback of its
caller to the first part, which answers on an error, and to the second part, which is not
told of this and answers as well.
-/

namespace BluezSil.A2dp

open CallProgram Program

inductive A2dpError
  | none
  | fail
  | paramInvalid
  | deviceAlreadyConnected
  | unsupported
  deriving DecidableEq, Repr

def sourceUuid : Text := "0000110a-0000-1000-8000-00805f9b34fb".toList

def sinkUuid : Text := "0000110b-0000-1000-8000-00805f9b34fb".toList

/-- The methods of `org.bluez.Device1` for one profile. -/
inductive ProfileMethod
  | connectProfile
  | disconnectProfile
  deriving DecidableEq, Repr

/-- The calls a request makes. The device is given by its object path. -/
inductive A2dpCall
  | callback (error : A2dpError)
  | profile (method : ProfileMethod) (device uuid : Text)
  | selectRole (role : String)
  | notifyA2dpRoleChnange (uuid : Text)
  deriving DecidableEq

/-- A D-Bus call is answered by its error, the other calls by nothing. -/
abbrev A2dpAnswer : A2dpCall → Type
  | .callback _ => Unit
  | .profile _ _ _ => Reply
  | .selectRole _ => Reply
  | .notifyA2dpRoleChnange _ => Unit

abbrev Request := Program A2dpCall A2dpAnswer

abbrev RequestTrace := List (Answered A2dpAnswer)

def perform (c : A2dpCall) : Request (A2dpAnswer c) := Program.perform c

def answer (error : A2dpError) : Request Unit := perform (.callback error)

structure A2dpDevice where
  objectPath : Text
  uuids : List Text
  deriving DecidableEq

/-- What the requests read of the adapter, and whether the build is for `WEBOS_AUTO`. -/
structure A2dpAdapter where
  webosAuto : Bool
  mDevices : KeyedMap Text A2dpDevice := ∅
  adapterSupportedUuid : List Text := []
  mMediaManager : Bool := false

def A2dpAdapter.findDevice (adapter : A2dpAdapter) (address : Text) : Option A2dpDevice :=
  adapter.mDevices.lookup (convertAddressToUpperCase address)

def A2dpDevice.callProfile (device : A2dpDevice) (method : ProfileMethod) (uuid : Text)
    (callback : A2dpError → Request Unit) : Request Unit := do
  let error ← perform (.profile method device.objectPath uuid)
  match error with
  | some _ => callback .fail
  | none => callback .none

def A2dpDevice.connect (device : A2dpDevice) :
    Text → (A2dpError → Request Unit) → Request Unit :=
  device.callProfile .connectProfile

def A2dpDevice.disconnect (device : A2dpDevice) :
    Text → (A2dpError → Request Unit) → Request Unit :=
  device.callProfile .disconnectProfile

/-- The profile with the UUID kept by its base class. -/
structure UuidProfile extends Bluez5ProfileA2dp where
  mUuid : Text := sinkUuid

namespace UuidProfile

variable (a2dp : UuidProfile) (adapter : A2dpAdapter)

/-- The operations of the base class, which ask the device for its own. -/
def baseRequest (request : A2dpDevice → Text → (A2dpError → Request Unit) → Request Unit)
    (address : Text) (callback : A2dpError → Request Unit) : Request Unit :=
  match adapter.findDevice address with
  | none => callback .paramInvalid
  | some device => request device a2dp.mUuid callback

def baseConnect : Text → (A2dpError → Request Unit) → Request Unit :=
  a2dp.baseRequest adapter A2dpDevice.connect

def baseDisconnect : Text → (A2dpError → Request Unit) → Request Unit :=
  a2dp.baseRequest adapter A2dpDevice.disconnect

def setA2dpUuid (uuid : Text) : UuidProfile :=
  if uuid = sourceUuid then { a2dp with mUuid := sinkUuid }
  else if uuid = sinkUuid then { a2dp with mUuid := sourceUuid }
  else a2dp

def a2dpUuid (uuids : List Text) : Option Text :=
  uuids.find? fun uuid => uuid = sourceUuid ∨ uuid = sinkUuid

/-- The role taken over is that of the device, or with `WEBOS_AUTO` the one the adapter does
not have. -/
def updateA2dpUuid (address : Text) (callback : A2dpError → Request Unit) :
    Request UuidProfile :=
  match adapter.findDevice address with
  | none => do
    callback .paramInvalid
    return a2dp
  | some device =>
    if ¬ adapter.webosAuto then
      return { a2dp with mUuid := (a2dpUuid device.uuids).getD a2dp.mUuid }
    else return (a2dpUuid adapter.adapterSupportedUuid).elim a2dp a2dp.setA2dpUuid

/-- `connectCallback` and `disConnectCallback`. -/
def passOn (error : A2dpError) : Request Unit :=
  if error ≠ .none then answer error
  else answer .none

def connect (address : Text) : Request UuidProfile :=
  if ¬ a2dp.mConnected then do
    let a2dp ← a2dp.updateA2dpUuid adapter address passOn
    a2dp.baseConnect adapter address passOn
    return a2dp
  else do
    answer .deviceAlreadyConnected
    return a2dp

def disconnect (address : Text) : Request UuidProfile := do
  let a2dp ← a2dp.updateA2dpUuid adapter address passOn
  a2dp.baseDisconnect adapter address passOn
  return a2dp

def enableRole (uuid : Text) : String × UuidProfile :=
  if uuid = sourceUuid then ("source", { a2dp with mUuid := sinkUuid })
  else if uuid = sinkUuid then ("sink", { a2dp with mUuid := sourceUuid })
  else ("", a2dp)

/-- The role left when that of the UUID is disabled. -/
def disableRole (uuid : Text) : String :=
  if uuid = sourceUuid then "sink"
  else if uuid = sinkUuid then "source"
  else ""

/-- A role that is there already counts as selected. -/
def Selected : Reply → Prop
  | none => True
  | some message => strstr message "org.bluez.Error.AlreadyExists" = true

instance (reply : Reply) : Decidable (Selected reply) := by
  unfold Selected
  split <;> infer_instance

def selectRole (role : String) (failed : Request Unit) : Request Unit :=
  if adapter.mMediaManager then do
    let error ← perform (.selectRole role)
    if Selected error then return ()
    else failed
  else return ()

/-- The adapter enables a role without a callback. -/
def enable (uuid : Text) (callback : Bool) : Request UuidProfile :=
  let tell (error : A2dpError) : Request Unit := if callback then answer error else return ()
  if adapter.webosAuto then do
    let (role, a2dp) := a2dp.enableRole uuid
    selectRole adapter role (tell .fail)
    perform (.notifyA2dpRoleChnange uuid)
    tell .none
    return a2dp
  else do
    perform (.notifyA2dpRoleChnange uuid)
    tell .none
    return a2dp

def disable (uuid : Text) : Request UuidProfile :=
  if adapter.webosAuto then do
    selectRole adapter (disableRole uuid) (answer .fail)
    perform (.notifyA2dpRoleChnange uuid)
    answer .none
    return a2dp
  else do
    answer .unsupported
    return a2dp

end UuidProfile

/-! ### The answers in a trace -/

def A2dpCall.answer? : A2dpCall → Option A2dpError
  | .callback error => some error
  | _ => none

def answersOf (t : RequestTrace) : List A2dpError := t.filterMap fun e => e.1.answer?

/-- The caller is answered once, and is not told of a failure and of a success. -/
structure AnsweredOnce (t : RequestTrace) : Prop where
  once : (answersOf t).length = 1
  agree : ¬ (A2dpError.none ∈ answersOf t ∧ ∃ error ∈ answersOf t, error ≠ .none)

def A2dpCall.isRequest : A2dpCall → Bool
  | .profile _ _ _ => true
  | _ => false

/-- A role need not be selected, or the one in the trace has been. -/
def A2dpAdapter.RoleSelected (adapter : A2dpAdapter) (t : RequestTrace) : Prop :=
  adapter.webosAuto = false ∨ adapter.mMediaManager = false ∨
    ∃ role reply, ⟨.selectRole role, reply⟩ ∈ t ∧ UuidProfile.Selected reply

variable {t t' : RequestTrace} {error error' : A2dpError}

theorem answersOf_append (t t' : RequestTrace) :
    answersOf (t ++ t') = answersOf t ++ answersOf t' :=
  List.filterMap_append

theorem answeredOnce_of_one (error : A2dpError) (h : answersOf t = [error]) : AnsweredOnce t := by
  refine ⟨by rw [h]; rfl, ?_⟩
  rw [h]
  rintro ⟨hnone, error', herror', hne⟩
  rw [List.mem_singleton] at hnone herror'
  exact hne (herror'.trans hnone.symm)

theorem not_answeredOnce_of_two (error error' : A2dpError) (h : answersOf t = [error, error']) :
    ¬ AnsweredOnce t := by
  intro honce
  have hlength := honce.once
  rw [h] at hlength
  cases hlength

def Quiet (answers : List A2dpError) (t : RequestTrace) : Prop :=
  answersOf t = answers ∧ ∀ e ∈ t, e.1.isRequest = false

theorem quiet_nil : Quiet [] [] := ⟨rfl, nofun⟩

theorem Quiet.append {answers answers' : List A2dpError} (h : Quiet answers t)
    (h' : Quiet answers' t') : Quiet (answers ++ answers') (t ++ t') := by
  refine ⟨by rw [answersOf_append, h.1, h'.1], fun e he => ?_⟩
  rcases List.mem_append.mp he with he | he
  · exact h.2 e he
  · exact h'.2 e he

/-! ### The runs of the operations -/

section Runs

variable {a2dp a2dp' : UuidProfile} {adapter : A2dpAdapter} {address uuid : Text} {u : Unit}
  {device : A2dpDevice} {method : ProfileMethod}

theorem run_answer (h : Run (answer error) t u) : Quiet [error] t := by
  obtain rfl := run_perform_iff.mp h
  exact ⟨rfl, fun e he => by rw [List.mem_singleton.mp he]; rfl⟩

theorem run_passOn (h : Run (UuidProfile.passOn error) t u) : Quiet [error] t := by
  unfold UuidProfile.passOn at h
  split_ifs at h with hne
  · exact run_answer h
  · rw [not_not.mp hne]
    exact run_answer h

theorem run_callProfile (h : Run (device.callProfile method uuid UuidProfile.passOn) t u) :
    ∃ error, answersOf t = [error] := by
  obtain ⟨reply, t', rfl, hrest⟩ := run_perform_bind_iff.mp h
  cases reply with
  | none => exact ⟨.none, (run_passOn hrest).1⟩
  | some message => exact ⟨.fail, (run_passOn hrest).1⟩

/-- Without the device the callback is called, and the caller of this is not told. -/
theorem run_updateA2dpUuid
    (h : Run (a2dp.updateA2dpUuid adapter address UuidProfile.passOn) t a2dp') :
    Quiet (if (adapter.findDevice address).isSome then [] else [.paramInvalid]) t := by
  unfold UuidProfile.updateA2dpUuid at h
  cases hfind : adapter.findDevice address with
  | none =>
      rw [hfind] at h
      obtain ⟨t₁, t₂, _, rfl, hanswer, hreturn⟩ := run_bind_iff.mp h
      obtain ⟨rfl, _⟩ := run_pure_iff.mp hreturn
      exact (run_passOn hanswer).append quiet_nil
  | some device =>
      rw [hfind] at h
      dsimp only at h
      split_ifs at h
      · obtain ⟨rfl, _⟩ := run_pure_iff.mp h
        exact quiet_nil
      · obtain ⟨rfl, _⟩ := run_pure_iff.mp h
        exact quiet_nil

theorem run_baseRequest
    (h : Run (a2dp.baseRequest adapter (A2dpDevice.callProfile · method) address
      UuidProfile.passOn) t u) :
    if (adapter.findDevice address).isSome then ∃ error, answersOf t = [error]
    else Quiet [.paramInvalid] t := by
  unfold UuidProfile.baseRequest at h
  cases hfind : adapter.findDevice address with
  | none =>
      rw [hfind] at h
      exact run_passOn h
  | some device =>
      rw [hfind] at h
      exact run_callProfile h

theorem run_request
    (h : Run (do
      let a2dp' ← a2dp.updateA2dpUuid adapter address UuidProfile.passOn
      a2dp'.baseRequest adapter (A2dpDevice.callProfile · method) address UuidProfile.passOn
      return a2dp') t a2dp') :
    if (adapter.findDevice address).isSome then ∃ error, answersOf t = [error]
    else Quiet [.paramInvalid, .paramInvalid] t := by
  obtain ⟨t₁, t', a2dp₁, rfl, hupdate, hrest⟩ := run_bind_iff.mp h
  obtain ⟨t₂, t₃, _, rfl, hbase, hreturn⟩ := run_bind_iff.mp hrest
  obtain ⟨rfl, _⟩ := run_pure_iff.mp hreturn
  have hquiet := run_updateA2dpUuid hupdate
  have hanswer := run_baseRequest hbase
  rw [List.append_nil]
  split_ifs at hquiet hanswer ⊢
  · obtain ⟨error, herror⟩ := hanswer
    exact ⟨error, by rw [answersOf_append, hquiet.1, herror]; rfl⟩
  · exact hquiet.append hanswer

theorem answeredOnce_iff_known
    (h : if (adapter.findDevice address).isSome then ∃ error, answersOf t = [error]
      else Quiet [.paramInvalid, .paramInvalid] t) :
    (AnsweredOnce t ↔ (adapter.findDevice address).isSome) ∧
      (adapter.findDevice address = none → ∀ e ∈ t, e.1.isRequest = false) := by
  split_ifs at h with hknown
  · obtain ⟨error, herror⟩ := h
    refine ⟨iff_of_true (answeredOnce_of_one error herror) hknown, fun hnone => ?_⟩
    rw [hnone] at hknown
    cases hknown
  · exact ⟨iff_of_false (not_answeredOnce_of_two _ _ h.1) hknown, fun _ => h.2⟩

theorem run_selectRole {role : String} {failed : Request Unit}
    (h : Run (UuidProfile.selectRole adapter role failed) t u) :
    answersOf t = [] ∧
        (adapter.mMediaManager = false ∨
          ∃ reply, ⟨.selectRole role, reply⟩ ∈ t ∧ UuidProfile.Selected reply) ∨
      adapter.mMediaManager = true ∧
        ∃ reply t', t = ⟨.selectRole role, reply⟩ :: t' ∧ ¬ UuidProfile.Selected reply ∧
          Run failed t' u := by
  unfold UuidProfile.selectRole at h
  split_ifs at h with hmanager
  · obtain ⟨reply, t', rfl, hrest⟩ := run_perform_bind_iff.mp h
    split_ifs at hrest with hselected
    · obtain ⟨rfl, _⟩ := run_pure_iff.mp hrest
      exact .inl ⟨rfl, .inr ⟨reply, List.mem_cons_self, hselected⟩⟩
    · exact .inr ⟨hmanager, reply, t', rfl, hselected, hrest⟩
  · obtain ⟨rfl, _⟩ := run_pure_iff.mp h
    exact .inl ⟨rfl, .inl ((Bool.not_eq_true _).mp hmanager)⟩

/-- A role is selected and the change told. A failure has been answered before. -/
theorem answeredOnce_selectRole {role : String}
    (h : Run (do
      UuidProfile.selectRole adapter role (answer .fail)
      perform (.notifyA2dpRoleChnange uuid)
      answer .none
      return a2dp) t a2dp') :
    AnsweredOnce t ↔ adapter.mMediaManager = false ∨
      ∃ role reply, ⟨.selectRole role, reply⟩ ∈ t ∧ UuidProfile.Selected reply := by
  obtain ⟨t₁, t', _, rfl, hselect, hrest⟩ := run_bind_iff.mp h
  obtain ⟨_, t'', rfl, htell⟩ := run_perform_bind_iff.mp hrest
  obtain ⟨_, t₃, rfl, hreturn⟩ := run_perform_bind_iff.mp htell
  obtain ⟨rfl, _⟩ := run_pure_iff.mp hreturn
  rcases run_selectRole hselect with ⟨hquiet, hselected⟩ | ⟨hmanager, reply, t₂, rfl, hnot, hfail⟩
  · refine iff_of_true (answeredOnce_of_one .none ?_) (hselected.imp_right ?_)
    · rw [answersOf_append, hquiet]
      rfl
    · rintro ⟨reply, hmem, hreply⟩
      exact ⟨role, reply, List.mem_append_left _ hmem, hreply⟩
  · obtain rfl := run_perform_iff.mp hfail
    refine iff_of_false (not_answeredOnce_of_two .fail .none rfl) ?_
    rintro (hmanager' | ⟨role', reply', hmem, hreply⟩)
    · rw [hmanager] at hmanager'
      cases hmanager'
    · simp only [List.cons_append, List.nil_append, List.mem_cons, Sigma.mk.injEq,
        A2dpCall.selectRole.injEq, reduceCtorEq, false_and, List.not_mem_nil, or_false] at hmem
      obtain ⟨rfl, hsame⟩ := hmem
      rw [eq_of_heq hsame] at hreply
      exact hnot hreply

theorem answeredOnce_enable (h : Run (a2dp.enable adapter uuid true) t a2dp') :
    AnsweredOnce t ↔ adapter.RoleSelected t := by
  unfold UuidProfile.enable at h
  cases hauto : adapter.webosAuto with
  | true =>
      rw [hauto] at h
      rw [answeredOnce_selectRole h, A2dpAdapter.RoleSelected, hauto]
      exact (or_iff_right fun h => nomatch h).symm
  | false =>
      rw [hauto] at h
      obtain ⟨_, t', rfl, hrest⟩ := run_perform_bind_iff.mp h
      obtain ⟨_, t₂, rfl, hreturn⟩ := run_perform_bind_iff.mp hrest
      obtain ⟨rfl, _⟩ := run_pure_iff.mp hreturn
      exact iff_of_true (answeredOnce_of_one .none rfl) (.inl hauto)

theorem answeredOnce_disable (h : Run (a2dp.disable adapter uuid) t a2dp') :
    AnsweredOnce t ↔ adapter.RoleSelected t := by
  unfold UuidProfile.disable at h
  cases hauto : adapter.webosAuto with
  | true =>
      rw [hauto] at h
      rw [answeredOnce_selectRole h, A2dpAdapter.RoleSelected, hauto]
      exact (or_iff_right fun h => nomatch h).symm
  | false =>
      rw [hauto] at h
      obtain ⟨_, t', rfl, hreturn⟩ := run_perform_bind_iff.mp h
      obtain ⟨rfl, _⟩ := run_pure_iff.mp hreturn
      exact iff_of_true (answeredOnce_of_one .unsupported rfl) (.inl hauto)

theorem connect_eq_outcome (a2dp : UuidProfile) (adapter : A2dpAdapter) (address : Text) :
    a2dp.connect adapter address =
      match a2dp.toBluez5ProfileA2dp.connect with
      | .requested => do
        let a2dp ← a2dp.updateA2dpUuid adapter address UuidProfile.passOn
        a2dp.baseConnect adapter address UuidProfile.passOn
        return a2dp
      | .alreadyConnected => do
        answer .deviceAlreadyConnected
        return a2dp := by
  unfold UuidProfile.connect Bluez5ProfileA2dp.connect
  split_ifs <;> rfl

theorem answeredOnce_connect (h : Run (a2dp.connect adapter address) t a2dp') :
    (AnsweredOnce t ↔ a2dp.mConnected = true ∨ (adapter.findDevice address).isSome) ∧
      (adapter.findDevice address = none → ∀ e ∈ t, e.1.isRequest = false) := by
  rw [connect_eq_outcome] at h
  cases houtcome : a2dp.toBluez5ProfileA2dp.connect with
  | alreadyConnected =>
      have hconnected : a2dp.mConnected = true := by
        by_contra hnot
        rw [Bluez5ProfileA2dp.connect, if_pos hnot] at houtcome
        cases houtcome
      rw [houtcome] at h
      obtain ⟨_, t', rfl, hreturn⟩ := run_perform_bind_iff.mp h
      obtain ⟨rfl, _⟩ := run_pure_iff.mp hreturn
      refine ⟨iff_of_true (answeredOnce_of_one .deviceAlreadyConnected rfl)
        (.inl hconnected), fun _ e he => ?_⟩
      rw [List.mem_singleton.mp he]
      rfl
  | requested =>
      have hconnected : ¬ a2dp.mConnected = true := by
        intro hc
        rw [Bluez5ProfileA2dp.connect, if_neg (not_not.mpr hc)] at houtcome
        cases houtcome
      rw [houtcome] at h
      rw [or_iff_right hconnected]
      exact answeredOnce_iff_known (run_request h)

theorem answeredOnce_disconnect (h : Run (a2dp.disconnect adapter address) t a2dp') :
    (AnsweredOnce t ↔ (adapter.findDevice address).isSome) ∧
      (adapter.findDevice address = none → ∀ e ∈ t, e.1.isRequest = false) :=
  answeredOnce_iff_known (run_request h)

end Runs

/-- `connect` answers once if the profile is connected or the adapter knows the device,
`disconnect` if the adapter knows it, and `enable` and `disable` if no role has to be selected
or this succeeds. A device that is not known is never called. -/
theorem requests_answeredOnce_iff (a2dp a2dp' : UuidProfile) (adapter : A2dpAdapter)
    (t : RequestTrace) :
    (∀ address, Run (a2dp.connect adapter address) t a2dp' →
      (AnsweredOnce t ↔ a2dp.mConnected = true ∨ (adapter.findDevice address).isSome) ∧
        (adapter.findDevice address = none → ∀ e ∈ t, e.1.isRequest = false)) ∧
    (∀ address, Run (a2dp.disconnect adapter address) t a2dp' →
      (AnsweredOnce t ↔ (adapter.findDevice address).isSome) ∧
        (adapter.findDevice address = none → ∀ e ∈ t, e.1.isRequest = false)) ∧
    (∀ uuid, Run (a2dp.enable adapter uuid true) t a2dp' →
      (AnsweredOnce t ↔ adapter.RoleSelected t)) ∧
    ∀ uuid, Run (a2dp.disable adapter uuid) t a2dp' →
      (AnsweredOnce t ↔ adapter.RoleSelected t) :=
  ⟨fun _ => answeredOnce_connect, fun _ => answeredOnce_disconnect,
    fun _ => answeredOnce_enable, fun _ => answeredOnce_disable⟩

def noErrors : ∀ c, A2dpAnswer c
  | .callback _ => ()
  | .profile _ _ _ => none
  | .selectRole _ => none
  | .notifyA2dpRoleChnange _ => ()

/-- A known device is connected and answered once, another is answered twice. -/
theorem requests_answeredOnce_iff_known :
    let adapter : A2dpAdapter :=
      ⟨false, AList.singleton "AA".toList ⟨"/dev_AA".toList, [sourceUuid]⟩, [], false⟩
    let known := Program.follow noErrors (UuidProfile.connect {} adapter "aa".toList)
    let unknown := Program.follow noErrors (UuidProfile.connect {} adapter "bb".toList)
    known.1 = [⟨.profile .connectProfile "/dev_AA".toList sourceUuid, none⟩,
        ⟨.callback .none, ()⟩] ∧ AnsweredOnce known.1 ∧ ¬ AnsweredOnce unknown.1 := by
  intro adapter known unknown
  refine ⟨rfl, ?_, ?_⟩
  · exact (((requests_answeredOnce_iff {} known.2 adapter known.1).1 "aa".toList
      (run_follow _ _)).1).mpr (.inr (by decide))
  · exact fun h => absurd ((((requests_answeredOnce_iff {} unknown.2 adapter unknown.1).1
      "bb".toList (run_follow _ _)).1).mp h) (by decide)

/-- The caller is answered twice when the address is not known. -/
theorem connect_answers_twice : ¬ ∀ (a2dp a2dp' : UuidProfile) (adapter : A2dpAdapter)
    (address : Text) (t : RequestTrace), Run (a2dp.connect adapter address) t a2dp' →
      AnsweredOnce t := by
  intro h
  have honce := h {} _ ⟨false, ∅, [], false⟩ [] _ (run_follow noErrors _)
  exact absurd ((answeredOnce_connect (run_follow noErrors _)).1.mp honce) (by decide)

end BluezSil.A2dp
