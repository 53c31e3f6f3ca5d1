import BluezSil.KeyedFold
import BluezSil.ObexTransferReports

/-!
# The order of the properties of a transfer

The byte count of a transfer sent is set to the file size after every single property read
in the state COMPLETE, so the counts in between depend on the order of the dictionary. The
properties are folded here as their bare assignments with this setting after each, and all
orders end alike, since a setting can wait for the next one as long as the transfer stays
complete.
-/

namespace BluezSil.Obex

open KeyedFold

def TransferProperty.key : TransferProperty → String
  | .transferred _ => "Transferred"
  | .size _ => "Size"
  | .status _ => "Status"
  | .name _ => "Name"
  | .filename _ => "Filename"
  | .messageHandle _ => "MessageHandle"
  | .other key => key

def TransferProperty.told : TransferProperty → Bool
  | .transferred _ => true
  | .status _ => true
  | _ => false

namespace ObexTransfer

/-- The field of a property alone. -/
def assign (t : ObexTransfer) : TransferProperty → ObexTransfer
  | .transferred value => { t with mBytesTransferred := value }
  | .size value => { t with mFileSize := value }
  | .status value => t.setStatus value
  | .name value => { t with mFileName := value }
  | .filename value => { t with mFilePath := value }
  | .messageHandle value => { t with mMessageHandle := value }
  | .other _ => t

def takeProperty (r : ObexTransfer × Bool) (property : TransferProperty) : ObexTransfer × Bool :=
  ((r.1.parsePropertyFromVariant property).1,
    r.2 || (r.1.parsePropertyFromVariant property).2)

def updates (t : ObexTransfer) (dictionaries : List (List TransferProperty)) : ObexTransfer :=
  dictionaries.foldl (fun t properties => (t.updateFromProperties properties).1) t

/-- What has been sent of a complete transfer is the whole file. -/
def SentWhole (t : ObexTransfer) : Prop :=
  t.mTransferType = .sending → t.mState = .complete → t.mBytesTransferred = t.mFileSize

variable {t : ObexTransfer} {r : ObexTransfer × Bool} {e e' property : TransferProperty}
  {properties : List TransferProperty}

theorem updateFromProperties_eq_foldl :
    t.updateFromProperties properties = properties.foldl takeProperty (t, false) := rfl

theorem parsePropertyFromVariant_eq (t : ObexTransfer) (property : TransferProperty) :
    t.parsePropertyFromVariant property = ((t.assign property).completeSize, property.told) := by
  cases property <;> rfl

theorem takeProperty_eq (r : ObexTransfer × Bool) (property : TransferProperty) :
    takeProperty r property = ((r.1.assign property).completeSize, r.2 || property.told) := by
  rw [takeProperty, parsePropertyFromVariant_eq]

/-! ### The assignments -/

theorem assign_mState (h : e.key ≠ "Status") : (t.assign e).mState = t.mState := by
  cases e with
  | status value => exact absurd rfl h
  | _ => rfl

theorem assign_mTransferType (t : ObexTransfer) (e : TransferProperty) :
    (t.assign e).mTransferType = t.mTransferType := by
  cases e with
  | status value =>
      show (t.setStatus value).mTransferType = t.mTransferType
      unfold setStatus
      split_ifs <;> rfl
  | _ => rfl

theorem setStatus_assign {state : String} (h : e.key ≠ "Status") :
    (t.setStatus state).assign e = (t.assign e).setStatus state := by
  cases e with
  | status value => exact absurd rfl h
  | _ =>
      unfold setStatus
      split_ifs <;> rfl

theorem assign_comm (h : e.key ≠ e'.key) : (t.assign e).assign e' = (t.assign e').assign e := by
  cases e with
  | status value => exact setStatus_assign h.symm
  | _ =>
      cases e' with
      | status value => exact (setStatus_assign h).symm
      | _ => first | rfl | exact absurd rfl h

/-! ### The byte count of a complete transfer -/

theorem completeSize_of_open (h : t.mState ≠ .complete) : t.completeSize = t :=
  if_neg fun hc => h hc.1

theorem completeSize_of_complete (h : t.mState = .complete) (ht : t.mTransferType = .sending) :
    t.completeSize = { t with mBytesTransferred := t.mFileSize } := by
  unfold completeSize
  split_ifs with hc
  · rfl
  · have heq : t.mBytesTransferred = t.mFileSize := not_not.mp fun hne => hc ⟨h, ht, hne⟩
    exact congrArg (fun value => { t with mBytesTransferred := value }) heq

theorem completeSize_of_receiving (h : t.mTransferType ≠ .sending) : t.completeSize = t :=
  if_neg fun hc => h hc.2.1

theorem completeSize_sentWhole (t : ObexTransfer) : t.completeSize.SentWhole := by
  intro htype hstate
  by_cases ht : t.mTransferType = .sending
  · rw [completeSize_mState] at hstate
    rw [completeSize_of_complete hstate ht]
  · rw [completeSize_of_receiving ht] at htype
    exact absurd htype ht

/-- While the transfer stays complete, its byte count can be set with the next property. -/
theorem completeSize_assign_completeSize (h : t.mState = .complete → e.key ≠ "Status") :
    (t.completeSize.assign e).completeSize = (t.assign e).completeSize := by
  by_cases hs : t.mState = .complete
  · by_cases ht : t.mTransferType = .sending
    · have hstate : (t.assign e).mState = .complete := (assign_mState (h hs)).trans hs
      have htype : (t.assign e).mTransferType = .sending :=
        (assign_mTransferType t e).trans ht
      rw [completeSize_of_complete hs ht, completeSize_of_complete hstate htype]
      cases e with
      | status value => exact absurd rfl (h hs)
      | _ => exact completeSize_of_complete hs ht
    · rw [completeSize_of_receiving ht]
  · rw [completeSize_of_open hs]

/-! ### Any order -/

/-- A complete transfer may leave this state with a Status, so the properties beside it must
have been read before. -/
def Swaps (r : ObexTransfer × Bool) (e e' : TransferProperty) : Prop :=
  r.1.mState = .complete → e.key ≠ "Status" ∧ e'.key ≠ "Status"

theorem assign_complete (h : r.1.mState = .complete → e'.key ≠ "Status") (hne : e.key ≠ e'.key)
    (hs : (r.1.assign e).mState = .complete) : e'.key ≠ "Status" := by
  by_cases he : e.key = "Status"
  · rw [← he]
    exact hne.symm
  · rw [assign_mState he] at hs
    exact h hs

theorem takeProperty_takeProperty (hne : e.key ≠ e'.key)
    (h : r.1.mState = .complete → e'.key ≠ "Status") :
    takeProperty (takeProperty r e) e' =
      (((r.1.assign e).assign e').completeSize, r.2 || e.told || e'.told) := by
  rw [takeProperty_eq, takeProperty_eq]
  dsimp only
  rw [completeSize_assign_completeSize (assign_complete h hne)]

theorem swapLaws : SwapLaws takeProperty TransferProperty.key Swaps where
  comm := by
    intro r e e' hne hswaps
    rw [takeProperty_takeProperty hne fun hs => (hswaps hs).2,
      takeProperty_takeProperty hne.symm fun hs => (hswaps hs).1, assign_comm hne,
      Bool.or_right_comm]
  keep := by
    intro r e e' property he he' hswaps hs
    rw [takeProperty_eq, completeSize_mState] at hs
    exact ⟨assign_complete (fun h => (hswaps h).1) he hs,
      assign_complete (fun h => (hswaps h).2) he' hs⟩

theorem updateFromProperties_orderFree (h : t.mState ≠ .complete)
    (hkeys : (properties.map TransferProperty.key).Nodup) :
    OrderFree takeProperty (t, false) properties :=
  swapLaws.orderFree hkeys fun _ _ _ _ _ hs => absurd hs h

/-! ### Any number of updates -/

theorem updateFromProperties_sentWhole (h : t.SentWhole) (properties : List TransferProperty) :
    (t.updateFromProperties properties).1.SentWhole := by
  rw [updateFromProperties_eq_foldl]
  refine List.foldlRecOn properties takeProperty
    (motive := fun r : ObexTransfer × Bool => r.1.SentWhole) h ?_
  intro r _ property _
  rw [takeProperty_eq]
  exact completeSize_sentWhole _

theorem updates_sentWhole (h : t.SentWhole) (dictionaries : List (List TransferProperty)) :
    (t.updates dictionaries).SentWhole := by
  unfold updates
  exact List.foldlRecOn dictionaries _ h fun _ hu properties _ =>
    updateFromProperties_sentWhole hu properties

theorem takeProperty_mTransferType (r : ObexTransfer × Bool) (property : TransferProperty) :
    (takeProperty r property).1.mTransferType = r.1.mTransferType := by
  rw [takeProperty_eq, ← assign_mTransferType r.1 property]
  unfold completeSize
  split_ifs <;> rfl

theorem updates_mTransferType (t : ObexTransfer) (dictionaries : List (List TransferProperty)) :
    (t.updates dictionaries).mTransferType = t.mTransferType := by
  unfold updates
  refine List.foldlRecOn dictionaries _
    (motive := fun u : ObexTransfer => u.mTransferType = t.mTransferType) rfl ?_
  intro u hu properties _
  rw [updateFromProperties_eq_foldl]
  refine List.foldlRecOn properties takeProperty
    (motive := fun r : ObexTransfer × Bool => r.1.mTransferType = t.mTransferType) hu ?_
  intro r hr property _
  rw [takeProperty_mTransferType, hr]

theorem sentWhole_of_open (h : t.mState ≠ .complete) : t.SentWhole :=
  fun _ hs => absurd hs h

end ObexTransfer

open ObexTransfer

/-- A transfer that is not complete ends up alike in whatever order its properties are read,
and after any updates one that is sent and complete has sent its whole file. -/
theorem transferUpdates_commute (t : ObexTransfer) (h : t.mState ≠ .complete) :
    (∀ properties entries entries' : List TransferProperty,
      (properties.map TransferProperty.key).Nodup → entries.Perm properties →
      entries'.Perm properties →
        t.updateFromProperties entries = t.updateFromProperties entries') ∧
    ∀ dictionaries : List (List TransferProperty), t.mTransferType = .sending →
      (t.updates dictionaries).mState = .complete →
        (t.updates dictionaries).mBytesTransferred = (t.updates dictionaries).mFileSize := by
  constructor
  · intro properties entries entries' hkeys hperm hperm'
    exact updateFromProperties_orderFree h hkeys entries entries' hperm hperm'
  · intro dictionaries hsending hcomplete
    have htype := (updates_mTransferType t dictionaries).trans hsending
    exact updates_sentWhole (sentWhole_of_open h) dictionaries htype hcomplete

/-- The count is given with the end of a file of 7 bytes, before its size and after it. -/
theorem transferUpdates_commute_small :
    let t : ObexTransfer := ⟨"/session0/transfer0".toList, .sending, .baseActive, .id 1,
      true, true, 3, 0, .active, "", "", ""⟩
    t.updateFromProperties [.status "complete", .transferred 5, .size 7] =
        t.updateFromProperties [.size 7, .transferred 5, .status "complete"] ∧
      (t.updates [[.size 7], [.status "complete"]]).mBytesTransferred = 7 := by
  intro t
  have hopen : t.mState ≠ .complete := by decide
  refine ⟨(transferUpdates_commute t hopen).1 [.size 7, .transferred 5, .status "complete"] _ _
    (by decide) (by decide) (.refl _), ?_⟩
  exact (transferUpdates_commute t hopen).2 [[.size 7], [.status "complete"]] rfl (by decide)

end BluezSil.Obex
