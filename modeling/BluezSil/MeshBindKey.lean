import BluezSil.MeshConfigClient

/-!
# The messages that bind and unbind an application key

Both messages carry the element address, the key index and the model id, and the
model id goes through `putModelId`, which writes its low half. A vendor model, whose
company id is the high half, is sent as the SIG model with its number.
-/

namespace BluezSil.Mesh

open ByteAccess

/-- What a key is bound to or unbound from: the low half of the model id is the model
number, the high half the company id of a vendor model. -/
structure ModelBinding where
  elementAddress : UInt16
  appKeyIndex : UInt16
  modelId : UInt32
  deriving DecidableEq, Repr

def Outcome.sentMessage (o : Outcome) : Option (List UInt8) :=
  match o.outputs.head? with
  | some (.devKeySend _ _ msg _) => some msg
  | _ => none

namespace ModelBinding

def bindMessage (c : ConfigClient) (netKeyIndex : UInt16) (reply : Reply) (b : ModelBinding) :
    Option (List UInt8) :=
  (c.configBindAppKey b.elementAddress netKeyIndex b.appKeyIndex b.modelId reply).sentMessage

def unbindMessage (c : ConfigClient) (netKeyIndex : UInt16) (reply : Reply) (b : ModelBinding) :
    Option (List UInt8) :=
  (c.configUnBindAppKey b.elementAddress netKeyIndex b.appKeyIndex b.modelId reply).sentMessage

def arguments (b : ModelBinding) : List UInt8 :=
  putLe16 b.elementAddress ++ putLe16 b.appKeyIndex ++ ConfigClient.putModelId b.modelId

end ModelBinding

theorem sendAndAwait_sentMessage (c : ConfigClient) (opcode : UInt32)
    (destAddress netKeyIndex : UInt16) (arguments : List UInt8) (reply : Reply) :
    (c.sendAndAwait opcode destAddress netKeyIndex arguments reply).sentMessage =
      some (meshOpcodeSet opcode ++ arguments) := by
  cases reply with
  | none => rfl
  | some message => rfl

namespace ModelBinding

variable {b b' : ModelBinding}

theorem bindMessage_eq (c : ConfigClient) (netKeyIndex : UInt16) (reply : Reply)
    (b : ModelBinding) :
    b.bindMessage c netKeyIndex reply = some (meshOpcodeSet opModelAppBind ++ b.arguments) :=
  sendAndAwait_sentMessage _ _ _ _ _ _

theorem unbindMessage_eq (c : ConfigClient) (netKeyIndex : UInt16) (reply : Reply)
    (b : ModelBinding) :
    b.unbindMessage c netKeyIndex reply =
      some (meshOpcodeSet opModelAppUnbind ++ b.arguments) :=
  sendAndAwait_sentMessage _ _ _ _ _ _

/-- The two bindings differ in the company id at most. -/
def SameNumber (b b' : ModelBinding) : Prop :=
  b.elementAddress = b'.elementAddress ∧ b.appKeyIndex = b'.appKeyIndex ∧
    b.modelId.toUInt16 = b'.modelId.toUInt16

theorem arguments_eq_iff : b.arguments = b'.arguments ↔ b.SameNumber b' := by
  constructor
  · intro h
    obtain ⟨hhead, hmodel⟩ := List.append_inj h rfl
    obtain ⟨haddress, hkey⟩ := List.append_inj hhead rfl
    exact ⟨putLe16_injective haddress, putLe16_injective hkey, putLe16_injective hmodel⟩
  · rintro ⟨haddress, hkey, hmodel⟩
    rw [arguments, arguments, haddress, hkey, ConfigClient.putModelId, ConfigClient.putModelId,
      hmodel]

theorem SameNumber.eq_iff (h : b.SameNumber b') :
    b = b' ↔ b.modelId >>> 16 = b'.modelId >>> 16 := by
  constructor
  · rintro rfl
    rfl
  · intro hcompany
    obtain ⟨haddress, hkey, hmodel⟩ := h
    have hid : b.modelId = b'.modelId := by
      rw [← word32_halves b.modelId, hmodel, hcompany, word32_halves]
    cases b
    cases b'
    rw [mk.injEq]
    exact ⟨haddress, hkey, hid⟩

theorem message_names_iff {message message' : Option (List UInt8)} {opcode : List UInt8}
    (hmessage : message = some (opcode ++ b.arguments))
    (hmessage' : message' = some (opcode ++ b'.arguments)) :
    (message = message' → b = b') ↔
      (b.SameNumber b' → b.modelId >>> 16 = b'.modelId >>> 16) := by
  have hsame : message = message' ↔ b.SameNumber b' := by
    rw [hmessage, hmessage', Option.some.injEq, List.append_cancel_left_eq, arguments_eq_iff]
  rw [hsame]
  exact forall_congr' fun h => h.eq_iff

/-- Messages of either kind name their models exactly when two models of one number,
element and key are models of one company. -/
theorem messages_name_model_iff (c c' : ConfigClient) (netKeyIndex netKeyIndex' : UInt16)
    (reply reply' : Reply) (b b' : ModelBinding) :
    ((b.bindMessage c netKeyIndex reply = b'.bindMessage c' netKeyIndex' reply' → b = b') ↔
      (b.SameNumber b' → b.modelId >>> 16 = b'.modelId >>> 16)) ∧
    ((b.unbindMessage c netKeyIndex reply = b'.unbindMessage c' netKeyIndex' reply' → b = b') ↔
      (b.SameNumber b' → b.modelId >>> 16 = b'.modelId >>> 16)) :=
  ⟨message_names_iff (bindMessage_eq c netKeyIndex reply b)
      (bindMessage_eq c' netKeyIndex' reply' b'),
    message_names_iff (unbindMessage_eq c netKeyIndex reply b)
      (unbindMessage_eq c' netKeyIndex' reply' b')⟩

/-- Model 0x1000 of company 0x05f1 is bound under the message of SIG model 0x1000. -/
theorem messages_lose_company :
    ¬ ∀ (c : ConfigClient) (netKeyIndex : UInt16) (reply : Reply) (b b' : ModelBinding),
      b.bindMessage c netKeyIndex reply = b'.bindMessage c netKeyIndex reply → b = b' := by
  intro hall
  have hbind := hall {} 0 none ⟨0x0005, 1, 0x1000⟩ ⟨0x0005, 1, 0x05f11000⟩ (by decide)
  exact absurd hbind (by decide)

end ModelBinding

end BluezSil.Mesh
