import BluezSil.DecimalText
import BluezSil.ObexProfile
import BluezSil.TextSearch

/-!
# MAP notifications

A notification names a message by its object path, from which the session id and the handle
are cut out by searching for `session` and `message`. The client knows the session by the
last component of the path of the session, and reads a message by the session and the handle.
-/

namespace BluezSil.Obex

open DecimalText TextSearch

inductive MapPropertyType
  | folder
  | subject
  | timestamp
  | sender
  | senderAddress
  | replyTo
  | recipient
  | recipientAddress
  | messageTypes
  | status
  | size
  | attachmentSize
  | priority
  | read
  | sent
  | isProtected
  | textType
  | objectPath
  | eventType
  | oldFolder
  deriving DecidableEq

def propertyMap : List (String × MapPropertyType) :=
  [("Folder", .folder), ("Subject", .subject), ("Timestamp", .timestamp), ("Sender", .sender),
    ("SenderAddress", .senderAddress), ("ReplyTo", .replyTo), ("Recipient", .recipient),
    ("RecipientAddress", .recipientAddress), ("Type", .messageTypes), ("Status", .status),
    ("Size", .size), ("AttachmentSize", .attachmentSize), ("Priority", .priority),
    ("Read", .read), ("Sent", .sent), ("Protected", .isProtected), ("Text", .textType),
    ("ObjectPath", .objectPath), ("EventType", .eventType), ("OldFolder", .oldFolder)]

inductive MapVariant
  | string (value : Text)
  | uint64 (value : UInt64)
  | boolean (value : Bool)
  deriving DecidableEq

namespace MapVariant

/-- Each of the readers gives nothing for a value of another type. -/
def getString : MapVariant → Text
  | .string value => value
  | _ => []

def getUint64 : MapVariant → UInt64
  | .uint64 value => value
  | _ => 0

def getBoolean : MapVariant → Bool
  | .boolean value => value
  | _ => false

end MapVariant

abbrev BluetoothMapProperty := MapPropertyType × MapVariant

abbrev BluetoothMessageList := List (Text × List BluetoothMapProperty)

/-- A changed property: the dictionary of a notification, or any other. -/
inductive ChangedProperty
  | notification (entries : List (String × MapVariant))
  | other (key : String)

structure MessageNotification where
  adapterAddress : Text
  sessionId : Text
  messageList : BluetoothMessageList
  deriving DecidableEq

/-- An object path is read elsewhere and is no property. -/
def addMessageProperties (key : String) (value : MapVariant)
    (messageProperties : List BluetoothMapProperty) : List BluetoothMapProperty :=
  match propertyMap.lookup key with
  | none => messageProperties
  | some type =>
    match type with
    | .objectPath => messageProperties
    | .size | .attachmentSize => messageProperties ++ [(type, .uint64 value.getUint64)]
    | .textType | .priority | .read | .sent | .isProtected =>
        messageProperties ++ [(type, .boolean value.getBoolean)]
    | _ => messageProperties ++ [(type, .string value.getString)]

structure NotificationEntries where
  notificationEvent : Bool
  properties : List BluetoothMapProperty := []
  objectPath : Text := []

def NotificationEntries.read (s : NotificationEntries) (entry : String × MapVariant) :
    NotificationEntries :=
  let s := { s with properties := addMessageProperties entry.1 entry.2 s.properties }
  if entry.1 = "ObjectPath" then
    { s with notificationEvent := true, objectPath := entry.2.getString }
  else s

structure NotificationLoop where
  notificationEvent : Bool := false
  messageList : BluetoothMessageList := []
  sessionId : Text := []

def sessionText : Text := "session".toList

def messageText : Text := "message".toList

def NotificationLoop.update (s : NotificationLoop) : ChangedProperty → NotificationLoop
  | .other _ => s
  | .notification entries =>
    let e := entries.foldl NotificationEntries.read ⟨s.notificationEvent, [], []⟩
    { notificationEvent := e.notificationEvent
      messageList :=
        match find messageText e.objectPath with
        | some messageFound =>
          s.messageList ++ [(substr e.objectPath messageFound none, e.properties)]
        | none => s.messageList
      sessionId :=
        match find sessionText e.objectPath with
        | some sessionFound =>
          substr e.objectPath sessionFound (some (sessionText.length + 1))
        | none => s.sessionId }

def updateProperties (address : Text) (changedProperties : List ChangedProperty) :
    Option MessageNotification :=
  let s := changedProperties.foldl NotificationLoop.update {}
  if s.notificationEvent then
    some ⟨convertAddressToLowerCase address, s.sessionId, s.messageList⟩
  else none

def getSessionIdFromSessionPath (sessionPath : Text) : Text :=
  match splitLast (· == '/') sessionPath with
  | some (_, name) => name
  | none => []

inductive MapError
  | fail
  | paramInvalid
  | mapMessageHandleNotFound
  deriving DecidableEq

/-- Which message objects have a proxy, and the object of the transfer that `Get` replies. -/
structure MessageBus where
  hasProxy : Text → Bool
  get : Text → Text → Bool → Except String Text

/-- The callback gets an error, or a transfer is started that ends with it. -/
inductive MessageRead
  | answered (error : MapError)
  | startTransfer (objectPath : Text)
  deriving DecidableEq

def readMessage (bus : MessageBus) (objectPath : Text) (attachment : Bool)
    (destinationFile : Text) : MessageRead :=
  if bus.hasProxy objectPath then
    match bus.get objectPath destinationFile attachment with
    | .error message =>
      if strstr message "UnknownObject" then .answered .mapMessageHandleNotFound
      else .answered .fail
    | .ok transfer => .startTransfer transfer
  else .answered .mapMessageHandleNotFound

/-- `session` is what `findSession` has found. -/
def getMessage (bus : MessageBus) (session : Option ObexSession) (messageHandle : Text)
    (attachment : Bool) (destinationFile : Text) : MessageRead :=
  match session with
  | none => .answered .paramInvalid
  | some session =>
      readMessage bus (session.mObjectPath ++ '/' :: messageHandle) attachment destinationFile

/-- The path of a session: the part before the last component names no session or message. -/
structure SessionPath where
  parent : Text
  number : ℕ
  parent_session : ¬ sessionText <:+: parent
  parent_message : ¬ messageText <:+: parent

namespace SessionPath

variable (p : SessionPath) (suffix : Text)

def name : Text := sessionText ++ decimal p.number

def path : Text := p.parent ++ '/' :: p.name

def message : Text := p.path ++ '/' :: (messageText ++ suffix)

end SessionPath

/-- The properties changed have one notification, which names the object once. -/
def Announces (changedProperties : List ChangedProperty) (objectPath : Text) : Prop :=
  ∃ before after entries first last,
    changedProperties = before ++ .notification entries :: after ∧
    (∀ change ∈ before ++ after, ∃ key, change = .other key) ∧
    entries = first ++ ("ObjectPath", .string objectPath) :: last ∧
    ∀ entry ∈ first ++ last, entry.1 ≠ "ObjectPath"

/-- What is reported names the session as the client knows it and the message by its handle,
and the two address the object again. -/
def Identifies (session : ObexSession) (objectPath messageHandle : Text)
    (report : Option MessageNotification) : Prop :=
  (∃ adapterAddress properties, report =
    some ⟨adapterAddress, getSessionIdFromSessionPath session.mObjectPath,
      [(messageHandle, properties)]⟩) ∧
  ∀ bus attachment destinationFile,
    getMessage bus (some session) messageHandle attachment destinationFile =
      readMessage bus objectPath attachment destinationFile

namespace SessionPath

variable (p : SessionPath) (suffix : Text)

theorem not_mem_name {c : Char} (hsession : c ∉ sessionText) (hdigit : c.isDigit = false) :
    c ∉ p.name := by
  unfold name
  rw [List.mem_append, not_or]
  refine ⟨hsession, fun h => ?_⟩
  rw [isDigit_of_mem_decimal h] at hdigit
  cases hdigit

theorem getSessionId : getSessionIdFromSessionPath p.path = p.name := by
  unfold getSessionIdFromSessionPath path
  rw [splitLast_append (by decide)]
  intro c hc
  rw [beq_eq_false_iff_ne]
  rintro rfl
  exact p.not_mem_name (by decide) (by decide) hc

theorem find_session : find sessionText (p.message suffix) = some (p.parent.length + 1) := by
  have hbegins : sessionText <+: p.name ++ '/' :: (messageText ++ suffix) := by
    rw [name, List.append_assoc]
    exact List.prefix_append _ _
  rw [message, path, List.append_assoc, List.cons_append,
    find_append_cons (by decide) (by decide) p.parent_session, find_of_prefix hbegins]
  simp

theorem find_message : find messageText (p.message suffix) = some (p.path.length + 1) := by
  -- there is no `m` in the name of the session
  have hname : ¬ messageText <:+: p.name := fun h =>
    p.not_mem_name (by decide : 'm' ∉ sessionText) (by decide)
      (h.subset (by decide : 'm' ∈ messageText))
  rw [message, path, List.append_assoc, List.cons_append,
    find_append_cons (by decide) (by decide) p.parent_message,
    find_append_cons (by decide) (by decide) hname,
    find_of_prefix (List.prefix_append messageText suffix)]
  simp
  omega

theorem substr_session :
    substr (p.message suffix) (p.parent.length + 1) (some (sessionText.length + 1)) =
      sessionText ++ (decimal p.number).take 1 := by
  obtain ⟨digit, digits, hdigits⟩ := List.exists_cons_of_ne_nil (decimal_ne_nil p.number)
  have hdrop : (p.message suffix).drop (p.parent.length + 1) =
      sessionText ++ digit :: (digits ++ '/' :: (messageText ++ suffix)) := by
    simp [message, path, name, hdigits]
  rw [substr, hdrop, hdigits, List.take_length_add_append]
  rfl

theorem substr_message :
    substr (p.message suffix) (p.path.length + 1) none = messageText ++ suffix := by
  simp [substr, message]

end SessionPath

/-! ### What a notification reports -/

theorem read_entries_of_ne {entries : List (String × MapVariant)}
    (h : ∀ entry ∈ entries, entry.1 ≠ "ObjectPath") (s : NotificationEntries) :
    (entries.foldl NotificationEntries.read s).objectPath = s.objectPath ∧
      (entries.foldl NotificationEntries.read s).notificationEvent = s.notificationEvent := by
  induction entries generalizing s with
  | nil => exact ⟨rfl, rfl⟩
  | cons entry entries ih =>
      have hread : (s.read entry).objectPath = s.objectPath ∧
          (s.read entry).notificationEvent = s.notificationEvent := by
        simp [NotificationEntries.read, h entry List.mem_cons_self]
      rw [List.foldl_cons, ← hread.1, ← hread.2]
      exact ih (fun entry hentry => h entry (List.mem_cons_of_mem _ hentry)) _

theorem update_of_other {changedProperties : List ChangedProperty}
    (h : ∀ change ∈ changedProperties, ∃ key, change = .other key) (s : NotificationLoop) :
    changedProperties.foldl NotificationLoop.update s = s := by
  induction changedProperties with
  | nil => rfl
  | cons change changedProperties ih =>
      obtain ⟨key, rfl⟩ := h change List.mem_cons_self
      exact ih fun change hchange => h change (List.mem_cons_of_mem _ hchange)

/-- The session id reported ends with the first digit of the number. -/
theorem updateProperties_announced {changedProperties : List ChangedProperty} {p : SessionPath}
    {suffix : Text} (h : Announces changedProperties (p.message suffix)) (address : Text) :
    ∃ properties, updateProperties address changedProperties =
      some ⟨convertAddressToLowerCase address, sessionText ++ (decimal p.number).take 1,
        [(messageText ++ suffix, properties)]⟩ := by
  obtain ⟨before, after, entries, first, last, rfl, hothers, rfl, hentries⟩ := h
  rw [List.forall_mem_append] at hothers hentries
  have hfirst := read_entries_of_ne hentries.1 ⟨false, [], []⟩
  have hlast := read_entries_of_ne hentries.2
    ((first.foldl NotificationEntries.read ⟨false, [], []⟩).read
      ("ObjectPath", .string (p.message suffix)))
  have hloop := update_of_other hothers.2
  unfold updateProperties
  rw [List.foldl_append, update_of_other hothers.1, List.foldl_cons, hloop]
  simp only [NotificationLoop.update, List.foldl_append, List.foldl_cons, hlast]
  simp [NotificationEntries.read, MapVariant.getString, p.find_session, p.find_message,
    p.substr_session, p.substr_message]

theorem notification_identifies_iff {changedProperties : List ChangedProperty} {p : SessionPath}
    {suffix : Text} (h : Announces changedProperties (p.message suffix))
    (address sessionKey : Text) :
    Identifies ⟨sessionKey, p.path⟩ (p.message suffix) (messageText ++ suffix)
      (updateProperties address changedProperties) ↔ p.number < 10 := by
  obtain ⟨properties, hreport⟩ := updateProperties_announced h address
  rw [hreport, ← decimal_take_one]
  constructor
  · rintro ⟨⟨adapterAddress, others, heq⟩, -⟩
    have hid := congrArg MessageNotification.sessionId (Option.some.inj heq)
    rw [p.getSessionId] at hid
    exact List.append_cancel_left hid
  · intro hnumber
    refine ⟨⟨convertAddressToLowerCase address, properties, ?_⟩, fun _ _ _ => rfl⟩
    rw [p.getSessionId, hnumber]
    rfl

/-- The paths that BlueZ gives to sessions. -/
def clientSession (number : ℕ) : SessionPath where
  parent := "/org/bluez/obex/client".toList
  number := number
  parent_session := find_eq_none_iff.mp (by decide)
  parent_message := find_eq_none_iff.mp (by decide)

def newMessage (objectPath : Text) : List ChangedProperty :=
  [.notification [("EventType", .string "NewMessage".toList), ("ObjectPath", .string objectPath)]]

theorem newMessage_announces (objectPath : Text) : Announces (newMessage objectPath) objectPath :=
  ⟨[], [], _, [("EventType", .string "NewMessage".toList)], [], rfl, nofun, rfl, by simp⟩

theorem notification_identifies_iff_session9 :
    Identifies ⟨[], (clientSession 9).path⟩ ((clientSession 9).message "1A".toList)
      (messageText ++ "1A".toList)
      (updateProperties [] (newMessage ((clientSession 9).message "1A".toList))) ↔ 9 < 10 :=
  notification_identifies_iff (newMessage_announces _) [] []

/-- The session with the number 10 is reported as that with the number 1. -/
theorem notification_names_other_session :
    ¬ ∀ changedProperties (p : SessionPath) suffix address sessionKey,
      Announces changedProperties (p.message suffix) →
        Identifies ⟨sessionKey, p.path⟩ (p.message suffix) (messageText ++ suffix)
          (updateProperties address changedProperties) := by
  intro h
  obtain ⟨⟨adapterAddress, properties, heq⟩, -⟩ :=
    h _ (clientSession 10) "1".toList [] [] (newMessage_announces _)
  have hreport : (updateProperties [] (newMessage ((clientSession 10).message "1".toList))).map
      MessageNotification.sessionId = some "session1".toList := by decide
  have hid : getSessionIdFromSessionPath (clientSession 10).path = "session10".toList := by decide
  rw [heq] at hreport
  simp only [Option.map_some, hid] at hreport
  exact absurd hreport (by decide)

end BluezSil.Obex
