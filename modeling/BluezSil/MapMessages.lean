import BluezSil.MapNotifications
import BluezSil.TransitionRun

/-!
# Messages of MAP sessions

A listing gives each message a handle, the end of its object path. Whoever holds a session
and a handle can read the message and set its status: the path is put together again from
that of the session. So a session is a mailbox of its own, whatever else goes on, and what is
set through it reaches the objects of its messages and no others.
-/

namespace BluezSil.Obex

open DecimalText TextSearch TransitionRun TransitionRun.Machine

inductive MessageCall
  | setRead (value : Bool)
  | setDeleted (value : Bool)
  deriving DecidableEq

/-- The inner loop of `parseGetMessageListResponse`. -/
def messageProperties (dictionary : List (String × MapVariant)) : List BluetoothMapProperty :=
  dictionary.foldl (fun properties e => addMessageProperties e.1 e.2 properties) []

def parseGetMessageListResponse (outMessageList : List (Text × List (String × MapVariant))) :
    BluetoothMessageList :=
  outMessageList.foldl
    (fun messageList e =>
      match find messageText e.1 with
      | some found => messageList ++ [(substr e.1 found none, messageProperties e.2)]
      | none => messageList)
    []

/-- The sessions of the profile, and what has been set of the message objects, oldest first. -/
structure MapClient where
  mSessions : KeyedMap Text ObexSession := ∅
  calls : List (Text × MessageCall) := []

namespace MapClient

variable (s : MapClient)

/-- `reply` is what the daemon lists, if the call does not fail. -/
def getMessageList (sessionKey : Text) (hasMessageProxy : Bool)
    (reply : Option (List (Text × List (String × MapVariant)))) :
    Option MapError × BluetoothMessageList :=
  match s.mSessions.lookup sessionKey with
  | none => (some .paramInvalid, [])
  | some _ =>
    if hasMessageProxy then
      match reply with
      | none => (some .fail, [])
      | some outMessageList => (none, parseGetMessageListResponse outMessageList)
    else (some .fail, [])

/-- `hasProxy` tells whether there is a proxy for the object path. -/
def setMessageStatus (sessionKey messageHandle statusIndicator : Text) (statusValue : Bool)
    (hasProxy : Bool) : MapClient × Option MapError :=
  match s.mSessions.lookup sessionKey with
  | none => (s, some .paramInvalid)
  | some session =>
    let objectPath := session.mObjectPath ++ '/' :: messageHandle
    if hasProxy then
      if statusIndicator = "read".toList then
        ({ s with calls := s.calls ++ [(objectPath, .setRead statusValue)] }, none)
      else if statusIndicator = "delete".toList then
        ({ s with calls := s.calls ++ [(objectPath, .setDeleted statusValue)] }, none)
      else (s, some .paramInvalid)
    else (s, some .mapMessageHandleNotFound)

end MapClient

inductive MapEvent
  /-- The callback of `createSession`: the daemon has made the session with the number. -/
  | connected (sessionKey : Text) (number : ℕ)
  | disconnected (sessionKey : Text)
  | setMessageStatus (sessionKey messageHandle statusIndicator : Text) (statusValue : Bool)
      (hasProxy : Bool)
  deriving DecidableEq

/-- The daemon gives a new session a path that no other session has. -/
def MapClient.step (s : MapClient) : MapEvent → Option MapClient
  | .connected sessionKey number =>
    if s.mSessions.values.any (·.mObjectPath = (clientSession number).path) then none
    else
      some { s with
        mSessions := s.mSessions.emplace sessionKey ⟨sessionKey, (clientSession number).path⟩ }
  | .disconnected sessionKey => some { s with mSessions := s.mSessions.erase sessionKey }
  | .setMessageStatus sessionKey messageHandle statusIndicator statusValue hasProxy =>
    some (s.setMessageStatus sessionKey messageHandle statusIndicator statusValue hasProxy).1

def mapMachine : Machine MapClient MapEvent := ⟨{}, MapClient.step⟩

/-! ### Sessions as mailboxes -/

def ObexSession.messagePath (session : ObexSession) (messageHandle : Text) : Text :=
  session.mObjectPath ++ '/' :: messageHandle

def MapClient.callsOn (s : MapClient) (objectPath : Text) : List MessageCall :=
  s.calls.filterMap fun c => if c.1 = objectPath then some c.2 else none

/-- What an event asks to set of the message with this session and handle. -/
def MapEvent.callOn (session : ObexSession) (messageHandle : Text) : MapEvent → Option MessageCall
  | setMessageStatus key handle indicator value hasProxy =>
    if key = session.address ∧ handle = messageHandle ∧ hasProxy = true then
      if indicator = "read".toList then some (.setRead value)
      else if indicator = "delete".toList then some (.setDeleted value)
      else none
    else none
  | _ => none

section Paths

theorem decimal_component_injective {m n : ℕ} {x y : Text}
    (h : decimal m ++ '/' :: x = decimal n ++ '/' :: y) : m = n ∧ x = y := by
  have htake (k : ℕ) (z : Text) : (decimal k ++ '/' :: z).takeWhile Char.isDigit = decimal k := by
    rw [List.takeWhile_append_of_pos fun _ hc => isDigit_of_mem_decimal hc,
      List.takeWhile_cons_of_neg (by decide), List.append_nil]
  have hnumber : decimal m = decimal n := by
    rw [← htake m x, h, htake n y]
  rw [hnumber] at h
  exact ⟨decimal_injective hnumber, (List.cons.inj (List.append_cancel_left h)).2⟩

/-- A path tells the session and the handle, whatever the handle is. -/
theorem component_injective {m n : ℕ} {h h' : Text}
    (heq : (clientSession m).path ++ '/' :: h = (clientSession n).path ++ '/' :: h') :
    (clientSession m).path = (clientSession n).path ∧ h = h' := by
  unfold SessionPath.path SessionPath.name clientSession at heq
  simp only [List.append_assoc, List.cons_append] at heq
  have hname := (List.cons.inj (List.append_cancel_left heq)).2
  obtain ⟨rfl, hhandle⟩ := decimal_component_injective (List.append_cancel_left hname)
  exact ⟨rfl, hhandle⟩

end Paths

namespace MapClient

variable {s t : MapClient} {number : ℕ} {k h : Text}

/-- The stored sessions have paths of the daemon, and no two the same. -/
structure Apart (s : MapClient) : Prop where
  ofDaemon : ∀ k session, s.mSessions.lookup k = some session →
    ∃ number, session = ⟨k, (clientSession number).path⟩
  distinct : ∀ k k' session session', s.mSessions.lookup k = some session →
    s.mSessions.lookup k' = some session' → session.mObjectPath = session'.mObjectPath → k = k'

theorem mSessions_setMessageStatus (key handle indicator : Text) (value hasProxy : Bool) :
    (s.setMessageStatus key handle indicator value hasProxy).1.mSessions = s.mSessions := by
  unfold setMessageStatus
  cases s.mSessions.lookup key with
  | none => rfl
  | some session =>
      dsimp only
      split_ifs <;> rfl

theorem Apart.of_sessions (hs : s.Apart)
    (hsub : ∀ k session, t.mSessions.lookup k = some session →
      s.mSessions.lookup k = some session) : t.Apart where
  ofDaemon := fun k session hk => hs.ofDaemon k session (hsub k session hk)
  distinct := fun k k' session session' hk hk' =>
    hs.distinct k k' session session' (hsub k session hk) (hsub k' session' hk')

theorem Apart.connected (hs : s.Apart) (key : Text)
    (hfresh : ¬ s.mSessions.values.any (·.mObjectPath = (clientSession number).path) = true) :
    Apart { s with mSessions := s.mSessions.emplace key ⟨key, (clientSession number).path⟩ } := by
  have hnew (k : Text) (session : ObexSession) (hk : s.mSessions.lookup k = some session) :
      session.mObjectPath ≠ (clientSession number).path := by
    intro heq
    refine hfresh (List.any_eq_true.mpr ⟨session, KeyedMap.mem_values_iff.mpr ⟨k, hk⟩, ?_⟩)
    exact decide_eq_true heq
  refine ⟨fun k session hk => ?_, fun k k' session session' hk hk' heq => ?_⟩
  · rcases KeyedMap.lookup_emplace_cases hk with hold | ⟨rfl, rfl⟩
    · exact hs.ofDaemon k session hold
    · exact ⟨number, rfl⟩
  · rcases KeyedMap.lookup_emplace_cases hk with hold | ⟨rfl, rfl⟩
    · rcases KeyedMap.lookup_emplace_cases hk' with hold' | ⟨rfl, rfl⟩
      · exact hs.distinct k k' session session' hold hold' heq
      · exact absurd heq (hnew k session hold)
    · rcases KeyedMap.lookup_emplace_cases hk' with hold' | ⟨rfl, rfl⟩
      · exact absurd heq.symm (hnew k' session' hold')
      · rfl

theorem apart_of_reach (hs : mapMachine.Reach s) : s.Apart := by
  refine hs.invariant (P := Apart)
    ⟨(fun _ _ hk => by cases hk), (fun _ _ _ _ hk _ _ => by cases hk)⟩ ?_
  rintro s e t h - hstep
  cases e with
  | connected key number =>
      unfold mapMachine step at hstep
      dsimp only at hstep
      split_ifs at hstep with hfresh
      cases hstep
      exact h.connected key hfresh
  | disconnected key =>
      cases hstep
      exact h.of_sessions fun k session hk => (KeyedMap.lookup_erase_some hk).2
  | setMessageStatus key handle indicator value hasProxy =>
      cases hstep
      refine h.of_sessions fun k session hk => ?_
      rw [mSessions_setMessageStatus] at hk
      exact hk

variable {session : ObexSession}

theorem lookup_step (hk : s.mSessions.lookup k = some session) {e : MapEvent}
    (hstays : e ≠ .disconnected k) (hstep : s.step e = some t) :
    t.mSessions.lookup k = some session := by
  cases e with
  | connected key number =>
      unfold step at hstep
      dsimp only at hstep
      split_ifs at hstep
      cases hstep
      exact KeyedMap.lookup_emplace_of_some hk
  | disconnected key =>
      cases hstep
      exact (AList.lookup_erase_ne fun heq => hstays (by rw [heq])).trans hk
  | setMessageStatus key handle indicator value hasProxy =>
      cases hstep
      rw [mSessions_setMessageStatus]
      exact hk

theorem callsOn_concat (path objectPath : Text) (c : MessageCall) :
    MapClient.callsOn { s with calls := s.calls ++ [(path, c)] } objectPath =
      s.callsOn objectPath ++ if path = objectPath then [c] else [] := by
  unfold callsOn
  rw [List.filterMap_append]
  split_ifs with hpath <;> simp [hpath]

/-- Setting the status of a message reaches this one alone, of all sessions and handles. -/
theorem callsOn_setMessageStatus (hs : s.Apart) (hk : s.mSessions.lookup k = some session)
    (key handle indicator : Text) (value hasProxy : Bool) :
    (s.setMessageStatus key handle indicator value hasProxy).1.callsOn (session.messagePath h) =
      s.callsOn (session.messagePath h) ++
        (MapEvent.callOn session h
          (.setMessageStatus key handle indicator value hasProxy)).toList := by
  obtain ⟨number, rfl⟩ := hs.ofDaemon k session hk
  unfold setMessageStatus MapEvent.callOn
  dsimp only
  cases hkey : s.mSessions.lookup key with
  | none =>
      have hne : key ≠ k := by
        rintro rfl
        rw [hkey] at hk
        cases hk
      rw [if_neg fun hsame => hne hsame.1]
      exact (List.append_nil _).symm
  | some other =>
      obtain ⟨number', rfl⟩ := hs.ofDaemon key other hkey
      have hpath : (clientSession number').path ++ '/' :: handle =
          ObexSession.messagePath ⟨k, (clientSession number).path⟩ h ↔ key = k ∧ handle = h := by
        constructor
        · intro heq
          obtain ⟨hsessions, hhandles⟩ := component_injective heq
          exact ⟨hs.distinct key k _ _ hkey hk hsessions, hhandles⟩
        · rintro ⟨rfl, rfl⟩
          have hsame := congrArg ObexSession.mObjectPath (Option.some.inj (hkey.symm.trans hk))
          exact congrArg (· ++ '/' :: handle) hsame
      dsimp only
      cases hasProxy with
      | false =>
          rw [if_neg Bool.false_ne_true, if_neg fun hsame => Bool.false_ne_true hsame.2.2]
          exact (List.append_nil _).symm
      | true =>
          have hasked : (key = k ∧ handle = h ∧ true = true) ↔ (key = k ∧ handle = h) := by
            rw [eq_self_iff_true, and_true]
          rw [if_pos rfl]
          by_cases hsame : key = k ∧ handle = h
          · rw [if_pos (c := key = k ∧ _) (hasked.mpr hsame)]
            split_ifs with hread hdelete
            · rw [callsOn_concat, if_pos (hpath.mpr hsame)]
              rfl
            · rw [callsOn_concat, if_pos (hpath.mpr hsame)]
              rfl
            · exact (List.append_nil _).symm
          · rw [if_neg (c := key = k ∧ _) (mt hasked.mp hsame)]
            split_ifs with hread hdelete
            · rw [callsOn_concat, if_neg (mt hpath.mp hsame)]
              rfl
            · rw [callsOn_concat, if_neg (mt hpath.mp hsame)]
              rfl
            · exact (List.append_nil _).symm

theorem callsOn_step (hs : s.Apart) (hk : s.mSessions.lookup k = some session) {e : MapEvent}
    (hstep : s.step e = some t) :
    t.callsOn (session.messagePath h) =
      s.callsOn (session.messagePath h) ++ (e.callOn session h).toList := by
  cases e with
  | connected key number =>
      unfold step at hstep
      dsimp only at hstep
      split_ifs at hstep
      cases hstep
      exact (List.append_nil _).symm
  | disconnected key =>
      cases hstep
      exact (List.append_nil _).symm
  | setMessageStatus key handle indicator value hasProxy =>
      cases hstep
      exact callsOn_setMessageStatus hs hk key handle indicator value hasProxy

theorem lookup_run (hk : s.mSessions.lookup k = some session)
    {es : List MapEvent} (hstays : MapEvent.disconnected k ∉ es)
    (hrun : mapMachine.run s es = some t) : t.mSessions.lookup k = some session := by
  induction es generalizing s with
  | nil =>
      cases hrun
      exact hk
  | cons e rest ih =>
      obtain ⟨u, hu, hrest⟩ := Option.bind_eq_some_iff.mp hrun
      rw [List.mem_cons, not_or] at hstays
      exact ih (lookup_step hk (Ne.symm hstays.1) hu) hstays.2 hrest

theorem callsOn_run (hs : mapMachine.Reach s) (hk : s.mSessions.lookup k = some session)
    {es : List MapEvent} (hstays : MapEvent.disconnected k ∉ es)
    (hrun : mapMachine.run s es = some t) :
    t.callsOn (session.messagePath h) =
      s.callsOn (session.messagePath h) ++ es.filterMap (MapEvent.callOn session h) := by
  induction es generalizing s with
  | nil =>
      cases hrun
      exact (List.append_nil _).symm
  | cons e rest ih =>
      obtain ⟨u, hu, hrest⟩ := Option.bind_eq_some_iff.mp hrun
      rw [List.mem_cons, not_or] at hstays
      rw [ih (hs.step trivial hu) (lookup_step hk (Ne.symm hstays.1) hu) hstays.2 hrest,
        callsOn_step (apart_of_reach hs) hk hu, List.append_assoc, List.filterMap_cons]
      cases e.callOn session h with
      | none => rfl
      | some call => rfl

end MapClient

section Listing

theorem parseGetMessageListResponse_eq (out : List (Text × List (String × MapVariant))) :
    parseGetMessageListResponse out = out.filterMap fun e =>
      (find messageText e.1).map fun found => (substr e.1 found none, messageProperties e.2) := by
  have hfold (messageList : BluetoothMessageList) :
      out.foldl
        (fun messageList e =>
          match find messageText e.1 with
          | some found => messageList ++ [(substr e.1 found none, messageProperties e.2)]
          | none => messageList)
        messageList =
      messageList ++ out.filterMap fun e =>
        (find messageText e.1).map fun found => (substr e.1 found none, messageProperties e.2) := by
    induction out generalizing messageList with
    | nil => exact (List.append_nil _).symm
    | cons e rest ih =>
        rw [List.foldl_cons, ih, List.filterMap_cons]
        cases find messageText e.1 with
        | none => rfl
        | some found => exact List.append_assoc _ _ _
  exact hfold []

/-- The handle a listing cuts out of a path is what the path was made of. -/
theorem parse_listed (number : ℕ) (listing : List (Text × List (String × MapVariant))) :
    parseGetMessageListResponse
        (listing.map fun e => ((clientSession number).message e.1, e.2)) =
      listing.map fun e => (messageText ++ e.1, messageProperties e.2) := by
  rw [parseGetMessageListResponse_eq, List.filterMap_map, ← List.filterMap_eq_map]
  refine List.filterMap_congr fun e _ => ?_
  rw [Function.comp_apply, Function.comp_apply]
  dsimp only
  rw [SessionPath.find_message, Option.map_some, SessionPath.substr_message]

end Listing

/-- While a session stays, whatever other calls come in between: what is set of the object of a
message is what is set through the session and the handle of the message, in this order. A
listing of the messages of the session tells their handles, and with its handle each of them is
read from its own object. -/
theorem messages_addressed {s t : MapClient} (hs : mapMachine.Reach s) {k : Text}
    {session : ObexSession} (hk : s.mSessions.lookup k = some session) (es : List MapEvent)
    (hrun : mapMachine.run s es = some t) (hstays : MapEvent.disconnected k ∉ es) :
    (∀ handle, t.callsOn (session.messagePath handle) =
      s.callsOn (session.messagePath handle) ++ es.filterMap (MapEvent.callOn session handle)) ∧
    (∀ listing : List (Text × List (String × MapVariant)),
      t.getMessageList k true
        (some (listing.map fun e => (session.messagePath (messageText ++ e.1), e.2))) =
        (none, listing.map fun e => (messageText ++ e.1, messageProperties e.2))) ∧
    ∀ handle bus attachment destinationFile,
      getMessage bus (t.mSessions.lookup k) handle attachment destinationFile =
        readMessage bus (session.messagePath handle) attachment destinationFile := by
  obtain ⟨number, rfl⟩ := (MapClient.apart_of_reach hs).ofDaemon k session hk
  have hsession := MapClient.lookup_run hk hstays hrun
  refine ⟨fun handle => MapClient.callsOn_run hs hk hstays hrun, fun listing => ?_, ?_⟩
  · unfold MapClient.getMessageList
    rw [hsession]
    exact congrArg (Prod.mk none) (parse_listed number listing)
  · intro handle bus attachment destinationFile
    rw [hsession]
    rfl

def twoMailboxes : List MapEvent :=
  [.connected "aa_sms".toList 0, .connected "bb_sms".toList 1]

/-- Both messages are marked, the one twice, and an unknown status is set. -/
def marksOfTwo : List MapEvent :=
  [.setMessageStatus "aa_sms".toList "message1".toList "read".toList true true,
    .setMessageStatus "bb_sms".toList "message1".toList "read".toList false true,
    .disconnected "bb_sms".toList,
    .setMessageStatus "aa_sms".toList "message1".toList "unread".toList false true,
    .setMessageStatus "aa_sms".toList "message1".toList "delete".toList true true]

theorem messages_addressed_two :
    ∃ s t : MapClient, mapMachine.run {} twoMailboxes = some s ∧
      mapMachine.run s marksOfTwo = some t ∧
      t.callsOn "/org/bluez/obex/client/session0/message1".toList =
        [.setRead true, .setDeleted true] ∧
      t.getMessageList "aa_sms".toList true
        (some [("/org/bluez/obex/client/session0/message1".toList, [("Type", .string [])])]) =
      (none, [("message1".toList, [(.messageTypes, .string [])])]) := by
  obtain ⟨hcalls, hlisted, -⟩ := messages_addressed (reach_of_run twoMailboxes rfl)
    (k := "aa_sms".toList) rfl marksOfTwo rfl (by decide)
  refine ⟨_, _, rfl, rfl, ?_, ?_⟩
  · exact hcalls "message1".toList
  · exact hlisted [("1".toList, [("Type", .string [])])]

end BluezSil.Obex
