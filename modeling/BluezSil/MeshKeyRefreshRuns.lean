import BluezSil.MeshKeyRefresh

/-!
# What a key refresh sends

The runs of each part of `keyRefresh`, seen from one address: the messages sent
to it in order, the failed network key updates, and the application keys that
were updated on the provisioner. Together they give the messages of a complete
run to any address, for any list of nodes.
-/

namespace BluezSil.Mesh

open CallProgram Program

inductive MeshMessage
  | netKeyUpdate
  | appKeyUpdate (appKeyIndex : UInt16)
  | krPhaseSet (phase : UInt8)
  deriving DecidableEq, Repr

def sentTo (a : UInt16) : RefreshCall → Option MeshMessage
  | .configSet destAddress .netKeyUpdate _ =>
    if destAddress = a then some .netKeyUpdate else none
  | .configSet destAddress .appKeyUpdate args =>
    if destAddress = a then some (.appKeyUpdate args.appKeyIndex) else none
  | .configSet destAddress .krPhaseSet args =>
    if destAddress = a then some (.krPhaseSet args.phase) else none
  | _ => none

def messages (a : UInt16) (t : RefreshTrace) : List MeshMessage :=
  t.filterMap fun e => sentTo a e.1

def updatedAppKey : Answered RefreshAnswer → Option UInt16
  | ⟨.updateAppKey appKeyIndex, none⟩ => some appKeyIndex
  | _ => none

/-- The application keys for which `update_app_key` has succeeded, in order. -/
def updatedAppKeys (t : RefreshTrace) : List UInt16 := t.filterMap updatedAppKey

def isFailedUpdate (a : UInt16) : Answered RefreshAnswer → Bool
  | ⟨.configSet destAddress .netKeyUpdate _, e⟩ =>
    destAddress == a && (e : BluetoothError) != .none
  | _ => false

def failedUpdates (a : UInt16) (t : RefreshTrace) : ℕ := t.countP (isFailedUpdate a)

def requestedAppKey : Answered RefreshAnswer → Option UInt16
  | ⟨.updateAppKey appKeyIndex, _⟩ => some appKeyIndex
  | _ => none

def requestedAppKeys (t : RefreshTrace) : List UInt16 := t.filterMap requestedAppKey

section Projections

variable {a : UInt16} {t s : RefreshTrace} {e : Answered RefreshAnswer}

@[simp] theorem messages_nil : messages a [] = [] := rfl
@[simp] theorem updatedAppKeys_nil : updatedAppKeys [] = [] := rfl
@[simp] theorem failedUpdates_nil : failedUpdates a [] = 0 := rfl
@[simp] theorem requestedAppKeys_nil : requestedAppKeys [] = [] := rfl

@[simp] theorem messages_append : messages a (t ++ s) = messages a t ++ messages a s :=
  List.filterMap_append

@[simp] theorem updatedAppKeys_append :
    updatedAppKeys (t ++ s) = updatedAppKeys t ++ updatedAppKeys s :=
  List.filterMap_append

@[simp] theorem failedUpdates_append :
    failedUpdates a (t ++ s) = failedUpdates a t + failedUpdates a s :=
  List.countP_append

@[simp] theorem requestedAppKeys_append :
    requestedAppKeys (t ++ s) = requestedAppKeys t ++ requestedAppKeys s :=
  List.filterMap_append

theorem messages_cons : messages a (e :: t) = (sentTo a e.1).toList ++ messages a t := by
  rw [messages, messages, List.filterMap_cons]
  cases sentTo a e.1 <;> rfl

theorem updatedAppKeys_cons :
    updatedAppKeys (e :: t) = (updatedAppKey e).toList ++ updatedAppKeys t := by
  rw [updatedAppKeys, updatedAppKeys, List.filterMap_cons]
  cases updatedAppKey e <;> rfl

theorem failedUpdates_cons :
    failedUpdates a (e :: t) = (if isFailedUpdate a e then 1 else 0) + failedUpdates a t := by
  rw [failedUpdates, failedUpdates, List.countP_cons, Nat.add_comm]

theorem requestedAppKeys_cons :
    requestedAppKeys (e :: t) = (requestedAppKey e).toList ++ requestedAppKeys t := by
  rw [requestedAppKeys, requestedAppKeys, List.filterMap_cons]
  cases requestedAppKey e <;> rfl

end Projections

/-- A trace in which no node is sent a message and no application key is asked
for. -/
structure Quiet (t : RefreshTrace) : Prop where
  messages : ∀ a, messages a t = []
  updated : updatedAppKeys t = []
  failed : ∀ a, failedUpdates a t = 0
  requested : requestedAppKeys t = []

theorem quiet_nil : Quiet [] := ⟨fun _ => rfl, rfl, fun _ => rfl, rfl⟩

theorem Quiet.append {t s : RefreshTrace} (ht : Quiet t) (hs : Quiet s) : Quiet (t ++ s) where
  messages := fun a => by rw [messages_append, ht.messages, hs.messages]; rfl
  updated := by rw [updatedAppKeys_append, ht.updated, hs.updated]; rfl
  failed := fun a => by rw [failedUpdates_append, ht.failed, hs.failed]
  requested := by rw [requestedAppKeys_append, ht.requested, hs.requested]; rfl

def RefreshCall.isQuiet : RefreshCall → Bool
  | .configSet _ _ _ => false
  | .updateAppKey _ => false
  | _ => true

theorem quiet_single {c : RefreshCall} (hc : c.isQuiet) (r : RefreshAnswer c) : Quiet [⟨c, r⟩] := by
  cases c with
  | configSet | updateAppKey => cases hc
  | _ => exact ⟨fun _ => rfl, rfl, fun _ => rfl, rfl⟩

theorem quiet_of_calls {t : RefreshTrace} (h : ∀ e ∈ t, e.1.isQuiet) : Quiet t := by
  induction t with
  | nil => exact quiet_nil
  | cons e t ih =>
      have hrest := ih fun e' he' => h e' (List.mem_cons_of_mem _ he')
      exact (quiet_single (h e List.mem_cons_self) e.2).append hrest

theorem Quiet.of_run {p : Refresh Unit} (hp : p.Calls fun c => c.isQuiet) {t : RefreshTrace}
    {u : Unit} (h : Run p t u) : Quiet t :=
  quiet_of_calls (hp.run h)

theorem run_deleteRemoteNode {address : UInt16} {count : UInt8} {t : RefreshTrace}
    {e : BluetoothError} (h : Run (deleteRemoteNodeFromLocalKeyDatabase address count) t e) :
    ∃ r : Reply, t = [⟨.deleteRemoteNode address count, r⟩] := by
  obtain ⟨r, t', rfl, hrest⟩ := run_perform_bind_iff.mp h
  refine ⟨r, ?_⟩
  cases r with
  | none => rw [(run_pure_iff.mp hrest).1]
  | some message => rw [(run_pure_iff.mp hrest).1]

/-! ### The blacklisted nodes -/

def Deleted (node : BleMeshNode) (t : RefreshTrace) : Prop :=
  ∃ r : Reply, ⟨.deleteRemoteNode node.primaryElementAddress node.numberOfElements, r⟩ ∈ t

theorem run_removeBlackListedNode {address : UInt16} {nodes rest : List BleMeshNode}
    {t : RefreshTrace} (h : Run (removeBlackListedNode address nodes) t rest) :
    rest = nodes.filter (fun n => address ≠ n.primaryElementAddress) ∧ Quiet t ∧
      ∀ n ∈ nodes, address = n.primaryElementAddress → Deleted n t := by
  induction nodes generalizing t rest with
  | nil =>
      obtain ⟨rfl, rfl⟩ := run_pure_iff.mp h
      exact ⟨rfl, quiet_nil, fun n hn => absurd hn List.not_mem_nil⟩
  | cons node nodes ih =>
      rw [removeBlackListedNode] at h
      split_ifs at h with heq
      · obtain ⟨t₁, t₂, e, rfl, hdel, hrest⟩ := run_bind_iff.mp h
        obtain ⟨r, rfl⟩ := run_deleteRemoteNode hdel
        obtain ⟨rfl, hquiet, hdeleted⟩ := ih hrest
        refine ⟨by simp [heq], (quiet_single (c := .deleteRemoteNode _ _) rfl r).append hquiet, ?_⟩
        intro n hn haddr
        rcases List.mem_cons.mp hn with rfl | hn
        · exact ⟨r, List.mem_cons_self⟩
        · obtain ⟨r', hr'⟩ := hdeleted n hn haddr
          exact ⟨r', List.mem_cons_of_mem _ hr'⟩
      · obtain ⟨t₁, t₂, rest', rfl, hrest, hpure⟩ := run_bind_iff.mp h
        obtain ⟨rfl, rfl⟩ := run_pure_iff.mp hpure
        obtain ⟨rfl, hquiet, hdeleted⟩ := ih hrest
        rw [List.append_nil]
        refine ⟨by simp [heq], hquiet, ?_⟩
        intro n hn haddr
        rcases List.mem_cons.mp hn with rfl | hn
        · exact absurd haddr heq
        · exact hdeleted n hn haddr

theorem run_removeBlackListedNodes {blackListed : List UInt16} {nodes rest : List BleMeshNode}
    {t : RefreshTrace} (h : Run (removeBlackListedNodes blackListed nodes) t rest) :
    rest = nodes.filter (fun n => n.primaryElementAddress ∉ blackListed) ∧ Quiet t ∧
      ∀ n ∈ nodes, n.primaryElementAddress ∈ blackListed → Deleted n t := by
  induction blackListed generalizing nodes t with
  | nil =>
      obtain ⟨rfl, rfl⟩ := run_pure_iff.mp h
      exact ⟨by simp, quiet_nil, fun n _ hn => absurd hn List.not_mem_nil⟩
  | cons address blackListed ih =>
      obtain ⟨t₁, t₂, nodes', rfl, hfirst, hrest⟩ := run_bind_iff.mp h
      obtain ⟨rfl, hquiet₁, hdeleted₁⟩ := run_removeBlackListedNode hfirst
      obtain ⟨rfl, hquiet₂, hdeleted₂⟩ := ih hrest
      refine ⟨?_, hquiet₁.append hquiet₂, ?_⟩
      · rw [List.filter_filter]
        refine List.filter_congr fun n _ => ?_
        simp [eq_comm, Bool.and_comm]
      · intro n hn haddr
        by_cases heq : address = n.primaryElementAddress
        · obtain ⟨r, hr⟩ := hdeleted₁ n hn heq
          exact ⟨r, List.mem_append_left _ hr⟩
        · have hlater : n.primaryElementAddress ∈ blackListed :=
            (List.mem_cons.mp haddr).resolve_left (Ne.symm heq)
          have hkept : n ∈ nodes.filter (fun n => address ≠ n.primaryElementAddress) := by
            simp [hn, heq]
          obtain ⟨r, hr⟩ := hdeleted₂ n hkept hlater
          exact ⟨r, List.mem_append_right _ hr⟩

/-! ### The network key -/

def entriesAt (a : UInt16) (nodes : List BleMeshNode) : ℕ :=
  nodes.countP fun n => n.primaryElementAddress == a

theorem entriesAt_cons (a : UInt16) (node : BleMeshNode) (nodes : List BleMeshNode) :
    entriesAt a (node :: nodes) =
      (if node.primaryElementAddress = a then 1 else 0) + entriesAt a nodes := by
  rw [entriesAt, entriesAt, List.countP_cons, Nat.add_comm]
  simp

/-- What the first loop of `distributeKeys` has done when it ends. -/
structure NetKeyDistributed (nodes rest : List BleMeshNode) (t : RefreshTrace) : Prop where
  sublist : rest.Sublist nodes
  messages : ∀ a, messages a t = List.replicate (entriesAt a nodes) .netKeyUpdate
  entries : ∀ a, entriesAt a rest + failedUpdates a t = entriesAt a nodes
  updated : updatedAppKeys t = []
  requested : requestedAppKeys t = []
  deleted : ∀ n ∈ nodes, n ∈ rest ∨ Deleted n t

theorem Deleted.append_right {n : BleMeshNode} {t : RefreshTrace} (h : Deleted n t)
    (s : RefreshTrace) : Deleted n (s ++ t) := by
  obtain ⟨r, hr⟩ := h
  exact ⟨r, List.mem_append_right s hr⟩

theorem Deleted.append_left {n : BleMeshNode} {t : RefreshTrace} (h : Deleted n t)
    (s : RefreshTrace) : Deleted n (t ++ s) := by
  obtain ⟨r, hr⟩ := h
  exact ⟨r, List.mem_append_left s hr⟩

theorem NetKeyDistributed.cons {node : BleMeshNode} {nodes rest rest' : List BleMeshNode}
    {t s : RefreshTrace} {args : ConfigSetArgs} {e : BluetoothError}
    (h : NetKeyDistributed nodes rest t) (hs : Quiet s)
    (hkeep : e = .none → rest' = node :: rest)
    (herase : e ≠ .none → rest' = rest ∧ Deleted node s) :
    NetKeyDistributed (node :: nodes) rest'
      (⟨.configSet node.primaryElementAddress .netKeyUpdate args, e⟩ :: (s ++ t)) := by
  have hsent : ∀ a, sentTo a (.configSet node.primaryElementAddress .netKeyUpdate args) =
      if node.primaryElementAddress = a then some .netKeyUpdate else none := fun _ => rfl
  have hfailed : ∀ a, (if isFailedUpdate a
      ⟨.configSet node.primaryElementAddress .netKeyUpdate args, e⟩ then 1 else 0) =
      if node.primaryElementAddress = a ∧ e ≠ .none then 1 else 0 := by
    intro a
    simp [isFailedUpdate]
  constructor
  · by_cases he : e = .none
    · rw [hkeep he]
      exact h.sublist.cons_cons node
    · rw [(herase he).1]
      exact h.sublist.cons node
  · intro a
    rw [messages_cons, messages_append, hs.messages, h.messages, entriesAt_cons, hsent]
    by_cases ha : node.primaryElementAddress = a
    · rw [if_pos ha, if_pos ha, Nat.add_comm, List.replicate_succ]
      rfl
    · rw [if_neg ha, if_neg ha, Nat.zero_add]
      rfl
  · intro a
    rw [failedUpdates_cons, failedUpdates_append, hs.failed, entriesAt_cons, hfailed, ← h.entries]
    by_cases he : e = .none
    · have hsucceeded : ¬ (node.primaryElementAddress = a ∧ e ≠ .none) := fun hc => hc.2 he
      rw [hkeep he, entriesAt_cons, if_neg hsucceeded]
      omega
    · rw [(herase he).1]
      by_cases ha : node.primaryElementAddress = a
      · rw [if_pos ⟨ha, he⟩, if_pos ha]
        omega
      · rw [if_neg (fun hc => ha hc.1), if_neg ha]
        omega
  · rw [updatedAppKeys_cons, updatedAppKeys_append, hs.updated, h.updated]
    rfl
  · rw [requestedAppKeys_cons, requestedAppKeys_append, hs.requested, h.requested]
    rfl
  · intro n hn
    rcases List.mem_cons.mp hn with rfl | hn
    · by_cases he : e = .none
      · rw [hkeep he]
        exact Or.inl List.mem_cons_self
      · exact Or.inr (((herase he).2.append_left t).append_right [_])
    · rcases h.deleted n hn with hmem | hdel
      · refine Or.inl ?_
        by_cases he : e = .none
        · rw [hkeep he]
          exact List.mem_cons_of_mem _ hmem
        · rwa [(herase he).1]
      · exact Or.inr ((hdel.append_right s).append_right [_])

theorem run_distributeNetKey {netKeyIndex : UInt16} {waitTime : ℤ}
    {nodes rest : List BleMeshNode} {t : RefreshTrace}
    (h : Run (distributeNetKey netKeyIndex waitTime nodes) t rest) :
    NetKeyDistributed nodes rest t := by
  induction nodes generalizing t rest with
  | nil =>
      obtain ⟨rfl, rfl⟩ := run_pure_iff.mp h
      exact ⟨List.Sublist.refl _, fun a => rfl, fun a => rfl, rfl, rfl,
        fun n hn => absurd hn List.not_mem_nil⟩
  | cons node nodes ih =>
      obtain ⟨e, t', rfl, hnext⟩ := run_perform_bind_iff.mp h
      split_ifs at hnext with he
      · obtain ⟨t₁, t₂, _, rfl, hdel, hafter⟩ := run_bind_iff.mp hnext
        obtain ⟨r, rfl⟩ := run_deleteRemoteNode hdel
        obtain ⟨u, t₃, rfl, hrest⟩ := run_perform_bind_iff.mp hafter
        have hquiet := (quiet_single (c := .deleteRemoteNode node.primaryElementAddress
          node.numberOfElements) rfl r).append (quiet_single (c := .keyRefreshResult _) rfl u)
        exact (ih hrest).cons hquiet (fun hc => absurd hc he)
          (fun _ => ⟨rfl, r, List.mem_cons_self⟩)
      · obtain ⟨t₁, t₂, rest', rfl, hrest, hpure⟩ := run_bind_iff.mp hnext
        obtain ⟨rfl, rfl⟩ := run_pure_iff.mp hpure
        rw [List.append_nil]
        exact (ih hrest).cons quiet_nil (fun _ => rfl) (fun hc => absurd hc he)

/-! ### The application keys -/

def holdersAt (a appKeyIndex : UInt16) (nodes : List BleMeshNode) : ℕ :=
  nodes.countP fun n => n.primaryElementAddress == a && decide (appKeyIndex ∈ n.appKeyIndexes)

/-- The local node is served apart from the list. -/
def localEntry (a : UInt16) : ℕ := if localNodeAddress = a then 1 else 0

theorem run_sendAppKeyUpdate {netKeyIndex appKeyIndex destAddress : UInt16} {waitTime : ℤ}
    {t : RefreshTrace} {u : Unit}
    (h : Run (sendAppKeyUpdate netKeyIndex waitTime appKeyIndex destAddress) t u) :
    (∀ a, messages a t = if destAddress = a then [.appKeyUpdate appKeyIndex] else []) ∧
      updatedAppKeys t = [] ∧ requestedAppKeys t = [] ∧ ∀ a, failedUpdates a t = 0 := by
  obtain ⟨e, t', rfl, hnext⟩ := run_perform_bind_iff.mp h
  have hquiet : Quiet t' := by
    split_ifs at hnext
    · obtain rfl := run_perform_iff.mp hnext
      exact quiet_single (c := .keyRefreshResult _) rfl _
    · rw [(run_pure_iff.mp hnext).1]
      exact quiet_nil
  refine ⟨fun a => ?_, ?_, ?_, fun a => ?_⟩
  · rw [messages_cons, hquiet.messages, List.append_nil]
    change (if destAddress = a then some _ else none : Option MeshMessage).toList = _
    split_ifs <;> rfl
  · rw [updatedAppKeys_cons, hquiet.updated]
    rfl
  · rw [requestedAppKeys_cons, hquiet.requested]
    rfl
  · rw [failedUpdates_cons, hquiet.failed]
    rfl

/-- What the body of the loop over the application keys has done. -/
structure AppKeysDistributed (nodes : List BleMeshNode) (t : RefreshTrace) : Prop where
  messages : ∀ a, messages a t = (updatedAppKeys t).flatMap fun i =>
    List.replicate (localEntry a + holdersAt a i nodes) (.appKeyUpdate i)
  failed : ∀ a, failedUpdates a t = 0

theorem appKeysDistributed_nil (nodes : List BleMeshNode) : AppKeysDistributed nodes [] :=
  ⟨fun _ => rfl, fun _ => rfl⟩

theorem AppKeysDistributed.append {nodes : List BleMeshNode} {t s : RefreshTrace}
    (ht : AppKeysDistributed nodes t) (hs : AppKeysDistributed nodes s) :
    AppKeysDistributed nodes (t ++ s) where
  messages := fun a => by
    rw [messages_append, updatedAppKeys_append, List.flatMap_append, ht.messages, hs.messages]
  failed := fun a => by rw [failedUpdates_append, ht.failed, hs.failed]

theorem run_forEach_appKey {netKeyIndex appKeyIndex : UInt16} {waitTime : ℤ}
    {nodes : List BleMeshNode} {t : RefreshTrace} {u : Unit}
    (h : Run (Program.forEach nodes fun node => do
      if appKeyIndex ∈ node.appKeyIndexes then
        sendAppKeyUpdate netKeyIndex waitTime appKeyIndex node.primaryElementAddress) t u) :
    (∀ a, messages a t = List.replicate (holdersAt a appKeyIndex nodes)
        (.appKeyUpdate appKeyIndex)) ∧
      updatedAppKeys t = [] ∧ requestedAppKeys t = [] ∧ ∀ a, failedUpdates a t = 0 := by
  induction nodes generalizing t with
  | nil =>
      obtain ⟨rfl, _⟩ := run_pure_iff.mp h
      exact ⟨fun _ => rfl, rfl, rfl, fun _ => rfl⟩
  | cons node nodes ih =>
      obtain ⟨t₁, t₂, _, rfl, hone, hrest⟩ := run_bind_iff.mp h
      obtain ⟨hmsg, hupd, hreq, hfail⟩ := ih hrest
      have hholders : ∀ a, holdersAt a appKeyIndex (node :: nodes) =
          (if node.primaryElementAddress = a ∧ appKeyIndex ∈ node.appKeyIndexes then 1 else 0) +
            holdersAt a appKeyIndex nodes := by
        intro a
        rw [holdersAt, holdersAt, List.countP_cons, Nat.add_comm]
        simp
      beta_reduce at hone
      split_ifs at hone with hmem
      · obtain ⟨hmsg₁, hupd₁, hreq₁, hfail₁⟩ := run_sendAppKeyUpdate hone
        refine ⟨fun a => ?_, ?_, ?_, fun a => ?_⟩
        · rw [messages_append, hmsg, hmsg₁, hholders]
          by_cases ha : node.primaryElementAddress = a
          · rw [if_pos ha, if_pos ⟨ha, hmem⟩, Nat.add_comm, List.replicate_succ]
            rfl
          · have hother : ¬ (node.primaryElementAddress = a ∧ appKeyIndex ∈ node.appKeyIndexes) :=
              fun hc => ha hc.1
            rw [if_neg ha, if_neg hother, Nat.zero_add]
            rfl
        · rw [updatedAppKeys_append, hupd₁, hupd]
          rfl
        · rw [requestedAppKeys_append, hreq₁, hreq]
          rfl
        · rw [failedUpdates_append, hfail₁, hfail]
      · obtain ⟨rfl, _⟩ := run_pure_iff.mp hone
        refine ⟨fun a => ?_, hupd, hreq, hfail⟩
        have hnot : ¬ (node.primaryElementAddress = a ∧ appKeyIndex ∈ node.appKeyIndexes) :=
          fun hc => hmem hc.2
        rw [List.nil_append, hmsg, hholders, if_neg hnot, Nat.zero_add]

theorem run_distributeAppKey {nodes : List BleMeshNode} {netKeyIndex appKeyIndex : UInt16}
    {waitTime : ℤ} {t : RefreshTrace} {u : Unit}
    (h : Run (distributeAppKey nodes netKeyIndex waitTime appKeyIndex) t u) :
    AppKeysDistributed nodes t ∧ requestedAppKeys t = [appKeyIndex] := by
  obtain ⟨r, t', rfl, hnext⟩ := run_perform_bind_iff.mp h
  cases r with
  | some message =>
      obtain ⟨rfl, _⟩ := run_pure_iff.mp hnext
      exact ⟨⟨fun _ => rfl, fun _ => rfl⟩, rfl⟩
  | none =>
      obtain ⟨t₁, t₂, _, rfl, hlocal, hloop⟩ := run_bind_iff.mp hnext
      obtain ⟨hmsg₁, hupd₁, hreq₁, hfail₁⟩ := run_sendAppKeyUpdate hlocal
      obtain ⟨hmsg₂, hupd₂, hreq₂, hfail₂⟩ := run_forEach_appKey hloop
      have hupdated : updatedAppKeys (⟨.updateAppKey appKeyIndex, (none : Reply)⟩ :: (t₁ ++ t₂)) =
          [appKeyIndex] := by
        rw [updatedAppKeys_cons, updatedAppKeys_append, hupd₁, hupd₂]
        rfl
      refine ⟨⟨fun a => ?_, fun a => ?_⟩, ?_⟩
      · rw [hupdated, messages_cons, messages_append, hmsg₁, hmsg₂, List.flatMap_singleton,
          List.replicate_add, localEntry]
        split_ifs <;> rfl
      · rw [failedUpdates_cons, failedUpdates_append, hfail₁, hfail₂]
        rfl
      · rw [requestedAppKeys_cons, requestedAppKeys_append, hreq₁, hreq₂]
        rfl

theorem run_forEach_distributeAppKey {nodes : List BleMeshNode} {netKeyIndex : UInt16}
    {waitTime : ℤ} {appKeyIndexes : List UInt16} {t : RefreshTrace} {u : Unit}
    (h : Run (Program.forEach appKeyIndexes (distributeAppKey nodes netKeyIndex waitTime)) t u) :
    AppKeysDistributed nodes t ∧ requestedAppKeys t = appKeyIndexes := by
  induction appKeyIndexes generalizing t with
  | nil =>
      obtain ⟨rfl, _⟩ := run_pure_iff.mp h
      exact ⟨appKeysDistributed_nil nodes, rfl⟩
  | cons i appKeyIndexes ih =>
      obtain ⟨t₁, t₂, _, rfl, hone, hrest⟩ := run_bind_iff.mp h
      obtain ⟨hdist₁, hreq₁⟩ := run_distributeAppKey hone
      obtain ⟨hdist₂, hreq₂⟩ := ih hrest
      refine ⟨hdist₁.append hdist₂, ?_⟩
      rw [requestedAppKeys_append, hreq₁, hreq₂]
      rfl

/-! ### The phases -/

theorem run_sendKrPhaseSet {netKeyIndex phase destAddress : UInt16} {t : RefreshTrace} {u : Unit}
    (h : Run (sendKrPhaseSet netKeyIndex phase destAddress) t u) :
    ∃ e : BluetoothError, t = [⟨.configSet destAddress .krPhaseSet
      { netKeyIndex := netKeyIndex, numberOfElements := 0, phase := phase.toUInt8 }, e⟩] := by
  obtain ⟨e, t', rfl, hnext⟩ := run_perform_bind_iff.mp h
  obtain ⟨rfl, _⟩ := run_pure_iff.mp hnext
  exact ⟨e, rfl⟩

/-- A trace of nothing but the messages of one phase. -/
structure PhaseSent (phase : UInt8) (entries : UInt16 → ℕ) (t : RefreshTrace) : Prop where
  messages : ∀ a, messages a t = List.replicate (entries a) (.krPhaseSet phase)
  updated : updatedAppKeys t = []
  requested : requestedAppKeys t = []
  failed : ∀ a, failedUpdates a t = 0

theorem run_forEach_phase {netKeyIndex phase : UInt16} {nodes : List BleMeshNode}
    {t : RefreshTrace} {u : Unit}
    (h : Run (Program.forEach nodes fun node =>
      sendKrPhaseSet netKeyIndex phase node.primaryElementAddress) t u) :
    PhaseSent phase.toUInt8 (fun a => entriesAt a nodes) t := by
  induction nodes generalizing t with
  | nil =>
      obtain ⟨rfl, _⟩ := run_pure_iff.mp h
      exact ⟨fun _ => rfl, rfl, rfl, fun _ => rfl⟩
  | cons node nodes ih =>
      obtain ⟨t₁, t₂, _, rfl, hone, hrest⟩ := run_bind_iff.mp h
      obtain ⟨e, rfl⟩ := run_sendKrPhaseSet hone
      have hsent := ih hrest
      refine ⟨fun a => ?_, ?_, ?_, fun a => ?_⟩
      · rw [messages_append, hsent.messages, entriesAt_cons, List.replicate_add, messages_cons]
        change (if node.primaryElementAddress = a then some _ else none : Option MeshMessage).toList
          ++ [] ++ _ = _
        split_ifs <;> rfl
      · rw [updatedAppKeys_append, hsent.updated]
        rfl
      · rw [requestedAppKeys_append, hsent.requested]
        rfl
      · rw [failedUpdates_append, hsent.failed]
        rfl

theorem run_setKeyRefreshPhase {netKeyIndex phase : UInt16} {nodes : List BleMeshNode}
    {t : RefreshTrace} {u : Unit} (h : Run (setKeyRefreshPhase netKeyIndex phase nodes) t u) :
    ∃ (error : Reply) (r : KeyRefreshReport) (e : BluetoothError) (t' : RefreshTrace),
      t = ⟨.setKeyPhase netKeyIndex phase, error⟩ :: ⟨.keyRefreshResult r, ()⟩ ::
        ⟨.configSet localNodeAddress .krPhaseSet
          { netKeyIndex := netKeyIndex, numberOfElements := 0, phase := phase.toUInt8 }, e⟩ :: t' ∧
      r.status = "active" ∧ Run (Program.forEach nodes fun node =>
        sendKrPhaseSet netKeyIndex phase node.primaryElementAddress) t' () := by
  obtain ⟨error, t₁, rfl, hnext⟩ := run_perform_bind_iff.mp h
  cases error with
  | none =>
      obtain ⟨v, t₂, rfl, hafter⟩ := run_perform_bind_iff.mp hnext
      obtain ⟨t₃, t₄, _, rfl, hlocal, hloop⟩ := run_bind_iff.mp hafter
      obtain ⟨e, rfl⟩ := run_sendKrPhaseSet hlocal
      exact ⟨none, _, e, t₄, rfl, rfl, hloop⟩
  | some message =>
      obtain ⟨v, t₂, rfl, hafter⟩ := run_perform_bind_iff.mp hnext
      obtain ⟨t₃, t₄, _, rfl, hlocal, hloop⟩ := run_bind_iff.mp hafter
      obtain ⟨e, rfl⟩ := run_sendKrPhaseSet hlocal
      exact ⟨some message, _, e, t₄, rfl, rfl, hloop⟩

theorem phaseSent_setKeyRefreshPhase {netKeyIndex phase : UInt16} {nodes : List BleMeshNode}
    {t : RefreshTrace} {u : Unit} (h : Run (setKeyRefreshPhase netKeyIndex phase nodes) t u) :
    PhaseSent phase.toUInt8 (fun a => localEntry a + entriesAt a nodes) t := by
  obtain ⟨error, r, e, t', rfl, _, hloop⟩ := run_setKeyRefreshPhase h
  have hsent := run_forEach_phase hloop
  refine ⟨fun a => ?_, ?_, ?_, fun a => ?_⟩
  · rw [messages_cons, messages_cons, messages_cons, hsent.messages, List.replicate_add, localEntry]
    change [] ++ ([] ++ ((if localNodeAddress = a then some _ else none :
      Option MeshMessage).toList ++ _)) = _
    split_ifs <;> rfl
  · rw [updatedAppKeys_cons, updatedAppKeys_cons, updatedAppKeys_cons, hsent.updated]
    rfl
  · rw [requestedAppKeys_cons, requestedAppKeys_cons, requestedAppKeys_cons, hsent.requested]
    rfl
  · rw [failedUpdates_cons, failedUpdates_cons, failedUpdates_cons, hsent.failed]
    rfl

/-! ### Complete runs -/

def RefreshArgs.kept (a : RefreshArgs) : List BleMeshNode :=
  a.nodes.filter fun n => n.primaryElementAddress ∉ a.blackListedNodes

/-- The parts of a run whose subnet has been updated; `rest` are the nodes that
remain after the network key has been distributed. -/
structure RefreshParts (a : RefreshArgs) where
  start : RefreshTrace
  black : RefreshTrace
  netKey : RefreshTrace
  appKeys : RefreshTrace
  phase₂ : RefreshTrace
  phase₃ : RefreshTrace
  rest : List BleMeshNode
  run_start : Run (startRefresh a) start ()
  run_black : Run (removeBlackListedNodes a.blackListedNodes a.nodes) black a.kept
  run_netKey : Run (distributeNetKey a.netKeyIndex a.waitTime a.kept) netKey rest
  run_appKeys : Run (if a.refreshAppKeys then Program.forEach a.appKeyIndexesToRefresh
    (distributeAppKey rest a.netKeyIndex a.waitTime) else Program.pure ()) appKeys ()
  run_phase₂ : Run (setKeyRefreshPhase a.netKeyIndex 2 rest) phase₂ ()
  run_phase₃ : Run (setKeyRefreshPhase a.netKeyIndex 3 rest) phase₃ ()

def completedReport (a : RefreshArgs) : KeyRefreshReport :=
  ⟨.none, a.netKeyIndex, "completed", 0, none, none⟩

def RefreshParts.trace {a : RefreshArgs} (p : RefreshParts a) : RefreshTrace :=
  ⟨.updateSubnet a.netKeyIndex, none⟩ :: (p.start ++ (p.black ++ (p.netKey ++ (p.appKeys ++
    (⟨.sleep (a.waitTime + ConfigClient.respondWaitDuration), ()⟩ :: (p.phase₂ ++
      (⟨.sleep a.waitTime, ()⟩ :: (p.phase₃ ++
        [⟨.sleep a.waitTime, ()⟩, ⟨.keyRefreshResult (completedReport a), ()⟩]))))))))

theorem run_distributeKeys {refreshAppKeys : Bool} {appKeyIndexes : List UInt16}
    {nodes rest : List BleMeshNode} {netKeyIndex : UInt16} {waitTime : ℤ} {t : RefreshTrace}
    (h : Run (distributeKeys refreshAppKeys appKeyIndexes nodes netKeyIndex waitTime) t rest) :
    ∃ t₁ t₂, t = t₁ ++ t₂ ∧ Run (distributeNetKey netKeyIndex waitTime nodes) t₁ rest ∧
      Run (if refreshAppKeys then Program.forEach appKeyIndexes
        (distributeAppKey rest netKeyIndex waitTime) else Program.pure ()) t₂ () := by
  obtain ⟨t₁, t₂, rest', rfl, hnet, hnext⟩ := run_bind_iff.mp h
  cases refreshAppKeys with
  | true =>
      obtain ⟨t₃, t₄, u, rfl, happ, hpure⟩ := run_bind_iff.mp hnext
      obtain ⟨rfl, rfl⟩ := run_pure_iff.mp hpure
      exact ⟨t₁, t₃, by rw [List.append_nil], hnet, happ⟩
  | false =>
      obtain ⟨rfl, rfl⟩ := run_pure_iff.mp hnext
      exact ⟨t₁, [], rfl, hnet, Run.pure ()⟩

/-- A complete run ends after a failed update of the subnet, or goes through all
its parts. -/
theorem run_keyRefresh {a : RefreshArgs} {t : RefreshTrace} {u : Unit}
    (h : Run (keyRefresh a) t u) :
    (∃ message : String, t = [⟨.updateSubnet a.netKeyIndex, some message⟩,
      ⟨.callback (updateSubnetError message), ()⟩]) ∨ ∃ p : RefreshParts a, t = p.trace := by
  obtain ⟨error, t₀, rfl, hnext⟩ := run_perform_bind_iff.mp h
  cases error with
  | some message =>
      obtain rfl := run_perform_iff.mp hnext
      exact Or.inl ⟨message, rfl⟩
  | none =>
      refine Or.inr ?_
      obtain ⟨start, t₁, _, rfl, hstart, h₁⟩ := run_bind_iff.mp hnext
      obtain ⟨black, t₂, kept, rfl, hblack, h₂⟩ := run_bind_iff.mp h₁
      obtain rfl := (run_removeBlackListedNodes hblack).1
      obtain ⟨dist, t₃, rest, rfl, hdist, h₃⟩ := run_bind_iff.mp h₂
      obtain ⟨netKey, appKeys, rfl, hnet, happ⟩ := run_distributeKeys hdist
      obtain ⟨_, t₄, rfl, h₄⟩ := run_perform_bind_iff.mp h₃
      obtain ⟨phase₂, t₅, _, rfl, hphase₂, h₅⟩ := run_bind_iff.mp h₄
      obtain ⟨_, t₆, rfl, h₆⟩ := run_perform_bind_iff.mp h₅
      obtain ⟨phase₃, t₇, _, rfl, hphase₃, h₇⟩ := run_bind_iff.mp h₆
      obtain ⟨_, t₈, rfl, h₈⟩ := run_perform_bind_iff.mp h₇
      obtain rfl := run_perform_iff.mp h₈
      refine ⟨⟨start, black, netKey, appKeys, phase₂, phase₃, rest, hstart, hblack, hnet, happ,
        hphase₂, hphase₃⟩, ?_⟩
      rw [RefreshParts.trace, List.append_assoc]
      rfl

theorem calls_startRefresh {P : RefreshCall → Prop} (a : RefreshArgs)
    (hcallback : P (.callback .none)) (hlocal : P (.addNetKey localNodeAddress 0 0 true))
    (hreport : ∀ r : KeyRefreshReport, r.status ≠ "completed" → P (.keyRefreshResult r)) :
    (startRefresh a).Calls P := by
  have hidle_ne : "idle" ≠ "completed" := by decide
  have hactive_ne : "active" ≠ "completed" := by decide
  have hidle : P (.keyRefreshResult ⟨.none, a.netKeyIndex, "idle", 0, none, none⟩) :=
    hreport _ hidle_ne
  have hactive : P (.keyRefreshResult ⟨.none, a.netKeyIndex, "active", 1, none, none⟩) :=
    hreport _ hactive_ne
  refine (calls_perform hcallback).bind fun _ => (calls_perform hidle).bind fun _ =>
    (calls_perform hactive).bind fun _ => (calls_perform hlocal).bind fun error => ?_
  cases error with
  | none => exact calls_pure _
  | some message => exact calls_perform (c := RefreshCall.keyRefreshResult _) (hreport _ hactive_ne)

def allSucceed : (c : RefreshCall) → RefreshAnswer c
  | .updateSubnet _ => none
  | .callback _ => ()
  | .keyRefreshResult _ => ()
  | .addNetKey _ _ _ _ => none
  | .deleteRemoteNode _ _ => none
  | .configSet _ _ _ => .none
  | .updateAppKey _ => none
  | .setKeyPhase _ _ => none
  | .sleep _ => ()

/-! ### The messages of a complete run -/

namespace RefreshParts

variable {a : RefreshArgs} (p : RefreshParts a)

theorem quiet_start : Quiet p.start :=
  Quiet.of_run (calls_startRefresh a rfl rfl fun _ _ => rfl) p.run_start

theorem quiet_black : Quiet p.black := (run_removeBlackListedNodes p.run_black).2.1

theorem netKeyDistributed : NetKeyDistributed a.kept p.rest p.netKey :=
  run_distributeNetKey p.run_netKey

theorem appKeysDistributed : AppKeysDistributed p.rest p.appKeys ∧
    requestedAppKeys p.appKeys = if a.refreshAppKeys then a.appKeyIndexesToRefresh else [] := by
  have hrun := p.run_appKeys
  split_ifs at hrun ⊢ with hrefresh
  · exact run_forEach_distributeAppKey hrun
  · rw [(run_pure_iff.mp hrun).1]
    exact ⟨appKeysDistributed_nil _, rfl⟩

theorem phaseSent₂ : PhaseSent 2 (fun x => localEntry x + entriesAt x p.rest) p.phase₂ :=
  phaseSent_setKeyRefreshPhase p.run_phase₂

theorem phaseSent₃ : PhaseSent 3 (fun x => localEntry x + entriesAt x p.rest) p.phase₃ :=
  phaseSent_setKeyRefreshPhase p.run_phase₃

/-- The messages to `x` in order: one update for each entry, the application keys
its remaining entries hold, and the two phases for each remaining entry. The local
node has an entry of its own. -/
theorem messages_trace (x : UInt16) : messages x p.trace =
    List.replicate (entriesAt x a.kept) .netKeyUpdate ++
    ((updatedAppKeys p.trace).flatMap fun i =>
      List.replicate (localEntry x + holdersAt x i p.rest) (.appKeyUpdate i)) ++
    List.replicate (localEntry x + entriesAt x p.rest) (.krPhaseSet 2) ++
    List.replicate (localEntry x + entriesAt x p.rest) (.krPhaseSet 3) := by
  have hupdated : updatedAppKeys p.trace = updatedAppKeys p.appKeys := by
    simp only [trace, updatedAppKeys_cons, updatedAppKeys_append, p.quiet_start.updated,
      p.quiet_black.updated, p.netKeyDistributed.updated, p.phaseSent₂.updated,
      p.phaseSent₃.updated]
    simp [updatedAppKey]
  rw [hupdated]
  simp only [trace, messages_cons, messages_append, p.quiet_start.messages, p.quiet_black.messages,
    p.netKeyDistributed.messages, p.appKeysDistributed.1.messages, p.phaseSent₂.messages,
    p.phaseSent₃.messages]
  simp [sentTo]

theorem failedUpdates_trace (x : UInt16) :
    entriesAt x p.rest + failedUpdates x p.trace = entriesAt x a.kept := by
  have hfailed : failedUpdates x p.trace = failedUpdates x p.netKey := by
    simp only [trace, failedUpdates_cons, failedUpdates_append, p.quiet_start.failed,
      p.quiet_black.failed, p.appKeysDistributed.1.failed, p.phaseSent₂.failed,
      p.phaseSent₃.failed]
    simp [isFailedUpdate]
  rw [hfailed, p.netKeyDistributed.entries]

theorem requestedAppKeys_trace : requestedAppKeys p.trace =
    if a.refreshAppKeys then a.appKeyIndexesToRefresh else [] := by
  simp only [trace, requestedAppKeys_cons, requestedAppKeys_append, p.quiet_start.requested,
    p.quiet_black.requested, p.netKeyDistributed.requested, p.appKeysDistributed.2,
    p.phaseSent₂.requested, p.phaseSent₃.requested]
  simp [requestedAppKey]

theorem deleted_black {n : BleMeshNode} (hn : n ∈ a.nodes)
    (hblack : n.primaryElementAddress ∈ a.blackListedNodes) : Deleted n p.trace := by
  have hdel := (run_removeBlackListedNodes p.run_black).2.2 n hn hblack
  exact ((hdel.append_left _).append_right _).append_right [_]

theorem deleted_failed {n : BleMeshNode} (hn : n ∈ a.kept) (hrest : n ∉ p.rest) :
    Deleted n p.trace := by
  have hdel := (p.netKeyDistributed.deleted n hn).resolve_left hrest
  exact (((hdel.append_left _).append_right _).append_right _).append_right [_]

end RefreshParts

end BluezSil.Mesh
