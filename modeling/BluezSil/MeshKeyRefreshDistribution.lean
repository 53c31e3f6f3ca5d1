import BluezSil.MeshKeyRefreshRuns
import Mathlib.Data.List.Nodup

/-!
# Which nodes a key refresh serves

For a list of remote nodes with distinct addresses the messages of a complete run
are worked out node by node. A blacklisted node is sent nothing, a node whose
network key update could not be sent is sent nothing more, and every other node is
sent its update, the application keys it holds and both phases.
-/

namespace BluezSil.Mesh

open CallProgram Program

theorem updatedAppKeys_sublist (t : RefreshTrace) :
    (updatedAppKeys t).Sublist (requestedAppKeys t) := by
  induction t with
  | nil => exact List.Sublist.refl _
  | cons e t ih =>
      rw [updatedAppKeys_cons, requestedAppKeys_cons]
      refine List.Sublist.append ?_ ih
      obtain ⟨c, r⟩ := e
      cases c with
      | updateAppKey i =>
          cases r with
          | none => exact List.Sublist.refl _
          | some message => exact List.nil_sublist _
      | _ => exact List.nil_sublist _

/-! ### Lists with distinct addresses -/

section Distinct

variable {nodes rest : List BleMeshNode} {n : BleMeshNode}

def DistinctAddresses (nodes : List BleMeshNode) : Prop :=
  (nodes.map (·.primaryElementAddress)).Nodup

instance (nodes : List BleMeshNode) : Decidable (DistinctAddresses nodes) :=
  inferInstanceAs (Decidable (nodes.map (·.primaryElementAddress)).Nodup)

theorem DistinctAddresses.sublist (h : DistinctAddresses nodes) (hsub : rest.Sublist nodes) :
    DistinctAddresses rest :=
  List.Nodup.sublist (hsub.map _) h

theorem DistinctAddresses.eq_of_address (h : DistinctAddresses nodes) {m : BleMeshNode}
    (hm : m ∈ nodes) (hn : n ∈ nodes)
    (heq : m.primaryElementAddress = n.primaryElementAddress) : m = n :=
  List.inj_on_of_nodup_map h hm hn heq

theorem DistinctAddresses.countP (h : DistinctAddresses nodes) (hn : n ∈ nodes)
    (q : BleMeshNode → Bool) :
    nodes.countP (fun m => m.primaryElementAddress == n.primaryElementAddress && q m) =
      if q n then 1 else 0 := by
  induction nodes with
  | nil => cases hn
  | cons m nodes ih =>
      rw [DistinctAddresses, List.map_cons, List.nodup_cons] at h
      rw [List.countP_cons]
      by_cases heq : m = n
      · subst heq
        have hnone : nodes.countP
            (fun k => k.primaryElementAddress == m.primaryElementAddress && q k) = 0 := by
          rw [List.countP_eq_zero]
          intro k hk hc
          rw [Bool.and_eq_true, beq_iff_eq] at hc
          exact h.1 (hc.1 ▸ List.mem_map_of_mem hk)
        rw [hnone]
        simp
      · have hmem : n ∈ nodes := (List.mem_cons.mp hn).resolve_left (Ne.symm heq)
        have haddr : m.primaryElementAddress ≠ n.primaryElementAddress := by
          intro hc
          exact h.1 (hc ▸ List.mem_map_of_mem hmem)
        rw [ih h.2 hmem]
        simp [haddr]

theorem DistinctAddresses.entriesAt (h : DistinctAddresses nodes) (hn : n ∈ nodes) :
    entriesAt n.primaryElementAddress nodes = 1 := by
  have hcount := h.countP hn (fun _ => true)
  simpa [Mesh.entriesAt] using hcount

theorem DistinctAddresses.holdersAt (h : DistinctAddresses nodes) (hn : n ∈ nodes) (i : UInt16) :
    holdersAt n.primaryElementAddress i nodes = if i ∈ n.appKeyIndexes then 1 else 0 := by
  have hcount := h.countP hn (fun m => decide (i ∈ m.appKeyIndexes))
  simpa [Mesh.holdersAt] using hcount

theorem entriesAt_eq_zero {x : UInt16} (h : ∀ m ∈ nodes, m.primaryElementAddress ≠ x) :
    entriesAt x nodes = 0 := by
  rw [entriesAt, List.countP_eq_zero]
  intro m hm
  simpa using h m hm

theorem holdersAt_eq_zero {x : UInt16} (h : ∀ m ∈ nodes, m.primaryElementAddress ≠ x)
    (i : UInt16) : holdersAt x i nodes = 0 := by
  rw [holdersAt, List.countP_eq_zero]
  intro m hm
  simp [h m hm]

end Distinct

theorem flatMap_replicate_zero (f : UInt16 → MeshMessage) (l : List UInt16) :
    (l.flatMap fun i => List.replicate 0 (f i)) = [] := by
  induction l with
  | nil => rfl
  | cons i l ih => rw [List.flatMap_cons, ih]; rfl

theorem flatMap_replicate_if (f : UInt16 → MeshMessage) (l held : List UInt16) :
    (l.flatMap fun i => List.replicate (if i ∈ held then 1 else 0) (f i)) =
      (l.filter (· ∈ held)).map f := by
  induction l with
  | nil => rfl
  | cons i l ih =>
      rw [List.flatMap_cons, ih]
      by_cases hi : i ∈ held <;> simp [hi]

namespace RefreshParts

variable {a : RefreshArgs} (p : RefreshParts a) {n : BleMeshNode}

theorem rest_sublist : p.rest.Sublist a.nodes :=
  p.netKeyDistributed.sublist.trans List.filter_sublist

/-- A remote address that no remaining entry has is sent the updates of its
entries and nothing else. -/
theorem messages_of_not_rest {x : UInt16} (hlocal : x ≠ localNodeAddress)
    (hx : ∀ m ∈ p.rest, m.primaryElementAddress ≠ x) :
    messages x p.trace = List.replicate (entriesAt x a.kept) .netKeyUpdate := by
  have hentry : localEntry x = 0 := if_neg (Ne.symm hlocal)
  have hholders := fun i => holdersAt_eq_zero hx i
  rw [p.messages_trace, hentry, entriesAt_eq_zero hx]
  simp only [hholders, Nat.zero_add, flatMap_replicate_zero]
  simp

theorem messages_of_rest (hdistinct : DistinctAddresses a.nodes) (hn : n ∈ p.rest)
    (hlocal : n.primaryElementAddress ≠ localNodeAddress) :
    messages n.primaryElementAddress p.trace =
      .netKeyUpdate :: ((updatedAppKeys p.trace).filter (· ∈ n.appKeyIndexes)).map .appKeyUpdate ++
        [.krPhaseSet 2, .krPhaseSet 3] := by
  have hrest := hdistinct.sublist p.rest_sublist
  have hentry : localEntry n.primaryElementAddress = 0 := if_neg (Ne.symm hlocal)
  have hkept : entriesAt n.primaryElementAddress a.kept = 1 :=
    (hdistinct.sublist List.filter_sublist).entriesAt (p.netKeyDistributed.sublist.subset hn)
  rw [p.messages_trace, hentry, hrest.entriesAt hn, hkept]
  simp only [hrest.holdersAt hn, Nat.zero_add, flatMap_replicate_if]
  simp

end RefreshParts

/-- In a complete run that has updated the subnet, over remote nodes with distinct
addresses, each node is sent exactly the messages that its place in the run calls
for, and deletion is asked for of the nodes that are left out. -/
theorem keyRefresh_distributes (a : RefreshArgs) (hdistinct : DistinctAddresses a.nodes)
    (hremote : ∀ n ∈ a.nodes, n.primaryElementAddress ≠ localNodeAddress)
    {t : RefreshTrace} (h : Run (keyRefresh a) t ())
    (hsubnet : ⟨.updateSubnet a.netKeyIndex, (none : Reply)⟩ ∈ t) :
    requestedAppKeys t = (if a.refreshAppKeys then a.appKeyIndexesToRefresh else []) ∧
    (updatedAppKeys t).Sublist (requestedAppKeys t) ∧
    ∀ n ∈ a.nodes,
      (n.primaryElementAddress ∈ a.blackListedNodes →
        Deleted n t ∧ messages n.primaryElementAddress t = []) ∧
      (n.primaryElementAddress ∉ a.blackListedNodes →
        failedUpdates n.primaryElementAddress t ≠ 0 →
        Deleted n t ∧ messages n.primaryElementAddress t = [.netKeyUpdate]) ∧
      (n.primaryElementAddress ∉ a.blackListedNodes →
        failedUpdates n.primaryElementAddress t = 0 →
        messages n.primaryElementAddress t =
          .netKeyUpdate ::
            ((updatedAppKeys t).filter (· ∈ n.appKeyIndexes)).map .appKeyUpdate ++
          [.krPhaseSet 2, .krPhaseSet 3]) := by
  rcases run_keyRefresh h with ⟨message, rfl⟩ | ⟨p, rfl⟩
  · exfalso
    simp at hsubnet
  refine ⟨p.requestedAppKeys_trace, updatedAppKeys_sublist _, fun n hn => ?_⟩
  have hlocal := hremote n hn
  have hkept_distinct : DistinctAddresses a.kept := hdistinct.sublist List.filter_sublist
  have hcount := p.failedUpdates_trace n.primaryElementAddress
  refine ⟨fun hblack => ⟨p.deleted_black hn hblack, ?_⟩, fun hblack hfailed => ?_,
    fun hblack hfailed => ?_⟩
  · have hgone : ∀ m ∈ a.kept, m.primaryElementAddress ≠ n.primaryElementAddress := by
      intro m hm heq
      have hnot := (List.mem_filter.mp hm).2
      rw [decide_eq_true_eq, heq] at hnot
      exact hnot hblack
    have hgone_rest := fun m hm => hgone m (p.netKeyDistributed.sublist.subset hm)
    rw [p.messages_of_not_rest hlocal hgone_rest, entriesAt_eq_zero hgone]
    rfl
  · have hkept : n ∈ a.kept := List.mem_filter.mpr ⟨hn, by simpa using hblack⟩
    have hone := hkept_distinct.entriesAt hkept
    have hgone : ∀ m ∈ p.rest, m.primaryElementAddress ≠ n.primaryElementAddress := by
      intro m hm heq
      have hrest := (hdistinct.sublist p.rest_sublist).entriesAt hm
      rw [heq] at hrest
      omega
    refine ⟨p.deleted_failed hkept (fun hmem => hgone n hmem rfl), ?_⟩
    rw [p.messages_of_not_rest hlocal hgone, hone]
    rfl
  · have hkept : n ∈ a.kept := List.mem_filter.mpr ⟨hn, by simpa using hblack⟩
    have hone := hkept_distinct.entriesAt hkept
    have hrest : n ∈ p.rest := by
      by_contra hnot
      have hgone : ∀ m ∈ p.rest, m.primaryElementAddress ≠ n.primaryElementAddress := by
        intro m hm heq
        have hm' := p.netKeyDistributed.sublist.subset hm
        exact hnot (hkept_distinct.eq_of_address hm' hkept heq ▸ hm)
      have hzero := entriesAt_eq_zero hgone
      omega
    exact p.messages_of_rest hdistinct hrest hlocal

def deletionsFail : (c : RefreshCall) → RefreshAnswer c
  | .deleteRemoteNode _ _ => some "Failed"
  | c => allSucceed c

def refreshOne (blackListedNodes : List UInt16) (address : UInt16) : RefreshArgs where
  refreshAppKeys := true
  appKeyIndexesToRefresh := [7]
  blackListedNodes := blackListedNodes
  nodes := [⟨address, 1, [7]⟩]
  netKeyIndex := 0
  waitTime := 0

/-- One remote node that holds the application key 7. -/
theorem keyRefresh_distributes_one :
    messages 5 ((keyRefresh (refreshOne [] 5)).follow allSucceed).1 =
      [.netKeyUpdate, .appKeyUpdate 7, .krPhaseSet 2, .krPhaseSet 3] := by
  have hrun := run_follow allSucceed (keyRefresh (refreshOne [] 5))
  have hsent := ((keyRefresh_distributes (refreshOne [] 5) (by decide) (by decide) hrun
    List.mem_cons_self).2.2 ⟨5, 1, [7]⟩ List.mem_cons_self).2.2 (by decide) (by decide)
  exact hsent

/-- A deletion may fail, and a blacklisted entry with the local address is sent
the phases meant for the local node. -/
theorem keyRefresh_blackListed_kept :
    (¬ ∀ a t, DistinctAddresses a.nodes → Run (keyRefresh a) t () →
      ⟨.updateSubnet a.netKeyIndex, (none : Reply)⟩ ∈ t →
      ∀ n ∈ a.nodes, n.primaryElementAddress ∈ a.blackListedNodes →
        ⟨.deleteRemoteNode n.primaryElementAddress n.numberOfElements, (none : Reply)⟩ ∈ t) ∧
    (¬ ∀ a t, DistinctAddresses a.nodes → Run (keyRefresh a) t () →
      ⟨.updateSubnet a.netKeyIndex, (none : Reply)⟩ ∈ t →
      ∀ n ∈ a.nodes, n.primaryElementAddress ∈ a.blackListedNodes →
        .krPhaseSet 2 ∉ messages n.primaryElementAddress t) := by
  constructor
  · intro h
    have hrun := run_follow deletionsFail (keyRefresh (refreshOne [5] 5))
    have hmem := h (refreshOne [5] 5) _ (by decide) hrun List.mem_cons_self ⟨5, 1, [7]⟩
      List.mem_cons_self (by decide)
    have hreply := follow_answers deletionsFail _ _ hmem
    exact Option.some_ne_none _ hreply.symm
  · intro h
    have hrun := run_follow allSucceed (keyRefresh (refreshOne [1] 1))
    exact h (refreshOne [1] 1) _ (by decide) hrun List.mem_cons_self ⟨1, 1, [7]⟩
      List.mem_cons_self (by decide) (by decide)

end BluezSil.Mesh
