import BluezSil.MeshConfigClient

/-!
# Key distribution calls that fail

A key message is queued at the back before it is sent, and when sending fails the
request is taken out again by its response opcode and node address, which finds the
first match from the front. The queue is as it was when that match is the new
request. Otherwise an older request is taken out with its timer, and the new one,
which was never sent, stays.
-/

namespace BluezSil.Mesh

inductive KeyDistribution
  | addAppKey (destAddress netKeyIndex appKeyIndex : UInt16) (update : Bool) (waitTime : ℤ)
  | configNetKeyUpdate (destAddress netKeyIndex : UInt16) (waitTime numberOfElements : ℤ)
  deriving DecidableEq, Repr

namespace KeyDistribution

def destAddress : KeyDistribution → UInt16
  | .addAppKey destAddress _ _ _ _ => destAddress
  | .configNetKeyUpdate destAddress _ _ _ => destAddress

def response : KeyDistribution → UInt32
  | .addAppKey _ _ _ _ _ => opAppkeyStatus
  | .configNetKeyUpdate _ _ _ _ => opNetkeyStatus

end KeyDistribution

namespace ConfigClient

def distribute (c : ConfigClient) (reply : Reply) : KeyDistribution → Outcome
  | .addAppKey destAddress netKeyIndex appKeyIndex update waitTime =>
    c.addAppKey destAddress netKeyIndex appKeyIndex update waitTime reply
  | .configNetKeyUpdate destAddress netKeyIndex waitTime numberOfElements =>
    c.configNetKeyUpdate destAddress netKeyIndex waitTime numberOfElements reply

def SamePending (c c' : ConfigClient) : Prop :=
  c'.pendingRequests.Perm c.pendingRequests ∧ c'.sources.Perm c.sources

variable {c : ConfigClient} {r : BleMeshPendingRequest}

/-- With an older match it is the older request that is withdrawn. -/
theorem mem_withdraw_old (hawaited : c.Awaited r.resp r.addr) :
    r ∈ ((c.push r).deletePendingRequest r.resp r.addr).pendingRequests := by
  obtain ⟨q, hq, hmatch⟩ := hawaited
  have hawaits : q.awaits r.resp r.addr = true := BleMeshPendingRequest.awaits_iff.mpr hmatch
  obtain ⟨p, hp⟩ : ∃ p, (c.push r).getRequestFromResponse r.resp r.addr = some p := by
    rw [← Option.isSome_iff_exists, getRequestFromResponse, List.find?_isSome]
    exact ⟨q, List.mem_append_left _ hq, hawaits⟩
  rw [deletePendingRequest, hp]
  change r ∈ (c.pendingRequests ++ [r]).eraseP _
  rw [List.eraseP_append_left hawaits _ hq]
  exact List.mem_append_right _ (List.mem_singleton_self r)

theorem FreshTimer.samePending_withdraw_iff (h : c.FreshTimer) (hr : r.timer = c.nextSource) :
    c.SamePending ((c.push r).deletePendingRequest r.resp r.addr) ↔
      ¬ c.Awaited r.resp r.addr := by
  constructor
  · rintro ⟨hpending, _⟩ hawaited
    have hmem : r ∈ c.pendingRequests := hpending.mem_iff.mp (mem_withdraw_old hawaited)
    exact h.1 r hmem hr
  · intro hnone
    obtain ⟨hpending, hsources⟩ := h.withdraw_new hr hnone
    exact ⟨List.Perm.of_eq hpending, List.Perm.of_eq hsources⟩

/-- A failing call queues a request under the next timer and withdraws by its
response and node. -/
theorem distribute_failed (c : ConfigClient) (k : KeyDistribution) (message : String) :
    ∃ r : BleMeshPendingRequest, r.timer = c.nextSource ∧ r.resp = k.response ∧
      r.addr = k.destAddress ∧
      (c.distribute (some message) k).client =
        (c.push r).deletePendingRequest k.response k.destAddress := by
  cases k with
  | addAppKey destAddress netKeyIndex appKeyIndex update waitTime =>
      cases update with
      | true => exact ⟨_, rfl, rfl, rfl, rfl⟩
      | false => exact ⟨_, rfl, rfl, rfl, rfl⟩
  | configNetKeyUpdate destAddress netKeyIndex waitTime numberOfElements =>
      exact ⟨_, rfl, rfl, rfl, rfl⟩

/-- A failed key distribution leaves the queue and its timers as they were exactly
when no queued request waits for the same response from the same node. -/
theorem failed_distribution_iff (h : c.FreshTimer) (k : KeyDistribution) (message : String) :
    c.SamePending (c.distribute (some message) k).client ↔
      ¬ c.Awaited k.response k.destAddress := by
  obtain ⟨r, htimer, hresp, haddr, hclient⟩ := c.distribute_failed k message
  rw [hclient, ← hresp, ← haddr]
  exact h.samePending_withdraw_iff htimer

def awaitingAppKey : ConfigClient := (ConfigClient.addAppKey {} 0x0005 0 1 false 0 none).client

theorem awaitingAppKey_freshTimer : awaitingAppKey.FreshTimer := ⟨by decide, by decide⟩

/-- Another node cannot be sent a key. -/
theorem failed_distribution_other :
    let c := (awaitingAppKey.distribute (some "AppKey not found")
      (.addAppKey 0x0007 0 1 false 0)).client
    awaitingAppKey.SamePending c ∧ c.pendingRequests.map BleMeshPendingRequest.addr = [0x0005] ∧
      c.sources = c.pendingRequests := by
  have hnone : ¬ awaitingAppKey.Awaited opAppkeyStatus 0x0007 := by
    unfold ConfigClient.Awaited
    decide
  have hsame := (failed_distribution_iff awaitingAppKey_freshTimer
    (.addAppKey 0x0007 0 1 false 0) "AppKey not found").mpr hnone
  exact ⟨hsame, by decide, by decide⟩

/-- The failure to send a second key to the node withdraws the first request. -/
theorem failed_distribution_second :
    ¬ ∀ (c : ConfigClient) (k : KeyDistribution) (message : String), c.FreshTimer →
      c.SamePending (c.distribute (some message) k).client := by
  intro hall
  have hsame := hall awaitingAppKey (.addAppKey 0x0005 0 2 false 0) "AppKey not found"
    awaitingAppKey_freshTimer
  have hperm : ¬ ((awaitingAppKey.distribute (some "AppKey not found")
      (.addAppKey 0x0005 0 2 false 0)).client.pendingRequests).Perm
        awaitingAppKey.pendingRequests := by decide
  exact hperm hsame.1

end ConfigClient

end BluezSil.Mesh
