import BluezSil.SilService

/-!
# The agent of a service that restarts

The adapters always hold the agent there is. Whether BlueZ knows that agent is settled by
the steps that bring in adapters or an agent manager.
-/

namespace BluezSil.Sil

open TransitionRun

namespace Service

variable {s : Service}

/-- The adapters hold the agent, there is an agent exactly if there is a manager, and the
default adapter is known. -/
structure Sound (s : Service) : Prop where
  assigned : ∀ a ∈ s.mAdapters, a.mAgent = s.mAgent.map Agent.serial
  manager : s.mAgentManager = s.mAgent.isSome
  known : s.DefaultKnown

theorem sound_init : Sound {} := ⟨nofun, rfl, nofun⟩

theorem Sound.createAdapter (h : s.Sound) (objectPath : Text) :
    (s.createAdapter objectPath).Sound where
  assigned := by
    intro a ha
    rw [createAdapter_mAdapters] at ha
    rw [createAdapter_mAgent]
    rcases List.mem_append.mp ha with ha | ha
    · exact h.assigned a ha
    · rw [List.mem_singleton.mp ha]
  manager := by
    rw [createAdapter_mAgentManager, createAdapter_mAgent]
    exact h.manager
  known := h.known.createAdapter objectPath

theorem Sound.removeAdapter (h : s.Sound) (objectPath : Text) :
    (s.removeAdapter objectPath).Sound where
  assigned := by
    intro a ha
    rw [removeAdapter_mAgent]
    exact h.assigned a (s.removeAdapter_subset objectPath ha)
  manager := by
    rw [removeAdapter_mAgentManager, removeAdapter_mAgent]
    exact h.manager
  known := h.known.removeAdapter objectPath

theorem Sound.createAgentManager (h : s.Sound) (proxyOk : Bool) :
    (s.createAgentManager proxyOk).Sound where
  assigned := by
    unfold Service.createAgentManager
    split_ifs
    · exact h.assigned
    · intro a ha
      obtain ⟨b, _, rfl⟩ := List.mem_map.mp ha
      rfl
    · exact h.assigned
  manager := by
    unfold Service.createAgentManager
    split_ifs
    · exact h.manager
    · rfl
    · exact h.manager
  known := h.known.createAgentManager proxyOk

theorem Sound.removeAgentManager (h : s.Sound) : s.removeAgentManager.Sound where
  assigned := by
    unfold Service.removeAgentManager
    split_ifs
    · intro a ha
      obtain ⟨b, _, rfl⟩ := List.mem_map.mp ha
      rfl
    · exact h.assigned
  manager := by
    unfold Service.removeAgentManager
    split_ifs
    · rfl
    · exact h.manager
  known := h.known.removeAgentManager

theorem Sound.stopped (h : s.Sound) : s.handleBluezServiceStopped.Sound :=
  ⟨nofun, h.manager, nofun⟩

theorem Sound.createInterface {agent : Agent} (h : s.Sound) (hagent : s.mAgent = some agent)
    (registered : Option ℕ) : (s.createInterface agent registered).Sound where
  assigned := by
    intro a ha
    have hassigned := h.assigned a ha
    rw [hagent] at hassigned
    exact hassigned
  manager := by
    have hmanager := h.manager
    rw [hagent] at hmanager
    exact hmanager
  known := h.known

theorem Sound.objectAdded (h : s.Sound) (object : BluezObject) :
    (s.handleObjectAdded object).Sound := by
  unfold handleObjectAdded
  split_ifs
  · exact h.createAdapter _
  · exact h

theorem Sound.objectRemoved (h : s.Sound) (object : BluezObject) :
    (s.handleObjectRemoved object).Sound := by
  unfold handleObjectRemoved
  have hadapter : (if object.adapter1 then s.removeAdapter object.objectPath else s).Sound := by
    split_ifs
    · exact h.removeAdapter _
    · exact h
  dsimp only
  cases object.agentManager1 with
  | true => exact hadapter.removeAgentManager
  | false => exact hadapter

theorem Sound.removeObjects (h : s.Sound) (objects : List BluezObject) :
    (s.removeObjects objects).Sound := by
  unfold Service.removeObjects
  induction objects generalizing s with
  | nil => exact h
  | cons o objects ih => exact ih (h.objectRemoved o)

theorem removeAgentManager_mAgent : ∀ g ∈ s.removeAgentManager.mAgent, g ∈ s.mAgent := by
  intro g hg
  unfold removeAgentManager at hg
  split_ifs at hg
  · cases hg
  · exact hg

theorem objectRemoved_mAgent {object : BluezObject} :
    ∀ g ∈ (s.handleObjectRemoved object).mAgent, g ∈ s.mAgent := by
  intro g hg
  have hadapter : (if object.adapter1 then s.removeAdapter object.objectPath else s).mAgent =
      s.mAgent := by
    split_ifs
    · exact removeAdapter_mAgent _ _
    · rfl
  rw [← hadapter]
  unfold handleObjectRemoved at hg
  cases hmanager : object.agentManager1 with
  | false =>
      rw [hmanager] at hg
      exact hg
  | true =>
      rw [hmanager] at hg
      exact removeAgentManager_mAgent g hg

theorem removeObjects_mAgent {objects : List BluezObject} :
    ∀ g ∈ (s.removeObjects objects).mAgent, g ∈ s.mAgent := by
  unfold removeObjects
  induction objects generalizing s with
  | nil => exact fun g hg => hg
  | cons o objects ih => exact fun g hg => objectRemoved_mAgent g (ih g hg)

theorem objectRemoved_mAgentManager (s : Service) (object : BluezObject) :
    (s.handleObjectRemoved object).mAgentManager =
      (s.mAgentManager && !object.agentManager1) := by
  have hadapter :
      (if object.adapter1 then s.removeAdapter object.objectPath else s).mAgentManager =
        s.mAgentManager := by
    split_ifs
    · exact removeAdapter_mAgentManager _ _
    · rfl
  unfold handleObjectRemoved
  dsimp only
  cases object.agentManager1 with
  | false => simpa using hadapter
  | true =>
      unfold removeAgentManager
      cases hmanager : (if object.adapter1 then s.removeAdapter object.objectPath
          else s).mAgentManager <;> simp [hmanager]

theorem removeObjects_mAgentManager (s : Service) (objects : List BluezObject) :
    (s.removeObjects objects).mAgentManager =
      (s.mAgentManager && !objects.any BluezObject.agentManager1) := by
  unfold removeObjects
  induction objects generalizing s with
  | nil => exact (Bool.and_true _).symm
  | cons o objects ih =>
      rw [List.foldl_cons, ih, objectRemoved_mAgentManager, List.any_cons, Bool.not_or,
        Bool.and_assoc]

theorem objectAdded_mAgentManager (s : Service) (object : BluezObject) :
    (s.handleObjectAdded object).mAgentManager = s.mAgentManager := by
  unfold handleObjectAdded
  split_ifs
  · exact createAdapter_mAgentManager _ _
  · rfl

theorem objectRemoved_of_keeps {object : BluezObject} (h : object.agentManager1 = false) :
    (s.handleObjectRemoved object).mAgent = s.mAgent ∧
      (s.handleObjectRemoved object).mAdapters ⊆ s.mAdapters := by
  unfold handleObjectRemoved
  rw [h]
  cases object.adapter1 with
  | false => exact ⟨rfl, List.Subset.refl _⟩
  | true => exact ⟨removeAdapter_mAgent s _, removeAdapter_subset s _⟩

theorem objectAdded_mAgent (s : Service) (object : BluezObject) :
    (s.handleObjectAdded object).mAgent = s.mAgent := by
  unfold handleObjectAdded
  split_ifs
  · exact createAdapter_mAgent _ _
  · rfl

theorem objectAdded_nil_iff (s : Service) (object : BluezObject) :
    (s.handleObjectAdded object).mAdapters = [] ↔
      s.mAdapters = [] ∧ [object].filter BluezObject.adapter1 = [] := by
  unfold handleObjectAdded
  cases hadapter : object.adapter1 with
  | true =>
      rw [List.filter_cons_of_pos hadapter]
      exact iff_of_false (createAdapter_ne_nil _ _) fun h => List.cons_ne_nil _ _ h.2
  | false =>
      rw [List.filter_cons_of_neg (by simp [hadapter])]
      exact (and_iff_left rfl).symm

theorem foldl_createAdapter (objects : List BluezObject) (s : Service) :
    let t := objects.foldl (fun s o => s.createAdapter o.objectPath) s
    t.mAgent = s.mAgent ∧ t.mAgentManager = s.mAgentManager ∧
      (t.mAdapters = [] ↔ s.mAdapters = [] ∧ objects = []) ∧ (s.Sound → t.Sound) := by
  induction objects generalizing s with
  | nil => exact ⟨rfl, rfl, (and_iff_left rfl).symm, id⟩
  | cons o objects ih =>
      obtain ⟨hagent, hmanager, hnil, hsound⟩ := ih (s.createAdapter o.objectPath)
      refine ⟨?_, ?_, ?_, fun h => hsound (h.createAdapter _)⟩
      · rw [← createAdapter_mAgent s o.objectPath]
        exact hagent
      · rw [← createAdapter_mAgentManager s o.objectPath]
        exact hmanager
      · rw [List.foldl_cons, hnil]
        constructor
        · intro h
          exact absurd h.1 (createAdapter_ne_nil _ _)
        · intro h
          cases h.2

section Started

variable {objects : List BluezObject} {managerOk proxyOk : Bool}

theorem Sound.started (h : s.Sound) :
    (s.handleBluezServiceStarted objects managerOk proxyOk).Sound := by
  obtain ⟨_, _, _, hsound⟩ := foldl_createAdapter (objects.filter BluezObject.adapter1) s
  unfold handleBluezServiceStarted
  dsimp only
  cases managerOk with
  | false => exact h
  | true =>
      cases objects.any BluezObject.agentManager1 with
      | false => exact hsound h
      | true => exact (hsound h).createAgentManager proxyOk

theorem started_nil_iff :
    (s.handleBluezServiceStarted objects managerOk proxyOk).mAdapters = [] ↔
      s.mAdapters = [] ∧ (if managerOk then objects else []).filter BluezObject.adapter1 = [] := by
  obtain ⟨_, _, hnil, _⟩ := foldl_createAdapter (objects.filter BluezObject.adapter1) s
  unfold handleBluezServiceStarted
  dsimp only
  cases managerOk with
  | false => simp
  | true =>
      cases objects.any BluezObject.agentManager1 with
      | false => exact hnil
      | true => exact (createAgentManager_nil_iff _ _).trans hnil

theorem started_mAgent (s : Service) (objects : List BluezObject) (managerOk proxyOk : Bool) :
    ∃ n, (s.handleBluezServiceStarted objects managerOk proxyOk).mAgent =
      if (managerOk = true ∧ objects.any BluezObject.agentManager1 = true) ∧
        s.mAgentManager = false ∧ proxyOk = true then some { serial := n } else s.mAgent := by
  obtain ⟨hagent, hmanager, _, _⟩ :=
    foldl_createAdapter (objects.filter BluezObject.adapter1) s
  unfold handleBluezServiceStarted
  dsimp only at hagent hmanager ⊢
  cases managerOk with
  | false => exact ⟨0, by simp⟩
  | true =>
      cases objects.any BluezObject.agentManager1 with
      | false => exact ⟨0, by simpa using hagent⟩
      | true =>
          refine ⟨((objects.filter BluezObject.adapter1).foldl
            (fun s o => s.createAdapter o.objectPath) s).nextSerial, ?_⟩
          simp only [if_true, and_self, true_and, createAgentManager_mAgent, hagent, hmanager]

theorem started_mAgentManager
    (h : (s.handleBluezServiceStarted objects managerOk proxyOk).mAgentManager = true) :
    s.mAgentManager = true ∨ managerOk = true ∧ objects.any BluezObject.agentManager1 = true := by
  obtain ⟨_, hmanager, _, _⟩ :=
    foldl_createAdapter (objects.filter BluezObject.adapter1) s
  unfold handleBluezServiceStarted at h
  dsimp only at hmanager h
  cases managerOk with
  | false => exact .inl h
  | true =>
      cases hany : objects.any BluezObject.agentManager1 with
      | false =>
          rw [hany] at h
          exact .inl (hmanager.symm.trans h)
      | true => exact .inr ⟨rfl, rfl⟩

/-- The agent after a start is the old one or has not been registered. -/
theorem started_mAgent_cases {g : Agent}
    (hg : g ∈ (s.handleBluezServiceStarted objects managerOk proxyOk).mAgent) :
    g ∈ s.mAgent ∨ g.registeredWith = none := by
  obtain ⟨n, hagent⟩ := started_mAgent s objects managerOk proxyOk
  rw [hagent] at hg
  split_ifs at hg
  · cases hg
    exact .inr rfl
  · exact .inl hg

end Started

end Service

namespace ServiceRun

variable {s t : ServiceRun} {good : ℕ → Agent → Prop}

/-- The agent manager is one of the objects that are there, so it is gone after a stop. -/
structure Good (s : ServiceRun) : Prop where
  service : s.service.Sound
  manager_listed : s.service.mAgentManager = true →
    s.objects.any BluezObject.agentManager1 = true
  manager_running : s.service.mAgentManager = true → s.running.isSome = true
  running_old : ∀ i ∈ s.running, i < s.nextInstance
  registered_old : ∀ g ∈ s.service.mAgent, ∀ i ∈ g.registeredWith, i < s.nextInstance
  waiting : ∀ g ∈ s.service.mAgent, g.acquiring = true → g.registeredWith = none

theorem good_init : Good {} where
  service := Service.sound_init
  manager_listed := nofun
  manager_running := nofun
  running_old := nofun
  registered_old := nofun
  waiting := nofun

theorem agentsHeld_iff (h : s.service.Sound) :
    s.AgentsHeld good ↔ (s.exportsManager = true → ∀ i ∈ s.running,
      s.service.mAdapters = [] ∨ ∃ g ∈ s.service.mAgent, good i g) := by
  constructor
  · intro hheld hexports i hi
    cases hadapters : s.service.mAdapters with
    | nil => exact .inl rfl
    | cons a as =>
        obtain ⟨g, hg, _, hgood⟩ := hheld hexports i hi a (hadapters ▸ List.mem_cons_self)
        exact .inr ⟨g, hg, hgood⟩
  · intro hagent hexports i hi a ha
    rcases hagent hexports i hi with hnil | ⟨g, hg, hgood⟩
    · rw [hnil] at ha
      cases ha
    · refine ⟨g, hg, ?_, hgood⟩
      rw [h.assigned a ha, hg, Option.map_some]

theorem started_eq {objects : List BluezObject} {managerOk proxyOk : Bool}
    (hs : s.step (.started objects managerOk proxyOk) = some t) :
    s.running.isSome = false ∧
      t = { service := s.service.handleBluezServiceStarted objects managerOk proxyOk
            objects := s.objects ++ if managerOk then objects else []
            running := some s.nextInstance
            exportsManager := objects.any BluezObject.agentManager1
            nextInstance := s.nextInstance + 1 } := by
  simp only [ServiceRun.step] at hs
  cases hrunning : s.running.isSome with
  | true =>
      rw [hrunning, if_pos rfl] at hs
      cases hs
  | false =>
      rw [hrunning, if_neg Bool.false_ne_true] at hs
      exact ⟨rfl, (Option.some.inj hs).symm⟩

theorem busAcquired_eq {registerOk : Bool} (hs : s.step (.busAcquired registerOk) = some t) :
    ∃ agent, s.service.mAgent = some agent ∧ agent.acquiring = true ∧
      t = { s with
        service := s.service.createInterface agent (if registerOk then s.running else none) } := by
  simp only [ServiceRun.step] at hs
  cases hagent : s.service.mAgent with
  | none =>
      rw [hagent] at hs
      cases hs
  | some agent =>
      rw [hagent] at hs
      dsimp only at hs
      by_cases hacquiring : agent.acquiring = true
      · rw [if_pos hacquiring] at hs
        exact ⟨agent, rfl, hacquiring, (Option.some.inj hs).symm⟩
      · rw [if_neg hacquiring] at hs
        cases hs

theorem Good.stopped_manager {before after : List BluezObject} (h : s.Good)
    (hobjects : (before ++ after).Perm s.objects) :
    ((s.service.removeObjects before).handleBluezServiceStopped.removeObjects
      after).mAgentManager = false := by
  rw [Service.removeObjects_mAgentManager]
  change ((s.service.removeObjects before).mAgentManager && _) = false
  rw [Service.removeObjects_mAgentManager, Bool.and_assoc, ← Bool.not_or, ← List.any_append,
    hobjects.any_eq]
  cases hmanager : s.service.mAgentManager with
  | false => rfl
  | true =>
      rw [h.manager_listed hmanager]
      rfl

theorem Good.step {e : ServiceEvent} (h : s.Good) (hs : s.step e = some t) : t.Good := by
  cases e with
  | started objects managerOk proxyOk =>
      obtain ⟨_, rfl⟩ := started_eq hs
      refine ⟨h.service.started, ?_, fun _ => rfl, ?_, ?_, ?_⟩
      · intro hmanager
        rw [List.any_append, Bool.or_eq_true]
        rcases Service.started_mAgentManager hmanager with hold | ⟨hmanagerOk, hany⟩
        · exact .inl (h.manager_listed hold)
        · right
          rwa [if_pos hmanagerOk]
      · intro i hi
        cases hi
        exact Nat.lt_succ_self _
      · intro g hg i hi
        rcases Service.started_mAgent_cases hg with hold | hnone
        · exact Nat.lt_succ_of_lt (h.registered_old g hold i hi)
        · rw [hnone] at hi
          cases hi
      · intro g hg hacquiring
        rcases Service.started_mAgent_cases hg with hold | hnone
        · exact h.waiting g hold hacquiring
        · exact hnone
  | stopped before after =>
      simp only [ServiceRun.step] at hs
      split_ifs at hs with hstop
      cases hs
      have hmanager := h.stopped_manager hstop.2
      have hold : ∀ g ∈ ((s.service.removeObjects before).handleBluezServiceStopped.removeObjects
          after).mAgent, g ∈ s.service.mAgent := by
        intro g hg
        have hstop : g ∈ (s.service.removeObjects before).handleBluezServiceStopped.mAgent :=
          Service.removeObjects_mAgent g hg
        exact Service.removeObjects_mAgent g hstop
      refine ⟨(h.service.removeObjects before).stopped.removeObjects after, ?_, ?_, nofun, ?_, ?_⟩
      · exact fun htrue => absurd (hmanager.symm.trans htrue) Bool.false_ne_true
      · exact fun htrue => absurd (hmanager.symm.trans htrue) Bool.false_ne_true
      · exact fun g hg => h.registered_old g (hold g hg)
      · exact fun g hg => h.waiting g (hold g hg)
  | objectAdded object =>
      cases hs
      refine ⟨h.service.objectAdded object, ?_, ?_, h.running_old, ?_, ?_⟩
      · intro hmanager
        rw [List.any_append, Bool.or_eq_true]
        exact .inl (h.manager_listed (s.service.objectAdded_mAgentManager object ▸ hmanager))
      · intro hmanager
        exact h.manager_running (s.service.objectAdded_mAgentManager object ▸ hmanager)
      · intro g hg
        exact h.registered_old g (s.service.objectAdded_mAgent object ▸ hg)
      · intro g hg
        exact h.waiting g (s.service.objectAdded_mAgent object ▸ hg)
  | objectRemoved object =>
      simp only [ServiceRun.step] at hs
      split_ifs at hs
      cases hs
      have hkeeps (htrue : (s.service.handleObjectRemoved object).mAgentManager = true) :
          s.service.mAgentManager = true ∧ object.agentManager1 = false := by
        rw [Service.objectRemoved_mAgentManager, Bool.and_eq_true] at htrue
        exact ⟨htrue.1, by simpa using htrue.2⟩
      refine ⟨h.service.objectRemoved object, ?_, ?_, h.running_old, ?_, ?_⟩
      · intro htrue
        obtain ⟨hmanager, hobject⟩ := hkeeps htrue
        obtain ⟨o, ho, hmanager1⟩ := List.any_eq_true.mp (h.manager_listed hmanager)
        refine List.any_eq_true.mpr ⟨o, ?_, hmanager1⟩
        refine (List.mem_erase_of_ne ?_).mpr ho
        rintro rfl
        exact Bool.false_ne_true (hobject.symm.trans hmanager1)
      · exact fun htrue => h.manager_running (hkeeps htrue).1
      · intro g hg
        exact h.registered_old g (Service.objectRemoved_mAgent g hg)
      · intro g hg
        exact h.waiting g (Service.objectRemoved_mAgent g hg)
  | busAcquired registerOk =>
      obtain ⟨agent, hagent, _, rfl⟩ := busAcquired_eq hs
      refine ⟨h.service.createInterface hagent _, h.manager_listed, h.manager_running,
        h.running_old, ?_, ?_⟩
      · intro g hg i hi
        cases hg
        cases registerOk with
        | true => exact h.running_old i hi
        | false => cases hi
      · intro g hg hacquiring
        cases hg
        cases hacquiring

theorem good_of_reach {G : ServiceRun → ServiceEvent → Prop}
    (hs : serviceMachine.ReachWith G s) : s.Good :=
  hs.invariant good_init fun _ _ _ h _ hstep => h.step hstep

/-- A start with listed adapters and a listed agent manager leaves them without a registered
agent, whether the agent is new or an old one. -/
theorem registered_started_iff {objects : List BluezObject} {managerOk proxyOk : Bool}
    (h : s.Good) (hs : s.step (.started objects managerOk proxyOk) = some t) :
    t.AgentsRegistered ↔ s.RegistersFirst (.started objects managerOk proxyOk) := by
  have ht := h.step hs
  obtain ⟨_, rfl⟩ := started_eq hs
  rw [AgentsRegistered, agentsHeld_iff ht.service]
  simp only [RegistersFirst, NoAdapters, Option.mem_some_iff, forall_eq',
    Service.started_nil_iff]
  have hnone : ¬ ∃ g ∈ (s.service.handleBluezServiceStarted objects managerOk proxyOk).mAgent,
      g.registeredWith = some s.nextInstance := by
    rintro ⟨g, hg, hregistered⟩
    rcases Service.started_mAgent_cases hg with hold | hnone
    · exact Nat.lt_irrefl _ (h.registered_old g hold _ hregistered)
    · rw [hnone] at hregistered
      cases hregistered
  simp only [hnone, or_false]

theorem registered_objectAdded_iff {object : BluezObject} (h : s.Good)
    (hs : s.step (.objectAdded object) = some t) :
    t.AgentsRegistered ↔ s.RegistersFirst (.objectAdded object) := by
  have ht := h.step hs
  cases hs
  rw [AgentsRegistered, agentsHeld_iff ht.service]
  simp only [RegistersFirst, NoAdapters, Registered, s.service.objectAdded_mAgent,
    s.service.objectAdded_nil_iff]
  cases hrunning : s.running with
  | none => simp
  | some i => simp

/-- What is removed takes its adapters along, or the agent manager itself. -/
theorem AgentsHeld.objectRemoved {object : BluezObject} (hheld : s.AgentsHeld good)
    (hs : s.step (.objectRemoved object) = some t) : t.AgentsHeld good := by
  simp only [ServiceRun.step] at hs
  split_ifs at hs
  cases hs
  cases hmanager : object.agentManager1 with
  | true =>
      intro hexports
      simp at hexports
  | false =>
      obtain ⟨hagent, hsubset⟩ := Service.objectRemoved_of_keeps (s := s.service) hmanager
      intro hexports i hi a ha
      have hexports : s.exportsManager = true := by simpa [hmanager] using hexports
      obtain ⟨g, hg, hserial, hgood⟩ := hheld hexports i hi a (hsubset ha)
      exact ⟨g, hagent.trans hg, hserial, hgood⟩

theorem AgentsHeld.stopped {before after : List BluezObject}
    (hs : s.step (.stopped before after) = some t) : t.AgentsHeld good := by
  simp only [ServiceRun.step] at hs
  split_ifs at hs
  cases hs
  exact nofun

/-- An agent that still waits for its bus name is registered with nothing, so there are no
adapters to hold it. -/
theorem AgentsRegistered.busAcquired {registerOk : Bool} (h : s.Good)
    (hheld : s.AgentsRegistered) (hs : s.step (.busAcquired registerOk) = some t) :
    t.AgentsRegistered := by
  obtain ⟨agent, hagent, hacquiring, rfl⟩ := busAcquired_eq hs
  intro hexports i hi a ha
  obtain ⟨g, hg, _, hregistered⟩ := hheld hexports i hi a ha
  rw [hagent] at hg
  cases hg
  rw [h.waiting agent hagent hacquiring] at hregistered
  cases hregistered

/-- A step leaves the agents registered if and only if it brings in adapters only where the
agent has been registered. -/
theorem registered_step_iff {e : ServiceEvent} (h : s.Good) (hheld : s.AgentsRegistered)
    (hs : s.step e = some t) : t.AgentsRegistered ↔ s.RegistersFirst e := by
  cases e with
  | started objects managerOk proxyOk => exact registered_started_iff h hs
  | objectAdded object => exact registered_objectAdded_iff h hs
  | stopped before after => exact iff_of_true (AgentsHeld.stopped hs) trivial
  | objectRemoved object => exact iff_of_true (hheld.objectRemoved hs) trivial
  | busAcquired registerOk => exact iff_of_true (hheld.busAcquired h hs) trivial

def HasCurrent (s : ServiceRun) : Prop :=
  s.exportsManager = true → ∀ i ∈ s.running,
    ∃ g ∈ s.service.mAgent, g.registeredWith = some i ∨ g.acquiring = true

theorem HasCurrent.started {objects : List BluezObject} {managerOk proxyOk : Bool}
    (h : s.Good) (he : s.RenewsAgent (.started objects managerOk proxyOk))
    (hs : s.step (.started objects managerOk proxyOk) = some t) : t.HasCurrent := by
  obtain ⟨hrunning, rfl⟩ := started_eq hs
  intro hexports i _
  obtain ⟨hmanagerOk, hproxyOk⟩ := he hexports
  obtain ⟨n, hstarted⟩ := Service.started_mAgent s.service objects managerOk proxyOk
  have hmanager : s.service.mAgentManager = false :=
    Bool.eq_false_iff.mpr fun htrue => by
      rw [h.manager_running htrue] at hrunning
      cases hrunning
  dsimp only
  rw [hstarted, if_pos ⟨⟨hmanagerOk, hexports⟩, hmanager, hproxyOk⟩]
  exact ⟨_, rfl, .inr rfl⟩

theorem HasCurrent.step {e : ServiceEvent} (hgood : s.Good) (h : s.HasCurrent)
    (he : s.RenewsAgent e) (hs : s.step e = some t) : t.HasCurrent := by
  cases e with
  | started objects managerOk proxyOk => exact .started hgood he hs
  | stopped before after =>
      simp only [ServiceRun.step] at hs
      split_ifs at hs
      cases hs
      exact nofun
  | objectAdded object =>
      cases hs
      have hmanager : object.agentManager1 = false := he
      intro hexports i hi
      have hexports : s.exportsManager = true := by simpa [hmanager] using hexports
      dsimp only
      rw [s.service.objectAdded_mAgent]
      exact h hexports i hi
  | objectRemoved object =>
      simp only [ServiceRun.step] at hs
      split_ifs at hs
      cases hs
      intro hexports i hi
      obtain ⟨hexports, hmanager⟩ := Bool.and_eq_true_iff.mp hexports
      have hkeeps := Service.objectRemoved_of_keeps (s := s.service) (by simpa using hmanager)
      dsimp only
      rw [hkeeps.1]
      exact h hexports i hi
  | busAcquired registerOk =>
      obtain ⟨agent, hagent, hacquiring, rfl⟩ := busAcquired_eq hs
      intro hexports i hi
      have hregister : registerOk = true := he (Option.isSome_of_mem hi)
      rw [hregister]
      exact ⟨_, rfl, .inl hi⟩

end ServiceRun

/-- The default adapter is always known. The agents stay registered as long as adapters
appear only where the agent has been registered, and a step that brings in others leaves
them without. They are at least about to be registered as long as each start renews the
agent. -/
theorem agents_registered (s : ServiceRun) :
    (serviceMachine.Reach s → s.service.DefaultKnown) ∧
    (serviceMachine.ReachWith ServiceRun.RegistersFirst s → s.AgentsRegistered ∧
      ∀ e t, s.step e = some t → (t.AgentsRegistered ↔ s.RegistersFirst e)) ∧
    (serviceMachine.ReachWith ServiceRun.RenewsAgent s → s.AgentsCurrent) := by
  refine ⟨fun hs => (ServiceRun.good_of_reach hs).service.known, fun hs => ?_, fun hs => ?_⟩
  · have hinit : serviceMachine.init.AgentsRegistered := nofun
    refine hs.invariant_iff_of (Q := ServiceRun.Good) hinit ServiceRun.good_init ?_
    intro s e t hheld hgood hstep
    exact ⟨ServiceRun.registered_step_iff hgood hheld hstep, fun _ => hgood.step hstep⟩
  · have hcurrent : s.Good ∧ s.HasCurrent :=
      hs.invariant (P := fun s => s.Good ∧ s.HasCurrent)
        ⟨ServiceRun.good_init, fun h => absurd h Bool.false_ne_true⟩
        fun _ _ _ h he hstep => ⟨h.1.step hstep, h.2.step h.1 he hstep⟩
    rw [ServiceRun.AgentsCurrent, ServiceRun.agentsHeld_iff hcurrent.1.service]
    exact fun hexports i hi => .inr (hcurrent.2 hexports i hi)

def adapterObject : BluezObject := ⟨"/org/bluez/hci0".toList, true, false⟩

def managerObject : BluezObject := ⟨"/org/bluez".toList, false, true⟩

/-- BlueZ restarts, and its adapter appears after the agent has been registered with it. -/
theorem agents_registered_late : ∃ s, serviceMachine.ReachWith ServiceRun.RegistersFirst s ∧
    s.running = some 1 ∧ s.service.mAdapters.length = 1 ∧ s.AgentsRegistered := by
  have hrun : ∃ s, serviceMachine.runWith ServiceRun.RegistersFirst serviceMachine.init
      [.started [managerObject] true true, .busAcquired true, .objectAdded adapterObject,
        .stopped [adapterObject] [managerObject], .started [managerObject] true true,
        .busAcquired true, .objectAdded adapterObject] = some s ∧
      s.running = some 1 ∧ s.service.mAdapters.length = 1 := ⟨_, rfl, by decide⟩
  obtain ⟨s, hrun, hrunning, hadapters⟩ := hrun
  have hreach := Machine.reachWith_of_runWith _ Machine.ReachWith.init hrun
  exact ⟨s, hreach, hrunning, hadapters, ((agents_registered s).2.1 hreach).1⟩

/-- An agent manager that is added after the start makes no agent. -/
theorem agents_registered_added : ¬ ∀ s : ServiceRun, serviceMachine.Reach s →
    s.AgentsRegistered ∧ s.service.DefaultKnown := by
  intro h
  have hrun : ∃ t, serviceMachine.run serviceMachine.init [.started [adapterObject] true true,
      .objectAdded managerObject] = some t ∧
      t.exportsManager = true ∧ t.running = some 0 ∧ t.service.mAdapters ≠ [] ∧
      t.service.mAgent = none := ⟨_, rfl, by decide⟩
  obtain ⟨t, hrun, hexports, hrunning, hadapters, hagent⟩ := hrun
  obtain ⟨a, as, has⟩ := List.exists_cons_of_ne_nil hadapters
  obtain ⟨g, hg, _, _⟩ := (h t (Machine.reach_of_run _ hrun)).1 hexports 0 hrunning a
    (has ▸ List.mem_cons_self)
  rw [hagent] at hg
  cases hg

end BluezSil.Sil
