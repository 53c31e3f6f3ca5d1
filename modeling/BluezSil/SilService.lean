import BluezSil.SilRouting
import BluezSil.TransitionRun

/-!
# Starts and stops of the BlueZ service

A start of BlueZ makes an adapter for each adapter object and an agent if BlueZ exports an
agent manager and there is none yet. The agent asks for its bus name and registers itself
when it gets it. A stop drops the adapters, and the removal of the objects the object manager
knew, which GDBus reports when the name owner vanishes, takes the agent and its manager along.
-/

namespace BluezSil.Sil

open TransitionRun

structure BluezObject where
  objectPath : Text
  adapter1 : Bool := false
  agentManager1 : Bool := false
  deriving DecidableEq, Repr

/-- `registeredWith` is the BlueZ instance that accepted `RegisterAgent`. The agent waits for
its bus name while `acquiring`. -/
structure Agent where
  serial : ℕ
  acquiring : Bool := true
  registeredWith : Option ℕ := none
  deriving DecidableEq, Repr

structure Service where
  mAdapters : List Adapter := []
  mDefaultAdapter : Option ℕ := none
  mAgentManager : Bool := false
  mAgent : Option Agent := none
  nextSerial : ℕ := 0
  deriving DecidableEq, Repr

namespace Service

variable (s : Service)

/-- The loop has no break, so the last adapter on such a path is taken. -/
def assignNewDefaultAdapter : Service :=
  match (s.mAdapters.filter fun a => decide ("hci0".toList <:+: a.mObjectPath)).getLast? with
  | some adapter => { s with mDefaultAdapter := some adapter.serial }
  | none => s

def createAdapter (objectPath : Text) : Service :=
  let adapter : Adapter := ⟨s.nextSerial, objectPath, s.mAgent.map Agent.serial⟩
  assignNewDefaultAdapter
    { s with mAdapters := s.mAdapters ++ [adapter], nextSerial := s.nextSerial + 1 }

def removeAdapter (objectPath : Text) : Service :=
  assignNewDefaultAdapter <|
    match s.mAdapters.find? fun a => a.mObjectPath == objectPath with
    | some adapter =>
      { s with
        mDefaultAdapter :=
          if s.mDefaultAdapter = some adapter.serial then none else s.mDefaultAdapter
        mAdapters := s.mAdapters.filter fun a => a.serial ≠ adapter.serial }
    | none => s

def assignAgent (agent : Option ℕ) : Service :=
  { s with mAdapters := s.mAdapters.map fun a => { a with mAgent := agent } }

/-- Without a proxy there is no manager and no agent. -/
def createAgentManager (proxyOk : Bool) : Service :=
  if s.mAgentManager then s
  else if proxyOk then
    assignAgent
      { s with
        mAgentManager := true
        mAgent := some { serial := s.nextSerial }
        nextSerial := s.nextSerial + 1 }
      (some s.nextSerial)
  else s

def removeAgentManager : Service :=
  if s.mAgentManager then
    { s.assignAgent none with mAgent := none, mAgentManager := false }
  else s

def handleBluezServiceStarted (objects : List BluezObject) (managerOk proxyOk : Bool) :
    Service :=
  if managerOk then
    let s := (objects.filter BluezObject.adapter1).foldl (fun s o => s.createAdapter o.objectPath) s
    if objects.any BluezObject.agentManager1 then s.createAgentManager proxyOk else s
  else s

def handleBluezServiceStopped : Service :=
  { s with mDefaultAdapter := none, mAdapters := [] }

/-- An agent manager that is added is not looked at. -/
def handleObjectAdded (object : BluezObject) : Service :=
  if object.adapter1 then s.createAdapter object.objectPath else s

def handleObjectRemoved (object : BluezObject) : Service :=
  let s := if object.adapter1 then s.removeAdapter object.objectPath else s
  if object.agentManager1 then s.removeAgentManager else s

def removeObjects (objects : List BluezObject) : Service :=
  objects.foldl handleObjectRemoved s

def createInterface (agent : Agent) (registered : Option ℕ) : Service :=
  { s with mAgent := some { agent with acquiring := false, registeredWith := registered } }

def DefaultKnown : Prop := ∀ d ∈ s.mDefaultAdapter, ∃ a ∈ s.mAdapters, a.serial = d

end Service

/-! ### Runs -/

/-- The objects are those reported to be there by the object managers. There is a manager for
each start, since a stop keeps the old one, so an object can be reported several times. -/
structure ServiceRun where
  service : Service := {}
  objects : List BluezObject := []
  running : Option ℕ := none
  exportsManager : Bool := false
  nextInstance : ℕ := 0
  deriving DecidableEq, Repr

/-- `managerOk`, `proxyOk` and `registerOk` are the outcomes of the calls made. A stop comes
with the removal of all objects, `before` and `after` the handler of the stop. -/
inductive ServiceEvent
  | started (objects : List BluezObject) (managerOk proxyOk : Bool)
  | stopped (before after : List BluezObject)
  | objectAdded (object : BluezObject)
  | objectRemoved (object : BluezObject)
  | busAcquired (registerOk : Bool)
  deriving DecidableEq, Repr

namespace ServiceRun

variable (s : ServiceRun)

/-- A service that runs is not started again, and one that does not is not stopped. -/
def step : ServiceEvent → Option ServiceRun
  | .started objects managerOk proxyOk =>
    if s.running.isSome then none
    else
      some
        { service := s.service.handleBluezServiceStarted objects managerOk proxyOk
          objects := s.objects ++ if managerOk then objects else []
          running := some s.nextInstance
          exportsManager := objects.any BluezObject.agentManager1
          nextInstance := s.nextInstance + 1 }
  | .stopped before after =>
    if s.running.isSome ∧ (before ++ after).Perm s.objects then
      some
        { s with
          service :=
            (s.service.removeObjects before).handleBluezServiceStopped.removeObjects after
          objects := []
          running := none
          exportsManager := false }
    else none
  | .objectAdded object =>
    some
      { s with
        service := s.service.handleObjectAdded object
        objects := s.objects ++ [object]
        exportsManager := s.exportsManager || (s.running.isSome && object.agentManager1) }
  | .objectRemoved object =>
    if object ∈ s.objects then
      some
        { s with
          service := s.service.handleObjectRemoved object
          objects := s.objects.erase object
          exportsManager := s.exportsManager && !object.agentManager1 }
    else none
  | .busAcquired registerOk =>
    match s.service.mAgent with
    | some agent =>
      if agent.acquiring then
        some
          { s with
            service :=
              s.service.createInterface agent (if registerOk then s.running else none) }
      else none
    | none => none

/-- Each adapter holds the agent, and the agent is all right for the BlueZ that runs. -/
def AgentsHeld (good : ℕ → Agent → Prop) : Prop :=
  s.exportsManager = true → ∀ i ∈ s.running, ∀ a ∈ s.service.mAdapters,
    ∃ g, s.service.mAgent = some g ∧ a.mAgent = some g.serial ∧ good i g

def AgentsRegistered : Prop := s.AgentsHeld fun i g => g.registeredWith = some i

/-- The agent of each adapter is registered with the BlueZ that runs, or waits for its bus
name to register itself. -/
def AgentsCurrent : Prop :=
  s.AgentsHeld fun i g => g.registeredWith = some i ∨ g.acquiring = true

def NoAdapters (objects : List BluezObject) : Prop :=
  s.service.mAdapters = [] ∧ objects.filter BluezObject.adapter1 = []

def Registered : Prop := ∃ g ∈ s.service.mAgent, g.registeredWith = s.running

/-- While BlueZ exports an agent manager, adapters appear only when the agent has been
registered with it. -/
def RegistersFirst : ServiceEvent → Prop
  | .started objects managerOk _ =>
    objects.any BluezObject.agentManager1 = true →
      s.NoAdapters (if managerOk then objects else [])
  | .objectAdded object =>
    s.running.isSome = true → (s.exportsManager || object.agentManager1) = true →
      s.NoAdapters [object] ∨ s.Registered
  | _ => True

instance : DecidableRel RegistersFirst := fun s e => by
  unfold RegistersFirst NoAdapters Registered
  cases e <;> infer_instance

/-- A start that lists an agent manager makes an agent. No agent manager is added later, and
`RegisterAgent` succeeds. -/
def RenewsAgent : ServiceEvent → Prop
  | .started objects managerOk proxyOk =>
    objects.any BluezObject.agentManager1 = true → managerOk = true ∧ proxyOk = true
  | .objectAdded object => object.agentManager1 = false
  | .busAcquired registerOk => s.running.isSome = true → registerOk = true
  | _ => True

end ServiceRun

def serviceMachine : Machine ServiceRun ServiceEvent := ⟨{}, ServiceRun.step⟩

namespace Service

variable {s : Service}

theorem assignNewDefaultAdapter_eq (s : Service) :
    s.assignNewDefaultAdapter =
      { s with mDefaultAdapter := s.assignNewDefaultAdapter.mDefaultAdapter } := by
  unfold assignNewDefaultAdapter
  cases (s.mAdapters.filter fun a => decide ("hci0".toList <:+: a.mObjectPath)).getLast? with
  | none => rfl
  | some adapter => rfl

@[simp] theorem assignNewDefaultAdapter_mAdapters (s : Service) :
    s.assignNewDefaultAdapter.mAdapters = s.mAdapters := by
  rw [assignNewDefaultAdapter_eq]

@[simp] theorem assignNewDefaultAdapter_mAgent (s : Service) :
    s.assignNewDefaultAdapter.mAgent = s.mAgent := by
  rw [assignNewDefaultAdapter_eq]

@[simp] theorem assignNewDefaultAdapter_mAgentManager (s : Service) :
    s.assignNewDefaultAdapter.mAgentManager = s.mAgentManager := by
  rw [assignNewDefaultAdapter_eq]

theorem createAdapter_mAdapters (s : Service) (objectPath : Text) :
    (s.createAdapter objectPath).mAdapters =
      s.mAdapters ++ [⟨s.nextSerial, objectPath, s.mAgent.map Agent.serial⟩] := by
  unfold createAdapter
  rw [assignNewDefaultAdapter_mAdapters]

@[simp] theorem createAdapter_mAgent (s : Service) (objectPath : Text) :
    (s.createAdapter objectPath).mAgent = s.mAgent := by
  unfold createAdapter
  rw [assignNewDefaultAdapter_mAgent]

@[simp] theorem createAdapter_mAgentManager (s : Service) (objectPath : Text) :
    (s.createAdapter objectPath).mAgentManager = s.mAgentManager := by
  unfold createAdapter
  rw [assignNewDefaultAdapter_mAgentManager]

theorem createAdapter_ne_nil (s : Service) (objectPath : Text) :
    (s.createAdapter objectPath).mAdapters ≠ [] := by
  rw [createAdapter_mAdapters]
  exact List.append_ne_nil_of_right_ne_nil _ (List.cons_ne_nil _ _)

@[simp] theorem removeAdapter_mAgent (s : Service) (objectPath : Text) :
    (s.removeAdapter objectPath).mAgent = s.mAgent := by
  unfold removeAdapter
  rw [assignNewDefaultAdapter_mAgent]
  cases s.mAdapters.find? fun a => a.mObjectPath == objectPath with
  | none => rfl
  | some adapter => rfl

@[simp] theorem removeAdapter_mAgentManager (s : Service) (objectPath : Text) :
    (s.removeAdapter objectPath).mAgentManager = s.mAgentManager := by
  unfold removeAdapter
  rw [assignNewDefaultAdapter_mAgentManager]
  cases s.mAdapters.find? fun a => a.mObjectPath == objectPath with
  | none => rfl
  | some adapter => rfl

theorem removeAdapter_subset (s : Service) (objectPath : Text) :
    (s.removeAdapter objectPath).mAdapters ⊆ s.mAdapters := by
  unfold removeAdapter
  rw [assignNewDefaultAdapter_mAdapters]
  cases s.mAdapters.find? fun a => a.mObjectPath == objectPath with
  | none => exact List.Subset.refl _
  | some adapter => exact fun a ha => (List.mem_filter.mp ha).1

theorem createAgentManager_mAgent (s : Service) (proxyOk : Bool) :
    (s.createAgentManager proxyOk).mAgent =
      if s.mAgentManager = false ∧ proxyOk = true then some { serial := s.nextSerial }
      else s.mAgent := by
  unfold createAgentManager assignAgent
  cases s.mAgentManager with
  | true => simp
  | false => cases proxyOk <;> simp

theorem createAgentManager_nil_iff (s : Service) (proxyOk : Bool) :
    (s.createAgentManager proxyOk).mAdapters = [] ↔ s.mAdapters = [] := by
  unfold createAgentManager assignAgent
  split_ifs
  · rfl
  · exact List.map_eq_nil_iff
  · rfl

theorem DefaultKnown.assignNew (h : s.DefaultKnown) : s.assignNewDefaultAdapter.DefaultKnown := by
  unfold assignNewDefaultAdapter
  cases hlast : (s.mAdapters.filter
      fun a => decide ("hci0".toList <:+: a.mObjectPath)).getLast? with
  | none => exact h
  | some adapter =>
      intro d hd
      cases hd
      exact ⟨adapter, (List.mem_filter.mp (List.mem_of_getLast? hlast)).1, rfl⟩

theorem DefaultKnown.createAdapter (h : s.DefaultKnown) (objectPath : Text) :
    (s.createAdapter objectPath).DefaultKnown := by
  apply DefaultKnown.assignNew
  intro d hd
  obtain ⟨a, ha, hserial⟩ := h d hd
  exact ⟨a, List.mem_append_left _ ha, hserial⟩

theorem DefaultKnown.removeAdapter (h : s.DefaultKnown) (objectPath : Text) :
    (s.removeAdapter objectPath).DefaultKnown := by
  apply DefaultKnown.assignNew
  cases s.mAdapters.find? fun a => a.mObjectPath == objectPath with
  | none => exact h
  | some adapter =>
      intro d hd
      dsimp only at hd
      split_ifs at hd with hdefault
      · cases hd
      · obtain ⟨a, ha, hserial⟩ := h d hd
        refine ⟨a, List.mem_filter.mpr ⟨ha, ?_⟩, hserial⟩
        apply decide_eq_true
        intro heq
        apply hdefault
        rw [← heq, hserial]
        exact hd

theorem DefaultKnown.assignAgent (h : s.DefaultKnown) (agent : Option ℕ) :
    (s.assignAgent agent).DefaultKnown := by
  intro d hd
  obtain ⟨a, ha, hserial⟩ := h d hd
  exact ⟨_, List.mem_map_of_mem ha, hserial⟩

theorem DefaultKnown.createAgentManager (h : s.DefaultKnown) (proxyOk : Bool) :
    (s.createAgentManager proxyOk).DefaultKnown := by
  unfold Service.createAgentManager
  split_ifs
  · exact h
  · exact DefaultKnown.assignAgent h _
  · exact h

theorem DefaultKnown.removeAgentManager (h : s.DefaultKnown) :
    s.removeAgentManager.DefaultKnown := by
  unfold Service.removeAgentManager
  split_ifs
  · exact h.assignAgent none
  · exact h

end Service

end BluezSil.Sil
