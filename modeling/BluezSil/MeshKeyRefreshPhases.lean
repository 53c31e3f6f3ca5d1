import BluezSil.MeshKeyRefreshRuns

/-!
# The phases of a key refresh and the provisioner

A run keeps the phase discipline if each `KR_PHASE_SET` follows a successful
`set_key_phase` for its phase, the provisioner enters phase 3 after phase 2 only,
and completion is reported after both. `setKeyRefreshPhase` goes on when
`set_key_phase` has failed, so a run keeps the discipline exactly when neither
call fails.
-/

namespace BluezSil.Mesh

open CallProgram Program

/-- `set_key_phase` for the phase has succeeded among the calls listed. -/
def PhaseSet (netKeyIndex phase : UInt16) (before : RefreshTrace) : Prop :=
  ⟨.setKeyPhase netKeyIndex phase, (none : Reply)⟩ ∈ before

/-- What the calls made before must contain for the next one to be in order. -/
def PhaseAllowed (netKeyIndex : UInt16) (before : RefreshTrace) :
    Answered RefreshAnswer → Prop
  | ⟨.configSet _ .krPhaseSet args, _⟩ =>
    ∃ phase : UInt16, phase.toUInt8 = args.phase ∧ PhaseSet netKeyIndex phase before
  | ⟨.setKeyPhase _ phase, none⟩ => phase = 3 → PhaseSet netKeyIndex 2 before
  | ⟨.keyRefreshResult report, _⟩ => report.status = "completed" →
    PhaseSet netKeyIndex 2 before ∧ PhaseSet netKeyIndex 3 before
  | _ => True

def DisciplineFrom (netKeyIndex : UInt16) (before t : RefreshTrace) : Prop :=
  ∀ t₁ e t₂, t = t₁ ++ e :: t₂ → PhaseAllowed netKeyIndex (before ++ t₁) e

def PhaseDiscipline (netKeyIndex : UInt16) (t : RefreshTrace) : Prop :=
  DisciplineFrom netKeyIndex [] t

section Discipline

variable {net phase : UInt16} {before before' t s : RefreshTrace} {e : Answered RefreshAnswer}

theorem PhaseSet.mono (h : PhaseSet net phase before) (hsub : before ⊆ before') :
    PhaseSet net phase before' := hsub h

theorem disciplineFrom_nil : DisciplineFrom net before [] := by
  intro t₁ e t₂ heq
  simp at heq

theorem DisciplineFrom.cons (he : PhaseAllowed net before e)
    (ht : DisciplineFrom net (before ++ [e]) t) : DisciplineFrom net before (e :: t) := by
  intro t₁ e' t₂ heq
  cases t₁ with
  | nil =>
      obtain ⟨rfl, _⟩ := List.cons.inj heq
      rwa [List.append_nil]
  | cons d t₁ =>
      obtain ⟨rfl, htail⟩ := List.cons.inj heq
      have hnext := ht t₁ e' t₂ htail
      rwa [List.append_assoc] at hnext

theorem DisciplineFrom.append (ht : DisciplineFrom net before t)
    (hs : DisciplineFrom net (before ++ t) s) : DisciplineFrom net before (t ++ s) := by
  induction t generalizing before with
  | nil => rwa [List.append_nil] at hs
  | cons e t ih =>
      have he : PhaseAllowed net before e := by
        have hfirst := ht [] e t rfl
        rwa [List.append_nil] at hfirst
      refine DisciplineFrom.cons he (ih ?_ ?_)
      · intro t₁ e' t₂ heq
        have hnext := ht (e :: t₁) e' t₂ (by rw [heq]; rfl)
        rwa [List.append_assoc]
      · rwa [List.append_assoc]

theorem DisciplineFrom.of_append (h : DisciplineFrom net before (t ++ s)) :
    DisciplineFrom net before t := by
  intro t₁ e t₂ heq
  refine h t₁ e (t₂ ++ s) ?_
  rw [heq, List.append_assoc]
  rfl

theorem DisciplineFrom.of_append_right (h : DisciplineFrom net before (t ++ s)) :
    DisciplineFrom net (before ++ t) s := by
  intro t₁ e t₂ heq
  have hlater := h (t ++ t₁) e t₂ (by rw [heq, List.append_assoc])
  rwa [← List.append_assoc] at hlater

def RefreshCall.isPhaseless : RefreshCall → Prop
  | .configSet _ config _ => config ≠ .krPhaseSet
  | .setKeyPhase _ _ => False
  | .keyRefreshResult report => report.status ≠ "completed"
  | _ => True

theorem PhaseAllowed.of_phaseless (h : e.1.isPhaseless) : PhaseAllowed net before e := by
  obtain ⟨c, r⟩ := e
  cases c with
  | configSet dest config args =>
      cases config with
      | krPhaseSet => exact absurd rfl h
      | _ => trivial
  | setKeyPhase => exact h.elim
  | keyRefreshResult report => exact fun hdone => absurd hdone h
  | _ => trivial

theorem disciplineFrom_of_phaseless (h : ∀ e ∈ t, e.1.isPhaseless) :
    DisciplineFrom net before t := by
  intro t₁ e t₂ heq
  refine PhaseAllowed.of_phaseless (h e ?_)
  rw [heq]
  exact List.mem_append_right _ List.mem_cons_self

theorem not_phaseSet_of_phaseless (h : ∀ e ∈ t, e.1.isPhaseless) : ¬ PhaseSet net phase t :=
  fun hmem => h _ hmem

end Discipline

/-! ### The parts of a run -/

theorem calls_deleteRemoteNode {P : RefreshCall → Prop} (address : UInt16) (count : UInt8)
    (h : P (.deleteRemoteNode address count)) :
    (deleteRemoteNodeFromLocalKeyDatabase address count).Calls P := by
  refine (calls_perform h).bind fun error => ?_
  cases error <;> exact calls_pure _

theorem phaseless_active {r : KeyRefreshReport} (h : r.status = "active") :
    (RefreshCall.keyRefreshResult r).isPhaseless := by
  change r.status ≠ "completed"
  rw [h]
  decide

theorem phaseless_removeBlackListedNode (address : UInt16) (nodes : List BleMeshNode) :
    (removeBlackListedNode address nodes).Calls RefreshCall.isPhaseless := by
  induction nodes with
  | nil => exact calls_pure _
  | cons node nodes ih =>
      rw [removeBlackListedNode]
      split_ifs
      · exact (calls_deleteRemoteNode _ _ trivial).bind fun _ => ih
      · exact ih.bind fun _ => calls_pure _

theorem phaseless_removeBlackListedNodes (blackListed : List UInt16) (nodes : List BleMeshNode) :
    (removeBlackListedNodes blackListed nodes).Calls RefreshCall.isPhaseless := by
  induction blackListed generalizing nodes with
  | nil => exact calls_pure _
  | cons address blackListed ih =>
      exact (phaseless_removeBlackListedNode address nodes).bind fun rest => ih rest

theorem phaseless_distributeNetKey (net : UInt16) (waitTime : ℤ) (nodes : List BleMeshNode) :
    (distributeNetKey net waitTime nodes).Calls RefreshCall.isPhaseless := by
  induction nodes with
  | nil => exact calls_pure _
  | cons node nodes ih =>
      refine (calls_perform (c := RefreshCall.configSet _ _ _) ConfigName.noConfusion).bind
        fun btError => ?_
      split_ifs
      · refine (calls_deleteRemoteNode _ _ trivial).bind fun _ => ?_
        exact (calls_perform (c := RefreshCall.keyRefreshResult _) (phaseless_active rfl)).bind
          fun _ => ih
      · exact ih.bind fun _ => calls_pure _

theorem phaseless_sendAppKeyUpdate (net : UInt16) (waitTime : ℤ) (i address : UInt16) :
    (sendAppKeyUpdate net waitTime i address).Calls RefreshCall.isPhaseless := by
  refine (calls_perform (c := RefreshCall.configSet _ _ _) ConfigName.noConfusion).bind
    fun btError => ?_
  split_ifs
  · exact calls_perform (c := RefreshCall.keyRefreshResult _) (phaseless_active rfl)
  · exact calls_pure _

theorem phaseless_distributeAppKey (nodes : List BleMeshNode) (net : UInt16) (waitTime : ℤ)
    (i : UInt16) : (distributeAppKey nodes net waitTime i).Calls RefreshCall.isPhaseless := by
  refine (calls_perform (c := RefreshCall.updateAppKey _) trivial).bind fun error => ?_
  cases error with
  | some message => exact calls_pure _
  | none =>
      refine (phaseless_sendAppKeyUpdate net waitTime i _).bind fun _ =>
        calls_forEach fun node => ?_
      split_ifs
      · exact phaseless_sendAppKeyUpdate net waitTime i _
      · exact calls_pure _

/-- The calls after `set_key_phase` in a phase: its report, and the messages to the
local node and the nodes of the list. -/
def RefreshCall.isPhaseSend (phase : UInt16) : RefreshCall → Prop
  | .configSet _ config args => config = .krPhaseSet ∧ args.phase = phase.toUInt8
  | _ => False

section Phase

variable {net phase : UInt16} {nodes : List BleMeshNode} {before t : RefreshTrace} {error : Reply}

/-- A run of one phase: the answer of `set_key_phase`, the report, and at least
the message to the local node. -/
structure PhaseRun (net phase : UInt16) (error : Reply) (t : RefreshTrace) where
  report : KeyRefreshReport
  send : Answered RefreshAnswer
  sends : RefreshTrace
  trace_eq : t = ⟨.setKeyPhase net phase, error⟩ :: ⟨.keyRefreshResult report, ()⟩ :: send :: sends
  active : report.status = "active"
  phase_sends : ∀ e ∈ send :: sends, e.1.isPhaseSend phase

theorem phaseRun_of_run (h : Run (setKeyRefreshPhase net phase nodes) t ()) :
    ∃ error, Nonempty (PhaseRun net phase error t) := by
  obtain ⟨error, r, e, t', rfl, hactive, hloop⟩ := run_setKeyRefreshPhase h
  have hcalls : (Program.forEach nodes fun node =>
      sendKrPhaseSet net phase node.primaryElementAddress).Calls
        (RefreshCall.isPhaseSend phase) :=
    calls_forEach fun node =>
      (calls_perform (c := RefreshCall.configSet _ _ _) ⟨rfl, rfl⟩).bind fun _ => calls_pure _
  refine ⟨error, ⟨⟨r, _, t', rfl, hactive, fun e he => ?_⟩⟩⟩
  rcases List.mem_cons.mp he with rfl | he
  · exact ⟨rfl, rfl⟩
  · exact hcalls.run hloop e he

theorem PhaseRun.phaseSet_iff (p : PhaseRun net phase error t) {q : UInt16} :
    PhaseSet net q t ↔ q = phase ∧ error = none := by
  rw [PhaseSet, p.trace_eq, List.mem_cons, List.mem_cons]
  constructor
  · rintro (heq | heq | hmem)
    · cases heq
      exact ⟨rfl, rfl⟩
    · cases heq
    · exact (p.phase_sends _ hmem).elim
  · rintro ⟨rfl, rfl⟩
    exact Or.inl rfl

theorem disciplineFrom_of_sends (hset : PhaseSet net phase before)
    (h : ∀ e ∈ t, e.1.isPhaseSend phase) : DisciplineFrom net before t := by
  intro t₁ e t₂ heq
  have hsend := h e (by rw [heq]; exact List.mem_append_right _ List.mem_cons_self)
  obtain ⟨c, r⟩ := e
  cases c with
  | configSet dest config args =>
      obtain ⟨rfl, hphase⟩ := hsend
      exact ⟨phase, hphase.symm, hset.mono (List.subset_append_left _ _)⟩
  | _ => exact hsend.elim

theorem PhaseRun.discipline (p : PhaseRun net phase none t)
    (horder : phase = 3 → PhaseSet net 2 before) : DisciplineFrom net before t := by
  rw [p.trace_eq]
  refine DisciplineFrom.cons horder (DisciplineFrom.cons ?_ ?_)
  · exact PhaseAllowed.of_phaseless (phaseless_active p.active)
  · refine disciplineFrom_of_sends ?_ p.phase_sends
    exact List.mem_append_left _ (List.mem_append_right _ List.mem_cons_self)

/-- A phase that keeps the discipline has set the phase, unless it was set before. -/
theorem PhaseRun.phaseSet_of_discipline (p : PhaseRun net phase error t)
    (h : DisciplineFrom net before t)
    (hbefore : ∀ q : UInt16, q.toUInt8 = phase.toUInt8 → ¬ PhaseSet net q before) :
    error = none := by
  have hallowed := h [⟨.setKeyPhase net phase, error⟩, ⟨.keyRefreshResult p.report, ()⟩] p.send
    p.sends p.trace_eq
  have hsend := p.phase_sends p.send List.mem_cons_self
  generalize p.send = e at hallowed hsend
  obtain ⟨c, r⟩ := e
  cases c with
  | configSet dest config args =>
      obtain ⟨rfl, hphase⟩ := hsend
      obtain ⟨q, hq, hset⟩ := hallowed
      rw [hphase] at hq
      rcases List.mem_append.mp hset with hset | hset
      · exact absurd hset (hbefore q hq)
      · rcases List.mem_cons.mp hset with heq | hmem
        · cases heq
          rfl
        · cases List.mem_singleton.mp hmem
  | _ => exact hsend.elim

end Phase

namespace RefreshParts

variable {a : RefreshArgs} (p : RefreshParts a)

def beforePhases : RefreshTrace :=
  ⟨.updateSubnet a.netKeyIndex, none⟩ :: (p.start ++ (p.black ++ (p.netKey ++ (p.appKeys ++
    [⟨.sleep (a.waitTime + ConfigClient.respondWaitDuration), ()⟩]))))

theorem trace_eq_phases : p.trace = p.beforePhases ++ (p.phase₂ ++ (⟨.sleep a.waitTime, ()⟩ ::
    (p.phase₃ ++ [⟨.sleep a.waitTime, ()⟩, ⟨.keyRefreshResult (completedReport a), ()⟩]))) := by
  simp [trace, beforePhases, List.append_assoc]

theorem phaseless_beforePhases : ∀ e ∈ p.beforePhases, e.1.isPhaseless := by
  have hstart := (calls_startRefresh (P := RefreshCall.isPhaseless) a trivial trivial
    fun r hr => hr).run p.run_start
  have hblack := (phaseless_removeBlackListedNodes _ _).run p.run_black
  have hnet := (phaseless_distributeNetKey _ _ _).run p.run_netKey
  have happ : ∀ e ∈ p.appKeys, e.1.isPhaseless := by
    have hrun := p.run_appKeys
    split_ifs at hrun
    · exact (calls_forEach fun i => phaseless_distributeAppKey _ _ _ i).run hrun
    · rw [(run_pure_iff.mp hrun).1]
      exact fun e he => absurd he List.not_mem_nil
  intro e he
  simp only [beforePhases, List.mem_cons, List.mem_append, List.not_mem_nil, or_false] at he
  rcases he with rfl | he | he | he | he | rfl
  · trivial
  · exact hstart e he
  · exact hblack e he
  · exact hnet e he
  · exact happ e he
  · trivial

theorem phaseSet_trace (q : UInt16) : PhaseSet a.netKeyIndex q p.trace ↔
    PhaseSet a.netKeyIndex q p.phase₂ ∨ PhaseSet a.netKeyIndex q p.phase₃ := by
  have hbefore : ¬ PhaseSet a.netKeyIndex q p.beforePhases :=
    not_phaseSet_of_phaseless p.phaseless_beforePhases
  rw [PhaseSet] at hbefore
  simp only [PhaseSet, p.trace_eq_phases, List.mem_append, List.mem_cons, List.not_mem_nil,
    or_false, hbefore, false_or, Sigma.mk.injEq, reduceCtorEq, false_and]

theorem discipline_iff : PhaseDiscipline a.netKeyIndex p.trace ↔
    PhaseSet a.netKeyIndex 2 p.trace ∧ PhaseSet a.netKeyIndex 3 p.trace := by
  obtain ⟨error₂, ⟨p₂⟩⟩ := phaseRun_of_run p.run_phase₂
  obtain ⟨error₃, ⟨p₃⟩⟩ := phaseRun_of_run p.run_phase₃
  have hbefore : ∀ q, ¬ PhaseSet a.netKeyIndex q p.beforePhases :=
    fun q => not_phaseSet_of_phaseless p.phaseless_beforePhases
  have hset₂ : PhaseSet a.netKeyIndex 2 p.trace ↔ error₂ = none := by
    rw [p.phaseSet_trace, p₂.phaseSet_iff, p₃.phaseSet_iff]
    simp
  have hset₃ : PhaseSet a.netKeyIndex 3 p.trace ↔ error₃ = none := by
    rw [p.phaseSet_trace, p₂.phaseSet_iff, p₃.phaseSet_iff]
    simp
  rw [hset₂, hset₃, PhaseDiscipline, p.trace_eq_phases]
  constructor
  · intro h
    have hphase₂ := h.of_append_right.of_append
    have hphase₃ := (h.of_append_right.of_append_right.of_append_right
      (t := [⟨.sleep a.waitTime, ()⟩])).of_append
    refine ⟨p₂.phaseSet_of_discipline hphase₂ fun q _ => hbefore q, ?_⟩
    refine p₃.phaseSet_of_discipline hphase₃ fun q hq hset => ?_
    -- only phase 2 can have been set before
    have hset' : PhaseSet a.netKeyIndex q p.phase₂ := by
      have hno := hbefore q
      rw [PhaseSet] at hno
      simpa only [PhaseSet, List.nil_append, List.mem_append, List.mem_singleton, hno, false_or,
        Sigma.mk.injEq, reduceCtorEq, false_and, or_false] using hset
    obtain ⟨rfl, _⟩ := p₂.phaseSet_iff.mp hset'
    exact absurd hq (by decide)
  · rintro ⟨rfl, rfl⟩
    have hdone₂ : PhaseSet a.netKeyIndex 2 p.phase₂ := p₂.phaseSet_iff.mpr ⟨rfl, rfl⟩
    have hdone₃ : PhaseSet a.netKeyIndex 3 p.phase₃ := p₃.phaseSet_iff.mpr ⟨rfl, rfl⟩
    refine DisciplineFrom.append (disciplineFrom_of_phaseless p.phaseless_beforePhases) ?_
    refine DisciplineFrom.append (p₂.discipline fun h => absurd h (by decide)) ?_
    refine DisciplineFrom.cons trivial (DisciplineFrom.append (p₃.discipline fun _ => ?_) ?_)
    · exact hdone₂.mono fun e he => by simp [he]
    · refine DisciplineFrom.cons trivial
        (DisciplineFrom.cons (fun _ => ⟨?_, ?_⟩) disciplineFrom_nil)
      · exact hdone₂.mono fun e he => by simp [he]
      · exact hdone₃.mono fun e he => by simp [he]

end RefreshParts

/-- A run in which `set_key_phase` has not failed can be completed to one that
keeps the discipline. -/
theorem phaseDiscipline_of_noFailure {a : RefreshArgs} {t : RefreshTrace}
    (h : Run (keyRefresh a) t ())
    (hset : ∀ phase message, ⟨.setKeyPhase a.netKeyIndex phase, some message⟩ ∉ t) :
    PhaseDiscipline a.netKeyIndex t := by
  rcases run_keyRefresh h with ⟨message, rfl⟩ | ⟨p, rfl⟩
  · exact DisciplineFrom.cons trivial (DisciplineFrom.cons trivial disciplineFrom_nil)
  · have hnone : ∀ {phase error t}, PhaseRun a.netKeyIndex phase error t → t ⊆ p.trace →
        PhaseSet a.netKeyIndex phase p.trace := by
      intro phase error t q hsub
      have hmem : ⟨.setKeyPhase a.netKeyIndex phase, error⟩ ∈ p.trace :=
        hsub (by rw [q.trace_eq]; exact List.mem_cons_self)
      cases error with
      | none => exact hmem
      | some message => exact absurd hmem (hset phase message)
    obtain ⟨error₂, ⟨p₂⟩⟩ := phaseRun_of_run p.run_phase₂
    obtain ⟨error₃, ⟨p₃⟩⟩ := phaseRun_of_run p.run_phase₃
    refine p.discipline_iff.mpr ⟨hnone p₂ fun e he => ?_, hnone p₃ fun e he => ?_⟩
    · rw [p.trace_eq_phases]
      simp [he]
    · rw [p.trace_eq_phases]
      simp [he]

/-- A complete run keeps the phase discipline exactly when the subnet could not be
updated or both calls of `set_key_phase` have succeeded; a run in progress keeps it
as long as none of them has failed. -/
theorem keyRefresh_phaseDiscipline (a : RefreshArgs) :
    (∀ t, Run (keyRefresh a) t () → (PhaseDiscipline a.netKeyIndex t ↔
      (∃ message t', t = ⟨.updateSubnet a.netKeyIndex, some message⟩ :: t') ∨
        PhaseSet a.netKeyIndex 2 t ∧ PhaseSet a.netKeyIndex 3 t)) ∧
    (∀ t q, Steps (keyRefresh a) t q →
      (∀ phase message, ⟨.setKeyPhase a.netKeyIndex phase, some message⟩ ∉ t) →
      PhaseDiscipline a.netKeyIndex t) := by
  constructor
  · intro t h
    rcases run_keyRefresh h with ⟨message, rfl⟩ | ⟨p, rfl⟩
    · refine iff_of_true ?_ (Or.inl ⟨message, _, rfl⟩)
      exact DisciplineFrom.cons trivial (DisciplineFrom.cons trivial disciplineFrom_nil)
    · rw [p.discipline_iff]
      refine ⟨Or.inr, fun h => h.resolve_left ?_⟩
      rintro ⟨message, t', heq⟩
      cases (List.cons.inj heq).1
  · intro t q hsteps hset
    have hrun := hsteps.run (run_follow allSucceed q)
    refine (phaseDiscipline_of_noFailure hrun fun phase message hmem => ?_).of_append
    rcases List.mem_append.mp hmem with hmem | hmem
    · exact hset phase message hmem
    · have hreply := follow_answers allSucceed q _ hmem
      exact Option.some_ne_none _ hreply

def refreshNone : RefreshArgs where
  refreshAppKeys := false
  appKeyIndexesToRefresh := []
  blackListedNodes := []
  nodes := []
  netKeyIndex := 0
  waitTime := 0

def refreshTwo : RefreshArgs :=
  { refreshNone with
    refreshAppKeys := true
    appKeyIndexesToRefresh := [7]
    blackListedNodes := [5]
    nodes := [⟨3, 2, [7]⟩, ⟨4, 1, [7]⟩, ⟨5, 1, []⟩] }

/-- Every call succeeds, and a node is told of the last phase. -/
theorem keyRefresh_phaseDiscipline_two :
    PhaseDiscipline 0 ((keyRefresh refreshTwo).follow allSucceed).1 ∧
      ⟨.configSet 4 .krPhaseSet { netKeyIndex := 0, numberOfElements := 0, phase := 3 }, .none⟩ ∈
        ((keyRefresh refreshTwo).follow allSucceed).1 := by
  refine ⟨((keyRefresh_phaseDiscipline refreshTwo).1 _ (run_follow allSucceed _)).mpr
    (Or.inr ⟨?_, ?_⟩), ?_⟩
  · exact List.mem_of_getElem? (i := 13) rfl
  · exact List.mem_of_getElem? (i := 19) rfl
  · exact List.mem_of_getElem? (i := 23) rfl

def phasesFail : (c : RefreshCall) → RefreshAnswer c
  | .setKeyPhase _ _ => some "Failed"
  | c => allSucceed c

/-- The local node is sent phase 2 although the provisioner has refused it. -/
theorem keyRefresh_ignores_failed_phase :
    ¬ ∀ a t, Run (keyRefresh a) t () → PhaseDiscipline a.netKeyIndex t := by
  intro h
  have hrun := run_follow phasesFail (keyRefresh refreshNone)
  obtain ⟨phase, _, hset⟩ := h refreshNone _ hrun
    (((keyRefresh refreshNone).follow phasesFail).1.take 8) _ _ rfl
  have hreply := follow_answers phasesFail (keyRefresh refreshNone) _ (List.mem_of_mem_take hset)
  exact Option.some_ne_none _ hreply.symm

end BluezSil.Mesh
