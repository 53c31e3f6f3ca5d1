import BluezSil.SilApi
import BluezSil.TransitionRun
import Mathlib.Data.List.Nodup
import Mathlib.Data.List.Count

/-!
# Confirmations of incoming object pushes

The OBEX agent hands an authorisation request to the object push profile, which announces
it to the observer under a transfer id and keeps the D-Bus invocation, the object path and
the file name in members of its own. The user's decision is given under the id and acts on
those members. It meets the request that was announced as long as no request comes in while
another one is pending.
-/

namespace BluezSil.Opp

open TransitionRun

inductive PushAnswer
  | authorized (fileName : Text)
  | rejected
  deriving DecidableEq, Repr

structure PushDetails where
  source : Text
  deviceAddress : Text
  deviceName : Text
  fileName : Text
  size : UInt64
  deriving DecidableEq, Repr

/-- `transferConfirmationRequested`, and the request it is sent for. -/
structure Announcement where
  id : UInt64
  invocation : ℕ
  objectPath : Text
  details : PushDetails
  deriving DecidableEq, Repr

inductive PushOutcome
  | transferProxyError
  | noName
  | sessionProxyError (fileName : Text)
  | unknownDevice (fileName : Text)
  | known (details : PushDetails)
  deriving DecidableEq, Repr

/-- What the agent finds out about a request before it hands it to the profile. -/
inductive AuthorizeOutcome
  | transferProxyError
  | sessionProxyError
  | noAdapter
  | noProfile
  | handled (outcome : PushOutcome)
  deriving DecidableEq, Repr

/-- Invocations are numbered as they are received. `answers` and `started` list the answers
given and the transfers started, the latest first. -/
structure ProfileOpp where
  mTranfserIdCounter : UInt64 := 0
  mInvocation : Option ℕ := none
  mTransferObjPath : Text := []
  mFileName : Text := []
  received : ℕ := 0
  answers : List (ℕ × PushAnswer) := []
  announced : List Announcement := []
  started : List (UInt64 × Text) := []
  deriving Repr

inductive OppEvent
  | authorizePush (objectPath : Text) (outcome : AuthorizeOutcome)
  | supplyTransferConfirmation (transferId : UInt64) (accept : Bool)
  deriving DecidableEq, Repr

namespace ProfileOpp

variable (s : ProfileOpp)

def answer (a : PushAnswer) : ProfileOpp :=
  match s.mInvocation with
  | some i => { s with answers := (i, a) :: s.answers, mInvocation := none }
  | none => s

/-- A request without a name has its session closed and is left without an answer. -/
def agentTransferConfirmationRequested (invocation : ℕ) (objectPath : Text)
    (outcome : PushOutcome) : ProfileOpp :=
  let transferId := s.mTranfserIdCounter + 1
  let s := { s with
    mInvocation := some invocation
    mTransferObjPath := objectPath
    mTranfserIdCounter := transferId }
  match outcome with
  | .transferProxyError => s.answer .rejected
  | .noName => s
  | .sessionProxyError fileName => answer { s with mFileName := fileName } .rejected
  | .unknownDevice fileName => answer { s with mFileName := fileName } .rejected
  | .known details =>
    { s with
      mFileName := details.fileName
      announced :=
        ⟨transferId, invocation, objectPath,
          { details with source := convertAddressToLowerCase details.source }⟩ :: s.announced }

/-- The agent rejects what it finds no proxies for. Without an adapter it calls through a
null pointer, and without a profile it does nothing. -/
def handleAuthorizePush (objectPath : Text) (outcome : AuthorizeOutcome) : ProfileOpp :=
  let invocation := s.received
  let s := { s with received := s.received + 1 }
  match outcome with
  | .transferProxyError => { s with answers := (invocation, .rejected) :: s.answers }
  | .sessionProxyError => { s with answers := (invocation, .rejected) :: s.answers }
  | .noAdapter => s
  | .noProfile => s
  | .handled outcome => s.agentTransferConfirmationRequested invocation objectPath outcome

/-- The id is not compared with the one announced. -/
def supplyTransferConfirmation (transferId : UInt64) (accept : Bool) : ProfileOpp :=
  if accept then
    answer { s with started := (transferId, s.mTransferObjPath) :: s.started }
      (.authorized s.mFileName)
  else s.answer .rejected

def step : OppEvent → Option ProfileOpp
  | .authorizePush objectPath outcome => some (s.handleAuthorizePush objectPath outcome)
  | .supplyTransferConfirmation transferId accept =>
    some (s.supplyTransferConfirmation transferId accept)

def answered : List ℕ := s.answers.map Prod.fst

def OpenUnder (transferId : UInt64) : Prop :=
  ∃ a ∈ s.announced, a.id = transferId ∧ a.invocation ∉ s.answered

/-- The decision answers what was announced under the id with its file name and starts the
transfer at its path. It does nothing under an id with nothing to answer. -/
def SuppliedTo (transferId : UInt64) (accept : Bool) (t : ProfileOpp) : Prop :=
  (∀ a ∈ s.announced, a.id = transferId → a.invocation ∉ s.answered →
    t.answers = (a.invocation,
        if accept then .authorized a.details.fileName else .rejected) :: s.answers ∧
      t.started = if accept then (transferId, a.objectPath) :: s.started else s.started) ∧
  (¬ s.OpenUnder transferId → t.answers = s.answers ∧ t.started = s.started)

/-- Every invocation received has been answered once, or has not been answered and has been
announced under an id whose decision answers it. -/
def Accounted : Prop :=
  (∀ i ∈ s.answered, i < s.received) ∧
  ∀ i < s.received, s.answered.count i = 1 ∨
    s.answered.count i = 0 ∧ ∃ a ∈ s.announced, a.invocation = i ∧
      ∀ accept, s.SuppliedTo a.id accept (s.supplyTransferConfirmation a.id accept)

/-- What a step has to keep: the requests are accounted for, and a decision has answered its
own request. -/
def Confirms (e : OppEvent) (t : ProfileOpp) : Prop :=
  t.Accounted ∧
    match e with
    | .authorizePush _ _ => True
    | .supplyTransferConfirmation transferId accept => s.SuppliedTo transferId accept t

/-- The profile gets a request only when none is pending, and the request has a name. A
decision is for an open request, or is a rejection with none pending. -/
def OneAtATime : OppEvent → Prop
  | .authorizePush _ .noAdapter => False
  | .authorizePush _ .noProfile => False
  | .authorizePush _ (.handled outcome) => s.mInvocation = none ∧ outcome ≠ .noName
  | .authorizePush _ _ => True
  | .supplyTransferConfirmation transferId accept =>
    s.OpenUnder transferId ∨ accept = false ∧ s.mInvocation = none

end ProfileOpp

def oppMachine : Machine ProfileOpp OppEvent := ⟨{}, ProfileOpp.step⟩

/-! ### The invariant -/

namespace ProfileOpp

variable {s : ProfileOpp} {i : ℕ} {a b : Announcement} {e : OppEvent}

/-- All invocations but the one kept have been answered once, and the one kept is announced
with the path and the file name kept. -/
structure Settled (s : ProfileOpp) : Prop where
  answered_lt : ∀ i ∈ s.answered, i < s.received
  once : s.answered.Nodup
  rest : ∀ i < s.received, i ∈ s.answered ∨ s.mInvocation = some i
  kept : ∀ i, s.mInvocation = some i → i < s.received ∧ i ∉ s.answered
  announced_lt : ∀ a ∈ s.announced, a.invocation < s.received
  unique : ∀ a ∈ s.announced, ∀ b ∈ s.announced, a.invocation = b.invocation → a = b
  members : ∀ i, s.mInvocation = some i → ∃ a ∈ s.announced, a.invocation = i ∧
    a.objectPath = s.mTransferObjPath ∧ a.details.fileName = s.mFileName

theorem settled_init : Settled {} where
  answered_lt := nofun
  once := List.nodup_nil
  rest := nofun
  kept := nofun
  announced_lt := nofun
  unique := nofun
  members := nofun

theorem Settled.kept_of_open (h : s.Settled) (ha : a ∈ s.announced)
    (hopen : a.invocation ∉ s.answered) :
    s.mInvocation = some a.invocation ∧ s.mTransferObjPath = a.objectPath ∧
      s.mFileName = a.details.fileName := by
  have hkept := (h.rest _ (h.announced_lt a ha)).resolve_left hopen
  obtain ⟨b, hb, hinvocation, hpath, hname⟩ := h.members _ hkept
  obtain rfl := h.unique b hb a ha hinvocation
  exact ⟨hkept, hpath.symm, hname.symm⟩

theorem supplyTransferConfirmation_of_some (hi : s.mInvocation = some i)
    (transferId : UInt64) (accept : Bool) :
    s.supplyTransferConfirmation transferId accept =
      { s with
        mInvocation := none
        answers := (i, if accept then .authorized s.mFileName else .rejected) :: s.answers
        started :=
          if accept then (transferId, s.mTransferObjPath) :: s.started else s.started } := by
  cases accept <;> simp [supplyTransferConfirmation, answer, hi]

theorem Settled.suppliedTo (h : s.Settled) {transferId : UInt64}
    (hopen : s.OpenUnder transferId) (accept : Bool) :
    s.SuppliedTo transferId accept (s.supplyTransferConfirmation transferId accept) := by
  refine ⟨fun a ha _ hunanswered => ?_, fun hnot => absurd hopen hnot⟩
  obtain ⟨hkept, hpath, hname⟩ := h.kept_of_open ha hunanswered
  rw [supplyTransferConfirmation_of_some hkept, hpath, hname]
  exact ⟨rfl, rfl⟩

theorem Settled.accounted (h : s.Settled) : s.Accounted := by
  refine ⟨h.answered_lt, fun i hi => ?_⟩
  rcases h.rest i hi with hanswered | hkept
  · exact .inl (List.count_eq_one_of_mem h.once hanswered)
  · have hunanswered := (h.kept i hkept).2
    obtain ⟨a, ha, rfl, _⟩ := h.members i hkept
    exact .inr ⟨List.count_eq_zero_of_not_mem hunanswered, a, ha, rfl,
      h.suppliedTo ⟨a, ha, rfl, hunanswered⟩⟩

/-! ### What a step keeps -/

theorem Settled.reject (h : s.Settled) {t : ProfileOpp} (hreceived : t.received = s.received + 1)
    (hanswers : t.answers = (s.received, .rejected) :: s.answers)
    (hinvocation : t.mInvocation = s.mInvocation) (hannounced : t.announced = s.announced)
    (hpath : s.mInvocation = none ∨
      t.mTransferObjPath = s.mTransferObjPath ∧ t.mFileName = s.mFileName) : t.Settled := by
  have hanswered : t.answered = s.received :: s.answered := by
    rw [answered, hanswers]
    rfl
  have hnew : s.received ∉ s.answered := fun hmem => Nat.lt_irrefl _ (h.answered_lt _ hmem)
  refine ⟨?_, ?_, ?_, ?_, ?_, ?_, ?_⟩
  · intro i hi
    rw [hanswered] at hi
    rw [hreceived]
    rcases List.mem_cons.mp hi with rfl | hi
    · exact Nat.lt_succ_self _
    · exact Nat.lt_succ_of_lt (h.answered_lt i hi)
  · rw [hanswered]
    exact List.nodup_cons.mpr ⟨hnew, h.once⟩
  · intro i hi
    rw [hreceived] at hi
    rw [hanswered, hinvocation]
    rcases Nat.lt_succ_iff_lt_or_eq.mp hi with hi | rfl
    · exact (h.rest i hi).imp_left (List.mem_cons_of_mem _)
    · exact .inl List.mem_cons_self
  · intro i hi
    rw [hinvocation] at hi
    obtain ⟨hlt, hunanswered⟩ := h.kept i hi
    rw [hreceived, hanswered, List.mem_cons, not_or]
    exact ⟨Nat.lt_succ_of_lt hlt, Nat.ne_of_lt hlt, hunanswered⟩
  · intro a ha
    rw [hannounced] at ha
    rw [hreceived]
    exact Nat.lt_succ_of_lt (h.announced_lt a ha)
  · rw [hannounced]
    exact h.unique
  · intro i hi
    rw [hinvocation] at hi
    rcases hpath with hnone | ⟨hpath, hname⟩
    · rw [hnone] at hi
      cases hi
    · rw [hannounced, hpath, hname]
      exact h.members i hi

theorem Settled.announce (h : s.Settled) (hnone : s.mInvocation = none) (objectPath : Text)
    (details : PushDetails) :
    (s.handleAuthorizePush objectPath (.handled (.known details))).Settled := by
  refine ⟨?_, h.once, ?_, ?_, ?_, ?_, ?_⟩
  · exact fun i hi => Nat.lt_succ_of_lt (h.answered_lt i hi)
  · intro i hi
    rcases Nat.lt_succ_iff_lt_or_eq.mp hi with hi | rfl
    · exact .inl ((h.rest i hi).resolve_right (by rw [hnone]; nofun))
    · exact .inr rfl
  · intro i hi
    obtain rfl := Option.some.inj hi
    exact ⟨Nat.lt_succ_self _, fun hmem => Nat.lt_irrefl _ (h.answered_lt _ hmem)⟩
  · intro a ha
    rcases List.mem_cons.mp ha with rfl | ha
    · exact Nat.lt_succ_self _
    · exact Nat.lt_succ_of_lt (h.announced_lt a ha)
  · intro a ha b hb hab
    rcases List.mem_cons.mp ha with rfl | ha <;> rcases List.mem_cons.mp hb with rfl | hb
    · rfl
    · exact absurd hab.symm (Nat.ne_of_lt (h.announced_lt b hb))
    · exact absurd hab (Nat.ne_of_lt (h.announced_lt a ha))
    · exact h.unique a ha b hb hab
  · intro i hi
    obtain rfl := Option.some.inj hi
    exact ⟨_, List.mem_cons_self, rfl, rfl, rfl⟩

theorem Settled.supply (h : s.Settled) (hi : s.mInvocation = some i) (transferId : UInt64)
    (accept : Bool) : (s.supplyTransferConfirmation transferId accept).Settled := by
  obtain ⟨hlt, hunanswered⟩ := h.kept i hi
  rw [supplyTransferConfirmation_of_some hi]
  refine ⟨?_, ?_, ?_, nofun, h.announced_lt, h.unique, nofun⟩
  · intro j hj
    rcases List.mem_cons.mp hj with rfl | hj
    · exact hlt
    · exact h.answered_lt j hj
  · exact List.nodup_cons.mpr ⟨hunanswered, h.once⟩
  · intro j hj
    rcases h.rest j hj with hanswered | hkept
    · exact .inl (List.mem_cons_of_mem _ hanswered)
    · rw [hi, Option.some.injEq] at hkept
      exact .inl (List.mem_cons.mpr (.inl hkept.symm))

theorem supply_reject_of_none (hnone : s.mInvocation = none) (transferId : UInt64) :
    s.supplyTransferConfirmation transferId false = s := by
  simp [supplyTransferConfirmation, answer, hnone]

theorem Settled.step {t : ProfileOpp} (h : s.Settled) (he : s.OneAtATime e)
    (hstep : s.step e = some t) : t.Settled := by
  cases e with
  | authorizePush objectPath outcome =>
      cases hstep
      cases outcome with
      | transferProxyError => exact h.reject rfl rfl rfl rfl (.inr ⟨rfl, rfl⟩)
      | sessionProxyError => exact h.reject rfl rfl rfl rfl (.inr ⟨rfl, rfl⟩)
      | noAdapter => exact he.elim
      | noProfile => exact he.elim
      | handled outcome =>
          obtain ⟨hnone, hname⟩ := he
          cases outcome with
          | transferProxyError => exact h.reject rfl rfl hnone.symm rfl (.inl hnone)
          | noName => exact absurd rfl hname
          | sessionProxyError fileName => exact h.reject rfl rfl hnone.symm rfl (.inl hnone)
          | unknownDevice fileName => exact h.reject rfl rfl hnone.symm rfl (.inl hnone)
          | known details => exact h.announce hnone objectPath details
  | supplyTransferConfirmation transferId accept =>
      cases hstep
      rcases he with ⟨a, ha, _, hopen⟩ | ⟨rfl, hnone⟩
      · exact h.supply (h.kept_of_open ha hopen).1 transferId accept
      · rw [supply_reject_of_none hnone]
        exact h

/-! ### The steps that go wrong -/

/-- An invocation that is neither answered nor the one kept cannot be answered any more. -/
theorem not_accounted (hi : i < s.received) (hunanswered : i ∉ s.answered)
    (hother : s.mInvocation ≠ some i) : ¬ s.Accounted := by
  intro haccounted
  rcases haccounted.2 i hi with hone | ⟨_, a, ha, rfl, hsupply⟩
  · rw [List.count_eq_zero_of_not_mem hunanswered] at hone
    cases hone
  · have hanswers := ((hsupply false).1 a ha rfl hunanswered).1
    cases hkept : s.mInvocation with
    | none =>
        rw [supply_reject_of_none hkept] at hanswers
        exact List.cons_ne_self _ _ hanswers.symm
    | some j =>
        rw [supplyTransferConfirmation_of_some hkept] at hanswers
        refine hother (hkept.trans (congrArg some ?_))
        exact congrArg Prod.fst (List.cons.inj hanswers).1

theorem not_accounted_of_unannounced (hi : i < s.received) (hunanswered : i ∉ s.answered)
    (hannounced : ∀ a ∈ s.announced, a.invocation ≠ i) : ¬ s.Accounted := by
  intro haccounted
  rcases haccounted.2 i hi with hone | ⟨_, a, ha, hai, _⟩
  · rw [List.count_eq_zero_of_not_mem hunanswered] at hone
    cases hone
  · exact hannounced a ha hai

theorem Settled.not_accounted_new (h : s.Settled) {t : ProfileOpp}
    (hreceived : t.received = s.received + 1) (hanswers : t.answers = s.answers)
    (hannounced : t.announced = s.announced) : ¬ t.Accounted := by
  refine not_accounted_of_unannounced (i := s.received) ?_ ?_ ?_
  · rw [hreceived]
    exact Nat.lt_succ_self _
  · rw [answered, hanswers]
    exact fun hmem => Nat.lt_irrefl _ (h.answered_lt _ hmem)
  · rw [hannounced]
    exact fun a ha => Nat.ne_of_lt (h.announced_lt a ha)

theorem Settled.not_accounted_replaced (h : s.Settled) (hi : s.mInvocation = some i)
    {t : ProfileOpp} (hreceived : t.received = s.received + 1)
    (hanswers : t.answers = (s.received, .rejected) :: s.answers ∧ t.mInvocation = none ∨
      t.answers = s.answers ∧ t.mInvocation = some s.received) : ¬ t.Accounted := by
  obtain ⟨hlt, hunanswered⟩ := h.kept i hi
  refine not_accounted (i := i) (by omega) ?_ ?_
  · rcases hanswers with ⟨ht, _⟩ | ⟨ht, _⟩
    · rw [answered, ht]
      exact fun hmem => (List.mem_cons.mp hmem).elim (Nat.ne_of_lt hlt) hunanswered
    · rw [answered, ht]
      exact hunanswered
  · rcases hanswers with ⟨_, ht⟩ | ⟨_, ht⟩
    · rw [ht]
      nofun
    · rw [ht, Ne, Option.some.injEq]
      exact Nat.ne_of_gt hlt

/-- A decision under an id with nothing to answer does something, unless it is a rejection
with no request pending. -/
theorem supplied_of_not_open {transferId : UInt64} {accept : Bool}
    (hopen : ¬ s.OpenUnder transferId)
    (h : s.SuppliedTo transferId accept (s.supplyTransferConfirmation transferId accept)) :
    accept = false ∧ s.mInvocation = none := by
  obtain ⟨hanswers, hstarted⟩ := h.2 hopen
  cases hkept : s.mInvocation with
  | some i =>
      rw [supplyTransferConfirmation_of_some hkept] at hanswers
      exact absurd hanswers (List.cons_ne_self _ _)
  | none =>
      cases accept with
      | false => exact ⟨rfl, rfl⟩
      | true =>
          simp only [supplyTransferConfirmation, answer, hkept, if_true] at hstarted
          exact absurd hstarted (List.cons_ne_self _ _)

theorem Settled.oneAtATime_handled (h : s.Settled) {objectPath : Text} {outcome : PushOutcome}
    (haccounted : (s.handleAuthorizePush objectPath (.handled outcome)).Accounted) :
    s.mInvocation = none ∧ outcome ≠ .noName := by
  constructor
  · by_contra hsome
    obtain ⟨i, hi⟩ := Option.ne_none_iff_exists'.mp hsome
    refine h.not_accounted_replaced hi ?_ ?_ haccounted
    · cases outcome <;> rfl
    · cases outcome with
      | transferProxyError => exact .inl ⟨rfl, rfl⟩
      | noName => exact .inr ⟨rfl, rfl⟩
      | sessionProxyError fileName => exact .inl ⟨rfl, rfl⟩
      | unknownDevice fileName => exact .inl ⟨rfl, rfl⟩
      | known details => exact .inr ⟨rfl, rfl⟩
  · rintro rfl
    exact h.not_accounted_new (t := s.handleAuthorizePush objectPath (.handled .noName)) rfl rfl
      rfl haccounted

theorem Settled.confirms_iff {t : ProfileOpp} (h : s.Settled) (hstep : s.step e = some t) :
    s.Confirms e t ↔ s.OneAtATime e := by
  constructor
  · rintro ⟨haccounted, hsupplied⟩
    cases e with
    | authorizePush objectPath outcome =>
        cases hstep
        cases outcome with
        | transferProxyError => trivial
        | sessionProxyError => trivial
        | noAdapter =>
            exact h.not_accounted_new (t := s.handleAuthorizePush objectPath .noAdapter) rfl rfl rfl
              haccounted
        | noProfile =>
            exact h.not_accounted_new (t := s.handleAuthorizePush objectPath .noProfile) rfl rfl rfl
              haccounted
        | handled outcome => exact h.oneAtATime_handled haccounted
    | supplyTransferConfirmation transferId accept =>
        cases hstep
        exact or_iff_not_imp_left.mpr fun hopen => supplied_of_not_open hopen hsupplied
  · intro he
    refine ⟨(h.step he hstep).accounted, ?_⟩
    cases e with
    | authorizePush objectPath outcome => trivial
    | supplyTransferConfirmation transferId accept =>
        cases hstep
        rcases he with hopen | ⟨rfl, hnone⟩
        · exact h.suppliedTo hopen accept
        · change s.SuppliedTo transferId false (s.supplyTransferConfirmation transferId false)
          rw [supply_reject_of_none hnone]
          refine ⟨fun a ha _ hunanswered => ?_, fun _ => ⟨rfl, rfl⟩⟩
          rw [(h.kept_of_open ha hunanswered).1] at hnone
          cases hnone

end ProfileOpp

/-- While the profile gets one request at a time, every request is answered once or can be
answered under its id, and every decision answers its own request. The first step that does
not meet the condition breaks this. -/
theorem confirmations_answer_own (s : ProfileOpp)
    (hs : oppMachine.ReachWith ProfileOpp.OneAtATime s) :
    s.Accounted ∧ ∀ e t, s.step e = some t → (s.Confirms e t ↔ s.OneAtATime e) := by
  have hsettled : s.Settled :=
    hs.invariant (P := ProfileOpp.Settled) ProfileOpp.settled_init fun _ _ _ h he hstep =>
      h.step he hstep
  exact ⟨hsettled.accounted, fun e t hstep => hsettled.confirms_iff hstep⟩

def firstPush : PushDetails :=
  ⟨"AA:00".toList, "BB:00".toList, "phone".toList, "photo.jpg".toList, 9⟩

def secondPush : PushDetails :=
  ⟨"AA:00".toList, "CC:00".toList, "tablet".toList, "notes.txt".toList, 4⟩

/-- A request that is announced and accepted. -/
theorem confirmations_answer_own_accepted : ∃ s : ProfileOpp,
    s.answers = [(0, .authorized "photo.jpg".toList)] ∧ s.started = [(1, "/t0".toList)] ∧
      s.Accounted := by
  have hrequest := Machine.ReachWith.step (M := oppMachine) (G := ProfileOpp.OneAtATime)
    (e := .authorizePush "/t0".toList (.handled (.known firstPush))) .init
    ⟨rfl, nofun⟩ rfl
  have hsupply := Machine.ReachWith.step (M := oppMachine)
    (e := .supplyTransferConfirmation 1 true) hrequest
    (.inl ⟨_, List.mem_cons_self, rfl, List.not_mem_nil⟩) rfl
  exact ⟨_, rfl, rfl, (confirmations_answer_own _ hsupply).1⟩

/-- The decision for the first of two requests answers the second one. -/
theorem confirmations_answer_own_overlap : ¬ ∀ s : ProfileOpp, oppMachine.Reach s →
    s.Accounted ∧ ∀ e t, s.step e = some t → s.Confirms e t := by
  intro h
  have hrun : ∃ t, oppMachine.run oppMachine.init
      [.authorizePush "/t0".toList (.handled (.known firstPush)),
        .authorizePush "/t1".toList (.handled (.known secondPush))] = some t ∧
      t.received = 2 ∧ t.answered = [] ∧ t.mInvocation = some 1 := ⟨_, rfl, rfl, rfl, rfl⟩
  obtain ⟨t, hrun, hreceived, hanswered, hkept⟩ := hrun
  refine ProfileOpp.not_accounted (i := 0) ?_ ?_ ?_ (h t (Machine.reach_of_run _ hrun)).1
  · rw [hreceived]
    decide
  · rw [hanswered]
    exact List.not_mem_nil
  · rw [hkept]
    decide

end BluezSil.Opp
