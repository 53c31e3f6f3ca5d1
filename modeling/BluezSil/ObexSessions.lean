import BluezSil.ObexProfile

/-!
# The sessions of an OBEX profile

A session is entered by address without replacing an entry, and its loss is reported with
the address. The two agree as long as no session is made for an address that has one.
-/

namespace BluezSil.Obex

open TransitionRun OwnedObjects

def ObexEvent.session : ObexEvent → Option ObexSession
  | .sessionCreated address objectPath => some ⟨address, objectPath⟩
  | .pushReceived deviceAddress sessionPath => some ⟨deviceAddress, sessionPath⟩
  | _ => none

namespace ObexProfile

variable {kind : ProfileKind} {s t : ObexProfile} {e : ObexEvent}

def LostAlone (kind : ProfileKind) (s : ObexProfile) : Prop :=
  ∀ p ∈ s.sessions.live, ∃ t, s.step kind (.sessionLost p) = some t ∧
    ∀ q, t.sessions.live.lookup q = if q = p then none else s.sessions.live.lookup q

/-- Every session made and not removed is stored under its address, and while there is a
profile each is lost alone. -/
def SessionsTracked (kind : ProfileKind) (s : ObexProfile) : Prop :=
  s.sessions.Tracked ObexSession.address ∧ (s.destroyed = false → s.LostAlone kind)

/-- A session is made for an address that has none. -/
def FreshSession (s : ObexProfile) (e : ObexEvent) : Prop :=
  ∀ session, e.session = some session → session.address ∉ s.sessions.table

/-! ### What a step does to the sessions -/

theorem removeSession_sessions (s : ObexProfile) (kind : ProfileKind) (address : Text) :
    (s.removeSession kind address).sessions = s.sessions.remove address ∨
      (s.removeSession kind address).sessions = s.sessions := by
  unfold removeSession
  split
  · exact .inr rfl
  · exact .inl rfl

theorem disconnect_sessions (s : ObexProfile) (kind : ProfileKind) (address : Text) :
    (s.disconnect kind address).sessions = s.sessions.remove address ∨
      (s.disconnect kind address).sessions = s.sessions := by
  cases kind with
  | map => exact .inl rfl
  | opp => exact s.removeSession_sessions .opp address
  | ftp => exact s.removeSession_sessions .ftp address
  | pbap => exact s.removeSession_sessions .pbap address

theorem propertiesChanged_sessions {p : ℕ} {properties : List TransferProperty}
    (h : s.propertiesChanged p properties = some t) : t.sessions = s.sessions := by
  unfold propertiesChanged at h
  split at h
  · split_ifs at h
    cases h
    rfl
  · split_ifs at h
    cases h
    rfl

theorem fetched_sessions {p : ℕ} {properties : Option (List TransferProperty)}
    (h : s.fetched p properties = some t) : t.sessions = s.sessions := by
  unfold fetched at h
  split_ifs at h
  dsimp only at h
  split at h
  · cases h
    cases properties <;> rfl
  · cases h
    rfl

theorem cancelTransfer_sessions (s : ObexProfile) (key : TransferKey) :
    (s.cancelTransfer key).sessions = s.sessions := by
  unfold cancelTransfer
  split
  · split_ifs <;> rfl
  · rfl

theorem cancelled_sessions {call : ℕ} {ok : Bool} (h : s.cancelled call ok = some t) :
    t.sessions = s.sessions := by
  unfold cancelled at h
  split at h
  · cases h
  · cases h
    rfl

/-- A step makes a session, or removes what is stored under an address, or does neither. -/
theorem step_sessions (h : s.step kind e = some t) :
    (∃ session, e.session = some session ∧
        t.sessions = s.sessions.make session.address session) ∨
      e.session = none ∧
        ((∃ address, t.sessions = s.sessions.remove address) ∨ t.sessions = s.sessions) := by
  cases e with
  | sessionCreated address objectPath =>
      simp only [step] at h
      split_ifs at h
      cases h
      exact .inl ⟨_, rfl, rfl⟩
  | pushReceived deviceAddress sessionPath =>
      simp only [step] at h
      split_ifs at h
      cases h
      exact .inl ⟨_, rfl, rfl⟩
  | disconnect address =>
      simp only [step] at h
      split_ifs at h
      cases h
      exact .inr ⟨rfl, (s.disconnect_sessions kind address).imp_left fun h => ⟨_, h⟩⟩
  | sessionLost session =>
      simp only [step] at h
      split_ifs at h
      obtain ⟨lost, _, rfl⟩ := Option.map_eq_some_iff.mp h
      exact .inr ⟨rfl, (s.removeSession_sessions kind lost.address).imp_left fun h => ⟨_, h⟩⟩
  | started watcher key objectPath type transferProxy propertiesProxy =>
      simp only [step] at h
      split_ifs at h
      cases h
      exact .inr ⟨rfl, .inr rfl⟩
  | propertiesChanged transfer properties =>
      exact .inr ⟨rfl, .inr (propertiesChanged_sessions h)⟩
  | fetched transfer properties => exact .inr ⟨rfl, .inr (fetched_sessions h)⟩
  | cancelTransfer key =>
      simp only [step] at h
      split_ifs at h
      cases h
      exact .inr ⟨rfl, .inr (s.cancelTransfer_sessions key)⟩
  | cancelled call ok => exact .inr ⟨rfl, .inr (cancelled_sessions h)⟩
  | destroyed =>
      simp only [step] at h
      split_ifs at h
      cases h
      exact .inr ⟨rfl, .inr rfl⟩

/-! ### The invariant -/

abbrev SessionsSound (s : ObexProfile) : Prop := s.sessions.Sound ObexSession.address

theorem SessionsSound.step (h : s.SessionsSound) (he : s.FreshSession e)
    (hstep : s.step kind e = some t) : t.SessionsSound := by
  unfold SessionsSound
  rcases step_sessions hstep with ⟨session, hmade, ht⟩ | ⟨_, ⟨address, ht⟩ | ht⟩
  · rw [ht]
    exact h.make (he session hmade)
  · rw [ht]
    exact h.remove address
  · rw [ht]
    exact h

theorem SessionsSound.lostAlone (h : s.SessionsSound) (hd : s.destroyed = false) :
    s.LostAlone kind := by
  intro p hp
  obtain ⟨lost, hlost⟩ := KeyedMap.exists_lookup hp
  have hstored := h.tracked p lost hlost
  have hfind : s.sessions.find lost.address = some lost := by
    rw [OwnedObjects.find, hstored, Option.bind_some, hlost]
  have hsessions : (s.removeSession kind lost.address).sessions =
      (s.sessions.eraseKey lost.address).delete p := by
    rw [removeSession, hfind]
    exact remove_of_lookup hstored
  refine ⟨s.removeSession kind lost.address, ?_, fun q => ?_⟩
  · rw [ObexProfile.step, if_neg (by rw [hd]; exact Bool.false_ne_true), hlost, Option.map_some]
  · rw [hsessions]
    split_ifs with hq
    · subst hq
      exact lookup_delete_self _ _
    · exact lookup_delete_ne hq

theorem SessionsSound.sessionsTracked (h : s.SessionsSound) : s.SessionsTracked kind :=
  ⟨h.tracked, h.lostAlone⟩

/-- A session made for an address that has one is not stored. -/
theorem SessionsSound.sessionsTracked_step_iff (h : s.SessionsSound)
    (hstep : s.step kind e = some t) : t.SessionsTracked kind ↔ s.FreshSession e := by
  refine ⟨fun ht session hmade hmem => ?_, fun he => (h.step he hstep).sessionsTracked⟩
  rcases step_sessions hstep with ⟨made, hmade', hsessions⟩ | ⟨hnone, _⟩
  · rw [hmade, Option.some.injEq] at hmade'
    subst hmade'
    have htracked := ht.1
    rw [hsessions] at htracked
    exact h.not_tracked_make hmem htracked
  · rw [hnone] at hmade
    cases hmade

end ObexProfile

/-- While each session is made for an address that has none, every session is stored under
its address and is lost alone. The first session made for an address that has one is not
stored. -/
theorem sessions_tracked (kind : ProfileKind) (s : ObexProfile)
    (hs : (obexMachine kind).ReachWith ObexProfile.FreshSession s) :
    s.SessionsTracked kind ∧
      ∀ e t, s.step kind e = some t → (t.SessionsTracked kind ↔ s.FreshSession e) := by
  have hsound : s.SessionsSound :=
    hs.invariant (P := ObexProfile.SessionsSound) sound_empty fun _ _ _ h he hstep =>
      h.step he hstep
  exact ⟨hsound.sessionsTracked, fun e t hstep => hsound.sessionsTracked_step_iff hstep⟩

/-- Of two sessions one is lost, and its address has another one then. -/
theorem sessions_tracked_two : ∃ s : ObexProfile,
    (obexMachine .opp).ReachWith ObexProfile.FreshSession s ∧
    s.sessions.live.lookup 1 = some ⟨"CC:DD".toList, "/session1".toList⟩ ∧
    s.sessions.live.lookup 2 = some ⟨"AA:BB".toList, "/session2".toList⟩ ∧
    s.SessionsTracked .opp := by
  have hcreated {s : ObexProfile} {address objectPath : Text} (hnew : address ∉ s.sessions.table) :
      s.FreshSession (.sessionCreated address objectPath) := by
    intro session hmade
    cases hmade
    exact hnew
  have hpushed : ObexProfile.FreshSession (obexMachine .opp).init
      (.pushReceived "AA:BB".toList "/session0".toList) :=
    fun session _ => AList.notMem_empty session.address
  have hreach := Machine.ReachWith.step (M := obexMachine .opp)
    (e := .sessionCreated "AA:BB".toList "/session2".toList)
    (.step (e := .sessionLost 0)
      (.step (e := .sessionCreated "CC:DD".toList "/session1".toList)
        (.step .init hpushed rfl) (hcreated (by decide)) rfl)
      (fun session hmade => nomatch hmade) rfl)
    (hcreated (by decide)) rfl
  exact ⟨_, hreach, rfl, rfl, (sessions_tracked .opp _ hreach).1⟩

/-- The second session for an address is not stored. -/
theorem sessions_tracked_repeated : ¬ ∀ s : ObexProfile, (obexMachine .opp).Reach s →
    s.SessionsTracked .opp := by
  intro h
  have hrun : ∃ t, (obexMachine .opp).run (obexMachine .opp).init
      [.sessionCreated "AA:BB".toList "/session0".toList,
        .sessionCreated "AA:BB".toList "/session1".toList] = some t ∧
      t.sessions.live.lookup 1 = some ⟨"AA:BB".toList, "/session1".toList⟩ ∧
      t.sessions.table.lookup "AA:BB".toList = some 0 := ⟨_, rfl, by decide⟩
  obtain ⟨t, hrun, hlive, htable⟩ := hrun
  have htracked := (h t (Machine.reach_of_run _ hrun)).1 1 _ hlive
  rw [htable] at htracked
  cases htracked

end BluezSil.Obex
