import Mathlib.Data.List.Nodup
import BluezSil.SilApi
import BluezSil.TransitionRun

/-!
# The addressed AVRCP player

The media players of a remote device are kept in the order in which they were added, each with
a flag for being addressed, beside a pointer to the player that commands are sent to. A new
player is addressed as it is added, and the pointer is cleared with the first flagged player
that is deleted.
-/

namespace BluezSil.Avrcp

open TransitionRun

/-- A player object, which is known by its pointer. The path and the flag are those of its
player info. -/
structure Bluez5MediaPlayer where
  pointer : ℕ
  path : Text
  addressed : Bool := false
  deriving DecidableEq

def Bluez5MediaPlayer.setAddressed (player : Bluez5MediaPlayer) (addressed : Bool) :
    Bluez5MediaPlayer :=
  { player with addressed := addressed }

inductive PlayerReport
  /-- The path and the flag of each player. -/
  | playerInfoReceived (playerInfoList : List (Text × Bool))
  | currentFolderReceived (folder : Text)
  deriving DecidableEq

/-- The players of the profile with what has been told of them, latest first, the players that
have been added and not removed, and the one that was added last. -/
structure MediaPlayers where
  mMediaPlayerList : List Bluez5MediaPlayer := []
  mAddressedMediaPlayer : Option ℕ := none
  reports : List PlayerReport := []
  present : List (ℕ × Text) := []
  recent : Option ℕ := none
  deriving DecidableEq

inductive PlayerEvent
  | addMediaPlayer (pointer : ℕ) (objectPath : Text)
  | removeMediaPlayer (playerPath : Text)

namespace MediaPlayers

section Operations

variable (s : MediaPlayers)

def playerInfoList : List (Text × Bool) :=
  s.mMediaPlayerList.map fun player => (player.path, player.addressed)

def updatePlayerInfo : MediaPlayers :=
  { s with reports := .playerInfoReceived s.playerInfoList :: s.reports }

def addressedPlayerChanged (playerPath : Text) : MediaPlayers :=
  let s := updatePlayerInfo
    { s with
      mMediaPlayerList := s.mMediaPlayerList.map fun player =>
        player.setAddressed (player.path = playerPath)
      mAddressedMediaPlayer := s.mMediaPlayerList.foldl (fun addressed player =>
        if player.path = playerPath then some player.pointer else addressed)
        s.mAddressedMediaPlayer }
  { s with reports := .currentFolderReceived [] :: s.reports }

/-- Adds a new object, which `new` has put at `pointer`. -/
def addMediaPlayer (pointer : ℕ) (objectPath : Text) : MediaPlayers :=
  addressedPlayerChanged
    { s with mMediaPlayerList := s.mMediaPlayerList ++ [⟨pointer, objectPath, false⟩] } objectPath

def removeMediaPlayer (playerPath : Text) : MediaPlayers :=
  updatePlayerInfo <|
    match s.mMediaPlayerList.find? (·.path = playerPath) with
    | some player =>
      { s with
        mAddressedMediaPlayer := if player.addressed then none else s.mAddressedMediaPlayer
        mMediaPlayerList := s.mMediaPlayerList.eraseP (·.path = playerPath) }
    | none => s

/-- The player that a command is sent to, from `setPlayerApplicationSettingsProperties` to
`search`: each of them is refused unless this side is the controller and a player addressed. -/
def commandPlayer (mConnectedController : Bool) : Option ℕ :=
  if mConnectedController then s.mAddressedMediaPlayer else none

end Operations

/-- A new object is put where no live one is, which may be where a deleted one was. A removal is
that of the first player with the path. -/
def step (s : MediaPlayers) : PlayerEvent → Option MediaPlayers
  | .addMediaPlayer pointer objectPath =>
      if pointer ∈ s.mMediaPlayerList.map Bluez5MediaPlayer.pointer then none
      else
        some
          { s.addMediaPlayer pointer objectPath with
            present := s.present ++ [(pointer, objectPath)]
            recent := some pointer }
  | .removeMediaPlayer playerPath =>
      some
        { s.removeMediaPlayer playerPath with
          present := s.present.eraseP (·.2 = playerPath) }

/-- The list is that of the players added and not removed. -/
def Listed (s : MediaPlayers) : Prop :=
  s.mMediaPlayerList.map (fun player => (player.pointer, player.path)) = s.present

def Present (s : MediaPlayers) (pointer : ℕ) : Prop := ∃ path, (pointer, path) ∈ s.present

def Live (s : MediaPlayers) (pointer : ℕ) : Prop :=
  ∃ player ∈ s.mMediaPlayerList, player.pointer = pointer

/-- The pointer is null or that of a flagged player in the list. -/
def AddressesFlagged (s : MediaPlayers) : Prop :=
  ∀ pointer, s.mAddressedMediaPlayer = some pointer →
    ∃ player ∈ s.mMediaPlayerList, player.pointer = pointer ∧ player.addressed = true

def CommandsLive (s : MediaPlayers) : Prop :=
  ∀ mConnectedController pointer,
    s.commandPlayer mConnectedController = some pointer → s.Present pointer

def PathsDistinct (s : MediaPlayers) : Prop := (s.present.map Prod.snd).Nodup

instance (s : MediaPlayers) : Decidable s.PathsDistinct := by
  unfold PathsDistinct
  infer_instance

def OneFlagged (s : MediaPlayers) : Prop :=
  (s.mMediaPlayerList.filter Bluez5MediaPlayer.addressed).length ≤ 1

/-- The player addressed is the one added last, as long as it has not been removed. -/
def AddressesRecent (s : MediaPlayers) : Prop :=
  ∀ pointer, s.mAddressedMediaPlayer = some pointer ↔ s.recent = some pointer ∧ s.Present pointer

def PointersDistinct (s : MediaPlayers) : Prop :=
  (s.mMediaPlayerList.map Bluez5MediaPlayer.pointer).Nodup

variable {s t : MediaPlayers}

/-- What a step does. A new player is the last of the list and the one addressed, and the flags
are then those of the players with its path; or the first player with a path is deleted; or no
player has the path. -/
theorem step_cases {e : PlayerEvent} (hstep : s.step e = some t) :
    (∃ pointer path, ¬ s.Live pointer ∧
      t.mMediaPlayerList =
        s.mMediaPlayerList.map (fun player => player.setAddressed (player.path = path)) ++
          [⟨pointer, path, true⟩] ∧
      t.mAddressedMediaPlayer = some pointer ∧ t.recent = some pointer) ∨
    (∃ before player after, s.mMediaPlayerList = before ++ player :: after ∧
      t.mMediaPlayerList = before ++ after ∧
      t.mAddressedMediaPlayer =
        (if player.addressed then none else s.mAddressedMediaPlayer) ∧ t.recent = s.recent) ∨
    (t.mMediaPlayerList = s.mMediaPlayerList ∧
      t.mAddressedMediaPlayer = s.mAddressedMediaPlayer ∧ t.recent = s.recent) := by
  cases e with
  | addMediaPlayer pointer path =>
      obtain ⟨hfree, heq⟩ := Option.ite_none_left_eq_some.mp hstep
      cases heq
      refine .inl ⟨pointer, path, ?_, ?_, ?_, rfl⟩
      · rintro ⟨player, hmem, hpointer⟩
        exact hfree (List.mem_map.mpr ⟨player, hmem, hpointer⟩)
      · simp [addMediaPlayer, addressedPlayerChanged, updatePlayerInfo,
          Bluez5MediaPlayer.setAddressed]
      · simp [addMediaPlayer, addressedPlayerChanged, updatePlayerInfo]
  | removeMediaPlayer path =>
      right
      cases hstep
      unfold removeMediaPlayer updatePlayerInfo
      cases hfind : s.mMediaPlayerList.find? (·.path = path) with
      | none => exact .inr ⟨rfl, rfl, rfl⟩
      | some player =>
          obtain ⟨hpath, before, after, hlist, hbefore⟩ := List.find?_eq_some_iff_append.mp hfind
          refine .inl ⟨before, player, after, hlist, ?_, rfl, rfl⟩
          change s.mMediaPlayerList.eraseP _ = before ++ after
          rw [hlist, List.eraseP_append_right _ (by simpa using hbefore)]
          simp [hpath]

theorem Listed.step {e : PlayerEvent} (h : s.Listed) (hstep : s.step e = some t) : t.Listed := by
  unfold Listed at h ⊢
  cases e with
  | addMediaPlayer pointer path =>
      obtain ⟨_, heq⟩ := Option.ite_none_left_eq_some.mp hstep
      cases heq
      simp [addMediaPlayer, addressedPlayerChanged, updatePlayerInfo,
        Bluez5MediaPlayer.setAddressed, ← h, Function.comp_def]
  | removeMediaPlayer path =>
      cases hstep
      have hlist : (s.removeMediaPlayer path).mMediaPlayerList =
          s.mMediaPlayerList.eraseP (·.path = path) := by
        unfold removeMediaPlayer updatePlayerInfo
        cases hfind : s.mMediaPlayerList.find? (·.path = path) with
        | none => exact (List.eraseP_of_forall_not (List.find?_eq_none.mp hfind)).symm
        | some player => rfl
      dsimp only
      rw [hlist, ← h, List.eraseP_map]
      rfl

theorem Listed.present_iff (h : s.Listed) (pointer : ℕ) : s.Present pointer ↔ s.Live pointer := by
  unfold Present Live
  rw [← h]
  simp [and_comm]

theorem Listed.pathsDistinct_iff (h : s.Listed) :
    s.PathsDistinct ↔ (s.mMediaPlayerList.map Bluez5MediaPlayer.path).Nodup := by
  unfold PathsDistinct
  rw [← h, List.map_map]
  rfl

theorem pointersDistinct_step {e : PlayerEvent} (h : s.PointersDistinct)
    (hstep : s.step e = some t) : t.PointersDistinct := by
  unfold PointersDistinct at h ⊢
  rcases step_cases hstep with ⟨pointer, path, hfree, hlist, _⟩ |
    ⟨before, player, after, hs, ht, _⟩ | ⟨hlist, _⟩
  · rw [hlist, List.map_append, List.map_map]
    simp only [Function.comp_def, Bluez5MediaPlayer.setAddressed, List.map_cons, List.map_nil]
    rw [List.nodup_append_comm, List.singleton_append, List.nodup_cons]
    refine ⟨fun hmem => hfree ?_, h⟩
    obtain ⟨player, hplayer, hpointer⟩ := List.mem_map.mp hmem
    exact ⟨player, hplayer, hpointer⟩
  · rw [hs] at h
    rw [ht]
    exact h.sublist (((List.sublist_cons_self player after).append_left before).map _)
  · rw [hlist]
    exact h

theorem addressesFlagged_step {e : PlayerEvent} (h : s.AddressesFlagged)
    (hstep : s.step e = some t) : t.AddressesFlagged := by
  rcases step_cases hstep with ⟨pointer, path, _, hlist, haddressed, _⟩ |
    ⟨before, player, after, hs, ht, haddressed, _⟩ | ⟨hlist, haddressed, _⟩
  · intro p hp
    obtain rfl : pointer = p := Option.some.inj (haddressed ▸ hp)
    exact ⟨⟨pointer, path, true⟩, by simp [hlist], rfl, rfl⟩
  · intro p hp
    rw [haddressed] at hp
    obtain ⟨hunflagged, hp⟩ := Option.ite_none_left_eq_some.mp hp
    obtain ⟨addressed, hmem, hpointer, hflag⟩ := h p hp
    refine ⟨addressed, ?_, hpointer, hflag⟩
    rw [hs, List.mem_append, List.mem_cons] at hmem
    rw [ht, List.mem_append]
    rcases hmem with hmem | rfl | hmem
    · exact .inl hmem
    · exact absurd hflag hunflagged
    · exact .inr hmem
  · unfold AddressesFlagged
    rw [hlist, haddressed]
    exact h

theorem commandsLive_of_addressesFlagged (hlisted : s.Listed) (h : s.AddressesFlagged) :
    s.CommandsLive := by
  intro mConnectedController pointer hcommand
  unfold commandPlayer at hcommand
  split_ifs at hcommand
  obtain ⟨player, hmem, hpointer, _⟩ := h pointer hcommand
  exact (hlisted.present_iff pointer).mpr ⟨player, hmem, hpointer⟩

theorem oneFlagged_step {e : PlayerEvent} (h : s.OneFlagged) (hstep : s.step e = some t)
    (hpaths : (t.mMediaPlayerList.map Bluez5MediaPlayer.path).Nodup) : t.OneFlagged := by
  unfold OneFlagged at h ⊢
  rcases step_cases hstep with ⟨pointer, path, _, hlist, _⟩ |
    ⟨before, player, after, hs, ht, _⟩ | ⟨hlist, _⟩
  · have hothers : ∀ player ∈ s.mMediaPlayerList, player.path ≠ path := by
      intro player hmem heq
      rw [hlist, List.map_append, List.map_map] at hpaths
      simp only [Function.comp_def, Bluez5MediaPlayer.setAddressed, List.map_cons,
        List.map_nil] at hpaths
      rw [List.nodup_append_comm, List.singleton_append, List.nodup_cons] at hpaths
      exact hpaths.1 (List.mem_map.mpr ⟨player, hmem, heq⟩)
    have hnone : (s.mMediaPlayerList.map fun player =>
        player.setAddressed (player.path = path)).filter Bluez5MediaPlayer.addressed = [] := by
      rw [List.filter_eq_nil_iff]
      intro player hmem
      obtain ⟨old, hold, rfl⟩ := List.mem_map.mp hmem
      simpa [Bluez5MediaPlayer.setAddressed] using hothers old hold
    rw [hlist, List.filter_append, hnone]
    exact List.length_filter_le _ _
  · rw [ht]
    rw [hs] at h
    have hsub := (List.sublist_cons_self player after).append_left before
    exact Nat.le_trans (hsub.filter _).length_le h
  · rw [hlist]
    exact h

theorem OneFlagged.eq {p q : Bluez5MediaPlayer} (h : s.OneFlagged)
    (hp : p ∈ s.mMediaPlayerList) (hpflag : p.addressed = true)
    (hq : q ∈ s.mMediaPlayerList) (hqflag : q.addressed = true) : p = q := by
  have hp' := List.mem_filter.mpr ⟨hp, hpflag⟩
  have hq' := List.mem_filter.mpr ⟨hq, hqflag⟩
  unfold OneFlagged at h
  match hlist : s.mMediaPlayerList.filter Bluez5MediaPlayer.addressed with
  | [] => simp [hlist] at hp'
  | [r] =>
      rw [hlist, List.mem_singleton] at hp' hq'
      rw [hp', hq']
  | _ :: _ :: _ => simp [hlist] at h

theorem addressesRecent_step {e : PlayerEvent} (hlisted : s.Listed)
    (hpointers : s.PointersDistinct) (hflagged : s.AddressesFlagged) (hone : s.OneFlagged)
    (h : s.AddressesRecent) (hstep : s.step e = some t) : t.AddressesRecent := by
  intro p
  have h := h p
  rw [hlisted.present_iff] at h
  rw [(hlisted.step hstep).present_iff]
  rcases step_cases hstep with ⟨pointer, path, _, hlist, haddressed, hrecent⟩ |
    ⟨before, player, after, hs, ht, haddressed, hrecent⟩ | ⟨hlist, haddressed, hrecent⟩
  · rw [haddressed, hrecent]
    refine (and_iff_left_of_imp fun hp => ?_).symm
    cases hp
    exact ⟨⟨p, path, true⟩, by simp [hlist], rfl⟩
  · have hgone : ¬ t.Live player.pointer := by
      unfold PointersDistinct at hpointers
      rw [hs, List.map_append, List.map_cons, List.nodup_middle, List.nodup_cons,
        ← List.map_append, ← ht] at hpointers
      rintro ⟨other, hmem, hpointer⟩
      exact hpointers.1 (List.mem_map.mpr ⟨other, hmem, hpointer⟩)
    have hkept : t.Live p ↔ s.Live p ∧ p ≠ player.pointer := by
      constructor
      · intro hlive
        refine ⟨?_, fun heq => hgone (heq ▸ hlive)⟩
        obtain ⟨other, hmem, hpointer⟩ := hlive
        rw [ht] at hmem
        refine ⟨other, ?_, hpointer⟩
        rw [hs]
        exact ((List.sublist_cons_self player after).append_left before).subset hmem
      · rintro ⟨⟨other, hmem, hpointer⟩, hne⟩
        rw [hs, List.mem_append, List.mem_cons] at hmem
        refine ⟨other, ?_, hpointer⟩
        rw [ht, List.mem_append]
        rcases hmem with hmem | rfl | hmem
        · exact .inl hmem
        · exact absurd hpointer.symm hne
        · exact .inr hmem
    have hmem : player ∈ s.mMediaPlayerList := hs ▸ List.mem_append_cons_self
    rw [hrecent, hkept, ← and_assoc, ← h, haddressed, Option.ite_none_left_eq_some, and_comm]
    refine and_congr_right fun hp => ?_
    obtain ⟨addressed, haddressed, rfl, hflag⟩ := hflagged p hp
    -- the addressed player is the deleted one exactly if that is flagged
    constructor
    · intro hnot heq
      have hsame := List.inj_on_of_nodup_map hpointers haddressed hmem heq
      exact hnot (hsame ▸ hflag)
    · intro hne hplayer
      rw [hone.eq haddressed hflag hmem hplayer] at hne
      exact hne rfl
  · unfold Live
    rw [haddressed, hrecent, hlist]
    exact h

end MediaPlayers

def playersMachine : Machine MediaPlayers PlayerEvent := ⟨{}, MediaPlayers.step⟩

namespace MediaPlayers

variable {s : MediaPlayers}

structure Sound (s : MediaPlayers) : Prop where
  listed : s.Listed
  pointers : s.PointersDistinct
  flagged : s.AddressesFlagged

theorem sound_reached {G : MediaPlayers → PlayerEvent → Prop}
    (hs : playersMachine.ReachWith G s) : s.Sound :=
  hs.invariant ⟨rfl, List.nodup_nil, fun _ h => nomatch h⟩ fun _ _ _ h _ hstep =>
    ⟨h.listed.step hstep, pointersDistinct_step h.pointers hstep,
      addressesFlagged_step h.flagged hstep⟩

theorem addressesRecent_reached (hs : playersMachine.ReachWith (fun s _ => s.PathsDistinct) s)
    (hpaths : s.PathsDistinct) : s.OneFlagged ∧ s.AddressesRecent := by
  induction hs with
  | init =>
      refine ⟨Nat.zero_le _, fun pointer => iff_of_false (fun h => nomatch h) ?_⟩
      exact fun h => nomatch h.1
  | step hs hdistinct hstep ih =>
      obtain ⟨hone, hrecent⟩ := ih hdistinct
      have h := sound_reached hs
      exact ⟨oneFlagged_step hone hstep ((h.listed.step hstep).pathsDistinct_iff.mp hpaths),
        addressesRecent_step h.listed h.pointers h.flagged hone hrecent hstep⟩

end MediaPlayers

/-- The list is that of the players added and not removed, and the pointer to the addressed player
is null or that of a flagged player in it, to which commands are sent; and while the players have
different paths at most one is flagged, the one added last as long as it is there. -/
theorem addressedPlayer_live :
    (∀ s, playersMachine.Reach s → s.Listed ∧ s.AddressesFlagged ∧ s.CommandsLive) ∧
    ∀ s, playersMachine.ReachWith (fun s _ => s.PathsDistinct) s → s.PathsDistinct →
      s.OneFlagged ∧ s.AddressesRecent := by
  constructor
  · intro s hs
    have h := MediaPlayers.sound_reached hs
    exact ⟨h.listed, h.flagged,
      MediaPlayers.commandsLive_of_addressesFlagged h.listed h.flagged⟩
  · exact fun s hs hpaths => MediaPlayers.addressesRecent_reached hs hpaths

/-- A player is added twice and removed once, and of two players the older one is removed. -/
theorem addressedPlayer_live_removed :
    (∃ s, playersMachine.Reach s ∧ s.present = [(1, ['a'])] ∧ s.Listed ∧ s.AddressesFlagged ∧
      s.CommandsLive) ∧
    ∃ s, playersMachine.ReachWith (fun s _ => s.PathsDistinct) s ∧ s.present = [(1, ['b'])] ∧
      s.mAddressedMediaPlayer = some 1 ∧ s.OneFlagged ∧ s.AddressesRecent := by
  constructor
  · obtain ⟨s, hrun, hpresent⟩ : ∃ s, playersMachine.run playersMachine.init
        [.addMediaPlayer 0 ['a'], .addMediaPlayer 1 ['a'], .removeMediaPlayer ['a']] = some s ∧
        s.present = [(1, ['a'])] := ⟨_, rfl, rfl⟩
    have hreach := Machine.reach_of_run _ hrun
    exact ⟨s, hreach, hpresent, addressedPlayer_live.1 s hreach⟩
  · obtain ⟨s, hrun, hpresent, haddressed⟩ : ∃ s,
        playersMachine.runWith (fun s _ => s.PathsDistinct) playersMachine.init
          [.addMediaPlayer 0 ['a'], .addMediaPlayer 1 ['b'], .removeMediaPlayer ['a']] = some s ∧
        s.present = [(1, ['b'])] ∧ s.mAddressedMediaPlayer = some 1 := ⟨_, rfl, rfl, rfl⟩
    have hpaths : s.PathsDistinct := by
      unfold MediaPlayers.PathsDistinct
      simp [hpresent]
    have hreach := Machine.reachWith_of_runWith _ Machine.ReachWith.init hrun
    exact ⟨s, hreach, hpresent, haddressed, addressedPlayer_live.2 s hreach hpaths⟩

end BluezSil.Avrcp
