import BluezSil.ObexTransferEnds

/-!
# The transfers that go with a session

The removal of a session deletes the transfers whose object path begins with the path of the
session. The transfers of a session lie below its path followed by a slash, so the removal
also deletes those of a session whose path continues the one removed.
-/

namespace BluezSil.Obex

open OwnedObjects

def ObexTransfer.liesBelow (t : ObexTransfer) (sessionPath : Text) : Bool :=
  (sessionPath ++ ['/']).isPrefixOf t.mObjectPath

theorem ObexTransfer.isPartOfSession_of_liesBelow {t : ObexTransfer} {sessionPath : Text}
    (h : t.liesBelow sessionPath = true) : t.isPartOfSession sessionPath = true := by
  unfold liesBelow at h
  unfold isPartOfSession
  rw [List.isPrefixOf_iff_prefix] at h ⊢
  exact (List.prefix_append sessionPath ['/']).trans h

namespace Transfers

variable {s : Transfers} {key : TransferKey} {p q : ℕ}

/-- The watcher of a transfer whose key has no entry removes nothing. -/
theorem notifyBy_objects {destroy : Transfers → ℕ → Transfers} {t : ObexTransfer}
    (h : s.objects.table.lookup t.key = none) :
    (s.notifyBy destroy p t).objects = s.objects ∧
      ∀ q, q ≠ p → (s.notifyBy destroy p t).reportsOf q = s.reportsOf q := by
  have hgone : (s.record p (t.mWatchCallback s.mTransferStateMap)).removeTransferBy destroy
      t.key = s.record p (t.mWatchCallback s.mTransferStateMap) := removeTransferBy_of_none h
  unfold notifyBy
  dsimp only
  rw [hgone, ite_self]
  exact ⟨rfl, fun q hq => reportsOf_record_ne hq⟩

theorem destroyFuel_alone {n : ℕ} {t : ObexTransfer} (ht : s.objects.live.lookup p = some t)
    (hgone : s.objects.table.lookup t.key = none) :
    let s' := destroyFuel (n + 1) s p
    s'.objects.table = s.objects.table ∧ s'.objects.deleted = p :: s.objects.deleted ∧
      ∀ q, q ≠ p → s'.objects.live.lookup q = s.objects.live.lookup q ∧
        s'.reportsOf q = s.reportsOf q := by
  cases hend : t.mState.final with
  | true =>
      rw [destroyFuel_of_final ht hend]
      exact ⟨rfl, rfl, fun q hq => ⟨lookup_delete_ne hq, rfl⟩⟩
  | false =>
      let failed (t : ObexTransfer) : ObexTransfer := { t with mState := .error }
      let s₁ : Transfers := { s with objects := s.objects.modify p failed }
      have hwatcher : (s₁.notifyBy (destroyFuel n) p (failed t)).objects = s₁.objects ∧
          ∀ q, q ≠ p →
            (s₁.notifyBy (destroyFuel n) p (failed t)).reportsOf q = s₁.reportsOf q :=
        notifyBy_objects hgone
      rw [destroyFuel_of_open ht hend rfl rfl]
      dsimp only
      rw [hwatcher.1]
      refine ⟨rfl, rfl, fun q hq => ⟨?_, hwatcher.2 q hq⟩⟩
      exact (lookup_delete_ne hq).trans (KeyedMap.lookup_modify_ne hq)

/-- What a removal does: the transfer leaves the table, is deleted, and its watcher alone is
told. -/
theorem removeTransfer_takes (h : s.objects.Kept ObexTransfer.key)
    (hp : s.objects.table.lookup key = some p) :
    Takes key p s.objects (s.removeTransfer key).objects ∧
      (s.removeTransfer key).objects.deleted = p :: s.objects.deleted ∧
      ∀ q, q ≠ p → (s.removeTransfer key).reportsOf q = s.reportsOf q := by
  obtain ⟨t, ht, rfl⟩ := h key p hp
  have hgone : (s.objects.table.erase t.key).lookup t.key = none := AList.lookup_erase _ _
  rw [removeTransfer, removeTransferBy_of_some hp, destroy]
  obtain ⟨htable, hdeleted, hother⟩ := destroyFuel_alone
    (s := { s with objects := s.objects.eraseKey t.key })
    (n := (s.objects.table.erase t.key).entries.length) ht hgone
  exact ⟨⟨htable, fun q hq => (hother q hq).1⟩, hdeleted, fun q hq => (hother q hq).2⟩

/-- The transfers kept under the listed keys go, each deleted once, and no others. -/
theorem removeAll_kept (keys : List TransferKey) (h : s.objects.Kept ObexTransfer.key) :
    let s' := keys.foldl removeTransfer s
    (∀ key, s'.objects.find key = if key ∈ keys then none else s.objects.find key) ∧
      (∀ key ∈ keys, ∀ p, s.objects.table.lookup key = some p →
        s'.objects.deleted.count p = s.objects.deleted.count p + 1) ∧
      ∀ p, (∀ key ∈ keys, s.objects.table.lookup key ≠ some p) →
        s'.objects.deleted.count p = s.objects.deleted.count p ∧
          s'.reportsOf p = s.reportsOf p := by
  induction keys generalizing s with
  | nil => exact ⟨fun _ => rfl, fun _ hk => absurd hk List.not_mem_nil, fun _ _ => ⟨rfl, rfl⟩⟩
  | cons key keys ih =>
      dsimp only [List.foldl_cons]
      cases hkey : s.objects.table.lookup key with
      | none =>
          have hfind : s.objects.find key = none := by
            rw [OwnedObjects.find, hkey]
            rfl
          rw [show s.removeTransfer key = s from removeTransferBy_of_none hkey]
          obtain ⟨hfinds, hdeleted, hothers⟩ := ih h
          refine ⟨fun k => ?_, fun k hk p hp => ?_, fun p hp => ?_⟩
          · rw [hfinds]
            by_cases hk : k = key
            · simp [hk, hfind]
            · simp [hk]
          · rcases List.mem_cons.mp hk with rfl | hrest
            · rw [hkey] at hp
              cases hp
            · exact hdeleted k hrest p hp
          · exact hothers p fun k hk => hp k (List.mem_cons_of_mem _ hk)
      | some q =>
          obtain ⟨htakes, hgone, htold⟩ := removeTransfer_takes h hkey
          obtain ⟨hkept, hfind⟩ := h.takes hkey htakes
          obtain ⟨hfinds, hdeleted, hothers⟩ := ih hkept
          -- the transfer taken here is kept under no other key
          have hunkept (k : TransferKey) :
              (s.removeTransfer key).objects.table.lookup k ≠ some q := by
            intro hk
            rw [htakes.table] at hk
            obtain ⟨hne, hold⟩ := KeyedMap.lookup_erase_some hk
            exact h.ne_of_takes hkey hold hne rfl
          refine ⟨fun k => ?_, fun k hk p hp => ?_, fun p hp => ?_⟩
          · rw [hfinds, hfind]
            by_cases hk : k = key
            · simp [hk]
            · simp [hk]
          · by_cases hsame : k = key
            · rw [hsame, hkey] at hp
              cases hp
              rw [(hothers q fun k _ => hunkept k).1, hgone, List.count_cons_self]
            · have hne : p ≠ q := h.ne_of_takes hkey hp hsame
              have hp' : (s.removeTransfer key).objects.table.lookup k = some p := by
                rw [htakes.table, AList.lookup_erase_ne hsame]
                exact hp
              rw [hdeleted k ((List.mem_cons.mp hk).resolve_left hsame) p hp', hgone,
                List.count_cons_of_ne hne.symm]
          · have hne : p ≠ q := by
              rintro rfl
              exact hp key List.mem_cons_self hkey
            obtain ⟨hcount, hreports⟩ := hothers p fun k hk hlookup => by
              rw [htakes.table] at hlookup
              exact hp k (List.mem_cons_of_mem _ hk) (KeyedMap.lookup_erase_some hlookup).2
            rw [hcount, hreports, hgone, List.count_cons_of_ne hne.symm]
            exact ⟨rfl, htold p hne⟩

theorem mem_keysOfSession_iff_find {sessionPath : Text} :
    key ∈ s.keysOfSession sessionPath ↔
      ∃ t, s.objects.find key = some t ∧ t.isPartOfSession sessionPath = true := by
  rw [mem_keysOfSession]
  unfold partOf OwnedObjects.find
  constructor
  · rintro ⟨p, hp, t, ht, hpart⟩
    exact ⟨t, by rw [hp, Option.bind_some, ht], hpart⟩
  · rintro ⟨t, hfind, hpart⟩
    obtain ⟨p, hp, ht⟩ := Option.bind_eq_some_iff.mp hfind
    exact ⟨p, hp, t, ht, hpart⟩

theorem removeTransfersOf_find (h : s.objects.Kept ObexTransfer.key) (sessionPath : Text) :
    (s.removeTransfersOf sessionPath).objects.find key =
      (s.objects.find key).filter fun t => !t.isPartOfSession sessionPath := by
  have hfind := (removeAll_kept (s.keysOfSession sessionPath) h).1 key
  refine hfind.trans ?_
  split_ifs with hkey
  · obtain ⟨t, ht, hpart⟩ := mem_keysOfSession_iff_find.mp hkey
    rw [ht, Option.filter_some, hpart]
    rfl
  · cases ht : s.objects.find key with
    | none => rfl
    | some t =>
        have hpart : t.isPartOfSession sessionPath = false := by
          by_contra hpart
          exact hkey (mem_keysOfSession_iff_find.mpr ⟨t, ht, by simpa using hpart⟩)
        rw [Option.filter_some, hpart]
        rfl

/-- No transfer but those below the path has a path that begins with it. -/
def NoneBeyond (s : Transfers) (sessionPath : Text) : Prop :=
  ∀ key t, s.objects.find key = some t → t.isPartOfSession sessionPath = true →
    t.liesBelow sessionPath = true

theorem NoneBeyond.liesBelow_eq {t : ObexTransfer} {sessionPath : Text}
    (h : s.NoneBeyond sessionPath) (ht : s.objects.find key = some t) :
    t.liesBelow sessionPath = t.isPartOfSession sessionPath :=
  Bool.eq_iff_iff.mpr ⟨ObexTransfer.isPartOfSession_of_liesBelow, h key t ht⟩

end Transfers

namespace ObexProfile

variable {kind : ProfileKind} {s : ObexProfile} {address : Text} {session : ObexSession}

def Kept (s : ObexProfile) : Prop :=
  s.sessions.Kept ObexSession.address ∧ s.transfers.objects.Kept ObexTransfer.key

def Owns (s : ObexProfile) (session : ObexSession) (key : TransferKey) : Prop :=
  ∃ t, s.transfers.objects.find key = some t ∧ t.liesBelow session.mObjectPath = true

/-- From `s` to `t` the session has gone with its own transfers, each of which has been deleted
once, and nothing else has changed. -/
structure EndsOwn (s t : ObexProfile) (session : ObexSession) : Prop where
  transfers : ∀ key, t.transfers.objects.find key =
    (s.transfers.objects.find key).filter fun v => !v.liesBelow session.mObjectPath
  deleted : ∀ key p, s.Owns session key → s.transfers.objects.table.lookup key = some p →
    t.transfers.objects.deleted.count p = s.transfers.objects.deleted.count p + 1
  others : ∀ p, (∀ key, s.Owns session key →
    s.transfers.objects.table.lookup key ≠ some p) →
      t.transfers.objects.deleted.count p = s.transfers.objects.deleted.count p ∧
        t.transfers.reportsOf p = s.transfers.reportsOf p
  sessions : ∀ a, t.sessions.find a = if a = session.address then none else s.sessions.find a

theorem removeSession_eq (hfind : s.sessions.find address = some session) :
    s.removeSession kind address =
      { s with
        sessions := s.sessions.remove address
        transfers :=
          if kind.findsTransfers then s.transfers.removeTransfersOf session.mObjectPath
          else s.transfers } := by
  unfold removeSession
  rw [hfind]

theorem find_remove_session (h : s.sessions.Kept ObexSession.address)
    (hfind : s.sessions.find address = some session) (a : Text) :
    (s.sessions.remove address).find a =
      if a = session.address then none else s.sessions.find a := by
  obtain ⟨p, hp, hsession⟩ := Option.bind_eq_some_iff.mp hfind
  obtain ⟨v, hv, rfl⟩ := h address p hp
  rw [hsession, Option.some.injEq] at hv
  rw [hv]
  exact (h.takes hp (takes_remove hp)).2 a

/-- The removal of a session ends the session and its own transfers alone if and only if no other
transfer has an object path that begins with the path of the session. -/
theorem removeSession_endsOwn_iff (hkind : kind.findsTransfers = true) (h : s.Kept)
    (hfind : s.sessions.find address = some session) :
    s.EndsOwn (s.removeSession kind address) session ↔
      s.transfers.NoneBeyond session.mObjectPath := by
  rw [removeSession_eq hfind, hkind, if_pos rfl]
  constructor
  · intro hends key t ht hpart
    have hkept := hends.transfers key
    rw [Transfers.removeTransfersOf_find h.2, ht, Option.filter_some, Option.filter_some, hpart]
      at hkept
    cases hbelow : t.liesBelow session.mObjectPath with
    | true => rfl
    | false =>
        rw [hbelow] at hkept
        cases hkept
  · intro hnone
    have howns : ∀ key, key ∈ s.transfers.keysOfSession session.mObjectPath ↔
        s.Owns session key := by
      intro key
      rw [Transfers.mem_keysOfSession_iff_find]
      refine exists_congr fun t => and_congr_right fun ht => ?_
      rw [hnone.liesBelow_eq ht]
    obtain ⟨_, hdeleted, hothers⟩ :=
      Transfers.removeAll_kept (s.transfers.keysOfSession session.mObjectPath) h.2
    constructor
    · intro key
      refine (Transfers.removeTransfersOf_find h.2 _).trans ?_
      cases ht : s.transfers.objects.find key with
      | none => rfl
      | some t => rw [Option.filter_some, Option.filter_some, hnone.liesBelow_eq ht]
    · exact fun key p hkey hp => hdeleted key ((howns key).mpr hkey) p hp
    · exact fun p hp => hothers p fun key hkey => hp key ((howns key).mp hkey)
    · exact find_remove_session h.1 hfind

/-- The sessions have paths of their own, and each transfer lies below that of a session. -/
def Placed (s : ObexProfile) : Prop :=
  (∀ v ∈ s.sessions.live.values, ∀ w ∈ s.sessions.live.values,
    v.mObjectPath = w.mObjectPath → v = w) ∧
  ∀ t ∈ s.transfers.objects.live.values, ∃ v ∈ s.sessions.live.values,
    t.liesBelow v.mObjectPath = true

def pushTo (objectPath : Text) : ObexTransfer :=
  { mObjectPath := objectPath
    mTransferType := .sending
    watcher := .baseActive
    key := .id 1 }

def twoSessions (first second : Text) : ObexProfile :=
  { sessions := (({} : OwnedObjects Text ObexSession).make ['a'] ⟨['a'], first⟩).make ['b']
      ⟨['b'], second⟩
    transfers :=
      { objects := ({} : OwnedObjects TransferKey ObexTransfer).make (.id 1)
          (pushTo (second ++ "/transfer0".toList)) } }

theorem twoSessions_kept (first second : Text) : (twoSessions first second).Kept := by
  have hnone : ({} : OwnedObjects Text ObexSession).Sound ObexSession.address := sound_empty
  have hfirst := hnone.make (v := ⟨['a'], first⟩) (AList.notMem_empty _)
  have hsecond := hfirst.make (v := ⟨['b'], second⟩) (by
    intro hmem
    rcases KeyedMap.mem_emplace.mp hmem with hmem | heq
    · exact AList.notMem_empty _ hmem
    · cases heq)
  have hempty : ({} : OwnedObjects TransferKey ObexTransfer).Sound ObexTransfer.key :=
    sound_empty
  have htransfer := hempty.make (v := pushTo (second ++ "/transfer0".toList))
    (AList.notMem_empty _)
  exact ⟨hsecond.kept, htransfer.kept⟩

/-- The session that owns the push is removed with it. -/
theorem removeSession_endsOwn_second :
    let s := twoSessions "/session1".toList "/session2".toList
    s.EndsOwn (s.removeSession .opp ['b']) ⟨['b'], "/session2".toList⟩ := by
  intro s
  have hall : ∀ t ∈ s.transfers.objects.live.values, t.liesBelow "/session2".toList = true := by
    decide
  refine (removeSession_endsOwn_iff rfl (twoSessions_kept _ _) rfl).mpr ?_
  intro key t ht hpart
  obtain ⟨p, _, hlive⟩ := Option.bind_eq_some_iff.mp ht
  exact hall t (KeyedMap.mem_values_iff.mpr ⟨p, hlive⟩)

/-- The push to `/session10` goes with `/session1`. -/
theorem removeSession_takes_longer :
    ¬ ∀ (s : ObexProfile) (address : Text) (session : ObexSession), s.Kept → s.Placed →
      s.sessions.find address = some session →
      s.EndsOwn (s.removeSession .opp address) session := by
  intro h
  have hends := h (twoSessions "/session1".toList "/session10".toList) ['a']
    ⟨['a'], "/session1".toList⟩ (twoSessions_kept _ _) ⟨by decide, by decide⟩ rfl
  exact absurd (hends.transfers (.id 1)) (by decide)

end ObexProfile

end BluezSil.Obex
