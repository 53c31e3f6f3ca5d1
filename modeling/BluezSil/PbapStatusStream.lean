import BluezSil.ChangeStream
import BluezSil.ObexTransferEnds

/-!
# The status reports of a phone book transfer

The watcher of a phone book remembers the state it has reported last, and reports a new
one when it differs. At the end it erases what it remembers through the iterator it has
looked up first. If the first state it sees is the end, the iterator is the end of the
map, and there has been no report of an active transfer.
-/

namespace BluezSil.Obex

open ChangeStream

def TransferProperty.watched : TransferProperty → Bool
  | .transferred _ => true
  | .status _ => true
  | _ => false

def TransferReport.status : TransferReport → Option String
  | .transferStatusChanged _ state => some state
  | _ => none

def phoneBookTransfer (objectPath : Text) : ObexTransfer where
  mObjectPath := objectPath
  mTransferType := .receiving
  watcher := .pbapMonitor
  key := .path objectPath

namespace ObexTransfer

def afterUpdates (t : ObexTransfer) (updates : List (List TransferProperty)) : ObexTransfer :=
  updates.foldl (fun t properties => (t.updateFromProperties properties).1) t

def StaysOpen (t : ObexTransfer) : List (List TransferProperty) → Prop
  | [] => True
  | properties :: updates =>
    (t.updateFromProperties properties).1.mState.final = false ∧
      StaysOpen (t.updateFromProperties properties).1 updates

end ObexTransfer

/-- The states reported of a transfer that ends: no two in a row are the same, an end is the
last of them, and it is completed directly after it was active. -/
structure StatusStream (ending : TransferState) (values : List String) : Prop where
  changes : values.IsChain (· ≠ ·)
  completed : values.count "completed" = if ending = .complete then 1 else 0
  afterActive : ∀ before rest, values = before ++ "completed" :: rest →
    before.getLast? = some "active"
  failed : values.count "error" ≤ 1
  last : ∀ before value rest, values = before ++ value :: rest →
    value = "completed" ∨ value = "error" → rest = []

namespace Transfers

variable (s : Transfers)

def startPhoneBookTransfer (objectPath : Text) : Transfers :=
  s.startTransfer (phoneBookTransfer objectPath)

/-- An update reaches the transfer while it is live. -/
def deliver (p : ℕ) (properties : List TransferProperty) : Transfers :=
  match s.objects.live.lookup p with
  | some t => s.update p t properties
  | none => s

def deliverAll (p : ℕ) (updates : List (List TransferProperty)) : Transfers :=
  updates.foldl (fun s properties => s.deliver p properties) s

def statusesOf (p : ℕ) : List String := (s.reportsOf p).reverse.filterMap TransferReport.status

/-- A transfer that is started, updated and brought to an end is reported by a stream of states,
is forgotten, and erases what it has found. -/
def StreamsStatuses (objectPath : Text) (updates : List (List TransferProperty))
    (final : List TransferProperty) : Prop :=
  let p := s.objects.next
  let ended := (s.startPhoneBookTransfer objectPath).deliverAll p (updates ++ [final])
  StatusStream ((phoneBookTransfer objectPath).afterUpdates (updates ++ [final])).mState
      ((ended.statusesOf p).drop (s.statusesOf p).length) ∧
    (∀ later, (ended.deliverAll p later).reportsOf p = ended.reportsOf p) ∧
    ended.objects.table.lookup (.path objectPath) = none ∧
    ended.mTransferStateMap.lookup objectPath = none ∧
    ended.misuses = s.misuses

end Transfers

/-! ### The values -/

section Values

variable {values : List String}

def OpenValue (value : String) : Prop := value = "idle" ∨ value = "active"

theorem OpenValue.not_final {value : String} (h : OpenValue value) :
    ¬ (value = "completed" ∨ value = "error") := by
  rcases h with rfl | rfl
  · decide
  · decide

theorem stateString_openValue {state : TransferState} (h : state.final = false) :
    OpenValue (stateString state) := by
  cases state with
  | inactive => exact .inl rfl
  | queued => exact .inl rfl
  | active => exact .inr rfl
  | suspended => exact .inr rfl
  | complete => cases h
  | error => cases h

/-- Open states followed by one end are a stream if each differs from the one before and a
completion follows an active state. -/
theorem statusStream_concat {ending : TransferState} (hopen : ∀ v ∈ values, OpenValue v)
    (hchanges : values.IsChain (· ≠ ·)) (hend : ending.final = true)
    (hactive : ending = .complete → values.getLast? = some "active") :
    StatusStream ending (values ++ [stateString ending]) := by
  have hnot : ∀ v ∈ values, ¬ (v = "completed" ∨ v = "error") :=
    fun v hv => (hopen v hv).not_final
  have hcompleted : values.count "completed" = 0 :=
    List.count_eq_zero.mpr fun hmem => hnot _ hmem (.inl rfl)
  have hfailed : values.count "error" = 0 :=
    List.count_eq_zero.mpr fun hmem => hnot _ hmem (.inr rfl)
  have hnew : values.getLast? ≠ some (stateString ending) := fun hlast =>
    hnot _ (List.mem_of_getLast? hlast) (stateString_closed hend)
  refine ⟨isChain_concat hchanges hnew, ?_, ?_, ?_, ?_⟩
  · rw [List.count_append, hcompleted, Nat.zero_add]
    cases ending with
    | complete => rfl
    | error => rfl
    | _ => cases hend
  · intro before rest heq
    obtain ⟨rfl, hvalue, _⟩ := eq_of_marked hnot heq (.inl rfl)
    refine hactive ?_
    cases ending with
    | complete => rfl
    | error => exact absurd hvalue (by decide)
    | _ => cases hend
  · rw [List.count_append, hfailed, Nat.zero_add]
    cases ending with
    | complete => decide
    | error => decide
    | _ => cases hend
  · intro before value rest heq hvalue
    exact (eq_of_marked hnot heq hvalue).2.2

end Values

/-! ### The watcher -/

section Watcher

variable {t : ObexTransfer} {states : KeyedMap Text String} {reported : String}

/-- A state that is no end is told when it differs from the one remembered, and remembered. -/
theorem monitorTransfer_of_open (h : t.mState.final = false) :
    let w := ProfilePbap.monitorTransfer t states
    w.cleanup = false ∧ w.erasesEnd = false ∧
    w.states.lookup t.mObjectPath = some (stateString t.mState) ∧
    w.reports.filterMap TransferReport.status =
      if states.lookup t.mObjectPath = some (stateString t.mState) then []
      else [stateString t.mState] := by
  unfold ProfilePbap.monitorTransfer
  dsimp only
  cases states.lookup t.mObjectPath with
  | none => exact ⟨h, h, AList.lookup_insert _, rfl⟩
  | some reported =>
      dsimp only
      rw [h, if_neg Bool.false_ne_true]
      refine ⟨rfl, rfl, AList.lookup_insert _, ?_⟩
      by_cases hsame : stateString t.mState = reported
      · rw [if_neg (not_not_intro hsame), hsame, if_pos rfl]
        rfl
      · have hnot : ¬ (t.mState = .complete ∧ reported = stateString .queued) := by
          rintro ⟨hcomplete, _⟩
          rw [hcomplete] at h
          cases h
        rw [if_pos hsame, if_neg hnot, if_neg fun heq => hsame (Option.some.inj heq).symm]
        rfl

theorem monitorTransfer_of_final (h : t.mState.final = true)
    (hreported : states.lookup t.mObjectPath = some reported) (hopen : OpenValue reported) :
    let w := ProfilePbap.monitorTransfer t states
    w.cleanup = true ∧ w.erasesEnd = false ∧ w.states.lookup t.mObjectPath = none ∧
    w.reports.filterMap TransferReport.status =
      (if t.mState = .complete ∧ reported = "idle" then ["active"] else []) ++
        [stateString t.mState] := by
  have hnew : stateString t.mState ≠ reported := by
    rintro rfl
    exact hopen.not_final (stateString_closed h)
  have hqueued : stateString .queued = "idle" := rfl
  unfold ProfilePbap.monitorTransfer
  dsimp only
  rw [hreported]
  dsimp only
  rw [if_pos h, if_pos hnew, hqueued]
  refine ⟨rfl, rfl, AList.lookup_erase _ _, ?_⟩
  by_cases hidle : t.mState = .complete ∧ reported = "idle"
  · rw [if_pos hidle, if_pos hidle]
    rfl
  · rw [if_neg hidle, if_neg hidle]
    rfl

/-- The end as the first state the watcher sees: it erases the end of its map. -/
theorem monitorTransfer_of_final_first (h : t.mState.final = true)
    (hnone : states.lookup t.mObjectPath = none) :
    (ProfilePbap.monitorTransfer t states).cleanup = true ∧
      (ProfilePbap.monitorTransfer t states).erasesEnd = true := by
  unfold ProfilePbap.monitorTransfer
  rw [hnone]
  exact ⟨h, h⟩

end Watcher

theorem updateFromProperties_watched (t : ObexTransfer) (properties : List TransferProperty) :
    (t.updateFromProperties properties).2 = properties.any TransferProperty.watched := by
  unfold ObexTransfer.updateFromProperties
  suffices h : ∀ changed, (properties.foldl
      (fun r property =>
        let o := r.1.parsePropertyFromVariant property
        (o.1, r.2 || o.2))
      (t, changed)).2 = (changed || properties.any TransferProperty.watched) from h false
  induction properties generalizing t with
  | nil => exact fun changed => (Bool.or_false changed).symm
  | cons property rest ih =>
      intro changed
      have hwatched : (t.parsePropertyFromVariant property).2 = property.watched := by
        cases property <;> rfl
      rw [List.foldl_cons, List.any_cons, ← Bool.or_assoc, ← hwatched]
      exact ih _ _

namespace Transfers

variable {s s' : Transfers} {p : ℕ} {t : ObexTransfer} {values : List String} {w : Watched}
variable {properties : List TransferProperty} {updates : List (List TransferProperty)}

theorem statusesOf_record :
    (s.record p w).statusesOf p =
      s.statusesOf p ++ w.reports.filterMap TransferReport.status := by
  unfold statusesOf
  rw [reportsOf_record_self, List.reverse_append, List.reverse_reverse, List.filterMap_append]

/-- The transfer started at `s` goes on, and the values have been told of it. -/
structure Streaming (s : Transfers) (p : ℕ) (objectPath : Text) (s' : Transfers)
    (t : ObexTransfer) (values : List String) : Prop where
  live : s'.objects.live.lookup p = some t
  table : s'.objects.table.lookup t.key = some p
  key : t.key = .path objectPath
  path : t.mObjectPath = objectPath
  watcher : t.watcher = .pbapMonitor
  running : t.mState.final = false
  told : s'.statusesOf p = s.statusesOf p ++ values
  remembered : s'.mTransferStateMap.lookup objectPath = values.getLast?
  misuses : s'.misuses = s.misuses
  changes : values.IsChain (· ≠ ·)
  openValues : ∀ v ∈ values, OpenValue v

theorem streaming_start {objectPath : Text}
    (hnew : s.objects.table.lookup (.path objectPath) = none)
    (hforgotten : s.mTransferStateMap.lookup objectPath = none) :
    Streaming s s.objects.next objectPath (s.startPhoneBookTransfer objectPath)
      (phoneBookTransfer objectPath) [] where
  live := OwnedObjects.lookup_make_self _ _ _
  table := KeyedMap.lookup_emplace_self (AList.lookup_eq_none.mp hnew)
  key := rfl
  path := rfl
  watcher := rfl
  running := rfl
  told := (List.append_nil _).symm
  remembered := hforgotten
  misuses := rfl
  changes := List.isChain_nil
  openValues := fun _ h => absurd h List.not_mem_nil

section Updates

variable {objectPath : Text} (h : Streaming s p objectPath s' t values)
include h

theorem Streaming.deliver_eq : s'.deliver p properties = s'.update p t properties := by
  unfold deliver
  rw [h.live]

theorem Streaming.mWatchCallback_eq :
    (t.updateFromProperties properties).1.mWatchCallback =
      ProfilePbap.monitorTransfer (t.updateFromProperties properties).1 := by
  unfold ObexTransfer.mWatchCallback
  rw [(t.updateFromProperties_started properties).2, h.watcher]

theorem Streaming.update
    (hopen : (t.updateFromProperties properties).1.mState.final = false) :
    Streaming s p objectPath (s'.deliver p properties) (t.updateFromProperties properties).1
      (if properties.any TransferProperty.watched then
        push values (stateString (t.updateFromProperties properties).1.mState) else values) := by
  obtain ⟨hkey, hwatcher⟩ := t.updateFromProperties_started properties
  have hpath := (t.updateFromProperties_mObjectPath properties).trans h.path
  have hmodified : (s'.objects.modify p fun _ =>
      (t.updateFromProperties properties).1).live.lookup p =
        some (t.updateFromProperties properties).1 := by
    rw [OwnedObjects.modify, KeyedMap.lookup_modify_self, h.live, Option.map_some]
  rw [h.deliver_eq, ← updateFromProperties_watched t]
  cases hchanged : (t.updateFromProperties properties).2 with
  | false =>
      rw [update_of_unchanged hchanged, if_neg Bool.false_ne_true]
      exact ⟨hmodified, hkey ▸ h.table, hkey.trans h.key, hpath, hwatcher.trans h.watcher, hopen,
        h.told, h.remembered, h.misuses, h.changes, h.openValues⟩
  | true =>
      obtain ⟨hkept, hfound, hremembered, htold⟩ :=
        @monitorTransfer_of_open _ s'.mTransferStateMap hopen
      rw [hpath] at hremembered htold
      rw [update_of_kept hchanged (by rw [h.mWatchCallback_eq]; exact hkept), h.mWatchCallback_eq,
        if_pos rfl]
      refine ⟨hmodified, hkey ▸ h.table, hkey.trans h.key, hpath, hwatcher.trans h.watcher, hopen,
        ?_, hremembered.trans (getLast?_push _ _).symm, ?_, isChain_push h.changes _, ?_⟩
      · rw [statusesOf_record, htold, h.remembered, ← append_ite_eq_push, ← List.append_assoc,
          ← h.told]
        rfl
      · rw [record, hfound]
        exact h.misuses
      · intro v hv
        rcases mem_push hv with hold | rfl
        · exact h.openValues v hold
        · exact stateString_openValue hopen

end Updates

theorem Streaming.deliverAll {objectPath : Text} (h : Streaming s p objectPath s' t values)
    (hopen : t.StaysOpen updates) :
    ∃ told, Streaming s p objectPath (s'.deliverAll p updates) (t.afterUpdates updates) told ∧
      (told ≠ [] ↔ values ≠ [] ∨
        ∃ properties ∈ updates, properties.any TransferProperty.watched = true) := by
  induction updates generalizing s' t values with
  | nil =>
      refine ⟨values, h, ⟨.inl, ?_⟩⟩
      rintro (hvalues | ⟨_, hmem, _⟩)
      · exact hvalues
      · exact absurd hmem List.not_mem_nil
  | cons properties rest ih =>
      obtain ⟨told, hstreaming, htold⟩ := ih (h.update hopen.1) hopen.2
      refine ⟨told, hstreaming, htold.trans ?_⟩
      simp only [List.exists_mem_cons_iff]
      cases hwatched : properties.any TransferProperty.watched with
      | false => simp
      | true => simp [push_ne_nil]

theorem deliverAll_of_gone (h : s.objects.live.lookup p = none) :
    s.deliverAll p updates = s := by
  unfold deliverAll
  induction updates with
  | nil => rfl
  | cons properties rest ih =>
      have hdeliver : s.deliver p properties = s := by
        unfold deliver
        rw [h]
      rw [List.foldl_cons, hdeliver]
      exact ih

section End

variable {objectPath : Text} (h : Streaming s p objectPath s' t values)
  (hend : (t.updateFromProperties properties).1.mState.final = true)
include h hend

theorem Streaming.deliver_end
    (hcleanup : (ProfilePbap.monitorTransfer (t.updateFromProperties properties).1
      s'.mTransferStateMap).cleanup = true) :
    s'.deliver p properties =
      s'.closed p t.key (fun _ => (t.updateFromProperties properties).1)
        (ProfilePbap.monitorTransfer (t.updateFromProperties properties).1
          s'.mTransferStateMap) := by
  have hchanged : (t.updateFromProperties properties).2 = true := by
    by_contra hnot
    rw [Bool.not_eq_true] at hnot
    rw [ObexTransfer.updateFromProperties_mState hnot, h.running] at hend
    cases hend
  rw [h.deliver_eq, update_of_cleanup h.live h.table hend hchanged
    (by rw [h.mWatchCallback_eq]; exact hcleanup), h.mWatchCallback_eq]

theorem Streaming.end_first (hvalues : values = []) :
    (s'.deliver p properties).misuses ≠ s.misuses := by
  have hpath := (t.updateFromProperties_mObjectPath properties).trans h.path
  have hnone : s'.mTransferStateMap.lookup (t.updateFromProperties properties).1.mObjectPath =
      none := by
    rw [hpath, h.remembered, hvalues]
    rfl
  obtain ⟨hcleanup, herases⟩ := monitorTransfer_of_final_first hend hnone
  rw [h.deliver_end hend hcleanup, ← h.misuses]
  unfold closed record
  dsimp only
  rw [herases, if_pos rfl]
  exact List.cons_ne_self _ _

/-- The end after other states makes the values told a stream, and the transfer is forgotten. -/
theorem Streaming.end_after (hvalues : values ≠ []) :
    let ended := s'.deliver p properties
    (∃ told, ended.statusesOf p = s.statusesOf p ++ told ∧
      StatusStream (t.updateFromProperties properties).1.mState told) ∧
    ended.objects.live.lookup p = none ∧
    ended.objects.table.lookup (.path objectPath) = none ∧
    ended.mTransferStateMap.lookup objectPath = none ∧
    ended.misuses = s.misuses := by
  have hpath := (t.updateFromProperties_mObjectPath properties).trans h.path
  obtain ⟨earlier, reported, heq⟩ := List.eq_nil_or_concat values |>.resolve_left hvalues
  have hlast : values.getLast? = some reported := by
    rw [heq, List.concat_eq_append, List.getLast?_concat]
  have hopen : OpenValue reported := h.openValues _ (List.mem_of_getLast? hlast)
  have hfound : s'.mTransferStateMap.lookup (t.updateFromProperties properties).1.mObjectPath =
      some reported := by
    rw [hpath, h.remembered, hlast]
  obtain ⟨hcleanup, herases, hforgotten, htold⟩ := monitorTransfer_of_final hend hfound hopen
  rw [hpath] at hforgotten
  dsimp only
  rw [h.deliver_end hend hcleanup]
  refine ⟨⟨values ++ ((if (t.updateFromProperties properties).1.mState = .complete ∧
      reported = "idle" then ["active"] else []) ++
        [stateString (t.updateFromProperties properties).1.mState]), ?_, ?_⟩,
    ?_, ?_, hforgotten, ?_⟩
  · rw [← htold, ← List.append_assoc, ← h.told]
    exact statusesOf_record
  · rw [← List.append_assoc]
    split_ifs with hidle
    · -- the report of an active transfer that was skipped
      have hchanges : (values ++ ["active"]).IsChain (· ≠ ·) := by
        refine isChain_concat h.changes ?_
        rw [hlast, hidle.2]
        decide
      refine statusStream_concat ?_ hchanges hend fun _ => List.getLast?_concat
      intro v hv
      rcases List.mem_append.mp hv with hv | hv
      · exact h.openValues v hv
      · exact .inr (List.mem_singleton.mp hv)
    · rw [List.append_nil]
      refine statusStream_concat h.openValues h.changes hend fun hcomplete => ?_
      rw [hlast, hopen.resolve_left fun hreported => hidle ⟨hcomplete, hreported⟩]
  · exact AList.lookup_erase _ _
  · rw [← h.key]
    exact AList.lookup_erase _ _
  · unfold closed record
    dsimp only
    rw [herases, if_neg Bool.false_ne_true]
    exact h.misuses

end End

end Transfers

/-- A phone book transfer that ends is reported by a stream of states, forgotten, and erases what
it has found, if and only if its watcher is told of a state before the end. -/
theorem pbap_streamsStatuses_iff (s : Transfers) (objectPath : Text)
    (updates : List (List TransferProperty)) (final : List TransferProperty)
    (hnew : s.objects.table.lookup (.path objectPath) = none)
    (hforgotten : s.mTransferStateMap.lookup objectPath = none)
    (hopen : (phoneBookTransfer objectPath).StaysOpen updates)
    (hend : ((phoneBookTransfer objectPath).afterUpdates (updates ++ [final])).mState.final =
      true) :
    s.StreamsStatuses objectPath updates final ↔
      ∃ properties ∈ updates, properties.any TransferProperty.watched = true := by
  obtain ⟨values, hstreaming, hvalues⟩ :=
    (Transfers.streaming_start hnew hforgotten).deliverAll hopen
  have hlast : (phoneBookTransfer objectPath).afterUpdates (updates ++ [final]) =
      (((phoneBookTransfer objectPath).afterUpdates updates).updateFromProperties final).1 := by
    unfold ObexTransfer.afterUpdates
    rw [List.foldl_append]
    rfl
  have hdeliver : (s.startPhoneBookTransfer objectPath).deliverAll s.objects.next
      (updates ++ [final]) = ((s.startPhoneBookTransfer objectPath).deliverAll s.objects.next
        updates).deliver s.objects.next final := by
    unfold Transfers.deliverAll
    rw [List.foldl_append]
    rfl
  rw [hlast] at hend
  have hseen : values ≠ [] ↔
      ∃ properties ∈ updates, properties.any TransferProperty.watched = true := by
    rw [hvalues]
    exact or_iff_right fun hne => hne rfl
  rw [← hseen]
  unfold Transfers.StreamsStatuses
  dsimp only
  rw [hlast, hdeliver]
  constructor
  · rintro ⟨_, _, _, _, hmisuses⟩ hnil
    exact hstreaming.end_first hend hnil hmisuses
  · intro hne
    obtain ⟨⟨told, htold, hstream⟩, hgone, htable, hstates, hmisuses⟩ :=
      hstreaming.end_after hend hne
    rw [htold, List.drop_left]
    refine ⟨hstream, fun later => ?_, htable, hstates, hmisuses⟩
    rw [Transfers.deliverAll_of_gone hgone]

/-- A phone book that is queued and then complete. -/
theorem pbap_streamsStatuses_iff_queued :
    Transfers.StreamsStatuses {} "/transfer0".toList [[.status "queued"]] [.status "complete"] :=
  (pbap_streamsStatuses_iff {} "/transfer0".toList [[.status "queued"]] [.status "complete"]
    rfl rfl ⟨by decide, trivial⟩ (by decide)).mpr
    ⟨[.status "queued"], List.mem_cons_self, rfl⟩

/-- A small phone book is complete when it is seen first, and was never reported as active. -/
theorem pbap_completed_first :
    ¬ ∀ (s : Transfers) (objectPath : Text) (updates : List (List TransferProperty))
      (final : List TransferProperty),
      s.objects.table.lookup (.path objectPath) = none →
      s.mTransferStateMap.lookup objectPath = none →
      (phoneBookTransfer objectPath).StaysOpen updates →
      ((phoneBookTransfer objectPath).afterUpdates (updates ++ [final])).mState.final = true →
      s.StreamsStatuses objectPath updates final := by
  intro h
  have hstream := (h {} "/transfer0".toList [] [.status "complete"] rfl rfl trivial (by decide)).1
  exact absurd (hstream.afterActive [] [] (by decide)) (by decide)

end BluezSil.Obex
