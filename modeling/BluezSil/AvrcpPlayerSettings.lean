import BluezSil.AvrcpPlayStatus
import BluezSil.KeyedFold

/-!
# Settings and properties of a remote player

Application settings are set one call after the other, up to the first that fails, as texts
that the player tells back in the same form. The properties of a player are asked for again
whenever one of them changes, and told if the answer differs from what is known.
-/

namespace BluezSil.Avrcp

open KeyedFold

/-! ### Application settings -/

def ApplicationSetting.entry : ApplicationSetting → String × Text
  | .equalizer value => ("Equalizer", equalizerEnumToString value)
  | .repeats value => ("Repeat", repeatEnumToString value)
  | .shuffle value => ("Shuffle", groupEnumToString value)
  | .scan value => ("Scan", groupEnumToString value)

/-- The calls that set the properties, of which each comes with its reply, and the result. -/
def setPlayerApplicationSettingsProperties :
    List (ApplicationSetting × Reply) → List (String × Text) × BluetoothError
  | [] => ([], .none)
  | (prop, reply) :: rest =>
    match reply with
    | some _ => ([prop.entry], .fail)
    | none =>
      let (calls, error) := setPlayerApplicationSettingsProperties rest
      (prop.entry :: calls, error)

def PlayerProperty.ofEntry (entry : String × Text) : PlayerProperty :=
  if entry.1 = "Equalizer" then .equalizer entry.2
  else if entry.1 = "Repeat" then .repeats entry.2
  else if entry.1 = "Shuffle" then .shuffle entry.2
  else if entry.1 = "Scan" then .scan entry.2
  else .other

def PlayerProperty.setting : PlayerProperty → Option ApplicationSetting
  | .equalizer value => some (.equalizer (equalizerStringToEnum value))
  | .repeats value => some (.repeats (repeatStringToEnum value))
  | .shuffle value => some (.shuffle (groupStringToEnum value))
  | .scan value => some (.scan (groupStringToEnum value))
  | _ => none

def PlayerNews.settings? : PlayerNews → Option (List ApplicationSetting)
  | .playerApplicationSettingsReceived settings => some settings
  | _ => none

def PlayerNews.infos? : PlayerNews → Option (List BluetoothPlayerInfo)
  | .playerInfoReceived infos => some infos
  | _ => none

def settingsTold (calls : List PlayerCall) : List (List ApplicationSetting) :=
  newsTold PlayerNews.settings? calls

def infosTold (calls : List PlayerCall) : List (List BluetoothPlayerInfo) :=
  newsTold PlayerNews.infos? calls

def accepted (properties : List (ApplicationSetting × Reply)) : List ApplicationSetting :=
  (properties.takeWhile fun p => p.2 = none).map Prod.fst

def refused (properties : List (ApplicationSetting × Reply)) : Option ApplicationSetting :=
  (properties.find? fun p => p.2 ≠ none).map Prod.fst

section Settings

variable {profile : PlayerProfile} {s : Handling}

/-- What a text is read as is what it was written from, unknown values included. -/
theorem setting_ofEntry (setting : ApplicationSetting) :
    (PlayerProperty.ofEntry setting.entry).setting = some setting := by
  cases setting with
  | equalizer value => cases value <;> decide
  | repeats value => cases value <;> decide
  | shuffle value => cases value <;> decide
  | scan value => cases value <;> decide

theorem setProperties_calls (properties : List (ApplicationSetting × Reply)) :
    ((setPlayerApplicationSettingsProperties properties).2 = .none ↔
      ∀ p ∈ properties, p.2 = none) ∧
    (setPlayerApplicationSettingsProperties properties).1 =
      (accepted properties ++ (refused properties).toList).map ApplicationSetting.entry := by
  induction properties with
  | nil => exact ⟨iff_of_true rfl fun _ h => absurd h List.not_mem_nil, rfl⟩
  | cons p rest ih =>
      obtain ⟨prop, reply⟩ := p
      obtain ⟨hnone, hcalls⟩ := ih
      cases reply with
      | some message =>
          refine ⟨iff_of_false (fun h => by cases h) fun h => ?_, rfl⟩
          cases h _ List.mem_cons_self
      | none =>
          refine ⟨hnone.trans ?_, ?_⟩
          · rw [List.forall_mem_cons]
            exact (and_iff_right rfl).symm
          · have haccepted : accepted ((prop, none) :: rest) = prop :: accepted rest := rfl
            have hrefused : refused ((prop, none) :: rest) = refused rest := rfl
            rw [haccepted, hrefused, List.cons_append, List.map_cons, ← hcalls]
            rfl

/-- What the play status and the track do not touch. -/
def Handling.kept {α : Type} (pick : PlayerNews → Option α) (s : Handling) :
    List ApplicationSetting × BluetoothPlayerInfo × List α :=
  (s.applicationSettings, s.player.mPlayerInfo, newsTold pick s.calls)

/-- News of this kind are neither about the play status nor about the track. -/
structure Apart {α : Type} (pick : PlayerNews → Option α) : Prop where
  status : ∀ status, pick (.mediaPlayStatusReceived status) = none
  data : ∀ data, pick (.mediaDataReceived data) = none

theorem kept_tell {α : Type} {pick : PlayerNews → Option α} {news : PlayerNews}
    (h : pick news = none) : (s.tell profile news).kept pick = s.kept pick := by
  refine Prod.ext ?_ (Prod.ext (congrArg MediaPlayer.mPlayerInfo (tell_player news))
    (newsTold_tell_none h))
  unfold Handling.tell
  split_ifs <;> rfl

theorem kept_changePlayStatus {α : Type} {pick : PlayerNews → Option α} (hpick : Apart pick)
    (differs : Bool) (status : BluetoothMediaPlayStatus) :
    (s.changePlayStatus profile differs status).kept pick = s.kept pick := by
  unfold Handling.changePlayStatus
  split_ifs
  · exact (kept_tell (hpick.status status)).trans rfl
  · rfl

theorem kept_track {α : Type} {pick : PlayerNews → Option α} (hpick : Apart pick)
    (entries : List TrackProperty) : (s.track profile entries).kept pick = s.kept pick := by
  have hentries (t : Handling × BluetoothMediaMetaData) :
      (entries.foldl (Handling.trackEntry profile) t).1.kept pick = t.1.kept pick := by
    induction entries generalizing t with
    | nil => rfl
    | cons entry rest ih =>
        rw [List.foldl_cons, ih]
        cases entry with
        | duration value => exact kept_changePlayStatus hpick _ _
        | _ => rfl
  exact (kept_tell (hpick.data _)).trans (hentries (s, {}))

theorem kept_property {α : Type} {pick : PlayerNews → Option α} (hpick : Apart pick)
    (profile : PlayerProfile) (s : Handling) {p : PlayerProperty} (hsetting : p.setting = none)
    (hinfo : ∀ all, p ≠ .info all) :
    (s.property profile p).kept pick = s.kept pick := by
  cases p with
  | position value => exact kept_changePlayStatus hpick _ _
  | status value =>
      unfold Handling.property
      dsimp only
      cases mPlayStatus.lookup value with
      | none => rfl
      | some status => exact kept_changePlayStatus hpick _ _
  | track entries => exact kept_track hpick entries
  | equalizer value | repeats value | shuffle value | scan value => cases hsetting
  | info all => exact absurd rfl (hinfo all)
  | other => rfl

theorem settings_apart : Apart PlayerNews.settings? := ⟨fun _ => rfl, fun _ => rfl⟩

theorem infos_apart : Apart PlayerNews.infos? := ⟨fun _ => rfl, fun _ => rfl⟩

def Handling.settled (s : Handling) : List ApplicationSetting × List (List ApplicationSetting) :=
  (s.applicationSettings, settingsTold s.calls)

theorem settled_addSetting (hconnected : profile.connected = true) (setting : ApplicationSetting) :
    (s.addSetting profile setting).settled =
      (s.applicationSettings ++ [setting],
        settingsTold s.calls ++ [s.applicationSettings ++ [setting]]) := by
  have hnonempty : ¬ profile.mConnectedDeviceAddress.isEmpty = true := by
    intro h
    rw [PlayerProfile.connected, h] at hconnected
    cases hconnected
  unfold Handling.addSetting Handling.tell
  dsimp only
  rw [if_pos hnonempty]
  exact Prod.ext rfl (newsTold_append _ _ _)

theorem settled_of_apart {p : PlayerProperty} (hsetting : p.setting = none)
    (hinfo : ∀ all, p ≠ .info all) : (s.property profile p).settled = s.settled := by
  have hkept := kept_property settings_apart profile s hsetting hinfo
  have hsettings : (s.property profile p).applicationSettings = s.applicationSettings :=
    congrArg Prod.fst hkept
  have htold : settingsTold (s.property profile p).calls = settingsTold s.calls :=
    congrArg (fun k => k.2.2) hkept
  exact Prod.ext hsettings htold

theorem settled_property (hconnected : profile.connected = true) (p : PlayerProperty) :
    (s.property profile p).settled =
      match p.setting with
      | some setting => (s.applicationSettings ++ [setting],
          settingsTold s.calls ++ [s.applicationSettings ++ [setting]])
      | none => s.settled := by
  cases p with
  | equalizer value | repeats value | shuffle value | scan value =>
      exact settled_addSetting hconnected _
  | info all =>
      unfold Handling.property Handling.playerInfo
      dsimp only
      split_ifs
      · exact Prod.ext rfl (newsTold_call_none rfl)
      · rfl
  | position value | status value | track entries | other =>
      exact settled_of_apart rfl fun _ h => by cases h

theorem getLast?_inits {α : Type} (l : List α) : l.inits.getLast? = some l := by
  induction l with
  | nil => rfl
  | cons a rest ih =>
      rw [List.inits, List.getLast?_cons, List.getLast?_map, ih]
      rfl

theorem settled_foldl (hconnected : profile.connected = true) (dictionary : List PlayerProperty) :
    (dictionary.foldl (Handling.property profile) s).settled =
      (s.applicationSettings ++ dictionary.filterMap PlayerProperty.setting,
        settingsTold s.calls ++ (dictionary.filterMap PlayerProperty.setting).inits.tail.map
          (s.applicationSettings ++ ·)) := by
  induction dictionary generalizing s with
  | nil => exact Prod.ext (List.append_nil _).symm (List.append_nil _).symm
  | cons p rest ih =>
      have hone := settled_property (s := s) hconnected p
      rw [List.foldl_cons, ih, List.filterMap_cons]
      generalize s.property profile p = t at hone
      cases hsetting : p.setting with
      | none =>
          rw [hsetting] at hone
          have hsame : t.applicationSettings = s.applicationSettings := congrArg Prod.fst hone
          have htold : settingsTold t.calls = settingsTold s.calls := congrArg Prod.snd hone
          rw [hsame, htold]
      | some setting =>
          rw [hsetting] at hone
          have hadded : t.applicationSettings = s.applicationSettings ++ [setting] :=
            congrArg Prod.fst hone
          have htold : settingsTold t.calls =
              settingsTold s.calls ++ [s.applicationSettings ++ [setting]] := congrArg Prod.snd hone
          rw [hadded, htold]
          cases rest.filterMap PlayerProperty.setting with
          | nil => simp
          | cons next later => simp

end Settings

/-- Setting properties calls the player for each of them up to and including the first it refuses,
and succeeds exactly if it refuses none. A dictionary that tells the accepted ones back, among
any other properties, makes the observer hear them as they add up, so the last it hears is all
that was accepted. -/
theorem setApplicationSettings_told (properties : List (ApplicationSetting × Reply))
    (profile : PlayerProfile) (hconnected : profile.connected = true) (player : MediaPlayer)
    (dictionary : List PlayerProperty)
    (htells : dictionary.filter (fun p => p.setting.isSome) =
      ((accepted properties).map ApplicationSetting.entry).map PlayerProperty.ofEntry) :
    ((setPlayerApplicationSettingsProperties properties).2 = .none ↔
      ∀ p ∈ properties, p.2 = none) ∧
    (setPlayerApplicationSettingsProperties properties).1 =
      (accepted properties ++ (refused properties).toList).map ApplicationSetting.entry ∧
    settingsTold (player.mediaPlayerPropertiesChanged profile dictionary).2 =
      (accepted properties).inits.tail ∧
    (accepted properties ≠ [] →
      (settingsTold (player.mediaPlayerPropertiesChanged profile dictionary).2).getLast? =
        some (accepted properties)) := by
  obtain ⟨hnone, hcalls⟩ := setProperties_calls properties
  have hread : dictionary.filterMap PlayerProperty.setting = accepted properties := by
    have hsome : dictionary.filterMap PlayerProperty.setting =
        (dictionary.filter fun p => p.setting.isSome).filterMap PlayerProperty.setting := by
      rw [List.filterMap_filter]
      congr 1
      funext p
      cases p.setting <;> rfl
    rw [hsome, htells, List.map_map, List.filterMap_map]
    have hread : (PlayerProperty.setting ∘ PlayerProperty.ofEntry ∘ ApplicationSetting.entry) =
        some := funext setting_ofEntry
    rw [hread, List.filterMap_some]
  have htold : settingsTold (player.mediaPlayerPropertiesChanged profile dictionary).2 =
      (accepted properties).inits.tail := by
    have hfold := congrArg Prod.snd (settled_foldl (s := { player }) hconnected dictionary)
    rw [hread] at hfold
    exact hfold.trans (List.map_id' _)
  refine ⟨hnone, hcalls, htold, fun hne => ?_⟩
  rw [htold]
  cases haccepted : accepted properties with
  | nil => exact absurd haccepted hne
  | cons setting rest => rw [List.inits, List.tail_cons, List.getLast?_map, getLast?_inits]; rfl

def refusedProperties : List (ApplicationSetting × Reply) :=
  [(.scan .group, none), (.repeats .unknown, some "org.bluez.Error.Failed"),
    (.equalizer .on, none)]

def stoppedPlayer : MediaPlayer where
  mMediaPlayStatus := ⟨0, 0, .stopped⟩
  mPlayerInfo := { path := "/player0".toList }

/-- The player tells the scan it has set, and where it stands. -/
theorem setApplicationSettings_told_refused :
    (setPlayerApplicationSettingsProperties refusedProperties).1 =
      [("Scan", "group".toList), ("Repeat", "unknown".toList)] ∧
    settingsTold (stoppedPlayer.mediaPlayerPropertiesChanged
      { adapterAddress := "00:11".toList, mConnectedDeviceAddress := "22:33".toList }
      [.position 3, .scan "group".toList]).2 = [[.scan .group]] := by
  obtain ⟨_, hcalls, htold, _⟩ := setApplicationSettings_told refusedProperties
    { adapterAddress := "00:11".toList, mConnectedDeviceAddress := "22:33".toList } rfl
    stoppedPlayer [.position 3, .scan "group".toList] rfl
  exact ⟨hcalls, htold⟩

/-! ### Player info -/

namespace InfoProperty

def key : InfoProperty → String
  | .name _ => "Name"
  | .type _ => "Type"
  | .playlist _ => "Playlist"
  | .browsable _ => "Browsable"
  | .searchable _ => "Searchable"
  | .other key => key

def Known (info : BluetoothPlayerInfo) : InfoProperty → Prop
  | .name value => info.name = value
  | .type value => info.type = playerTypeStringToEnum value
  | .playlist value => info.playListPath = itemPath value
  | .browsable value => info.browsable = value
  | .searchable value => info.searchable = value
  | .other _ => True

end InfoProperty

section Info

variable {s : BluetoothPlayerInfo × Bool} {p q : InfoProperty} {all : List InfoProperty}

theorem infoProperty_known (h : p.Known s.1) : MediaPlayer.infoProperty s p = s := by
  cases p with
  | other key => rfl
  | _ => exact if_neg (not_not.mpr h)

theorem known_infoProperty : p.Known (MediaPlayer.infoProperty s p).1 := by
  cases p with
  | other key => trivial
  | _ =>
      unfold MediaPlayer.infoProperty InfoProperty.Known
      dsimp only
      split_ifs with h
      · rfl
      · exact not_not.mp h

theorem known_infoProperty_of_ne (hkey : p.key ≠ q.key) (h : p.Known s.1) :
    p.Known (MediaPlayer.infoProperty s q).1 := by
  cases p with
  | other key => trivial
  | _ =>
      cases q with
      | other key => exact h
      | _ =>
          first
          | exact absurd rfl hkey
          | unfold MediaPlayer.infoProperty
            dsimp only
            split_ifs
            · exact h
            · exact h

/-- A property that is not known counts as a change. -/
theorem infoProperty_snd (s : BluetoothPlayerInfo × Bool) (p : InfoProperty) :
    (MediaPlayer.infoProperty s p).2 = true ∨ MediaPlayer.infoProperty s p = s := by
  cases p with
  | other key => exact .inr rfl
  | _ =>
      unfold MediaPlayer.infoProperty
      dsimp only
      split_ifs
      · exact .inl rfl
      · exact .inr rfl

theorem infoProperty_comm (hkey : p.key ≠ q.key) :
    MediaPlayer.infoProperty (MediaPlayer.infoProperty s p) q =
      MediaPlayer.infoProperty (MediaPlayer.infoProperty s q) p := by
  cases p with
  | other key => rfl
  | _ =>
      cases q with
      | other key => rfl
      | _ =>
          first
          | exact absurd rfl hkey
          | unfold MediaPlayer.infoProperty
            dsimp only
            split_ifs <;> rfl

theorem infoProperty_laws :
    SwapLaws MediaPlayer.infoProperty InfoProperty.key fun _ _ _ => True where
  comm := fun _ _ _ hkey _ => infoProperty_comm hkey
  keep := fun _ _ _ _ _ _ _ => trivial

theorem foldl_known (h : ∀ p ∈ all, p.Known s.1) : all.foldl MediaPlayer.infoProperty s = s := by
  induction all with
  | nil => rfl
  | cons p rest ih =>
      rw [List.foldl_cons, infoProperty_known (h p List.mem_cons_self)]
      exact ih fun q hq => h q (List.mem_cons_of_mem _ hq)

theorem foldl_keeps_known (hp : p.Known s.1) (h : ∀ q ∈ all, p.key ≠ q.key) :
    p.Known (all.foldl MediaPlayer.infoProperty s).1 := by
  induction all generalizing s with
  | nil => exact hp
  | cons q rest ih =>
      exact ih (known_infoProperty_of_ne (h q List.mem_cons_self) hp)
        fun r hr => h r (List.mem_cons_of_mem _ hr)

theorem known_foldl (hkeys : (all.map InfoProperty.key).Nodup) :
    ∀ p ∈ all, p.Known (all.foldl MediaPlayer.infoProperty s).1 := by
  induction all generalizing s with
  | nil => exact fun _ h => absurd h List.not_mem_nil
  | cons q rest ih =>
      rw [List.map_cons, List.nodup_cons] at hkeys
      intro p hp
      rcases List.mem_cons.mp hp with rfl | hp
      · rw [List.foldl_cons]
        refine foldl_keeps_known known_infoProperty fun r hr heq => hkeys.1 ?_
        rw [heq]
        exact List.mem_map_of_mem hr
      · exact ih hkeys.2 p hp

/-- A fold that counts no change has made none. -/
theorem foldl_unchanged {s : BluetoothPlayerInfo × Bool} (all : List InfoProperty)
    (h : (all.foldl MediaPlayer.infoProperty s).2 = false) :
    all.foldl MediaPlayer.infoProperty s = s := by
  have hkept (all : List InfoProperty) (s : BluetoothPlayerInfo × Bool) (hs : s.2 = true) :
      (all.foldl MediaPlayer.infoProperty s).2 = true := by
    induction all generalizing s with
    | nil => exact hs
    | cons p rest ih =>
        refine ih _ ?_
        rcases infoProperty_snd s p with hp | hp
        · exact hp
        · rw [hp]
          exact hs
  induction all with
  | nil => rfl
  | cons p rest ih =>
      rw [List.foldl_cons] at h ⊢
      rcases infoProperty_snd s p with hp | hp
      · rw [hkept rest _ hp] at h
        cases h
      · rw [hp] at h ⊢
        exact ih h

end Info

section Told

variable {profile : PlayerProfile} {player : MediaPlayer} {all all' : List InfoProperty}

theorem updatePlayerProperties_perm (hkeys : (all.map InfoProperty.key).Nodup)
    (hperm : all'.Perm all) :
    player.updatePlayerProperties all' = player.updatePlayerProperties all := by
  have hfold := infoProperty_laws.orderFree (s := (player.mPlayerInfo, false)) hkeys
    (fun _ _ _ _ _ => trivial) all' all hperm (List.Perm.refl _)
  unfold MediaPlayer.updatePlayerProperties
  rw [hfold]

theorem updatePlayerProperties_changed_iff (player : MediaPlayer)
    (hkeys : (all.map InfoProperty.key).Nodup) :
    (player.updatePlayerProperties all).2 = true ↔
      (player.updatePlayerProperties all).1.mPlayerInfo ≠ player.mPlayerInfo := by
  unfold MediaPlayer.updatePlayerProperties
  dsimp only
  constructor
  · intro hchanged hsame
    have hknown := known_foldl (s := (player.mPlayerInfo, false)) hkeys
    rw [hsame] at hknown
    rw [foldl_known (s := (player.mPlayerInfo, false)) hknown] at hchanged
    cases hchanged
  · intro hdiffers
    by_contra hnot
    have hunchanged := foldl_unchanged (s := (player.mPlayerInfo, false)) all
      ((Bool.not_eq_true _).mp hnot)
    exact hdiffers (by rw [hunchanged])

def Handling.informed (s : Handling) : BluetoothPlayerInfo × List (List BluetoothPlayerInfo) :=
  (s.player.mPlayerInfo, infosTold s.calls)

theorem informed_property (profile : PlayerProfile) (s : Handling) {p : PlayerProperty}
    (h : ∀ all, p ≠ .info all) :
    (s.property profile p).informed = s.informed := by
  cases hsetting : p.setting with
  | none =>
      have hkept := kept_property infos_apart profile s hsetting h
      exact congrArg Prod.snd hkept
  | some setting =>
      cases p with
      | equalizer value | repeats value | shuffle value | scan value =>
          exact Prod.ext (congrArg MediaPlayer.mPlayerInfo (tell_player _)) (newsTold_tell_none rfl)
      | info all => exact absurd rfl (h all)
      | _ => cases hsetting

/-- A change of the player info: the infos of all players are told if the answer has changed
this one's. -/
theorem informed_info (profile : PlayerProfile) (s : Handling) (answer : List InfoProperty) :
    (s.property profile (.info answer)).informed =
      ((s.player.updatePlayerProperties answer).1.mPlayerInfo,
        infosTold s.calls ++ if (s.player.updatePlayerProperties answer).2 then
          [profile.before ++ (s.player.updatePlayerProperties answer).1.mPlayerInfo ::
            profile.after] else []) := by
  unfold Handling.property Handling.playerInfo Handling.informed
  dsimp only
  split_ifs with hchanged
  · exact Prod.ext rfl (newsTold_append _ _ _)
  · exact Prod.ext rfl (List.append_nil _).symm

theorem informed_foldl_known {dictionary : List PlayerProperty} {s : Handling}
    (hsame : ∀ answer, .info answer ∈ dictionary → answer.Perm all)
    (hknown : ∀ p ∈ all, p.Known s.player.mPlayerInfo) :
    (dictionary.foldl (Handling.property profile) s).informed = s.informed := by
  induction dictionary generalizing s with
  | nil => rfl
  | cons p rest ih =>
      have hone : (s.property profile p).informed = s.informed := by
        by_cases hinfo : ∀ answer, p ≠ .info answer
        · exact informed_property profile s hinfo
        · push Not at hinfo
          obtain ⟨answer, rfl⟩ := hinfo
          have hperm := hsame answer List.mem_cons_self
          have hsilent : answer.foldl MediaPlayer.infoProperty (s.player.mPlayerInfo, false) =
              (s.player.mPlayerInfo, false) :=
            foldl_known fun q hq => hknown q (hperm.mem_iff.mp hq)
          rw [informed_info]
          unfold MediaPlayer.updatePlayerProperties
          dsimp only
          rw [hsilent]
          exact Prod.ext rfl (List.append_nil _)
      rw [List.foldl_cons, ih (fun answer hin => hsame answer (List.mem_cons_of_mem _ hin)), hone]
      have hinfo : (s.property profile p).player.mPlayerInfo = s.player.mPlayerInfo :=
        congrArg Prod.fst hone
      rw [hinfo]
      exact hknown

theorem informed_foldl (profile : PlayerProfile) (hkeys : (all.map InfoProperty.key).Nodup)
    {dictionary : List PlayerProperty} {s : Handling}
    (hsame : ∀ answer, .info answer ∈ dictionary → answer.Perm all)
    (hasked : ∃ answer, .info answer ∈ dictionary) :
    (dictionary.foldl (Handling.property profile) s).informed =
      ((s.player.updatePlayerProperties all).1.mPlayerInfo,
        infosTold s.calls ++ if (s.player.updatePlayerProperties all).2 then
          [profile.before ++ (s.player.updatePlayerProperties all).1.mPlayerInfo ::
            profile.after] else []) := by
  induction dictionary generalizing s with
  | nil => exact absurd hasked.choose_spec List.not_mem_nil
  | cons p rest ih =>
      have hrest (answer : List InfoProperty) (hin : .info answer ∈ rest) : answer.Perm all :=
        hsame answer (List.mem_cons_of_mem _ hin)
      rw [List.foldl_cons]
      by_cases hinfo : ∀ answer, p ≠ .info answer
      · have hone := informed_property profile s hinfo
        obtain ⟨answer, hin⟩ := hasked
        have hlater : PlayerProperty.info answer ∈ rest :=
          (List.mem_cons.mp hin).resolve_left fun heq => hinfo answer heq.symm
        have hupdate : (s.property profile p).player.updatePlayerProperties all =
            ({ (s.property profile p).player with
                mPlayerInfo := (s.player.updatePlayerProperties all).1.mPlayerInfo },
              (s.player.updatePlayerProperties all).2) := by
          have hinfo : (s.property profile p).player.mPlayerInfo = s.player.mPlayerInfo :=
            congrArg Prod.fst hone
          unfold MediaPlayer.updatePlayerProperties
          rw [hinfo]
        have htold : infosTold (s.property profile p).calls = infosTold s.calls :=
          congrArg Prod.snd hone
        rw [ih hrest ⟨answer, hlater⟩, hupdate, htold]
      · push Not at hinfo
        obtain ⟨answer, rfl⟩ := hinfo
        have hperm := hsame answer List.mem_cons_self
        have hone := informed_info profile s answer
        rw [updatePlayerProperties_perm hkeys hperm] at hone
        rw [informed_foldl_known hrest, hone]
        have hnew : (s.property profile (.info answer)).player.mPlayerInfo =
            (s.player.updatePlayerProperties all).1.mPlayerInfo := congrArg Prod.fst hone
        rw [hnew]
        exact known_foldl hkeys

end Told

/-- However many properties of the player info a dictionary has, and whatever else is among
them: if the player answers with the same properties each time, in any order, the info has
their values in the end, and the infos of all players are told once if this one's has changed
and never if it has not. A second dictionary with the same answers tells nothing. -/
theorem playerInfo_told_once (profile : PlayerProfile) (player : MediaPlayer)
    (all : List InfoProperty) (hkeys : (all.map InfoProperty.key).Nodup)
    (dictionary again : List PlayerProperty)
    (hsame : ∀ answer, .info answer ∈ dictionary → answer.Perm all)
    (hasked : ∃ answer, .info answer ∈ dictionary)
    (hagain : ∀ answer, .info answer ∈ again → answer.Perm all) :
    let o := player.mediaPlayerPropertiesChanged profile dictionary
    (∀ p ∈ all, p.Known o.1.mPlayerInfo) ∧
    infosTold o.2 = (if o.1.mPlayerInfo = player.mPlayerInfo then []
      else [profile.before ++ o.1.mPlayerInfo :: profile.after]) ∧
    infosTold (o.1.mediaPlayerPropertiesChanged profile again).2 = [] := by
  have hfold := informed_foldl profile hkeys (s := { player }) hsame hasked
  have hinfo : (player.mediaPlayerPropertiesChanged profile dictionary).1.mPlayerInfo =
      (player.updatePlayerProperties all).1.mPlayerInfo := congrArg Prod.fst hfold
  have htold : infosTold (player.mediaPlayerPropertiesChanged profile dictionary).2 =
      if (player.updatePlayerProperties all).2 then
        [profile.before ++ (player.updatePlayerProperties all).1.mPlayerInfo :: profile.after]
      else [] := congrArg Prod.snd hfold
  have hknown : ∀ p ∈ all,
      p.Known (player.mediaPlayerPropertiesChanged profile dictionary).1.mPlayerInfo := by
    rw [hinfo]
    exact known_foldl hkeys
  refine ⟨hknown, ?_, ?_⟩
  · rw [htold, hinfo]
    have hchanged := updatePlayerProperties_changed_iff player hkeys
    by_cases heq : (player.updatePlayerProperties all).1.mPlayerInfo = player.mPlayerInfo
    · rw [if_pos heq, if_neg fun h => hchanged.mp h heq]
    · rw [if_neg heq, if_pos (hchanged.mpr heq)]
  · exact congrArg Prod.snd (informed_foldl_known hagain
      (s := { player := (player.mediaPlayerPropertiesChanged profile dictionary).1 }) hknown)

/-- Two changed properties of a player that answers in two orders. -/
theorem playerInfo_told_once_renamed :
    infosTold (stoppedPlayer.mediaPlayerPropertiesChanged
      { adapterAddress := "00:11".toList, mConnectedDeviceAddress := [] }
      [.info [.name "radio".toList, .browsable true], .position 3,
        .info [.browsable true, .name "radio".toList]]).2 =
      [[{ path := "/player0".toList, name := "radio".toList, browsable := true }]] := by
  refine (playerInfo_told_once
    { adapterAddress := "00:11".toList, mConnectedDeviceAddress := [] } stoppedPlayer
    [.name "radio".toList, .browsable true] (by decide)
    [.info [.name "radio".toList, .browsable true], .position 3,
      .info [.browsable true, .name "radio".toList]] [] ?_
    ⟨_, List.mem_cons_self⟩ fun _ h => absurd h List.not_mem_nil).2.1
  intro answer hin
  simp only [List.mem_cons, PlayerProperty.info.injEq, reduceCtorEq, List.not_mem_nil, or_false,
    false_or] at hin
  rcases hin with rfl | rfl
  · exact List.Perm.refl _
  · exact List.Perm.swap _ _ _

end BluezSil.Avrcp
