import BluezSil.AvrcpBrowsePaths
import BluezSil.ChangeStream
import BluezSil.UpdateHistory

/-!
# What a remote media player is heard to play

The properties of a remote player come in dictionaries. Position, status and duration are
kept, and the observer is told the whole play status each time one of them changes, while a
device is connected. The application settings of one dictionary are told as they add up, and
a change of the player's own properties makes the profile ask for all of them again.
-/

namespace BluezSil.Avrcp

open ChangeStream UpdateHistory

inductive MediaPlayStatus
  | stopped
  | playing
  | paused
  | fwdSeek
  | revSeek
  | error
  deriving DecidableEq, Repr

structure BluetoothMediaPlayStatus where
  duration : UInt64
  position : UInt64
  status : MediaPlayStatus
  deriving DecidableEq, Repr

inductive Equalizer
  | off
  | on
  | unknown
  deriving DecidableEq, Repr

inductive Repeat
  | off
  | singleTrack
  | allTracks
  | group
  | unknown
  deriving DecidableEq, Repr

inductive GroupSetting
  | off
  | allTracks
  | group
  | unknown
  deriving DecidableEq, Repr

inductive ApplicationSetting
  | equalizer (value : Equalizer)
  | repeats (value : Repeat)
  | shuffle (value : GroupSetting)
  | scan (value : GroupSetting)
  deriving DecidableEq, Repr

inductive BluetoothAvrcpPlayerType
  | audio
  | video
  | audioBroadcast
  | videoBroadcast
  deriving DecidableEq, Repr

structure BluetoothPlayerInfo where
  path : Text
  addressed : Bool := false
  name : Text := []
  type : BluetoothAvrcpPlayerType := .audio
  playListPath : Text := []
  browsable : Bool := false
  searchable : Bool := false
  deriving DecidableEq

/-- A property in an answer to GetAll that concerns the player info. -/
inductive InfoProperty
  | name (value : Text)
  | type (value : Text)
  | playlist (value : Text)
  | browsable (value : Bool)
  | searchable (value : Bool)
  | other (key : String)
  deriving DecidableEq

/-- A changed property. Those of the player info come with the answer to GetAll. -/
inductive PlayerProperty
  | position (value : UInt32)
  | status (value : Text)
  | track (entries : List TrackProperty)
  | equalizer (value : Text)
  | repeats (value : Text)
  | shuffle (value : Text)
  | scan (value : Text)
  | info (all : List InfoProperty)
  | other

def mPlayStatus : List (Text × MediaPlayStatus) :=
  [("stopped".toList, .stopped), ("playing".toList, .playing), ("paused".toList, .paused),
   ("forward-seek".toList, .fwdSeek), ("reverse-seek".toList, .revSeek), ("error".toList, .error)]

def equalizerEnumToString : Equalizer → Text
  | .off => "off".toList
  | .on => "on".toList
  | .unknown => "unknown".toList

def repeatEnumToString : Repeat → Text
  | .off => "off".toList
  | .singleTrack => "singletrack".toList
  | .allTracks => "alltracks".toList
  | .group => "group".toList
  | .unknown => "unknown".toList

/-- `shuffleEnumToString`, and `scanEnumToString`. -/
def groupEnumToString : GroupSetting → Text
  | .off => "off".toList
  | .allTracks => "alltracks".toList
  | .group => "group".toList
  | .unknown => "unknown".toList

def equalizerStringToEnum (text : Text) : Equalizer :=
  if text = "off".toList then .off else if text = "on".toList then .on else .unknown

def repeatStringToEnum (text : Text) : Repeat :=
  if text = "off".toList then .off
  else if text = "singletrack".toList then .singleTrack
  else if text = "alltracks".toList then .allTracks
  else if text = "group".toList then .group
  else .unknown

/-- `shuffleStringToEnum`, and `scanStringToEnum`. -/
def groupStringToEnum (text : Text) : GroupSetting :=
  if text = "off".toList then .off
  else if text = "alltracks".toList then .allTracks
  else if text = "group".toList then .group
  else .unknown

def playerTypeStringToEnum (type : Text) : BluetoothAvrcpPlayerType :=
  if type = "Audio".toList then .audio
  else if type = "Video".toList then .video
  else if type = "Audio Broadcasting".toList then .audioBroadcast
  else if type = "Video Broadcasting".toList then .videoBroadcast
  else .audio

/-- What the handlers read of the profile: the addresses, and the infos of the players before
and after this one. -/
structure PlayerProfile where
  adapterAddress : Text
  mConnectedDeviceAddress : Text
  before : List BluetoothPlayerInfo := []
  after : List BluetoothPlayerInfo := []

inductive PlayerNews
  | mediaPlayStatusReceived (status : BluetoothMediaPlayStatus)
  | mediaDataReceived (data : BluetoothMediaMetaData)
  | playerApplicationSettingsReceived (settings : List ApplicationSetting)
  | playerInfoReceived (infos : List BluetoothPlayerInfo)

structure PlayerCall where
  news : PlayerNews
  adapterAddress : Text
  address : Text

structure MediaPlayer where
  mMediaPlayStatus : BluetoothMediaPlayStatus
  mPlayerInfo : BluetoothPlayerInfo

structure Handling where
  player : MediaPlayer
  applicationSettings : List ApplicationSetting := []
  calls : List PlayerCall := []

namespace Handling

variable (profile : PlayerProfile) (s : Handling)

def call (news : PlayerNews) : Handling :=
  { s with
    calls := s.calls ++ [⟨news, convertAddressToLowerCase profile.adapterAddress,
      convertAddressToLowerCase profile.mConnectedDeviceAddress⟩] }

def tell (news : PlayerNews) : Handling :=
  if ¬ profile.mConnectedDeviceAddress.isEmpty then s.call profile news else s

def setPlayStatus (status : BluetoothMediaPlayStatus) : Handling :=
  { s with player := { s.player with mMediaPlayStatus := status } }

def changePlayStatus (differs : Bool) (status : BluetoothMediaPlayStatus) : Handling :=
  if differs then (s.setPlayStatus status).tell profile (.mediaPlayStatusReceived status) else s

def changePosition (position : UInt64) : Handling :=
  let status := s.player.mMediaPlayStatus
  s.changePlayStatus profile (status.position != position) { status with position }

def changeStatus (value : MediaPlayStatus) : Handling :=
  let status := s.player.mMediaPlayStatus
  s.changePlayStatus profile (value != status.status) { status with status := value }

def changeDuration (duration : UInt64) : Handling :=
  let status := s.player.mMediaPlayStatus
  s.changePlayStatus profile (status.duration != duration) { status with duration }

def trackEntry (s : Handling × BluetoothMediaMetaData) (entry : TrackProperty) :
    Handling × BluetoothMediaMetaData :=
  match entry with
  | .duration value => (s.1.changeDuration profile value.toUInt64, s.2.set entry)
  | _ => (s.1, s.2.set entry)

def track (entries : List TrackProperty) : Handling :=
  let (s, mediaMetadata) := entries.foldl (trackEntry profile) (s, {})
  s.tell profile (.mediaDataReceived mediaMetadata)

def addSetting (setting : ApplicationSetting) : Handling :=
  let applicationSettings := s.applicationSettings ++ [setting]
  { s with applicationSettings }.tell profile
    (.playerApplicationSettingsReceived applicationSettings)

end Handling

namespace MediaPlayer

def infoProperty (s : BluetoothPlayerInfo × Bool) : InfoProperty → BluetoothPlayerInfo × Bool
  | .name value => if s.1.name ≠ value then ({ s.1 with name := value }, true) else s
  | .type value =>
    let type := playerTypeStringToEnum value
    if s.1.type ≠ type then ({ s.1 with type }, true) else s
  | .playlist value =>
    -- what stands in front of the player is erased
    let value := itemPath value
    if s.1.playListPath ≠ value then ({ s.1 with playListPath := value }, true) else s
  | .browsable value =>
    if s.1.browsable ≠ value then ({ s.1 with browsable := value }, true) else s
  | .searchable value =>
    if s.1.searchable ≠ value then ({ s.1 with searchable := value }, true) else s
  | .other _ => s

def updatePlayerProperties (player : MediaPlayer) (all : List InfoProperty) : MediaPlayer × Bool :=
  let (mPlayerInfo, changed) := all.foldl infoProperty (player.mPlayerInfo, false)
  ({ player with mPlayerInfo }, changed)

end MediaPlayer

namespace Handling

variable (profile : PlayerProfile)

/-- A change of the player's properties: the profile tells the infos of all its players if
the answer has changed this one's. -/
def playerInfo (s : Handling) (all : List InfoProperty) : Handling :=
  let (player, changed) := s.player.updatePlayerProperties all
  let s := { s with player }
  if changed then
    s.call profile (.playerInfoReceived (profile.before ++ player.mPlayerInfo :: profile.after))
  else s

def property (s : Handling) : PlayerProperty → Handling
  | .position value => s.changePosition profile value.toUInt64
  | .status value =>
    match mPlayStatus.lookup value with
    | some status => s.changeStatus profile status
    | none => s
  | .track entries => s.track profile entries
  | .equalizer value => s.addSetting profile (.equalizer (equalizerStringToEnum value))
  | .repeats value => s.addSetting profile (.repeats (repeatStringToEnum value))
  | .shuffle value => s.addSetting profile (.shuffle (groupStringToEnum value))
  | .scan value => s.addSetting profile (.scan (groupStringToEnum value))
  | .info all => s.playerInfo profile all
  | .other => s

end Handling

def MediaPlayer.mediaPlayerPropertiesChanged (profile : PlayerProfile) (player : MediaPlayer)
    (changedProperties : List PlayerProperty) : MediaPlayer × List PlayerCall :=
  let s := changedProperties.foldl (Handling.property profile) { player }
  (s.player, s.calls)

/-- The player after a history of dictionaries, each under the profile of its time, and all
calls of the observer. -/
def MediaPlayer.history (player : MediaPlayer) :
    List (PlayerProfile × List PlayerProperty) → MediaPlayer × List PlayerCall
  | [] => (player, [])
  | (profile, changedProperties) :: rest =>
    let (player, calls) := player.mediaPlayerPropertiesChanged profile changedProperties
    let (player, later) := player.history rest
    (player, calls ++ later)

/-! ### Play status -/

/-- A part of the play status that a property sets. -/
inductive StatusSetting
  | position (value : UInt64)
  | status (value : MediaPlayStatus)
  | duration (value : UInt64)

namespace StatusSetting

def applyTo (status : BluetoothMediaPlayStatus) : StatusSetting → BluetoothMediaPlayStatus
  | .position value => { status with position := value }
  | .status value => { status with status := value }
  | .duration value => { status with duration := value }

def position? : StatusSetting → Option UInt64
  | .position value => some value
  | _ => none

def status? : StatusSetting → Option MediaPlayStatus
  | .status value => some value
  | _ => none

def duration? : StatusSetting → Option UInt64
  | .duration value => some value
  | _ => none

variable (status : BluetoothMediaPlayStatus) (setting : StatusSetting)

theorem applyTo_position :
    (setting.applyTo status).position = setting.position?.getD status.position := by
  cases setting <;> rfl

theorem applyTo_status :
    (setting.applyTo status).status = setting.status?.getD status.status := by
  cases setting <;> rfl

theorem applyTo_duration :
    (setting.applyTo status).duration = setting.duration?.getD status.duration := by
  cases setting <;> rfl

end StatusSetting

def durationSetting : TrackProperty → Option StatusSetting
  | .duration value => some (.duration value.toUInt64)
  | _ => none

def PlayerProperty.settings : PlayerProperty → List StatusSetting
  | .position value => [.position value.toUInt64]
  | .status value => (mPlayStatus.lookup value).toList.map StatusSetting.status
  | .track entries => entries.filterMap durationSetting
  | _ => []

def newsTold {α : Type} (pick : PlayerNews → Option α) (calls : List PlayerCall) : List α :=
  calls.filterMap fun c => pick c.news

def PlayerNews.status? : PlayerNews → Option BluetoothMediaPlayStatus
  | .mediaPlayStatusReceived status => some status
  | _ => none

def statusesTold (calls : List PlayerCall) : List BluetoothMediaPlayStatus :=
  newsTold PlayerNews.status? calls

def hear (connected : Bool) (s : BluetoothMediaPlayStatus × List BluetoothMediaPlayStatus)
    (setting : StatusSetting) : BluetoothMediaPlayStatus × List BluetoothMediaPlayStatus :=
  let status := setting.applyTo s.1
  (status, if status = s.1 ∨ connected = false then s.2 else s.2 ++ [status])

def PlayerProfile.connected (profile : PlayerProfile) : Bool :=
  !profile.mConnectedDeviceAddress.isEmpty

section PlayStatus

variable {profile : PlayerProfile} {s : Handling}

def Handling.heard (s : Handling) :
    BluetoothMediaPlayStatus × List BluetoothMediaPlayStatus :=
  (s.player.mMediaPlayStatus, statusesTold s.calls)

theorem newsTold_append {α : Type} (pick : PlayerNews → Option α) (calls calls' : List PlayerCall) :
    newsTold pick (calls ++ calls') = newsTold pick calls ++ newsTold pick calls' :=
  List.filterMap_append

theorem newsTold_call_none {α : Type} {pick : PlayerNews → Option α} {news : PlayerNews}
    (h : pick news = none) : newsTold pick (s.call profile news).calls = newsTold pick s.calls := by
  have hnone : newsTold pick [⟨news, convertAddressToLowerCase profile.adapterAddress,
      convertAddressToLowerCase profile.mConnectedDeviceAddress⟩] = [] := List.filterMap_cons_none h
  unfold Handling.call
  rw [newsTold_append, hnone, List.append_nil]

theorem newsTold_tell_none {α : Type} {pick : PlayerNews → Option α} {news : PlayerNews}
    (h : pick news = none) : newsTold pick (s.tell profile news).calls = newsTold pick s.calls := by
  unfold Handling.tell
  split_ifs
  · rfl
  · exact newsTold_call_none h

theorem tell_player (news : PlayerNews) : (s.tell profile news).player = s.player := by
  unfold Handling.tell
  split_ifs <;> rfl

theorem heard_tell {news : PlayerNews} (h : news.status? = none) :
    (s.tell profile news).heard = s.heard :=
  Prod.ext (congrArg MediaPlayer.mMediaPlayStatus (tell_player news)) (newsTold_tell_none h)

theorem heard_changePlayStatus {differs : Bool} {t : StatusSetting}
    (h : differs = true ↔ t.applyTo s.player.mMediaPlayStatus ≠ s.player.mMediaPlayStatus) :
    (s.changePlayStatus profile differs (t.applyTo s.player.mMediaPlayStatus)).heard =
      hear profile.connected s.heard t := by
  unfold Handling.changePlayStatus hear
  dsimp only
  by_cases hdiffers : differs = true
  · have hne := h.mp hdiffers
    rw [if_pos hdiffers]
    unfold Handling.tell PlayerProfile.connected
    cases hconnected : profile.mConnectedDeviceAddress.isEmpty with
    | false =>
        rw [if_pos Bool.false_ne_true]
        have hnot : ¬ (t.applyTo s.heard.1 = s.heard.1 ∨ (!false) = false) := by
          rintro (heq | hfalse)
          · exact hne heq
          · cases hfalse
        rw [if_neg hnot]
        exact Prod.ext rfl (newsTold_append _ _ _)
    | true =>
        have hsilent : t.applyTo s.heard.1 = s.heard.1 ∨ (!true) = false := .inr rfl
        rw [if_neg fun hnot => hnot rfl, if_pos hsilent]
        rfl
  · have heq := not_not.mp (mt h.mpr hdiffers)
    rw [if_neg hdiffers]
    refine Prod.ext heq.symm ?_
    exact (if_pos (.inl heq)).symm

theorem heard_trackEntry (t : Handling × BluetoothMediaMetaData) (entry : TrackProperty) :
    (Handling.trackEntry profile t entry).1.heard =
      (durationSetting entry).toList.foldl (hear profile.connected) t.1.heard := by
  cases entry with
  | duration value =>
      refine heard_changePlayStatus (t := .duration value.toUInt64) ?_
      rw [bne_iff_ne, ne_comm, Ne, Ne, BluetoothMediaPlayStatus.mk.injEq]
      tauto
  | _ => rfl

theorem heard_track (entries : List TrackProperty) :
    (s.track profile entries).heard =
      (entries.filterMap durationSetting).foldl (hear profile.connected) s.heard := by
  have hentries (t : Handling × BluetoothMediaMetaData) :
      (entries.foldl (Handling.trackEntry profile) t).1.heard =
        (entries.filterMap durationSetting).foldl (hear profile.connected) t.1.heard := by
    induction entries generalizing t with
    | nil => rfl
    | cons entry rest ih =>
        rw [List.foldl_cons, ih, heard_trackEntry, List.filterMap_cons]
        cases durationSetting entry with
        | none => rfl
        | some setting => rfl
  exact (heard_tell rfl).trans (hentries (s, {}))

/-- A property does to the play status what its parts do one after the other. -/
theorem heard_property (p : PlayerProperty) :
    (s.property profile p).heard = p.settings.foldl (hear profile.connected) s.heard := by
  cases p with
  | position value =>
      refine heard_changePlayStatus (t := .position value.toUInt64) ?_
      rw [bne_iff_ne, ne_comm, Ne, Ne, BluetoothMediaPlayStatus.mk.injEq]
      tauto
  | status value =>
      unfold Handling.property PlayerProperty.settings
      dsimp only
      cases mPlayStatus.lookup value with
      | none => rfl
      | some status =>
          refine heard_changePlayStatus (t := .status status) ?_
          rw [bne_iff_ne, Ne, Ne, BluetoothMediaPlayStatus.mk.injEq]
          tauto
  | track entries => exact heard_track entries
  | equalizer value | repeats value | shuffle value | scan value =>
      exact heard_tell rfl
  | info all =>
      unfold Handling.property Handling.playerInfo
      dsimp only
      split_ifs
      · exact Prod.ext rfl (newsTold_call_none rfl)
      · rfl
  | other => rfl

theorem heard_foldl_property (dictionary : List PlayerProperty) :
    (dictionary.foldl (Handling.property profile) s).heard =
      (dictionary.flatMap PlayerProperty.settings).foldl (hear profile.connected) s.heard := by
  induction dictionary generalizing s with
  | nil => rfl
  | cons p rest ih => rw [List.foldl_cons, ih, heard_property, List.flatMap_cons, List.foldl_append]

theorem hear_same {connected : Bool} {setting : StatusSetting}
    {s : BluetoothMediaPlayStatus × List BluetoothMediaPlayStatus}
    (h : setting.applyTo s.1 = s.1) : hear connected s setting = s :=
  Prod.ext h (if_pos (.inl h))

theorem hear_changed {setting : StatusSetting}
    {s : BluetoothMediaPlayStatus × List BluetoothMediaPlayStatus}
    (h : setting.applyTo s.1 ≠ s.1) :
    hear true s setting = (setting.applyTo s.1, s.2 ++ [setting.applyTo s.1]) :=
  Prod.ext rfl (if_neg fun hor => hor.elim h fun hfalse => by cases hfalse)

theorem foldl_hear_unconnected (settings : List StatusSetting)
    (s : BluetoothMediaPlayStatus × List BluetoothMediaPlayStatus) :
    (settings.foldl (hear false) s).2 = s.2 := by
  induction settings generalizing s with
  | nil => rfl
  | cons setting rest ih => exact (ih _).trans (if_pos (.inr rfl))

theorem foldl_hear_append (connected : Bool) (settings : List StatusSetting)
    (told : List BluetoothMediaPlayStatus)
    (s : BluetoothMediaPlayStatus × List BluetoothMediaPlayStatus) :
    settings.foldl (hear connected) (s.1, told ++ s.2) =
      ((settings.foldl (hear connected) s).1, told ++ (settings.foldl (hear connected) s).2) := by
  induction settings generalizing s with
  | nil => rfl
  | cons setting rest ih =>
      have hone : hear connected (s.1, told ++ s.2) setting =
          ((hear connected s setting).1, told ++ (hear connected s setting).2) := by
        unfold hear
        refine Prod.ext rfl ?_
        dsimp only
        split_ifs
        · rfl
        · exact List.append_assoc _ _ _
      rw [List.foldl_cons, List.foldl_cons, hone]
      exact ih _

theorem foldl_hear_connected (settings : List StatusSetting) (start : BluetoothMediaPlayStatus) :
    start :: (settings.foldl (hear true) (start, [])).2 =
      (settings.scanl StatusSetting.applyTo start).destutter (· ≠ ·) := by
  induction settings generalizing start with
  | nil => rfl
  | cons setting rest ih =>
      rw [List.foldl_cons, List.scanl_cons, destutter_cons_scanl, ← ih]
      by_cases heq : setting.applyTo start = start
      · rw [hear_same heq, heq, if_pos rfl]
      · have htold := foldl_hear_append true rest [setting.applyTo start]
          (setting.applyTo start, [])
        rw [List.append_nil] at htold
        rw [hear_changed heq, if_neg (Ne.symm heq), List.nil_append, htold]
        rfl

theorem foldl_hear_fst (connected : Bool) (settings : List StatusSetting)
    (s : BluetoothMediaPlayStatus × List BluetoothMediaPlayStatus) :
    (settings.foldl (hear connected) s).1 = settings.foldl StatusSetting.applyTo s.1 := by
  induction settings generalizing s with
  | nil => rfl
  | cons setting rest ih => exact ih _

end PlayStatus

def settingsOf (history : List (PlayerProfile × List PlayerProperty)) : List StatusSetting :=
  history.flatMap fun h => h.2.flatMap PlayerProperty.settings

section History

variable {player : MediaPlayer} {history : List (PlayerProfile × List PlayerProperty)}

theorem mediaPlayerPropertiesChanged_heard (player : MediaPlayer) (profile : PlayerProfile)
    (dictionary : List PlayerProperty) :
    ((player.mediaPlayerPropertiesChanged profile dictionary).1.mMediaPlayStatus,
      statusesTold (player.mediaPlayerPropertiesChanged profile dictionary).2) =
      (dictionary.flatMap PlayerProperty.settings).foldl (hear profile.connected)
        (player.mMediaPlayStatus, []) :=
  heard_foldl_property dictionary

/-- A history in which the connection stays as it is does what its parts do. -/
theorem history_heard (player : MediaPlayer) (connected : Bool)
    (h : ∀ e ∈ history, e.1.connected = connected) :
    ((player.history history).1.mMediaPlayStatus, statusesTold (player.history history).2) =
      (settingsOf history).foldl (hear connected) (player.mMediaPlayStatus, []) := by
  induction history generalizing player with
  | nil => rfl
  | cons e rest ih =>
      obtain ⟨profile, dictionary⟩ := e
      have hfirst := mediaPlayerPropertiesChanged_heard player profile dictionary
      have hrest := ih (player.mediaPlayerPropertiesChanged profile dictionary).1
        fun e he => h e (List.mem_cons_of_mem _ he)
      have hconnected : profile.connected = connected := h (profile, dictionary) List.mem_cons_self
      rw [hconnected] at hfirst
      have hthen := foldl_hear_append connected (settingsOf rest)
        (statusesTold (player.mediaPlayerPropertiesChanged profile dictionary).2)
        ((player.mediaPlayerPropertiesChanged profile dictionary).1.mMediaPlayStatus, [])
      rw [List.append_nil, ← hrest, hfirst, ← List.foldl_append] at hthen
      refine Eq.trans ?_ hthen.symm
      exact Prod.ext rfl (newsTold_append _ _ _)

theorem history_status :
    (player.history history).1.mMediaPlayStatus =
      (settingsOf history).foldl StatusSetting.applyTo player.mMediaPlayStatus := by
  induction history generalizing player with
  | nil => rfl
  | cons e rest ih =>
      obtain ⟨profile, dictionary⟩ := e
      have hfirst := congrArg Prod.fst
        (mediaPlayerPropertiesChanged_heard player profile dictionary)
      rw [foldl_hear_fst] at hfirst
      unfold settingsOf
      rw [List.flatMap_cons, List.foldl_append, ← hfirst]
      exact ih

end History

/-- After any history the play status has the position, status and duration that came last.
While a device stays connected, those told are what it changes to from the start on, each
different from the one before, and the last is the play status at hand; while none is, nothing
is told. -/
theorem playStatus_history (player : MediaPlayer)
    (history : List (PlayerProfile × List PlayerProperty)) :
    (player.history history).1.mMediaPlayStatus =
      { duration := ((settingsOf history).filterMap StatusSetting.duration?).getLast?.getD
          player.mMediaPlayStatus.duration
        position := ((settingsOf history).filterMap StatusSetting.position?).getLast?.getD
          player.mMediaPlayStatus.position
        status := ((settingsOf history).filterMap StatusSetting.status?).getLast?.getD
          player.mMediaPlayStatus.status } ∧
    ((∀ e ∈ history, e.1.connected = true) →
      player.mMediaPlayStatus :: statusesTold (player.history history).2 =
        ((settingsOf history).scanl StatusSetting.applyTo player.mMediaPlayStatus).destutter
          (· ≠ ·) ∧
      (player.mMediaPlayStatus :: statusesTold (player.history history).2).IsChain (· ≠ ·) ∧
      (player.mMediaPlayStatus :: statusesTold (player.history history).2).getLast? =
        some (player.history history).1.mMediaPlayStatus) ∧
    ((∀ e ∈ history, e.1.connected = false) → statusesTold (player.history history).2 = []) := by
  refine ⟨?_, fun hconnected => ?_, fun hnot => ?_⟩
  · have hduration := foldl_replaced BluetoothMediaPlayStatus.duration
      StatusSetting.applyTo_duration player.mMediaPlayStatus (settingsOf history)
    have hposition := foldl_replaced BluetoothMediaPlayStatus.position
      StatusSetting.applyTo_position player.mMediaPlayStatus (settingsOf history)
    have hstatus := foldl_replaced BluetoothMediaPlayStatus.status
      StatusSetting.applyTo_status player.mMediaPlayStatus (settingsOf history)
    rw [history_status, ← hduration, ← hposition, ← hstatus]
  · have hheard := history_heard player true hconnected
    have hstream := foldl_hear_connected (settingsOf history) player.mMediaPlayStatus
    rw [← hheard] at hstream
    refine ⟨hstream, ?_, ?_⟩
    · rw [hstream]
      exact List.isChain_destutter _ _
    · rw [hstream, getLast?_destutter, List.getLast?_scanl, history_status]
  · have hheard := history_heard player false hnot
    have hsilent := foldl_hear_unconnected (settingsOf history) (player.mMediaPlayStatus, [])
    rw [← hheard] at hsilent
    exact hsilent

end BluezSil.Avrcp
