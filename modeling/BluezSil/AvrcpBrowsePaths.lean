import BluezSil.AvrcpPlayers
import BluezSil.TextSearch

/-!
# Browsing the items of an AVRCP player

The path of an item is told to the client without what stands before the player, and is
completed again from the path of the player when the client names the item.
-/

namespace BluezSil.Avrcp

open TextSearch

inductive BrowseError
  | none
  | fail
  | notAllowed
  | avrcpNotAFolder
  | avrcpItemNotPlayable
  deriving DecidableEq

inductive BluetoothAvrcpItemType
  | audio
  | video
  | folder
  deriving DecidableEq

inductive TrackProperty
  | duration (value : UInt32)
  | title (value : Text)
  | album (value : Text)
  | artist (value : Text)
  | genre (value : Text)
  | numberOfTracks (value : UInt32)
  | trackNumber (value : UInt32)
  | other (key : Text)

inductive ItemProperty
  | name (value : Text)
  | playable (value : Bool)
  | type (value : Text)
  | metadata (entries : List TrackProperty)
  | other (key : Text)

/-- What no entry has set is `none`. -/
structure BluetoothMediaMetaData where
  duration : Option UInt32 := none
  title : Option Text := none
  album : Option Text := none
  artist : Option Text := none
  genre : Option Text := none
  trackCount : Option UInt32 := none
  trackNumber : Option UInt32 := none

structure BluetoothFolderItem where
  path : Text
  name : Option Text := none
  playable : Option Bool := none
  type : Option BluetoothAvrcpItemType := none
  metadata : Option BluetoothMediaMetaData := none

structure MediaItem where
  type : Option Text
  playable : Bool

/-- The objects of BlueZ and how it answers the methods. A proxy that cannot be made or is
null is `none`. -/
structure MediaBus where
  listItems : Text → UInt32 → UInt32 → Except String (Option (List (Text × List ItemProperty)))
  search : Text → Text → Except String Text
  mediaItem : Text → Option MediaItem
  changeFolder : Text → Text → Reply
  play : Text → Reply
  addtoNowPlaying : Text → Reply

def MediaBus.isFolder (bus : MediaBus) (object : Text) : Bool :=
  (bus.mediaItem object).any fun mediaItem => mediaItem.type = some "folder".toList

def MediaBus.isPlayable (bus : MediaBus) (object : Text) : Bool :=
  (bus.mediaItem object).any MediaItem.playable

/-- A method with the object it is called on, and the folder it names. -/
inductive MediaCall
  | changeFolder (object folder : Text)
  | play (object : Text)
  | addtoNowPlaying (object : Text)
  deriving DecidableEq

structure Bluez5MediaFolder where
  mPlayerObjPath : Text

structure BrowsedPlayer extends Bluez5MediaPlayer where
  searchable : Bool := false
  mMediaFolder : Option Bluez5MediaFolder := none

def playerText : Text := "player".toList

/-- The item path without the part of BlueZ. -/
def itemPath (itemObject : Text) : Text :=
  match find playerText itemObject with
  | some pos => erase itemObject 0 (some pos)
  | none => itemObject

/-- The position of the slash is passed as a length. -/
def finalItemPath (playerPath itemPath : Text) : Text :=
  (match find playerText playerPath with
    | some pos => erase playerPath pos (findFrom ['/'] playerPath pos)
    | none => playerPath) ++ itemPath

def itemTypeStringToEnum (type : Text) : BluetoothAvrcpItemType :=
  if type = "audio".toList then .audio
  else if type = "video".toList then .video
  else if type = "folder".toList then .folder
  else .audio

def BluetoothMediaMetaData.set (m : BluetoothMediaMetaData) :
    TrackProperty → BluetoothMediaMetaData
  | .duration value => { m with duration := some value }
  | .title value => { m with title := some value }
  | .album value => { m with album := some value }
  | .artist value => { m with artist := some value }
  | .genre value => { m with genre := some value }
  | .numberOfTracks value => { m with trackCount := some value }
  | .trackNumber value => { m with trackNumber := some value }
  | .other _ => m

def BluetoothFolderItem.set (item : BluetoothFolderItem) : ItemProperty → BluetoothFolderItem
  | .name value => { item with name := some value }
  | .playable value => { item with playable := some value }
  | .type value => { item with type := some (itemTypeStringToEnum value) }
  | .metadata entries => { item with metadata := some (entries.foldl .set {}) }
  | .other _ => item

@[simp] theorem BluetoothFolderItem.set_path (item : BluetoothFolderItem) (p : ItemProperty) :
    (item.set p).path = item.path := by
  cases p <;> rfl

def folderItem (entry : Text × List ItemProperty) : BluetoothFolderItem :=
  entry.2.foldl .set { path := itemPath entry.1 }

namespace Bluez5MediaFolder

section Operations

variable (folder : Bluez5MediaFolder) (bus : MediaBus)

/-- Nothing is reported for a reply without items. -/
def getFolderItems (startIndex endIndex : UInt32) :
    Option (BrowseError × List BluetoothFolderItem) :=
  match bus.listItems folder.mPlayerObjPath startIndex endIndex with
  | .error _ => some (.fail, [])
  | .ok none => none
  | .ok (some items) => some (.none, items.map folderItem)

def search (searchString : Text) : BrowseError × Text :=
  match bus.search folder.mPlayerObjPath searchString with
  | .error _ => (.fail, [])
  | .ok outFolder => (.none, itemPath outFolder)

def changePath (itemPath : Text) : BrowseError × List MediaCall :=
  match bus.mediaItem itemPath with
  | none => (.fail, [])
  | some mediaItem =>
    match mediaItem.type with
    | none => (.fail, [])
    | some type =>
      if type ≠ "folder".toList then (.avrcpNotAFolder, [])
      else
        (if (bus.changeFolder folder.mPlayerObjPath itemPath).isSome then .fail else .none,
          [.changeFolder folder.mPlayerObjPath itemPath])

end Operations

def playItem (_ : Bluez5MediaFolder) (bus : MediaBus) (itemPath : Text) :
    BrowseError × List MediaCall :=
  match bus.mediaItem itemPath with
  | none => (.fail, [])
  | some mediaItem =>
    if mediaItem.playable then
      (if (bus.play itemPath).isSome then .fail else .none, [.play itemPath])
    else (.avrcpItemNotPlayable, [])

def addToNowPlaying (_ : Bluez5MediaFolder) (bus : MediaBus) (itemPath : Text) :
    BrowseError × List MediaCall :=
  match bus.mediaItem itemPath with
  | none => (.fail, [])
  | some mediaItem =>
    if mediaItem.playable then
      (match bus.addtoNowPlaying itemPath with
        | some message =>
          if strstr message "org.bluez.Error.NotSupported" then .notAllowed else .fail
        | none => .none,
        [.addtoNowPlaying itemPath])
    else (.avrcpItemNotPlayable, [])

/-! What the operations of a folder call on BlueZ. -/

section Calls

variable (folder : Bluez5MediaFolder) (bus : MediaBus) (itemPath : Text)

theorem changePath_calls : (folder.changePath bus itemPath).2 =
    if bus.isFolder itemPath then [.changeFolder folder.mPlayerObjPath itemPath] else [] := by
  unfold changePath MediaBus.isFolder
  cases bus.mediaItem itemPath with
  | none => rfl
  | some mediaItem =>
      cases htype : mediaItem.type with
      | none => simp [htype]
      | some type =>
          simp only [Option.any_some, htype, Option.some.injEq, decide_eq_true_eq, ne_eq]
          by_cases hfolder : type = "folder".toList
          · rw [if_neg (not_not.mpr hfolder), if_pos hfolder]
          · rw [if_pos hfolder, if_neg hfolder]

theorem playItem_calls : (folder.playItem bus itemPath).2 =
    if bus.isPlayable itemPath then [.play itemPath] else [] := by
  unfold playItem MediaBus.isPlayable
  cases bus.mediaItem itemPath with
  | none => rfl
  | some mediaItem => cases hplayable : mediaItem.playable <;> simp [hplayable]

theorem addToNowPlaying_calls : (folder.addToNowPlaying bus itemPath).2 =
    if bus.isPlayable itemPath then [.addtoNowPlaying itemPath] else [] := by
  unfold addToNowPlaying MediaBus.isPlayable
  cases bus.mediaItem itemPath with
  | none => rfl
  | some mediaItem => cases hplayable : mediaItem.playable <;> simp [hplayable]

end Calls

end Bluez5MediaFolder

namespace BrowsedPlayer

variable (player : BrowsedPlayer) (bus : MediaBus)

def getFolderItems (startIndex endIndex : UInt32) :
    Option (BrowseError × List BluetoothFolderItem) :=
  match player.mMediaFolder with
  | none => some (.notAllowed, [])
  | some folder => folder.getFolderItems bus startIndex endIndex

def search (searchString : Text) : BrowseError × Text :=
  if player.searchable then
    match player.mMediaFolder with
    | none => (.notAllowed, [])
    | some folder => folder.search bus searchString
  else (.notAllowed, [])

def changePath (itemPath : Text) : BrowseError × List MediaCall :=
  match player.mMediaFolder with
  | none => (.notAllowed, [])
  | some folder => folder.changePath bus (finalItemPath player.path itemPath)

def playItem (itemPath : Text) : BrowseError × List MediaCall :=
  match player.mMediaFolder with
  | none => (.notAllowed, [])
  | some folder => folder.playItem bus (finalItemPath player.path itemPath)

def addToNowPlaying (itemPath : Text) : BrowseError × List MediaCall :=
  match player.mMediaFolder with
  | none => (.notAllowed, [])
  | some folder => folder.addToNowPlaying bus (finalItemPath player.path itemPath)

end BrowsedPlayer

/-- The path of a player: `player` begins the last component and is nowhere before it. -/
structure PlayerPath where
  parent : Text
  name : Text
  parent_slash : parent = [] ∨ ∃ before, parent = before ++ ['/']
  parent_player : ¬ playerText <:+: parent
  name_player : playerText <+: name
  name_slash : '/' ∉ name

namespace PlayerPath

variable (p : PlayerPath) (below : Text)

def path : Text := p.parent ++ p.name

def item : Text := p.path ++ '/' :: below

theorem find_player (rest : Text) :
    find playerText (p.parent ++ (p.name ++ rest)) = some p.parent.length :=
  find_component (by decide) (by decide) p.parent_slash p.parent_player
    (p.name_player.trans (List.prefix_append p.name rest))

theorem itemPath_item : itemPath (p.item below) = p.name ++ '/' :: below := by
  unfold itemPath item path
  rw [List.append_assoc, p.find_player]
  simp [erase]

theorem finalItemPath_path (itemPath : Text) :
    finalItemPath p.path itemPath = p.parent ++ itemPath := by
  have hfind : find playerText p.path = some p.parent.length := by
    simpa [path] using p.find_player []
  -- without a slash in the name there is no length, and the whole name goes
  have hslash : findFrom ['/'] p.path p.parent.length = none := by
    unfold findFrom path
    rw [List.drop_left, find_singleton_of_not_mem p.name_slash]
    rfl
  unfold finalItemPath
  rw [hfind]
  simp only [hslash, erase]
  rw [path, List.take_left]

theorem finalItemPath_itemPath : finalItemPath p.path (itemPath (p.item below)) = p.item below := by
  rw [p.finalItemPath_path, p.itemPath_item, item, path, List.append_assoc]

end PlayerPath

namespace BrowsedPlayer

/-- The item path is completed to the path of the object, and the methods called are those on the
object, provided that it is a folder or playable. -/
structure Addresses (player : BrowsedPlayer) (bus : MediaBus) (folder : Bluez5MediaFolder)
    (itemPath itemObject : Text) : Prop where
  object : finalItemPath player.path itemPath = itemObject
  changePath : (player.changePath bus itemPath).2 =
    if bus.isFolder itemObject then [.changeFolder folder.mPlayerObjPath itemObject] else []
  playItem : (player.playItem bus itemPath).2 =
    if bus.isPlayable itemObject then [.play itemObject] else []
  addToNowPlaying : (player.addToNowPlaying bus itemPath).2 =
    if bus.isPlayable itemObject then [.addtoNowPlaying itemObject] else []

variable {player : BrowsedPlayer} {bus : MediaBus} {folder : Bluez5MediaFolder} {p : PlayerPath}

theorem addresses_item (hfolder : player.mMediaFolder = some folder)
    (hpath : player.path = p.path) (below : Text) :
    player.Addresses bus folder (itemPath (p.item below)) (p.item below) := by
  have hfinal : finalItemPath player.path (itemPath (p.item below)) = p.item below := by
    rw [hpath, p.finalItemPath_itemPath]
  refine ⟨hfinal, ?_, ?_, ?_⟩
  · simp only [BrowsedPlayer.changePath, hfolder, hfinal]
    exact folder.changePath_calls bus _
  · simp only [BrowsedPlayer.playItem, hfolder, hfinal]
    exact folder.playItem_calls bus _
  · simp only [BrowsedPlayer.addToNowPlaying, hfolder, hfinal]
    exact folder.addToNowPlaying_calls bus _

end BrowsedPlayer

theorem folderItem_path (entry : Text × List ItemProperty) :
    (folderItem entry).path = itemPath entry.1 := by
  have hset : ∀ (properties : List ItemProperty) (item : BluetoothFolderItem),
      (properties.foldl BluetoothFolderItem.set item).path = item.path := by
    intro properties
    induction properties with
    | nil => exact fun _ => rfl
    | cons property properties ih => exact fun item => (ih _).trans (item.set_path property)
  exact hset entry.2 _

/-- The items of a folder and the folder of a search are told to the client with paths that
address them again. -/
theorem browse_addresses_objects {player : BrowsedPlayer} {folder : Bluez5MediaFolder}
    {p : PlayerPath} (bus : MediaBus) (hfolder : player.mMediaFolder = some folder)
    (hpath : player.path = p.path) :
    (∀ startIndex endIndex items,
      bus.listItems folder.mPlayerObjPath startIndex endIndex = .ok (some items) →
      (∀ entry ∈ items, ∃ below, entry.1 = p.item below) →
      ∃ itemList, player.getFolderItems bus startIndex endIndex = some (.none, itemList) ∧
        List.Forall₂ (fun item entry => player.Addresses bus folder item.path entry.1)
          itemList items) ∧
    (player.searchable = true → ∀ searchString below,
      bus.search folder.mPlayerObjPath searchString = .ok (p.item below) →
      ∃ path, player.search bus searchString = (.none, path) ∧
        player.Addresses bus folder path (p.item below)) := by
  refine ⟨fun startIndex endIndex items hitems hbelow => ?_,
    fun hsearchable text below hsearch => ?_⟩
  · refine ⟨items.map folderItem, ?_, ?_⟩
    · simp only [BrowsedPlayer.getFolderItems, hfolder, Bluez5MediaFolder.getFolderItems, hitems]
    · rw [List.forall₂_map_left_iff, List.forall₂_same]
      intro entry hentry
      obtain ⟨below, heq⟩ := hbelow entry hentry
      rw [folderItem_path, heq]
      exact BrowsedPlayer.addresses_item hfolder hpath below
  · refine ⟨itemPath (p.item below), ?_, BrowsedPlayer.addresses_item hfolder hpath below⟩
    simp only [BrowsedPlayer.search, hsearchable, if_true, hfolder, Bluez5MediaFolder.search,
      hsearch]

/-- A player whose item has the marker and further slashes in its own names. -/
theorem browse_addresses_objects_nested :
    let p : PlayerPath :=
      { parent := "/org/bluez/hci0/".toList
        name := "player0".toList
        parent_slash := .inr ⟨"/org/bluez/hci0".toList, by decide⟩
        parent_player := find_eq_none_iff.mp (by decide)
        name_player := by decide
        name_slash := by decide }
    let folder : Bluez5MediaFolder := ⟨p.path⟩
    let player : BrowsedPlayer := { pointer := 0, path := p.path, mMediaFolder := some folder }
    let object := p.item "player/player1/item2".toList
    let items : List (Text × List ItemProperty) := [(object, [])]
    let bus : MediaBus :=
      { listItems := fun _ _ _ => .ok (some items)
        search := fun _ _ => .ok (p.item "Search".toList)
        mediaItem := fun o => if o = object then some ⟨some "folder".toList, true⟩ else none
        changeFolder := fun _ _ => none
        play := fun _ => none
        addtoNowPlaying := fun _ => none }
    ∃ itemList, player.getFolderItems bus 0 9 = some (.none, itemList) ∧
      List.Forall₂ (fun item entry => player.Addresses bus folder item.path entry.1)
        itemList items := by
  intro p folder player object items bus
  have h := @browse_addresses_objects player folder p bus rfl rfl
  refine h.1 0 9 items rfl fun entry hentry => ⟨"player/player1/item2".toList, ?_⟩
  rw [List.mem_singleton.mp hentry]

end BluezSil.Avrcp
