import BluezSil.KeyedMap
import BluezSil.SilApi
import BluezSil.TransitionRun
import Mathlib.Logic.Function.Basic

/-!
# Operations on a remote phone book

Each operation checks its arguments, looks for the session of the address and calls a method
of the session's phone book proxy. The proxy is kept in one member, from which the call and
later the completion read it. `vCardListing` calls whatever proxy is kept.
-/

namespace BluezSil.Pbap

open TransitionRun

def supportedObjects : List String := ["pb", "ich", "mch", "och", "cch"]

def supportedRepositories : List String := ["sim1", "internal"]

def supportedSearchKey : List String := ["name", "number", "sound"]

def supportedSearchOrder : List String := ["indexed", "alphanumeric", "phonetic"]

def supportedVCardVersions (vCardVersion : String) : Option String :=
  if vCardVersion = "2.1" then some "vcard21"
  else if vCardVersion = "3.0" then some "vcard30"
  else none

/-- The fields asked for, which are all of them if none is named. -/
def filterFields (vCardFilters : List String) : List String :=
  if vCardFilters.length = 0 then ["ALL"] else vCardFilters

inductive PbapError
  | none
  | fail
  | paramInvalid
  | notAllowed
  | unsupported
  | pbapCallSelectFolderType
  deriving DecidableEq, Repr

inductive PbapMethod
  | select (repository object : String)
  | getSize
  | list (filters : List String)
  | search (field value order : String)
  | pull (vCardHandle targetFile format : String) (fields : List String)
  | pullAll (targetFile format : String) (fields : List String) (offset maxCount : UInt16)
  deriving DecidableEq, Repr

/-- What a successful reply carries. Each method has one of these. -/
structure PbapOutputs where
  size : UInt16 := 0
  listing : List (String × String) := []
  objectPath : String := ""
  deriving DecidableEq, Repr

inductive PbapReply
  | error (message : String)
  | outputs (o : PbapOutputs)
  deriving DecidableEq, Repr

/-- What the caller is told. A pulled vCard is told of by its transfer. Nothing is known of a
result that is read from outputs never set. -/
inductive PbapResult
  | done (error : PbapError)
  | size (error : PbapError) (size : UInt16)
  | list (error : PbapError) (list : KeyedMap String String)
  | phoneBook (error : PbapError) (objectPath : String)
  | transferStarted (objectPath : String)
  | undefined

def PbapMethod.failed (error : PbapError) : PbapMethod → PbapResult
  | .select _ _ => .done error
  | .getSize => .size error 0
  | .list _ => .list error ∅
  | .search _ _ _ => .list error ∅
  | .pull _ _ _ _ => .done error
  | .pullAll _ _ _ _ _ => .phoneBook error ""

def PbapMethod.replyError (message : String) : PbapMethod → PbapError
  | .select _ _ =>
    if strstr message "Invalid path" then .paramInvalid
    else if strstr message "Not Found" then .unsupported
    else .fail
  | _ => if strstr message "Call Select first of all" then .pbapCallSelectFolderType else .fail

def toVCardList (listing : List (String × String)) : KeyedMap String String :=
  listing.foldl (fun m e => m.emplace e.1 e.2) ∅

/-- The callback of a method, from the reply its `finish` has found. Without a reply there is
no error and the outputs are as they were before: a size of zero, or a null pointer. -/
def PbapMethod.callback (method : PbapMethod) : Option PbapReply → PbapResult
  | some (.error message) => method.failed (method.replyError message)
  | some (.outputs o) =>
    match method with
    | .select _ _ => .done .none
    | .getSize => .size .none o.size
    | .list _ => .list .none (toVCardList o.listing)
    | .search _ _ _ => .list .none (toVCardList o.listing)
    | .pull _ _ _ _ => .transferStarted o.objectPath
    | .pullAll _ _ _ _ _ => .phoneBook .none o.objectPath
  | none =>
    match method with
    | .select _ _ => .done .none
    | .getSize => .size .none 0
    | _ => .undefined

/-- A call under way: the phone book proxy of the session at the time, and the proxy it has
been made on. -/
structure PbapCall where
  address : Text
  method : PbapMethod
  sessionProxy : Option ℕ
  proxy : ℕ
  deriving DecidableEq, Repr

/-- A session is stored with its phone book proxy, which may be null. `calls` lists all calls
that have been made, `readings` the calls whose results have been read, each with the proxy
it has been read from. -/
structure ProfilePbap where
  mSessions : KeyedMap Text (Option ℕ) := ∅
  mObjectPhonebookProxy : Option ℕ := none
  nextProxy : ℕ := 0
  pending : Text → List PbapCall := fun _ => []
  results : Text → List PbapResult := fun _ => []
  calls : List PbapCall := []
  readings : List (PbapCall × Option ℕ) := []

namespace ProfilePbap

variable (s : ProfilePbap)

def report (address : Text) (result : PbapResult) : ProfilePbap :=
  { s with results := Function.update s.results address (result :: s.results address) }

def call (address : Text) (method : PbapMethod) (sessionProxy : Option ℕ) : ProfilePbap :=
  match s.mObjectPhonebookProxy with
  | none => s.report address (method.failed .notAllowed)
  | some proxy =>
    let call := ⟨address, method, sessionProxy, proxy⟩
    { s with
      pending := Function.update s.pending address (s.pending address ++ [call])
      calls := call :: s.calls }

def callSession (address : Text) (method : PbapMethod) : ProfilePbap :=
  match s.mSessions.lookup address with
  | none => s.report address (method.failed .notAllowed)
  | some proxy => call { s with mObjectPhonebookProxy := proxy } address method proxy

def setPhoneBook (address : Text) (repository object : String) : ProfilePbap :=
  let method := .select repository object
  if repository = "" ∨ object = "" ∨ object ∉ supportedObjects ∨
      repository ∉ supportedRepositories then
    s.report address (method.failed .paramInvalid)
  else s.callSession address method

def getPhonebookSize (address : Text) : ProfilePbap := s.callSession address .getSize

/-- The session is looked for, but its proxy is not taken over. -/
def vCardListing (address : Text) : ProfilePbap :=
  let method := .list ["Offset", "MaxCount"]
  match s.mSessions.lookup address with
  | none => s.report address (method.failed .notAllowed)
  | some sessionProxy => s.call address method sessionProxy

def searchPhoneBook (address : Text) (searchOrder searchKey searchValue : String) :
    ProfilePbap :=
  let method := .search searchKey searchValue searchOrder
  if searchOrder = "" ∨ searchKey = "" ∨ searchValue = "" ∨ searchKey ∉ supportedSearchKey ∨
      searchOrder ∉ supportedSearchOrder then
    s.report address (method.failed .paramInvalid)
  else s.callSession address method

def pullvCard (address : Text) (targetFile vCardHandle vCardVersion : String)
    (vCardFilters : List String) : ProfilePbap :=
  let method format := .pull vCardHandle targetFile format (filterFields vCardFilters)
  if targetFile = "" ∨ vCardHandle = "" then
    s.report address ((method "NA").failed .paramInvalid)
  else
    match supportedVCardVersions vCardVersion with
    | none => s.report address ((method "NA").failed .paramInvalid)
    | some format => s.callSession address (method format)

def pullPhoneBook (address : Text) (destinationFile vCardVersion : String)
    (vCardFilters : List String) (startIndex maxCount : UInt16) : ProfilePbap :=
  let method format :=
    .pullAll destinationFile format (filterFields vCardFilters) startIndex maxCount
  if destinationFile = "" then s.report address ((method "NA").failed .paramInvalid)
  else
    match supportedVCardVersions vCardVersion with
    | none => s.report address ((method "NA").failed .paramInvalid)
    | some format => s.callSession address (method format)

/-- The `finish` of a call sets nothing if it is given another proxy than the one called. -/
def finish (call : PbapCall) (reply : PbapReply) : Option PbapReply :=
  if s.mObjectPhonebookProxy = some call.proxy then some reply else none

/-- A call is answered in its place among those under way for the address. -/
def completed (address : Text) (index : ℕ) (reply : PbapReply) : Option ProfilePbap :=
  (s.pending address)[index]?.map fun call =>
    let s' := { s with
      pending := Function.update s.pending address ((s.pending address).eraseIdx index)
      readings := (call, s.mObjectPhonebookProxy) :: s.readings }
    s'.report address (call.method.callback (s.finish call reply))

end ProfilePbap

inductive PbapEvent
  | sessionCreated (address : Text) (hasProxy : Bool)
  | sessionRemoved (address : Text)
  | setPhoneBook (address : Text) (repository object : String)
  | getPhonebookSize (address : Text)
  | vCardListing (address : Text)
  | searchPhoneBook (address : Text) (searchOrder searchKey searchValue : String)
  | pullvCard (address : Text) (targetFile vCardHandle vCardVersion : String)
      (vCardFilters : List String)
  | pullPhoneBook (address : Text) (destinationFile vCardVersion : String)
      (vCardFilters : List String) (startIndex maxCount : UInt16)
  | completed (address : Text) (index : ℕ) (reply : PbapReply)
  deriving DecidableEq, Repr

def PbapEvent.address : PbapEvent → Text
  | .sessionCreated address _ => address
  | .sessionRemoved address => address
  | .setPhoneBook address _ _ => address
  | .getPhonebookSize address => address
  | .vCardListing address => address
  | .searchPhoneBook address _ _ _ => address
  | .pullvCard address _ _ _ _ => address
  | .pullPhoneBook address _ _ _ _ _ => address
  | .completed address _ _ => address

/-- A session that is created is stored unless the address has one. -/
def ProfilePbap.step (s : ProfilePbap) : PbapEvent → Option ProfilePbap
  | .sessionCreated address hasProxy =>
    some
      { s with
        mSessions := s.mSessions.emplace address (if hasProxy then some s.nextProxy else none)
        nextProxy := s.nextProxy + 1 }
  | .sessionRemoved address => some { s with mSessions := s.mSessions.erase address }
  | .setPhoneBook address repository object => some (s.setPhoneBook address repository object)
  | .getPhonebookSize address => some (s.getPhonebookSize address)
  | .vCardListing address => some (s.vCardListing address)
  | .searchPhoneBook address searchOrder searchKey searchValue =>
    some (s.searchPhoneBook address searchOrder searchKey searchValue)
  | .pullvCard address targetFile vCardHandle vCardVersion vCardFilters =>
    some (s.pullvCard address targetFile vCardHandle vCardVersion vCardFilters)
  | .pullPhoneBook address destinationFile vCardVersion vCardFilters startIndex maxCount =>
    some (s.pullPhoneBook address destinationFile vCardVersion vCardFilters startIndex maxCount)
  | .completed address index reply => s.completed address index reply

def pbapMachine : Machine ProfilePbap PbapEvent := ⟨{}, ProfilePbap.step⟩

end BluezSil.Pbap
