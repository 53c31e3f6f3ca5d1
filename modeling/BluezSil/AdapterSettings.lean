import BluezSil.AdapterMirror

/-!
# Setting the properties of the adapter

A list of properties is set one by one, up to the first that cannot be set or that BlueZ
refuses. BlueZ keeps what it has taken, so a request for a property is answered with what was
set, but for a name that an alias of the adapter covers.
-/

namespace BluezSil.AdapterMirror

variable {B : Type} {store : PropertyStore B}

/-- `org.freedesktop.DBus.Properties` of `org.bluez.Adapter1`: a property that is set is what a
Get answers, and the others stay. An empty alias is not kept, it restores the name. -/
structure PropertyStore.Documented (store : PropertyStore B) : Prop where
  stored : ∀ {bus bus' name value}, store.set bus name value = some bus' →
    ¬ (name = "Alias" ∧ value = .string []) → store.get bus' name = some value
  apart : ∀ {bus bus' name value other}, store.set bus name value = some bus' → other ≠ name →
    store.get bus' other = store.get bus other

def AdapterReport.isAnswer : AdapterReport → Bool
  | .answered _ _ => true
  | _ => false

def PropertyStore.take (store : PropertyStore B) (bus : B) (property : BluetoothProperty) :
    Option B :=
  if property.getType = .discoveryTimeout then some bus
  else (propertyValueToVariant property).bind
    (store.set bus property.getType.propertyTypeToString)

/-- The properties that are set, up to the first that is not taken. -/
def applied (store : PropertyStore B) (bus : B) : List BluetoothProperty → List BluetoothProperty
  | [] => []
  | property :: rest =>
    match store.take bus property with
    | none => []
    | some bus => property :: applied store bus rest

namespace AdapterRun

def valueOf (store : PropertyStore B) (s : AdapterRun B) (type : PropertyType) :
    Option BluetoothProperty :=
  match (s.getAdapterProperty store type).reports.getLast? with
  | some (.answered .none [property]) => some property
  | _ => none

def storedValue (store : PropertyStore B) (s : AdapterRun B) (type : PropertyType) :
    Option BluetoothProperty :=
  if type = .discoveryTimeout then some (.discoveryTimeout s.adapter.mDiscoveryTimeout)
  else if type.propertyTypeToString = "" then none
  else (store.get s.bus type.propertyTypeToString).bind fun value =>
    (s.adapter.readProperty type value).2

variable {s : AdapterRun B}

theorem valueOf_eq (s : AdapterRun B) (type : PropertyType) :
    s.valueOf store type = s.storedValue store type := by
  unfold valueOf storedValue getAdapterProperty
  by_cases htimeout : type = .discoveryTimeout
  · subst htimeout
    simp [PropertyType.propertyTypeToString, answer]
  · rw [if_neg htimeout]
    by_cases hname : type.propertyTypeToString = ""
    · rw [if_pos hname, if_pos hname]
      simp [answer]
    · have hstack : type ≠ .stackName := by
        rintro rfl
        exact hname rfl
      rw [if_neg hname, if_neg hname, if_neg htimeout, if_neg hstack]
      cases store.get s.bus type.propertyTypeToString with
      | none => simp [answer]
      | some value =>
          rcases hread : s.adapter.readProperty type value with ⟨a, _ | property⟩ <;>
            simp [answer, hread]

theorem propertyTypeToString_inj {type type' : PropertyType} (h : type.propertyTypeToString ≠ "")
    (heq : type.propertyTypeToString = type'.propertyTypeToString) : type = type' := by
  cases type <;> cases type' <;> first
    | rfl
    | exact absurd heq (by decide)
    | exact absurd rfl h

/-- A property whose value can be sent has a name, and is read back from that value where no
alias covers it. -/
theorem readProperty_variant {property : BluetoothProperty} {value : Variant}
    (h : propertyValueToVariant property = some value) (a : Bluez5Adapter) :
    property.getType.propertyTypeToString ≠ "" ∧ property.getType ≠ .discoveryTimeout ∧
      (a.readProperty property.getType value).2 =
        if property.getType = .name ∧ a.mAlias ≠ [] then some (.name a.mAlias)
        else some property := by
  cases property with
  | name text =>
      cases h
      by_cases halias : a.mAlias = [] <;>
        simp [PropertyType.propertyTypeToString, BluetoothProperty.getType,
          Bluez5Adapter.readProperty, halias]
  | interfaceName | stackName | uuids | discoveryTimeout => cases h
  | _ =>
      cases h
      simp [PropertyType.propertyTypeToString, BluetoothProperty.getType,
        Bluez5Adapter.readProperty]

theorem readProperty_congr {a b : Bluez5Adapter} (h : a.mAlias = b.mAlias) (type : PropertyType)
    (value : Variant) : (a.readProperty type value).2 = (b.readProperty type value).2 := by
  unfold Bluez5Adapter.readProperty
  split
  · rw [h]
    split_ifs <;> rfl
  all_goals rfl

theorem set_eq (store : PropertyStore B) (s : AdapterRun B) (property : BluetoothProperty) :
    match store.take s.bus property with
    | none => s.setAdapterPropertySync store property = (s, false)
    | some bus =>
      (s.setAdapterPropertySync store property).2 = true ∧
        (s.setAdapterPropertySync store property).1.bus = bus ∧
        (s.setAdapterPropertySync store property).1.adapter.mAlias = s.adapter.mAlias ∧
        (s.setAdapterPropertySync store property).1.reports.countP AdapterReport.isAnswer =
          s.reports.countP AdapterReport.isAnswer := by
  cases property with
  | discoveryTimeout value => exact ⟨rfl, rfl, rfl, List.countP_append.trans (Nat.add_zero _)⟩
  | interfaceName | stackName | uuids => rfl
  | _ =>
      unfold PropertyStore.take
      rw [if_neg (by simp [BluetoothProperty.getType])]
      unfold setAdapterPropertySync
      simp only [propertyValueToVariant, Option.bind_some]
      split <;> simp [*]

theorem storedValue_name {property : BluetoothProperty} (halias : s.adapter.mAlias ≠ [])
    (h : s.storedValue store .name = some property) : property = .name s.adapter.mAlias := by
  unfold storedValue at h
  rw [if_neg (by decide), if_neg (by decide)] at h
  obtain ⟨value, _, hread⟩ := Option.bind_eq_some_iff.mp h
  cases value with
  | string text =>
      simp only [Bluez5Adapter.readProperty, if_neg halias, Option.some.injEq] at hread
      exact hread.symm
  | uint32 | boolean => cases hread

/-- A property that is set is what a request is answered with, but for a name that an alias
covers, and the others stay as they are. -/
theorem storedValue_set (hdoc : store.Documented) {property : BluetoothProperty} {bus : B}
    (htake : store.take s.bus property = some bus) (hempty : property ≠ .aliasName [])
    (type : PropertyType) :
    ((s.setAdapterPropertySync store property).1.storedValue store type =
      if property.getType = type then
        if type = .name ∧ s.adapter.mAlias ≠ [] then some (.name s.adapter.mAlias)
        else some property
      else s.storedValue store type) := by
  by_cases htimeout : property.getType = .discoveryTimeout
  · cases property with
    | discoveryTimeout value =>
        by_cases htype : PropertyType.discoveryTimeout = type
        · subst htype
          rfl
        · rw [if_neg (by exact htype)]
          unfold storedValue
          rw [if_neg (Ne.symm htype), if_neg (Ne.symm htype)]
          congr 2
          funext text
          refine readProperty_congr ?_ type text
          rfl
    | _ => cases htimeout
  · unfold PropertyStore.take at htake
    rw [if_neg htimeout] at htake
    obtain ⟨value, hvalue, hset⟩ := Option.bind_eq_some_iff.mp htake
    obtain ⟨hname, -, hread⟩ := readProperty_variant hvalue s.adapter
    have hopen : s.setAdapterPropertySync store property = ({ s with bus }, true) := by
      unfold setAdapterPropertySync
      cases property with
      | discoveryTimeout => exact absurd rfl htimeout
      | _ => simp only [hvalue, hset]
    rw [hopen]
    unfold storedValue
    dsimp only
    by_cases htype : property.getType = type
    · subst htype
      have hstored := hdoc.stored hset fun h => by
        cases property with
        | aliasName text =>
            cases hvalue
            cases h.2
            exact hempty rfl
        | _ =>
            exact absurd h.1 (by simp [BluetoothProperty.getType,
              PropertyType.propertyTypeToString])
      rw [if_pos rfl, if_neg htimeout, if_neg hname, hstored]
      exact hread
    · rw [if_neg htype]
      by_cases hother : type = .discoveryTimeout
      · rw [if_pos hother, if_pos hother]
      · rw [if_neg hother, if_neg hother]
        by_cases hnone : type.propertyTypeToString = ""
        · rw [if_pos hnone, if_pos hnone]
        · have hne : type.propertyTypeToString ≠ property.getType.propertyTypeToString :=
            fun heq => htype (propertyTypeToString_inj hnone heq).symm
          rw [if_neg hnone, if_neg hnone, hdoc.apart hset hne]

theorem valueOf_answer (error : BluetoothError) (properties : List BluetoothProperty)
    (type : PropertyType) :
    (s.answer error properties).valueOf store type = s.valueOf store type := by
  rw [valueOf_eq, valueOf_eq]
  rfl

end AdapterRun

/-- Setting a list of properties sets them up to the first that cannot be set or that BlueZ
refuses, and answers once, with success exactly if there is none. A request for a property is
then answered with the value set last, and with the old one where none was set; a name stays as
it is while the adapter has an alias. -/
theorem setAdapterProperties_stored (hdoc : store.Documented) (s : AdapterRun B)
    (properties : List BluetoothProperty) :
    (s.setAdapterProperties store properties).reports.getLast? = some (.answered
      (if applied store s.bus properties = properties then .none else .fail) []) ∧
    (s.setAdapterProperties store properties).reports.countP AdapterReport.isAnswer =
      s.reports.countP AdapterReport.isAnswer + 1 ∧
    ((∀ p ∈ properties, p ≠ .aliasName []) → ∀ type,
      ((type = .name → s.adapter.mAlias = []) →
        (s.setAdapterProperties store properties).valueOf store type =
          (((applied store s.bus properties).filter fun p => p.getType = type).getLast?).or
            (s.valueOf store type)) ∧
      (s.adapter.mAlias ≠ [] → ∀ p, s.valueOf store .name = some p →
        (s.setAdapterProperties store properties).valueOf store .name = some p)) := by
  induction properties generalizing s with
  | nil =>
      refine ⟨List.getLast?_concat, List.countP_append, fun _ type => ⟨fun _ => ?_, ?_⟩⟩
      · exact AdapterRun.valueOf_answer _ _ type
      · intro _ p hp
        exact (AdapterRun.valueOf_answer _ _ _).trans hp
  | cons property rest ih =>
      have hset := s.set_eq store property
      cases htake : store.take s.bus property with
      | none =>
          rw [htake] at hset
          have hopen : s.setAdapterProperties store (property :: rest) = s.answer .fail [] := by
            rw [AdapterRun.setAdapterProperties, hset]
          have happlied : applied store s.bus (property :: rest) = [] := by
            rw [applied, htake]
          rw [hopen, happlied, if_neg (List.cons_ne_nil _ _).symm]
          refine ⟨List.getLast?_concat, List.countP_append, fun _ type => ⟨fun _ => ?_, ?_⟩⟩
          · exact AdapterRun.valueOf_answer _ _ type
          · intro _ p hp
            exact (AdapterRun.valueOf_answer _ _ _).trans hp
      | some bus =>
          rw [htake] at hset
          obtain ⟨hdone, hbus, halias, hcount⟩ := hset
          have hvalue (hempty : property ≠ .aliasName []) (type : PropertyType) :=
            AdapterRun.storedValue_set hdoc htake hempty type
          have hopen : s.setAdapterProperties store (property :: rest) =
              (s.setAdapterPropertySync store property).1.setAdapterProperties store rest := by
            rw [AdapterRun.setAdapterProperties]
            generalize s.setAdapterPropertySync store property = o at hdone
            obtain ⟨t, done⟩ := o
            cases hdone
            rfl
          have happlied : applied store s.bus (property :: rest) =
              property :: applied store bus rest := by
            rw [applied, htake]
          obtain ⟨hlast, hanswers, hvalues⟩ := ih (s.setAdapterPropertySync store property).1
          rw [hbus] at hlast hvalues
          rw [hopen, happlied]
          refine ⟨?_, by rw [hanswers, hcount], fun hempty type => ?_⟩
          · rw [hlast]
            simp only [List.cons.injEq, true_and]
          · obtain ⟨hfirst, hrest⟩ := List.forall_mem_cons.mp hempty
            obtain ⟨htype, hname⟩ := hvalues hrest type
            rw [halias] at htype hname
            constructor
            · intro hcovered
              rw [htype hcovered, AdapterRun.valueOf_eq, AdapterRun.valueOf_eq, hvalue hfirst]
              have hnot : ¬ (type = .name ∧ s.adapter.mAlias ≠ []) :=
                fun h => h.2 (hcovered h.1)
              rw [if_neg hnot]
              split_ifs with hsame
              · rw [List.filter_cons_of_pos (by simpa using hsame), List.getLast?_cons]
                cases ((applied store bus rest).filter fun p => p.getType = type).getLast? with
                | none => rfl
                | some last => rfl
              · rw [List.filter_cons_of_neg (by simpa using hsame)]
            · intro hne p hp
              refine hname hne p ?_
              rw [AdapterRun.valueOf_eq] at hp ⊢
              rw [hvalue hfirst, AdapterRun.storedValue_name hne hp]
              split_ifs with hsame hnot
              · rfl
              · exact absurd ⟨rfl, hne⟩ hnot
              · rw [hp, AdapterRun.storedValue_name hne hp]

def bluezStore : PropertyStore (String → Option Variant) where
  get bus name := bus name
  set bus name value :=
    if name ∈ ["Alias", "Discoverable", "DiscoverableTimeout", "Pairable", "PairableTimeout"] then
      some (Function.update bus name
        (if name = "Alias" ∧ value = .string [] then bus "Name" else some value))
    else none

theorem bluezStore_documented : bluezStore.Documented where
  stored := by
    intro bus bus' name value hset hempty
    obtain ⟨_, heq⟩ := Option.ite_none_right_eq_some.mp hset
    cases heq
    exact (Function.update_self ..).trans (if_neg hempty)
  apart := by
    intro bus bus' name value other hset hne
    obtain ⟨_, heq⟩ := Option.ite_none_right_eq_some.mp hset
    cases heq
    exact Function.update_of_ne hne ..

/-- The alias is set and the name is refused, so what comes after it is not set. -/
theorem setAdapterProperties_stored_name :
    let bus := fun name : String =>
      if name = "Pairable" then some (Variant.boolean false) else some (.string "tv".toList)
    let s : AdapterRun (String → Option Variant) := AdapterRun.setAdapterProperties bluezStore
      { bus } [.discoveryTimeout 30, .aliasName "car".toList, .name "bus".toList, .pairable true]
    s.reports.getLast? = some (.answered .fail []) ∧
      s.valueOf bluezStore .aliasName = some (.aliasName "car".toList) ∧
      s.valueOf bluezStore .name = some (.name "tv".toList) ∧
      s.valueOf bluezStore .pairable = some (.pairable false) := by
  intro bus s
  obtain ⟨hlast, -, hvalues⟩ := setAdapterProperties_stored bluezStore_documented { bus }
    [.discoveryTimeout 30, .aliasName "car".toList, .name "bus".toList, .pairable true]
  have hvalue := hvalues (by decide)
  have halias := (hvalue .aliasName).1 fun h => by cases h
  have hname := (hvalue .name).1 fun _ => rfl
  have hpairable := (hvalue .pairable).1 fun h => by cases h
  exact ⟨hlast.trans (by decide), halias.trans (by decide), hname.trans (by decide),
    hpairable.trans (by decide)⟩

end BluezSil.AdapterMirror
