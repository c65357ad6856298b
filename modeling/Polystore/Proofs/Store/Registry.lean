import Mathlib.Data.List.Nodup
import Polystore.Store.Registry

/-!
# Contacts with registered stores

A registered store is probed for an object or asked to run a query.  Either
changes the state of this store and of no other, and never what is known about
the stores without asking them.
-/

namespace Polystore

/-- Running a query does not crash. -/
def Backend.Steady : Backend → Prop
  | .scripted script => ∀ calls query, script.onQuery calls query ≠ .crashed
  | _ => True

namespace Store

/-- The store replies to every query. -/
def Steady (store : Store) : Prop := store.backend.Steady

theorem respond_of_steady {store : Store} (steady : store.Steady)
    (query : String) :
    (store.respond query).1.Steady ∧ (store.respond query).2 ≠ .crashed := by
  obtain ⟨descriptor, backend, offline, delay, log⟩ := store
  cases backend with
  | relational tables => exact ⟨trivial, by simp [respond]⟩
  | document collections => exact ⟨trivial, by simp [respond]⟩
  | keyValue entries => exact ⟨trivial, by simp [respond]⟩
  | scripted script => exact ⟨steady, steady log query⟩

theorem executeWithin_of_steady {store : Store} (steady : store.Steady)
    (limit : Nat) (query : String) :
    (store.executeWithin limit query).1.Steady ∧
      (store.executeWithin limit query).2 ≠ .crashed := by
  unfold executeWithin
  split
  · exact ⟨steady, by simp⟩
  · unfold execute
    split
    · exact ⟨steady, by simp⟩
    · exact respond_of_steady steady query

end Store

/-- What a registered store is asked. -/
inductive Contact where
  | probe (store subject : String)
  | query (store text : String)
deriving DecidableEq, Repr

def Contact.store : Contact → String
  | .probe store _ => store
  | .query store _ => store

def Contact.request : Contact → Store.Request
  | .probe _ subject => .probe subject
  | .query _ text => .query text

def Store.Request.text? : Store.Request → Option String
  | .query text => some text
  | .probe _ => none

/-- The text that a contact has the store of a name run. -/
def Contact.textFor? (name : String) (contact : Contact) : Option String :=
  if contact.store = name then contact.request.text? else none

theorem Contact.textFor?_eq_some_iff {name text : String} {contact : Contact} :
    contact.textFor? name = some text ↔ contact = .query name text := by
  by_cases isStore : contact.store = name
  · cases contact <;>
      simp_all [textFor?, Contact.store, request, Store.Request.text?]
  · cases contact <;> simp_all [textFor?, Contact.store]

namespace Store

/-- The store when it has replied to a contact. -/
def asked (limit : Nat) (store : Store) : Contact → Store
  | .probe _ subject => (store.probeWithin limit subject).1
  | .query _ text => (store.executeWithin limit text).1

/-- The texts that a store was asked to run, in order. -/
def texts (store : Store) : List String :=
  store.log.filterMap (·.request.text?)

theorem log_asked (limit : Nat) (store : Store) (contact : Contact) :
    (store.asked limit contact).log =
      store.log ++ [⟨contact.request, !store.offline⟩] := by
  cases contact with
  | probe name subject =>
      rw [asked, probeWithin]
      split <;> rfl
  | query name text =>
      rw [asked, executeWithin, execute]
      split
      · rfl
      · split <;> rfl

theorem descriptor_asked (limit : Nat) (store : Store) (contact : Contact) :
    (store.asked limit contact).descriptor = store.descriptor := by
  cases contact with
  | probe name subject =>
      rw [asked, probeWithin]
      split <;> rfl
  | query name text =>
      rw [asked, executeWithin, execute]
      split
      · rfl
      · split <;> rfl

theorem steady_asked {store : Store} (steady : store.Steady) (limit : Nat)
    (contact : Contact) : (store.asked limit contact).Steady := by
  cases contact with
  | probe name subject =>
      rw [asked, probeWithin]
      split <;> exact steady
  | query name text => exact (executeWithin_of_steady steady limit text).1

theorem texts_asked (limit : Nat) (store : Store) (contact : Contact) :
    (store.asked limit contact).texts =
      store.texts ++ (contact.textFor? contact.store).toList := by
  rw [texts, log_asked, List.filterMap_append, Contact.textFor?, if_pos rfl]
  cases contact <;> rfl

end Store

namespace Registry

/-- What is known about the stores without asking them. -/
def descriptors (registry : Registry) : List Descriptor :=
  registry.stores.map Store.descriptor

/-- The stores after one of them was contacted. -/
def contact (limit : Nat) (registry : Registry) (contact : Contact) :
    Registry :=
  match registry.find? contact.store with
  | some store => registry.put (store.asked limit contact)
  | none => registry

def follow (limit : Nat) (registry : Registry) (contacts : List Contact) :
    Registry :=
  contacts.foldl (contact limit) registry

theorem contact_of_find? {registry : Registry} {store : Store}
    (limit : Nat) (contact : Contact)
    (found : registry.find? contact.store = some store) :
    registry.contact limit contact =
      registry.put (store.asked limit contact) := by
  rw [Registry.contact, found]

/-- There are stores, each with a name of its own, and none crashes. -/
structure Sound (registry : Registry) : Prop where
  nonempty : registry.stores ≠ []
  distinct : registry.names.Nodup
  steady : ∀ store ∈ registry.stores, store.Steady

variable {registry : Registry} {store : Store} {name : String}

theorem names_eq_map_descriptors (registry : Registry) :
    registry.names = registry.descriptors.map Descriptor.name := by
  simp [names, descriptors, Store.name]

theorem find?_eq_some (found : registry.find? name = some store) :
    store ∈ registry.stores ∧ store.name = name := by
  refine ⟨List.mem_of_find?_eq_some found, ?_⟩
  simpa using List.find?_some found

theorem exists_find? (member : name ∈ registry.names) :
    ∃ store, registry.find? name = some store := by
  obtain ⟨store, inStores, rfl⟩ := List.mem_map.mp member
  apply Option.isSome_iff_exists.mp
  rw [find?, List.find?_isSome]
  exact ⟨store, inStores, by simp⟩

theorem eq_of_name_eq {other : Store} (distinct : registry.names.Nodup)
    (member : store ∈ registry.stores) (otherMember : other ∈ registry.stores)
    (same : store.name = other.name) : store = other :=
  List.inj_on_of_nodup_map distinct member otherMember same

theorem find?_eq_none_iff :
    registry.find? name = none ↔ name ∉ registry.names := by
  simp [find?, names]

/-- A store whose state has changed takes the place of the store before. -/
theorem map_put {α : Type} {other : Store} {f : Store → α}
    (distinct : registry.names.Nodup)
    (found : registry.find? name = some store)
    (sameName : other.name = store.name) (same : f other = f store) :
    (registry.put other).stores.map f = registry.stores.map f := by
  obtain ⟨member, _⟩ := find?_eq_some found
  rw [put, List.map_map]
  apply List.map_congr_left
  intro third inStores
  by_cases isOther : third.name = other.name
  · have isStore : third = store :=
      eq_of_name_eq distinct inStores member (isOther.trans sameName)
    rw [Function.comp_apply, if_pos (by simp [isOther]), same, isStore]
  · simp [isOther]

theorem descriptors_put {other : Store} (distinct : registry.names.Nodup)
    (found : registry.find? name = some store)
    (same : other.descriptor = store.descriptor) :
    (registry.put other).descriptors = registry.descriptors :=
  map_put distinct found (congrArg Descriptor.name same) same

theorem steady_put {other : Store}
    (steady : ∀ store ∈ registry.stores, store.Steady)
    (otherSteady : other.Steady) :
    ∀ store ∈ (registry.put other).stores, store.Steady := by
  intro store member
  obtain ⟨third, inStores, rfl⟩ := List.mem_map.mp member
  split
  · exact otherSteady
  · exact steady third inStores

theorem find?_contact_of_ne {contact : Contact} (limit : Nat)
    (different : contact.store ≠ name) :
    (registry.contact limit contact).find? name = registry.find? name := by
  unfold Registry.contact
  split
  · rename_i store found
    obtain ⟨_, isNamed⟩ := find?_eq_some found
    have named : (store.asked limit contact).name ≠ name := by
      rw [Store.name, store.descriptor_asked]
      exact isNamed.trans_ne different
    simp only [find?, put, List.find?_map]
    have sameTest : ((fun store => store.name == name) ∘ fun other =>
        if other.name == (store.asked limit contact).name then
          store.asked limit contact else other) =
        fun store : Store => store.name == name := by
      funext other
      by_cases isStore : other.name = (store.asked limit contact).name
      · simp [isStore]
      · simp [isStore]
    rw [sameTest]
    cases sought : registry.stores.find? fun store => store.name == name with
    | none => rfl
    | some other =>
        have isOther : other.name = name := by
          simpa using List.find?_some sought
        simp [isOther, named.symm]
  · rfl

theorem find?_contact_self {contact : Contact} (limit : Nat)
    (found : registry.find? contact.store = some store) :
    (registry.contact limit contact).find? contact.store =
      some (store.asked limit contact) := by
  have named : (store.asked limit contact).name = contact.store := by
    rw [Store.name, store.descriptor_asked]
    exact (find?_eq_some found).2
  rw [contact_of_find? limit contact found, ← named, find?, put,
    List.find?_map]
  have sameTest : ((fun other => other.name ==
        (store.asked limit contact).name) ∘ fun other =>
      if other.name == (store.asked limit contact).name then
        store.asked limit contact else other) =
      fun other : Store => other.name == contact.store := by
    funext other
    by_cases isStore : other.name = contact.store <;> simp [named, isStore]
  have isName : store.name = contact.store := (find?_eq_some found).2
  rw [sameTest]
  show Option.map _ (registry.find? contact.store) = _
  rw [found, Option.map_some, named, isName, if_pos (beq_self_eq_true _)]

/-- The texts that the store of a name was asked to run, in order. -/
def texts (registry : Registry) (name : String) : List String :=
  ((registry.find? name).map Store.texts).getD []

theorem texts_contact (member : name ∈ registry.names) (limit : Nat)
    (contact : Contact) :
    (registry.contact limit contact).texts name =
      registry.texts name ++ (contact.textFor? name).toList := by
  obtain ⟨store, found⟩ := exists_find? member
  by_cases isStore : contact.store = name
  · subst isStore
    rw [texts, find?_contact_self limit found, texts, found]
    exact store.texts_asked limit contact
  · rw [texts, find?_contact_of_ne limit isStore, Contact.textFor?,
      if_neg isStore]
    exact (List.append_nil _).symm

/-- What the other stores are like does not depend on the state of one. -/
theorem Sound.of_descriptors {other : Registry} (sound : registry.Sound)
    (same : other.descriptors = registry.descriptors)
    (steady : ∀ store ∈ other.stores, store.Steady) : other.Sound where
  nonempty := by
    intro none
    have noDescriptor : registry.descriptors = [] := by
      rw [← same, descriptors, none, List.map_nil]
    exact sound.nonempty (List.map_eq_nil_iff.mp noDescriptor)
  distinct := by
    rw [names_eq_map_descriptors, same, ← names_eq_map_descriptors]
    exact sound.distinct
  steady := steady

theorem descriptors_contact (distinct : registry.names.Nodup) (limit : Nat)
    (contact : Contact) :
    (registry.contact limit contact).descriptors = registry.descriptors := by
  unfold Registry.contact
  split
  · rename_i store found
    exact descriptors_put distinct found (store.descriptor_asked limit contact)
  · rfl

theorem nodup_contact (distinct : registry.names.Nodup) (limit : Nat)
    (contact : Contact) : (registry.contact limit contact).names.Nodup := by
  rw [names_eq_map_descriptors, descriptors_contact distinct,
    ← names_eq_map_descriptors]
  exact distinct

theorem descriptors_follow (distinct : registry.names.Nodup) (limit : Nat)
    (contacts : List Contact) :
    (registry.follow limit contacts).descriptors = registry.descriptors := by
  induction contacts generalizing registry with
  | nil => rfl
  | cons first rest induction =>
      exact (induction (nodup_contact distinct limit first)).trans
        (descriptors_contact distinct limit first)

/-- What a store is asked to run is logged, and nothing else is. -/
theorem texts_follow (distinct : registry.names.Nodup)
    (member : name ∈ registry.names) (limit : Nat) (contacts : List Contact) :
    (registry.follow limit contacts).texts name =
      registry.texts name ++ contacts.filterMap (Contact.textFor? name) := by
  induction contacts generalizing registry with
  | nil => exact (List.append_nil _).symm
  | cons first rest induction =>
      have sameNames : (registry.contact limit first).names =
          registry.names := by
        rw [names_eq_map_descriptors, descriptors_contact distinct,
          ← names_eq_map_descriptors]
      have later := induction (nodup_contact distinct limit first)
        (sameNames ▸ member)
      have split : (first :: rest).filterMap (Contact.textFor? name) =
          (first.textFor? name).toList ++
            rest.filterMap (Contact.textFor? name) := by
        cases isText : first.textFor? name <;> simp [isText]
      rw [split, ← List.append_assoc, ← texts_contact member]
      exact later

theorem Sound.contact (sound : registry.Sound) (limit : Nat)
    (contact : Contact) : (registry.contact limit contact).Sound := by
  apply sound.of_descriptors (descriptors_contact sound.distinct limit contact)
  unfold Registry.contact
  split
  · rename_i store found
    apply steady_put sound.steady
    apply Store.steady_asked
    exact sound.steady store (find?_eq_some found).1
  · exact sound.steady

theorem Sound.follow (sound : registry.Sound) (limit : Nat)
    (contacts : List Contact) :
    (registry.follow limit contacts).Sound ∧
      (registry.follow limit contacts).descriptors = registry.descriptors := by
  induction contacts generalizing registry with
  | nil => exact ⟨sound, rfl⟩
  | cons first rest induction =>
      obtain ⟨soundRest, same⟩ := induction (sound.contact limit first)
      exact ⟨soundRest,
        same.trans (descriptors_contact sound.distinct limit first)⟩

theorem follow_append (limit : Nat) (registry : Registry)
    (first rest : List Contact) :
    registry.follow limit (first ++ rest) =
      (registry.follow limit first).follow limit rest :=
  List.foldl_append

theorem register_eq_ok {next : Registry}
    (registered : registry.register store = .ok next) :
    store.name ∉ registry.names ∧ next.stores = registry.stores ++ [store] := by
  unfold register at registered
  split at registered
  · cases registered
  · rename_i isNew
    cases registered
    exact ⟨by simpa using isNew, rfl⟩

theorem foldlM_register_eq_ok {stores : List Store} {next : Registry}
    (distinct : registry.names.Nodup)
    (registered : stores.foldlM register registry = .ok next) :
    next.stores = registry.stores ++ stores ∧ next.names.Nodup := by
  induction stores generalizing registry with
  | nil =>
      cases registered
      exact ⟨(List.append_nil _).symm, distinct⟩
  | cons store stores induction =>
      rw [List.foldlM_cons] at registered
      cases first : registry.register store with
      | error fault => simp [first, bind, Except.bind] at registered
      | ok middle =>
          simp only [first, bind, Except.bind] at registered
          obtain ⟨isNew, isMiddle⟩ := register_eq_ok first
          have middleDistinct : middle.names.Nodup := by
            rw [names, isMiddle, List.map_append]
            refine distinct.append (List.nodup_singleton _) ?_
            simpa using isNew
          obtain ⟨isNext, nextDistinct⟩ := induction middleDistinct registered
          exact ⟨by rw [isNext, isMiddle]; simp, nextDistinct⟩

theorem ofList_eq_ok {stores : List Store}
    (registered : ofList stores = .ok registry) :
    registry.stores = stores ∧ registry.names.Nodup := by
  have noNames : empty.names.Nodup := List.nodup_nil
  simpa [empty] using foldlM_register_eq_ok noNames registered

end Registry

end Polystore
