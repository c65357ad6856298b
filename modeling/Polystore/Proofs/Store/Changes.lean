import Polystore.Proofs.Query.Targets
import Polystore.Proofs.Store.Patterns
import Polystore.Proofs.Store.SetThenGet

/-!
# What changes the entries of a store

A key-value store is asked to run texts and to tell about keys, and it is
switched off and on.  Whatever happens to it, its entries change by the
commands that set a key to a value while it is on, each of which changes its
own key.  As nothing else leaves a trace, what a probe announces is what the
next command finds.
-/

namespace Polystore

open Text

namespace Entries

variable {key : String} {value : Json}

/-- The key and the value of a text that sets a key to a value. -/
def setting? (query : String) : Option (String × Json) :=
  match words query.toList with
  | command :: key :: first :: further =>
    if Command.set.IsSpelled command then
      some (String.ofList key,
        valueOf (String.ofList (unwords (first :: further))))
    else none
  | _ => none

def setAll (entries : Entries) (settings : List (String × Json)) : Entries :=
  settings.foldl (fun entries (key, value) => entries.insert key value) entries

theorem get?_setAll (entries : Entries) (settings : List (String × Json))
    (key : String) :
    (entries.setAll settings).get? key =
      (Keyed.get? key settings.reverse).or (entries.get? key) :=
  Keyed.get?_foldl_insert_reverse settings key entries

theorem setAll_append (entries : Entries) (first second : List (String × Json)) :
    entries.setAll (first ++ second) = (entries.setAll first).setAll second :=
  List.foldl_append

/-- A command that sets a key to a value says so, and a store does it. -/
theorem run_of_setting? {query : String}
    (isSetting : setting? query = some (key, value)) (entries : Entries)
    (store : String) :
    entries.run store query =
      (entries.insert key value, .rows [.record [("value", .string "OK")]]) := by
  unfold setting? at isSetting
  split at isSetting
  · rename_i command word first further split
    split at isSetting
    · rename_i spelled
      cases isSetting
      exact spelled.run_eq split entries store
    · cases isSetting
  · cases isSetting

/-- Every other text leaves the entries as they are. -/
theorem run_of_setting?_eq_none {query : String}
    (noSetting : setting? query = none) (entries : Entries) (store : String) :
    (entries.run store query).1 = entries := by
  unfold run
  split
  · rename_i command word arguments split
    dsimp only
    split
    · rfl
    · rfl
    · rfl
    · rename_i capitals
      have spelled : Command.set.IsSpelled command := by
        apply Command.IsSpelled.of_map_toUpper
        rw [← String.toList_inj, String.toList_ofList] at capitals
        exact capitals
      cases arguments with
      | nil => rfl
      | cons first further =>
          simp [setting?, split, spelled] at noSetting
    · rfl
  · rfl

theorem setting?_of_isSpelled {query : String} {command : Command}
    {spelling : List Char} {arguments : List (List Char)}
    (split : words query.toList = spelling :: arguments)
    (spelled : command.IsSpelled spelling) (reads : command ≠ .set) :
    setting? query = none := by
  have notSet : ¬Command.set.IsSpelled spelling := by
    intro spelledSet
    have same := spelled.map_toLower.symm.trans spelledSet.map_toLower
    cases command <;> simp [Command.word] at same reads
  unfold setting?
  split
  · rename_i isText
    rw [split] at isText
    obtain ⟨rfl, -⟩ := List.cons.inj isText
    rw [if_neg notSet]
  · rfl

/-- Looking up a key and scanning the keys are the same probe. -/
theorem holds_iff_exists (entries : Entries) (identifier : String) :
    entries.holds identifier = true ↔
      ∃ key ∈ entries.keys, Glob.matchesKey identifier key = true := by
  unfold holds
  split
  · exact List.any_eq_true
  · rename_i noPattern
    have isText : Glob.isPattern identifier = false := by
      simpa using noPattern
    simp only [Keyed.contains_iff_mem_keys, Glob.matchesKey_iff_eq isText,
      exists_eq_right]

/-- The keys of a pattern are listed exactly when the probe announces them. -/
theorem holds_iff_matching (entries : Entries) (pattern : String) :
    entries.holds pattern = true ↔ (entries.matching pattern).data ≠ [] := by
  rw [holds_iff_exists, matching, Response.rows]
  simp

theorem holds_iff_lookup (entries : Entries)
    (noPattern : Glob.isPattern key = false) :
    entries.holds key = true ↔ (entries.lookup key).data ≠ [] := by
  rw [holds, noPattern, if_neg (by simp), Keyed.contains, lookup,
    Response.rows]
  cases entries.get? key with
  | none => simp
  | some value => simp

end Entries

namespace Reply

/-- The store carried the query out. -/
def Succeeds : Reply Response → Prop
  | .answered response => response.success = true
  | _ => False

def rows : Reply Response → List Json
  | .answered response => response.data
  | _ => []

end Reply

namespace Store

/-- What happens to a store. -/
inductive Action where
  | run (query : String)
  | probe (identifier : String)
  | switch (online : Bool)

/-- The key and the value that an action sets at a store that is off or on. -/
def Action.setting? (offline : Bool) : Action → Option (String × Json)
  | .run query => if offline then none else Entries.setting? query
  | .probe _ => none
  | .switch _ => none

/-- The store is off after the action. -/
def Action.leavesOffline (offline : Bool) : Action → Bool
  | .run _ => offline
  | .probe _ => offline
  | .switch online => !online

/-- What actions set in order, at a store that is off or on at first. -/
def settings (offline : Bool) : List Action → List (String × Json)
  | [] => []
  | action :: actions =>
    (action.setting? offline).toList ++
      settings (action.leavesOffline offline) actions

def act (store : Store) : Action → Store
  | .run query => (store.execute query).1
  | .probe identifier => (store.probe identifier).1
  | .switch online => store.setOnline online

def actAll (store : Store) (actions : List Action) : Store :=
  actions.foldl act store

variable {store : Store} {entries : Entries}

theorem execute_of_offline (offline : store.offline = true) (query : String) :
    store.execute query =
      (store.note (.query query),
        .failed (.storeUnavailable store.offlineText)) := by
  rw [execute, if_pos offline]

theorem backend_probe (store : Store) (identifier : String) :
    (store.probe identifier).1.backend = store.backend := rfl

theorem offline_probe (store : Store) (identifier : String) :
    (store.probe identifier).1.offline = store.offline := rfl

theorem act_run (isKeyValue : store.backend = .keyValue entries)
    (query : String) :
    (store.act (.run query)).backend =
        .keyValue (entries.setAll
          ((Action.run query).setting? store.offline).toList) ∧
      (store.act (.run query)).offline = store.offline := by
  cases off : store.offline with
  | true =>
      rw [act, execute_of_offline off]
      exact ⟨isKeyValue, off⟩
  | false =>
      obtain ⟨after, isRun, isEntries, staysOn⟩ :=
        execute_of_keyValue isKeyValue off query
      rw [act, isRun]
      refine ⟨?_, staysOn⟩
      rw [isEntries, Action.setting?, if_neg (by simp)]
      cases isSetting : Entries.setting? query with
      | none =>
          rw [Entries.run_of_setting?_eq_none isSetting]
          rfl
      | some setting =>
          rw [Entries.run_of_setting? isSetting]
          rfl

/-- One action changes the entries by what it sets and by nothing else. -/
theorem act_of_keyValue (isKeyValue : store.backend = .keyValue entries)
    (action : Action) :
    (store.act action).backend =
        .keyValue (entries.setAll (action.setting? store.offline).toList) ∧
      (store.act action).offline = action.leavesOffline store.offline := by
  cases action with
  | run query => exact act_run isKeyValue query
  | probe identifier =>
      exact ⟨(backend_probe store identifier).trans isKeyValue,
        offline_probe store identifier⟩
  | switch online => exact ⟨isKeyValue, rfl⟩

theorem actAll_of_keyValue (isKeyValue : store.backend = .keyValue entries)
    (actions : List Action) :
    (store.actAll actions).backend =
        .keyValue (entries.setAll (settings store.offline actions)) ∧
      (store.actAll actions).offline =
        actions.foldl (fun offline action => action.leavesOffline offline)
          store.offline := by
  induction actions generalizing store entries with
  | nil => exact ⟨isKeyValue, rfl⟩
  | cons action actions induction =>
      obtain ⟨isEntries, isOffline⟩ := act_of_keyValue isKeyValue action
      have others := induction isEntries
      rw [isOffline, ← Entries.setAll_append] at others
      exact others

theorem succeeds_of_setting? (isKeyValue : store.backend = .keyValue entries)
    {query : String} {setting : String × Json}
    (sets : (Action.run query).setting? store.offline = some setting) :
    (store.execute query).2.Succeeds := by
  cases off : store.offline with
  | true =>
      rw [off] at sets
      cases sets
  | false =>
      rw [off] at sets
      obtain ⟨after, isRun, -, -⟩ := execute_of_keyValue isKeyValue off query
      rw [isRun, Entries.run_of_setting? sets]
      rfl

theorem backend_execute_of_no_setting
    (isKeyValue : store.backend = .keyValue entries) {query : String}
    (noSetting : (Action.run query).setting? store.offline = none) :
    (store.execute query).1.backend = store.backend := by
  have kept := (act_run isKeyValue query).1
  rw [noSetting] at kept
  exact kept.trans isKeyValue.symm

theorem backend_execute_of_not_succeeds
    (isKeyValue : store.backend = .keyValue entries) {query : String}
    (fails : ¬(store.execute query).2.Succeeds) :
    (store.execute query).1.backend = store.backend := by
  apply backend_execute_of_no_setting isKeyValue
  cases sets : (Action.run query).setting? store.offline with
  | none => rfl
  | some setting => exact absurd (succeeds_of_setting? isKeyValue sets) fails

theorem backend_execute_of_isSpelled
    (isKeyValue : store.backend = .keyValue entries) {query : String}
    {command : Entries.Command} {spelling : List Char}
    {arguments : List (List Char)}
    (split : words query.toList = spelling :: arguments)
    (spelled : command.IsSpelled spelling) (reads : command ≠ .set) :
    (store.execute query).1.backend = store.backend := by
  apply backend_execute_of_no_setting isKeyValue
  rw [Action.setting?, Entries.setting?_of_isSpelled split spelled reads]
  exact ite_self none

theorem probe_of_keyValue (isKeyValue : store.backend = .keyValue entries)
    (online : store.offline = false) (identifier : String) :
    (store.probe identifier).2 = .answered true ↔
      entries.holds identifier = true := by
  rw [probe, online, if_neg (by simp), presence, isKeyValue]
  simp

theorem rows_execute_of_isSpelled
    (isKeyValue : store.backend = .keyValue entries)
    (online : store.offline = false) {command : Entries.Command}
    {spelling : List Char} (spelled : command.IsSpelled spelling)
    {key : String} (nonempty : key ≠ "")
    (plain : ∀ c ∈ key.toList, isBlank c = false) {query : String}
    (isText : query.toList = spelling ++ ' ' :: key.toList) :
    (store.execute query).2.rows =
      (command.perform entries key []).2.data := by
  obtain ⟨after, isRun, -, -⟩ := execute_of_keyValue isKeyValue online query
  rw [← List.append_nil key.toList] at isText
  rw [isRun, Entries.run_command spelled nonempty plain (by simp) isText]
  rfl

theorem probe_iff_keys (isKeyValue : store.backend = .keyValue entries)
    (online : store.offline = false) {pattern : String}
    (nonempty : pattern ≠ "")
    (plain : ∀ c ∈ pattern.toList, isBlank c = false) :
    (store.probe pattern).2 = .answered true ↔
      (store.execute ("KEYS " ++ pattern)).2.rows ≠ [] := by
  have spelled : Entries.Command.keys.IsSpelled ['K', 'E', 'Y', 'S'] := rfl
  have listed := rows_execute_of_isSpelled isKeyValue online spelled nonempty
    plain (String.toList_append (s := "KEYS "))
  rw [probe_of_keyValue isKeyValue online, Entries.holds_iff_matching, listed]
  rfl

theorem probe_iff_get (isKeyValue : store.backend = .keyValue entries)
    (online : store.offline = false) {key : String} (nonempty : key ≠ "")
    (plain : ∀ c ∈ key.toList, isBlank c = false)
    (noStar : '*' ∉ key.toList) :
    (store.probe key).2 = .answered true ↔
      (store.execute ("GET " ++ key)).2.rows ≠ [] := by
  have noPattern : Glob.isPattern key = false := by
    simpa [Glob.isPattern] using noStar
  have spelled : Entries.Command.get.IsSpelled ['G', 'E', 'T'] := rfl
  have found := rows_execute_of_isSpelled isKeyValue online spelled nonempty
    plain (String.toList_append (s := "GET "))
  rw [probe_of_keyValue isKeyValue online,
    Entries.holds_iff_lookup entries noPattern, found]
  rfl

/-- Through any run, the entries of a key-value store change by the commands
that set a key to a value while the store is on, and each changes its own key
only.  Whatever fails, whatever reads and every probe leaves them as they are.
While the store is on, a probe announces a pattern exactly when its keys are
listed, and a key exactly when it is found. -/
theorem keyValue_changes_by_settings
    (isKeyValue : store.backend = .keyValue entries) (actions : List Action) :
    let later := store.actAll actions
    let set := settings store.offline actions
    later.backend = .keyValue (entries.setAll set) ∧
      (∀ key, (∀ value, (key, value) ∉ set) →
        (entries.setAll set).get? key = entries.get? key) ∧
      (∀ query, ¬(later.execute query).2.Succeeds →
        (later.execute query).1.backend = later.backend) ∧
      (∀ (query : String) (command : Entries.Command) (spelling : List Char)
          (arguments : List (List Char)),
        words query.toList = spelling :: arguments →
        command.IsSpelled spelling → command ≠ .set →
        (later.execute query).1.backend = later.backend) ∧
      (∀ identifier,
        (later.probe identifier).1.backend = later.backend) ∧
      (later.offline = false →
        ∀ pattern : String, pattern ≠ "" →
          (∀ c ∈ pattern.toList, isBlank c = false) →
          ((later.probe pattern).2 = .answered true ↔
            (later.execute ("KEYS " ++ pattern)).2.rows ≠ []) ∧
          ('*' ∉ pattern.toList →
            ((later.probe pattern).2 = .answered true ↔
              (later.execute ("GET " ++ pattern)).2.rows ≠ []))) := by
  intro later set
  have isLater : later.backend = .keyValue (entries.setAll set) :=
    (actAll_of_keyValue isKeyValue actions).1
  refine ⟨isLater, ?_, fun _ => backend_execute_of_not_succeeds isLater,
    fun _ _ _ _ => backend_execute_of_isSpelled isLater,
    backend_probe later, ?_⟩
  · intro key unset
    have none : Keyed.get? key set.reverse = none := by
      apply Keyed.get?_eq_none_of_not_mem
      intro member
      obtain ⟨⟨_, value⟩, isSet, rfl⟩ := List.mem_map.mp member
      exact unset value (List.mem_reverse.mp isSet)
    rw [Entries.get?_setAll, none, Option.none_or]
  · intro online pattern nonempty plain
    exact ⟨probe_iff_keys isLater online nonempty plain,
      probe_iff_get isLater online nonempty plain⟩

/-- A key that was set while the store was off is neither announced nor
found, and a command without a value sets nothing. -/
theorem keyValue_changes_by_settings_switched :
    let later := freshKeyValue.actAll
      [.run "SET a draft", .switch false, .run "SET b 2", .switch true]
    later.backend = .keyValue [("a", Entries.valueOf "draft")] ∧
      (later.execute "SET a").1.backend = later.backend ∧
      (later.execute "keys * now").1.backend = later.backend ∧
      (later.probe "a*").2 = .answered true ∧
      (later.execute ("KEYS " ++ "a*")).2.rows ≠ [] ∧
      (later.probe "b").2 ≠ .answered true ∧
      (later.execute ("GET " ++ "b")).2.rows = [] := by
  intro later
  obtain ⟨isLater, -, failed, read, -, announced⟩ :=
    keyValue_changes_by_settings freshKeyValue_backend
      [.run "SET a draft", .switch false, .run "SET b 2", .switch true]
  have online : later.offline = false :=
    (actAll_of_keyValue freshKeyValue_backend _).2
  have isSetting : Entries.setting? "SET a draft" =
      some ("a", Entries.valueOf "draft") := by
    have split : words "SET a draft".toList =
        ["SET".toList, "a".toList, "draft".toList] := by
      decide +kernel
    rw [Entries.setting?, split]
    rfl
  have sets : settings freshKeyValue.offline
      [.run "SET a draft", .switch false, .run "SET b 2", .switch true] =
        [("a", Entries.valueOf "draft")] := by
    simp [settings, Action.setting?, Action.leavesOffline, isSetting,
      freshKeyValue_online]
  rw [sets] at isLater
  have holdsA := (probe_of_keyValue isLater online "a*").mpr rfl
  have noB : (later.probe "b").2 ≠ .answered true := by
    rw [Ne, probe_of_keyValue isLater online "b"]
    decide
  have refused : ¬(later.execute "SET a").2.Succeeds := by
    have split : words "SET a".toList = ["SET".toList, "a".toList] := by
      decide +kernel
    have answer : ∀ entries : Entries, (entries.run later.name "SET a").2 =
        .refused "SET requires a value" := by
      intro entries
      rw [Entries.run, split]
      rfl
    obtain ⟨after, isRun, -, -⟩ :=
      execute_of_keyValue isLater online "SET a"
    rw [isRun, answer]
    exact Bool.false_ne_true
  have split : words "keys * now".toList =
      ["keys".toList, "*".toList, "now".toList] := by
    decide +kernel
  have listed := (announced online "a*" (by decide)
    (isBlank_eq_false_of_any (by decide))).1
  have found := (announced online "b" (by decide)
    (isBlank_eq_false_of_any (by decide))).2 (by decide)
  refine ⟨isLater, failed "SET a" refused,
    read "keys * now" .keys _ _ split rfl nofun, holdsA,
    listed.mp holdsA, noB, ?_⟩
  by_contra some
  exact noB (found.mpr some)

end Store

end Polystore
