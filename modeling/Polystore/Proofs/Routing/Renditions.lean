import Polystore.Proofs.Routing.Running

/-!
# One rendition of a query for every store

What a store is given for a query is its entry among the candidates, or the
caller's text under the store's primary dialect when it has none.  Whichever
way the query takes to the store, it arrives in this rendition.
-/

namespace Polystore

/-- The form in which a query is run. -/
structure Rendition where
  text : String
  dialect : Dialect
  converted : Bool
deriving DecidableEq, Repr

def Candidate.rendition (candidate : Candidate) : Rendition :=
  ⟨candidate.query, candidate.dialect, candidate.converted⟩

def Selection.rendition (selection : Selection) : Rendition :=
  ⟨selection.query, selection.dialect, selection.converted⟩

def QueryResult.rendition (result : QueryResult) : Rendition :=
  ⟨result.executedQuery, result.dialect, result.convertedQuery.isSome⟩

theorem Candidate.Describes.rendition_eq {candidate : Candidate}
    {result : QueryResult} (describes : candidate.Describes result) :
    result.rendition = candidate.rendition := by
  rw [QueryResult.rendition, describes.query, describes.dialect,
    describes.converted, Candidate.rendition]
  cases candidate.converted <;> rfl

theorem QueryResult.rendition_ofMeasurement (store text : String)
    (dialect : Dialect) (converted : Bool) (measurement : Measurement) :
    (ofMeasurement store text dialect converted measurement).rendition =
      ⟨text, dialect, converted⟩ := by
  cases converted <;> rfl

/-- The rendition of a query for the registered store of a name. -/
inductive Rendition.Given (settings : Settings) (registry : Registry)
    (query : String) (dialect : Dialect) : String → Rendition → Prop where
  | entry {candidate : Candidate}
      (member : candidate ∈ Candidate.all settings registry query dialect) :
      Given settings registry query dialect candidate.name candidate.rendition
  | asIs {store : Store} (member : store ∈ registry.stores)
      (absent : ∀ candidate ∈ Candidate.all settings registry query dialect,
        candidate.name ≠ store.name) :
      Given settings registry query dialect store.name
        ⟨query, store.descriptor.primary, false⟩

variable {settings : Settings} {registry : Registry} {model : Model}
  {query name : String} {dialect : Dialect} {store : Store}
  {rendition other : Rendition}

namespace Rendition.Given

theorem of_entry {candidate : Candidate} (distinct : registry.names.Nodup)
    (given : Given settings registry query dialect name rendition)
    (member : candidate ∈ Candidate.all settings registry query dialect)
    (named : candidate.name = name) : rendition = candidate.rendition := by
  cases given with
  | entry otherMember =>
      rw [List.inj_on_of_nodup_map
        (Candidate.nodup_all distinct settings query dialect) member
        otherMember named]
  | asIs _ absent => exact absurd named (absent candidate member)

theorem of_absent (distinct : registry.names.Nodup)
    (given : Given settings registry query dialect store.name rendition)
    (member : store ∈ registry.stores)
    (absent : ∀ candidate ∈ Candidate.all settings registry query dialect,
      candidate.name ≠ store.name) :
    rendition = ⟨query, store.descriptor.primary, false⟩ := by
  generalize isName : store.name = name at given
  cases given with
  | entry isCandidate => exact absurd isName.symm (absent _ isCandidate)
  | asIs otherMember _ =>
      rw [Registry.eq_of_name_eq distinct member otherMember isName]

theorem eq (distinct : registry.names.Nodup)
    (given : Given settings registry query dialect name rendition)
    (otherGiven : Given settings registry query dialect name other) :
    rendition = other := by
  cases otherGiven with
  | entry member => exact given.of_entry distinct member rfl
  | asIs member absent => exact given.of_absent distinct member absent

end Rendition.Given

theorem Candidate.given_forStore (member : store ∈ registry.stores)
    (settings : Settings) (query : String) (dialect : Dialect) :
    Rendition.Given settings registry query dialect store.name
      (forStore settings registry query dialect store).rendition := by
  unfold forStore
  cases found : (all settings registry query dialect).find? fun candidate =>
      candidate.name == store.name with
  | some candidate =>
      have named : candidate.name = store.name := by
        simpa using List.find?_some found
      exact named ▸ .entry (List.mem_of_find?_eq_some found)
  | none =>
      apply Rendition.Given.asIs member
      intro candidate isCandidate
      simpa using List.find?_eq_none.mp found candidate isCandidate

namespace Selection

variable {located : List Candidate} {selection : Selection}

theorem given_of_forced
    (isForced : forced settings registry query dialect name = .ok selection) :
    selection.store = name ∧ Rendition.Given settings registry query dialect
      selection.store selection.rendition := by
  rw [forced, Registry.get] at isForced
  cases found : registry.find? name with
  | none =>
      rw [found] at isForced
      cases isForced
  | some store =>
      rw [found] at isForced
      cases isForced
      obtain ⟨member, named⟩ := Registry.find?_eq_some found
      have isStore :=
        Candidate.name_forStore settings registry query dialect store
      constructor
      · exact isStore.trans named
      · show Rendition.Given _ _ _ _ (Candidate.name _) (Candidate.rendition _)
        rw [isStore]
        exact Candidate.given_forStore member settings query dialect

theorem given_of_select
    (drawn : ∀ candidate ∈ located,
      candidate ∈ Candidate.all settings registry query dialect)
    (isSelected : select settings registry model query dialect located =
      .ok selection) :
    Rendition.Given settings registry query dialect selection.store
      selection.rendition := by
  match located with
  | [] =>
      rw [select] at isSelected
      cases isDefault : registry.defaultFor dialect
          (settings.defaultStores.ofDialect dialect) with
      | error fault =>
          rw [isDefault] at isSelected
          cases isSelected
      | ok store =>
          rw [isDefault] at isSelected
          cases isSelected
          show Rendition.Given _ _ _ _ (Candidate.name _)
            (Candidate.rendition _)
          rw [Candidate.name_forStore]
          exact Candidate.given_forStore
            (Registry.mem_of_defaultFor isDefault) settings query dialect
  | [only] =>
      cases isSelected
      exact .entry (drawn only List.mem_cons_self)
  | first :: second :: rest =>
      rw [select] at isSelected
      · split at isSelected
        · rename_i candidate trusted isTrusted
          cases isSelected
          exact .entry (drawn candidate (trusted?_mem isTrusted))
        · cases isSelected
          exact .entry (drawn _ (preferred_mem _ _ _ _))
      · exact List.cons_ne_nil second rest

end Selection

/-- The answer is the one of a selection's store. -/
structure Answer.Follows (answer : Answer) (query : String)
    (selection : Selection) : Prop where
  store : answer.result.store = selection.store
  signature : answer.signature = .ofQuery query
  state : answer.state = selection.state
  located : answer.located = selection.located

namespace Mediator

variable {mediator after : Mediator} {surroundings : Surroundings}
  {target : Target} {contacts : List Contact} {results : List QueryResult}
  {selection : Selection}

/-- The rendition of a query for a store of the mediator. -/
def Gives (mediator : Mediator) (query name : String) (rendition : Rendition) :
    Prop :=
  rendition.Given mediator.settings mediator.registry query
    (Query.classify query) name

/-- Stores were contacted, and results recorded. -/
structure Ran (before after : Mediator) (surroundings : Surroundings)
    (query : String) (contacts : List Contact) (results : List QueryResult) :
    Prop where
  registry : after.registry =
    before.registry.follow before.settings.storeTimeoutMs contacts
  history : ∃ origin, (after.history, after.directory) =
    before.history.append before.directory
      (recordsOf surroundings query origin results)

/-- Apart from probes, stores were asked for their renditions of a query, and
the results are those of renditions that were asked for. -/
structure Keeps (mediator : Mediator) (query : String)
    (contacts : List Contact) (results : List QueryResult) : Prop where
  asked : ∀ contact ∈ contacts, contact.IsProbe ∨
    ∃ name rendition, mediator.Gives query name rendition ∧
      contact = .query name rendition.text
  given : ∀ result ∈ results, mediator.Gives query result.store result.rendition
  reported : ∀ result ∈ results,
    .query result.store result.executedQuery ∈ contacts

theorem Ran.after_probes
    (ran : (mediator.probed query target).Ran after surroundings query contacts
      results) :
    mediator.Ran after surroundings query
      (mediator.probes query target ++ contacts) results := by
  constructor
  · rw [Registry.follow_append]
    exact ran.registry
  · exact ran.history

theorem Keeps.after_probes (keeps : mediator.Keeps query contacts results)
    (target : Target) :
    mediator.Keeps query (mediator.probes query target ++ contacts)
      results := by
  constructor
  · intro contact member
    rcases List.mem_append.mp member with isProbe | isLater
    · exact .inl (isProbe_of_mem_probes isProbe)
    · exact keeps.asked contact isLater
  · exact keeps.given
  · exact fun result member =>
      List.mem_append_right _ (keeps.reported result member)

theorem keeps_of_describes {candidates : List Candidate}
    (drawn : ∀ candidate ∈ candidates, candidate ∈ mediator.candidates query)
    (describe : List.Forall₂ Candidate.Describes candidates results) :
    mediator.Keeps query (candidates.map Candidate.contact) results := by
  constructor
  · intro contact member
    obtain ⟨candidate, isCandidate, rfl⟩ := List.mem_map.mp member
    exact .inr ⟨_, _, .entry (drawn candidate isCandidate), rfl⟩
  · intro result member
    obtain ⟨candidate, isCandidate, describes⟩ :=
      FanOut.exists_described describe member
    rw [describes.store, describes.rendition_eq]
    exact .entry (drawn candidate isCandidate)
  · rw [← FanOut.contacts_of_describes describe]
    exact fun result member => List.mem_map_of_mem member

theorem keeps_of_given
    (given : mediator.Gives query selection.store selection.rendition)
    (areAsked : ∀ contact ∈ contacts,
      contact = .query selection.store selection.query)
    (areGiven : ∀ result ∈ results, result.store = selection.store ∧
      result.rendition = selection.rendition ∧
      .query result.store result.executedQuery ∈ contacts) :
    mediator.Keeps query contacts results := by
  constructor
  · intro contact member
    exact .inr ⟨_, _, given, areAsked contact member⟩
  · intro result member
    obtain ⟨isStore, isRendition, _⟩ := areGiven result member
    rw [isStore, isRendition]
    exact given
  · exact fun result member => (areGiven result member).2.2

theorem ran_executeAll (mediator : Mediator) (surroundings : Surroundings)
    (query : String) :
    ∃ contacts results,
      mediator.Ran (mediator.executeAll surroundings query).1 surroundings
        query contacts results ∧
      mediator.Keeps query contacts results ∧
      ∀ returned, (mediator.executeAll surroundings query).2 = .ok returned →
        returned = results := by
  by_cases none : mediator.candidates query = []
  · have refused : mediator.executeAll surroundings query =
        (mediator, .error (.noStore (Query.classify query).name)) := by
      rw [executeAll, none]
      rfl
    rw [refused]
    refine ⟨[], [], ⟨rfl, fun _ => .comparison, rfl⟩, ⟨?_, ?_, ?_⟩, ?_⟩
    · simp
    · simp
    · simp
    · rintro returned ⟨⟩
  · rw [executeAll_eq none]
    have describe := FanOut.describes_run mediator.recorder surroundings.meter
      mediator.registry (mediator.candidates query)
    refine ⟨_, _, ⟨rfl, fun _ => .comparison, rfl⟩,
      keeps_of_describes (fun _ member => member) describe, ?_⟩
    rintro returned ⟨⟩
    rfl

theorem ran_explore (mediator : Mediator) (surroundings : Surroundings)
    (query : String) (selection : Selection) :
    ∃ located results,
      (∀ candidate ∈ located, candidate ∈ mediator.candidates query) ∧
      List.Forall₂ Candidate.Describes located results ∧
      mediator.Ran (mediator.explore surroundings query selection).1
        surroundings query (located.map Candidate.contact) results ∧
      ∀ answer, (mediator.explore surroundings query selection).2 =
        .answered answer → answer.result ∈ results ∧
          answer.Follows query selection := by
  let located := (mediator.candidates query).filter fun candidate =>
    selection.located.contains candidate.name
  have asked := FanOut.run_registry mediator.recorder surroundings.meter
    mediator.registry located
  have describe := FanOut.describes_run mediator.recorder surroundings.meter
    mediator.registry located
  rcases ran : FanOut.run mediator.recorder surroundings.meter
    mediator.registry located with ⟨registry, results⟩
  rw [ran] at asked describe
  refine ⟨located, results, fun _ => List.mem_of_mem_filter, describe, ?_⟩
  simp only [explore]
  rw [ran]
  generalize found : List.find? _ results.zipIdx.reverse = search
  cases search with
  | none =>
      refine ⟨⟨asked, _, rfl⟩, ?_⟩
      rintro answer ⟨⟩
  | some entry =>
      obtain ⟨result, place⟩ := entry
      refine ⟨⟨asked, _, rfl⟩, ?_⟩
      rintro answer ⟨⟩
      have inZip := List.mem_reverse.mp (List.mem_of_find?_eq_some found)
      have isStore : result.store = selection.store := by
        simpa using List.find?_some found
      exact ⟨List.mem_of_getElem? (List.mem_zipIdx_iff_getElem?.mp inZip),
        ⟨isStore, rfl, rfl, rfl⟩⟩

theorem ran_runSelected (mediator : Mediator) (surroundings : Surroundings)
    (query : String) (target : Target) (selection : Selection) :
    ∃ contacts results,
      mediator.Ran (mediator.runSelected surroundings query target selection).1
        surroundings query contacts results ∧
      (∀ contact ∈ contacts,
        contact = .query selection.store selection.query) ∧
      (∀ result ∈ results, result.store = selection.store ∧
        result.rendition = selection.rendition ∧
        .query result.store result.executedQuery ∈ contacts) ∧
      ∀ answer, (mediator.runSelected surroundings query target selection).2 =
        .answered answer → answer.result ∈ results ∧
          answer.Follows query selection := by
  cases found : mediator.registry.find? selection.store with
  | none =>
      simp only [runSelected, Registry.get, found]
      refine ⟨[], [], ⟨rfl, fun _ => target.origin, rfl⟩, ?_, ?_, ?_⟩
      · simp
      · simp
      · rintro answer ⟨⟩
  | some store =>
      refine ⟨[.query selection.store selection.query], ?_⟩
      by_cases crashes : (store.executeWithin
          mediator.settings.storeTimeoutMs selection.query).2 = .crashed
      · rw [runSelected_of_crashed selection found crashes]
        refine ⟨[], ⟨rfl, fun _ => target.origin, rfl⟩, ?_, ?_, ?_⟩
        · simp
        · simp
        · rintro answer ⟨⟩
      · obtain ⟨measurement, isMeasured⟩ :=
          Measurement.exists_ofReply? crashes (.ofReadings
            mediator.settings.latencyRatio (surroundings.meter store))
        rw [runSelected_of_measured selection found isMeasured]
        refine ⟨[.ofMeasurement selection.store selection.query
          selection.dialect selection.converted measurement],
          ⟨rfl, fun _ => target.origin, rfl⟩, ?_, ?_, ?_⟩
        · simp
        · intro result member
          rw [List.mem_singleton.mp member]
          exact ⟨rfl, QueryResult.rendition_ofMeasurement _ _ _ _ _,
            List.mem_singleton_self _⟩
        · rintro answer ⟨⟩
          exact ⟨List.mem_singleton_self _, rfl, rfl, rfl, rfl⟩

theorem gives_of_choose {target : Target} {selection : Selection}
    (isSelected : (mediator.choose query target).2 = .ok selection) :
    mediator.Gives query selection.store selection.rendition := by
  cases target with
  | automatic =>
      have sublist := Location.located_sublist mediator.settings.storeTimeoutMs
        mediator.registry (mediator.candidates query)
      exact Selection.given_of_select (fun _ member => sublist.subset member)
        isSelected
  | store name => exact (Selection.given_of_forced isSelected).2

/-- An execution asks stores for their renditions alone, and its answer is the
one of the chosen store. -/
theorem ran_execute (distinct : mediator.registry.names.Nodup)
    (surroundings : Surroundings) (query : String) (target : Target) :
    ∃ contacts results,
      mediator.Ran (mediator.execute surroundings query target).1
        surroundings query contacts results ∧
      mediator.Keeps query contacts results ∧
      ∀ answer, (mediator.execute surroundings query target).2 =
        .answered answer → answer.result ∈ results ∧
          ∀ selection, (mediator.choose query target).2 = .ok selection →
            answer.Follows query selection := by
  have isProbed := choose_fst mediator query target
  have given : ∀ selection, (mediator.choose query target).2 = .ok selection →
      mediator.Gives query selection.store selection.rendition :=
    fun _ => gives_of_choose
  rcases chosen : mediator.choose query target with ⟨next, selected⟩
  rw [chosen] at isProbed given
  subst isProbed
  cases selected with
  | error fault =>
      have failed : mediator.execute surroundings query target =
          (mediator.probed query target, .failed fault) := by
        rw [execute, chosen]
      have keeps : mediator.Keeps query [] [] := by constructor <;> simp
      have ran : (mediator.probed query target).Ran
          (mediator.probed query target) surroundings query [] [] :=
        ⟨rfl, fun _ => target.origin, rfl⟩
      rw [failed]
      refine ⟨_, [], ran.after_probes, keeps.after_probes target, ?_⟩
      rintro answer ⟨⟩
  | ok selection =>
      have isGiven := given selection rfl
      have executed : mediator.execute surroundings query target =
          if (mediator.probed query target).explores selection then
            (mediator.probed query target).explore surroundings query selection
          else
            (mediator.probed query target).runSelected surroundings query
              target selection := by
        rw [execute, chosen]
      cases exploring : (mediator.probed query target).explores selection with
      | true =>
          rw [executed, exploring, if_pos rfl]
          obtain ⟨located, results, drawn, describe, ran, returned⟩ :=
            (mediator.probed query target).ran_explore surroundings query
              selection
          rw [candidates_probed distinct] at drawn
          refine ⟨_, results, ran.after_probes,
            (keeps_of_describes drawn describe).after_probes target, ?_⟩
          intro answer isAnswer
          obtain ⟨isResult, follows⟩ := returned answer isAnswer
          exact ⟨isResult, fun other isOther => Except.ok.inj isOther ▸ follows⟩
      | false =>
          rw [executed, exploring, if_neg Bool.false_ne_true]
          obtain ⟨contacts, results, ran, areAsked, areGiven, returned⟩ :=
            (mediator.probed query target).ran_runSelected surroundings query
              target selection
          have keeps := keeps_of_given isGiven areAsked areGiven
          refine ⟨_, results, ran.after_probes, keeps.after_probes target, ?_⟩
          intro answer isAnswer
          obtain ⟨isResult, follows⟩ := returned answer isAnswer
          exact ⟨isResult, fun other isOther => Except.ok.inj isOther ▸ follows⟩

/-- The store of a name was asked to run a rendition and nothing else, as its
log shows, and the results of the store tell of this rendition. -/
structure RunsOnly (before after : Mediator) (surroundings : Surroundings)
    (query name : String) (rendition : Rendition)
    (results : List QueryResult) : Prop where
  ran : ∃ times, after.registry.texts name =
      before.registry.texts name ++ List.replicate times rendition.text ∧
    ((∃ result ∈ results, result.store = name) → 0 < times)
  labelled : ∀ result ∈ results, result.store = name →
    result.rendition = rendition
  recorded : ∃ origin, (after.history, after.directory) =
    before.history.append before.directory
      (recordsOf surroundings query origin results)

theorem Keeps.texts_eq (keeps : mediator.Keeps query contacts results)
    (distinct : mediator.registry.names.Nodup)
    (given : mediator.Gives query name rendition) :
    ∀ text ∈ contacts.filterMap (Contact.textFor? name),
      text = rendition.text := by
  intro text member
  obtain ⟨contact, isContact, isText⟩ := List.mem_filterMap.mp member
  have isQuery := Contact.textFor?_eq_some_iff.mp isText
  subst isQuery
  rcases keeps.asked _ isContact with isProbe | ⟨_, other, otherGiven, same⟩
  · cases isProbe
  · cases same
    rw [given.eq distinct otherGiven]

theorem Keeps.runsOnly (keeps : mediator.Keeps query contacts results)
    (distinct : mediator.registry.names.Nodup)
    (registered : name ∈ mediator.registry.names)
    (given : mediator.Gives query name rendition)
    (ran : mediator.Ran after surroundings query contacts results) :
    mediator.RunsOnly after surroundings query name rendition results := by
  have logged : after.registry.texts name = mediator.registry.texts name ++
      contacts.filterMap (Contact.textFor? name) := by
    rw [ran.registry, Registry.texts_follow distinct registered]
  have uniform := List.eq_replicate_of_mem (keeps.texts_eq distinct given)
  constructor
  · refine ⟨_, by rw [logged, ← uniform], ?_⟩
    rintro ⟨result, isResult, isStore⟩
    have isText : result.executedQuery ∈
        contacts.filterMap (Contact.textFor? name) :=
      List.mem_filterMap.mpr ⟨_, keeps.reported result isResult,
        Contact.textFor?_eq_some_iff.mpr (isStore ▸ rfl)⟩
    exact List.length_pos_of_mem isText
  · rintro result member rfl
    exact (keeps.given result member).eq distinct given
  · exact ran.history

end Mediator

/-- Whichever way a query takes to a registered store, the store is given one
rendition of it: its entry among the candidates, or the caller's text. -/
theorem Rendition.same_on_every_way (distinct : registry.names.Nodup)
    (member : store ∈ registry.stores) (settings : Settings) (query : String)
    (dialect : Dialect) :
    ∃ rendition : Rendition,
      (∀ candidate ∈ Candidate.all settings registry query dialect,
        candidate.name = store.name → rendition = candidate.rendition) ∧
      ((∀ candidate ∈ Candidate.all settings registry query dialect,
        candidate.name ≠ store.name) →
        rendition = ⟨query, store.descriptor.primary, false⟩) ∧
      (∃ selection,
        Selection.forced settings registry query dialect store.name =
          .ok selection ∧
        selection.store = store.name ∧ selection.rendition = rendition) ∧
      (∀ model located selection,
        (∀ candidate ∈ located,
          candidate ∈ Candidate.all settings registry query dialect) →
        Selection.select settings registry model query dialect located =
          .ok selection →
        selection.store = store.name → selection.rendition = rendition) ∧
      ∀ (history : History) (directory : DataDirectory)
        (surroundings : Surroundings), dialect = Query.classify query →
        let mediator : Mediator := ⟨settings, registry, history, directory⟩
        (∀ target, ∃ results,
          mediator.RunsOnly (mediator.execute surroundings query target).1
            surroundings query store.name rendition results ∧
          ∀ answer, (mediator.execute surroundings query target).2 =
            .answered answer → answer.result ∈ results) ∧
        ∃ results,
          mediator.RunsOnly (mediator.executeAll surroundings query).1
            surroundings query store.name rendition results ∧
          ∀ returned, (mediator.executeAll surroundings query).2 =
            .ok returned → returned = results := by
  have given := Candidate.given_forStore member settings query dialect
  have registered : store.name ∈ registry.names := List.mem_map_of_mem member
  refine ⟨_, fun _ => given.of_entry distinct,
    given.of_absent distinct member, ?_, ?_, ?_⟩
  · obtain ⟨selection, isForced, isStore, _⟩ :=
      Selection.forced_of_mem registered settings query dialect
    have isGiven := (Selection.given_of_forced isForced).2
    rw [isStore] at isGiven
    exact ⟨selection, isForced, isStore, isGiven.eq distinct given⟩
  · intro model located selection drawn isSelected isStore
    have isGiven := Selection.given_of_select drawn isSelected
    rw [isStore] at isGiven
    exact isGiven.eq distinct given
  · rintro history directory surroundings rfl mediator
    constructor
    · intro target
      obtain ⟨contacts, results, ran, keeps, returned⟩ :=
        mediator.ran_execute distinct surroundings query target
      exact ⟨results, keeps.runsOnly distinct registered given ran,
        fun answer isAnswer => (returned answer isAnswer).1⟩
    · obtain ⟨contacts, results, ran, keeps, returned⟩ :=
        mediator.ran_executeAll surroundings query
      exact ⟨results, keeps.runsOnly distinct registered given ran, returned⟩

/-- A registry with a store for each dialect. -/
def eachDialect : Registry :=
  ⟨[.ofBackend (.single "tables" .relational) (.relational []),
    .ofBackend (.single "documents" .document) (.document []),
    .ofBackend (.single "keys" .keyValue) (.keyValue [])]⟩

/-- A relational query reaches the store of documents as a call, and the store
of keys as it is. -/
theorem Rendition.same_on_every_way_select :
    let query := "SELECT * FROM t"
    let history : History := .inMemory (.empty 10 10) 100
    let mediator : Mediator := ⟨.standard, eachDialect, history, .fresh⟩
    let surroundings : Surroundings :=
      ⟨⟨10, 0⟩, fun place => ⟨place⟩, fun _ => ⟨1.0, 0.0, 0.0⟩⟩
    (∃ selection, Selection.forced .standard eachDialect query .relational
        "documents" = .ok selection ∧
      selection.rendition = ⟨"db.t.find(\x7b\x7d)", .document, true⟩) ∧
    (∃ results, mediator.RunsOnly
      (mediator.execute surroundings query (.store "documents")).1
      surroundings query "documents"
      ⟨"db.t.find(\x7b\x7d)", .document, true⟩ results) ∧
    ∃ selection, Selection.forced .standard eachDialect query .relational
        "keys" = .ok selection ∧
      selection.rendition = ⟨query, .keyValue, false⟩ := by
  intro query history mediator surroundings
  have distinct : eachDialect.names.Nodup := by decide
  have isDocuments : .ofBackend (.single "documents" .document) (.document []) ∈
      eachDialect.stores := by
    simp [eachDialect]
  obtain ⟨rendition, ofEntry, _, ⟨selection, isForced, _, isRendition⟩, _,
    onEachWay⟩ :=
    same_on_every_way distinct isDocuments .standard query .relational
  have isEntry : ⟨.single "documents" .document, "db.t.find(\x7b\x7d)",
      .document, true⟩ ∈ Candidate.all .standard eachDialect query
        .relational := by
    rw [Candidate.all, List.mem_mergeSort]
    decide +kernel
  have isCall := ofEntry _ isEntry rfl
  subst isCall
  have isRelational : .relational = Query.classify query := by decide +kernel
  obtain ⟨executed, _⟩ :=
    onEachWay history .fresh surroundings isRelational
  obtain ⟨results, ran, _⟩ := executed (.store "documents")
  refine ⟨⟨selection, isForced, isRendition⟩, ⟨results, ran⟩, ?_⟩
  have isKeys : .ofBackend (.single "keys" .keyValue) (.keyValue []) ∈
      eachDialect.stores := by
    simp [eachDialect]
  obtain ⟨rendition, _, ofAbsent, ⟨selection, isForced, _, isRendition⟩, _⟩ :=
    same_on_every_way distinct isKeys .standard query .relational
  have absent : ∀ candidate ∈ Candidate.all .standard eachDialect query
      .relational, candidate.name ≠ "keys" := by
    intro candidate
    rw [Candidate.all, List.mem_mergeSort]
    revert candidate
    decide +kernel
  exact ⟨selection, isForced, isRendition.trans (ofAbsent absent)⟩

end Polystore
