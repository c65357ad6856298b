import Polystore.Proofs.Routing.Recording
import Polystore.Proofs.Routing.Renditions

/-!
# A recommendation is what an execution does

A recommendation probes stores and changes nothing else.  As long as the probes
find the same again, an execution that follows selects the same store on the
same grounds, whether that store is run alone or side by side with others.
-/

namespace Polystore

namespace Store

/-- The store without the probes in its log. -/
def content (store : Store) : Store :=
  { store with log := store.log.filter (·.request.text?.isSome) }

theorem content_note_probe (store : Store) (subject : String) :
    (store.note (.probe subject)).content = store.content := by
  rw [content, note, List.filter_append]
  simp [content, Request.text?]

theorem content_asked {contact : Contact} (isProbe : contact.IsProbe)
    (limit : Nat) (store : Store) :
    (store.asked limit contact).content = store.content := by
  cases contact with
  | probe name subject =>
      rw [asked, probeWithin]
      split <;> exact store.content_note_probe subject
  | query name text => cases isProbe

end Store

namespace Registry

variable {registry : Registry}

def contents (registry : Registry) : List Store :=
  registry.stores.map Store.content

theorem contents_contact (distinct : registry.names.Nodup) (limit : Nat)
    {contact : Contact} (isProbe : contact.IsProbe) :
    (registry.contact limit contact).contents = registry.contents := by
  unfold Registry.contact
  split
  · rename_i store found
    exact map_put distinct found
      (congrArg Descriptor.name (store.descriptor_asked limit contact))
      (Store.content_asked isProbe limit store)
  · rfl

theorem contents_follow (distinct : registry.names.Nodup) (limit : Nat)
    {probes : List Contact} (areProbes : ∀ contact ∈ probes, contact.IsProbe) :
    (registry.follow limit probes).contents = registry.contents := by
  induction probes generalizing registry with
  | nil => rfl
  | cons first rest induction =>
      obtain ⟨isProbe, restProbes⟩ := List.forall_mem_cons.mp areProbes
      exact (induction (nodup_contact distinct limit first) restProbes).trans
        (contents_contact distinct limit isProbe)

end Registry

namespace Mediator

variable {mediator : Mediator} {query : String}

/-- Stores in which the same is found again are selected again. -/
theorem select_again (distinct : mediator.registry.names.Nodup)
    (again : ∀ candidate ∈ mediator.candidates query,
      Location.finds mediator.settings.storeTimeoutMs
          (mediator.select query).1.registry candidate =
        Location.finds mediator.settings.storeTimeoutMs mediator.registry
          candidate) :
    ((mediator.select query).1.select query).2 =
      (mediator.select query).2 := by
  have same : (mediator.select query).1.registry.descriptors =
      mediator.registry.descriptors := by
    show (Location.locate mediator.settings.storeTimeoutMs mediator.registry
      (mediator.candidates query)).1.descriptors = _
    rw [Location.registry_locate]
    exact Registry.descriptors_follow distinct _ _
  have sameCandidates : (mediator.select query).1.candidates query =
      mediator.candidates query := Candidate.all_congr same
  have distinctCandidates :
      ((mediator.candidates query).map Candidate.name).Nodup :=
    Candidate.nodup_all distinct _ _ _
  have sameLocated : (Location.locate mediator.settings.storeTimeoutMs
      (mediator.select query).1.registry
        ((mediator.select query).1.candidates query)).2 =
      (Location.locate mediator.settings.storeTimeoutMs mediator.registry
        (mediator.candidates query)).2 := by
    rw [sameCandidates, Location.located_eq _ _ distinctCandidates,
      Location.located_eq _ _ distinctCandidates]
    exact List.filter_congr again
  show Selection.select mediator.settings (mediator.select query).1.registry
    mediator.history.model query (Query.classify query) (Location.locate _ _
      ((mediator.select query).1.candidates query)).2 = _
  rw [Selection.select_congr same]
  exact congrArg _ sameLocated

/-- An execution that follows a recommendation answers as recommended. -/
theorem execute_as_recommended (sound : mediator.registry.Sound)
    (query : String)
    (again : ∀ candidate ∈ mediator.candidates query,
      Location.finds mediator.settings.storeTimeoutMs
          (mediator.recommend query).1.registry candidate =
        Location.finds mediator.settings.storeTimeoutMs mediator.registry
          candidate) :
    ∃ recommendation, (mediator.recommend query).2 = .ok recommendation ∧
      (mediator.recommend query).1.settings = mediator.settings ∧
      (mediator.recommend query).1.history = mediator.history ∧
      (mediator.recommend query).1.directory = mediator.directory ∧
      (mediator.recommend query).1.registry.contents =
        mediator.registry.contents ∧
      ∀ surroundings, ∃ answer,
        ((mediator.recommend query).1.execute surroundings query
          .automatic).2 = .answered answer ∧
        answer.result.store = recommendation.store ∧
        answer.signature = recommendation.signature ∧
        answer.result.executedQuery = recommendation.executedQuery ∧
        answer.state = recommendation.state ∧
        answer.located = recommendation.located := by
  obtain ⟨selection, chosen⟩ := exists_chosen_automatic sound query
  have selected : mediator.select query =
      (mediator.probed query .automatic, .ok selection) := chosen.chosen
  have recommended : (mediator.recommend query).1 =
      mediator.probed query .automatic := congrArg Prod.fst selected
  have soundNext : (mediator.probed query .automatic).registry.Sound :=
    (sound.follow _ _).1
  refine ⟨_, by rw [recommend, selected]; rfl, ?_⟩
  rw [recommended]
  refine ⟨rfl, rfl, rfl, Registry.contents_follow sound.distinct _
    fun _ => isProbe_of_mem_probes, ?_⟩
  intro surroundings
  have isChosen :
      ((mediator.probed query .automatic).choose query .automatic).2 =
        .ok selection := by
    have same := select_again sound.distinct again
    rw [selected] at same
    exact same
  have noName : ∀ name, Target.automatic = .store name →
      name ∈ (mediator.probed query .automatic).registry.names := by
    rintro name ⟨⟩
  obtain ⟨answer, _, answered, _⟩ :=
    exists_recorded soundNext noName surroundings query
  obtain ⟨contacts, results, _, keeps, returned⟩ :=
    ran_execute soundNext.distinct surroundings query .automatic
  obtain ⟨isResult, follows⟩ := returned answer answered
  have isFollowing := follows selection isChosen
  refine ⟨answer, answered, isFollowing.store, isFollowing.signature, ?_,
    isFollowing.state, isFollowing.located⟩
  have selectionGiven := gives_of_choose isChosen
  rw [← isFollowing.store] at selectionGiven
  have sameRendition : answer.result.rendition = selection.rendition :=
    (keeps.given _ isResult).eq soundNext.distinct selectionGiven
  exact congrArg Rendition.text sameRendition

theorem candidates_twins : twins.candidates "GET key" =
    twinStores.map (Candidate.native "GET key" .keyValue) := by
  rw [candidates, Candidate.all, List.mergeSort_of_pairwise (by decide +kernel)]
  decide +kernel

/-- Both of two stores are found again, and then compared. -/
theorem execute_as_recommended_twins :
    ∃ recommendation, (twins.recommend "GET key").2 = .ok recommendation ∧
      ∀ surroundings, ∃ answer,
        ((twins.recommend "GET key").1.execute surroundings "GET key"
          .automatic).2 = .answered answer ∧
        answer.result.store = recommendation.store ∧
        answer.result.executedQuery = recommendation.executedQuery := by
  have probed : (twins.recommend "GET key").1.registry =
      (Location.locate twins.settings.storeTimeoutMs twins.registry
        (twinStores.map (Candidate.native "GET key" .keyValue))).1 := by
    rw [← candidates_twins]
    rfl
  have again : ∀ candidate ∈ twins.candidates "GET key",
      Location.finds twins.settings.storeTimeoutMs
          (twins.recommend "GET key").1.registry candidate =
        Location.finds twins.settings.storeTimeoutMs twins.registry
          candidate := by
    rw [candidates_twins, probed]
    decide +kernel
  obtain ⟨recommendation, recommended, _, _, _, _, executed⟩ :=
    execute_as_recommended reachable_twins.sound "GET key" again
  refine ⟨recommendation, recommended, ?_⟩
  intro surroundings
  obtain ⟨answer, answered, store, _, text, _⟩ := executed surroundings
  exact ⟨answer, answered, store, text⟩

end Mediator

end Polystore
