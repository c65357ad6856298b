import Polystore.Proofs.Learning.Unsampled
import Polystore.Proofs.Routing.Preference

/-!
# Signatures without history

Before anything has been learned about a signature, its stores are scored by
the priors of their kinds.  What counts as learned is that there is a profile,
and what counts as history is that there are samples.  The two come apart only
where a saved document has brought in a profile without samples.
-/

namespace Polystore.Selection

variable {settings : Settings} {model : Model} {signature : Signature}

theorem stateOf_eq_noHistory_iff {prediction : Option Prediction} :
    stateOf settings prediction = .noHistory ↔ prediction = none := by
  cases prediction with
  | none => exact iff_of_true rfl rfl
  | some prediction =>
      rw [stateOf]
      split <;> simp

theorem candidateScore_of_unknown {candidate : Candidate}
    (unknown : model.profile? signature candidate.name = none) :
    candidateScore settings model signature candidate =
      settings.priors.ofDialect candidate.store.primary := by
  rw [candidateScore, unknown]

theorem candidateScore_of_known {candidate : Candidate} {profile : Profile}
    (known : model.profile? signature candidate.name = some profile) :
    candidateScore settings model signature candidate = profile.score := by
  rw [candidateScore, known]

theorem exists_select_scored {located : List Candidate}
    (several : 2 ≤ located.length) (settings : Settings)
    (registry : Registry) (model : Model) (query : String)
    (dialect : Dialect) :
    ∃ selection, select settings registry model query dialect located =
        .ok selection ∧
      selection.scores =
        scoresOf settings model (.ofQuery query) located := by
  cases isTrusted : trusted? (stateOf settings
      (model.predict? (.ofQuery query))) (model.predict? (.ofQuery query))
      located with
  | none =>
      obtain ⟨first, rest, -, selected⟩ :=
        select_of_untrusted registry dialect several isTrusted
      exact ⟨_, selected, rfl⟩
  | some trusted =>
      exact ⟨_, select_of_trusted several isTrusted, rfl⟩

/-- Whatever a model goes through, a signature has no history exactly when
there is no profile of it, and it has no samples exactly when there is none on
any store.  The two agree exactly when the signature has a sample, or no
profile that was restored without samples and not observed since.  A located
store without samples is scored by the prior of its kind, except that such a
profile scores zero. -/
theorem noHistory_iff_unsampled_iff (settings : Settings)
    (capacity saturation : Nat) (changes : List Model.Change)
    (readable : Model.Change.Readable changes) :
    let model := (Model.empty capacity saturation).changeAll changes
    (∀ signature,
      let state := stateOf settings (model.predict? signature)
      (state = .noHistory ↔
        ∀ store, model.profile? signature store = none) ∧
      (model.sampleCount signature = 0 ↔
        ∀ store, model.samplesOf signature store = []) ∧
      ((state = .noHistory ↔ model.sampleCount signature = 0) ↔
        (∃ store, model.samplesOf signature store ≠ []) ∨
          ∀ store, ¬Model.Change.LeavesBare changes signature store)) ∧
    (∀ registry query dialect (located : List Candidate),
      2 ≤ located.length →
      ∃ selection, select settings registry model query dialect located =
          .ok selection ∧
        selection.scores =
          scoresOf settings model (.ofQuery query) located) ∧
    ∀ signature (candidate : Candidate),
      model.samplesOf signature candidate.name = [] →
      (¬Model.Change.LeavesBare changes signature candidate.name →
        candidateScore settings model signature candidate =
          settings.priors.ofDialect candidate.store.primary) ∧
      (Model.Change.LeavesBare changes signature candidate.name →
        candidateScore settings model signature candidate = 0.0) := by
  intro model
  have settled : model.Settled :=
    (Model.settled_empty capacity saturation).changeAll changes
  have bare : ∀ signature store, model.snapshot.Bare signature store ↔
      Model.Change.LeavesBare changes signature store :=
    fun _ _ => Model.bare_changeAll_iff capacity saturation readable
  refine ⟨?_, ?_, ?_⟩
  · intro signature state
    have unknown : state = .noHistory ↔
        ∀ store, model.profile? signature store = none := by
      rw [stateOf_eq_noHistory_iff, Model.predict?_eq_none_iff,
        settled.profilesFor_eq_nil_iff]
    refine ⟨unknown, settled.sampleCount_eq_zero_iff, ?_⟩
    rw [unknown, settled.sampleCount_eq_zero_iff,
      Model.unknown_iff_unsampled_iff]
    simp only [bare]
  · intro registry query dialect located several
    exact exists_select_scored several settings registry model query dialect
  · intro signature candidate unsampled
    constructor
    · intro notBare
      apply candidateScore_of_unknown
      by_contra known
      rw [← bare, Model.bare_iff] at notBare
      exact notBare ⟨known, unsampled⟩
    · intro leftBare
      obtain ⟨profile, known, empty⟩ := (bare _ _).mpr leftBare
      rw [candidateScore_of_known known]
      exact settled.score_of_bare known empty

/-- A saved profile of the first store for keys, with room and no samples. -/
def bareTree : Written :=
  .object [(some (Signature.ofQuery "GET key").text,
    .object [(some "first", .object [
      (some "store", .string "first"),
      (some "window", .object [
        (some "capacity", .integer 10), (some "samples", .array [])]),
      (some "updated_at", .string "1970-01-01T00:00:10Z")])])]

def bareDocument : ProfileDocument :=
  [((Signature.ofQuery "GET key").text,
    [("first", .empty "first" 10 ⟨10, 0⟩)])]

theorem decode_bareTree :
    ProfileDocument.decode bareTree = some bareDocument := by
  decide +kernel

theorem readable_bareDocument {changes : List Model.Change}
    (only : ∀ document, .restore document ∈ changes →
      document = bareDocument) : Model.Change.Readable changes := by
  intro document member
  rw [only document member]
  exact ⟨bareTree, decode_bareTree⟩

/-- The second store is observed after the restoring, the first one is not. -/
theorem noHistory_iff_unsampled_iff_beside :
    let sample : Sample := ⟨8.0, 2.0, 5.0, 64.0, true, ⟨20, 0⟩⟩
    let signature := Signature.ofQuery "GET key"
    let changes : List Model.Change :=
      [.observe signature "first" sample, .restore bareDocument,
        .observe signature "second" sample]
    let model := (Model.empty 10 50).changeAll changes
    Model.Change.Readable changes ∧
      (stateOf .standard (model.predict? signature) = .noHistory ↔
        model.sampleCount signature = 0) ∧
      ∀ candidate ∈ lookupCandidates, candidate.name = "first" →
        candidateScore .standard model signature candidate = 0.0 := by
  intro sample signature changes model
  have readable : Model.Change.Readable changes :=
    readable_bareDocument (by simp [changes])
  obtain ⟨states, -, scores⟩ :=
    noHistory_iff_unsampled_iff .standard 10 50 changes readable
  obtain ⟨-, -, agree⟩ := states signature
  refine ⟨readable, ?_, ?_⟩
  · apply agree.mpr
    left
    refine ⟨"second", ?_⟩
    decide +kernel
  · intro candidate _ isFirst
    refine (scores signature candidate ?_).2 ?_
    · rw [isFirst]
      decide +kernel
    · rw [isFirst]
      refine ⟨[.observe signature "first" sample], .restore bareDocument,
        [.observe signature "second" sample], rfl, ?_, ?_⟩
      · exact ⟨.empty "first" 10 ⟨10, 0⟩, by decide +kernel, rfl⟩
      · simp [Model.Change.PassesBy]

/-- Nothing but the restored profile is known, and it has no sample: the
signature does not count as one without history, and its store is not scored
by the prior. -/
theorem exploring_without_samples :
    let signature := Signature.ofQuery "GET key"
    let changes : List Model.Change := [.restore bareDocument]
    let model := (Model.empty 10 50).changeAll changes
    Model.Change.Readable changes ∧
      model.sampleCount signature = 0 ∧
      stateOf .standard (model.predict? signature) = .exploring ∧
      ((select .standard lookupStores model "GET key" .keyValue
          lookupCandidates).toOption.map
          fun selection => selection.scores.get? "first") =
        some (some 0.0) ∧
      Settings.standard.priors.ofDialect .keyValue ≠ 0.0 := by
  intro signature changes model
  refine ⟨readable_bareDocument (by simp [changes]), ?_, ?_, ?_, ?_⟩
  · decide +kernel
  · decide +kernel
  · decide +kernel
  · decide +kernel

end Polystore.Selection
