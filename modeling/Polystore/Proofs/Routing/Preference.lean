import Polystore.Proofs.Keyed
import Polystore.Proofs.Numeral.Ordering
import Polystore.Proofs.Routing.Selected

/-!
# Which candidate is preferred

The model recommends the store of its best profile, and a recommendation that
is trusted decides between several located candidates as soon as its store is
among them.  Otherwise the score decides, then the kind of the store, then
registration.  Both are choices of an extreme in a linear order as long as all
scores are numbers, so neither depends on the order in which the candidates
were located.
-/

namespace Polystore

/-- Choosing one of two from left to right ends with a least one. -/
theorem foldl_least {α κ : Type} [Preorder κ] {key : α → κ}
    {choose : α → α → α} {admitted : α → Prop}
    (chooses : ∀ left right, admitted left → admitted right →
      choose left right = left ∧ key left ≤ key right ∨
        choose left right = right ∧ key right ≤ key left)
    {first : α} {rest : List α}
    (areAdmitted : ∀ one ∈ first :: rest, admitted one) :
    rest.foldl choose first ∈ first :: rest ∧
      ∀ one ∈ first :: rest, key (rest.foldl choose first) ≤ key one := by
  induction rest generalizing first with
  | nil => simp
  | cons next rest induction =>
      obtain ⟨isFirst, others⟩ := List.forall_mem_cons.mp areAdmitted
      obtain ⟨isNext, areRest⟩ := List.forall_mem_cons.mp others
      rw [List.foldl_cons]
      rcases chooses first next isFirst isNext with
        ⟨chosen, least⟩ | ⟨chosen, least⟩
      · rw [chosen]
        obtain ⟨member, below⟩ :=
          induction (List.forall_mem_cons.mpr ⟨isFirst, areRest⟩)
        obtain ⟨belowFirst, belowRest⟩ := List.forall_mem_cons.mp below
        constructor
        · rcases List.mem_cons.mp member with same | inRest
          · rw [same]
            exact List.mem_cons_self
          · exact List.mem_cons_of_mem _ (List.mem_cons_of_mem _ inRest)
        · exact List.forall_mem_cons.mpr ⟨belowFirst,
            List.forall_mem_cons.mpr ⟨belowFirst.trans least, belowRest⟩⟩
      · rw [chosen]
        obtain ⟨member, below⟩ := induction others
        obtain ⟨belowNext, belowRest⟩ := List.forall_mem_cons.mp below
        constructor
        · exact List.mem_cons_of_mem _ member
        · exact List.forall_mem_cons.mpr ⟨belowNext.trans least, below⟩

open Numeral (place lt_iff_place_lt beq_iff_place_eq)

namespace Model

variable {left right : Float}

theorem compareScores_eq_gt_iff (leftNumber : left.isNaN = false)
    (rightNumber : right.isNaN = false) :
    compareScores left right = .gt ↔ right < left := by
  unfold compareScores
  by_cases below : left < right
  · have notAbove : ¬right < left := by
      rw [lt_iff_place_lt leftNumber rightNumber] at below
      rw [lt_iff_place_lt rightNumber leftNumber]
      exact below.not_gt
    simp [below, notAbove]
  · simp [below]

theorem compareScores_eq_eq_iff (leftNumber : left.isNaN = false)
    (rightNumber : right.isNaN = false) :
    compareScores left right = .eq ↔ (left == right) = true := by
  rw [beq_iff_place_eq leftNumber rightNumber]
  unfold compareScores
  simp only [gt_iff_lt, lt_iff_place_lt leftNumber rightNumber,
    lt_iff_place_lt rightNumber leftNumber]
  rcases lt_trichotomy (place left) (place right) with below | same | above
  · simp [below, below.ne]
  · simp [same]
  · simp [above, above.not_gt, above.ne']

end Model

namespace Profile

/-- The profile recommends its store more than the other one does: by its
score, then by its samples, then by the smaller name. -/
def Outranks (profile other : Profile) : Prop :=
  other.score < profile.score ∨ (profile.score == other.score) = true ∧
    (other.samples < profile.samples ∨ profile.samples = other.samples ∧
      profile.store < other.store)

/-- How strongly a profile recommends its store, the least being the
strongest. -/
def strength (profile : Profile) : (ℤ ×ₗ ℤ ×ₗ ℤ)ᵒᵈ ×ₗ ℕᵒᵈ ×ₗ String :=
  toLex (OrderDual.toDual (place profile.score),
    toLex (OrderDual.toDual profile.samples, profile.store))

variable {profile other : Profile}

theorem outranks_iff (isNumber : profile.score.isNaN = false)
    (otherIsNumber : other.score.isNaN = false) :
    profile.Outranks other ↔ profile.strength < other.strength := by
  rw [Outranks, lt_iff_place_lt otherIsNumber isNumber,
    beq_iff_place_eq isNumber otherIsNumber]
  simp [strength, Prod.Lex.toLex_lt_toLex]

theorem outranks_iff_compareProfiles (isNumber : profile.score.isNaN = false)
    (otherIsNumber : other.score.isNaN = false) :
    profile.Outranks other ↔ Model.compareProfiles profile other = .gt := by
  have byName : (if other.store < profile.store then Ordering.lt
      else if profile.store < other.store then .gt else .eq) = .gt ↔
      profile.store < other.store := by
    by_cases before : other.store < profile.store
    · simp [before, lt_asymm before]
    · simp [before]
  rw [Model.compareProfiles, Ordering.then_eq_gt, Ordering.then_eq_gt,
    Model.compareScores_eq_gt_iff isNumber otherIsNumber,
    Model.compareScores_eq_eq_iff isNumber otherIsNumber, byName,
    compare_gt_iff_gt, compare_eq_iff_eq]
  rfl

end Profile

namespace Model

variable {model : Model} {signature : Signature}

theorem best?_spec {profiles : List Profile} {best : Profile}
    (numbers : ∀ profile ∈ profiles, profile.score.isNaN = false)
    (isBest : best? profiles = some best) :
    best ∈ profiles ∧ ∀ other ∈ profiles, best.strength ≤ other.strength := by
  cases profiles with
  | nil => cases isBest
  | cons first rest =>
      cases isBest
      refine foldl_least ?_ numbers
      intro best next bestNumber nextNumber
      by_cases outranks : best.Outranks next
      · left
        have isGreater :=
          (Profile.outranks_iff_compareProfiles bestNumber nextNumber).mp
            outranks
        exact ⟨by simp [isGreater],
          ((Profile.outranks_iff bestNumber nextNumber).mp outranks).le⟩
      · right
        have notGreater := mt
          (Profile.outranks_iff_compareProfiles bestNumber nextNumber).mpr
            outranks
        refine ⟨by simp [notGreater], not_lt.mp ?_⟩
        exact mt (Profile.outranks_iff bestNumber nextNumber).mpr outranks

theorem predict?_eq_none_iff :
    model.predict? signature = none ↔ model.profilesFor signature = [] := by
  cases profiles : model.profilesFor signature with
  | nil => simp [predict?, profiles, best?]
  | cons first rest => simp [predict?, profiles, best?]

/-- The recommended store is the one of the profile that outranks all others
of the signature. -/
theorem exists_best_of_predict? {prediction : Prediction}
    (numbers : ∀ profile ∈ model.profilesFor signature,
      profile.score.isNaN = false)
    (predicted : model.predict? signature = some prediction) :
    ∃ best ∈ model.profilesFor signature, prediction.store = best.store ∧
      prediction.confidence = best.confidence ∧
      prediction.samples = best.samples ∧
      ∀ other ∈ model.profilesFor signature, other.store ≠ best.store →
        best.Outranks other := by
  obtain ⟨best, isBest, rfl⟩ := Option.map_eq_some_iff.mp predicted
  obtain ⟨member, strongest⟩ := best?_spec numbers isBest
  refine ⟨best, member, rfl, rfl, rfl, ?_⟩
  intro other inProfiles different
  rw [Profile.outranks_iff (numbers best member) (numbers other inProfiles)]
  apply lt_of_le_of_ne (strongest other inProfiles)
  intro same
  exact different (congrArg (fun strength => (ofLex (ofLex strength).2).2)
    same).symm

end Model

namespace Candidate

/-- The candidate is preferred to the other one: by its score, then by the
kind of its store, then by registration. -/
def Precedes (registry : Registry) (score : Candidate → Float)
    (candidate other : Candidate) : Prop :=
  score other < score candidate ∨ (score candidate == score other) = true ∧
    (Selection.dialectRank candidate.store.primary <
        Selection.dialectRank other.store.primary ∨
      Selection.dialectRank candidate.store.primary =
        Selection.dialectRank other.store.primary ∧
      candidate.position registry < other.position registry)

/-- How far back a candidate stands. -/
def standing (registry : Registry) (score : Candidate → Float)
    (candidate : Candidate) : (ℤ ×ₗ ℤ ×ₗ ℤ)ᵒᵈ ×ₗ ℕ ×ₗ ℕ :=
  toLex (OrderDual.toDual (place (score candidate)),
    toLex (Selection.dialectRank candidate.store.primary,
      candidate.position registry))

variable {registry : Registry} {score : Candidate → Float}
  {candidate other : Candidate}

theorem precedes_iff (isNumber : (score candidate).isNaN = false)
    (otherIsNumber : (score other).isNaN = false) :
    candidate.Precedes registry score other ↔
      candidate.standing registry score < other.standing registry score := by
  rw [Precedes, lt_iff_place_lt otherIsNumber isNumber,
    beq_iff_place_eq isNumber otherIsNumber]
  simp [standing, Prod.Lex.toLex_lt_toLex]

theorem name_eq_of_position_eq (member : candidate.name ∈ registry.names)
    (same : candidate.position registry = other.position registry) :
    candidate.name = other.name := by
  obtain ⟨index, isIndex⟩ := Registry.exists_position? member
  have isThere := Registry.getElem?_of_position? isIndex
  obtain ⟨inside, _⟩ := List.getElem?_eq_some_iff.mp isThere
  rw [position, position, isIndex, Option.getD_some] at same
  cases otherIndex : registry.position? other.name with
  | none =>
      rw [otherIndex, Option.getD_none] at same
      rw [same, Registry.names, List.length_map] at inside
      exact absurd inside (lt_irrefl _)
  | some place =>
      rw [otherIndex, Option.getD_some] at same
      have isAlsoThere := Registry.getElem?_of_position? otherIndex
      rw [← same, isThere] at isAlsoThere
      exact Option.some_inj.mp isAlsoThere

end Candidate

namespace Selection

variable {settings : Settings} {registry : Registry} {model : Model}
  {signature : Signature} {located : List Candidate}

/-- The scores of located candidates by the names of their stores. -/
def scoresOf (settings : Settings) (model : Model) (signature : Signature)
    (located : List Candidate) : Keyed Float :=
  .ofList (located.map fun candidate =>
    (candidate.name, candidateScore settings model signature candidate))

theorem names_scored (settings : Settings) (model : Model)
    (signature : Signature) (located : List Candidate) :
    (located.map fun candidate => (candidate.name,
      candidateScore settings model signature candidate)).map Prod.fst =
        located.map Candidate.name := by
  simp

theorem get?_scoresOf (distinct : (located.map Candidate.name).Nodup)
    {candidate : Candidate} (member : candidate ∈ located) :
    (scoresOf settings model signature located).get? candidate.name =
      some (candidateScore settings model signature candidate) := by
  have distinctKeys : ((located.map fun candidate => (candidate.name,
      candidateScore settings model signature candidate)).map
        Prod.fst).Nodup := by
    rwa [names_scored]
  rw [scoresOf, Keyed.get?_ofList distinctKeys]
  exact Keyed.get?_of_mem distinctKeys (List.mem_map_of_mem member)

theorem scoresOf_of_perm {other : List Candidate}
    (distinct : (located.map Candidate.name).Nodup)
    (perm : located.Perm other) :
    scoresOf settings model signature located =
      scoresOf settings model signature other :=
  Keyed.ofList_of_perm (perm.map _) (by rwa [names_scored])

theorem precedes_iff_compareCandidates {scores : Keyed Float}
    {score : Candidate → Float} {left right : Candidate}
    (leftNumber : (score left).isNaN = false)
    (rightNumber : (score right).isNaN = false)
    (leftScored : scores.get? left.name = some (score left))
    (rightScored : scores.get? right.name = some (score right)) :
    right.Precedes registry score left ↔
      compareCandidates registry scores left right = .gt := by
  simp only [compareCandidates, leftScored, rightScored, Option.getD_some]
  rw [Candidate.Precedes, Ordering.then_eq_gt, Ordering.then_eq_gt,
    Model.compareScores_eq_gt_iff rightNumber leftNumber,
    Model.compareScores_eq_eq_iff rightNumber leftNumber,
    compare_gt_iff_gt, compare_eq_iff_eq, compare_gt_iff_gt]
  simp only [eq_comm (a := dialectRank left.store.primary)]

theorem preferred_least {first : Candidate} {rest : List Candidate}
    {scores : Keyed Float} {score : Candidate → Float}
    (numbers : ∀ candidate ∈ first :: rest, (score candidate).isNaN = false)
    (scored : ∀ candidate ∈ first :: rest,
      scores.get? candidate.name = some (score candidate)) :
    ∀ candidate ∈ first :: rest,
      (preferred registry scores first rest).standing registry score ≤
        candidate.standing registry score := by
  have areScored : ∀ candidate ∈ first :: rest,
      (score candidate).isNaN = false ∧
        scores.get? candidate.name = some (score candidate) :=
    fun candidate member => ⟨numbers candidate member, scored candidate member⟩
  refine (foldl_least ?_ areScored).2
  intro best next ⟨bestNumber, bestScored⟩ ⟨nextNumber, nextScored⟩
  have precedes : next.Precedes registry score best ↔
      compareCandidates registry scores best next = .gt :=
    precedes_iff_compareCandidates bestNumber nextNumber bestScored nextScored
  by_cases isNext : next.Precedes registry score best
  · right
    refine ⟨by simp [precedes.mp isNext], ?_⟩
    exact ((Candidate.precedes_iff nextNumber bestNumber).mp isNext).le
  · left
    refine ⟨by simp [mt precedes.mpr isNext], not_lt.mp ?_⟩
    exact mt (Candidate.precedes_iff nextNumber bestNumber).mpr isNext

theorem stateOf_eq_exploiting_iff {prediction : Option Prediction} :
    stateOf settings prediction = .exploiting ↔
      ∃ predicted, prediction = some predicted ∧
        predicted.confidence ≥ settings.confidenceThreshold := by
  cases prediction with
  | none => simp [stateOf]
  | some predicted =>
      rw [stateOf]
      split <;> simp_all

theorem trusted?_eq_some_iff {prediction : Option Prediction}
    {candidate : Candidate} {trusted : Prediction}
    (distinct : (located.map Candidate.name).Nodup) :
    trusted? (stateOf settings prediction) prediction located =
        some (candidate, trusted) ↔
      prediction = some trusted ∧
        trusted.confidence ≥ settings.confidenceThreshold ∧
        candidate ∈ located ∧ candidate.name = trusted.store := by
  simp only [trusted?, Option.bind_eq_bind, Option.bind_eq_some_iff,
    Candidate.find?_eq_some_iff distinct, beq_iff_eq,
    stateOf_eq_exploiting_iff]
  constructor
  · rintro ⟨predicted, isPredicted, other, isFound, exploits⟩
    split at exploits
    · rename_i isTrusted
      obtain ⟨found, isSame, isConfident⟩ := isTrusted
      cases exploits
      cases isPredicted.symm.trans isSame
      exact ⟨isPredicted, isConfident, isFound⟩
    · cases exploits
  · rintro ⟨isPredicted, isConfident, isFound⟩
    refine ⟨trusted, isPredicted, candidate, isFound, ?_⟩
    rw [if_pos ⟨trusted, isPredicted, isConfident⟩]

/-- What a query is answered with when it goes to one of several located
candidates. -/
def choice (settings : Settings) (model : Model) (query : String)
    (located : List Candidate) (chosen : Candidate) (reason : SelectionReason)
    (scores : Keyed Float) : Selection :=
  let prediction := model.predict? (.ofQuery query)
  ofCandidate chosen (stateOf settings prediction) reason scores
    (located.map Candidate.name) ((prediction.map (·.confidence)).getD 0.0)

variable {query : String} {dialect : Dialect}

theorem select_of_trusted {candidate : Candidate} {trusted : Prediction}
    (several : 2 ≤ located.length)
    (isTrusted : trusted? (stateOf settings (model.predict? (.ofQuery query)))
      (model.predict? (.ofQuery query)) located = some (candidate, trusted)) :
    select settings registry model query dialect located =
      .ok (choice settings model query located candidate
        (.learned trusted.confidence trusted.samples)
        (scoresOf settings model (.ofQuery query) located)) := by
  match located with
  | first :: second :: rest =>
      rw [select]
      · rw [isTrusted]
        rfl
      · exact List.cons_ne_nil second rest

theorem select_of_untrusted (registry : Registry) (dialect : Dialect)
    (several : 2 ≤ located.length)
    (untrusted : trusted? (stateOf settings (model.predict? (.ofQuery query)))
      (model.predict? (.ofQuery query)) located = none) :
    ∃ first rest, located = first :: rest ∧
      select settings registry model query dialect located =
        .ok (choice settings model query located
          (preferred registry
            (scoresOf settings model (.ofQuery query) located) first rest)
          .scored (scoresOf settings model (.ofQuery query) located)) := by
  match located with
  | first :: second :: rest =>
      refine ⟨first, second :: rest, rfl, ?_⟩
      rw [select]
      · rw [untrusted]
        rfl
      · exact List.cons_ne_nil second rest

/-- The candidate is preferred to all others that were located. -/
def Foremost (settings : Settings) (registry : Registry) (model : Model)
    (signature : Signature) (located : List Candidate) (candidate : Candidate) :
    Prop :=
  candidate ∈ located ∧ ∀ other ∈ located, other ≠ candidate →
    candidate.Precedes registry (candidateScore settings model signature) other

theorem preferred_foremost {first : Candidate} {rest : List Candidate}
    (distinct : ((first :: rest).map Candidate.name).Nodup)
    (registered : ∀ candidate ∈ first :: rest,
      candidate.name ∈ registry.names)
    (numbers : ∀ candidate ∈ first :: rest,
      (candidateScore settings model signature candidate).isNaN = false) :
    Foremost settings registry model signature (first :: rest)
      (preferred registry
        (scoresOf settings model signature (first :: rest)) first rest) := by
  have member := preferred_mem registry
    (scoresOf settings model signature (first :: rest)) first rest
  have least : ∀ candidate ∈ first :: rest,
      (preferred registry (scoresOf settings model signature (first :: rest))
        first rest).standing registry
          (candidateScore settings model signature) ≤
        candidate.standing registry (candidateScore settings model signature) :=
    preferred_least numbers fun candidate inLocated =>
      get?_scoresOf distinct inLocated
  constructor
  · exact member
  · intro other inLocated different
    rw [Candidate.precedes_iff (numbers _ member) (numbers other inLocated)]
    apply lt_of_le_of_ne (least other inLocated)
    intro same
    apply different
    apply List.inj_on_of_nodup_map distinct inLocated member
    exact (Candidate.name_eq_of_position_eq (registered _ member)
      (congrArg (fun standing => (ofLex (ofLex standing).2).2) same)).symm

theorem Foremost.eq {candidate other : Candidate}
    (numbers : ∀ candidate ∈ located,
      (candidateScore settings model signature candidate).isNaN = false)
    (foremost :
      Foremost settings registry model signature located candidate)
    (otherForemost :
      Foremost settings registry model signature located other) :
    candidate = other := by
  by_contra different
  have isNumber := numbers candidate foremost.1
  have otherIsNumber := numbers other otherForemost.1
  have before := (Candidate.precedes_iff isNumber otherIsNumber).mp
    (foremost.2 other otherForemost.1 (Ne.symm different))
  have after := (Candidate.precedes_iff otherIsNumber isNumber).mp
    (otherForemost.2 candidate foremost.1 different)
  exact lt_asymm before after

theorem Foremost.of_perm {candidate : Candidate} {other : List Candidate}
    (foremost :
      Foremost settings registry model signature located candidate)
    (perm : other.Perm located) :
    Foremost settings registry model signature other candidate :=
  ⟨perm.mem_iff.mpr foremost.1, fun third inOther =>
    foremost.2 third (perm.mem_iff.mp inOther)⟩

/-- The candidate that a query goes to when several were located, and the
reason for it. -/
inductive Specified (settings : Settings) (registry : Registry) (model : Model)
    (signature : Signature) (located : List Candidate) :
    Candidate → SelectionReason → Prop where
  | learned {candidate : Candidate} {prediction : Prediction}
      (isPredicted : model.predict? signature = some prediction)
      (isTrusted : prediction.confidence ≥ settings.confidenceThreshold)
      (isLocated : candidate ∈ located)
      (isNamed : candidate.name = prediction.store) :
      Specified settings registry model signature located candidate
        (.learned prediction.confidence prediction.samples)
  | scored {candidate : Candidate}
      (untrusted : ∀ prediction, model.predict? signature = some prediction →
        prediction.confidence ≥ settings.confidenceThreshold →
          prediction.store ∉ located.map Candidate.name)
      (foremost :
        Foremost settings registry model signature located candidate) :
      Specified settings registry model signature located candidate .scored

theorem Specified.of_perm {candidate : Candidate} {reason : SelectionReason}
    {other : List Candidate}
    (specified : Specified settings registry model signature located candidate
      reason) (perm : other.Perm located) :
    Specified settings registry model signature other candidate reason := by
  cases specified with
  | learned isPredicted isTrusted isLocated isNamed =>
      exact .learned isPredicted isTrusted (perm.mem_iff.mpr isLocated) isNamed
  | scored untrusted foremost =>
      refine .scored ?_ (foremost.of_perm perm)
      intro prediction isPredicted isTrusted member
      exact untrusted prediction isPredicted isTrusted
        ((perm.map Candidate.name).mem_iff.mp member)

theorem exists_specified (nonempty : located ≠ [])
    (distinct : (located.map Candidate.name).Nodup)
    (registered : ∀ candidate ∈ located, candidate.name ∈ registry.names)
    (numbers : ∀ candidate ∈ located,
      (candidateScore settings model signature candidate).isNaN = false) :
    ∃ candidate reason, Specified settings registry model signature located
      candidate reason := by
  by_cases isTrusted : ∃ prediction,
      model.predict? signature = some prediction ∧
      prediction.confidence ≥ settings.confidenceThreshold ∧
      prediction.store ∈ located.map Candidate.name
  · obtain ⟨prediction, isPredicted, isTrusted, member⟩ := isTrusted
    obtain ⟨candidate, isLocated, isNamed⟩ := List.mem_map.mp member
    exact ⟨candidate, _, .learned isPredicted isTrusted isLocated isNamed⟩
  · obtain ⟨first, rest, rfl⟩ := List.exists_cons_of_ne_nil nonempty
    refine ⟨_, _, .scored ?_ (preferred_foremost distinct registered numbers)⟩
    intro prediction isPredicted exceeds member
    exact isTrusted ⟨prediction, isPredicted, exceeds, member⟩

/-- Several located candidates lead to the specified one. -/
theorem select_of_specified {candidate : Candidate} {reason : SelectionReason}
    (several : 2 ≤ located.length)
    (distinct : (located.map Candidate.name).Nodup)
    (registered : ∀ candidate ∈ located, candidate.name ∈ registry.names)
    (numbers : ∀ candidate ∈ located,
      (candidateScore settings model (.ofQuery query) candidate).isNaN = false)
    (specified : Specified settings registry model (.ofQuery query) located
      candidate reason) :
    select settings registry model query dialect located =
      .ok (choice settings model query located candidate reason
        (scoresOf settings model (.ofQuery query) located)) := by
  cases specified with
  | learned isPredicted isTrusted isLocated isNamed =>
      exact select_of_trusted several ((trusted?_eq_some_iff distinct).mpr
        ⟨isPredicted, isTrusted, isLocated, isNamed⟩)
  | scored untrusted foremost =>
      have isUntrusted : trusted?
          (stateOf settings (model.predict? (.ofQuery query)))
          (model.predict? (.ofQuery query)) located = none := by
        by_contra isTrusted
        obtain ⟨⟨other, prediction⟩, isTrusted⟩ :=
          Option.ne_none_iff_exists'.mp isTrusted
        obtain ⟨isPredicted, exceeds, member, isNamed⟩ :=
          (trusted?_eq_some_iff distinct).mp isTrusted
        exact untrusted prediction isPredicted exceeds
          (List.mem_map.mpr ⟨other, member, isNamed⟩)
      obtain ⟨first, rest, rfl, selected⟩ :=
        select_of_untrusted registry dialect several isUntrusted
      rw [selected, (preferred_foremost distinct registered numbers).eq numbers
        foremost]

/-- Among several located candidates the selection is specified by the model,
the scores and the registration, whatever the order in which the candidates were
located. -/
theorem select_whatever_order (dialect : Dialect)
    (several : 2 ≤ located.length)
    (distinct : (located.map Candidate.name).Nodup)
    (registered : ∀ candidate ∈ located, candidate.name ∈ registry.names)
    (profileNumbers : ∀ profile ∈ model.profilesFor (.ofQuery query),
      profile.score.isNaN = false)
    (numbers : ∀ candidate ∈ located,
      (candidateScore settings model (.ofQuery query) candidate).isNaN =
        false) :
    (model.predict? (.ofQuery query) = none ↔
      model.profilesFor (.ofQuery query) = []) ∧
    (∀ prediction, model.predict? (.ofQuery query) = some prediction →
      ∃ best ∈ model.profilesFor (.ofQuery query),
        prediction.store = best.store ∧
        prediction.confidence = best.confidence ∧
        prediction.samples = best.samples ∧
        ∀ other ∈ model.profilesFor (.ofQuery query),
          other.store ≠ best.store → best.Outranks other) ∧
    ∃ candidate reason,
      Specified settings registry model (.ofQuery query) located candidate
        reason ∧
      ∀ other : List Candidate, other.Perm located →
        select settings registry model query dialect other =
          .ok (choice settings model query other candidate reason
            (scoresOf settings model (.ofQuery query) located)) := by
  refine ⟨Model.predict?_eq_none_iff, ?_, ?_⟩
  · intro prediction isPredicted
    exact Model.exists_best_of_predict? profileNumbers isPredicted
  · have nonempty : located ≠ [] := by
      rintro rfl
      cases several
    obtain ⟨candidate, reason, specified⟩ :=
      exists_specified nonempty distinct registered numbers
    refine ⟨candidate, reason, specified, ?_⟩
    intro other perm
    have otherDistinct := ((perm.map Candidate.name).nodup_iff).mpr distinct
    rw [← scoresOf_of_perm otherDistinct perm]
    apply select_of_specified (by rwa [perm.length_eq]) otherDistinct
    · exact fun third member => registered third (perm.mem_iff.mp member)
    · exact fun third member => numbers third (perm.mem_iff.mp member)
    · exact specified.of_perm perm

/-- Two stores for keys, of which the first has failed once on a lookup. -/
def lookupStores : Registry :=
  ⟨["first", "second"].map fun name =>
    .ofBackend (.single name .keyValue) (.keyValue (.ofList []))⟩

def lookupModel : Model :=
  (Model.empty 10 50).observe (.ofQuery "GET key") "first"
    ⟨0.0, 0.0, 0.0, 0.0, false, ⟨10, 0⟩⟩

def lookupCandidates : List Candidate :=
  lookupStores.stores.map (Candidate.native "GET key" .keyValue)

/-- The prior of the store without history exceeds the score of the other
one. -/
theorem select_whatever_order_lookup :
    ∃ candidate reason, candidate.name = "second" ∧
      Specified .standard lookupStores lookupModel (.ofQuery "GET key")
        lookupCandidates candidate reason ∧
      select .standard lookupStores lookupModel "GET key" .keyValue
          lookupCandidates.reverse =
        .ok (choice .standard lookupModel "GET key" lookupCandidates.reverse
          candidate reason (scoresOf .standard lookupModel (.ofQuery "GET key")
            lookupCandidates)) := by
  have several : 2 ≤ lookupCandidates.length := by decide
  have distinct : (lookupCandidates.map Candidate.name).Nodup := by decide
  have registered : ∀ candidate ∈ lookupCandidates,
      candidate.name ∈ lookupStores.names := by decide
  have profileNumbers : ∀ profile ∈ lookupModel.profilesFor
      (.ofQuery "GET key"), profile.score.isNaN = false := by
    decide +kernel
  have numbers : ∀ candidate ∈ lookupCandidates,
      (candidateScore .standard lookupModel (.ofQuery "GET key")
        candidate).isNaN = false := by
    decide +kernel
  obtain ⟨_, _, candidate, reason, specified, selected⟩ :=
    select_whatever_order .keyValue several distinct registered profileNumbers
      numbers
  have isSecond : (select .standard lookupStores lookupModel "GET key"
      .keyValue lookupCandidates).toOption.map Selection.store =
        some "second" := by
    decide +kernel
  rw [selected _ (List.Perm.refl _)] at isSecond
  exact ⟨candidate, reason, Option.some_inj.mp isSecond, specified,
    selected _ (List.reverse_perm _)⟩

end Selection

end Polystore
