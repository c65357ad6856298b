import Polystore.Proofs.Routing.SideBySide
import Polystore.Proofs.Routing.Visiting

/-!
# Isolation of candidates

Candidates that run side by side ask their stores in any order and end in any
order.  Each still has its result in its place, under its own name, and what
the result says depends on the reply of its own store alone: the others may
answer, fail, run out of time or crash.
-/

namespace Polystore

/-- Two results say the same, at whatever cost. -/
structure QueryResult.SameAnswer (left right : QueryResult) : Prop where
  success : left.success = right.success
  data : left.data = right.data
  rowCount : left.rowCount = right.rowCount
  error : left.error = right.error
  unavailable : left.unavailable = right.unavailable

namespace Candidate

/-- What a candidate's store does when it is asked.  A store that is not
registered does not come to an end. -/
def reply (limit : Nat) (registry : Registry) (candidate : Candidate) :
    Reply Response :=
  match registry.find? candidate.name with
  | none => .crashed
  | some store => (store.executeWithin limit candidate.query).2

/-- The candidate's result, by what its store does and what that costs. -/
def outcome (candidate : Candidate) (metrics : Metrics)
    (reply : Reply Response) : QueryResult :=
  ((Measurement.ofReply? metrics reply).map candidate.result).getD
    candidate.unfinished

/-- The result is one of this candidate, and it costs nothing when it is no
success. -/
structure Describes (candidate : Candidate) (result : QueryResult) :
    Prop where
  store : result.store = candidate.name
  query : result.executedQuery = candidate.query
  dialect : result.dialect = candidate.dialect
  converted : result.convertedQuery =
    if candidate.converted then some candidate.query else none
  costless : result.success = false → result.metrics = .zero

theorem describes_outcome (candidate : Candidate) (metrics : Metrics)
    (reply : Reply Response) :
    candidate.Describes (candidate.outcome metrics reply) := by
  cases reply with
  | answered response =>
      refine ⟨rfl, rfl, rfl, rfl, ?_⟩
      intro failed
      have isFailure : response.success = false := failed
      show (if response.success then metrics else .zero) = .zero
      rw [isFailure]
      rfl
  | failed fault => exact ⟨rfl, rfl, rfl, rfl, fun _ => rfl⟩
  | crashed => exact ⟨rfl, rfl, rfl, rfl, fun _ => rfl⟩

theorem sameAnswer_outcome (candidate : Candidate) (metrics other : Metrics)
    (reply : Reply Response) :
    (candidate.outcome metrics reply).SameAnswer
      (candidate.outcome other reply) := by
  cases reply with
  | answered response => exact ⟨rfl, rfl, rfl, rfl, rfl⟩
  | failed fault => exact ⟨rfl, rfl, rfl, rfl, rfl⟩
  | crashed => exact ⟨rfl, rfl, rfl, rfl, rfl⟩

end Candidate

namespace FanOut

variable {candidates others : List Candidate} {candidate : Candidate}
  {place : Nat}

theorem runOne_result (recorder : Recorder) (meter : Store → Readings)
    (registry : Registry) (candidate : Candidate) :
    ∃ metrics, (runOne recorder meter registry candidate).2 =
      (Measurement.ofReply? metrics
        (candidate.reply recorder.timeoutMs registry)).map
          candidate.result := by
  unfold runOne Candidate.reply
  cases registry.find? candidate.name with
  | none => exact ⟨.zero, rfl⟩
  | some store => exact ⟨_, rfl⟩

/-- Runs the candidates at some places, with the places of the finished
ones. -/
def runAt (recorder : Recorder) (meter : Nat → Store → Readings)
    (candidates : List Candidate) (registry : Registry) :
    List Nat → Registry × List (Nat × QueryResult)
  | [] => (registry, [])
  | place :: places =>
    match candidates[place]? with
    | none => runAt recorder meter candidates registry places
    | some candidate =>
      let (registry, result) :=
        runOne recorder (meter place) registry candidate
      let (registry, results) :=
        runAt recorder meter candidates registry places
      (registry, (result.map (place, ·)).toList ++ results)

variable {recorder : Recorder} {meter : Nat → Store → Readings}
  {registry : Registry} {places : List Nat}

theorem runAt_eq_visitAt (recorder : Recorder) (meter : Nat → Store → Readings)
    (candidates : List Candidate) (registry : Registry) (places : List Nat) :
    runAt recorder meter candidates registry places =
      Candidate.visitAt (fun place => runOne recorder (meter place)) candidates
        registry places := by
  induction places generalizing registry with
  | nil => rfl
  | cons place places induction =>
      rw [runAt, Candidate.visitAt, Candidate.visitOne]
      cases candidates[place]? with
      | none => exact induction registry
      | some candidate => simp only [induction]

theorem places_runAt (recorder : Recorder) (meter : Nat → Store → Readings)
    (candidates : List Candidate) (registry : Registry) (places : List Nat) :
    ((runAt recorder meter candidates registry places).2.map
      Prod.fst).Sublist places := by
  rw [runAt_eq_visitAt]
  exact Candidate.places_visitAt registry places

/-- A candidate that is asked once has the result that its store's reply
gives, with the stores as they are when its turn comes. -/
theorem lookup_runAt (distinct : places.Nodup) (member : place ∈ places)
    (here : candidates[place]? = some candidate) :
    ∃ metrics, (runAt recorder meter candidates registry places).2.lookup
        place =
      (Measurement.ofReply? metrics (candidate.reply recorder.timeoutMs
        (runAt recorder meter candidates registry
          (places.takeWhile (· != place))).1)).map candidate.result := by
  simp only [runAt_eq_visitAt]
  rw [Candidate.lookup_visitAt distinct member,
    Candidate.visitOne_of_some here]
  exact runOne_result recorder (meter place) _ candidate

theorem find?_runOne {name : String} (recorder : Recorder)
    (meter : Store → Readings) (registry : Registry)
    (different : candidate.name ≠ name) :
    (runOne recorder meter registry candidate).1.find? name =
      registry.find? name := by
  rw [runOne_registry]
  exact Registry.find?_contact_of_ne _ different

/-- Asked from left to right, the candidates run as they do by themselves. -/
theorem runAt_range' (recorder : Recorder) (meter : Store → Readings)
    (registry : Registry) {rest : List Candidate}
    (behind : candidates.drop place = rest) :
    runAt recorder (fun _ => meter) candidates registry
        (List.range' place rest.length) =
      runFrom recorder meter place registry rest := by
  induction rest generalizing place registry with
  | nil => rfl
  | cons candidate rest induction =>
      obtain ⟨here, later⟩ := Candidate.at_place behind
      have onward := induction
        (runOne recorder meter registry candidate).1 later
      rw [List.length_cons, List.range'_succ]
      simp only [runAt, here, onward, runFrom]

/-- A course that the candidates' runs can take: all are asked once, in some
order, and those that finish do so in another. -/
structure Course (candidates : List Candidate) where
  recorder : Recorder
  meter : Nat → Store → Readings
  registry : Registry
  /-- The places of the candidates in the order in which they are asked. -/
  asked : List Nat
  /-- The results of the finished in the order in which they come in. -/
  finished : List (Nat × QueryResult)
  once : asked.Perm (List.range candidates.length)
  complete : finished.Perm
    (runAt recorder meter candidates registry asked).2

namespace Course

variable (course : Course candidates)

def results : List QueryResult :=
  gather candidates course.finished

/-- The stores as the candidate at a place finds them. -/
def found (place : Nat) : Registry :=
  (runAt course.recorder course.meter candidates course.registry
    (course.asked.takeWhile (· != place))).1

/-- What the store of the candidate at a place does. -/
def reply (place : Nat) : Reply Response :=
  match candidates[place]? with
  | none => .crashed
  | some candidate =>
    candidate.reply course.recorder.timeoutMs (course.found place)

/-- The course in which a candidate is asked when the one before has ended. -/
def inTurn (recorder : Recorder) (meter : Nat → Store → Readings)
    (registry : Registry) (asked : List Nat)
    (once : asked.Perm (List.range candidates.length)) : Course candidates where
  recorder
  meter
  registry
  asked
  finished := (runAt recorder meter candidates registry asked).2
  once
  complete := .refl _

theorem results_inTurn (recorder : Recorder) (meter : Store → Readings)
    (registry : Registry) (candidates : List Candidate) :
    (inTurn recorder (fun _ => meter) registry
        (List.range candidates.length) (.refl _)).results =
      (run recorder meter registry candidates).2 := by
  have ran := runAt_range' recorder meter registry
    (List.drop_zero (l := candidates))
  rw [← List.range_eq_range'] at ran
  simp only [results, inTurn, ran, run]

theorem nodup_asked : course.asked.Nodup :=
  course.once.symm.nodup List.nodup_range

theorem mem_asked (here : candidates[place]? = some candidate) :
    place ∈ course.asked := by
  obtain ⟨inside, _⟩ := List.getElem?_eq_some_iff.mp here
  exact course.once.symm.subset (List.mem_range.mpr inside)

/-- The result in a place is the outcome of the reply of the candidate's
store. -/
theorem results_at (here : candidates[place]? = some candidate) :
    ∃ metrics, course.results[place]? =
      some (candidate.outcome metrics (course.reply place)) := by
  have distinct : (course.finished.map Prod.fst).Nodup :=
    (course.complete.map Prod.fst).symm.nodup
      (course.nodup_asked.sublist (places_runAt _ _ _ _ _))
  obtain ⟨metrics, ran⟩ :=
    lookup_runAt course.nodup_asked (course.mem_asked here) here
  refine ⟨metrics, ?_⟩
  have isReply : course.reply place =
      candidate.reply course.recorder.timeoutMs (course.found place) := by
    simp only [reply, here]
  have inPlace : course.results[place]? =
      some ((course.finished.lookup place).getD candidate.unfinished) := by
    simp [results, gather, here]
  rw [inPlace, lookup_of_perm course.complete distinct, ran, isReply]
  rfl

theorem describes_results :
    List.Forall₂ Candidate.Describes candidates course.results := by
  apply List.forall₂_iff_get.mpr
  constructor
  · simp [results, gather]
  · intro place inside insideResults
    have here : candidates[place]? = some (candidates.get ⟨place, inside⟩) :=
      List.getElem?_eq_getElem inside
    obtain ⟨metrics, result⟩ := course.results_at here
    obtain ⟨_, isResult⟩ := List.getElem?_eq_some_iff.mp result
    show Candidate.Describes _ course.results[place]
    rw [isResult]
    exact Candidate.describes_outcome _ _ _

theorem reply_of_nodup (here : candidates[place]? = some candidate)
    (distinct : (candidates.map Candidate.name).Nodup) :
    course.reply place =
      candidate.reply course.recorder.timeoutMs course.registry := by
  have untouched : (course.found place).find? candidate.name =
      course.registry.find? candidate.name := by
    rw [found, runAt_eq_visitAt]
    exact Candidate.find?_foundAt here distinct
      fun _ _ _ different => find?_runOne _ _ _ different
  simp only [reply, here, Candidate.reply, untouched]

/-- There is one result a candidate, in the order of the candidates, and it
says the same in any two courses in which the candidate's store does the
same, whatever the other stores do.  What a store does that one candidate
names is up to the store alone. -/
theorem results_isolated :
    List.Forall₂ Candidate.Describes candidates course.results ∧
      ∀ place candidate, candidates[place]? = some candidate →
        ((candidates.map Candidate.name).Nodup →
          course.reply place =
            candidate.reply course.recorder.timeoutMs course.registry) ∧
        ∀ {others : List Candidate} (other : Course others) (otherPlace : Nat),
          others[otherPlace]? = some candidate →
          course.reply place = other.reply otherPlace →
          ∃ result otherResult,
            course.results[place]? = some result ∧
              other.results[otherPlace]? = some otherResult ∧
              result.SameAnswer otherResult := by
  refine ⟨course.describes_results, ?_⟩
  intro place candidate here
  refine ⟨course.reply_of_nodup here, ?_⟩
  intro others other otherPlace there same
  obtain ⟨metrics, result⟩ := course.results_at here
  obtain ⟨otherMetrics, otherResult⟩ := other.results_at there
  rw [← same] at otherResult
  exact ⟨_, _, result, otherResult,
    candidate.sameAnswer_outcome metrics otherMetrics _⟩

/-- A store that answers does so whether the other one crashes before or runs
out of time after it. -/
theorem results_isolated_beside_failures :
    let steadily (name : String) (reply : Reply Response) : Store :=
      .ofBackend (.single name .keyValue) (.scripted
        ⟨fun _ _ => reply, fun _ _ => .answered true, none⟩)
    let sound := steadily "sound" (.answered (.rows [.integer 1]))
    let broken := steadily "broken" .crashed
    let slow := steadily "broken" (.failed (.timeout "broken" 5000))
    let first := Candidate.native "GET k" .keyValue broken
    let second := Candidate.native "GET k" .keyValue sound
    let course : Course [first, second] :=
      inTurn .standard (fun _ _ => default) ⟨[broken, sound]⟩ [0, 1] (.refl _)
    let other : Course [second, first] :=
      inTurn .standard (fun _ _ => default) ⟨[slow, sound]⟩ [1, 0] (.swap ..)
    ∃ result otherResult, course.results[1]? = some result ∧
      other.results[0]? = some otherResult ∧ result.SameAnswer otherResult ∧
      result.data.length = 1 := by
  intro steadily sound broken slow first second course other
  have same : course.reply 1 = other.reply 0 := rfl
  obtain ⟨result, otherResult, here, there, agree⟩ :=
    ((results_isolated course).2 1 second rfl).2 other 0 rfl same
  have inPlace : [first, second][1]? = some second := rfl
  obtain ⟨metrics, isOutcome⟩ := course.results_at inPlace
  cases here.symm.trans isOutcome
  exact ⟨_, otherResult, here, there, agree, rfl⟩

end Course

theorem describes_run (recorder : Recorder) (meter : Store → Readings)
    (registry : Registry) (candidates : List Candidate) :
    List.Forall₂ Candidate.Describes candidates
      (run recorder meter registry candidates).2 := by
  rw [← Course.results_inTurn]
  exact Course.describes_results _

theorem exists_described {results : List QueryResult} {result : QueryResult}
    (describe : List.Forall₂ Candidate.Describes candidates results)
    (member : result ∈ results) :
    ∃ candidate ∈ candidates, candidate.Describes result := by
  induction describe with
  | nil => cases member
  | cons first _ induction =>
      rcases List.mem_cons.mp member with rfl | inRest
      · exact ⟨_, List.mem_cons_self, first⟩
      · obtain ⟨candidate, isCandidate, describes⟩ := induction inRest
        exact ⟨candidate, List.mem_cons_of_mem _ isCandidate, describes⟩

theorem stores_of_describes {results : List QueryResult}
    (describe : List.Forall₂ Candidate.Describes candidates results) :
    results.map (·.store) = candidates.map Candidate.name := by
  induction describe with
  | nil => rfl
  | cons first _ induction =>
      rw [List.map_cons, List.map_cons, first.store, induction]

theorem contacts_of_describes {results : List QueryResult}
    (describe : List.Forall₂ Candidate.Describes candidates results) :
    results.map (fun result => Contact.query result.store result.executedQuery) =
      candidates.map Candidate.contact := by
  induction describe with
  | nil => rfl
  | cons first _ induction =>
      rw [List.map_cons, List.map_cons, first.store, first.query, induction]
      rfl

end FanOut

end Polystore
