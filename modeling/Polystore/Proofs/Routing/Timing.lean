import Mathlib.Data.List.Sort
import Polystore.Proofs.Routing.Located
import Polystore.Proofs.Routing.Visiting

/-!
# Locating data at any timing

Probes get to the stores in any order and end in any order, and the probe of a
store that crashes never tells that it has ended.  Located are the candidates
whose probe has found the data, in the order of the candidates, and only the
candidates that address something are probed.
-/

namespace Polystore

namespace Location

variable {limit place : Nat} {registry : Registry} {candidate : Candidate}
  {candidates : List Candidate}

/-- What a probe tells when it ends.  That of a store that crashes tells
nothing. -/
def report? : Reply Bool → Option Bool
  | .crashed => none
  | reply => some (isPresent reply)

/-- The findings of the probes that tell something. -/
def reported (ended : List (Nat × Reply Bool)) : List (Nat × Bool) :=
  ended.filterMap fun (place, reply) => (report? reply).map (place, ·)

theorem present_reported (ended : List (Nat × Reply Bool)) :
    ((reported ended).filter (·.2)).map (·.1) =
      (ended.filter fun entry => isPresent entry.2).map (·.1) := by
  induction ended with
  | nil => rfl
  | cons entry ended induction =>
      obtain ⟨place, reply⟩ := entry
      cases reply with
      | answered present =>
          cases present with
          | false => exact induction
          | true => exact congrArg (place :: ·) induction
      | failed fault => exact induction
      | crashed => exact induction

theorem present_filterMap (reply? : Nat → Option (Reply Bool))
    (places : List Nat) :
    ((places.filterMap fun place => (reply? place).map (place, ·)).filter
        fun entry => isPresent entry.2).map (·.1) =
      places.filter fun place => (reply? place).any isPresent := by
  induction places with
  | nil => rfl
  | cons place places induction =>
      cases isReply : reply? place with
      | none => simp [isReply, induction]
      | some reply =>
          cases found : isPresent reply <;> simp [isReply, found, induction]

theorem candidates_of_places (present : Nat → Bool) {rest : List Candidate}
    (behind : candidates.drop place = rest) :
    ((List.range' place rest.length).filter present).filterMap
        (candidates[·]?) =
      ((rest.zipIdx place).filter fun entry => present entry.2).map
        Prod.fst := by
  induction rest generalizing place with
  | nil => rfl
  | cons candidate rest induction =>
      obtain ⟨here, later⟩ := Candidate.at_place behind
      rw [List.length_cons, List.range'_succ, List.zipIdx_cons]
      cases found : present place <;> simp [here, found, induction later]

/-- Whatever the order of the findings, the candidates come in theirs. -/
theorem gather_of_perm (present : Nat → Bool) {findings : List (Nat × Bool)}
    (perm : ((findings.filter (·.2)).map (·.1)).Perm
      ((List.range candidates.length).filter present)) :
    gather candidates findings =
      (candidates.zipIdx.filter fun entry => present entry.2).map
        Prod.fst := by
  have inOrder : ((List.range candidates.length).filter present).Pairwise
      (· ≤ ·) := List.pairwise_le_range.filter _
  have same := ((List.mergeSort_perm _ _).trans perm).eq_of_pairwise'
    (List.pairwise_mergeSort' (· ≤ ·) _) inOrder
  show (((findings.filter (·.2)).map (·.1)).mergeSort (· ≤ ·)).filterMap
    (candidates[·]?) = _
  rw [same, List.range_eq_range']
  exact candidates_of_places present List.drop_zero

theorem exists_sides (here : candidates[place]? = some candidate) :
    ∃ left right : List (Candidate × Nat),
      candidates.zipIdx = left ++ (candidate, place) :: right ∧
        ∀ entry ∈ left ++ right, entry.2 ≠ place := by
  obtain ⟨inside, isHere⟩ := List.getElem?_eq_some_iff.mp here
  refine ⟨(candidates.take place).zipIdx,
    (candidates.drop (place + 1)).zipIdx (place + 1), ?_, ?_⟩
  · have split : candidates =
        candidates.take place ++ candidate :: candidates.drop (place + 1) := by
      rw [← isHere, ← List.drop_eq_getElem_cons inside,
        List.take_append_drop]
    have length : (candidates.take place).length = place :=
      List.length_take_of_le (Nat.le_of_lt inside)
    conv_lhs => rw [split, List.zipIdx_append, List.zipIdx_cons, length]
    rw [Nat.zero_add]
  · rintro ⟨other, otherPlace⟩ member
    rcases List.mem_append.mp member with onLeft | onRight
    · obtain ⟨-, before, -⟩ := List.mem_zipIdx onLeft
      rw [List.length_take] at before
      show otherPlace ≠ place
      omega
    · obtain ⟨behind, -⟩ := List.mem_zipIdx onRight
      show otherPlace ≠ place
      omega

theorem present_probeOne (limit place : Nat) (registry : Registry)
    (candidate : Candidate) :
    ((((probeOne limit registry candidate).2.map (place, ·)).toList.filter
      (·.2)).map (·.1)) =
    (((ask limit registry candidate).2.map (place, ·)).toList.filter
      fun entry => isPresent entry.2).map (·.1) := by
  unfold probeOne ask Candidate.probed?
  cases Query.subject? candidate.dialect candidate.query with
  | none => rfl
  | some subject =>
      cases registry.find? candidate.name with
      | none => rfl
      | some store =>
          cases found : isPresent (store.probeWithin limit subject).2 <;>
            simp [found]

theorem present_probeFrom (limit : Nat) (registry : Registry)
    {rest : List Candidate} (behind : candidates.drop place = rest) :
    ((probeFrom limit place registry rest).2.filter (·.2)).map (·.1) =
      ((Candidate.visitAt (fun _ => ask limit) candidates registry
        (List.range' place rest.length)).2.filter
          fun entry => isPresent entry.2).map (·.1) := by
  induction rest generalizing place registry with
  | nil => rfl
  | cons candidate rest induction =>
      obtain ⟨here, later⟩ := Candidate.at_place behind
      rw [List.length_cons, List.range'_succ, findings_cons,
        Candidate.results_visitAt_cons, Candidate.visitOne_of_some here,
        List.filter_append, List.filter_append, List.map_append,
        List.map_append, registry_probeOne, induction _ later]
      exact congrArg (· ++ _) (present_probeOne limit place registry candidate)

/-- A course that locating candidates can take: all get to their stores once,
in some order, and the probes end in another. -/
structure Course (candidates : List Candidate) where
  limit : Nat
  registry : Registry
  /-- The places of the candidates in the order in which they get to their
  stores. -/
  asked : List Nat
  /-- The replies in the order in which the probes end. -/
  ended : List (Nat × Reply Bool)
  once : asked.Perm (List.range candidates.length)
  complete : ended.Perm
    (Candidate.visitAt (fun _ => ask limit) candidates registry asked).2

namespace Course

variable (course : Course candidates)

def located : List Candidate :=
  gather candidates (reported course.ended)

def after : Registry :=
  (Candidate.visitAt (fun _ => ask course.limit) candidates course.registry
    course.asked).1

/-- The stores as the candidate at a place finds them. -/
def found (place : Nat) : Registry :=
  Candidate.foundAt (fun _ => ask course.limit) candidates course.registry
    course.asked place

/-- What the store of the candidate at a place replies, where it is probed. -/
def reply? (place : Nat) : Option (Reply Bool) :=
  candidates[place]?.bind (Candidate.probed? course.limit (course.found place))

/-- The probe of the candidate at a place has found the data. -/
def present (place : Nat) : Bool :=
  (course.reply? place).any isPresent

/-- The course in which a candidate is probed when the probe before has
ended. -/
def inTurn (limit : Nat) (registry : Registry) (candidates : List Candidate) :
    Course candidates where
  limit
  registry
  asked := List.range candidates.length
  ended := (Candidate.visitAt (fun _ => ask limit) candidates registry
    (List.range candidates.length)).2
  once := .refl _
  complete := .refl _

theorem reply?_eq (place : Nat) :
    course.reply? place =
      (Candidate.visitOne (fun _ => ask course.limit) candidates
        (course.found place) place).2 := by
  unfold reply? Candidate.visitOne
  cases candidates[place]? <;> rfl

/-- The located candidates are those whose probe has found the data, each once
and in order. -/
theorem located_eq_present :
    course.located =
      (candidates.zipIdx.filter fun entry => course.present entry.2).map
        Prod.fst := by
  have distinct : course.asked.Nodup :=
    course.once.symm.nodup List.nodup_range
  have replies : course.ended.Perm
      (course.asked.filterMap fun place =>
        (course.reply? place).map (place, ·)) := by
    simp only [reply?_eq]
    exact course.complete.trans
      (.of_eq (Candidate.results_visitAt distinct))
  -- The order in which probes end goes with the one in which stores are asked,
  -- and neither matters to the places once these are sorted.
  apply gather_of_perm
  rw [present_reported]
  have ofReplies := (replies.filter fun entry => isPresent entry.2).map
    Prod.fst
  rw [present_filterMap] at ofReplies
  exact ofReplies.trans (course.once.filter _)

/-- There is one probe for every candidate that addresses something, and none
for the others. -/
theorem after_eq :
    ∃ probes, probes.Perm (candidates.filterMap Candidate.probe?) ∧
      course.after = course.registry.follow course.limit probes := by
  refine ⟨(course.asked.filterMap (candidates[·]?)).filterMap
    Candidate.probe?, ?_, ?_⟩
  · have inOrder := candidates_of_places (fun _ => true)
      (List.drop_zero (l := candidates))
    rw [← List.range_eq_range'] at inOrder
    simp only [List.filter_true, List.zipIdx_map_fst] at inOrder
    have each := course.once.filterMap (candidates[·]?)
    rw [inOrder] at each
    exact each.filterMap _
  · rw [List.filterMap_eq_flatMap_toList]
    exact Candidate.registry_visitAt (fun _ _ _ => rfl) _ _

theorem reply?_of_nodup (here : candidates[place]? = some candidate)
    (distinct : (candidates.map Candidate.name).Nodup) :
    course.reply? place =
      candidate.probed? course.limit course.registry := by
  have untouched : (course.found place).find? candidate.name =
      course.registry.find? candidate.name :=
    Candidate.find?_foundAt here distinct
      fun _ registry _ different =>
        find?_ask_of_ne course.limit registry different
  rw [reply?, here, Option.bind_some, Candidate.probed?, untouched]
  rfl

/-- Candidates of different stores are located where a probe finds the data in
the stores as they were. -/
theorem located_of_nodup (distinct : (candidates.map Candidate.name).Nodup) :
    course.located =
      candidates.filter (finds course.limit course.registry) := by
  have sameTest : (candidates.zipIdx.filter
      fun entry => course.present entry.2) =
      candidates.zipIdx.filter
        (finds course.limit course.registry ∘ Prod.fst) := by
    apply List.filter_congr
    rintro ⟨candidate, place⟩ member
    have here := List.mem_zipIdx_iff_getElem?.mp member
    show course.present place = finds course.limit course.registry candidate
    rw [present, course.reply?_of_nodup here distinct, finds_eq]
  rw [located_eq_present, sameTest, ← List.filter_map, List.zipIdx_map_fst]

theorem located_inTurn (limit : Nat) (registry : Registry)
    (candidates : List Candidate) :
    (inTurn limit registry candidates).located =
      (locate limit registry candidates).2 := by
  have places := present_probeFrom limit registry
    (List.drop_zero (l := candidates))
  rw [← List.range_eq_range', ← present_reported] at places
  show gather candidates _ = gather candidates _
  unfold gather
  rw [places]
  rfl

end Course

theorem located_sublist (limit : Nat) (registry : Registry)
    (candidates : List Candidate) :
    (locate limit registry candidates).2.Sublist candidates := by
  rw [← Course.located_inTurn, Course.located_eq_present]
  conv_rhs => rw [← List.zipIdx_map_fst 0 candidates]
  exact List.filter_sublist.map Prod.fst

theorem located_eq (limit : Nat) (registry : Registry)
    (distinct : (candidates.map Candidate.name).Nodup) :
    (locate limit registry candidates).2 =
      candidates.filter (finds limit registry) := by
  rw [← Course.located_inTurn]
  exact Course.located_of_nodup _ distinct

namespace Course

variable (course : Course candidates)

/-- Of two courses in which the stores reply the same but at one place, one
locates the candidate at this place if it is found, the other one likewise, and
both locate the same candidates before it and behind it. -/
theorem located_beside (other : Course candidates)
    (here : candidates[place]? = some candidate)
    (same : ∀ elsewhere, elsewhere ≠ place →
      other.reply? elsewhere = course.reply? elsewhere) :
    ∃ before behind,
      course.located = before ++
        (if course.present place then [candidate] else []) ++ behind ∧
      other.located = before ++
        (if other.present place then [candidate] else []) ++ behind := by
  obtain ⟨left, right, split, apart⟩ := exists_sides here
  have sameTest : ∀ entry ∈ left ++ right,
      other.present entry.2 = course.present entry.2 := by
    intro entry member
    rw [present, present, same _ (apart entry member)]
  have onLeft := List.filter_congr fun entry member =>
    sameTest entry (List.mem_append_left right member)
  have onRight := List.filter_congr fun entry member =>
    sameTest entry (List.mem_append_right left member)
  refine ⟨(left.filter fun entry => course.present entry.2).map Prod.fst,
    (right.filter fun entry => course.present entry.2).map Prod.fst, ?_, ?_⟩
  · rw [located_eq_present, split]
    cases isPresent : course.present place <;> simp [isPresent]
  · rw [located_eq_present, split, ← onLeft, ← onRight]
    cases isPresent : other.present place <;> simp [isPresent]

/-- In every course, located are exactly the candidates whose probe has found
the data, each once and in the order of the candidates.  A candidate whose text
addresses nothing has no probe, and each of the others has one.  What one store
does decides about its own candidate alone, and for candidates of different
stores nothing depends on the course. -/
theorem located_whatever_timing (candidates : List Candidate) :
    (∀ course : Course candidates,
      course.located =
          (candidates.zipIdx.filter fun entry => course.present entry.2).map
            Prod.fst ∧
        (∀ place candidate, candidates[place]? = some candidate →
          (course.reply? place = none ↔
            Query.subject? candidate.dialect candidate.query = none)) ∧
        (∃ probes, probes.Perm (candidates.filterMap Candidate.probe?) ∧
          course.after = course.registry.follow course.limit probes) ∧
        ((candidates.map Candidate.name).Nodup →
          course.located =
            (locate course.limit course.registry candidates).2)) ∧
    (∀ (course other : Course candidates) (place : Nat)
        (candidate : Candidate), candidates[place]? = some candidate →
      (∀ elsewhere, elsewhere ≠ place →
        other.reply? elsewhere = course.reply? elsewhere) →
      ∃ before behind,
        course.located = before ++
          (if course.present place then [candidate] else []) ++ behind ∧
        other.located = before ++
          (if other.present place then [candidate] else []) ++ behind) ∧
    ∀ limit registry, (inTurn limit registry candidates).located =
      (locate limit registry candidates).2 := by
  refine ⟨?_, ?_, fun limit registry => located_inTurn limit registry _⟩
  · intro course
    refine ⟨course.located_eq_present, ?_, course.after_eq,
      fun distinct => (course.located_of_nodup distinct).trans
        (located_eq course.limit course.registry distinct).symm⟩
    intro place candidate here
    rw [reply?, here, Option.bind_some, Candidate.probed?,
      Option.map_eq_none_iff]
  · intro course other place candidate here same
    exact course.located_beside other here same

/-- One store crashes, one is not asked for anything, and one is too slow until
it is given more time. -/
theorem located_whatever_timing_beside_failures :
    let holding (name : String) (delay : Nat) (reply : Reply Bool) : Store :=
      ⟨.single name .keyValue, .scripted
        ⟨fun _ _ => .crashed, fun _ _ => reply, none⟩, false, delay, []⟩
    let crashing := holding "crashing" 0 .crashed
    let sound := holding "sound" 0 (.answered true)
    let idle := holding "idle" 0 (.answered true)
    let slow := holding "slow" 20 (.answered true)
    let registry : Registry := ⟨[crashing, sound, idle, slow]⟩
    let first := Candidate.native "GET k" .keyValue crashing
    let second := Candidate.native "GET k" .keyValue sound
    let third := Candidate.native "GET" .keyValue idle
    let fourth := Candidate.native "GET k" .keyValue slow
    let candidates := [first, second, third, fourth]
    let course (limit : Nat) : Course candidates :=
      { limit, registry, asked := [3, 1, 0, 2]
        ended := (Candidate.visitAt (fun _ => ask limit) candidates registry
          [3, 1, 0, 2]).2.reverse
        once := by decide
        complete := List.reverse_perm _ }
    (course 10).reply? 2 = none ∧
      (course 10).located = [second] ∧
      (course 30).located = [second, fourth] ∧
      (course 10).located = (locate 10 registry candidates).2 ∧
      ∃ before behind, (course 10).located = before ++ behind ∧
        (course 30).located = before ++ [fourth] ++ behind := by
  intro holding crashing sound idle slow registry first second third fourth
    candidates course
  obtain ⟨each, beside, -⟩ := located_whatever_timing candidates
  obtain ⟨isShort, unasked, -, sameShort⟩ := each (course 10)
  obtain ⟨isLong, -, -, -⟩ := each (course 30)
  have distinct : (candidates.map Candidate.name).Nodup := by decide +kernel
  have prompt : ∀ (place : Nat) (candidate : Candidate) (store : Store),
      candidates[place]? = some candidate →
      registry.find? candidate.name = some store → store.delay = 0 →
      (course 30).reply? place = (course 10).reply? place := by
    intro place candidate store here isStore immediate
    rw [(course 30).reply?_of_nodup here distinct,
      (course 10).reply?_of_nodup here distinct]
    show candidate.probed? 30 registry = candidate.probed? 10 registry
    simp [Candidate.probed?, isStore, Store.probeWithin, Store.isSlowerThan,
      immediate]
  have agree : ∀ elsewhere, elsewhere ≠ 3 →
      (course 30).reply? elsewhere = (course 10).reply? elsewhere := by
    rintro (_ | _ | _ | _ | elsewhere) different
    · exact prompt 0 first crashing rfl rfl rfl
    · exact prompt 1 second sound rfl rfl rfl
    · exact prompt 2 third idle rfl rfl rfl
    · exact absurd rfl different
    · rfl
  have missed : (course 10).present 3 = false := by decide +kernel
  have found : (course 30).present 3 = true := by decide +kernel
  have sides := beside (course 10) (course 30) 3 fourth rfl agree
  refine ⟨(unasked 2 third rfl).mpr ?_, isShort.trans ?_, isLong.trans ?_,
    sameShort distinct, by simpa [missed, found] using sides⟩
  · decide +kernel
  · decide +kernel
  · decide +kernel

end Course

end Location

end Polystore
