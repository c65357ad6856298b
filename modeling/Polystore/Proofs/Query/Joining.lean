import Polystore.Proofs.Query.Acceptance
import Polystore.Proofs.Query.Slicing

/-!
# Clauses and their conditions

A clause that is accepted is made of its conditions with the word `and` and
blanks between them.  The conditions are trimmed, each of them closes the
quotations that it opens, and outside of quotations there is no further word
`and` between blanks of ASCII at which a condition could be cut.
-/

namespace Polystore.Conjunction

open Text Grammar

/-- The parts in their order with the word `and` between blanks. -/
def joined : List (List Char) → Language Char
  | [] => 0
  | [part] => {part}
  | part :: rest =>
    {part} * (gaps * (keyword ['a', 'n', 'd'] * (gaps * joined rest)))

/-- A condition that stands for itself: no word `and` between blanks of ASCII
is left in it outside of its quotations. -/
structure IsCondition (text : List Char) : Prop where
  nonempty : text ≠ []
  trimmed : trim text = text
  closed : openMark none text = none
  uncut : ∀ before blank word other after,
    text = before ++ blank :: (word ++ other :: after) →
    openMark none before = none → isAsciiBlank blank = true →
    Spells ['a', 'n', 'd'] word → isAsciiBlank other = false

variable {text : List Char}

theorem openMark_of_runsOn (runs : RunsOn text) :
    openMark none text = none := by
  induction runs with
  | nil => rfl
  | quoted isMark absent _ induction =>
      rw [openMark_quotation isMark absent, induction]
  | blank isBlank _ _ induction =>
      have notMark := not_isMark_of_isBlank (isBlank_of_isAsciiBlank isBlank)
      rw [openMark, List.foldl_cons, passed_of_not_isMark notMark]
      exact induction
  | plain notMark _ _ _ induction =>
      rw [openMark, List.foldl_cons, passed_of_not_isMark notMark]
      exact induction

/-- A blank behind which a connective follows. -/
def IsCutting (c : Char) (after : List Char) : Prop :=
  isAsciiBlank c = true ∧ ConnectiveAhead after

/-- A text that runs on is not cut outside of its quotations. -/
theorem not_somewhere_of_runsOn (runs : RunsOn text) :
    ¬Somewhere IsCutting none text := by
  induction runs with
  | nil => exact id
  | quoted isMark absent _ induction =>
      have noBlank := isAsciiBlank_of_isMark isMark
      rw [somewhere_quotation isMark absent (by simp [IsCutting, noBlank])]
      exact induction
  | blank isBlank notAhead _ induction =>
      have notMark := not_isMark_of_isBlank (isBlank_of_isAsciiBlank isBlank)
      rw [Somewhere, passed_of_not_isMark notMark]
      simp [IsCutting, notAhead, induction]
  | plain notMark _ noBlank _ induction =>
      rw [Somewhere, passed_of_not_isMark notMark]
      simp [IsCutting, noBlank, induction]

theorem isCondition_trim (nonempty : trim text ≠ []) (runs : RunsOn text) :
    IsCondition (trim text) := by
  obtain ⟨before, after, blankBefore, blankAfter, isText, _⟩ :=
    exists_trim text
  have runsTrimmed : RunsOn (trim text) := by
    rw [isText] at runs
    have behind := runs.of_append fun c member =>
      not_isMark_of_isBlank (blankBefore c member)
    exact behind.of_append_left fun c member =>
      not_isMark_of_isBlank (blankAfter c member)
  refine ⟨nonempty, trim_trim text, openMark_of_runsOn runsTrimmed, ?_⟩
  intro before blank word other after isTrimmed outside isBlank spells
  rw [← Bool.not_eq_true]
  intro isBlankToo
  apply not_somewhere_of_runsOn runsTrimmed
  rw [somewhere_iff]
  refine ⟨before, blank, _, isTrimmed, outside, isBlank, ?_⟩
  exact ⟨[], List.forall_mem_nil _, word, .inl spells, other, after,
    isBlankToo, rfl⟩

theorem append_mem_joined {part before word after : List Char}
    {parts : List (List Char)} (gapBefore : before ∈ gaps)
    (spells : Spells ['a', 'n', 'd'] word) (gapAfter : after ∈ gaps)
    (member : text ∈ joined parts) :
    part ++ (before ++ (word ++ (after ++ text))) ∈
      joined (part :: parts) := by
  cases parts with
  | nil => exact absurd member (Language.notMem_zero text)
  | cons next parts =>
      exact Language.append_mem_mul rfl <|
        Language.append_mem_mul gapBefore <|
          Language.append_mem_mul spells <|
            Language.append_mem_mul gapAfter member

/-- A joined text begins with its first part. -/
theorem exists_append_of_mem_joined {parts : List (List Char)}
    (member : text ∈ joined parts) :
    ∃ part ∈ parts, ∃ rest, text = part ++ rest := by
  cases parts with
  | nil => exact absurd member (Language.notMem_zero text)
  | cons part parts =>
      refine ⟨part, List.mem_cons_self, ?_⟩
      cases parts with
      | nil => exact ⟨[], by rw [List.append_nil]; exact member⟩
      | cons next parts =>
          obtain ⟨_, rfl, rest, _, rfl⟩ := member
          exact ⟨rest, rfl⟩

/-- A clause is its parts with blanks around them and the word `and` between
them. -/
theorem exists_joined {clause : List Char} {parts : List (List Char)}
    (cut : Cut clause parts) (nonempty : ∀ part ∈ parts, trim part ≠ []) :
    ∃ before ∈ blanks, ∃ text ∈ joined (parts.map trim), ∃ after ∈ blanks,
      clause = before ++ (text ++ after) := by
  induction cut with
  | @last part _ =>
      obtain ⟨before, after, blankBefore, blankAfter, isPart, _⟩ :=
        exists_trim part
      exact ⟨before, blankBefore, trim part, rfl, after, blankAfter, isPart⟩
  | @and part gap word rest blank parts _ isBlank areBlank spells ends _
      induction =>
      obtain ⟨_, others⟩ := List.forall_mem_cons.mp nonempty
      obtain ⟨lead, blankLead, text, member, trail, blankTrail, rfl⟩ :=
        induction others
      obtain ⟨before, after, blankBefore, blankAfter, isPart, _⟩ :=
        exists_trim part
      have gapBefore : after ++ blank :: gap ∈ gaps :=
        append_cons_mem_gaps blankAfter (isBlank_of_isAsciiBlank isBlank)
          areBlank
      have gapLead : lead ∈ gaps := by
        obtain ⟨_, isTrimmed, behind, rfl⟩ :=
          exists_append_of_mem_joined member
        obtain ⟨next, isNext, rfl⟩ := List.mem_map.mp isTrimmed
        obtain ⟨c, cs, starts⟩ :=
          List.exists_cons_of_ne_nil (others next isNext)
        rw [starts] at ends
        exact mem_gaps_of_head blankLead (isBlank_head_trim starts) ends
      refine ⟨before, blankBefore, trim part ++
        ((after ++ blank :: gap) ++ (word ++ (lead ++ text))),
        append_mem_joined gapBefore spells gapLead member, trail, blankTrail,
        ?_⟩
      conv_lhs => rw [isPart]
      simp

theorem ne_nil_of_split {clause : List Char} {parts : List (List Char)}
    (accepted : split clause = .ok parts) : ∀ part ∈ parts, part ≠ [] := by
  unfold split at accepted
  cases scanned : scan .unquoted [] clause with
  | error reason => simp [scanned, bind, Except.bind] at accepted
  | ok raw =>
      simp only [scanned, bind, Except.bind, pure, Except.pure] at accepted
      split at accepted
      · cases accepted
      · rename_i noneEmpty
        cases accepted
        simpa using noneEmpty

theorem Cut.runsOn {clause : List Char} {parts : List (List Char)}
    (cut : Cut clause parts) : ∀ part ∈ parts, RunsOn part := by
  induction cut with
  | last runs => exact List.forall_mem_singleton.mpr runs
  | and runs _ _ _ _ _ induction =>
      exact List.forall_mem_cons.mpr ⟨runs, induction⟩

/-- Scanned over its bytes, a clause is cut at its boundaries only.  If it is
accepted, it is made of conditions with the word `and` between them. -/
theorem split_sound (clause : List Char) :
    (∃ cuts, bytewise clause = some (cuts, split clause) ∧
      ∀ cut ∈ cuts, IsBoundary clause cut) ∧
    ∀ parts, split clause = .ok parts →
      (∀ part ∈ parts, IsCondition part) ∧
      ∃ before ∈ blanks, ∃ text ∈ joined parts, ∃ after ∈ blanks,
        clause = before ++ (text ++ after) := by
  refine ⟨bytewise_eq clause, ?_⟩
  intro parts accepted
  have nonempty := ne_nil_of_split accepted
  obtain ⟨raw, cut, rfl⟩ := Select.split_eq_ok accepted
  rw [List.forall_mem_map] at nonempty
  refine ⟨?_, exists_joined cut nonempty⟩
  rw [List.forall_mem_map]
  exact fun part member =>
    isCondition_trim (nonempty part member) (cut.runsOn part member)

/-- Letters and blanks beyond ASCII, the word `and` in a quotation and marks in
quotations of the other kind. -/
theorem split_sound_mixed :
    split "\t größe = 'ä AND \"ö' \u3000aNd \u00a0b = \"it's\" ".toList =
        .ok ["größe = 'ä AND \"ö'".toList, "b = \"it's\"".toList] ∧
      (∃ cuts,
        bytewise
            "\t größe = 'ä AND \"ö' \u3000aNd \u00a0b = \"it's\" ".toList =
          some (cuts,
            .ok ["größe = 'ä AND \"ö'".toList, "b = \"it's\"".toList])) ∧
      IsCondition "größe = 'ä AND \"ö'".toList ∧
      IsCondition "b = \"it's\"".toList := by
  have accepted :
      split "\t größe = 'ä AND \"ö' \u3000aNd \u00a0b = \"it's\" ".toList =
        .ok ["größe = 'ä AND \"ö'".toList, "b = \"it's\"".toList] := by
    decide +kernel
  obtain ⟨⟨cuts, isBytewise, _⟩, sound⟩ := split_sound
    "\t größe = 'ä AND \"ö' \u3000aNd \u00a0b = \"it's\" ".toList
  obtain ⟨areConditions, _⟩ := sound _ accepted
  rw [accepted] at isBytewise
  exact ⟨accepted, ⟨cuts, isBytewise⟩, areConditions _ (by simp),
    areConditions _ (by simp)⟩

end Polystore.Conjunction
