import Polystore.Proofs.Text.Words

/-!
# Runs of blanks

A text that is cut into words and put together again has single spaces where it
had runs of blanks.
-/

namespace Polystore.Text

variable {p : Char → Bool}

theorem isBlank_eq_false_of_any {text : List Char}
    (noBlank : text.any isBlank = false) : ∀ c ∈ text, isBlank c = false := by
  simpa using noBlank

/-- The text with one space for every run of characters of a class.  The first
character may be within a run that has begun before. -/
def collapse (p : Char → Bool) : Bool → List Char → List Char
  | _, [] => []
  | within, c :: cs =>
    if p c then
      if within then collapse p true cs else ' ' :: collapse p true cs
    else c :: collapse p false cs

theorem collapse_cons_of_not {c : Char} (outside : p c = false)
    (within : Bool) (cs : List Char) :
    collapse p within (c :: cs) = c :: collapse p false cs := by
  rw [collapse, outside]
  rfl

theorem collapse_true_cons {c : Char} (inRun : p c = true) (cs : List Char) :
    collapse p true (c :: cs) = collapse p true cs := by
  rw [collapse, if_pos inRun]
  rfl

theorem collapse_false_cons {c : Char} (inRun : p c = true) (cs : List Char) :
    collapse p false (c :: cs) = ' ' :: collapse p true cs := by
  rw [collapse, if_pos inRun]
  rfl

theorem collapse_append {plain : List Char} (nonempty : plain ≠ [])
    (outside : ∀ c ∈ plain, p c = false) (within : Bool) (rest : List Char) :
    collapse p within (plain ++ rest) = plain ++ collapse p false rest := by
  induction plain generalizing within with
  | nil => exact absurd rfl nonempty
  | cons c plain induction =>
      obtain ⟨isOutside, others⟩ := List.forall_mem_cons.mp outside
      rw [List.cons_append, collapse_cons_of_not isOutside]
      cases plain with
      | nil => rfl
      | cons d plain =>
          rw [induction (by simp) others]
          rfl

theorem words_ne_nil {cs : List Char} {c : Char} (member : c ∈ cs)
    (noBlank : isBlank c = false) : words cs ≠ [] := by
  intro none
  induction cs with
  | nil => cases member
  | cons d ds induction =>
      cases blank : isBlank d with
      | true =>
          rw [words_cons_of_isBlank blank] at none
          rcases List.mem_cons.mp member with rfl | inRest
          · rw [blank] at noBlank
            cases noBlank
          · exact induction inRest none
      | false =>
          obtain ⟨run, tail, isText, plain, ends⟩ := exists_run_append (d :: ds)
          cases run with
          | nil =>
              rw [List.nil_append] at isText
              rw [ends d (by simp [← isText])] at blank
              cases blank
          | cons e run =>
              rw [isText, words_append (by simp) plain ends] at none
              cases none

theorem unwords_cons_append (c : Char) (word : List Char)
    (rest : List (List Char)) :
    unwords ((c :: word) :: rest) = c :: unwords (word :: rest) := by
  cases rest with
  | nil => rfl
  | cons next rest => rfl

/-- Words are put together with a space for every run of blanks between
them. -/
theorem unwords_words {cs : List Char}
    (ends : ∀ c ∈ cs.getLast?, isBlank c = false) :
    unwords (words cs) = collapse isBlank true cs := by
  induction cs with
  | nil => rfl
  | cons c cs induction =>
      cases cs with
      | nil =>
          have noBlank : isBlank c = false := ends c rfl
          rw [words_cons_of_not_isBlank noBlank, collapse_cons_of_not noBlank]
          rfl
      | cons d ds =>
          rw [List.getLast?_cons_cons] at ends
          have others := induction ends
          obtain ⟨word, rest, isWords⟩ : ∃ word rest,
              words (d :: ds) = word :: rest := by
            apply List.exists_cons_of_ne_nil
            have isLast := List.getLast?_eq_some_getLast (List.cons_ne_nil d ds)
            exact words_ne_nil (List.getLast_mem _) (ends _ isLast)
          cases blank : isBlank c with
          | true =>
              rw [words_cons_of_isBlank blank, collapse_true_cons blank, others]
          | false =>
              rw [collapse_cons_of_not blank]
              cases goesOn : isBlank d with
              | true =>
                  have behind : ∀ e ∈ (d :: ds).head?, isBlank e = true := by
                    intro e isHead
                    cases isHead
                    exact goesOn
                  rw [collapse_true_cons goesOn] at others
                  rw [words_cons_of_ends blank behind, isWords,
                    collapse_false_cons goesOn, ← others, isWords]
                  rfl
              | false =>
                  rw [isWords, collapse_cons_of_not goesOn] at others
                  rw [words_cons_cons blank goesOn isWords,
                    unwords_cons_append, others, collapse_cons_of_not goesOn]

theorem collapse_collapse (isSpace : p ' ' = true) (within : Bool)
    (cs : List Char) :
    collapse p within (collapse p within cs) = collapse p within cs := by
  induction cs generalizing within with
  | nil => rfl
  | cons c cs induction =>
      cases inRun : p c with
      | true =>
          cases within with
          | true => rw [collapse_true_cons inRun, induction]
          | false =>
              rw [collapse_false_cons inRun, collapse_false_cons isSpace,
                induction]
      | false =>
          rw [collapse_cons_of_not inRun, collapse_cons_of_not inRun, induction]

theorem length_collapse_le (within : Bool) (cs : List Char) :
    (collapse p within cs).length ≤ cs.length := by
  induction cs generalizing within with
  | nil => exact Nat.le_refl _
  | cons c cs induction =>
      have shorter := induction true
      have same := induction false
      cases inRun : p c with
      | true =>
          cases within with
          | true =>
              rw [collapse_true_cons inRun, List.length_cons]
              omega
          | false =>
              rw [collapse_false_cons inRun, List.length_cons,
                List.length_cons]
              omega
      | false =>
          rw [collapse_cons_of_not inRun, List.length_cons, List.length_cons]
          omega

/-- The only characters of the class are spaces, and none of them stands right
behind another. -/
def SinglySpaced (p : Char → Bool) (cs : List Char) : Prop :=
  ∀ before c after, cs = before ++ c :: after → p c = true →
    c = ' ' ∧ ∀ d ∈ after.head?, p d = false

theorem singlySpaced_cons {c : Char} {cs : List Char} :
    SinglySpaced p (c :: cs) ↔
      (p c = true → c = ' ' ∧ ∀ d ∈ cs.head?, p d = false) ∧
        SinglySpaced p cs := by
  constructor
  · intro spaced
    constructor
    · exact spaced [] c cs rfl
    · intro before d after isText
      exact spaced (c :: before) d after (by rw [isText]; rfl)
  · rintro ⟨first, others⟩ before d after isText
    cases before with
    | nil =>
        cases isText
        exact first
    | cons e before =>
        cases isText
        exact others before d after rfl

/-- In front of a text, characters outside of the class change nothing. -/
theorem singlySpaced_append_of_plain {plain rest : List Char}
    (outside : ∀ c ∈ plain, p c = false) :
    SinglySpaced p (plain ++ rest) ↔ SinglySpaced p rest := by
  induction plain with
  | nil => rfl
  | cons c plain induction =>
      obtain ⟨isOutside, others⟩ := List.forall_mem_cons.mp outside
      rw [List.cons_append, singlySpaced_cons, induction others]
      simp [isOutside]

theorem SinglySpaced.of_append_left {front rest : List Char}
    (spaced : SinglySpaced p (front ++ rest)) : SinglySpaced p front := by
  rintro before c after rfl inClass
  obtain ⟨isSpace, ends⟩ := spaced before c (after ++ rest) (by simp) inClass
  refine ⟨isSpace, ?_⟩
  intro d isHead
  exact ends d (by rw [List.head?_append, isHead]; rfl)

theorem collapse_true_eq_iff {cs : List Char} :
    collapse p true cs = cs ↔
      collapse p false cs = cs ∧ ∀ c ∈ cs.head?, p c = false := by
  cases cs with
  | nil => simp [collapse]
  | cons c cs =>
      cases inRun : p c with
      | true =>
          have shorter := length_collapse_le (p := p) true cs
          have differs : collapse p true (c :: cs) ≠ c :: cs := by
            intro same
            have lengths := congrArg List.length same
            rw [collapse_true_cons inRun, List.length_cons] at lengths
            omega
          simp [differs, inRun]
      | false => simp [collapse_cons_of_not inRun, inRun]

/-- Collapsing changes nothing in a text that is singly spaced, and in no
other. -/
theorem collapse_false_eq_iff {cs : List Char} :
    collapse p false cs = cs ↔ SinglySpaced p cs := by
  induction cs with
  | nil =>
      refine iff_of_true rfl ?_
      intro before c after isText
      simp at isText
  | cons c cs induction =>
      rw [singlySpaced_cons, ← induction]
      cases inRun : p c with
      | true =>
          rw [collapse_false_cons inRun, List.cons.injEq, collapse_true_eq_iff]
          constructor
          · rintro ⟨isSpace, same, ends⟩
            exact ⟨fun _ => ⟨isSpace.symm, ends⟩, same⟩
          · rintro ⟨spaced, same⟩
            obtain ⟨isSpace, ends⟩ := spaced rfl
            exact ⟨isSpace.symm, same, ends⟩
      | false =>
          rw [collapse_cons_of_not inRun, List.cons.injEq]
          simp

end Polystore.Text
