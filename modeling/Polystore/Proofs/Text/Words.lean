import Polystore.Proofs.Text.Scanning

/-!
# Words of a text

The words of a text are its runs of characters that are not blank.  The first
one is what a scan finds behind the leading blanks, and the others are the
words of what is left.
-/

namespace Polystore.Text

variable {cs word tail : List Char} {rest : List (List Char)}

theorem words_cons_of_isBlank {c : Char} (blank : isBlank c = true)
    (cs : List Char) : words (c :: cs) = words cs :=
  if_pos blank

theorem words_append_of_blanks {gap : List Char}
    (areBlank : ∀ c ∈ gap, isBlank c = true) (cs : List Char) :
    words (gap ++ cs) = words cs := by
  induction gap with
  | nil => rfl
  | cons c gap induction =>
      obtain ⟨blank, others⟩ := List.forall_mem_cons.mp areBlank
      rw [List.cons_append, words_cons_of_isBlank blank, induction others]

/-- A character that is not blank begins a word, or it joins the word that
begins right behind it. -/
theorem words_cons_of_not_isBlank {c : Char} (noBlank : isBlank c = false)
    (cs : List Char) :
    words (c :: cs) =
      match cs, words cs with
      | next :: _, word :: rest =>
        if isBlank next then [c] :: word :: rest else (c :: word) :: rest
      | _, rest => [c] :: rest :=
  if_neg (by simp [noBlank])

theorem words_cons_of_ends {c : Char} (noBlank : isBlank c = false)
    (ends : ∀ d ∈ cs.head?, isBlank d = true) :
    words (c :: cs) = [c] :: words cs := by
  rw [words_cons_of_not_isBlank noBlank]
  cases cs with
  | nil => rfl
  | cons d ds =>
      have blank : isBlank d = true := ends d rfl
      cases words (d :: ds) with
      | nil => rfl
      | cons word rest => exact if_pos blank

theorem words_cons_cons {c d : Char} (noBlank : isBlank c = false)
    (goesOn : isBlank d = false) {ds : List Char}
    (read : words (d :: ds) = word :: rest) :
    words (c :: d :: ds) = (c :: word) :: rest := by
  rw [words_cons_of_not_isBlank noBlank, read]
  exact if_neg (by simp [goesOn])

theorem words_append (nonempty : word ≠ [])
    (plain : ∀ c ∈ word, isBlank c = false)
    (ends : ∀ c ∈ tail.head?, isBlank c = true) :
    words (word ++ tail) = word :: words tail := by
  induction word with
  | nil => exact absurd rfl nonempty
  | cons c word induction =>
      obtain ⟨noBlank, others⟩ := List.forall_mem_cons.mp plain
      cases word with
      | nil => exact words_cons_of_ends noBlank ends
      | cons d word =>
          exact words_cons_cons noBlank (others d List.mem_cons_self)
            (induction (by simp) others)

/-- A text begins with a run, which may be empty, up to a blank or the end. -/
theorem exists_run_append (cs : List Char) :
    ∃ run tail, cs = run ++ tail ∧ (∀ c ∈ run, isBlank c = false) ∧
      ∀ c ∈ tail.head?, isBlank c = true := by
  refine ⟨cs.takeWhile (!isBlank ·), cs.dropWhile (!isBlank ·),
    List.takeWhile_append_dropWhile.symm, ?_, ?_⟩
  · intro c member
    simpa using List.all_eq_true.mp List.all_takeWhile c member
  · intro c isHead
    have stopped := List.head?_dropWhile_not (!isBlank ·) cs
    rw [isHead] at stopped
    simpa using stopped

/-- In front of the second word there are only blanks around the first one. -/
theorem words_eq_cons (split : words cs = word :: rest) :
    ∃ gap tail, cs = gap ++ (word ++ tail) ∧
      (∀ c ∈ gap, isBlank c = true) ∧ word ≠ [] ∧
      (∀ c ∈ word, isBlank c = false) ∧
      (∀ c ∈ tail.head?, isBlank c = true) ∧ words tail = rest := by
  obtain ⟨gap, areBlank, isText⟩ := exists_blanks_append_skipBlanks cs
  obtain ⟨run, tail, behind, plain, ends⟩ := exists_run_append (skipBlanks cs)
  have nonempty : run ≠ [] := by
    rintro rfl
    rw [List.nil_append] at behind
    rw [isText, words_append_of_blanks areBlank, behind] at split
    cases tail with
    | nil => cases split
    | cons c tail =>
        have noBlank := isBlank_head_skipBlanks behind
        rw [ends c rfl] at noBlank
        cases noBlank
  rw [isText, words_append_of_blanks areBlank, behind,
    words_append nonempty plain ends] at split
  obtain ⟨rfl, isRest⟩ := List.cons.inj split
  exact ⟨gap, tail, by rw [← behind, ← isText], areBlank, nonempty, plain,
    ends, isRest⟩

theorem plain_of_mem_words (member : word ∈ words cs) :
    word ≠ [] ∧ ∀ c ∈ word, isBlank c = false := by
  induction cs generalizing word with
  | nil => cases member
  | cons c cs induction =>
      cases blank : isBlank c with
      | true =>
          rw [words_cons_of_isBlank blank] at member
          exact induction member
      | false =>
          have single : [c] ≠ [] ∧ ∀ d ∈ [c], isBlank d = false :=
            ⟨List.cons_ne_nil c [], by simpa using blank⟩
          rw [words_cons_of_not_isBlank blank] at member
          split at member
          · rename_i next behind first rest isWords
            rw [isWords] at induction
            split at member
            · rcases List.mem_cons.mp member with rfl | later
              · exact single
              · exact induction later
            · rcases List.mem_cons.mp member with rfl | later
              · refine ⟨List.cons_ne_nil _ _, List.forall_mem_cons.mpr ?_⟩
                exact ⟨blank, (induction List.mem_cons_self).2⟩
              · exact induction (List.mem_cons_of_mem _ later)
          · rcases List.mem_cons.mp member with rfl | later
            · exact single
            · exact induction later

theorem words_append_blanks {gap : List Char}
    (areBlank : ∀ c ∈ gap, isBlank c = true) (cs : List Char) :
    words (cs ++ gap) = words cs := by
  have none : words gap = [] := by
    rw [← List.append_nil gap]
    exact words_append_of_blanks areBlank []
  induction cs with
  | nil => exact none
  | cons c cs induction =>
      rw [List.cons_append]
      cases blank : isBlank c with
      | true =>
          rw [words_cons_of_isBlank blank, words_cons_of_isBlank blank,
            induction]
      | false =>
          cases cs with
          | nil =>
              have ends : ∀ d ∈ gap.head?, isBlank d = true := fun d isHead =>
                areBlank d (List.mem_of_head? isHead)
              rw [List.nil_append, words_cons_of_ends blank ends, none,
                words_cons_of_ends blank (by simp)]
              rfl
          | cons d cs =>
              rw [words_cons_of_not_isBlank blank,
                words_cons_of_not_isBlank blank, induction, List.cons_append]
              cases words (d :: cs) <;> rfl

end Polystore.Text
