import Polystore.Proofs.Text.Capitals
import Polystore.Proofs.Text.Spacing

/-!
# Tidy texts

Words put together with single spaces make a tidy text, and a tidy text is
what its words make when they are put together again.  Lower case does not
touch the blanks of a text, so it leaves a tidy text tidy.
-/

namespace Polystore.Text

/-- A text that neither begins nor ends with a blank and has single spaces
between its words. -/
structure Tidy (text : List Char) : Prop where
  begins : ∀ c ∈ text.head?, isBlank c = false
  ends : ∀ c ∈ text.getLast?, isBlank c = false
  spaced : SinglySpaced isBlank text

variable {text : List Char}

theorem Tidy.unwords_words (tidy : Tidy text) :
    unwords (words text) = text := by
  rw [Text.unwords_words tidy.ends, collapse_true_eq_iff,
    collapse_false_eq_iff]
  exact ⟨tidy.spaced, tidy.begins⟩

theorem tidy_nil : Tidy [] where
  begins := by simp
  ends := by simp
  spaced := by
    intro before c after isText
    simp at isText

theorem tidy_of_plain (plain : ∀ c ∈ text, isBlank c = false) :
    Tidy text where
  begins := fun c isHead => plain c (List.mem_of_head? isHead)
  ends := fun c isLast => plain c (List.mem_of_getLast? isLast)
  spaced := by
    rw [← List.append_nil text, singlySpaced_append_of_plain plain]
    exact tidy_nil.spaced

theorem Tidy.cons_word {word : List Char} (tidy : Tidy text)
    (some : text ≠ []) (nonempty : word ≠ [])
    (plain : ∀ c ∈ word, isBlank c = false) :
    Tidy (word ++ ' ' :: text) where
  begins := by
    intro c isHead
    rw [List.head?_append_of_ne_nil _ nonempty] at isHead
    exact plain c (List.mem_of_head? isHead)
  ends := by
    intro c isLast
    rw [List.getLast?_append_cons, List.getLast?_cons_of_ne_nil some] at isLast
    exact tidy.ends c isLast
  spaced := by
    rw [singlySpaced_append_of_plain plain, singlySpaced_cons]
    exact ⟨fun _ => ⟨rfl, tidy.begins⟩, tidy.spaced⟩

theorem tidy_unwords {parts : List (List Char)}
    (plain : ∀ part ∈ parts, part ≠ [] ∧ ∀ c ∈ part, isBlank c = false) :
    Tidy (unwords parts) := by
  induction parts with
  | nil => exact tidy_nil
  | cons part parts induction =>
      obtain ⟨⟨nonempty, first⟩, others⟩ := List.forall_mem_cons.mp plain
      cases parts with
      | nil => exact tidy_of_plain first
      | cons next parts =>
          apply (induction others).cons_word _ nonempty first
          cases parts with
          | nil => exact (others next List.mem_cons_self).1
          | cons later parts => simp [unwords]

theorem lowerAt_of_isBlank {c : Char} (blank : isBlank c = true)
    (before after : List Char) : lowerAt before c after = [c] := by
  apply lowerAt_of_not_isCapital
  intro capital
  rw [capital.isBlank_eq_false] at blank
  cases blank

theorem plain_lowerAt {c : Char} (noBlank : isBlank c = false)
    (before after : List Char) :
    lowerAt before c after ≠ [] ∧
      ∀ d ∈ lowerAt before c after, isBlank d = false := by
  by_cases capital : IsCapital c
  · obtain ⟨nonempty, small⟩ := lowerAt_of_isCapital capital before after
    exact ⟨nonempty, fun d member => (small d member).isBlank_eq_false⟩
  · rw [lowerAt_of_not_isCapital capital]
    exact ⟨List.cons_ne_nil c [], by simpa using noBlank⟩

theorem lowerAfter_eq_nil_iff {before cs : List Char} :
    lowerAfter before cs = [] ↔ cs = [] := by
  cases cs with
  | nil => simp [lowerAfter]
  | cons c cs =>
      cases blank : isBlank c with
      | true => simp [lowerAfter, lowerAt_of_isBlank blank]
      | false => simp [lowerAfter, (plain_lowerAt blank before cs).1]

/-- A text in lower case begins with a blank only where the text itself
does. -/
theorem begins_lowerAfter {before cs : List Char}
    (begins : ∀ c ∈ cs.head?, isBlank c = false) :
    ∀ d ∈ (lowerAfter before cs).head?, isBlank d = false := by
  cases cs with
  | nil => simp [lowerAfter]
  | cons c cs =>
      have noBlank : isBlank c = false := begins c rfl
      obtain ⟨nonempty, plain⟩ := plain_lowerAt noBlank before cs
      intro d isHead
      rw [lowerAfter, List.head?_append_of_ne_nil _ nonempty] at isHead
      exact plain d (List.mem_of_head? isHead)

theorem ends_lowerAfter {before cs : List Char}
    (ends : ∀ c ∈ cs.getLast?, isBlank c = false) :
    ∀ d ∈ (lowerAfter before cs).getLast?, isBlank d = false := by
  induction cs generalizing before with
  | nil => simp [lowerAfter]
  | cons c cs induction =>
      intro d isLast
      cases cs with
      | nil =>
          have noBlank : isBlank c = false := ends c rfl
          rw [lowerAfter, lowerAfter, List.append_nil] at isLast
          exact (plain_lowerAt noBlank before []).2 d
            (List.mem_of_getLast? isLast)
      | cons next cs =>
          have goesOn : lowerAfter (c :: before) (next :: cs) ≠ [] :=
            lowerAfter_eq_nil_iff.not.mpr (List.cons_ne_nil next cs)
          rw [lowerAfter, List.getLast?_append_of_ne_nil _ goesOn] at isLast
          rw [List.getLast?_cons_cons] at ends
          exact induction ends d isLast

theorem spaced_lowerAfter {before cs : List Char}
    (spaced : SinglySpaced isBlank cs) :
    SinglySpaced isBlank (lowerAfter before cs) := by
  induction cs generalizing before with
  | nil => exact spaced
  | cons c cs induction =>
      obtain ⟨first, others⟩ := singlySpaced_cons.mp spaced
      have later : SinglySpaced isBlank (lowerAfter (c :: before) cs) :=
        induction others
      rw [lowerAfter]
      cases blank : isBlank c with
      | true =>
          obtain ⟨isSpace, ends⟩ := first blank
          rw [lowerAt_of_isBlank blank, List.singleton_append,
            singlySpaced_cons]
          exact ⟨fun _ => ⟨isSpace, begins_lowerAfter ends⟩, later⟩
      | false =>
          rw [singlySpaced_append_of_plain (plain_lowerAt blank before cs).2]
          exact later

theorem Tidy.lower (tidy : Tidy text) : Tidy (lower text) where
  begins := begins_lowerAfter tidy.begins
  ends := ends_lowerAfter tidy.ends
  spaced := spaced_lowerAfter tidy.spaced

theorem dropTrailingBlanks_eq_self_iff {text : List Char} :
    dropTrailingBlanks text = text ↔
      ∀ c ∈ text.getLast?, isBlank c = false := by
  obtain ⟨gap, areBlank, isText, ends⟩ :=
    exists_dropTrailingBlanks_append text
  constructor
  · intro same
    rwa [same] at ends
  · intro endsToo
    have none : gap = [] := by
      rw [← List.getLast?_eq_none_iff]
      cases isLast : gap.getLast? with
      | none => rfl
      | some c =>
          rw [isText, List.getLast?_append, isLast] at endsToo
          have noBlank := endsToo c rfl
          rw [areBlank c (List.mem_of_getLast? isLast)] at noBlank
          cases noBlank
    rw [none, List.append_nil] at isText
    exact isText.symm

/-- A text that begins as a tidy one does is tidy without its trailing blanks,
and has the same words then. -/
theorem Tidy.dropTrailingBlanks {front rest : List Char}
    (tidy : Tidy (front ++ rest)) :
    Tidy (dropTrailingBlanks front) ∧
      words (Text.dropTrailingBlanks front) = words front := by
  obtain ⟨gap, areBlank, isFront, ends⟩ :=
    exists_dropTrailingBlanks_append front
  generalize Text.dropTrailingBlanks front = kept at isFront ends ⊢
  subst isFront
  refine ⟨⟨?_, ends, tidy.spaced.of_append_left.of_append_left⟩,
    (words_append_blanks areBlank kept).symm⟩
  intro c isHead
  apply tidy.begins c
  rw [List.append_assoc, List.head?_append, isHead]
  rfl

end Polystore.Text
