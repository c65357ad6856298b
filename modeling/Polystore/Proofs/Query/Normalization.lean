import Polystore.Proofs.Query.Signature
import Polystore.Proofs.Text.Tidy

/-!
# Normalising twice

The words of a query are put together with single spaces and in lower case,
and then the text is cut.  A text that has come about in this way is its own
normalised form, except where the cut has fallen right behind a space: this
space is no longer there when the text is normalised again.
-/

namespace Polystore.Signature

open Text

/-- The words in lower case with single spaces between them, before the text
is cut. -/
def uncut (cs : List Char) : List Char :=
  lower (unwords (words cs))

theorem tidy_uncut (cs : List Char) : Tidy (uncut cs) :=
  (tidy_unwords fun _ member => plain_of_mem_words member).lower

theorem not_isCapital_of_mem_uncut {cs : List Char} {c : Char}
    (member : c ∈ uncut cs) : ¬IsCapital c :=
  not_isCapital_of_mem_lowerAfter member

/-- The whole text is the normalised one with what is cut off. -/
theorem normalizeChars_append (cs : List Char) :
    normalizeChars cs ++ (uncut cs).drop textLimit = uncut cs :=
  List.take_append_drop textLimit (uncut cs)

theorem tidy_append (cs : List Char) :
    Tidy (normalizeChars cs ++ (uncut cs).drop textLimit) := by
  rw [normalizeChars_append]
  exact tidy_uncut cs

/-- A tidy text without capitals that is not too long is its own normalised
form. -/
theorem normalizeChars_eq_self {text : List Char} (tidy : Tidy text)
    (noCapital : ∀ c ∈ text, ¬IsCapital c)
    (short : text.length ≤ textLimit) : normalizeChars text = text := by
  rw [normalizeChars, tidy.unwords_words, lower, lowerAfter_eq_self noCapital,
    List.take_of_length_le short]

/-- Normalising a normalised text drops its trailing blanks. -/
theorem normalizeChars_normalizeChars (cs : List Char) :
    normalizeChars (normalizeChars cs) =
      dropTrailingBlanks (normalizeChars cs) := by
  obtain ⟨tidy, sameWords⟩ := (tidy_append cs).dropTrailingBlanks
  obtain ⟨gap, -, isText, -⟩ :=
    exists_dropTrailingBlanks_append (normalizeChars cs)
  have noCapital :
      ∀ c ∈ dropTrailingBlanks (normalizeChars cs), ¬IsCapital c := by
    intro c member
    have kept : c ∈ normalizeChars cs := by
      rw [isText]
      exact List.mem_append_left gap member
    exact not_isCapital_of_mem_uncut (List.mem_of_mem_take kept)
  have short :
      (dropTrailingBlanks (normalizeChars cs)).length ≤ textLimit := by
    have cut : (normalizeChars cs).length ≤ textLimit :=
      List.length_take_le textLimit (uncut cs)
    rw [isText, List.length_append] at cut
    omega
  calc normalizeChars (normalizeChars cs)
      = normalizeChars (dropTrailingBlanks (normalizeChars cs)) := by
        rw [normalizeChars, ← sameWords]
        rfl
    _ = dropTrailingBlanks (normalizeChars cs) :=
        normalizeChars_eq_self tidy noCapital short

theorem trim_normalizeChars (cs : List Char) :
    trim (normalizeChars cs) = dropTrailingBlanks (normalizeChars cs) := by
  have begins : skipBlanks (normalizeChars cs) = normalizeChars cs := by
    cases isText : normalizeChars cs with
    | nil => rfl
    | cons c rest =>
        apply skipBlanks_cons
        apply (tidy_append cs).begins
        rw [isText]
        rfl
  rw [trim, begins]

/-- A normalised text has no blanks at its ends unless its last character is
the space behind which the cut fell. -/
theorem dropTrailingBlanks_normalizeChars_iff (cs : List Char) :
    dropTrailingBlanks (normalizeChars cs) = normalizeChars cs ↔
      (uncut cs)[textLimit - 1]? ≠ some ' ' := by
  have tidy := tidy_uncut cs
  have isLast : (normalizeChars cs).getLast? =
      (uncut cs)[textLimit - 1]?.or (uncut cs).getLast? := by
    show ((uncut cs).take textLimit).getLast? = _
    rw [List.getLast?_take, if_neg (by decide)]
  rw [dropTrailingBlanks_eq_self_iff, isLast]
  cases reached : (uncut cs)[textLimit - 1]? with
  | none => simpa using tidy.ends
  | some c =>
      obtain ⟨before, after, isText⟩ :=
        List.append_of_mem (List.mem_of_getElem? reached)
      constructor
      · rintro noBlank isSpace
        cases isSpace
        exact absurd (noBlank ' ' rfl) (by decide)
      · rintro notSpace d isLast
        cases isLast
        rw [← Bool.not_eq_true]
        intro blank
        obtain ⟨rfl, -⟩ := tidy.spaced before c after isText blank
        exact notSpace rfl

theorem normalize_normalize_eq_trimmed (query : String) :
    normalize (normalize query) = trimmed (normalize query) := by
  rw [trimmed, normalize, normalize, String.toList_ofList,
    normalizeChars_normalizeChars, trim_normalizeChars]

/-- Normalising a normalised query takes away the space that the cut may have
left at its end, and nothing else.  So a normalised query is its own normalised
form exactly if the last character that the cut leaves is no space, and then it
has the signature of the query.  In any case it begins with a word and has
single spaces between its words, and from the second time on nothing
changes. -/
theorem normalize_normalize (query : String) :
    normalize (normalize query) = trimmed (normalize query) ∧
      (normalize (normalize query) = normalize query ↔
        (uncut query.toList)[textLimit - 1]? ≠ some ' ') ∧
      (normalize (normalize query) = normalize query →
        ofQuery (normalize query) = ofQuery query) ∧
      (∀ c ∈ (normalize query).toList.head?, isBlank c = false) ∧
      SinglySpaced isBlank (normalize query).toList ∧
      normalize (normalize (normalize query)) =
        normalize (normalize query) := by
  have text : (normalize query).toList = normalizeChars query.toList :=
    String.toList_ofList
  have same_iff : normalize (normalize query) = normalize query ↔
      normalizeChars (normalizeChars query.toList) =
        normalizeChars query.toList := by
    rw [normalize, text, normalize, String.ofList_inj]
  refine ⟨normalize_normalize_eq_trimmed query, ?_, ?_, ?_, ?_, ?_⟩
  · rw [same_iff, normalizeChars_normalizeChars]
    exact dropTrailingBlanks_normalizeChars_iff query.toList
  · intro same
    rw [ofQuery, text, same_iff.mp same]
    rfl
  · rw [text]
    intro c isHead
    apply (tidy_append query.toList).begins c
    rw [List.head?_append, isHead]
    rfl
  · rw [text]
    exact (tidy_append query.toList).spaced.of_append_left
  · obtain ⟨-, -, -, ends⟩ :=
      exists_dropTrailingBlanks_append (normalizeChars query.toList)
    have settled := dropTrailingBlanks_eq_self_iff.mpr ends
    rw [← normalizeChars_normalizeChars,
      ← normalizeChars_normalizeChars] at settled
    rw [normalize, normalize, normalize, String.toList_ofList,
      String.toList_ofList, settled]

/-- A text that grows in lower case is cut within a word. -/
theorem normalize_normalize_growing :
    let query := String.ofList (List.replicate 60 'İ' ++ [' ', 'Σ'])
    normalize (normalize query) = normalize query ∧
      ofQuery (normalize query) = ofQuery query := by
  intro query
  have same : normalize (normalize query) = normalize query := by
    apply (normalize_normalize query).2.1.mpr
    rw [String.toList_ofList]
    decide +kernel
  exact ⟨same, (normalize_normalize query).2.2.1 same⟩

/-- The cut falls behind the space that follows a word of 99 characters, so
normalising a second time changes the text and the signature. -/
theorem normalize_cut_behind_space :
    let query := String.ofList (List.replicate 99 'x' ++ [' ', 'y'])
    normalize (normalize query) ≠ normalize query ∧
      trimmed (normalize query) ≠ normalize query ∧
      ofQuery (normalize query) ≠ ofQuery query := by
  intro query
  have once : normalizeChars query.toList = List.replicate 99 'x' ++ [' '] := by
    rw [String.toList_ofList]
    decide +kernel
  have twice : normalizeChars (List.replicate 99 'x' ++ [' ']) =
      List.replicate 99 'x' := by
    decide +kernel
  have text : (normalize query).toList = List.replicate 99 'x' ++ [' '] := by
    rw [normalize, once, String.toList_ofList]
  have changes : normalize (normalize query) ≠ normalize query := by
    rw [normalize, text, twice, normalize, once, Ne, String.ofList_inj]
    decide
  refine ⟨changes, ?_, ?_⟩
  · rwa [← normalize_normalize_eq_trimmed]
  · rw [ofQuery, ofQuery, text, twice, once]
    decide +kernel

end Polystore.Signature
