import Polystore.Proofs.History.Reopening
import Polystore.Proofs.History.Statistics
import Polystore.Proofs.Text.Sigmas

/-!
# Finding a text that was asked for

A reader who looks for a piece of the caller's text finds the record unless
the piece has a capital sigma that ends a word there and goes on one in the
whole, or the other way round: both are put into lower case before they are
compared, and the two forms of the small sigma are different letters.
-/

namespace Polystore

namespace RecordFilter

open Text

theorem accepts_contains_iff {needle : String} {record : ExecutionRecord} :
    accepts { contains := some needle } record = true ↔
      lower needle.toList <:+: lower record.queryText.toList := by
  rw [← occursIn_iff_infix]
  simp [accepts, occurs]

/-- At a place where its sigmas end words just as they do in itself, a piece is
found. -/
theorem infix_of_sameEnds {front piece rest : List Char}
    (same : AtSigmas (fun before after =>
      endsWord (before ++ front.reverse) (after ++ rest) =
        endsWord before after) piece) :
    lower piece <:+: lower (front ++ (piece ++ rest)) := by
  have samePiece : lowerBetween front.reverse rest piece = lower piece := by
    rw [lower, ← lowerBetween_nil]
    apply lowerBetween_congr
    simpa only [List.append_nil] using same
  rw [lower_append, samePiece, ← List.append_assoc]
  exact ⟨_, _, rfl⟩

/-- A piece with a sigma that is not settled is missed in some text that holds
it. -/
theorem exists_missed {piece : List Char}
    (unsettled : ¬AtSigmas IsSettled piece) :
    ∃ front rest, ¬lower piece <:+: lower (front ++ (piece ++ rest)) := by
  simp only [AtSigmas, not_forall] at unsettled
  obtain ⟨before, after, isPiece, unsettled⟩ := unsettled
  rcases cases_of_not_isSettled unsettled with ⟨goesOn, isEnd⟩ | ⟨isEnd, goesOn⟩
  · refine ⟨['a'], [], fun occurs => ?_⟩
    have same := count_eq_of_infix (by decide) (by decide) occurs
    have more : (lowerBetween [] [] piece).count 'ς' <
        (lowerBetween ['a'] [] piece).count 'ς' := by
      apply count_lowerBetween_lt _ isPiece
      · simpa using goesOn
      · simpa using isEnd
      · intro left right _ isEnd
        rw [List.append_nil] at isEnd
        exact endsWord_append_before isEnd ['a']
    rw [lowerBetween_nil] at more
    exact absurd same (Nat.ne_of_lt more)
  · refine ⟨[], ['a'], fun occurs => ?_⟩
    have same := count_eq_of_infix (by decide) (by decide) occurs
    have fewer : (lowerBetween [] ['a'] piece).count 'ς' <
        (lowerBetween [] [] piece).count 'ς' := by
      apply count_lowerBetween_lt _ isPiece
      · simpa using goesOn
      · simpa using isEnd
      · intro left right _ isEnd
        rw [List.append_nil right]
        exact endsWord_of_append_after isEnd
    rw [lowerBetween_nil] at fewer
    exact absurd same.symm (Nat.ne_of_lt fewer)

/-- A text is found in every record whose text holds it exactly if all its
capital sigmas are settled, so it is enough that it has none; and where it
stands in the text of a record, the record is found in any case if each of
these sigmas ends a word there just where it does so in the text alone. -/
theorem contains_finds_iff (needle : String) :
    ((∀ record : ExecutionRecord,
        needle.toList <:+: record.queryText.toList →
          accepts { contains := some needle } record = true) ↔
      AtSigmas IsSettled needle.toList) ∧
    ∀ (record : ExecutionRecord) (front rest : List Char),
      record.queryText.toList = front ++ (needle.toList ++ rest) →
      AtSigmas (fun before after =>
        endsWord (before ++ front.reverse) (after ++ rest) =
          endsWord before after) needle.toList →
      accepts { contains := some needle } record = true := by
  have found : ∀ (record : ExecutionRecord) (front rest : List Char),
      record.queryText.toList = front ++ (needle.toList ++ rest) →
      AtSigmas (fun before after =>
        endsWord (before ++ front.reverse) (after ++ rest) =
          endsWord before after) needle.toList →
      accepts { contains := some needle } record = true := by
    intro record front rest isText same
    rw [accepts_contains_iff, isText]
    exact infix_of_sameEnds same
  refine ⟨⟨?_, ?_⟩, found⟩
  · intro always
    by_contra unsettled
    obtain ⟨front, rest, missed⟩ := exists_missed unsettled
    let record : ExecutionRecord :=
      { ExecutionRecord.specimen 1 0 1.0 with
        queryText := String.ofList (front ++ (needle.toList ++ rest)) }
    have isText : record.queryText.toList =
        front ++ (needle.toList ++ rest) := String.toList_ofList
    have accepted := always record
      ⟨front, rest, by rw [isText, List.append_assoc]⟩
    rw [accepts_contains_iff, isText] at accepted
    exact missed accepted
  · rintro settled record ⟨front, rest, isText⟩
    rw [List.append_assoc] at isText
    apply found record front rest isText.symm
    intro before after isNeedle
    exact (settled before after isNeedle).endsWord_append _ _

/-- The first sigma has a space behind it and a letter follows the second; the
one at the end ends a word in the whole as well. -/
theorem contains_finds_settled :
    let record : ExecutionRecord :=
      { ExecutionRecord.specimen 1 0 1.0 with
        queryText := "GET ΟΔΟΣ ΣΟΦΙΑΣ" }
    "ΔΟΣ ΣΟ".toList <:+: record.queryText.toList ∧
      accepts { contains := some "ΔΟΣ ΣΟ" } record = true ∧
      record.queryText.toList =
        "GET ΟΔΟΣ ΣΟΦ".toList ++ ("ΙΑΣ".toList ++ []) ∧
      ¬AtSigmas IsSettled "ΙΑΣ".toList ∧
      accepts { contains := some "ΙΑΣ" } record = true := by
  intro record
  have within : "ΔΟΣ ΣΟ".toList <:+: record.queryText.toList :=
    ⟨"GET Ο".toList, "ΦΙΑΣ".toList, by decide +kernel⟩
  have atEnd : record.queryText.toList =
      "GET ΟΔΟΣ ΣΟΦ".toList ++ ("ΙΑΣ".toList ++ []) := by decide +kernel
  refine ⟨within, ?_, atEnd, by decide +kernel, ?_⟩
  · exact (contains_finds_iff _).1.mpr (by decide +kernel) record within
  · exact (contains_finds_iff _).2 record _ _ atEnd (by decide +kernel)

/-- A piece that ends within a word is missed, because its last letter ends a
word in the piece. -/
theorem contains_misses_piece :
    let record : ExecutionRecord :=
      { ExecutionRecord.specimen 1 0 1.0 with queryText := "GET ΛΑΣΑ" }
    "ΛΑΣ".toList <:+: record.queryText.toList ∧
      accepts { contains := some "ΛΑΣ" } record = false := by
  intro record
  exact ⟨⟨"GET ".toList, "Α".toList, by decide +kernel⟩, by decide +kernel⟩

end RecordFilter

end Polystore
