import Polystore.Proofs.Query.Cutting
import Polystore.Proofs.Query.Ends
import Polystore.Query.DocumentForm

/-!
# Which texts are selections

Every text that is read as a selection is written in the grammar of
selections, with literals that may run on.  A clause behind the last literal
is therefore no fault: it becomes part of that literal.
-/

namespace Polystore

open Text Grammar

theorem Comparator.atHead?_eq_some {cs rest : List Char}
    {comparator : Comparator} (read : atHead? cs = some (comparator, rest)) :
    cs = comparator.symbol.toList ++ rest := by
  unfold atHead? at read
  split at read <;> cases read <;> rfl

theorem Condition.startsLiteral_iff {cs : List Char} :
    startsLiteral cs = true ↔ cs ≠ [] ∧ ∀ c ∈ cs.head?, ¬IsSign c := by
  cases cs with
  | nil => simp [startsLiteral]
  | cons c cs => simp [startsLiteral, IsSign, and_assoc]

theorem Condition.ofChars?_eq_some {cs : List Char} {condition : Condition}
    (read : ofChars? cs = some condition) :
    ∃ comparison : Comparison, comparison.field ∈ names ∧
      comparison.literal ≠ [] ∧
      (∀ c ∈ comparison.literal.head?, isBlank c = false ∧ ¬IsSign c) ∧
      cs ∈ comparison.texts ∧ condition = comparison.condition := by
  simp only [ofChars?, Option.bind_eq_bind, Option.bind_eq_some_iff] at read
  obtain ⟨⟨field, behind⟩, isField, ⟨comparator, rest⟩, isComparator, built⟩ :=
    read
  split at built
  · rename_i starts
    obtain ⟨nonempty, noSign⟩ := startsLiteral_iff.mp starts
    cases built
    obtain ⟨before, blankBefore, isBefore⟩ :=
      exists_blanks_append_skipBlanks behind
    obtain ⟨after, blankAfter, isAfter⟩ := exists_blanks_append_skipBlanks rest
    refine ⟨⟨field, comparator, skipBlanks rest⟩, name?_eq_some isField,
      nonempty, ?_, ?_, rfl⟩
    · intro c isHead
      obtain ⟨cs, isText⟩ := List.head?_eq_some_iff.mp isHead
      exact ⟨isBlank_head_skipBlanks isText, noSign c isHead⟩
    · refine Comparison.mem_texts_iff.mpr
        ⟨before, blankBefore, after, blankAfter, ?_⟩
      rw [← isAfter, ← Comparator.atHead?_eq_some isComparator, ← isBefore]
      exact append_of_name?_eq_some isField
  · cases built

namespace Comparison

theorem exists_front {comparison : Comparison} {text : List Char}
    (isName : comparison.field ∈ names) (written : text ∈ comparison.texts) :
    ∃ front, text = front ++ comparison.literal ∧ ∀ c ∈ front, ¬IsMark c := by
  obtain ⟨before, blankBefore, after, blankAfter, rfl⟩ :=
    mem_texts_iff.mp written
  refine ⟨comparison.field ++ (before ++
    (comparison.comparator.symbol.toList ++ after)), by simp, ?_⟩
  intro c member
  simp only [List.mem_append] at member
  rcases member with inField | inBefore | inSymbol | inAfter
  · exact not_isMark_of_isWord (isName.2 c inField)
  · exact not_isMark_of_isBlank (blankBefore c inBefore)
  · exact not_isMark_of_mem_symbol inSymbol
  · exact not_isMark_of_isBlank (blankAfter c inAfter)

theorem head_conjunctions {comparisons : List Comparison} {text : List Char}
    (overNames : ∀ comparison ∈ comparisons, comparison.field ∈ names)
    (written : text ∈ conjunctions comparisons) :
    ∃ c cs, text = c :: cs ∧ isBlank c = false := by
  have starts : ∀ comparison ∈ comparisons, ∀ start ∈ comparison.texts,
      ∀ rest, ∃ c cs, start ++ rest = c :: cs ∧ isBlank c = false := by
    intro comparison member start isStart rest
    obtain ⟨nonempty, areWord⟩ := overNames comparison member
    obtain ⟨before, _, after, _, rfl⟩ := mem_texts_iff.mp isStart
    obtain ⟨c, field, isField⟩ := List.exists_cons_of_ne_nil nonempty
    refine ⟨c, _, by rw [isField]; rfl, isBlank_of_isWord (areWord c ?_)⟩
    simp [isField]
  cases comparisons with
  | nil => exact absurd written (Language.notMem_zero text)
  | cons comparison rest =>
      cases rest with
      | nil =>
          have alone := starts comparison List.mem_cons_self text written []
          rwa [List.append_nil] at alone
      | cons other rest =>
          obtain ⟨first, isFirst, others, _, rfl⟩ := written
          exact starts comparison List.mem_cons_self first isFirst others

theorem append_mem_conjunctions {comparison : Comparison}
    {comparisons : List Comparison} {text before word after more : List Char}
    (written : text ∈ comparison.texts) (gapBefore : before ∈ gaps)
    (spells : Spells ['a', 'n', 'd'] word) (gapAfter : after ∈ gaps)
    (others : more ∈ conjunctions comparisons) :
    text ++ (before ++ (word ++ (after ++ more))) ∈
      conjunctions (comparison :: comparisons) := by
  cases comparisons with
  | nil => exact absurd others (Language.notMem_zero more)
  | cons other rest =>
      exact Language.append_mem_mul written <|
        Language.append_mem_mul gapBefore <|
          Language.append_mem_mul spells <|
            Language.append_mem_mul gapAfter others

theorem of_part {part : List Char} {condition : Condition}
    (runs : RunsOn part)
    (read : Select.condition (trim part) = .ok condition) :
    ∃ comparison : Comparison, comparison.Over runningLiterals ∧
      condition = comparison.condition ∧
      ∃ before ∈ blanks, ∃ text ∈ comparison.texts, ∃ after ∈ blanks,
        part = before ++ (text ++ after) := by
  unfold Select.condition at read
  split at read
  · rename_i result spelled
    cases read
    obtain ⟨comparison, isName, nonempty, starts, written, same⟩ :=
      Condition.ofChars?_eq_some spelled
    obtain ⟨before, after, blankBefore, blankAfter, isPart, ends⟩ :=
      exists_trim part
    obtain ⟨front, isText, noMark⟩ := exists_front isName written
    refine ⟨comparison, ⟨isName, nonempty, starts, ?_, ?_⟩, same, before,
      blankBefore, trim part, written, after, blankAfter, isPart⟩
    · intro c isLast
      obtain ⟨most, isMost⟩ := List.getLast?_eq_some_iff.mp isLast
      exact ends c (most.reverse ++ front.reverse) (by simp [isText, isMost])
    · rw [isPart, isText] at runs
      have inner : RunsOn ((front ++ comparison.literal) ++ after) :=
        runs.of_append fun c member =>
          not_isMark_of_isBlank (blankBefore c member)
      exact (inner.of_append_left fun c member =>
        not_isMark_of_isBlank (blankAfter c member)).of_append noMark
  · cases read

theorem of_cut {clause : List Char} {parts : List (List Char)}
    {conditions : List Condition} (cut : Conjunction.Cut clause parts)
    (read : (parts.map trim).mapM Select.condition = .ok conditions) :
    ∃ comparisons : List Comparison,
      (∀ comparison ∈ comparisons, comparison.Over runningLiterals) ∧
      conditions = comparisons.map condition ∧
      ∃ before ∈ blanks, ∃ text ∈ conjunctions comparisons,
        ∃ after ∈ blanks, clause = before ++ (text ++ after) := by
  induction cut generalizing conditions with
  | @last part runs =>
      obtain ⟨first, others, isFirst, areOthers, rfl⟩ :=
        Select.mapM_cons_eq_ok read
      cases areOthers
      obtain ⟨comparison, isOver, rfl, written⟩ := of_part runs isFirst
      exact ⟨[comparison], by simpa using isOver, rfl, written⟩
  | @and part gap word rest blank parts runs isBlank areBlank spells ends _
      induction =>
      obtain ⟨first, others, isFirst, areOthers, rfl⟩ :=
        Select.mapM_cons_eq_ok read
      obtain ⟨comparison, isOver, rfl, before, blankBefore, text, written, after,
        blankAfter, rfl⟩ := of_part runs isFirst
      obtain ⟨comparisons, overRest, rfl, lead, blankLead, more, writtenMore,
        trail, blankTrail, rfl⟩ := induction areOthers
      obtain ⟨c, cs, rfl, noBlank⟩ :=
        head_conjunctions (fun other member => (overRest other member).1)
          writtenMore
      have gapLead : lead ∈ gaps := mem_gaps_of_head blankLead noBlank ends
      have gapAfter : after ++ blank :: gap ∈ gaps :=
        append_cons_mem_gaps blankAfter (isBlank_of_isAsciiBlank isBlank)
          areBlank
      refine ⟨comparison :: comparisons,
        List.forall_mem_cons.mpr ⟨isOver, overRest⟩, rfl, before, blankBefore,
        text ++ ((after ++ blank :: gap) ++ (word ++ (lead ++ c :: cs))), ?_,
        trail, blankTrail, by simp⟩
      apply append_mem_conjunctions written gapAfter spells gapLead writtenMore

end Comparison

namespace Select

open Outline

theorem exists_heading {cs source rest : List Char}
    (read : head? cs = some (source, rest)) :
    ∃ heading ∈ headings source, cs = heading ++ rest := by
  simp only [head?, Option.bind_eq_bind, Option.bind_eq_some_iff] at read
  obtain ⟨_, isSelect, _, isFirstGap, _, isStar, _, isSecondGap, _, isFrom, _,
    isThirdGap, isName⟩ := read
  obtain ⟨lead, blankLead, isLead⟩ := exists_blanks_append_skipBlanks cs
  obtain ⟨select, spellsSelect, isRest⟩ := afterKeyword?_eq_some_iff.mp isSelect
  obtain ⟨-, first, nonemptyFirst, blankFirst, rfl⟩ :=
    afterBlanks?_eq_some isFirstGap
  rw [after?_eq_some isStar] at isRest
  obtain ⟨-, second, nonemptySecond, blankSecond, rfl⟩ :=
    afterBlanks?_eq_some isSecondGap
  obtain ⟨word, spellsWord, rfl⟩ := afterKeyword?_eq_some_iff.mp isFrom
  obtain ⟨-, third, nonemptyThird, blankThird, rfl⟩ :=
    afterBlanks?_eq_some isThirdGap
  rw [append_of_name?_eq_some isName] at isRest
  refine ⟨lead ++ (select ++ (first ++ (['*'] ++ (second ++ (word ++
    (third ++ source)))))), ?_, by rw [isLead, isRest]; simp⟩
  exact Language.append_mem_mul blankLead <|
    Language.append_mem_mul spellsSelect <|
      Language.append_mem_mul ⟨nonemptyFirst, blankFirst⟩ <|
        Language.append_mem_mul rfl <|
          Language.append_mem_mul ⟨nonemptySecond, blankSecond⟩ <|
            Language.append_mem_mul spellsWord <|
              Language.append_mem_mul ⟨nonemptyThird, blankThird⟩ rfl

theorem whereClause?_eq_some {cs clause : List Char}
    {digits : Option (List Char)}
    (read : whereClause? cs = some (clause, digits)) :
    ∃ before ∈ gaps, ∃ word ∈ keyword ['w', 'h', 'e', 'r', 'e'],
      ∃ after ∈ gaps, ∃ ending, ending? ending = some digits ∧
        cs = before ++ (word ++ (after ++ (clause ++ ending))) := by
  simp only [whereClause?, Option.bind_eq_bind, Option.bind_eq_some_iff]
    at read
  obtain ⟨_, isGap, behindWord, isWord, body, isBody, isClause⟩ := read
  obtain ⟨-, before, nonemptyBefore, blankBefore, rfl⟩ :=
    afterBlanks?_eq_some isGap
  obtain ⟨word, spells, rfl⟩ := afterKeyword?_eq_some_iff.mp isWord
  obtain ⟨-, after, nonemptyAfter, blankAfter, rfl⟩ :=
    afterBlanks?_eq_some isBody
  refine ⟨before, ⟨nonemptyBefore, blankBefore⟩, word, spells, ?_⟩
  split at isClause
  · rename_i noBody
    rw [List.isEmpty_iff.mp noBody, List.append_nil] at isClause ⊢
    split at isClause
    · cases isClause
    · rename_i long
      obtain ⟨ending, isEnding, ends⟩ := clauseAndEnding?_eq_some isClause
      refine ⟨after.take (after.length - 1), ⟨?_, ?_⟩, ending, ends, ?_⟩
      · rw [← List.length_pos_iff, List.length_take]
        omega
      · exact fun c member => blankAfter c (List.mem_of_mem_take member)
      · rw [← isEnding, List.take_append_drop]
  · obtain ⟨ending, rfl, ends⟩ := clauseAndEnding?_eq_some isClause
    exact ⟨after, ⟨nonemptyAfter, blankAfter⟩, ending, ends, rfl⟩

theorem split_eq_ok {clause : List Char} {texts : List (List Char)}
    (read : Conjunction.split clause = .ok texts) :
    ∃ parts, Conjunction.Cut clause parts ∧ texts = parts.map trim := by
  unfold Conjunction.split at read
  cases scanned : Conjunction.scan .unquoted [] clause with
  | error reason => simp [scanned, bind, Except.bind] at read
  | ok parts =>
      simp only [scanned, bind, Except.bind, pure, Except.pure] at read
      split at read
      · cases read
      · obtain ⟨part, others, rfl, cut⟩ :=
          Conjunction.cut_of_scan_eq_ok scanned
        cases read
        exact ⟨part :: others, cut, rfl⟩

theorem conditionsOf_eq_ok {clause : List Char} {conditions : List Condition}
    (read : conditionsOf (some clause) = .ok conditions) :
    ∃ comparisons : List Comparison,
      (∀ comparison ∈ comparisons, comparison.Over runningLiterals) ∧
      conditions = comparisons.map Comparison.condition ∧
      ∃ before ∈ blanks, ∃ text ∈ Comparison.conjunctions comparisons,
        ∃ after ∈ blanks, clause = before ++ (text ++ after) := by
  obtain ⟨texts, isSplit, areConditions⟩ := exists_split read
  obtain ⟨parts, cut, rfl⟩ := split_eq_ok isSplit
  exact Comparison.of_cut cut areConditions

theorem mem_clauses {comparisons : List Comparison}
    {before word after text : List Char} (gapBefore : before ∈ gaps)
    (spells : word ∈ keyword ['w', 'h', 'e', 'r', 'e'])
    (gapAfter : after ∈ gaps)
    (written : text ∈ Comparison.conjunctions comparisons) :
    before ++ (word ++ (after ++ text)) ∈ clauses comparisons := by
  cases comparisons with
  | nil => exact absurd written (Language.notMem_zero text)
  | cons comparison rest =>
      exact Language.append_mem_mul gapBefore <|
        Language.append_mem_mul spells <|
          Language.append_mem_mul gapAfter written

/-- The parts of a statement are written as an outline says. -/
theorem outline_of_parts? {cs source : List Char}
    {clause digits : Option (List Char)} {conditions : List Condition}
    (read : parts? cs = some (source, clause, digits))
    (areConditions : conditionsOf clause = .ok conditions) :
    ∃ comparisons : List Comparison,
      (Outline.mk source comparisons digits).Over runningLiterals ∧
      cs ∈ (Outline.mk source comparisons digits).texts ∧
      conditions = comparisons.map Comparison.condition := by
  have isSource := parts?_eq_some read
  simp only [parts?, Option.bind_eq_bind, Option.bind_eq_some_iff] at read
  obtain ⟨⟨name, rest⟩, isHead, isRest⟩ := read
  obtain ⟨heading, isHeading, rfl⟩ := exists_heading isHead
  simp only at isRest
  split at isRest
  · rename_i isClause
    cases isRest
    obtain ⟨before, gapBefore, word, spells, gap, isGap, ending, ends, rfl⟩ :=
      whereClause?_eq_some isClause
    obtain ⟨areDigits, isEnd⟩ := ending?_eq_some ends
    obtain ⟨comparisons, isOver, rfl, lead, blankLead, text, written, after,
      blankAfter, rfl⟩ := conditionsOf_eq_ok areConditions
    refine ⟨comparisons, ⟨isSource, isOver, areDigits⟩, ?_, rfl⟩
    -- Blanks before the first comparison belong to the gap, those behind the
    -- last one to the end.
    have gapAfter : gap ++ lead ∈ gaps := by
      refine ⟨by simp [isGap.1], ?_⟩
      exact fun c member =>
        (List.mem_append.mp member).elim (isGap.2 c) (blankLead c)
    have isText : before ++ (word ++ (gap ++ (lead ++ (text ++ after) ++
        ending))) = (before ++ (word ++ ((gap ++ lead) ++ text))) ++
          (after ++ ending) := by
      simp
    rw [isText]
    exact Language.append_mem_mul isHeading <|
      Language.append_mem_mul (mem_clauses gapBefore spells gapAfter written) <|
        append_mem_end blankAfter isEnd
  · obtain ⟨_, ends, same⟩ := Option.map_eq_some_iff.mp isRest
    cases same
    cases areConditions
    obtain ⟨areDigits, isEnd⟩ := ending?_eq_some ends
    refine ⟨[], ⟨isSource, by simp, areDigits⟩, ?_, rfl⟩
    refine Language.append_mem_mul isHeading ?_
    rw [clauses, one_mul]
    exact isEnd

end Select

namespace Grammar

theorem RunsOn.not_isBracket {text : List Char} (runs : RunsOn text)
    (noMark : ∀ c ∈ text, ¬IsMark c) : ∀ c ∈ text, ¬IsBracket c := by
  induction runs with
  | nil => simp
  | quoted isMark _ _ _ => exact absurd isMark (noMark _ List.mem_cons_self)
  | blank isBlank _ _ induction =>
      obtain ⟨_, others⟩ := List.forall_mem_cons.mp noMark
      refine List.forall_mem_cons.mpr ⟨?_, induction others⟩
      rintro (rfl | rfl) <;> exact absurd isBlank (by decide)
  | plain _ notBracket _ _ induction =>
      obtain ⟨_, others⟩ := List.forall_mem_cons.mp noMark
      exact List.forall_mem_cons.mpr ⟨notBracket, induction others⟩

/-- A literal that runs on is written well unless it holds blanks or marks. -/
theorem mem_literals_or {literal : List Char}
    (runs : literal ∈ runningLiterals) :
    literal ∈ literals ∨ ∃ c ∈ literal, isBlank c = true ∨ IsMark c := by
  by_cases plain : ∃ c ∈ literal, isBlank c = true ∨ IsMark c
  · exact .inr plain
  · push Not at plain
    have noBracket := runs.2.2.2.not_isBracket
      fun c member => (plain c member).2
    refine .inl (.inr ⟨runs.1, fun c member => ?_⟩)
    exact ⟨by simpa using (plain c member).1, (plain c member).2,
      noBracket c member⟩

end Grammar

theorem Outline.not_mem_heading {source heading : List Char}
    (isSource : source ∈ names) (isHeading : heading ∈ headings source) :
    '=' ∉ heading := by
  obtain ⟨lead, blankLead, _, ⟨select, spellsSelect, _, ⟨first, blankFirst, _,
    ⟨_, rfl, _, ⟨second, blankSecond, _, ⟨word, spellsWord, _, ⟨third,
    blankThird, _, rfl, rfl⟩, rfl⟩, rfl⟩, rfl⟩, rfl⟩, rfl⟩, rfl⟩ := isHeading
  have notBlank : ∀ gap ∈ blanks, '=' ∉ gap := fun gap areBlank member =>
    absurd (areBlank _ member) (by decide)
  simp only [List.mem_append, not_or]
  refine ⟨notBlank _ blankLead, not_mem_of_spells spellsSelect (by decide),
    notBlank _ blankFirst.2, by simp, notBlank _ blankSecond.2,
    not_mem_of_spells spellsWord (by decide), notBlank _ blankThird.2, ?_⟩
  intro member
  exact absurd (isSource.2 _ member) (by decide)

theorem Comparison.exists_last {comparisons : List Comparison}
    {text : List Char} (written : text ∈ conjunctions comparisons) :
    ∃ comparison ∈ comparisons, ∃ front, ∃ after ∈ blanks,
      text = front ++ (comparison.comparator.symbol.toList ++
        (after ++ comparison.literal)) := by
  induction comparisons generalizing text with
  | nil => exact absurd written (Language.notMem_zero text)
  | cons comparison rest induction =>
      cases rest with
      | nil =>
          obtain ⟨before, _, after, blankAfter, rfl⟩ :=
            mem_texts_iff.mp written
          exact ⟨comparison, by simp, comparison.field ++ before, after,
            blankAfter, by simp⟩
      | cons other rest =>
          obtain ⟨first, _, _, ⟨gap, _, _, ⟨word, _, _, ⟨lead, _, more,
            isMore, rfl⟩, rfl⟩, rfl⟩, rfl⟩ := written
          obtain ⟨last, member, front, after, blankAfter, rfl⟩ :=
            induction isMore
          exact ⟨last, List.mem_cons_of_mem _ member,
            first ++ (gap ++ (word ++ (lead ++ front))), after, blankAfter,
            by simp⟩

/-- Behind the only sign of a selection stands a literal. -/
theorem Outline.literal_behind_sign {kind : Language Char} {outline : Outline}
    {start rest : List Char} (isOver : outline.Over kind)
    (written : start ++ '=' :: rest ∈ outline.texts)
    (only : ∀ c ∈ start ++ rest, ¬IsSign c) :
    ∃ comparison ∈ outline.comparisons, ∃ after ∈ blanks,
      ∃ ending ∈ limits outline.digits * closings,
        rest = after ++ (comparison.literal ++ ending) := by
  obtain ⟨heading, isHeading, _, ⟨clause, isClause, ending, ends, rfl⟩, whole⟩ :=
    written
  replace whole : start ++ '=' :: rest = heading ++ (clause ++ ending) :=
    whole.symm
  cases comparisons : outline.comparisons with
  | nil =>
      rw [comparisons] at isClause
      cases (Language.mem_one clause).mp isClause
      have member : '=' ∈ heading ++ ([] ++ ending) := by
        rw [← whole]
        simp
      rcases List.mem_append.mp member with inHeading | inEnding
      · exact absurd inHeading (not_mem_heading isOver.source isHeading)
      · exact absurd inEnding
          (not_mem_end isOver.digits ends (.inr (.inl rfl)))
  | cons first others =>
      rw [comparisons] at isClause
      obtain ⟨before, _, _, ⟨word, _, _, ⟨gap, _, text, written, rfl⟩, rfl⟩,
        rfl⟩ := isClause
      obtain ⟨comparison, member, front, after, blankAfter, rfl⟩ :=
        Comparison.exists_last written
      have inside : ∀ c ∈ comparison.comparator.symbol.toList,
          IsSign c → c = '=' := by
        intro c inSymbol isSign
        by_contra different
        have inText : c ∈ start ++ '=' :: rest := by simp [whole, inSymbol]
        exact only c (by simpa [different] using inText) isSign
      have symbol : comparison.comparator.symbol.toList = ['='] := by
        revert inside
        cases comparison.comparator <;> simp [Comparator.symbol, IsSign]
      have absent : '=' ∉ start ++ rest := fun inText =>
        only '=' inText (.inl rfl)
      rw [List.mem_append, not_or] at absent
      have sides : start ++ '=' :: rest =
          (heading ++ (before ++ (word ++ (gap ++ front)))) ++
            '=' :: (after ++ (comparison.literal ++ ending)) := by
        rw [whole]
        simp [symbol]
      obtain ⟨_, _, same⟩ :=
        (List.append_cons_inj_of_notMem absent.1 absent.2).mp sides
      exact ⟨comparison, member, after, blankAfter, ending, ends, same⟩

namespace Query

/-- Every text that is read as a selection is written in the grammar of
selections with literals that run on, and a text outside this grammar has no
document form but itself.  The literals that are not written well hold blanks
or marks. -/
theorem selections_are_outlined (query : String) :
    (∀ select, Select.parse query = .ok select →
      ∃ outline : Outline, outline.Over runningLiterals ∧
        query.toList ∈ outline.texts ∧ outline.Denotes select ∧
        ∀ comparison ∈ outline.comparisons,
          comparison.literal ∈ literals ∨
            ∃ c ∈ comparison.literal, isBlank c = true ∨ IsMark c) ∧
    ((∀ outline : Outline, outline.Over runningLiterals →
        query.toList ∉ outline.texts) →
      documentForm query = query) := by
  have outlined : ∀ select, Select.parse query = .ok select →
      ∃ outline : Outline, outline.Over runningLiterals ∧
        query.toList ∈ outline.texts ∧ outline.Denotes select := by
    intro select read
    obtain ⟨source, clause, digits, isParts, isSource, conditions, limits⟩ :=
      Select.parse_eq_ok read
    obtain ⟨comparisons, isOver, written, same⟩ :=
      Select.outline_of_parts? isParts conditions
    exact ⟨_, isOver, written, isSource, same, limits⟩
  constructor
  · intro select read
    obtain ⟨outline, isOver, written, denotes⟩ := outlined select read
    refine ⟨outline, isOver, written, denotes, fun comparison member => ?_⟩
    exact mem_literals_or (isOver.comparisons comparison member).2
  · intro outside
    unfold documentForm
    split
    · cases read : Select.parse query with
      | error reason => rfl
      | ok select =>
          obtain ⟨outline, isOver, written, _⟩ := outlined select read
          exact absurd written (outside outline isOver)
    · rfl

theorem selections_are_outlined_ordering :
    ∃ outline : Outline, outline.Over runningLiterals ∧
      "SELECT * FROM t WHERE a = 1 ORDER BY id".toList ∈ outline.texts ∧
      outline.Denotes ⟨"t", [⟨"a", .equal, .text "1 ORDER BY id"⟩], none⟩ ∧
      ∀ comparison ∈ outline.comparisons,
        comparison.literal ∈ literals ∨
          ∃ c ∈ comparison.literal, isBlank c = true ∨ IsMark c := by
  have read : Select.parse "SELECT * FROM t WHERE a = 1 ORDER BY id" =
      .ok ⟨"t", [⟨"a", .equal, .text "1 ORDER BY id"⟩], none⟩ := by
    decide +kernel
  exact (selections_are_outlined _).1 _ read

/-- An ordering behind the last literal is read as part of this literal. -/
theorem selection_with_ordering :
    Select.parse "SELECT * FROM t WHERE a = 1 ORDER BY id" =
        .ok ⟨"t", [⟨"a", .equal, .text "1 ORDER BY id"⟩], none⟩ ∧
      documentForm "SELECT * FROM t WHERE a = 1 ORDER BY id" =
        "db.t.find(\x7b\"a\":\"1 ORDER BY id\"\x7d)" ∧
      ¬∃ outline : Outline, outline.Over literals ∧
        "SELECT * FROM t WHERE a = 1 ORDER BY id".toList ∈ outline.texts := by
  refine ⟨by decide +kernel, by decide +kernel, ?_⟩
  rintro ⟨outline, isOver, written⟩
  have split : "SELECT * FROM t WHERE a = 1 ORDER BY id".toList =
      "SELECT * FROM t WHERE a ".toList ++ '=' :: " 1 ORDER BY id".toList := by
    decide
  rw [split] at written
  obtain ⟨comparison, member, after, blankAfter, ending, ends, rest⟩ :=
    Outline.literal_behind_sign isOver written (by simp [IsSign])
  rcases (isOver.comparisons comparison member).2 with quoted | token
  · obtain ⟨mark, body, isMark, _, isQuoted⟩ := quoted
    have inText : mark ∈ " 1 ORDER BY id".toList := by simp [rest, isQuoted]
    rcases isMark with rfl | rfl <;> exact absurd inText (by decide)
  · obtain ⟨nonempty, plain⟩ := token
    obtain ⟨c, cs, isToken⟩ := List.exists_cons_of_ne_nil nonempty
    have skipped : skipBlanks (after ++ (comparison.literal ++ ending)) =
        comparison.literal ++ ending := by
      apply skipBlanks_append blankAfter
      rintro d ds same
      rw [isToken] at same
      cases same
      exact (plain c (by simp [isToken])).1
    have behind : "1 ORDER BY id".toList = comparison.literal ++ ending := by
      rw [← skipped, ← rest]
      decide
    rcases List.eq_nil_or_concat ending with rfl | ⟨front, last, rfl⟩
    · rw [List.append_nil] at behind
      exact absurd (plain ' ' (by simp [← behind])).1 (by decide)
    · have isLast : last = 'd' := by
        have final := congrArg List.getLast? behind
        simpa using final.symm
      have closed := Outline.last_of_end isOver.digits ends last (by simp)
      rw [isLast] at closed
      exact absurd closed (by decide)

end Query

end Polystore
