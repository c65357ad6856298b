import Polystore.Proofs.Query.Rendering

/-!
# Rendered selections are read back

The clause of a rendered selection is cut into its comparisons, each of them is
read as it was meant, and so the whole selection is read back.
-/

namespace Polystore

open Text Grammar

namespace Conjunction

variable {soFar cs : List Char}

theorem scan_plains {text : List Char}
    (plain : ∀ c ∈ text,
      ¬IsMark c ∧ ¬IsBracket c ∧ isAsciiBlank c = false) :
    scan .unquoted soFar (text ++ cs) =
      scan .unquoted (text.reverse ++ soFar) cs := by
  induction text generalizing soFar with
  | nil => rfl
  | cons c text induction =>
      obtain ⟨⟨noMark, noBracket, noBlank⟩, others⟩ :=
        List.forall_mem_cons.mp plain
      rw [List.cons_append, scan_plain noMark noBracket noBlank,
        induction others, List.reverse_cons, List.append_assoc]
      rfl

theorem startsWithKeyword_eq_false {keyword word rest : List Char}
    (isPlain : IsPlainKeyword keyword)
    (nonempty : word ≠ []) (plain : ∀ c ∈ word, isBlank c = false)
    (ends : ∀ c ∈ rest.head?, isBlank c = true)
    (differs : equalsIgnoringAsciiCase word keyword = false) :
    startsWithKeyword keyword (skipBlanks (word ++ rest)) = false := by
  obtain ⟨c, cs, isWord⟩ := List.exists_cons_of_ne_nil nonempty
  have kept : skipBlanks (word ++ rest) = word ++ rest := by
    rw [isWord]
    exact skipBlanks_cons (plain c (by simp [isWord])) _
  by_contra starts
  rw [Bool.not_eq_false, kept, startsWithKeyword_iff isPlain] at starts
  obtain ⟨spelled, others, spells, same, stops⟩ := starts
  have sameWord : word = spelled :=
    eq_of_append_eq_append plain
      (fun c member =>
        isBlank_of_mem_spells spells isPlain.isBlank_eq_false member) ends
      (fun c isHead => isBlank_of_isAsciiBlank (stops c isHead)) same
  rw [← sameWord, spells_iff_equalsIgnoringAsciiCase isPlain, differs] at spells
  cases spells

end Conjunction

namespace Comparison

open Conjunction

variable {comparison : Comparison}

theorem literal_head (readable : comparison.Readable) :
    ∃ c cs, comparison.literal = c :: cs ∧ isBlank c = false ∧ ¬IsSign c := by
  rcases readable.literal with quoted | plain
  · obtain ⟨mark, body, isMark, _, isQuoted⟩ := quoted
    refine ⟨mark, body ++ [mark], isQuoted, ?_⟩
    unfold IsSign
    rcases isMark with rfl | rfl <;> decide
  · obtain ⟨⟨nonempty, areToken⟩, noSign, _⟩ := plain
    obtain ⟨c, cs, isToken⟩ := List.exists_cons_of_ne_nil nonempty
    exact ⟨c, cs, isToken, (areToken c (by simp [isToken])).1,
      noSign c (by simp [isToken])⟩

theorem literal_last (readable : comparison.Readable) :
    ∃ front c, comparison.literal = front ++ [c] ∧ isBlank c = false := by
  rcases readable.literal with quoted | plain
  · obtain ⟨mark, body, isMark, _, isQuoted⟩ := quoted
    refine ⟨mark :: body, mark, isQuoted, ?_⟩
    rcases isMark with rfl | rfl <;> decide
  · obtain ⟨⟨nonempty, areToken⟩, _⟩ := plain
    rcases List.eq_nil_or_concat' comparison.literal with isEmpty |
      ⟨front, c, isToken⟩
    · exact absurd isEmpty nonempty
    · exact ⟨front, c, isToken, (areToken c (by simp [isToken])).1⟩

theorem scan_literal (readable : comparison.Readable) {soFar cs : List Char}
    (ends : ∀ c ∈ cs.head?, isBlank c = true) :
    scan .unquoted soFar (' ' :: (comparison.literal ++ cs)) =
      scan .unquoted (comparison.literal.reverse ++ ' ' :: soFar) cs := by
  rcases readable.literal with quoted | plain
  · obtain ⟨mark, body, isMark, absent, isQuoted⟩ := quoted
    rw [scan_blank (by decide), isQuoted, List.cons_append, List.append_assoc,
      scan_mark isMark, List.singleton_append, scan_quoted absent]
    · simp
    · rw [isQuoted]
      rcases isMark with rfl | rfl <;> rfl
    · rw [isQuoted]
      rcases isMark with rfl | rfl <;> rfl
  · obtain ⟨⟨nonempty, areToken⟩, _, _, notKeyword⟩ := plain
    have noBlank : ∀ c ∈ comparison.literal, isBlank c = false :=
      fun c member => (areToken c member).1
    rw [scan_blank (by decide), scan_plains]
    · intro c member
      obtain ⟨noBlank, noMark, noBracket⟩ := areToken c member
      exact ⟨noMark, noBracket, isAsciiBlank_of_isBlank noBlank⟩
    · exact startsWithKeyword_eq_false isPlainKeyword_and nonempty noBlank
        ends (notKeyword _ (by simp))
    · exact startsWithKeyword_eq_false isPlainKeyword_or nonempty noBlank
        ends (notKeyword _ (by simp))

theorem scan_rendered (readable : comparison.Readable)
    {soFar cs : List Char} (ends : ∀ c ∈ cs.head?, isBlank c = true) :
    scan .unquoted soFar (comparison.rendered ++ cs) =
      scan .unquoted (comparison.rendered.reverse ++ soFar) cs := by
  have shape : comparison.rendered ++ cs = comparison.field ++
      ' ' :: (comparison.comparator.symbol.toList ++
        ' ' :: (comparison.literal ++ cs)) := by
    simp [rendered]
  have plainField : ∀ c ∈ comparison.field,
      ¬IsMark c ∧ ¬IsBracket c ∧ isAsciiBlank c = false := by
    intro c member
    have word := readable.field.2 c member
    refine ⟨not_isMark_of_isWord word, ?_,
      isAsciiBlank_of_isBlank (isBlank_of_isWord word)⟩
    rintro (rfl | rfl) <;> exact absurd word (by decide)
  have plainSymbol : ∀ c ∈ comparison.comparator.symbol.toList,
      ¬IsMark c ∧ ¬IsBracket c ∧ isAsciiBlank c = false := by
    cases comparison.comparator <;>
      simp [Comparator.symbol, IsMark, IsBracket, isAsciiBlank]
  have noKeyword : ∀ keyword ∈ [['a', 'n', 'd'], ['o', 'r']],
      ∀ rest, startsWithKeyword keyword (skipBlanks
        (comparison.comparator.symbol.toList ++ ' ' :: rest)) = false := by
    intro keyword member rest
    simp only [List.mem_cons, List.not_mem_nil, or_false] at member
    rcases member with rfl | rfl <;> cases comparison.comparator <;> rfl
  rw [shape, scan_plains plainField,
    scan_blank (by decide) (noKeyword _ (by simp) _) (noKeyword _ (by simp) _),
    scan_plains plainSymbol, scan_literal readable ends]
  simp [rendered]

theorem joined_cons (comparison : Comparison) (rest : List Comparison) :
    ∃ behind, joined (comparison :: rest) =
      comparison.field ++ ' ' :: behind := by
  cases rest with
  | nil => exact ⟨_, rfl⟩
  | cons other rest =>
      refine ⟨comparison.comparator.symbol.toList ++
        ' ' :: (comparison.literal ++
          (' ' :: 'A' :: 'N' :: 'D' :: ' ' :: joined (other :: rest))), ?_⟩
      simp [joined, rendered]

theorem scan_space (readable : comparison.Readable) (rest : List Comparison)
    {soFar : List Char} :
    scan .unquoted soFar (' ' :: joined (comparison :: rest)) =
      scan .unquoted (' ' :: soFar) (joined (comparison :: rest)) := by
  obtain ⟨behind, isBehind⟩ := joined_cons comparison rest
  have noBlank : ∀ c ∈ comparison.field, isBlank c = false := fun c member =>
    isBlank_of_isWord (readable.field.2 c member)
  have ends : ∀ c ∈ (' ' :: behind).head?, isBlank c = true := by
    rintro c ⟨⟩
    decide
  rw [isBehind]
  apply scan_blank
  · decide
  · exact startsWithKeyword_eq_false isPlainKeyword_and
      readable.field.1 noBlank ends (readable.noConnective _ (by simp))
  · exact startsWithKeyword_eq_false isPlainKeyword_or
      readable.field.1 noBlank ends (readable.noConnective _ (by simp))

theorem scan_joined {comparison : Comparison} {rest : List Comparison}
    (readable : ∀ other ∈ comparison :: rest, other.Readable)
    {soFar : List Char} :
    scan .unquoted soFar (joined (comparison :: rest)) =
      .ok ((soFar.reverse ++ comparison.rendered) ::
        rest.map fun other => ' ' :: other.rendered) := by
  induction rest generalizing comparison soFar with
  | nil =>
      have passed : scan .unquoted soFar (comparison.rendered ++ []) =
          scan .unquoted (comparison.rendered.reverse ++ soFar) [] :=
        scan_rendered (readable comparison (by simp)) (by simp)
      rw [List.append_nil] at passed
      rw [joined, passed]
      simp [scan, finish]
  | cons other rest induction =>
      obtain ⟨first, others⟩ := List.forall_mem_cons.mp readable
      have isOther := others other List.mem_cons_self
      have space : ∀ c ∈ (' ' :: 'A' :: 'N' :: 'D' :: ' ' ::
          joined (other :: rest)).head?, isBlank c = true := by
        rintro c ⟨⟩
        decide
      have spells : Spells ['a', 'n', 'd'] ['A', 'N', 'D'] := by
        unfold Spells
        decide
      have separator : scan .unquoted (comparison.rendered.reverse ++ soFar)
          (' ' :: ([] ++ (['A', 'N', 'D'] ++
            ' ' :: joined (other :: rest)))) =
          (scan .unquoted [] (' ' :: joined (other :: rest))).map
            ((comparison.rendered.reverse ++ soFar).reverse :: ·) := by
        refine scan_and (by decide) (List.forall_mem_nil _) spells ?_
        rintro c ⟨⟩
        decide
      calc scan .unquoted soFar (joined (comparison :: other :: rest))
          = scan .unquoted (comparison.rendered.reverse ++ soFar)
              (' ' :: 'A' :: 'N' :: 'D' :: ' ' :: joined (other :: rest)) :=
            scan_rendered first space
        _ = (scan .unquoted [] (' ' :: joined (other :: rest))).map
              ((comparison.rendered.reverse ++ soFar).reverse :: ·) :=
            separator
        _ = (scan .unquoted [' '] (joined (other :: rest))).map
              ((comparison.rendered.reverse ++ soFar).reverse :: ·) := by
            rw [scan_space isOther]
        _ = .ok ((soFar.reverse ++ comparison.rendered) ::
              (other :: rest).map fun other => ' ' :: other.rendered) := by
            rw [induction others]
            simp [Except.map]

end Comparison

namespace Comparison

open Conjunction

variable {comparison : Comparison}

theorem trim_rendered (readable : comparison.Readable) {before : List Char}
    (blankBefore : ∀ c ∈ before, isBlank c = true) :
    trim (before ++ comparison.rendered) = comparison.rendered := by
  obtain ⟨nonempty, areWord⟩ := readable.field
  obtain ⟨front, last, isLast, noBlank⟩ := literal_last readable
  have starts : ∀ c cs, comparison.rendered = c :: cs →
      isBlank c = false := by
    intro c cs same
    obtain ⟨d, ds, isField⟩ := List.exists_cons_of_ne_nil nonempty
    rw [rendered, isField] at same
    cases same
    exact isBlank_of_isWord (areWord c (by simp [isField]))
  have ends : ∀ c cs, comparison.rendered.reverse = c :: cs →
      isBlank c = false := by
    intro c cs same
    rw [rendered, isLast] at same
    simp only [List.reverse_append, List.reverse_cons, List.append_assoc,
      List.singleton_append, List.reverse_nil, List.nil_append] at same
    cases same
    exact noBlank
  have trimmed : trim (before ++ (comparison.rendered ++ [])) =
      comparison.rendered :=
    trim_append blankBefore (List.forall_mem_nil _) (by simp [rendered])
      starts ends
  rwa [List.append_nil] at trimmed

theorem split_joined {comparisons : List Comparison}
    (nonempty : comparisons ≠ [])
    (readable : ∀ comparison ∈ comparisons, comparison.Readable) :
    split (joined comparisons) = .ok (comparisons.map rendered) := by
  obtain ⟨comparison, rest, rfl⟩ := List.exists_cons_of_ne_nil nonempty
  obtain ⟨first, others⟩ := List.forall_mem_cons.mp readable
  have trimmed : (([].reverse ++ comparison.rendered) ::
      rest.map fun other => ' ' :: other.rendered).map trim =
      (comparison :: rest).map rendered := by
    have space : ∀ c ∈ [' '], isBlank c = true := List.all_eq_true.mp rfl
    rw [List.map_cons, List.map_cons, List.map_map, List.reverse_nil,
      trim_rendered first (List.forall_mem_nil _)]
    congr 1
    apply List.map_congr_left
    intro other member
    exact trim_rendered (others other member) space
  have noneEmpty : ((comparison :: rest).map rendered).any List.isEmpty =
      false := by
    simp [rendered]
  simp only [split, scan_joined readable, bind, Except.bind, trimmed,
    noneEmpty]
  rfl

theorem condition_rendered (readable : comparison.Readable) :
    Select.condition comparison.rendered = .ok comparison.condition := by
  obtain ⟨nonempty, areWord⟩ := readable.field
  obtain ⟨c, cs, isHead, noBlank, noSign⟩ := literal_head readable
  have name : name? comparison.rendered = some (comparison.field,
      ' ' :: (comparison.comparator.symbol.toList ++
        ' ' :: comparison.literal)) := by
    refine name?_append nonempty areWord ?_
    rintro d ds ⟨⟩
    decide
  have skipped : skipBlanks (' ' :: (comparison.comparator.symbol.toList ++
      ' ' :: comparison.literal)) =
      comparison.comparator.symbol.toList ++ ' ' :: comparison.literal := by
    cases comparison.comparator <;> rfl
  have comparator : Comparator.atHead?
      (comparison.comparator.symbol.toList ++ ' ' :: comparison.literal) =
      some (comparison.comparator, ' ' :: comparison.literal) := by
    cases comparison.comparator <;> rfl
  have literal : skipBlanks (' ' :: comparison.literal) =
      comparison.literal := by
    rw [isHead]
    exact skipBlanks_cons noBlank cs
  have starts : Condition.startsLiteral comparison.literal = true := by
    rw [isHead]
    simpa [Condition.startsLiteral, IsSign, and_assoc] using noSign
  have read : Condition.ofChars? comparison.rendered =
      some comparison.condition := by
    simp only [Condition.ofChars?, bind, name, Option.bind_some, skipped,
      comparator, literal, starts, if_true]
    rfl
  rw [Select.condition, read]

end Comparison

namespace Select

theorem mapM_map_eq_ok {ε α β γ : Type} {f : β → Except ε γ} {g : α → β}
    {h : α → γ} {items : List α}
    (each : ∀ item ∈ items, f (g item) = .ok (h item)) :
    (items.map g).mapM f = .ok (items.map h) := by
  induction items with
  | nil => rfl
  | cons item items induction =>
      obtain ⟨first, others⟩ := List.forall_mem_cons.mp each
      rw [List.map_cons, List.mapM_cons, first, induction others]
      rfl

theorem conditionsOf_joined {comparisons : List Comparison}
    (nonempty : comparisons ≠ [])
    (readable : ∀ comparison ∈ comparisons, comparison.Readable) :
    conditionsOf (some (Comparison.joined comparisons)) =
      .ok (comparisons.map Comparison.condition) := by
  rw [conditionsOf, Comparison.split_joined nonempty readable]
  exact mapM_map_eq_ok fun comparison member =>
    Comparison.condition_rendered (readable comparison member)

theorem whereClause?_joined {comparisons : List Comparison}
    (nonempty : comparisons ≠ [])
    (readable : ∀ comparison ∈ comparisons, comparison.Readable)
    (limit : Option Nat) (semicolon : Bool) :
    whereClause? ([' ', 'W', 'H', 'E', 'R', 'E', ' '] ++
        (Comparison.joined comparisons ++ renderedEnd limit semicolon)) =
      some (Comparison.joined comparisons,
        limit.map Numeral.decimalText) := by
  obtain ⟨comparison, rest, rfl⟩ := List.exists_cons_of_ne_nil nonempty
  obtain ⟨fieldNonempty, areWord⟩ :=
    (readable comparison List.mem_cons_self).field
  obtain ⟨c, field, isField⟩ := List.exists_cons_of_ne_nil fieldNonempty
  obtain ⟨behind, isBehind⟩ := Comparison.joined_cons comparison rest
  have starts : Comparison.joined (comparison :: rest) =
      c :: (field ++ ' ' :: behind) := by
    rw [isBehind, isField]
    rfl
  have noBlank : isBlank c = false :=
    isBlank_of_isWord (areWord c (by simp [isField]))
  have cut : clauseAndEnding? (Comparison.joined (comparison :: rest) ++
      renderedEnd limit semicolon) =
      some (Comparison.joined (comparison :: rest),
        limit.map Numeral.decimalText) := by
    apply clauseAndEnding?_append
    · simp [starts]
    · intro part partNonempty isSuffix
      exact ending?_joined readable (renderedEnd_cases limit semicolon)
        partNonempty isSuffix
    · exact ending?_renderedEnd limit semicolon
  generalize Comparison.joined (comparison :: rest) = clause at *
  generalize renderedEnd limit semicolon = ending at *
  have gap : afterBlanks? ([' ', 'W', 'H', 'E', 'R', 'E', ' '] ++
      (clause ++ ending)) =
      some (['W', 'H', 'E', 'R', 'E'] ++ ' ' :: (clause ++ ending)) := rfl
  have word : afterKeyword? ['w', 'h', 'e', 'r', 'e']
      (['W', 'H', 'E', 'R', 'E'] ++ ' ' :: (clause ++ ending)) =
      some (' ' :: (clause ++ ending)) := rfl
  have body : afterBlanks? (' ' :: (clause ++ ending)) =
      some (clause ++ ending) := by
    refine congrArg some ?_
    rw [starts]
    exact skipBlanks_cons noBlank _
  have isBody : (clause ++ ending).isEmpty = false := by
    rw [starts]
    rfl
  simp only [whereClause?, bind, gap, Option.bind_some, word, body, isBody]
  exact cut

theorem whereClause?_renderedEnd (limit : Option Nat) (semicolon : Bool) :
    whereClause? (renderedEnd limit semicolon) = none := by
  cases limit <;> cases semicolon <;> rfl

theorem head?_render {source rest : List Char} (isName : source ∈ names)
    (ends : ∀ c cs, rest = c :: cs → isWord c = false) :
    head? (['S', 'E', 'L', 'E', 'C', 'T', ' ', '*', ' '] ++
      (['F', 'R', 'O', 'M', ' '] ++ (source ++ rest))) =
      some (source, rest) := by
  obtain ⟨nonempty, areWord⟩ := isName
  obtain ⟨c, cs, isSource⟩ := List.exists_cons_of_ne_nil nonempty
  have noBlank : skipBlanks (source ++ rest) = source ++ rest := by
    rw [isSource]
    exact skipBlanks_cons
      (isBlank_of_isWord (areWord c (by simp [isSource]))) _
  have name : name? (skipBlanks (source ++ rest)) = some (source, rest) := by
    rw [noBlank]
    exact name?_append nonempty areWord ends
  exact name

theorem limitOf_decimalText {limit : Option Nat}
    (fits : ∀ value ∈ limit, value < 2 ^ 64) :
    limitOf (limit.map Numeral.decimalText) = .ok limit := by
  cases limit with
  | none => rfl
  | some value =>
      have small : value ≤ Numeral.maxUnsigned :=
        Nat.le_of_lt_succ (fits value rfl)
      rw [Option.map_some, limitOf, Numeral.unsigned?_decimalText small]

theorem isWord_of_renderedEnd (limit : Option Nat) (semicolon : Bool) :
    ∀ c cs, renderedEnd limit semicolon = c :: cs → isWord c = false := by
  intro c cs same
  cases limit <;> cases semicolon <;> cases same <;> decide

theorem parts?_render {source : List Char} {comparisons : List Comparison}
    (limit : Option Nat) (semicolon : Bool) (isName : source ∈ names)
    (readable : ∀ comparison ∈ comparisons, comparison.Readable) :
    ∃ clause, parts? (render source comparisons limit semicolon).toList =
        some (source, clause, limit.map Numeral.decimalText) ∧
      conditionsOf clause = .ok (comparisons.map Comparison.condition) := by
  rw [render, String.toList_ofList]
  cases comparisons with
  | nil =>
      have head := head?_render isName (isWord_of_renderedEnd limit semicolon)
      refine ⟨none, ?_, rfl⟩
      simp only [parts?, bind, List.isEmpty_nil, if_true, List.nil_append, head,
        Option.bind_some, whereClause?_renderedEnd, ending?_renderedEnd]
      rfl
  | cons comparison rest =>
      have nonempty : comparison :: rest ≠ [] := List.cons_ne_nil _ _
      have ends : ∀ c cs, [' ', 'W', 'H', 'E', 'R', 'E', ' '] ++
          (Comparison.joined (comparison :: rest) ++
            renderedEnd limit semicolon) = c :: cs → isWord c = false := by
        rintro c cs ⟨⟩
        decide
      have head := head?_render isName ends
      have clause := whereClause?_joined nonempty readable limit semicolon
      refine ⟨some (Comparison.joined (comparison :: rest)), ?_,
        conditionsOf_joined nonempty readable⟩
      simp only [parts?, bind, List.isEmpty_cons, Bool.false_eq_true, if_false,
        List.append_assoc, head, Option.bind_some, clause]

/-- A rendered selection is read back. -/
theorem parse_render {source : List Char} {comparisons : List Comparison}
    {limit : Option Nat} (semicolon : Bool) (isName : source ∈ names)
    (readable : ∀ comparison ∈ comparisons, comparison.Readable)
    (fits : ∀ value ∈ limit, value < 2 ^ 64) :
    parse (render source comparisons limit semicolon) =
      .ok ⟨String.ofList source, comparisons.map Comparison.condition,
        limit⟩ := by
  obtain ⟨clause, parts, conditions⟩ :=
    parts?_render limit semicolon isName readable
  simp only [parse, ofChars, parts, conditions, limitOf_decimalText fits, bind,
    Except.bind]
  rfl

/-- A quoted text that looks like the rest of the statement stays whole. -/
theorem parse_render_lookalike :
    parse "SELECT * FROM t WHERE a != 'x) AND y LIMIT 3;' AND b >= 42 LIMIT 10;" =
      .ok ⟨"t", [⟨"a", .different, .text "x) AND y LIMIT 3;"⟩,
        ⟨"b", .atLeast, .integer 42⟩], some 10⟩ := by
  have first : Comparison.Readable
      ⟨['a'], .different, "'x) AND y LIMIT 3;'".toList⟩ := {
    field := ⟨by simp, List.all_eq_true.mp rfl⟩
    noConnective := by decide
    literal := .inl ⟨'\'', "x) AND y LIMIT 3;".toList, .inl rfl, by decide,
      by decide⟩ }
  have second : Comparison.Readable ⟨['b'], .atLeast, ['4', '2']⟩ := {
    field := ⟨by simp, List.all_eq_true.mp rfl⟩
    noConnective := by decide
    literal := by
      refine .inr ⟨⟨by simp, ?_⟩, ?_, by simp, by decide⟩
      · simp [isBlank, IsMark, IsBracket]
      · rintro c ⟨⟩
        unfold IsSign
        decide }
  have read : parse (render ['t']
      [⟨['a'], .different, "'x) AND y LIMIT 3;'".toList⟩,
        ⟨['b'], .atLeast, ['4', '2']⟩] (some 10) true) =
      .ok ⟨String.ofList ['t'],
        [⟨['a'], .different, "'x) AND y LIMIT 3;'".toList⟩,
          ⟨['b'], .atLeast, ['4', '2']⟩].map Comparison.condition,
        some 10⟩ :=
    parse_render true ⟨by simp, List.all_eq_true.mp rfl⟩
      (List.forall_mem_cons.mpr ⟨first, List.forall_mem_singleton.mpr second⟩)
      (by simp)
  have written : render ['t']
      [⟨['a'], .different, "'x) AND y LIMIT 3;'".toList⟩,
        ⟨['b'], .atLeast, ['4', '2']⟩] (some 10) true =
      "SELECT * FROM t WHERE a != 'x) AND y LIMIT 3;' AND b >= 42 LIMIT 10;" := by
    decide +kernel
  rw [← written, read]
  decide +kernel

end Select

end Polystore
