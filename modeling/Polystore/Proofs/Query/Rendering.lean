import Polystore.Proofs.Numeral.Decimal
import Polystore.Proofs.Query.Cutting
import Polystore.Proofs.Query.Ends

/-!
# Rendered selections

A selection is rendered with single spaces and its keywords in capitals.  A
quoted literal may look like the rest of a statement, but it holds a mark up to
its last character, and no end of a statement holds one.  A token behind the
last comparator stops like no end of a statement does.
-/

namespace Polystore

open Text Grammar

namespace Grammar

/-- The tokens that stand for themselves behind a comparator. -/
def plainTokens : Language Char :=
  {text | text ∈ tokens ∧ (∀ c ∈ text.head?, ¬IsSign c) ∧
    (∀ c ∈ text.getLast?, c ≠ ';') ∧
    ∀ word ∈ [['a', 'n', 'd'], ['o', 'r'], ['l', 'i', 'm', 'i', 't']],
      equalsIgnoringAsciiCase text word = false}

end Grammar

namespace Comparison

/-- The comparison can be told from the statement around it. -/
structure Readable (comparison : Comparison) : Prop where
  field : comparison.field ∈ names
  noConnective : ∀ word ∈ [['a', 'n', 'd'], ['o', 'r']],
    equalsIgnoringAsciiCase comparison.field word = false
  literal : comparison.literal ∈ quotations + plainTokens

def rendered (comparison : Comparison) : List Char :=
  comparison.field ++ ' ' :: (comparison.comparator.symbol.toList ++
    ' ' :: comparison.literal)

def joined : List Comparison → List Char
  | [] => []
  | [comparison] => comparison.rendered
  | comparison :: rest =>
    comparison.rendered ++ (' ' :: 'A' :: 'N' :: 'D' :: ' ' :: joined rest)

end Comparison

namespace Select

/-- The end of a statement with its limit. -/
def renderedEnd (limit : Option Nat) (semicolon : Bool) : List Char :=
  (match limit with
    | none => []
    | some limit =>
      [' ', 'L', 'I', 'M', 'I', 'T', ' '] ++ Numeral.decimalText limit) ++
  if semicolon then [';'] else []

def render (source : List Char) (comparisons : List Comparison)
    (limit : Option Nat) (semicolon : Bool) : String :=
  String.ofList (['S', 'E', 'L', 'E', 'C', 'T', ' ', '*', ' '] ++
    (['F', 'R', 'O', 'M', ' '] ++ (source ++
      ((if comparisons.isEmpty then []
        else [' ', 'W', 'H', 'E', 'R', 'E', ' '] ++
          Comparison.joined comparisons) ++
        renderedEnd limit semicolon))))

end Select

namespace Select

theorem limitDigits?_decimalText (limit : Nat) {closing : List Char}
    (stops : ∀ c cs, closing = c :: cs → isDecimalDigit c = false)
    (closed : closes closing = true) :
    limitDigits? ([' ', 'L', 'I', 'M', 'I', 'T', ' '] ++
        (Numeral.decimalText limit ++ closing)) =
      some (Numeral.decimalText limit) := by
  have areDigits : ∀ c ∈ Numeral.decimalText limit,
      isDecimalDigit c = true := fun c member =>
    isDecimalDigit_of_isDigit (Numeral.isDigit_of_mem_decimalText member)
  obtain ⟨taken, dropped⟩ := takeWhile_dropWhile_append areDigits stops
  obtain ⟨c, cs, digits, isDigit⟩ := Numeral.decimalText_head limit
  have nonempty : (Numeral.decimalText limit).isEmpty = false := by
    rw [digits]
    rfl
  have noBlank : skipBlanks (Numeral.decimalText limit ++ closing) =
      Numeral.decimalText limit ++ closing := by
    rw [digits, List.cons_append, skipBlanks_cons (isBlank_of_isDigit isDigit)]
  have gap : afterBlanks? ([' ', 'L', 'I', 'M', 'I', 'T', ' '] ++
      (Numeral.decimalText limit ++ closing)) =
      some (['L', 'I', 'M', 'I', 'T'] ++
        ' ' :: (Numeral.decimalText limit ++ closing)) := rfl
  have word : afterKeyword? ['l', 'i', 'm', 'i', 't']
      (['L', 'I', 'M', 'I', 'T'] ++
        ' ' :: (Numeral.decimalText limit ++ closing)) =
      some (' ' :: (Numeral.decimalText limit ++ closing)) := rfl
  have blank : afterBlanks? (' ' :: (Numeral.decimalText limit ++ closing)) =
      some (Numeral.decimalText limit ++ closing) := congrArg some noBlank
  simp only [limitDigits?, bind, gap, Option.bind_some, word, blank, taken,
    dropped, nonempty, closed]
  rfl

theorem ending?_renderedEnd (limit : Option Nat) (semicolon : Bool) :
    ending? (renderedEnd limit semicolon) =
      some (limit.map Numeral.decimalText) := by
  cases limit with
  | none => cases semicolon <;> rfl
  | some limit =>
      have stops : ∀ c cs, (if semicolon then [';'] else []) = c :: cs →
          isDecimalDigit c = false := by
        intro c cs same
        cases semicolon <;> cases same
        decide
      have closed : closes (if semicolon then [';'] else []) = true := by
        cases semicolon <;> rfl
      rw [renderedEnd, List.append_assoc, ending?,
        limitDigits?_decimalText limit stops closed]
      rfl

theorem renderedEnd_cases (limit : Option Nat) (semicolon : Bool) :
    (∀ c ∈ renderedEnd limit semicolon, isBlank c = false) ∨
      ∃ rest, renderedEnd limit semicolon = ' ' :: rest := by
  cases limit with
  | none =>
      left
      cases semicolon <;> simp [renderedEnd, isBlank]
  | some limit => exact .inr ⟨_, rfl⟩

theorem clauseAndEnding?_append {clause ending : List Char}
    {digits : Option (List Char)} (nonempty : clause ≠ [])
    (noEnd : ∀ part, part ≠ [] → part <:+ clause →
      ending? (part ++ ending) = none)
    (ends : ending? ending = some digits) :
    clauseAndEnding? (clause ++ ending) = some (clause, digits) := by
  induction clause with
  | nil => exact absurd rfl nonempty
  | cons c clause induction =>
      rw [List.cons_append, clauseAndEnding?]
      cases clause with
      | nil => rw [List.nil_append, ends]
      | cons d clause =>
          have isSuffix : d :: clause <:+ c :: d :: clause :=
            List.suffix_cons c _
          rw [noEnd _ (by simp) isSuffix]
          have rest := induction (by simp) fun part nonempty within =>
            noEnd part nonempty (within.trans isSuffix)
          simp only [rest, Option.map_some]

theorem isPlainKeyword_limit :
    Conjunction.IsPlainKeyword ['l', 'i', 'm', 'i', 't'] := by
  decide

/-- The word of a limit is all that stands before the next blank. -/
theorem eq_word_of_limit {token ending word after rest : List Char}
    (noBlank : ∀ c ∈ token, isBlank c = false)
    (spells : Spells ['l', 'i', 'm', 'i', 't'] word) (gap : after ∈ gaps)
    (setOff : (∀ c ∈ ending, isBlank c = false) ∨
      ∃ rest, ending = ' ' :: rest)
    (same : word ++ (after ++ rest) = token ++ ending) : word = token := by
  have inWord : ∀ c ∈ word, isBlank c = false := fun c member =>
    isBlank_of_mem_spells spells isPlainKeyword_limit.isBlank_eq_false member
  obtain ⟨blank, after, rfl⟩ := List.exists_cons_of_ne_nil gap.1
  have blankBehind : ∀ c ∈ (blank :: after ++ rest).head?,
      isBlank c = true := by
    rintro c ⟨⟩
    exact gap.2 blank List.mem_cons_self
  rcases setOff with noneInEnding | ⟨others, rfl⟩
  · have noneBehind : ∀ c ∈ token ++ ending, isBlank c = false :=
      fun c member =>
        (List.mem_append.mp member).elim (noBlank c) (noneInEnding c)
    have nothing : ∀ c ∈ ([] : List Char).head?, isBlank c = true := by simp
    have all := eq_of_append_eq_append inWord noneBehind blankBehind nothing
      (by rw [same, List.append_nil])
    rw [all] at same
    simp at same
  · refine eq_of_append_eq_append inWord noBlank blankBehind ?_ same
    rintro c ⟨⟩
    decide

theorem not_mem_closings_of_plainToken {token ending part : List Char}
    (plain : token ∈ plainTokens) (nonempty : part ≠ [])
    (isSuffix : part <:+ ' ' :: token) :
    part ++ ending ∉ Outline.closings := by
  intro closes
  obtain ⟨⟨tokenNonempty, areToken⟩, _, notSemicolon, _⟩ := plain
  have isLast := List.getLast_mem tokenNonempty
  have sameLast : part.getLast nonempty = token.getLast tokenNonempty := by
    rw [isSuffix.getLast nonempty, List.getLast_cons tokenNonempty]
  have inPart : token.getLast tokenNonempty ∈ part ++ ending :=
    sameLast ▸ List.mem_append_left _ (List.getLast_mem nonempty)
  rcases Outline.mem_closing closes _ inPart with blank | isSemicolon
  · rw [(areToken _ isLast).1] at blank
    cases blank
  · exact notSemicolon _ (List.getLast_mem_getLast? tokenNonempty) isSemicolon

/-- The word of a limit is no plain token, and the limit begins with a blank,
which a plain token does not hold. -/
theorem not_mem_limits_of_plainToken {token ending part numeral : List Char}
    (plain : token ∈ plainTokens)
    (setOff : (∀ c ∈ ending, isBlank c = false) ∨
      ∃ rest, ending = ' ' :: rest)
    (nonempty : part ≠ []) (isSuffix : part <:+ ' ' :: token) :
    part ++ ending ∉ Outline.limits (some numeral) * Outline.closings := by
  rintro ⟨_, ⟨before, ⟨beforeNonempty, blankBefore⟩, _, ⟨word, spells, _,
    ⟨after, gapAfter, _, rfl, rfl⟩, rfl⟩, rfl⟩, closing, _, whole⟩
  obtain ⟨⟨tokenNonempty, areToken⟩, _, _, notKeyword⟩ := plain
  have noBlank : ∀ c ∈ token, isBlank c = false := fun c member =>
    (areToken c member).1
  obtain ⟨b, before, rfl⟩ := List.exists_cons_of_ne_nil beforeNonempty
  obtain ⟨blankHead, blankMore⟩ := List.forall_mem_cons.mp blankBefore
  rcases List.suffix_cons_iff.mp isSuffix with rfl | inToken
  · obtain ⟨rfl, behind⟩ := List.cons.inj whole
    cases before with
    | nil =>
        have same := eq_word_of_limit noBlank spells gapAfter setOff
          (by simpa using behind)
        rw [same] at spells
        have isLimit :=
          (Conjunction.spells_iff_equalsIgnoringAsciiCase
            isPlainKeyword_limit).mp spells
        rw [notKeyword _ (by simp)] at isLimit
        cases isLimit
    | cons d before =>
        obtain ⟨c, token, rfl⟩ := List.exists_cons_of_ne_nil tokenNonempty
        obtain ⟨rfl, _⟩ := List.cons.inj behind
        have blank := blankMore d List.mem_cons_self
        rw [noBlank d List.mem_cons_self] at blank
        cases blank
  · obtain ⟨d, part, rfl⟩ := List.exists_cons_of_ne_nil nonempty
    obtain ⟨rfl, _⟩ := List.cons.inj whole
    rw [noBlank b (inToken.subset List.mem_cons_self)] at blankHead
    cases blankHead

/-- Neither a plain token nor the space in front of it belongs to an end. -/
theorem ending?_plainToken {token ending part : List Char}
    (plain : token ∈ plainTokens)
    (setOff : (∀ c ∈ ending, isBlank c = false) ∨
      ∃ rest, ending = ' ' :: rest)
    (nonempty : part ≠ []) (isSuffix : part <:+ ' ' :: token) :
    ending? (part ++ ending) = none := by
  cases read : ending? (part ++ ending) with
  | none => rfl
  | some digits =>
      obtain ⟨_, ends⟩ := ending?_eq_some read
      cases digits with
      | none =>
          rw [Outline.limits, one_mul] at ends
          exact absurd ends
            (not_mem_closings_of_plainToken plain nonempty isSuffix)
      | some numeral =>
          exact absurd ends
            (not_mem_limits_of_plainToken plain setOff nonempty isSuffix)

end Select

theorem Comparator.exists_last (comparator : Comparator) :
    ∃ front sign, IsSign sign ∧ comparator.symbol.toList = front ++ [sign] := by
  cases comparator with
  | equal => exact ⟨[], '=', .inl rfl, rfl⟩
  | different => exact ⟨['!'], '=', .inl rfl, rfl⟩
  | greater => exact ⟨[], '>', .inr (.inr (.inl rfl)), rfl⟩
  | atLeast => exact ⟨['>'], '=', .inl rfl, rfl⟩
  | less => exact ⟨[], '<', .inr (.inl rfl), rfl⟩
  | atMost => exact ⟨['<'], '=', .inl rfl, rfl⟩

/-- Behind the last sign of joined comparisons stands a literal. -/
theorem Comparison.exists_last_joined {comparisons : List Comparison}
    (nonempty : comparisons ≠ []) :
    ∃ comparison ∈ comparisons, ∃ front sign, IsSign sign ∧
      joined comparisons = front ++ sign :: ' ' :: comparison.literal := by
  induction comparisons with
  | nil => exact absurd rfl nonempty
  | cons comparison rest induction =>
      cases rest with
      | nil =>
          obtain ⟨front, sign, isSign, symbol⟩ :=
            comparison.comparator.exists_last
          exact ⟨comparison, by simp, comparison.field ++ ' ' :: front, sign,
            isSign, by simp [joined, rendered, symbol]⟩
      | cons other rest =>
          obtain ⟨last, member, front, sign, isSign, same⟩ :=
            induction (by simp)
          exact ⟨last, List.mem_cons_of_mem _ member, comparison.rendered ++
            (' ' :: 'A' :: 'N' :: 'D' :: ' ' :: front), sign, isSign,
            by simp [joined, same]⟩

namespace Select

theorem ending?_joined {comparisons : List Comparison}
    {ending part : List Char}
    (readable : ∀ comparison ∈ comparisons, comparison.Readable)
    (setOff : (∀ c ∈ ending, isBlank c = false) ∨
      ∃ rest, ending = ' ' :: rest)
    (nonempty : part ≠ [])
    (isSuffix : part <:+ Comparison.joined comparisons) :
    ending? (part ++ ending) = none := by
  have some : comparisons ≠ [] := by
    rintro rfl
    exact nonempty (List.suffix_nil.mp isSuffix)
  obtain ⟨comparison, member, front, sign, isSign, same⟩ :=
    Comparison.exists_last_joined some
  have noSign : sign ∈ part → ending? (part ++ ending) = none := fun inPart =>
    ending?_eq_none_of_mem (.inr isSign) (List.mem_append_left _ inPart)
  rw [same] at isSuffix
  rcases List.suffix_or_suffix_of_suffix isSuffix (List.suffix_append front _)
    with short | long
  · rcases List.suffix_cons_iff.mp short with rfl | behind
    · exact noSign List.mem_cons_self
    · rcases (readable comparison member).literal with quoted | plain
      · obtain ⟨mark, body, isMark, _, isQuoted⟩ := quoted
        have isLast : part.getLast nonempty = mark := by
          rw [behind.getLast nonempty]
          simp [isQuoted]
        refine ending?_eq_none_of_mem (.inl isMark)
          (List.mem_append_left _ ?_)
        rw [← isLast]
        exact List.getLast_mem nonempty
      · exact ending?_plainToken plain setOff nonempty behind
  · exact noSign (long.subset List.mem_cons_self)

end Select

end Polystore
