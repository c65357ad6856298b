import Mathlib.Computability.Language
import Polystore.Proofs.Text.Scanning
import Polystore.Query.Select

/-!
# The grammar of selections

A selection is written as

    SELECT * FROM name [WHERE comparison (AND comparison)*] [LIMIT digits]

with keywords in any case, blanks wherever words meet, and one semicolon at
the end if there is one.  The grammar leaves open what a literal is.  Written
well, it is one quoted text or one token; a literal that runs on holds all
that stands behind the comparator up to the next connective.
-/

namespace Polystore

namespace Grammar

open Text

/-- A run of blanks, which may be empty. -/
def blanks : Language Char := {text | ∀ c ∈ text, isBlank c = true}

def gaps : Language Char := {text | text ≠ [] ∧ text ∈ blanks}

/-- The spellings of a keyword that is given in small letters. -/
def keyword (letters : List Char) : Language Char :=
  {text | Spells letters text}

/-- The names of sources and fields. -/
def names : Language Char :=
  {text | text ≠ [] ∧ ∀ c ∈ text, isWord c = true}

/-- The digits of a limit, in any script. -/
def numerals : Language Char :=
  {text | text ≠ [] ∧ ∀ c ∈ text, isDecimalDigit c = true}

def IsMark (c : Char) : Prop := c = '\'' ∨ c = '"'

def IsBracket (c : Char) : Prop := c = '(' ∨ c = ')'

/-- A character that comparators are made of. -/
def IsSign (c : Char) : Prop := c = '=' ∨ c = '<' ∨ c = '>' ∨ c = '!'

/-- A text between two marks that does not hold the mark itself. -/
def quotations : Language Char :=
  {text | ∃ mark body, IsMark mark ∧ mark ∉ body ∧
    text = mark :: (body ++ [mark])}

/-- A run of characters without blanks, marks and brackets. -/
def tokens : Language Char :=
  {text | text ≠ [] ∧ ∀ c ∈ text,
    isBlank c = false ∧ ¬IsMark c ∧ ¬IsBracket c}

/-- A literal written well. -/
def literals : Language Char := quotations + tokens

/-- The text goes on with `and` or `or` as a word of its own. -/
def ConnectiveAhead (text : List Char) : Prop :=
  ∃ gap ∈ blanks,
    ∃ word ∈ keyword ['a', 'n', 'd'] + keyword ['o', 'r'],
      ∃ blank rest, isAsciiBlank blank = true ∧
        text = gap ++ (word ++ blank :: rest)

/-- A text in which nothing ends a condition: quotes are closed, and outside
of them there is no bracket and no connective. -/
inductive RunsOn : List Char → Prop where
  | nil : RunsOn []
  | quoted {mark : Char} {body rest : List Char} :
      IsMark mark → mark ∉ body → RunsOn rest →
      RunsOn (mark :: (body ++ mark :: rest))
  | blank {blank : Char} {rest : List Char} :
      isAsciiBlank blank = true → ¬ConnectiveAhead rest → RunsOn rest →
      RunsOn (blank :: rest)
  | plain {c : Char} {rest : List Char} :
      ¬IsMark c → ¬IsBracket c → isAsciiBlank c = false → RunsOn rest →
      RunsOn (c :: rest)

theorem ConnectiveAhead.append {text : List Char}
    (ahead : ConnectiveAhead text) (after : List Char) :
    ConnectiveAhead (text ++ after) := by
  obtain ⟨gap, areBlank, word, spells, blank, rest, isBlank, rfl⟩ := ahead
  exact ⟨gap, areBlank, word, spells, blank, rest ++ after, isBlank,
    by simp⟩

theorem append_cons_mem_gaps {before after : List Char} {blank : Char}
    (blankBefore : before ∈ blanks) (isBlank : Text.isBlank blank = true)
    (blankAfter : after ∈ blanks) : before ++ blank :: after ∈ gaps := by
  refine ⟨by simp, ?_⟩
  intro c member
  rcases List.mem_append.mp member with inBefore | inAfter
  · exact blankBefore c inBefore
  · rcases List.mem_cons.mp inAfter with rfl | inAfter
    · exact isBlank
    · exact blankAfter c inAfter

/-- Where a text begins with a blank, its first other character is behind a
gap. -/
theorem mem_gaps_of_head {lead rest : List Char} {c : Char}
    (blankLead : lead ∈ blanks) (noBlank : isBlank c = false)
    (begins : ∀ d ∈ (lead ++ c :: rest).head?, isAsciiBlank d = true) :
    lead ∈ gaps := by
  refine ⟨?_, blankLead⟩
  rintro rfl
  have blank := isBlank_of_isAsciiBlank (begins c rfl)
  rw [noBlank] at blank
  cases blank

theorem not_isMark_of_isBlank {c : Char} (blank : isBlank c = true) :
    ¬IsMark c := by
  rintro (rfl | rfl) <;> exact absurd blank (by decide)

theorem not_isMark_of_isWord {c : Char} (word : isWord c = true) :
    ¬IsMark c := by
  rintro (rfl | rfl) <;> exact absurd word (by decide)

theorem not_isMark_of_mem_symbol {c : Char} {comparator : Comparator}
    (member : c ∈ comparator.symbol.toList) : ¬IsMark c := by
  rintro (rfl | rfl) <;> cases comparator <;>
    exact absurd member (by decide)

theorem RunsOn.tail {c : Char} {text : List Char} (runs : RunsOn (c :: text))
    (notMark : ¬IsMark c) : RunsOn text := by
  generalize whole : c :: text = all at runs
  cases runs with
  | nil => cases whole
  | quoted isMark _ _ =>
      cases whole
      exact absurd isMark notMark
  | blank _ _ runs =>
      cases whole
      exact runs
  | plain _ _ _ runs =>
      cases whole
      exact runs

theorem RunsOn.of_append {start text : List Char}
    (runs : RunsOn (start ++ text)) (noMark : ∀ c ∈ start, ¬IsMark c) :
    RunsOn text := by
  induction start with
  | nil => exact runs
  | cons c start induction =>
      obtain ⟨notMark, others⟩ := List.forall_mem_cons.mp noMark
      exact induction (runs.tail notMark) others

theorem RunsOn.of_append_left {text after : List Char}
    (runs : RunsOn (text ++ after)) (noMark : ∀ c ∈ after, ¬IsMark c) :
    RunsOn text := by
  generalize whole : text ++ after = all at runs
  induction runs generalizing text with
  | nil =>
      rw [List.append_eq_nil_iff] at whole
      exact whole.1 ▸ .nil
  | @quoted mark body rest isMark absent _ induction =>
      cases text with
      | nil =>
          rw [List.nil_append] at whole
          exact absurd isMark (noMark mark (by simp [whole]))
      | cons c text =>
          obtain ⟨rfl, inner⟩ := List.cons.inj whole
          rcases List.append_eq_append_iff.mp inner with
            ⟨middle, _, isAfter⟩ | ⟨middle, rfl, isRest⟩
          · exact absurd isMark (noMark c (by simp [isAfter]))
          · cases middle with
            | nil =>
                rw [List.nil_append] at isRest
                exact absurd isMark (noMark c (by simp [← isRest]))
            | cons d middle =>
                obtain ⟨rfl, rfl⟩ := List.cons.inj isRest
                exact .quoted isMark absent (induction rfl)
  | @blank c rest isBlank noConnective _ induction =>
      cases text with
      | nil => exact .nil
      | cons d text =>
          obtain ⟨rfl, rfl⟩ := List.cons.inj whole
          exact .blank isBlank
            (fun ahead => noConnective (ahead.append after)) (induction rfl)
  | @plain c rest notMark notBracket notBlank _ induction =>
      cases text with
      | nil => exact .nil
      | cons d text =>
          obtain ⟨rfl, rfl⟩ := List.cons.inj whole
          exact .plain notMark notBracket notBlank (induction rfl)

/-- A literal that runs on up to where its condition ends. -/
def runningLiterals : Language Char :=
  {text | text ≠ [] ∧
    (∀ c ∈ text.head?, isBlank c = false ∧ ¬IsSign c) ∧
    (∀ c ∈ text.getLast?, isBlank c = false) ∧ RunsOn text}

end Grammar

open Grammar

/-- A condition as it is written. -/
structure Comparison where
  field : List Char
  comparator : Comparator
  literal : List Char

namespace Comparison

def texts (comparison : Comparison) : Language Char :=
  {comparison.field} *
    (blanks *
      ({comparison.comparator.symbol.toList} *
        (blanks * {comparison.literal})))

theorem mem_texts_iff {comparison : Comparison} {text : List Char} :
    text ∈ comparison.texts ↔
      ∃ before ∈ blanks, ∃ after ∈ blanks,
        text = comparison.field ++ (before ++
          (comparison.comparator.symbol.toList ++
            (after ++ comparison.literal))) := by
  constructor
  · rintro ⟨_, rfl, _, ⟨before, blankBefore, _, ⟨_, rfl, _,
      ⟨after, blankAfter, _, rfl, rfl⟩, rfl⟩, rfl⟩, rfl⟩
    exact ⟨before, blankBefore, after, blankAfter, rfl⟩
  · rintro ⟨before, blankBefore, after, blankAfter, rfl⟩
    exact Language.append_mem_mul rfl <|
      Language.append_mem_mul blankBefore <|
        Language.append_mem_mul rfl <| Language.append_mem_mul blankAfter rfl

def condition (comparison : Comparison) : Condition :=
  ⟨String.ofList comparison.field, comparison.comparator,
    Literal.ofChars comparison.literal⟩

/-- Names are compared with literals of a kind. -/
def Over (kind : Language Char) (comparison : Comparison) : Prop :=
  comparison.field ∈ names ∧ comparison.literal ∈ kind

/-- The texts of comparisons with `and` between them. -/
def conjunctions : List Comparison → Language Char
  | [] => 0
  | [comparison] => comparison.texts
  | comparison :: rest =>
    comparison.texts *
      (gaps * (keyword ['a', 'n', 'd'] * (gaps * conjunctions rest)))

end Comparison

/-- A selection as it is written. -/
structure Outline where
  source : List Char
  comparisons : List Comparison
  digits : Option (List Char)

namespace Outline

/-- The part of a statement that names the source. -/
def headings (source : List Char) : Language Char :=
  blanks * (keyword ['s', 'e', 'l', 'e', 'c', 't'] *
    (gaps * ({['*']} *
      (gaps * (keyword ['f', 'r', 'o', 'm'] * (gaps * {source}))))))

/-- The clause with the comparisons, where there are some. -/
def clauses : List Comparison → Language Char
  | [] => 1
  | comparisons =>
    gaps * (keyword ['w', 'h', 'e', 'r', 'e'] *
      (gaps * Comparison.conjunctions comparisons))

def limits : Option (List Char) → Language Char
  | none => 1
  | some digits =>
    gaps * (keyword ['l', 'i', 'm', 'i', 't'] * (gaps * {digits}))

def closings : Language Char := blanks * ((1 + {[';']}) * blanks)

def texts (outline : Outline) : Language Char :=
  headings outline.source *
    (clauses outline.comparisons * (limits outline.digits * closings))

/-- The outline is made of names, digits, and literals of a kind. -/
structure Over (kind : Language Char) (outline : Outline) : Prop where
  source : outline.source ∈ names
  comparisons : ∀ comparison ∈ outline.comparisons, comparison.Over kind
  digits : ∀ digits, outline.digits = some digits → digits ∈ numerals

/-- The selection that an outline denotes, when its limit fits a word. -/
def Denotes (outline : Outline) (select : Select) : Prop :=
  select.source = String.ofList outline.source ∧
    select.conditions = outline.comparisons.map Comparison.condition ∧
    Select.limitOf outline.digits = .ok select.limit

end Outline

end Polystore
