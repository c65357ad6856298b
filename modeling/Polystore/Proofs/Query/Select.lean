import Polystore.Proofs.Query.DocumentFilter
import Polystore.Proofs.Text.Scanning

/-!
# What a parsed selection is like

The source of a selection is a name, its limit fits a word, and its literals
stand in documents as they are.
-/

namespace Polystore

namespace Literal

theorem exact_of_number?_eq_some {cs : List Char} {literal : Literal}
    (read : number? cs = some literal) : literal.Exact := by
  unfold number? at read
  split at read
  · cases read
    trivial
  · split at read
    · rename_i value _
      by_cases finite : value.isFinite = true
      · rw [if_pos finite] at read
        cases read
        exact finite
      · rw [if_neg finite] at read
        cases read
    · cases read

theorem exact_of_truth?_eq_some {cs : List Char} {literal : Literal}
    (read : truth? cs = some literal) : literal.Exact := by
  unfold truth? at read
  split at read
  · cases read
    trivial
  · split at read
    · cases read
      trivial
    · cases read

theorem exact_ofChars (cs : List Char) : (ofChars cs).Exact := by
  unfold ofChars
  simp only
  split
  · trivial
  · cases number : number? (Text.trim cs) with
    | some literal => exact exact_of_number?_eq_some number
    | none =>
        cases truth : truth? (Text.trim cs) with
        | some literal => exact exact_of_truth?_eq_some truth
        | none => trivial

end Literal

namespace Select

theorem head?_eq_some {cs source rest : List Char}
    (read : head? cs = some (source, rest)) :
    source ≠ [] ∧ ∀ c ∈ source, Text.isWord c = true := by
  simp only [head?, Option.bind_eq_bind, Option.bind_eq_some_iff] at read
  obtain ⟨_, _, _, _, _, _, _, _, _, _, _, _, isName⟩ := read
  exact Text.name?_eq_some isName

theorem parts?_eq_some {cs source : List Char}
    {clause digits : Option (List Char)}
    (read : parts? cs = some (source, clause, digits)) :
    source ≠ [] ∧ ∀ c ∈ source, Text.isWord c = true := by
  simp only [parts?, Option.bind_eq_bind, Option.bind_eq_some_iff] at read
  obtain ⟨⟨name, rest⟩, isHead, isRest⟩ := read
  have sameName : name = source := by
    simp only at isRest
    split at isRest
    · cases isRest
      rfl
    · obtain ⟨_, _, same⟩ := Option.map_eq_some_iff.mp isRest
      cases same
      rfl
  exact sameName ▸ head?_eq_some isHead

theorem mapM_cons_eq_ok {ε α β : Type} {f : α → Except ε β} {item : α}
    {items : List α} {results : List β}
    (read : (item :: items).mapM f = .ok results) :
    ∃ first others, f item = .ok first ∧ items.mapM f = .ok others ∧
      results = first :: others := by
  rw [List.mapM_cons] at read
  cases first : f item with
  | error reason => simp [first, bind, Except.bind] at read
  | ok head =>
      cases others : items.mapM f with
      | error reason => simp [first, others, bind, Except.bind] at read
      | ok tail =>
          simp only [first, others, bind, Except.bind, pure, Except.pure,
            Except.ok.injEq] at read
          exact ⟨head, tail, rfl, rfl, read.symm⟩

theorem mem_of_mapM_eq_ok {ε α β : Type} {f : α → Except ε β}
    {items : List α} {results : List β} (read : items.mapM f = .ok results)
    {result : β} (member : result ∈ results) :
    ∃ item ∈ items, f item = .ok result := by
  induction items generalizing results with
  | nil =>
      cases read
      cases member
  | cons item items induction =>
      obtain ⟨first, others, isFirst, areOthers, rfl⟩ := mapM_cons_eq_ok read
      rcases List.mem_cons.mp member with isHead | inTail
      · exact ⟨item, List.mem_cons_self, isHead ▸ isFirst⟩
      · obtain ⟨other, otherMember, same⟩ := induction areOthers inTail
        exact ⟨other, List.mem_cons_of_mem _ otherMember, same⟩

theorem condition_exact {cs : List Char} {result : Condition}
    (read : condition cs = .ok result) : result.value.Exact := by
  unfold condition at read
  split at read
  · rename_i spelled
    cases read
    simp only [Condition.ofChars?, Option.bind_eq_bind,
      Option.bind_eq_some_iff] at spelled
    obtain ⟨_, _, _, _, isCondition⟩ := spelled
    split at isCondition
    · cases isCondition
      exact Literal.exact_ofChars _
    · cases isCondition
  · cases read

theorem exists_split {clause : List Char} {conditions : List Condition}
    (read : conditionsOf (some clause) = .ok conditions) :
    ∃ texts, Conjunction.split clause = .ok texts ∧
      texts.mapM condition = .ok conditions := by
  cases parts : Conjunction.split clause with
  | error reason => simp [conditionsOf, parts, bind, Except.bind] at read
  | ok texts =>
      simp only [conditionsOf, parts, bind, Except.bind] at read
      exact ⟨texts, rfl, read⟩

theorem conditionsOf_exact {clause : Option (List Char)}
    {conditions : List Condition} (read : conditionsOf clause = .ok conditions) :
    ∀ condition ∈ conditions, condition.value.Exact := by
  intro condition member
  cases clause with
  | none =>
      cases read
      cases member
  | some clause =>
      obtain ⟨texts, _, areConditions⟩ := exists_split read
      obtain ⟨text, _, spelled⟩ := mem_of_mapM_eq_ok areConditions member
      exact condition_exact spelled

theorem limitOf_le {digits : Option (List Char)} {limit : Nat}
    (read : limitOf digits = .ok (some limit)) :
    limit ≤ Numeral.maxUnsigned := by
  cases digits with
  | none => cases read
  | some digits =>
      simp only [limitOf] at read
      split at read
      · rename_i value isValue
        cases read
        exact Numeral.le_of_unsigned?_eq_ok isValue
      · cases read

/-- What a selection that was parsed is like. -/
structure Parsed (select : Select) : Prop where
  nonempty : select.source.toList ≠ []
  areWord : ∀ c ∈ select.source.toList, Text.isWord c = true
  exact : ∀ condition ∈ select.conditions, condition.value.Exact
  limit : ∀ limit, select.limit = some limit → limit ≤ Numeral.maxUnsigned

theorem parse_eq_ok {query : String} {select : Select}
    (read : parse query = .ok select) :
    ∃ source clause digits,
      parts? query.toList = some (source, clause, digits) ∧
      select.source = String.ofList source ∧
      conditionsOf clause = .ok select.conditions ∧
      limitOf digits = .ok select.limit := by
  unfold parse ofChars at read
  split at read
  · cases read
  · rename_i source clause digits isParts
    cases conditions : conditionsOf clause with
    | error reason => simp [conditions, bind, Except.bind] at read
    | ok list =>
        cases limits : limitOf digits with
        | error reason => simp [conditions, limits, bind, Except.bind] at read
        | ok limit =>
            simp only [conditions, limits, bind, Except.bind, pure,
              Except.pure, Except.ok.injEq] at read
            subst read
            exact ⟨source, clause, digits, isParts, rfl, conditions, limits⟩

theorem parsed_of_parse {query : String} {select : Select}
    (read : parse query = .ok select) : select.Parsed := by
  obtain ⟨source, clause, digits, isParts, isSource, conditions, limits⟩ :=
    parse_eq_ok read
  obtain ⟨nonempty, areWord⟩ := parts?_eq_some isParts
  exact {
    nonempty := by simpa [isSource] using nonempty
    areWord := by simpa [isSource] using areWord
    exact := conditionsOf_exact conditions
    limit := fun value isLimit => limitOf_le (isLimit ▸ limits) }

end Select

end Polystore
