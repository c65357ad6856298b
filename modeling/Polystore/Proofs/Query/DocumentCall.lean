import Polystore.Proofs.Json.RoundTrip
import Polystore.Proofs.Text.Scanning
import Polystore.Query.DocumentCall

/-!
# Calls that are read back

A call is cut at the first closing bracket behind which nothing stands but an
end of the call.  A filter may hold such brackets, and even a limit, within
its texts.  No end of a call holds a closing brace, though, and a filter ends
with one, so the call is cut behind the whole filter.
-/

namespace Polystore

open Text

theorem Select.not_mem_of_closes {cs : List Char}
    (closes : Select.closes cs = true) : '\x7d' ∉ cs := by
  apply not_mem_of_not_mem_dropWhile (p := isBlank) (by decide)
  unfold Select.closes skipBlanks at closes
  split at closes
  · rename_i nothing
    simp [nothing]
  · rename_i c rest split
    rw [split]
    simp only [Bool.and_eq_true, beq_iff_eq] at closes
    obtain ⟨isSemicolon, nothing⟩ := closes
    rw [List.mem_cons, not_or]
    refine ⟨by rw [isSemicolon]; decide, ?_⟩
    apply not_mem_of_not_mem_dropWhile (p := isBlank) (by decide)
    rw [List.isEmpty_iff] at nothing
    rw [nothing]
    simp

namespace DocumentCall

theorem not_mem_of_not_mem_skipBlanks {cs : List Char}
    (absent : '\x7d' ∉ skipBlanks cs) : '\x7d' ∉ cs :=
  not_mem_of_not_mem_dropWhile (p := isBlank) (by decide) absent

theorem not_mem_of_limitDigits? {cs digits : List Char}
    (read : limitDigits? cs = some digits) : '\x7d' ∉ cs := by
  simp only [limitDigits?, Option.bind_eq_bind, Option.bind_eq_some_iff]
    at read
  obtain ⟨afterName, isName, afterOpening, isOpening, afterClosing, isClosing,
    ends⟩ := read
  have closes : Select.closes afterClosing = true := by
    by_contra open_
    simp [open_] at ends
  have behindDigits := not_mem_of_not_mem_skipBlanks
    (not_mem_of_after?_eq_some isClosing (by decide)
      (Select.not_mem_of_closes closes))
  have behindOpening := not_mem_of_not_mem_skipBlanks
    (not_mem_of_not_mem_dropWhile (p := isDecimalDigit) (by decide)
      behindDigits)
  have behindName := not_mem_of_not_mem_skipBlanks
    (not_mem_of_after?_eq_some isOpening (by decide) behindOpening)
  exact not_mem_of_not_mem_skipBlanks
    (not_mem_of_after?_eq_some isName (by decide) behindName)

theorem not_mem_of_ending? {cs : List Char} {limit : Option (List Char)}
    (read : ending? cs = some limit) : '\x7d' ∉ cs := by
  simp only [ending?, Option.bind_eq_bind, Option.bind_eq_some_iff] at read
  obtain ⟨rest, isClosing, ends⟩ := read
  have behindBracket : '\x7d' ∉ rest := by
    cases digits : limitDigits? rest with
    | some _ => exact not_mem_of_limitDigits? digits
    | none =>
        simp only [digits] at ends
        apply Select.not_mem_of_closes
        by_contra notClosed
        simp [notClosed] at ends
  exact not_mem_of_not_mem_skipBlanks
    (not_mem_of_after?_eq_some isClosing (by decide) behindBracket)

theorem filterAndEnding?_cons (c : Char) (cs : List Char) :
    filterAndEnding? (c :: cs) =
      match ending? (c :: cs) with
      | some limit => some ([], limit)
      | none =>
        (filterAndEnding? cs).map fun (filter, limit) =>
          (c :: filter, limit) := by
  rfl

theorem filterAndEnding?_ending {ending : List Char}
    {limit : Option (List Char)} (ends : ending? ending = some limit) :
    filterAndEnding? ending = some ([], limit) := by
  cases ending with
  | nil => cases ends
  | cons c cs => rw [filterAndEnding?_cons, ends]

/-- A text that ends with a brace is cut off from the end behind it. -/
theorem filterAndEnding?_append (front : List Char) {ending : List Char}
    {limit : Option (List Char)} (ends : ending? ending = some limit) :
    filterAndEnding? (front ++ '\x7d' :: ending) =
      some (front ++ ['\x7d'], limit) := by
  -- The search for an end goes past all that has this brace still ahead, even
  -- where a quoted text looks like an end.
  have noEnd : ∀ cs, ending? (cs ++ '\x7d' :: ending) = none := by
    intro cs
    cases read : ending? (cs ++ '\x7d' :: ending) with
    | none => rfl
    | some other =>
        have braceInside : '\x7d' ∈ cs ++ '\x7d' :: ending := by simp
        exact absurd braceInside (not_mem_of_ending? read)
  induction front with
  | nil =>
      have here := noEnd []
      rw [List.nil_append] at here ⊢
      rw [filterAndEnding?_cons, here]
      simp only [filterAndEnding?_ending ends, Option.map_some,
        List.nil_append]
  | cons c cs induction =>
      have here := noEnd (c :: cs)
      rw [List.cons_append] at here ⊢
      rw [filterAndEnding?_cons, here]
      simp only [induction, Option.map_some, List.cons_append]

/-- The end that a call is written with. -/
def endingOf : Option Nat → List Char
  | none => [')']
  | some limit =>
    [')', '.', 'l', 'i', 'm', 'i', 't', '('] ++
      (Numeral.decimalText limit ++ [')'])

theorem toList_render (collection : String) (filter : Json)
    (limit : Option Nat) :
    (render collection filter limit).toList =
      ['d', 'b'] ++ '.' :: (collection.toList ++
        (['.', 'f', 'i', 'n', 'd'] ++
          '(' :: (filter.chars ++ endingOf limit))) := by
  cases limit with
  | none => simp [render, Json.text, endingOf]
  | some limit => simp [render, Json.text, endingOf, Numeral.integerText]

theorem limitDigits?_decimalText (limit : Nat) :
    limitDigits? (['.', 'l', 'i', 'm', 'i', 't'] ++
        '(' :: (Numeral.decimalText limit ++ [')'])) =
      some (Numeral.decimalText limit) := by
  have areDigits : ∀ c ∈ Numeral.decimalText limit,
      isDecimalDigit c = true := fun c member =>
    isDecimalDigit_of_isDigit (Numeral.isDigit_of_mem_decimalText member)
  have stops : ∀ c cs, [')'] = c :: cs → isDecimalDigit c = false := by
    rintro c cs same
    cases same
    decide
  obtain ⟨taken, dropped⟩ := takeWhile_dropWhile_append areDigits stops
  have name : after? ['.', 'l', 'i', 'm', 'i', 't'] (skipBlanks
      (['.', 'l', 'i', 'm', 'i', 't'] ++
        '(' :: (Numeral.decimalText limit ++ [')']))) =
      some ('(' :: (Numeral.decimalText limit ++ [')'])) := rfl
  have opening : after? ['('] (skipBlanks
      ('(' :: (Numeral.decimalText limit ++ [')']))) =
      some (Numeral.decimalText limit ++ [')']) := rfl
  have closing : after? [')'] (skipBlanks [')']) = some [] := rfl
  obtain ⟨c, cs, digits, isDigit⟩ := Numeral.decimalText_head limit
  have noBlank : skipBlanks (Numeral.decimalText limit ++ [')']) =
      Numeral.decimalText limit ++ [')'] := by
    rw [digits, List.cons_append, skipBlanks_cons (isBlank_of_isDigit isDigit)]
  have nonempty : (Numeral.decimalText limit).isEmpty = false := by
    rw [digits]
    rfl
  simp only [limitDigits?, bind, name, Option.bind_some, opening, noBlank,
    taken, dropped, closing, nonempty]
  rfl

theorem ending?_endingOf (limit : Option Nat) :
    ending? (endingOf limit) = some (limit.map Numeral.decimalText) := by
  cases limit with
  | none => rfl
  | some limit =>
      have closing : after? [')'] (skipBlanks (endingOf (some limit))) =
          some (['.', 'l', 'i', 'm', 'i', 't'] ++
            '(' :: (Numeral.decimalText limit ++ [')'])) := rfl
      rw [ending?]
      simp only [bind, closing, Option.bind_some, limitDigits?_decimalText,
        Option.map_some]

theorem name?_database (cs : List Char) :
    name? (skipBlanks (['d', 'b'] ++ '.' :: cs)) =
      some (['d', 'b'], '.' :: cs) := by
  have noBlank : skipBlanks (['d', 'b'] ++ '.' :: cs) = ['d', 'b'] ++ '.' :: cs :=
    skipBlanks_cons (by decide) _
  rw [noBlank]
  refine name?_append (by decide) (List.all_eq_true.mp rfl) ?_
  rintro c rest same
  cases same
  decide

theorem name?_collection {source : List Char} (nonempty : source ≠ [])
    (areWord : ∀ c ∈ source, isWord c = true) (cs : List Char) :
    name? (source ++ '.' :: cs) = some (source, '.' :: cs) := by
  refine name?_append nonempty areWord ?_
  rintro c rest same
  cases same
  decide

theorem ofChars?_call {source : List Char} (rest : List Char)
    (nonempty : source ≠ []) (areWord : ∀ c ∈ source, isWord c = true) :
    ofChars? (['d', 'b'] ++ '.' :: (source ++
        (['.', 'f', 'i', 'n', 'd'] ++ '(' :: rest))) =
      (filterAndEnding? (skipBlanks rest)).map fun (filter, limit) =>
        ⟨String.ofList source, filter, limit⟩ := by
  have find : after? ['.', 'f', 'i', 'n', 'd']
      (['.', 'f', 'i', 'n', 'd'] ++ '(' :: rest) = some ('(' :: rest) := rfl
  have opening : after? ['('] (skipBlanks ('(' :: rest)) = some rest := rfl
  have name : name? (source ++ (['.', 'f', 'i', 'n', 'd'] ++ '(' :: rest)) =
      some (source, ['.', 'f', 'i', 'n', 'd'] ++ '(' :: rest) :=
    name?_collection nonempty areWord _
  generalize ['.', 'f', 'i', 'n', 'd'] ++ '(' :: rest = call at find name ⊢
  have point : after? ['.'] ('.' :: (source ++ call)) = some (source ++ call) :=
    rfl
  rw [ofChars?]
  simp only [bind, name?_database, Option.bind_some, point, name, find,
    opening, pure]
  cases filterAndEnding? (skipBlanks rest) <;> rfl

theorem ofChars?_render {collection : String} {fields : Row}
    (limit : Option Nat) (nonempty : collection.toList ≠ [])
    (areWord : ∀ c ∈ collection.toList, isWord c = true) :
    ofChars? (render collection (.object fields) limit).toList =
      some ⟨collection, (Json.object fields).chars,
        limit.map Numeral.decimalText⟩ := by
  have braces : (Json.object fields).chars =
      ('\x7b' :: Json.commaSeparated (Json.fieldChars fields)) ++ ['\x7d'] := by
    simp [Json.chars]
  have opened : skipBlanks ((Json.object fields).chars ++ endingOf limit) =
      (Json.object fields).chars ++ endingOf limit := by
    rw [braces]
    exact skipBlanks_cons (by decide) _
  have cut : filterAndEnding? ((Json.object fields).chars ++ endingOf limit) =
      some ((Json.object fields).chars, limit.map Numeral.decimalText) := by
    rw [braces, List.append_assoc]
    exact filterAndEnding?_append _ (ending?_endingOf limit)
  rw [toList_render, ofChars?_call _ nonempty areWord, opened, cut]
  simp

end DocumentCall

end Polystore
