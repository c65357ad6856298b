import Polystore.Proofs.Json.Numbers
import Polystore.Proofs.Keyed

/-!
# Reading documents back

If every part of a document value is read as some tree, then the compact text
of the value is read as the trees put together.  The induction is on the value,
with one statement for the items of an array and one for the fields of an
object, and with twice the length of the text as a bound on the steps that
reading takes.  So the text of a plain value is read back as that value.  Floats
are not plain: which texts they have is a matter of their shortest digits.
-/

namespace Polystore

namespace Json

mutual

/-- A value without floats whose whole numbers fit a word and whose fields
are in order. -/
def Plain : Json → Prop
  | .null => True
  | .bool _ => True
  | .integer value =>
    -(Numeral.maxSigned + 1 : Int) ≤ value ∧ value ≤ Numeral.maxUnsigned
  | .float _ => False
  | .string _ => True
  | .array items => PlainItems items
  | .object fields => Keyed.Ordered fields ∧ PlainFields fields

def PlainItems : List Json → Prop
  | [] => True
  | item :: items => Plain item ∧ PlainItems items

def PlainFields : List (String × Json) → Prop
  | [] => True
  | (_, value) :: fields => Plain value ∧ PlainFields fields

end

mutual

/-- How deep arrays and objects are nested in a value. -/
def levels : Json → Nat
  | .array items => levelsOfItems items + 1
  | .object fields => levelsOfFields fields + 1
  | _ => 0

def levelsOfItems : List Json → Nat
  | [] => 0
  | item :: items => max (levels item) (levelsOfItems items)

def levelsOfFields : List (String × Json) → Nat
  | [] => 0
  | (_, value) :: fields => max (levels value) (levelsOfFields fields)

end

/-- The comma in front of a part that is not the first one. -/
def leadingComma : Bool → List Char
  | true => []
  | false => [',']

/-- Texts with a comma in front of each, that of the first one left out when
nothing comes before it. -/
def commaLed : Bool → List (List Char) → List Char
  | _, [] => []
  | first, text :: rest => leadingComma first ++ (text ++ commaLed false rest)

theorem commaLed_true (texts : List (List Char)) :
    commaLed true texts = commaSeparated texts := by
  cases texts with
  | nil => rfl
  | cons text rest =>
      rw [commaLed, leadingComma, List.nil_append]
      induction rest generalizing text with
      | nil => simp [commaSeparated, commaLed]
      | cons next rest induction =>
          simp [commaSeparated, commaLed, leadingComma, ← induction next]

end Json

namespace Reading

open Json

theorem value_integer (strict : Bool) (depth steps : Nat) {n : Int}
    (plain : Plain (.integer n)) {rest : List Char}
    (delimited : Delimited rest) :
    value strict depth (steps + 1) (chars (.integer n) ++ rest) =
      .ok (.integer n, rest) := by
  obtain ⟨notBelow, notAbove⟩ := plain
  have large : (Numeral.maxSigned : Int) + 1 ≤ Numeral.maxUnsigned := by decide
  have fits : n.natAbs ≤ Numeral.maxUnsigned := by omega
  rw [chars_integer, value_signed strict depth steps _
    (isMagnitude_decimalText n.natAbs),
    number_decimalText strict _ fits delimited]
  by_cases negative : n < 0
  · have notZero : ¬n.natAbs = 0 := by omega
    have notBeyond : ¬n.natAbs > Numeral.maxSigned + 1 := by omega
    have value : -(n.natAbs : Int) = n := by omega
    simp only [wholeNumber, negative, decide_true, Bool.not_true,
      Bool.false_eq_true, if_false, Bool.or_eq_true, beq_iff_eq,
      decide_eq_true_eq, notZero, notBeyond, or_self, value]
  · have value : (n.natAbs : Int) = n := by omega
    simp only [wholeNumber, negative, decide_false, Bool.not_false, if_true,
      value]

theorem value_string (strict : Bool) (depth steps : Nat) (text : String)
    (rest : List Char) :
    value strict depth (steps + 1) (quoted text ++ rest) =
      .ok (.string text, rest) := by
  have opened : quoted text ++ rest =
      '"' :: (text.toList.flatMap escaped ++ '"' :: rest) := by
    simp [quoted]
  rw [opened, value, skip_cons (by decide : isSeparator '"' = false)]
  simp only [string_quoted, bind, Except.bind, pure, Except.pure,
    Option.elim_some]

theorem value_array (strict : Bool) (depth steps : Nat) (list : List Json)
    (rest : List Char) :
    value strict depth (steps + 1) ((Json.array list).chars ++ rest) =
      if strict && decide (depth ≤ 1) then
        stopAt .tooDeep ((Json.array list).chars ++ rest)
      else (do
        let (trees, rest) ← items strict (depth - 1) true steps
          (commaLed true (itemChars list) ++ ']' :: rest)
        return (.array trees, rest)) := by
  have opened : (Json.array list).chars ++ rest =
      '[' :: (commaLed true (itemChars list) ++ ']' :: rest) := by
    simp [chars, commaLed_true]
  rw [opened, value, skip_cons (by decide : isSeparator '[' = false)]
  rfl

theorem value_object (strict : Bool) (depth steps : Nat)
    (list : List (String × Json)) (rest : List Char) :
    value strict depth (steps + 1) ((Json.object list).chars ++ rest) =
      if strict && decide (depth ≤ 1) then
        stopAt .tooDeep ((Json.object list).chars ++ rest)
      else (do
        let (trees, rest) ← fields strict (depth - 1) true steps
          (commaLed true (fieldChars list) ++ '\x7d' :: rest)
        return (.object trees, rest)) := by
  have opened : (Json.object list).chars ++ rest =
      '\x7b' :: (commaLed true (fieldChars list) ++ '\x7d' :: rest) := by
    simp [chars, commaLed_true]
  rw [opened, value, skip_cons (by decide : isSeparator '\x7b' = false)]
  rfl

theorem signed_head (negative : Bool) {text : List Char}
    (magnitude : IsMagnitude text) :
    ∃ c cs, signed negative text = c :: cs ∧ isSeparator c = false ∧
      c ≠ ']' := by
  cases negative with
  | true => exact ⟨'-', text, rfl, by decide, by decide⟩
  | false =>
      obtain ⟨c, cs, rfl, isDigit⟩ := isDigit_head_of_isMagnitude magnitude
      refine ⟨c, cs, rfl, isSeparator_of_isDigit isDigit, ?_⟩
      rintro rfl
      simp at isDigit

/-- Whatever a value begins with, it is neither blank nor a closing bracket. -/
theorem chars_head (value : Json) :
    ∃ c cs, value.chars = c :: cs ∧ isSeparator c = false ∧ c ≠ ']' := by
  cases value with
  | null => exact ⟨'n', ['u', 'l', 'l'], rfl, by decide, by decide⟩
  | bool truth =>
      cases truth with
      | false => exact ⟨'f', ['a', 'l', 's', 'e'], rfl, by decide, by decide⟩
      | true => exact ⟨'t', ['r', 'u', 'e'], rfl, by decide, by decide⟩
  | integer n =>
      rw [chars_integer]
      exact signed_head _ (isMagnitude_decimalText n.natAbs)
  | float value =>
      by_cases finite : value.isFinite = true
      · rw [chars_float finite]
        exact signed_head _ (isMagnitude_text _)
      · rw [chars, if_neg finite]
        exact ⟨'n', ['u', 'l', 'l'], rfl, by decide, by decide⟩
  | string text =>
      exact ⟨'"', _, by simp only [chars, quoted]; rfl, by decide, by decide⟩
  | array items =>
      exact ⟨'[', _, by simp only [chars]; rfl, by decide, by decide⟩
  | object fields =>
      exact ⟨'\x7b', _, by simp only [chars]; rfl, by decide, by decide⟩

theorem items_end (strict : Bool) (depth : Nat) (first : Bool) (steps : Nat)
    (rest : List Char) :
    items strict depth first (steps + 1) (']' :: rest) = .ok ([], rest) := by
  rw [items, skip_cons (by decide : isSeparator ']' = false)]
  rfl

theorem items_cons (strict : Bool) (depth : Nat) (first : Bool) (steps : Nat)
    {c : Char} (noSeparator : isSeparator c = false) (noEnd : c ≠ ']')
    (cs : List Char) :
    items strict depth first (steps + 1) (leadingComma first ++ c :: cs) =
      (do
        let (head, rest) ← value strict depth steps (c :: cs)
        let (tail, rest) ← items strict depth false steps rest
        return (head :: tail, rest)) := by
  cases first with
  | true =>
      rw [leadingComma, List.nil_append, items, skip_cons noSeparator]
      split
      · contradiction
      · rename_i same
        exact absurd (List.cons.inj same).1 noEnd
      · rename_i same
        cases same
        rfl
  | false =>
      rw [leadingComma, List.singleton_append, items,
        skip_cons (by decide : isSeparator ',' = false)]
      split
      · contradiction
      · rename_i same
        exact absurd (List.cons.inj same).1 (by decide)
      · rename_i same
        cases same
        simp only [Bool.false_eq_true, if_false, beq_self_eq_true, if_true,
          skip_cons noSeparator]
        split
        · contradiction
        · rename_i same
          exact absurd (List.cons.inj same).1 noEnd
        · rfl

theorem items_itemChars (strict : Bool) (depth : Nat) (first : Bool)
    (steps : Nat) (item : Json) (list : List Json) (rest : List Char) :
    items strict depth first (steps + 1)
        (commaLed first (itemChars (item :: list)) ++ ']' :: rest) = (do
      let (head, after) ← value strict depth steps
        (item.chars ++ (commaLed false (itemChars list) ++ ']' :: rest))
      let (tail, after) ← items strict depth false steps after
      return (head :: tail, after)) := by
  obtain ⟨c, cs, begins, noSeparator, noEnd⟩ := chars_head item
  have text : commaLed first (itemChars (item :: list)) ++ ']' :: rest =
      leadingComma first ++
        c :: (cs ++ (commaLed false (itemChars list) ++ ']' :: rest)) := by
    simp [commaLed, itemChars, begins]
  rw [text, items_cons strict depth first steps noSeparator noEnd, begins,
    List.cons_append]

theorem fields_end (strict : Bool) (depth : Nat) (first : Bool) (steps : Nat)
    (rest : List Char) :
    fields strict depth first (steps + 1) ('\x7d' :: rest) =
      .ok ([], rest) := by
  rw [fields, skip_cons (by decide : isSeparator '\x7d' = false)]
  rfl

theorem quoted_append (key : String) (cs : List Char) :
    quoted key ++ cs =
      '"' :: (key.toList.flatMap escaped ++ '"' :: cs) := by
  simp [quoted]

theorem fields_cons (strict : Bool) (depth : Nat) (first : Bool) (steps : Nat)
    (key : String) (cs : List Char) :
    fields strict depth first (steps + 1)
        (leadingComma first ++ (quoted key ++ ':' :: cs)) = (do
      let (head, rest) ← value strict depth steps cs
      let (tail, rest) ← fields strict depth false steps rest
      return ((some key, head) :: tail, rest)) := by
  have read := string_quoted strict key (':' :: cs)
  have noSeparator : isSeparator '"' = false := by decide
  rw [quoted_append]
  cases first with
  | true =>
      rw [leadingComma, List.nil_append, fields, skip_cons noSeparator]
      split
      · contradiction
      · rename_i same
        exact absurd (List.cons.inj same).1 (by decide)
      · rename_i same
        cases same
        simp [read, bind, Except.bind, colon,
          skip_cons (by decide : isSeparator ':' = false)]
  | false =>
      rw [leadingComma, List.singleton_append, fields,
        skip_cons (by decide : isSeparator ',' = false)]
      split
      · contradiction
      · rename_i same
        exact absurd (List.cons.inj same).1 (by decide)
      · rename_i same
        cases same
        simp [read, bind, Except.bind, colon, skip_cons noSeparator,
          skip_cons (by decide : isSeparator ':' = false)]

theorem fields_fieldChars (strict : Bool) (depth : Nat) (first : Bool)
    (steps : Nat) (key : String) (item : Json) (list : List (String × Json))
    (rest : List Char) :
    fields strict depth first (steps + 1)
        (commaLed first (fieldChars ((key, item) :: list)) ++ '\x7d' :: rest) =
      (do
        let (head, after) ← value strict depth steps
          (item.chars ++ (commaLed false (fieldChars list) ++ '\x7d' :: rest))
        let (tail, after) ← fields strict depth false steps after
        return ((some key, head) :: tail, after)) := by
  rw [← fields_cons strict depth first]
  simp [commaLed, fieldChars]

theorem delimited_commaLed (texts : List (List Char)) {c : Char}
    (closes : c ∈ [']', '\x7d']) (rest : List Char) :
    Delimited (commaLed false texts ++ c :: rest) := by
  cases texts with
  | nil => exact delimited_cons rest (List.mem_cons_of_mem _ closes)
  | cons text texts => exact delimited_cons _ (by simp)

theorem not_tooDeep {strict : Bool} {levels depth : Nat}
    (shallow : strict = true → levels < depth) (nested : 0 < levels) :
    (strict && decide (depth ≤ 1)) = false := by
  cases strict with
  | false => rfl
  | true =>
      have bound := shallow rfl
      have deep : ¬depth ≤ 1 := by omega
      simp [deep]

/-- A value without parts is read as this tree, in front of anything that ends
a number. -/
def ReadsLeaf (strict : Bool) (leaf : Json) (tree : Written) : Prop :=
  ∀ depth steps rest, Delimited rest →
    value strict depth (steps + 1) (leaf.chars ++ rest) = .ok (tree, rest)

mutual

/-- The text of a value is read as this tree. -/
def Reads (strict : Bool) : Json → Written → Prop
  | .null, tree => ReadsLeaf strict .null tree
  | .bool truth, tree => ReadsLeaf strict (.bool truth) tree
  | .integer n, tree => ReadsLeaf strict (.integer n) tree
  | .float number, tree => ReadsLeaf strict (.float number) tree
  | .string text, tree => ReadsLeaf strict (.string text) tree
  | .array items, tree =>
    ∃ trees, tree = .array trees ∧ ReadsItems strict items trees
  | .object fields, tree =>
    ∃ trees, tree = .object trees ∧ ReadsFields strict fields trees

/-- The texts of the items of an array are read as these trees. -/
def ReadsItems (strict : Bool) : List Json → List Written → Prop
  | [], trees => trees = []
  | item :: items, trees =>
    ∃ head tail, trees = head :: tail ∧ Reads strict item head ∧
      ReadsItems strict items tail

/-- The texts of the fields of an object are read as these trees. -/
def ReadsFields (strict : Bool) :
    List (String × Json) → List (Option String × Written) → Prop
  | [], trees => trees = []
  | (key, value) :: fields, trees =>
    ∃ head tail, trees = (some key, head) :: tail ∧ Reads strict value head ∧
      ReadsFields strict fields tail

end

theorem readsLeaf_null (strict : Bool) :
    ReadsLeaf strict .null .null :=
  fun _ _ _ _ => rfl

theorem readsLeaf_bool (strict truth : Bool) :
    ReadsLeaf strict (.bool truth) (.bool truth) := by
  intro depth steps rest delimited
  cases truth <;> rfl

theorem readsLeaf_string (strict : Bool) (text : String) :
    ReadsLeaf strict (.string text) (.string text) :=
  fun depth steps rest _ => value_string strict depth steps text rest

theorem reads_bool (strict truth : Bool) :
    Reads strict (.bool truth) (.bool truth) := by
  rw [Reads]
  exact readsLeaf_bool strict truth

theorem reads_string (strict : Bool) (text : String) :
    Reads strict (.string text) (.string text) := by
  rw [Reads]
  exact readsLeaf_string strict text

theorem ReadsFields.object {strict : Bool} {fields : List (String × Json)}
    {trees : List (Option String × Written)}
    (reads : ReadsFields strict fields trees) :
    Reads strict (.object fields) (.object trees) := by
  rw [Reads]
  exact ⟨trees, rfl, reads⟩

theorem readsFields_nil (strict : Bool) : ReadsFields strict [] [] := by
  rw [ReadsFields]

theorem ReadsFields.cons {strict : Bool} {value : Json} {tree : Written}
    {fields : List (String × Json)} {trees : List (Option String × Written)}
    (key : String) (reads : Reads strict value tree)
    (others : ReadsFields strict fields trees) :
    ReadsFields strict ((key, value) :: fields) ((some key, tree) :: trees) := by
  rw [ReadsFields]
  exact ⟨tree, trees, rfl, reads, others⟩

mutual

/-- A value is read in front of anything that ends a number. -/
theorem value_chars (strict : Bool) (json : Json) {tree : Written}
    (reads : Reads strict json tree) {depth : Nat}
    (shallow : strict = true → json.levels < depth)
    {steps : Nat} (enough : 2 * json.chars.length ≤ steps)
    {rest : List Char} (delimited : Delimited rest) :
    value strict depth steps (json.chars ++ rest) = .ok (tree, rest) := by
  -- A list costs a step itself and one for each of its parts, which is why
  -- there are two steps for each character.
  obtain ⟨c, cs, begins, _, _⟩ := chars_head json
  obtain ⟨steps, rfl⟩ : ∃ fewer, steps = fewer + 1 := by
    rw [begins, List.length_cons] at enough
    exact ⟨steps - 1, by omega⟩
  cases json with
  | null | bool | integer | float | string =>
      simp only [Reads] at reads
      exact reads depth steps rest delimited
  | array list =>
      simp only [Reads] at reads
      obtain ⟨trees, rfl, readsItems⟩ := reads
      have inner : strict = true → levelsOfItems list < depth - 1 := by
        intro isStrict
        have bound := shallow isStrict
        simp only [levels] at bound
        omega
      have length : (Json.array list).chars.length =
          (commaLed true (itemChars list)).length + 2 := by
        simp [chars, commaLed_true]
      have read := items_chars strict true list readsItems inner
        (by omega : 2 * (commaLed true (itemChars list)).length + 1 ≤ steps)
        rest
      rw [value_array strict depth steps list rest,
        not_tooDeep shallow (by simp [levels]), read]
      rfl
  | object list =>
      simp only [Reads] at reads
      obtain ⟨trees, rfl, readsFields⟩ := reads
      have inner : strict = true → levelsOfFields list < depth - 1 := by
        intro isStrict
        have bound := shallow isStrict
        simp only [levels] at bound
        omega
      have length : (Json.object list).chars.length =
          (commaLed true (fieldChars list)).length + 2 := by
        simp [chars, commaLed_true]
      have read := fields_chars strict true list readsFields inner
        (by omega : 2 * (commaLed true (fieldChars list)).length + 1 ≤ steps)
        rest
      rw [value_object strict depth steps list rest,
        not_tooDeep shallow (by simp [levels]), read]
      rfl

/-- The items of an array, or those behind the first one, are read up to its
end. -/
theorem items_chars (strict first : Bool) (list : List Json)
    {trees : List Written} (reads : ReadsItems strict list trees) {depth : Nat}
    (shallow : strict = true → levelsOfItems list < depth) {steps : Nat}
    (enough : 2 * (commaLed first (itemChars list)).length + 1 ≤ steps)
    (rest : List Char) :
    items strict depth first steps
        (commaLed first (itemChars list) ++ ']' :: rest) =
      .ok (trees, rest) := by
  obtain ⟨steps, rfl⟩ : ∃ fewer, steps = fewer + 1 := ⟨steps - 1, by omega⟩
  cases list with
  | nil =>
      simp only [ReadsItems] at reads
      rw [reads]
      exact items_end strict depth first steps rest
  | cons item list =>
      simp only [ReadsItems] at reads
      obtain ⟨itemTree, more, rfl, readsItem, readsList⟩ := reads
      obtain ⟨c, cs, begins, -, -⟩ := chars_head item
      let after := commaLed false (itemChars list) ++ ']' :: rest
      have length : item.chars.length +
          (commaLed false (itemChars list)).length ≤
            (commaLed first (itemChars (item :: list))).length := by
        simp [commaLed, itemChars]
      have nonempty : 0 < item.chars.length := by simp [begins]
      simp only [levelsOfItems] at shallow
      have head : value strict depth steps (item.chars ++ after) =
          .ok (itemTree, after) :=
        value_chars strict item readsItem
          (fun isStrict => by have bound := shallow isStrict; omega) (by omega)
          (delimited_commaLed (itemChars list) (by simp) rest)
      have tail : items strict depth false steps after = .ok (more, rest) :=
        items_chars strict false list readsList
          (fun isStrict => by have bound := shallow isStrict; omega)
          (by omega) rest
      rw [items_itemChars, head]
      simp only [bind, Except.bind, tail]
      rfl

theorem fields_chars (strict first : Bool) (list : List (String × Json))
    {trees : List (Option String × Written)}
    (reads : ReadsFields strict list trees) {depth : Nat}
    (shallow : strict = true → levelsOfFields list < depth) {steps : Nat}
    (enough : 2 * (commaLed first (fieldChars list)).length + 1 ≤ steps)
    (rest : List Char) :
    fields strict depth first steps
        (commaLed first (fieldChars list) ++ '\x7d' :: rest) =
      .ok (trees, rest) := by
  obtain ⟨steps, rfl⟩ : ∃ fewer, steps = fewer + 1 := ⟨steps - 1, by omega⟩
  cases list with
  | nil =>
      simp only [ReadsFields] at reads
      rw [reads]
      exact fields_end strict depth first steps rest
  | cons field list =>
      obtain ⟨key, item⟩ := field
      simp only [ReadsFields] at reads
      obtain ⟨itemTree, more, rfl, readsItem, readsList⟩ := reads
      let after := commaLed false (fieldChars list) ++ '\x7d' :: rest
      have length : item.chars.length +
          (commaLed false (fieldChars list)).length + 1 ≤
            (commaLed first (fieldChars ((key, item) :: list))).length := by
        simp only [commaLed, fieldChars, List.length_append, List.length_cons]
        omega
      simp only [levelsOfFields] at shallow
      have head : value strict depth steps (item.chars ++ after) =
          .ok (itemTree, after) :=
        value_chars strict item readsItem
          (fun isStrict => by have bound := shallow isStrict; omega) (by omega)
          (delimited_commaLed (fieldChars list) (by simp) rest)
      have tail : fields strict depth false steps after = .ok (more, rest) :=
        fields_chars strict false list readsList
          (fun isStrict => by have bound := shallow isStrict; omega)
          (by omega) rest
      rw [fields_fieldChars, head]
      simp only [bind, Except.bind, tail]
      rfl

end

mutual

/-- A plain value is read as the tree that it is written as. -/
theorem reads_written (strict : Bool) (json : Json) (plain : json.Plain) :
    Reads strict json json.written := by
  cases json with
  | null => exact readsLeaf_null strict
  | bool truth => exact readsLeaf_bool strict truth
  | integer n =>
      intro depth steps rest delimited
      exact value_integer strict depth steps plain delimited
  | float number => exact absurd plain (by simp [Plain])
  | string text => exact readsLeaf_string strict text
  | array items =>
      exact ⟨writtenItems items, rfl, readsItems_written strict items plain⟩
  | object fields =>
      exact ⟨writtenFields fields, rfl,
        readsFields_written strict fields plain.2⟩

theorem readsItems_written (strict : Bool) (items : List Json)
    (plain : PlainItems items) :
    ReadsItems strict items (writtenItems items) := by
  cases items with
  | nil => exact rfl
  | cons item items =>
      exact ⟨item.written, writtenItems items, rfl,
        reads_written strict item plain.1,
        readsItems_written strict items plain.2⟩

theorem readsFields_written (strict : Bool) (fields : List (String × Json))
    (plain : PlainFields fields) :
    ReadsFields strict fields (writtenFields fields) := by
  cases fields with
  | nil => exact rfl
  | cons field fields =>
      obtain ⟨key, item⟩ := field
      exact ⟨item.written, writtenFields fields, rfl,
        reads_written strict item plain.1,
        readsFields_written strict fields plain.2⟩

end

end Reading

namespace Json

mutual

theorem json_written (tree : Json) (plain : tree.Plain) :
    tree.written.json = tree := by
  cases tree with
  | null => rfl
  | bool value => rfl
  | integer value => rfl
  | float value => rfl
  | string value => rfl
  | array items =>
      have same := jsonItems_written items plain
      simp only [written, Written.json, same]
  | object fields =>
      have same := jsonFields_written fields plain.2
      simp only [written, Written.json, same,
        Keyed.ofList_of_ordered plain.1]

theorem jsonItems_written (items : List Json) (plain : PlainItems items) :
    Written.jsonItems (writtenItems items) = items := by
  cases items with
  | nil => rfl
  | cons item items =>
      have head := json_written item plain.1
      have tail := jsonItems_written items plain.2
      simp only [writtenItems, Written.jsonItems, head, tail]

theorem jsonFields_written (fields : List (String × Json))
    (plain : PlainFields fields) :
    Written.jsonFields (writtenFields fields) = fields := by
  cases fields with
  | nil => rfl
  | cons field fields =>
      obtain ⟨key, item⟩ := field
      have head := json_written item plain.1
      have tail := jsonFields_written fields plain.2
      simp only [writtenFields, Written.jsonFields, head, tail,
        Option.getD_some]

end

/-- A value that is not nested too deep is what its text is read as. -/
theorem read_text_of_reads {value : Json} {tree : Written}
    (reads : Reading.Reads true value tree) (shallow : value.levels < 128) :
    Json.read value.text = .ok tree.json := by
  have read := Reading.value_chars true value reads (fun _ => shallow)
    (by omega : 2 * value.chars.length ≤ 2 * value.chars.length + 4)
    Reading.delimited_nil
  rw [List.append_nil] at read
  have whole : Reading.document true value.chars = .ok tree := by
    simp only [Reading.document, read, bind, Except.bind]
    rfl
  rw [Json.read, text, String.toList_ofList, whole]
  rfl

/-- A plain value that is not nested too deep reads back from its text. -/
theorem read_text {tree : Json} (plain : tree.Plain)
    (shallow : tree.levels < 128) : Json.read tree.text = .ok tree := by
  rw [read_text_of_reads (Reading.reads_written true tree plain) shallow,
    json_written tree plain]

end Json

end Polystore
