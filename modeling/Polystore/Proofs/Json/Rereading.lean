import Polystore.Proofs.Json.RoundTrip

/-!
# What is known of a value that reads back

A text that reads as a value need not show how it was read: floats may change,
and the fields of an object are put in order.  If the text was the compact one
of the value, though, then every part of it was read by itself, and if the
value came back, so did all of its parts.
-/

namespace Polystore

namespace Reading

open Json

theorem bind_eq_ok {ε α β : Type} {result : Except ε α}
    {next : α → Except ε β} {value : β}
    (success : result >>= next = .ok value) :
    ∃ first, result = .ok first ∧ next first = .ok value := by
  cases result with
  | error reason => cases success
  | ok first => exact ⟨first, rfl, success⟩

variable {strict : Bool} {depth steps : Nat} {rest left : List Char}
  {tree : Written}

theorem readsLeaf_of_settles {leaf : Json} {text : List Char}
    {reader : List Char → Attempt (Written × Rest)}
    (same : ∀ depth steps rest,
      value strict depth (steps + 1) (leaf.chars ++ rest) = reader (text ++ rest))
    (settles : Settles reader text) (delimited : Delimited rest)
    (read : value strict depth (steps + 1) (leaf.chars ++ rest) =
      .ok (tree, left)) :
    left = rest ∧ ReadsLeaf strict leaf tree := by
  rw [same] at read
  obtain ⟨ends, others⟩ := settles delimited read
  refine ⟨ends, ?_⟩
  intro depth steps other otherDelimited
  rw [same]
  exact others other otherDelimited

theorem readsLeaf_of_readsLeaf {leaf : Json} {known : Written}
    (reads : ReadsLeaf strict leaf known) (delimited : Delimited rest)
    (read : value strict depth (steps + 1) (leaf.chars ++ rest) =
      .ok (tree, left)) :
    left = rest ∧ ReadsLeaf strict leaf tree := by
  rw [reads depth steps rest delimited] at read
  cases read
  exact ⟨rfl, reads⟩

theorem readsLeaf_integer {n : Int} (delimited : Delimited rest)
    (read : value strict depth (steps + 1) ((Json.integer n).chars ++ rest) =
      .ok (tree, left)) :
    left = rest ∧ ReadsLeaf strict (.integer n) tree := by
  have magnitude := isMagnitude_decimalText n.natAbs
  have settles := settles_number strict (decide (n < 0)) magnitude
  apply readsLeaf_of_settles ?_ settles delimited read
  intro depth steps rest
  rw [chars_integer]
  exact value_signed strict depth steps _ magnitude rest

theorem readsLeaf_float {number : Float} (delimited : Delimited rest)
    (read : value strict depth (steps + 1) ((Json.float number).chars ++ rest) =
      .ok (tree, left)) :
    left = rest ∧ ReadsLeaf strict (.float number) tree := by
  by_cases finite : number.isFinite = true
  · have magnitude := isMagnitude_text (Numeral.Dyadic.ofFloat number).shortest
    have settles := settles_number strict (Numeral.isNegative number) magnitude
    apply readsLeaf_of_settles ?_ settles delimited read
    intro depth steps rest
    rw [chars_float finite]
    exact value_signed strict depth steps _ magnitude rest
  · have isNull : (Json.float number).chars = Json.null.chars := by
      simp [chars, finite]
    have reads : ReadsLeaf strict (.float number) .null := by
      intro depth steps rest delimited
      rw [isNull]
      exact readsLeaf_null strict depth steps rest delimited
    exact readsLeaf_of_readsLeaf reads delimited read

mutual

/-- If the text of a value is read, then so are the texts of its parts. -/
theorem reads_of_value (json : Json) {depth steps : Nat}
    {rest left : List Char} {tree : Written} (positive : 0 < depth)
    (delimited : Delimited rest)
    (read : value true depth steps (json.chars ++ rest) = .ok (tree, left)) :
    left = rest ∧ Reads true json tree ∧ json.levels < depth := by
  cases steps with
  | zero => cases read
  | succ steps =>
      cases json with
      | null =>
          obtain ⟨ends, reads⟩ :=
            readsLeaf_of_readsLeaf (readsLeaf_null true) delimited read
          exact ⟨ends, reads, positive⟩
      | bool truth =>
          obtain ⟨ends, reads⟩ :=
            readsLeaf_of_readsLeaf (readsLeaf_bool true truth) delimited read
          exact ⟨ends, reads, positive⟩
      | integer n =>
          obtain ⟨ends, reads⟩ := readsLeaf_integer delimited read
          exact ⟨ends, reads, positive⟩
      | float number =>
          obtain ⟨ends, reads⟩ := readsLeaf_float delimited read
          exact ⟨ends, reads, positive⟩
      | string text =>
          obtain ⟨ends, reads⟩ :=
            readsLeaf_of_readsLeaf (readsLeaf_string true text) delimited read
          exact ⟨ends, reads, positive⟩
      | array list =>
          rw [value_array] at read
          by_cases deep : depth ≤ 1
          · rw [if_pos (by simp [deep])] at read
            cases read
          · rw [if_neg (by simp [deep])] at read
            obtain ⟨⟨trees, after⟩, readItems, isTree⟩ := bind_eq_ok read
            cases isTree
            obtain ⟨ends, reads, levels⟩ :=
              reads_of_items list true (by omega) readItems
            refine ⟨ends, ⟨trees, rfl, reads⟩, ?_⟩
            simp only [Json.levels]
            omega
      | object list =>
          rw [value_object] at read
          by_cases deep : depth ≤ 1
          · rw [if_pos (by simp [deep])] at read
            cases read
          · rw [if_neg (by simp [deep])] at read
            obtain ⟨⟨trees, after⟩, readFields, isTree⟩ := bind_eq_ok read
            cases isTree
            obtain ⟨ends, reads, levels⟩ :=
              reads_of_fields list true (by omega) readFields
            refine ⟨ends, ⟨trees, rfl, reads⟩, ?_⟩
            simp only [Json.levels]
            omega

theorem reads_of_items (list : List Json) (first : Bool) {depth steps : Nat}
    {rest left : List Char} {trees : List Written} (positive : 0 < depth)
    (read : items true depth first steps
      (commaLed first (itemChars list) ++ ']' :: rest) = .ok (trees, left)) :
    left = rest ∧ ReadsItems true list trees ∧ levelsOfItems list < depth := by
  cases steps with
  | zero => cases read
  | succ steps =>
      cases list with
      | nil =>
          have ended := items_end true depth first steps rest
          simp only [itemChars, commaLed, List.nil_append, ended] at read
          cases read
          exact ⟨rfl, rfl, positive⟩
      | cons item list =>
          rw [items_itemChars] at read
          obtain ⟨⟨head, behind⟩, readHead, readTail⟩ := bind_eq_ok read
          obtain ⟨rfl, readsHead, levelsHead⟩ :=
            reads_of_value item positive
              (delimited_commaLed (itemChars list) (by simp) rest) readHead
          obtain ⟨⟨tail, last⟩, readTail, isTree⟩ := bind_eq_ok readTail
          cases isTree
          obtain ⟨ends, readsTail, levelsTail⟩ :=
            reads_of_items list false positive readTail
          exact ⟨ends, ⟨head, tail, rfl, readsHead, readsTail⟩,
            max_lt levelsHead levelsTail⟩

theorem reads_of_fields (list : List (String × Json)) (first : Bool)
    {depth steps : Nat} {rest left : List Char}
    {trees : List (Option String × Written)} (positive : 0 < depth)
    (read : fields true depth first steps
      (commaLed first (fieldChars list) ++ '\x7d' :: rest) =
        .ok (trees, left)) :
    left = rest ∧ ReadsFields true list trees ∧
      levelsOfFields list < depth := by
  cases steps with
  | zero => cases read
  | succ steps =>
      cases list with
      | nil =>
          have ended := fields_end true depth first steps rest
          simp only [fieldChars, commaLed, List.nil_append, ended] at read
          cases read
          exact ⟨rfl, rfl, positive⟩
      | cons field list =>
          obtain ⟨key, item⟩ := field
          rw [fields_fieldChars] at read
          obtain ⟨⟨head, behind⟩, readHead, readTail⟩ := bind_eq_ok read
          obtain ⟨rfl, readsHead, levelsHead⟩ :=
            reads_of_value item positive
              (delimited_commaLed (fieldChars list) (by simp) rest) readHead
          obtain ⟨⟨tail, last⟩, readTail, isTree⟩ := bind_eq_ok readTail
          cases isTree
          obtain ⟨ends, readsTail, levelsTail⟩ :=
            reads_of_fields list false positive readTail
          exact ⟨ends, ⟨head, tail, rfl, readsHead, readsTail⟩,
            max_lt levelsHead levelsTail⟩

end

end Reading

namespace Json

open Reading

mutual

/-- The fields of every object are in order. -/
def Sorted : Json → Prop
  | .null => True
  | .bool _ => True
  | .integer _ => True
  | .float _ => True
  | .string _ => True
  | .array items => SortedItems items
  | .object fields => Keyed.Ordered fields ∧ SortedFields fields

def SortedItems : List Json → Prop
  | [] => True
  | item :: items => Sorted item ∧ SortedItems items

def SortedFields : List (String × Json) → Prop
  | [] => True
  | (_, value) :: fields => Sorted value ∧ SortedFields fields

end

theorem tree_unique {leaf : Json} {tree known : Written}
    (reads : ReadsLeaf true leaf tree) (other : ReadsLeaf true leaf known) :
    tree = known := by
  have read := reads 0 0 [] delimited_nil
  rw [other 0 0 [] delimited_nil] at read
  cases read
  rfl

theorem keys_of_readsFields {fields : List (String × Json)}
    {trees : List (Option String × Written)}
    (reads : ReadsFields true fields trees) :
    (Written.jsonFields trees).map Prod.fst = fields.map Prod.fst := by
  induction fields generalizing trees with
  | nil =>
      simp only [ReadsFields] at reads
      rw [reads]
      rfl
  | cons field fields induction =>
      obtain ⟨key, value⟩ := field
      simp only [ReadsFields] at reads
      obtain ⟨head, tail, rfl, _, readsTail⟩ := reads
      simp only [Written.jsonFields, List.map_cons, induction readsTail,
        Option.getD_some]

theorem jsonFields_eq_of_ofList_eq {fields : List (String × Json)}
    {trees : List (Option String × Written)}
    (reads : ReadsFields true fields trees)
    (same : Keyed.ofList (Written.jsonFields trees) = fields) :
    Keyed.Ordered fields ∧ Written.jsonFields trees = fields := by
  have ordered : Keyed.Ordered fields := by
    rw [← same]
    exact Keyed.ordered_ofList _
  refine ⟨ordered, ?_⟩
  have ascends : ((Written.jsonFields trees).map Prod.fst).Pairwise (· < ·) := by
    rw [keys_of_readsFields reads]
    exact List.pairwise_map.mpr ordered
  have alreadyOrdered : Keyed.Ordered (Written.jsonFields trees) :=
    List.pairwise_map.mp ascends
  rwa [Keyed.ofList_of_ordered alreadyOrdered] at same

mutual

/-- A tree that a value is read as, and whose value it is, is the tree that the
value is written as. -/
theorem eq_written_of_reads (value : Json) {tree : Written}
    (reads : Reads true value tree) (same : tree.json = value) :
    tree = value.written ∧ value.Sorted := by
  cases value with
  | null => exact ⟨tree_unique reads (readsLeaf_null true), trivial⟩
  | bool truth => exact ⟨tree_unique reads (readsLeaf_bool true truth), trivial⟩
  | string text =>
      exact ⟨tree_unique reads (readsLeaf_string true text), trivial⟩
  | integer n =>
      cases tree with
      | integer other =>
          cases same
          exact ⟨rfl, trivial⟩
      | null | bool | float | string | unreadable | array | object => cases same
  | float number =>
      cases tree with
      | float other =>
          cases same
          exact ⟨rfl, trivial⟩
      | null | bool | integer | string | unreadable | array | object =>
          cases same
  | array items =>
      simp only [Reads] at reads
      obtain ⟨trees, rfl, readsItems⟩ := reads
      simp only [Written.json, Json.array.injEq] at same
      obtain ⟨isWritten, sorted⟩ := eq_writtenItems_of_reads items readsItems same
      exact ⟨congrArg Written.array isWritten, sorted⟩
  | object fields =>
      simp only [Reads] at reads
      obtain ⟨trees, rfl, readsFields⟩ := reads
      simp only [Written.json, Json.object.injEq] at same
      obtain ⟨ordered, sameFields⟩ := jsonFields_eq_of_ofList_eq readsFields same
      obtain ⟨isWritten, sorted⟩ :=
        eq_writtenFields_of_reads fields readsFields sameFields
      exact ⟨congrArg Written.object isWritten, ordered, sorted⟩

theorem eq_writtenItems_of_reads (items : List Json) {trees : List Written}
    (reads : ReadsItems true items trees)
    (same : Written.jsonItems trees = items) :
    trees = writtenItems items ∧ SortedItems items := by
  cases items with
  | nil => exact ⟨reads, trivial⟩
  | cons item items =>
      simp only [ReadsItems] at reads
      obtain ⟨head, tail, rfl, readsHead, readsTail⟩ := reads
      simp only [Written.jsonItems, List.cons.injEq] at same
      obtain ⟨isHead, sortedHead⟩ := eq_written_of_reads item readsHead same.1
      obtain ⟨isTail, sortedTail⟩ :=
        eq_writtenItems_of_reads items readsTail same.2
      refine ⟨?_, sortedHead, sortedTail⟩
      rw [isHead, isTail]
      rfl

theorem eq_writtenFields_of_reads (fields : List (String × Json))
    {trees : List (Option String × Written)}
    (reads : ReadsFields true fields trees)
    (same : Written.jsonFields trees = fields) :
    trees = writtenFields fields ∧ SortedFields fields := by
  cases fields with
  | nil => exact ⟨reads, trivial⟩
  | cons field fields =>
      obtain ⟨key, value⟩ := field
      simp only [ReadsFields] at reads
      obtain ⟨head, tail, rfl, readsHead, readsTail⟩ := reads
      simp only [Written.jsonFields, List.cons.injEq, Prod.mk.injEq] at same
      obtain ⟨isHead, sortedHead⟩ := eq_written_of_reads value readsHead same.1.2
      obtain ⟨isTail, sortedTail⟩ :=
        eq_writtenFields_of_reads fields readsTail same.2
      refine ⟨?_, sortedHead, sortedTail⟩
      rw [isHead, isTail]
      rfl

end

/-- Every part of a value that reads back from its text reads back from its
own, and the value is in order. -/
theorem reads_of_read_text {value : Json}
    (back : Json.read value.text = .ok value) :
    Reads true value value.written ∧ value.Sorted ∧ value.levels < 128 := by
  rw [Json.read, text, String.toList_ofList] at back
  cases isDocument : Reading.document true value.chars with
  | error fault =>
      rw [isDocument] at back
      cases back
  | ok tree =>
      rw [isDocument] at back
      have same : tree.json = value := by
        simpa [Except.map] using back
      obtain ⟨⟨other, left⟩, read, ends⟩ := Reading.bind_eq_ok isDocument
      have isTree : other = tree := by
        revert ends
        dsimp only
        split
        · intro ends
          cases ends
          rfl
        · intro ends
          cases ends
      have unended : value.chars = value.chars ++ [] :=
        (List.append_nil _).symm
      rw [unended] at read
      obtain ⟨-, reads, levels⟩ :=
        reads_of_value value (by decide) delimited_nil read
      rw [isTree] at reads
      obtain ⟨isWritten, sorted⟩ := eq_written_of_reads value reads same
      rw [isWritten] at reads
      exact ⟨reads, sorted, levels⟩

end Json

end Polystore
