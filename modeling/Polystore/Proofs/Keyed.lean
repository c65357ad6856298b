import Mathlib.Data.String.Basic
import Polystore.Keyed

/-!
# Laws of ordered entries

Setting a key changes the value of that key and of no other one, whatever the
order of the entries.  The order matters for what a map looks like: setting a
key keeps the keys ascending, so entries that ascend are rebuilt unchanged
when they are set one after the other.  Entries with keys of their own make the
same map in whatever order they are set.
-/

namespace Polystore

theorem lookup_of_perm {κ β : Type} [BEq κ] [LawfulBEq κ]
    {entries others : List (κ × β)} (perm : entries.Perm others)
    (distinct : (entries.map Prod.fst).Nodup) (key : κ) :
    entries.lookup key = others.lookup key := by
  induction perm with
  | nil => rfl
  | cons entry _ induction =>
      obtain ⟨place, value⟩ := entry
      rw [List.lookup_cons, List.lookup_cons,
        induction (List.nodup_cons.mp distinct).2]
  | swap first second rest =>
      obtain ⟨left, value⟩ := first
      obtain ⟨right, other⟩ := second
      have different : right ≠ left := fun same =>
        (List.nodup_cons.mp distinct).1 (same ▸ List.mem_cons_self)
      simp only [List.lookup_cons]
      by_cases isLeft : key = left
      · have notRight : (key == right) = false := by
          simpa [isLeft] using different.symm
        simp only [notRight]
      · have notLeft : (key == left) = false := by simpa using isLeft
        simp only [notLeft]
  | trans first _ former latter =>
      exact (former distinct).trans
        (latter ((first.map Prod.fst).nodup distinct))

theorem lookup_filterMap {κ β : Type} [DecidableEq κ] (value? : κ → Option β)
    (keys : List κ) (key : κ) :
    (keys.filterMap fun key => (value? key).map (key, ·)).lookup key =
      if key ∈ keys then value? key else none := by
  induction keys with
  | nil => rfl
  | cons first rest induction =>
      rw [List.filterMap_cons]
      by_cases isFirst : key = first
      · subst isFirst
        cases isValue : value? key with
        | none => simp [induction, isValue]
        | some value => simp
      · have passed : (key == first) = false := by simpa using isFirst
        cases value? first with
        | none => simp [induction, isFirst]
        | some value => simp [List.lookup_cons, passed, induction, isFirst]

theorem mapM_eq_some_iff {α β : Type} {f : α → Option β} {items : List α}
    {results : List β} :
    items.mapM f = some results ↔ items.map f = results.map some := by
  induction items generalizing results with
  | nil => cases results <;> simp
  | cons item items induction =>
      cases results with
      | nil =>
          rw [List.mapM_cons]
          cases f item <;> cases items.mapM f <;> simp
      | cons result results =>
          rw [List.mapM_cons, List.map_cons, List.map_cons, List.cons.injEq,
            ← induction]
          cases f item <;> cases items.mapM f <;> simp

namespace Keyed

variable {α β : Type}

@[simp] theorem get?_nil (key : String) :
    get? key ([] : Keyed α) = none := rfl

theorem get?_cons (key other : String) (value : α) (rest : Keyed α) :
    get? key ((other, value) :: rest) =
      if key = other then some value else get? key rest := by
  by_cases same : key = other
  · subst other
    simp [get?]
  · have different : (key == other) = false := by simpa using same
    simp [get?, List.lookup_cons, different, same]

theorem insert_of_lt {key current : String} (before : key < current)
    (value old : α) (rest : Keyed α) :
    insert key value ((current, old) :: rest) =
      (key, value) :: (current, old) :: rest := by
  rw [insert, if_pos before]

theorem insert_same (key : String) (value old : α) (rest : Keyed α) :
    insert key value ((key, old) :: rest) = (key, value) :: rest := by
  rw [insert, if_neg (lt_irrefl key), if_pos (by simp)]

theorem insert_of_gt {key current : String} (after : current < key)
    (value old : α) (rest : Keyed α) :
    insert key value ((current, old) :: rest) =
      (current, old) :: insert key value rest := by
  have different : key ≠ current := ne_of_gt after
  rw [insert, if_neg (lt_asymm after), if_neg (by simpa using different)]

theorem get?_insert (key other : String) (value : α) (entries : Keyed α) :
    get? other (insert key value entries) =
      if other = key then some value else get? other entries := by
  induction entries with
  | nil => simp [insert, get?_cons]
  | cons entry rest induction =>
      obtain ⟨current, old⟩ := entry
      rcases lt_trichotomy key current with before | same | after
      · rw [insert_of_lt before, get?_cons]
      · subst current
        rw [insert_same, get?_cons, get?_cons]
        split_ifs <;> rfl
      · rw [insert_of_gt after, get?_cons, get?_cons, induction]
        by_cases atCurrent : other = current
        · subst other
          simp [ne_of_lt after]
        · simp [atCurrent]

theorem insert_ne_nil (key : String) (value : α) (entries : Keyed α) :
    insert key value entries ≠ [] := by
  cases entries with
  | nil => simp [insert]
  | cons entry rest =>
      obtain ⟨current, old⟩ := entry
      rw [insert]
      split_ifs <;> simp

theorem get?_map (f : String → α → β) (key : String) (entries : Keyed α) :
    get? key (entries.map fun entry => (entry.1, f entry.1 entry.2)) =
      (get? key entries).map (f key) := by
  induction entries with
  | nil => rfl
  | cons entry rest induction =>
      obtain ⟨current, value⟩ := entry
      rw [List.map_cons, get?_cons, get?_cons, induction]
      by_cases same : key = current
      · subst current
        simp
      · simp [same]

theorem get?_mapValues (f : α → β) (key : String) (entries : Keyed α) :
    get? key (mapValues f entries) = (get? key entries).map f :=
  get?_map (fun _ => f) key entries

theorem mapValues_insert (f : α → β) (key : String) (value : α)
    (entries : Keyed α) :
    mapValues f (insert key value entries) =
      insert key (f value) (mapValues f entries) := by
  induction entries with
  | nil => rfl
  | cons entry rest induction =>
      obtain ⟨current, old⟩ := entry
      rw [mapValues, mapValues, List.map_cons]
      rcases lt_trichotomy key current with before | same | after
      · rw [insert_of_lt before, insert_of_lt before]
        rfl
      · subst current
        rw [insert_same, insert_same]
        rfl
      · rw [insert_of_gt after, insert_of_gt after, List.map_cons]
        exact congrArg _ induction

theorem mem_of_get?_eq_some {key : String} {value : α} {entries : Keyed α}
    (found : get? key entries = some value) : (key, value) ∈ entries := by
  obtain ⟨before, rest, split, _⟩ := List.lookup_eq_some_iff.mp found
  simp [split]

theorem insert_of_get?_eq_none {key : String} {entries : Keyed α}
    (absent : get? key entries = none) (value : α) :
    ∃ before after, entries = before ++ after ∧
      insert key value entries = before ++ (key, value) :: after := by
  induction entries with
  | nil => exact ⟨[], [], rfl, rfl⟩
  | cons entry rest induction =>
      obtain ⟨current, old⟩ := entry
      rw [get?_cons] at absent
      rcases lt_trichotomy key current with before | same | after
      · exact ⟨[], (current, old) :: rest, rfl, insert_of_lt before _ _ _⟩
      · rw [if_pos same] at absent
        cases absent
      · rw [if_neg (ne_of_gt after)] at absent
        obtain ⟨front, back, split, inserted⟩ := induction absent
        refine ⟨(current, old) :: front, back, by rw [split]; rfl, ?_⟩
        rw [insert_of_gt after, inserted]
        rfl

theorem mem_insert {key : String} {value : α} {entry : String × α}
    {entries : Keyed α} (member : entry ∈ insert key value entries) :
    entry = (key, value) ∨ entry ∈ entries := by
  induction entries with
  | nil => simpa [insert] using member
  | cons head rest induction =>
      obtain ⟨current, old⟩ := head
      rcases lt_trichotomy key current with before | same | after
      · rw [insert_of_lt before] at member
        simpa using member
      · subst current
        rw [insert_same] at member
        exact (List.mem_cons.mp member).imp id (List.mem_cons_of_mem _)
      · rw [insert_of_gt after] at member
        rcases List.mem_cons.mp member with isHead | later
        · exact .inr (isHead ▸ List.mem_cons_self)
        · exact (induction later).imp id (List.mem_cons_of_mem _)

theorem ordered_nil : Ordered ([] : Keyed α) := List.Pairwise.nil

theorem Ordered.tail {entry : String × α} {rest : Keyed α}
    (ordered : Ordered (entry :: rest)) : Ordered rest :=
  (List.pairwise_cons.mp ordered).2

theorem Ordered.head_lt {entry other : String × α} {rest : Keyed α}
    (ordered : Ordered (entry :: rest)) (member : other ∈ rest) :
    entry.1 < other.1 :=
  (List.pairwise_cons.mp ordered).1 other member

theorem Ordered.insert {entries : Keyed α} (ordered : Ordered entries)
    (key : String) (value : α) : Ordered (insert key value entries) := by
  induction entries with
  | nil => exact List.pairwise_singleton _ _
  | cons head rest induction =>
      obtain ⟨current, old⟩ := head
      rcases lt_trichotomy key current with before | same | after
      · rw [insert_of_lt before]
        refine List.pairwise_cons.mpr ⟨?_, ordered⟩
        intro entry member
        rcases List.mem_cons.mp member with isHead | later
        · exact isHead ▸ before
        · exact lt_trans before (ordered.head_lt later)
      · subst current
        rw [insert_same]
        exact List.pairwise_cons.mpr
          ⟨fun _ member => ordered.head_lt member, ordered.tail⟩
      · rw [insert_of_gt after]
        refine List.pairwise_cons.mpr ⟨?_, induction ordered.tail⟩
        intro entry member
        rcases mem_insert member with isNew | later
        · exact isNew ▸ after
        · exact ordered.head_lt later

theorem Ordered.get?_eq_none_of_lt {key current : String} {value : α}
    {rest : Keyed α} (ordered : Ordered ((current, value) :: rest))
    (before : key < current) : get? key ((current, value) :: rest) = none := by
  apply List.lookup_eq_none_iff.mpr
  intro entry member
  have below : key < entry.1 := by
    rcases List.mem_cons.mp member with isHead | later
    · exact isHead ▸ before
    · exact lt_trans before (ordered.head_lt later)
  simpa using ne_of_lt below

theorem Ordered.insert_of_get?_eq_some {key : String} {old : α}
    {entries : Keyed α} (ordered : Ordered entries)
    (present : get? key entries = some old) (value : α) :
    ∃ before after, entries = before ++ (key, old) :: after ∧
      Keyed.insert key value entries = before ++ (key, value) :: after := by
  induction entries with
  | nil => cases present
  | cons entry rest induction =>
      obtain ⟨current, first⟩ := entry
      rcases lt_trichotomy key current with before | same | after
      · rw [ordered.get?_eq_none_of_lt before] at present
        cases present
      · subst current
        rw [get?_cons, if_pos rfl] at present
        cases present
        exact ⟨[], rest, rfl, insert_same _ _ _ _⟩
      · rw [get?_cons, if_neg (ne_of_gt after)] at present
        obtain ⟨front, back, split, inserted⟩ :=
          induction ordered.tail present
        refine ⟨(current, first) :: front, back, by rw [split]; rfl, ?_⟩
        rw [insert_of_gt after, inserted]
        rfl

theorem insert_of_ordered {key : String} {value : α} {entries : Keyed α}
    (ordered : Ordered (entries ++ [(key, value)])) :
    insert key value entries = entries ++ [(key, value)] := by
  induction entries with
  | nil => rfl
  | cons entry rest induction =>
      obtain ⟨current, old⟩ := entry
      rw [List.cons_append] at ordered ⊢
      have after : current < key := ordered.head_lt
        (List.mem_append_right rest (List.mem_singleton_self (key, value)))
      rw [insert_of_gt after, induction ordered.tail]

theorem foldl_insert_of_ordered {entries more : Keyed α}
    (ordered : Ordered (entries ++ more)) :
    more.foldl (fun entries (key, value) => insert key value entries)
        entries = entries ++ more := by
  induction more generalizing entries with
  | nil => simp
  | cons entry more induction =>
      obtain ⟨key, value⟩ := entry
      have regrouped : entries ++ (key, value) :: more =
          (entries ++ [(key, value)]) ++ more := by simp
      rw [regrouped] at ordered ⊢
      have first : Ordered (entries ++ [(key, value)]) :=
        (List.pairwise_append.mp ordered).1
      simp only [List.foldl_cons, insert_of_ordered first]
      exact induction ordered

/-- Entries that ascend are what they are built to. -/
theorem ofList_of_ordered {entries : Keyed α} (ordered : Ordered entries) :
    ofList entries = entries :=
  foldl_insert_of_ordered (by simpa using ordered)

theorem get?_eq_none_of_not_mem {key : String} {entries : Keyed α}
    (absent : key ∉ entries.map Prod.fst) : get? key entries = none := by
  apply List.lookup_eq_none_iff.mpr
  intro entry member
  have different : key ≠ entry.1 := fun same =>
    absent (same ▸ List.mem_map_of_mem member)
  simpa using different

theorem contains_iff_mem_keys (key : String) (entries : Keyed α) :
    contains key entries = true ↔ key ∈ keys entries := by
  rw [contains, get?, List.lookup_isSome_iff, keys, List.mem_map]
  constructor
  · rintro ⟨entry, member, same⟩
    exact ⟨entry, member, (beq_iff_eq.mp same).symm⟩
  · rintro ⟨entry, member, same⟩
    exact ⟨entry, member, beq_iff_eq.mpr same.symm⟩

theorem Ordered.not_mem_tail {key : String} {value : α} {rest : Keyed α}
    (ordered : Ordered ((key, value) :: rest)) :
    key ∉ rest.map Prod.fst := by
  intro member
  obtain ⟨entry, inRest, same⟩ := List.mem_map.mp member
  exact ne_of_gt (ordered.head_lt inRest) same

theorem Ordered.nodup_keys {entries : Keyed α} (ordered : Ordered entries) :
    (entries.map Prod.fst).Nodup :=
  List.pairwise_map.mpr (List.Pairwise.imp (fun below => ne_of_lt below) ordered)

theorem Ordered.mapValues {entries : Keyed α} (ordered : Ordered entries)
    (f : α → β) : Ordered (entries.mapValues f) :=
  List.pairwise_map.mpr ordered

theorem ordered_ofList (pairs : List (String × α)) : Ordered (ofList pairs) := by
  have grown : ∀ entries : Keyed α, Ordered entries → Ordered
      (pairs.foldl (fun entries (key, value) => insert key value entries)
        entries) := by
    induction pairs with
    | nil => exact fun _ ordered => ordered
    | cons pair pairs induction =>
        exact fun entries ordered => induction _ (ordered.insert pair.1 pair.2)
  exact grown [] ordered_nil

theorem mem_of_mem_ofList {pairs : List (String × α)} {entry : String × α}
    (member : entry ∈ ofList pairs) : entry ∈ pairs := by
  have grown : ∀ entries : Keyed α, entry ∈ pairs.foldl
      (fun entries (key, value) => insert key value entries) entries →
      entry ∈ pairs ∨ entry ∈ entries := by
    clear member
    induction pairs with
    | nil => exact fun _ old => .inr old
    | cons pair pairs induction =>
        intro entries member
        rcases induction _ member with inRest | inserted
        · exact .inl (List.mem_cons_of_mem _ inRest)
        · rcases mem_insert inserted with isPair | old
          · exact .inl (isPair ▸ List.mem_cons_self)
          · exact .inr old
  rcases grown [] member with isPair | old
  · exact isPair
  · cases old

/-- Ascending entries are determined by the values of the keys. -/
theorem Ordered.ext {entries others : Keyed α} (ordered : Ordered entries)
    (otherOrdered : Ordered others)
    (same : ∀ key, get? key entries = get? key others) : entries = others := by
  induction entries generalizing others with
  | nil =>
      cases others with
      | nil => rfl
      | cons entry rest =>
          obtain ⟨key, value⟩ := entry
          have found := same key
          rw [get?_cons, if_pos rfl] at found
          cases found
  | cons entry rest induction =>
      obtain ⟨key, value⟩ := entry
      have found := same key
      rw [get?_cons, if_pos rfl] at found
      cases others with
      | nil => cases found
      | cons other otherRest =>
          obtain ⟨otherKey, otherValue⟩ := other
          have otherFound := same otherKey
          rw [get?_cons otherKey otherKey, if_pos rfl] at otherFound
          rcases lt_trichotomy key otherKey with before | isSame | after
          · rw [otherOrdered.get?_eq_none_of_lt before] at found
            cases found
          · subst isSame
            rw [get?_cons, if_pos rfl] at found
            cases found
            have rests : ∀ third, get? third rest = get? third otherRest := by
              intro third
              by_cases isKey : third = key
              · rw [isKey, get?_eq_none_of_not_mem ordered.not_mem_tail,
                  get?_eq_none_of_not_mem otherOrdered.not_mem_tail]
              · have agree := same third
                rwa [get?_cons, get?_cons, if_neg isKey, if_neg isKey] at agree
            rw [induction ordered.tail otherOrdered.tail rests]
          · rw [ordered.get?_eq_none_of_lt after] at otherFound
            cases otherFound

/-- Of several values that are set for a key, the last one stays. -/
theorem get?_foldl_insert_reverse (pairs : List (String × α)) (key : String)
    (entries : Keyed α) :
    get? key (pairs.foldl
        (fun entries (key, value) => insert key value entries) entries) =
      (get? key pairs.reverse).or (get? key entries) := by
  induction pairs generalizing entries with
  | nil => rfl
  | cons pair pairs induction =>
      obtain ⟨first, value⟩ := pair
      have split : get? key ((first, value) :: pairs).reverse =
          (get? key pairs.reverse).or (get? key [(first, value)]) := by
        rw [List.reverse_cons, get?, List.lookup_append]
        rfl
      rw [List.foldl_cons, induction, get?_insert, split, Option.or_assoc,
        get?_cons, get?_nil]
      by_cases isFirst : key = first
      · simp [isFirst]
      · simp [isFirst]

theorem get?_foldl_insert {pairs : List (String × α)}
    (distinct : (pairs.map Prod.fst).Nodup) (key : String)
    (entries : Keyed α) :
    get? key (pairs.foldl
        (fun entries (key, value) => insert key value entries) entries) =
      (get? key pairs).or (get? key entries) := by
  have same : get? key pairs = get? key pairs.reverse :=
    lookup_of_perm (List.reverse_perm pairs).symm distinct key
  rw [get?_foldl_insert_reverse, ← same]

theorem get?_of_mem {key : String} {value : α} {entries : Keyed α}
    (distinct : (entries.map Prod.fst).Nodup)
    (member : (key, value) ∈ entries) : get? key entries = some value := by
  induction entries with
  | nil => cases member
  | cons entry rest induction =>
      obtain ⟨first, other⟩ := entry
      obtain ⟨isNew, distinctRest⟩ := List.nodup_cons.mp distinct
      rw [get?_cons]
      rcases List.mem_cons.mp member with same | inRest
      · cases same
        rw [if_pos rfl]
      · have different : key ≠ first := by
          intro same
          exact isNew (List.mem_map.mpr ⟨(key, value), inRest, same⟩)
        rw [if_neg different, induction distinctRest inRest]

theorem filterMap_get?_keys {entries : Keyed α}
    (distinct : (entries.map Prod.fst).Nodup) :
    entries.keys.filterMap (fun key => get? key entries) =
      entries.values := by
  have found : ∀ entry ∈ entries, get? entry.1 entries = some entry.2 :=
    fun entry member => get?_of_mem distinct member
  simp only [keys, values, List.filterMap_map]
  rw [← List.filterMap_eq_map]
  exact List.filterMap_congr found

theorem get?_ofList {pairs : List (String × α)}
    (distinct : (pairs.map Prod.fst).Nodup) (key : String) :
    get? key (ofList pairs) = get? key pairs := by
  rw [ofList, get?_foldl_insert distinct]
  simp

theorem mem_keys_ofList (pairs : List (String × α)) (key : String) :
    key ∈ (ofList pairs).keys ↔ key ∈ pairs.map Prod.fst := by
  have found : get? key (ofList pairs) = get? key pairs.reverse := by
    rw [ofList, get?_foldl_insert_reverse, get?_nil, Option.or_none]
  have reversed : key ∈ keys pairs.reverse ↔ key ∈ pairs.map Prod.fst := by
    rw [keys, List.map_reverse, List.mem_reverse]
  rw [← contains_iff_mem_keys, contains, found, ← reversed,
    ← contains_iff_mem_keys, contains]

theorem ofList_of_perm {pairs others : List (String × α)}
    (perm : pairs.Perm others) (distinct : (pairs.map Prod.fst).Nodup) :
    ofList pairs = ofList others := by
  apply (ordered_ofList pairs).ext (ordered_ofList others)
  intro key
  have otherDistinct : (others.map Prod.fst).Nodup :=
    (perm.map Prod.fst).nodup distinct
  rw [get?_ofList distinct, get?_ofList otherDistinct]
  exact lookup_of_perm perm distinct key

end Keyed

end Polystore
