import Mathlib.Data.List.DropRight

/-!
# The last elements of a list

Records, log rows and windows are each cut back to their last elements after
every change.  Cutting before and after a list grows leaves the same elements
as cutting it once at the end.
-/

namespace List

variable {α β : Type} {count limit : Nat} {items more : List α}
  {batches : List (List α)}

theorem rtake_of_length_le (fits : items.length ≤ count) :
    items.rtake count = items := by
  have nothing : items.length - count = 0 := by omega
  simp [rtake, nothing]

theorem length_rtake (count : Nat) (items : List α) :
    (items.rtake count).length = min count items.length := by
  simp only [rtake, length_drop]
  omega

theorem map_rtake (f : α → β) (count : Nat) (items : List α) :
    (items.rtake count).map f = (items.map f).rtake count := by
  simp [rtake, map_drop]

theorem mem_of_mem_rtake {item : α} (member : item ∈ items.rtake count) :
    item ∈ items :=
  mem_of_mem_drop member

theorem rtake_sublist (count : Nat) (items : List α) :
    (items.rtake count).Sublist items :=
  drop_sublist _ _

theorem rtake_rtake_append (count : Nat) (items more : List α) :
    (items.rtake count ++ more).rtake count =
      (items ++ more).rtake count := by
  have lengths := length_rtake count items
  simp only [rtake, drop_append, drop_drop, length_append, length_drop]
    at lengths ⊢
  congr 2 <;> omega

@[simp] theorem rtake_rtake (count : Nat) (items : List α) :
    (items.rtake count).rtake count = items.rtake count := by
  simpa using rtake_rtake_append count items []

/-- What fits behind a list is kept, with what still fits of the list. -/
theorem rtake_append_of_length_le (items : List α)
    (fits : more.length ≤ count) :
    (items ++ more).rtake count =
      items.rtake (count - more.length) ++ more := by
  have amount : items.length + more.length - count =
      items.length - (count - more.length) := by omega
  have nothing :
      items.length - (count - more.length) - items.length = 0 := by omega
  rw [rtake, rtake, length_append, amount, drop_append, nothing, drop_zero]

theorem rtake_append_of_le_length (enough : count ≤ more.length)
    (items : List α) : (items ++ more).rtake count = more.rtake count := by
  have amount : items.length + more.length - count =
      items.length + (more.length - count) := by omega
  rw [rtake, rtake, length_append, amount, drop_length_add_append]

theorem getLast?_rtake (positive : 0 < count) (items : List α) :
    (items.rtake count).getLast? = items.getLast? := by
  rw [rtake, getLast?_drop]
  by_cases empties : items.length ≤ items.length - count
  · have none : items = [] := length_eq_zero_iff.mp (by omega)
    simp [none]
  · rw [if_neg empties]

/-- What is left of a list that batches are added to, when it is cut back
after each of them. -/
def keepLast (limit : Nat) (items : List α) (batches : List (List α)) :
    List α :=
  batches.foldl (fun kept batch => (kept ++ batch).rtake limit) items

theorem keepLast_append (limit : Nat) (items : List α)
    (batches more : List (List α)) :
    keepLast limit items (batches ++ more) =
      keepLast limit (keepLast limit items batches) more := by
  simp [keepLast, foldl_append]

theorem keepLast_of_length_le (fits : items.length ≤ limit)
    (batches : List (List α)) :
    keepLast limit items batches =
      (items ++ batches.flatten).rtake limit := by
  induction batches generalizing items with
  | nil => simpa [keepLast] using (rtake_of_length_le fits).symm
  | cons batch batches induction =>
      have cut : ((items ++ batch).rtake limit).length ≤ limit := by
        rw [length_rtake]
        omega
      calc keepLast limit items (batch :: batches)
          = keepLast limit ((items ++ batch).rtake limit) batches := rfl
        _ = ((items ++ batch).rtake limit ++ batches.flatten).rtake limit :=
            induction cut
        _ = (items ++ (batch :: batches).flatten).rtake limit := by
            rw [rtake_rtake_append, append_assoc, flatten_cons]

theorem keepLast_nil_of_length_le (fits : batches.flatten.length ≤ limit) :
    keepLast limit [] batches = batches.flatten := by
  rw [keepLast_of_length_le (Nat.zero_le limit), nil_append,
    rtake_of_length_le fits]

theorem length_keepLast_le (fits : items.length ≤ limit)
    (batches : List (List α)) :
    (keepLast limit items batches).length ≤ limit := by
  rw [keepLast_of_length_le fits, length_rtake]
  exact Nat.min_le_left _ _

theorem map_keepLast (f : α → β) (limit : Nat) (items : List α)
    (batches : List (List α)) :
    (keepLast limit items batches).map f =
      keepLast limit (items.map f) (batches.map (map f)) := by
  induction batches generalizing items with
  | nil => rfl
  | cons batch batches induction =>
      have cut := induction ((items ++ batch).rtake limit)
      rwa [map_rtake, map_append] at cut

/-- As many items as are kept leave nothing of what was there before. -/
theorem keepLast_of_le_length (enough : limit ≤ batches.flatten.length)
    (positive : 0 < limit) (items : List α) :
    keepLast limit items batches = batches.flatten.rtake limit := by
  cases batches with
  | nil => simp at enough; omega
  | cons batch batches =>
      have cut : ((items ++ batch).rtake limit).length ≤ limit := by
        rw [length_rtake]
        omega
      have whole : keepLast limit items (batch :: batches) =
          (items ++ (batch :: batches).flatten).rtake limit := by
        have later := keepLast_of_length_le cut batches
        rwa [rtake_rtake_append, append_assoc] at later
      rw [whole]
      exact rtake_append_of_le_length enough items

/-- Batches and their images are cut back alike, unless something is left of
where the two lists started apart. -/
theorem keepLast_map (positive : 0 < limit) {f : α → β} {images : List β}
    (same : images = items.map f ∨ limit ≤ batches.flatten.length) :
    keepLast limit images (batches.map (map f)) =
      (keepLast limit items batches).map f := by
  rw [map_keepLast]
  rcases same with rfl | enough
  · rfl
  · have many : limit ≤ (batches.map (map f)).flatten.length := by
      rwa [← map_flatten, length_map]
    rw [keepLast_of_le_length many positive,
      keepLast_of_le_length many positive]

end List
