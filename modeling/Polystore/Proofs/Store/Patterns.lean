import Polystore.Store.Glob

/-!
# What a pattern stands for

A pattern expands to the keys that have some run of characters in the place of
every star and are the pattern otherwise.  Matching takes runs within one line
only: of the keys that a pattern expands to, it finds those with as many line
feeds as the pattern has itself.
-/

namespace Polystore.Glob

/-- The key is the pattern with every star replaced by a run of characters,
which may be empty. -/
inductive Expands : List Char → List Char → Prop where
  | nil : Expands [] []
  | star {pattern key : List Char} (run : List Char) :
      Expands pattern key → Expands ('*' :: pattern) (run ++ key)
  | literal {c : Char} {pattern key : List Char} :
      c ≠ '*' → Expands pattern key → Expands (c :: pattern) (c :: key)

variable {pattern key rest : List Char} {c : Char}

theorem expands_nil_iff : Expands [] key ↔ key = [] := by
  constructor
  · intro expands
    cases expands
    rfl
  · rintro rfl
    exact .nil

theorem expands_star_iff :
    Expands ('*' :: pattern) key ↔
      ∃ run rest, key = run ++ rest ∧ Expands pattern rest := by
  constructor
  · intro expands
    cases expands with
    | star run behind => exact ⟨run, _, rfl, behind⟩
    | literal noStar => exact absurd rfl noStar
  · rintro ⟨run, rest, rfl, behind⟩
    exact .star run behind

theorem expands_literal_iff (noStar : c ≠ '*') :
    Expands (c :: pattern) key ↔
      ∃ rest, key = c :: rest ∧ Expands pattern rest := by
  constructor
  · intro expands
    cases expands with
    | star => exact absurd rfl noStar
    | literal _ behind => exact ⟨_, rfl, behind⟩
  · rintro ⟨rest, rfl, behind⟩
    exact .literal noStar behind

theorem expands_star_star_iff :
    Expands ('*' :: '*' :: pattern) key ↔ Expands ('*' :: pattern) key := by
  constructor
  · intro expands
    obtain ⟨first, _, rfl, behind⟩ := expands_star_iff.mp expands
    obtain ⟨second, rest, rfl, last⟩ := expands_star_iff.mp behind
    rw [← List.append_assoc]
    exact .star _ last
  · intro expands
    exact .star [] expands

theorem Expands.count_le (expands : Expands pattern key) (noStar : c ≠ '*') :
    pattern.count c ≤ key.count c := by
  induction expands with
  | nil => exact Nat.le_refl _
  | star run _ induction =>
      rw [List.count_cons_of_ne noStar.symm, List.count_append]
      omega
  | @literal d _ _ _ _ induction =>
      rw [List.count_cons, List.count_cons]
      omega

theorem mem_remainders_iff :
    rest ∈ remainders key ↔ ∃ run, key = run ++ rest ∧ '\n' ∉ run := by
  induction key with
  | nil =>
      rw [remainders, List.mem_singleton]
      constructor
      · rintro rfl
        exact ⟨[], rfl, List.not_mem_nil⟩
      · rintro ⟨run, isKey, -⟩
        exact (List.append_eq_nil_iff.mp isKey.symm).2
  | cons c cs induction =>
      rw [remainders, List.mem_cons]
      constructor
      · rintro (rfl | further)
        · exact ⟨[], rfl, List.not_mem_nil⟩
        · split at further
          · cases further
          · rename_i onLine
            obtain ⟨run, rfl, plain⟩ := induction.mp further
            refine ⟨c :: run, rfl, ?_⟩
            simp only [beq_iff_eq] at onLine
            simp [plain, Ne.symm onLine]
      · rintro ⟨run, isKey, plain⟩
        cases run with
        | nil => exact .inl isKey.symm
        | cons d run =>
            obtain ⟨rfl, rfl⟩ := List.cons.inj isKey
            rw [List.mem_cons, not_or] at plain
            have onLine : (c == '\n') = false := by
              simpa using Ne.symm plain.1
            rw [onLine]
            exact .inr (induction.mpr ⟨run, rfl, plain.2⟩)

/-- A star that no other one follows takes every run within a line. -/
theorem accepts_star_iff (single : pattern.head? ≠ some '*') :
    accepts ('*' :: pattern) key = true ↔
      ∃ run rest, key = run ++ rest ∧ '\n' ∉ run ∧
        accepts pattern rest = true := by
  have noSecond : (pattern.head? == some '*') = false := by
    simpa using single
  rw [accepts, noSecond]
  simp only [Bool.false_eq_true, if_false, List.any_eq_true,
    mem_remainders_iff]
  constructor
  · rintro ⟨rest, ⟨run, isKey, plain⟩, behind⟩
    exact ⟨run, rest, isKey, plain, behind⟩
  · rintro ⟨run, rest, isKey, plain, behind⟩
    exact ⟨rest, ⟨run, isKey, plain⟩, behind⟩

theorem accepts_star_star :
    accepts ('*' :: '*' :: pattern) key = accepts ('*' :: pattern) key :=
  rfl

theorem accepts_literal_iff (noStar : c ≠ '*') :
    accepts (c :: pattern) key = true ↔
      ∃ rest, key = c :: rest ∧ accepts pattern rest = true := by
  cases key with
  | nil => simp [accepts]
  | cons d ds => simp [accepts, and_assoc]

/-- A run has no line feed exactly when it leaves their number as it is. -/
theorem accepts_iff :
    accepts pattern key = true ↔
      Expands pattern key ∧ key.count '\n' = pattern.count '\n' := by
  induction pattern generalizing key with
  | nil =>
      rw [accepts, List.isEmpty_iff, expands_nil_iff]
      constructor
      · rintro rfl
        exact ⟨rfl, rfl⟩
      · exact And.left
  | cons c pattern induction =>
      by_cases isStar : c = '*'
      · subst isStar
        rw [List.count_cons_of_ne (by decide)]
        by_cases double : pattern.head? = some '*'
        · obtain ⟨pattern, rfl⟩ := List.head?_eq_some_iff.mp double
          rw [accepts_star_star, expands_star_star_iff, induction]
        · rw [accepts_star_iff double, expands_star_iff]
          constructor
          · rintro ⟨run, rest, rfl, plain, behind⟩
            obtain ⟨expands, same⟩ := induction.mp behind
            rw [List.count_append, List.count_eq_zero_of_not_mem plain, same,
              Nat.zero_add]
            exact ⟨⟨run, rest, rfl, expands⟩, rfl⟩
          · rintro ⟨⟨run, rest, rfl, expands⟩, same⟩
            rw [List.count_append] at same
            have atLeast := expands.count_le (c := '\n') (by decide)
            refine ⟨run, rest, rfl, List.count_eq_zero.mp (by omega), ?_⟩
            exact induction.mpr ⟨expands, by omega⟩
      · rw [accepts_literal_iff isStar, expands_literal_iff isStar]
        constructor
        · rintro ⟨rest, rfl, behind⟩
          obtain ⟨expands, same⟩ := induction.mp behind
          exact ⟨⟨rest, rfl, expands⟩, by rw [List.count_cons,
            List.count_cons, same]⟩
        · rintro ⟨⟨rest, rfl, expands⟩, same⟩
          rw [List.count_cons, List.count_cons] at same
          exact ⟨rest, rfl, induction.mpr ⟨expands, by omega⟩⟩

theorem expands_iff_eq (noStar : '*' ∉ pattern) :
    Expands pattern key ↔ key = pattern := by
  induction pattern generalizing key with
  | nil => exact expands_nil_iff
  | cons c pattern induction =>
      rw [List.mem_cons, not_or] at noStar
      rw [expands_literal_iff (Ne.symm noStar.1)]
      constructor
      · rintro ⟨rest, rfl, behind⟩
        rw [(induction noStar.2).mp behind]
      · rintro rfl
        exact ⟨pattern, rfl, (induction noStar.2).mpr rfl⟩

/-- A text that is no pattern matches itself only. -/
theorem matchesKey_iff_eq {text : String} (noPattern : isPattern text = false)
    (key : String) : matchesKey text key = true ↔ key = text := by
  have noStar : '*' ∉ text.toList := by
    simpa [isPattern] using noPattern
  rw [matchesKey, accepts_iff, expands_iff_eq noStar, String.toList_inj]
  constructor
  · exact And.left
  · rintro rfl
    exact ⟨rfl, rfl⟩

/-- A pattern matches the keys that it expands to, as long as no star stands
for a line feed. -/
theorem matchesKey_iff_expands (pattern key : String) :
    matchesKey pattern key = true ↔
      Expands pattern.toList key.toList ∧
        key.toList.count '\n' = pattern.toList.count '\n' :=
  accepts_iff

/-- A star does not stand for a line feed. -/
theorem matchesKey_across_lines :
    Expands "a*b".toList "a\nb".toList ∧ matchesKey "a*b" "a\nb" = false := by
  constructor
  · have behind : Expands ['b'] ['b'] := .literal (by decide) .nil
    exact .literal (by decide) (.star ['\n'] behind)
  · decide

end Polystore.Glob
