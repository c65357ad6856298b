import Polystore.Execution.Record
import Polystore.Proofs.Json.Rereading

/-!
# Records that read back

The log keeps records as texts.  Texts, names and truth values always read
back, identifiers do so when they have 128 bits, and whole numbers when they
fit a word.  What remains of a record are its costs and its time: the record
reads back from its text as soon as these do.
-/

namespace Polystore

open Reading

namespace RecordId

theorem mapM_hexDigits (value count : Nat) {tail : List Char}
    {values : List Nat} (isTail : tail.mapM hexValue? = some values) :
    ∃ digits, (hexDigits value count tail).mapM hexValue? =
        some (digits ++ values) ∧ digits.length = count ∧
      digits.foldl (fun value digit => value * 16 + digit) 0 =
        value % 16 ^ count := by
  induction count generalizing value tail values with
  | zero => exact ⟨[], isTail, rfl, by simp [Nat.mod_one]⟩
  | succ count induction =>
      have last := hexValue?_hexDigit (value % 16) (Nat.mod_lt _ (by decide))
      have longer : (hexDigit (value % 16) :: tail).mapM hexValue? =
          some (value % 16 :: values) := by
        simp [List.mapM_cons, last, isTail]
      obtain ⟨digits, areDigits, length, total⟩ :=
        induction (value / 16) longer
      refine ⟨digits ++ [value % 16], ?_, ?_, ?_⟩
      · rw [hexDigits, areDigits, List.append_assoc]
        rfl
      · rw [List.length_append, length]
        rfl
      · have split : value % (16 * 16 ^ count) =
            value % 16 + 16 * (value / 16 % 16 ^ count) := Nat.mod_mul
        rw [List.foldl_append, total, Nat.pow_succ, Nat.mul_comm _ 16, split]
        simp only [List.foldl_cons, List.foldl_nil]
        omega

theorem unhyphenated?_groups (size : Nat) (sizes : List Nat)
    {digits : List Char}
    (enough : digits.length = size + sizes.foldr (· + ·) 0) :
    unhyphenated? (size :: sizes)
      (['-'].intercalate (groups (size :: sizes) digits)) = some digits := by
  induction sizes generalizing size digits with
  | nil =>
      have whole : digits.take size = digits :=
        List.take_of_length_le (by simp [enough])
      simp [groups, whole, unhyphenated?, enough, List.intercalate]
  | cons next sizes induction =>
      rw [List.foldr_cons] at enough
      have fewer : (digits.drop size).length =
          next + sizes.foldr (· + ·) 0 := by
        rw [List.length_drop]
        omega
      have rest := induction next fewer
      have front : (digits.take size).length = size := by
        rw [List.length_take]
        omega
      have split : ['-'].intercalate (groups (size :: next :: sizes) digits) =
          digits.take size ++ '-' :: ['-'].intercalate
            (groups (next :: sizes) (digits.drop size)) := by
        simp [groups, List.intercalate]
      rw [split, unhyphenated?]
      · simp only [List.drop_left' front, List.take_left' front, rest,
          Option.map_some, List.take_append_drop]
      · simp

theorem decode_text {id : RecordId} (fits : id.value < 2 ^ 128) :
    decode (.string id.text) = some id := by
  have nothing : List.mapM hexValue? [] = some [] := rfl
  obtain ⟨values, areDigits, count, total⟩ :=
    mapM_hexDigits id.value 32 nothing
  rw [List.append_nil] at areDigits
  rw [Nat.mod_eq_of_lt (by omega)] at total
  have text : id.text.toList = ['-'].intercalate
      (groups groupSizes (hexDigits id.value 32 [])) := by
    rw [RecordId.text, String.toList_ofList]
  rw [decode, Written.text?, Option.bind_some, text]
  generalize hexDigits id.value 32 [] = digits at areDigits
  have each := mapM_eq_some_iff.mp areDigits
  have length : digits.length = 32 := by
    have same := congrArg List.length each
    simpa [count] using same
  have joined : unhyphenated? groupSizes
      (['-'].intercalate (groups groupSizes digits)) = some digits :=
    unhyphenated?_groups 8 [4, 4, 4, 12] length
  have longer :
      (['-'].intercalate (groups groupSizes digits)).length = 36 := by
    simp [groups, groupSizes, List.intercalate, length]
  obtain ⟨first, others, isFirst⟩ :=
    List.exists_cons_of_length_eq_add_one length
  obtain ⟨value, isDigit⟩ : ∃ value, hexValue? first = some value := by
    have among : hexValue? first ∈ values.map some := by
      rw [← each, isFirst]
      exact List.mem_cons_self
    obtain ⟨value, -, same⟩ := List.mem_map.mp among
    exact ⟨value, same.symm⟩
  obtain ⟨rest, begins⟩ : ∃ rest,
      ['-'].intercalate (groups groupSizes digits) = first :: rest := by
    subst isFirst
    exact ⟨_, rfl⟩
  have read : ofDigits? digits = some id := by
    rw [ofDigits?, if_pos (by simp [length]), areDigits, Option.map_some, total]
  rw [ofChars?, if_neg (by simp [longer])]
  · simp only [joined, Option.bind_some, read]
  · intro braced isBraced
    cases begins.symm.trans isBraced
    cases isDigit
  · intro named isNamed
    cases begins.symm.trans isNamed
    cases isDigit

end RecordId

/-- A number that is read from its text as what it was. -/
def Json.ReadsBack (number : Float) : Prop :=
  ∃ tree, Reads false (.ofFloat number) tree ∧ tree.real? = some number

/-- It is enough to read the text of a number by itself. -/
theorem Json.readsBack_of_read {number : Float}
    (finite : number.isFinite = true)
    (read : (value false 0 1 (Json.float number).chars).toOption.bind
      (·.1.real?) = some number) : ReadsBack number := by
  cases attempt : value false 0 1 (Json.float number).chars with
  | error fault =>
      rw [attempt] at read
      cases read
  | ok result =>
      obtain ⟨tree, left⟩ := result
      rw [attempt] at read
      rw [← List.append_nil (Json.float number).chars] at attempt
      refine ⟨tree, ?_, read⟩
      rw [ofFloat, if_pos finite]
      rw [Reads]
      exact (readsLeaf_float delimited_nil attempt).2

namespace Metrics

/-- All costs read back. -/
structure ReadsBack (metrics : Metrics) : Prop where
  executionTime : Json.ReadsBack metrics.executionTime
  latency : Json.ReadsBack metrics.latency
  cpuTime : Json.ReadsBack metrics.cpuTime
  memory : Json.ReadsBack metrics.memory

theorem json_eq (metrics : Metrics) :
    metrics.json = .object
      [("cpu_time_ms", .ofFloat metrics.cpuTime),
        ("execution_time_ms", .ofFloat metrics.executionTime),
        ("latency_estimated", .bool metrics.latencyEstimated),
        ("latency_ms", .ofFloat metrics.latency),
        ("memory_used_bytes", .ofFloat metrics.memory)] := by
  rw [json, Json.record]
  rfl

theorem ReadsBack.reads {metrics : Metrics} (readsBack : metrics.ReadsBack) :
    ∃ tree, Reads false metrics.json tree ∧ decode tree = some metrics := by
  obtain ⟨time, readsTime, isTime⟩ := readsBack.executionTime
  obtain ⟨latency, readsLatency, isLatency⟩ := readsBack.latency
  obtain ⟨cpuTime, readsCpuTime, isCpuTime⟩ := readsBack.cpuTime
  obtain ⟨memory, readsMemory, isMemory⟩ := readsBack.memory
  let tree : Written := .object
    [(some "cpu_time_ms", cpuTime), (some "execution_time_ms", time),
      (some "latency_estimated", .bool metrics.latencyEstimated),
      (some "latency_ms", latency), (some "memory_used_bytes", memory)]
  refine ⟨tree, ?_, ?_⟩
  · rw [json_eq]
    exact (readsFields_nil false |>.cons _ readsMemory |>.cons _ readsLatency
      |>.cons _ (reads_bool false _) |>.cons _ readsTime
      |>.cons _ readsCpuTime).object
  · have decoded : decode tree = do
        let executionTime ← time.real?
        let latency ← latency.real?
        let cpuTime ← cpuTime.real?
        let memory ← memory.real?
        return ⟨executionTime, latency, metrics.latencyEstimated, cpuTime,
          memory⟩ := rfl
    rw [decoded, isTime, isLatency, isCpuTime, isMemory]
    rfl

end Metrics

theorem Outcome.reads (outcome : Outcome)
    (countable : outcome.rowCount ≤ Numeral.maxUnsigned) :
    ∃ tree, Reads false outcome.json tree ∧ decode tree = some outcome := by
  obtain ⟨success, error, rowCount⟩ := outcome
  have readsCount : Reads false (.integer rowCount) (.integer rowCount) := by
    apply reads_written false (.integer rowCount)
    constructor
    · omega
    · exact Int.ofNat_le.mpr countable
  have isCount : Written.natural? (.integer rowCount) = some rowCount :=
    if_pos countable
  have readsSuccess := reads_bool false success
  cases error with
  | none =>
      let tree : Written := .object [(some "row_count", .integer rowCount),
        (some "success", .bool success)]
      refine ⟨tree, ?_, ?_⟩
      · exact (readsFields_nil false |>.cons _ readsSuccess
          |>.cons _ readsCount).object
      · have decoded : decode tree = do
            let rowCount ← Written.natural? (.integer rowCount)
            return ⟨success, none, rowCount⟩ := rfl
        rw [decoded, isCount]
        rfl
  | some error =>
      let tree : Written := .object [(some "error", .string error),
        (some "row_count", .integer rowCount),
        (some "success", .bool success)]
      refine ⟨tree, ?_, ?_⟩
      · exact (readsFields_nil false |>.cons _ readsSuccess
          |>.cons _ readsCount |>.cons _ (reads_string false error)).object
      · have decoded : decode tree = do
            let rowCount ← Written.natural? (.integer rowCount)
            return ⟨success, some error, rowCount⟩ := rfl
        rw [decoded, isCount]
        rfl

namespace ExecutionRecord

/-- What of a record might be read otherwise reads back. -/
structure ReadsBack (record : ExecutionRecord) : Prop where
  id : record.id.value < 2 ^ 128
  metrics : record.metrics.ReadsBack
  countable : record.outcome.rowCount ≤ Numeral.maxUnsigned
  timestamp : Instant.decode (.string record.timestamp.text) =
    some record.timestamp

theorem json_eq (record : ExecutionRecord) :
    record.json = .object
      [("dialect", .string record.dialect.name),
        ("executed_query", .string record.executedQuery),
        ("id", .string record.id.text), ("metrics", record.metrics.json),
        ("origin", .string record.origin.name),
        ("outcome", record.outcome.json),
        ("query_text", .string record.queryText),
        ("signature", .string record.signature.text),
        ("store", .string record.store),
        ("timestamp", .string record.timestamp.text)] := by
  rw [json, Json.record]
  rfl

/-- The tree of a record whose costs and outcome have the given trees. -/
def written (record : ExecutionRecord) (metrics outcome : Written) : Written :=
  .object
    [(some "dialect", .string record.dialect.name),
      (some "executed_query", .string record.executedQuery),
      (some "id", .string record.id.text), (some "metrics", metrics),
      (some "origin", .string record.origin.name), (some "outcome", outcome),
      (some "query_text", .string record.queryText),
      (some "signature", .string record.signature.text),
      (some "store", .string record.store),
      (some "timestamp", .string record.timestamp.text)]

variable {record : ExecutionRecord} {metrics outcome : Written}

theorem reads_json (readsMetrics : Reads false record.metrics.json metrics)
    (readsOutcome : Reads false record.outcome.json outcome) :
    Reads false record.json (record.written metrics outcome) := by
  have readsText := reads_string false
  rw [json_eq]
  exact (readsFields_nil false |>.cons _ (readsText _) |>.cons _ (readsText _)
    |>.cons _ (readsText _) |>.cons _ (readsText _) |>.cons _ readsOutcome
    |>.cons _ (readsText _) |>.cons _ readsMetrics |>.cons _ (readsText _)
    |>.cons _ (readsText _) |>.cons _ (readsText _)).object

theorem decode_written (readsBack : record.ReadsBack)
    (isMetrics : Metrics.decode metrics = some record.metrics)
    (isOutcome : Outcome.decode outcome = some record.outcome) :
    decode (record.written metrics outcome) = some record := by
  let members : Written.Members :=
    [("dialect", .string record.dialect.name),
      ("executed_query", .string record.executedQuery),
      ("id", .string record.id.text), ("metrics", metrics),
      ("origin", .string record.origin.name), ("outcome", outcome),
      ("query_text", .string record.queryText),
      ("signature", .string record.signature.text),
      ("store", .string record.store),
      ("timestamp", .string record.timestamp.text)]
  have known : (record.written metrics outcome).members? ["id", "signature",
      "query_text", "executed_query", "store", "dialect", "origin", "metrics",
      "outcome", "timestamp"] = some members := rfl
  have isDialect : Dialect.decode (.string record.dialect.name) =
      some record.dialect := by
    cases record.dialect <;> rfl
  have isOrigin : Origin.decode (.string record.origin.name) =
      some record.origin := by
    cases record.origin <;> rfl
  have required {α : Type} {name : String} {tree : Written}
      (found : members.lookup name = some tree) {decode : Written → Option α}
      {value : α} (isValue : decode tree = some value) :
      members.required name decode = some value := by
    rw [Written.Members.required, found, Option.bind_some, isValue]
  have costs : members.withDefault "metrics" .zero Metrics.decode =
      some record.metrics := by
    have found : members.lookup "metrics" = some metrics := rfl
    rw [Written.Members.withDefault, found]
    exact isMetrics
  rw [decode, known]
  simp only [Option.bind_eq_bind, Option.bind_some, costs,
    required (rfl : members.lookup "id" = _)
      (RecordId.decode_text readsBack.id),
    required (rfl : members.lookup "signature" = _)
      (rfl : Written.text? _ = some record.signature.text),
    required (rfl : members.lookup "query_text" = _)
      (rfl : Written.text? _ = some record.queryText),
    required (rfl : members.lookup "executed_query" = _)
      (rfl : Written.text? _ = some record.executedQuery),
    required (rfl : members.lookup "store" = _)
      (rfl : Written.text? _ = some record.store),
    required (rfl : members.lookup "dialect" = _) isDialect,
    required (rfl : members.lookup "origin" = _) isOrigin,
    required (rfl : members.lookup "outcome" = _) isOutcome,
    required (rfl : members.lookup "timestamp" = _) readsBack.timestamp]
  rfl

/-- A record reads back as soon as its parts do. -/
theorem ReadsBack.ofText?_text (readsBack : record.ReadsBack) :
    ofText? record.text = some record := by
  obtain ⟨metrics, readsMetrics, isMetrics⟩ := readsBack.metrics.reads
  obtain ⟨outcome, readsOutcome, isOutcome⟩ :=
    record.outcome.reads readsBack.countable
  have read : value false 128 (2 * record.json.chars.length + 4)
      (record.json.chars ++ []) = .ok (record.written metrics outcome, []) :=
    value_chars false record.json (reads_json readsMetrics readsOutcome)
      (by simp) (by omega) delimited_nil
  rw [List.append_nil] at read
  have whole : document false record.json.chars =
      .ok (record.written metrics outcome) := by
    simp only [document, read, bind, Except.bind]
    rfl
  rw [ofText?, text, Written.ofText?, Json.text, String.toList_ofList, whole,
    Except.toOption, Option.bind_some]
  exact decode_written readsBack isMetrics isOutcome

end ExecutionRecord

end Polystore
