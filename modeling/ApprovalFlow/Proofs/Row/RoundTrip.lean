import ApprovalFlow.Proofs.Json.Records
import ApprovalFlow.Proofs.Time.Stamp
import ApprovalFlow.Row.Event
import ApprovalFlow.Row.Task

/-!
# Rows are read back

The rows of tasks, of processes and of the event log are stored as texts and read back from them,
whatever texts are in them, texts that hold JSON among them. A row may not hold everything that its
record has room for: its ids have 64 bits, its version has 32, and its times are known instants. No
text gives anything else, so a row that was read from a text is always read back from its own.

* `TaskRow.ofText_compact` and the two theorems like it: rows that are read back.
* `TaskRow.storable_of_ofText` and the two theorems like it: rows that were read.
* `rows_round_trip`: both, for all rows.
-/

namespace ApprovalFlow

open Json

/-! ## Numbers, times and states -/

/-- A whole number of that many bits, one of them for the sign. -/
def Json.Signed (bits : Nat) (n : Int) : Prop :=
  -2 ^ (bits - 1) ≤ n ∧ n ≤ 2 ^ (bits - 1) - 1

namespace Json

theorem asInt64_int {n : Int} (signed : Signed 64 n) : asInt64 (.int n) = some n :=
  if_pos signed

theorem asInt32_int {n : Int} (signed : Signed 32 n) : asInt32 (.int n) = some n :=
  if_pos signed

theorem signed_of_asInt64 {j : Json} {n : Int} (read : asInt64 j = some n) : Signed 64 n :=
  bounds_of_asIntIn read

theorem signed_of_asInt32 {j : Json} {n : Int} (read : asInt32 j = some n) : Signed 32 n :=
  bounds_of_asIntIn read

theorem fits_int {d : Nat} {n : Int} (signed : Signed 64 n) : Fits d (.int n) := by
  obtain ⟨low, high⟩ := signed
  exact .int low (by omega)

theorem signed_zero : Signed 32 0 :=
  ⟨by decide, by decide⟩

theorem Signed.widen {n : Int} (signed : Signed 32 n) : Signed 64 n := by
  obtain ⟨low, high⟩ := signed
  exact ⟨by omega, by omega⟩

end Json

namespace Instant

theorem ofJson_toJson {t : Instant} (known : t.Known) : ofJson t.toJson = some t := by
  rw [toJson, ofJson, ofText, toText, String.toList_ofList, read_write known]

theorem known_of_ofJson {j : Json} {t : Instant} (read : ofJson j = some t) : t.Known := by
  cases j with
  | str s => exact known_of_read read
  | _ => cases read

theorem optional_toJson {o : Option Instant} (known : ∀ t ∈ o, t.Known) :
    (Field.value (ofOption toJson o)).optional ofJson = some o :=
  Field.optional_ofOption o (fun t there => ofJson_toJson (known t there)) (by simp [toJson])

theorem known_of_optional {f : Field} {o : Option Instant} (read : f.optional ofJson = some o) :
    ∀ t ∈ o, t.Known := by
  rintro t rfl
  obtain ⟨j, value⟩ := Field.of_optionalLast (Field.optionalLast_of_optional read)
  exact known_of_ofJson value

end Instant

section

variable {d : Nat}

theorem Json.fits_text (o : Option String) : Fits d (ofOption .str o) :=
  fits_ofOption o fun s _ => .str s

theorem Json.fits_time (o : Option Instant) : Fits d (ofOption Instant.toJson o) :=
  fits_ofOption o fun t _ => .str t.toText

end

theorem Json.optional_str (o : Option String) :
    (Field.value (ofOption .str o)).optional asText = some o :=
  Field.optional_ofOption o (fun _ _ => rfl) (by simp)

/-! ## Task rows -/

namespace TaskRow

/-- The numbers of the row have their sizes, and its times are known. -/
structure Storable (row : TaskRow) : Prop where
  id : Signed 64 row.id
  processId : Signed 64 row.processId
  startTime : row.startTime.Known
  endTime : ∀ t ∈ row.endTime, t.Known
  version : Signed 32 row.version

theorem ofJson_toJson {row : TaskRow} (storable : row.Storable) :
    ofJson row.toJson = some row := by
  have status : asEnum .null TaskStatus.ofName (.str row.status.name) = some row.status :=
    row.status.ofName_name
  rw [ofJson, toJson, recordFields_obj]
  · simp only [List.map_cons, List.map_nil, Field.required, Field.withDefault, asText, status,
      optional_str, asInt64_int storable.id, asInt64_int storable.processId,
      asInt32_int storable.version, Instant.ofJson_toJson storable.startTime,
      Instant.optional_toJson storable.endTime, Option.bind_eq_bind, Option.bind_some,
      Option.pure_def]
  · rfl
  · decide

theorem fits_toJson {row : TaskRow} (storable : row.Storable) : Fits depthLimit row.toJson := by
  refine .mono (.obj (d := 0) ?_) (by decide)
  simp only [List.forall_mem_cons]
  exact ⟨fits_int storable.id, .str _, fits_int storable.processId, .str _, .str _, .str _, .str _,
    .str _, .str _, fits_text _, .str _, fits_text _, fits_text _, .str _, fits_time _,
    fits_text _, fits_int storable.version.widen, fits_nil⟩

/-- A row is read back from the text that is written for it. -/
theorem ofText_compact {row : TaskRow} (storable : row.Storable) :
    ofText row.toJson.compact = some row :=
  parseAs_record rfl (fits_toJson storable) (ofJson_toJson storable)

/-- A row that was read from a text is read back from its own. -/
theorem storable_of_ofText {s : String} {row : TaskRow} (read : ofText s = some row) :
    row.Storable := by
  obtain ⟨j, -, read⟩ := Option.bind_eq_some_iff.1 read
  unfold ofJson at read
  split at read
  · dsimp only [Option.bind_eq_bind, Option.pure_def] at read
    simp only [↓Option.bind_eq_some_iff, Option.some.injEq] at read
    obtain ⟨id, hasId, -, -, processId, hasProcess, -, -, -, -, -, -, -, -, -, -, -, -, -, -, -, -,
      -, -, -, -, start, hasStart, stop, hasStop, -, -, version, hasVersion, rfl⟩ := read
    obtain ⟨_, id⟩ := Field.of_required hasId
    obtain ⟨_, processId⟩ := Field.of_required hasProcess
    obtain ⟨_, start⟩ := Field.of_required hasStart
    refine ⟨signed_of_asInt64 id, signed_of_asInt64 processId, Instant.known_of_ofJson start,
      Instant.known_of_optional hasStop, ?_⟩
    rcases Field.of_withDefault hasVersion with rfl | ⟨_, version⟩
    · exact signed_zero
    · exact signed_of_asInt32 version
  · cases read

end TaskRow

/-! ## Process rows -/

namespace ProcessRow

/-- The id of the row has its size, and its times are known. -/
structure Storable (row : ProcessRow) : Prop where
  id : Signed 64 row.id
  startTime : row.startTime.Known
  endTime : ∀ t ∈ row.endTime, t.Known

theorem ofJson_toJson {row : ProcessRow} (storable : row.Storable) :
    ofJson row.toJson = some row := by
  have status : asEnum .null ProcessStatus.ofName (.str row.status.name) = some row.status :=
    row.status.ofName_name
  rw [ofJson, toJson, recordFields_obj]
  · simp only [List.map_cons, List.map_nil, Field.required, asText, status, optional_str,
      asInt64_int storable.id, Instant.ofJson_toJson storable.startTime,
      Instant.optional_toJson storable.endTime, Option.bind_eq_bind, Option.bind_some,
      Option.pure_def]
  · rfl
  · decide

theorem fits_toJson {row : ProcessRow} (storable : row.Storable) : Fits depthLimit row.toJson := by
  refine .mono (.obj (d := 0) ?_) (by decide)
  simp only [List.forall_mem_cons]
  exact ⟨fits_int storable.id, .str _, .str _, .str _, .str _, .str _, fits_text _, fits_text _,
    .str _, fits_time _, fits_nil⟩

/-- A row is read back from the text that is written for it. -/
theorem ofText_compact {row : ProcessRow} (storable : row.Storable) :
    ofText row.toJson.compact = some row :=
  parseAs_record rfl (fits_toJson storable) (ofJson_toJson storable)

/-- A row that was read from a text is read back from its own. -/
theorem storable_of_ofText {s : String} {row : ProcessRow} (read : ofText s = some row) :
    row.Storable := by
  obtain ⟨j, -, read⟩ := Option.bind_eq_some_iff.1 read
  unfold ofJson at read
  split at read
  · dsimp only [Option.bind_eq_bind, Option.pure_def] at read
    simp only [↓Option.bind_eq_some_iff, Option.some.injEq] at read
    obtain ⟨id, hasId, -, -, -, -, -, -, -, -, -, -, -, -, -, -, start, hasStart, stop, hasStop,
      rfl⟩ := read
    obtain ⟨_, id⟩ := Field.of_required hasId
    obtain ⟨_, start⟩ := Field.of_required hasStart
    exact ⟨signed_of_asInt64 id, Instant.known_of_ofJson start, Instant.known_of_optional hasStop⟩
  · cases read

end ProcessRow

/-! ## Rows of the event log -/

namespace EventRow

/-- The ids of the row have their sizes, and its times are known. -/
structure Storable (row : EventRow) : Prop where
  id : Signed 64 row.id
  processId : Signed 64 row.processId
  taskId : ∀ n ∈ row.taskId, Signed 64 n
  startTime : row.startTime.Known
  endTime : ∀ t ∈ row.endTime, t.Known

theorem ofJson_toJson {row : EventRow} (storable : row.Storable) :
    ofJson row.toJson = some row := by
  have status : asEnum .null EventStatus.ofName (.str row.status.name) = some row.status :=
    row.status.ofName_name
  have taskId : (Field.value (ofOption .int row.taskId)).optional asInt64 = some row.taskId :=
    Field.optional_ofOption row.taskId (fun n there => asInt64_int (storable.taskId n there))
      (by simp)
  rw [ofJson, toJson, recordFields_obj]
  · simp only [List.map_cons, List.map_nil, Field.required, asText, asBool, status, optional_str,
      taskId, asInt64_int storable.id, asInt64_int storable.processId,
      Instant.ofJson_toJson storable.startTime, Instant.optional_toJson storable.endTime,
      Option.bind_eq_bind, Option.bind_some, Option.pure_def]
  · rfl
  · decide

theorem fits_toJson {row : EventRow} (storable : row.Storable) : Fits depthLimit row.toJson := by
  refine .mono (.obj (d := 0) ?_) (by decide)
  simp only [List.forall_mem_cons]
  exact ⟨fits_int storable.id, fits_int storable.processId, .str _, .str _, fits_text _,
    fits_ofOption row.taskId fun n there => fits_int (storable.taskId n there), .str _, .str _,
    .str _, .str _, .str _, .bool _, .str _, .str _, fits_time _, fits_text _, fits_text _,
    fits_nil⟩

/-- A row is read back from the text that is written for it. -/
theorem ofText_compact {row : EventRow} (storable : row.Storable) :
    ofText row.toJson.compact = some row :=
  parseAs_record rfl (fits_toJson storable) (ofJson_toJson storable)

/-- A row that was read from a text is read back from its own. -/
theorem storable_of_ofText {s : String} {row : EventRow} (read : ofText s = some row) :
    row.Storable := by
  obtain ⟨j, -, read⟩ := Option.bind_eq_some_iff.1 read
  unfold ofJson at read
  split at read
  · dsimp only [Option.bind_eq_bind, Option.pure_def] at read
    simp only [↓Option.bind_eq_some_iff, Option.some.injEq] at read
    obtain ⟨id, hasId, processId, hasProcess, -, -, -, -, -, -, taskId, hasTask, -, -, -, -, -, -,
      -, -, -, -, -, -, -, -, start, hasStart, stop, hasStop, -, -, -, -, rfl⟩ := read
    obtain ⟨_, id⟩ := Field.of_required hasId
    obtain ⟨_, processId⟩ := Field.of_required hasProcess
    obtain ⟨_, start⟩ := Field.of_required hasStart
    refine ⟨signed_of_asInt64 id, signed_of_asInt64 processId, ?_, Instant.known_of_ofJson start,
      Instant.known_of_optional hasStop⟩
    rintro n rfl
    obtain ⟨_, task⟩ := Field.of_optionalLast (Field.optionalLast_of_optional hasTask)
    exact signed_of_asInt64 task
  · cases read

end EventRow

/-! ## All rows -/

/-- The rows of tasks, of processes and of the event log are read back from their texts, if their
numbers have their sizes and their times are known, as all times of the years 0 to 9999 are. A row
that was read from any text is read back from its own, which does not change any more. -/
theorem rows_round_trip :
    RoundTrips (fun row : TaskRow => row.toJson.compact) TaskRow.ofText TaskRow.Storable ∧
      RoundTrips (fun row : ProcessRow => row.toJson.compact) ProcessRow.ofText
        ProcessRow.Storable ∧
      RoundTrips (fun row : EventRow => row.toJson.compact) EventRow.ofText EventRow.Storable ∧
      ∀ t : Instant, 0 ≤ (Date.ofDays t.dayOf).year → (Date.ofDays t.dayOf).year ≤ 9999 →
        t.nano < Instant.nanosPerSecond → t.Known :=
  ⟨roundTrips_of_reads (fun _ => TaskRow.ofText_compact) fun _ _ => TaskRow.storable_of_ofText,
    roundTrips_of_reads (fun _ => ProcessRow.ofText_compact)
      fun _ _ => ProcessRow.storable_of_ofText,
    roundTrips_of_reads (fun _ => EventRow.ofText_compact) fun _ _ => EventRow.storable_of_ofText,
    fun _ low high fraction => Instant.known_of_year low high fraction⟩

/-! ## A row with marks in its texts -/

namespace Archived

/-- A row with JSON in two of its texts, the greatest and the least of its numbers, and times at
both ends of the years 0 to 9999. -/
def row : TaskRow where
  id := 2 ^ 63 - 1
  taskType := "UserTask"
  processId := -2 ^ 63
  processName := "create \\ \"group\""
  processDisplayName := "é😀\n\t\x01"
  applicant := ""
  name := "review"
  displayName := "review"
  approvers := "alice,bob"
  operator := none
  status := .transferred
  remark := some "/\x7f"
  formData := some "\x7b\"formName\":\"a \\\"b\\\"\"\x7d"
  startTime := ⟨-62167219200, 0⟩
  endTime := some ⟨253402300799, 999999999⟩
  extParams := some "\x7b\"transferToUsers\":[\"dave\"]\x7d"
  version := -2 ^ 31

/-- The members of a row without version: one is unknown, and the times are in offsets. -/
def members : List String :=
  ["\"other\":[1e3],", "\"id\":-1,", "\"start_time\":", "\"1970-01-01T05:30:00.5+05:30\",",
    "\"task_type\":\"\",", "\"process_id\":7,", "\"process_name\":\"P\",",
    "\"status\":\"PENDING\",", "\"process_display_name\":", "\"\\u00e9\",", "\"applicant\":\"\",",
    "\"name\":\"t\",", "\"display_name\":\"t\",", "\"approvers\":\"\"", ",\"operator\":null,",
    "\"end_time\":", "\"1969-12-31 23:59:60-00:00\""]

/-- The text of that row. -/
def loose : String :=
  String.ofList (openBrace :: members.flatMap String.toList ++ [closeBrace])

/-- What the text says. -/
def looseRow : TaskRow where
  id := -1
  taskType := ""
  processId := 7
  processName := "P"
  processDisplayName := "é"
  applicant := ""
  name := "t"
  displayName := "t"
  approvers := ""
  operator := none
  status := .pending
  remark := none
  formData := none
  startTime := ⟨0, 500000000⟩
  endTime := some ⟨-1, 1000000000⟩
  extParams := none
  version := 0

theorem storable_row : row.Storable where
  id := ⟨by decide, by decide⟩
  processId := ⟨by decide, by decide⟩
  startTime := Instant.known_of_year (by decide +kernel) (by decide +kernel) (by decide)
  endTime := by
    rintro t ⟨⟩
    exact Instant.known_of_year (by decide +kernel) (by decide +kernel) (by decide)
  version := ⟨by decide, by decide⟩

theorem ofText_loose : TaskRow.ofText loose = some looseRow := by
  unfold TaskRow.ofText parseAs loose
  rw [String.toList_ofList]
  decide +kernel

/-- Both are read back from the texts that are written for them. -/
theorem row_read_back : TaskRow.ofText row.toJson.compact = some row ∧
    TaskRow.ofText loose = some looseRow ∧
    TaskRow.ofText looseRow.toJson.compact = some looseRow := by
  obtain ⟨⟨reads, settles⟩, -, -, -⟩ := rows_round_trip
  exact ⟨reads row storable_row, ofText_loose, (settles loose _ ofText_loose).1⟩

end Archived

end ApprovalFlow
