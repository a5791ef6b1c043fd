import ApprovalFlow.Form.Process
import ApprovalFlow.Form.Task
import ApprovalFlow.Proofs.Json.Records

/-!
# Forms are read back

A form is stored as a text and read back from it, whatever texts are in it. The only thing that a
form may hold and a text may not is a partition number beyond 32 bits, which no text gives.

* `ProcessForm.ofJson_toJson` and `TaskForm.ofJson_toJson`: the records of the forms, assembled from
  those of their parts.
* `forms_round_trip`: the texts of the forms.
-/

namespace ApprovalFlow

open Json

/-! ## The parts of process forms -/

theorem MqType.asEnum_name (mq : MqType) (rule : UnitRule) :
    asEnum rule ofName (.str mq.name) = some mq :=
  ofName_name mq

theorem GroupOperation.asEnum_name (op : GroupOperation) (rule : UnitRule) :
    asEnum rule ofName (.str op.name) = some op :=
  ofName_name op

namespace GroupInfo

theorem ofJson_toJson (g : GroupInfo) : ofJson g.toJson = some g := by
  have name : (Field.value (ofOption .str g.name)).optionalLast asText = some g.name :=
    Field.optionalLast_ofOption g.name (fun _ _ => rfl) (by simp)
  rw [ofJson, toJson, recordFields_obj]
  · simp only [List.map_cons, List.map_nil, Field.required, Field.withDefault, asText, asBool, name,
      MqType.asEnum_name, asList_ofTexts, Option.bind_eq_bind, Option.bind_some, Option.pure_def]
  · rfl
  · decide

theorem fits_toJson (g : GroupInfo) : Fits 2 g.toJson := by
  refine .obj (fits_cons (.str _) (fits_cons ?_ (fits_cons (.str _) (fits_cons (.bool _)
    (fits_cons (fits_ofTexts _) fits_nil)))))
  exact fits_ofOption g.name fun s _ => .str s

end GroupInfo

namespace SinkInfo

theorem ofJson_toJson (s : SinkInfo) : ofJson s.toJson = some s := by
  rw [ofJson, toJson, recordFields_obj]
  · rfl
  · rfl
  · decide

theorem fits_toJson (s : SinkInfo) : Fits 1 s.toJson :=
  .obj (fits_cons (.str _) (fits_cons (.str _) fits_nil))

end SinkInfo

namespace StreamInfo

theorem ofJson_toJson (s : StreamInfo) : ofJson s.toJson = some s := by
  have sinks := asList_map s.sinks fun sink _ => sink.ofJson_toJson
  rw [ofJson, toJson, recordFields_obj]
  · simp only [List.map_cons, List.map_nil, Field.required, Field.withDefault, asText, sinks,
      Option.bind_eq_bind, Option.bind_some, Option.pure_def]
  · rfl
  · decide

theorem fits_toJson (s : StreamInfo) : Fits 3 s.toJson := by
  refine .obj (fits_cons (.str _) (fits_cons (.str _) (fits_cons ?_ fits_nil)))
  exact fits_map s.sinks fun sink _ => sink.fits_toJson

end StreamInfo

namespace ConsumptionInfo

theorem ofJson_toJson (c : ConsumptionInfo) : ofJson c.toJson = some c := by
  rw [ofJson, toJson, recordFields_obj]
  · simp only [List.map_cons, List.map_nil, Field.required, Field.withDefault, asText,
      asList_ofTexts, Option.bind_eq_bind, Option.bind_some, Option.pure_def]
  · rfl
  · decide

theorem fits_toJson (c : ConsumptionInfo) : Fits 2 c.toJson :=
  .obj (fits_cons (.str _) (fits_cons (.str _) (fits_cons (.str _)
    (fits_cons (fits_ofTexts _) fits_nil))))

end ConsumptionInfo

/-! ## Process forms -/

namespace ProcessForm

theorem read_group (group : Option GroupInfo) :
    (Field.value (ofOption GroupInfo.toJson group)).optional GroupInfo.ofJson = some group :=
  Field.optional_ofOption group (fun g _ => g.ofJson_toJson) (by simp [GroupInfo.toJson])

theorem read_consumption (consumption : Option ConsumptionInfo) :
    (Field.value (ofOption ConsumptionInfo.toJson consumption)).optional ConsumptionInfo.ofJson =
      some consumption :=
  Field.optional_ofOption consumption (fun c _ => c.ofJson_toJson)
    (by simp [ConsumptionInfo.toJson])

theorem readStreams_map (streams : List StreamInfo) :
    readStreams (.value (.arr (streams.map StreamInfo.toJson))) = some streams :=
  asList_map streams fun s _ => s.ofJson_toJson

theorem readOperation_name (operation : GroupOperation) :
    readOperation (.value (.str operation.name)) = some operation :=
  operation.asEnum_name .nullOrEmpty

theorem ofFields_members (form : ProcessForm) :
    ofFields form.kind (.obj form.members) = some form := by
  cases form
  all_goals
    rw [kind, members, ofFields, recordFields_obj]
    · simp only [groupMember, streamsMember, operationMember, List.map_cons, List.map_nil,
        read_group, read_consumption, readStreams_map, readOperation_name, Option.bind_eq_bind,
        Option.bind_some, Option.pure_def]
    · rfl
    · decide

theorem ofJson_toJson (form : ProcessForm) : ofJson form.toJson = some form := by
  have tag : "formName" ∉ form.members.map (·.1) := by
    cases form <;> simp [members, groupMember, streamsMember, operationMember]
  rw [ofJson, toJson, splitTag_obj tag]
  simp only [Option.bind_eq_bind, Option.bind_some, ProcessFormKind.ofFormName_formName,
    ofFields_members]

theorem fits_toJson (form : ProcessForm) : Fits depthLimit form.toJson := by
  have group : ∀ g : Option GroupInfo, Fits 4 (ofOption GroupInfo.toJson g) :=
    fun g => fits_ofOption g fun info _ => info.fits_toJson.mono (by decide)
  have consumption : ∀ c : Option ConsumptionInfo, Fits 4 (ofOption ConsumptionInfo.toJson c) :=
    fun c => fits_ofOption c fun info _ => info.fits_toJson.mono (by decide)
  have streams : ∀ ss : List StreamInfo, Fits 4 (.arr (ss.map StreamInfo.toJson)) :=
    fun ss => fits_map ss fun s _ => s.fits_toJson
  have fields : ∀ m ∈ form.members, Fits 4 m.2 := by
    cases form with
    | newGroup g ss | groupResource g ss =>
        exact fits_cons (group g) (fits_cons (streams ss) fits_nil)
    | newConsumption c => exact fits_cons (consumption c) fits_nil
    | updateGroup g op => exact fits_cons (group g) (fits_cons (.str _) fits_nil)
    | lightGroupResource g ss op =>
        exact fits_cons (group g) (fits_cons (streams ss) (fits_cons (.str _) fits_nil))
  exact (Fits.obj (fits_cons (.str _) fields)).mono (by decide)

theorem ofText_toText (form : ProcessForm) : ofText form.toText = some form := by
  rw [ofText, toText, parse_compact form.fits_toJson]
  exact form.ofJson_toJson

end ProcessForm

/-! ## The parts of task forms -/

namespace GroupApproval

/-- The partition number, if there is one, has 32 bits. -/
def Sized (g : GroupApproval) : Prop :=
  ∀ n ∈ g.topicPartitionNum, n < partitionLimit

theorem toJson_eq (g : GroupApproval) : g.toJson =
    .obj [("inlongGroupId", .str g.groupId), ("mqType", .str g.mqType.name),
      ("topicPartitionNum", .ofOption (fun n : Nat => .int n) g.topicPartitionNum)] := by
  rw [toJson]
  cases g.topicPartitionNum <;> rfl

theorem ofJson_toJson {g : GroupApproval} (sized : g.Sized) : ofJson g.toJson = some g := by
  have number : (Field.value (ofOption (fun n : Nat => .int n) g.topicPartitionNum)).optionalLast
      (asNatBelow partitionLimit) = some g.topicPartitionNum := by
    refine Field.optionalLast_ofOption g.topicPartitionNum (fun n member => ?_) (by simp)
    have below : (n : Int) < (partitionLimit : Nat) := Int.ofNat_lt.2 (sized n member)
    rw [asNatBelow, if_pos ⟨Int.natCast_nonneg n, below⟩, Int.toNat_natCast]
  rw [ofJson, toJson_eq, recordFields_obj]
  · simp only [List.map_cons, List.map_nil, Field.required, asText, MqType.asEnum_name, number,
      Option.bind_eq_bind, Option.bind_some, Option.pure_def]
  · rfl
  · decide

theorem fits_toJson {g : GroupApproval} (sized : g.Sized) : Fits 1 g.toJson := by
  rw [toJson_eq]
  refine .obj (fits_cons (.str _) (fits_cons (.str _) (fits_cons ?_ fits_nil)))
  refine fits_ofOption g.topicPartitionNum fun n member => .int ?_ ?_
  · omega
  · have below := sized n member
    rw [partitionLimit] at below
    simp only [Nat.pow_eq] at below
    omega

/-- No text gives another partition number. -/
theorem sized_of_ofJson {j : Json} {g : GroupApproval} (read : ofJson j = some g) : g.Sized := by
  unfold ofJson at read
  split at read
  · rename_i groupId mqType number _
    simp only [Option.bind_eq_bind, Option.pure_def, Option.bind_eq_some_iff,
      Option.some.injEq] at read
    obtain ⟨-, -, -, -, o, number, rfl⟩ := read
    rintro n ⟨⟩
    obtain ⟨j, value⟩ := Field.of_optionalLast number
    exact lt_of_asNatBelow value
  · cases read

end GroupApproval

namespace StreamApproval

theorem ofJson_toJson (s : StreamApproval) : ofJson s.toJson = some s := by
  rw [ofJson, toJson, recordFields_obj]
  · rfl
  · rfl
  · decide

theorem fits_toJson (s : StreamApproval) : Fits 1 s.toJson :=
  .obj (fits_cons (.str _) (fits_cons (.str _) fits_nil))

end StreamApproval

namespace ConsumptionApproval

theorem ofJson_toJson (c : ConsumptionApproval) : ofJson c.toJson = some c := by
  have topic : (Field.value (ofOption .str c.topic)).optionalLast asText = some c.topic :=
    Field.optionalLast_ofOption c.topic (fun _ _ => rfl) (by simp)
  rw [ofJson, toJson, recordFields_obj]
  · simp only [List.map_cons, List.map_nil, Field.required, asText, topic, Option.bind_eq_bind,
      Option.bind_some, Option.pure_def]
  · rfl
  · decide

theorem fits_toJson (c : ConsumptionApproval) : Fits 1 c.toJson :=
  .obj (fits_cons (.str _) (fits_cons (fits_ofOption c.topic fun s _ => .str s) fits_nil))

end ConsumptionApproval

/-! ## Task forms -/

namespace TaskForm

/-- The partition number, if there is one, has 32 bits. -/
def Sized : TaskForm → Prop
  | newGroupApprove group _ => ∀ g ∈ group, g.Sized
  | newConsumptionApprove _ => True

theorem ofFields_members {form : TaskForm} (sized : form.Sized) :
    ofFields form.kind (.obj form.members) = some form := by
  cases form with
  | newGroupApprove group streams =>
      have part : (Field.value (ofOption GroupApproval.toJson group)).optional
          GroupApproval.ofJson = some group :=
        Field.optional_ofOption group (fun g member => GroupApproval.ofJson_toJson (sized g member))
          (by simp [GroupApproval.toJson])
      have others := asList_map streams fun s _ => s.ofJson_toJson
      rw [kind, members, ofFields, recordFields_obj]
      · simp only [List.map_cons, List.map_nil, part, Field.withDefault, others,
          Option.bind_eq_bind, Option.bind_some, Option.pure_def]
      · rfl
      · decide
  | newConsumptionApprove consumption =>
      have part : (Field.value (ofOption ConsumptionApproval.toJson consumption)).optional
          ConsumptionApproval.ofJson = some consumption :=
        Field.optional_ofOption consumption (fun c _ => c.ofJson_toJson)
          (by simp [ConsumptionApproval.toJson])
      rw [kind, members, ofFields, recordFields_obj]
      · simp only [List.map_cons, List.map_nil, part, Option.bind_eq_bind, Option.bind_some,
          Option.pure_def]
      · rfl
      · decide

theorem ofJson_toJson {form : TaskForm} (sized : form.Sized) : ofJson form.toJson = some form := by
  have tag : "formName" ∉ form.members.map (·.1) := by cases form <;> simp [members]
  rw [ofJson, toJson, splitTag_obj tag]
  simp only [Option.bind_eq_bind, Option.bind_some, TaskFormKind.ofFormName_formName,
    ofFields_members sized]

theorem fits_toJson {form : TaskForm} (sized : form.Sized) : Fits depthLimit form.toJson := by
  have fields : ∀ m ∈ form.members, Fits 2 m.2 := by
    cases form with
    | newGroupApprove group streams =>
        refine fits_cons ?_ (fits_cons (fits_map streams fun s _ => s.fits_toJson) fits_nil)
        exact fits_ofOption group fun g member =>
          (GroupApproval.fits_toJson (sized g member)).mono (by decide)
    | newConsumptionApprove consumption =>
        refine fits_cons ?_ fits_nil
        exact fits_ofOption consumption fun c _ => c.fits_toJson.mono (by decide)
  exact (Fits.obj (fits_cons (.str _) fields)).mono (by decide)

theorem ofText_toText {form : TaskForm} (sized : form.Sized) : ofText form.toText = some form := by
  rw [ofText, toText, parse_compact (fits_toJson sized)]
  exact ofJson_toJson sized

/-- Whatever text a form was read from, its partition number has 32 bits. -/
theorem sized_of_ofText {s : String} {form : TaskForm} (read : ofText s = some form) :
    form.Sized := by
  obtain ⟨j, -, read⟩ := Option.bind_eq_some_iff.1 read
  obtain ⟨⟨tag, fields⟩, -, read⟩ := Option.bind_eq_some_iff.1 read
  obtain ⟨kind, -, read⟩ := Option.bind_eq_some_iff.1 read
  unfold ofFields at read
  cases kind with
  | newGroupApprove =>
      dsimp only at read
      split at read
      · simp only [Option.bind_eq_bind, Option.pure_def, Option.bind_eq_some_iff,
          Option.some.injEq] at read
        obtain ⟨group, part, streams, -, rfl⟩ := read
        rintro g ⟨⟩
        obtain ⟨k, value⟩ := Field.of_optionalLast (Field.optionalLast_of_optional part)
        exact GroupApproval.sized_of_ofJson value
      · cases read
  | newConsumptionApprove =>
      dsimp only at read
      split at read
      · obtain ⟨consumption, -, same⟩ := Option.bind_eq_some_iff.1 read
        cases same
        trivial
      · cases read

end TaskForm

/-! ## The texts of forms -/

/-- Process forms are read back from their texts, and so are task forms, whose partition numbers
have 32 bits. A form that was read from any text is read back from its own text, which does not
change any more. -/
theorem forms_round_trip :
    RoundTrips ProcessForm.toText ProcessForm.ofText (fun _ => True) ∧
      RoundTrips TaskForm.toText TaskForm.ofText TaskForm.Sized :=
  ⟨roundTrips_of_reads (fun form _ => form.ofText_toText) fun _ _ _ => trivial,
    roundTrips_of_reads (fun _ => TaskForm.ofText_toText) fun _ _ => TaskForm.sized_of_ofText⟩

/-! ## A form with marks in its texts -/

namespace Ornate

/-- An approval with quotes, backslashes and control characters, and the greatest partition
number. -/
def approval : TaskForm :=
  .newGroupApprove (some ⟨"g\"1\\", .pulsar, some (GroupApproval.partitionLimit - 1)⟩)
    [⟨"g\"1\\", "s\n\t\x01/é😀"⟩]

/-- A text with its members in another order, one of them unknown, one missing, and a record
written as an array. -/
def loose : String :=
  "\x7b \"other\": [1.5e3], \"streamApproveInfos\": [[\"g\", \"\\u00e9\"]]," ++
    "\"formName\": \"NewGroupApproveForm\" \x7d"

theorem sized_approval : approval.Sized := by
  rintro g ⟨⟩ n ⟨⟩
  decide

theorem ofText_loose : TaskForm.ofText loose = some (.newGroupApprove none [⟨"g", "é"⟩]) := by
  decide +kernel

/-- Both are read back from the texts that are written for them. -/
theorem read_back : TaskForm.ofText approval.toText = some approval ∧
    ∃ form, TaskForm.ofText loose = some form ∧ TaskForm.ofText form.toText = some form := by
  obtain ⟨-, reads, settles⟩ := forms_round_trip
  exact ⟨reads approval sized_approval, _, ofText_loose, (settles loose _ ofText_loose).1⟩

end Ornate

end ApprovalFlow
