import ApprovalFlow.Scenario.Basic
import Mathlib.Data.List.Forall2

/-!
# What the selectors of a scenario accept

A scenario names its selectors, and what a name stands for is a matter of the process form alone.
`SelectorSpec.Accepts` says for every name which forms it accepts; `SelectorSpec.accepts_iff` is
that the selector made for the name accepts just these. Names of sinks, like those of the types of
work, are compared letter by letter, and the two forms of an ASCII letter are not told apart
(`Text.Alike`).
-/

namespace ApprovalFlow

/-! ## Letters in either form -/

namespace Text

/-- The same character, or the capital and the small form of one ASCII letter. -/
def AlikeChar (c d : Char) : Prop :=
  c = d ∨ ('A' ≤ c ∧ c ≤ 'Z' ∧ d.toNat = c.toNat + 32) ∨
    ('A' ≤ d ∧ d ≤ 'Z' ∧ c.toNat = d.toNat + 32)

/-- Two texts that are the same but for the forms of ASCII letters. -/
def Alike (s t : String) : Prop :=
  List.Forall₂ AlikeChar s.toList t.toList

theorem toNat_lowerAscii (c : Char) :
    (lowerAscii c).toNat = if 65 ≤ c.toNat ∧ c.toNat ≤ 90 then c.toNat + 32 else c.toNat := by
  have capital : 'A' ≤ c ∧ c ≤ 'Z' ↔ 65 ≤ c.toNat ∧ c.toNat ≤ 90 := Iff.rfl
  unfold lowerAscii
  simp only [capital]
  split
  · have valid : Nat.isValidChar (c.toNat + 32) := Or.inl (by omega)
    rw [Char.ofNat, dif_pos valid]
    rfl
  · rfl

theorem lowerAscii_eq_iff {c d : Char} : lowerAscii c = lowerAscii d ↔ AlikeChar c d := by
  have bounds : ∀ c : Char, ('A' ≤ c ↔ 65 ≤ c.toNat) ∧ (c ≤ 'Z' ↔ c.toNat ≤ 90) :=
    fun _ => ⟨Iff.rfl, Iff.rfl⟩
  rw [← Char.toNat_inj, toNat_lowerAscii, toNat_lowerAscii, AlikeChar, ← Char.toNat_inj]
  simp only [bounds]
  split <;> split <;> omega

theorem equalsIgnoringAsciiCase_iff {s t : String} :
    equalsIgnoringAsciiCase s t = true ↔ Alike s t := by
  rw [equalsIgnoringAsciiCase, beq_iff_eq, ← List.forall₂_eq_eq_eq, List.forall₂_map_left_iff,
    List.forall₂_map_right_iff]
  simp only [lowerAscii_eq_iff]
  rfl

end Text

/-! ## Forms -/

/-- Which forms a selector of a scenario accepts. What is said about a group is said about the group
of a form that sets its resources up. -/
inductive SelectorSpec.Accepts : SelectorSpec → Option ProcessForm → Prop
  | always (form : Option ProcessForm) : Accepts .always form
  /-- The group is behind the type of queue. -/
  | mqType (group : GroupInfo) (streams : List StreamInfo) :
    Accepts (.mqType group.mqType) (some (.groupResource (some group) streams))
  /-- The group does, or does not, coordinate through ZooKeeper. -/
  | zookeeper (group : GroupInfo) (streams : List StreamInfo) :
    Accepts (.zookeeper group.enableZookeeper) (some (.groupResource (some group) streams))
  /-- The operation is asked for on a group. -/
  | sourceOperate (group : GroupInfo) (operation : GroupOperation) :
    Accepts (.sourceOperate operation) (some (.updateGroup (some group) operation))
  /-- One of the streams has a sink of the type. -/
  | sinkType {sinkType : String} {group : GroupInfo} {streams : List StreamInfo}
    {stream : StreamInfo} {sink : SinkInfo} : stream ∈ streams → sink ∈ stream.sinks →
    Text.Alike sink.sinkType sinkType →
    Accepts (.sinkType sinkType) (some (.groupResource (some group) streams))
  /-- A light group has a stream. -/
  | lightGroup (group : Option GroupInfo) (stream : StreamInfo) (streams : List StreamInfo)
    (operation : GroupOperation) :
    Accepts .lightGroup (some (.lightGroupResource group (stream :: streams) operation))

namespace Selector

theorem ofResource_eq_true_iff {test : GroupInfo → List StreamInfo → Bool} {s : Snapshot} :
    ofResource test s = true ↔ ∃ group streams,
      s.form = some (.groupResource (some group) streams) ∧ test group streams = true := by
  unfold ofResource
  split
  · rename_i group streams form
    rw [form]
    constructor
    · exact fun passed => ⟨group, streams, rfl, passed⟩
    · rintro ⟨_, _, ⟨⟩, passed⟩
      exact passed
  · rename_i other
    refine iff_of_false Bool.false_ne_true ?_
    rintro ⟨group, streams, form, -⟩
    exact other group streams form

theorem mqTypeIs_iff (mq : MqType) (s : Snapshot) :
    mqTypeIs mq s = true ↔ SelectorSpec.Accepts (.mqType mq) s.form := by
  rw [mqTypeIs, ofResource_eq_true_iff]
  generalize s.form = form
  constructor
  · rintro ⟨group, streams, rfl, same⟩
    obtain rfl := beq_iff_eq.1 same
    exact .mqType group streams
  · rintro ⟨⟩
    exact ⟨_, _, rfl, beq_self_eq_true _⟩

theorem zookeeperIs_iff (enabled : Bool) (s : Snapshot) :
    zookeeperIs enabled s = true ↔ SelectorSpec.Accepts (.zookeeper enabled) s.form := by
  rw [zookeeperIs, ofResource_eq_true_iff]
  generalize s.form = form
  constructor
  · rintro ⟨group, streams, rfl, same⟩
    obtain rfl := beq_iff_eq.1 same
    exact .zookeeper group streams
  · rintro ⟨⟩
    exact ⟨_, _, rfl, beq_self_eq_true _⟩

theorem hasSinkType_iff (sinkType : String) (s : Snapshot) :
    hasSinkType sinkType s = true ↔ SelectorSpec.Accepts (.sinkType sinkType) s.form := by
  rw [hasSinkType, ofResource_eq_true_iff]
  simp only [List.any_eq_true, Text.equalsIgnoringAsciiCase_iff]
  generalize s.form = form
  constructor
  · rintro ⟨group, streams, rfl, stream, listed, sink, there, alike⟩
    exact .sinkType listed there alike
  · rintro ⟨⟩
    rename_i listed there alike
    exact ⟨_, _, rfl, _, listed, _, there, alike⟩

theorem operationIs_iff (operation : GroupOperation) (s : Snapshot) :
    operationIs operation s = true ↔ SelectorSpec.Accepts (.sourceOperate operation) s.form := by
  unfold operationIs
  generalize s.form = form
  constructor
  · intro passed
    split at passed
    · obtain rfl := beq_iff_eq.1 passed
      exact .sourceOperate ..
    · cases passed
  · rintro ⟨⟩
    exact beq_self_eq_true operation

theorem lightGroupWithStreams_iff (s : Snapshot) :
    lightGroupWithStreams s = true ↔ SelectorSpec.Accepts .lightGroup s.form := by
  unfold lightGroupWithStreams
  generalize s.form = form
  constructor
  · intro passed
    split at passed
    · rename_i streams _
      cases streams with
      | nil => cases passed
      | cons stream streams => exact .lightGroup ..
    · cases passed
  · rintro ⟨⟩
    rfl

end Selector

/-- The selector that is made accepts the forms that its name stands for. -/
theorem SelectorSpec.accepts_iff {spec : SelectorSpec} {selector : Selector}
    (built : spec.build = .ok selector) (s : Snapshot) :
    selector s = true ↔ spec.Accepts s.form := by
  cases spec with
  | always =>
      cases built
      exact iff_of_true rfl (.always s.form)
  | mqType mq =>
      cases built
      exact Selector.mqTypeIs_iff mq s
  | zookeeper enabled =>
      cases built
      exact Selector.zookeeperIs_iff enabled s
  | sourceOperate operation =>
      cases operation <;> cases built <;> exact Selector.operationIs_iff _ s
  | sinkType sinkType =>
      cases built
      exact Selector.hasSinkType_iff sinkType s
  | lightGroup =>
      cases built
      exact Selector.lightGroupWithStreams_iff s

end ApprovalFlow
