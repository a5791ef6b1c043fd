import ApprovalFlow.Config.Load
import ApprovalFlow.Proofs.Checks
import ApprovalFlow.Proofs.Config.Tree
import ApprovalFlow.Proofs.Json.Places

/-!
# Settings in layers

Of each setting the configuration has the value that the environment gives, else the one that the
file gives, else the default, and one setting does not depend on the others. This holds as long as
every source leaves each setting its place: one of its names at most leads there, to a plain value,
and what is on the way there are tables. A section that is written as a list, or turned into one by
a name that counts its places, has its settings by place, so a name such as `approval[0]` sets
something under another name.

* `Config.Plain`: sources that leave each setting its place.
* `Config.Setting.inForce`: the value of a setting by layers.
* `Config.settings_layered`: the configuration, and what it does not depend on.
-/

namespace ApprovalFlow.Config

/-! ## The settings -/

/-- A setting: its section, its name, its default and how it is read. -/
structure Setting (α : Type) where
  group : String
  name : String
  default : α
  read : Tree → Except LoadError α

/-- The keys that lead to a setting. -/
def Setting.place {α : Type} (s : Setting α) : List String :=
  [s.group, s.name]

def workers : Setting Nat :=
  ⟨"notifier", "workers", WorkflowConfig.standard.workers, readCount⟩

def queueCapacity : Setting (Option Nat) :=
  ⟨"notifier", "queue_capacity", none, readCount?⟩

def systemOperator : Setting String :=
  ⟨"approval", "system_operator", WorkflowConfig.standard.systemOperator, readName⟩

/-- The places of all settings. -/
def places : List (List String) :=
  [workers.place, queueCapacity.place, systemOperator.place]

/-! ## Sources and layers -/

/-- A source that leaves each setting its place and sets it at most once. -/
structure Plain (entries : List Entry) : Prop where
  respects : ∀ place ∈ places, entries.all (·.respects place) = true
  once : ∀ place ∈ places, (entries.filter fun e => (e.at? place).isSome).length ≤ 1

/-- What a source gives for a place. -/
def given (entries : List Entry) (place : List String) : Option Tree :=
  entries.findSome? (·.at? place)

/-- The value of a setting: the one that the first layer gives which gives any, else the default. -/
def Setting.inForce {α : Type} (s : Setting α) (layers : List (List Entry)) : Except LoadError α :=
  readOr s.default (s.group ++ ("." ++ s.name)) s.read (layers.findSome? (given · s.place))

/-- Each setting has the value that it has by layers. -/
structure InForce (layers : List (List Entry)) (c : WorkflowConfig) : Prop where
  workers : Config.workers.inForce layers = .ok c.workers
  queueCapacity : Config.queueCapacity.inForce layers = .ok c.queueCapacity
  systemOperator : Config.systemOperator.inForce layers = .ok c.systemOperator

/-- The configuration by layers. -/
def settle (layers : List (List Entry)) : Except LoadError WorkflowConfig := do
  return ⟨← workers.inForce layers, ← queueCapacity.inForce layers,
    ← systemOperator.inForce layers⟩

theorem settle_eq_ok_iff (layers : List (List Entry)) (c : WorkflowConfig) :
    settle layers = .ok c ↔ InForce layers c := by
  constructor
  · intro settled
    obtain ⟨w, workers, settled⟩ := Except.bind_eq_ok.1 settled
    obtain ⟨q, queueCapacity, settled⟩ := Except.bind_eq_ok.1 settled
    obtain ⟨o, systemOperator, settled⟩ := Except.bind_eq_ok.1 settled
    cases settled
    exact ⟨workers, queueCapacity, systemOperator⟩
  · rintro ⟨workers, queueCapacity, systemOperator⟩
    rw [settle, workers, queueCapacity, systemOperator]
    rfl

theorem settle_congr {layers others : List (List Entry)}
    (same : ∀ place ∈ places, layers.findSome? (given · place) = others.findSome? (given · place)) :
    settle layers = settle others := by
  simp only [places, List.forall_mem_cons, List.not_mem_nil] at same
  obtain ⟨w, q, o, -⟩ := same
  simp only [settle, Setting.inForce, w, q, o]

/-! ## The tree of all layers -/

/-- The tree that settings are laid over. -/
def standardTree : Tree :=
  Tree.empty.lay standardEntries

/-- Layers over one another, the first on top. -/
def stacked (layers : List (List Entry)) : Tree :=
  layers.foldr (fun entries t => t.lay entries) standardTree

/-- Names that lead somewhere, in sources that are plain. -/
structure Layered (layers : List (List Entry)) : Prop where
  named : ∀ entries ∈ layers, ∀ e ∈ entries, e.path ≠ []
  plain : ∀ entries ∈ layers, Plain entries

theorem Layered.tail {entries : List Entry} {layers : List (List Entry)}
    (layered : Layered (entries :: layers)) : Layered layers where
  named entries' member := layered.named entries' (List.mem_cons_of_mem _ member)
  plain entries' member := layered.plain entries' (List.mem_cons_of_mem _ member)

theorem at?_stacked {layers : List (List Entry)} (layered : Layered layers) {place : List String}
    (setting : place ∈ places) :
    (stacked layers).at? place =
      (layers.findSome? (given · place)).or (standardTree.at? place) := by
  induction layers with
  | nil => rfl
  | cons entries layers ih =>
      have plain := layered.plain entries (List.mem_cons_self ..)
      rw [stacked, List.foldr_cons, ← stacked,
        Tree.at?_lay _ (layered.named entries (List.mem_cons_self ..))
          (plain.respects place setting) (plain.once place setting),
        ih layered.tail, List.findSome?_cons, ← Option.or_assoc, given]
      cases entries.findSome? (·.at? place) with
      | none => rw [Option.none_or]
      | some value => rfl

theorem hasTable_stacked {layers : List (List Entry)} (layered : Layered layers) {key name : String}
    (setting : [key, name] ∈ places) (standard : standardTree.HasTable key) :
    (stacked layers).HasTable key := by
  induction layers with
  | nil => exact standard
  | cons entries layers ih =>
      have plain := layered.plain entries (List.mem_cons_self ..)
      exact Tree.hasTable_lay (layered.named entries (List.mem_cons_self ..))
        (plain.respects _ setting) (ih layered.tail)

/-! ## Reading the tree -/

/-- A setting is found in its section, if the section is a table. -/
theorem readField_of_table {α : Type} (s : Setting α) {t : Tree} {origin : Option String}
    {members : List (String × Tree)} (found : t.get? s.group = some (.table origin members))
    (place : Nat) :
    readField s.group (.table origin members) s.name place s.default s.read =
      readOr s.default (s.group ++ ("." ++ s.name)) s.read (t.at? s.place) := by
  have setting : t.at? s.place = (Tree.table origin members).get? s.name := by
    rw [Setting.place, Tree.at?_cons, found, Option.bind_some, Tree.at?_cons]
    exact Option.bind_fun_some _
  rw [setting]
  rfl

theorem readField_stacked {α : Type} (s : Setting α) {layers : List (List Entry)}
    (layered : Layered layers) (setting : s.place ∈ places)
    (standard : ∀ o, readOr s.default (s.group ++ ("." ++ s.name)) s.read
      (o.or (standardTree.at? s.place)) =
        readOr s.default (s.group ++ ("." ++ s.name)) s.read o)
    {origin : Option String} {members : List (String × Tree)}
    (found : (stacked layers).get? s.group = some (.table origin members)) (place : Nat) :
    readField s.group (.table origin members) s.name place s.default s.read =
      s.inForce layers := by
  rw [readField_of_table s found, at?_stacked layered setting, standard, Setting.inForce]

/-- The configuration is read off the tree of all layers setting by setting. -/
theorem configOfTree_stacked {layers : List (List Entry)} (layered : Layered layers) :
    configOfTree (stacked layers) = settle layers := by
  have workersPlace : workers.place ∈ places := by decide
  have queuePlace : queueCapacity.place ∈ places := by decide
  have operatorPlace : systemOperator.place ∈ places := by decide
  obtain ⟨origin, members, notifier⟩ := hasTable_stacked layered workersPlace ⟨_, _, rfl⟩
  obtain ⟨origin', members', approval⟩ := hasTable_stacked layered operatorPlace ⟨_, _, rfl⟩
  have w := readField_stacked workers layered workersPlace (by rintro (_ | _) <;> rfl) notifier 0
  have q := readField_stacked queueCapacity layered queuePlace (by rintro (_ | _) <;> rfl)
    notifier 1
  have o := readField_stacked systemOperator layered operatorPlace (by rintro (_ | _) <;> rfl)
    approval 0
  simp only [workers, queueCapacity, systemOperator] at w q o notifier approval
  simp only [configOfTree, notifier, approval, Option.getD_some, w, q, o]
  rfl

/-! ## Sources of names -/

theorem Path.ofName_ne_nil (name : String) : Path.ofName name ≠ [] := by
  unfold Path.ofName
  cases readKey name.toList with
  | none => exact List.cons_ne_nil _ _
  | some read =>
      obtain ⟨key, rest⟩ := read
      simp only [Option.bind_eq_bind, Option.bind_some]
      cases readSteps rest.length rest with
      | none => exact List.cons_ne_nil _ _
      | some steps => exact List.cons_ne_nil _ _

theorem named_environment (word : String) (vars : List (String × String)) :
    ∀ e ∈ entriesOfEnvironment word vars, e.path ≠ [] := by
  intro e member
  obtain ⟨var, -, entry⟩ := List.mem_filterMap.1 member
  simp only [entryOfVariable, Option.ite_none_right_eq_some, Option.some.injEq] at entry
  obtain ⟨-, rfl⟩ := entry
  dsimp only
  exact Path.ofName_ne_nil _

theorem named_file {file content : String} {entries : List Entry}
    (parsed : entriesOfFile file content = .ok entries) : ∀ e ∈ entries, e.path ≠ [] := by
  unfold entriesOfFile at parsed
  split at parsed
  · cases parsed
  · cases parsed
    intro e member
    obtain ⟨m, -, rfl⟩ := List.mem_map.1 member
    exact fun none => Path.ofName_ne_nil m.1 (List.map_eq_nil_iff.1 none)
  · split at parsed
    · cases parsed
    · cases parsed

/-! ## Loading -/

/-- A file of the name holds settings. -/
def Holds (files : Files) (name : String) (entries : List Entry) : Prop :=
  ∃ file content, findFile files name = .ok (file, content) ∧
    entriesOfFile file content = .ok entries

/-- Two sources give the same for all settings. -/
def Agree (entries others : List Entry) : Prop :=
  ∀ place ∈ places, given entries place = given others place

theorem loadEnvironment_eq {word : String} {vars : List (String × String)}
    (plain : Plain (entriesOfEnvironment word vars)) :
    loadEnvironment word vars = settle [entriesOfEnvironment word vars] := by
  have layered : Layered [entriesOfEnvironment word vars] := by
    constructor
    · exact List.forall_mem_singleton.2 (named_environment word vars)
    · exact List.forall_mem_singleton.2 plain
  exact configOfTree_stacked layered

theorem loadFile_eq {files : Files} {name : String} {entries : List Entry}
    {vars : List (String × String)} (holds : Holds files name entries) (plain : Plain entries)
    (plainEnvironment : Plain (entriesOfEnvironment standardWord vars)) :
    loadFile files name vars = settle [entriesOfEnvironment standardWord vars, entries] := by
  obtain ⟨file, content, found, parsed⟩ := holds
  have layered : Layered [entriesOfEnvironment standardWord vars, entries] := by
    constructor
    · exact List.forall_mem_cons.2 ⟨named_environment standardWord vars,
        List.forall_mem_singleton.2 (named_file parsed)⟩
    · exact List.forall_mem_cons.2 ⟨plainEnvironment, List.forall_mem_singleton.2 plain⟩
  rw [← configOfTree_stacked layered, loadFile, found]
  simp only [bind, Except.bind, parsed]
  rfl

/-- What is loaded, from the environment alone or from a file below it, has each setting as the
layers have it. What else is in the sources makes no difference. -/
theorem settings_layered :
    (∀ word vars, Plain (entriesOfEnvironment word vars) → ∀ c,
      loadEnvironment word vars = .ok c ↔ InForce [entriesOfEnvironment word vars] c) ∧
    (∀ files name entries vars, Holds files name entries → Plain entries →
      Plain (entriesOfEnvironment standardWord vars) → ∀ c,
      loadFile files name vars = .ok c ↔
        InForce [entriesOfEnvironment standardWord vars, entries] c) ∧
    (∀ word vars word' vars', Plain (entriesOfEnvironment word vars) →
      Plain (entriesOfEnvironment word' vars') →
      Agree (entriesOfEnvironment word vars) (entriesOfEnvironment word' vars') →
      loadEnvironment word vars = loadEnvironment word' vars') ∧
    ∀ files name entries vars files' name' entries' vars', Holds files name entries →
      Holds files' name' entries' → Plain entries → Plain entries' →
      Plain (entriesOfEnvironment standardWord vars) →
      Plain (entriesOfEnvironment standardWord vars') → Agree entries entries' →
      Agree (entriesOfEnvironment standardWord vars) (entriesOfEnvironment standardWord vars') →
      loadFile files name vars = loadFile files' name' vars' := by
  refine ⟨?environment, ?file, ?otherEnvironment, ?otherFile⟩
  case environment =>
    intro word vars plain c
    rw [loadEnvironment_eq plain, settle_eq_ok_iff]
  case file =>
    intro files name entries vars holds plain plainEnvironment c
    rw [loadFile_eq holds plain plainEnvironment, settle_eq_ok_iff]
  case otherEnvironment =>
    intro word vars word' vars' plain plain' agree
    rw [loadEnvironment_eq plain, loadEnvironment_eq plain']
    refine settle_congr fun place setting => ?_
    simp only [List.findSome?_cons, agree place setting]
  case otherFile =>
    intro files name entries vars files' name' entries' vars' holds holds' plain plain'
      plainEnvironment plainEnvironment' agree agreeEnvironment
    rw [loadFile_eq holds plain plainEnvironment, loadFile_eq holds' plain' plainEnvironment']
    refine settle_congr fun place setting => ?_
    simp only [List.findSome?_cons, agree place setting, agreeEnvironment place setting]

/-! ## A file below an environment -/

namespace Sample

/-- The members of a file: the workers are set in their section and the operator by a path. -/
def members : List (String × Json) :=
  [("Approval.System_Operator", .str "root"),
    ("notifier", .obj [("workers", .int 8), ("x", .int 3)])]

def files : Files :=
  [("conf.json", (Json.obj members).compact)]

def entries : List Entry :=
  entriesOfMembers "conf.json" members

/-- Variables that set the workers again, and something else. -/
def vars : List (String × String) :=
  [("INLONG__Notifier__Workers", "4"), ("INLONG__LOG[0]", "x"), ("HOME", "/root")]

theorem settled_members : Json.Settled (.obj members) := by
  have inner : Json.Settled (.obj [("workers", .int 8), ("x", .int 3)]) :=
    .obj (by decide) (List.forall_mem_cons.2 ⟨.int 8, List.forall_mem_singleton.2 (.int 3)⟩)
  exact .obj (by decide) (List.forall_mem_cons.2 ⟨.str _, List.forall_mem_singleton.2 inner⟩)

theorem fits_members : Json.Fits Json.depthLimit (.obj members) := by
  have inner : Json.Fits 1 (.obj [("workers", .int 8), ("x", .int 3)]) :=
    .obj (Json.fits_cons (.int (by decide) (by decide))
      (Json.fits_cons (.int (by decide) (by decide)) Json.fits_nil))
  exact .mono (.obj (Json.fits_cons (.str _) (Json.fits_cons inner Json.fits_nil))) (by decide)

theorem holds : Holds files "conf.json" entries := by
  have parsed : (Json.parse (Json.obj members).compact).map Json.canonical =
      some (.obj members) := by
    rw [Json.parse_compact fits_members, Option.map_some, settled_members.canonical_eq]
  refine ⟨"conf.json", (Json.obj members).compact, by decide +kernel, ?_⟩
  rw [entriesOfFile, parsed]
  rfl

theorem plain_entries : Plain entries :=
  ⟨by decide +kernel, by decide +kernel⟩

theorem plain_vars : Plain (entriesOfEnvironment standardWord vars) :=
  ⟨by decide +kernel, by decide +kernel⟩

/-- The workers are those of the environment, the operator is that of the file, and the capacity is
the default. -/
theorem loaded_by_layers : loadFile files "conf.json" vars = .ok ⟨4, none, "root"⟩ :=
  (settings_layered.2.1 files "conf.json" entries vars holds plain_entries plain_vars _).2
    ⟨by decide +kernel, by decide +kernel, by decide +kernel⟩

/-- A variable that counts a place of the section on approvals. -/
def counted : List (String × String) :=
  [("ORC__APPROVAL[0]", "bot")]

/-- A variable may lead neither to a setting nor towards or past one, and yet set it: behind it the
section is a list, of which the operator is the first item. -/
theorem counted_place_sets_operator :
    (∀ e ∈ entriesOfEnvironment "ORC" counted, ∀ place ∈ places,
      ¬ e.path <+: place.map Step.key ∧ ¬ place.map Step.key <+: e.path) ∧
    loadEnvironment "ORC" [] = .ok WorkflowConfig.standard ∧
    loadEnvironment "ORC" counted = .ok ⟨20, none, "bot"⟩ := by
  decide +kernel

end Sample

end ApprovalFlow.Config
