import ApprovalFlow.Yaml.Writer
import ApprovalFlow.Text.Case

/-!
# Output formats

What is reported is shown as running text or as structured data, in JSON or in YAML. The name of a
format is read in any case, and two formats have a second name.
-/

namespace ApprovalFlow

/-- The formats of output. -/
inductive OutputFormat where
  | text
  | json
  | yaml
  deriving DecidableEq, Repr, Inhabited

namespace OutputFormat

/-- Every format. -/
def all : List OutputFormat := [text, json, yaml]

/-- The name of a format. -/
def name : OutputFormat → String
  | text => "text"
  | json => "json"
  | yaml => "yaml"

/-- The format of one of its names in lower case. -/
def ofLowerName : String → Option OutputFormat
  | "text" | "plain" => some text
  | "json" => some json
  | "yaml" | "yml" => some yaml
  | _ => none

/-- The format of a name in any case. -/
def ofName (s : String) : Option OutputFormat :=
  ofLowerName (Text.toLower s)

/-- The message for a name that no format has. -/
def unknownMessage (s : String) : String :=
  "Unknown format: " ++ s

/-- A value as structured data; running text is none. -/
def structured (j : Json) : OutputFormat → Option String
  | text => none
  | json => some j.pretty
  | yaml => some (Yaml.text j)

/-- Looking up a format's name finds the format. -/
theorem ofLowerName_name (format : OutputFormat) : ofLowerName format.name = some format := by
  cases format <;> rfl

end OutputFormat

/-- Lines of text, every one ended by a break. -/
def Report.ofLines (lines : List String) : String :=
  String.join (lines.map (· ++ "\n"))

/-- A heading with an empty line before it. -/
def Report.heading (title : String) : List String :=
  ["", title]

end ApprovalFlow
