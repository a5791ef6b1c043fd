import ApprovalFlow.Config.Basic
import ApprovalFlow.Report.Format

/-!
# Showing the configuration

The configuration in force, as structured data or as running text under two headings, with the file
it was read from.
-/

namespace ApprovalFlow.WorkflowConfig

/-- The text for a configuration that no file was read for. -/
def noFile : String := "[environment only]"

/-- The capacity of a queue in running text. -/
def capacityText : Option Nat → String
  | some n => toString n
  | none => "unbounded"

/-- The configuration as running text. -/
def text (c : WorkflowConfig) (file : Option String) : String :=
  Report.ofLines
    (["Config file: " ++ file.getD noFile] ++
      Report.heading "Notifier" ++
      ["  workers: " ++ toString c.workers,
        "  queue_capacity: " ++ capacityText c.queueCapacity] ++
      Report.heading "Approval" ++
      ["  system_operator: " ++ c.systemOperator])

/-- The configuration in a format. -/
def shown (c : WorkflowConfig) (file : Option String) (format : OutputFormat) : String :=
  match format.structured c.toJson with
  | some s => s ++ "\n"
  | none => c.text file

end ApprovalFlow.WorkflowConfig
