import Highlight.Builtin.Pipeline
import Highlight.Builtin.Shell
import Highlight.Registry

/-!
# The built-in registry

The grammars of pipeline definitions and of shell scripts, and the extensions of their files.
When both have the same identifier, the grammar of pipeline definitions is in force.
-/

namespace Highlight.Builtin

/-- The identifier of the grammar of pipeline definitions if no other is chosen. -/
def pipelineId : String := "pipeline-yaml"

/-- The identifier of the grammar of shell scripts if no other is chosen. -/
def shellId : String := "shell-script"

/-- The built-in grammars, in the order in which they are registered. -/
def grammars (pipeline shell : String) : List Grammar :=
  [Shell.grammar shell, Pipeline.grammar pipeline shell]

/-- The registry of the built-in grammars. -/
def registry (pipeline shell : String) : Registry :=
  let r := (grammars pipeline shell).foldl Registry.insert .empty
  let r := ["yml", "yaml"].foldl (fun r e => r.addExtension e pipeline) r
  ["ps1", "psm1", "psd1"].foldl (fun r e => r.addExtension e shell) r

end Highlight.Builtin
