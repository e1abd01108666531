import ScriptTypes.Migration

/-!
# Tools for other programs

The library offers two tools to programs that call tools: one annotates a source, the
other migrates files, as a dry run unless told otherwise.
-/

namespace ScriptTypes.ToolServer

/-- The name of the server. -/
def name : String := "tsmigrate"

/-- What the server tells programs about itself. -/
def instructions : String := "Infer TypeScript annotations for JavaScript sources."

/-- A tool, as programs see it. -/
structure Tool where
  /-- The name of the tool. -/
  name : String
  /-- What the tool does. -/
  description : String

/-- The tools in the order of their names. -/
def tools : List Tool :=
  [⟨"annotate", "Return JavaScript source with inferred TypeScript annotations."⟩,
   ⟨"migrate", "Migrate a JavaScript file or directory to TypeScript (dry run by default)."⟩]

/-- The tool that annotates a source; the log calls the dialect by its own name. -/
def annotateTool (parse : Parser) (source language : String) : Logged Annotation.Annotated :=
  match Dialect.ofName language with
  | .error f => ⟨[], .error f⟩
  | .ok dialect => annotate parse source dialect.name true

/-- The tool that migrates files. -/
def migrateTool (parse : Parser) (disk : Files.Disk) (path : String) (dryRun : Bool) :
    Work (List FileReport) :=
  migratePath parse { dryRun } disk (.ofText path) path

end ScriptTypes.ToolServer
