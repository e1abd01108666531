import ScriptTypes.Annotation.Annotated
import ScriptTypes.Dialect

/-!
# Annotating a source

The parser is somebody else's: a function from a dialect and a text to a tree, which
also says whether the text was well formed. A text that is not may be annotated all
the same, as far as its tree goes, or be refused.
-/

namespace ScriptTypes

open Syntax (Node)
open Annotation (Annotated Document)

/-- What a parser answers. -/
structure Parse where
  /-- The root of the tree. -/
  root : Node
  /-- Whether the text is not well formed. -/
  hasErrors : Bool

/-- A parser of all dialects. -/
abbrev Parser := Dialect → String → Parse

/-! ## Annotating -/

/-- Parses a source in a dialect of that name; syntax errors are logged, or refused. -/
def readDocument (parse : Parser) (source language : String) (allowErrors : Bool) :
    Logged Document :=
  match Dialect.ofName language with
  | .error f => ⟨[], .error f⟩
  | .ok dialect =>
    let tree := parse dialect source
    if !tree.hasErrors then ⟨[], .ok ⟨source, tree.root⟩⟩
    else if allowErrors then ⟨[.recoveredTree language], .ok ⟨source, tree.root⟩⟩
    else ⟨[], .error (.syntaxErrors language)⟩

/-- Annotates a source in a dialect of that name. -/
def annotate (parse : Parser) (source language : String) (allowErrors : Bool) : Logged Annotated :=
  (readDocument parse source language allowErrors).andThen Document.annotate

/-! ## A second grammar -/

/-- Whether a source was refused for syntax errors. -/
def Logged.isRefusal {α : Type} (l : Logged α) : Bool :=
  match l.result with
  | .error (.syntaxErrors _) => true
  | _ => false

/-- The result together with the name of the dialect that it was made in. -/
def Logged.inDialect (l : Logged Annotated) (language : String) : Logged (Annotated × String) :=
  ⟨l.log, l.result.map (·, language)⟩

/-- The same behind what was logged before. -/
def Logged.behind {α : Type} (log : List Event) (l : Logged α) : Logged α :=
  ⟨log ++ l.log, l.result⟩

/-- Annotates a source in the first of some dialects whose grammar does not refuse it, and if all
of them do gives what is left to give in the end. What a refused attempt logged stays logged. -/
def annotateInFirst (parse : Parser) (source : String) (last : Logged (Annotated × String)) :
    List String → Logged (Annotated × String)
  | [] => last
  | language :: others =>
    let attempt := annotate parse source language false
    if attempt.isRefusal then (annotateInFirst parse source last others).behind attempt.log
    else attempt.inDialect language

/-- The dialects in which a source is tried if one of that name is asked for. -/
def candidates (language : String) : List String :=
  if language = "tsx" then [language] else [language, "tsx"]

/--
Annotates a source in the dialect of that name. If its grammar refuses the source the
grammar with markup is tried, and if that refuses it, too, errors are allowed or the
source is refused.
-/
def annotateWithFallback (parse : Parser) (source language : String) (allowErrors : Bool) :
    Logged (Annotated × String) :=
  let last := if allowErrors then (annotate parse source language true).inDialect language
    else ⟨[], .error (.syntaxErrors language)⟩
  annotateInFirst parse source last (candidates language)

end ScriptTypes
