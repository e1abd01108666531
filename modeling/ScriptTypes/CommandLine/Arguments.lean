/-!
# Options and arguments

Words that start with a dash are options, up to a word of two dashes. An option of
several letters has its value in the same word, after `=`, or in the next one.
Options of one letter can be written together in one word; the first of them that
takes a value has the rest of the word as its value, or else the next word.
-/

namespace ScriptTypes.CommandLine

/-- An option that a command knows. -/
structure OptionSpec where
  /-- The ways to write it, with their dashes. -/
  spellings : List String
  /-- Whether it takes a value. -/
  takesValue : Bool := false

/-- The first way to write an option stands for all. -/
def OptionSpec.name (o : OptionSpec) : String := o.spellings.headD ""

/-- What is wrong with a command line. -/
inductive UsageFault where
  | unknownOption (word : String)
  | valueMissing (option : String)
  | valueNotTaken (option : String)
  | valueInvalid (option value : String)
  | unknownCommand (word : String)
  | commandMissing
  | argumentMissing (name : String)
  | argumentSurplus (word : String)
deriving DecidableEq, Repr

/-- The wording of a usage error. -/
def UsageFault.message : UsageFault → String
  | unknownOption word => s!"No such option: {word}"
  | valueMissing option => s!"Option '{option}' requires an argument."
  | valueNotTaken option => s!"Option '{option}' does not take a value."
  | valueInvalid option value => s!"Invalid value for '{option}': {value}"
  | unknownCommand word => s!"No such command '{word}'."
  | commandMissing => "Missing command."
  | argumentMissing name => s!"Missing argument '{name}'."
  | argumentSurplus word => s!"Got unexpected extra argument ({word})"

/-- An option as it was given. -/
structure Given where
  /-- The name of the option. -/
  name : String
  /-- Its value, if it takes one. -/
  value : Option String
deriving DecidableEq, Repr

/-- Options that a word gives, and one more that still wants a value. -/
structure Word where
  /-- The options that are complete. -/
  given : List Given
  /-- The option that takes the next word as its value. -/
  wanting : Option OptionSpec

/-- The option of a spelling. -/
def optionOf? (specs : List OptionSpec) (spelling : String) : Option OptionSpec :=
  specs.find? fun o => o.spellings.contains spelling

/-- Options of one letter, written together. -/
def letters (specs : List OptionSpec) : List Char → Except UsageFault Word
  | [] => .ok ⟨[], none⟩
  | c :: cs =>
    let spelling := String.ofList ['-', c]
    match optionOf? specs spelling with
    | none => .error (.unknownOption spelling)
    | some o =>
      if !o.takesValue then
        (letters specs cs).map fun w => { w with given := ⟨o.name, none⟩ :: w.given }
      else if cs = [] then .ok ⟨[], some o⟩
      else .ok ⟨[⟨o.name, some (String.ofList cs)⟩], none⟩

/-- What a word that starts with a dash gives. -/
def wordOf (specs : List OptionSpec) (word : String) : Except UsageFault Word :=
  let cs := word.toList
  let spelling := String.ofList (cs.takeWhile (· ≠ '='))
  let inline :=
    match cs.dropWhile (· ≠ '=') with
    | _ :: value => some (String.ofList value)
    | [] => none
  match if spelling.length > 2 then optionOf? specs spelling else none with
  | some o =>
    match o.takesValue, inline with
    | true, some value => .ok ⟨[⟨o.name, some value⟩], none⟩
    | true, none => .ok ⟨[], some o⟩
    | false, none => .ok ⟨[⟨o.name, none⟩], none⟩
    | false, some _ => .error (.valueNotTaken spelling)
  | none =>
    if word.startsWith "--" then .error (.unknownOption spelling) else letters specs cs.tail

/-- The options among some words, and the words that are none. -/
structure Scan where
  /-- The options, in the order given. -/
  given : List Given
  /-- The other words. -/
  others : List String

/-- Reads words; unless options may follow other words, the first other word ends the options. -/
def scan (specs : List OptionSpec) (mixed : Bool) : List String → Except UsageFault Scan
  | [] => .ok ⟨[], []⟩
  | word :: rest =>
    if word = "--" then .ok ⟨[], rest⟩
    else if word.startsWith "-" && word ≠ "-" then do
      let w ← wordOf specs word
      match w.wanting with
      | none =>
        let s ← scan specs mixed rest
        return { s with given := w.given ++ s.given }
      | some o =>
        match rest with
        | [] => throw (.valueMissing o.name)
        | value :: rest =>
          let s ← scan specs mixed rest
          return { s with given := w.given ++ ⟨o.name, some value⟩ :: s.given }
    else if mixed then do
      let s ← scan specs mixed rest
      return { s with others := word :: s.others }
    else .ok ⟨[], word :: rest⟩

/-- Whether an option was given. -/
def Scan.has (s : Scan) (name : String) : Bool := s.given.any (·.name == name)

/-- How often an option was given. -/
def Scan.count (s : Scan) (name : String) : Nat := s.given.countP (·.name == name)

/-- The value that an option was given last. -/
def Scan.value? (s : Scan) (name : String) : Option String :=
  (s.given.reverse.find? (·.name == name)).bind (·.value)

end ScriptTypes.CommandLine
