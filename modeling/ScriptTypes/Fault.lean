import ScriptTypes.Files.Refusal
import ScriptTypes.Text.Integer
import ScriptTypes.Text.Utf8

/-!
# What can go wrong

Every operation that can fail says so with one of these causes. The wording of each
is in `Fault.message` and nowhere else.
-/

namespace ScriptTypes

/-- The cause of a failure. -/
inductive Fault where
  /-- No dialect has this name. -/
  | unsupportedDialect (given : String)
  /-- Files with this suffix are not sources. -/
  | unsupportedExtension (suffix : String)
  /-- There is neither a dialect nor a path to tell it from. -/
  | noDialect
  /-- The source is not well formed in the dialect, and errors are not allowed. -/
  | syntaxErrors (dialect : String)
  /-- A range ends before it starts. -/
  | reversedSpan (start stop : Int)
  /-- An insertion lies outside the source. -/
  | offsetOutside (offset : Int) (size : Nat)
  /-- Some bytes are no text. -/
  | undecodable (fault : Utf8.Fault)
  /-- The path has no last component whose suffix could be replaced. -/
  | namelessPath (path : String)
  /-- The text is no integer. -/
  | notAnInteger (text : String)
  /-- The integer has too many digits. -/
  | integerTooLong (digits limit : Nat)
  /-- No log level has this name. -/
  | unknownLevel (name : String)
  /-- Nothing stands at the path where the work was to start. -/
  | nothingAt (given : String)
  /-- The file system refuses. -/
  | refused (refusal : Files.Refusal)
  /-- The path holds the character that ends a path. -/
  | nulInPath
  /-- A closing style tag closes nothing. -/
  | strayClosingTag (tag : String) (position : Nat)
  /-- The arguments in the parameters of a handler's tag are no literals. -/
  | unreadableArguments (arguments parameters reason : String)
  /-- The depth is no number that a position could have. -/
  | depthOutside
  /-- The space for the depth is longer than any text. -/
  | indentationTooLong
  /-- The space for the depth is longer than what can be kept. -/
  | noRoom
deriving DecidableEq, Repr

/-- The number of characters after which a quotation is broken off. -/
def quotationLimit : Nat := 200

/-- The wording of a failure. -/
def Fault.message : Fault → String
  | .unsupportedDialect given =>
    "Unsupported dialect '" ++ given ++ "'. Supported: ['tsx', 'typescript']"
  | .unsupportedExtension suffix => "Unsupported file extension: " ++ suffix
  | .noDialect => "Dialect must be provided when no file path is available."
  | .syntaxErrors dialect => "Source contains syntax errors (" ++ dialect ++ ")"
  | .reversedSpan start stop => s!"Invalid range: start {start} > end {stop}"
  | .offsetOutside offset size => s!"Offset {offset} outside source of length {size}"
  | .undecodable fault => fault.message
  | .namelessPath path => s!"PosixPath({Text.quoted path}) has an empty name"
  | .notAnInteger text =>
    "invalid literal for int() with base 10: " ++
      String.ofList ((Text.quoted text).toList.take quotationLimit)
  | .integerTooLong digits limit =>
    s!"Exceeds the limit ({limit} digits) for integer string conversion: value has {digits} " ++
      "digits; use sys.set_int_max_str_digits() to increase the limit"
  | .unknownLevel name => s!"Unknown level: {Text.quoted name}"
  | .nothingAt given => "Path not found: " ++ given
  | .refused refusal => refusal.message
  | .nulInPath => "embedded null byte"
  | .strayClosingTag tag position =>
    if tag = "[/]" then s!"closing tag '[/]' at position {position} has nothing to close"
    else s!"closing tag '{tag}' at position {position} doesn't match any open tag"
  | .unreadableArguments arguments parameters reason =>
    s!"error parsing {Text.quoted arguments} in {Text.quoted parameters}; {reason}"
  | .depthOutside => "cannot fit 'int' into an index-sized integer"
  | .indentationTooLong => "repeated string is too long"
  | .noRoom => ""

/--
Whether the cause lies in what was asked for. Commands report such failures in a
sentence; any other is a defect and ends the program as it is.
-/
def Fault.liesInRequest : Fault → Bool
  | .offsetOutside .. | .refused _ | .nothingAt _ | .strayClosingTag ..
  | .unreadableArguments .. | .depthOutside | .indentationTooLong | .noRoom => false
  | _ => true

/-- The integer that a text spells. -/
def integerOf (text : String) : Except Fault Int :=
  match Text.IntegerText.of text with
  | .value n => .ok n
  | .malformed => .error (.notAnInteger text)
  | .tooLong digits => .error (.integerTooLong digits Text.maxIntegerDigits)

/-- The text of some bytes. -/
def textOf (bytes : List UInt8) : Except Fault String :=
  (Utf8.decode bytes).mapError .undecodable

end ScriptTypes
