/-!
# Names of interfaces

An interface is named after the binding that it describes, in Pascal case. The name
must be free: in a script, an interface called like a global type or like a type
that the file declares would be joined with it. A name that is taken gets the first
number from 2 on that makes it free.
-/

namespace ScriptTypes.TypeName

/-- The types that the language declares in every file. -/
def languageTypes : List String :=
  ["Array", "ArrayBuffer", "ArrayLike", "AsyncGenerator", "AsyncIterable", "AsyncIterator",
   "Atomics", "Awaited", "BigInt", "Boolean", "DataView", "Date", "Error", "EvalError",
   "Function", "Generator", "Intl", "Iterable", "Iterator", "JSON", "Map", "Math", "Number",
   "Object", "Omit", "Partial", "Pick", "Promise", "PromiseLike", "Proxy", "RangeError",
   "Readonly", "Record", "ReferenceError", "Reflect", "RegExp", "Required", "ReturnType", "Set",
   "SharedArrayBuffer", "String", "Symbol", "SyntaxError", "TypeError", "URIError", "WeakMap",
   "WeakRef", "WeakSet"]

/-- The types that the browser declares in every file. -/
def browserTypes : List String :=
  ["AbortController", "AbortSignal", "Animation", "Attr", "Audio", "Blob", "CSSStyleDeclaration",
   "CanvasRenderingContext2D", "Clipboard", "Comment", "Console", "Crypto", "CustomEvent",
   "Document", "DocumentFragment", "DOMException", "DOMRect", "Element", "ErrorEvent", "Event",
   "EventSource", "EventTarget", "File", "FileList", "FileReader", "FocusEvent", "FormData",
   "Headers", "History", "HTMLElement", "HTMLInputElement", "Image", "InputEvent",
   "KeyboardEvent", "Location", "MessageEvent", "MouseEvent", "MutationObserver", "Navigator",
   "Node", "NodeList", "Notification", "Option", "Performance", "PointerEvent", "Range",
   "Request", "Response", "Screen", "Selection", "ShadowRoot", "Storage", "StorageEvent",
   "SubmitEvent", "Text", "TextDecoder", "TextEncoder", "TouchEvent", "UIEvent", "URL",
   "URLSearchParams", "WebSocket", "WheelEvent", "Window", "Worker", "XMLHttpRequest"]

/-- The names that are taken in every file. -/
def globals : List String := languageTypes ++ browserTypes

/-! ## Pascal case -/

/-- The start of a name for a text without letters, or one that starts with a digit. -/
def fallback : String := "Param"

/--
The ASCII letters and digits of a text, the first of every run in upper case; `fresh`
says that a run would start here.
-/
def joinedWords (fresh : Bool) : List Char → List Char
  | [] => []
  | c :: cs =>
    if c.isAlphanum then (if fresh then c.toUpper else c) :: joinedWords false cs
    else joinedWords true cs

/-- The text as the name of a type: its words, each capitalized, in one. -/
def pascalCase (s : String) : String :=
  match joinedWords true s.toList with
  | [] => fallback
  | c :: cs => if c.isDigit then fallback ++ String.ofList (c :: cs) else String.ofList (c :: cs)

/-! ## Free names -/

/-- The name itself and then the name with the numbers from 2 on. -/
def candidate (base : String) : Nat → String
  | 0 => base
  | i + 1 => base ++ toString (i + 2)

/--
The first candidate that is not taken. Of more candidates than there are names taken
one is free, so the search need not look further.
-/
def free (base : String) (taken : List String) : String :=
  (((List.range (taken.length + 1)).map (candidate base)).find? (· ∉ taken)).getD base

end ScriptTypes.TypeName
