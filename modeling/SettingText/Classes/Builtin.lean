import SettingText.Classes.Making

/-!
The built-in classes, which need no import.
-/

namespace SettingText.Classes

/-- Abstract collections by their names. -/
def abstractions (names : List String) : List ClassRef := names.map .abstraction

/-- What an object can do that is no collection. -/
def plainInterfaces : List ClassRef := abstractions ["Hashable"]

/-- What every collection of items can do. -/
def collectionNames : List String := ["Iterable", "Sized", "Container", "Collection"]

/-- What a sequence can do. -/
def sequenceNames : List String := collectionNames ++ ["Reversible", "Sequence"]

/-- What an iterator can do. -/
def iteratorNames : List String := ["Hashable", "Iterable", "Iterator"]

/-- What a map that can change can do. -/
def tableNames : List String := collectionNames ++ ["Reversible", "Mapping", "MutableMapping"]

/-- A built-in class right below the class of everything. -/
def builtinInfo (name : String) (interfaces : List String) (maker : Maker)
    (parameters : Parameters) : ClassInfo where
  ref := .builtin name
  ancestors := [.object]
  interfaces := abstractions interfaces
  parameters := parameters
  maker := some maker

def charactersOf (text : String) : List Datum := text.toList.map fun c => .text c.toString

def distinctCharactersOf (text : String) : List Datum :=
  text.toList.eraseDups.map fun c => .text c.toString

/-- A table made from a text, which works for the empty text only. -/
def emptyTable (c : ClassRef) (message : String) (text : String) : Except Cause Datum :=
  if text.isEmpty then .ok (.dict c []) else .error (.other .value message)

/-- A class of numbers or texts. -/
def readingInfo (name : String) (interfaces : List String) (read : String → Except Cause Datum) :
    ClassInfo :=
  builtinInfo name interfaces (.reading (.builtin name) read) .none

def collectionInfo (name : String) (interfaces : List String)
    (make : String → Except Cause Datum) : ClassInfo :=
  builtinInfo name interfaces (.reading (.builtin name) make) .any

def refusingInfo (name : String) (interfaces : List String) (message : String) : ClassInfo :=
  builtinInfo name interfaces (.refusing (.builtin name) .type message) .none

/-- A class that takes any text and keeps it to itself; `shown` is how its objects look. -/
def opaqueInfo (name : String) (interfaces : List String) (shown : String → String)
    (parameters : Parameters) : ClassInfo :=
  let c := ClassRef.builtin name
  builtinInfo name interfaces (.taking c fun text => .opaqueObject c (.text (shown text))) parameters

/-- How an object looks that shows nothing but its class. -/
def objectShown (name : String) (_ : String) : String := s!"<{name} object>"

/-- The class of the absent value. -/
def nothingInfo : ClassInfo :=
  { refusingInfo "NoneType" ["Hashable"] "NoneType takes no arguments" with unlisted := true }

def builtinClasses : List ClassInfo := [
  { ref := .object, ancestors := [], interfaces := plainInterfaces },
  nothingInfo,
  readingInfo "int" ["Hashable"] fun text =>
    (Number.readInteger 10 text).map .int |>.mapError .literal,
  { readingInfo "bool" ["Hashable"] (fun text => .ok (.bool !text.isEmpty)) with
    ancestors := [.builtin "int", .object] },
  readingInfo "float" ["Hashable"] fun text =>
    (Number.readFloat text).map .float |>.mapError .literal,
  readingInfo "complex" ["Hashable"] fun text =>
    (Complex.read text).map .complex |>.mapError .complex,
  readingInfo "str" ("Hashable" :: sequenceNames) fun text => .ok (.text text),
  collectionInfo "list" ("MutableSequence" :: sequenceNames) fun text =>
    .ok (.list (charactersOf text)),
  collectionInfo "tuple" ("Hashable" :: sequenceNames) fun text =>
    .ok (.tuple (charactersOf text)),
  collectionInfo "set" (collectionNames ++ ["Set", "MutableSet"]) fun text =>
    .ok (.set (distinctCharactersOf text)),
  collectionInfo "frozenset" ("Hashable" :: collectionNames ++ ["Set"]) fun text =>
    .ok (.frozenset (distinctCharactersOf text)),
  collectionInfo "dict" tableNames
    (emptyTable (.builtin "dict")
      "dictionary update sequence element #0 has length 1; 2 is required"),
  collectionInfo "type" ["Hashable", "Callable"] fun _ => .ok (.cls (.builtin "str")),
  refusingInfo "bytes" ("Hashable" :: "ByteString" :: sequenceNames)
    "string argument without an encoding",
  refusingInfo "bytearray" ("ByteString" :: "MutableSequence" :: sequenceNames)
    "string argument without an encoding",
  refusingInfo "memoryview" ("Hashable" :: sequenceNames)
    "memoryview: a bytes-like object is required, not 'str'",
  refusingInfo "range" ("Hashable" :: sequenceNames)
    "'str' object cannot be interpreted as an integer",
  refusingInfo "filter" iteratorNames "filter expected 2 arguments, got 1",
  refusingInfo "map" iteratorNames "map() must have at least two arguments.",
  refusingInfo "super" ["Hashable"] "super() argument 1 must be a type, not str",
  opaqueInfo "slice" [] (fun text => s!"slice(None, {Text.quoted text}, None)") .none,
  opaqueInfo "classmethod" ["Hashable"] (fun text => s!"<classmethod({Text.quoted text})>") .none,
  opaqueInfo "staticmethod" ["Hashable", "Callable"]
    (fun text => s!"<staticmethod({Text.quoted text})>") .none,
  opaqueInfo "property" ["Hashable"] (objectShown "property") .none,
  opaqueInfo "enumerate" iteratorNames (objectShown "enumerate") .any,
  opaqueInfo "reversed" iteratorNames (objectShown "reversed") .none,
  opaqueInfo "zip" iteratorNames (objectShown "zip") .none]

/-- The built-in errors, each with the one above it. -/
def errorParents : List (String × String) := [
  ("BaseException", "object"), ("Exception", "BaseException"), ("GeneratorExit", "BaseException"),
  ("KeyboardInterrupt", "BaseException"), ("SystemExit", "BaseException"),
  ("BaseExceptionGroup", "BaseException"),
  ("ArithmeticError", "Exception"), ("AssertionError", "Exception"),
  ("AttributeError", "Exception"), ("BufferError", "Exception"), ("EOFError", "Exception"),
  ("ImportError", "Exception"), ("LookupError", "Exception"), ("MemoryError", "Exception"),
  ("NameError", "Exception"), ("OSError", "Exception"), ("ReferenceError", "Exception"),
  ("RuntimeError", "Exception"), ("StopAsyncIteration", "Exception"),
  ("StopIteration", "Exception"), ("SyntaxError", "Exception"), ("SystemError", "Exception"),
  ("TypeError", "Exception"), ("ValueError", "Exception"), ("Warning", "Exception"),
  ("FloatingPointError", "ArithmeticError"), ("OverflowError", "ArithmeticError"),
  ("ZeroDivisionError", "ArithmeticError"), ("IndexError", "LookupError"),
  ("KeyError", "LookupError"), ("ModuleNotFoundError", "ImportError"),
  ("UnboundLocalError", "NameError"), ("NotImplementedError", "RuntimeError"),
  ("RecursionError", "RuntimeError"), ("IndentationError", "SyntaxError"),
  ("TabError", "IndentationError"), ("UnicodeError", "ValueError"),
  ("UnicodeDecodeError", "UnicodeError"), ("UnicodeEncodeError", "UnicodeError"),
  ("UnicodeTranslateError", "UnicodeError"),
  ("BlockingIOError", "OSError"), ("ChildProcessError", "OSError"),
  ("ConnectionError", "OSError"), ("FileExistsError", "OSError"), ("FileNotFoundError", "OSError"),
  ("InterruptedError", "OSError"), ("IsADirectoryError", "OSError"),
  ("NotADirectoryError", "OSError"), ("PermissionError", "OSError"),
  ("ProcessLookupError", "OSError"), ("TimeoutError", "OSError"),
  ("BrokenPipeError", "ConnectionError"), ("ConnectionAbortedError", "ConnectionError"),
  ("ConnectionRefusedError", "ConnectionError"), ("ConnectionResetError", "ConnectionError"),
  ("BytesWarning", "Warning"), ("DeprecationWarning", "Warning"), ("EncodingWarning", "Warning"),
  ("FutureWarning", "Warning"), ("ImportWarning", "Warning"),
  ("PendingDeprecationWarning", "Warning"), ("ResourceWarning", "Warning"),
  ("RuntimeWarning", "Warning"), ("SyntaxWarning", "Warning"), ("UnicodeWarning", "Warning"),
  ("UserWarning", "Warning")]

/-- The errors above one, the nearest first; at most so many. -/
def errorAncestors : Nat → String → List ClassRef
  | 0, _ => [.object]
  | count + 1, name =>
    match errorParents.find? (·.1 == name) with
    | some (_, parent) =>
      if parent = "object" then [.object] else .builtin parent :: errorAncestors count parent
    | none => [.object]

/-- How an error is made from a text. -/
def errorMaker (name : String) : Maker :=
  let c := ClassRef.builtin name
  match name with
  | "KeyError" => .taking c fun text => .worded c (Text.quoted text)
  | "UnicodeDecodeError" | "UnicodeEncodeError" =>
    .refusing c .type "function takes exactly 5 arguments (1 given)"
  | "UnicodeTranslateError" => .refusing c .type "function takes exactly 4 arguments (1 given)"
  | "BaseExceptionGroup" | "ExceptionGroup" =>
    .refusing c .type "BaseExceptionGroup.__new__() takes exactly 2 arguments (1 given)"
  | _ => .taking c fun text => .worded c text

def errorInfo (name : String) (ancestors : List ClassRef) (parameters : Parameters) : ClassInfo where
  ref := .builtin name
  ancestors := ancestors
  interfaces := plainInterfaces
  parameters := parameters
  maker := some (errorMaker name)

def errorClasses : List ClassInfo :=
  errorInfo "ExceptionGroup"
      [.builtin "BaseExceptionGroup", .builtin "Exception", .builtin "BaseException", .object] .any ::
    errorParents.map fun (name, _) =>
      errorInfo name (errorAncestors errorParents.length name)
        (if name = "BaseExceptionGroup" then .any else .none)

/-- Second names of built-in errors. -/
def errorAliases : List (String × String × ClassRef) :=
  ["EnvironmentError", "IOError"].map fun name => ("builtins", name, .builtin "OSError")

def functionNames : List String := [
  "abs", "aiter", "all", "anext", "any", "ascii", "bin", "breakpoint", "callable", "chr", "compile",
  "delattr", "dir", "divmod", "eval", "exec", "format", "getattr", "globals", "hasattr", "hash",
  "hex", "id", "input", "isinstance", "issubclass", "iter", "len", "locals", "max", "min", "next",
  "oct", "open", "ord", "pow", "print", "repr", "round", "setattr", "sorted", "sum", "vars"]

end SettingText.Classes
