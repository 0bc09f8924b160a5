import SettingText.Types.Subscription
import SettingText.Types.Token

/-!
Type expressions: texts such as `dict[str, list[int] | None]` that state a type. An expression is a
term or several terms with bars between them; a term is three points, a name, or a name with
expressions between square brackets.

The reader goes through the tokens once and keeps the open brackets on a stack. What a name, a pair
of brackets and a row of bars stand for is the business of an evaluator, so the same reader builds a
type form or the tree of the expression.
-/

namespace SettingText.Types

/-- The tree of a type expression. -/
inductive Tree where
  | dots
  | name (text : String)
  | subscript (name : String) (args : List Tree)
  | union (members : List Tree)
  deriving Repr, Inhabited

/-- Why a text is no type expression. -/
inductive ExpressionFault where
  /-- No token begins here. -/
  | stray (text : StrayText)
  /-- The text holds no token. -/
  | empty
  /-- The text ends where more is needed. -/
  | unexpectedEnd
  /-- A bracket should be closed here. -/
  | unclosed (found : Token)
  /-- No term begins with this token. -/
  | unexpected (token : Token)
  /-- The expression is complete before this token. -/
  | trailing (token : Token)
  /-- The name stands for no type. -/
  | unknownName (name : String)
  /-- The type of this name does not take these arguments. -/
  | notParameterized (name : String)
  /-- The parts are well written and do not fit together. -/
  | form (fault : FormFault)
  deriving DecidableEq, Repr

namespace ExpressionFault

/-- A fault of the text itself, which whoever reads expressions expects. -/
def isExpected : ExpressionFault → Bool
  | form _ => false
  | _ => true

def kind : ExpressionFault → ErrorKind
  | form fault => fault.kind
  | _ => .typeExpression

def message : ExpressionFault → String
  | stray text =>
    s!"Unexpected character at {text.position}: {Text.quoted (String.ofList text.rest)}"
  | empty => "Empty type expression"
  | unexpectedEnd => "Unexpected end of type expression"
  | unclosed found => s!"Expected ']', found {Text.quoted found.text}"
  | unexpected token => s!"Unexpected {Text.quoted token.text}"
  | trailing token => s!"Trailing input at {Text.quoted token.text}"
  | unknownName name => s!"Unknown type {Text.quoted name}"
  | notParameterized name => s!"{name} cannot be parameterized that way: <typing>"
  | form .refused => ""
  | form (.noMember shown) => shown

end ExpressionFault

/-- What the parts of an expression stand for. -/
structure Evaluator (α : Type) where
  dots : α
  name : String → Except ExpressionFault α
  /-- A name, what it stands for, and what stands between the brackets behind it. -/
  subscript : String → α → List α → Except ExpressionFault α
  /-- At least two members. -/
  union : List α → Except ExpressionFault α

/-- An open bracket: the name before it, what the name stands for, the arguments before the present
    one, and the members of the expression that the name belongs to. -/
structure Bracket (α : Type) where
  name : String
  base : α
  args : List α
  members : List α

/-- What the reader has just seen. -/
inductive Seen (α : Type) where
  /-- Nothing that a term could end with: a term must follow. -/
  | nothing
  /-- A name, behind which a bracket may open. -/
  | name (text : String) (value : α)
  /-- Another term. -/
  | term (value : α)

/-- The value of a row of members: one stands for itself. -/
def Evaluator.row {α : Type} (ev : Evaluator α) (members : List α) : Except ExpressionFault α :=
  match members with
  | [single] => .ok single
  | several => ev.union several

/--
Read tokens. `members` are the members of the present expression so far, and `brackets` those
that are open around it, the innermost first.
-/
def read {α : Type} (ev : Evaluator α) (seen : Seen α) (members : List α)
    (brackets : List (Bracket α)) : List Token → Except ExpressionFault α
  | [] =>
    match seen with
    | .nothing => .error .unexpectedEnd
    | .name _ value | .term value => do
      let whole ← ev.row (members ++ [value])
      match brackets with
      | [] => return whole
      | _ :: _ => throw .unexpectedEnd
  | token :: rest =>
    match seen, token with
    | .nothing, .dots => read ev (.term ev.dots) members brackets rest
    | .nothing, .name text => do
      let value ← ev.name text
      read ev (.name text value) members brackets rest
    | .nothing, other => .error (.unexpected other)
    | .name text value, .opening =>
      read ev .nothing [] (⟨text, value, [], members⟩ :: brackets) rest
    | .name _ value, .bar | .term value, .bar =>
      read ev .nothing (members ++ [value]) brackets rest
    | .name _ value, other | .term value, other => do
      let whole ← ev.row (members ++ [value])
      match brackets with
      | [] => throw (.trailing other)
      | bracket :: outer =>
        match other with
        | .comma =>
          read ev .nothing [] ({ bracket with args := bracket.args ++ [whole] } :: outer) rest
        | .closing =>
          let value ← ev.subscript bracket.name bracket.base (bracket.args ++ [whole])
          read ev (.term value) bracket.members outer rest
        | _ => throw (.unclosed other)

/-- What the tokens of a whole expression stand for. -/
def ofTokens {α : Type} (ev : Evaluator α) (tokens : List Token) : Except ExpressionFault α :=
  if tokens.isEmpty then .error .empty else read ev .nothing [] [] tokens

def ofText {α : Type} (ev : Evaluator α) (text : String) : Except ExpressionFault α :=
  match tokens text with
  | .error stray => .error (.stray stray)
  | .ok tokens => ofTokens ev tokens

def treeEvaluator : Evaluator Tree where
  dots := .dots
  name text := .ok (.name text)
  subscript name _ args := .ok (.subscript name args)
  union members := .ok (.union members)

def knownNames : List (String × TypeForm) :=
  let collections := ["Sequence", "MutableSequence", "Collection", "Iterable", "Set", "MutableSet",
    "Mapping", "MutableMapping"]
  [("None", .nothingClass), ("Any", .cls TypeForm.anyClass), ("Optional", .special "Optional"),
    ("AbstractSet", .cls (.abstraction "Set"))] ++
  (collections.map fun name => (name, .cls (.abstraction name))) ++
  [("MapEntry", .cls Datum.entryClass), ("LogLevel", .cls Datum.levelClass),
    ("URI", .cls Datum.uriClass)] ++
  (["datetime", "date", "time", "timedelta"].map fun name => (name, .cls (Datum.calendarClass name))) ++
  [("Decimal", .cls ⟨"decimal", "Decimal"⟩), ("Path", .cls ⟨"pathlib", "Path"⟩),
    ("UUID", .cls ⟨"uuid", "UUID"⟩)]

/-- The type of a name: a short name, or the name of a class. -/
def lookup (u : Universe) (name : String) : Except ExpressionFault TypeForm :=
  match knownNames.find? (·.1 == name) with
  | some (_, form) => .ok form
  | none =>
    match u.resolve name with
    | .ok c => .ok (.cls c)
    | .error _ => .error (.unknownName name)

def formEvaluator (u : Universe) : Evaluator TypeForm where
  dots := .dots
  name := lookup u
  subscript name base args :=
    match base.subscript u args with
    | .ok form => .ok form
    | .error .refused => .error (.notParameterized name)
    | .error fault => .error (.form fault)
  union members := (TypeForm.unionOf members).mapError .form

end Types

def TypeForm.parse (u : Universe) (text : String) : Except Types.ExpressionFault TypeForm :=
  Types.ofText (Types.formEvaluator u) text

end SettingText
