import SettingText.Json.Writer
import SettingText.Outcome.Basic
import SettingText.Outcome.Wrap

/-!
Outcomes as text: rows for people, or JSON for programs.
-/

namespace SettingText.Outcome

def lineWidth : Nat := 120

/-- A value in a row: collections as JSON, and every other value as it is. -/
def valueText : Json → String
  | .list items => (Json.list items).line Json.tight
  | .object members => (Json.object members).line Json.tight
  | other => other.plainText

def fieldRow (field : String × Json) : String := s!"  {field.1}: {valueText field.2}"

def detailRow (field : String × Json) : String := s!"    {field.1}: {field.2.plainText}"

def rows (verbose : Bool) (o : Outcome) : List String :=
  if o.ok then s!"OK  {o.op}" :: o.data.map fieldRow
  else
    let message := (o.failure.map (·.message)).getD "Unknown error"
    let detail := (o.failure.map (·.detail)).getD []
    s!"ERROR  {o.op}: {message}" ::
      (if verbose && !detail.isEmpty then "  detail:" :: detail.map detailRow else [])

/-- The text without the line ends at its end. -/
def dropLineEnds (text : String) : String :=
  String.ofList (Text.dropEndWhile (· == '\n') text.toList)

/-- The rows of an outcome, laid out in lines. -/
def humanText (verbose : Bool) (o : Outcome) : String :=
  dropLineEnds ("\n".intercalate ((rows verbose o).flatMap (Wrap.wrap lineWidth)))

def text (json verbose : Bool) (o : Outcome) : String :=
  if json then o.toJson.indented 0 else humanText verbose o

end SettingText.Outcome
