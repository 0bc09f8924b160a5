import SettingText.Datum.Basic

/-!
Values as messages show them: texts in quotes, and every other value by a call or a literal that
would make it.
-/

namespace SettingText.Datum

/-- One part of a complex number, without a zero behind the point. -/
def partShown (x : Binary64) : String :=
  let text := x.text
  if text.endsWith ".0" then (text.dropEnd 2).toString else text

/-- A complex number; a positive zero in front is left out. -/
def complexShown (z : Complex) : String :=
  let imaginary := partShown z.im
  if z.re.isZero && !z.re.isNegative then imaginary ++ "j"
  else
    let sign := if imaginary.startsWith "-" then "" else "+"
    "(" ++ partShown z.re ++ sign ++ imaginary ++ "j)"

/-- A value as a message shows it. -/
def shown : Datum → String
  | nothing => "None"
  | bool b => Json.boolText b
  | text s => Text.quoted s
  | int n => toString n
  | float x => x.text
  | complex z => complexShown z
  | decimal d => s!"Decimal('{d.text}')"
  | fraction q => s!"Fraction({q.numerator}, {q.denominator})"
  | uuid u => s!"UUID('{u.text}')"
  | path p => s!"PosixPath({Text.quoted p.text})"
  | moment m => s!"datetime.datetime({m.text})"
  | date d => s!"datetime.date({d.year}, {d.month}, {d.day})"
  | clock c => s!"datetime.time({c.text})"
  | span s => s.text
  | level l => s!"<LogLevel.{l.name}: {l.number}>"
  | member c name value => s!"<{c.name}.{name}: {value.shown}>"
  | refined _ base => base.shown
  | cls c => c.shown
  | entry key value => s!"MapEntry(key={key.shown}, value={value.shown})"
  | map entries => "EntryMap(\x7b" ++ ", ".intercalate (shownPairs entries) ++ "\x7d)"
  | list items => "[" ++ ", ".intercalate (shownItems items) ++ "]"
  | tuple [single] => "(" ++ single.shown ++ ",)"
  | tuple items => "(" ++ ", ".intercalate (shownItems items) ++ ")"
  | set [] => "set()"
  | set items => "\x7b" ++ ", ".intercalate (shownItems items) ++ "\x7d"
  | frozenset [] => "frozenset()"
  | frozenset items => "frozenset(\x7b" ++ ", ".intercalate (shownItems items) ++ "\x7d)"
  | dict _ entries => "\x7b" ++ ", ".intercalate (shownPairs entries) ++ "\x7d"
  | record c _ => s!"<{c.fullName} object>"
  | named c fields => c.name ++ "(" ++ ", ".intercalate (shownFields fields) ++ ")"
  | worded c words => s!"{c.name}({Text.quoted words})"
  | opaqueObject c _ => s!"<{c.fullName} object>"
  | broken _ => "<broken object>"
where
  /-- The items of a collection. -/
  shownItems : List Datum → List String
    | [] => []
    | d :: rest => d.shown :: shownItems rest
  /-- The entries of a map. -/
  shownPairs : List (Datum × Datum) → List String
    | [] => []
    | (key, value) :: rest => s!"{key.shown}: {value.shown}" :: shownPairs rest
  /-- The fields of an object. -/
  shownFields : List (String × Datum) → List String
    | [] => []
    | (name, value) :: rest => s!"{name}={value.shown}" :: shownFields rest

end SettingText.Datum
