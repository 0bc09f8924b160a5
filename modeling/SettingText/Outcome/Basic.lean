import SettingText.Datum.Plain
import SettingText.Fault.Conversion
import SettingText.Registry.Resolve

/-!
Outcomes of conversions: what was asked for, and either the value in plain form or a failure. A text
that does not parse and a type that nothing serves are outcomes; every other error passes through.
-/

namespace SettingText

/-- A failure as an outcome shows it. -/
structure Failure where
  code : String
  message : String
  detail : List (String × Json) := []

/-- The outcome of an operation. -/
structure Outcome where
  ok : Bool
  /-- The name of the operation. -/
  op : String
  data : List (String × Json) := []
  failure : Option Failure := none

/-- A failure of a conversion as an outcome shows it. -/
def Failure.ofFault (fault : Fault) : Failure := ⟨fault.code, fault.message, fault.detail⟩

def Failure.toJson (f : Failure) : Json :=
  .object [("code", .text f.code), ("message", .text f.message), ("detail", .object f.detail)]

namespace Outcome

def toJson (o : Outcome) : Json :=
  .object [("ok", .bool o.ok), ("op", .text o.op), ("data", .object o.data),
    ("error", (o.failure.map Failure.toJson).getD .null)]

/-- The type an operation was asked for. -/
def typeField (d : Descriptor) : String × Json := ("type", .text d.text)

def success (op : String) (d : Descriptor) (name : String) (value : Json) : Outcome :=
  { ok := true, op, data := [typeField d, (name, value)] }

def failed (op : String) (d : Descriptor) (fault : Fault) : Outcome :=
  { ok := false, op, data := [typeField d], failure := some (.ofFault fault) }

/-- The failure is an outcome, and no defect of the program. -/
def reports : Fault → Bool
  | .noConverter _ | .malformed .. => true
  | .misconfigured _ | .stray _ => false

/-- A type without a converter is an outcome when a type is described. -/
def reportsMissing : Fault → Bool
  | .noConverter _ => true
  | _ => false

end Outcome

namespace Registry

/-- The outcome of work on a registry; failures of the kind told are outcomes. -/
def outcomeOf {α : Type} (op : String) (d : Descriptor) (reports : Fault → Bool)
    (work : RegistryM α) (succeed : α → RegistryM Outcome) : RegistryM Outcome := do
  let (result, r) := (work.run.run (← get) : Except Fault α × Registry)
  set r
  match result with
  | .ok value => succeed value
  | .error fault => if reports fault then return .failed op d fault else throw fault

/-- Convert a setting to a type and tell how it went. -/
def tryConvert (op : String) (value : Option Setting) (d : Descriptor) : RegistryM Outcome :=
  outcomeOf op d Outcome.reports (convert value d) fun datum => do
    match datum.plain with
    | .ok plain => return .success op d "value" plain
    | .error cause => throw (.stray cause)

/-- Tell which converter a type resolves to. -/
def describe (d : Descriptor) : RegistryM Outcome :=
  outcomeOf "describe" d Outcome.reportsMissing (resolve d) fun held =>
    return .success "describe" d "converter" (.text held.converter.shown)

end Registry

end SettingText
