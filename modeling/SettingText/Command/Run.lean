import SettingText.Command.Program
import SettingText.Config.Equipment
import SettingText.Journal.Layout
import SettingText.Outcome.Report
import SettingText.Text.Terminal
import SettingText.Types.Expression

/-!
A run of the program: from its arguments, its files and its variables to what it prints. What the
user did wrong is told on the error output with a status of its own; what went wrong inside is a
defect and prints nothing.
-/

namespace SettingText.Command

/-- What went wrong inside the program. -/
inductive Defect where
  | fault (fault : Fault)
  | form (fault : FormFault)
  | load (fault : Config.LoadFault)

def Defect.message : Defect → String
  | fault f => f.message
  | form f => Types.ExpressionFault.message (.form f)
  | load (.malformedFile file) => Config.malformedMessage file
  | load .malformedVariable => "malformed variable"
  | load (.refused issues) => "; ".intercalate (issues.map fun i => s!"{i.placeText}: {i.kind.name}")

/-- What a run of the program comes to. -/
structure Reply where
  /-- The status the program ends with. -/
  status : Nat := 0
  out : String := ""
  err : String := ""
  defect : Option Defect := none
  /-- How records are laid out. -/
  style : LogStyle := {}
  /-- The records that were let through. -/
  journal : List LogRecord := []

namespace Reply

/-- The program was not used as it should be. -/
def misused (message : String) : Reply := { status := 2, err := s!"Error: {message}\n" }

/-- The program was not used as its usage says. -/
def misusedAs (usage : Usage) (message : String) : Reply :=
  { status := 2
    err := s!"{usage.line}\nTry '{usage.name} --help' for help.\n\nError: {message}\n" }

def broken (defect : Defect) : Reply := { status := 1, defect := some defect }

/-- The reply without control sequences of terminals in what it prints. -/
def plain (r : Reply) : Reply :=
  { r with out := Text.withoutSequences r.out, err := Text.withoutSequences r.err }

end Reply

/-- Words that may have been meant. -/
def suggestion (words : List String) : String :=
  match words with
  | [] => ""
  | [word] => s!" Did you mean {Text.quoted word}?"
  | several =>
    let quoted := ", ".intercalate (several.map Text.quoted)
    s!" (Did you mean one of: {quoted}?)"

/-- The reply to arguments that cannot be taken apart. -/
def ArgumentFault.reply (usage : Usage) : ArgumentFault → Reply
  | unknown name similar =>
    .misusedAs usage s!"No such option {Text.quoted name}.{suggestion similar}"
  | valueMissing name => .misused s!"Option {Text.quoted name} requires an argument."
  | valueUnexpected name => .misused s!"Option {Text.quoted name} does not take a value."

/-- The reply to settings that cannot be loaded. -/
def loadReply : Config.LoadFault → Reply
  | .malformedFile file => { status := 1, err := s!"Error: {Config.malformedMessage file}\n" }
  | fault => .broken (.load fault)

def givenSettings (a : Arguments) : Config.Source :=
  [("json_output", .bool (a.has "--json")), ("verbose", .bool (a.has "--verbose")),
    ("log_json", .bool (a.has "--log-json"))]

/-- What the options of the program ask for before all else: its version or its help. -/
def immediate (name : String) (a : Arguments) : Option Reply :=
  (a.firstOf ["--version", "--help"]).map fun option =>
    if option = "--version" then { out := program.versionText }
    else { out := program.helpText name }

/-- Take the options of the program apart; the reply comes first if they ask for one. -/
def takeOptions (name : String) (args : List String) : Except Reply Arguments := do
  let a ← (Arguments.take program.options false args).mapError
    (ArgumentFault.reply (.ofProgram name))
  match immediate name a with
  | some reply => throw reply
  | none => return a

/-- The action of the first positional argument. An argument that begins like an option is looked at
    once more as one. -/
def chooseAction (name : String) (positional : List String) (word : String) :
    Except Reply Action := do
  match Action.ofName? word with
  | some action => return action
  | none => do
    let _ ← takeOptions name positional
    let close := Text.similarTo word (Action.all.map (·.info.name))
    throw (.misusedAs (.ofProgram name)
      s!"No such command {Text.quoted word}.{suggestion close}")

/-- The type that the first argument of a command states. -/
def statedType (u : Universe) (usage : Usage) (positional : List String) :
    Except Reply TypeForm :=
  match positional.head? with
  | none => .error (.misusedAs usage "Missing argument 'TYPE'.")
  | some text =>
    match TypeForm.parse u text with
    | .ok form => .ok form
    | .error (.form fault) => .error (.broken (.form fault))
    | .error fault => .error (.misusedAs usage s!"Invalid value for 'TYPE': {fault.message}")

/-- There may be only so many positional arguments. -/
def refuseFurther (usage : Usage) (further : List String) : Except Reply Unit :=
  match further with
  | [] => .ok ()
  | [single] => .error (.misusedAs usage s!"Got unexpected extra argument ({single})")
  | several =>
    let shown := " ".intercalate several
    .error (.misusedAs usage s!"Got unexpected extra arguments ({shown})")

def statedSetting (usage : Usage) (a : Arguments) : Except Reply Setting :=
  let name := (a.value? "--name").getD ""
  match a.has "--absent", a.positional[1]? with
  | true, _ => .ok (.named none name [])
  | false, some raw => .ok (.named (some raw) name [])
  | false, none => .error (.misusedAs usage "RAW is required unless --absent is given.")

/-- The work an action does on a registry. -/
def actionWork (usage : Usage) (a : Arguments) (d : Descriptor) :
    Action → Except Reply (RegistryM Outcome)
  | .convert => (statedSetting usage a).map fun value =>
    Registry.tryConvert "convert" (some value) d
  | .describe => .ok (Registry.describe d)

/-- The reply of work on the registry that settings ask for. -/
def workReply (u : Universe) (settings : Config.Settings) (work : RegistryM Outcome) : Reply :=
  let style : LogStyle := ⟨settings.verbose, settings.logJson⟩
  let (result, r) := (work.run.run (Registry.ofSettings u settings) : Except Fault Outcome × Registry)
  let reply : Reply := match result with
    | .ok outcome =>
      let text := outcome.text settings.jsonOutput settings.verbose ++ "\n"
      if outcome.ok then { out := text } else { status := 1, err := text }
    | .error fault => .broken (.fault fault)
  { reply with style, journal := r.journal.filter style.passes }

/-- Do what an action and its arguments ask for. -/
def act (name : String) (u : Universe) (settings : Config.Settings) (action : Action)
    (args : List String) : Except Reply Reply := do
  let info := action.info
  let usage := Usage.ofCommand name info
  let a ← (Arguments.take info.options true args).mapError (ArgumentFault.reply usage)
  match a.firstOf ["--examples", "--help"] with
  | some option =>
    return { out :=
      if option = "--examples" then info.examplesText name else info.helpText name }
  | none => do
    let form ← statedType u usage a.positional
    refuseFurther usage (a.positional.drop info.arguments.length)
    return workReply u settings (← actionWork usage a form.synthesize action)

/-- Load the settings that the options of the program ask for. -/
def settle (s : Config.Surroundings) (a : Arguments) : Except Reply Config.Settings :=
  (Config.load s (a.value? "--config") none (givenSettings a)).mapError loadReply

/-- The reply to arguments, or the one that came before it. -/
def replyTo (name : String) (u : Universe) (s : Config.Surroundings) (args : List String) :
    Except Reply Reply := do
  let a ← takeOptions name args
  match a.positional with
  | [] => do
    let _ ← settle s a
    return { out := program.helpText name }
  | word :: rest => do
    let action ← chooseAction name a.positional word
    act name u (← settle s a) action rest

/-- The configuration file that arguments name. -/
def namedFile (args : List String) : Option String :=
  (Arguments.take program.options false args).toOption.bind (·.value? "--config")

/-- All that a reply prints on the error output: records, the text itself, and a defect. -/
def Reply.errorText (r : Reply) : String :=
  let row (record : LogRecord) : String :=
    if r.style.json then (Json.object record.toJson).line Json.tight else record.line
  ofLines (r.journal.map row) ++ r.err ++ ofLines (r.defect.toList.map (·.message))

/-- Run the program under a name. -/
def run (name : String) (u : Universe) (s : Config.Surroundings) (args : List String) : Reply :=
  match replyTo name u s args with
  | .ok reply => reply.plain
  | .error reply => reply.plain

end SettingText.Command
