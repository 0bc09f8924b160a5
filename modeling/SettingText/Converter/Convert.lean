import SettingText.Calendar.Regions
import SettingText.Converter.Basic
import SettingText.Datum.Canonical
import SettingText.Fragment.Split

/-!
What a converter makes of a setting. An absent setting is no error: it becomes nothing, or false at a
truth value. A text that does not parse is a malformed text, which names the setting, the fragment
and the type.
-/

namespace SettingText

/-- Work that gives texts to editors and may fail. What editors were given stays given. -/
abbrev Work := ExceptT Fault (StateM Bench)

namespace Work

/-- Work that only reads. -/
def ofExcept {α : Type} (result : Except Fault α) : Work α := ExceptT.mk (pure result)

/-- Work that only reads and whose failure is no failure of a conversion. -/
def ofCause {α : Type} (result : Except Cause α) : Work α := ofExcept (result.mapError .stray)

end Work

/-- The text of a setting that may be missing. -/
def rawOf (value : Option Setting) : Option String := value.bind (·.raw)

/-- The setting with its text, unless it is absent. -/
def present? (value : Option Setting) : Option (Setting × String) :=
  value.bind fun s => s.raw.map (s, ·)

/-- The outcome of a parser for a setting: a parse error becomes a malformed text. -/
def attributed (setting : Setting) (raw : String) (target : Option String) :
    Except Fault Datum → Except Fault Datum
  | .error (.stray cause) => .error (.ofParse setting raw target cause)
  | outcome => outcome

/-- Parse a setting; an absent one is nothing. -/
def parsed (target : Option String) (parse : String → Except Fault Datum)
    (value : Option Setting) : Except Fault Datum :=
  match present? value with
  | none => .ok .nothing
  | some (setting, raw) => attributed setting raw target (parse raw)

/-- Parse a setting with a parser that fails with causes only. -/
def parsedBy (target : String) (parse : String → Except Cause Datum) (value : Option Setting) :
    Except Fault Datum :=
  parsed (some target) (fun raw => (parse raw).mapError .stray) value

/-- The words that are true, besides the digit one. -/
def trueWords : List String := ["true", "y", "yes", "on"]

/-- The truth value of a text. -/
def isTrue (raw : String) : Bool := trueWords.contains (Text.lower raw) || raw == "1"

/-- The truth value of a setting; an absent one is false. -/
def truthOf : Option Setting → Datum
  | none => .nothing
  | some s => .bool ((s.raw.map isTrue).getD false)

/-- The parts of a stamp with a region: what stands before the first opening bracket, and what
    stands between it and the closing bracket at the end. -/
def zonedParts? (cs : List Char) : Option (List Char × List Char) :=
  let stamp := cs.takeWhile (· != '[')
  match cs.drop stamp.length, cs.getLast? with
  | _ :: behind, some ']' =>
    let zone := behind.dropLast
    if stamp.isEmpty || zone.isEmpty || zone.contains ']' then none else some (stamp, zone)
  | _, _ => none

def readStamp (text : String) : Except Cause Calendar.Moment :=
  (Calendar.Moment.read text).mapError .iso

/-- A stamp in a region: a local stamp reads the region's clocks, and a stamp with an offset is
    shifted to them. -/
def inRegion (stamp : Calendar.Moment) (region : Calendar.Region) :
    Except Cause Calendar.Moment :=
  match stamp.offset? with
  | none => .ok (stamp.placeIn region)
  | some offset => (stamp.shiftTo offset region).mapError .outOfCalendar

/-- Read a date with a time of day, in a region perhaps. -/
def readMoment (regions : String → Option Calendar.Region) (raw : String) :
    Except Cause Calendar.Moment :=
  let text := Text.strip raw
  match zonedParts? text.toList with
  | none => readStamp text
  | some (stamp, zone) => do
    let stamp ← readStamp (String.ofList stamp)
    let name := String.ofList zone
    match regions name with
    | none => throw (.unknownRegion name)
    | some region => inRegion stamp region

/-- A class that is asked for must lie below its bound. -/
def checkBound (u : Universe) (found : Universe.Found) (bound : ClassBound) :
    Except ClassFault ClassRef :=
  match bound, found with
  | .parameterized _, _ => .error .boundNotPlain
  | .other, _ => .error .boundNotClass
  | .cls _, .other => .error .nameNotClass
  | .cls b, .cls c =>
    if !u.isTestable b then .error .boundNotTestable
    else if u.isSubclass c b then .ok c
    else .error (.notSubclass c.name b.name)

/-- Find the class of a name. A name that begins with none of the prefixes is not looked for. -/
def readClass (u : Universe) (resolver : NameResolver) (bound : ClassBound)
    (prefixes : List String) (raw : String) : Except ClassFault ClassRef := do
  let name := Text.strip raw
  if !prefixes.isEmpty && !prefixes.any (name.startsWith ·) then throw (.outsidePrefixes name)
  checkBound u (← resolver name) bound

/-- Read a reference to a resource, which stays as it is written. -/
def readUri (raw : String) : Except Cause Datum := do
  (Network.Uri.check raw).mapError .uri
  return .uri raw

/-- An editor's work on a text is refused. -/
def refused (target : ClassRef) (setting : Setting) (raw reason : String) : Fault :=
  .malformed (some raw) reason (some setting) (some target.name) none

/-- What becomes of an editor's answer, which must be nothing or an object of the class it is for. -/
def judged (u : Universe) (target : ClassRef) (setting : Setting) (raw : String) :
    Except Cause Datum → Except Fault Datum
  | .error cause => .error (.ofParse setting raw (some target.name) cause)
  | .ok .nothing => .ok .nothing
  | .ok d =>
    if u.isSubclass d.classOf target then .ok d
    else .error (refused target setting raw s!"editor produced {d.classOf.name}")

/-- Let an editor read a text. -/
def edited (u : Universe) (target : ClassRef) (inUse : Option EditorInUse) (setting : Setting)
    (raw : String) : Work Datum :=
  match inUse with
  | none => throw (refused target setting raw s!"No editor available for {target.name}")
  | some editor => do
    modify (·.give editor.number (some raw))
    .ofExcept (judged u target setting raw (editor.kind.answer ((← get).sheet editor.number)))

def itemTexts (raw : String) : List String :=
  if raw.isEmpty then [] else Fragment.split "," .every raw

/-- The key and the value of an entry; without an equals sign the value is absent. -/
def entryTexts (raw : String) : String × Option String :=
  match Fragment.split "=" (.atMost 1) raw with
  | [] => ("", none)
  | key :: rest => (key, rest.head?)

/-- What becomes of the items of a container. -/
def Finish.apply (finish : Finish) (isSet : Bool) (items : List Datum) : Except Cause Datum :=
  match finish with
  | asIs => .ok (if isSet then .set items else .list items)
  | tuple => .ok (.tuple items)
  | frozenset => do return .frozenset (← if isSet then .ok items else Datum.setOf items)
  | count => .ok (.int items.length)
  | entries => do
    return .tuple ((← Datum.canonicalEntries items).map fun (key, value) => .entry key value)

/-- Gather the items of a collection one after the other. -/
def gather (convert : String → Work Datum) (container : Container) (finish : Finish)
    (texts : List String) : Work Datum :=
  match container with
  | .unfit typeName =>
    throw (.misconfigured
      s!"Collection factory returned {typeName}, expected a mutable sequence or set")
  | .sequence first => do
    let items ← texts.mapM convert
    Work.ofCause (finish.apply false (first texts.length ++ items))
  | .set => do
    let items ← texts.foldlM (fun items text => do
      Work.ofCause (Datum.addItem items (← convert text))) []
    Work.ofCause (finish.apply true items)

/-- A map of the entries that items make; nothing stays nothing. -/
def mapOfItems : Datum → Work Datum
  | .nothing => return .nothing
  | d => do return .map (← Work.ofCause (d.items >>= Datum.canonicalEntries))

/-- A tuple of the items of a sequence; nothing stays nothing. -/
def tupleOfItems : Datum → Work Datum
  | .nothing => return .nothing
  | d => do return .tuple (← Work.ofCause d.items)

namespace Converter

def convert (u : Universe) : Converter → Option Setting → Work Datum
  | missing, _ => throw (.stray .missingConverter)
  | text, value => return ((rawOf value).map .text).getD .nothing
  | truth, value => return truthOf value
  | level, value => .ofExcept <|
    parsedBy "LogLevel" (fun raw => (LogLevel.read raw).map .level |>.mapError .level) value
  | moment regions, value => .ofExcept <|
    parsedBy "datetime" (fun raw => (readMoment regions raw).map .moment) value
  | date, value => .ofExcept <|
    parsedBy "date" (fun raw => (Calendar.Date.read (Text.strip raw)).map .date |>.mapError .iso) value
  | clock, value => .ofExcept <|
    parsedBy "time" (fun raw => (Calendar.Clock.read (Text.strip raw)).map .clock |>.mapError .iso) value
  | uri, value => .ofExcept <| parsedBy "URI" readUri value
  | unparsed, value => .ofExcept <| parsed none (fun _ => .error (.stray .noParser)) value
  | function _ run, value => .ofExcept (run value)
  | className resolver bound prefixes, value => .ofExcept <|
    parsedBy "type" (fun raw =>
      (readClass u resolver bound prefixes raw).map .cls |>.mapError .className) value
  | factory _ target make, value => .ofExcept (parsed target make value)
  | editor target inUse, value =>
    match present? value with
    | none => return .nothing
    | some (setting, raw) => edited u target inUse setting raw
  | collection container inner finish, value =>
    match present? value with
    | none => return .nothing
    | some (setting, raw) =>
      gather (fun item => inner.convert u (some (setting.child (some item)))) container finish
        (itemTexts raw)
  | entry key value, whole =>
    match present? whole with
    | none => return .nothing
    | some (setting, raw) => do
      let (keyText, valueText) := entryTexts raw
      let k ← key.convert u (some (setting.child (some keyText)))
      let v ← value.convert u (some (setting.child valueText))
      return .entry k v
  | map entries, value => do mapOfItems (← entries.convert u value)
  | optional base, value =>
    match present? value with
    | none => return .nothing
    | some _ => base.convert u value
  | array _ sequence, value => do tupleOfItems (← sequence.convert u value)

end Converter

end SettingText
