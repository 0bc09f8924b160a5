import SettingText.Calendar.Span
import SettingText.Fault.Cause
import SettingText.Text.Digit

/-!
Lengths of time written as amounts with units, such as `1h30m`, or as a bare number of seconds.
Amounts may have a fraction; they are added up unit by unit, and the sum is rounded to the
microsecond once.
-/

namespace SettingText.Duration

/-- A unit of time. -/
inductive TimeUnit where
  | day | hour | minute | second | milli
  deriving DecidableEq, Repr

/-- Units in the order in which they are added up. -/
def TimeUnit.all : List TimeUnit := [.milli, .second, .minute, .hour, .day]

def TimeUnit.micros : TimeUnit → Int
  | day => 86400000000
  | hour => 3600000000
  | minute => 60000000
  | second => 1000000
  | milli => 1000

/-- An amount of a unit. -/
structure Part where
  amount : Binary64
  unit : TimeUnit

/-- The unit a text begins with, and what is behind it. Two letters go before one. -/
def takeUnit : List Char → Option (TimeUnit × List Char)
  | 'm' :: 's' :: rest => some (.milli, rest)
  | 'd' :: rest => some (.day, rest)
  | 'h' :: rest => some (.hour, rest)
  | 'm' :: rest => some (.minute, rest)
  | 's' :: rest => some (.second, rest)
  | _ => none

/-- A digit of any script. -/
def isDigit (c : Char) : Bool := (Text.digitValue? c).isSome

/-- The digits a text begins with, and what is behind them. -/
def takeDigits (cs : List Char) : List Char × List Char :=
  (cs.takeWhile isDigit, cs.dropWhile isDigit)

/-- The amount a text begins with: digits, and after a point more digits. -/
def takeAmount (cs : List Char) : Option (List Char × List Char) :=
  let (whole, rest) := takeDigits cs
  if whole.isEmpty then none
  else
    match rest with
    | '.' :: behind =>
      let (fraction, after) := takeDigits behind
      if fraction.isEmpty then some (whole, rest) else some (whole ++ '.' :: fraction, after)
    | _ => some (whole, rest)

def amountOf (cs : List Char) : Binary64 :=
  match Number.readFloat (String.ofList cs) with
  | .ok x => x
  | .error _ => .zero false

/-- The amount with its unit a text begins with, and what is behind them. Blanks may stand between
    the two. -/
def takePart (cs : List Char) : Option (Part × List Char) :=
  (takeAmount cs).bind fun (amount, rest) =>
    (takeUnit (rest.dropWhile Text.isBlank)).map fun (unit, behind) =>
      (⟨amountOf amount, unit⟩, behind)

/-- Nothing but blanks. -/
def isAllBlank (cs : List Char) : Bool := cs.all Text.isBlank

theorem length_dropWhile_le {α : Type} (p : α → Bool) (l : List α) :
    (l.dropWhile p).length ≤ l.length := (List.dropWhile_sublist p).length_le

theorem length_takeDigits (cs : List Char) :
    (takeDigits cs).1.length + (takeDigits cs).2.length = cs.length := by
  rw [takeDigits, ← List.length_append, List.takeWhile_append_dropWhile]

theorem length_takeAmount {cs amount rest : List Char} (h : takeAmount cs = some (amount, rest)) :
    rest.length < cs.length := by
  have hd := length_takeDigits cs
  unfold takeAmount at h
  generalize takeDigits cs = d at h hd
  obtain ⟨whole, behind⟩ := d
  simp only at h hd
  split at h
  · cases h
  · next hw =>
    have hpos : 0 < whole.length := by
      cases whole <;> simp_all
    split at h
    · next after =>
      have hf := length_takeDigits after
      split at h <;> obtain ⟨-, rfl⟩ := Prod.mk.inj (Option.some.inj h) <;>
        simp only [List.length_cons] at hd ⊢ <;> omega
    · obtain ⟨-, rfl⟩ := Prod.mk.inj (Option.some.inj h)
      omega

theorem length_takeUnit {cs rest : List Char} {unit : TimeUnit}
    (h : takeUnit cs = some (unit, rest)) : rest.length < cs.length := by
  unfold takeUnit at h
  split at h <;> cases h <;> simp only [List.length_cons] <;> omega

/-- An amount with its unit takes at least one character. -/
theorem length_takePart {cs rest : List Char} {part : Part} (h : takePart cs = some (part, rest)) :
    rest.length < cs.length := by
  obtain ⟨⟨amount, behind⟩, ha, hm⟩ := Option.bind_eq_some_iff.1 h
  obtain ⟨⟨unit, after⟩, hu, he⟩ := Option.map_eq_some_iff.1 hm
  obtain ⟨-, rfl⟩ := Prod.mk.inj he
  have h₁ := length_takeAmount ha
  have h₂ := length_takeUnit hu
  have h₃ := length_dropWhile_le Text.isBlank behind
  omega

/-- The first amount with its unit that stands anywhere in a text, between what is before it and what
    is behind it. -/
def findPart : List Char → Option (List Char × Part × List Char)
  | [] => none
  | c :: cs =>
    match takePart (c :: cs) with
    | some (part, behind) => some ([], part, behind)
    | none => (findPart cs).map fun (gap, part, behind) => (c :: gap, part, behind)

/-- What is found leaves less than there was. -/
theorem length_findPart {cs gap behind : List Char} {part : Part}
    (h : findPart cs = some (gap, part, behind)) : behind.length < cs.length := by
  induction cs generalizing gap with
  | nil => cases h
  | cons c cs ih =>
    rw [findPart] at h
    split at h
    · next htake =>
      cases h
      exact length_takePart htake
    · obtain ⟨found, hfound, heq⟩ := Option.map_eq_some_iff.1 h
      cases heq
      exact Nat.lt_succ_of_lt (ih hfound)

/-- The amounts with their units that make up a text, or nothing if it holds anything else. The text is
    searched for one after the other; only blanks may be skipped. -/
def parts? (cs : List Char) : Option (List Part) :=
  match _h : findPart cs with
  | none => if isAllBlank cs then some [] else none
  | some (gap, part, behind) =>
    if isAllBlank gap then (parts? behind).map (part :: ·) else none
termination_by cs.length
decreasing_by exact length_findPart _h

/-- The sum of the amounts of a unit, in the order in which they are written. -/
def amountIn (parts : List Part) (unit : TimeUnit) : Option Binary64 :=
  match parts.filter (·.unit == unit) with
  | [] => none
  | those => some (those.foldl (fun sum part => sum.add part.amount) (.zero false))

/-- Whole microseconds, and a fraction of a microsecond that is still to be rounded. -/
structure Tally where
  whole : Int
  left : Binary64

/-- Add an amount of a unit. The fraction of the amount may hold whole microseconds. -/
def Tally.add (tally : Tally) (amount : Binary64) (unit : TimeUnit) :
    Except Calendar.SpanFault Tally :=
  match amount.truncate?, amount.fraction? with
  | some whole, some fraction =>
    let scaled := fraction.mul (.ofInt unit.micros)
    let more := (scaled.truncate?).getD 0
    let left := (scaled.fraction?).getD (.zero false)
    .ok ⟨tally.whole + whole * unit.micros + more, tally.left.add left⟩
  | _, _ => .error .infinite

/-- The nearest whole number, a half going to the even one. -/
def nearest (whole : Int) (x : Binary64) : Int :=
  match x.toRatio? with
  | none => whole
  | some (num, den) =>
    let total := whole * Int.ofNat den + num
    let low := total / Int.ofNat den
    let rest := (total % Int.ofNat den).toNat
    if 2 * rest < den then low
    else if den < 2 * rest then low + 1
    else if low % 2 = 0 then low else low + 1

def Tally.micros (tally : Tally) : Int := nearest tally.whole tally.left

def spanOf (amounts : List (TimeUnit × Binary64)) : Except Cause Calendar.Span := do
  let tally ← (amounts.foldlM (fun (tally : Tally) (unit, amount) => tally.add amount unit)
    ⟨0, .zero false⟩).mapError .span
  (Calendar.Span.checked tally.micros).mapError .span

def ofParts (parts : List Part) : Except Cause Calendar.Span :=
  spanOf (TimeUnit.all.filterMap fun unit => (amountIn parts unit).map (unit, ·))

/-- The text in lower case, without blanks at its ends. -/
def compact (text : String) : String := Text.lower (Text.strip text)

/-- A bare number of seconds; an undefined number is none. -/
def bareSeconds? (text : String) : Option Binary64 :=
  match Number.readFloat text with
  | .ok .nan => none
  | .ok x => some x
  | .error _ => none

/-- Read a length of time. -/
def read (text : String) : Except Cause Calendar.Span :=
  let short := compact text
  if short.isEmpty then .error .emptyDuration
  else
    match bareSeconds? short with
    | some x => spanOf [(.second, x)]
    | none =>
      match parts? short.toList with
      | none | some [] => .error (.badDuration text)
      | some parts => ofParts parts

end SettingText.Duration
