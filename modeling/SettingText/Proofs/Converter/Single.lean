import SettingText.Proofs.Converter.Unnumbered
import SettingText.Proofs.Except

/-!
Converters of single values, which are not put together from others: what they make of an absent
setting, and what a malformed text is told of.
-/

namespace SettingText

/-- If the fault is a malformed text, it is the text of this setting, and is told of the setting. -/
def Fault.IsAbout (s : Setting) : Fault → Prop
  | malformed raw _ value _ _ => raw.isSome ∧ raw = s.raw ∧ value = some s
  | _ => True

/-- The fault is a malformed text. -/
def Fault.isMalformed : Fault → Bool
  | malformed .. => true
  | _ => false

theorem Fault.isAbout_of_not_isMalformed {fault : Fault} (h : fault.isMalformed = false)
    (s : Setting) : fault.IsAbout s := by
  cases fault with
  | malformed => simp [isMalformed] at h
  | _ => trivial

/-- A parse error is told of the setting that was parsed. -/
theorem Fault.isAbout_ofParse {s : Setting} {raw : String} (h : s.raw = some raw)
    (target : Option String) (cause : Cause) : (ofParse s raw target cause).IsAbout s := by
  unfold ofParse
  split
  · exact ⟨rfl, h.symm, rfl⟩
  · trivial

/-- A parser that makes no malformed texts of its own is told of rightly. -/
theorem isAbout_of_parsed {target : Option String} {parse : String → Except Fault Datum}
    (hparse : ∀ text fault, parse text = .error fault → fault.isMalformed = false) {s : Setting}
    {fault : Fault} (h : parsed target parse (some s) = .error fault) : fault.IsAbout s := by
  unfold parsed at h
  split at h
  · cases h
  · next found =>
    obtain ⟨hs, hraw⟩ := Converter.present?_eq_some.mp found
    cases hs
    unfold attributed at h
    split at h
    · cases h
      exact Fault.isAbout_ofParse hraw _ _
    · exact Fault.isAbout_of_not_isMalformed (hparse _ _ h) s

theorem isAbout_of_parsedBy {target : String} {parse : String → Except Cause Datum} {s : Setting}
    {fault : Fault} (h : parsedBy target parse (some s) = .error fault) : fault.IsAbout s := by
  refine isAbout_of_parsed (fun text fault hfault => ?_) h
  obtain ⟨cause, _, rfl⟩ := mapError_eq_error_iff.mp hfault
  rfl

namespace Converter

/-- A converter of single values. A function answers an absent setting with nothing, as converters
are to do. -/
def IsSingle : Converter → Prop
  | missing | collection .. | entry .. | map _ | optional _ | array .. => False
  | function _ run => ∀ s : Setting, s.raw = none → run (some s) = .ok .nothing
  | _ => True

/-- The answer to an absent setting: a truth value is false, anything else is nothing. -/
def blank : Converter → Datum
  | truth => .bool false
  | _ => .nothing

@[simp] theorem isSingle_unnumbered (c : Converter) : c.unnumbered.IsSingle ↔ c.IsSingle := by
  cases c <;> rfl

@[simp] theorem blank_unnumbered (c : Converter) : c.unnumbered.blank = c.blank := by
  cases c <;> rfl

theorem Alike.isSingle {c c' : Converter} (h : Alike c c') (hs : c.IsSingle) : c'.IsSingle :=
  h.transfer isSingle_unnumbered hs

theorem Alike.blank_eq {c c' : Converter} (h : Alike c c') : c.blank = c'.blank := by
  rw [← blank_unnumbered, h, blank_unnumbered]

/-- A converter of single values never fails at an absent setting. -/
theorem IsSingle.outcome_of_absent {c : Converter} (h : c.IsSingle) {u : Universe} {s : Setting}
    (hs : s.raw = none) : c.outcome u (some s) = .ok c.blank := by
  have habsent : present? (some s) = none := present?_of_absent hs
  cases c with
  | text => simp [outcome_text, rawOf, hs, blank]
  | truth => simp [outcome_truth, truthOf, hs, blank]
  | level | moment | date | clock | uri | unparsed | className | factory =>
    exact parsed_of_absent habsent
  | function name run => exact h s hs
  | editor target inUse => exact outcome_editor_absent _ _ habsent
  | missing | collection | entry | map | optional | array => exact h.elim

/-- The function or the factory in a converter makes no malformed texts of its own. -/
def MakesNoMalformed : Converter → Prop
  | function _ run => ∀ value fault, run value = .error fault → fault.isMalformed = false
  | factory _ _ make => ∀ text fault, make text = .error fault → fault.isMalformed = false
  | _ => True

@[simp] theorem makesNoMalformed_unnumbered (c : Converter) :
    c.unnumbered.MakesNoMalformed ↔ c.MakesNoMalformed := by
  cases c <;> rfl

theorem Alike.makesNoMalformed {c c' : Converter} (h : Alike c c') (hm : c.MakesNoMalformed) :
    c'.MakesNoMalformed :=
  h.transfer makesNoMalformed_unnumbered hm

/-- What an editor's answer is refused for is told of the setting it was given. -/
theorem isAbout_of_judged {u : Universe} {target : ClassRef} {s : Setting} {raw : String}
    (hraw : s.raw = some raw) {answer : Except Cause Datum} {fault : Fault}
    (h : judged u target s raw answer = .error fault) : fault.IsAbout s := by
  unfold judged at h
  split at h
  · cases h
    exact Fault.isAbout_ofParse hraw _ _
  · cases h
  · split at h
    · cases h
    · cases h
      exact ⟨rfl, hraw.symm, rfl⟩

/-- A malformed text is told of the very setting that a converter of single values was given. -/
theorem IsSingle.isAbout {c : Converter} (hs : c.IsSingle) (hm : c.MakesNoMalformed) {u : Universe}
    {s : Setting} {fault : Fault} (h : c.outcome u (some s) = .error fault) : fault.IsAbout s := by
  cases c with
  | text => cases h
  | truth => cases h
  | level | moment | date | clock | uri | className => exact isAbout_of_parsedBy h
  | unparsed =>
    refine isAbout_of_parsed (fun text fault hfault => ?_) h
    cases hfault
    rfl
  | function name run => exact Fault.isAbout_of_not_isMalformed (hm _ _ h) s
  | factory label target make => exact isAbout_of_parsed hm h
  | editor target inUse =>
    cases hraw : s.raw with
    | none =>
      rw [outcome_editor_absent _ _ (present?_of_absent hraw)] at h
      cases h
    | some raw =>
      cases inUse with
      | none =>
        rw [outcome, convert_editor, present?_of_raw hraw] at h
        cases h
        exact ⟨rfl, hraw.symm, rfl⟩
      | some e =>
        rw [outcome_editor _ _ hraw] at h
        exact isAbout_of_judged hraw h
  | missing | collection | entry | map | optional | array => exact hs.elim

end Converter

end SettingText
