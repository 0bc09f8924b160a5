import SettingText.Proofs.Converter.Single
import SettingText.Proofs.Duration.Failure
import SettingText.Registry.Recipe

/-!
Converters of the kinds that come with the program. Their parsers and editors fail with parse errors
only, which become malformed texts. Where their factories do so too, a single value has no other way
to fail.
-/

namespace SettingText

theorem Fault.isMalformed_ofParse {s : Setting} {raw : String} {target : Option String}
    {cause : Cause} (h : cause.kind.isParseError = true) :
    (ofParse s raw target cause).isMalformed = true := by
  rw [ofParse, if_pos h]
  rfl

/-- A parser that fails with parse errors only. -/
def ParseErrorsOnly (parse : String → Except Fault Datum) : Prop :=
  ∀ text fault, parse text = .error fault →
    ∃ cause, fault = .stray cause ∧ cause.kind.isParseError = true

theorem parseErrorsOnly_mapError {read : String → Except Cause Datum}
    (h : ∀ text cause, read text = .error cause → cause.kind.isParseError = true) :
    ParseErrorsOnly fun text => (read text).mapError .stray := by
  intro text found hfound
  obtain ⟨cause, hcause, rfl⟩ := mapError_eq_error_iff.mp hfound
  exact ⟨cause, rfl, h text cause hcause⟩

/-- A parser that fails with parse errors only is told of as malformed texts. -/
theorem isMalformed_of_parsed {target : Option String} {parse : String → Except Fault Datum}
    (hparse : ParseErrorsOnly parse)
    {value : Option Setting} {fault : Fault} (h : parsed target parse value = .error fault) :
    fault.isMalformed = true := by
  unfold parsed at h
  split at h
  · cases h
  · next s raw _ =>
    cases hraw : parse raw with
    | ok d =>
      rw [hraw] at h
      cases h
    | error found =>
      obtain ⟨cause, rfl, hkind⟩ := hparse raw found hraw
      rw [hraw] at h
      cases h
      exact Fault.isMalformed_ofParse hkind

theorem isMalformed_of_parsedBy {target : String} {parse : String → Except Cause Datum}
    (hparse : ∀ text cause, parse text = .error cause → cause.kind.isParseError = true)
    {value : Option Setting} {fault : Fault} (h : parsedBy target parse value = .error fault) :
    fault.isMalformed = true :=
  isMalformed_of_parsed (parseErrorsOnly_mapError hparse) h

/-- A reader whose faults are all of one kind of parse error. -/
theorem isParseError_of_mapError {α ε : Type} {read : Except ε α} {f : α → Datum} {g : ε → Cause}
    (hg : ∀ e, (g e).kind.isParseError = true) {cause : Cause}
    (h : ((read.map f).mapError g) = .error cause) : cause.kind.isParseError = true := by
  obtain ⟨e, _, rfl⟩ := mapError_eq_error_iff.mp h
  exact hg e

theorem isParseError_of_inRegion {stamp : Calendar.Moment} {region : Calendar.Region} {cause : Cause}
    (h : inRegion stamp region = .error cause) : cause.kind.isParseError = true := by
  unfold inRegion at h
  split at h
  · cases h
  · obtain ⟨e, _, rfl⟩ := mapError_eq_error_iff.mp h
    rfl

theorem isParseError_of_readMoment {regions : String → Option Calendar.Region} {raw : String}
    {cause : Cause} (h : readMoment regions raw = .error cause) :
    cause.kind.isParseError = true := by
  have hstamp : ∀ text, readStamp text = .error cause → cause.kind.isParseError = true := by
    intro text htext
    obtain ⟨e, _, rfl⟩ := mapError_eq_error_iff.mp htext
    rfl
  unfold readMoment at h
  dsimp only at h
  split at h
  · exact hstamp _ h
  · obtain h | ⟨stamp, _, h⟩ := bind_eq_error_iff.mp h
    · exact hstamp _ h
    · split at h
      · cases h
        rfl
      · exact isParseError_of_inRegion h

theorem isParseError_of_readUri {raw : String} {cause : Cause} (h : readUri raw = .error cause) :
    cause.kind.isParseError = true := by
  obtain h | ⟨_, _, h⟩ := bind_eq_error_iff.mp h
  · obtain ⟨e, _, rfl⟩ := mapError_eq_error_iff.mp h
    cases e <;> rfl
  · cases h

/-- Whatever is wrong with the name of a class counts as a parse error. -/
theorem isParseError_className (fault : ClassFault) :
    (Cause.className fault).kind.isParseError = true := by
  cases fault <;> rfl

/-- The editor of lengths of time fails with parse errors only. -/
theorem isParseError_of_durationEditor {texts : List (Option String)} {cause : Cause}
    (h : EditorKind.duration.answer texts = .error cause) : cause.kind.isParseError = true := by
  unfold EditorKind.duration EditorKind.reading at h
  dsimp only at h
  split at h
  · next text _ =>
    cases hread : Duration.read text with
    | ok span =>
      rw [hread] at h
      cases h
    | error found =>
      rw [hread] at h
      cases h
      obtain hkind | hkind := Duration.kind_of_read hread <;>
      · rw [hkind]
        rfl
  · cases h

namespace Converter

def IsEntry : Converter → Prop
  | entry .. => True
  | _ => False

/-- A collection such as maps are made of. -/
def GathersEntries : Converter → Prop
  | collection container inner finish =>
    container = .sequence (fun _ => []) ∧ finish = .entries ∧ inner.IsEntry
  | _ => False

/-- A collection such as arrays are made of. -/
def GathersList : Converter → Prop
  | collection container _ finish => container = .sequence (fun _ => []) ∧ finish = .asIs
  | _ => False

/-- A converter of the kinds that come with the program, with editors that fail with parse errors
only. -/
def Own : Converter → Prop
  | missing | unparsed | function .. => False
  | editor _ inUse => ∀ e, inUse = some e → e.kind.IsPure ∧
    ∀ texts cause, e.kind.answer texts = .error cause → cause.kind.isParseError = true
  | collection container inner finish => inner.Own ∧
    ((∃ c, (c, container, finish) ∈ Recipe.containers) ∨
      GathersEntries (collection container inner finish))
  | entry key value => key.Own ∧ value.Own
  | map entries => entries.Own ∧ entries.GathersEntries
  | optional base => base.Own
  | array _ sequence => sequence.Own ∧ sequence.GathersList
  | _ => True

/-- Every factory in the converter makes an object, or fails with a parse error. -/
def MakesByParsing : Converter → Prop
  | factory _ _ make => ParseErrorsOnly make
  | collection _ inner _ => inner.MakesByParsing
  | entry key value => key.MakesByParsing ∧ value.MakesByParsing
  | map entries => entries.MakesByParsing
  | optional base => base.MakesByParsing
  | array _ sequence => sequence.MakesByParsing
  | _ => True

@[simp] theorem isEntry_unnumbered (c : Converter) : c.unnumbered.IsEntry ↔ c.IsEntry := by
  cases c <;> rfl

@[simp] theorem gathersEntries_unnumbered (c : Converter) :
    c.unnumbered.GathersEntries ↔ c.GathersEntries := by
  cases c with
  | collection container inner finish => simp [unnumbered, GathersEntries]
  | _ => rfl

@[simp] theorem gathersList_unnumbered (c : Converter) :
    c.unnumbered.GathersList ↔ c.GathersList := by
  cases c <;> rfl

theorem own_unnumbered (c : Converter) : c.unnumbered.Own ↔ c.Own := by
  induction c with
  | editor target inUse => cases inUse <;> simp [unnumbered, Own]
  | collection container inner finish ih => simp [unnumbered, Own, GathersEntries, ih]
  | entry key value ihk ihv => simp [unnumbered, Own, ihk, ihv]
  | map entries ih => simp [unnumbered, Own, ih]
  | optional base ih => simpa [unnumbered, Own] using ih
  | array element sequence ih => simp [unnumbered, Own, ih]
  | _ => rfl

theorem Alike.own {c c' : Converter} (h : Alike c c') (ho : c.Own) : c'.Own :=
  h.transfer own_unnumbered ho

theorem makesByParsing_unnumbered (c : Converter) :
    c.unnumbered.MakesByParsing ↔ c.MakesByParsing := by
  induction c with
  | collection container inner finish ih => simpa [unnumbered, MakesByParsing] using ih
  | entry key value ihk ihv => simp [unnumbered, MakesByParsing, ihk, ihv]
  | map entries ih => simpa [unnumbered, MakesByParsing] using ih
  | optional base ih => simpa [unnumbered, MakesByParsing] using ih
  | array element sequence ih => simpa [unnumbered, MakesByParsing] using ih
  | _ => rfl

theorem Alike.makesByParsing {c c' : Converter} (h : Alike c c') (hm : c.MakesByParsing) :
    c'.MakesByParsing :=
  h.transfer makesByParsing_unnumbered hm

theorem Own.isPure {c : Converter} (h : c.Own) : c.IsPure := by
  induction c with
  | editor target inUse => exact fun e he => (h e he).1
  | collection container inner finish ih => exact ih h.1
  | entry key value ihk ihv => exact ⟨ihk h.1, ihv h.2⟩
  | map entries ih => exact ih h.1
  | optional base ih => exact ih h
  | array element sequence ih => exact ih h.1
  | _ => trivial

/-- Single values are read, or fail as malformed texts. -/
theorem Own.isMalformed {c : Converter} (h : c.Own) (hm : c.MakesByParsing) (hs : c.IsSingle)
    {u : Universe} {value : Option Setting} {fault : Fault}
    (hf : c.outcome u value = .error fault) : fault.isMalformed = true := by
  cases c with
  | text | truth => cases hf
  | level => exact isMalformed_of_parsedBy (fun _ _ => isParseError_of_mapError fun _ => rfl) hf
  | moment regions =>
    refine isMalformed_of_parsedBy (fun text cause hcause => ?_) hf
    cases hread : readMoment regions text with
    | ok m =>
      rw [hread] at hcause
      cases hcause
    | error found =>
      rw [hread] at hcause
      cases hcause
      exact isParseError_of_readMoment hread
  | date | clock =>
    exact isMalformed_of_parsedBy (fun _ _ => isParseError_of_mapError fun _ => rfl) hf
  | uri => exact isMalformed_of_parsedBy (fun _ _ => isParseError_of_readUri) hf
  | className resolver bound prefixes =>
    exact isMalformed_of_parsedBy (fun _ _ => isParseError_of_mapError isParseError_className) hf
  | factory label target make => exact isMalformed_of_parsed hm hf
  | editor target inUse =>
    cases hv : present? value with
    | none =>
      rw [outcome_editor_absent _ _ hv] at hf
      cases hf
    | some found =>
      obtain ⟨s, raw⟩ := found
      obtain ⟨rfl, hraw⟩ := present?_eq_some.mp hv
      cases inUse with
      | none =>
        rw [outcome, convert_editor, hv] at hf
        cases hf
        rfl
      | some e =>
        rw [outcome_editor _ _ hraw] at hf
        unfold judged at hf
        split at hf
        · next cause hcause =>
          cases hf
          exact Fault.isMalformed_ofParse ((h e rfl).2 _ _ hcause)
        · cases hf
        · split at hf <;> cases hf
          rfl
  | missing | unparsed | function | collection | entry | map | optional | array =>
    first | exact h.elim | exact hs.elim

end Converter

end SettingText
