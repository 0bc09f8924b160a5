import Mathlib.Logic.Basic
import SettingText.Proofs.Converter.Outcome

/-!
Converters that look for no name outside the allowed prefixes. To test a name for its prefix and to have
a resolver that refuses every other name come to the same, so the test may be left to the resolver: at
every depth of a converter this changes nothing.
-/

namespace SettingText

/-- The resolver for names that begin with one of the prefixes, if there are any; it refuses any other. -/
def NameResolver.within (prefixes : List String) (resolver : NameResolver) : NameResolver :=
  fun name =>
    if !prefixes.isEmpty && !prefixes.any (name.startsWith ·) then .error (.outsidePrefixes name)
    else resolver name

theorem NameResolver.within_nil (resolver : NameResolver) : resolver.within [] = resolver := rfl

/-- Resolvers that agree on the names with an allowed prefix are the same within the prefixes. -/
theorem NameResolver.within_eq {prefixes : List String} {first second : NameResolver}
    (hne : prefixes ≠ [])
    (h : ∀ name, (∃ p ∈ prefixes, name.startsWith p = true) → first name = second name) :
    first.within prefixes = second.within prefixes := by
  funext name
  rw [within, within]
  split
  · rfl
  · rename_i hinside
    have hsome : ∃ p ∈ prefixes, name.startsWith p = true := by simpa [hne] using hinside
    exact h name hsome

theorem readClass_within (u : Universe) (resolver : NameResolver) (bound : ClassBound)
    (prefixes : List String) (raw : String) :
    readClass u (resolver.within prefixes) bound [] raw =
      readClass u resolver bound prefixes raw := by
  unfold readClass NameResolver.within
  dsimp only
  rw [if_neg (by simp)]
  split <;> rfl

/-- A name outside the prefixes is refused before any resolver is asked. -/
theorem readClass_of_outside {u : Universe} {resolver : NameResolver} {bound : ClassBound}
    {prefixes : List String} {raw : String} (hne : prefixes ≠ [])
    (h : ∀ p ∈ prefixes, (Text.strip raw).startsWith p = false) :
    readClass u resolver bound prefixes raw = .error (.outsidePrefixes (Text.strip raw)) := by
  have houtside : (!prefixes.isEmpty && !prefixes.any ((Text.strip raw).startsWith ·)) = true := by
    simpa [hne] using h
  rw [readClass]
  dsimp only
  rw [if_pos houtside]
  rfl

namespace Converter

/-- The converter in which every test of a prefix is left to the resolver. -/
def confined : Converter → Converter
  | className resolver bound prefixes => className (resolver.within prefixes) bound []
  | collection container inner finish => collection container inner.confined finish
  | entry key value => entry key.confined value.confined
  | map entries => map entries.confined
  | optional base => optional base.confined
  | array element sequence => array element sequence.confined
  | c => c

@[simp] theorem shown_confined (c : Converter) : c.confined.shown = c.shown := by
  induction c with
  | collection container inner finish ih =>
    exact congrArg (fun text => s!"CollectionConverter({text})") ih
  | entry key item ihkey ihitem =>
    exact congrArg₂ (fun first second => s!"EntryConverter({first}, {second})") ihkey ihitem
  | map entries ih => exact congrArg (fun text => s!"MapConverter({text})") ih
  | optional base ih => exact congrArg (fun text => s!"OptionalConverter({text})") ih
  | array element sequence ih =>
    exact congrArg (fun text => s!"ArrayConverter({element.text}, {text})") ih
  | _ => rfl

@[simp] theorem isPresent_confined (c : Converter) : c.confined.isPresent = c.isPresent := by
  cases c <;> rfl

/-- Leaving the test to the resolvers changes nothing in what a converter does. -/
theorem convert_confined (u : Universe) (c : Converter) (value : Option Setting) :
    c.confined.convert u value = c.convert u value := by
  induction c generalizing value with
  | className resolver bound prefixes =>
    simp only [confined, convert, readClass_within]
  | collection container inner finish ih => simp only [confined, convert, ih]
  | entry key item ihkey ihitem => simp only [confined, convert, ihkey, ihitem]
  | map entries ih => simp only [confined, convert, ih]
  | optional base ih => simp only [confined, convert, ih]
  | array element sequence ih => simp only [confined, convert, ih]
  | _ => rfl

/-- A class whose name is outside the prefixes is reported as a malformed text. -/
theorem convert_className_of_outside (u : Universe) (resolver : NameResolver) (bound : ClassBound)
    {prefixes : List String} {s : Setting} {raw : String} (hraw : s.raw = some raw)
    (hne : prefixes ≠ []) (h : ∀ p ∈ prefixes, (Text.strip raw).startsWith p = false) :
    (className resolver bound prefixes).convert u (some s) =
      .ofExcept (.error (.malformed (some raw)
        (ClassFault.outsidePrefixes (Text.strip raw)).message (some s) (some "type")
        (some .lookup))) := by
  have hread : readClass u resolver bound prefixes raw = .error (.outsidePrefixes (Text.strip raw)) :=
    readClass_of_outside hne h
  simp only [convert, parsedBy, parsed, present?_of_raw hraw, hread]
  rfl

end Converter

end SettingText
