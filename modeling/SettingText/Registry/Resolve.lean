import SettingText.Registry.Basic

/-!
Resolving a type: the converter registered for it, or one put together by its recipe, or, for a
generic class without a recipe, the converter registered for the class alone, or an editor, or what
the fallback offers. A type that nothing serves has no converter.
-/

namespace SettingText.Registry

/-- The array element type of a recipe; three points are no type. -/
def elementOf : Descriptor → Converter.Element
  | .dots => .other "Ellipsis"
  | d => .type d

/-- The converter that a recipe puts together; `part` resolves a component. -/
def assemble {m : Type → Type} [Monad m] [MonadExcept Fault m] (resolver : NameResolver)
    (prefixes : List String) : (recipe : Recipe) →
    ((e : Descriptor) → e ∈ recipe.components → m Converter) → m (Option Converter)
  | .plain, _ => return none
  | .none fault, _ => throw fault
  | .optional base, part => do
    return some (.optional (← part base (by simp [Recipe.components])))
  | .array element, part => do
    let inner ← part (Recipe.orTop (some element)) (by simp [Recipe.components])
    match Converter.arrayOf (elementOf element) (.collection (.sequence fun _ => []) inner .asIs) with
    | .ok converter => return some converter
    | .error fault => throw fault
  | .entry key value, part => do
    let k ← part key (by simp [Recipe.components])
    let v ← part value (by simp [Recipe.components])
    return some (.entry k v)
  | .map key value, part => do
    let k ← part key (by simp [Recipe.components])
    let v ← part value (by simp [Recipe.components])
    return some (.map (.collection (.sequence fun _ => []) (.entry k v) .entries))
  | .collection container element finish, part => do
    let inner ← part element (by simp [Recipe.components])
    return some (.collection container inner finish)
  | .className bound, _ => return some (.className resolver (.cls bound) prefixes)

def holding (converter : Converter) : RegistryM Held := modifyGet (·.hold converter)

/-- Note something down. -/
def noting (record : LogRecord) : RegistryM Unit := modify (note record)

/-- The converter registered for the class of a generic type alone. -/
def originScalar? (r : Registry) : Descriptor → Option Held
  | .shape origin args => r.scalar? (.plain (Descriptor.shape origin args).rawClass)
  | _ => none

/-- The converter of a type that has no recipe. -/
def serve (d : Descriptor) : RegistryM Held := do
  let r ← get
  match r.originScalar? d with
  | some held => return held
  | none =>
    let c := d.rawClass
    match r.editors.find? r.classes c with
    | some kind => do
      noting (.viaEditor d.text)
      let editor ← modifyGet (·.engage kind)
      holding (.editor c (some editor))
    | none =>
      match r.fallback c with
      | some offer => do
        match offer.method with
        | some method => noting (.viaMethod c.name method)
        | none => pure ()
        noting (.viaFallback offer.converter.shown d.text)
        holding offer.converter
      | none => throw (.noConverter d)

/-- Resolve a type to a converter, which is kept. -/
def resolve (d : Descriptor) : RegistryM Held := do
  let r ← get
  match r.cached? d with
  | some held => return held
  | none =>
    match r.scalar? d with
    | some held => do
      modify (·.remember d held)
      return held
    | none => do
      let assembled ← assemble r.resolver r.prefixes (Recipe.of d) fun e _he => do
        return (← resolve e).converter
      let held ← match assembled with
        | some converter => do
          noting (.built converter.shown d.text)
          holding converter
        | none => serve d
      modify (·.remember d held)
      return held
termination_by d.weight
decreasing_by exact Recipe.weight_components_lt d e _he

/-- Let a converter work on a setting, with the editors of the registry. -/
def apply (converter : Converter) (value : Option Setting) : RegistryM Datum := do
  let r ← get
  let (outcome, bench) := (converter.convert r.classes value).run.run r.bench
  set { r with bench }
  match outcome with
  | .ok d => return d
  | .error fault => throw fault

def convert (value : Option Setting) (d : Descriptor) : RegistryM Datum := do
  apply (← resolve d).converter value

end SettingText.Registry
