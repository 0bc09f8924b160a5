import SettingText.Proofs.Converter.Unnumbered
import SettingText.Proofs.Except
import SettingText.Registry.Resolve

/-!
Catalogues: what the converter of a type hangs on. A catalogue builds the converter of a type from
its registrations alone; it keeps nothing and numbers nothing, so it is what every resolution is
measured by, whatever the registry has resolved before.
-/

namespace SettingText

/-- What building a converter goes by. -/
structure Catalogue where
  classes : Universe
  registered : Descriptor → Option Converter
  editors : EditorTable
  fallback : ClassRef → Option Offer
  resolver : NameResolver
  prefixes : List String

namespace Catalogue

variable (k : Catalogue)

/-- The registered converter of a type; where one is missing there is none. -/
def converter? (d : Descriptor) : Option Converter := (k.registered d).filter (·.isPresent)

/-- The converter registered for the class of a generic type alone. -/
def originConverter? : Descriptor → Option Converter
  | .shape origin args => k.converter? (.plain (Descriptor.shape origin args).rawClass)
  | _ => none

/-- The converter of a type that has no recipe. -/
def serve (d : Descriptor) : Except Fault Converter :=
  match k.originConverter? d with
  | some c => .ok c
  | none =>
    match k.editors.find? k.classes d.rawClass with
    | some kind => .ok (.editor d.rawClass (some ⟨kind, 0⟩))
    | none =>
      match k.fallback d.rawClass with
      | some offer => .ok offer.converter
      | none => .error (.noConverter d)

/-- The converter of a type. -/
def build (d : Descriptor) : Except Fault Converter :=
  match k.converter? d with
  | some c => .ok c
  | none => do
    match ← Registry.assemble k.resolver k.prefixes (Recipe.of d) fun e _he => build e with
    | some c => return c
    | none => k.serve d
termination_by d.weight
decreasing_by exact Recipe.weight_components_lt d e _he

/-- What a setting becomes at a type. -/
def outcome (value : Option Setting) (d : Descriptor) : Except Fault Datum := do
  (← k.build d).outcome k.classes value

variable {k} {d : Descriptor}

/-- Conditions on converters that hold of all that is registered, served or offered, and that
putting converters together keeps. -/
structure Keeps (k : Catalogue) (P : Converter → Prop) : Prop where
  registered : ∀ {d c}, k.converter? d = some c → P c
  edited : ∀ {c kind}, k.editors.find? k.classes c = some kind → P (.editor c (some ⟨kind, 0⟩))
  offered : ∀ {c offer}, k.fallback c = some offer → P offer.converter
  className : ∀ bound, P (.className k.resolver (.cls bound) k.prefixes)
  optional : ∀ {base}, P base → P (.optional base)
  array : ∀ {element inner}, P inner →
    P (.array element (.collection (.sequence fun _ => []) inner .asIs))
  entry : ∀ {key value}, P key → P value → P (.entry key value)
  map : ∀ {key value}, P key → P value →
    P (.map (.collection (.sequence fun _ => []) (.entry key value) .entries))
  collection : ∀ {c container inner finish}, (c, container, finish) ∈ Recipe.containers →
    P inner → P (.collection container inner finish)

theorem build_of_registered {c : Converter} (h : k.converter? d = some c) : k.build d = .ok c := by
  rw [build, h]

/-- Where nothing is registered, the converter is put together, or else served. -/
theorem build_of_unregistered (h : k.converter? d = none) :
    k.build d = (Registry.assemble k.resolver k.prefixes (Recipe.of d) fun e _ => k.build e) >>=
      fun assembled => assembled.elim (k.serve d) .ok := by
  rw [build, h]
  refine congrArg (_ >>= ·) (funext fun assembled => ?_)
  cases assembled <;> rfl

theorem build_of_plain (h : k.converter? d = none) (hr : Recipe.of d = .plain) :
    k.build d = k.serve d := by
  rw [build, h, hr]
  rfl

theorem build_of_none {fault : Fault} (h : k.converter? d = none)
    (hr : Recipe.of d = .none fault) : k.build d = .error fault := by
  rw [build, h, hr]
  rfl

theorem build_of_className {bound : ClassRef} (h : k.converter? d = none)
    (hr : Recipe.of d = .className bound) :
    k.build d = .ok (.className k.resolver (.cls bound) k.prefixes) := by
  rw [build, h, hr]
  rfl

theorem build_of_optional {base : Descriptor} (h : k.converter? d = none)
    (hr : Recipe.of d = .optional base) : k.build d = (k.build base).map .optional := by
  rw [build, h, hr]
  simp only [Registry.assemble]
  cases k.build base <;> rfl

theorem orTop_of_ne_dots {element : Descriptor} (h : element ≠ .dots) :
    Recipe.orTop (some element) = element := by
  cases element <;> first | contradiction | rfl

/-- An array is a tuple of what a list of its element type gives. -/
theorem build_of_array {element : Descriptor} (h : k.converter? d = none)
    (hr : Recipe.of d = .array element) (he : element ≠ .dots) :
    k.build d = (k.build element).map fun inner =>
      .array element (.collection (.sequence fun _ => []) inner .asIs) := by
  have hel : Registry.elementOf element = .type element := by
    cases element <;> first | contradiction | rfl
  rw [build, h, hr]
  simp only [Registry.assemble, hel, orTop_of_ne_dots he, Converter.arrayOf]
  cases k.build element <;> rfl

/-- Three points are no element type, which is found out when the rest of the array is there. -/
theorem build_of_array_dots (h : k.converter? d = none) (hr : Recipe.of d = .array .dots) :
    k.build d = k.build .top >>= fun _ =>
      .error (.misconfigured "ArrayConverter needs exactly one element type, got Ellipsis") := by
  rw [build, h, hr]
  simp only [Registry.assemble, Registry.elementOf, Recipe.orTop, Converter.arrayOf]
  cases k.build .top <;> rfl

theorem build_of_entry {key value : Descriptor} (h : k.converter? d = none)
    (hr : Recipe.of d = .entry key value) :
    k.build d = (do return .entry (← k.build key) (← k.build value)) := by
  rw [build, h, hr]
  simp only [Registry.assemble]
  cases k.build key with
  | error fault => rfl
  | ok c => cases k.build value <;> rfl

/-- A map puts its own entry converter together, whatever is registered for entries. -/
theorem build_of_map {key value : Descriptor} (h : k.converter? d = none)
    (hr : Recipe.of d = .map key value) :
    k.build d = (do
      return .map (.collection (.sequence fun _ => [])
        (.entry (← k.build key) (← k.build value)) .entries)) := by
  rw [build, h, hr]
  simp only [Registry.assemble]
  cases k.build key with
  | error fault => rfl
  | ok c => cases k.build value <;> rfl

theorem build_of_collection {element : Descriptor} {container : Container} {finish : Finish}
    (h : k.converter? d = none) (hr : Recipe.of d = .collection container element finish) :
    k.build d = (k.build element).map fun inner => .collection container inner finish := by
  rw [build, h, hr]
  simp only [Registry.assemble]
  cases k.build element <;> rfl

/-- The container of a collection is one of those listed. -/
theorem mem_containers_of_recipe {element : Descriptor} {container : Container} {finish : Finish}
    (h : Recipe.of d = .collection container element finish) :
    ∃ c, (c, container, finish) ∈ Recipe.containers := by
  have hclass : ∀ c args, Recipe.ofClass c args = .collection container element finish →
      ∃ c, (c, container, finish) ∈ Recipe.containers := by
    intro c args hc
    unfold Recipe.ofClass Recipe.ofTuple at hc
    split at hc
    · split at hc <;> cases hc
    · split at hc
      · cases hc
      · split at hc
        · cases hc
        · split at hc
          · next found =>
            cases hc
            exact ⟨_, List.mem_of_find?_eq_some found⟩
          · split at hc
            · split at hc <;> cases hc
            · cases hc
  unfold Recipe.of at h
  split at h <;> first | cases h | exact hclass _ _ h

theorem Keeps.serve {P : Converter → Prop} (hP : k.Keeps P) {c : Converter}
    (h : k.serve d = .ok c) : P c := by
  unfold Catalogue.serve originConverter? at h
  split at h
  · next found =>
    cases h
    split at found
    · exact hP.registered found
    · cases found
  · split at h
    · next found =>
      cases h
      exact hP.edited found
    · split at h
      · next found =>
        cases h
        exact hP.offered found
      · cases h

/-- Conditions on a type and its converter that hold of all that is registered or served, and that
putting a converter together carries from the components to the type. -/
structure Assembles (k : Catalogue) (P : Descriptor → Converter → Prop) : Prop where
  registered : ∀ {d c}, k.converter? d = some c → P d c
  served : ∀ {d c}, k.converter? d = none → Recipe.of d = .plain → k.serve d = .ok c → P d c
  className : ∀ {d bound}, Recipe.of d = .className bound →
    P d (.className k.resolver (.cls bound) k.prefixes)
  optional : ∀ {d base inner}, Recipe.of d = .optional base → P base inner → P d (.optional inner)
  array : ∀ {d element inner}, Recipe.of d = .array element → P element inner →
    P d (.array element (.collection (.sequence fun _ => []) inner .asIs))
  entry : ∀ {d key value ck cv}, Recipe.of d = .entry key value → P key ck → P value cv →
    P d (.entry ck cv)
  map : ∀ {d key value ck cv}, Recipe.of d = .map key value → P key ck → P value cv →
    P d (.map (.collection (.sequence fun _ => []) (.entry ck cv) .entries))
  collection : ∀ {d container element finish inner},
    Recipe.of d = .collection container element finish → P element inner →
      P d (.collection container inner finish)

/-- Such a condition holds of every type and the converter that is built for it. The induction is on
the weight of the type, since a type weighs more than its components. -/
theorem Assembles.build {P : Descriptor → Converter → Prop} (hP : k.Assembles P) {d : Descriptor}
    {c : Converter} (h : k.build d = .ok c) : P d c := by
  cases hr : k.converter? d with
  | some found =>
    rw [build_of_registered hr] at h
    cases h
    exact hP.registered hr
  | none =>
    have hlt : ∀ e ∈ (Recipe.of d).components, e.weight < d.weight := Recipe.weight_components_lt d
    cases hrecipe : Recipe.of d with
    | plain =>
      rw [build_of_plain hr hrecipe] at h
      exact hP.served hr hrecipe h
    | none fault =>
      rw [build_of_none hr hrecipe] at h
      cases h
    | className bound =>
      rw [build_of_className hr hrecipe] at h
      cases h
      exact hP.className hrecipe
    | optional base =>
      rw [build_of_optional hr hrecipe] at h
      obtain ⟨inner, hinner, rfl⟩ := map_eq_ok_iff.mp h
      have := hlt base (by simp [hrecipe, Recipe.components])
      exact hP.optional hrecipe (hP.build hinner)
    | array element =>
      by_cases he : element = .dots
      · subst he
        rw [build_of_array_dots hr hrecipe] at h
        obtain ⟨_, _, h⟩ := bind_eq_ok_iff.mp h
        cases h
      · rw [build_of_array hr hrecipe he] at h
        obtain ⟨inner, hinner, rfl⟩ := map_eq_ok_iff.mp h
        have := hlt element (by simp [hrecipe, Recipe.components, orTop_of_ne_dots he])
        exact hP.array hrecipe (hP.build hinner)
    | entry key value =>
      rw [build_of_entry hr hrecipe] at h
      obtain ⟨ck, hk, h⟩ := bind_eq_ok_iff.mp h
      obtain ⟨cv, hv, h⟩ := bind_eq_ok_iff.mp h
      cases h
      have := hlt key (by simp [hrecipe, Recipe.components])
      have := hlt value (by simp [hrecipe, Recipe.components])
      exact hP.entry hrecipe (hP.build hk) (hP.build hv)
    | map key value =>
      rw [build_of_map hr hrecipe] at h
      obtain ⟨ck, hk, h⟩ := bind_eq_ok_iff.mp h
      obtain ⟨cv, hv, h⟩ := bind_eq_ok_iff.mp h
      cases h
      have := hlt key (by simp [hrecipe, Recipe.components])
      have := hlt value (by simp [hrecipe, Recipe.components])
      exact hP.map hrecipe (hP.build hk) (hP.build hv)
    | collection container element finish =>
      rw [build_of_collection hr hrecipe] at h
      obtain ⟨inner, hinner, rfl⟩ := map_eq_ok_iff.mp h
      have := hlt element (by simp [hrecipe, Recipe.components])
      exact hP.collection hrecipe (hP.build hinner)
termination_by d.weight

/-- What holds of every registered, served or offered converter and is kept by putting converters
together holds of every converter that is built. -/
theorem Keeps.build {P : Converter → Prop} (hP : k.Keeps P) {d : Descriptor} {c : Converter}
    (h : k.build d = .ok c) : P c := by
  have hassembles : k.Assembles fun _ => P :=
    { registered := hP.registered
      served := fun _ _ => hP.serve
      className := fun _ => hP.className _
      optional := fun _ => hP.optional
      array := fun _ => hP.array
      entry := fun _ => hP.entry
      map := fun _ => hP.map
      collection := fun hrecipe hinner => by
        obtain ⟨c, hc⟩ := mem_containers_of_recipe hrecipe
        exact hP.collection hc hinner }
  exact hassembles.build h

end Catalogue

def Registry.catalogue (r : Registry) : Catalogue where
  classes := r.classes
  registered d := (r.scalars.find? d).map (·.converter)
  editors := r.editors
  fallback := r.fallback
  resolver := r.resolver
  prefixes := r.prefixes

end SettingText
