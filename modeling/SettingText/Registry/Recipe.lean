import SettingText.Converter.Basic

/-!
Recipes: how the converter of a type is put together from the converters of its components. The
recipe of a type hangs on its shape alone, and its components are simpler than the type.
-/

namespace SettingText

/-- How a converter is put together. -/
inductive Recipe where
  /-- The type has no shape of its own. -/
  | plain
  /-- The type has a shape for which there is no converter. -/
  | none (fault : Fault)
  | optional (base : Descriptor)
  /-- An array of one element type; three points in its place are refused later. -/
  | array (element : Descriptor)
  | entry (key value : Descriptor)
  | map (key value : Descriptor)
  | collection (container : Container) (element : Descriptor) (finish : Finish)
  /-- A class that lies below a bound. -/
  | className (bound : ClassRef)

namespace Recipe

/-- Three points and a missing argument stand for the type of everything. -/
def orTop : Option Descriptor → Descriptor
  | some .dots | Option.none => .top
  | some d => d

/-- The containers of the collection types. -/
def containers : List (ClassRef × Container × Finish) :=
  let list : Container := .sequence fun _ => []
  [(.builtin "list", list, .asIs), (.abstraction "MutableSequence", list, .asIs),
    (.abstraction "Sequence", list, .tuple), (.abstraction "Collection", list, .tuple),
    (.abstraction "Iterable", list, .tuple), (.builtin "set", .set, .asIs),
    (.abstraction "MutableSet", .set, .asIs), (.builtin "frozenset", .set, .frozenset),
    (.abstraction "Set", .set, .frozenset)]

def mapClasses : List ClassRef :=
  [.builtin "dict", .abstraction "Mapping", .abstraction "MutableMapping"]

/-- The recipe of a tuple: only a tuple of any length has one. -/
def ofTuple (args : List Descriptor) : Recipe :=
  match args with
  | [] => array .top
  | [element, .dots] => array element
  | _ => none (.noConverter (.shape (.cls (.builtin "tuple")) args))

def ofClass (c : ClassRef) (args : List Descriptor) : Recipe :=
  if c = .builtin "tuple" then ofTuple args
  else if c = Datum.entryClass then entry (orTop args[0]?) (orTop args[1]?)
  else if mapClasses.contains c then map (orTop args[0]?) (orTop args[1]?)
  else
    match containers.find? (·.1 == c) with
    | some (_, container, finish) => collection container (orTop args[0]?) finish
    | Option.none =>
      match args with
      | bound :: _ => if c = .builtin "type" then className bound.rawClass else plain
      | [] => plain

def of : Descriptor → Recipe
  | .dots => plain
  | .plain c => ofClass c []
  | .shape .optional (base :: _) => optional (orTop (some base))
  | .shape .optional [] => none (.stray (.other .index "tuple index out of range"))
  | .shape (.cls c) args => ofClass c args
  | .shape (.foreign _) _ => plain

/-- The types whose converters a recipe needs, in the order in which it needs them. -/
def components : Recipe → List Descriptor
  | plain | none _ | className _ => []
  | optional base => [base]
  | array element => [orTop (some element)]
  | entry key value | map key value => [key, value]
  | collection _ element _ => [element]

theorem weight_orTop_getElem? (args : List Descriptor) (i : Nat) :
    (orTop args[i]?).weight ≤ Descriptor.weight.weights args := by
  induction args generalizing i with
  | nil => simp [orTop, Descriptor.top, Descriptor.weight]
  | cons d rest ih =>
    cases i with
    | zero =>
      have : (orTop (some d)).weight ≤ d.weight := by
        cases d <;> simp [orTop, Descriptor.top, Descriptor.weight]
      simpa [Descriptor.weight.weights] using Nat.le_trans this (Nat.le_max_left ..)
    | succ n =>
      simpa [Descriptor.weight.weights] using Nat.le_trans (ih n) (Nat.le_max_right ..)

theorem weight_components_ofTuple (args : List Descriptor) :
    ∀ d ∈ (ofTuple args).components, d.weight ≤ Descriptor.weight.weights args := by
  unfold ofTuple
  split
  · simp [components, orTop, Descriptor.top, Descriptor.weight]
  · next element =>
    have h := weight_orTop_getElem? [element, .dots] 0
    simpa [components] using h
  · simp [components]

/-- What a recipe needs for a class weighs no more than the arguments of the class. -/
theorem weight_components_ofClass (c : ClassRef) (args : List Descriptor) :
    ∀ d ∈ (ofClass c args).components, d.weight ≤ Descriptor.weight.weights args := by
  have h₀ := weight_orTop_getElem? args 0
  have h₁ := weight_orTop_getElem? args 1
  unfold ofClass
  split
  · exact weight_components_ofTuple args
  · split
    · simpa [components] using ⟨h₀, h₁⟩
    · split
      · simpa [components] using ⟨h₀, h₁⟩
      · split
        · simpa [components] using h₀
        · split
          · split <;> simp [components]
          · simp [components]

theorem components_ofClass_object : (ofClass .object []).components = [] := by decide

/-- What a recipe needs is simpler than the type it is for. -/
theorem weight_components_lt (d : Descriptor) :
    ∀ e ∈ (of d).components, e.weight < d.weight := by
  intro e he
  match d with
  | .dots => simp [of, components] at he
  | .plain c =>
    by_cases hc : c = .object
    · subst hc
      simp only [of, components_ofClass_object, List.not_mem_nil] at he
    · have h := weight_components_ofClass c [] e he
      simp only [Descriptor.weight.weights] at h
      simp only [Descriptor.weight, hc, if_false]
      omega
  | .shape .optional (base :: rest) =>
    have h := weight_orTop_getElem? (base :: rest) 0
    simp only [of, components, List.mem_singleton] at he
    subst he
    simp only [Descriptor.weight]
    simp only [List.getElem?_cons_zero] at h
    omega
  | .shape .optional [] => simp [of, components] at he
  | .shape (.cls c) args =>
    have h := weight_components_ofClass c args e he
    simp only [Descriptor.weight]
    omega
  | .shape (.foreign _) _ => simp [of, components] at he

end Recipe

end SettingText
