import SettingText.Proofs.Registry.Catalogue

/-!
The kinds of types, by their classes and arguments alone, and which recipe each kind has.
-/

namespace SettingText

namespace Descriptor

/-- The class of a type that is a class, with arguments or without. -/
def headClass? : Descriptor → Option ClassRef
  | plain c | shape (.cls c) _ => some c
  | _ => none

def args : Descriptor → List Descriptor
  | shape _ args => args
  | _ => []

/-- An argument of a type; for three points or none at all, the type of everything. -/
def arg (d : Descriptor) (i : Nat) : Descriptor := Recipe.orTop d.args[i]?

def listClasses : List ClassRef := [.builtin "list", .abstraction "MutableSequence"]

def tupleClasses : List ClassRef :=
  [.abstraction "Sequence", .abstraction "Collection", .abstraction "Iterable"]

def setClasses : List ClassRef := [.builtin "set", .abstraction "MutableSet"]

def frozensetClasses : List ClassRef := [.builtin "frozenset", .abstraction "Set"]

def mapClasses : List ClassRef :=
  [.builtin "dict", .abstraction "Mapping", .abstraction "MutableMapping"]

/-- The classes whose values are put together from others: sequences, arrays, sets, maps and
entries. -/
def gatheringClasses : List ClassRef :=
  listClasses ++ tupleClasses ++ [.builtin "tuple"] ++ setClasses ++ frozensetClasses ++ mapClasses ++
    [Datum.entryClass]

/-- A type whose values are not put together from others, and which is neither optional nor asks for
a class below another. -/
def IsLeaf (d : Descriptor) : Prop :=
  (∀ c, d.headClass? = some c → c ∉ gatheringClasses ∧ (c = .builtin "type" → d.args = [])) ∧
    ∀ args, d ≠ shape .optional args

/-- The answer to an absent setting: a truth value is false, anything else is nothing. -/
def blank (d : Descriptor) : Datum :=
  if d.rawClass = .builtin "bool" then .bool false else .nothing

variable {d : Descriptor} {c : ClassRef}

theorem isLeaf_plain (h : c ∉ gatheringClasses) : (plain c).IsLeaf := by
  refine ⟨fun c' hc' => ?_, by simp⟩
  obtain rfl : c = c' := Option.some.inj hc'
  exact ⟨h, fun _ => rfl⟩

end Descriptor

namespace Recipe

open Descriptor

variable {d : Descriptor}

theorem mem_of_gatheringClasses : ∀ c ∈ gatheringClasses,
    c = .builtin "tuple" ∨ c = Datum.entryClass ∨ c ∈ Recipe.mapClasses ∨
      ∃ x ∈ containers, x.1 = c := by
  decide

/-- The containers of collections, by their classes. -/
theorem containers_cases {c : ClassRef} {container : Container} {finish : Finish}
    (h : (c, container, finish) ∈ containers) :
    (container = .sequence (fun _ => []) ∧
        (c ∈ listClasses ∧ finish = .asIs ∨ c ∈ tupleClasses ∧ finish = .tuple)) ∨
      (container = .set ∧
        (c ∈ setClasses ∧ finish = .asIs ∨ c ∈ frozensetClasses ∧ finish = .frozenset)) := by
  simp only [containers, List.mem_cons, Prod.mk.injEq, List.not_mem_nil, or_false] at h
  rcases h with ⟨rfl, rfl, rfl⟩ | ⟨rfl, rfl, rfl⟩ | ⟨rfl, rfl, rfl⟩ | ⟨rfl, rfl, rfl⟩ |
    ⟨rfl, rfl, rfl⟩ | ⟨rfl, rfl, rfl⟩ | ⟨rfl, rfl, rfl⟩ | ⟨rfl, rfl, rfl⟩ | ⟨rfl, rfl, rfl⟩
  all_goals simp [listClasses, tupleClasses, setClasses, frozensetClasses]

/-- Which recipe a type has, by its class and its arguments. -/
inductive Kind : Descriptor → Recipe → Prop
  | leaf {d : Descriptor} (hd : d.IsLeaf) : Kind d plain
  | none {d : Descriptor} (fault : Fault) : Kind d (none fault)
  | optional (base : Descriptor) (rest : List Descriptor) :
    Kind (.shape .optional (base :: rest)) (optional (orTop (some base)))
  | array {d : Descriptor} (element : Descriptor) (hd : d.headClass? = some (.builtin "tuple"))
      (hargs : d.args = [] ∧ element = .top ∨ d.args = [element, .dots]) : Kind d (array element)
  | entry {d : Descriptor} (hd : d.headClass? = some Datum.entryClass) :
    Kind d (entry (d.arg 0) (d.arg 1))
  | map {d : Descriptor} {c : ClassRef} (hd : d.headClass? = some c) (hc : c ∈ Descriptor.mapClasses) :
    Kind d (map (d.arg 0) (d.arg 1))
  | collection {d : Descriptor} {c : ClassRef} {container : Container} {finish : Finish}
      (hd : d.headClass? = some c) (hc : (c, container, finish) ∈ containers) :
    Kind d (collection container (d.arg 0) finish)
  | className {d : Descriptor} (bound : Descriptor) (rest : List Descriptor)
      (hd : d.headClass? = some (.builtin "type")) (hargs : d.args = bound :: rest) :
    Kind d (className bound.rawClass)

private theorem kind_ofClass {c : ClassRef} (hd : d.headClass? = some c)
    (hne : ∀ args, d ≠ .shape .optional args) : Kind d (ofClass c d.args) := by
  unfold ofClass
  split
  · next htuple =>
    subst htuple
    unfold ofTuple
    split
    · next hargs => exact .array _ hd (.inl ⟨hargs, rfl⟩)
    · next hargs => exact .array _ hd (.inr hargs)
    · exact .none _
  · next htuple =>
    split
    · next hentry => exact .entry (hentry ▸ hd)
    · next hentry =>
      split
      · next hmap => exact .map hd (List.contains_iff_mem.mp hmap)
      · next hmap =>
        split
        · next key container finish hfound =>
          have hkey : key = c := by simpa using List.find?_some hfound
          exact .collection hd (hkey ▸ List.mem_of_find?_eq_some hfound)
        · next hnone =>
          have hc : c ∉ gatheringClasses := by
            intro hc
            obtain h | h | h | ⟨x, hx, h⟩ := mem_of_gatheringClasses c hc
            · exact htuple h
            · exact hentry h
            · exact hmap (List.contains_iff_mem.mpr h)
            · exact List.find?_eq_none.mp hnone x hx (beq_iff_eq.mpr h)
          have hleaf : (c = .builtin "type" → d.args = []) → Kind d plain := by
            refine fun hargs => .leaf ⟨fun c' hc' => ?_, hne⟩
            obtain rfl : c = c' := Option.some.inj (hd.symm.trans hc')
            exact ⟨hc, hargs⟩
          split
          · next bound rest hargs =>
            split
            · next htype => exact .className bound rest (htype ▸ hd) hargs
            · next htype => exact hleaf fun h => absurd h htype
          · next hargs => exact hleaf fun _ => hargs

/-- The recipe of every type is that of its kind. -/
theorem kind_of (d : Descriptor) : Kind d (of d) := by
  cases d with
  | dots => exact .leaf ⟨by simp [headClass?], by simp⟩
  | plain c => exact kind_ofClass (d := .plain c) rfl (by simp)
  | shape origin args =>
    cases origin with
    | optional =>
      cases args with
      | nil => exact .none _
      | cons base rest => exact .optional base rest
    | cls c => exact kind_ofClass (d := .shape (.cls c) args) rfl (by simp)
    | foreign text => exact .leaf ⟨by simp [headClass?], by simp⟩

/-- A type whose values are put together is neither a leaf nor optional nor a reference to a class. -/
theorem Kind.of_gathering {recipe : Recipe} {c : ClassRef} (h : Kind d recipe)
    (hd : d.headClass? = some c) (hc : c ∈ gatheringClasses) :
    recipe ≠ .plain ∧ (∀ base, recipe ≠ .optional base) ∧ ∀ bound, recipe ≠ .className bound := by
  cases h with
  | leaf hleaf => exact absurd hc (hleaf.1 c hd).1
  | optional base rest => cases hd
  | className bound rest htype =>
    obtain rfl := Option.some.inj (htype.symm.trans hd)
    exact absurd hc (by decide)
  | _ => simp

/-- A truth value has no recipe, with arguments or without. -/
theorem of_eq_plain_of_bool (h : d.rawClass = .builtin "bool") : of d = plain := by
  cases d with
  | dots => rfl
  | plain c => cases h; rfl
  | shape origin args =>
    cases origin with
    | optional => exact absurd h (by simp [Descriptor.rawClass, ClassRef.object, ClassRef.builtin])
    | cls c => cases h; cases args <;> rfl
    | foreign text => rfl

end Recipe

theorem Descriptor.blank_of_recipe {d : Descriptor} (h : Recipe.of d ≠ .plain) :
    d.blank = .nothing :=
  if_neg fun hbool => h (Recipe.of_eq_plain_of_bool hbool)

/-- The types that every program starts with converters for are leaf types. -/
theorem Registry.isLeaf_builtinScalars (resolver : NameResolver) (prefixes : List String) :
    ∀ entry ∈ builtinScalars resolver prefixes, ∀ d ∈ entry.1, d.IsLeaf := by
  simp only [builtinScalars, List.forall_mem_cons, List.not_mem_nil, false_implies, implies_true,
    and_true]
  refine ⟨⟨?_, ?_⟩, ?_, ?_, ?_, ?_, ?_, ?_, ?_⟩ <;> exact Descriptor.isLeaf_plain (by decide)

/-- Where something is registered for truth values, nothing else serves them. -/
theorem Catalogue.blank_of_not_registered {k : Catalogue} {d : Descriptor}
    (hbool : ∃ c, k.converter? (.plain (.builtin "bool")) = some c) (hnone : k.converter? d = none)
    (horigin : k.originConverter? d = none) : d.blank = .nothing := by
  obtain ⟨c, hc⟩ := hbool
  refine if_neg fun hclass => ?_
  rw [← hclass] at hc
  cases d with
  | dots => exact absurd hclass (by decide)
  | plain cls => exact absurd (hnone.symm.trans hc) (by simp)
  | shape origin args => exact absurd (horigin.symm.trans hc) (by simp)

end SettingText
