import SettingText.Converter.Convert
import SettingText.Proofs.Meaning.Kind

/-!
The meaning of types: which values a text may become at a type, part by part.
-/

namespace SettingText

/-- A value belongs to a class, or to one below it. -/
def Universe.IsInstance (u : Universe) (x : Datum) (c : ClassRef) : Prop :=
  u.isSubclass x.classOf c = true

/-- The values that a text may become at a type, or, where there is none, that absence may become.
Every part of a value is read from a part of the text: only the value of an entry may have none. -/
inductive Means (u : Universe) : Descriptor → Option String → Datum → Prop
  | absent (d : Descriptor) : Means u d none d.blank
  | leaf {d : Descriptor} {text : Option String} {x : Datum} (hd : d.IsLeaf)
      (hx : u.IsInstance x d.rawClass) : Means u d text x
  | reference {d bound : Descriptor} {rest : List Descriptor} {raw : String} {c : ClassRef}
      (hd : d.headClass? = some (.builtin "type")) (hargs : d.args = bound :: rest)
      (hc : u.isSubclass c bound.rawClass = true) : Means u d (some raw) (.cls c)
  | optional {base : Descriptor} {rest : List Descriptor} {raw : String} {x : Datum}
      (h : Means u (Recipe.orTop (some base)) (some raw) x) :
    Means u (.shape .optional (base :: rest)) (some raw) x
  | list {d : Descriptor} {c : ClassRef} {raw : String} {parts : List (String × Datum)}
      (hd : d.headClass? = some c) (hc : c ∈ Descriptor.listClasses)
      (htexts : parts.map (·.1) = itemTexts raw)
      (h : ∀ p ∈ parts, Means u (d.arg 0) (some p.1) p.2) :
    Means u d (some raw) (.list (parts.map (·.2)))
  | tuple {d : Descriptor} {c : ClassRef} {raw : String} {parts : List (String × Datum)}
      (hd : d.headClass? = some c) (hc : c ∈ Descriptor.tupleClasses)
      (htexts : parts.map (·.1) = itemTexts raw)
      (h : ∀ p ∈ parts, Means u (d.arg 0) (some p.1) p.2) :
    Means u d (some raw) (.tuple (parts.map (·.2)))
  | array {d element : Descriptor} {raw : String} {parts : List (String × Datum)}
      (hd : d.headClass? = some (.builtin "tuple"))
      (hargs : d.args = [] ∧ element = .top ∨ d.args = [element, .dots])
      (htexts : parts.map (·.1) = itemTexts raw)
      (h : ∀ p ∈ parts, Means u element (some p.1) p.2) :
    Means u d (some raw) (.tuple (parts.map (·.2)))
  | set {d : Descriptor} {c : ClassRef} {raw : String} {parts : List (String × Datum)}
      {items : List Datum} (hd : d.headClass? = some c) (hc : c ∈ Descriptor.setClasses)
      (htexts : parts.map (·.1) = itemTexts raw)
      (h : ∀ p ∈ parts, Means u (d.arg 0) (some p.1) p.2) (hitems : items ⊆ parts.map (·.2)) :
    Means u d (some raw) (.set items)
  | frozenset {d : Descriptor} {c : ClassRef} {raw : String} {parts : List (String × Datum)}
      {items : List Datum} (hd : d.headClass? = some c) (hc : c ∈ Descriptor.frozensetClasses)
      (htexts : parts.map (·.1) = itemTexts raw)
      (h : ∀ p ∈ parts, Means u (d.arg 0) (some p.1) p.2) (hitems : items ⊆ parts.map (·.2)) :
    Means u d (some raw) (.frozenset items)
  | entry {d : Descriptor} {raw : String} {key value : Datum}
      (hd : d.headClass? = some Datum.entryClass)
      (hkey : Means u (d.arg 0) (some (entryTexts raw).1) key)
      (hvalue : Means u (d.arg 1) (entryTexts raw).2 value) :
    Means u d (some raw) (.entry key value)
  | map {d : Descriptor} {c : ClassRef} {raw : String} {parts : List (String × Datum × Datum)}
      {entries : List (Datum × Datum)} (hd : d.headClass? = some c)
      (hc : c ∈ Descriptor.mapClasses)
      (htexts : parts.map (·.1) = itemTexts raw)
      (hkeys : ∀ p ∈ parts, Means u (d.arg 0) (some (entryTexts p.1).1) p.2.1)
      (hvalues : ∀ p ∈ parts, Means u (d.arg 1) (entryTexts p.1).2 p.2.2)
      (hentries : entries ⊆ parts.map (·.2))
      (hdistinct : entries.Pairwise fun a b => Datum.equalEntries a b = .ok false) :
    Means u d (some raw) (.map entries)

/-- A type that is put together answers absence by nothing. -/
theorem Means.nothing_of_recipe {u : Universe} {d : Descriptor} (h : Recipe.of d ≠ .plain) :
    Means u d none .nothing := by
  have habsent := Means.absent (u := u) d
  rwa [Descriptor.blank_of_recipe h] at habsent

end SettingText
