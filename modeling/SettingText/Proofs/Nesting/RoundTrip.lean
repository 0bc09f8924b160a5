import SettingText.Proofs.Converter.Entries
import SettingText.Proofs.Fragment.Escape
import SettingText.Proofs.Nesting.Basic

/-!
Nested data written as one text, and read back. Every level of nesting escapes the delimiters of the
levels within it, so each level can be cut apart by itself.
-/

namespace SettingText

/-- A value of a leaf type, as it is written. -/
structure Written where
  text : String
  value : Datum

/-- The value of an entry, with what stands for an absent one. -/
def entryPair {κ ν : Type} (key : κ → Datum) (value : ν → Datum) (absent : Datum)
    (x : κ × Option ν) : Datum × Datum :=
  (key x.1, (x.2.map value).getD absent)

/-- The text of an entry. -/
def entryChars {κ ν : Type} (key : κ → List Char) (value : ν → List Char) (x : κ × Option ν) :
    List Char :=
  Fragment.encodeEntry (key x.1) (x.2.map value)

/-- Items that read back one by one, and whose texts can be told apart when they are joined. -/
def ItemsReadable {α : Type} (chars : α → List Char) (item : α → Prop) (xs : List α) : Prop :=
  (∀ x ∈ xs, item x) ∧ Fragment.Joinable (xs.map chars)

/-- An entry that can be cut apart again: where it has a value, the key does not end with a
backslash, which would keep the equals sign behind it from cutting. -/
def EntryReadable {κ ν : Type} (keyChars : κ → List Char) (key : κ → Prop) (value : ν → Prop)
    (x : κ × Option ν) : Prop :=
  key x.1 ∧ ∀ y ∈ x.2, (keyChars x.1).getLast? ≠ some Fragment.escapeChar ∧ value y

namespace Nesting

/-- The data of a type: leaves as they are written, and entries whose value may be absent. -/
def Data : Nesting → Type
  | leaf _ => Written
  | sequence _ element | array element => List element.Data
  | entry key value => key.Data × Option value.Data
  | map _ key value => List (key.Data × Option value.Data)
  | optional base => base.Data

def chars : (t : Nesting) → t.Data → List Char
  | leaf _, x => x.text.toList
  | sequence _ element, xs | array element, xs => Fragment.encodeItems (List.map element.chars xs)
  | entry key value, x => entryChars key.chars value.chars x
  | map _ key value, xs => Fragment.encodeItems (List.map (entryChars key.chars value.chars) xs)
  | optional base, x => base.chars x

def text (t : Nesting) (x : t.Data) : String := String.ofList (t.chars x)

/-- What a type answers to absence, given what its leaves do. -/
def absent (blank : LeafType → Datum) : Nesting → Datum
  | leaf d => blank d
  | _ => .nothing

/-- The value of data, given what leaf types answer to absence. -/
def value (blank : LeafType → Datum) : (t : Nesting) → t.Data → Datum
  | leaf _, x => x.value
  | sequence c element, xs => c.of (List.map (element.value blank) xs)
  | array element, xs => .tuple (List.map (element.value blank) xs)
  | entry key value, x =>
    let pair := entryPair (key.value blank) (value.value blank) (value.absent blank) x
    .entry pair.1 pair.2
  | map _ key value, xs =>
    .map (List.map (entryPair (key.value blank) (value.value blank) (value.absent blank)) xs)
  | optional base, x => base.value blank x

/-- Data that can be read back: each leaf reads back by itself, what is joined can be told apart
again, and no two entries of a map are equal. -/
def Readable (reads : LeafType → Setting → Except Fault Datum) (blank : LeafType → Datum) :
    (t : Nesting) → t.Data → Prop
  | leaf d, x => ∀ s : Setting, s.raw = some x.text → reads d s = .ok x.value
  | sequence _ element, xs | array element, xs =>
    ItemsReadable element.chars (element.Readable reads blank) xs
  | entry key value, x =>
    EntryReadable key.chars (key.Readable reads blank) (value.Readable reads blank) x
  | map _ key value, xs =>
    ItemsReadable (entryChars key.chars value.chars)
        (EntryReadable key.chars (key.Readable reads blank) (value.Readable reads blank)) xs ∧
      (List.map (entryPair (key.value blank) (value.value blank) (value.absent blank)) xs).Pairwise
        fun a b => Datum.equalEntries a b = .ok false
  | optional base, x => base.Readable reads blank x

end Nesting

/-- Items are read back from the text of their collection. -/
theorem ItemsReadable.mapM_itemTexts {α : Type} {chars : α → List Char} {item : α → Prop}
    {xs : List α} (hx : ItemsReadable chars item xs) {f : String → Except Fault Datum}
    {g : α → Datum} (hread : ∀ x, item x → f (String.ofList (chars x)) = .ok (g x)) :
    (itemTexts (String.ofList (Fragment.encodeItems (xs.map chars)))).mapM f = .ok (xs.map g) := by
  rw [itemTexts_encodeItems hx.2, mapM_eq_ok_iff, List.map_map, List.forall₂_map_left_iff,
    List.forall₂_map_right_iff, List.forall₂_same]
  exact fun x hmem => hread x (hx.1 x hmem)

/-- The key and the value are read back from the text of their entry. -/
theorem EntryReadable.read_entryTexts {κ ν : Type} {keyChars : κ → List Char}
    {valueChars : ν → List Char} {key : κ → Prop} {value : ν → Prop} {x : κ × Option ν}
    (hx : EntryReadable keyChars key value x) {f : String → Except Fault Datum}
    {g : Option String → Except Fault Datum} {keyOf : κ → Datum} {valueOf : ν → Datum}
    {absent : Datum} (hkey : ∀ k, key k → f (String.ofList (keyChars k)) = .ok (keyOf k))
    (hvalue : ∀ v, value v → g (some (String.ofList (valueChars v))) = .ok (valueOf v))
    (habsent : g none = .ok absent) :
    (do
      let k ← f (entryTexts (String.ofList (entryChars keyChars valueChars x))).1
      let v ← g (entryTexts (String.ofList (entryChars keyChars valueChars x))).2
      return entryItem (k, v)) = Except.ok (entryItem (entryPair keyOf valueOf absent x)) := by
  obtain ⟨k, v⟩ := x
  obtain ⟨hk, hv⟩ := hx
  cases v with
  | none =>
    rw [entryChars, Option.map_none, entryTexts_encodeEntry_none, hkey k hk, habsent]
    rfl
  | some v =>
    obtain ⟨hlast, hv⟩ := hv v rfl
    rw [entryChars, Option.map_some, entryTexts_encodeEntry_some hlast, hkey k hk, hvalue v hv]
    rfl

namespace Nesting

variable {u : Universe} {served : LeafType → Converter}
  {reads : LeafType → Setting → Except Fault Datum} {blank : LeafType → Datum}

/-- The converters of leaves read what they are to read, and answer absence as they are to. -/
structure ReadsAs (u : Universe) (served : LeafType → Converter)
    (reads : LeafType → Setting → Except Fault Datum) (blank : LeafType → Datum)
    (leaves : List LeafType) : Prop where
  isPure : ∀ d ∈ leaves, (served d).IsPure
  present : ∀ d ∈ leaves, ∀ s : Setting, (served d).outcome u (some s) = reads d s
  absent : ∀ d ∈ leaves, ∀ s : Setting, s.raw = none → reads d s = .ok (blank d)

theorem ReadsAs.mono {leaves leaves' : List LeafType} (h : ReadsAs u served reads blank leaves)
    (hsub : leaves' ⊆ leaves) : ReadsAs u served reads blank leaves' :=
  ⟨fun d hd => h.isPure d (hsub hd), fun d hd => h.present d (hsub hd),
    fun d hd => h.absent d (hsub hd)⟩

/-- A type answers absence by nothing, or as its leaf does. -/
theorem ReadsAs.outcome_of_absent {t : Nesting} (h : ReadsAs u served reads blank t.leaves)
    {s : Setting} (hs : s.raw = none) :
    (t.converter served).outcome u (some s) = .ok (t.absent blank) := by
  have hnone := Converter.present?_of_absent hs
  cases t with
  | leaf d =>
    have hd : d ∈ (leaf d).leaves := by simp [leaves]
    exact (h.present d hd s).trans (h.absent d hd s hs)
  | sequence c element => exact Converter.outcome_collection_absent _ _ _ hnone
  | array element =>
    exact Converter.outcome_array_absent (element.isPure_converter h.isPure) _ _ _ hnone
  | entry key value => exact Converter.outcome_entry_absent _ _ hnone
  | map c key value =>
    have hentry := (entry key value).isPure_converter h.isPure
    exact Converter.outcome_map_absent hentry _ _ hnone
  | optional base => exact Converter.outcome_optional_absent _ hnone

/-- The converter of a type reads all its data back from their texts. -/
def ReadsBack (u : Universe) (served : LeafType → Converter)
    (reads : LeafType → Setting → Except Fault Datum) (blank : LeafType → Datum) (t : Nesting) :
    Prop :=
  ∀ (x : t.Data) (s : Setting), t.Readable reads blank x → s.raw = some (t.text x) →
    (t.converter served).outcome u (some s) = .ok (t.value blank x)

/-- An entry is read back when its key and its value are. -/
theorem ReadsAs.outcome_entry {key value : Nesting}
    (h : ReadsAs u served reads blank (entry key value).leaves)
    (hk : ReadsBack u served reads blank key) (hv : ReadsBack u served reads blank value)
    {x : key.Data × Option value.Data}
    (hx : EntryReadable key.chars (key.Readable reads blank) (value.Readable reads blank) x)
    {s : Setting} (hs : s.raw = some (String.ofList (entryChars key.chars value.chars x))) :
    ((entry key value).converter served).outcome u (some s) =
      .ok (entryItem (entryPair (key.value blank) (value.value blank) (value.absent blank) x)) := by
  have hkey : ReadsAs u served reads blank key.leaves := h.mono (by simp [leaves])
  have hvalue : ReadsAs u served reads blank value.leaves := h.mono (by simp [leaves])
  rw [converter, Converter.outcome_entry (key.isPure_converter hkey.isPure)
    (value.isPure_converter hvalue.isPure) hs]
  exact hx.read_entryTexts
    (f := fun text => (key.converter served).outcome u (some (s.child (some text))))
    (g := fun text => (value.converter served).outcome u (some (s.child text)))
    (fun k hread => hk k _ hread (Setting.child_raw s _))
    (fun v hread => hv v _ hread (Setting.child_raw s _))
    (hvalue.outcome_of_absent (Setting.child_raw s none))

/-- Data are read back from their texts. By induction on the type: each level is cut apart into the
texts of the next one. -/
theorem ReadsAs.readsBack {t : Nesting} (h : ReadsAs u served reads blank t.leaves) :
    ReadsBack u served reads blank t := by
  induction t with
  | leaf d =>
    intro x s hx hs
    have hd : d ∈ (leaf d).leaves := by simp [leaves]
    rw [text, chars, String.ofList_toList] at hs
    exact (h.present d hd s).trans (hx s hs)
  | sequence c element ih =>
    intro xs s hxs hs
    have hitems := hxs.mapM_itemTexts
      (f := fun text => (element.converter served).outcome u (some (s.child (some text))))
      fun x hx => ih h x _ hx (Setting.child_raw s _)
    rw [converter, Converter.outcome_sequence (element.isPure_converter h.isPure) _ _ hs, text, chars,
      hitems]
    change (c.finish.apply false (List.map _ xs)).mapError Fault.stray = _
    rw [c.finish_apply]
    rfl
  | array element ih =>
    intro xs s hxs hs
    have hpure := element.isPure_converter h.isPure
    have hitems := hxs.mapM_itemTexts
      (f := fun text => (element.converter served).outcome u (some (s.child (some text))))
      fun x hx => ih h x _ hx (Setting.child_raw s _)
    rw [converter, Converter.outcome_array (Converter.isPure_collection.mpr hpure),
      Converter.outcome_sequence hpure _ _ hs, text, chars, hitems]
    rfl
  | entry key value ihk ihv =>
    intro x s hx hs
    exact h.outcome_entry (ihk (h.mono (by simp [leaves]))) (ihv (h.mono (by simp [leaves]))) hx hs
  | map c key value ihk ihv =>
    intro xs s hxs hs
    obtain ⟨hitems, hdistinct⟩ := hxs
    have hentry : ReadsAs u served reads blank (entry key value).leaves := h
    have hpure := (entry key value).isPure_converter hentry.isPure
    have hk := ihk (h.mono (by simp [leaves]))
    have hv := ihv (h.mono (by simp [leaves]))
    have hentries := hitems.mapM_itemTexts
      (f := fun text => ((entry key value).converter served).outcome u (some (s.child (some text))))
      (g := entryItem ∘ entryPair (key.value blank) (value.value blank) (value.absent blank))
      fun x hx => hentry.outcome_entry hk hv hx (Setting.child_raw s _)
    have hcanonical := Datum.canonicalEntries_of_distinct hdistinct
    exact Converter.outcome_map_of_ok hpure.1 hpure.2 hs
      (hentries.trans (congrArg Except.ok List.map_map.symm)) hcanonical
  | optional base ih =>
    intro x s hx hs
    rw [converter, Converter.outcome_optional _ hs]
    exact ih h x s hx hs

end Nesting

namespace Registry

/-- Nested data come back from their text: in a registry with nothing registered for a type that is
put together from others, converting the text of data to their type gives the data again. -/
theorem convert_text_of_data {r : Registry} (hr : r.Reached) (hn : r.NothingNested) (t : Nesting)
    (ht : ∀ d ∈ t.leaves, r.Serves d) (x : t.Data)
    (hx : t.Readable (fun d s => answer (convert (some s) d.descriptor) r) r.blank x) :
    answer (convert (some (.ofText (some (t.text x)))) t.descriptor) r =
      .ok (t.value r.blank x) := by
  have hreads : Nesting.ReadsAs r.classes r.served
      (fun d s => answer (convert (some s) d.descriptor) r) r.blank t.leaves := by
    refine ⟨fun d hd => hr.isPure.keeps.build (hr.build_leaf (ht d hd)), fun d hd s => ?_,
      fun d hd s hs => ?_⟩
    · exact (hr.answer_convert_leaf (ht d hd) _).symm
    · rw [hr.answer_convert_leaf (ht d hd), ← hr.blank_served (ht d hd)]
      exact (hr.isSingle_served (ht d hd)).outcome_of_absent hs
  rw [hr.answer_convert_nesting hn ht]
  exact hreads.readsBack x _ hx rfl

/-- A map of texts to lists of texts, with a key that has an equals sign in it, an item with a comma,
and an entry without a value. -/
theorem convert_text_of_map :
    answer (convert (some (.ofText (some "a\\=b=x\\\\,y\\,z,k")))
        (.shape (.cls (.builtin "dict")) [.plain (.builtin "str"),
          .shape (.cls (.builtin "list")) [.plain (.builtin "str")]])) (standard ⟨[], [], [], []⟩) =
      .ok (.map [(.text "a=b", .list [.text "x,y", .text "z"]), (.text "k", .nothing)]) := by
  have hr : (standard ⟨[], [], [], []⟩).Reached := .of_new (cache_standard _) (isPure_standard _)
  obtain ⟨hserves, hserved⟩ := hr.serves_of_registered (d := .str) (c := .text) rfl trivial
  have hread (text : String) (s : Setting) (hs : s.raw = some text) :
      answer (convert (some s) LeafType.str.descriptor) (standard ⟨[], [], [], []⟩) =
        .ok (.text text) := by
    rw [hr.answer_convert_leaf hserves, hserved]
    simp [Converter.outcome_text, rawOf, hs]
  let t : Nesting := .map .dict (.leaf .str) (.sequence .list (.leaf .str))
  let x : t.Data := [(⟨"a=b", .text "a=b"⟩, some [⟨"x,y", .text "x,y"⟩, ⟨"z", .text "z"⟩]),
    (⟨"k", .text "k"⟩, none)]
  have hx : t.Readable (fun d s => answer (convert (some s) d.descriptor) (standard ⟨[], [], [], []⟩))
      (standard ⟨[], [], [], []⟩).blank x := by
    refine ⟨⟨List.forall_mem_cons.mpr ⟨⟨hread "a=b", ?_⟩, List.forall_mem_singleton.mpr
      ⟨hread "k", by simp⟩⟩, by decide⟩, .cons (by simp; rfl) (by simp)⟩
    intro y hy
    obtain rfl := Option.some.inj hy
    exact ⟨by decide, List.forall_mem_cons.mpr ⟨hread "x,y", List.forall_mem_singleton.mpr
      (hread "z")⟩, by decide⟩
  have h := convert_text_of_data hr (nothingNested_standard _) t
    (by simpa [t, Nesting.leaves] using hserves) x hx
  have htext : t.text x = "a\\=b=x\\\\,y\\,z,k" := by rfl
  rw [htext] at h
  exact h

end Registry

end SettingText
