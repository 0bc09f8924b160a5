import SettingText.Proofs.Converter.Entries
import SettingText.Proofs.Nesting.Basic

/-!
The pieces of a text at a nested type: what is left when the text is cut apart at every level, each
with its leaf type and the way to it. Converting the text fails as the first failing piece does.
-/

namespace SettingText

/-- The fragment at the end of a path; each step cuts a text, or nothing at all, out of the last. -/
def Setting.descend (s : Setting) (path : List (Option String)) : Setting := path.foldl child s

namespace Setting

theorem descend_cons (s : Setting) (raw : Option String) (path : List (Option String)) :
    s.descend (raw :: path) = (s.child raw).descend path := rfl

/-- Behind a fragment stand the fragments it was cut out of, up to the setting that was cut first,
all of them under the name and the qualifiers of that setting. -/
theorem links_descend (s : Setting) (path : List (Option String)) :
    ∃ cut : List Link, (s.descend path).links = cut ++ s.links ∧ cut.map (·.raw) = path.reverse ∧
      ∀ link ∈ cut, link.name = s.name ∧ link.qualifiers = s.qualifiers := by
  induction path generalizing s with
  | nil => exact ⟨[], rfl, rfl, by simp⟩
  | cons raw path ih =>
    obtain ⟨cut, hlinks, hraws, hnames⟩ := ih (s.child raw)
    refine ⟨cut ++ [(s.child raw).toLink], ?_, by simp [hraws], ?_⟩
    · rw [descend_cons, hlinks, links_child, List.append_assoc]
      rfl
    · intro link hlink
      obtain hlink | hlink := List.mem_append.mp hlink
      · exact hnames link hlink
      · rw [List.mem_singleton.mp hlink]
        exact ⟨rfl, rfl⟩

@[simp] theorem root_descend (s : Setting) (path : List (Option String)) :
    (s.descend path).root = s.root := by
  induction path generalizing s with
  | nil => rfl
  | cons raw path ih => rw [descend_cons, ih, root_child]

end Setting

/-- A fragment that is cut no further, with its leaf type and the texts on the way to it, its own
last. -/
structure Piece where
  type : LeafType
  path : List (Option String)

/-- The piece as it lies in a text that holds the one it was found in. -/
def Piece.under (raw : Option String) (p : Piece) : Piece := { p with path := raw :: p.path }

/-- The pieces of an entry: those of the key, and then those of the value. -/
def entryPieces (key value : Option String → List Piece) : Option String → List Piece
  | none => []
  | some raw =>
    let (keyText, valueText) := entryTexts raw
    (key (some keyText)).map (·.under (some keyText)) ++ (value valueText).map (·.under valueText)

/-- The pieces of the items of a collection. -/
def itemPieces (item : Option String → List Piece) : Option String → List Piece
  | none => []
  | some raw => (itemTexts raw).flatMap fun text => (item (some text)).map (·.under (some text))

theorem type_mem_of_entryPieces {key value : Option String → List Piece}
    {leaves leaves' : List LeafType} {raw : Option String} {p : Piece}
    (hk : ∀ raw, ∀ q ∈ key raw, q.type ∈ leaves) (hv : ∀ raw, ∀ q ∈ value raw, q.type ∈ leaves')
    (hp : p ∈ entryPieces key value raw) : p.type ∈ leaves ++ leaves' := by
  cases raw with
  | none => cases hp
  | some raw =>
    obtain hp | hp := List.mem_append.mp hp
    · obtain ⟨q, hq, rfl⟩ := List.mem_map.mp hp
      exact List.mem_append_left _ (hk _ q hq)
    · obtain ⟨q, hq, rfl⟩ := List.mem_map.mp hp
      exact List.mem_append_right _ (hv _ q hq)

theorem type_mem_of_itemPieces {item : Option String → List Piece} {leaves : List LeafType}
    {raw : Option String} {p : Piece} (h : ∀ raw, ∀ q ∈ item raw, q.type ∈ leaves)
    (hp : p ∈ itemPieces item raw) : p.type ∈ leaves := by
  cases raw with
  | none => cases hp
  | some raw =>
    obtain ⟨text, _, hp⟩ := List.mem_flatMap.mp hp
    obtain ⟨q, hq, rfl⟩ := List.mem_map.mp hp
    exact h _ q hq

/-- The key and the value of an entry meet their conditions. -/
def OnEntry (key value : Setting → Prop) (s : Setting) : Prop :=
  ∀ raw, s.raw = some raw →
    key (s.child (some (entryTexts raw).1)) ∧ value (s.child (entryTexts raw).2)

/-- Each item of a collection meets a condition. -/
def OnItems (item : Setting → Prop) (s : Setting) : Prop :=
  ∀ raw, s.raw = some raw → ∀ text ∈ itemTexts raw, item (s.child (some text))

namespace Nesting

/-- The pieces of a text at a type, from left to right. An absent text is cut no further. -/
def pieces : Nesting → Option String → List Piece
  | leaf d, _ => [⟨d, []⟩]
  | sequence _ element, raw | array element, raw => itemPieces element.pieces raw
  | entry key value, raw => entryPieces key.pieces value.pieces raw
  | map _ key value, raw => itemPieces (entryPieces key.pieces value.pieces) raw
  | optional base, raw => if raw.isSome then base.pieces raw else []

/-- The type of each piece is one of the leaf types. -/
theorem type_mem_leaves {t : Nesting} {raw : Option String} {p : Piece} (hp : p ∈ t.pieces raw) :
    p.type ∈ t.leaves := by
  induction t generalizing raw p with
  | leaf d => exact List.mem_singleton.mpr (List.mem_singleton.mp hp ▸ rfl)
  | sequence c element ih => exact type_mem_of_itemPieces (fun _ _ => ih) hp
  | array element ih => exact type_mem_of_itemPieces (fun _ _ => ih) hp
  | entry key value ihk ihv => exact type_mem_of_entryPieces (fun _ _ => ihk) (fun _ _ => ihv) hp
  | map c key value ihk ihv =>
    exact type_mem_of_itemPieces
      (fun _ _ => type_mem_of_entryPieces (fun _ _ => ihk) (fun _ _ => ihv)) hp
  | optional base ih =>
    rw [pieces] at hp
    split at hp
    · exact ih hp
    · cases hp

/-- Wherever a map is read, any two of its entries that can be read can be compared. -/
def Comparable (reads : Nesting → Setting → Except Fault Datum) : Nesting → Setting → Prop
  | leaf _, _ => True
  | sequence _ element, s | array element, s => OnItems (element.Comparable reads) s
  | entry key value, s => OnEntry (key.Comparable reads) (value.Comparable reads) s
  | map _ key value, s =>
    OnItems (OnEntry (key.Comparable reads) (value.Comparable reads)) s ∧
      OnItems (fun t => OnItems (fun t' => ∀ a b, reads (entry key value) t = .ok (entryItem a) →
        reads (entry key value) t' = .ok (entryItem b) →
          ∃ same, Datum.equalEntries a b = .ok same) s) s
  | optional base, s => base.Comparable reads s

end Nesting

/-- What a piece of a setting becomes by itself. -/
def Piece.read (reads : Nesting → Setting → Except Fault Datum) (s : Setting) (p : Piece) :
    Except Fault Datum :=
  reads (.leaf p.type) (s.descend p.path)

/-- Reading a piece of a fragment is reading it as a piece of the whole. -/
theorem Piece.mapM_read_under (reads : Nesting → Setting → Except Fault Datum) (s : Setting)
    (raw : Option String) (ps : List Piece) :
    (ps.map (·.under raw)).mapM (Piece.read reads s) = ps.mapM (Piece.read reads (s.child raw)) := by
  rw [List.mapM_map]
  rfl

namespace Nesting

variable {u : Universe} {served : LeafType → Converter}
  {reads : Nesting → Setting → Except Fault Datum}

/-- Types over the leaves are read by the converters put together for them. -/
structure ReadBy (u : Universe) (served : LeafType → Converter)
    (reads : Nesting → Setting → Except Fault Datum) (leaves : List LeafType) : Prop where
  isPure : ∀ d ∈ leaves, (served d).IsPure
  outcome : ∀ t : Nesting, t.leaves ⊆ leaves → ∀ s,
    (t.converter served).outcome u (some s) = reads t s

theorem ReadBy.mono {leaves leaves' : List LeafType} (h : ReadBy u served reads leaves)
    (hsub : leaves' ⊆ leaves) : ReadBy u served reads leaves' :=
  ⟨fun d hd => h.isPure d (hsub hd), fun t ht => h.outcome t fun _ hd => hsub (ht hd)⟩

/-- Reading a type fails as reading the pieces from left to right does. -/
def FailsByPieces (u : Universe) (served : LeafType → Converter)
    (reads : Nesting → Setting → Except Fault Datum) (t : Nesting) : Prop :=
  ∀ s, t.Comparable reads s → verdict ((t.converter served).outcome u (some s)) =
    verdict ((t.pieces s.raw).mapM (Piece.read reads s))

/-- A collection fails as its items do. -/
theorem verdict_mapM_items {inner : Converter} {item : Option String → List Piece}
    {P : Setting → Prop} {s : Setting} {raw : String} (hs : s.raw = some raw) (hP : OnItems P s)
    (h : ∀ t, P t → verdict (inner.outcome u (some t)) =
      verdict ((item t.raw).mapM (Piece.read reads t))) :
    verdict ((itemTexts raw).mapM fun text => inner.outcome u (some (s.child (some text)))) =
      verdict ((itemPieces item s.raw).mapM (Piece.read reads s)) := by
  rw [hs]
  refine verdict_mapM_flatMap fun text htext => ?_
  rw [h _ (hP raw hs text htext), Piece.mapM_read_under]
  rfl

/-- An entry fails as its key does, or else as its value. -/
theorem verdict_entry {key value : Nesting}
    (h : ReadBy u served reads (entry key value).leaves) (hk : FailsByPieces u served reads key)
    (hv : FailsByPieces u served reads value) {s : Setting}
    (hs : OnEntry (key.Comparable reads) (value.Comparable reads) s) :
    verdict (((entry key value).converter served).outcome u (some s)) =
      verdict ((entryPieces key.pieces value.pieces s.raw).mapM (Piece.read reads s)) := by
  have hpure := (entry key value).isPure_converter h.isPure
  cases hraw : s.raw with
  | none =>
    rw [converter, Converter.outcome_entry_absent _ _ (Converter.present?_of_absent hraw)]
    rfl
  | some raw =>
    obtain ⟨hkey, hvalue⟩ := hs raw hraw
    rw [converter, Converter.outcome_entry hpure.1 hpure.2 hraw, verdict_bind_pure, hk _ hkey,
      hv _ hvalue, entryPieces, List.mapM_append, verdict_bind_pure, Piece.mapM_read_under,
      Piece.mapM_read_under]
    rfl

end Nesting

end SettingText
