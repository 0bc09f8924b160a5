import SettingText.Proofs.Expression.Grammar

/-!
The text of a descriptor as an expression. A descriptor has a tree: a class is a name, a shape is a name with
arguments, and an optional type is a union with the name of the absent value. Its text writes the tokens of
that tree, with a blank behind each comma and around each bar.
-/

namespace SettingText

namespace Types

/-- The text writes the tokens one after the other, with some blanks before each. -/
def Renders (tokens : List Token) (cs : List Char) : Prop :=
  ∃ pieces : List (List Char × Token), pieces.map Prod.snd = tokens ∧ rendered pieces [] = cs ∧
    ∀ piece ∈ pieces, ∀ c ∈ piece.1, Text.isBlank c = true

namespace Renders

variable {tokens others : List Token} {cs ds : List Char}

theorem nil : Renders [] [] := ⟨[], rfl, rfl, by simp⟩

theorem token (t : Token) : Renders [t] t.text.toList :=
  ⟨[([], t)], rfl, by simp [rendered], by simp⟩

theorem append (h : Renders tokens cs) (h' : Renders others ds) :
    Renders (tokens ++ others) (cs ++ ds) := by
  obtain ⟨pieces, rfl, rfl, hblanks⟩ := h
  obtain ⟨pieces', rfl, rfl, hblanks'⟩ := h'
  refine ⟨pieces ++ pieces', by simp, by simp [rendered], ?_⟩
  exact List.forall_mem_append.mpr ⟨hblanks, hblanks'⟩

theorem blank (hne : tokens ≠ []) (h : Renders tokens cs) : Renders tokens (' ' :: cs) := by
  obtain ⟨pieces, rfl, rfl, hblanks⟩ := h
  cases pieces with
  | nil => exact absurd rfl hne
  | cons piece rest =>
    obtain ⟨hpiece, hrest⟩ := List.forall_mem_cons.mp hblanks
    have hspace : Text.isBlank ' ' = true := by decide +kernel
    refine ⟨(' ' :: piece.1, piece.2) :: rest, rfl, by simp [rendered], ?_⟩
    exact List.forall_mem_cons.mpr ⟨List.forall_mem_cons.mpr ⟨hspace, hpiece⟩, hrest⟩

theorem intercalate {α : Type} {written : α → List Token} {text : α → List Char} {items : List α}
    (h : ∀ a ∈ items, Renders (written a) (text a)) (hne : ∀ a ∈ items, written a ≠ []) :
    Renders ([Token.comma].intercalate (items.map written)) ([',', ' '].intercalate (items.map text)) := by
  induction items with
  | nil => exact nil
  | cons first rest ih =>
    obtain ⟨hfirst, hrest⟩ := List.forall_mem_cons.mp h
    have hmore := ih hrest fun a ha => hne a (by simp [ha])
    cases rest with
    | nil => simpa using hfirst
    | cons second rest =>
      have hsome : [Token.comma].intercalate ((second :: rest).map written) ≠ [] := by
        have hsecond : written second ≠ [] := hne second (by simp)
        cases rest <;> simp [hsecond]
      have hcomma : Renders [Token.comma] [','] := token .comma
      have hwhole := (hfirst.append hcomma).append (hmore.blank hsome)
      simpa using hwhole

end Renders

theorem mem_intercalate {separator token : Token} {parts : List (List Token)}
    (h : token ∈ [separator].intercalate parts) : token = separator ∨ ∃ part ∈ parts, token ∈ part := by
  induction parts with
  | nil => cases h
  | cons first rest ih =>
    cases rest with
    | nil =>
      rw [List.intercalate_singleton] at h
      exact .inr ⟨first, by simp, h⟩
    | cons second rest =>
      rw [List.intercalate_cons_cons] at h
      obtain h | h := List.mem_append.mp h
      · obtain h | h := List.mem_append.mp h
        · exact .inr ⟨first, by simp, h⟩
        · exact .inl (List.mem_singleton.mp h)
      · obtain rfl | ⟨part, hpart, htoken⟩ := ih h
        · exact .inl rfl
        · exact .inr ⟨part, List.mem_cons_of_mem _ hpart, htoken⟩

/-- A text that writes the tokens of a tree with blanks before some of them spells the tree. -/
theorem Tree.Grammatical.spells_of_renders {tree : Tree} {cs : List Char} (h : tree.Grammatical)
    (hnames : ∀ token ∈ tree.yield, token.IsSpelled) (hrenders : Renders tree.yield cs) :
    Spells tree.yield cs := by
  obtain ⟨pieces, hpieces, rfl, hblanks⟩ := hrenders
  exact h.spells_rendered hnames hpieces hblanks (by simp)

end Types

namespace Descriptor

/-- The tree of the expression that a descriptor is written as. -/
def tree : Descriptor → Types.Tree
  | dots => .dots
  | plain c => .name c.text
  | shape .optional args => .union (trees args ++ [.name "None"])
  | shape origin args => .subscript origin.text (trees args)
where
  /-- The trees of arguments. -/
  trees : List Descriptor → List Types.Tree
    | [] => []
    | d :: rest => d.tree :: trees rest

theorem trees_eq_map (args : List Descriptor) : tree.trees args = args.map tree := by
  induction args with
  | nil => rfl
  | cons d rest ih => rw [tree.trees, ih, List.map_cons]

theorem tree_shape (c : ClassRef) (args : List Descriptor) :
    (shape (.cls c) args).tree = .subscript c.text (args.map tree) := by
  rw [← trees_eq_map]
  rfl

/-- The descriptor has a text, which is an expression with the tree of the descriptor. -/
structure Written (d : Descriptor) : Prop where
  hasText : d.text? = some d.text
  grammatical : d.tree.Grammatical
  spelled : ∀ token ∈ d.tree.yield, token.IsSpelled
  renders : Types.Renders d.tree.yield d.text.toList

variable {d : Descriptor} {c : ClassRef} {args : List Descriptor}

theorem text_eq_of_text? {text : String} (h : d.text? = some text) : d.text = text := by
  rw [Descriptor.text, h]
  rfl

theorem argTexts_eq (h : ∀ a ∈ args, a.text? = some a.text) :
    text?.argTexts args = some (args.map text) := by
  induction args with
  | nil => rfl
  | cons a rest ih =>
    obtain ⟨ha, hrest⟩ := List.forall_mem_cons.mp h
    rw [text?.argTexts, ha, ih hrest]
    rfl

theorem text?_shape (h : ∀ a ∈ args, a.text? = some a.text) :
    (shape (.cls c) args).text? =
      some (c.text ++ "[" ++ ", ".intercalate (args.map text) ++ "]") := by
  have hargs := argTexts_eq h
  unfold text?
  rw [hargs]
  rfl

theorem text?_optional (h : d.text? = some d.text) :
    (optional d).text? = some (d.text ++ " | None") := by
  have hargs : text?.argTexts [d] = some [d.text] := argTexts_eq (by simpa using h)
  unfold optional text?
  rw [hargs]
  rfl

theorem written_dots : dots.Written where
  hasText := rfl
  grammatical := .dots
  spelled := by simp [tree, Types.Tree.yield, Types.Token.IsSpelled]
  renders := Types.Renders.token .dots

theorem written_plain (h : Types.IsName c.text.toList) : (plain c).Written where
  hasText := rfl
  grammatical := .name
  spelled := by
    rintro token ⟨⟩
    · exact h
    · contradiction
  renders := Types.Renders.token (.name c.text)

theorem written_shape (hname : Types.IsName c.text.toList) (hne : args ≠ [])
    (hargs : ∀ a ∈ args, a.Written) : (shape (.cls c) args).Written := by
  have htext? := text?_shape (c := c) fun a ha => (hargs a ha).hasText
  have htext := text_eq_of_text? htext?
  have hgrammatical : (shape (.cls c) args).tree.Grammatical := by
    rw [tree_shape]
    refine .subscript (by simpa using hne) fun t ht => ?_
    obtain ⟨a, ha, rfl⟩ := List.mem_map.mp ht
    exact (hargs a ha).grammatical
  have hyield : (shape (.cls c) args).tree.yield = .name c.text :: .opening ::
      ([Types.Token.comma].intercalate (args.map fun a => a.tree.yield) ++ [.closing]) := by
    rw [tree_shape, Types.Tree.yield, Types.Tree.yields_eq_map, List.map_map]
    rfl
  refine ⟨by rw [htext, htext?], hgrammatical, ?_, ?_⟩
  · rw [hyield]
    intro token htoken
    obtain rfl | rfl | htoken | rfl := by simpa using htoken
    · exact hname
    · trivial
    · obtain rfl | ⟨part, hpart, htoken⟩ := Types.mem_intercalate htoken
      · trivial
      · obtain ⟨a, ha, rfl⟩ := List.mem_map.mp hpart
        exact (hargs a ha).spelled token htoken
    · trivial
  · have hinner := Types.Renders.intercalate (fun a ha => (hargs a ha).renders)
      fun a ha => (hargs a ha).grammatical.yield_ne_nil
    have hwhole := (Types.Renders.token (.name c.text)).append ((Types.Renders.token .opening).append
      (hinner.append (.token .closing)))
    rw [hyield, htext]
    simpa [Types.Token.text, Function.comp_def] using hwhole

theorem written_optional (h : d.Written) (hterm : d.tree.isTerm = true) : (optional d).Written := by
  have htext? := text?_optional h.hasText
  have htext := text_eq_of_text? htext?
  have hnone : (Types.Token.name "None").IsSpelled := by decide +kernel
  have hyield : (optional d).tree.yield = d.tree.yield ++ [.bar] ++ [.name "None"] := by
    simp [optional, tree, tree.trees, Types.Tree.yield, Types.Tree.yields_eq_map]
  refine ⟨by rw [htext, htext?], ?_, ?_, ?_⟩
  · refine .union (by simp [tree.trees]) ?_ ?_
    · simpa [tree.trees, Types.Tree.isTerm] using hterm
    · simpa [tree.trees, Types.Tree.Grammatical.name] using h.grammatical
  · rw [hyield]
    intro token htoken
    obtain htoken | rfl | rfl := by simpa using htoken
    · exact h.spelled token htoken
    · trivial
    · exact hnone
  · have hbar : Types.Renders [.bar] [' ', '|'] := (Types.Renders.token .bar).blank (by simp)
    have hnothing : Types.Renders [.name "None"] " None".toList :=
      (Types.Renders.token (.name "None")).blank (by simp)
    rw [hyield, htext]
    simpa using (h.renders.append hbar).append hnothing

end Descriptor

end SettingText
