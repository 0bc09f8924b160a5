import SettingText.Classes.Own
import SettingText.Proofs.Expression.Reading
import SettingText.Proofs.Expression.Rendering

/-!
The texts that are read as type expressions: those that spell the tokens of a tree of the grammar whose
names are known and whose parts fit together. There is one such tree, and the form that is read is the
one that the tree stands for.
-/

namespace SettingText.Types

variable {α : Type} {ev : Evaluator α} {text : String}

theorem ofText_of_spells {tree : Tree} (hgrammar : tree.Grammatical)
    (hspells : Spells tree.yield text.toList) : ofText ev text = tree.eval ev := by
  have htokens := tokens_eq_ok_iff.mpr hspells
  rw [ofText, htokens]
  exact hgrammar.ofTokens_yield

theorem ofText_eq_ok_iff {value : α} : ofText ev text = .ok value ↔
    ∃ tree : Tree, tree.Grammatical ∧ Spells tree.yield text.toList ∧ tree.eval ev = .ok value := by
  constructor
  · intro h
    cases htokens : tokens text with
    | error stray =>
      rw [ofText, htokens] at h
      cases h
    | ok found =>
      rw [ofText, htokens] at h
      obtain ⟨tree, hgrammar, rfl, hvalue⟩ := ofTokens_eq_ok_iff.mp h
      exact ⟨tree, hgrammar, tokens_eq_ok_iff.mp htokens, hvalue⟩
  · rintro ⟨tree, hgrammar, hspells, hvalue⟩
    rw [ofText_of_spells hgrammar hspells, hvalue]

/-- Of the trees of the grammar, a text spells at most one. -/
theorem Tree.Grammatical.eq_of_spells {first second : Tree} {cs : List Char}
    (hfirst : first.Grammatical) (hsecond : second.Grammatical) (h : Spells first.yield cs)
    (h' : Spells second.yield cs) : first = second :=
  hfirst.eq_of_yield hsecond (h.unique h')

theorem Tree.Grammatical.spells_rendered {tree : Tree} {pieces : List (List Char × Token)}
    {tail : List Char} (h : tree.Grammatical) (hnames : ∀ token ∈ tree.yield, token.IsSpelled)
    (hpieces : pieces.map Prod.snd = tree.yield)
    (hblanks : ∀ piece ∈ pieces, ∀ c ∈ piece.1, Text.isBlank c = true)
    (htail : ∀ c ∈ tail, Text.isBlank c = true) : Spells tree.yield (rendered pieces tail) := by
  have hspelled : ∀ piece ∈ pieces, piece.2.IsSpelled := by
    intro piece hpiece
    exact hnames piece.2 (hpieces ▸ List.mem_map_of_mem hpiece)
  have hchain := h.leadsToMark [] .nil (by simp)
  rw [List.append_nil, ← hpieces] at hchain
  rw [← hpieces]
  exact Types.spells_rendered hspelled hchain hblanks htail

/-- A text is read as a type form just when it spells a tree of the grammar that stands for the form;
    the tree is the only one that the text spells; and a tree is read as what it stands for, or fails as
    it does, with whatever blanks it is written. -/
theorem parse_reads_grammar (u : Universe) :
    (∀ text form, TypeForm.parse u text = .ok form ↔ ∃ tree : Tree, tree.Grammatical ∧
      Spells tree.yield text.toList ∧ tree.eval (formEvaluator u) = .ok form) ∧
    (∀ (first second : Tree) (cs : List Char), first.Grammatical → second.Grammatical →
      Spells first.yield cs → Spells second.yield cs → first = second) ∧
    (∀ (tree : Tree) (pieces : List (List Char × Token)) (tail : List Char), tree.Grammatical →
      (∀ token ∈ tree.yield, token.IsSpelled) → pieces.map Prod.snd = tree.yield →
      (∀ piece ∈ pieces, ∀ c ∈ piece.1, Text.isBlank c = true) →
      (∀ c ∈ tail, Text.isBlank c = true) →
      TypeForm.parse u (String.ofList (rendered pieces tail)) = tree.eval (formEvaluator u)) := by
  refine ⟨fun text form => ofText_eq_ok_iff, ?_, ?_⟩
  · intro first second cs hfirst hsecond h h'
    exact hfirst.eq_of_spells hsecond h h'
  · intro tree pieces tail hgrammar hnames hpieces hblanks htail
    have hspells := hgrammar.spells_rendered hnames hpieces hblanks htail
    refine ofText_of_spells hgrammar ?_
    rw [String.toList_ofList]
    exact hspells

/-- A list of numbers or nothing, written with blanks in some places. -/
theorem parse_reads_grammar_list :
    TypeForm.parse Universe.standard (String.ofList (rendered
      [([], .name "list"), ([], .opening), ([' '], .name "int"), ([' '], .closing), ([], .bar),
        ([], .name "None")] ['\t'])) =
      .ok (.union false [.generic false (.builtin "list") [.cls (.builtin "int")], .nothingClass]) := by
  have hlist : (Tree.subscript "list" [.name "int"]).Grammatical :=
    .subscript (by simp) (by simp [Tree.Grammatical.name])
  have hgrammar : (Tree.union [.subscript "list" [.name "int"], .name "None"]).Grammatical :=
    .union (by decide) (by simp [Tree.isTerm]) (by simp [hlist, Tree.Grammatical.name])
  have hblank : Text.isBlank ' ' = true ∧ Text.isBlank '\t' = true := by decide +kernel
  have hread := (parse_reads_grammar Universe.standard).2.2 _
    [([], .name "list"), ([], .opening), ([' '], .name "int"), ([' '], .closing), ([], .bar),
      ([], .name "None")] ['\t'] hgrammar (by decide +kernel) rfl (by simp [hblank]) (by simp [hblank])
  rw [hread]
  rfl

end SettingText.Types
