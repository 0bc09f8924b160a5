import SettingText.Proofs.Expression.Tree

/-!
What the reader has come through when it stands before a term: the open brackets around it, each with
what was complete inside it, and the members of the present expression. Such a beginning has tokens of
its own and brings the reader to one state. So whatever tokens the reader is given, they are the tokens
of a tree, or it has stopped at a token that does not fit, or it has stopped at the first part that has
no value.
-/

namespace SettingText.Types

variable {α : Type}

/-- An open bracket: the members before its name, the name, and the arguments before the present one. -/
structure Enclosing where
  members : List Tree
  name : String
  args : List Tree

/-- What stands before a term: the open brackets, the innermost first, and the members of the present
    expression. -/
structure Beginning where
  enclosing : List Enclosing
  members : List Tree

def Enclosing.yield (enclosing : Enclosing) : List Token :=
  followed .bar (enclosing.members.map Tree.yield) ++
    .name enclosing.name :: .opening :: followed .comma (enclosing.args.map Tree.yield)

def Beginning.yield (beginning : Beginning) : List Token :=
  beginning.enclosing.reverse.flatMap Enclosing.yield ++
    followed .bar (beginning.members.map Tree.yield)

/-- Trees of the grammar and their values. -/
structure HaveValues (ev : Evaluator α) (trees : List Tree) (values : List α) : Prop where
  grammatical : ∀ tree ∈ trees, tree.Grammatical
  eval : trees.mapM (Tree.eval ev) = .ok values

/-- An open bracket as the reader keeps it on its stack. -/
structure Enclosing.Opens (ev : Evaluator α) (enclosing : Enclosing) (bracket : Bracket α) :
    Prop where
  terms : ∀ m ∈ enclosing.members, m.isTerm = true
  members : HaveValues ev enclosing.members bracket.members
  name : enclosing.name = bracket.name
  base : ev.name enclosing.name = .ok bracket.base
  args : HaveValues ev enclosing.args bracket.args

/-- A beginning all of whose parts have values, and the state that it brings the reader to. -/
structure Beginning.Reaches (ev : Evaluator α) (beginning : Beginning) (members : List α)
    (brackets : List (Bracket α)) : Prop where
  terms : ∀ m ∈ beginning.members, m.isTerm = true
  members : HaveValues ev beginning.members members
  enclosing : List.Forall₂ (Enclosing.Opens ev) beginning.enclosing brackets

section Reaching

variable {ev : Evaluator α} {trees : List Tree} {values members : List α}
  {brackets : List (Bracket α)} {beginning : Beginning}

theorem HaveValues.nil : HaveValues ev [] [] := ⟨by simp, rfl⟩

theorem HaveValues.append {tree : Tree} {value : α} (h : HaveValues ev trees values)
    (htree : tree.Grammatical) (hvalue : tree.eval ev = .ok value) :
    HaveValues ev (trees ++ [tree]) (values ++ [value]) := by
  constructor
  · exact List.forall_mem_append.mpr ⟨h.grammatical, List.forall_mem_singleton.mpr htree⟩
  · rw [mapM_append_singleton, h.eval, hvalue]
    rfl

theorem HaveValues.length_eq (h : HaveValues ev trees values) : values.length = trees.length :=
  length_of_mapM_eq_ok h.eval

theorem HaveValues.readsWhole (h : HaveValues ev trees values) :
    ∀ tree ∈ trees, ReadsWhole ev tree :=
  fun tree htree => (h.grammatical tree htree).reads.2

theorem HaveValues.readsTerm (h : HaveValues ev trees values)
    (hterms : ∀ tree ∈ trees, tree.isTerm = true) : ∀ tree ∈ trees, ReadsTerm ev tree :=
  fun tree htree => (h.grammatical tree htree).reads.1 (hterms tree htree)

theorem Beginning.reaches_start : (⟨[], []⟩ : Beginning).Reaches ev [] [] :=
  ⟨by simp, .nil, .nil⟩

theorem read_enclosing {enclosing : List Enclosing}
    (h : List.Forall₂ (Enclosing.Opens ev) enclosing brackets) (rest : List Token) :
    read ev .nothing [] [] (enclosing.reverse.flatMap Enclosing.yield ++ rest) =
      read ev .nothing [] brackets rest := by
  induction h generalizing rest with
  | nil => rfl
  | @cons e bracket outer _ hopens _ ih =>
    have hbars := hopens.members.readsTerm hopens.terms
    rw [List.reverse_cons, List.flatMap_append, List.flatMap_singleton, List.append_assoc, ih,
      Enclosing.yield, List.append_assoc, List.cons_append, List.cons_append,
      read_followed_bar hbars, hopens.members.eval]
    change read ev .nothing bracket.members _ (.name e.name :: .opening :: _) = _
    rw [read_name, hopens.base]
    change read ev (.name e.name bracket.base) _ _ (.opening :: _) = _
    rw [read_opening, read_followed_comma hopens.args.readsWhole, hopens.args.eval, hopens.name]
    rfl

theorem Beginning.Reaches.read_append (h : beginning.Reaches ev members brackets)
    (rest : List Token) :
    read ev .nothing [] [] (beginning.yield ++ rest) = read ev .nothing members brackets rest := by
  rw [Beginning.yield, List.append_assoc, read_enclosing h.enclosing,
    read_followed_bar (h.members.readsTerm h.terms), h.members.eval]
  rfl

end Reaching

end SettingText.Types
