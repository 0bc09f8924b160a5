import Mathlib.Data.List.Chain
import SettingText.Proofs.Expression.Spelling
import SettingText.Proofs.Expression.Tree

/-!
Writing the tokens of a tree with blanks between them. Behind a name in a tree stands a bracket, a comma
or a bar, or nothing, so a name is over where it should be even when no blank follows it: a tree may be
written with any blanks, and with none.
-/

namespace SettingText.Types

namespace Token

/-- A bracket, a comma or a bar. -/
def isMark : Token → Bool
  | opening | closing | comma | bar => true
  | _ => false

/-- A token that another may follow without a blank. -/
def Precedes (first second : Token) : Prop :=
  ∀ text, first = .name text → second.isMark = true

theorem isNamePart_of_isMark {token : Token} {c : Char} {rest : List Char}
    (h : token.isMark = true) (hc : c ∈ (token.text.toList ++ rest).head?) :
    isNamePart c = false := by
  have hspelled : token.IsSpelled := by cases token <;> trivial
  rw [List.head?_append_of_ne_nil _ (text_ne_nil hspelled)] at hc
  have hmem := List.mem_of_mem_head? hc
  cases token with
  | dots => cases h
  | name => cases h
  | _ => exact Bool.eq_false_iff.mpr (List.any_eq_false.mp (by decide +kernel) c hmem)

end Token

/-- Tokens with the blanks before each of them, and the blanks behind the last. -/
def rendered (pieces : List (List Char × Token)) (tail : List Char) : List Char :=
  pieces.flatMap (fun piece => piece.1 ++ piece.2.text.toList) ++ tail

section Apart

variable {rest : List Token}

/-- Tokens behind which every mark, and what may follow it, may stand. -/
def LeadsToMark (tokens : List Token) : Prop :=
  ∀ rest : List Token, rest.IsChain Token.Precedes → (∀ token ∈ rest.head?, token.isMark = true) →
    (tokens ++ rest).IsChain Token.Precedes

theorem isChain_mark_cons {mark : Token} (hmark : mark.isMark = true)
    (h : rest.IsChain Token.Precedes) : (mark :: rest).IsChain Token.Precedes := by
  refine List.isChain_cons.mpr ⟨?_, h⟩
  rintro _ _ text rfl
  cases hmark

theorem isChain_followed {mark : Token} {trees : List Tree} (hmark : mark.isMark = true)
    (h : ∀ tree ∈ trees, LeadsToMark tree.yield) (hrest : rest.IsChain Token.Precedes) :
    (followed mark (trees.map Tree.yield) ++ rest).IsChain Token.Precedes := by
  induction trees with
  | nil => exact hrest
  | cons tree others ih =>
    have hothers := ih fun t ht => h t (by simp [ht])
    have hmore := h tree (by simp) _ (isChain_mark_cons hmark hothers) (by simp [hmark])
    simpa [followed] using hmore

theorem Tree.Grammatical.leadsToMark {tree : Tree} (h : tree.Grammatical) :
    LeadsToMark tree.yield := by
  induction h with
  | dots =>
    intro rest hrest _
    refine List.isChain_cons.mpr ⟨?_, hrest⟩
    rintro _ _ text ⟨⟩
  | name =>
    intro rest hrest hhead
    exact List.isChain_cons.mpr ⟨fun token htoken _ _ => hhead token htoken, hrest⟩
  | @subscript text args hne _ ih =>
    intro rest hrest _
    obtain hnil | ⟨front, last, rfl⟩ := List.eq_nil_or_concat' args
    · exact absurd hnil hne
    have hclosing : (Token.closing :: rest).IsChain Token.Precedes := isChain_mark_cons rfl hrest
    have hlast := ih last (by simp) _ hclosing (by simp [Token.isMark])
    have hfront : (followed .comma (front.map Tree.yield) ++
        (last.yield ++ .closing :: rest)).IsChain Token.Precedes :=
      isChain_followed rfl (fun arg harg => ih arg (by simp [harg])) hlast
    have hopening : (Token.opening :: _).IsChain Token.Precedes := isChain_mark_cons rfl hfront
    rw [Tree.yield_subscript]
    refine List.isChain_cons.mpr ⟨?_, by simpa using hopening⟩
    rintro _ ⟨⟩ _ _
    rfl
  | @union terms hseveral _ _ ih =>
    intro rest hrest hhead
    obtain rfl | ⟨front, last, rfl⟩ := List.eq_nil_or_concat' terms
    · cases hseveral
    have hlast := ih last (by simp) _ hrest hhead
    rw [Tree.yield_union, List.append_assoc]
    exact isChain_followed rfl (fun m hm => ih m (by simp [hm])) hlast

end Apart

/-- Tokens that may stand without blanks between them are spelled with any blanks. -/
theorem spells_rendered {pieces : List (List Char × Token)} {tail : List Char}
    (hspelled : ∀ piece ∈ pieces, piece.2.IsSpelled)
    (hchain : (pieces.map Prod.snd).IsChain Token.Precedes)
    (hblanks : ∀ piece ∈ pieces, ∀ c ∈ piece.1, Text.isBlank c = true)
    (htail : ∀ c ∈ tail, Text.isBlank c = true) :
    Spells (pieces.map Prod.snd) (rendered pieces tail) := by
  induction pieces with
  | nil => exact .blanks htail
  | cons piece others ih =>
    obtain ⟨blanks, token⟩ := piece
    obtain ⟨hnext, hchain⟩ := List.isChain_cons.mp hchain
    have hothers := ih (fun p hp => hspelled p (by simp [hp])) hchain
      fun p hp => hblanks p (by simp [hp])
    have hends : token.EndsBefore (rendered others tail) := by
      cases token with
      | name text =>
        intro c hc
        cases others with
        | nil => exact isNamePart_of_isBlank (htail c (List.mem_of_mem_head? hc))
        | cons next more =>
          obtain ⟨blanks, second⟩ := next
          have hmark : second.isMark = true := hnext second rfl text rfl
          cases blanks with
          | nil =>
            -- without a blank a mark follows, which no name goes on with
            have hsecond : rendered (([], second) :: more) tail =
                second.text.toList ++ rendered more tail := by
              simp [rendered]
            rw [hsecond] at hc
            exact Token.isNamePart_of_isMark hmark hc
          | cons d blanks =>
            have hd : Text.isBlank d = true := hblanks (d :: blanks, second) (by simp) d (by simp)
            cases hc
            exact isNamePart_of_isBlank hd
      | _ => trivial
    have hbefore : ∀ c ∈ blanks, Text.isBlank c = true := hblanks (blanks, token) (by simp)
    have hspells := Spells.token hbefore (hspelled (blanks, token) (by simp)) hends hothers
    simpa [rendered] using hspells

end SettingText.Types
