import SettingText.Proofs.Except
import SettingText.Types.Expression

/-!
The trees of the grammar and what they stand for. An expression is a row of terms with bars between
them; a term is three points, a name, or a name with a row of expressions between brackets. The reader
goes through the tokens of a tree and comes to the value that the tree has from its leaves upwards, and it
fails where that value fails.
-/

namespace SettingText.Types

variable {α : Type}

/-- Each part with the separator behind it. -/
def followed (separator : Token) (parts : List (List Token)) : List Token :=
  parts.flatMap (· ++ [separator])

theorem intercalate_append_singleton {separator : Token} (parts : List (List Token))
    (last : List Token) :
    [separator].intercalate (parts ++ [last]) = followed separator parts ++ last := by
  induction parts with
  | nil => rw [List.nil_append, List.intercalate_singleton]; rfl
  | cons part rest ih =>
    obtain ⟨next, others, hnext⟩ := List.exists_cons_of_ne_nil
      (show rest ++ [last] ≠ [] by simp)
    rw [List.cons_append, hnext, List.intercalate_cons_cons, ← hnext, ih]
    simp [followed]

namespace Tree

def isTerm : Tree → Bool
  | union _ => false
  | _ => true

/-- The trees that the grammar derives. -/
inductive Grammatical : Tree → Prop
  | dots : Grammatical dots
  | name {text} : Grammatical (name text)
  | subscript {text args} (hne : args ≠ []) (hargs : ∀ arg ∈ args, Grammatical arg) :
      Grammatical (subscript text args)
  | union {members} (hseveral : 2 ≤ members.length) (hterms : ∀ m ∈ members, m.isTerm = true)
      (hmembers : ∀ m ∈ members, Grammatical m) : Grammatical (union members)

/-- The tokens that a tree is read from. -/
def yield : Tree → List Token
  | dots => [.dots]
  | name text => [.name text]
  | subscript text args =>
    .name text :: .opening :: ([Token.comma].intercalate (yields args) ++ [.closing])
  | union members => [Token.bar].intercalate (yields members)
where
  yields : List Tree → List (List Token)
    | [] => []
    | tree :: rest => yield tree :: yields rest

/-- The value of a tree, from the leaves upwards and from the left to the right. -/
def eval (ev : Evaluator α) : Tree → Except ExpressionFault α
  | dots => .ok ev.dots
  | name text => ev.name text
  | subscript text args => do
    let base ← ev.name text
    ev.subscript text base (← evalAll args)
  | union members => do ev.union (← evalAll members)
where
  evalAll : List Tree → Except ExpressionFault (List α)
    | [] => .ok []
    | tree :: rest => do
      let value ← eval ev tree
      return value :: (← evalAll rest)

theorem yields_eq_map (trees : List Tree) : yield.yields trees = trees.map yield := by
  induction trees with
  | nil => rfl
  | cons tree rest ih => rw [yield.yields, ih, List.map_cons]

theorem evalAll_eq_mapM (ev : Evaluator α) (trees : List Tree) :
    eval.evalAll ev trees = trees.mapM (eval ev) := by
  induction trees with
  | nil => rfl
  | cons tree rest ih => rw [eval.evalAll, ih, List.mapM_cons]

theorem yield_subscript (text : String) (args : List Tree) (last : Tree) :
    (subscript text (args ++ [last])).yield = .name text :: .opening ::
      (followed .comma (args.map yield) ++ (last.yield ++ [.closing])) := by
  rw [yield, yields_eq_map, List.map_append, List.map_singleton, intercalate_append_singleton,
    List.append_assoc]

theorem yield_union (members : List Tree) (last : Tree) :
    (union (members ++ [last])).yield = followed .bar (members.map yield) ++ last.yield := by
  rw [yield, yields_eq_map, List.map_append, List.map_singleton, intercalate_append_singleton]

theorem eval_subscript (ev : Evaluator α) (text : String) (args : List Tree) :
    (subscript text args).eval ev =
      ev.name text >>= fun base => args.mapM (eval ev) >>= ev.subscript text base := by
  rw [eval, evalAll_eq_mapM]

theorem eval_union (ev : Evaluator α) (members : List Tree) :
    (union members).eval ev = members.mapM (eval ev) >>= ev.union := by
  rw [eval, evalAll_eq_mapM]

/-- What the reader has seen when it has come through a term. -/
def seen (value : α) : Tree → Seen α
  | name text => .name text value
  | _ => .term value

/-- An expression is over where no bar follows it, and no bracket if it ends in a name. -/
def IsOver (tree : Tree) (rest : List Token) : Prop :=
  rest.head? ≠ some .bar ∧
    ∀ text, tree.yield.getLast? = some (.name text) → rest.head? ≠ some .opening

theorem yield_ne_nil {tree : Tree} (hterm : tree.isTerm = true) : tree.yield ≠ [] := by
  cases tree <;> first | contradiction | exact List.cons_ne_nil _ _

theorem isOver_union {members : List Tree} {last : Tree} {rest : List Token}
    (hterm : last.isTerm = true) :
    (union (members ++ [last])).IsOver rest ↔ last.IsOver rest := by
  rw [IsOver, IsOver, yield_union, List.getLast?_append_of_ne_nil _ (yield_ne_nil hterm)]

theorem eq_name_of_getLast? {tree : Tree} {text : String} (hterm : tree.isTerm = true)
    (h : tree.yield.getLast? = some (.name text)) : tree = name text := by
  cases tree with
  | dots => cases h
  | name other =>
    cases h
    rfl
  | subscript other args =>
    have hclosing : (subscript other args).yield.getLast? = some .closing := by
      simp [yield, List.getLast?_cons]
    rw [hclosing] at h
    cases h
  | union members => cases hterm

end Tree

/-- What the reader does when an expression is over. -/
def conclude (ev : Evaluator α) (brackets : List (Bracket α)) (whole : α) :
    List Token → Except ExpressionFault α
  | [] => if brackets.isEmpty then .ok whole else .error .unexpectedEnd
  | token :: rest =>
    match brackets, token with
    | [], _ => .error (.trailing token)
    | bracket :: outer, .comma =>
      read ev .nothing [] ({ bracket with args := bracket.args ++ [whole] } :: outer) rest
    | bracket :: outer, .closing => do
      let value ← ev.subscript bracket.name bracket.base (bracket.args ++ [whole])
      read ev (.term value) bracket.members outer rest
    | _ :: _, _ => .error (.unclosed token)

theorem Evaluator.row_of_two_le {ev : Evaluator α} {members : List α} (h : 2 ≤ members.length) :
    ev.row members = ev.union members := by
  unfold row
  split
  · simp at h
  · rfl

section Reader

variable {ev : Evaluator α} {value : α} {members : List α} {brackets : List (Bracket α)}
  {rest : List Token}

theorem read_name (text : String) :
    read ev .nothing members brackets (.name text :: rest) =
      ev.name text >>= fun value => read ev (.name text value) members brackets rest := rfl

theorem read_opening (text : String) (base : α) :
    read ev (.name text base) members brackets (.opening :: rest) =
      read ev .nothing [] (⟨text, base, [], members⟩ :: brackets) rest := rfl

theorem read_bar (term : Tree) :
    read ev (term.seen value) members brackets (.bar :: rest) =
      read ev .nothing (members ++ [value]) brackets rest := by
  cases term <;> rfl

theorem read_over {term : Tree} (hterm : term.isTerm = true) (h : term.IsOver rest) :
    read ev (term.seen value) members brackets rest =
      ev.row (members ++ [value]) >>= fun whole => conclude ev brackets whole rest := by
  obtain ⟨hbar, hopening⟩ := h
  cases rest with
  | nil => cases term <;> cases brackets <;> rfl
  | cons token rest =>
    have hbar : token ≠ .bar := by simpa using hbar
    cases term with
    | union => cases hterm
    | name text =>
      have hopening : token ≠ .opening := by simpa using hopening text rfl
      cases token <;> first | contradiction | (cases brackets <;> rfl)
    | _ => cases token <;> first | contradiction | (cases brackets <;> rfl)

/-- The reader comes through a term with the value of its tree. -/
def ReadsTerm (ev : Evaluator α) (tree : Tree) : Prop :=
  ∀ members brackets rest, read ev .nothing members brackets (tree.yield ++ rest) =
    tree.eval ev >>= fun value => read ev (tree.seen value) members brackets rest

/-- The reader comes through an expression that is over behind its tree with the value of the tree. -/
def ReadsWhole (ev : Evaluator α) (tree : Tree) : Prop :=
  ∀ brackets rest, tree.IsOver rest → read ev .nothing [] brackets (tree.yield ++ rest) =
    tree.eval ev >>= fun whole => conclude ev brackets whole rest

theorem ReadsTerm.whole {tree : Tree} (h : ReadsTerm ev tree) (hterm : tree.isTerm = true) :
    ReadsWhole ev tree := by
  intro brackets rest hover
  rw [h]
  refine bind_congr fun value => ?_
  rw [read_over hterm hover]
  rfl

/-- Terms with bars behind them become members of the present expression. -/
theorem read_followed_bar {terms : List Tree} (h : ∀ term ∈ terms, ReadsTerm ev term) :
    read ev .nothing members brackets (followed .bar (terms.map Tree.yield) ++ rest) =
      terms.mapM (Tree.eval ev) >>= fun values =>
        read ev .nothing (members ++ values) brackets rest := by
  induction terms generalizing members with
  | nil => simp [followed]
  | cons term others ih =>
    have hfollowed : followed .bar ((term :: others).map Tree.yield) ++ rest =
        term.yield ++ (.bar :: (followed .bar (others.map Tree.yield) ++ rest)) := by
      simp [followed]
    rw [hfollowed, h term (by simp), List.mapM_cons, bind_assoc]
    refine bind_congr fun value => ?_
    rw [read_bar, ih fun t ht => h t (by simp [ht]), bind_assoc]
    refine bind_congr fun values => ?_
    simp

/-- Expressions with commas behind them become arguments of the innermost bracket. -/
theorem read_followed_comma {args : List Tree} {bracket : Bracket α}
    (h : ∀ arg ∈ args, ReadsWhole ev arg) :
    read ev .nothing [] (bracket :: brackets) (followed .comma (args.map Tree.yield) ++ rest) =
      args.mapM (Tree.eval ev) >>= fun values =>
        read ev .nothing [] ({ bracket with args := bracket.args ++ values } :: brackets) rest := by
  induction args generalizing bracket with
  | nil => simp [followed]
  | cons arg others ih =>
    have hfollowed : followed .comma ((arg :: others).map Tree.yield) ++ rest =
        arg.yield ++ (.comma :: (followed .comma (others.map Tree.yield) ++ rest)) := by
      simp [followed]
    rw [hfollowed, h arg (by simp) _ _ (by simp [Tree.IsOver]), List.mapM_cons, bind_assoc]
    refine bind_congr fun value => ?_
    rw [conclude, ih fun t ht => h t (by simp [ht]), bind_assoc]
    refine bind_congr fun values => ?_
    simp

theorem readsTerm_subscript {text : String} {args : List Tree} (hne : args ≠ [])
    (h : ∀ arg ∈ args, ReadsWhole ev arg) : ReadsTerm ev (.subscript text args) := by
  intro members brackets rest
  obtain hnil | ⟨front, last, rfl⟩ := List.eq_nil_or_concat' args
  · exact absurd hnil hne
  rw [Tree.yield_subscript, Tree.eval_subscript, List.cons_append, List.cons_append, read_name,
    bind_assoc]
  refine bind_congr fun base => ?_
  rw [read_opening, List.append_assoc, read_followed_comma fun arg harg => h arg (by simp [harg]),
    List.mapM_append, bind_assoc, bind_assoc]
  refine bind_congr fun values => ?_
  rw [List.append_assoc, h last (by simp) _ _ (by simp [Tree.IsOver])]
  simp [conclude, Tree.seen]

theorem readsWhole_union {terms : List Tree} (hseveral : 2 ≤ terms.length)
    (hterms : ∀ term ∈ terms, term.isTerm = true) (h : ∀ term ∈ terms, ReadsTerm ev term) :
    ReadsWhole ev (.union terms) := by
  intro brackets rest hover
  obtain rfl | ⟨front, last, rfl⟩ := List.eq_nil_or_concat' terms
  · cases hseveral
  have hlast : last.isTerm = true := hterms last (by simp)
  have hlastOver : last.IsOver rest := (Tree.isOver_union hlast).mp hover
  rw [Tree.yield_union, Tree.eval_union, List.append_assoc,
    read_followed_bar fun term hterm => h term (by simp [hterm]), mapM_append_singleton]
  cases hvalues : front.mapM (Tree.eval ev) with
  | error e => rfl
  | ok values =>
    have hlength := length_of_mapM_eq_ok hvalues
    have hfront : 1 ≤ front.length := by simpa using hseveral
    have hread := h last (by simp) values brackets rest
    change read ev .nothing values brackets (last.yield ++ rest) = _
    rw [hread]
    cases last.eval ev with
    | error e => rfl
    | ok value =>
      -- there are members before this one, so the row is no single term
      have hrow : ev.row (values ++ [value]) = ev.union (values ++ [value]) :=
        Evaluator.row_of_two_le (by simp; omega)
      change read ev (last.seen value) values brackets rest = _
      rw [read_over hlast hlastOver, hrow]
      rfl

theorem Tree.Grammatical.reads {tree : Tree} (h : tree.Grammatical) :
    (tree.isTerm = true → ReadsTerm ev tree) ∧ ReadsWhole ev tree := by
  have hterm {tree : Tree} (hread : ReadsTerm ev tree) (hterm : tree.isTerm = true) :
      (tree.isTerm = true → ReadsTerm ev tree) ∧ ReadsWhole ev tree :=
    ⟨fun _ => hread, hread.whole hterm⟩
  induction h with
  | dots => exact hterm (fun _ _ _ => rfl) rfl
  | name => exact hterm (fun _ _ _ => rfl) rfl
  | subscript hne _ ih => exact hterm (readsTerm_subscript hne fun arg harg => (ih arg harg).2) rfl
  | union hseveral hterms _ ih =>
    refine ⟨by simp [isTerm], readsWhole_union hseveral hterms fun m hm => (ih m hm).1 (hterms m hm)⟩

theorem Tree.Grammatical.yield_ne_nil {tree : Tree} (h : tree.Grammatical) : tree.yield ≠ [] := by
  cases h with
  | @union terms hseveral hterms =>
    obtain rfl | ⟨front, last, rfl⟩ := List.eq_nil_or_concat' terms
    · cases hseveral
    · have hlast := Tree.yield_ne_nil (hterms last (by simp))
      simp [Tree.yield_union, hlast]
  | _ => exact List.cons_ne_nil _ _

/-- Reading the tokens of a tree gives what the tree stands for, or the fault in it. -/
theorem Tree.Grammatical.ofTokens_yield {tree : Tree} (h : tree.Grammatical) :
    ofTokens ev tree.yield = tree.eval ev := by
  have hwhole : ReadsWhole ev tree := h.reads.2
  have hread := hwhole [] [] (by simp [Tree.IsOver])
  have hne : tree.yield.isEmpty = false := by simpa using h.yield_ne_nil
  rw [ofTokens, hne, ← List.append_nil tree.yield]
  exact hread.trans (bind_ok _)

theorem Tree.Grammatical.eval_treeEvaluator {tree : Tree} (h : tree.Grammatical) :
    tree.eval treeEvaluator = .ok tree := by
  have hall {trees : List Tree} (h : ∀ t ∈ trees, t.eval treeEvaluator = .ok t) :
      trees.mapM (Tree.eval treeEvaluator) = .ok trees :=
    mapM_eq_ok_iff.mpr (List.forall₂_same.mpr h)
  induction h with
  | dots => rfl
  | name => rfl
  | subscript _ _ ih => rw [Tree.eval_subscript, hall ih]; rfl
  | union _ _ _ ih => rw [Tree.eval_union, hall ih]; rfl

theorem Tree.Grammatical.eq_of_yield {first second : Tree} (hfirst : first.Grammatical)
    (hsecond : second.Grammatical) (h : first.yield = second.yield) : first = second := by
  have hread : ofTokens treeEvaluator first.yield = first.eval treeEvaluator := hfirst.ofTokens_yield
  rw [h, hsecond.ofTokens_yield, hsecond.eval_treeEvaluator, hfirst.eval_treeEvaluator] at hread
  exact (Except.ok.inj hread).symm

end Reader

end SettingText.Types
