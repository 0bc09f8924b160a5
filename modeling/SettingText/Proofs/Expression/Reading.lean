import SettingText.Proofs.Expression.Beginning

/-!
Where a reading ends. The tokens are those of a tree of the grammar and the reader gives its value; or a
token stands where none of its kind can; or everything before some part has a value, and that part has
none. The first part without a value is found, so the fault says which part it is.
-/

namespace SettingText.Types

variable {α : Type}

/-- A token stands where none of its kind can, or one is missing. -/
def ExpressionFault.isOfOrder : ExpressionFault → Bool
  | empty | unexpectedEnd | unclosed _ | unexpected _ | trailing _ => true
  | _ => false

/-- The tokens go well up to a part that has no value although everything before it and inside it has.
    A row of members is such a part only where it is over. -/
inductive Breaks (ev : Evaluator α) : List Token → ExpressionFault → Prop
  | name {beginning members brackets text rest fault}
      (hbefore : Beginning.Reaches ev beginning members brackets)
      (hfault : ev.name text = .error fault) :
      Breaks ev (beginning.yield ++ ((Tree.name text).yield ++ rest)) fault
  | subscript {beginning members brackets text base args values rest fault}
      (hbefore : Beginning.Reaches ev beginning members brackets)
      (hbase : ev.name text = .ok base) (hne : args ≠ []) (hargs : HaveValues ev args values)
      (hfault : ev.subscript text base values = .error fault) :
      Breaks ev (beginning.yield ++ ((Tree.subscript text args).yield ++ rest)) fault
  | union {enclosing brackets terms values rest fault}
      (hbefore : Beginning.Reaches ev ⟨enclosing, []⟩ [] brackets)
      (hseveral : 2 ≤ terms.length) (hterms : ∀ term ∈ terms, term.isTerm = true)
      (hvalues : HaveValues ev terms values) (hover : (Tree.union terms).IsOver rest)
      (hfault : ev.union values = .error fault) :
      Breaks ev ((⟨enclosing, []⟩ : Beginning).yield ++ ((Tree.union terms).yield ++ rest)) fault

/-- What became of the tokens that were read. -/
inductive Traced (ev : Evaluator α) (tokens : List Token) : Except ExpressionFault α → Prop
  | value {tree : Tree} {value : α} (h : tree.Grammatical) (hyield : tree.yield = tokens)
      (hvalue : tree.eval ev = .ok value) : Traced ev tokens (.ok value)
  | order {fault : ExpressionFault} (h : fault.isOfOrder = true) : Traced ev tokens (.error fault)
  | breaks {fault : ExpressionFault} (h : Breaks ev tokens fault) : Traced ev tokens (.error fault)

/-- Reading these tokens is traced, from every state before a term and behind one. -/
structure TracesOn (ev : Evaluator α) (rest : List Token) : Prop where
  before {beginning members brackets} (h : Beginning.Reaches ev beginning members brackets) :
    Traced ev (beginning.yield ++ rest) (read ev .nothing members brackets rest)
  behind {beginning members brackets} {term : Tree} {value : α}
      (h : Beginning.Reaches ev beginning members brackets) (hterm : term.isTerm = true)
      (hgrammar : term.Grammatical) (hvalue : term.eval ev = .ok value) :
    Traced ev (beginning.yield ++ (term.yield ++ rest))
      (read ev (term.seen value) members brackets rest)

section Tracing

variable {ev : Evaluator α} {rest : List Token} {enclosing : List Enclosing}
  {beginning : Beginning} {members : List α} {brackets : List (Bracket α)} {term whole : Tree}
  {value : α}

theorem traced_conclude (hmore : ∀ token more, rest = token :: more → TracesOn ev more)
    (hall : List.Forall₂ (Enclosing.Opens ev) enclosing brackets) (hwhole : whole.Grammatical)
    (hvalue : whole.eval ev = .ok value) :
    Traced ev (enclosing.reverse.flatMap Enclosing.yield ++ (whole.yield ++ rest))
      (conclude ev brackets value rest) := by
  cases hall with
  | nil =>
    cases rest with
    | nil => exact .value hwhole (by simp) hvalue
    | cons token more => exact .order rfl
  | @cons e bracket outer brackets hopens houter =>
    have hargs := hopens.args.append hwhole hvalue
    cases rest with
    | nil => exact .order rfl
    | cons token more =>
      cases token with
      | comma =>
        -- the expression becomes an argument, and the bracket stays open
        have hreaches : (⟨{ e with args := e.args ++ [whole] } :: outer, []⟩ : Beginning).Reaches ev []
            ({ bracket with args := bracket.args ++ [value] } :: brackets) :=
          ⟨by simp, .nil, .cons ⟨hopens.terms, hopens.members, hopens.name, hopens.base, hargs⟩ houter⟩
        have htraced := (hmore _ _ rfl).before hreaches
        rw [conclude]
        simpa [Beginning.yield, Enclosing.yield, followed] using htraced
      | closing =>
        -- the bracket and all in it become one term of the expression around it
        have hbefore : (⟨outer, e.members⟩ : Beginning).Reaches ev bracket.members brackets :=
          ⟨hopens.terms, hopens.members, houter⟩
        have hyield : (e :: outer).reverse.flatMap Enclosing.yield ++ (whole.yield ++ .closing :: more) =
            (⟨outer, e.members⟩ : Beginning).yield ++
              ((Tree.subscript e.name (e.args ++ [whole])).yield ++ more) := by
          rw [Tree.yield_subscript]
          simp [Beginning.yield, Enclosing.yield]
        rw [hyield, conclude, ← hopens.name]
        cases hsubscript : ev.subscript e.name bracket.base (bracket.args ++ [value]) with
        | error fault => exact .breaks (.subscript hbefore hopens.base (by simp) hargs hsubscript)
        | ok result =>
          refine (hmore _ _ rfl).behind hbefore rfl (.subscript (by simp) hargs.grammatical) ?_
          rw [Tree.eval_subscript, hopens.base, hargs.eval]
          exact hsubscript
      | _ => exact .order rfl

theorem traced_over (hmore : ∀ token more, rest = token :: more → TracesOn ev more)
    (h : beginning.Reaches ev members brackets) (hterm : term.isTerm = true)
    (hgrammar : term.Grammatical) (hvalue : term.eval ev = .ok value) (hover : term.IsOver rest) :
    Traced ev (beginning.yield ++ (term.yield ++ rest))
      (read ev (term.seen value) members brackets rest) := by
  obtain ⟨enclosing, terms⟩ := beginning
  have hvalues := h.members.append hgrammar hvalue
  have hlength := h.members.length_eq
  rw [read_over hterm hover]
  cases terms with
  | nil =>
    obtain rfl : members = [] := List.eq_nil_of_length_eq_zero hlength
    have htraced := traced_conclude hmore h.enclosing hgrammar hvalue
    change Traced ev _ (conclude ev brackets value rest)
    simpa [Beginning.yield, followed] using htraced
  | cons first others =>
    -- the members before this one and it make the row that is over here
    have hseveral : 2 ≤ (first :: others ++ [term]).length := by simp
    have hterms : ∀ t ∈ first :: others ++ [term], t.isTerm = true :=
      List.forall_mem_append.mpr ⟨h.terms, List.forall_mem_singleton.mpr hterm⟩
    have hyield : (⟨enclosing, first :: others⟩ : Beginning).yield ++ (term.yield ++ rest) =
        (⟨enclosing, []⟩ : Beginning).yield ++
          ((Tree.union (first :: others ++ [term])).yield ++ rest) := by
      rw [Tree.yield_union]
      simp [Beginning.yield, followed]
    have hrow : ev.row (members ++ [value]) = ev.union (members ++ [value]) :=
      Evaluator.row_of_two_le (by rw [hvalues.length_eq]; exact hseveral)
    rw [hyield, hrow]
    cases hunion : ev.union (members ++ [value]) with
    | error fault =>
      exact .breaks (.union ⟨by simp, .nil, h.enclosing⟩ hseveral hterms hvalues
        ((Tree.isOver_union hterm).mpr hover) hunion)
    | ok whole =>
      have heval : (Tree.union (first :: others ++ [term])).eval ev = .ok whole := by
        rw [Tree.eval_union, hvalues.eval]
        exact hunion
      have htraced := traced_conclude hmore h.enclosing
        (.union hseveral hterms hvalues.grammatical) heval
      change Traced ev _ (conclude ev brackets whole rest)
      simpa [Beginning.yield, followed] using htraced

theorem TracesOn.cons {token : Token} (ih : TracesOn ev rest) : TracesOn ev (token :: rest) := by
  constructor
  · intro beginning members brackets h
    cases token with
    | dots => exact ih.behind h rfl .dots rfl
    | name text =>
      rw [read_name]
      cases hname : ev.name text with
      | error fault => exact .breaks (.name h hname)
      | ok value => exact ih.behind h rfl .name hname
    | _ => exact .order rfl
  · intro beginning members brackets term value h hterm hgrammar hvalue
    by_cases hbar : token = .bar
    · subst hbar
      have hreaches : (⟨beginning.enclosing, beginning.members ++ [term]⟩ : Beginning).Reaches ev
          (members ++ [value]) brackets :=
        ⟨List.forall_mem_append.mpr ⟨h.terms, List.forall_mem_singleton.mpr hterm⟩,
          h.members.append hgrammar hvalue, h.enclosing⟩
      have htraced := ih.before hreaches
      rw [read_bar]
      simpa [Beginning.yield, followed] using htraced
    by_cases hopening : ∃ text, term = .name text ∧ token = .opening
    · obtain ⟨text, rfl, rfl⟩ := hopening
      have hreaches : (⟨⟨beginning.members, text, []⟩ :: beginning.enclosing, []⟩ : Beginning).Reaches
          ev [] (⟨text, value, [], members⟩ :: brackets) :=
        ⟨by simp, .nil, .cons ⟨h.terms, h.members, rfl, hvalue, .nil⟩ h.enclosing⟩
      have htraced := ih.before hreaches
      rw [Tree.seen, read_opening]
      simpa [Beginning.yield, Enclosing.yield, followed, Tree.yield] using htraced
    · have hover : term.IsOver (token :: rest) := by
        refine ⟨by simpa using hbar, fun text hlast hhead => hopening ⟨text, ?_, by simpa using hhead⟩⟩
        exact Tree.eq_name_of_getLast? hterm hlast
      refine traced_over ?_ h hterm hgrammar hvalue hover
      rintro _ _ ⟨⟩
      exact ih

theorem tracesOn (rest : List Token) : TracesOn ev rest := by
  induction rest with
  | nil =>
    refine ⟨fun _ => .order rfl, fun h hterm hgrammar hvalue => ?_⟩
    exact traced_over (by simp) h hterm hgrammar hvalue (by simp [Tree.IsOver])
  | cons token more ih => exact ih.cons

/-- Whatever tokens are read, it is known what became of them. -/
theorem traced_ofTokens (tokens : List Token) : Traced ev tokens (ofTokens ev tokens) := by
  rw [ofTokens]
  split
  · exact .order rfl
  · exact (tracesOn tokens).before Beginning.reaches_start

end Tracing

section Outcome

variable {ev : Evaluator α} {tokens : List Token}

/-- Tokens have a value just when they are those of a tree of the grammar that has this value. -/
theorem ofTokens_eq_ok_iff {value : α} : ofTokens ev tokens = .ok value ↔
    ∃ tree : Tree, tree.Grammatical ∧ tree.yield = tokens ∧ tree.eval ev = .ok value := by
  constructor
  · intro h
    have htraced : Traced ev tokens (ofTokens ev tokens) := traced_ofTokens tokens
    rw [h] at htraced
    cases htraced with
    | value hgrammar hyield hvalue => exact ⟨_, hgrammar, hyield, hvalue⟩
  · rintro ⟨tree, hgrammar, rfl, hvalue⟩
    rw [hgrammar.ofTokens_yield, hvalue]

theorem Beginning.Reaches.ofTokens_append {beginning : Beginning} {members : List α}
    {brackets : List (Bracket α)} {rest : List Token}
    (h : beginning.Reaches ev members brackets) (hne : rest ≠ []) :
    ofTokens ev (beginning.yield ++ rest) = read ev .nothing members brackets rest := by
  rw [ofTokens, if_neg (by simp [hne]), h.read_append]

theorem Breaks.ofTokens_eq {fault : ExpressionFault} (h : Breaks ev tokens fault) :
    ofTokens ev tokens = .error fault := by
  cases h with
  | name hbefore hfault =>
    rw [hbefore.ofTokens_append (by simp [Tree.yield]), Tree.yield, List.singleton_append, read_name,
      hfault]
    rfl
  | @subscript _ _ _ text base args values _ _ hbefore hbase hne hargs hfault =>
    have hgrammar : (Tree.subscript text args).Grammatical := .subscript hne hargs.grammatical
    have hread : ReadsTerm ev (.subscript text args) := hgrammar.reads.1 rfl
    have heval : (Tree.subscript text args).eval ev = .error fault := by
      rw [Tree.eval_subscript, hbase, hargs.eval]
      exact hfault
    rw [hbefore.ofTokens_append (by simp [hgrammar.yield_ne_nil]), hread, heval]
    rfl
  | @union _ _ terms values _ _ hbefore hseveral hterms hvalues hover hfault =>
    have hgrammar : (Tree.union terms).Grammatical := .union hseveral hterms hvalues.grammatical
    have hread : ReadsWhole ev (.union terms) := hgrammar.reads.2
    have heval : (Tree.union terms).eval ev = .error fault := by
      rw [Tree.eval_union, hvalues.eval]
      exact hfault
    rw [hbefore.ofTokens_append (by simp [hgrammar.yield_ne_nil]), hread _ _ hover, heval]
    rfl

/-- Apart from tokens out of order, reading fails where and as the evaluation breaks off. -/
theorem ofTokens_eq_error_iff {fault : ExpressionFault} (horder : fault.isOfOrder = false) :
    ofTokens ev tokens = .error fault ↔ Breaks ev tokens fault := by
  constructor
  · intro h
    have htraced : Traced ev tokens (ofTokens ev tokens) := traced_ofTokens tokens
    rw [h] at htraced
    cases htraced with
    | order h => rw [h] at horder; cases horder
    | breaks h => exact h
  · exact Breaks.ofTokens_eq

end Outcome

end SettingText.Types
