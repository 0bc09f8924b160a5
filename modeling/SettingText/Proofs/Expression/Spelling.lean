import Mathlib.Data.List.TakeWhile
import SettingText.Proofs.Except
import SettingText.Types.Token

/-!
How tokens are spelled. A text spells a list of tokens when it is made of them in their order, with any
blanks before, between and behind them, and each name goes on as far as it can. The scanner finds the
tokens that a text spells, and finds none where the text spells none.
-/

namespace SettingText.Types

/-- The characters of a name: a letter or a low line, and what a name goes on with. -/
def IsName (cs : List Char) : Prop :=
  ∃ c rest, cs = c :: rest ∧ isNameStart c = true ∧ ∀ d ∈ rest, isNamePart d = true

instance (cs : List Char) : Decidable (IsName cs) :=
  decidable_of_iff (cs.head?.any isNameStart = true ∧ cs.tail.all isNamePart = true) <| by
    cases cs <;> simp [IsName]

namespace Token

def IsSpelled : Token → Prop
  | name text => IsName text.toList
  | _ => True

instance : DecidablePred IsSpelled
  | name text => inferInstanceAs (Decidable (IsName text.toList))
  | dots | opening | closing | comma | bar => isTrue trivial

/-- A name is over only where the text does not go on like a name. -/
def EndsBefore : Token → List Char → Prop
  | name _, rest => ∀ c ∈ rest.head?, isNamePart c = false
  | _, _ => True

end Token

/-- The text is made of the tokens, with any blanks before, between and behind them. -/
inductive Spells : List Token → List Char → Prop
  | blanks {blanks} (h : ∀ c ∈ blanks, Text.isBlank c = true) : Spells [] blanks
  | token {blanks token tokens rest} (h : ∀ c ∈ blanks, Text.isBlank c = true)
      (hspelled : token.IsSpelled) (hends : token.EndsBefore rest) (hrest : Spells tokens rest) :
      Spells (token :: tokens) (blanks ++ (token.text.toList ++ rest))

section Characters

theorem blankRanges_apart :
    ∀ b ∈ Text.blankRanges.toList, ∀ w ∈ Text.wordRanges.toList, b.2 < w.1 ∨ w.2 < b.1 := by
  decide +kernel

theorem within_wordRanges_of_ascii {c : Char} (h : (c.isAlphanum || c == '_') = true) :
    Text.CodePoint.within Text.wordRanges c = true := by
  -- both rules name the same four ranges, one by classes and one by the table
  have hin : (0x30 ≤ c.toNat ∧ c.toNat ≤ 0x39) ∨ (0x41 ≤ c.toNat ∧ c.toNat ≤ 0x5a) ∨
      (0x5f ≤ c.toNat ∧ c.toNat ≤ 0x5f) ∨ (0x61 ≤ c.toNat ∧ c.toNat ≤ 0x7a) := by
    delta Char.isAlphanum Char.isAlpha Char.isUpper Char.isLower Char.isDigit at h
    simp only [Bool.or_eq_true, Bool.and_eq_true, decide_eq_true_eq, beq_iff_eq] at h
    obtain ((h | h) | h) | rfl := h
    · exact .inr (.inl h)
    · exact .inr (.inr (.inr h))
    · exact .inl h
    · exact .inr (.inr (.inl ⟨by decide, by decide⟩))
  have hranges : (0x30, 0x39) ∈ Text.wordRanges.toList ∧ (0x41, 0x5a) ∈ Text.wordRanges.toList ∧
      (0x5f, 0x5f) ∈ Text.wordRanges.toList ∧ (0x61, 0x7a) ∈ Text.wordRanges.toList := by
    decide +kernel
  rw [Text.CodePoint.within, ← Array.any_toList, List.any_eq_true]
  obtain ⟨hdigits, hupper, hline, hlower⟩ := hranges
  obtain h | h | h | h := hin
  · exact ⟨_, hdigits, by simpa using h⟩
  · exact ⟨_, hupper, by simpa using h⟩
  · exact ⟨_, hline, by simpa using h⟩
  · exact ⟨_, hlower, by simpa using h⟩

theorem isWord_of_isBlank {c : Char} (h : Text.isBlank c = true) : Text.isWord c = false := by
  rw [Text.isBlank, Text.CodePoint.within, ← Array.any_toList, List.any_eq_true] at h
  obtain ⟨b, hb, hblank⟩ := h
  have hout : Text.CodePoint.within Text.wordRanges c = false := by
    rw [Text.CodePoint.within, ← Array.any_toList, List.any_eq_false]
    intro w hw hword
    have hapart := blankRanges_apart b hb w hw
    simp only [Bool.and_eq_true, decide_eq_true_eq] at hblank hword
    omega
  rw [Text.isWord]
  split
  · by_contra hne
    have hin := within_wordRanges_of_ascii (eq_true_of_ne_false hne)
    rw [hout] at hin
    cases hin
  · exact hout

theorem isNamePart_of_isBlank {c : Char} (h : Text.isBlank c = true) : isNamePart c = false := by
  have hdot : c ≠ '.' := by
    rintro rfl
    exact absurd h (by decide +kernel)
  simp [isNamePart, isWord_of_isBlank h, hdot]

theorem isNamePart_of_isNameStart {c : Char} (h : isNameStart c = true) : isNamePart c = true := by
  have hascii : (c.isAlphanum || c == '_') = true := by
    simp only [isNameStart, Bool.or_eq_true] at h
    simp only [Char.isAlphanum, Bool.or_eq_true]
    tauto
  have hword : Text.isWord c = true := by
    rw [Text.isWord]
    split
    · exact hascii
    · exact within_wordRanges_of_ascii hascii
  simp [isNamePart, hword]

end Characters

namespace Token

variable {token : Token} {c : Char} {rest : List Char}

theorem text_ne_nil (h : token.IsSpelled) : token.text.toList ≠ [] := by
  cases token with
  | name text =>
    obtain ⟨c, rest, hname, _, _⟩ := h
    rw [Token.text, hname]
    exact List.cons_ne_nil _ _
  | _ => decide

theorem isBlank_of_mem_text (h : token.IsSpelled) (hc : c ∈ token.text.toList) :
    Text.isBlank c = false := by
  cases token with
  | name text =>
    obtain ⟨first, rest, hname, hfirst, hrest⟩ := h
    rw [Token.text, hname] at hc
    have hpart : isNamePart c = true := by
      obtain rfl | hc := List.mem_cons.mp hc
      · exact isNamePart_of_isNameStart hfirst
      · exact hrest c hc
    by_contra hblank
    rw [isNamePart_of_isBlank (eq_true_of_ne_false hblank)] at hpart
    cases hpart
  | _ => exact Bool.eq_false_iff.mpr (List.any_eq_false.mp (by decide +kernel) c hc)

theorem EndsBefore.nil : token.EndsBefore [] := by
  cases token <;> simp [EndsBefore]

theorem endsBefore_append_blanks {blanks : List Char} (h : token.EndsBefore rest)
    (hblanks : ∀ c ∈ blanks, Text.isBlank c = true) : token.EndsBefore (rest ++ blanks) := by
  cases token with
  | name text =>
    intro c hc
    cases rest with
    | nil =>
      have hmem : c ∈ blanks := List.mem_of_mem_head? hc
      exact isNamePart_of_isBlank (hblanks c hmem)
    | cons d rest => exact h c hc
  | _ => trivial

theorem EndsBefore.of_append {tail : List Char} (h : token.EndsBefore (rest ++ tail)) :
    token.EndsBefore rest := by
  cases token with
  | name text =>
    cases rest with
    | nil => exact EndsBefore.nil
    | cons d rest => exact h
  | _ => trivial

end Token

section NextToken

variable {token : Token} {size : Nat} {cs rest : List Char}

/-- A token that is spelled, and over where the rest begins, is the next one. -/
theorem nextToken_of_spelled (h : token.IsSpelled) (hends : token.EndsBefore rest) :
    nextToken (token.text.toList ++ rest) = some (token, token.text.toList.length) := by
  cases token with
  | name text =>
    obtain ⟨c, part, hname, hc, hpart⟩ := h
    have htext : text = String.ofList (c :: part) := by rw [← hname, String.ofList_toList]
    have hdot : c ≠ '.' := by
      rintro rfl
      exact absurd hc (by decide)
    have htake : (part ++ rest).takeWhile isNamePart = part := by
      rw [List.takeWhile_append_of_pos hpart]
      cases rest with
      | nil => simp
      | cons d rest => simp [hends d rfl]
    have hnext : nextToken (c :: (part ++ rest)) =
        some (.name (String.ofList (c :: part)), part.length + 1) := by
      unfold nextToken
      split
      · rename_i heq
        cases heq
      · rename_i heq
        exact absurd (List.cons.inj heq).1 hdot
      · rename_i heq
        obtain ⟨rfl, rfl⟩ := List.cons.inj heq
        simp only [hc, if_true, htake]
    rw [Token.text, hname, List.cons_append, hnext, htext, List.length_cons]
  | _ => rfl

theorem spelled_of_nextToken (h : nextToken cs = some (token, size)) :
    ∃ rest, cs = token.text.toList ++ rest ∧ size = token.text.toList.length ∧
      token.IsSpelled ∧ token.EndsBefore rest := by
  unfold nextToken at h
  split at h
  · cases h
  · rename_i rest
    obtain ⟨rfl, rfl⟩ := Prod.mk.inj (Option.some.inj h)
    exact ⟨rest, rfl, rfl, trivial, trivial⟩
  · rename_i c rest _
    split at h
    · rename_i hc
      obtain ⟨rfl, rfl⟩ := Prod.mk.inj (Option.some.inj h)
      refine ⟨rest.dropWhile isNamePart, ?_, ?_, ⟨c, _, String.toList_ofList, hc, ?_⟩, ?_⟩
      · simp [Token.text, List.takeWhile_append_dropWhile]
      · simp [Token.text]
      · intro d hd
        exact List.mem_takeWhile_imp hd
      · intro d hd
        have hhead := List.head?_dropWhile_not isNamePart rest
        rw [Option.mem_def.mp hd] at hhead
        simpa using hhead
    · obtain ⟨found, hfound, he⟩ := Option.map_eq_some_iff.mp h
      obtain ⟨rfl, rfl⟩ := Prod.mk.inj he
      refine ⟨rest, ?_⟩
      unfold Token.ofChar? at hfound
      split at hfound <;> cases hfound <;> exact ⟨rfl, rfl, trivial, trivial⟩

end NextToken

section Scan

variable {position : Nat} {token : Token} {tokens : List Token} {cs blanks rest : List Char}

theorem scan_token (hblanks : ∀ c ∈ blanks, Text.isBlank c = true) (h : token.IsSpelled)
    (hends : token.EndsBefore rest) :
    scan position (blanks ++ (token.text.toList ++ rest)) =
      (scan (position + blanks.length + token.text.toList.length) rest).map (token :: ·) := by
  have hne : blanks ++ (token.text.toList ++ rest) ≠ [] := by simp [Token.text_ne_nil h]
  have htake : (blanks ++ (token.text.toList ++ rest)).takeWhile Text.isBlank = blanks := by
    rw [List.takeWhile_append_of_pos hblanks]
    obtain ⟨c, text, htext⟩ := List.exists_cons_of_ne_nil (Token.text_ne_nil h)
    have hc : Text.isBlank c = false := Token.isBlank_of_mem_text h (by simp [htext])
    simp [htext, hc]
  have hnext : nextToken ((blanks ++ (token.text.toList ++ rest)).drop blanks.length) =
      some (token, token.text.toList.length) := by
    rw [List.drop_left]
    exact nextToken_of_spelled h hends
  rw [scan, if_neg (by simpa using hne)]
  simp only [htake]
  split
  · rename_i hnone
    rw [htake, hnext] at hnone
    cases hnone
  · rename_i hsome
    rw [htake, hnext] at hsome
    cases hsome
    rw [← List.drop_drop, List.drop_left, List.drop_left]

theorem spells_of_scan (h : scan position cs = .ok tokens) : Spells tokens cs := by
  fun_induction scan position cs generalizing tokens with
  | case1 position cs hempty =>
    cases h
    rw [List.isEmpty_iff.mp hempty]
    exact .blanks (by simp)
  | case2 => cases h
  | case3 position cs _ before token size hnext =>
    rename_i ih
    obtain ⟨found, hfound, rfl⟩ := map_eq_ok_iff.mp h
    obtain ⟨rest, hrest, hsize, hspelled, hends⟩ := spelled_of_nextToken hnext
    have hsplit : cs = cs.takeWhile Text.isBlank ++ (token.text.toList ++ rest) := by
      rw [← hrest]
      exact (List.prefix_iff_eq_append.mp (List.takeWhile_prefix _)).symm
    rw [← List.drop_drop, hrest, hsize, List.drop_left] at ih hfound
    rw [hsplit]
    exact .token (fun c hc => List.mem_takeWhile_imp hc) hspelled hends (ih hfound)

theorem Spells.append_blanks {tail : List Char} (h : Spells tokens cs)
    (htail : ∀ c ∈ tail, Text.isBlank c = true) : Spells tokens (cs ++ tail) := by
  induction h with
  | blanks hblanks =>
    refine .blanks fun c hc => ?_
    obtain hc | hc := List.mem_append.mp hc
    · exact hblanks c hc
    · exact htail c hc
  | token hblanks hspelled hends _ ih =>
    simp only [List.append_assoc]
    exact .token hblanks hspelled (Token.endsBefore_append_blanks hends htail) ih

theorem dropEndWhile_append_last {p : Char → Bool} (before after : List Char) {last : Char}
    (h : p last = false) :
    Text.dropEndWhile p (before ++ last :: after) = before ++ last :: Text.dropEndWhile p after := by
  have hdrop : (after.reverse ++ last :: before.reverse).dropWhile p =
      after.reverse.dropWhile p ++ last :: before.reverse := by
    rw [List.dropWhile_append]
    split <;> simp_all
  have hreverse : (before ++ last :: after).reverse = after.reverse ++ last :: before.reverse := by
    simp
  rw [Text.dropEndWhile, hreverse, hdrop]
  simp [Text.dropEndWhile]

/-- A scan finds the tokens that a text spells, when no blank is left at the end of the text. -/
theorem Spells.scan_dropEndWhile (h : Spells tokens cs) :
    scan position (Text.dropEndWhile Text.isBlank cs) = .ok tokens := by
  induction h generalizing position with
  | @blanks blanks hblanks =>
    have hnil : Text.dropEndWhile Text.isBlank blanks = [] := by
      rw [Text.dropEndWhile, List.reverse_eq_nil_iff, List.dropWhile_eq_nil_iff]
      intro c hc
      exact hblanks c (List.mem_reverse.mp hc)
    rw [hnil, scan]
    rfl
  | @token blanks token tokens rest hblanks hspelled hends _ ih =>
    -- the token ends in no blank, so whatever is taken away is taken from what follows it
    have hkeep : Text.dropEndWhile Text.isBlank (blanks ++ (token.text.toList ++ rest)) =
        blanks ++ (token.text.toList ++ Text.dropEndWhile Text.isBlank rest) := by
      obtain h | ⟨before, last, htext⟩ := List.eq_nil_or_concat' token.text.toList
      · exact absurd h (Token.text_ne_nil hspelled)
      have hlast : Text.isBlank last = false :=
        Token.isBlank_of_mem_text hspelled (by simp [htext])
      have hdrop := dropEndWhile_append_last (blanks ++ before) rest hlast
      simpa [htext] using hdrop
    obtain ⟨tail, htail, _⟩ := Text.dropEndWhile_append Text.isBlank rest
    rw [htail] at hends
    rw [hkeep, scan_token hblanks hspelled hends.of_append, ih]
    rfl

end Scan

/-- The tokens of a text are those that it spells. -/
theorem tokens_eq_ok_iff {text : String} {found : List Token} :
    tokens text = .ok found ↔ Spells found text.toList := by
  rw [tokens, Text.stripEnd, String.toList_ofList]
  constructor
  · intro h
    obtain ⟨tail, htext, htail⟩ := Text.dropEndWhile_append Text.isBlank text.toList
    rw [htext]
    exact (spells_of_scan h).append_blanks htail
  · intro h
    exact h.scan_dropEndWhile

theorem Spells.unique {first second : List Token} {cs : List Char} (hfirst : Spells first cs)
    (hsecond : Spells second cs) : first = second := by
  have hscan : scan 0 (Text.dropEndWhile Text.isBlank cs) = .ok first := hfirst.scan_dropEndWhile
  rw [hsecond.scan_dropEndWhile] at hscan
  exact (Except.ok.inj hscan).symm

end SettingText.Types
