import Mathlib.Data.List.DropRight
import SettingText.Proofs.Fragment.Image

/-!
Cutting in one pass. The fragments of a text are first cut, looking at the character before each
delimiter, and unescaped afterwards; reading the text once from the left, with the fragment that is
being read and the number of cuts so far, comes to the same.
-/

namespace SettingText

namespace Fragment

variable {d c : Char} {limit : Limit} {previous : Option Char} {most cuts : Nat}

/-- One more cut may be made; at most zero cuts are any number. -/
def MayCut (most cuts : Nat) : Prop := most = 0 ∨ cuts < most

instance (most cuts : Nat) : Decidable (MayCut most cuts) := inferInstanceAs (Decidable (_ ∨ _))

/-- The fragments of a text read from the left. A backslash in front of a delimiter writes the
delimiter, any other delimiter ends the fragment where one more cut may be made, and every other
character is written. -/
def scan (d : Char) (most cuts : Nat) (fragment : List Char) : List Char → List (List Char)
  | [] => [fragment]
  | [c] => if c = d ∧ MayCut most cuts then [fragment, []] else [fragment ++ [c]]
  | c :: next :: rest =>
    if c = escapeChar ∧ next = d then
      scan d most cuts (fragment ++ [d]) rest
    else if c = d ∧ MayCut most cuts then
      fragment :: scan d most (cuts + 1) [] (next :: rest)
    else
      scan d most cuts (fragment ++ [c]) (next :: rest)

/-- All that is read from a text. Empty fragments at the end count only where cuts are limited. -/
def scanned (d : Char) (most : Nat) (text : List Char) : List (List Char) :=
  if most = 0 then (scan d 0 0 [] text).rdropWhile List.isEmpty else scan d most 0 [] text

/-- The cuts that are left after some were made. -/
def left (most cuts : Nat) : Limit := if most = 0 then .every else .atMost (most - cuts)

theorem left_allows : (left most cuts).allows = true ↔ MayCut most cuts := by
  rw [left, MayCut]
  split <;> simp [Limit.allows, *]
  omega

theorem left_spend : (left most cuts).spend = left most (cuts + 1) := by
  rw [left, left]
  split
  · rfl
  · rw [Limit.spend, Nat.sub_add_eq]

theorem left_zero (most : Nat) : left most 0 = .ofInt most := by
  rw [left, Limit.ofInt]
  by_cases h : most = 0
  · rw [if_pos h, if_pos (by exact_mod_cast h)]
  · rw [if_neg h, if_neg (by exact_mod_cast h)]
    rfl

theorem cut_ne_nil (d : Char) (limit : Limit) (previous : Option Char) (text : List Char) :
    cut [d] limit 0 previous text ≠ [] := by
  cases text with
  | nil => simp [cut]
  | cons c rest =>
    rw [cut]
    split
    · simp
    · exact consFirst_ne_nil c _

theorem consFirst_eq_modifyHead {parts : List (List Char)} (h : parts ≠ []) (c : Char) :
    consFirst c parts = parts.modifyHead (c :: ·) := by
  cases parts with
  | nil => contradiction
  | cons first others => rfl

theorem cutsHere_iff {rest : List Char} :
    cutsHere [d] previous (c :: rest) = true ↔ previous ≠ some escapeChar ∧ c = d := by
  rw [cutsHere, Bool.and_eq_true]
  refine and_congr (by simp) ?_
  rw [List.isPrefixOf_iff_prefix, List.cons_prefix_cons, and_iff_left (List.nil_prefix), eq_comm]

/-- The first fragment is empty or begins as the text does. -/
theorem head_cut {rest first : List Char} {others : List (List Char)}
    (h : cut [d] limit 0 previous (c :: rest) = first :: others) :
    first = [] ∨ ∃ behind, first = c :: behind := by
  rw [cut] at h
  split at h
  · exact .inl (List.cons.inj h).1.symm
  · rw [consFirst_eq_modifyHead (cut_ne_nil d limit _ rest)] at h
    obtain ⟨next, behind, hrest⟩ := List.exists_cons_of_ne_nil (cut_ne_nil d limit (some c) rest)
    rw [hrest] at h
    exact .inr ⟨next, (List.cons.inj h).1.symm⟩

/-- What stands before the text matters only where the text begins with a delimiter. -/
theorem cut_cons_of_ne (h : c ≠ d) (rest : List Char) :
    cut [d] limit 0 previous (c :: rest) = cut [d] limit 0 none (c :: rest) := by
  simp [cut, cutsHere, h.symm]

/-- The fragments of a text, unescaped, where `previous` stands before it. -/
def pieces (d : Char) (limit : Limit) (previous : Option Char) (text : List Char) :
    List (List Char) :=
  (cut [d] limit 0 previous text).map (unescape [d])

theorem pieces_cut (hlimit : limit.allows = true) (hprevious : previous ≠ some escapeChar)
    (rest : List Char) :
    pieces d limit previous (d :: rest) = [] :: pieces d limit.spend (some d) rest := by
  have hcut : (limit.allows && cutsHere [d] previous (d :: rest)) = true := by
    rw [hlimit, Bool.true_and, cutsHere_iff]
    exact ⟨hprevious, rfl⟩
  rw [pieces, cut, if_pos hcut]
  rfl

theorem cut_cons_of_not (h : ¬(limit.allows = true ∧ previous ≠ some escapeChar ∧ c = d))
    (rest : List Char) :
    cut [d] limit 0 previous (c :: rest) =
      (cut [d] limit 0 (some c) rest).modifyHead (c :: ·) := by
  rw [cut, if_neg (by rwa [Bool.and_eq_true, cutsHere_iff]),
    consFirst_eq_modifyHead (cut_ne_nil d limit _ rest)]

/-- A delimiter behind a backslash stands for itself, and the backslash for nothing. -/
theorem pieces_escaped (hd : d ≠ escapeChar) (rest : List Char) :
    pieces d limit previous (escapeChar :: d :: rest) =
      (pieces d limit (some d) rest).modifyHead (d :: ·) := by
  rw [pieces, cut_cons_of_not (by simp [hd.symm]), cut_cons_of_not (by simp), pieces]
  obtain ⟨first, others, hrest⟩ := List.exists_cons_of_ne_nil (cut_ne_nil d limit (some d) rest)
  rw [hrest]
  exact congrArg (· :: others.map (unescape [d])) (unescape_escapeChar d first)

/-- A character that neither cuts nor protects a delimiter stands for itself. -/
theorem pieces_other {rest : List Char}
    (hcut : ¬(limit.allows = true ∧ previous ≠ some escapeChar ∧ c = d))
    (hescape : ¬(c = escapeChar ∧ rest.head? = some d)) :
    pieces d limit previous (c :: rest) = (pieces d limit (some c) rest).modifyHead (c :: ·) := by
  rw [pieces, cut_cons_of_not hcut, pieces]
  obtain ⟨first, others, hrest⟩ := List.exists_cons_of_ne_nil (cut_ne_nil d limit (some c) rest)
  have hfirst : unescape [d] (c :: first) = c :: unescape [d] first := by
    cases rest with
    | nil =>
      cases hrest
      simp [unescape, replaceFrom]
    | cons next rest =>
      obtain rfl | ⟨behind, rfl⟩ := head_cut hrest
      · simp [unescape, replaceFrom]
      · exact unescape_cons_cons (by simpa using hescape) behind
  rw [hrest]
  exact congrArg (· :: others.map (unescape [d])) hfirst

/-- Where no backslash stands before the text, it is read as it is cut and unescaped, the fragment
that was begun going on with the first piece. -/
theorem scan_eq_pieces (hd : d ≠ escapeChar) (fragment text : List Char)
    (hprevious : previous ≠ some escapeChar) :
    scan d most cuts fragment text =
      (pieces d (left most cuts) previous text).modifyHead (fragment ++ ·) := by
  induction cuts, fragment, text using scan.induct d most generalizing previous with
  | case1 cuts fragment => simp [scan, pieces, cut, unescape, replaceFrom]
  | case2 cuts fragment c h =>
    obtain ⟨rfl, hmay⟩ := h
    rw [scan, if_pos ⟨rfl, hmay⟩, pieces_cut (left_allows.mpr hmay) hprevious]
    simp [pieces, cut, unescape, replaceFrom]
  | case3 cuts fragment c h =>
    rw [scan, if_neg h, pieces_other (by rw [left_allows]; tauto) (by simp)]
    simp [pieces, cut, unescape, replaceFrom]
  | case4 cuts fragment c next rest h ih =>
    obtain ⟨rfl, rfl⟩ := h
    have hnext : some next ≠ some escapeChar := by simpa using hd
    rw [scan, if_pos ⟨rfl, rfl⟩, pieces_escaped hd, ih hnext]
    simp [List.modifyHead_modifyHead, Function.comp_def]
  | case5 cuts fragment c next rest hescape h ih =>
    obtain ⟨rfl, hmay⟩ := h
    have hnext : some c ≠ some escapeChar := by simpa using hd
    rw [scan, if_neg hescape, if_pos ⟨rfl, hmay⟩, pieces_cut (left_allows.mpr hmay) hprevious,
      left_spend, ih hnext]
    rw [List.modifyHead_cons, List.append_nil]
    exact congrArg (fragment :: ·) (congrFun List.modifyHead_id _)
  | case6 cuts fragment c next rest hescape h ih =>
    have hrest : ∃ before, before ≠ some escapeChar ∧
        pieces d (left most cuts) (some c) (next :: rest) =
          pieces d (left most cuts) before (next :: rest) := by
      by_cases hc : c = escapeChar
      · -- The backslash stands for itself here, since no delimiter follows that could be cut at.
        have hnext : next ≠ d := fun hnext => hescape ⟨hc, hnext⟩
        exact ⟨none, by simp, congrArg (List.map _) (cut_cons_of_ne hnext rest)⟩
      · exact ⟨some c, by simpa using hc, rfl⟩
    obtain ⟨before, hbefore, hsame⟩ := hrest
    rw [scan, if_neg hescape, if_neg h, pieces_other (by rw [left_allows]; tauto) (by simpa using hescape),
      hsame, ih hbefore]
    simp [List.modifyHead_modifyHead, Function.comp_def]

theorem dropTrailingEmpty_concat_nil (texts : List (List Char)) :
    dropTrailingEmpty (texts ++ [[]]) = dropTrailingEmpty texts := by
  induction texts with
  | nil => rfl
  | cons text rest ih => rw [List.cons_append, dropTrailingEmpty, ih, dropTrailingEmpty]

theorem dropTrailingEmpty_eq_rdropWhile (texts : List (List Char)) :
    dropTrailingEmpty texts = texts.rdropWhile List.isEmpty := by
  induction texts using List.reverseRecOn with
  | nil => rfl
  | append_singleton texts text ih =>
    by_cases h : text = []
    · rw [h, dropTrailingEmpty_concat_nil, ih, List.rdropWhile_concat_pos _ _ _ rfl]
    · rw [List.rdropWhile_concat_neg _ _ _ (by simpa using h)]
      exact dropTrailingEmpty_eq_self (by simpa using h)

/-- Where a function keeps empty texts and no others empty, it may be applied before or after the
empty texts at the end are dropped. -/
theorem dropTrailingEmpty_map {α : Type} {f : List Char → α} {p : α → Bool}
    (h : ∀ text, p (f text) = text.isEmpty) (texts : List (List Char)) :
    (dropTrailingEmpty texts).map f = (texts.map f).rdropWhile p := by
  have hp : p ∘ f = List.isEmpty := funext h
  rw [dropTrailingEmpty_eq_rdropWhile, List.rdropWhile, List.rdropWhile, ← List.map_reverse,
    List.dropWhile_map, hp, List.map_reverse]

theorem isEmpty_unescape (hd : d ≠ escapeChar) (text : List Char) :
    (unescape [d] text).isEmpty = text.isEmpty := by
  rw [Bool.eq_iff_iff, List.isEmpty_iff, List.isEmpty_iff, ← List.getLast?_eq_none_iff,
    getLast?_unescape hd, List.getLast?_eq_none_iff]

theorem fragments_eq_scanned (hd : d ≠ escapeChar) (most : Nat) (text : List Char) :
    fragments [d] (.ofInt most) text = scanned d most text := by
  have hscan : scan d most 0 [] text = pieces d (.ofInt most) none text := by
    have hnone : none ≠ some escapeChar := by simp
    rw [scan_eq_pieces hd [] text hnone, left_zero]
    exact congrFun List.modifyHead_id _
  rw [scanned]
  by_cases h : most = 0
  · subst h
    rw [if_pos rfl, hscan]
    exact dropTrailingEmpty_map (isEmpty_unescape hd) _
  · have hlimit : Limit.ofInt most = .atMost most := if_neg (by exact_mod_cast h)
    rw [if_neg h, hscan, hlimit]
    rfl

/-- Joined texts are cut into themselves again, but for empty ones at the end. -/
theorem fragments_join_of_dropLast (hd : d ≠ escapeChar) {texts : List (List Char)}
    (h : ∀ text ∈ texts.dropLast, text.getLast? ≠ some escapeChar) :
    fragments [d] .every (join d (texts.map (escape d))) = texts.rdropWhile List.isEmpty := by
  cases texts with
  | nil => rfl
  | cons text rest =>
    have hempty : ∀ t, (unescape [d] t).isEmpty = t.isEmpty := isEmpty_unescape hd
    rw [fragments, rawFragments_singleton, cut_join hd h (by simp), dropTrailingEmpty_map hempty,
      List.map_map]
    congr 1
    exact (List.map_congr_left fun t _ => unescape_escape hd t).trans (List.map_id _)

/-- The text that the texts are joined to, each escaped. -/
def rejoin (d : Char) (texts : List String) : String :=
  String.ofList (join d ((texts.map String.toList).map (escape d)))

theorem split_rejoin (hd : d ≠ escapeChar) {texts : List String}
    (h : ∀ text ∈ texts.dropLast, ¬EndsEscaping text) :
    split (String.singleton d) .every (rejoin d texts) = texts.rdropWhile String.isEmpty := by
  have hlast : ∀ t ∈ (texts.map String.toList).dropLast, t.getLast? ≠ some escapeChar := by
    rwa [← List.map_dropLast, List.forall_mem_map]
  have hempty (t : List Char) : (String.ofList t).isEmpty = t.isEmpty := by
    rw [Bool.eq_iff_iff, String.isEmpty_iff, String.ofList_eq_empty_iff, List.isEmpty_iff]
  rw [split, rejoin, String.toList_ofList, String.toList_singleton,
    fragments_join_of_dropLast hd hlast, ← dropTrailingEmpty_eq_rdropWhile,
    dropTrailingEmpty_map hempty, List.map_map]
  simp [Function.comp_def]

theorem not_endsEscaping_of_mem_dropLast_split (hd : d ≠ escapeChar) {text fragment : String}
    (h : fragment ∈ (split (String.singleton d) limit text).dropLast) : ¬EndsEscaping fragment := by
  rw [split, String.toList_singleton, ← List.map_dropLast, List.mem_map] at h
  obtain ⟨chars, hchars, rfl⟩ := h
  rw [EndsEscaping, String.toList_ofList]
  exact getLast?_of_mem_dropLast_fragments hd hchars

theorem split_ne_nil (count : Nat) (text : String) :
    split (String.singleton d) (.atMost count) text ≠ [] := by
  rw [split, String.toList_singleton, fragments, rawFragments_singleton]
  simpa using cut_ne_nil d (.atMost count) none text.toList

/-- No fragment at the end of an unlimited cutting is empty. -/
theorem rdropWhile_split_every (hd : d ≠ escapeChar) (text : String) :
    (split (String.singleton d) .every text).rdropWhile String.isEmpty =
      split (String.singleton d) .every text := by
  obtain ⟨_, hlast⟩ := (exists_split_eq_iff hd).mp ⟨text, rfl⟩
  rw [List.rdropWhile_eq_self_iff]
  intro hne hempty
  rw [List.getLast?_eq_some_getLast hne, String.isEmpty_iff.mp hempty] at hlast
  exact hlast rfl

/-- Cutting a text and then unescaping its fragments comes to reading it once from the left. Where cuts
are limited there is a fragment, the last of which may be empty; where they are not, the fragments
come back from the text that they are joined to, and a limited cutting loses there what is empty at
its end. -/
theorem split_eq_scanned (hd : d ≠ escapeChar) (most : Nat) (text : String) :
    split (String.singleton d) (.ofInt most) text =
        (scanned d most text.toList).map String.ofList ∧
      (most ≠ 0 → split (String.singleton d) (.ofInt most) text ≠ []) ∧
      split (String.singleton d) (.ofInt 0)
          (rejoin d (split (String.singleton d) (.ofInt 0) text)) =
        split (String.singleton d) (.ofInt 0) text ∧
      split (String.singleton d) (.ofInt 0)
          (rejoin d (split (String.singleton d) (.ofInt most) text)) =
        (split (String.singleton d) (.ofInt most) text).rdropWhile String.isEmpty := by
  have hrejoin : ∀ limit, split (String.singleton d) (.ofInt 0)
      (rejoin d (split (String.singleton d) limit text)) =
        (split (String.singleton d) limit text).rdropWhile String.isEmpty := fun limit =>
    split_rejoin hd fun fragment => not_endsEscaping_of_mem_dropLast_split hd
  refine ⟨?_, fun hmost => ?_, (hrejoin _).trans (rdropWhile_split_every hd text), hrejoin _⟩
  · rw [split, String.toList_singleton, fragments_eq_scanned hd]
  · have hlimit : Limit.ofInt most = .atMost most := if_neg (by exact_mod_cast hmost)
    rw [hlimit]
    exact split_ne_nil most text

/-- Two backslashes in front of a delimiter, and delimiters behind the last cut. -/
theorem split_eq_scanned_at_equals : '=' ≠ escapeChar ∧
    split "=" (.ofInt 1) "a\\\\=b=c\\=d=" = ["a\\=b", "c=d="] ∧
      split "=" (.ofInt 0) (rejoin '=' (split "=" (.ofInt 0) "a\\\\=b=c\\=d==")) =
        ["a\\=b", "c=d"] := by
  have hequals : '=' ≠ escapeChar := by decide
  obtain ⟨hone, _, _, _⟩ := split_eq_scanned hequals 1 "a\\\\=b=c\\=d="
  obtain ⟨hzero, _, hagain, _⟩ := split_eq_scanned hequals 0 "a\\\\=b=c\\=d=="
  exact ⟨hequals, hone.trans (by decide), hagain.trans (hzero.trans (by decide))⟩

end Fragment

end SettingText
