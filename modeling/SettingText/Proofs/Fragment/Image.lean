import SettingText.Proofs.Fragment.Escape

/-!
What comes out of cutting. A list of texts is what some text is cut into exactly when it can be
joined, and a list of entries is what some text is cut into, first at commas and then each at its
equals sign, exactly when its texts can be joined in this way at both levels.
-/

namespace SettingText

namespace Fragment

variable {d : Char} {limit : Limit} {previous : Option Char}

/-- The text ends with a backslash. -/
def EndsEscaping (text : String) : Prop := text.toList.getLast? = some escapeChar

instance (text : String) : Decidable (EndsEscaping text) := inferInstanceAs (Decidable (_ = _))

theorem unescape_escapeChar (d : Char) (rest : List Char) :
    unescape [d] (escapeChar :: d :: rest) = d :: unescape [d] rest := by
  have hprefix : ([escapeChar, d] : List Char).isPrefixOf (escapeChar :: d :: rest) = true :=
    List.isPrefixOf_iff_prefix.mpr ⟨rest, rfl⟩
  rw [unescape, replaceFrom, hprefix]
  rfl

theorem unescape_cons_cons {c c' : Char} (h : ¬(c = escapeChar ∧ c' = d)) (rest : List Char) :
    unescape [d] (c :: c' :: rest) = c :: unescape [d] (c' :: rest) := by
  have hprefix : ([escapeChar, d] : List Char).isPrefixOf (c :: c' :: rest) = false := by
    rw [Bool.eq_false_iff, ne_eq, List.isPrefixOf_iff_prefix, List.cons_prefix_cons,
      List.cons_prefix_cons]
    rintro ⟨rfl, rfl, _⟩
    exact h ⟨rfl, rfl⟩
  rw [unescape, replaceFrom, hprefix]
  rfl

/-- Taking backslashes away leaves the last character as it is, so an unescaped text is empty, or ends
with a backslash, when the text is or does. -/
theorem getLast?_unescape (hd : d ≠ escapeChar) :
    ∀ text : List Char, (unescape [d] text).getLast? = text.getLast?
  | [] => rfl
  | [c] => by simp [unescape, replaceFrom, List.isPrefixOf]
  | c :: c' :: rest => by
    by_cases h : c = escapeChar ∧ c' = d
    · obtain ⟨hc, hc'⟩ := h
      rw [hc, hc', unescape_escapeChar, List.getLast?_cons, List.getLast?_cons_cons, List.getLast?_cons,
        getLast?_unescape hd rest]
    · rw [unescape_cons_cons h, List.getLast?_cons, List.getLast?_cons,
        getLast?_unescape hd (c' :: rest)]

theorem getLast?_escape (d : Char) (text : List Char) : (escape d text).getLast? = text.getLast? := by
  induction text with
  | nil => rfl
  | cons c rest ih =>
    by_cases h : c = d
    · subst h
      rw [escape_self, List.getLast?_cons_cons, List.getLast?_cons, List.getLast?_cons, ih]
    · rw [escape_other h, List.getLast?_cons, List.getLast?_cons, ih]

/-- A cut is made behind no backslash, so only the last raw fragment can end with one. -/
theorem getLast?_of_cut {text first : List Char} {others : List (List Char)}
    (h : cut [d] limit 0 previous text = first :: others) (hne : others ≠ []) :
    first.getLast?.or previous ≠ some escapeChar ∧
      ∀ fragment ∈ others.dropLast, fragment.getLast? ≠ some escapeChar := by
  -- What stands before the text counts as the end of an empty first fragment: the induction needs it
  -- for the fragment that goes on behind the current character.
  induction text generalizing limit previous first others with
  | nil =>
    cases h
    contradiction
  | cons c rest ih =>
    rw [cut] at h
    split at h
    · next hcut =>
      obtain ⟨rfl, rfl⟩ := List.cons.inj h
      have hprevious : previous ≠ some escapeChar := by
        simp only [cutsHere, Bool.and_eq_true] at hcut
        simpa using hcut.2.1
      refine ⟨hprevious, ?_⟩
      rw [show [d].length - 1 = 0 from rfl]
      cases hrest : cut [d] limit.spend 0 (some c) rest with
      | nil => simp
      | cons next behind =>
        cases behind with
        | nil => simp
        | cons last behind =>
          obtain ⟨hnext, hbehind⟩ := ih hrest (by simp)
          rw [List.dropLast_cons_cons, List.forall_mem_cons]
          refine ⟨fun hend => hnext ?_, hbehind⟩
          rw [hend]
          rfl
    · cases hrest : cut [d] limit 0 (some c) rest with
      | nil =>
        rw [hrest] at h
        cases h
        contradiction
      | cons next behind =>
        rw [hrest] at h
        obtain ⟨rfl, rfl⟩ := List.cons.inj h
        rw [getLast?_cons_or]
        exact ih hrest hne

theorem getLast?_dropTrailingEmpty (texts : List (List Char)) :
    (dropTrailingEmpty texts).getLast? ≠ some [] := by
  induction texts with
  | nil => simp [dropTrailingEmpty]
  | cons text rest ih =>
    rw [dropTrailingEmpty]
    split
    · split
      · simp
      · simp_all
    · next kept hkept =>
      obtain ⟨next, behind, hsplit⟩ := List.exists_cons_of_ne_nil hkept
      rw [hsplit] at ih ⊢
      rwa [List.getLast?_cons_cons]

/-- What is kept before the last text stood before the last text. -/
theorem mem_dropLast_of_mem_dropTrailingEmpty {texts : List (List Char)} {text : List Char}
    (h : text ∈ (dropTrailingEmpty texts).dropLast) : text ∈ texts.dropLast := by
  induction texts with
  | nil => simp [dropTrailingEmpty] at h
  | cons first rest ih =>
    rw [dropTrailingEmpty] at h
    split at h
    · split at h <;> simp at h
    · next hkept =>
      have hrest : rest ≠ [] := by
        rintro rfl
        exact hkept rfl
      rw [List.dropLast_cons_of_ne_nil hkept, List.mem_cons] at h
      rw [List.dropLast_cons_of_ne_nil hrest, List.mem_cons]
      exact h.imp_right ih

/-- A fragment that is followed by another does not end with a backslash. -/
theorem getLast?_of_mem_dropLast_cut {text fragment : List Char}
    (h : fragment ∈ (cut [d] limit 0 none text).dropLast) : fragment.getLast? ≠ some escapeChar := by
  cases hcut : cut [d] limit 0 none text with
  | nil => simp [hcut] at h
  | cons first others =>
    by_cases hne : others = []
    · simp [hcut, hne] at h
    · obtain ⟨hfirst, hothers⟩ := getLast?_of_cut hcut hne
      rw [hcut, List.dropLast_cons_of_ne_nil hne, List.mem_cons] at h
      obtain rfl | h := h
      · rwa [Option.or_none] at hfirst
      · exact hothers fragment h

theorem getLast?_of_mem_dropLast_fragments (hd : d ≠ escapeChar) {text fragment : List Char}
    (h : fragment ∈ (fragments [d] limit text).dropLast) : fragment.getLast? ≠ some escapeChar := by
  have hraw : ∃ raw ∈ (cut [d] limit 0 none text).dropLast, unescape [d] raw = fragment := by
    cases limit with
    | every =>
      rw [fragments, rawFragments_singleton, ← List.map_dropLast, List.mem_map] at h
      obtain ⟨raw, hraw, hfragment⟩ := h
      exact ⟨raw, mem_dropLast_of_mem_dropTrailingEmpty hraw, hfragment⟩
    | atMost count =>
      rwa [fragments, rawFragments_singleton, ← List.map_dropLast, List.mem_map] at h
  obtain ⟨raw, hraw, rfl⟩ := hraw
  rw [getLast?_unescape hd]
  exact getLast?_of_mem_dropLast_cut hraw

/-- What a text is cut into can be joined again. -/
theorem joinable_fragments (hd : d ≠ escapeChar) (text : List Char) :
    Joinable (fragments [d] .every text) := by
  refine ⟨fun fragment => getLast?_of_mem_dropLast_fragments hd, ?_⟩
  rw [fragments, rawFragments_singleton, List.getLast?_map]
  intro hlast
  obtain ⟨raw, hraw, hnil⟩ := Option.map_eq_some_iff.mp hlast
  have hempty : raw.getLast? = none := by
    rw [← getLast?_unescape hd, hnil]
    rfl
  rw [List.getLast?_eq_none_iff.mp hempty] at hraw
  exact getLast?_dropTrailingEmpty _ hraw

/-- A text is cut at most once, at the first delimiter that is not escaped. -/
theorem cut_atMost_one (previous : Option Char) (text : List Char) :
    cut [d] (.atMost 1) 0 previous text = [text] ∨
      ∃ before behind, cut [d] (.atMost 1) 0 previous text = [before, behind] ∧
        text = before ++ d :: behind := by
  induction text generalizing previous with
  | nil => exact .inl rfl
  | cons c rest ih =>
    rw [cut]
    split
    · next hcut =>
      have hc : d = c := by
        simp only [cutsHere, Bool.and_eq_true] at hcut
        simpa [List.isPrefixOf] using hcut.2.2
      refine .inr ⟨[], rest, ?_, by rw [hc, List.nil_append]⟩
      exact congrArg ([] :: ·) (cut_of_not_allows rfl [d] rest)
    · obtain hrest | ⟨before, behind, hrest, hsplit⟩ := ih (some c)
      · exact .inl (by rw [hrest]; rfl)
      · exact .inr ⟨c :: before, behind, by rw [hrest]; rfl, by rw [hsplit, List.cons_append]⟩

/-- What it takes for texts to be joined, in terms of the texts. -/
theorem joinable_map_toList {texts : List String} :
    Joinable (texts.map String.toList) ↔
      (∀ text ∈ texts.dropLast, ¬EndsEscaping text) ∧ texts.getLast? ≠ some "" := by
  rw [Joinable, ← List.map_dropLast, List.forall_mem_map, List.getLast?_map]
  refine and_congr .rfl (not_congr ?_)
  rw [Option.map_eq_some_iff]
  constructor
  · rintro ⟨text, hlast, hnil⟩
    rwa [String.toList_eq_nil_iff.mp hnil] at hlast
  · intro hlast
    exact ⟨"", hlast, rfl⟩

/-- A list of texts is what some text is cut into exactly when none of them but the last ends with a
backslash, and the last is not empty. -/
theorem exists_split_eq_iff (hd : d ≠ escapeChar) {texts : List String} :
    (∃ text, split (String.singleton d) .every text = texts) ↔
      (∀ text ∈ texts.dropLast, ¬EndsEscaping text) ∧ texts.getLast? ≠ some "" := by
  rw [← joinable_map_toList]
  constructor
  · rintro ⟨text, rfl⟩
    rw [split, List.map_map]
    simpa [Function.comp_def] using joinable_fragments hd text.toList
  · intro h
    by_cases hne : texts = []
    · subst hne
      exact ⟨"", by simp [split, fragments, rawFragments_singleton, cut, dropTrailingEmpty]⟩
    · refine ⟨String.ofList (join d ((texts.map String.toList).map (escape d))), ?_⟩
      have hne : texts.map String.toList ≠ [] := by simpa using hne
      rw [split, String.toList_ofList, String.toList_singleton, fragments_join hd hne h, List.map_map]
      simp [Function.comp_def]

/-- Entries that some text can be cut into: no key ends with a backslash where a value stands behind
it, no entry but the last ends with one, and the last is not empty. -/
def EntriesJoinable (entries : List (String × Option String)) : Prop :=
  (∀ e ∈ entries, e.2.isSome → ¬EndsEscaping e.1) ∧
    (∀ e ∈ entries.dropLast, ¬EndsEscaping (e.2.getD e.1)) ∧ entries.getLast? ≠ some ("", none)

end Fragment

open Fragment

theorem itemTexts_eq_split (raw : String) : itemTexts raw = split "," .every raw := by
  rw [itemTexts]
  split
  · next h =>
    rw [String.isEmpty_iff.mp h]
    rfl
  · rfl

/-- An entry is not cut at all, or once, behind no backslash. -/
theorem entryTexts_cases (raw : String) :
    entryTexts raw = (String.ofList (unescape ['='] raw.toList), none) ∨
      ∃ before behind, raw.toList = before ++ '=' :: behind ∧ before.getLast? ≠ some escapeChar ∧
        entryTexts raw =
          (String.ofList (unescape ['='] before), some (String.ofList (unescape ['='] behind))) := by
  have hsplit : split "=" (.atMost 1) raw =
      ((cut ['='] (.atMost 1) 0 none raw.toList).map (unescape ['='])).map String.ofList := rfl
  obtain hcut | ⟨before, behind, hcut, hraw⟩ := cut_atMost_one (d := '=') none raw.toList
  · refine .inl ?_
    rw [entryTexts, hsplit, hcut]
    rfl
  · obtain ⟨hbefore, _⟩ := getLast?_of_cut hcut (by simp)
    rw [Option.or_none] at hbefore
    refine .inr ⟨before, behind, hraw, hbefore, ?_⟩
    rw [entryTexts, hsplit, hcut]
    rfl

theorem equals_ne_escapeChar : '=' ≠ escapeChar := by decide

theorem endsEscaping_unescape {text : List Char} :
    EndsEscaping (String.ofList (unescape ['='] text)) ↔ text.getLast? = some escapeChar := by
  rw [EndsEscaping, String.toList_ofList, getLast?_unescape equals_ne_escapeChar]

/-- A key with a value behind it does not end with a backslash. -/
theorem not_endsEscaping_key {raw : String} (h : (entryTexts raw).2.isSome) :
    ¬EndsEscaping (entryTexts raw).1 := by
  obtain hentry | ⟨before, behind, _, hbefore, hentry⟩ := entryTexts_cases raw
  · rw [hentry] at h
    cases h
  · rw [hentry]
    exact mt endsEscaping_unescape.mp hbefore

/-- Where an entry does not end with a backslash, its last half does not. -/
theorem not_endsEscaping_entryTexts {raw : String} (h : ¬EndsEscaping raw) :
    ¬EndsEscaping ((entryTexts raw).2.getD (entryTexts raw).1) := by
  obtain hentry | ⟨before, behind, hraw, _, hentry⟩ := entryTexts_cases raw
  · rw [hentry]
    exact mt endsEscaping_unescape.mp h
  · rw [hentry]
    refine mt endsEscaping_unescape.mp fun hbehind => h ?_
    rw [EndsEscaping, hraw, List.getLast?_append, List.getLast?_cons, hbehind]
    rfl

/-- Only the empty text is an entry of an empty key and no value. -/
theorem eq_empty_of_entryTexts {raw : String} (h : entryTexts raw = ("", none)) : raw = "" := by
  obtain hentry | ⟨before, behind, _, _, hentry⟩ := entryTexts_cases raw
  · rw [hentry, Prod.mk.injEq] at h
    have hlast := getLast?_unescape equals_ne_escapeChar raw.toList
    rw [String.ofList_eq_empty_iff.mp h.1, List.getLast?_nil, eq_comm,
      List.getLast?_eq_none_iff] at hlast
    exact String.toList_eq_nil_iff.mp hlast
  · rw [hentry, Prod.mk.injEq] at h
    cases h.2

/-- The text of an entry. -/
def entryText (e : String × Option String) : String :=
  String.ofList (encodeEntry e.1.toList (e.2.map String.toList))

/-- An entry whose key does not end with a backslash in front of a value comes back from its text. -/
theorem entryTexts_entryText {e : String × Option String} (h : e.2.isSome → ¬EndsEscaping e.1) :
    entryTexts (entryText e) = e := by
  obtain ⟨key, value⟩ := e
  cases value with
  | none => exact (entryTexts_encodeEntry_none key.toList).trans (by simp)
  | some value => exact (entryTexts_encodeEntry_some (h rfl) value.toList).trans (by simp)

theorem endsEscaping_entryText {e : String × Option String} :
    EndsEscaping (entryText e) ↔ EndsEscaping (e.2.getD e.1) := by
  obtain ⟨key, value⟩ := e
  rw [EndsEscaping, entryText, String.toList_ofList]
  cases value with
  | none => simp [encodeEntry, getLast?_escape, EndsEscaping]
  | some value =>
    have hequals : '=' ≠ escapeChar := equals_ne_escapeChar
    cases hvalue : value.toList.getLast? <;>
      simp [encodeEntry, getLast?_escape, EndsEscaping, hvalue, List.getLast?_cons, hequals]

theorem entryText_eq_empty_iff {e : String × Option String} :
    entryText e = "" ↔ e = ("", none) := by
  obtain ⟨key, value⟩ := e
  rw [entryText, String.ofList_eq_empty_iff]
  cases value <;> simp [encodeEntry, escape_eq_nil_iff]

/-- A list of entries is what some text is cut into exactly when the entries can be joined. -/
theorem exists_entryTexts_eq_iff {entries : List (String × Option String)} :
    (∃ raw, (itemTexts raw).map entryTexts = entries) ↔ EntriesJoinable entries := by
  have hcomma : ',' ≠ escapeChar := by decide
  constructor
  · rintro ⟨raw, rfl⟩
    rw [itemTexts_eq_split]
    obtain ⟨hends, hlast⟩ := (exists_split_eq_iff hcomma).mp ⟨raw, rfl⟩
    refine ⟨?_, ?_, ?_⟩
    · rw [List.forall_mem_map]
      exact fun text _ => not_endsEscaping_key
    · rw [← List.map_dropLast, List.forall_mem_map]
      exact fun text htext => not_endsEscaping_entryTexts (hends text htext)
    · rw [List.getLast?_map]
      intro hempty
      obtain ⟨text, htext, hentry⟩ := Option.map_eq_some_iff.mp hempty
      rw [eq_empty_of_entryTexts hentry] at htext
      exact hlast htext
  · rintro ⟨hkeys, hends, hlast⟩
    have htexts : ∃ raw, split "," .every raw = entries.map entryText := by
      refine (exists_split_eq_iff hcomma).mpr ⟨?_, ?_⟩
      · rw [← List.map_dropLast, List.forall_mem_map]
        exact fun e he => mt endsEscaping_entryText.mp (hends e he)
      · rw [List.getLast?_map]
        intro hempty
        obtain ⟨e, he, htext⟩ := Option.map_eq_some_iff.mp hempty
        rw [entryText_eq_empty_iff.mp htext] at he
        exact hlast he
    obtain ⟨raw, hraw⟩ := htexts
    refine ⟨raw, ?_⟩
    rw [itemTexts_eq_split, hraw, List.map_map]
    exact (List.map_congr_left fun e he => entryTexts_entryText (hkeys e he)).trans (List.map_id _)

end SettingText
