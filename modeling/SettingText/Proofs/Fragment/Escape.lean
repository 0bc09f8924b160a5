import SettingText.Converter.Convert

/-!
Writing texts so that cutting gives them back. A text is escaped by a backslash in front of every
delimiter; escaped texts are joined at delimiters of their own.
-/

namespace SettingText

namespace Fragment

variable {d : Char} {limit : Limit} {previous : Option Char}

/-- The text with a backslash in front of every delimiter. -/
def escape (d : Char) : List Char → List Char
  | [] => []
  | c :: rest => if c = d then escapeChar :: c :: escape d rest else c :: escape d rest

/-- The texts with a delimiter between each two. -/
def join (d : Char) : List (List Char) → List Char
  | [] => []
  | [text] => text
  | text :: next :: rest => text ++ d :: join d (next :: rest)

/-- The text of a collection with the texts of its items. -/
def encodeItems (texts : List (List Char)) : List Char := join ',' (texts.map (escape ','))

/-- The text of an entry with the text of its key, and that of its value unless it is absent. -/
def encodeEntry (key : List Char) : Option (List Char) → List Char
  | none => escape '=' key
  | some value => escape '=' key ++ '=' :: escape '=' value

/-- Texts that can be told apart again when they are joined: none before the last ends with a
backslash, which would keep the delimiter behind it from cutting, and the last is not empty, since
empty fragments at the end are dropped. -/
def Joinable (texts : List (List Char)) : Prop :=
  (∀ text ∈ texts.dropLast, text.getLast? ≠ some escapeChar) ∧ texts.getLast? ≠ some []

instance (texts : List (List Char)) : Decidable (Joinable texts) := inferInstanceAs (Decidable (_ ∧ _))

theorem escape_self (d : Char) (rest : List Char) :
    escape d (d :: rest) = escapeChar :: d :: escape d rest := by
  simp [escape]

theorem escape_other {c : Char} (h : c ≠ d) (rest : List Char) :
    escape d (c :: rest) = c :: escape d rest := by
  simp [escape, h]

theorem escape_eq_nil_iff {text : List Char} : escape d text = [] ↔ text = [] := by
  cases text with
  | nil => simp [escape]
  | cons c rest => by_cases h : c = d <;> simp [escape, h]

/-- An escaped text never begins with a delimiter. -/
theorem head?_escape (hd : d ≠ escapeChar) (text : List Char) : (escape d text).head? ≠ some d := by
  cases text with
  | nil => simp [escape]
  | cons c rest =>
    by_cases h : c = d
    · subst h
      simp [escape_self, hd.symm]
    · simp [escape_other h, h]

theorem getLast?_cons_or (c : Char) (rest : List Char) (previous : Option Char) :
    (c :: rest).getLast?.or previous = rest.getLast?.or (some c) := by
  cases rest with
  | nil => rfl
  | cons c' rest => simp [List.getLast?_cons]

/-- Taking the backslashes away gives the text back. -/
theorem unescape_escape (hd : d ≠ escapeChar) (text : List Char) :
    unescape [d] (escape d text) = text := by
  simp only [unescape]
  induction text with
  | nil => rfl
  | cons c rest ih =>
    by_cases h : c = d
    · subst h
      rw [escape_self]
      simp [replaceFrom, ih]
    · have hhead := head?_escape hd rest
      have hprefix : ([escapeChar, d] : List Char).isPrefixOf (c :: escape d rest) = false := by
        cases he : escape d rest with
        | nil => simp [List.isPrefixOf]
        | cons c' others =>
          rw [he] at hhead
          have : d ≠ c' := by simpa [eq_comm] using hhead
          simp [List.isPrefixOf, this]
      rw [escape_other h]
      simp [replaceFrom, hprefix, ih]

theorem rawFragments_singleton (d : Char) (limit : Limit) (text : List Char) :
    rawFragments [d] limit text = cut [d] limit 0 none text := rfl

/-- Nothing is cut within an escaped text. -/
theorem cut_escape_append (hd : d ≠ escapeChar) (text behind : List Char) :
    cut [d] limit 0 previous (escape d text ++ behind) =
      (escape d text).foldr consFirst (cut [d] limit 0 (text.getLast?.or previous) behind) := by
  induction text generalizing previous with
  | nil => rfl
  | cons c rest ih =>
    by_cases h : c = d
    · subst h
      rw [escape_self, getLast?_cons_or]
      simp [cut, cutsHere, hd, ih]
    · rw [escape_other h, getLast?_cons_or]
      simp [cut, cutsHere, Ne.symm h, ih]

theorem foldr_consFirst (text first : List Char) (others : List (List Char)) :
    text.foldr consFirst (first :: others) = (text ++ first) :: others := by
  induction text with
  | nil => rfl
  | cons c rest ih => rw [List.foldr_cons, ih]; rfl

/-- An escaped text is one fragment. -/
theorem cut_escape (hd : d ≠ escapeChar) (text : List Char) :
    cut [d] limit 0 previous (escape d text) = [escape d text] := by
  have h : cut [d] limit 0 previous (escape d text ++ []) = _ := cut_escape_append hd text []
  rw [List.append_nil] at h
  rw [h, cut, foldr_consFirst, List.append_nil]

/-- A delimiter behind an escaped text cuts, unless the text ends with a backslash. -/
theorem cut_escape_delimiter (hd : d ≠ escapeChar) (hlimit : limit.allows = true) {text : List Char}
    (hlast : text.getLast?.or previous ≠ some escapeChar) (behind : List Char) :
    cut [d] limit 0 previous (escape d text ++ d :: behind) =
      escape d text :: cut [d] limit.spend 0 (some d) behind := by
  have hcut : cut [d] limit 0 (text.getLast?.or previous) (d :: behind) =
      [] :: cut [d] limit.spend 0 (some d) behind := by
    simp [cut, cutsHere, hlimit, hlast]
  rw [cut_escape_append hd, hcut, foldr_consFirst, List.append_nil]

/-- Where no cut may be made, the text is one fragment. -/
theorem cut_of_not_allows (hlimit : limit.allows = false) (delimiter text : List Char) :
    cut delimiter limit 0 previous text = [text] := by
  induction text generalizing previous with
  | nil => rfl
  | cons c rest ih => simp [cut, hlimit, ih, consFirst]

theorem getLast?_or_ne {text : List Char} (htext : text.getLast? ≠ some escapeChar)
    (hprevious : previous ≠ some escapeChar) : text.getLast?.or previous ≠ some escapeChar := by
  cases h : text.getLast? with
  | none => simpa using hprevious
  | some c => simpa [h] using htext

/-- Cutting joined texts gives the texts, still escaped. -/
theorem cut_join (hd : d ≠ escapeChar) {text : List Char} {rest : List (List Char)}
    (hlast : ∀ t ∈ (text :: rest).dropLast, t.getLast? ≠ some escapeChar)
    (hprevious : previous ≠ some escapeChar) :
    cut [d] .every 0 previous (join d ((text :: rest).map (escape d))) =
      (text :: rest).map (escape d) := by
  induction rest generalizing text previous with
  | nil => exact cut_escape hd text
  | cons next rest ih =>
    have htext : text.getLast?.or previous ≠ some escapeChar :=
      getLast?_or_ne (hlast text (by simp)) hprevious
    have hnext : cut [d] .every 0 (some d) (join d ((next :: rest).map (escape d))) =
        (next :: rest).map (escape d) :=
      ih (fun t ht => hlast t (by simp [ht])) (by simpa using hd)
    rw [List.map_cons, List.map_cons, join, cut_escape_delimiter hd rfl htext]
    rw [List.map_cons] at hnext
    rw [Limit.spend, hnext]

theorem dropTrailingEmpty_eq_self {texts : List (List Char)} (h : texts.getLast? ≠ some []) :
    dropTrailingEmpty texts = texts := by
  induction texts with
  | nil => rfl
  | cons text rest ih =>
    cases rest with
    | nil =>
      have : text ≠ [] := by simpa using h
      simp [dropTrailingEmpty, this]
    | cons next others =>
      rw [dropTrailingEmpty, ih (by simpa [List.getLast?_cons] using h)]

/-- Cutting joined texts gives the texts. -/
theorem fragments_join (hd : d ≠ escapeChar) {texts : List (List Char)} (hne : texts ≠ [])
    (h : Joinable texts) : fragments [d] .every (join d (texts.map (escape d))) = texts := by
  obtain ⟨text, rest, rfl⟩ := List.exists_cons_of_ne_nil hne
  have hlast : ((text :: rest).map (escape d)).getLast? ≠ some [] := by
    rw [List.getLast?_map]
    intro hnil
    obtain ⟨last, hlast, hescape⟩ := Option.map_eq_some_iff.mp hnil
    rw [escape_eq_nil_iff.mp hescape] at hlast
    exact h.2 hlast
  rw [fragments, rawFragments_singleton, cut_join hd h.1 (by simp)]
  rw [dropTrailingEmpty_eq_self hlast, List.map_map]
  exact (List.map_congr_left fun t _ => unescape_escape hd t).trans (List.map_id _)

/-- Nothing is joined to the empty text but texts of which the last is empty. -/
theorem join_ne_nil {texts : List (List Char)} (hne : texts ≠ []) (h : texts.getLast? ≠ some []) :
    join d (texts.map (escape d)) ≠ [] := by
  cases texts with
  | nil => contradiction
  | cons text rest =>
    cases rest with
    | nil =>
      have : text ≠ [] := by simpa using h
      simpa [join, escape_eq_nil_iff] using this
    | cons next rest => simp [join]

end Fragment

theorem itemTexts_encodeItems {texts : List (List Char)} (h : Fragment.Joinable texts) :
    itemTexts (String.ofList (Fragment.encodeItems texts)) = texts.map String.ofList := by
  rw [Fragment.encodeItems]
  by_cases hne : texts = []
  · subst hne
    rfl
  · have hempty : (String.ofList (Fragment.join ',' (texts.map (Fragment.escape ',')))).isEmpty =
        false := by
      have := Fragment.join_ne_nil (d := ',') hne h.2
      simpa using this
    rw [itemTexts, hempty, Fragment.split, String.toList_ofList, String.toList_ofList]
    have hd : ',' ≠ Fragment.escapeChar := by decide
    exact congrArg (List.map String.ofList) (Fragment.fragments_join hd hne h)

/-- A key without a value is cut nowhere. -/
theorem entryTexts_encodeEntry_none (key : List Char) :
    entryTexts (String.ofList (Fragment.encodeEntry key none)) = (String.ofList key, none) := by
  have h : Fragment.fragments ['='] (.atMost 1) (Fragment.escape '=' key) = [key] := by
    have hd : '=' ≠ Fragment.escapeChar := by decide
    simp [Fragment.fragments, Fragment.rawFragments_singleton, Fragment.cut_escape hd,
      Fragment.unescape_escape hd]
  rw [Fragment.encodeEntry, entryTexts, Fragment.split, String.toList_ofList, String.toList_ofList,
    h]
  rfl

/-- A key that does not end with a backslash is cut from its value. -/
theorem entryTexts_encodeEntry_some {key : List Char} (h : key.getLast? ≠ some Fragment.escapeChar)
    (value : List Char) :
    entryTexts (String.ofList (Fragment.encodeEntry key (some value))) =
      (String.ofList key, some (String.ofList value)) := by
  have hparts : Fragment.fragments ['='] (.atMost 1)
      (Fragment.escape '=' key ++ '=' :: Fragment.escape '=' value) = [key, value] := by
    have hd : '=' ≠ Fragment.escapeChar := by decide
    rw [Fragment.fragments, Fragment.rawFragments_singleton,
      Fragment.cut_escape_delimiter hd rfl (Fragment.getLast?_or_ne h (by simp)),
      Fragment.cut_of_not_allows rfl]
    simp [Fragment.unescape_escape hd]
  rw [Fragment.encodeEntry, entryTexts, Fragment.split, String.toList_ofList, String.toList_ofList,
    hparts]
  rfl

end SettingText
