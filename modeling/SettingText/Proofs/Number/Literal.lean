import Mathlib.Tactic.Ring
import SettingText.Number.Literal
import SettingText.Proofs.Text.Run

/-!
Floating-point literals. Digits of any script, with or without a point among them, denote the decimal
number of their values, and a literal holds no letters but those of its exponent and of the names of
the infinities and of the undefined number.
-/

namespace SettingText

namespace Text

variable {c : Char} {n : Nat}

theorem zeroDigits_apart :
    ∀ first ∈ zeroDigits.toList, ∀ b ∈ blankRanges.toList, b.2 < first ∨ first + 10 ≤ b.1 := by
  decide +kernel

/-- A digit is one of the ten of some script. -/
theorem exists_zero_of_digitValue? (h : digitValue? c = some n) :
    ∃ first ∈ zeroDigits.toList, first ≤ c.toNat ∧ c.toNat < first + 10 ∧ n = c.toNat - first := by
  rw [digitValue?] at h
  split at h
  · split at h
    · next hdigit =>
      simp only [Char.isDigit, Bool.and_eq_true, decide_eq_true_eq] at hdigit
      exact ⟨0x30, by decide +kernel, hdigit.1, Nat.lt_succ_of_le hdigit.2,
        (Option.some.inj h).symm⟩
    · cases h
  · obtain ⟨first, hfind, rfl⟩ := Option.map_eq_some_iff.mp h
    rw [← Array.find?_toList] at hfind
    have hrange := List.find?_some hfind
    simp only [Bool.and_eq_true, decide_eq_true_eq] at hrange
    exact ⟨first, List.mem_of_find?_eq_some hfind, hrange.1, hrange.2, rfl⟩

theorem digitValue?_lt (h : digitValue? c = some n) : n < 10 := by
  obtain ⟨first, -, hlow, hhigh, rfl⟩ := exists_zero_of_digitValue? h
  omega

theorem isBlank_of_isDecimalDigit (h : isDecimalDigit c = true) : isBlank c = false := by
  obtain ⟨n, hn⟩ := Option.isSome_iff_exists.mp h
  obtain ⟨first, hfirst, hlow, hhigh, -⟩ := exists_zero_of_digitValue? hn
  rw [isBlank, CodePoint.within, ← Array.any_toList, List.any_eq_false]
  intro b hb hblank
  have hapart := zeroDigits_apart first hfirst b hb
  simp only [Bool.and_eq_true, decide_eq_true_eq] at hblank
  omega

theorem isDecimalDigit_of_isBlank (h : isBlank c = true) : isDecimalDigit c = false := by
  by_contra hdigit
  rw [isBlank_of_isDecimalDigit (eq_true_of_ne_false hdigit)] at h
  cases h

end Text

namespace Number

/-- The value of a digit of any script. -/
def digitOf (c : Char) : Nat := (Text.digitValue? c).getD 0

/-- The number that digits of any script denote. -/
def valueOf (cs : List Char) : Nat := ofDigits 10 (cs.map digitOf)

theorem foldl_ofDigits (base total : Nat) (digits : List Nat) :
    digits.foldl (fun total d => total * base + d) total =
      total * base ^ digits.length + ofDigits base digits := by
  induction digits generalizing total with
  | nil => simp [ofDigits]
  | cons d digits ih =>
    rw [ofDigits, List.foldl_cons, List.foldl_cons, ih, ih (0 * base + d), List.length_cons,
      Nat.pow_succ']
    ring

theorem valueOf_append (cs ds : List Char) :
    valueOf (cs ++ ds) = valueOf cs * 10 ^ ds.length + valueOf ds := by
  rw [valueOf, List.map_append, ofDigits, List.foldl_append, foldl_ofDigits, List.length_map]
  rfl

section Plain

variable {c : Char} {cs whole fraction : List Char} {n : Nat}

theorem digitChar_spec : ∀ n < 10, (Nat.digitChar n).isDigit = true ∧
    (Nat.digitChar n).toNat - 48 = n ∧ Text.isPlainBlank (Nat.digitChar n) = false := by
  decide

/-- A digit of ASCII is the one of its value. -/
theorem digitChar_of_isDigit (h : c.isDigit = true) :
    c.toNat - 48 < 10 ∧ Nat.digitChar (c.toNat - 48) = c := by
  simp only [Char.isDigit, Bool.and_eq_true, decide_eq_true_eq] at h
  have hlow : 48 ≤ c.toNat := h.1
  have hhigh : c.toNat ≤ 57 := h.2
  have hlt : c.toNat - 48 < 10 := by omega
  refine ⟨hlt, Char.toNat_inj.mp ?_⟩
  rw [Nat.toNat_digitChar_of_lt_ten hlt]
  omega

/-- The plain form of a digit is the digit of its value. -/
theorem plainChar?_of_isDecimalDigit (h : Text.isDecimalDigit c = true) :
    plainChar? c = some (Nat.digitChar (digitOf c)) := by
  obtain ⟨n, hn⟩ := Option.isSome_iff_exists.mp h
  rw [plainChar?, digitOf, hn]
  split
  · next hascii =>
    rw [Text.digitValue?, if_pos (by omega)] at hn
    split at hn
    · next hdigit =>
      cases hn
      rw [Option.getD_some, (digitChar_of_isDigit hdigit).2]
    · cases hn
  · rw [Text.isBlank_of_isDecimalDigit h]
    rfl

theorem plainChar_of_isDecimalDigit (h : Text.isDecimalDigit c = true) :
    (plainChar c).isDigit = true ∧ (plainChar c).toNat - 48 = digitOf c := by
  obtain ⟨n, hn⟩ := Option.isSome_iff_exists.mp h
  have hlt : digitOf c < 10 := by
    rw [digitOf, hn]
    exact Text.digitValue?_lt hn
  rw [plainChar, plainChar?_of_isDecimalDigit h, Option.getD_some]
  exact ⟨(digitChar_spec _ hlt).1, (digitChar_spec _ hlt).2.1⟩

/-- Characters with plain forms are made plain one by one. -/
theorem plainChars_eq_map (h : ∀ c ∈ cs, (plainChar? c).isSome = true) :
    plainChars cs = cs.map plainChar := by
  induction cs with
  | nil => rfl
  | cons c cs ih =>
    obtain ⟨hc, hcs⟩ := List.forall_mem_cons.mp h
    obtain ⟨plain, hplain⟩ := Option.isSome_iff_exists.mp hc
    rw [plainChars, hplain, List.map_cons, plainChar, hplain, ih hcs]
    rfl

theorem plainChar_of_ascii (h : (plainChar? c).isSome = true) (hascii : c.toNat < 128) :
    plainChar c = c := by
  obtain hlt | heq : c.toNat < 127 ∨ c.toNat = 127 := by omega
  · rw [plainChar, plainChar?, if_pos hlt]
    rfl
  · have hdelete : c = Char.ofNat 127 := Char.toNat_inj.mp heq
    subst hdelete
    exact absurd h (by decide +kernel)

theorem literalChars_ofList (h : ∀ c ∈ cs, (plainChar? c).isSome = true) :
    literalChars (String.ofList cs) = Text.trimBoth Text.isPlainBlank (cs.map plainChar) := by
  rw [literalChars, String.toList_ofList]
  split
  · next hascii =>
    have hsame : cs.map plainChar = cs := by
      conv_rhs => rw [← List.map_id cs]
      refine List.map_congr_left fun c hc => plainChar_of_ascii (h c hc) ?_
      simpa using List.all_eq_true.mp hascii c hc
    rw [hsame]
  · rw [plainChars_eq_map h]

theorem dropLowLines_eq_self {before : Bool} (h : '_' ∉ cs) : dropLowLines before cs = some cs := by
  induction cs generalizing before with
  | nil => rfl
  | cons c cs ih =>
    have hc : c ≠ '_' := fun heq => h (heq ▸ List.mem_cons_self)
    rw [dropLowLines, if_neg hc, ih fun hmem => h (List.mem_cons_of_mem c hmem)]
    · rfl
    · exact fun _ _ heq => (hc heq).elim

end Plain

section Scientific

variable {cs whole fraction tail : List Char}

theorem readScientific_digits (hne : whole ≠ []) (hwhole : ∀ c ∈ whole, c.isDigit = true)
    (hfraction : ∀ c ∈ fraction, c.isDigit = true)
    (htail : tail = '.' :: fraction ∨ tail = [] ∧ fraction = []) :
    readScientific (whole ++ tail) =
      some ⟨whole ++ fraction, -Int.ofNat fraction.length⟩ := by
  have hempty : whole.isEmpty = false := List.isEmpty_eq_false_iff.mpr hne
  obtain rfl | ⟨rfl, rfl⟩ := htail
  · have hpoint : takeDigits (whole ++ '.' :: fraction) = (whole, '.' :: fraction) :=
      Text.span_run hwhole (Text.endsRun_cons_iff.mpr rfl)
    have hend : takeDigits (fraction ++ []) = (fraction, []) :=
      Text.span_run hfraction Text.endsRun_nil
    rw [List.append_nil] at hend
    rw [readScientific, hpoint]
    simp only [hend, hempty, Bool.false_and, Bool.false_eq_true, if_false, takeExponent]
    rw [Int.zero_sub]
  · have hend : takeDigits (whole ++ []) = (whole, []) := Text.span_run hwhole Text.endsRun_nil
    rw [readScientific, hend]
    simp only [hempty, Bool.false_and, Bool.false_eq_true, if_false, takeExponent]
    rfl

theorem isPlainBlank_of_isDigit {c : Char} (h : c.isDigit = true) :
    Text.isPlainBlank c = false := by
  simp only [Char.isDigit, Bool.and_eq_true, decide_eq_true_eq] at h
  have hlow : 48 ≤ c.toNat := h.1
  have hne : c ≠ ' ' := by
    rintro rfl
    exact absurd hlow (by decide)
  have hhigh : ¬ c.toNat ≤ 13 := by omega
  simp [Text.isPlainBlank, hne, hhigh]

/-- A text that begins with a digit is no name, and has no sign. -/
theorem floatOfChars?_of_isDigit {c : Char} (hc : c.isDigit = true) :
    floatOfChars? (c :: cs) = (readScientific (c :: cs)).map fun s =>
      Binary64.ofDecimal false (decimalValue s.digits) s.exponent := by
  have hne : ∀ d ∈ ['-', '+', 'i', 'n'], c ≠ d := by
    rintro d hd rfl
    have hnone : ['-', '+', 'i', 'n'].all (!·.isDigit) = true := by decide
    have hnot := List.all_eq_true.mp hnone c hd
    rw [hc] at hnot
    cases hnot
  have hsign : takeSign (c :: cs) = (false, c :: cs) := by
    rw [takeSign]
    · exact fun rest heq => hne '-' (by decide) (List.cons.inj heq).1
    · exact fun rest heq => hne '+' (by decide) (List.cons.inj heq).1
  have hlower : c.toLower = c := by
    simp only [Char.isDigit, Bool.and_eq_true, decide_eq_true_eq] at hc
    delta Char.toLower
    rw [dif_neg]
    exact fun hupper => absurd (UInt32.le_trans hupper.1 hc.2) (by decide)
  have hword : ∀ word : String, String.ofList (lowered (c :: cs)) = word →
      word.toList.head? = some c := by
    rintro word rfl
    rw [String.toList_ofList, lowered, List.map_cons, List.head?_cons, hlower]
  rw [floatOfChars?, hsign]
  dsimp only
  split
  · next heq => exact (hne 'i' (by decide) (Option.some.inj (hword _ heq)).symm).elim
  · next heq => exact (hne 'i' (by decide) (Option.some.inj (hword _ heq)).symm).elim
  · next heq => exact (hne 'n' (by decide) (Option.some.inj (hword _ heq)).symm).elim
  · rfl

theorem decimalValue_map_plainChar (h : ∀ c ∈ cs, Text.isDecimalDigit c = true) :
    decimalValue (cs.map plainChar) = valueOf cs := by
  rw [decimalValue, valueOf, List.map_map]
  exact congrArg (ofDigits 10) (List.map_congr_left fun c hc =>
    (plainChar_of_isDecimalDigit (h c hc)).2)

/-- Digits of any script and points are read as their plain forms are. -/
theorem readFloat_of_marks {x : Binary64} (h : ∀ c ∈ cs, c = '.' ∨ Text.isDecimalDigit c = true)
    (hfloat : floatOfChars? (cs.map plainChar) = some x) : readFloat (String.ofList cs) = .ok x := by
  have hmarks : ∀ c ∈ cs.map plainChar, c = '.' ∨ c.isDigit = true := by
    intro c hc
    obtain ⟨d, hd, rfl⟩ := List.mem_map.mp hc
    obtain rfl | hdigit := h d hd
    · exact .inl (by decide +kernel)
    · exact .inr (plainChar_of_isDecimalDigit hdigit).1
  have hends : ∀ c ∈ cs.map plainChar, Text.isPlainBlank c = false := by
    intro c hc
    obtain rfl | hdigit := hmarks c hc
    · decide
    · exact isPlainBlank_of_isDigit hdigit
  have hline : '_' ∉ cs.map plainChar := fun hmem => by
    have := hmarks '_' hmem
    revert this
    decide
  rw [readFloat, literalChars_ofList, Text.trimBoth_eq_self, dropLowLines_eq_self hline,
    Option.bind_some, hfloat]
  · exact fun c hc => hends c (List.mem_of_mem_head? hc)
  · exact fun c hc => hends c (List.mem_reverse.mp (List.mem_of_mem_head? hc))
  · intro c hc
    obtain rfl | hdigit := h c hc
    · decide +kernel
    · rw [plainChar?_of_isDecimalDigit hdigit]
      rfl

/-- Digits of any script, with or without a point among them, denote the number of their values. -/
theorem readFloat_digits (hne : whole ≠ []) (hwhole : ∀ c ∈ whole, Text.isDecimalDigit c = true)
    (hfraction : ∀ c ∈ fraction, Text.isDecimalDigit c = true)
    (htail : tail = '.' :: fraction ∨ tail = [] ∧ fraction = []) :
    readFloat (String.ofList (whole ++ tail)) =
      .ok (Binary64.ofDecimal false (valueOf (whole ++ fraction)) (-Int.ofNat fraction.length)) := by
  have htail' : tail.map plainChar = '.' :: fraction.map plainChar ∨
      tail.map plainChar = [] ∧ fraction.map plainChar = [] := by
    obtain rfl | ⟨rfl, rfl⟩ := htail
    · exact .inl (congrArg (· :: fraction.map plainChar) (by decide +kernel))
    · exact .inr ⟨rfl, rfl⟩
  have hplain : ∀ {ds : List Char}, (∀ c ∈ ds, Text.isDecimalDigit c = true) →
      ∀ c ∈ ds.map plainChar, c.isDigit = true := by
    intro ds hds c hc
    obtain ⟨d, hd, rfl⟩ := List.mem_map.mp hc
    exact (plainChar_of_isDecimalDigit (hds d hd)).1
  have hread := readScientific_digits (List.map_eq_nil_iff.not.mpr hne) (hplain hwhole)
    (hplain hfraction) htail'
  rw [← List.map_append, ← List.map_append, List.length_map] at hread
  refine readFloat_of_marks ?_ ?_
  · intro c hc
    obtain hc | hc := List.mem_append.mp hc
    · exact .inr (hwhole c hc)
    · obtain rfl | ⟨rfl, -⟩ := htail
      · exact (List.mem_cons.mp hc).imp id (hfraction c)
      · cases hc
  · have hdigits : ∀ c ∈ whole ++ fraction, Text.isDecimalDigit c = true := fun c hc =>
      (List.mem_append.mp hc).elim (hwhole c) (hfraction c)
    cases whole with
    | nil => exact (hne rfl).elim
    | cons c rest =>
      have hc := (plainChar_of_isDecimalDigit (hwhole c List.mem_cons_self)).1
      rw [List.cons_append, List.map_cons] at hread ⊢
      rw [floatOfChars?_of_isDigit hc, hread, Option.map_some, decimalValue_map_plainChar hdigits]

end Scientific

section Parts

variable {c : Char} {cs rest : List Char} {x : Binary64}

/-- A character that floating-point literals hold: a digit, a point, a sign, the mark of an exponent or
a letter of a name. -/
def isFloatPart (c : Char) : Bool := c.isDigit || ".+-einfaty".toList.contains c.toLower

theorem isFloatPart_of_takeDigits (h : takeDigits cs = (rest, ds)) (hds : ∀ c ∈ ds, isFloatPart c = true) :
    ∀ c ∈ cs, isFloatPart c = true := by
  rw [takeDigits, List.span_eq_takeWhile_dropWhile] at h
  cases h
  intro c hc
  rw [← List.takeWhile_append_dropWhile (p := Char.isDigit) (l := cs)] at hc
  obtain hc | hc := List.mem_append.mp hc
  · simp [isFloatPart, List.mem_takeWhile_imp hc]
  · exact hds c hc

theorem isFloatPart_of_takeSign (h : ∀ c ∈ (takeSign cs).2, isFloatPart c = true) :
    ∀ c ∈ cs, isFloatPart c = true := by
  unfold takeSign at h
  split at h
  · exact List.forall_mem_cons.mpr ⟨by decide, h⟩
  · exact List.forall_mem_cons.mpr ⟨by decide, h⟩
  · exact h

theorem isFloatPart_of_takeExponent {exponent : Int} (h : takeExponent cs = some (exponent, [])) :
    ∀ c ∈ cs, isFloatPart c = true := by
  unfold takeExponent at h
  split at h
  · next c rest =>
    split at h
    · next hmark =>
      refine List.forall_mem_cons.mpr ⟨?_, isFloatPart_of_takeSign ?_⟩
      · simp only [Bool.or_eq_true, decide_eq_true_eq] at hmark
        obtain rfl | rfl := hmark <;> decide
      · obtain ⟨digits, tail, hdigits⟩ :
          ∃ digits tail, takeDigits (takeSign rest).2 = (digits, tail) := ⟨_, _, rfl⟩
        dsimp only at h
        rw [hdigits] at h
        cases digits with
        | nil => cases h
        | cons d digits =>
          cases h
          exact isFloatPart_of_takeDigits hdigits (List.forall_mem_nil _)
    · cases h
  · exact List.forall_mem_nil _

theorem isFloatPart_of_readScientific {s : Scientific} (h : readScientific cs = some s) :
    ∀ c ∈ cs, isFloatPart c = true := by
  obtain ⟨whole, after, hwhole⟩ : ∃ whole after, takeDigits cs = (whole, after) := ⟨_, _, rfl⟩
  refine isFloatPart_of_takeDigits hwhole ?_
  rw [readScientific, hwhole] at h
  dsimp only at h
  split at h
  · next tail =>
    obtain ⟨behind, rest, hbehind⟩ : ∃ behind rest, takeDigits tail = (behind, rest) := ⟨_, _, rfl⟩
    rw [hbehind] at h
    refine List.forall_mem_cons.mpr ⟨by decide, isFloatPart_of_takeDigits hbehind ?_⟩
    split at h
    · cases h
    · split at h
      · next hexponent => exact isFloatPart_of_takeExponent hexponent
      · cases h
  · split at h
    · cases h
    · split at h
      · next hexponent => exact isFloatPart_of_takeExponent hexponent
      · cases h

theorem isFloatPart_of_word {word : String} (hword : word.toList.all (".+-einfaty".toList.contains ·))
    (h : String.ofList (lowered cs) = word) : ∀ c ∈ cs, isFloatPart c = true := by
  subst h
  intro c hc
  rw [String.toList_ofList, lowered, List.all_map, List.all_eq_true] at hword
  rw [isFloatPart, Bool.or_eq_true]
  exact .inr (hword c hc)

/-- A floating-point literal holds no other characters. -/
theorem isFloatPart_of_floatOfChars? (h : floatOfChars? cs = some x) :
    ∀ c ∈ cs, isFloatPart c = true := by
  refine isFloatPart_of_takeSign ?_
  rw [floatOfChars?] at h
  dsimp only at h
  split at h
  · next hword => exact isFloatPart_of_word (by decide) hword
  · next hword => exact isFloatPart_of_word (by decide) hword
  · next hword => exact isFloatPart_of_word (by decide) hword
  · obtain ⟨s, hs, -⟩ := Option.map_eq_some_iff.mp h
    exact isFloatPart_of_readScientific hs

theorem mem_of_dropLowLines {before : Bool} {ds : List Char} (h : dropLowLines before cs = some ds) :
    ∀ c ∈ cs, c ≠ '_' → c ∈ ds := by
  induction before, cs using dropLowLines.induct generalizing ds with
  | case1 => exact fun _ hc => (List.not_mem_nil hc).elim
  | case2 before d rest hdigit ih =>
    rw [dropLowLines, if_pos hdigit] at h
    obtain ⟨rest', hrest, rfl⟩ := Option.map_eq_some_iff.mp h
    intro c hc hne
    obtain rfl | rfl | hc := by simpa using hc
    · exact (hne rfl).elim
    · exact List.mem_cons_self
    · exact List.mem_cons_of_mem _ (ih hrest c hc hne)
  | case3 before d rest hdigit =>
    rw [dropLowLines, if_neg hdigit] at h
    cases h
  | case4 before rest hnot =>
    rw [dropLowLines, if_pos rfl] at h
    · cases h
    · exact hnot
  | case5 before d rest hnot hd ih =>
    rw [dropLowLines, if_neg hd] at h
    · obtain ⟨rest', hrest, rfl⟩ := Option.map_eq_some_iff.mp h
      intro c hc hne
      obtain rfl | hc := List.mem_cons.mp hc
      · exact List.mem_cons_self
      · exact List.mem_cons_of_mem _ (ih hrest c hc hne)
    · exact hnot

theorem mem_plainChars (hc : c ∈ cs) (hascii : c.toNat < 127) :
    c ∈ plainChars cs ∨ '?' ∈ plainChars cs := by
  induction cs with
  | nil => cases hc
  | cons d cs ih =>
    rw [plainChars]
    split
    · next plain hplain =>
      obtain rfl | hc := List.mem_cons.mp hc
      · rw [plainChar?, if_pos hascii] at hplain
        cases hplain
        exact .inl List.mem_cons_self
      · exact (ih hc).imp (List.mem_cons_of_mem _) (List.mem_cons_of_mem _)
    · exact .inr List.mem_cons_self

/-- A text that holds another character of ASCII, blanks apart, is no floating-point literal. -/
theorem readFloat_of_not_isFloatPart {text : String} (hc : c ∈ text.toList) (hascii : c.toNat < 127)
    (hblank : Text.isPlainBlank c = false) (hline : c ≠ '_') (hpart : isFloatPart c = false) :
    readFloat text = .error (.notFloat text) := by
  have hnone : ∀ d ∈ literalChars text, d ≠ '_' → isFloatPart d = false →
      readFloat text = .error (.notFloat text) := by
    intro d hd hne hbad
    rw [readFloat]
    cases hfound : (dropLowLines false (literalChars text)).bind floatOfChars? with
    | none => rfl
    | some x =>
      obtain ⟨cs, hcs, hx⟩ := Option.bind_eq_some_iff.mp hfound
      rw [isFloatPart_of_floatOfChars? hx d (mem_of_dropLowLines hcs d hd hne)] at hbad
      cases hbad
  have hkept : c ∈ literalChars text ∨ '?' ∈ literalChars text := by
    rw [literalChars]
    split
    · exact .inl (Text.mem_trimBoth hc hblank)
    · obtain hmem | hmem := mem_plainChars hc hascii
      · exact .inl (Text.mem_trimBoth hmem hblank)
      · exact .inr (Text.mem_trimBoth hmem (by decide))
  obtain hmem | hmem := hkept
  · exact hnone c hmem hline hpart
  · exact hnone '?' hmem (by decide) (by decide)

end Parts

end Number

end SettingText
