import SettingText.Calendar.Iso
import SettingText.Proofs.Number.Literal

/-!
The octets of texts. Characters of ASCII have one octet each, every other character begins with a greater
one, and numbers that are filled up with zeros are read back from their octets.
-/

namespace SettingText.Calendar.Iso

variable {c : Char} {cs : List Char} {text : String}

section Octets

theorem get!_eq (bytes : ByteArray) (i : Nat) (h : i < bytes.data.toList.length) :
    bytes.get! i = bytes.data.toList[i] := by
  obtain ⟨data⟩ := bytes
  change data[i]! = _
  rw [getElem!_pos data i h, Array.getElem_toList]

theorem toList_loop (bytes : ByteArray) (i : Nat) (before : List UInt8) :
    ByteArray.toList.loop bytes i before = before.reverse ++ bytes.data.toList.drop i := by
  induction i, before using ByteArray.toList.loop.induct bytes with
  | case1 i before h ih =>
    have hlt : i < bytes.data.toList.length := h
    rw [ByteArray.toList.loop, if_pos h, ih, List.drop_eq_getElem_cons hlt, List.reverse_cons,
      List.append_assoc, get!_eq bytes i hlt]
    rfl
  | case2 i before h =>
    have hle : bytes.data.toList.length ≤ i := Nat.not_lt.mp h
    rw [ByteArray.toList.loop, if_neg h, List.drop_eq_nil_of_le hle, List.append_nil]

/-- The octets of a text are those of its characters. -/
theorem octets_eq (text : String) : octets text = text.toList.flatMap String.utf8EncodeChar := by
  conv_lhs => rw [← String.ofList_toList (s := text)]
  rw [octets, String.toUTF8, String.toByteArray_ofList, List.utf8Encode, ByteArray.toList, toList_loop,
    List.toList_data_toByteArray]
  rfl

theorem utf8EncodeChar_of_ascii (h : c.toNat < 128) : String.utf8EncodeChar c = [code c] := by
  have hascii : c.val.toNat ≤ 127 := Nat.le_of_lt_succ h
  unfold String.utf8EncodeChar
  simp only [if_pos hascii]
  rfl

/-- The first octet of another character is none of ASCII. -/
theorem exists_utf8EncodeChar (h : 128 ≤ c.toNat) :
    ∃ first rest, String.utf8EncodeChar c = first :: rest ∧ 128 ≤ first.toNat := by
  have hother : ¬ c.val.toNat ≤ 127 := Nat.not_le.mpr h
  unfold String.utf8EncodeChar
  simp only [if_neg hother]
  split_ifs <;>
  · refine ⟨_, _, rfl, ?_⟩
    rw [UInt8.toNat_ofNat']
    omega

theorem octets_of_ascii (h : ∀ c ∈ text.toList, c.toNat < 128) :
    octets text = text.toList.map code := by
  rw [octets_eq]
  generalize text.toList = cs at h
  induction cs with
  | nil => rfl
  | cons c cs ih =>
    obtain ⟨hc, hcs⟩ := List.forall_mem_cons.mp h
    rw [List.flatMap_cons, utf8EncodeChar_of_ascii hc, ih hcs, List.map_cons]
    rfl

end Octets

section Digits

/-- A number in as many octets, filled up with zeros. -/
def written (width n : Nat) : Octets := (Date.padded width n).toList.map code

variable {octet : UInt8} {width n soFar : Nat} {rest : Octets}

theorem digit?_code_digitChar : ∀ n < 10, digit? (code (Nat.digitChar n)) = some n := by decide

theorem digit?_code (h : c.isDigit = true) : digit? (code c) = some (c.toNat - 48) := by
  obtain ⟨hlt, hchar⟩ := Number.digitChar_of_isDigit h
  have hdigit := digit?_code_digitChar _ hlt
  rwa [hchar] at hdigit

theorem digits_map_code (h : ∀ c ∈ cs, c.isDigit = true) (soFar : Nat) (rest : Octets) :
    digits soFar cs.length (cs.map code ++ rest) =
      some (soFar * 10 ^ cs.length + Number.decimalValue cs, rest) := by
  induction cs generalizing soFar with
  | nil => simp [digits, Number.decimalValue, Number.ofDigits]
  | cons c cs ih =>
    obtain ⟨hc, hcs⟩ := List.forall_mem_cons.mp h
    have hvalue : Number.decimalValue (c :: cs) =
        (c.toNat - 48) * 10 ^ cs.length + Number.decimalValue cs := by
      rw [Number.decimalValue, List.map_cons, Number.ofDigits, List.foldl_cons, Number.foldl_ofDigits,
        List.length_map, Nat.zero_mul, Nat.zero_add, Number.decimalValue]
    rw [List.map_cons, List.cons_append, List.length_cons, digits, digit?_code hc, Option.bind_some,
      ih hcs, hvalue, Nat.pow_succ']
    congr 2
    ring

theorem decimalValue_toDigits (n : Nat) : Number.decimalValue (Nat.toDigits 10 n) = n := by
  have hvalue := Nat.ofDigitChars_toDigits (b := 10) (n := n) (by decide) (by decide)
  simp only [Nat.ofDigitChars, Nat.mul_comm 10] at hvalue
  rw [Number.decimalValue, Number.ofDigits, List.foldl_map]
  exact hvalue

theorem decimalValue_zeros (count : Nat) (cs : List Char) :
    Number.decimalValue (List.replicate count '0' ++ cs) = Number.decimalValue cs := by
  induction count with
  | zero => rfl
  | succ count ih =>
    rw [← ih, List.replicate_succ, List.cons_append]
    rfl

theorem isDigit_of_mem_padded (hc : c ∈ (Date.padded width n).toList) : c.isDigit = true := by
  rw [Date.padded, String.toList_ofList] at hc
  obtain hc | hc := List.mem_append.mp hc
  · rw [List.eq_of_mem_replicate hc]
    rfl
  · exact Nat.isDigit_of_mem_toDigits (by decide) (by decide) hc

theorem octets_padded (width n : Nat) : octets (Date.padded width n) = written width n := by
  refine octets_of_ascii fun c hc => ?_
  have hdigit := isDigit_of_mem_padded hc
  simp only [Char.isDigit, Bool.and_eq_true, decide_eq_true_eq] at hdigit
  exact Nat.lt_of_le_of_lt hdigit.2 (by decide)

theorem digit?_of_mem_written (h : octet ∈ written width n) :
    (digit? octet).isSome = true := by
  obtain ⟨c, hc, rfl⟩ := List.mem_map.mp h
  rw [digit?_code (isDigit_of_mem_padded hc)]
  rfl

theorem length_written (h : n < 10 ^ width) (hwidth : 0 < width) : (written width n).length = width := by
  have hlength := (Nat.length_toDigits_le_iff (b := 10) (by decide) hwidth).mpr h
  rw [written, List.length_map, Date.padded, String.toList_ofList, List.length_append,
    List.length_replicate]
  omega

/-- A number that is written with as many digits is read back. -/
theorem digits_written (h : n < 10 ^ width) (hwidth : 0 < width) (rest : Octets) :
    digits 0 width (written width n ++ rest) = some (n, rest) := by
  have hlength := length_written h hwidth
  rw [written, List.length_map] at hlength
  have hvalue : Number.decimalValue (Date.padded width n).toList = n := by
    rw [Date.padded, String.toList_ofList, decimalValue_zeros, decimalValue_toDigits]
  have hdigits : ∀ c ∈ (Date.padded width n).toList, c.isDigit = true := fun _ => isDigit_of_mem_padded
  have hread := digits_map_code hdigits 0 rest
  rw [hlength, hvalue, Nat.zero_mul, Nat.zero_add] at hread
  exact hread

end Digits

end SettingText.Calendar.Iso
