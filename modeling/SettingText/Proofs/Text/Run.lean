import SettingText.Text.Blank
import Mathlib.Data.List.TakeDrop
import Mathlib.Data.List.TakeWhile

/-!
Runs: the longest beginning of a list whose elements are all of one class. A list is cut at the end of
its run in one way only.
-/

namespace SettingText.Text

variable {α : Type} {p : α → Bool} {front rest cs : List α}

/-- A run of the class is over where this begins. -/
def EndsRun (p : α → Bool) (rest : List α) : Prop := ∀ c ∈ rest.head?, p c = false

theorem endsRun_nil : EndsRun p [] := by simp [EndsRun]

theorem endsRun_cons_iff {c : α} : EndsRun p (c :: rest) ↔ p c = false := by simp [EndsRun]

theorem EndsRun.append (h : EndsRun p front) (hne : front ≠ []) (rest : List α) :
    EndsRun p (front ++ rest) := by
  cases front with
  | nil => exact (hne rfl).elim
  | cons c front => exact endsRun_cons_iff.mpr (endsRun_cons_iff.mp h)

theorem endsRun_dropWhile (p : α → Bool) (cs : List α) : EndsRun p (cs.dropWhile p) := by
  intro c hc
  have hhead := List.head?_dropWhile_not p cs
  rw [hc] at hhead
  simpa using hhead

theorem takeWhile_run (hfront : ∀ c ∈ front, p c = true) (hrest : EndsRun p rest) :
    (front ++ rest).takeWhile p = front := by
  rw [List.takeWhile_append_of_pos hfront]
  cases rest with
  | nil => simp
  | cons c rest => simp [endsRun_cons_iff.mp hrest]

theorem dropWhile_run (hfront : ∀ c ∈ front, p c = true) (hrest : EndsRun p rest) :
    (front ++ rest).dropWhile p = rest := by
  rw [List.dropWhile_append_of_pos hfront]
  cases rest with
  | nil => rfl
  | cons c rest => rw [List.dropWhile_cons_of_neg (by simp [endsRun_cons_iff.mp hrest])]

theorem span_run (hfront : ∀ c ∈ front, p c = true) (hrest : EndsRun p rest) :
    (front ++ rest).span p = (front, rest) := by
  rw [List.span_eq_takeWhile_dropWhile, takeWhile_run hfront hrest, dropWhile_run hfront hrest]

section Trim

variable {p : Char → Bool} {front cs back : List Char}

/-- What is trimmed is what stands between the two runs. -/
theorem trimBoth_run (hfront : ∀ c ∈ front, p c = true) (hback : ∀ c ∈ back, p c = true)
    (hstart : EndsRun p cs) (hend : EndsRun p cs.reverse) :
    trimBoth p (front ++ (cs ++ back)) = cs := by
  cases cs with
  | nil =>
    have hall : (front ++ back).dropWhile p = [] := by
      rw [List.dropWhile_eq_nil_iff]
      intro c hc
      exact (List.mem_append.mp hc).elim (hfront c) (hback c)
    rw [List.nil_append, trimBoth, hall]
    rfl
  | cons c cs =>
    have hdrop : (front ++ (c :: cs ++ back)).dropWhile p = c :: cs ++ back :=
      dropWhile_run hfront (endsRun_cons_iff.mpr (endsRun_cons_iff.mp hstart))
    rw [trimBoth, hdrop, dropEndWhile, List.reverse_append,
      dropWhile_run (fun d hd => hback d (List.mem_reverse.mp hd)) hend, List.reverse_reverse]

theorem trimBoth_eq_self (hstart : EndsRun p cs) (hend : EndsRun p cs.reverse) :
    trimBoth p cs = cs := by
  have h := trimBoth_run (List.forall_mem_nil _) (List.forall_mem_nil _) hstart hend
  rwa [List.nil_append, List.append_nil] at h

/-- A list is what is trimmed of it, between two runs. -/
theorem exists_trimBoth (p : Char → Bool) (cs : List Char) :
    ∃ front back, cs = front ++ (trimBoth p cs ++ back) ∧ (∀ c ∈ front, p c = true) ∧
      ∀ c ∈ back, p c = true := by
  obtain ⟨back, hback, hall⟩ := dropEndWhile_append p (cs.dropWhile p)
  refine ⟨cs.takeWhile p, back, ?_, fun _ hc => List.mem_takeWhile_imp hc, hall⟩
  rw [trimBoth, ← hback, List.takeWhile_append_dropWhile]

theorem endsRun_reverse_trimBoth (p : Char → Bool) (cs : List Char) :
    EndsRun p (trimBoth p cs).reverse := by
  rw [trimBoth, dropEndWhile, List.reverse_reverse]
  exact endsRun_dropWhile p _

theorem endsRun_trimBoth (p : Char → Bool) (cs : List Char) : EndsRun p (trimBoth p cs) := by
  obtain ⟨back, hback, -⟩ := dropEndWhile_append p (cs.dropWhile p)
  have hends := endsRun_dropWhile p cs
  rw [hback] at hends
  rw [trimBoth]
  cases hkept : dropEndWhile p (cs.dropWhile p) with
  | nil => exact endsRun_nil
  | cons c kept =>
    rw [hkept] at hends
    exact endsRun_cons_iff.mpr (endsRun_cons_iff.mp hends)

theorem mem_trimBoth {c : Char} (hc : c ∈ cs) (hp : p c = false) : c ∈ trimBoth p cs := by
  obtain ⟨front, back, hcs, hfront, hback⟩ := exists_trimBoth p cs
  rw [hcs, List.mem_append, List.mem_append] at hc
  obtain hc | hc | hc := hc
  · rw [hfront c hc] at hp
    cases hp
  · exact hc
  · rw [hback c hc] at hp
    cases hp

end Trim

end SettingText.Text
