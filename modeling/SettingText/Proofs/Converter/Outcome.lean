import SettingText.Proofs.Converter.Steady

/-!
The outcome of a converter for a setting, which no earlier conversion can change as long as the
editors in it answer by the latest text only. Each kind of converter has one equation, in which the
outcomes of the converters within it stand for their work.
-/

namespace SettingText.Converter

/-- The answers of every editor in the converter depend on the latest text only. -/
def IsPure : Converter → Prop
  | editor _ inUse => ∀ e, inUse = some e → e.kind.IsPure
  | collection _ inner _ => inner.IsPure
  | entry key value => key.IsPure ∧ value.IsPure
  | map entries => entries.IsPure
  | optional base => base.IsPure
  | array _ sequence => sequence.IsPure
  | _ => True

theorem isPure_collection {container : Container} {inner : Converter} {finish : Finish} :
    (collection container inner finish).IsPure ↔ inner.IsPure := .rfl

theorem isPure_map {entries : Converter} : (map entries).IsPure ↔ entries.IsPure := .rfl

theorem isPure_array {element : Descriptor} {sequence : Converter} :
    (array element sequence).IsPure ↔ sequence.IsPure := .rfl

/-- What a converter makes of a setting where no editor was given anything. -/
def outcome (u : Universe) (c : Converter) (value : Option Setting) : Except Fault Datum :=
  (c.convert u value).result

variable {u : Universe}

open Work

/-- An editor answers with the text on top of its sheet. -/
theorem on_edited (e : EditorInUse) (target : ClassRef) (setting : Setting) (raw : String)
    (b : Bench) :
    (edited u target (some e) setting raw).on b =
      judged u target setting raw (e.kind.answer (some raw :: b.sheet e.number)) := by
  rw [← Bench.sheet_give_same]
  rfl

theorem result_edited (e : EditorInUse) (target : ClassRef) (setting : Setting) (raw : String) :
    (edited u target (some e) setting raw).result =
      judged u target setting raw (e.kind.answer [some raw]) :=
  on_edited e target setting raw .empty

theorem steady_edited {inUse : Option EditorInUse} (h : ∀ e, inUse = some e → e.kind.IsPure)
    (target : ClassRef) (setting : Setting) (raw : String) :
    (edited u target inUse setting raw).Steady := by
  cases inUse with
  | none => exact steady_throw _
  | some e =>
    intro b
    rw [on_edited, result_edited, h e rfl]

theorem steady_gather {convert : String → Work Datum} (h : ∀ text, (convert text).Steady)
    (container : Container) (finish : Finish) (texts : List String) :
    (gather convert container finish texts).Steady := by
  cases container with
  | sequence first => exact (Steady.mapM h texts).bind fun _ => steady_ofCause _
  | set =>
    refine (Steady.foldlM (fun items text => ?_) texts []).bind fun _ => steady_ofCause _
    exact (h text).bind fun _ => steady_ofCause _
  | unfit typeName => exact steady_throw _

theorem steady_mapOfItems (d : Datum) : (mapOfItems d).Steady := by
  cases d with
  | nothing => exact steady_pure _
  | _ => exact (steady_ofCause _).bind fun _ => steady_pure _

theorem steady_tupleOfItems (d : Datum) : (tupleOfItems d).Steady := by
  cases d with
  | nothing => exact steady_pure _
  | _ => exact (steady_ofCause _).bind fun _ => steady_pure _

theorem convert_editor (target : ClassRef) (inUse : Option EditorInUse) (value : Option Setting) :
    convert u (.editor target inUse) value =
      match present? value with
      | none => return .nothing
      | some (setting, raw) => edited u target inUse setting raw :=
  rfl

theorem convert_collection (container : Container) (inner : Converter) (finish : Finish)
    (value : Option Setting) :
    convert u (.collection container inner finish) value =
      match present? value with
      | none => return .nothing
      | some (setting, raw) =>
        gather (fun item => inner.convert u (some (setting.child (some item)))) container finish
          (itemTexts raw) :=
  rfl

theorem convert_entry (key item : Converter) (value : Option Setting) :
    convert u (.entry key item) value =
      match present? value with
      | none => return .nothing
      | some (setting, raw) => do
        let k ← key.convert u (some (setting.child (some (entryTexts raw).1)))
        let v ← item.convert u (some (setting.child (entryTexts raw).2))
        return .entry k v :=
  rfl

theorem convert_optional (base : Converter) (value : Option Setting) :
    convert u (.optional base) value =
      match present? value with
      | none => return .nothing
      | some _ => base.convert u value :=
  rfl

/-- A conversion with editors that answer by the latest text gives the same on every bench. -/
theorem IsPure.steady {c : Converter} (h : c.IsPure) (value : Option Setting) :
    (c.convert u value).Steady := by
  induction c generalizing value with
  | missing => exact steady_throw _
  | text | truth => exact steady_pure _
  | level | moment | date | clock | uri | unparsed | function | className | factory =>
    exact steady_ofExcept _
  | editor target inUse =>
    rw [convert_editor]
    split
    · exact steady_pure _
    · exact steady_edited h _ _ _
  | collection container inner finish ih =>
    rw [convert_collection]
    split
    · exact steady_pure _
    · exact steady_gather (fun _ => ih h _) _ _ _
  | entry key value ihk ihv =>
    rw [convert_entry]
    split
    · exact steady_pure _
    · exact (ihk h.1 _).bind fun _ => (ihv h.2 _).bind fun _ => steady_pure _
  | map entries ih => exact (ih h _).bind steady_mapOfItems
  | optional base ih =>
    rw [convert_optional]
    split
    · exact steady_pure _
    · exact ih h _
  | array element sequence ih => exact (ih h _).bind steady_tupleOfItems

/-- Whatever the editors were given before, a conversion gives its outcome. -/
theorem IsPure.on_eq_outcome {c : Converter} (h : c.IsPure) (value : Option Setting) (b : Bench) :
    (c.convert u value).on b = c.outcome u value :=
  h.steady value b

theorem present?_of_raw {s : Setting} {raw : String} (h : s.raw = some raw) :
    present? (some s) = some (s, raw) := by
  simp [present?, h]

theorem present?_of_absent {s : Setting} (h : s.raw = none) : present? (some s) = none := by
  simp [present?, h]

theorem present?_eq_some {value : Option Setting} {s : Setting} {raw : String} :
    present? value = some (s, raw) ↔ value = some s ∧ s.raw = some raw := by
  cases value with
  | none => simp [present?]
  | some t =>
    simp only [present?, Option.bind_some, Option.map_eq_some_iff, Prod.mk.injEq, Option.some.injEq]
    constructor
    · rintro ⟨_, h, rfl, rfl⟩
      exact ⟨rfl, h⟩
    · rintro ⟨rfl, h⟩
      exact ⟨raw, h, rfl, rfl⟩

variable {s : Setting} {raw : String} {value : Option Setting}

theorem outcome_text (value : Option Setting) :
    outcome u .text value = .ok (((rawOf value).map .text).getD .nothing) :=
  rfl

theorem outcome_truth (value : Option Setting) : outcome u .truth value = .ok (truthOf value) := rfl

theorem outcome_level (value : Option Setting) :
    outcome u .level value =
      parsedBy "LogLevel" (fun raw => ((LogLevel.read raw).map .level).mapError .level) value :=
  rfl

theorem parsed_of_absent {target : Option String} {parse : String → Except Fault Datum}
    (h : present? value = none) : parsed target parse value = .ok .nothing := by
  rw [parsed, h]

/-- A parser is given the text of a setting, and a cause that it fails with is attributed to it. -/
theorem parsedBy_of_raw (target : String) (parse : String → Except Cause Datum) (h : s.raw = some raw) :
    parsedBy target parse (some s) = (parse raw).mapError (Fault.ofParse s raw (some target)) := by
  rw [parsedBy, parsed, present?_of_raw h]
  dsimp only
  cases parse raw <;> rfl

theorem outcome_moment (regions : String → Option Calendar.Region) (h : s.raw = some raw) :
    outcome u (.moment regions) (some s) =
      ((readMoment regions raw).map .moment).mapError (Fault.ofParse s raw (some "datetime")) :=
  parsedBy_of_raw _ _ h

theorem outcome_editor_absent (target : ClassRef) (inUse : Option EditorInUse)
    (h : present? value = none) : outcome u (.editor target inUse) value = .ok .nothing := by
  rw [outcome, convert_editor, h]
  rfl

/-- An editor in use judges the text as if it were the first one it is given. -/
theorem outcome_editor (target : ClassRef) (e : EditorInUse) (h : s.raw = some raw) :
    outcome u (.editor target (some e)) (some s) =
      judged u target s raw (e.kind.answer [some raw]) := by
  rw [outcome, convert_editor, present?_of_raw h]
  exact result_edited e target s raw

theorem outcome_collection_absent (container : Container) (inner : Converter) (finish : Finish)
    (h : present? value = none) :
    outcome u (.collection container inner finish) value = .ok .nothing := by
  rw [outcome, convert_collection, h]
  rfl

theorem outcome_entry_absent (key item : Converter) (h : present? value = none) :
    outcome u (.entry key item) value = .ok .nothing := by
  rw [outcome, convert_entry, h]
  rfl

theorem outcome_optional_absent (base : Converter) (h : present? value = none) :
    outcome u (.optional base) value = .ok .nothing := by
  rw [outcome, convert_optional, h]
  rfl

/-- A list gathers the outcomes of its fragments from left to right, and is finished at the end. -/
theorem outcome_sequence {inner : Converter} (hp : inner.IsPure) (first : Nat → List Datum)
    (finish : Finish) (h : s.raw = some raw) :
    outcome u (.collection (.sequence first) inner finish) (some s) = (do
      let items ← (itemTexts raw).mapM fun text => inner.outcome u (some (s.child (some text)))
      (finish.apply false (first (itemTexts raw).length ++ items)).mapError .stray) := by
  rw [outcome, convert_collection, present?_of_raw h]
  simp only [gather]
  rw [result_bind (Steady.mapM (fun _ => hp.steady _) _) fun _ => steady_ofCause _,
    result_mapM fun _ => hp.steady _]
  rfl

/-- A set takes the outcome of each fragment before the next one is converted. -/
theorem outcome_set {inner : Converter} (hp : inner.IsPure) (finish : Finish)
    (h : s.raw = some raw) :
    outcome u (.collection .set inner finish) (some s) = (do
      let items ← (itemTexts raw).foldlM (fun items text => do
        (Datum.addItem items (← inner.outcome u (some (s.child (some text))))).mapError .stray) []
      (finish.apply true items).mapError .stray) := by
  have hstep : ∀ items text, (inner.convert u (some (s.child (some text))) >>= fun d =>
      ofCause (Datum.addItem items d)).Steady := fun _ _ =>
    (hp.steady _).bind fun _ => steady_ofCause _
  rw [outcome, convert_collection, present?_of_raw h]
  simp only [gather]
  rw [result_bind (Steady.foldlM hstep _ _) fun _ => steady_ofCause _, result_foldlM hstep]
  simp only [result_bind (hp.steady _) fun _ => steady_ofCause _, result_ofCause]
  rfl

/-- The key of an entry is converted before the value. -/
theorem outcome_entry {key item : Converter} (hk : key.IsPure) (hv : item.IsPure)
    (h : s.raw = some raw) :
    outcome u (.entry key item) (some s) = (do
      let k ← key.outcome u (some (s.child (some (entryTexts raw).1)))
      let v ← item.outcome u (some (s.child (entryTexts raw).2))
      return .entry k v) := by
  rw [outcome, convert_entry, present?_of_raw h]
  dsimp only
  rw [result_bind (hk.steady _) fun _ => (hv.steady _).bind fun _ => steady_pure _]
  congr 1
  funext k
  rw [result_bind (hv.steady _) fun _ => steady_pure _]
  rfl

theorem outcome_map {entries : Converter} (hp : entries.IsPure) :
    outcome u (.map entries) value =
      entries.outcome u value >>= fun d => (mapOfItems d).result := by
  exact result_bind (hp.steady _) steady_mapOfItems

theorem outcome_array {sequence : Converter} (hp : sequence.IsPure) (element : Descriptor) :
    outcome u (.array element sequence) value =
      sequence.outcome u value >>= fun d => (tupleOfItems d).result := by
  exact result_bind (hp.steady _) steady_tupleOfItems

/-- A map of the items of a collection is nothing where the collection is. -/
theorem outcome_map_absent {inner : Converter} (hp : inner.IsPure) (container : Container)
    (finish : Finish) (h : present? value = none) :
    outcome u (.map (.collection container inner finish)) value = .ok .nothing := by
  rw [outcome_map (isPure_collection.mpr hp), outcome_collection_absent _ _ _ h]
  rfl

/-- An array of the items of a collection is nothing where the collection is. -/
theorem outcome_array_absent {inner : Converter} (hp : inner.IsPure) (element : Descriptor)
    (container : Container) (finish : Finish) (h : present? value = none) :
    outcome u (.array element (.collection container inner finish)) value = .ok .nothing := by
  rw [outcome_array (isPure_collection.mpr hp), outcome_collection_absent _ _ _ h]
  rfl

theorem outcome_optional (base : Converter) (h : s.raw = some raw) :
    outcome u (.optional base) (some s) = base.outcome u (some s) := by
  rw [outcome, convert_optional, present?_of_raw h]
  rfl

end SettingText.Converter
