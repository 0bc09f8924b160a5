import SettingText.Classes.Own
import SettingText.Outcome.Basic
import SettingText.Proofs.Converter.Clash
import SettingText.Proofs.Datum.Plain
import SettingText.Proofs.Nesting.Basic

/-!
The standard registry and the hierarchy of conversion errors: a conversion leaves it exactly at a
clash, and an outcome is told exactly when there is no clash and the value has a plain form.
-/

namespace SettingText

theorem Fault.isConversionError_of_isMalformed (fault : Fault) (h : fault.isMalformed = true) :
    fault.isConversionError = true := by
  cases fault with
  | malformed => rfl
  | _ => cases h

theorem Fault.reports_of_isMalformed (fault : Fault) (h : fault.isMalformed = true) :
    Outcome.reports fault = true := by
  cases fault with
  | malformed => rfl
  | _ => cases h

namespace Registry

variable {u : Universe} {r : Registry}

/-- The converters that the standard registry builds are of the kinds that come with the program. -/
theorem own_standard (u : Universe) : (standard u).catalogue.Keeps Converter.Own where
  registered hc := by
    obtain ⟨entry, hentry, _, rfl⟩ := registered_standard (Option.filter_eq_some_iff.mp hc).1
    simp only [builtinScalars, List.mem_cons, List.not_mem_nil, or_false] at hentry
    rcases hentry with rfl | rfl | rfl | rfl | rfl | rfl | rfl | rfl <;> trivial
  edited {c kind} hkind := by
    have hstandard : EditorTable.standard.find? (standard u).classes c = some kind := hkind
    obtain ⟨c', _, hat⟩ := List.exists_of_findSome?_eq_some hstandard
    simp only [EditorTable.at?, EditorTable.standard, List.find?_singleton] at hat
    split at hat
    · cases hat
      rintro e he
      cases he
      exact ⟨EditorKind.isPure_reading _ _, fun _ _ => isParseError_of_durationEditor⟩
    · cases hat
  offered {c offer} hoffer := by
    have hclass : Offer.ofClass u c = some offer := hoffer
    obtain ⟨maker, _, rfl⟩ := Option.map_eq_some_iff.mp hclass
    trivial
  className _ := trivial
  optional hbase := hbase
  array hinner := ⟨⟨hinner, .inl ⟨_, List.mem_cons_self⟩⟩, rfl, rfl⟩
  entry hkey hvalue := ⟨hkey, hvalue⟩
  map hkey hvalue := ⟨⟨⟨hkey, hvalue⟩, .inr ⟨rfl, rfl, trivial⟩⟩, rfl, rfl, trivial⟩
  collection hc hinner := ⟨hinner, .inl ⟨_, hc⟩⟩

section

variable {α : Type} {op : String} {d : Descriptor} {reports : Fault → Bool} {work : RegistryM α}
  {succeed : α → RegistryM Outcome} {r r' : Registry}

/-- Work that succeeds is followed by what is to be done then. -/
theorem run_outcomeOf_of_ok {x : α} (h : work.run.run r = (.ok x, r')) :
    (outcomeOf op d reports work succeed).run.run r = (succeed x).run.run r' := by
  rw [outcomeOf, run_bind, run_get]
  dsimp only
  rw [h]
  dsimp only
  rw [run_bind, run_set]

/-- Work that fails leaves the registry as it does, and its failure is told or passes through. -/
theorem run_outcomeOf_of_error {fault : Fault} (h : work.run.run r = (.error fault, r')) :
    (outcomeOf op d reports work succeed).run.run r =
      (if reports fault then .ok (.failed op d fault) else .error fault, r') := by
  rw [outcomeOf, run_bind, run_get]
  dsimp only
  rw [h]
  dsimp only
  rw [run_bind, run_set]
  dsimp only
  split <;> rfl

end

/-- What trying a conversion answers, given what the conversion answers. -/
theorem answer_tryConvert (op : String) (value : Option Setting) (d : Descriptor) :
    answer (tryConvert op value d) r =
      match answer (convert value d) r with
      | .ok x => (x.plain.map fun plain => .success op d "value" plain).mapError .stray
      | .error fault =>
        if Outcome.reports fault then .ok (.failed op d fault) else .error fault := by
  rw [answer, answer, tryConvert]
  rcases h : (convert value d).run.run r with ⟨outcome, r'⟩
  cases outcome with
  | ok x =>
    rw [run_outcomeOf_of_ok h]
    dsimp only
    cases x.plain <;> rfl
  | error fault => rw [run_outcomeOf_of_error h]

/-- Converting to a type that resolves is the work of the converter handed out for it, which in the
standard registry is of the kinds that come with the program. -/
theorem Reached.answer_convert_held (hr : r.Reached)
    (hk : r.catalogue = (standard u).catalogue) {d : Descriptor} {held : Held}
    (hd : answer (resolve d) r = .ok held) (value : Option Setting) :
    answer (convert value d) r = held.converter.outcome r.classes value ∧ held.converter.Own := by
  obtain ⟨c, hbuild, hlike⟩ := hr.build_of_resolves hd
  have hown := hlike.symm.own ((own_standard u).build (hk ▸ hbuild))
  rw [hr.answer_convert, Catalogue.outcome, hbuild]
  exact ⟨(hlike.outcome_eq hown.isPure value).symm, hown⟩

/-- Trying a conversion tells an outcome when what goes wrong is reported, and what it gives has a plain
form. -/
theorem answer_tryConvert_isOk_iff (op : String) (value : Option Setting) (d : Descriptor) :
    (∃ outcome, answer (tryConvert op value d) r = .ok outcome) ↔
      (∀ fault, answer (convert value d) r = .error fault → Outcome.reports fault = true) ∧
        ∀ x, answer (convert value d) r = .ok x → ¬x.Unplain := by
  rw [answer_tryConvert]
  cases answer (convert value d) r with
  | ok x =>
    have hplain := Datum.exists_plain_iff (d := x)
    simp only [reduceCtorEq, false_implies, implies_true, true_and, Except.ok.injEq, forall_eq',
      ← hplain]
    cases x.plain with
    | ok plain => exact ⟨fun _ => ⟨plain, rfl⟩, fun _ => ⟨_, rfl⟩⟩
    | error cause => exact iff_of_false (by simp [Except.map, Except.mapError]) (by simp)
  | error fault => cases h : Outcome.reports fault <;> simp [h]

/-- A conversion by the standard registry leaves the hierarchy of conversion errors exactly when it
clashes; trying one tells an outcome unless it clashes or what it gives has no plain form. -/
theorem convert_in_hierarchy_iff (hr : r.Reached) (hk : r.catalogue = (standard u).catalogue)
    {d : Descriptor} {held : Held} (hd : answer (resolve d) r = .ok held)
    (hm : held.converter.MakesByParsing) (value : Option Setting) :
    ((∀ fault, answer (convert value d) r = .error fault → fault.isConversionError = true) ↔
        ¬held.converter.Clashes u value) ∧
      ∀ op, (∃ outcome, answer (tryConvert op value d) r = .ok outcome) ↔
        ¬held.converter.Clashes u value ∧
          ∀ x, answer (convert value d) r = .ok x → ¬x.Unplain := by
  obtain ⟨hanswer, hown⟩ := hr.answer_convert_held hk hd value
  have hclasses : r.classes = u := congrArg Catalogue.classes hk
  rw [hclasses] at hanswer
  constructor
  · rw [hanswer]
    exact hown.faults_iff hm (fun fault h => fault.isConversionError_of_isMalformed h) fun _ => rfl
  · intro op
    rw [answer_tryConvert_isOk_iff, hanswer]
    refine and_congr_left fun _ => ?_
    exact hown.faults_iff hm (fun fault h => fault.reports_of_isMalformed h) fun _ => rfl

/-- A set of lists of texts cannot hold its first item. A map with a key that is no number is put
together, and has no plain form. -/
theorem convert_in_hierarchy_fails :
    let r := standard .standard
    let sets : Descriptor := .shape (.cls (.builtin "set"))
      [.shape (.cls (.builtin "list")) [.plain (.builtin "str")]]
    let maps : Descriptor := .shape (.cls (.builtin "dict"))
      [.plain (.builtin "float"), .plain (.builtin "str")]
    let a := some (Setting.ofText (some "a"))
    let nan := some (Setting.ofText (some "nan=1"))
    (answer (convert a sets) r = .error (.stray (.unhashable "list")) ∧
        ¬∃ outcome, answer (tryConvert "convert" a sets) r = .ok outcome) ∧
      answer (convert nan maps) r = .ok (.map [(.float .nan, .text "1")]) ∧
        ¬∃ outcome, answer (tryConvert "convert" nan maps) r = .ok outcome := by
  intro r sets maps a nan
  have hr : r.Reached := .of_new (cache_standard _) (isPure_standard _)
  have hn : r.NothingNested := nothingNested_standard _
  obtain ⟨hstr, hservedStr⟩ := hr.serves_of_registered (d := .str) (c := .text) rfl trivial
  constructor
  · let lists : Nesting := .sequence .list (.leaf .str)
    let c : Converter := .collection .set (lists.converter r.served) .asIs
    have hbuild : r.catalogue.build sets = .ok c := by
      have hrecipe : Recipe.of sets = .collection .set lists.descriptor .asIs := rfl
      have hnone := hn.converter? hrecipe (by simp [Recipe.components])
      rw [Catalogue.build_of_collection hnone hrecipe, lists.build_descriptor hn fun d hd => ?_]
      · rfl
      · obtain rfl : d = .str := by simpa [lists, Nesting.leaves] using hd
        exact hr.build_leaf hstr
    have hanswer : answer (convert (some (.ofText (some "a"))) sets) r =
        .error (.stray (.unhashable "list")) := by
      rw [hr.answer_convert, Catalogue.outcome, hbuild]
      simp only [c, lists, Nesting.converter, hservedStr]
      rfl
    obtain ⟨held, hheld, hlike⟩ := hr.resolves_of_build hbuild
    have hm : held.converter.MakesByParsing := by
      refine hlike.symm.makesByParsing ?_
      simp only [c, lists, Nesting.converter, hservedStr]
      trivial
    obtain ⟨hstays, htells⟩ := convert_in_hierarchy_iff hr rfl hheld hm a
    refine ⟨hanswer, fun h => ?_⟩
    cases hstays.mpr ((htells "convert").mp h).1 _ hanswer
  · let float : LeafType := ⟨.plain (.builtin "float"), rfl, by simp⟩
    let t : Nesting := .map .dict (.leaf float) (.leaf .str)
    let read : Converter := .factory "float" (some "float") (Maker.reading (.builtin "float") fun text =>
      ((Number.readFloat text).map Datum.float).mapError .literal).make
    have hbuild : r.catalogue.build float.descriptor = .ok read := by
      rw [Catalogue.build_of_plain rfl rfl]
      rfl
    obtain ⟨hfloat, hservedFloat⟩ := hr.serves_of_build hbuild trivial
    have ht : ∀ d ∈ t.leaves, r.Serves d := by simpa [t, Nesting.leaves] using ⟨hfloat, hstr⟩
    have hanswer : answer (convert (some (.ofText (some "nan=1"))) maps) r =
        .ok (.map [(.float .nan, .text "1")]) := by
      change answer (convert _ t.descriptor) r = _
      rw [hr.answer_convert_nesting hn ht]
      simp only [t, Nesting.converter, hservedFloat, hservedStr]
      rfl
    have hunplain : (Datum.map [(.float .nan, .text "1")]).Unplain := .notFound rfl
    obtain ⟨held, hheld, hlike⟩ := hr.resolves_of_build
      (t.build_descriptor hn fun d hd => hr.build_leaf (ht d hd))
    have hread : ParseErrorsOnly (fun text =>
        (((Number.readFloat text).map Datum.float).mapError Cause.literal).mapError Fault.stray) :=
      parseErrorsOnly_mapError fun _ _ => isParseError_of_mapError fun _ => rfl
    have hm : held.converter.MakesByParsing := by
      refine hlike.symm.makesByParsing ?_
      simp only [t, Nesting.converter, hservedFloat, hservedStr]
      exact ⟨hread, trivial⟩
    obtain ⟨_, htells⟩ := convert_in_hierarchy_iff hr rfl hheld hm nan
    exact ⟨hanswer, fun h => ((htells "convert").mp h).2 _ hanswer hunplain⟩

end Registry

end SettingText
