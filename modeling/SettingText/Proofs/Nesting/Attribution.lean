import SettingText.Proofs.Nesting.Pieces

/-!
A text at a nested type converts when all its pieces do, and otherwise fails as the first failing
piece does; a malformed text is told of that piece, wherever it was cut from.
-/

namespace SettingText

namespace Nesting

variable {u : Universe} {served : LeafType → Converter}
  {reads : Nesting → Setting → Except Fault Datum}

/-- A map of entries that can be compared fails as its entries do. -/
theorem verdict_map {key value : Nesting} (h : ReadBy u served reads (entry key value).leaves)
    (c : MapClass) {s : Setting} {raw : String} (hraw : s.raw = some raw)
    (hcomparable : OnItems (fun t => OnItems (fun t' => ∀ a b,
      reads (entry key value) t = .ok (entryItem a) → reads (entry key value) t' = .ok (entryItem b) →
        ∃ same, Datum.equalEntries a b = .ok same) s) s) :
    verdict (((map c key value).converter served).outcome u (some s)) =
      verdict ((itemTexts raw).mapM fun text =>
        ((entry key value).converter served).outcome u (some (s.child (some text)))) := by
  have hpure := (entry key value).isPure_converter h.isPure
  cases hitems : (itemTexts raw).mapM fun text =>
      ((entry key value).converter served).outcome u (some (s.child (some text))) with
  | error fault =>
    rw [converter, Converter.outcome_map_of_error hpure.1 hpure.2 hraw hitems]
    rfl
  | ok items =>
    obtain ⟨pairs, rfl⟩ := Converter.exists_pairs hpure.1 hpure.2 hitems
    have hread : ∀ a ∈ pairs, ∃ text ∈ itemTexts raw,
        reads (entry key value) (s.child (some text)) = .ok (entryItem a) := by
      intro a ha
      obtain ⟨text, htext, hentry⟩ := exists_of_mapM_eq_ok hitems (List.mem_map_of_mem ha)
      exact ⟨text, htext, (h.outcome _ (List.Subset.refl _) _).symm.trans hentry⟩
    have hequal : ∀ a ∈ pairs, ∀ b ∈ pairs, ∃ same, Datum.equalEntries a b = .ok same := by
      intro a ha b hb
      obtain ⟨text, htext, hreada⟩ := hread a ha
      obtain ⟨text', htext', hreadb⟩ := hread b hb
      exact hcomparable raw hraw text htext raw hraw text' htext' a b hreada hreadb
    obtain ⟨result, hresult⟩ := Datum.canonicalEntries_of_comparable hequal
    rw [converter, Converter.outcome_map_of_ok hpure.1 hpure.2 hraw hitems hresult]
    rfl

/-- Reading a text fails as reading its pieces does. By induction on the type. -/
theorem ReadBy.failsByPieces {t : Nesting} (h : ReadBy u served reads t.leaves) :
    FailsByPieces u served reads t := by
  induction t with
  | leaf d =>
    intro s _
    have hread : Piece.read reads s ⟨d, []⟩ = reads (.leaf d) s := rfl
    rw [h.outcome (.leaf d) (by simp [leaves]), pieces, List.mapM_cons, hread]
    cases reads (.leaf d) s <;> rfl
  | sequence c element ih =>
    intro s hs
    have hpure := element.isPure_converter h.isPure
    cases hraw : s.raw with
    | none =>
      rw [converter, Converter.outcome_collection_absent _ _ _ (Converter.present?_of_absent hraw)]
      rfl
    | some raw =>
      have hfinish : ∀ items, (c.finish.apply false ([] ++ items)).mapError Fault.stray =
          .ok (c.of items) := fun items => by
        rw [List.nil_append, c.finish_apply]
        rfl
      rw [converter, Converter.outcome_sequence hpure _ _ hraw,
        verdict_bind_of_ok fun items _ => ⟨_, hfinish items⟩, ← hraw]
      exact verdict_mapM_items hraw hs (ih h)
  | array element ih =>
    intro s hs
    have hpure := element.isPure_converter h.isPure
    cases hraw : s.raw with
    | none =>
      have habsent := Converter.present?_of_absent hraw
      rw [converter, Converter.outcome_array_absent hpure _ _ _ habsent]
      rfl
    | some raw =>
      rw [converter, Converter.outcome_array (Converter.isPure_collection.mpr hpure),
        Converter.outcome_sequence hpure _ _ hraw, bind_assoc,
        verdict_bind_of_ok fun items _ => ⟨.tuple items, rfl⟩, ← hraw]
      exact verdict_mapM_items hraw hs (ih h)
  | entry key value ihk ihv =>
    intro s hs
    exact verdict_entry h (ihk (h.mono (by simp [leaves]))) (ihv (h.mono (by simp [leaves]))) hs
  | map c key value ihk ihv =>
    intro s hs
    have hentry : ReadBy u served reads (entry key value).leaves := h
    have hpure := (entry key value).isPure_converter hentry.isPure
    cases hraw : s.raw with
    | none =>
      have habsent := Converter.present?_of_absent hraw
      exact congrArg verdict (Converter.outcome_map_absent hpure _ _ habsent)
    | some raw =>
      rw [verdict_map hentry c hraw hs.2, ← hraw]
      exact verdict_mapM_items hraw hs.1 fun t ht => verdict_entry hentry
        (ihk (h.mono (by simp [leaves]))) (ihv (h.mono (by simp [leaves]))) ht
  | optional base ih =>
    intro s hs
    cases hraw : s.raw with
    | none =>
      rw [converter, Converter.outcome_optional_absent _ (Converter.present?_of_absent hraw)]
      rfl
    | some raw =>
      rw [converter, Converter.outcome_optional _ hraw, ih h s hs, hraw]
      rfl

end Nesting

namespace Registry

/-- A text at a nested type converts when each of its pieces does, and otherwise fails as the first
failing piece does, the key of an entry before its value. A malformed text is told of that very
piece, and the piece of the fragments it was cut out of, up to the whole text. -/
theorem convert_fails_at_first_piece {r : Registry} (hr : r.Reached) (hn : r.NothingNested)
    (t : Nesting) (ht : ∀ d ∈ t.leaves, r.Serves d)
    (hm : ∀ d ∈ t.leaves, ∀ held, answer (resolve d.descriptor) r = .ok held →
      held.converter.MakesNoMalformed)
    (s : Setting) (hs : t.Comparable (fun t s => answer (convert (some s) t.descriptor) r) s) :
    ((∃ d, answer (convert (some s) t.descriptor) r = .ok d) ↔
        ∀ p ∈ t.pieces s.raw, ∃ d,
          answer (convert (some (s.descend p.path)) p.type.descriptor) r = .ok d) ∧
      ∀ fault, answer (convert (some s) t.descriptor) r = .error fault →
        ∃ before p after, t.pieces s.raw = before ++ p :: after ∧
          (∀ q ∈ before, ∃ d,
            answer (convert (some (s.descend q.path)) q.type.descriptor) r = .ok d) ∧
          answer (convert (some (s.descend p.path)) p.type.descriptor) r = .error fault ∧
          fault.IsAbout (s.descend p.path) ∧ (s.descend p.path).root = s.root ∧
          ∃ cut : List Link, (s.descend p.path).links = cut ++ s.links ∧
            cut.map (·.raw) = p.path.reverse ∧
            ∀ link ∈ cut, link.name = s.name ∧ link.qualifiers = s.qualifiers := by
  have hread : Nesting.ReadBy r.classes r.served
      (fun t s => answer (convert (some s) t.descriptor) r) t.leaves :=
    ⟨fun d hd => hr.isPure.keeps.build (hr.build_leaf (ht d hd)), fun t' ht' s =>
      (hr.answer_convert_nesting hn (fun d hd => ht d (ht' hd)) _).symm⟩
  have hverdict := hread.failsByPieces s hs
  rw [hread.outcome t (List.Subset.refl _)] at hverdict
  constructor
  · rw [← verdict_eq_ok_iff, hverdict, verdict_eq_ok_iff]
    exact exists_mapM_eq_ok_iff
  · intro fault hfault
    rw [← verdict_eq_error_iff, hverdict, verdict_eq_error_iff] at hfault
    obtain ⟨before, p, after, hpieces, hbefore, hp⟩ := mapM_eq_error_iff.mp hfault
    refine ⟨before, p, after, hpieces, hbefore, hp, ?_, by simp, s.links_descend p.path⟩
    have hmem : p ∈ t.pieces s.raw := by simp [hpieces]
    have hd := Nesting.type_mem_leaves hmem
    have hserves := ht _ hd
    obtain ⟨held, hheld, _⟩ := ht _ hd
    have hmakes := (hr.alike_served hheld).2.makesNoMalformed (hm _ hd held hheld)
    rw [Piece.read] at hp
    exact (hr.isSingle_served hserves).isAbout hmakes
      ((hr.answer_convert_leaf hserves _).symm.trans hp)

/-- A list of entries whose keys are severities: the key of its one entry is none. -/
theorem convert_fails_at_key :
    ∃ reason, answer (convert (some (.ofText (some "x=INFO")))
        (.shape (.cls (.builtin "list")) [.shape (.cls Datum.entryClass)
          [.plain Datum.levelClass, .plain (.builtin "str")]])) (standard ⟨[], [], [], []⟩) =
      .error (.malformed (some "x") reason
        (some (((Setting.ofText (some "x=INFO")).child (some "x=INFO")).child (some "x")))
        (some "LogLevel") (some .value)) := by
  have hr : (standard ⟨[], [], [], []⟩).Reached := .of_new (cache_standard _) (isPure_standard _)
  let level : LeafType := ⟨.plain Datum.levelClass, rfl, by simp⟩
  let t : Nesting := .sequence .list (.entry (.leaf level) (.leaf .str))
  let s : Setting := .ofText (some "x=INFO")
  obtain ⟨hstr, hservedStr⟩ := hr.serves_of_registered (d := .str) (c := .text) rfl trivial
  obtain ⟨hlevel, hserved⟩ := hr.serves_of_registered (d := level) (c := .level) rfl trivial
  have hpieces : t.pieces s.raw =
      [⟨level, [some "x=INFO", some "x"]⟩, ⟨.str, [some "x=INFO", some "INFO"]⟩] := by rfl
  have hread : ∃ fault, LogLevel.read "x" = .error fault := by
    cases h : LogLevel.read "x" with
    | error fault => exact ⟨fault, rfl⟩
    | ok l =>
      have hnone : (LogLevel.read "x").toOption = none := by decide +kernel
      simp [h, Except.toOption] at hnone
  obtain ⟨reason, hreason⟩ := hread
  have hkey : answer (convert (some (s.descend [some "x=INFO", some "x"])) level.descriptor)
      (standard ⟨[], [], [], []⟩) =
      .error (.malformed (some "x") reason.message (some (s.descend [some "x=INFO", some "x"]))
        (some "LogLevel") (some .value)) := by
    have hraw : (s.descend [some "x=INFO", some "x"]).raw = some "x" := rfl
    rw [hr.answer_convert_leaf hlevel, hserved, Converter.outcome_level, parsedBy, parsed,
      Converter.present?_of_raw hraw]
    simp only [hreason]
    rfl
  have hm : ∀ d ∈ t.leaves, ∀ held, answer (resolve d.descriptor) (standard ⟨[], [], [], []⟩) =
      .ok held → held.converter.MakesNoMalformed := by
    intro d hd held hheld
    have halike := (hr.alike_served hheld).2.symm
    obtain rfl | rfl : d = level ∨ d = .str := by simpa [t, Nesting.leaves] using hd
    · exact halike.makesNoMalformed (hserved ▸ trivial)
    · exact halike.makesNoMalformed (hservedStr ▸ trivial)
  have h := convert_fails_at_first_piece hr (nothingNested_standard _) t
    (by simpa [t, Nesting.leaves] using ⟨hlevel, hstr⟩) hm s
    (by simp [t, Nesting.Comparable, OnItems, OnEntry])
  rw [hpieces] at h
  obtain ⟨hsucceeds, hfails⟩ := h
  refine ⟨reason.message, ?_⟩
  change answer (convert (some s) t.descriptor) (standard ⟨[], [], [], []⟩) = _
  cases hwhole : answer (convert (some s) t.descriptor) (standard ⟨[], [], [], []⟩) with
  | ok d =>
    obtain ⟨d', hd'⟩ := hsucceeds.mp ⟨d, hwhole⟩ _ List.mem_cons_self
    rw [hkey] at hd'
    cases hd'
  | error fault =>
    obtain ⟨before, p, after, hsplit, hbefore, hp, _⟩ := hfails fault hwhole
    cases before with
    | nil =>
      obtain ⟨rfl, _⟩ := List.cons.inj hsplit
      exact congrArg Except.error (Except.error.inj (hp.symm.trans hkey))
    | cons q before =>
      obtain ⟨rfl, _⟩ := List.cons.inj hsplit
      obtain ⟨d, hd⟩ := hbefore _ List.mem_cons_self
      rw [hkey] at hd
      cases hd

end Registry

end SettingText
