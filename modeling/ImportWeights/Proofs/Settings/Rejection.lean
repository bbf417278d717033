import ImportWeights.Proofs.Settings.Verdict

/-! # What a configuration file is refused for

A file is refused for its first value of the wrong form among those that are looked at. What is
set already plays no part in that, but for the color flags: they win over the file, and the keys
on colors then stay closed. -/

namespace ImportWeights.Settings

open ImportWeights.Toml

variable {o o' : Options} {t : Table}

theorem mem_keysFor {withColors : Bool} {key : Key} :
    key ∈ keysFor withColors ↔ key ∈ settingKeys ∨ withColors = true ∧ key ∈ colorKeys := by
  cases withColors <;> simp [keysFor]

theorem withTable_ok_iff : (∃ r, o.withTable t = .ok r) ↔
    ∀ key ∈ keysFor (!o.hasColorFlag), key.fits t = true := by
  obtain ⟨taken, fits⟩ | ⟨before, key, after, v, listed, -, found, unfit, refused⟩ :=
    withTable_cases o t
  · exact ⟨fun _ => fits, fun _ => ⟨_, taken⟩⟩
  · have bad : key.fits t = false := by rw [Key.fits, found, Option.all_some, unfit]
    rw [refused, listed]
    constructor
    · rintro ⟨_, taken⟩
      cases taken
    · intro h
      have good := h key (List.mem_append_right _ (.head _))
      rw [bad] at good
      cases good

/-- Two command lines that both leave the color flags open, or both do not, refuse the same
tables, with the same error. -/
theorem withTable_error_congr (h : o.hasColorFlag = o'.hasColorFlag) (e : ConfigError) :
    o.withTable t = .error e ↔ o'.withTable t = .error e := by
  rw [Options.withTable, Options.withTable, h]
  cases Options.ofTable (!o'.hasColorFlag) t <;> simp [Except.map]

/-- Whatever is set already, a table is refused if a value under one of the seventeen keys of
settings has not the form that the key takes; under the two keys on colors, if no color flag is
set. It is refused for nothing else, and then an unfit value is named that was looked at, with
what its key takes. So two command lines of which both or neither set a color flag refuse the same
tables, and what is taken in without one is taken in with one. -/
theorem bad_tables_are_refused (o o' : Options) (t : Table) :
    ((∃ key ∈ settingKeys, key.fits t = false) → ∃ e, o.withTable t = .error e) ∧
    ((∃ key ∈ colorKeys, key.fits t = false) → (o.color || o.noColor) = false →
      ∃ e, o.withTable t = .error e) ∧
    (∀ e, o.withTable t = .error e → ∃ key ∈ keysFor (!(o.color || o.noColor)), ∃ v,
      t.get? key.name = some v ∧ key.form.fits v = false ∧
      e = .invalidValue key.name (key.form.complaint v)) ∧
    ((o.color || o.noColor) = (o'.color || o'.noColor) →
      ((∃ r, o.withTable t = .ok r) ↔ ∃ r', o'.withTable t = .ok r') ∧
      ∀ e, o.withTable t = .error e ↔ o'.withTable t = .error e) ∧
    ((o.color || o.noColor) = false → (∃ r, o.withTable t = .ok r) →
      ∃ r', o'.withTable t = .ok r') := by
  have refused (h : ∃ key ∈ keysFor (!o.hasColorFlag), key.fits t = false) :
      ∃ e, o.withTable t = .error e := by
    obtain ⟨key, member, bad⟩ := h
    cases result : o.withTable t with
    | error e => exact ⟨e, rfl⟩
    | ok r =>
      have good := withTable_ok_iff.mp ⟨r, result⟩ key member
      rw [bad] at good
      cases good
  have looksAtColors (unset : (o.color || o.noColor) = false) : (!o.hasColorFlag) = true := by
    rw [Options.hasColorFlag, unset]
    rfl
  refine ⟨?_, ?_, ?_, ?_, ?_⟩
  · rintro ⟨key, member, bad⟩
    exact refused ⟨key, mem_keysFor.mpr (.inl member), bad⟩
  · rintro ⟨key, member, bad⟩ unset
    exact refused ⟨key, mem_keysFor.mpr (.inr ⟨looksAtColors unset, member⟩), bad⟩
  · intro e h
    obtain ⟨taken, -⟩ | ⟨before, key, after, v, listed, -, found, unfit, refused⟩ :=
      withTable_cases o t
    · rw [taken] at h
      cases h
    · rw [refused] at h
      have member : key ∈ keysFor (!o.hasColorFlag) :=
        listed ▸ List.mem_append_right _ (.head _)
      exact ⟨key, member, v, found, unfit, (Except.error.inj h).symm⟩
  · intro same
    have alike : o.hasColorFlag = o'.hasColorFlag := same
    exact ⟨by rw [withTable_ok_iff, withTable_ok_iff, alike], withTable_error_congr alike⟩
  · intro unset taken
    refine withTable_ok_iff.mpr fun key member => ?_
    refine withTable_ok_iff.mp taken key (mem_keysFor.mpr ?_)
    exact (mem_keysFor.mp member).imp_right fun h => ⟨looksAtColors unset, h.2⟩

/-- A limit of no length is refused though the command line has set another one. -/
theorem bad_tables_are_refused_already_set : ∃ e,
    { Options.unset with maxLineLength := some 80 }.withTable [("max-line-length", .integer 0)] =
      .error e ∧
    ∃ key ∈ keysFor true, key.name = "max-line-length" ∧
      e = .invalidValue key.name (key.form.complaint (.integer 0)) := by
  obtain ⟨unfit, -, named, -, -⟩ := bad_tables_are_refused
    { Options.unset with maxLineLength := some 80 } Options.unset [("max-line-length", .integer 0)]
  obtain ⟨e, refused⟩ := unfit (by decide)
  obtain ⟨key, member, v, found, -, rfl⟩ := named e refused
  obtain ⟨name, rfl⟩ : key.name = "max-line-length" ∧ v = .integer 0 := by
    obtain ⟨before, after, whole, -⟩ := List.lookup_eq_some_iff.mp found
    have entry : (key.name, v) ∈ [("max-line-length", Value.integer 0)] :=
      whole ▸ List.mem_append_right before (.head after)
    exact Prod.mk.inj (List.mem_singleton.mp entry)
  exact ⟨_, refused, key, member, name, rfl⟩

/-- A number under `color` is refused if no color flag is set, and not looked at otherwise. -/
theorem color_flag_hides_bad_color : ¬ ∀ (o o' : Options) (t : Table),
    (∃ r, o.withTable t = .ok r) ↔ ∃ r', o'.withTable t = .ok r' := by
  intro h
  have flagged : ({ Options.unset with color := true }.withTable [("color", .integer 1)]) =
      .ok { Options.unset with color := true } := by decide
  have unflagged : Options.unset.withTable [("color", .integer 1)] =
      .error (.invalidValue "color" "expected true or false") := by decide
  obtain ⟨r, taken⟩ := (h _ Options.unset _).mp ⟨_, flagged⟩
  rw [unflagged] at taken
  cases taken

end ImportWeights.Settings
