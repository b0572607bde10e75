import OpticScene.Proofs.Origin

/-!
# Definitions and their records

A definition is read from a record in a few steps, of which only one looks at the random stream:
the defaults of the parameters are evaluated, each with those before it.  The names of the
parameters are those of the descriptors, each once and in their order.

## Main definitions

* `Range.nameOf` — the name in a range descriptor.
* `Definition.declared` — the names of the parameters that a definition declares.
* `Definition.IsRead` — a definition is what its record says.

## Main results

* `run_ofRecord_eq_ok` — which records are definitions, and of what.
* `Definition.IsRead.names_defaults`, `Definition.IsRead.nodup_declared` — **every declared
  parameter has a default, and none is declared twice.**
-/

namespace OpticScene

open OpticScene.Random (Draws Stream)

/-- The name in a range descriptor: what stands before the equals sign. -/
def Range.nameOf (descriptor : String) : String :=
  match Text.cut? '=' descriptor with
  | none => ""
  | some (name, _) => Text.trim name

theorem Range.name_of_splitName {descriptor name fields : String}
    (h : splitName descriptor = .ok (name, fields)) : name = nameOf descriptor := by
  unfold splitName at h
  unfold nameOf
  rcases hcut : Text.cut? '=' descriptor with _ | ⟨before, after⟩
  · rw [hcut] at h
    cases h
  · rw [hcut] at h
    dsimp only at h ⊢
    by_cases hname : isName (Text.trim before) = true
    · rw [if_pos hname] at h
      cases h
      rfl
    · rw [if_neg hname] at h
      cases h

theorem Range.name_of_run_parse {b : Bindings} {descriptor : String} {range : Range}
    {s t : Stream} (h : ExceptT.run (parse b descriptor) s = (.ok range, t)) :
    range.name = nameOf descriptor := by
  rw [parse, run_adapt] at h
  rcases hcause : ExceptT.run (parseCause b descriptor) s with ⟨e | found, u⟩
  · rw [hcause] at h
    cases h
  · rw [hcause] at h
    cases h
    rw [parseCause] at hcause
    obtain ⟨⟨name, fields⟩, _, hsplit, hcause⟩ := run_bind_eq_ok.mp hcause
    obtain ⟨_, _, -, hcause⟩ := run_bind_eq_ok.mp hcause
    obtain ⟨_, _, -, hcause⟩ := run_bind_eq_ok.mp hcause
    obtain ⟨_, _, -, hcause⟩ := run_bind_eq_ok.mp hcause
    obtain ⟨_, _, -, hcause⟩ := run_bind_eq_ok.mp hcause
    have hname : range.name = name := by
      dsimp only at hcause
      split at hcause <;>
        obtain ⟨_, _, -, hcause⟩ := run_bind_eq_ok.mp hcause <;> cases hcause <;> rfl
    rw [hname]
    exact name_of_splitName (congrArg Prod.fst hsplit)

namespace Module

/-- The names of the parameters that a definition declares, in the order of their descriptors. -/
def Definition.declared (d : Definition) : List String := d.params.map Range.nameOf

/-! ### Defaults -/

theorem resolveDefaults_cons (before : Params) (descriptor : String) (descriptors : List String)
    (s : Stream) :
    ExceptT.run (resolveDefaults before (descriptor :: descriptors)) s =
      match ExceptT.run (Range.parse before.bindings descriptor) s with
      | (.error e, t) => (.error (.params e), t)
      | (.ok range, t) =>
        if range.name ∈ Named.names before then (.error (.declaredTwice range.name), t)
        else
          ExceptT.run (resolveDefaults (before ++ [(range.name, range.default)]) descriptors)
            t := by
  rw [resolveDefaults, run_bind, run_adapt]
  rcases ExceptT.run (Range.parse before.bindings descriptor) s with ⟨e | range, t⟩
  · rfl
  · by_cases h : range.name ∈ Named.names before
    · have hc := (Named.contains_iff _ _).mpr h
      simp only [mapError_ok, h, hc, if_true]
      rfl
    · have hc : Named.contains range.name before = false := by
        rw [Bool.eq_false_iff]
        exact fun hc => h ((Named.contains_iff _ _).mp hc)
      simp only [mapError_ok, h, hc, if_false]
      rfl

/-- The parameters come in the order of their descriptors, and none comes twice. -/
theorem names_of_run_resolveDefaults {params : Params} {t : Stream} :
    ∀ {descriptors : List String} {before : Params} {s : Stream},
      ExceptT.run (resolveDefaults before descriptors) s = (.ok params, t) →
        Named.names params = Named.names before ++ descriptors.map Range.nameOf ∧
          ((Named.names before).Nodup → (Named.names params).Nodup) := by
  intro descriptors
  induction descriptors with
  | nil =>
    intro before s h
    cases h
    exact ⟨(List.append_nil _).symm, id⟩
  | cons descriptor descriptors ih =>
    intro before s h
    rw [resolveDefaults_cons] at h
    split at h
    · cases h
    · next range u hrange =>
      split at h
      · cases h
      · next hnew =>
        -- a name that is new comes last, as when it is set
        rw [← Named.set_of_not_mem hnew] at h
        obtain ⟨hnames, hnodup⟩ := ih h
        rw [Named.names_set, if_neg hnew, Range.name_of_run_parse hrange] at hnames
        refine ⟨by rw [hnames, List.append_assoc]; rfl, fun hb => hnodup ?_⟩
        exact Named.nodup_names_set _ _ hb

/-! ### Records -/

/-- **Which records are definitions.**  Only the defaults depend on the random stream. -/
theorem run_ofRecord_eq_ok {v : Json} {d : Definition} {s t : Stream} :
    ExceptT.run (Definition.ofRecord v) s = (.ok d, t) ↔
      ∃ record, DefinitionRecord.decode v = .ok record ∧ record.maxLoop ≠ 0 ∧
        ExceptT.run (resolveDefaults [] record.params) s = (.ok d.defaults, t) ∧
          compileVars record.vars = .ok d.vars ∧
            compileItems rootPath 0 record.objs = .ok d.objs ∧
              d.numPoints = record.numPoints ∧ d.params = record.params ∧
                d.maxLoop = record.maxLoop ∧ d.source = v := by
  constructor
  · intro h
    rw [Definition.ofRecord] at h
    obtain ⟨record, u, hrecord, h⟩ := run_bind_eq_ok.mp h
    have hdecode := mapError_eq_ok.mp (congrArg Prod.fst hrecord)
    cases congrArg Prod.snd hrecord
    dsimp only at h
    split at h
    · obtain ⟨_, _, hthrow, -⟩ := run_bind_eq_ok.mp h
      cases hthrow
    · next hloop =>
      obtain ⟨defaults, u, hdefaults, h⟩ := run_bind_eq_ok.mp h
      obtain ⟨vars, u', hvars, h⟩ := run_bind_eq_ok.mp h
      cases congrArg Prod.snd hvars
      obtain ⟨objs, u'', hobjs, h⟩ := run_bind_eq_ok.mp h
      cases congrArg Prod.snd hobjs
      cases h
      exact ⟨record, hdecode, hloop, hdefaults,
        mapError_eq_ok.mp (congrArg Prod.fst hvars),
        mapError_eq_ok.mp (congrArg Prod.fst hobjs), rfl, rfl, rfl, rfl⟩
  · rintro ⟨record, hdecode, hloop, hdefaults, hvars, hobjs, hpoints, hparams, hmax, rfl⟩
    obtain ⟨numPoints, params, vars, objs, maxLoop, defaults, source⟩ := d
    subst hpoints hparams hmax
    dsimp only at hdecode hdefaults hvars hobjs
    rw [Definition.ofRecord, mapError_eq_ok.mpr hdecode, run_bind_of_ok (run_ofExcept _ s)]
    dsimp only
    rw [if_neg hloop, run_bind_of_ok hdefaults, mapError_eq_ok.mpr hvars,
      run_bind_of_ok (run_ofExcept _ t), mapError_eq_ok.mpr hobjs,
      run_bind_of_ok (run_ofExcept _ t)]
    rfl

/-- A definition is what its record says, at some place of the random stream. -/
def Definition.IsRead (d : Definition) : Prop :=
  ∃ s t, ExceptT.run (Definition.ofRecord d.source) s = (.ok d, t)

theorem Definition.isRead_of_run {v : Json} {d : Definition} {s t : Stream}
    (h : ExceptT.run (Definition.ofRecord v) s = (.ok d, t)) : d.IsRead := by
  obtain ⟨_, _, _, _, _, _, _, _, _, hsource⟩ := run_ofRecord_eq_ok.mp h
  exact ⟨s, t, hsource ▸ h⟩

namespace Definition.IsRead

variable {d : Definition}

/-- **Every declared parameter has a default**, and only those have one. -/
theorem names_defaults (h : d.IsRead) : Named.names d.defaults = d.declared := by
  obtain ⟨s, t, hrun⟩ := h
  obtain ⟨record, -, -, hdefaults, -, -, -, hparams, -⟩ := run_ofRecord_eq_ok.mp hrun
  rw [declared, hparams]
  exact (names_of_run_resolveDefaults hdefaults).1

/-- **No parameter is declared twice.** -/
theorem nodup_declared (h : d.IsRead) : d.declared.Nodup := by
  rw [← h.names_defaults]
  obtain ⟨s, t, hrun⟩ := h
  obtain ⟨record, -, -, hdefaults, -⟩ := run_ofRecord_eq_ok.mp hrun
  exact (names_of_run_resolveDefaults hdefaults).2 List.nodup_nil

theorem declares_iff (h : d.IsRead) (name : String) :
    d.declares name = true ↔ name ∈ d.declared := by
  rw [← h.names_defaults]
  exact Named.contains_iff name d.defaults

end Definition.IsRead

end Module

/-- Every definition that a scene has or uses was read from a record. -/
theorem Scene.Reachable.read {s : Scene} (h : Reachable s) :
    s.library.All Module.Definition.IsRead ∧ s.Expanded Module.Definition.IsRead :=
  h.expanded fun _ _ _ _ hd => Module.Definition.isRead_of_run hd

end OpticScene
