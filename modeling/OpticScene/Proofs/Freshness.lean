import OpticScene.Proofs.Origin
import OpticScene.Proofs.Refusal
import OpticScene.Proofs.SteadyExpression

/-!
# Fresh expansions

The objects inside an instance are kept from one operation to the next.  An instance is fresh if
expanding it again would give the same objects and the same error.  When the random stream does not
matter, an expansion is a function of the instance, of the modules and of the depth, and it can be
seen from the outcome which modules it has used: those of the instances inside, and those that an
error is about.

Only two operations can leave something behind: a module that is defined anew reaches the instances
at the top level but none inside others, and an instance that is taken apart lifts those inside by
one level.  Every other operation keeps a scene up to date.

## Main definitions

* `Registry.IsFresh` — expanding an instance again changes nothing.
* `Instance.IsUpToDate`, `Scene.IsUpToDate` — what an expansion has used is still so.

## Main results

* `Registry.IsFresh.of_isUpToDate` — **what was fresh with some library is fresh with any other for
  which it is up to date.**
* `Scene.Effect.isUpToDate` — only two operations can leave something behind.
* `Scene.refresh_changes_nothing_iff` — a refresh changes nothing exactly when all is up to date.
-/

namespace OpticScene

open OpticScene.Random (Draws Steady Stream)
open OpticScene.Module (Definition Instance Library)

/-! ### Steady builders -/

namespace Module.Instance

variable {Obj : Type}

theorem steady_buildAll {build : Json → Draws SceneError Obj}
    (h : ∀ record, Steady (ExceptT.run (build record))) :
    ∀ records, Steady (buildAll build records)
  | [] => Random.steady_pure _
  | record :: records => by
    refine (h record).bindState fun r => ?_
    cases r with
    | error e => exact Random.steady_pure _
    | ok object => exact (steady_buildAll h records).bindState fun _ => Random.steady_pure _

end Module.Instance

namespace Registry

variable {registry : Registry} {library : Library}

theorem steady_ofReadFields {builder : Module.Builder SceneObject} {fields : Instance.Fields}
    (h : ∀ core, Instance.ofFields library fields = .ok core → Steady (core.expansion builder)) :
    Steady (ofReadFields library builder fields) := by
  unfold ofReadFields
  rcases hc : (Instance.ofFields library fields : Except SceneError (Instance SceneObject)) with
    e | core
  · exact Random.steady_pure _
  · obtain ⟨found, hfound⟩ := h core hc
    refine ⟨.ok (.module (core.withObjects found)), fun s => ?_⟩
    dsimp only
    rw [Instance.refresh_eq, hfound]

theorem steady_instantiate {levels : Nat} (hall : library.All Definition.IsSteady)
    (h : ∀ inst : Instance SceneObject, inst.definition.IsSteady →
      Steady (inst.expansion (registry.builder library levels)))
    (record : Json) : Steady (ExceptT.run (registry.instantiate library levels record)) := by
  rcases run_instantiateWith_cases registry record with ⟨r, -, hrun⟩ | ⟨fields, hrun⟩
  · exact ⟨r, hrun library _⟩
  · have hread : Steady (ofReadFields library (registry.builder library levels) fields) :=
      steady_ofReadFields fun core hcore => h core (hall _ _ (Instance.find?_of_ofFields hcore))
    obtain ⟨r, hr⟩ := hread
    exact ⟨r, fun s => (hrun library _ s).trans (hr s)⟩

/-- **An expansion with steady definitions is steady**, however deep it goes. -/
theorem steady_expansion (hall : library.All Definition.IsSteady) :
    ∀ (levels : Nat) (inst : Instance SceneObject), inst.definition.IsSteady →
      Steady (inst.expansion (registry.builder library levels)) := by
  intro levels
  induction levels with
  | zero =>
    intro inst hd
    cases hp : inst.placement with
    | collecting => exact Instance.expansion_collecting _ hp ▸ Random.steady_pure _
    | complete =>
      rw [Instance.expansion_complete _ hp]
      refine (Instance.steady_expandRecords hd).bindState fun r => ?_
      cases r <;> exact Random.steady_pure _
  | succ levels ih =>
    intro inst hd
    cases hp : inst.placement with
    | collecting => exact Instance.expansion_collecting _ hp ▸ Random.steady_pure _
    | complete =>
      rw [Instance.expansion_complete _ hp]
      refine (Instance.steady_expandRecords hd).bindState fun r => ?_
      cases r with
      | error e => exact Random.steady_pure _
      | ok records => exact Instance.steady_buildAll (steady_instantiate hall ih) records

/-! ### Fresh instances -/

/-- Expanding the instance again, with the modules of a library and with `levels` levels left below
it, changes nothing. -/
def IsFresh (registry : Registry) (library : Library) (levels : Nat)
    (inst : Instance SceneObject) : Prop :=
  ∀ s, inst.refresh (registry.builder library levels) s = (inst, s)

theorem isFresh_iff {levels : Nat} {inst : Instance SceneObject} :
    registry.IsFresh library levels inst ↔
      ∀ s, inst.expansion (registry.builder library levels) s =
        ((inst.objects, inst.lastError), s) := by
  refine forall_congr' fun s => ?_
  rw [Instance.refresh_eq]
  constructor
  · intro h
    obtain ⟨hinst, hstream⟩ := Prod.mk.inj h
    refine Prod.ext (Prod.ext ?_ ?_) hstream
    · exact congrArg Instance.objects hinst
    · exact congrArg Instance.lastError hinst
  · intro h
    rw [h]
    exact congrArg (·, s) inst.withObjects_self

/-- What was just expanded is fresh, when the random stream does not matter. -/
theorem isFresh_refresh (hall : library.All Definition.IsSteady) {levels : Nat}
    {core : Instance SceneObject} (hd : core.definition.IsSteady) (s : Stream) :
    registry.IsFresh library levels (core.refresh (registry.builder library levels) s).1 := by
  obtain ⟨found, hfound⟩ := steady_expansion hall levels core hd
  intro u
  rw [Instance.refresh_eq, Instance.refresh_eq, hfound, Instance.expansion_withObjects, hfound,
    Instance.withObjects_withObjects]

theorem Expands.exists_isFresh {inst : Instance SceneObject}
    (h : registry.Expands Definition.IsSteady inst) :
    ∃ (library : Library) (levels : Nat), library.All Definition.IsSteady ∧
      levels ≤ Module.maxDepth ∧ registry.IsFresh library levels inst := by
  obtain ⟨hd, library, levels, core, s, hall, hle, rfl⟩ := h
  rw [Instance.definition_refresh] at hd
  exact ⟨library, levels, hall, hle, isFresh_refresh hall hd s⟩

end Registry

/-! ### What an expansion has used -/

/-- What an error says about the modules and about the depth is still so. -/
structure SceneError.IsUpToDate (library : Library) (depth : Nat) (e : SceneError) : Prop where
  /-- A module that was unknown is unknown. -/
  unknownModule : ∀ name, e = .unknownModule name → library.find? name = none
  /-- A module needs as many control points as it did. -/
  wrongPoints : ∀ name expected given, e = Instance.wrongPoints name expected given →
    ∃ d, library.find? name = some d ∧ d.numPoints = expected
  /-- Where no level was left, none is left. -/
  nestingTooDeep : ∀ limit, e = .nestingTooDeep limit → depth = Module.maxDepth

/-- An instance that stands inside `depth` others was expanded as it would be with the modules of
the library.  At the top level it may have another definition than its module. -/
structure Module.Instance.IsUpToDate (library : Library) (depth : Nat)
    (inst : Instance SceneObject) : Prop where
  /-- Inside another instance, the definition is that of the library. -/
  definition : depth ≠ 0 → library.find? inst.moduleName = some inst.definition
  /-- The error that ended the expansion would end it again. -/
  lastError : ∀ e, inst.lastError = some e → e.IsUpToDate library depth

theorem Module.Library.Refuses.isUpToDate {library : Library} {levels depth : Nat} {e : SceneError}
    (h : library.Refuses levels e) (hdepth : levels + depth = Module.maxDepth) :
    e.IsUpToDate library depth where
  unknownModule := by
    rintro name rfl
    generalize he : SceneError.unknownModule name = e at h
    cases h with
    | unknownModule hnone => cases he; exact hnone
    | ofRecord hrecord => cases hrecord <;> cases he
    | _ => cases he
  wrongPoints := by
    rintro name expected given rfl
    generalize he : Instance.wrongPoints name expected given = e at h
    cases h with
    | @wrongPoints name' d given' hd =>
      obtain ⟨rfl, rfl, -⟩ := Instance.wrongPoints_inj he
      exact ⟨d, hd, rfl⟩
    | ofRecord hrecord =>
      cases hrecord with
      | unknownType => cases he
      | missingTag record => exact absurd (SceneError.invalidRecord.inj he).1 (by decide)
      | fields kind cause =>
        cases kind with
        | module => exact absurd he.symm (Instance.ofRecord_ne_wrongPoints cause _ _ _)
        | _ => exact absurd (SceneError.invalidRecord.inj he).1 (by decide)
    | _ => cases he
  nestingTooDeep := by
    rintro limit rfl
    generalize he : SceneError.nestingTooDeep limit = e at h
    cases h with
    | nestingTooDeep hlevels => omega
    | ofRecord hrecord => cases hrecord <;> cases he
    | _ => cases he

namespace Registry

variable {registry : Registry} {library : Library}

theorem isUpToDate_refresh {levels depth : Nat} (hdepth : levels + depth = Module.maxDepth)
    {core : Instance SceneObject}
    (hd : depth ≠ 0 → library.find? core.moduleName = some core.definition) (s : Stream) :
    (core.refresh (registry.builder library levels) s).1.IsUpToDate library depth where
  definition := by
    rw [Instance.moduleName_refresh, Instance.definition_refresh]
    exact hd
  lastError := fun _ he => (refuses_of_lastError he).isUpToDate hdepth

/-- An instance that is expanded at the top level is up to date, and so are those inside. -/
theorem isUpToDate_of_occurs {core inst : Instance SceneObject} {depth : Nat} {s : Stream}
    (h : SceneObject.Occurs inst depth
      [.module (core.refresh (registry.builder library Module.maxDepth) s).1]) :
    inst.IsUpToDate library depth := by
  cases h with
  | top hi =>
    cases List.mem_singleton.mp hi
    exact isUpToDate_refresh rfl (fun h => absurd rfl h) s
  | inside ho hi =>
    cases List.mem_singleton.mp ho
    obtain ⟨rest, hrest, hmade⟩ := makes_of_occurs hi
    have hfind := hmade.find?
    obtain ⟨fields, core', u, -, rfl⟩ := hmade
    refine isUpToDate_refresh (by omega) (fun _ => ?_) u
    rw [Instance.moduleName_refresh, Instance.definition_refresh] at hfind
    exact hfind

end Registry

/-! ### Another library -/

/-- Two ways to build give the same where they agree on every record that is used. -/
theorem Module.Instance.buildAll_congr {Obj : Type} {build build' : Json → Draws SceneError Obj}
    (hsteady : ∀ record, Steady (ExceptT.run (build record))) {objects : List Obj}
    {lastError : Option SceneError}
    (hagree : ∀ record r, (∀ s, ExceptT.run (build record) s = (r, s)) →
      (∀ object, r = .ok object → object ∈ objects) → (∀ e, r = .error e → lastError = some e) →
        ∀ s, ExceptT.run (build' record) s = (r, s)) :
    ∀ {records : List Json} {made : List Obj}, (∀ object ∈ made, object ∈ objects) →
      (∀ s, buildAll build records s = ((made, lastError), s)) →
        ∀ s, buildAll build' records s = ((made, lastError), s) := by
  intro records
  induction records with
  | nil => intro made _ h; exact h
  | cons record records ih =>
    intro made hmade h
    obtain ⟨r, hr⟩ := hsteady record
    cases r with
    | error e =>
      have heq : ∀ s, ((([], some e), s) : (List Obj × Option SceneError) × Stream) =
          ((made, lastError), s) :=
        fun s => (buildAll_cons_of_error (hr s) records).symm.trans (h s)
      obtain ⟨hfound, -⟩ := Prod.mk.inj (heq default)
      obtain ⟨rfl, rfl⟩ := Prod.mk.inj hfound
      have hr' := hagree record (.error e) hr (fun _ ho => nomatch ho) fun e' he => by cases he; rfl
      exact fun s => buildAll_cons_of_error (hr' s) records
    | ok object =>
      -- the rest of the records leaves the rest of the objects
      have heq : ∀ s, ((object :: (buildAll build records s).1.1, (buildAll build records s).1.2),
          (buildAll build records s).2) = ((made, lastError), s) :=
        fun s => (buildAll_cons_of_ok (hr s) records).symm.trans (h s)
      obtain ⟨rest, rfl⟩ : ∃ rest, made = object :: rest :=
        ⟨_, (Prod.mk.inj (Prod.mk.inj (heq default)).1).1.symm⟩
      have hrest : ∀ s, buildAll build records s = ((rest, lastError), s) := by
        intro s
        obtain ⟨hfound, hstream⟩ := Prod.mk.inj (heq s)
        obtain ⟨hobjects, herror⟩ := Prod.mk.inj hfound
        exact Prod.ext (Prod.ext (List.cons.inj hobjects).2 herror) hstream
      have hr' := hagree record (.ok object) hr
        (fun _ ho => by cases ho; exact hmade _ List.mem_cons_self) fun _ he => nomatch he
      have hrest' := ih (fun o ho => hmade o (List.mem_cons_of_mem _ ho)) hrest
      intro s
      rw [buildAll_cons_of_ok (hr' s), hrest' s]

namespace Registry

variable {registry : Registry} {library library' : Library}

/-- A record is read the same with another library if what it has used is up to date. -/
theorem run_instantiate_congr (hall : library.All Definition.IsSteady) {levels levels' depth : Nat}
    {record : Json} {r : Except SceneError SceneObject}
    (hrun : ∀ s, ExceptT.run (registry.instantiate library levels record) s = (r, s))
    (hobject : ∀ inner, r = .ok (.module inner) → registry.IsFresh library levels inner →
      inner.definition.IsSteady → library'.find? inner.moduleName = some inner.definition ∧
        registry.IsFresh library' levels' inner)
    (herror : ∀ e, r = .error e → e.IsUpToDate library' depth) (s : Stream) :
    ExceptT.run (registry.instantiate library' levels' record) s = (r, s) := by
  rcases run_instantiateWith_cases registry record with ⟨r', -, hplain⟩ | ⟨fields, hread⟩
  · have hr : r' = r := congrArg Prod.fst ((hplain library _ s).symm.trans (hrun s))
    rw [← hr]
    exact hplain library' _ s
  have hold := (hread library (registry.builder library levels) s).symm.trans (hrun s)
  refine (hread library' (registry.builder library' levels') s).trans ?_
  rw [ofReadFields, Instance.ofFields_eq] at hold ⊢
  rcases hd : library.find? fields.moduleName with _ | d
  · rw [hd] at hold
    cases hold
    rw [(herror _ rfl).unknownModule _ rfl]
  rw [hd] at hold
  by_cases hfits : fields.Fits d
  · simp only [hfits, if_true] at hold
    obtain ⟨hr, -⟩ := Prod.mk.inj hold
    -- the instance is fresh with both libraries, so expanding it anew gives the same in both
    have hsteady : (fields.core d : Instance SceneObject).definition.IsSteady := hall _ _ hd
    have hfresh : registry.IsFresh library levels
        ((fields.core d).refresh (registry.builder library levels) s).1 :=
      isFresh_refresh hall hsteady s
    obtain ⟨hfind, hnew⟩ := hobject _ hr.symm hfresh (by rwa [Instance.definition_refresh])
    rw [Instance.moduleName_refresh, Instance.definition_refresh] at hfind
    have hfind : library'.find? fields.moduleName = some d := hfind
    have hnew := hnew s
    rw [Instance.refresh_refresh] at hnew
    rw [hfind]
    simp only [hfits, if_true]
    rw [hnew, ← hr]
  · simp only [hfits, if_false] at hold
    cases hold
    obtain ⟨d', hd', hpoints⟩ := (herror _ rfl).wrongPoints _ _ _ rfl
    have hfits' : ¬ fields.Fits d' := fun h => hfits ((fields.fits_congr hpoints).mp h)
    rw [hd']
    simp only [hfits', if_false]
    rw [hpoints, fields.pointsFor_congr hpoints]

/-- The library matters only to an instance that has records. -/
theorem isFresh_or_exists_records {levels levels' : Nat} {inst : Instance SceneObject}
    (hd : inst.definition.IsSteady) :
    (registry.IsFresh library levels inst → registry.IsFresh library' levels' inst) ∨
      ∃ records, inst.placement = .complete ∧
        ∀ s, ExceptT.run inst.expandRecords s = (.ok records, s) := by
  simp only [isFresh_iff]
  cases hp : inst.placement with
  | collecting =>
    refine .inl fun h => ?_
    rwa [Instance.expansion_collecting _ hp] at h ⊢
  | complete =>
    obtain ⟨r, hr⟩ := Instance.steady_expandRecords hd
    cases r with
    | error e =>
      refine .inl fun h s => ?_
      have hold := h s
      rw [Instance.expansion_of_error _ hp (hr s)] at hold ⊢
      exact hold
    | ok records => exact .inr ⟨records, rfl, hr⟩

/-- **What was fresh with some library is fresh with any other for which it is up to date**, also if
more levels are left below it. -/
theorem IsFresh.of_isUpToDate (hall : library.All Definition.IsSteady) {levels : Nat} :
    ∀ {levels' depth : Nat} {inst : Instance SceneObject}, inst.definition.IsSteady →
      registry.IsFresh library levels inst → levels ≤ levels' →
        levels' + depth = Module.maxDepth →
          (∀ inner n, SceneObject.Occurs inner n [.module inst] →
            inner.IsUpToDate library' (depth + n)) →
              registry.IsFresh library' levels' inst := by
  -- the induction goes down the levels of the library for which the instance is fresh
  induction levels with
  | zero =>
    intro levels' depth inst hd hfresh _ hdepth hup
    rcases isFresh_or_exists_records hd with hsame | ⟨records, hp, hr⟩
    · exact hsame hfresh
    rw [isFresh_iff] at hfresh ⊢
    intro s
    -- without levels, the error says so, and it is up to date only where none are left
    have hold := hfresh s
    rw [builder, Instance.expansion_of_none hp (hr s)] at hold
    have herror : inst.lastError = some (.nestingTooDeep Module.maxDepth) :=
      (Prod.mk.inj (Prod.mk.inj hold).1).2.symm
    have hself := hup inst 0 (.top List.mem_cons_self)
    have hmax := (hself.lastError _ herror).nestingTooDeep _ rfl
    obtain rfl : levels' = 0 := by omega
    rw [builder, Instance.expansion_of_none hp (hr s)]
    exact hold
  | succ levels ih =>
    intro levels' depth inst hd hfresh hle hdepth hup
    obtain ⟨levels', rfl⟩ : ∃ n, levels' = n + 1 := ⟨levels' - 1, by omega⟩
    rcases isFresh_or_exists_records hd with hsame | ⟨records, hp, hr⟩
    · exact hsame hfresh
    rw [isFresh_iff] at hfresh ⊢
    have hbuilt : ∀ s, Instance.buildAll (registry.instantiate library levels) records s =
        ((inst.objects, inst.lastError), s) :=
      fun s => (Instance.expansion_of_some hp (hr s)).symm.trans (hfresh s)
    intro s
    refine (Instance.expansion_of_some hp (hr s)).trans ?_
    refine Instance.buildAll_congr (steady_instantiate hall (steady_expansion hall levels))
      (fun record r hrun hobject herror => ?_) (fun _ ho => ho) hbuilt s
    refine run_instantiate_congr hall hrun (fun inner hinner hinnerFresh hinnerSteady => ?_)
      fun e he => (hup inst 0 (.top List.mem_cons_self)).lastError e (herror e he)
    -- an instance inside stands one level deeper, and so does all that it contains
    have hmem : .module inner ∈ inst.objects := hobject _ hinner
    have hinside : ∀ x n, SceneObject.Occurs x n [.module inner] →
        x.IsUpToDate library' (depth + 1 + n) := by
      intro x n hx
      have hocc := hup x (n + 1) (.inside List.mem_cons_self (hx.of_singleton hmem))
      rwa [show depth + 1 + n = depth + (n + 1) by omega]
    refine ⟨(hinside inner 0 (.top List.mem_cons_self)).definition (by omega), ?_⟩
    exact ih hinnerSteady hinnerFresh (by omega) (by omega) hinside

end Registry

/-! ### Scenes -/

namespace Scene

/-- What the expansions of all instances have used is still so, at every depth. -/
def IsUpToDate (s : Scene) : Prop :=
  ∀ inst depth, SceneObject.Occurs inst depth s.objects → inst.IsUpToDate s.library depth

theorem IsUpToDate.of_singletons {s : Scene}
    (h : ∀ outer, .module outer ∈ s.objects → ∀ inst depth,
      SceneObject.Occurs inst depth [.module outer] → inst.IsUpToDate s.library depth) :
    s.IsUpToDate := by
  intro inst depth hi
  cases hi with
  | top hi => exact h inst hi inst 0 (.top List.mem_cons_self)
  | inside ho hi => exact h _ ho inst _ (.inside List.mem_cons_self hi)

variable {s t : Scene} {op : Operation}

/-- **Only two operations can leave something behind**: a module that is defined and an instance
that is taken apart. -/
theorem Effect.isUpToDate (h : Effect s op t) (hs : s.IsUpToDate)
    (hdefine : ∀ name json, op ≠ .define name json)
    (hdemodulize : ∀ index, op ≠ .demodulize index) : t.IsUpToDate := by
  have hlibrary : t.library = s.library := by
    rcases h.library_cases with hl | ⟨name, json, _, _, hop, -⟩
    · exact hl
    · exact absurd hop (hdefine name json)
  refine .of_singletons fun outer ho inst depth hi => ?_
  rcases h.mem_cases ho with ⟨ho, -⟩ | ⟨index, _, hop, -⟩ | ⟨core, u, -, rfl⟩
  · rw [hlibrary]
    exact hs inst depth (hi.of_singleton ho)
  · exact absurd hop (hdemodulize index)
  · exact Registry.isUpToDate_of_occurs hi

/-- **What is up to date stays so** along a run without these two operations. -/
theorem Reachable.isUpToDate_after {ops : List Operation} (h : Reachable s) (hs : s.IsUpToDate)
    (hops : ∀ op ∈ ops, (∀ name json, op ≠ .define name json) ∧ ∀ index, op ≠ .demodulize index) :
    (s.after ops).IsUpToDate := by
  induction ops generalizing s with
  | nil => exact hs
  | cons op ops ih =>
    rw [List.forall_mem_cons] at hops
    obtain ⟨⟨hdefine, hdemodulize⟩, hrest⟩ := hops
    exact ih (.step op h) ((h.effect op).isUpToDate hs hdefine hdemodulize) hrest

theorem mapInstances_eq_self
    {change : Instance SceneObject → StateM Stream (Instance SceneObject)} :
    ∀ {objects : List SceneObject},
      (∀ inst, .module inst ∈ objects → ∀ s, change inst s = (inst, s)) →
        ∀ s, mapInstances change objects s = (objects, s) := by
  intro objects
  induction objects with
  | nil => intro _ s; rfl
  | cons object objects ih =>
    intro h s
    have hrest := ih fun inst hi => h inst (List.mem_cons_of_mem _ hi)
    rcases ho : object.instance? with _ | inst
    · rw [mapInstances_plain change ho, hrest]
    · obtain rfl := SceneObject.instance?_eq_some_iff.mp ho
      rw [mapInstances_module, h inst List.mem_cons_self, hrest]

/-- What is up to date stays as it is when it is expanded again. -/
theorem IsUpToDate.objects_refreshed (h : s.IsUpToDate) (hs : s.Expanded Definition.IsSteady)
    (seed : UInt64) : (s.refreshed seed).objects = s.objects := by
  refine congrArg Prod.fst (mapInstances_eq_self (fun inst hi => ?_) (Stream.ofSeed seed))
  obtain ⟨library, levels, hall, hle, hfresh⟩ := (hs inst hi).exists_isFresh
  refine hfresh.of_isUpToDate hall (hs inst hi).definition hle (Nat.add_zero _)
    fun inner n hinner => ?_
  rw [Nat.zero_add]
  exact h inner n (hinner.of_singleton hi)

/-- **After a refresh, everything is up to date.** -/
theorem isUpToDate_refreshed (s : Scene) (seed : UInt64) : (s.refreshed seed).IsUpToDate := by
  refine .of_singletons fun outer ho inst depth hi => ?_
  obtain ⟨old, u, -, rfl⟩ := exists_of_mem_mapInstances ho
  exact Registry.isUpToDate_of_occurs hi

theorem isUpToDate_of_objects_refreshed {seed : UInt64}
    (h : (s.refreshed seed).objects = s.objects) : s.IsUpToDate := by
  have hup := isUpToDate_refreshed s seed
  unfold IsUpToDate at hup
  rwa [h] at hup

/-- **A refresh changes nothing exactly when all is up to date**, in any run of which the random
stream does not matter to the definitions. -/
theorem refresh_changes_nothing_iff (h : IsStart s) (ops : List Operation)
    (hsteady : ∀ t ∈ s.moments ops, t.library.All Definition.IsSteady) :
    ((s.after ops).perform .refresh).objects = (s.after ops).objects ↔
      (s.after ops).IsUpToDate := by
  rw [perform_refresh]
  constructor
  · exact isUpToDate_of_objects_refreshed
  · intro hup
    have hstart := h.expanded (hsteady s (self_mem_moments s ops))
    exact hup.objects_refreshed (hstart.of_mem_moments hsteady _ (after_mem_moments s ops)) _

/-- Definitions without calls can be told by looking at every library of a run. -/
theorem all_isSteady_of_isArithmetic {ops : List Operation}
    (h : ∀ t ∈ s.moments ops, (t.library.entries.all fun e => e.2.isArithmetic) = true) :
    ∀ t ∈ s.moments ops, t.library.All Definition.IsSteady :=
  fun t ht => Library.all_of_forall_mem fun e he =>
    Definition.isSteady_of_isArithmetic (List.all_eq_true.mp (h t ht) e he)

/-- Two modules.  The second one contains two instances of the first, and its parameter decides
about theirs. -/
def nestedModules : List Operation :=
  [.define "inner"
      (.object
        [("numPoints", .ofNat 1), ("params", .array [.string "b=0:1:9"]),
          ("objs",
            .array
              [.object
                [("type", .string "TextLabel"), ("x", .string "\x60x_1 + b\x60"),
                  ("y", .string "\x60y_1\x60")]])]),
    .define "outer"
      (.object
        [("numPoints", .ofNat 1), ("params", .array [.string "a=1:1:9"]),
          ("vars", .object [("twice", .string "\x602 * a\x60")]),
          ("objs",
            .array
              [.object
                [("for", .string "i=1:1:2"), ("type", .string "ModuleObj"),
                  ("module", .string "inner"),
                  ("points",
                    .array
                      [.object
                        [("x", .string "\x60x_1\x60"), ("y", .string "\x60y_1 + i\x60")]]),
                  ("params", .object [("b", .string "\x60twice\x60")])]])])]

/-- An instance of the second module is placed, and at last its parameter is set. -/
def nestedEdits : List Operation :=
  [.beginPlacement "outer", .place 0 ⟨1, 2⟩, .setParam 0 "a" 3]

/-- After the parameter has been set, the labels inside the instances inside stand where it says,
and a refresh leaves all as it is. -/
theorem refresh_changes_nothing_after_setParam :
    let s := empty.after (nestedModules ++ nestedEdits)
    ((s.objects.flatMap inside).flatMap inside).map labelPosition? =
      [some (7, 3), some (7, 4)] ∧
    (s.perform .refresh).objects = s.objects := by
  refine ⟨by decide +kernel, (refresh_changes_nothing_iff (.empty .standard 0) _ ?_).mpr ?_⟩
  · exact all_isSteady_of_isArithmetic (by decide +kernel)
  · rw [after, List.foldl_append]
    refine ((Reachable.start (.empty .standard 0)).after nestedModules).isUpToDate_after ?_ ?_
    · intro inst depth hi
      have hnone : ((withRegistry .standard 0).after nestedModules).objects = [] :=
        List.isEmpty_iff.mp (by decide +kernel)
      rw [hnone] at hi
      exact absurd hi SceneObject.not_occurs_nil
    · simp [nestedEdits]

/-- After the module inside another one has been defined anew, a refresh gives it an object that it
did not have. -/
theorem not_forall_refresh_changes_nothing :
    ¬ ∀ s ops, IsStart s → (∀ t ∈ s.moments ops, t.library.All Definition.IsSteady) →
      ((s.after ops).perform .refresh).objects = (s.after ops).objects := by
  intro hall
  have heq := hall empty redefinition (.empty .standard 0)
    (all_isSteady_of_isArithmetic (by decide +kernel))
  have hsizes := congrArg (fun objects =>
    (objects.flatMap inside).map fun object => (inside object).length) heq
  exact absurd hsizes (by decide +kernel)

end Scene

end OpticScene
