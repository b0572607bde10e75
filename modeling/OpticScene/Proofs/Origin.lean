import OpticScene.Proofs.Nesting

/-!
# Where instances come from

After an operation, an instance at the top level has either stood there before, or it has come out
of an instance that was taken apart, or it has just been expanded.  In the last case it is one of a
few things before the expansion: an instance of a record, a new one, or one that was there and got
another definition, other points or other parameters.

From this it follows that every instance of a scene, at any depth, is expanded from definitions that
the scene has known at some moment of its history.

## Main definitions

* `Scene.Origin` — what an instance that has just been expanded was before.
* `Module.Library.All` — all definitions of a library have a property.
* `Registry.Expands`, `Scene.Expanded` — an instance, or each one of a scene, is expanded from
  definitions with a property.

## Main results

* `Scene.Effect.mem_cases` — **where the instances at the top level come from.**
* `Scene.IsStart.induct`, `Scene.Reachable.induct` — what holds of blank scenes and is kept by every
  effect holds of every scene that can be reached.
* `Registry.Expands.of_occurs` — **what is true of all definitions that a scene has known is true of
  the definitions of its instances**, at any depth.
-/

namespace OpticScene

open OpticScene.Random (Draws Stream)
open OpticScene.Module (Definition Instance Library)

/-! ### Libraries -/

namespace Module.Library

/-- All definitions of the library have a property. -/
def All (P : Definition → Prop) (library : Library) : Prop :=
  ∀ name d, library.find? name = some d → P d

theorem all_empty (P : Definition → Prop) : empty.All P := fun _ _ h => nomatch h

theorem all_of_forall_mem {P : Definition → Prop} {library : Library}
    (h : ∀ e ∈ library.entries, P e.2) : library.All P :=
  fun _ _ hd => h _ (Named.mem_of_get?_eq_some hd)

theorem find?_insert (library : Library) (name k : String) (d : Definition) :
    (library.insert name d).find? k = if name = k then some d else library.find? k :=
  Named.get?_set name k d library.entries

theorem find?_insert_self (library : Library) (name : String) (d : Definition) :
    (library.insert name d).find? name = some d := by
  rw [find?_insert, if_pos rfl]

theorem All.insert {P : Definition → Prop} {library : Library} (h : library.All P) {d : Definition}
    (hd : P d) (name : String) : (library.insert name d).All P := by
  intro k d' hk
  rw [find?_insert] at hk
  split at hk
  · cases hk
    exact hd
  · exact h k d' hk

end Module.Library

/-! ### Records of instances -/

namespace Module.Instance

/-- An instance that was read from a record has the definition that the library knows. -/
theorem find?_of_ofFields {library : Library} {fields : Fields} {core : Instance SceneObject}
    (h : ofFields library fields = .ok core) :
    library.find? core.moduleName = some core.definition := by
  obtain ⟨d, hd, -, rfl⟩ := ofFields_eq_ok.mp h
  exact hd

end Module.Instance

namespace Registry

variable {registry : Registry} {P : Definition → Prop}

theorem Makes.find? {library : Library} {levels : Nat} {inst : Instance SceneObject}
    (h : registry.Makes library levels inst) :
    library.find? inst.moduleName = some inst.definition := by
  obtain ⟨fields, core, s, hcore, rfl⟩ := h
  rw [Instance.moduleName_refresh, Instance.definition_refresh]
  exact Instance.find?_of_ofFields hcore

/-- An instance is expanded, and all definitions that are used have a property. -/
structure Expands (registry : Registry) (P : Definition → Prop) (inst : Instance SceneObject) :
    Prop where
  /-- The definition of the instance has the property. -/
  definition : P inst.definition
  /-- The instance is expanded with the definitions of some library. -/
  expanded : ∃ (library : Library) (levels : Nat) (core : Instance SceneObject) (s : Stream),
    library.All P ∧ levels ≤ Module.maxDepth ∧
      inst = (core.refresh (registry.builder library levels) s).1

theorem Expands.tidy {inst : Instance SceneObject} (h : registry.Expands P inst) : inst.Tidy := by
  obtain ⟨-, library, levels, core, s, -, -, rfl⟩ := h
  exact Instance.tidy_refresh _ core s

/-- The instances inside come from records, which are read with a library of such definitions. -/
theorem Expands.makes_of_occurs {outer : Instance SceneObject} (h : registry.Expands P outer)
    {inst : Instance SceneObject} {depth : Nat}
    (hi : SceneObject.Occurs inst depth outer.objects) :
    ∃ (library : Library) (levels : Nat),
      library.All P ∧ levels ≤ Module.maxDepth ∧ registry.Makes library levels inst := by
  obtain ⟨-, library, levels, core, s, hall, hle, rfl⟩ := h
  obtain ⟨rest, rfl, hmade⟩ := Registry.makes_of_occurs hi
  exact ⟨library, rest, hall, by omega, hmade⟩

theorem Makes.expands {library : Library} (hall : library.All P) {levels : Nat}
    (hle : levels ≤ Module.maxDepth) {inst : Instance SceneObject}
    (h : registry.Makes library levels inst) : registry.Expands P inst where
  definition := hall _ _ h.find?
  expanded := by
    obtain ⟨fields, core, s, -, rfl⟩ := h
    exact ⟨library, levels, core, s, hall, hle, rfl⟩

/-- **What is true of all definitions that are used is true of the definitions inside**, at any
depth. -/
theorem Expands.of_occurs {outer : Instance SceneObject} (h : registry.Expands P outer)
    {inst : Instance SceneObject} {depth : Nat}
    (hi : SceneObject.Occurs inst depth outer.objects) : registry.Expands P inst := by
  obtain ⟨library, levels, hall, hle, hmade⟩ := h.makes_of_occurs hi
  exact hmade.expands hall hle

end Registry

namespace Scene

/-! ### Changing all instances -/

theorem mapInstances_module (change : Instance SceneObject → StateM Stream (Instance SceneObject))
    (inst : Instance SceneObject) (objects : List SceneObject) (s : Stream) :
    mapInstances change (.module inst :: objects) s =
      (.module (change inst s).1 :: (mapInstances change objects (change inst s).2).1,
        (mapInstances change objects (change inst s).2).2) := rfl

theorem mapInstances_plain (change : Instance SceneObject → StateM Stream (Instance SceneObject))
    {object : SceneObject} (h : object.instance? = none) (objects : List SceneObject) (s : Stream) :
    mapInstances change (object :: objects) s =
      (object :: (mapInstances change objects s).1, (mapInstances change objects s).2) := by
  cases object with
  | module inst => cases h
  | _ => rfl

section

variable (change : Instance SceneObject → StateM Stream (Instance SceneObject))

/-- The place in the random stream once the first `i` objects have been gone through. -/
def streamAfter (objects : List SceneObject) (s : Stream) (i : Nat) : Stream :=
  (mapInstances change (objects.take i) s).2

theorem streamAfter_length (objects : List SceneObject) (s : Stream) :
    streamAfter change objects s objects.length = (mapInstances change objects s).2 := by
  rw [streamAfter, List.take_length]

theorem length_mapInstances (objects : List SceneObject) (s : Stream) :
    (mapInstances change objects s).1.length = objects.length := by
  induction objects generalizing s with
  | nil => rfl
  | cons object objects ih =>
    rcases ho : object.instance? with _ | inst
    · rw [mapInstances_plain change ho]
      exact congrArg (· + 1) (ih s)
    · obtain rfl := SceneObject.instance?_eq_some_iff.mp ho
      exact congrArg (· + 1) (ih (change inst s).2)

/-- **The instances are changed one after the other**, each from the place in the random stream that
is reached once those before it are changed. -/
theorem getElem?_mapInstances {objects : List SceneObject} {s : Stream} {i : Nat}
    {inst : Instance SceneObject} (h : objects[i]? = some (.module inst)) :
    (mapInstances change objects s).1[i]? =
        some (.module (change inst (streamAfter change objects s i)).1) ∧
      streamAfter change objects s (i + 1) =
        (change inst (streamAfter change objects s i)).2 := by
  induction objects generalizing s i with
  | nil => cases h
  | cons object objects ih =>
    cases i with
    | zero =>
      cases h
      exact ⟨rfl, rfl⟩
    | succ i =>
      unfold streamAfter at ih ⊢
      rw [List.take_succ_cons, List.take_succ_cons]
      rcases ho : object.instance? with _ | first
      · simp only [mapInstances_plain change ho]
        exact ih h
      · obtain rfl := SceneObject.instance?_eq_some_iff.mp ho
        exact ih h

/-- Other objects are left alone and draw nothing. -/
theorem getElem?_mapInstances_plain {objects : List SceneObject} {s : Stream} {i : Nat}
    {object : SceneObject} (hplain : object.instance? = none) (h : objects[i]? = some object) :
    (mapInstances change objects s).1[i]? = some object ∧
      streamAfter change objects s (i + 1) = streamAfter change objects s i := by
  induction objects generalizing s i with
  | nil => cases h
  | cons head objects ih =>
    unfold streamAfter at ih ⊢
    cases i with
    | zero =>
      cases h
      rw [mapInstances_plain change hplain, List.take_succ_cons, mapInstances_plain change hplain]
      exact ⟨rfl, rfl⟩
    | succ i =>
      rw [List.take_succ_cons, List.take_succ_cons]
      rcases ho : head.instance? with _ | first
      · simp only [mapInstances_plain change ho]
        exact ih h
      · obtain rfl := SceneObject.instance?_eq_some_iff.mp ho
        exact ih h

end

/-- Every instance was one before it was changed. -/
theorem exists_of_mem_mapInstances
    {change : Instance SceneObject → StateM Stream (Instance SceneObject)}
    {inst : Instance SceneObject} {objects : List SceneObject} {s : Stream}
    (h : .module inst ∈ (mapInstances change objects s).1) :
    ∃ old t, .module old ∈ objects ∧ inst = (change old t).1 := by
  obtain ⟨i, hi⟩ := List.mem_iff_getElem?.mp h
  have hlt := (List.getElem?_eq_some_iff.mp hi).1
  rw [length_mapInstances] at hlt
  have hobject : objects[i]? = some objects[i] := List.getElem?_eq_getElem hlt
  rcases ho : objects[i].instance? with _ | old
  · rw [(getElem?_mapInstances_plain change ho hobject).1] at hi
    rw [Option.some.inj hi] at ho
    cases ho
  · rw [SceneObject.instance?_eq_some_iff.mp ho] at hobject
    rw [(getElem?_mapInstances change hobject).1] at hi
    cases hi
    exact ⟨old, _, List.mem_of_getElem? hobject, rfl⟩

/-! ### Origins -/

/-- `Origin s op library core` says that an operation on `s` expands the instance `core`, with the
modules of the library. -/
inductive Origin (s : Scene) : Operation → Library → Instance SceneObject → Prop
  /-- An instance of a module that gets another definition. -/
  | define {name : String} {json : Json} {d : Definition} {t : Stream}
    {old : Instance SceneObject} :
    ExceptT.run (Definition.ofRecord json) s.stream = (.ok d, t) → .module old ∈ s.objects →
      old.moduleName = name →
        Origin s (.define name json) (s.library.insert name d) (old.rebound d)
  /-- The instance of a record. -/
  | add {record : Json} {fields : Instance.Fields} {core : Instance SceneObject} :
    Instance.ofFields s.library fields = .ok core → Origin s (.add record) s.library core
  /-- A new instance. -/
  | beginPlacement {name : String} {d : Definition} : s.library.find? name = some d →
    Origin s (.beginPlacement name) s.library (Instance.begun name d)
  /-- An instance after an edit. -/
  | edit {op : Operation} {index : Nat} {edit : Instance.Edit} {old core : Instance SceneObject} :
    op.editOf? s = some (index, edit) → s.objects[index]? = some (.module old) →
      edit.change old = .ok core → Origin s op s.library core
  /-- An instance as it was. -/
  | refresh {op : Operation} {old : Instance SceneObject} : .module old ∈ s.objects →
    Origin s op s.library old

/-- The definition is the current one, or it stays what it was. -/
theorem Origin.find?_or_eq {s : Scene} {op : Operation} {library : Library}
    {core : Instance SceneObject} (h : Origin s op library core) :
    library.find? core.moduleName = some core.definition ∨
      library = s.library ∧ ∃ old, .module old ∈ s.objects ∧
        core.moduleName = old.moduleName ∧ core.definition = old.definition := by
  cases h with
  | define hd ho hname =>
    left
    rw [show (Instance.rebound _ _).moduleName = _ from hname]
    exact Library.find?_insert_self _ _ _
  | add hcore => exact .inl (Instance.find?_of_ofFields hcore)
  | beginPlacement hd => exact .inl hd
  | edit _ ho hc =>
    exact .inr ⟨rfl, _, List.mem_of_getElem? ho, Instance.Edit.definition_of_change hc⟩
  | refresh ho => exact .inr ⟨rfl, _, ho, rfl, rfl⟩

namespace Effect

variable {s t : Scene} {op : Operation}

theorem registry_eq (h : Effect s op t) : t.registry = s.registry := by cases h <;> rfl

/-- The library changes only when a module is defined. -/
theorem library_cases (h : Effect s op t) :
    t.library = s.library ∨ ∃ name json d u, op = .define name json ∧
      ExceptT.run (Definition.ofRecord json) s.stream = (.ok d, u) ∧
        t.library = s.library.insert name d := by
  cases h with
  | define name hd => exact .inr ⟨name, _, _, _, rfl, hd, rfl⟩
  | _ => exact .inl rfl

/-- **Where the instances at the top level come from.**  An instance that stays has not been given
another definition, and its module has not got one either. -/
theorem mem_cases (h : Effect s op t) {inst : Instance SceneObject}
    (hi : .module inst ∈ t.objects) :
    (.module inst ∈ s.objects ∧
      t.library.find? inst.moduleName = s.library.find? inst.moduleName) ∨
    (∃ index outer, op = .demodulize index ∧ s.objects[index]? = some (.module outer) ∧
      .module inst ∈ outer.objects) ∨
    ∃ core u, Origin s op t.library core ∧ inst = (core.refresh t.builder u).1 := by
  cases h with
  | idle => exact .inl ⟨hi, rfl⟩
  | @define name _ d _ hd =>
    obtain ⟨old, u, ho, rfl⟩ := exists_of_mem_mapInstances hi
    by_cases hname : old.moduleName = name
    · right; right
      refine ⟨old.rebound d, u, .define hd ho hname, ?_⟩
      rw [rebindNamed, if_pos hname, Instance.rebind_eq]
      rfl
    · left
      rw [rebindNamed, if_neg hname]
      exact ⟨ho, (Library.find?_insert _ _ _ _).trans (if_neg (Ne.symm hname))⟩
  | add hrun =>
    rcases List.mem_append.mp hi with hi | hi
    · exact .inl ⟨hi, rfl⟩
    · obtain rfl := List.mem_singleton.mp hi
      obtain ⟨fields, core, u, hcore, rfl⟩ := Registry.makes_of_run_eq_ok hrun
      exact .inr (.inr ⟨core, u, .add hcore, rfl⟩)
  | beginPlacement hd =>
    rcases List.mem_append.mp hi with hi | hi
    · exact .inl ⟨hi, rfl⟩
    · cases List.mem_singleton.mp hi
      exact .inr (.inr ⟨_, s.stream, .beginPlacement hd, rfl⟩)
  | edit hop ho hc =>
    rcases List.mem_or_eq_of_mem_set hi with hi | hi
    · exact .inl ⟨hi, rfl⟩
    · cases hi
      exact .inr (.inr ⟨_, s.stream, .edit hop ho hc, rfl⟩)
  | @move _ _ object ho hplain =>
    rcases List.mem_or_eq_of_mem_set hi with hi | hi
    · exact .inl ⟨hi, rfl⟩
    -- what was moved is no instance
    · cases object with
      | module => cases hplain
      | _ => cases hi
  | remove => exact .inl ⟨List.mem_of_mem_eraseIdx hi, rfl⟩
  | @demodulize index outer ho =>
    rcases List.mem_append.mp hi with hi | hi
    · rcases List.mem_append.mp hi with hi | hi
      · exact .inl ⟨List.mem_of_mem_take hi, rfl⟩
      · exact .inr (.inl ⟨index, outer, rfl, ho, hi⟩)
    · exact .inl ⟨List.mem_of_mem_drop hi, rfl⟩
  | refresh =>
    obtain ⟨old, u, ho, rfl⟩ := exists_of_mem_mapInstances hi
    exact .inr (.inr ⟨old, u, .refresh ho, rfl⟩)
  | reseed =>
    obtain ⟨old, u, ho, rfl⟩ := exists_of_mem_mapInstances hi
    exact .inr (.inr ⟨old, u, .refresh ho, rfl⟩)

end Effect

/-! ### Known definitions -/

/-- Every instance is expanded, and all definitions that are used have a property. -/
def Expanded (P : Definition → Prop) (s : Scene) : Prop :=
  ∀ inst, .module inst ∈ s.objects → s.registry.Expands P inst

variable {P : Definition → Prop}

theorem Expanded.tidy {s : Scene} (h : s.Expanded P) (inst : Instance SceneObject)
    (hi : .module inst ∈ s.objects) : inst.Tidy := (h inst hi).tidy

theorem Expanded.of_objects_eq_nil {s : Scene} (h : s.objects = []) : s.Expanded P := by
  intro inst hi
  rw [h] at hi
  exact absurd hi List.not_mem_nil

/-- What is true of every definition that can be read stays true of those of the library. -/
theorem Effect.library_all {s t : Scene} {op : Operation} (h : Effect s op t)
    (hread : ∀ json d u v, ExceptT.run (Definition.ofRecord json) u = (.ok d, v) → P d)
    (hs : s.library.All P) : t.library.All P := by
  rcases h.library_cases with hl | ⟨name, json, d, u, -, hd, hl⟩
  · exact hl ▸ hs
  · exact hl ▸ hs.insert (hread json d _ u hd) name

/-- An operation uses no definitions but those that were used before and those of the library. -/
theorem Effect.expanded {s t : Scene} {op : Operation} (h : Effect s op t) (hs : s.Expanded P)
    (hall : t.library.All P) : t.Expanded P := by
  intro inst hi
  rw [h.registry_eq]
  rcases h.mem_cases hi with ⟨hi, -⟩ | ⟨index, outer, -, ho, hi⟩ | ⟨core, u, horigin, rfl⟩
  · exact hs inst hi
  · exact (hs outer (List.mem_of_getElem? ho)).of_occurs (.top hi)
  · refine ⟨?_, t.library, Module.maxDepth, core, u, hall, Nat.le_refl _, ?_⟩
    · rw [Instance.definition_refresh]
      rcases horigin.find?_or_eq with hd | ⟨-, old, ho, -, hd⟩
      · exact hall _ _ hd
      · rw [hd]
        exact (hs old ho).definition
    · rw [builder, h.registry_eq]

/-! ### Starts -/

theorem objects_perform_define {s : Scene} (h : s.objects = []) (name : String) (json : Json) :
    (s.perform (.define name json)).objects = [] := by
  rcases hd : ExceptT.run (Definition.ofRecord json) s.stream with ⟨e | d, t⟩
  · rw [perform_define_of_error hd]
    exact h
  · rw [perform_define_of_ok hd, defined, changed, h]
    rfl

section

variable {Q : Scene → Prop}

/-- What definitions keep in a scene without objects holds after the modules of a document. -/
theorem of_run_defineAll
    (hdefine : ∀ s name json, s.objects = [] → Q s → Q (s.perform (.define name json))) :
    ∀ {modules : List (String × Json)} {s t : Scene}, s.objects = [] → Q s →
      ExceptT.run (defineAll modules) s = (.ok (), t) → t.objects = [] ∧ Q t := by
  intro modules
  induction modules with
  | nil => intro s t hs hq h; cases h; exact ⟨hs, hq⟩
  | cons entry modules ih =>
    obtain ⟨name, json⟩ := entry
    intro s t hs hq h
    obtain ⟨d, u, hd, h⟩ := run_bind_eq_ok.mp h
    have hu : u = s.perform (.define name json) :=
      (congrArg Prod.snd hd).symm.trans (perform_of_edit rfl s).symm
    subst hu
    exact ih (objects_perform_define hs name json) (hdefine s name json hs hq) h

/-- What additions keep holds after the objects of a document. -/
theorem of_run_addAll (hadd : ∀ s record, Q s → Q (s.perform (.add record))) :
    ∀ {records : List Json} {s t : Scene}, Q s →
      ExceptT.run (addAll records) s = (.ok (), t) → Q t := by
  intro records
  induction records with
  | nil => intro s t hq h; cases h; exact hq
  | cons record records ih =>
    intro s t hq h
    obtain ⟨index, u, hi, h⟩ := run_bind_eq_ok.mp h
    have hu : u = s.perform (.add record) :=
      (congrArg Prod.snd hi).symm.trans (perform_of_edit rfl s).symm
    subst hu
    exact ih (hadd s record hq) h

/-- **A run starts from a scene without objects and modules**, to which modules and then objects
have been added. -/
theorem IsStart.induct
    (hblank : ∀ s, IsStart s → s.objects = [] → s.library = .empty → Q s)
    (hdefine : ∀ s name json, s.objects = [] → Q s → Q (s.perform (.define name json)))
    (hadd : ∀ s record, Q s → Q (s.perform (.add record))) {s : Scene} (h : IsStart s) : Q s := by
  cases h with
  | empty registry seed => exact hblank _ (.empty registry seed) rfl rfl
  | @document doc _ h =>
    -- what comes before the modules is the scene of a document without any
    have hload : ofDocument ⟨[], [], doc.seed, doc.gridSize⟩ =
        .ok { withSeed doc.seed with gridSize := doc.gridSize } := rfl
    unfold ofDocument at h
    dsimp only [Scene.run] at h
    split at h
    next result scene hrun =>
    cases result with
    | error e => cases h
    | ok a =>
      cases h
      obtain ⟨a, u, hmodules, hobjects⟩ := run_bind_eq_ok.mp hrun
      obtain ⟨-, hq⟩ := of_run_defineAll hdefine rfl (hblank _ (.document hload) rfl rfl) hmodules
      exact of_run_addAll hadd hq hobjects

end

theorem IsStart.expanded {s : Scene} (h : IsStart s) : s.library.All P → s.Expanded P := by
  refine IsStart.induct (Q := fun s => s.library.All P → s.Expanded P) ?_ ?_ ?_ h
  · intro s _ hs _ _
    exact .of_objects_eq_nil hs
  · intro s name json hs _ _
    exact .of_objects_eq_nil (objects_perform_define hs name json)
  · intro s record ih hall
    -- an addition keeps the modules, so those after it are those before it
    rcases h : ExceptT.run (s.registry.instantiate s.library Module.maxDepth record) s.stream with
      ⟨e | object, t⟩
    · rw [perform_add_of_error h] at hall ⊢
      exact ih hall
    · rw [perform_add_of_ok h] at hall ⊢
      exact (Effect.add h).expanded (ih hall) hall

/-! ### Runs -/

theorem self_mem_moments (s : Scene) (ops : List Operation) : s ∈ s.moments ops := by
  cases ops <;> exact List.mem_cons_self

theorem after_mem_moments (s : Scene) (ops : List Operation) : s.after ops ∈ s.moments ops := by
  induction ops generalizing s with
  | nil => exact List.mem_cons_self
  | cons op ops ih => exact List.mem_cons_of_mem _ (ih (s.perform op))

theorem Expanded.of_mem_moments {ops : List Operation} :
    ∀ {s : Scene}, s.Expanded P → (∀ t ∈ s.moments ops, t.library.All P) →
      ∀ t ∈ s.moments ops, t.Expanded P := by
  induction ops with
  | nil =>
    intro s hs _ t ht
    obtain rfl := List.mem_singleton.mp ht
    exact hs
  | cons op ops ih =>
    intro s hs hall t ht
    rcases List.mem_cons.mp ht with rfl | ht
    · exact hs
    · have hrest : ∀ t ∈ (s.perform op).moments ops, t.library.All P :=
        fun t ht => hall t (List.mem_cons_of_mem _ ht)
      have hnext := (effect_perform hs.tidy op).expanded hs (hrest _ (self_mem_moments _ ops))
      exact ih hnext hrest t ht

theorem Reachable.expanded_true {s : Scene} (h : Reachable s) : s.Expanded fun _ => True := by
  induction h with
  | start hs => exact hs.expanded fun _ _ _ => trivial
  | step op _ ih => exact (effect_perform ih.tidy op).expanded ih fun _ _ _ => trivial

theorem Reachable.tidy {s : Scene} (h : Reachable s) (inst : Instance SceneObject)
    (hi : .module inst ∈ s.objects) : inst.Tidy := h.expanded_true.tidy inst hi

theorem Reachable.effect {s : Scene} (h : Reachable s) (op : Operation) :
    Effect s op (s.perform op) := effect_perform h.tidy op

/-- What loading a document keeps holds where runs start. -/
theorem IsStart.of_loads {Q : Scene → Prop}
    (hblank : ∀ s, s.objects = [] → s.library = .empty → Q s)
    (hstep : ∀ s op, Reachable s → Q s → op.loads = true → Q (s.perform op)) {s : Scene}
    (h : IsStart s) : Q s := by
  have hperform : ∀ s op, Reachable s ∧ Q s → op.loads = true →
      Reachable (s.perform op) ∧ Q (s.perform op) :=
    fun s op ⟨hs, hq⟩ hop => ⟨.step op hs, hstep s op hs hq hop⟩
  have hboth : Reachable s ∧ Q s :=
    IsStart.induct (Q := fun s => Reachable s ∧ Q s)
      (fun s hs ho hl => ⟨.start hs, hblank s ho hl⟩)
      (fun s name json _ hs => hperform s (.define name json) hs rfl)
      (fun s record hs => hperform s (.add record) hs rfl) h
  exact hboth.2

/-- **What holds without objects and modules and is kept by every effect holds of every scene that
can be reached.** -/
theorem Reachable.induct {Q : Scene → Prop}
    (hblank : ∀ s, s.objects = [] → s.library = .empty → Q s)
    (hstep : ∀ s op t, Reachable s → Q s → Effect s op t → Q t) {s : Scene} (h : Reachable s) :
    Q s := by
  induction h with
  | start hs => exact hs.of_loads hblank fun s op hr hq _ => hstep s op _ hr hq (hr.effect op)
  | step op hr ih => exact hstep _ op _ hr ih (hr.effect op)

/-- What is true of every definition that can be read is true of all definitions that are used. -/
theorem Reachable.expanded
    (hread : ∀ json d s t, ExceptT.run (Definition.ofRecord json) s = (.ok d, t) → P d) {s : Scene}
    (h : Reachable s) : s.library.All P ∧ s.Expanded P := by
  refine Reachable.induct (Q := fun s => s.library.All P ∧ s.Expanded P) ?_ ?_ h
  · intro s ho hl
    rw [hl]
    exact ⟨Library.all_empty P, .of_objects_eq_nil ho⟩
  · intro s op t _ hs he
    have hall := he.library_all hread hs.1
    exact ⟨hall, he.expanded hs.2 hall⟩

theorem Reachable.of_mem_moments {ops : List Operation} :
    ∀ {s : Scene}, Reachable s → ∀ t ∈ s.moments ops, Reachable t := by
  induction ops with
  | nil =>
    intro s hs t ht
    obtain rfl := List.mem_singleton.mp ht
    exact hs
  | cons op ops ih =>
    intro s hs t ht
    rcases List.mem_cons.mp ht with rfl | ht
    · exact hs
    · exact ih (.step op hs) t ht

theorem Reachable.after {s : Scene} (h : Reachable s) (ops : List Operation) :
    Reachable (s.after ops) := h.of_mem_moments _ (after_mem_moments s ops)

theorem Reachable.registry_after {s : Scene} (h : Reachable s) (ops : List Operation) :
    (s.after ops).registry = s.registry := by
  induction ops generalizing s with
  | nil => rfl
  | cons op ops ih => exact (ih (.step op h)).trans (h.effect op).registry_eq

/-- When each step either keeps a property or is a bad one, it holds along a run exactly when no
step is bad. -/
theorem forall_moments_iff {Q : Scene → Prop} {Bad : Scene → Operation → Prop}
    (hstep : ∀ s op, Reachable s → Q s → (Q (s.perform op) ↔ ¬ Bad s op))
    (ops : List Operation) : ∀ {s : Scene}, Reachable s → Q s →
      ((∀ t ∈ s.moments ops, Q t) ↔ ∀ p ∈ s.steps ops, ¬ Bad p.1 p.2) := by
  induction ops with
  | nil =>
    intro s _ hq
    simp only [moments, steps, List.mem_singleton, forall_eq, hq, List.not_mem_nil, false_imp_iff,
      implies_true]
  | cons op ops ih =>
    intro s hs hq
    rw [moments, steps, List.forall_mem_cons, List.forall_mem_cons]
    by_cases hb : Bad s op
    -- a bad step breaks the property in the very next scene; otherwise the rest of the run decides
    · have hnext : ¬ Q (s.perform op) := fun h => (hstep s op hs hq).mp h hb
      constructor
      · rintro ⟨-, h⟩
        exact absurd (h _ (self_mem_moments _ ops)) hnext
      · rintro ⟨h, -⟩
        exact absurd hb h
    · have hnext : Q (s.perform op) := (hstep s op hs hq).mpr hb
      rw [ih (.step op hs) hnext]
      exact ⟨fun h => ⟨hb, h.2⟩, fun h => ⟨hq, h.2⟩⟩

end Scene

end OpticScene
