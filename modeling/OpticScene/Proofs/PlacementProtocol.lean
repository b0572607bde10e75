import OpticScene.Proofs.ControlPoints
import OpticScene.Proofs.Parameters

/-!
# The placement of instances

An instance is placed point by point.  While points are missing it holds nothing but what has been
entered: it has neither objects nor an error.  The last point completes it, and from then on it
stays complete, whatever happens to its module.  A new definition changes the number of points that
an instance needs, and with it the points that it has.

Instances are not only made by the operations of their scene: an object of one scene may be added to
another one, or once more to its own.

## Main definitions

* `Instance.IsPlaced` — the points, the parameters and the objects of an instance are those that
  belong to its placement.
* `Instance.FollowsProtocol` — what placing a point does to an instance, and what does not undo it.
* `Scene.Attainable` — the scenes that runs lead to when objects are taken over from others.
* `Operation.position` — where an operation leaves the object with an index.

## Main results

* `Scene.Effect.isPlaced` — **every operation keeps all instances placed**, at any depth.
* `Scene.IsPlaced.keepsComplete` — no operation takes a complete instance back.
* `Scene.Attainable.placement_protocol` — the protocol as a whole.
-/

namespace OpticScene

open OpticScene.Random (Draws Stream)
open OpticScene.Module (Builder Definition Instance Library Placement)

/-! ### Parameters -/

namespace Module.Instance

variable {Obj : Type}

/-- The parameters of an instance are some of those that its definition declares, in any order, and
none stands twice. -/
structure HasOwnParams (inst : Instance Obj) : Prop where
  /-- The definition is one that can be read. -/
  read : inst.definition.IsRead
  /-- None stands twice. -/
  nodup : (Named.names inst.params).Nodup
  /-- All are declared. -/
  declared : ∀ name ∈ Named.names inst.params, name ∈ inst.definition.declared

theorem HasOwnParams.of_names {inst : Instance Obj} (hd : inst.definition.IsRead)
    (h : Named.names inst.params = inst.definition.declared) : inst.HasOwnParams where
  read := hd
  nodup := h ▸ hd.nodup_declared
  declared := fun _ hname => h ▸ hname

theorem HasOwnParams.of_nil {inst : Instance Obj} (hd : inst.definition.IsRead)
    (h : inst.params = []) : inst.HasOwnParams where
  read := hd
  nodup := by rw [h]; exact List.nodup_nil
  declared := by rw [h]; exact fun _ hname => absurd hname List.not_mem_nil

/-- Only the parameters and the definition matter. -/
theorem HasOwnParams.of_eq {inst core : Instance Obj} (h : inst.HasOwnParams)
    (hparams : core.params = inst.params) (hd : core.definition = inst.definition) :
    core.HasOwnParams where
  read := by rw [hd]; exact h.read
  nodup := by rw [hparams]; exact h.nodup
  declared := by rw [hparams, hd]; exact h.declared

theorem hasOwnParams_core (fields : Fields) {d : Definition} (hd : d.IsRead) :
    (fields.core d : Instance Obj).HasOwnParams := by
  have hparams : (fields.core d : Instance Obj).params = fields.paramsFor d := rfl
  -- a record without parameters gives the defaults, or none while points are missing
  unfold Fields.paramsFor at hparams
  split at hparams
  · exact .of_names hd (by rw [hparams, names_resolveParams]; exact hd.names_defaults)
  · split at hparams
    · exact .of_nil hd hparams
    · exact .of_names hd (by rw [hparams]; exact hd.names_defaults)

theorem hasOwnParams_begun (name : String) {d : Definition} (hd : d.IsRead) :
    (begun name d : Instance Obj).HasOwnParams := by
  by_cases h : d.numPoints = 0
  · refine .of_names hd ?_
    rw [begun, if_pos h]
    exact hd.names_defaults
  · exact .of_nil hd (if_neg h)

theorem hasOwnParams_rebound {d : Definition} (hd : d.IsRead) (inst : Instance Obj) :
    (inst.rebound d).HasOwnParams :=
  .of_names hd ((names_resolveParams d inst.params).trans hd.names_defaults)

theorem HasOwnParams.of_change {inst core : Instance Obj} {edit : Edit} (h : inst.HasOwnParams)
    (hc : edit.change inst = .ok core) : core.HasOwnParams := by
  rcases Edit.cases_of_change hc with ⟨p, -, -, rfl⟩ | ⟨delta, -, rfl⟩ | ⟨index, p, -, -, rfl⟩ |
    ⟨name, x, -, hname, rfl⟩
  -- the last point gives the defaults if nothing was set before
  · by_cases hdefaults : inst.lacksOne ∧ inst.params = []
    · refine .of_names h.read ?_
      rw [placed, if_pos hdefaults]
      exact h.read.names_defaults
    · exact h.of_eq (if_neg hdefaults) rfl
  · exact h.of_eq rfl rfl
  · exact h.of_eq rfl rfl
  -- a name that is new comes last, and it is a declared one
  · refine ⟨h.read, Named.nodup_names_set _ _ h.nodup, fun k hk => ?_⟩
    dsimp only at hk
    rw [Named.names_set] at hk
    split at hk
    · exact h.declared k hk
    · rcases List.mem_append.mp hk with hk | hk
      · exact h.declared k hk
      · rw [List.mem_singleton.mp hk]
        exact (h.read.declares_iff name).mp hname

/-! ### Placed instances -/

/-- What an instance has belongs to its placement. -/
structure IsPlaced (inst : Instance Obj) : Prop where
  /-- A complete instance has all its points, and no other one has. -/
  points : inst.HasPoints
  /-- The parameters are declared ones. -/
  params : inst.HasOwnParams
  /-- While points are missing there are neither objects nor an error. -/
  tidy : inst.Tidy

theorem isPlaced_refresh {core : Instance Obj} (hpoints : core.HasPoints)
    (hparams : core.HasOwnParams) (builder : Builder Obj) (s : Stream) :
    (core.refresh builder s).1.IsPlaced where
  points := hpoints.refresh builder s
  params := hparams.of_eq (params_refresh ..) (definition_refresh ..)
  tidy := tidy_refresh builder core s

/-- An instance is still one of the same module, and still complete if it has been. -/
structure KeepsComplete (inst inst' : Instance Obj) : Prop where
  /-- The module is the same. -/
  moduleName_eq : inst'.moduleName = inst.moduleName
  /-- A complete instance is complete afterwards. -/
  complete : inst.placement = .complete → inst'.placement = .complete

theorem KeepsComplete.refl (inst : Instance Obj) : inst.KeepsComplete inst := ⟨rfl, id⟩

theorem KeepsComplete.refresh {inst core : Instance Obj} (h : inst.KeepsComplete core)
    (builder : Builder Obj) (s : Stream) : inst.KeepsComplete (core.refresh builder s).1 where
  moduleName_eq := (moduleName_refresh ..).trans h.moduleName_eq
  complete := fun hc => (placement_refresh ..).trans (h.complete hc)

theorem keepsComplete_rebound (d : Definition) (inst : Instance Obj) :
    inst.KeepsComplete (inst.rebound d) where
  moduleName_eq := rfl
  complete := fun hc => if_neg fun h => by rw [hc] at h; cases h.1

theorem keepsComplete_of_change {inst core : Instance Obj} {edit : Edit}
    (h : edit.change inst = .ok core) : inst.KeepsComplete core := by
  refine ⟨(Edit.definition_of_change h).1, fun hc => ?_⟩
  rcases Edit.cases_of_change h with ⟨p, -, hp, -⟩ | ⟨delta, -, rfl⟩ | ⟨index, p, -, -, rfl⟩ |
    ⟨name, x, -, -, rfl⟩
  · rw [hc] at hp
    cases hp
  · exact hc
  · exact hc
  · exact hc

/-- What can be done with an instance, whatever makes its objects. -/
structure FollowsProtocol (inst : Instance Obj) : Prop where
  /-- While points are missing, one more point can be placed.  It comes last, and the instance is
  complete when there are as many as its definition asks for. -/
  accepts : inst.placement = .collecting → ∀ (builder : Builder Obj) (p : Point) (s : Stream),
    ∃ inst' t, ExceptT.run (inst.place builder p) s = (.ok inst', t) ∧
      inst'.moduleName = inst.moduleName ∧ inst'.definition = inst.definition ∧
        inst'.points = inst.points ++ [p] ∧
          (inst'.placement = .complete ↔ inst'.points.length = inst.definition.numPoints)
  /-- A complete instance takes no more points. -/
  refuses : inst.placement = .complete → ∀ (builder : Builder Obj) (p : Point) (s : Stream),
    ExceptT.run (inst.place builder p) s = (.error .placementComplete, s)
  /-- It stays complete when it is edited. -/
  edited : inst.placement = .complete → ∀ (builder : Builder Obj) (edit : Edit) s inst' t,
    ExceptT.run (edit.apply builder inst) s = (.ok inst', t) → inst'.placement = .complete
  /-- It stays complete when it gets another definition. -/
  rebound : inst.placement = .complete → ∀ (builder : Builder Obj) (d : Definition) (s : Stream),
    (inst.rebind builder d s).1.placement = .complete
  /-- It stays complete when it is expanded anew. -/
  refreshed : inst.placement = .complete → ∀ (builder : Builder Obj) (s : Stream),
    (inst.refresh builder s).1.placement = .complete

/-- The point that is placed completes the instance exactly when it is the last one. -/
theorem HasPoints.placement_placed {inst : Instance Obj} (h : inst.HasPoints)
    (hc : inst.placement = .collecting) (p : Point) :
    (inst.placed p).placement = .complete ↔
      (inst.placed p).points.length = inst.definition.numPoints := by
  have hplaced := h.placed hc p
  refine ⟨hplaced.complete, fun hlength => ?_⟩
  cases hp : (inst.placed p).placement with
  | complete => rfl
  | collecting => exact absurd hlength (Nat.ne_of_lt (hplaced.collecting hp))

theorem IsPlaced.followsProtocol {inst : Instance Obj} (h : inst.IsPlaced) :
    inst.FollowsProtocol where
  accepts := by
    intro hc builder p s
    refine ⟨_, _, run_place builder p h.tidy hc s, ?_⟩
    rw [moduleName_refresh, definition_refresh, points_refresh, placement_refresh]
    exact ⟨rfl, rfl, rfl, h.points.placement_placed hc p⟩
  refuses := fun hc builder p s => run_place_complete builder p hc s
  edited := by
    intro hc builder edit s inst' t hrun
    rcases hchange : edit.change inst with e | core
    · rw [run_apply_of_error builder hchange] at hrun
      cases hrun
    · rw [run_apply_of_ok builder h.tidy hchange] at hrun
      cases hrun
      exact ((keepsComplete_of_change hchange).refresh builder s).complete hc
  rebound := by
    intro hc builder d s
    rw [rebind_eq]
    exact ((keepsComplete_rebound d inst).refresh builder s).complete hc
  refreshed := fun hc builder s => ((KeepsComplete.refl inst).refresh builder s).complete hc

end Module.Instance

theorem Registry.Makes.isPlaced {registry : Registry} {library : Library}
    (hall : library.All Definition.IsRead) {levels : Nat} {inst : Instance SceneObject}
    (h : registry.Makes library levels inst) : inst.IsPlaced := by
  obtain ⟨fields, core, s, hcore, rfl⟩ := h
  obtain ⟨d, hd, hfits, rfl⟩ := Instance.ofFields_eq_ok.mp hcore
  exact Instance.isPlaced_refresh (Instance.hasPoints_core hfits)
    (Instance.hasOwnParams_core fields (hall _ _ hd)) _ s

namespace Scene

/-! ### Placed scenes -/

/-- All instances of a scene are placed, at any depth, and so are those that its modules make. -/
structure IsPlaced (s : Scene) : Prop where
  /-- The definitions of the library can be read. -/
  library : s.library.All Definition.IsRead
  /-- The instances are placed. -/
  instances : ∀ inst depth, SceneObject.Occurs inst depth s.objects → inst.IsPlaced

variable {s t : Scene} {op : Operation}

theorem IsPlaced.of_objects_eq_nil (ho : s.objects = []) (hl : s.library.All Definition.IsRead) :
    s.IsPlaced where
  library := hl
  instances := by
    intro inst depth hi
    rw [ho] at hi
    exact absurd hi SceneObject.not_occurs_nil

theorem IsPlaced.tidy (h : s.IsPlaced) (inst : Instance SceneObject)
    (hi : .module inst ∈ s.objects) : inst.Tidy := (h.instances inst 0 (.top hi)).tidy

theorem Origin.isPlaced {library : Library} {core : Instance SceneObject}
    (h : Origin s op library core) (hs : s.IsPlaced) (builder : Builder SceneObject)
    (u : Stream) : (core.refresh builder u).1.IsPlaced := by
  have hplaced : ∀ inst, .module inst ∈ s.objects → inst.IsPlaced :=
    fun inst hi => hs.instances inst 0 (.top hi)
  refine Instance.isPlaced_refresh (h.hasPoints fun inst hi => (hplaced inst hi).points) ?_ _ u
  cases h with
  | define hd => exact Instance.hasOwnParams_rebound (Module.Definition.isRead_of_run hd) _
  | add hcore =>
    obtain ⟨d, hd, -, rfl⟩ := Instance.ofFields_eq_ok.mp hcore
    exact Instance.hasOwnParams_core _ (hs.library _ _ hd)
  | beginPlacement hd => exact Instance.hasOwnParams_begun _ (hs.library _ _ hd)
  | edit _ ho hc => exact (hplaced _ (List.mem_of_getElem? ho)).params.of_change hc
  | refresh ho => exact (hplaced _ ho).params

/-- **Every operation keeps all instances placed**, at any depth. -/
theorem Effect.isPlaced (h : Effect s op t) (hs : s.IsPlaced) : t.IsPlaced := by
  have hlibrary : t.library.All Definition.IsRead :=
    h.library_all (fun _ _ _ _ hd => Module.Definition.isRead_of_run hd) hs.library
  refine ⟨hlibrary, fun inst depth hi => ?_⟩
  cases hi with
  | top hi =>
    rcases h.mem_cases hi with ⟨hi, -⟩ | ⟨index, outer, -, ho, hi⟩ | ⟨core, u, horigin, rfl⟩
    · exact hs.instances inst 0 (.top hi)
    · exact hs.instances inst 1 (.inside (List.mem_of_getElem? ho) (.top hi))
    · exact horigin.isPlaced hs _ u
  | @inside _ middle depth hm hi =>
    rcases h.mem_cases hm with ⟨hm, -⟩ | ⟨index, outer, -, ho, hm⟩ | ⟨core, u, -, rfl⟩
    · exact hs.instances inst (depth + 1) (.inside hm hi)
    · exact hs.instances inst (depth + 2) (.inside (List.mem_of_getElem? ho) (.inside hm hi))
    -- what has just been expanded is made with the modules that there are now
    · obtain ⟨rest, -, hmade⟩ := Registry.makes_of_occurs hi
      exact hmade.isPlaced hlibrary

theorem IsPlaced.perform (h : s.IsPlaced) (op : Operation) : (s.perform op).IsPlaced :=
  (effect_perform h.tidy op).isPlaced h

theorem IsStart.isPlaced (h : IsStart s) : s.IsPlaced := by
  refine IsStart.induct (Q := IsPlaced) ?_ ?_ ?_ h
  · intro s _ ho hl
    exact .of_objects_eq_nil ho (hl ▸ Library.all_empty _)
  · intro s name json _ hs
    exact hs.perform (.define name json)
  · intro s record hs
    exact hs.perform (.add record)

/-- The scenes that runs lead to when an object of one scene may be added to another one. -/
inductive Attainable : Scene → Prop
  /-- The start of a run. -/
  | start {s : Scene} : IsStart s → Attainable s
  /-- One more operation. -/
  | step {s : Scene} (op : Operation) : Attainable s → Attainable (s.perform op)
  /-- An object comes from such a scene. -/
  | adopt {s t : Scene} {object : SceneObject} : Attainable s → Attainable t →
    object ∈ t.objects → Attainable { s with objects := s.objects ++ [object] }

theorem Reachable.attainable (h : Reachable s) : Attainable s := by
  induction h with
  | start hs => exact .start hs
  | step op _ ih => exact .step op ih

theorem IsPlaced.adopt (hs : s.IsPlaced) (ht : t.IsPlaced) {object : SceneObject}
    (ho : object ∈ t.objects) : IsPlaced { s with objects := s.objects ++ [object] } where
  library := hs.library
  instances := by
    intro inst depth hi
    cases hi with
    | top hi =>
      rcases List.mem_append.mp hi with hi | hi
      · exact hs.instances inst 0 (.top hi)
      · rw [← List.mem_singleton.mp hi] at ho
        exact ht.instances inst 0 (.top ho)
    | inside hm hi =>
      rcases List.mem_append.mp hm with hm | hm
      · exact hs.instances inst _ (.inside hm hi)
      · rw [← List.mem_singleton.mp hm] at ho
        exact ht.instances inst _ (.inside ho hi)

theorem Attainable.isPlaced (h : Attainable s) : s.IsPlaced := by
  induction h with
  | start hs => exact hs.isPlaced
  | step op _ ih => exact ih.perform op
  | adopt _ _ ho ihs iht => exact ihs.adopt iht ho

/-! ### Positions -/

/-- The position of what had the index `i` in a list, once the element at `index` has been replaced
by `n` others. -/
def shifted (index n i : Nat) : Option Nat :=
  if i < index then some i else if i = index then none else some (i - 1 + n)

/-- Where an operation leaves the object with an index, unless it takes it away. -/
def Operation.position (s : Scene) : Operation → Nat → Option Nat
  | .remove index, i => shifted index 0 i
  | .demodulize index, i =>
    match s.objects[index]?.bind SceneObject.instance? with
    | none => some i
    | some outer => shifted index outer.objects.length i
  | _, i => some i

theorem getElem?_of_shifted {α : Type} {as new : List α} {index i j : Nat} {a : α}
    (hi : as[i]? = some a) (hj : shifted index new.length i = some j) :
    (as.take index ++ new ++ as.drop (index + 1))[j]? = some a := by
  have hlt : i < as.length := (List.getElem?_eq_some_iff.mp hi).1
  unfold shifted at hj
  split at hj
  -- before the element that is replaced, nothing moves
  · next h =>
    cases hj
    rw [List.append_assoc, List.getElem?_append_left (by rw [List.length_take]; omega),
      List.getElem?_take_of_lt h, hi]
  · split at hj
    · cases hj
    -- behind it, one element has gone and the new ones have come
    · next hge hne =>
      cases hj
      have hlength : (as.take index ++ new).length = index + new.length := by
        rw [List.length_append, List.length_take]
        omega
      rw [List.getElem?_append_right (by omega), hlength, List.getElem?_drop, ← hi]
      congr 1
      omega

theorem exists_getElem?_mapInstances
    {change : Instance SceneObject → StateM Stream (Instance SceneObject)}
    {inst : Instance SceneObject} {objects : List SceneObject} {i : Nat} {s : Stream}
    (h : objects[i]? = some (.module inst)) :
    ∃ u, (mapInstances change objects s).1[i]? = some (.module (change inst u).1) :=
  ⟨_, (getElem?_mapInstances change h).1⟩

/-- Apart from a removal, every operation leaves the instances where they are. -/
theorem Effect.exists_getElem? (h : Effect s op t) (hremove : ∀ k, op ≠ .remove k)
    (hdemodulize : ∀ k, op ≠ .demodulize k) {i : Nat} {inst : Instance SceneObject}
    (hi : s.objects[i]? = some (.module inst)) :
    ∃ inst', t.objects[i]? = some (.module inst') ∧ inst.KeepsComplete inst' := by
  have hlt : i < s.objects.length := (List.getElem?_eq_some_iff.mp hi).1
  cases h with
  | idle => exact ⟨inst, hi, .refl inst⟩
  | @define name _ d _ hd =>
    obtain ⟨u, hu⟩ := exists_getElem?_mapInstances hi
    refine ⟨_, hu, ?_⟩
    unfold rebindNamed
    split
    · rw [Instance.rebind_eq]
      exact (Instance.keepsComplete_rebound d inst).refresh _ u
    · exact .refl inst
  | add => exact ⟨inst, (List.getElem?_append_left hlt).trans hi, .refl inst⟩
  | beginPlacement => exact ⟨inst, (List.getElem?_append_left hlt).trans hi, .refl inst⟩
  | @edit _ index _ old core _ ho hc =>
    by_cases h : index = i
    · subst h
      cases hi.symm.trans ho
      exact ⟨_, List.getElem?_set_self hlt, (Instance.keepsComplete_of_change hc).refresh _ _⟩
    · exact ⟨inst, (List.getElem?_set_ne h).trans hi, .refl inst⟩
  | @move index _ object ho hplain =>
    -- what was moved is no instance, so it stands elsewhere
    have hne : index ≠ i := by
      rintro rfl
      cases hi.symm.trans ho
      cases hplain
    exact ⟨inst, (List.getElem?_set_ne hne).trans hi, .refl inst⟩
  | remove index => exact absurd rfl (hremove index)
  | demodulize => exact absurd rfl (hdemodulize _)
  | refresh =>
    obtain ⟨u, hu⟩ := exists_getElem?_mapInstances hi
    exact ⟨_, hu, (Instance.KeepsComplete.refl inst).refresh _ u⟩
  | reseed =>
    obtain ⟨u, hu⟩ := exists_getElem?_mapInstances hi
    exact ⟨_, hu, (Instance.KeepsComplete.refl inst).refresh _ u⟩

/-- **No operation takes a complete instance back.** -/
theorem IsPlaced.keepsComplete (h : s.IsPlaced) (op : Operation) {i j : Nat}
    {inst : Instance SceneObject} (hi : s.objects[i]? = some (.module inst))
    (hj : op.position s i = some j) :
    ∃ inst', (s.perform op).objects[j]? = some (.module inst') ∧ inst.KeepsComplete inst' := by
  have heffect := effect_perform h.tidy op
  cases op with
  | remove index =>
    have hobjects : (s.perform (.remove index)).objects =
        s.objects.take index ++ [] ++ s.objects.drop (index + 1) := by
      rw [List.append_nil, ← List.eraseIdx_eq_take_drop_succ]
      rcases ho : s.objects[index]? with _ | object
      · rw [perform_remove_of_none ho, List.eraseIdx_of_length_le (List.getElem?_eq_none_iff.mp ho)]
      · rw [perform_remove_of_some ho]
    rw [hobjects]
    exact ⟨inst, getElem?_of_shifted hi hj, .refl inst⟩
  | demodulize index =>
    rcases ho : s.objects[index]?.bind SceneObject.instance? with _ | outer
    -- what is no instance is not taken apart
    · have hne : ∀ outer, s.objects[index]? ≠ some (.module outer) := by
        intro outer h
        rw [SceneObject.bind_instance?_eq_some_iff.mpr h] at ho
        cases ho
      rw [Operation.position, ho] at hj
      cases hj
      rw [perform_demodulize_of_ne hne]
      exact ⟨inst, hi, .refl inst⟩
    · rw [Operation.position, ho] at hj
      rw [perform_demodulize_of_some (SceneObject.bind_instance?_eq_some_iff.mp ho)]
      exact ⟨inst, getElem?_of_shifted hi hj, .refl inst⟩
  | _ =>
    cases hj
    exact heffect.exists_getElem? (fun _ h => nomatch h) (fun _ h => nomatch h) hi

/-- The objects of an instance that is taken apart come out as they are. -/
theorem getElem?_perform_demodulize {index k : Nat} {outer : Instance SceneObject}
    {object : SceneObject} (ho : s.objects[index]? = some (.module outer))
    (hk : outer.objects[k]? = some object) :
    (s.perform (.demodulize index)).objects[index + k]? = some object := by
  have hlt : index < s.objects.length := (List.getElem?_eq_some_iff.mp ho).1
  have hkt : k < outer.objects.length := (List.getElem?_eq_some_iff.mp hk).1
  have hlength : (s.objects.take index).length = index := by
    rw [List.length_take]
    omega
  rw [perform_demodulize_of_some ho, List.append_assoc,
    List.getElem?_append_right (by rw [hlength]; omega), hlength, Nat.add_sub_cancel_left,
    List.getElem?_append_left hkt, hk]

/-! ### Placing points -/

/-- What placing a point at an index does to a scene. -/
structure PlacesPoint (s : Scene) (index : Nat) (p : Point) : Prop where
  /-- It is possible exactly while an instance stands there that misses points. -/
  succeeds_iff : (∃ q t, s.run (place index p) = (.ok q, t)) ↔
    ∃ inst, s.objects[index]? = some (.module inst) ∧ inst.placement = .collecting
  /-- Otherwise nothing happens. -/
  refused : ∀ e t, s.run (place index p) = (.error e, t) → t = s
  /-- The point comes last, where the grid has it, and the instance is complete when there are as
  many as its definition asks for. -/
  placed : ∀ q t, s.run (place index p) = (.ok q, t) →
    ∃ inst inst', s.objects[index]? = some (.module inst) ∧
      t.objects = s.objects.set index (.module inst') ∧
        inst'.definition = inst.definition ∧ inst'.points = inst.points ++ [s.snapped p] ∧
          inst'.placement = q ∧ (q = .complete ↔ inst'.points.length = inst.definition.numPoints)

theorem IsPlaced.run_place (h : s.IsPlaced) {index : Nat} {inst : Instance SceneObject}
    (hi : s.objects[index]? = some (.module inst)) (hc : inst.placement = .collecting) (p : Point) :
    s.run (place index p) =
      (.ok (inst.placed (s.snapped p)).placement, s.edited index (inst.placed (s.snapped p))) := by
  have hrun := Instance.run_place s.builder (s.snapped p) (h.tidy inst (List.mem_of_getElem? hi)) hc
    s.stream
  change ExceptT.run (place index p) s = _
  rw [place, run_bind_of_ok (run_changeInstance_of_ok hi hrun), run_pure,
    Instance.placement_refresh]
  rfl

theorem run_place_of_ne {index : Nat} (p : Point)
    (h : ∀ inst, s.objects[index]? = some (.module inst) → inst.placement ≠ .collecting) :
    ∃ e, s.run (place index p) = (.error e, s) := by
  by_cases hi : ∃ inst, s.objects[index]? = some (.module inst)
  · obtain ⟨inst, hi⟩ := hi
    have hc : inst.placement = .complete := by
      cases hp : inst.placement with
      | complete => rfl
      | collecting => exact absurd hp (h inst hi)
    have hrun := Instance.run_place_complete s.builder (s.snapped p) hc s.stream
    exact ⟨_, run_bind_of_error (run_changeInstance_of_error hi hrun)⟩
  · obtain ⟨e, he⟩ := run_changeInstance_of_ne (fun s inst => inst.place s.builder (s.snapped p))
      fun inst h => hi ⟨inst, h⟩
    exact ⟨e, run_bind_of_error he⟩

theorem IsPlaced.placesPoint (h : s.IsPlaced) (index : Nat) (p : Point) :
    s.PlacesPoint index p := by
  by_cases hi : ∃ inst, s.objects[index]? = some (.module inst) ∧ inst.placement = .collecting
  · have ⟨inst, ho, hc⟩ := hi
    have hrun := h.run_place ho hc p
    refine ⟨iff_of_true ⟨_, _, hrun⟩ hi, fun e t he => ?_, fun q t hq => ?_⟩
    · rw [hrun] at he
      cases he
    · rw [hrun] at hq
      cases hq
      have hpoints := (h.instances inst 0 (.top (List.mem_of_getElem? ho))).points
      refine ⟨inst, _, ho, rfl, ?_⟩
      rw [Instance.definition_refresh, Instance.points_refresh, Instance.placement_refresh]
      exact ⟨rfl, rfl, rfl, hpoints.placement_placed hc (s.snapped p)⟩
  · obtain ⟨e, hrun⟩ := @run_place_of_ne s index p fun inst ho hc => hi ⟨inst, ho, hc⟩
    refine ⟨iff_of_false ?_ hi, fun e t he => ?_, fun q t hq => ?_⟩
    · rintro ⟨q, t, hq⟩
      rw [hrun] at hq
      cases hq
    · rw [hrun] at he
      cases he
      rfl
    · rw [hrun] at hq
      cases hq

/-- **All instances of a scene that can be attained are placed and follow the protocol**, at any
depth.  An operation leaves each instance that stays complete if it was, also when it comes out of
another one; an expansion makes those inside anew. -/
theorem Attainable.placement_protocol (h : Attainable s) :
    (∀ inst depth, SceneObject.Occurs inst depth s.objects →
      inst.IsPlaced ∧ inst.FollowsProtocol) ∧
    (∀ (op : Operation) i j inst, s.objects[i]? = some (.module inst) →
      op.position s i = some j →
        ∃ inst', (s.perform op).objects[j]? = some (.module inst') ∧ inst.KeepsComplete inst') ∧
    (∀ index outer, s.objects[index]? = some (.module outer) → ∀ k object,
      outer.objects[k]? = some object →
        (s.perform (.demodulize index)).objects[index + k]? = some object) ∧
    ∀ index p, s.PlacesPoint index p := by
  have hs := h.isPlaced
  refine ⟨fun inst depth hi => ?_, fun op i j inst => hs.keepsComplete op, ?_, hs.placesPoint⟩
  · have hplaced := hs.instances inst depth hi
    exact ⟨hplaced, hplaced.followsProtocol⟩
  · intro index outer ho k object hk
    exact getElem?_perform_demodulize ho hk

/-- After its only point, an instance takes no more. -/
theorem placement_protocol_after_placement :
    Attainable (empty.after (placement [])) ∧
      (∃ inst, (empty.after (placement [])).objects[0]? = some (.module inst) ∧
        inst.placement = .complete ∧ inst.points.length = inst.definition.numPoints) ∧
        ¬ ∃ q t, (empty.after (placement [])).run (place 0 .zero) = (.ok q, t) := by
  have hattainable : Attainable (empty.after (placement [])) :=
    ((Reachable.start (.empty .standard 0)).after _).attainable
  have hcomplete : ((empty.after (placement [])).objects[0]?.bind SceneObject.instance?).map
      Instance.placement = some .complete := by
    decide +kernel
  obtain ⟨inst, hinst, hc⟩ := Option.map_eq_some_iff.mp hcomplete
  have ho := SceneObject.bind_instance?_eq_some_iff.mp hinst
  obtain ⟨hplaced, -, -, hpoints⟩ := Attainable.placement_protocol hattainable
  refine ⟨hattainable, ⟨inst, ho, hc, ?_⟩, fun hok => ?_⟩
  · exact (hplaced inst 0 (.top (List.mem_of_getElem? ho))).1.points.complete hc
  · obtain ⟨inst', ho', hcollecting⟩ := (hpoints 0 .zero).succeeds_iff.mp hok
    cases ho.symm.trans ho'
    cases hc.symm.trans hcollecting

end Scene

end OpticScene
