import OpticScene.Module.Instance
import OpticScene.Proofs.Draws

/-!
# Changes of an instance

Whatever is done to an instance is done in two steps: the points, the parameters, the definition or
the placement change, and then the instance is expanded anew.  The first step draws nothing and
does not look at the objects; the second one changes only the objects and the error.

## Main definitions

* `Instance.expansion` — the objects and the error that an expansion gives.
* `Instance.Tidy` — an instance that misses points has neither objects nor an error.
* `Instance.begun`, `Instance.placed`, `Instance.rebound` — the first step of a start, of the
  placement of a point, and of a change of definition.
* `Instance.Edit`, `Instance.Edit.change` — the edits of one instance, and their first step.
* `Instance.Fields.core` — the instance of a record, before it is expanded.

## Main results

* `run_place`, `start_eq`, `rebind_eq`, `run_apply_of_ok` — **each operation is its first step and
  an expansion.**
* `ofFields_eq` — when a record is refused.
-/

namespace OpticScene.Module.Instance

open OpticScene.Random (Draws Stream)

variable {Obj : Type}

/-! ### Expansion -/

/-- The objects and the error that an instance has once it is expanded anew. -/
def expansion (builder : Builder Obj) (inst : Instance Obj) :
    StateM Stream (List Obj × Option SceneError) :=
  match inst.placement with
  | .collecting => pure ([], none)
  | .complete => inst.expandObjects builder

theorem expansion_collecting (builder : Builder Obj) {inst : Instance Obj}
    (h : inst.placement = .collecting) : inst.expansion builder = pure ([], none) := by
  simp only [expansion, h]

theorem expansion_complete (builder : Builder Obj) {inst : Instance Obj}
    (h : inst.placement = .complete) : inst.expansion builder = inst.expandObjects builder := by
  simp only [expansion, h]

theorem refresh_eq (builder : Builder Obj) (inst : Instance Obj) (s : Stream) :
    inst.refresh builder s =
      (inst.withObjects (inst.expansion builder s).1, (inst.expansion builder s).2) := by
  unfold refresh expansion
  cases inst.placement <;> rfl

/-- An expansion does not look at the objects and the error that are there. -/
@[simp] theorem expansion_withObjects (builder : Builder Obj) (inst : Instance Obj)
    (found : List Obj × Option SceneError) :
    (inst.withObjects found).expansion builder = inst.expansion builder := rfl

@[simp] theorem withObjects_withObjects (inst : Instance Obj)
    (found found' : List Obj × Option SceneError) :
    (inst.withObjects found).withObjects found' = inst.withObjects found' := rfl

theorem withObjects_self (inst : Instance Obj) :
    inst.withObjects (inst.objects, inst.lastError) = inst := rfl

@[simp] theorem refresh_withObjects (builder : Builder Obj) (inst : Instance Obj)
    (found : List Obj × Option SceneError) (s : Stream) :
    (inst.withObjects found).refresh builder s = inst.refresh builder s := by
  rw [refresh_eq, refresh_eq, expansion_withObjects, withObjects_withObjects]

section

variable (builder : Builder Obj) (inst : Instance Obj) (s : Stream)

@[simp] theorem moduleName_refresh : (inst.refresh builder s).1.moduleName = inst.moduleName := by
  rw [refresh_eq]; rfl

@[simp] theorem definition_refresh : (inst.refresh builder s).1.definition = inst.definition := by
  rw [refresh_eq]; rfl

@[simp] theorem points_refresh : (inst.refresh builder s).1.points = inst.points := by
  rw [refresh_eq]; rfl

@[simp] theorem params_refresh : (inst.refresh builder s).1.params = inst.params := by
  rw [refresh_eq]; rfl

@[simp] theorem placement_refresh : (inst.refresh builder s).1.placement = inst.placement := by
  rw [refresh_eq]; rfl

@[simp] theorem objects_refresh :
    (inst.refresh builder s).1.objects = (inst.expansion builder s).1.1 := by
  rw [refresh_eq]; rfl

@[simp] theorem lastError_refresh :
    (inst.refresh builder s).1.lastError = (inst.expansion builder s).1.2 := by
  rw [refresh_eq]; rfl

end

/-- Of two expansions, only the second one counts. -/
theorem refresh_refresh (builder builder' : Builder Obj) (inst : Instance Obj) (s t : Stream) :
    (inst.refresh builder s).1.refresh builder' t = inst.refresh builder' t := by
  rw [refresh_eq builder inst, refresh_withObjects]

/-- An instance that misses points has neither objects nor an error. -/
def Tidy (inst : Instance Obj) : Prop :=
  inst.placement = .collecting → inst.objects = [] ∧ inst.lastError = none

theorem tidy_refresh (builder : Builder Obj) (inst : Instance Obj) (s : Stream) :
    (inst.refresh builder s).1.Tidy := by
  intro h
  rw [placement_refresh] at h
  rw [objects_refresh, lastError_refresh, expansion_collecting builder h]
  exact ⟨rfl, rfl⟩

/-- A tidy instance that misses points stays as it is when it is expanded. -/
theorem Tidy.refresh_eq_self {inst : Instance Obj} (ht : inst.Tidy)
    (h : inst.placement = .collecting) (builder : Builder Obj) (s : Stream) :
    inst.refresh builder s = (inst, s) := by
  obtain ⟨ho, he⟩ := ht h
  have hx : inst.expansion builder s = (([], none), s) := by
    rw [expansion_collecting builder h]
    rfl
  rw [refresh_eq, hx]
  congr 1
  rw [← ho, ← he, withObjects_self]

/-! ### Placement -/

/-- A new instance before it is expanded. -/
def begun (name : String) (d : Definition) : Instance Obj where
  moduleName := name
  definition := d
  points := []
  params := if d.numPoints = 0 then d.defaults else []
  objects := []
  lastError := none
  placement := if d.numPoints = 0 then .complete else .collecting

theorem start_eq (builder : Builder Obj) (name : String) (d : Definition) (s : Stream) :
    start builder name d s = (begun name d).refresh builder s := by
  unfold start begun
  by_cases h : d.numPoints = 0
  · simp only [h, if_true, finish, List.isEmpty_nil]
  · simp only [h, if_false]
    exact (Tidy.refresh_eq_self (fun _ => ⟨rfl, rfl⟩) rfl builder s).symm

/-- Whether one more point is the last one. -/
def lacksOne (inst : Instance Obj) : Prop := inst.definition.numPoints ≤ inst.points.length + 1

instance (inst : Instance Obj) : Decidable inst.lacksOne :=
  inferInstanceAs (Decidable (_ ≤ _))

/-- The instance with one more point, before it is expanded. -/
def placed (p : Point) (inst : Instance Obj) : Instance Obj where
  moduleName := inst.moduleName
  definition := inst.definition
  points := inst.points ++ [p]
  params :=
    if inst.lacksOne ∧ inst.params = [] then inst.definition.defaults else inst.params
  objects := inst.objects
  lastError := inst.lastError
  placement := if inst.lacksOne then .complete else .collecting

theorem place_of_collecting (builder : Builder Obj) (p : Point) {inst : Instance Obj}
    (h : inst.placement = .collecting) :
    inst.place builder p =
      if inst.lacksOne then liftM (finish builder { inst with points := inst.points ++ [p] })
      else pure { inst with points := inst.points ++ [p] } := by
  simp only [place, h, lacksOne, List.length_append, List.length_singleton]

/-- The last point completes the instance, and only then is it expanded. -/
theorem run_place_of_lacksOne (builder : Builder Obj) (p : Point) {inst : Instance Obj}
    (h : inst.placement = .collecting) (hl : inst.lacksOne) (s : Stream) :
    ExceptT.run (inst.place builder p) s =
      (.ok ((inst.placed p).refresh builder s).1, ((inst.placed p).refresh builder s).2) := by
  have hcore : finish builder { inst with points := inst.points ++ [p] } =
      (inst.placed p).refresh builder := by
    simp only [finish, placed, hl, if_true, true_and, List.isEmpty_iff]
  rw [place_of_collecting builder p h, if_pos hl, run_ofState, hcore]

theorem run_place_of_not_lacksOne (builder : Builder Obj) (p : Point) {inst : Instance Obj}
    (h : inst.placement = .collecting) (hl : ¬ inst.lacksOne) (s : Stream) :
    ExceptT.run (inst.place builder p) s = (.ok (inst.placed p), s) := by
  have hcore : inst.placed p = { inst with points := inst.points ++ [p] } := by
    simp only [placed, hl, if_false, false_and, ← h]
  rw [place_of_collecting builder p h, if_neg hl, run_pure, hcore]

/-- **Placing a point is adding it and expanding the instance.**  If points are still missing
afterwards, the expansion is empty. -/
theorem run_place (builder : Builder Obj) (p : Point) {inst : Instance Obj} (ht : inst.Tidy)
    (h : inst.placement = .collecting) (s : Stream) :
    ExceptT.run (inst.place builder p) s =
      (.ok ((inst.placed p).refresh builder s).1, ((inst.placed p).refresh builder s).2) := by
  by_cases hl : inst.lacksOne
  · exact run_place_of_lacksOne builder p h hl s
  · have hcollecting : (inst.placed p).placement = .collecting := if_neg hl
    have hkept : (inst.placed p).Tidy := fun _ => ht h
    rw [run_place_of_not_lacksOne builder p h hl, hkept.refresh_eq_self hcollecting]

theorem run_place_complete (builder : Builder Obj) (p : Point) {inst : Instance Obj}
    (h : inst.placement = .complete) (s : Stream) :
    ExceptT.run (inst.place builder p) s = (.error .placementComplete, s) := by
  simp only [place, h]
  rfl

/-! ### Another definition -/

/-- The instance with another definition, before it is expanded. -/
def rebound (d : Definition) (inst : Instance Obj) : Instance Obj where
  moduleName := inst.moduleName
  definition := d
  points :=
    match inst.placement with
    | .collecting => inst.points.take d.numPoints
    | .complete => resizePoints d.numPoints inst.points
  params := resolveParams d inst.params
  objects := inst.objects
  lastError := inst.lastError
  placement :=
    if inst.placement = .collecting ∧ (inst.points.take d.numPoints).length ≠ d.numPoints then
      .collecting
    else .complete

/-- The parameters that a definition declares are no others when there are none. -/
theorem resolveParams_of_isEmpty {d : Definition} {given : Params}
    (h : (resolveParams d given).isEmpty = true) : d.defaults = resolveParams d given := by
  simp only [resolveParams, List.isEmpty_iff, List.map_eq_nil_iff] at h
  simp [resolveParams, h]

theorem rebind_eq (builder : Builder Obj) (d : Definition) (inst : Instance Obj) (s : Stream) :
    inst.rebind builder d s = (inst.rebound d).refresh builder s := by
  unfold rebind
  cases h : inst.placement with
  | complete => simp only [rebound, h, reduceCtorEq, false_and, if_false]
  | collecting =>
    by_cases hl : (inst.points.take d.numPoints).length = d.numPoints
    -- the defaults are taken only where nothing is declared, and then there are none
    · have hparams : (if (resolveParams d inst.params).isEmpty then d.defaults
          else resolveParams d inst.params) = resolveParams d inst.params := by
        split
        · next he => exact resolveParams_of_isEmpty he
        · rfl
      simp only [rebound, h, hl, if_true, finish, hparams, ne_eq, not_true, and_false, if_false]
    · simp only [rebound, h, hl, if_false, ne_eq, not_false_eq_true, and_self, if_true]

/-! ### Edits -/

/-- What can be done to one instance. -/
inductive Edit where
  /-- Place the next control point. -/
  | place (p : Point)
  /-- Move all control points. -/
  | translate (delta : Point)
  /-- Move one control point. -/
  | setPoint (index : Nat) (p : Point)
  /-- Set a parameter. -/
  | setParam (name : String) (x : Float)

/-- An edit with the expansion that follows it. -/
def Edit.apply (builder : Builder Obj) (inst : Instance Obj) :
    Edit → Draws SceneError (Instance Obj)
  | .place p => inst.place builder p
  | .translate delta => inst.translate builder delta
  | .setPoint index p => inst.setPoint builder index p
  | .setParam name x => inst.setParam builder name x

/-- An edit before the expansion. -/
def Edit.change (inst : Instance Obj) : Edit → Except SceneError (Instance Obj)
  | .place p =>
    match inst.placement with
    | .complete => .error .placementComplete
    | .collecting => .ok (inst.placed p)
  | .translate delta => .ok { inst with points := inst.points.map (· + delta) }
  | .setPoint index p =>
    if index < inst.points.length then .ok { inst with points := inst.points.set index p }
    else .error (.indexOutOfRange index inst.points.length)
  | .setParam name x =>
    if inst.definition.declares name then
      .ok { inst with params := Named.set name x inst.params }
    else .error (.unknownParameter inst.moduleName name)

/-- **What an edit that is not refused changes**, and when. -/
theorem Edit.cases_of_change {inst core : Instance Obj} {edit : Edit}
    (h : edit.change inst = .ok core) :
    (∃ p, edit = .place p ∧ inst.placement = .collecting ∧ core = inst.placed p) ∨
    (∃ delta, edit = .translate delta ∧
      core = { inst with points := inst.points.map (· + delta) }) ∨
    (∃ index p, edit = .setPoint index p ∧ index < inst.points.length ∧
      core = { inst with points := inst.points.set index p }) ∨
    (∃ name x, edit = .setParam name x ∧ inst.definition.declares name = true ∧
      core = { inst with params := Named.set name x inst.params }) := by
  cases edit with
  | place p =>
    simp only [Edit.change] at h
    split at h
    · cases h
    · next hp =>
      cases h
      exact .inl ⟨p, rfl, hp, rfl⟩
  | translate delta =>
    cases h
    exact .inr (.inl ⟨delta, rfl, rfl⟩)
  | setPoint index p =>
    simp only [Edit.change] at h
    split at h
    · next hi =>
      cases h
      exact .inr (.inr (.inl ⟨index, p, rfl, hi, rfl⟩))
    · cases h
  | setParam name x =>
    simp only [Edit.change] at h
    split at h
    · next hname =>
      cases h
      exact .inr (.inr (.inr ⟨name, x, rfl, hname, rfl⟩))
    · cases h

theorem run_apply_of_ok (builder : Builder Obj) {inst core : Instance Obj} (ht : inst.Tidy)
    {edit : Edit} (h : edit.change inst = .ok core) (s : Stream) :
    ExceptT.run (edit.apply builder inst) s =
      (.ok (core.refresh builder s).1, (core.refresh builder s).2) := by
  rcases Edit.cases_of_change h with ⟨p, rfl, hp, rfl⟩ | ⟨delta, rfl, rfl⟩ |
    ⟨index, p, rfl, hi, rfl⟩ | ⟨name, x, rfl, hd, rfl⟩
  · exact run_place builder p ht hp s
  · rfl
  · simp only [Edit.apply, setPoint, hi, if_true]
    rfl
  · simp only [Edit.apply, setParam, hd, if_true]
    rfl

/-- **An edit that is refused draws nothing.** -/
theorem run_apply_of_error (builder : Builder Obj) {inst : Instance Obj} {edit : Edit}
    {e : SceneError} (h : edit.change inst = .error e) (s : Stream) :
    ExceptT.run (edit.apply builder inst) s = (.error e, s) := by
  cases edit with
  | place p =>
    simp only [Edit.change] at h
    split at h
    · next hp =>
      cases h
      exact run_place_complete builder p hp s
    · cases h
  | translate delta => cases h
  | setPoint index p =>
    simp only [Edit.change] at h
    split at h
    · cases h
    · next hi =>
      cases h
      simp only [Edit.apply, setPoint, hi, if_false]
      rfl
  | setParam name x =>
    simp only [Edit.change] at h
    split at h
    · cases h
    · next hd =>
      cases h
      simp only [Edit.apply, setParam, hd]
      rfl

/-- An edit keeps the name and the definition. -/
theorem Edit.definition_of_change {inst core : Instance Obj} {edit : Edit}
    (h : edit.change inst = .ok core) :
    core.moduleName = inst.moduleName ∧ core.definition = inst.definition := by
  rcases Edit.cases_of_change h with ⟨p, -, -, rfl⟩ | ⟨delta, -, rfl⟩ | ⟨index, p, -, -, rfl⟩ |
    ⟨name, x, -, -, rfl⟩ <;> exact ⟨rfl, rfl⟩

/-! ### Records -/

/-- Whether a record has as many control points as its module needs. -/
def Fields.Fits (fields : Fields) (d : Definition) : Prop :=
  if fields.notDone then (fields.pointsFor d).length < d.numPoints
  else (fields.pointsFor d).length = d.numPoints

instance (fields : Fields) (d : Definition) : Decidable (fields.Fits d) :=
  inferInstanceAs (Decidable (ite _ _ _))

/-- The instance of a record before it is expanded. -/
def Fields.core (fields : Fields) (d : Definition) : Instance Obj where
  moduleName := fields.moduleName
  definition := d
  points := fields.pointsFor d
  params := fields.paramsFor d
  objects := []
  lastError := none
  placement := if fields.notDone then .collecting else .complete

/-- Only the number of control points of a definition matters to those of a record. -/
theorem Fields.pointsFor_congr (fields : Fields) {d d' : Definition}
    (h : d.numPoints = d'.numPoints) : fields.pointsFor d = fields.pointsFor d' := by
  unfold pointsFor
  rw [h]

theorem Fields.fits_congr (fields : Fields) {d d' : Definition}
    (h : d.numPoints = d'.numPoints) : fields.Fits d ↔ fields.Fits d' := by
  unfold Fits
  rw [fields.pointsFor_congr h, h]

/-- A record is refused if its module is unknown or needs another number of points. -/
theorem ofFields_eq (library : Library) (fields : Fields) :
    (ofFields library fields : Except SceneError (Instance Obj)) =
      match library.find? fields.moduleName with
      | none => .error (.unknownModule fields.moduleName)
      | some d =>
        if fields.Fits d then .ok (fields.core d)
        else .error (wrongPoints fields.moduleName d.numPoints (fields.pointsFor d).length) := by
  unfold ofFields
  rcases library.find? fields.moduleName with _ | d
  · rfl
  · cases h : fields.notDone <;> simp [Fields.Fits, Fields.core, h]

theorem ofFields_eq_ok {library : Library} {fields : Fields} {core : Instance Obj} :
    ofFields library fields = .ok core ↔
      ∃ d, library.find? fields.moduleName = some d ∧ fields.Fits d ∧ core = fields.core d := by
  rw [ofFields_eq]
  rcases library.find? fields.moduleName with _ | d
  · simp
  · by_cases h : fields.Fits d
    · simp [h, eq_comm]
    · simp [h]

/-- A record that can be read gives the instance of its fields, and only this one is expanded. -/
theorem run_ofRecord {v : Json} {fields : Fields} (hf : Fields.decode v = .ok fields)
    (library : Library) (builder : Builder Obj) (s : Stream) :
    ExceptT.run (ofRecord library builder v) s =
      match (ofFields library fields : Except SceneError (Instance Obj)) with
      | .error e => (.error e, s)
      | .ok core => (.ok (core.refresh builder s).1, (core.refresh builder s).2) := by
  have hdecode : (Fields.decode v).mapError (SceneError.ofRecord tag) = .ok fields := by
    rw [hf]
    rfl
  rw [ofRecord, hdecode, run_bind_of_ok (run_ofExcept _ s)]
  rcases (ofFields library fields : Except SceneError (Instance Obj)) with e | core
  · exact run_bind_of_error (run_ofExcept _ s)
  · rw [run_bind_of_ok (run_ofExcept _ s), run_ofState]

end OpticScene.Module.Instance
