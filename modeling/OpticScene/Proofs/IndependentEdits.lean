import Mathlib.Data.List.Nodup
import OpticScene.Proofs.CanonicalRefresh

/-!
# Edits of different objects

An edit of one object looks at that object, at the number of objects and at the grid, and at nothing
else; it writes what the object is made from, and expands it.  The expansion moves the random
stream, so the order of two edits shows in what the objects expand to.  It shows in nothing else,
and not any more after a refresh, which expands everything anew.

## Main definitions

* `Scene.Operation.telling` — an operation with what it tells when it is accepted.
* `Scene.bared` — what a refresh keeps of a scene.
* `Scene.core`, `Scene.sketched` — what an edit makes of its object, and of the scene, when nothing
  is expanded.

## Main results

* `Scene.run_telling` — **what an edit tells and writes is what it makes of its object.**
* `Scene.edits_commute` — edits of different objects can be made in either order.
* `Scene.refresh_after_perm` — so can any number of them.
-/

namespace OpticScene

open OpticScene.Random (Draws Stream)
open OpticScene.Module (Builder Instance Placement)

/-! ### Instances -/

namespace Module.Instance

variable {Obj : Type} {inst core : Instance Obj} {edit : Edit}

/-- **An edit does to an instance what its first step says**, whatever the instance expands to. -/
theorem exists_run_apply (builder : Builder Obj) (h : edit.change inst = .ok core) (s : Stream) :
    ∃ found t, ExceptT.run (edit.apply builder inst) s = (.ok (core.withObjects found), t) := by
  have hrefresh : ∃ found t, core.refresh builder s = (core.withObjects found, t) :=
    ⟨_, _, refresh_eq builder core s⟩
  obtain ⟨found, t, hfound⟩ := hrefresh
  rcases Edit.cases_of_change h with ⟨p, rfl, hp, rfl⟩ | ⟨delta, rfl, rfl⟩ |
    ⟨index, p, rfl, hi, rfl⟩ | ⟨name, x, rfl, hd, rfl⟩
  · by_cases hl : inst.lacksOne
    · refine ⟨found, t, (run_place_of_lacksOne builder p hp hl s).trans ?_⟩
      rw [hfound]
    -- as long as points are missing, nothing is expanded at all
    · exact ⟨(inst.objects, inst.lastError), s, run_place_of_not_lacksOne builder p hp hl s⟩
  · refine ⟨found, t, (run_ofState _ s).trans ?_⟩
    rw [translate, hfound]
  · refine ⟨found, t, ?_⟩
    simp only [Edit.apply, setPoint, hi, if_true]
    rw [run_ofState, hfound]
  · refine ⟨found, t, ?_⟩
    simp only [Edit.apply, setParam, hd, if_true]
    rw [run_ofState, hfound]

/-- The first step of an edit does not look at what the instance expands to. -/
theorem change_withObjects (inst : Instance Obj) (found : List Obj × Option SceneError)
    (edit : Edit) :
    edit.change (inst.withObjects found) = (edit.change inst).map (·.withObjects found) := by
  cases edit with
  | place p =>
    cases hp : inst.placement <;> simp only [Edit.change, withObjects, hp] <;> rfl
  | translate delta => rfl
  | setPoint index p =>
    by_cases hi : index < inst.points.length <;> simp only [Edit.change, withObjects, hi] <;> rfl
  | setParam name x =>
    by_cases hd : inst.definition.declares name = true <;>
      simp only [Edit.change, withObjects, hd] <;> rfl

end Module.Instance

/-! ### Objects -/

namespace SceneObject

/-- The object moved by a vector, before the expansion. -/
def moved (delta : Point) : SceneObject → SceneObject
  | .mirror m => .mirror (m.translate delta)
  | .blocker b => .blocker (b.translate delta)
  | .label l => .label (l.translate delta)
  | .module inst => .module { inst with points := inst.points.map (· + delta) }

/-- What an edit makes of the object at an index, before the expansion. -/
def edited (index : Nat) (edit : Instance.Edit) (object : SceneObject) :
    Except SceneError SceneObject :=
  match edit, object.instance? with
  | .translate delta, _ => .ok (object.moved delta)
  | edit, some inst => (edit.change inst).map .module
  | _, none => .error (.notAModule index)

theorem edited_module (index : Nat) (edit : Instance.Edit) (inst : Instance SceneObject) :
    (SceneObject.module inst).edited index edit = (edit.change inst).map .module := by
  cases edit <;> rfl

theorem edited_of_instance?_eq_none {object : SceneObject} (h : object.instance? = none)
    (index : Nat) {edit : Instance.Edit} (hedit : ∀ delta, edit ≠ .translate delta) :
    object.edited index edit = .error (.notAModule index) := by
  unfold edited
  rw [h]
  cases edit with
  | translate delta => exact absurd rfl (hedit delta)
  | _ => rfl

/-- The edit of an object does not look at what the object expands to. -/
theorem edited_bare (index : Nat) (edit : Instance.Edit) (object : SceneObject) :
    object.bare.edited index edit = (object.edited index edit).map bare := by
  cases object with
  | module inst =>
    rw [bare, edited_module, edited_module, Instance.change_withObjects]
    cases edit.change inst <;> rfl
  | _ => cases edit <;> rfl

theorem bare_translate (builder : Builder SceneObject) (delta : Point) (object : SceneObject)
    (s : Stream) : (object.translate builder delta s).1.bare = (object.moved delta).bare := by
  cases object with
  | module inst =>
    change bare (.module (inst.translate builder delta s).1) = _
    rw [Instance.translate, Instance.refresh_eq]
    rfl
  | _ => rfl

end SceneObject

namespace Scene

/-! ### One edit -/

/-- The index of the object that an operation edits. -/
def Operation.target? : Operation → Option Nat
  | .place index _ => some index
  | .translate index _ => some index
  | .setParam index _ _ => some index
  | .setPoint index _ _ => some index
  | _ => none

/-- An operation with what it tells: placing a point tells how far the placement has come. -/
def Operation.telling : Operation → Edit (Option Placement)
  | .place index p => do return some (← Scene.place index p)
  | op => do op.edit; return none

/-- What an operation tells about the object that it has made. -/
def Operation.answer (op : Operation) (object : SceneObject) : Option Placement :=
  match op with
  | .place _ _ => object.instance?.map (·.placement)
  | _ => none

/-- What an edit makes of the object at an index, before the expansion. -/
def core (s : Scene) (index : Nat) (edit : Instance.Edit) : Except SceneError SceneObject :=
  match s.objects[index]? with
  | none => .error (.indexOutOfRange index s.objects.length)
  | some object => object.edited index edit

variable {s : Scene} {op op' : Operation} {i j : Nat} {edit : Instance.Edit}

theorem exists_editOf? (h : op.target? = some i) (s : Scene) :
    ∃ edit, op.editOf? s = some (i, edit) := by
  cases op <;> cases h <;> exact ⟨_, rfl⟩

theorem snd_run_telling (s : Scene) (op : Operation) : (s.run op.telling).2 = s.perform op := by
  cases op with
  | place index p => exact (snd_run_bind_pure _ _ s).trans (perform_of_edit rfl s).symm
  | _ => exact snd_run_bind_pure _ _ s

theorem answer_bare (op : Operation) (object : SceneObject) :
    op.answer object.bare = op.answer object := by
  cases object <;> cases op <;> rfl

theorem core_eq_of_none (ho : s.objects[i]? = none) (edit : Instance.Edit) :
    s.core i edit = .error (.indexOutOfRange i s.objects.length) := by
  rw [core, ho]

theorem core_eq_of_some {object : SceneObject} (ho : s.objects[i]? = some object)
    (edit : Instance.Edit) : s.core i edit = object.edited i edit := by
  rw [core, ho]

/-- What becomes of the edit of an instance. -/
theorem run_changeInstance_cases (s : Scene) (i : Nat) (edit : Instance.Edit)
    (hedit : ∀ delta, edit ≠ .translate delta)
    (change : Scene → Instance SceneObject → Draws SceneError (Instance SceneObject))
    (hchange : ∀ inst, change s inst = edit.apply s.builder inst) :
    (∃ e, s.core i edit = .error e ∧ ExceptT.run (changeInstance i change) s = (.error e, s)) ∨
    ∃ inst found u, s.core i edit = .ok (.module inst) ∧
      ExceptT.run (changeInstance i change) s =
        (.ok (inst.withObjects found),
          { s with
            objects := s.objects.set i (.module (inst.withObjects found)), stream := u }) := by
  rcases ho : s.objects[i]? with _ | object
  · have hrun := run_objectAt_of_none ho
    exact .inl ⟨_, core_eq_of_none ho edit, run_bind_of_error (run_bind_of_error hrun)⟩
  rcases hinst : object.instance? with _ | inst
  · have hplain : ExceptT.run (instanceAt i) s = (.error (.notAModule i), s) := by
      rw [instanceAt, run_bind_of_ok (run_objectAt_of_some ho), hinst]
      rfl
    have hcore := SceneObject.edited_of_instance?_eq_none hinst i hedit
    exact .inl ⟨_, (core_eq_of_some ho edit).trans hcore, run_bind_of_error hplain⟩
  obtain rfl := SceneObject.instance?_eq_some_iff.mp hinst
  have hcore : s.core i edit = (edit.change inst).map .module :=
    (core_eq_of_some ho edit).trans (SceneObject.edited_module i edit inst)
  rcases hc : edit.change inst with e | made
  · have hrun := Instance.run_apply_of_error s.builder hc s.stream
    rw [← hchange inst] at hrun
    exact .inl ⟨e, by rw [hcore, hc]; rfl, run_changeInstance_of_error ho hrun⟩
  · obtain ⟨found, u, hrun⟩ := Instance.exists_run_apply s.builder hc s.stream
    rw [← hchange inst] at hrun
    exact .inr ⟨made, found, u, by rw [hcore, hc]; rfl, run_changeInstance_of_ok ho hrun⟩

/-- **What an edit tells and writes is what it makes of its object.** -/
theorem run_telling (hop : op.editOf? s = some (i, edit)) :
    (∃ e, s.core i edit = .error e ∧ s.run op.telling = (.error e, s)) ∨
    ∃ made object u, s.core i edit = .ok made ∧ object.bare = made.bare ∧
      s.run op.telling =
        (.ok (op.answer made), { s with objects := s.objects.set i object, stream := u }) := by
  cases op with
  | translate index delta =>
    cases hop
    rcases ho : s.objects[i]? with _ | object
    · have hrun := run_objectAt_of_none ho
      exact .inl ⟨_, core_eq_of_none ho _, run_bind_of_error (run_bind_of_error hrun)⟩
    · have hbare := object.bare_translate s.builder delta s.stream
      exact .inr ⟨object.moved delta, _, _, core_eq_of_some ho _, hbare,
        run_bind_of_ok (run_translate_of_some ho delta)⟩
  | place index p =>
    cases hop
    rcases run_changeInstance_cases s i (.place (s.snapped p)) (fun _ h => nomatch h)
        (fun s inst => inst.place s.builder (s.snapped p)) (fun _ => rfl) with
      ⟨e, hcore, hrun⟩ | ⟨inst, found, u, hcore, hrun⟩
    · exact .inl ⟨e, hcore, run_bind_of_error (run_bind_of_error hrun)⟩
    · have hplace : ExceptT.run (Scene.place i p) s =
          (.ok (inst.withObjects found).placement, _) := run_bind_of_ok hrun
      exact .inr ⟨.module inst, .module (inst.withObjects found), u, hcore, rfl,
        run_bind_of_ok hplace⟩
  | setParam index name x =>
    cases hop
    rcases run_changeInstance_cases s i (.setParam name x) (fun _ h => nomatch h)
        (fun s inst => inst.setParam s.builder name x) (fun _ => rfl) with
      ⟨e, hcore, hrun⟩ | ⟨inst, found, u, hcore, hrun⟩
    · exact .inl ⟨e, hcore, run_bind_of_error (run_bind_of_error hrun)⟩
    · have hset : ExceptT.run (Scene.setParam i name x) s = (.ok (), _) := run_bind_of_ok hrun
      exact .inr ⟨.module inst, .module (inst.withObjects found), u, hcore, rfl,
        run_bind_of_ok hset⟩
  | setPoint index pointIndex p =>
    cases hop
    rcases run_changeInstance_cases s i (.setPoint pointIndex p) (fun _ h => nomatch h)
        (fun s inst => inst.setPoint s.builder pointIndex p) (fun _ => rfl) with
      ⟨e, hcore, hrun⟩ | ⟨inst, found, u, hcore, hrun⟩
    · exact .inl ⟨e, hcore, run_bind_of_error (run_bind_of_error hrun)⟩
    · have hset : ExceptT.run (Scene.setPoint i pointIndex p) s = (.ok (), _) :=
        run_bind_of_ok hrun
      exact .inr ⟨.module inst, .module (inst.withObjects found), u, hcore, rfl,
        run_bind_of_ok hset⟩
  | _ => cases hop

theorem fst_run_telling (hop : op.editOf? s = some (i, edit)) :
    (s.run op.telling).1 = (s.core i edit).map op.answer := by
  rcases run_telling hop with ⟨e, hcore, hrun⟩ | ⟨made, object, u, hcore, -, hrun⟩ <;>
    rw [hrun, hcore] <;> rfl

/-! ### Bare scenes -/

/-- What a refresh keeps of a scene. -/
def bared (s : Scene) : Scene :=
  { s with objects := s.objects.map SceneObject.bare, stream := .ofSeed s.seed }

/-- The objects with what an edit makes of the one at an index, if it is accepted. -/
def written (index : Nat) (made : Except SceneError SceneObject) (objects : List SceneObject) :
    List SceneObject :=
  match made with
  | .ok object => objects.set index object
  | .error _ => objects

/-- What an edit makes of a scene when nothing is expanded. -/
def sketched (s : Scene) (op : Operation) : Scene :=
  match op.editOf? s with
  | some (index, edit) => { s with objects := written index (s.core index edit) s.objects }
  | none => s

theorem sketched_eq (hop : op.editOf? s = some (i, edit)) :
    s.sketched op = { s with objects := written i (s.core i edit) s.objects } := by
  rw [sketched, hop]

theorem perform_refresh_bared (s : Scene) : s.bared.perform .refresh = s.perform .refresh := by
  have hrun : mapInstances (·.refresh s.builder) s.bared.objects (.ofSeed s.seed) =
      mapInstances (·.refresh s.builder) s.objects (.ofSeed s.seed) :=
    mapInstances_refresh_bare s.builder s.objects (.ofSeed s.seed)
  have hrefreshed : ∀ t : Scene, t.perform .refresh =
      { t with
        objects := (mapInstances (·.refresh t.builder) t.objects (.ofSeed t.seed)).1
        stream := (mapInstances (·.refresh t.builder) t.objects (.ofSeed t.seed)).2 } :=
    fun t => t.perform_refresh
  rw [hrefreshed, hrefreshed]
  change { s.bared with
    objects := (mapInstances (·.refresh s.builder) s.bared.objects (.ofSeed s.seed)).1
    stream := (mapInstances (·.refresh s.builder) s.bared.objects (.ofSeed s.seed)).2 } = _
  rw [hrun]
  rfl

theorem core_bared (s : Scene) (i : Nat) (edit : Instance.Edit) :
    s.bared.core i edit = (s.core i edit).map SceneObject.bare := by
  have hget : s.bared.objects[i]? = s.objects[i]?.map SceneObject.bare := List.getElem?_map ..
  rcases ho : s.objects[i]? with _ | object
  · have hlength : s.bared.objects.length = s.objects.length := List.length_map ..
    rw [ho] at hget
    rw [core_eq_of_none ho, core_eq_of_none hget, hlength]
    rfl
  · rw [ho] at hget
    rw [core_eq_of_some ho, core_eq_of_some hget, SceneObject.edited_bare]

/-- The grid is all that an edit needs of the scene to know what it is. -/
theorem editOf?_bared (op : Operation) (s : Scene) : op.editOf? s.bared = op.editOf? s := by
  cases op <;> rfl

/-- **What an edit leaves for a refresh can be made without an expansion.** -/
theorem bared_perform (h : op.target? = some i) (s : Scene) :
    (s.perform op).bared = s.bared.sketched op := by
  obtain ⟨edit, hop⟩ := exists_editOf? h s
  have hbared : op.editOf? s.bared = some (i, edit) := (editOf?_bared op s).trans hop
  rw [sketched_eq hbared, core_bared, ← snd_run_telling]
  rcases run_telling hop with ⟨e, hcore, hrun⟩ | ⟨made, object, u, hcore, hbare, hrun⟩
  · rw [hrun, hcore]
    rfl
  -- the stream has moved and the object is expanded, but neither is left in the bare scene
  · have hset : (s.objects.set i object).map SceneObject.bare =
        (s.objects.map SceneObject.bare).set i made.bare := by
      rw [List.map_set, hbare]
    rw [hrun, hcore]
    change { s.bared with objects := (s.objects.set i object).map SceneObject.bare } = _
    rw [hset]
    rfl

/-! ### Two edits -/

theorem length_written (made : Except SceneError SceneObject) (objects : List SceneObject) :
    (written i made objects).length = objects.length := by
  cases made with
  | error => rfl
  | ok object => exact List.length_set ..

theorem getElem?_written_of_ne (h : i ≠ j) (made : Except SceneError SceneObject)
    (objects : List SceneObject) : (written j made objects)[i]? = objects[i]? := by
  cases made with
  | error => rfl
  | ok object => exact List.getElem?_set_ne h.symm

theorem written_comm (h : i ≠ j) (made made' : Except SceneError SceneObject)
    (objects : List SceneObject) :
    written j made' (written i made objects) = written i made (written j made' objects) := by
  rcases made with e | object <;> rcases made' with e' | object'
  · rfl
  · rfl
  · rfl
  · exact List.set_comm object object' h

/-- An edit does not look at an object other than its own. -/
theorem core_written_of_ne (h : i ≠ j) (made : Except SceneError SceneObject) (s : Scene)
    (edit : Instance.Edit) :
    core { s with objects := written j made s.objects } i edit = s.core i edit := by
  unfold core
  dsimp only
  rw [getElem?_written_of_ne h, length_written]

/-- What an edit makes of its object does not show what was made of another one before. -/
theorem core_sketched_of_ne (h : op'.target? = some j) (hne : i ≠ j) (s : Scene)
    (edit : Instance.Edit) : (s.sketched op').core i edit = s.core i edit := by
  obtain ⟨edit', hop'⟩ := exists_editOf? h s
  rw [sketched_eq hop']
  exact core_written_of_ne hne _ s edit

theorem editOf?_sketched (op op' : Operation) (s : Scene) :
    op.editOf? (s.sketched op') = op.editOf? s := by
  have hgrid : (s.sketched op').gridSize = s.gridSize := by
    unfold sketched
    split <;> rfl
  cases op with
  | place index p => simp only [Operation.editOf?, snapped, hgrid]
  | _ => rfl

theorem sketched_comm (h : op.target? = some i) (h' : op'.target? = some j) (hne : i ≠ j)
    (s : Scene) : (s.sketched op).sketched op' = (s.sketched op').sketched op := by
  obtain ⟨edit, hop⟩ := exists_editOf? h s
  obtain ⟨edit', hop'⟩ := exists_editOf? h' s
  -- the second edit is the one that it would have been without the first
  have hnext : op'.editOf? (s.sketched op) = some (j, edit') := (editOf?_sketched ..).trans hop'
  have hnext' : op.editOf? (s.sketched op') = some (i, edit) := (editOf?_sketched ..).trans hop
  rw [sketched_eq hnext, sketched_eq hnext', core_sketched_of_ne h hne.symm,
    core_sketched_of_ne h' hne, sketched_eq hop, sketched_eq hop']
  dsimp only
  rw [written_comm hne]

/-- An edit tells the same whether another object is edited before or not. -/
theorem fst_run_telling_perform (h : op.target? = some i) (h' : op'.target? = some j)
    (hne : i ≠ j) (s : Scene) : ((s.perform op').run op.telling).1 = (s.run op.telling).1 := by
  have hanswer : ∀ t : Scene, ∀ edit, op.editOf? t.bared = some (i, edit) →
      (t.run op.telling).1 = (t.bared.core i edit).map op.answer := by
    intro t edit hop
    rw [editOf?_bared] at hop
    rw [fst_run_telling hop, core_bared]
    cases t.core i edit with
    | error => rfl
    | ok made => exact congrArg Except.ok (answer_bare op made).symm
  obtain ⟨edit, hop⟩ := exists_editOf? h s.bared
  have hop' : op.editOf? (s.perform op').bared = some (i, edit) := by
    rw [bared_perform h', editOf?_sketched, hop]
  rw [hanswer s edit hop, hanswer (s.perform op') edit hop', bared_perform h',
    core_sketched_of_ne h' hne]

/-- **Edits of different objects can be made in either order.**  Each of them tells the same as it
does in the other order, and a refresh leaves no difference. -/
theorem edits_commute (h : op.target? = some i) (h' : op'.target? = some j) (hne : i ≠ j)
    (s : Scene) :
    ((s.perform op').run op.telling).1 = (s.run op.telling).1 ∧
    ((s.perform op).run op'.telling).1 = (s.run op'.telling).1 ∧
    ((s.perform op).perform op').perform .refresh =
      ((s.perform op').perform op).perform .refresh := by
  refine ⟨fst_run_telling_perform h h' hne s, fst_run_telling_perform h' h hne.symm s, ?_⟩
  -- both orders leave the same bare scene, and the refresh sees no more than that
  rw [← perform_refresh_bared, bared_perform h', bared_perform h, sketched_comm h h' hne,
    ← bared_perform h', ← bared_perform h, perform_refresh_bared]

/-- A parameter of one instance is set, and the last point of another one is placed.  Both draw from
the random stream, so that the order shows in where their labels are until the next refresh. -/
theorem edits_commute_after_randomLabel :
    let s := empty.after (randomLabel ++ [.beginPlacement "m"])
    let op : Operation := .setParam 1 "a" 5.0
    let op' : Operation := .place 2 .zero
    (s.run op'.telling).1.toOption = some (some .complete) ∧
      ((s.perform op').run op.telling).1 = (s.run op.telling).1 ∧
      ((s.perform op).perform op').optical.map (·.toRecord.compact) ≠
        ((s.perform op').perform op).optical.map (·.toRecord.compact) ∧
      ((s.perform op).perform op').perform .refresh =
        ((s.perform op').perform op).perform .refresh := by
  intro s op op'
  have htold : (s.run op'.telling).1.toOption = some (some .complete) := by decide +kernel
  have hdiffer : ((s.perform op).perform op').optical.map (·.toRecord.compact) ≠
      ((s.perform op').perform op).optical.map (·.toRecord.compact) := by
    decide +kernel
  have hop : op.target? = some 1 := rfl
  have hop' : op'.target? = some 2 := rfl
  obtain ⟨hsame, -, hrefresh⟩ := edits_commute hop hop' (by decide) s
  exact ⟨htold, hsame, hdiffer, hrefresh⟩

/-! ### Any number of edits -/

/-- What a run of edits leaves for a refresh can be made without an expansion. -/
theorem bared_after {ops : List Operation} (hops : ∀ op ∈ ops, op.target? ≠ none) :
    ∀ s : Scene, (s.after ops).bared = ops.foldl sketched s.bared := by
  induction ops with
  | nil => exact fun _ => rfl
  | cons op ops ih =>
    intro s
    obtain ⟨i, hi⟩ := Option.ne_none_iff_exists'.mp (hops op List.mem_cons_self)
    have hrest := ih (fun op' h => hops op' (List.mem_cons_of_mem op h)) (s.perform op)
    rw [List.foldl_cons, ← bared_perform hi]
    exact hrest

/-- **Any number of edits of different objects can be made in any order before a refresh.** -/
theorem refresh_after_perm {ops ops' : List Operation} (hperm : ops.Perm ops')
    (hops : ∀ op ∈ ops, op.target? ≠ none) (hnodup : (ops.map Operation.target?).Nodup)
    (s : Scene) : (s.after ops).perform .refresh = (s.after ops').perform .refresh := by
  have hops' : ∀ op ∈ ops', op.target? ≠ none := fun op h => hops op (hperm.mem_iff.mpr h)
  have hcomm : ∀ op ∈ ops, ∀ op' ∈ ops, ∀ t : Scene,
      (t.sketched op).sketched op' = (t.sketched op').sketched op := by
    intro op ho op' ho' t
    by_cases heq : op = op'
    · rw [heq]
    · obtain ⟨i, hi⟩ := Option.ne_none_iff_exists'.mp (hops op ho)
      obtain ⟨j, hj⟩ := Option.ne_none_iff_exists'.mp (hops op' ho')
      have hne : i ≠ j := by
        rintro rfl
        exact heq (List.inj_on_of_nodup_map hnodup ho ho' (hi.trans hj.symm))
      exact sketched_comm hi hj hne t
  have hsketch : ops.foldl sketched s.bared = ops'.foldl sketched s.bared :=
    hperm.foldl_eq' hcomm s.bared
  rw [← perform_refresh_bared, bared_after hops, hsketch, ← bared_after hops',
    perform_refresh_bared]

end Scene

end OpticScene
