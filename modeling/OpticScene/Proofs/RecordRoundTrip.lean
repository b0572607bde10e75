import OpticScene.Proofs.Instance
import OpticScene.Scene.Object

/-!
# Objects and their records

An object is written as a record and read again.  Finite numbers are written as numbers, so nothing
is lost with them; of an instance the record keeps all but the objects inside, which follow from the
rest.

## Main definitions

* `SceneObject.isFinite` — all numbers in the record of an object are finite.
* `Instance.fields` — what the record of an instance says.

## Main results

* `Mirror.ofRecord_tagged`, `Blocker.ofRecord_tagged`, `Label.ofRecord_tagged` — **reading the
  record of a finite object gives the object.**
* `Instance.decode_toRecord`, `Instance.core_fields` — reading the record of a finite instance gives
  the instance without its objects.
-/

namespace OpticScene

open OpticScene.Module (Definition Instance Params)

/-! ### Numbers, points and lists -/

/-- Both coordinates are finite. -/
def Point.isFinite (p : Point) : Bool := p.x.isFinite && p.y.isFinite

namespace Record

theorem float_ofFloat {x : Float} (h : x.isFinite = true) : float (.ofFloat x) = .ok x := by
  simp only [Json.ofFloat, h, if_true]
  rfl

theorem point_ofPoint {p : Point} (h : p.isFinite = true) : point (ofPoint p) = .ok p := by
  obtain ⟨hx, hy⟩ := Bool.and_eq_true_iff.mp h
  simp [point, pointShape, ofPoint, Shape.read, Shape.checkGiven, Field.required, checkMissing,
    Fields.required, Named.get?, float_ofFloat hx, float_ofFloat hy, Except.map, bind,
    Except.bind, pure, Except.pure]

/-- A list is read back when each of its elements is. -/
theorem list_map {α : Type} {decode : Decoder α} {encode : α → Json} : ∀ {as : List α},
    (∀ a ∈ as, decode (encode a) = .ok a) → list decode (.array (as.map encode)) = .ok as := by
  intro as h
  change (as.map encode).mapM decode = .ok as
  induction as with
  | nil => rfl
  | cons a as ih =>
    rw [List.forall_mem_cons] at h
    rw [List.map_cons, List.mapM_cons, h.1, ih h.2]
    rfl

/-- Named values are read back when each of them is. -/
theorem named_map {α : Type} {decode : Decoder α} {encode : α → Json} : ∀ {entries : Named α},
    (∀ e ∈ entries, decode (encode e.2) = .ok e.2) →
      named decode (.object (entries.map fun e => (e.1, encode e.2))) = .ok entries := by
  intro entries h
  change (entries.map fun e => (e.1, encode e.2)).mapM
    (fun e => do return (e.1, ← decode e.2)) = .ok entries
  induction entries with
  | nil => rfl
  | cons e entries ih =>
    rw [List.forall_mem_cons] at h
    rw [List.map_cons, List.mapM_cons, ih h.2]
    dsimp only
    rw [h.1]
    rfl

end Record

/-! ### Plain objects -/

/-- All numbers of a mirror are finite. -/
def Mirror.isFinite (m : Mirror) : Bool :=
  m.p1.isFinite && m.p2.isFinite && m.tiltAngle.isFinite && m.wavelength.isFinite &&
    m.bandwidth.isFinite

/-- All numbers of a blocker are finite. -/
def Blocker.isFinite (b : Blocker) : Bool := b.p1.isFinite && b.p2.isFinite

/-- All numbers of a label are finite. -/
def Label.isFinite (l : Label) : Bool := l.x.isFinite && l.y.isFinite && l.fontSize.isFinite

section

open Record

variable (tag : String)

/-- **Reading the record of a finite mirror gives the mirror.** -/
theorem Mirror.ofRecord_tagged {m : Mirror} (h : m.isFinite = true) :
    ofRecord (tagged tag m.toFields) = .ok m := by
  simp only [isFinite, Bool.and_eq_true] at h
  obtain ⟨⟨⟨⟨hp1, hp2⟩, htilt⟩, hwavelength⟩, hbandwidth⟩ := h
  simp [ofRecord, shape, toFields, tagged, typeKey, Shape.read, Shape.checkGiven, Field.required,
    Field.optional, checkMissing, Fields.required, Fields.optional, Named.get?, truth, Except.map,
    point_ofPoint hp1, point_ofPoint hp2, float_ofFloat htilt, float_ofFloat hwavelength,
    float_ofFloat hbandwidth, bind, Except.bind, pure, Except.pure]

/-- **Reading the record of a finite blocker gives the blocker.** -/
theorem Blocker.ofRecord_tagged {b : Blocker} (h : b.isFinite = true) :
    ofRecord (tagged tag b.toFields) = .ok b := by
  obtain ⟨hp1, hp2⟩ := Bool.and_eq_true_iff.mp h
  simp [ofRecord, shape, toFields, tagged, typeKey, Shape.read, Shape.checkGiven, Field.required,
    checkMissing, Fields.required, Named.get?, Except.map, bind, Except.bind, pure,
    Except.pure, point_ofPoint hp1, point_ofPoint hp2]

/-- **Reading the record of a finite label gives the label.** -/
theorem Label.ofRecord_tagged {l : Label} (h : l.isFinite = true) :
    ofRecord (tagged tag l.toFields) = .ok l := by
  simp only [isFinite, Bool.and_eq_true] at h
  obtain ⟨⟨hx, hy⟩, hsize⟩ := h
  simp [ofRecord, shape, toFields, tagged, typeKey, Shape.read, Shape.checkGiven, Field.required,
    Field.optional, checkMissing, Fields.required, Fields.optional, Named.get?, Except.map,
    Record.text, bind, Except.bind, pure, Except.pure, float_ofFloat hx, float_ofFloat hy,
    float_ofFloat hsize]

end

/-! ### Instances -/

namespace Module.Instance

/-- All coordinates and all parameters of an instance are finite. -/
def isFinite {Obj : Type} (inst : Instance Obj) : Bool :=
  inst.points.all Point.isFinite && inst.params.all fun p => p.2.isFinite

/-- What the record of an instance says. -/
def fields {Obj : Type} (inst : Instance Obj) : Fields where
  moduleName := inst.moduleName
  points := some inst.points
  params := some inst.params
  notDone := inst.placement = .collecting

variable {Obj : Type} {inst : Instance Obj}

/-- **Reading the record of a finite instance gives its fields.** -/
theorem decode_toRecord (h : inst.isFinite = true) :
    Fields.decode inst.toRecord = .ok inst.fields := by
  obtain ⟨hpoints, hparams⟩ := Bool.and_eq_true_iff.mp h
  have hpoints : Record.list Record.point (.array (inst.points.map Record.ofPoint)) =
      .ok inst.points :=
    Record.list_map fun p hp => Record.point_ofPoint (List.all_eq_true.mp hpoints p hp)
  have hparams : Record.named Record.float
      (.object (inst.params.map fun p => (p.1, .ofFloat p.2))) = .ok inst.params :=
    Record.named_map fun p hp => Record.float_ofFloat (List.all_eq_true.mp hparams p hp)
  -- lists and objects are not `null`, so an optional field with one is read
  have hoption : ∀ {α : Type} (decode : Record.Decoder α) (v : Json), v ≠ .null →
      Record.option decode v = (decode v).map some := by
    intro α decode v hv
    cases v with
    | null => exact absurd rfl hv
    | _ => rfl
  cases hp : inst.placement <;>
    simp [Fields.decode, shape, toRecord, fields, hp, Record.tagged, Record.typeKey,
      Record.Shape.read, Record.Shape.checkGiven, Record.Field.required, Record.Field.optional,
      Record.checkMissing, Record.Fields.required, Record.Fields.optional, Named.get?, hoption,
      hpoints, hparams, Record.text, Record.truth, Except.map, bind, Except.bind, pure, Except.pure]

/-- Values that are found for all names replace the defaults. -/
theorem getD_map_eq_self (find : String → Option Float) {defaults given : Params}
    (hnames : Named.names given = Named.names defaults)
    (hfind : ∀ p ∈ given, find p.1 = some p.2) :
    defaults.map (fun (name, default) => (name, (find name).getD default)) = given := by
  induction defaults generalizing given with
  | nil =>
    rw [show given = [] from List.map_eq_nil_iff.mp hnames]
    rfl
  | cons entry defaults ih =>
    obtain ⟨name, default⟩ := entry
    cases given with
    | nil => cases hnames
    | cons entry given =>
      obtain ⟨name', x⟩ := entry
      obtain ⟨rfl, hrest⟩ := List.cons.inj hnames
      rw [List.forall_mem_cons] at hfind
      rw [List.map_cons, ih hrest hfind.2]
      dsimp only
      rw [hfind.1, Option.getD_some]

/-- Parameters that have all their values are not changed by the defaults. -/
theorem resolveParams_eq_self {d : Definition} {given : Params}
    (hnames : Named.names given = Named.names d.defaults) (hnodup : (Named.names given).Nodup) :
    resolveParams d given = given :=
  getD_map_eq_self (Named.get? · given) hnames fun _ hp => Named.get?_of_mem hp hnodup

/-- **The record of an instance with all its parameters keeps all but the objects.** -/
theorem core_fields (hnames : Named.names inst.params = Named.names inst.definition.defaults)
    (hnodup : (Named.names inst.params).Nodup) :
    inst.fields.core inst.definition = inst.withObjects ([], none) := by
  have hparams : inst.fields.paramsFor inst.definition = inst.params :=
    resolveParams_eq_self hnames hnodup
  have hplacement : (if inst.fields.notDone then Placement.collecting else .complete) =
      inst.placement := by
    unfold fields
    cases inst.placement <;> rfl
  unfold Fields.core
  rw [hparams, hplacement]
  rfl

end Module.Instance

/-! ### Objects -/

/-- All numbers in the record of an object are finite. -/
def SceneObject.isFinite : SceneObject → Bool
  | .mirror m => m.isFinite
  | .blocker b => b.isFinite
  | .label l => l.isFinite
  | .module inst => inst.isFinite

end OpticScene
