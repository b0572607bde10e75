import OpticScene.Proofs.FiniteObjects
import OpticScene.Proofs.RecordEntries
import OpticScene.Proofs.Reload

/-!
# Records of plain objects

A mirror, a blocker or a label is read from records of many shapes, but only one of them is written
again: the one that has all fields, named and in order.

## Main definitions

* `SceneObject.Kind.shape` — the shape of the records of a kind.
* `Registry.rewrite` — a record is read and written again.

## Main results

* `Registry.run_create_of_agree` — **records that say the same make the same object.**
* `Registry.comes_back_of_create` — **a plain object that was read comes back from its record**,
  and this record is written again as it is.
* `Registry.exists_create_iff` — the plain objects that are read are those with finite numbers.
-/

namespace OpticScene

open OpticScene.Random (Draws Stream)
open OpticScene.Module (Instance Library)

/-! ### Shapes of records -/

section

open Record

theorem Mirror.shape_decodes : Mirror.shape.Decodes Mirror.ofRecord := by
  refine ⟨_, fun _ => rfl, fun given given' h => ?_⟩
  simp only [shape, List.forall_mem_cons, Field.required, Field.optional] at h
  obtain ⟨h1, h2, h3, h4, h5, h6, h7, -⟩ := h
  simp only [Fields.required, Fields.optional, h1, h2, h3, h4, h5, h6, h7]

theorem Blocker.shape_decodes : Blocker.shape.Decodes Blocker.ofRecord := by
  refine ⟨_, fun _ => rfl, fun given given' h => ?_⟩
  simp only [shape, List.forall_mem_cons, Field.required] at h
  obtain ⟨h1, h2, -⟩ := h
  simp only [Fields.required, h1, h2]

theorem Label.shape_decodes : Label.shape.Decodes Label.ofRecord := by
  refine ⟨_, fun _ => rfl, fun given given' h => ?_⟩
  simp only [shape, List.forall_mem_cons, Field.required, Field.optional] at h
  obtain ⟨h1, h2, h3, h4, -⟩ := h
  simp only [Fields.required, Fields.optional, h1, h2, h3, h4]

theorem Module.Instance.shape_decodes : Instance.shape.Decodes Instance.Fields.decode := by
  refine ⟨_, fun _ => rfl, fun given given' h => ?_⟩
  simp only [shape, List.forall_mem_cons, Field.required, Field.optional] at h
  obtain ⟨h1, h2, h3, h4, -⟩ := h
  simp only [Fields.required, Fields.optional, h1, h2, h3, h4]

end

/-- The shape of the records of a kind. -/
def SceneObject.Kind.shape : SceneObject.Kind → Record.Shape
  | .mirror => Mirror.shape
  | .blocker => Blocker.shape
  | .label => Label.shape
  | .module => Module.Instance.shape

theorem SceneObject.Kind.nodup_names_shape (kind : SceneObject.Kind) : kind.shape.names.Nodup := by
  cases kind <;> decide

namespace Registry

variable {library : Library} {levels : Nat} {kind : SceneObject.Kind} {record : Json}
  {object : SceneObject} {s t : Stream}

theorem create_standard (library : Library) (levels : Nat) (kind : SceneObject.Kind)
    (record : Json) :
    standard.create library levels kind.tag record =
      make library (standard.builder library levels) record kind := by
  cases kind <;> rfl

/-- An object is made of what is read of its record, and of nothing else of it. -/
theorem make_eq (library : Library) (builder : Module.Builder SceneObject)
    (kind : SceneObject.Kind) :
    ∃ (α : Type) (decode : Record.Decoder α)
        (finish : Except Record.Cause α → Draws SceneError SceneObject),
      kind.shape.Decodes decode ∧
        (∀ record, make library builder record kind = finish (decode record)) ∧
          ∀ cause s, ∃ e, ExceptT.run (finish (.error cause)) s = (.error e, s) := by
  cases kind with
  | mirror =>
    exact ⟨Mirror, _, fun read => do return .mirror (← read.mapError (SceneError.ofRecord _)),
      Mirror.shape_decodes, fun _ => rfl, fun _ _ => ⟨_, rfl⟩⟩
  | blocker =>
    exact ⟨Blocker, _, fun read => do return .blocker (← read.mapError (SceneError.ofRecord _)),
      Blocker.shape_decodes, fun _ => rfl, fun _ _ => ⟨_, rfl⟩⟩
  | label =>
    exact ⟨Label, _, fun read => do return .label (← read.mapError (SceneError.ofRecord _)),
      Label.shape_decodes, fun _ => rfl, fun _ _ => ⟨_, rfl⟩⟩
  | module =>
    exact ⟨Instance.Fields, _, fun read => do
      let inst ← (do
        let fields ← read.mapError (SceneError.ofRecord _)
        let inst : Instance SceneObject ← Instance.ofFields library fields
        inst.refresh builder : Draws SceneError (Instance SceneObject))
      return .module inst,
      Instance.shape_decodes, fun _ => rfl, fun _ _ => ⟨_, rfl⟩⟩

/-- **Records that say the same make the same object.** -/
theorem run_create_of_agree {fields : Record.Fields}
    (h : ExceptT.run (standard.create library levels kind.tag record) s = (.ok object, t))
    (hentries : (Named.names (kind.shape.entries record)).Nodup)
    (hfields : (Named.names fields).Nodup)
    (hsame : Record.Agree kind.shape.fields (kind.shape.entries record) fields) :
    ExceptT.run (standard.create library levels kind.tag (.object fields)) s = (.ok object, t) := by
  rw [create_standard] at h ⊢
  obtain ⟨α, decode, finish, hdecodes, hmake, hfails⟩ :=
    make_eq library (standard.builder library levels) kind
  rw [hmake] at h ⊢
  rcases hrecord : decode record with cause | a
  · obtain ⟨e, he⟩ := hfails cause s
    rw [hrecord, he] at h
    cases h
  · rw [hdecodes.eq_ok_of_agree kind.nodup_names_shape hrecord hentries hfields hsame, ← hrecord]
    exact h

/-- The list of the fields of a record makes the object of the record with these fields. -/
theorem run_create_of_array {items : List Json}
    (h : ExceptT.run (standard.create library levels kind.tag (.array items)) s =
      (.ok object, t)) :
    ExceptT.run (standard.create library levels kind.tag (.object (kind.shape.names.zip items)))
      s = (.ok object, t) := by
  have hnodup : (Named.names (kind.shape.names.zip items)).Nodup :=
    kind.nodup_names_shape.sublist (Record.names_zip_sublist _ items)
  exact run_create_of_agree h hnodup hnodup fun _ _ _ => Iff.rfl

/-! ### Reading and writing -/

/-- A record is read, and the object that it describes is written again. -/
def rewrite (registry : Registry) (library : Library) (levels : Nat) (record : Json) :
    Draws SceneError Json := do
  return (← registry.instantiate library levels record).toRecord

theorem kind_of_run_make {builder : Module.Builder SceneObject}
    (h : ExceptT.run (make library builder record kind) s = (.ok object, t)) :
    object.kind = kind := by
  cases kind <;>
  · obtain ⟨a, u, -, h⟩ := run_bind_eq_ok.mp h
    cases h
    rfl

/-- A finite record of a plain object makes a finite object. -/
theorem gives_make_plain (hkind : kind ≠ .module) (hrecord : record.isFinite = true)
    (builder : Module.Builder SceneObject) :
    Random.Gives (·.isFinite = true) (make library builder record kind) := by
  cases kind with
  | mirror => exact gives_plain Mirror.reads_ofRecord .mirror (fun _ h => h) hrecord .mirror
  | blocker => exact gives_plain Blocker.reads_ofRecord .blocker (fun _ h => h) hrecord .blocker
  | label => exact gives_plain Label.reads_ofRecord .label (fun _ h => h) hrecord .label
  | module => exact absurd rfl hkind

/-- A plain object comes back from its record if its numbers are finite. -/
theorem run_instantiate_toRecord_plain (hkind : object.kind ≠ .module)
    (hfinite : object.isFinite = true) (library : Library) (levels : Nat) (u : Stream) :
    ExceptT.run (standard.instantiate library levels object.toRecord) u = (.ok object, u) := by
  have hplain : ∀ inst, object ≠ .module inst := fun inst h => hkind (h ▸ rfl)
  rw [run_instantiate_toRecord hfinite (fun inst h => absurd h (hplain inst))]
  cases object with
  | module inst => exact absurd rfl hkind
  | _ => rfl

/-- **A plain object that was read comes back from its record**, whatever the record was that it
was read from, and its own record is written again as it is. -/
theorem comes_back_of_create (hkind : kind ≠ .module) (record : Json.FiniteValue)
    (h : ExceptT.run (standard.create library levels kind.tag record.val) s = (.ok object, t))
    (library' : Library) (levels' : Nat) (u : Stream) :
    ExceptT.run (standard.instantiate library' levels' object.toRecord) u = (.ok object, u) ∧
      ExceptT.run (standard.rewrite library' levels' object.toRecord) u =
        (.ok object.toRecord, u) := by
  rw [create_standard] at h
  have hobject : object.kind ≠ .module := kind_of_run_make h ▸ hkind
  have hfinite : object.isFinite = true := (gives_make_plain hkind record.finite _).of_run h
  have hback := run_instantiate_toRecord_plain hobject hfinite library' levels' u
  exact ⟨hback, run_bind_of_ok hback⟩

/-- A mirror whose fields come in another order, one of them not known and some of them missing, and
whose ends are written in two ways. -/
def unusualMirror : Json :=
  .object
    [("bandwidth", .ofInt 5), ("note", .string "spare"), ("p2", .array [.ofInt 3, .ofInt 4]),
      ("filter", .bool true), ("p1", .object [("y", .ofFloat 0.5), ("x", .ofInt 1)])]

theorem comes_back_of_create_unusualMirror :
    ∃ m : Mirror,
      ExceptT.run (standard.create .empty 0 "TiltedMirror" unusualMirror) (.ofSeed 0) =
          (.ok (.mirror m), .ofSeed 0) ∧
        (m.p1.y = 0.5 ∧ m.p2.x = 3.0 ∧ m.filter = true ∧ m.wavelength = 532.0) ∧
          ExceptT.run (standard.instantiate .empty 0 (SceneObject.mirror m).toRecord)
              (.ofSeed 0) = (.ok (.mirror m), .ofSeed 0) ∧
            ExceptT.run (standard.rewrite .empty 0 (SceneObject.mirror m).toRecord) (.ofSeed 0) =
              (.ok (SceneObject.mirror m).toRecord, .ofSeed 0) := by
  have hmirror : ExceptT.run (standard.create .empty 0 "TiltedMirror" unusualMirror) (.ofSeed 0) =
      (.ok (.mirror ⟨⟨1.0, 0.5⟩, ⟨3.0, 4.0⟩, 0.0, true, false, 532.0, 5.0⟩), .ofSeed 0) := by
    rfl
  have hplain : SceneObject.Kind.mirror ≠ .module := by decide
  exact ⟨_, hmirror, ⟨rfl, rfl, rfl, rfl⟩,
    comes_back_of_create hplain ⟨unusualMirror, by decide⟩ hmirror .empty 0 (.ofSeed 0)⟩

/-! ### Which objects are read -/

/-- **The plain objects that are read are those with finite numbers.** -/
theorem exists_create_iff (hkind : kind ≠ .module) :
    (∃ (record : Json.FiniteValue) (s t : Stream),
      ExceptT.run (standard.create library levels kind.tag record.val) s = (.ok object, t)) ↔
      object.kind = kind ∧ object.isFinite = true := by
  constructor
  · rintro ⟨record, s, t, h⟩
    rw [create_standard] at h
    exact ⟨kind_of_run_make h, (gives_make_plain hkind record.finite _).of_run h⟩
  · rintro ⟨rfl, hfinite⟩
    have hback := run_instantiate_toRecord_plain hkind hfinite library levels (.ofSeed 0)
    have hsame : standard.instantiate library levels object.toRecord =
        standard.create library levels object.kind.tag object.toRecord := by
      cases object <;> rfl
    exact ⟨⟨object.toRecord, object.isFinite_toRecord⟩, _, _, hsame ▸ hback⟩

end Registry

end OpticScene
