import OpticScene.Proofs.PlainRecords
import OpticScene.Proofs.Reports

/-!
# Expansions are finite

The control points and the parameters of an instance may be anything, not only numbers that can be
written.  Whatever they are, no number that is not finite comes out of an expansion: not in the
records, and not in the objects that are made from them, however deep these stand.

## Main definitions

* `Definition.IsAccepted` — a definition was read from a JSON value.

## Main results

* `Registry.isFinite_of_mem_optical` — **the plain objects that a finite record makes are finite**,
  at any depth.
* `Registry.finite_of_expandRecords` — **an expansion is finite**, and so are the plain objects that
  its records make, so that these come back from their own records.
-/

namespace OpticScene

open OpticScene.Random (Stream)
open OpticScene.Module (Definition Instance Library)

/-! ### Definitions -/

namespace Module

/-- The definition was read from a JSON value, where all numbers are finite. -/
def Definition.IsAccepted (d : Definition) : Prop :=
  ∃ (json : Json.FiniteValue) (s t : Stream), ExceptT.run (ofRecord json.val) s = (.ok d, t)

theorem Definition.IsAccepted.isFinite {d : Definition} (h : d.IsAccepted) : d.IsFinite := by
  obtain ⟨json, s, t, hrun⟩ := h
  exact (gives_ofRecord json.finite).of_run hrun

end Module

/-! ### Objects -/

/-- Light meets no instances. -/
theorem SceneObject.kind_of_mem_optical {object : SceneObject} :
    ∀ part ∈ object.optical, part.kind ≠ .module := by
  induction object using induct with
  | plain object hplain =>
    rw [optical_of_plain hplain]
    cases object with
    | module => cases hplain
    | _ => simp [kind]
  | module outer ih =>
    intro part hpart
    rw [optical_module] at hpart
    obtain ⟨inner, hinner, hpart⟩ := mem_opticalAll_iff.mp hpart
    exact ih inner hinner part hpart

namespace Registry

variable {registry : Registry} {library : Library}

/-- **The plain objects that a finite record makes are finite**, at any depth. -/
theorem isFinite_of_mem_optical (hall : library.All Definition.IsFinite) {levels : Nat} :
    ∀ {record : Json} {object part : SceneObject} {s t : Stream}, record.isFinite = true →
      ExceptT.run (registry.instantiate library levels record) s = (.ok object, t) →
        part ∈ object.optical → part.isFinite = true := by
  -- an instance has objects that were made with fewer levels
  induction levels using Nat.strongRecOn with
  | ind levels ih =>
    intro record object part s t hrecord hrun hpart
    rcases hplain : object.instance? with _ | inst
    · rw [SceneObject.optical_of_plain hplain, List.mem_singleton] at hpart
      rw [hpart]
      exact (gives_instantiate hall hrecord levels).of_run hrun
    · obtain rfl := SceneObject.instance?_eq_some_iff.mp hplain
      obtain ⟨fields, core, u, hcore, rfl⟩ := makes_of_run_eq_ok hrun
      have hd : core.definition.IsFinite := hall _ _ (Instance.find?_of_ofFields hcore)
      rw [SceneObject.optical_module] at hpart
      obtain ⟨inner, hinner, hinside⟩ := SceneObject.mem_opticalAll_iff.mp hpart
      obtain ⟨rest, record, v, w, rfl, hrecord, hrun⟩ := exists_run_of_mem_refresh hd hinner
      exact ih rest (Nat.lt_succ_self rest) hrecord hrun hinside

/-- **An expansion is finite**, whatever the control points and the parameters of the instance are.
The plain objects that its records make, at whatever depth, have finite numbers, so that they come
back from their own records. -/
theorem finite_of_expandRecords {Obj : Type} {inst : Instance Obj}
    (hd : inst.definition.IsAccepted) {s t : Stream} {records : List Json}
    (h : ExceptT.run inst.expandRecords s = (.ok records, t)) :
    Json.allFinite records = true ∧
      ∀ (registry : Registry) (library : Library), library.All Definition.IsAccepted →
        ∀ record ∈ records, ∀ (levels : Nat) (u v : Stream) (object : SceneObject),
          ExceptT.run (registry.instantiate library levels record) u = (.ok object, v) →
            ∀ part ∈ object.optical, part.isFinite = true ∧
              ∀ (library' : Library) (levels' : Nat) (w : Stream),
                ExceptT.run (standard.instantiate library' levels' part.toRecord) w =
                  (.ok part, w) := by
  have hfinite := (Instance.gives_expandRecords hd.isFinite).of_run h
  refine ⟨hfinite, ?_⟩
  intro registry library hlibrary record hmem levels u v object hrun part hpart
  rw [Json.allFinite_eq, List.all_eq_true] at hfinite
  have hall : library.All Definition.IsFinite := fun name d hd => (hlibrary name d hd).isFinite
  have hpartFinite := isFinite_of_mem_optical hall (hfinite record hmem) hrun hpart
  exact ⟨hpartFinite,
    run_instantiate_toRecord_plain (SceneObject.kind_of_mem_optical part hpart) hpartFinite⟩

/-- A module with a label that is put somewhere by chance. -/
def drifting : Json :=
  .object
    [("params", .array [.string "r=1:1:5"]),
      ("objs",
        .array
          [.object
            [("type", .string "TextLabel"), ("x", .string "\x60r + random()\x60"),
              ("y", .ofInt 0)]])]

/-- A module with a label that tells of a parameter, and another module inside. -/
def telling : Json :=
  .object
    [("numPoints", .ofNat 1), ("params", .array [.string "a=0:1:9"]),
      ("objs",
        .array
          [.object
            [("type", .string "TextLabel"), ("x", .ofInt 2),
              ("y", .string "\x60if x_1 == () { 3 } else { x_1 }\x60"),
              ("text", .string "a is \x60a\x60")],
          .object
            [("type", .string "ModuleObj"), ("module", .string "inner"),
              ("params", .object [("r", .ofFloat 2.5)])]])]

/-- An instance of a definition, with a control point that is nowhere and an endless parameter. -/
def unbounded (d : Definition) : Instance SceneObject where
  moduleName := "outer"
  definition := d
  points := [⟨0.0 / 0.0, 1.0⟩]
  params := [("a", 1.0 / 0.0)]
  objects := []
  lastError := none
  placement := .complete

theorem isFinite_unbounded (d : Definition) : (unbounded d).isFinite = false := by
  have hpoint : Point.isFinite ⟨0.0 / 0.0, 1.0⟩ = false := by decide +kernel
  simp only [Instance.isFinite, unbounded, List.all_cons, hpoint, Bool.false_and]

theorem finite_of_expandRecords_unbounded :
    ∃ (inner outer : Definition) (records : List Json) (record : Json) (object : SceneObject)
      (t u : Stream),
      (unbounded outer).isFinite = false ∧
        ExceptT.run (unbounded outer).expandRecords (.ofSeed 0) = (.ok records, t) ∧
          record ∈ records ∧
            ExceptT.run (standard.instantiate ⟨[("inner", inner)]⟩ Module.maxDepth record) t =
                (.ok object, u) ∧
              object.optical.map SceneObject.tag = ["TextLabel"] ∧
                Json.allFinite records = true ∧ ∀ part ∈ object.optical, part.isFinite = true := by
  have hchecks : (ExceptT.run (Definition.ofRecord drifting) (.ofSeed 0)).1.toOption.any
      (fun inner =>
        (ExceptT.run (Definition.ofRecord telling) (.ofSeed 0)).1.toOption.any fun outer =>
          (ExceptT.run (unbounded outer).expandRecords (.ofSeed 0)).1.toOption.any fun records =>
            records[1]?.any fun record =>
              (ExceptT.run (standard.instantiate ⟨[("inner", inner)]⟩ Module.maxDepth record)
                (ExceptT.run (unbounded outer).expandRecords (.ofSeed 0)).2).1.toOption.any
                fun object => decide (object.optical.map SceneObject.tag = ["TextLabel"])) =
        true := by
    decide +kernel
  obtain ⟨inner, hinner, hchecks⟩ := exists_run_of_any hchecks
  obtain ⟨outer, houter, hchecks⟩ := exists_run_of_any hchecks
  obtain ⟨records, hrecords, hchecks⟩ := exists_run_of_any hchecks
  obtain ⟨record, hrecord, hchecks⟩ := (Option.any_eq_true _ _).mp hchecks
  obtain ⟨object, hobject, hoptical⟩ := exists_run_of_any hchecks
  have hmem : record ∈ records := List.mem_of_getElem? hrecord
  have haccepted : Library.All Definition.IsAccepted ⟨[("inner", inner)]⟩ :=
    Library.all_of_forall_mem <|
      List.forall_mem_singleton.mpr ⟨⟨drifting, by decide⟩, _, _, hinner⟩
  have hd : (unbounded outer).definition.IsAccepted := ⟨⟨telling, by decide⟩, _, _, houter⟩
  have hfinite := finite_of_expandRecords hd hrecords
  have hparts := hfinite.2 standard _ haccepted record hmem _ _ _ object hobject
  exact ⟨inner, outer, records, record, object, _, _, isFinite_unbounded outer, hrecords, hmem,
    hobject, of_decide_eq_true hoptical, hfinite.1, fun part hpart => (hparts part hpart).1⟩

end Registry

end OpticScene
