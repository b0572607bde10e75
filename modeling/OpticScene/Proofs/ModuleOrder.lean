import OpticScene.Proofs.CanonicalRefresh
import OpticScene.Proofs.LoadedScene

/-!
# The order of the modules

A document defines its modules one after the other, and only then are its objects expanded.  A
definition is compiled from its own record alone: it does not look at the modules before it, and the
modules that its records name are looked up when it is expanded.  So modules may use modules that
come after them, or each other, and where their descriptors draw nothing, their order does not
matter.

## Main definitions

* `Module.HasSteadyDescriptors` — reading a record of a module draws nothing.
* `Module.Definition.IsOf` — a definition is what such a record is read as.
* `Scene.Reorders` — two scenes are the same but for the order of their modules.

## Main results

* `Scene.exists_run_defineAll_iff` — modules can be defined together when each can be read alone.
* `Scene.find?_of_run_defineAll` — **what the modules are after all have been defined.**
* `Scene.Reorders.run_addAll` — expansions do not see the order of the modules.
* `Scene.ofDocument_perm` — **documents that differ in the order of their modules are loaded to the
  same objects.**
-/

namespace OpticScene

open OpticScene.Random (Draws Steady Stream)
open OpticScene.Module (Definition DefinitionRecord Library resolveDefaults)

/-! ### Records of modules -/

namespace Module

/-- The random stream does not matter to the descriptors of a record. -/
def HasSteadyDescriptors (json : Json) : Prop :=
  ∀ record, DefinitionRecord.decode json = .ok record →
    Steady (ExceptT.run (resolveDefaults [] record.params))

/-- A record whose descriptors have no calls is read without draws. -/
theorem hasSteadyDescriptors_of_isArithmetic {json : Json}
    (h : (DefinitionRecord.decode json).toOption.all (fun record =>
      (record.params.flatMap Range.used).all Expression.isArithmetic) = true) :
    HasSteadyDescriptors json := by
  intro record hrecord
  rw [hrecord] at h
  exact steady_resolveDefaults [] fun e he =>
    Expression.isSteady_of_isArithmetic (List.all_eq_true.mp h e he)

/-- The definition is what the record is read as, wherever the random stream is. -/
def Definition.IsOf (d : Definition) (json : Json) : Prop :=
  ∀ u, ExceptT.run (Definition.ofRecord json) u = (.ok d, u)

variable {json : Json} {d : Definition}

/-- A record that is read once is read in the same way everywhere. -/
theorem Definition.isOf_of_run (hsteady : HasSteadyDescriptors json) {s t : Stream}
    (h : ExceptT.run (Definition.ofRecord json) s = (.ok d, t)) : t = s ∧ d.IsOf json := by
  obtain ⟨record, hdecode, hloop, hdefaults, hrest⟩ := run_ofRecord_eq_ok.mp h
  have hrun := (hsteady record hdecode).run_eq hdefaults
  have hend : t = s := congrArg Prod.snd (hdefaults.symm.trans (hrun s))
  exact ⟨hend, fun u => run_ofRecord_eq_ok.mpr ⟨record, hdecode, hloop, hrun u, hrest⟩⟩

end Module

namespace Scene

variable {s t m n : Scene} {modules : List (String × Json)}

/-! ### Defining modules -/

/-- **Modules can be defined together when each can be read alone.** -/
theorem exists_run_defineAll_iff : ∀ {modules : List (String × Json)} {s : Scene},
    s.objects = [] → (∀ e ∈ modules, Module.HasSteadyDescriptors e.2) →
      ((∃ m, ExceptT.run (defineAll modules) s = (.ok (), m)) ↔
        ∀ e ∈ modules, ∃ d : Definition, d.IsOf e.2) := by
  intro modules
  induction modules with
  | nil => exact fun _ _ => ⟨fun _ _ he => absurd he List.not_mem_nil, fun _ => ⟨_, rfl⟩⟩
  | cons entry modules ih =>
    intro s hs hsteady
    rw [List.forall_mem_cons] at hsteady ⊢
    constructor
    · rintro ⟨m, h⟩
      obtain ⟨d, next, hdefine, hrest⟩ := run_bind_eq_ok.mp h
      obtain ⟨t, hd, rfl⟩ := exists_of_run_define_eq_ok hdefine
      rw [defined_of_objects_eq_nil hs] at hrest
      have hnext := ih (s := { s with library := s.library.insert entry.1 d, stream := t }) hs
      exact ⟨⟨d, (Definition.isOf_of_run hsteady.1 hd).2⟩, (hnext hsteady.2).mp ⟨m, hrest⟩⟩
    · rintro ⟨⟨d, hd⟩, hmodules⟩
      have hdefine := run_define_of_ok (hd s.stream) entry.1
      rw [defined_of_objects_eq_nil hs] at hdefine
      have hnext := ih (s := { s with library := s.library.insert entry.1 d }) hs
      obtain ⟨m, hrest⟩ := (hnext hsteady.2).mpr hmodules
      exact ⟨m, (run_bind_of_ok hdefine).trans hrest⟩

/-- A name that no record has keeps its module. -/
theorem find?_of_run_defineAll_of_not_mem {name : String} :
    ∀ {modules : List (String × Json)} {s : Scene}, name ∉ Named.names modules →
      ExceptT.run (defineAll modules) s = (.ok (), m) →
        m.library.find? name = s.library.find? name := by
  intro modules
  induction modules with
  | nil =>
    intro s _ h
    cases h
    rfl
  | cons entry modules ih =>
    intro s hname h
    obtain ⟨hne, hname⟩ := List.ne_and_not_mem_of_not_mem_cons hname
    obtain ⟨d, next, hdefine, hrest⟩ := run_bind_eq_ok.mp h
    obtain ⟨t, -, rfl⟩ := exists_of_run_define_eq_ok hdefine
    rw [ih hname hrest]
    exact (Library.find?_insert _ _ _ _).trans (if_neg (Ne.symm hne))

/-- **A module is what its record is read as**, once all have been defined, if no other record has
its name. -/
theorem find?_of_run_defineAll {name : String} {json : Json} {d : Definition} (hd : d.IsOf json) :
    ∀ {modules : List (String × Json)} {s : Scene}, (Named.names modules).Nodup →
      (name, json) ∈ modules → ExceptT.run (defineAll modules) s = (.ok (), m) →
        m.library.find? name = some d := by
  intro modules
  induction modules with
  | nil => exact fun _ hmem => absurd hmem List.not_mem_nil
  | cons entry modules ih =>
    intro s hnames hmem h
    obtain ⟨hentry, hnames⟩ := List.nodup_cons.mp hnames
    obtain ⟨made, next, hdefine, hrest⟩ := run_bind_eq_ok.mp h
    obtain ⟨t, hmade, rfl⟩ := exists_of_run_define_eq_ok hdefine
    rcases List.mem_cons.mp hmem with rfl | hmem
    · -- the later records have other names
      rw [find?_of_run_defineAll_of_not_mem hentry hrest]
      cases (hd s.stream).symm.trans hmade
      exact Library.find?_insert_self _ _ _
    · exact ih hnames hmem hrest

/-! ### Scenes with the same modules -/

/-- The second scene is the first one with its modules in another order. -/
def Reorders (s t : Scene) : Prop :=
  ∃ library : Library, (∀ name, library.find? name = s.library.find? name) ∧ t = { s with library }

/-- An object is made in the same way, and takes its place in both scenes. -/
theorem Reorders.run_add (h : s.Reorders t) {record : Json} {r : Except SceneError Nat}
    {s' : Scene} (hrun : ExceptT.run (add record) s = (r, s')) :
    ∃ t', ExceptT.run (add record) t = (r, t') ∧ s'.Reorders t' := by
  obtain ⟨library, hfind, rfl⟩ := h
  have hmade : s.registry.instantiate library Module.maxDepth record =
      s.registry.instantiate s.library Module.maxDepth record := by
    rw [Registry.instantiate, Registry.instantiate,
      Registry.builder_congr hfind (fun _ => rfl) Module.maxDepth]
    exact Registry.instantiateWith_congr hfind (fun _ => rfl) _ record
  rw [add, run_bind_of_ok (run_get _), run_bind, run_drawing] at hrun ⊢
  rw [hmade]
  rcases hobject : ExceptT.run (s.registry.instantiate s.library Module.maxDepth record) s.stream
    with ⟨e | object, u⟩
  all_goals
    rw [hobject] at hrun
    cases hrun
    exact ⟨_, rfl, library, hfind, rfl⟩

/-- **Expansions do not see the order of the modules.** -/
theorem Reorders.run_addAll {records : List Json} : ∀ {s t : Scene}, s.Reorders t →
    ∀ {r : Except SceneError Unit} {s' : Scene}, ExceptT.run (addAll records) s = (r, s') →
      ∃ t', ExceptT.run (addAll records) t = (r, t') ∧ s'.Reorders t' := by
  induction records with
  | nil =>
    intro s t h r s' hrun
    cases hrun
    exact ⟨t, rfl, h⟩
  | cons record records ih =>
    intro s t h r s' hrun
    rcases hs : ExceptT.run (add record) s with ⟨e | index, next⟩
    · obtain ⟨t', ht, hafter⟩ := h.run_add hs
      cases (run_bind_of_error hs).symm.trans hrun
      exact ⟨t', run_bind_of_error ht, hafter⟩
    · obtain ⟨next', ht, hafter⟩ := h.run_add hs
      obtain ⟨t', hrest, hend⟩ := ih hafter ((run_bind_of_ok hs).symm.trans hrun)
      exact ⟨t', (run_bind_of_ok ht).trans hrest, hend⟩

/-! ### Documents -/

/-- Modules that can be defined in one order can be defined in any order, to the same effect. -/
theorem exists_run_defineAll_of_perm {modules' : List (String × Json)}
    (hperm : modules'.Perm modules) (hs : s.objects = [])
    (hnames : (Named.names modules).Nodup)
    (hsteady : ∀ e ∈ modules, Module.HasSteadyDescriptors e.2)
    (h : ExceptT.run (defineAll modules) s = (.ok (), m)) :
    ∃ n, ExceptT.run (defineAll modules') s = (.ok (), n) ∧ m.Reorders n := by
  have hsteady' : ∀ e ∈ modules', Module.HasSteadyDescriptors e.2 :=
    fun e he => hsteady e (hperm.mem_iff.mp he)
  have hperm_names : (Named.names modules').Perm (Named.names modules) := hperm.map Prod.fst
  have hread := (exists_run_defineAll_iff hs hsteady).mp ⟨m, h⟩
  obtain ⟨n, hn⟩ := (exists_run_defineAll_iff hs hsteady').mpr
    fun e he => hread e (hperm.mem_iff.mp he)
  refine ⟨n, hn, n.library, fun name => ?_, ?_⟩
  · by_cases hname : name ∈ Named.names modules
    · -- the name stands for what its record is read as
      obtain ⟨⟨_, json⟩, hmem, rfl⟩ := List.mem_map.mp hname
      obtain ⟨d, hd⟩ := hread _ hmem
      rw [find?_of_run_defineAll hd hnames hmem h,
        find?_of_run_defineAll hd (hperm_names.nodup_iff.mpr hnames) (hperm.mem_iff.mpr hmem) hn]
    · rw [find?_of_run_defineAll_of_not_mem hname h,
        find?_of_run_defineAll_of_not_mem (fun hmem => hname (hperm_names.mem_iff.mp hmem)) hn]
  · have hm := eq_of_run_defineAll hs h
    rw [stream_eq_of_run_defineAll hs hsteady h] at hm
    have heq := eq_of_run_defineAll hs hn
    rw [stream_eq_of_run_defineAll hs hsteady' hn] at heq
    rw [hm]
    exact heq

/-- A document is loaded whatever the order of its modules. -/
theorem exists_ofDocument_of_perm {doc : Document} (hperm : modules.Perm doc.modules)
    (hnames : (Named.names doc.modules).Nodup)
    (hsteady : ∀ e ∈ doc.modules, Module.HasSteadyDescriptors e.2) (h : ofDocument doc = .ok s) :
    ∃ t, ofDocument { doc with modules } = .ok t ∧ s.Reorders t := by
  obtain ⟨m, hmodules, hobjects⟩ := ofDocument_eq_ok.mp h
  obtain ⟨n, hn, hreorders⟩ := exists_run_defineAll_of_perm hperm rfl hnames hsteady hmodules
  obtain ⟨t, ht, hend⟩ := hreorders.run_addAll hobjects
  exact ⟨t, ofDocument_eq_ok.mpr ⟨n, hn, ht⟩, hend⟩

/-- **The order of the modules does not matter** in a document whose descriptors draw nothing and
in which, as in every object of JSON, no name stands twice.  In every order it is loaded if it is in
one, and to the same objects, at every depth and with the same errors; every name stands for the
same module, and nothing else differs. -/
theorem ofDocument_perm {doc : Document} (hperm : modules.Perm doc.modules)
    (hnames : (Named.names doc.modules).Nodup)
    (hsteady : ∀ e ∈ doc.modules, Module.HasSteadyDescriptors e.2) :
    ((∃ t, ofDocument { doc with modules } = .ok t) ↔ ∃ s, ofDocument doc = .ok s) ∧
    ∀ s t, ofDocument doc = .ok s → ofDocument { doc with modules } = .ok t →
      t.objects = s.objects ∧ t.errorReport? = s.errorReport? ∧
      (∀ name, t.library.find? name = s.library.find? name) ∧
        t = { s with library := t.library } := by
  constructor
  · constructor
    · rintro ⟨t, ht⟩
      have hnames' : (Named.names modules).Nodup := (hperm.map Prod.fst).nodup_iff.mpr hnames
      have hsteady' : ∀ e ∈ modules, Module.HasSteadyDescriptors e.2 :=
        fun e he => hsteady e (hperm.mem_iff.mp he)
      have hback : doc.modules.Perm ({ doc with modules } : Document).modules := hperm.symm
      obtain ⟨s, hs, -⟩ := exists_ofDocument_of_perm hback hnames' hsteady' ht
      exact ⟨s, hs⟩
    · rintro ⟨s, hs⟩
      obtain ⟨t, ht, -⟩ := exists_ofDocument_of_perm hperm hnames hsteady hs
      exact ⟨t, ht⟩
  · intro s t hs ht
    obtain ⟨t', ht', library, hfind, rfl⟩ := exists_ofDocument_of_perm hperm hnames hsteady hs
    cases ht'.symm.trans ht
    exact ⟨rfl, rfl, hfind, rfl⟩

/-- A document of two modules that use each other, down to the parameter one. -/
def crossing : Document where
  modules :=
    [("outer",
      .object
        [("params", .array [.string "n=1:1:9"]),
          ("objs",
            .array
              [.object
                [("type", .string "ModuleObj"), ("module", .string "inner"),
                  ("params", .object [("n", .string "\x60n\x60")])]])]),
      ("inner",
        .object
          [("params", .array [.string "n=1:1:9"]),
            ("objs",
              .array
                [.object
                  [("type", .string "TextLabel"), ("x", .string "\x60random()\x60"),
                    ("y", .ofInt 0)],
                .object
                  [("if", .string "n > 1"), ("type", .string "ModuleObj"),
                    ("module", .string "outer"),
                    ("params", .object [("n", .string "\x60n - 1\x60")])]])])]
  objs :=
    [.object
      [("type", .string "ModuleObj"), ("module", .string "outer"),
        ("params", .object [("n", .ofNat 2)])]]
  seed := 0
  gridSize := none

/-- Both orders of the two modules lead to two labels, each put somewhere by chance. -/
theorem ofDocument_perm_crossing :
    ∃ s t, ofDocument crossing = .ok s ∧
      ofDocument { crossing with modules := crossing.modules.reverse } = .ok t ∧
      t.library.names ≠ s.library.names ∧ s.optical.length = 2 ∧ t.objects = s.objects := by
  have hsteady : ∀ e ∈ crossing.modules, Module.HasSteadyDescriptors e.2 := by
    have harithmetic : (crossing.modules.all fun e =>
        (DefinitionRecord.decode e.2).toOption.all fun record =>
          (record.params.flatMap Range.used).all Expression.isArithmetic) = true := by
      decide +kernel
    exact fun e he =>
      Module.hasSteadyDescriptors_of_isArithmetic (List.all_eq_true.mp harithmetic e he)
  have hloads : (ofDocument crossing).toOption.any (fun s => decide (s.optical.length = 2)) =
      true := by
    decide +kernel
  have hnames : (ofDocument crossing).toOption.map (·.library.names) ≠
      (ofDocument { crossing with modules := crossing.modules.reverse }).toOption.map
        (·.library.names) := by
    decide +kernel
  obtain ⟨hiff, hsame⟩ := ofDocument_perm (List.reverse_perm _) (by decide) hsteady
  rcases hs : ofDocument crossing with e | s
  · rw [hs] at hloads
    cases hloads
  obtain ⟨t, ht⟩ := hiff.mpr ⟨s, hs⟩
  rw [hs] at hloads
  rw [hs, ht] at hnames
  exact ⟨s, t, rfl, ht, fun heq => hnames (congrArg some heq.symm), of_decide_eq_true hloads,
    (hsame s t hs ht).1⟩

end Scene

end OpticScene
