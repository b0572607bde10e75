import Mathlib.Data.List.Basic
import Mathlib.Data.List.Induction
import OpticScene.Module.Library
import OpticScene.Scene.Document

/-!
# The order of a library

A library may be kept in two parts: a map from names to definitions, and a list of the names in the
order in which they came in.  A name is put on the list only when the map did not have it before,
and listing the library leaves out names that the map does not have.  The two parts stay in step:
whatever is inserted, the list has each name of the map once and no others.  So nothing is left out,
and the library that is kept in two parts shows the same as the list of entries that a scene has.

## Main definitions

* `Index` — values by their names, beside the names in order.
* `Index.IsInStep` — the two parts of an index have the same names.
* `Index.insertAll`, `Module.Library.insertAll` — insertions one after the other.

## Main results

* `Index.IsInStep.insert`, `Index.IsInStep.insertAll` — **the two parts stay in step.**
* `Index.IsInStep.entries_insert` — what an insertion does to the list of entries.
* `Index.values_insertAll`, `Index.order_insertAll` — the last value of a name counts, and the first
  place.
* `Module.Library.keeps_first_places` — libraries after any insertions, in both ways to keep them.
-/

namespace OpticScene

/-- Values by their names, and the names in the order in which they came in. -/
structure Index (α : Type) where
  /-- The value of each name that has one. -/
  values : String → Option α
  /-- The names in order. -/
  order : List String

namespace Index

variable {α : Type} {index : Index α}

/-- No values. -/
def empty : Index α := ⟨fun _ => none, []⟩

/-- Gives a name a value.  A name that has none yet comes last. -/
def insert (index : Index α) (name : String) (value : α) : Index α where
  values k := if name = k then some value else index.values k
  order := if (index.values name).isNone then index.order ++ [name] else index.order

/-- The values with their names, in order.  A name without a value is passed over. -/
def entries (index : Index α) : Named α :=
  index.order.filterMap fun name => (index.values name).map fun value => (name, value)

/-- Gives several names values one after the other. -/
def insertAll (index : Index α) (steps : Named α) : Index α :=
  steps.foldl (fun index e => index.insert e.1 e.2) index

theorem insertAll_concat (index : Index α) (steps : Named α) (name : String) (value : α) :
    index.insertAll (steps ++ [(name, value)]) = (index.insertAll steps).insert name value := by
  rw [insertAll, List.foldl_append]
  rfl

/-! ### Two parts in step -/

/-- The names in order are those that have values, and each of them stands once. -/
structure IsInStep (index : Index α) : Prop where
  /-- No name stands twice. -/
  nodup : index.order.Nodup
  /-- The names in order are those that have values. -/
  mem_order_iff : ∀ name, name ∈ index.order ↔ (index.values name).isSome = true

theorem isInStep_empty : (empty : Index α).IsInStep where
  nodup := List.nodup_nil
  mem_order_iff _ := by simp [empty]

theorem IsInStep.not_mem_order_iff (h : index.IsInStep) (name : String) :
    name ∉ index.order ↔ index.values name = none := by
  rw [h.mem_order_iff, Option.not_isSome_iff_eq_none]

/-- **An insertion keeps the two parts in step.** -/
theorem IsInStep.insert (h : index.IsInStep) (name : String) (value : α) :
    (index.insert name value).IsInStep := by
  by_cases hnew : index.values name = none
  · have hfree : name ∉ index.order := (h.not_mem_order_iff name).mpr hnew
    have horder : (index.insert name value).order = index.order ++ [name] := by
      simp [Index.insert, hnew]
    constructor
    · rw [horder, List.nodup_append]
      refine ⟨h.nodup, List.pairwise_singleton _ _, fun a ha b hb hab => hfree ?_⟩
      rwa [← List.mem_singleton.mp hb, ← hab]
    · intro k
      rw [horder, List.mem_append, List.mem_singleton, h.mem_order_iff]
      by_cases hk : name = k
      · simp [Index.insert, hk]
      · simp [Index.insert, hk, Ne.symm hk]
  · have hmem : name ∈ index.order := by
      rw [h.mem_order_iff]
      exact Option.isSome_iff_ne_none.mpr hnew
    have horder : (index.insert name value).order = index.order := by simp [Index.insert, hnew]
    constructor
    · rw [horder]
      exact h.nodup
    · intro k
      rw [horder]
      by_cases hk : name = k
      · subst hk
        simp [Index.insert, hmem]
      · simp [Index.insert, hk, h.mem_order_iff]

/-- **Insertions keep the two parts in step.** -/
theorem IsInStep.insertAll (h : index.IsInStep) (steps : Named α) :
    (index.insertAll steps).IsInStep := by
  induction steps using List.reverseRecOn with
  | nil => exact h
  | append_singleton steps step ih =>
    rw [insertAll_concat]
    exact ih.insert step.1 step.2

/-! ### Entries -/

/-- No name is passed over. -/
theorem IsInStep.names_entries (h : index.IsInStep) : Named.names index.entries = index.order := by
  rw [Named.names, entries, List.map_filterMap]
  have hkept : ∀ name ∈ index.order,
      ((index.values name).map fun value => (name, value)).map Prod.fst = some name := by
    intro name hname
    obtain ⟨value, hvalue⟩ := Option.isSome_iff_exists.mp ((h.mem_order_iff name).mp hname)
    simp [hvalue]
  rw [List.filterMap_congr hkept]
  exact List.filterMap_some

/-- The entries are the values of the map. -/
theorem IsInStep.mem_entries_iff (h : index.IsInStep) {name : String} {value : α} :
    (name, value) ∈ index.entries ↔ index.values name = some value := by
  rw [entries, List.mem_filterMap]
  constructor
  · rintro ⟨k, -, hk⟩
    obtain ⟨found, hfound, heq⟩ := Option.map_eq_some_iff.mp hk
    cases heq
    exact hfound
  · intro hvalue
    refine ⟨name, (h.mem_order_iff name).mpr ?_, ?_⟩
    · rw [hvalue]; rfl
    · rw [hvalue]; rfl

/-- A name has the same value in the map and in the list of entries. -/
theorem IsInStep.get?_entries (h : index.IsInStep) (name : String) :
    Named.get? name index.entries = index.values name := by
  have hnodup : (Named.names index.entries).Nodup := by
    rw [h.names_entries]
    exact h.nodup
  cases hvalue : index.values name with
  | some value => exact Named.get?_of_mem (h.mem_entries_iff.mpr hvalue) hnodup
  | none =>
    refine Named.get?_eq_none ?_
    rw [h.names_entries, h.not_mem_order_iff]
    exact hvalue

/-- **An insertion gives a name its value in its place, or at the end.** -/
theorem IsInStep.entries_insert (h : index.IsInStep) (name : String) (value : α) :
    (index.insert name value).entries = Named.set name value index.entries := by
  have hnext := h.insert name value
  have hnodup : (Named.names (index.insert name value).entries).Nodup := by
    rw [hnext.names_entries]
    exact hnext.nodup
  refine Named.ext_get? ?_ hnodup fun k => ?_
  · rw [hnext.names_entries, Named.names_set, h.names_entries]
    by_cases hmem : name ∈ index.order
    · have hold : index.values name ≠ none :=
        fun hnone => (h.not_mem_order_iff name).mpr hnone hmem
      simp [Index.insert, hmem, hold]
    · have hnew : index.values name = none := (h.not_mem_order_iff name).mp hmem
      simp [Index.insert, hmem, hnew]
  · rw [hnext.get?_entries, Named.get?_set, h.get?_entries]
    rfl

/-! ### All insertions -/

/-- **The last value of a name counts.** -/
theorem values_insertAll (index : Index α) (steps : Named α) (name : String) :
    (index.insertAll steps).values name =
      (Named.get? name steps.reverse).or (index.values name) := by
  induction steps using List.reverseRecOn with
  | nil => rfl
  | append_singleton steps step ih =>
    obtain ⟨k, value⟩ := step
    rw [insertAll_concat, List.reverse_append, List.reverse_singleton, List.singleton_append,
      Named.get?_cons]
    by_cases hk : k = name
    · simp [Index.insert, hk]
    · simp [Index.insert, hk, ih]

/-- The value of a name is the one that it was given last. -/
theorem values_insertAll_eq_some_iff (steps : Named α) (name : String) (value : α) :
    (empty.insertAll steps).values name = some value ↔
      ∃ before after, steps = before ++ (name, value) :: after ∧ name ∉ Named.names after := by
  rw [values_insertAll, empty, Option.or_none, Named.get?_eq_some_iff_append]
  have hnames : ∀ entries : Named α, name ∉ Named.names entries.reverse ↔
      name ∉ Named.names entries := by
    intro entries
    rw [Named.names, List.map_reverse, List.mem_reverse]
    rfl
  constructor
  · rintro ⟨after, before, hsplit, hmem⟩
    refine ⟨before.reverse, after.reverse, ?_, (hnames after).mpr hmem⟩
    rw [← List.reverse_reverse steps, hsplit]
    simp
  · rintro ⟨before, after, rfl, hmem⟩
    exact ⟨after.reverse, before.reverse, by simp, (hnames after).mpr hmem⟩

/-- **The first place of a name counts.** -/
theorem order_insertAll (steps : Named α) :
    (empty.insertAll steps).order = (Named.names steps).eraseDups := by
  induction steps using List.reverseRecOn with
  | nil => rfl
  | append_singleton steps step ih =>
    obtain ⟨name, value⟩ := step
    have hnames : Named.names (steps ++ [(name, value)]) = Named.names steps ++ [name] :=
      List.map_append
    have hstep : (empty.insertAll steps).IsInStep := isInStep_empty.insertAll steps
    rw [insertAll_concat, hnames, List.eraseDups_append, ← ih]
    by_cases hmem : name ∈ Named.names steps
    · have hold : (empty.insertAll steps).values name ≠ none := by
        intro hnone
        refine (hstep.not_mem_order_iff name).mpr hnone ?_
        rw [ih, List.mem_eraseDups]
        exact hmem
      simp [Index.insert, hold, List.removeAll, hmem]
    · have hnew : (empty.insertAll steps).values name = none := by
        rw [← hstep.not_mem_order_iff, ih, List.mem_eraseDups]
        exact hmem
      simp [Index.insert, hnew, List.removeAll, hmem, List.eraseDups_cons]

end Index

namespace Module.Library

/-- Adds or replaces several definitions one after the other. -/
def insertAll (library : Library) (steps : Named Definition) : Library :=
  steps.foldl (fun library e => library.insert e.1 e.2) library

theorem insertAll_concat (library : Library) (steps : Named Definition) (name : String)
    (d : Definition) :
    library.insertAll (steps ++ [(name, d)]) = (library.insertAll steps).insert name d := by
  rw [insertAll, List.foldl_append]
  rfl

/-- **Both ways to keep a library show the same entries.** -/
theorem entries_insertAll (steps : Named Definition) :
    (empty.insertAll steps).entries = (Index.empty.insertAll steps).entries := by
  induction steps using List.reverseRecOn with
  | nil => rfl
  | append_singleton steps step ih =>
    obtain ⟨name, d⟩ := step
    have hstep : (Index.empty.insertAll steps).IsInStep := Index.isInStep_empty.insertAll steps
    rw [insertAll_concat, Index.insertAll_concat, hstep.entries_insert, ← ih]
    rfl

/-! ### Documents -/

/-- A document has the modules of the library, in order. -/
theorem names_modules (s : Scene) :
    Named.names s.toDocument.modules = Named.names s.library.entries :=
  Named.names_map (fun _ (d : Definition) => d.source) s.library.entries

/-- A document has each module as it was read. -/
theorem mem_modules_iff {s : Scene} {name : String} {json : Json} :
    (name, json) ∈ s.toDocument.modules ↔
      ∃ d, (name, d) ∈ s.library.entries ∧ json = d.source := by
  simp only [Scene.toDocument, List.mem_map, Prod.mk.injEq]
  constructor
  · rintro ⟨⟨k, d⟩, hmem, rfl, rfl⟩
    exact ⟨d, hmem, rfl⟩
  · rintro ⟨d, hmem, rfl⟩
    exact ⟨(name, d), hmem, rfl, rfl⟩

/-- **A library keeps the first place and the last definition of each name.**  Whatever is inserted,
the names in order have no duplicates and are the names of the map; a name has the definition that
was inserted under it last; and the entries are all names with their definitions, each once and in
the order of the first insertions.  A scene with the library writes each definition once, in this
order. -/
theorem keeps_first_places (steps : Named Definition) :
    (Index.empty.insertAll steps).order.Nodup ∧
    (∀ name, name ∈ (Index.empty.insertAll steps).order ↔
      ((Index.empty.insertAll steps).values name).isSome = true) ∧
    (∀ name d, (Index.empty.insertAll steps).values name = some d ↔
      ∃ before after, steps = before ++ (name, d) :: after ∧ name ∉ Named.names after) ∧
    (Index.empty.insertAll steps).order = (Named.names steps).eraseDups ∧
    Named.names (Index.empty.insertAll steps).entries = (Index.empty.insertAll steps).order ∧
    (∀ name d, (name, d) ∈ (Index.empty.insertAll steps).entries ↔
      (Index.empty.insertAll steps).values name = some d) ∧
    (empty.insertAll steps).entries = (Index.empty.insertAll steps).entries ∧
    (∀ name, (empty.insertAll steps).find? name = (Index.empty.insertAll steps).values name) ∧
    ∀ s : Scene,
      Named.names ({ s with library := empty.insertAll steps } : Scene).toDocument.modules =
        (Named.names steps).eraseDups ∧
      ∀ name json,
        (name, json) ∈ ({ s with library := empty.insertAll steps } : Scene).toDocument.modules ↔
          ∃ d, (Index.empty.insertAll steps).values name = some d ∧ json = d.source := by
  have hstep : (Index.empty.insertAll steps).IsInStep := Index.isInStep_empty.insertAll steps
  have hentries := entries_insertAll steps
  have horder := Index.order_insertAll steps
  refine ⟨hstep.nodup, hstep.mem_order_iff, Index.values_insertAll_eq_some_iff steps, horder,
    hstep.names_entries, fun _ _ => hstep.mem_entries_iff, hentries, fun name => ?_,
    fun s => ⟨?_, fun name json => ?_⟩⟩
  · rw [find?, hentries, hstep.get?_entries]
  · rw [names_modules, hentries, hstep.names_entries, horder]
  · rw [mem_modules_iff, hentries]
    simp only [hstep.mem_entries_iff]

end Module.Library

end OpticScene
