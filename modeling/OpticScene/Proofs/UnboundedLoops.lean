import Mathlib.Data.Part
import OpticScene.Module.Instance
import OpticScene.Proofs.BoundedLoops

/-!
# Loops without a bound

The values of a range are collected up to its end, and a range need not have one.  The expansion
goes no further than one value beyond the limit, since a loop with more values is refused.  Here
templates are expanded with all values of their ranges, however many there are, so that an
expansion may go on forever.  It does so only where the limit is as large as the numbers that are
counted: the count says nothing about a range without an end then.

## Main definitions

* `Random.PartialDraws` — computations that need not come to an end.
* `Random.PartialDraws.EndsWith` — a computation ends with an outcome.
* `Range.allValues` — the values of a range, if it comes to an end.
* `Expansion.Unbounded.expand` — the expansion of a template with all values of the ranges in it.
* `Module.Instance.allRecords` — the records of an instance, expanded in this way.

## Main results

* `Expansion.Unbounded.exists_endsWith_axes_iff` — a loop that is accepted waits for the ends of all
  its ranges.
* `Expansion.Unbounded.expand_eq` — **below the largest count, the expansion goes through all
  values.**
* `Module.Instance.allRecords_eq` — the same for the records of an instance.
-/

namespace OpticScene

/-! ### Computations without an end -/

namespace Random

/-- A computation that draws from the random stream, that may fail, and that need not come to an
end. -/
abbrev PartialDraws (ε α : Type) := ExceptT ε (StateT Stream Part) α

/-- The computation comes to an end, with an outcome and a place in the stream. -/
def PartialDraws.EndsWith {ε α : Type} (x : PartialDraws ε α) (s : Stream)
    (outcome : Except ε α × Stream) : Prop :=
  outcome ∈ StateT.run (ExceptT.run x) s

/-- A computation that comes to an end from every place in the stream. -/
def Draws.toPartial {ε α : Type} (x : Draws ε α) : PartialDraws ε α :=
  ExceptT.mk fun s => Part.some (ExceptT.run x s)

/-- A value that need not exist, without a look at the stream. -/
def PartialDraws.ofPart {ε α : Type} (x : Part α) : PartialDraws ε α :=
  ExceptT.mk fun s => x.map fun a => (.ok a, s)

variable {ε ε' α β : Type} {s t : Stream}

theorem Draws.endsWith_toPartial {x : Draws ε α} {outcome : Except ε α × Stream} :
    x.toPartial.EndsWith s outcome ↔ ExceptT.run x s = outcome :=
  Part.mem_some_iff.trans eq_comm

@[simp] theorem Draws.toPartial_pure (a : α) :
    (pure a : Draws ε α).toPartial = (pure a : PartialDraws ε α) := rfl

theorem Draws.toPartial_bind (x : Draws ε α) (f : α → Draws ε β) :
    (x >>= f).toPartial = x.toPartial >>= fun a => (f a).toPartial := by
  refine ExceptT.ext (funext fun s => ?_)
  change Part.some (ExceptT.run (x >>= f) s) =
    Part.bind (Part.some (ExceptT.run x s)) fun outcome =>
      ExceptT.bindCont (fun a => (f a).toPartial) outcome.1 outcome.2
  rw [Part.bind_some, run_bind]
  obtain ⟨e | a, t⟩ := ExceptT.run x s <;> rfl

theorem Draws.toPartial_map (f : α → β) (x : Draws ε α) :
    (f <$> x).toPartial = f <$> x.toPartial := by
  rw [← bind_pure_comp, toPartial_bind, ← bind_pure_comp]
  rfl

theorem Draws.toPartial_adapt (f : ε → ε') (x : Draws ε α) :
    Draws.toPartial (x.adapt f) = x.toPartial.adapt f := by
  refine ExceptT.ext (funext fun s => ?_)
  change Part.some (ExceptT.run (x.adapt f) s) =
    Part.bind (Part.some (ExceptT.run x s)) fun outcome =>
      Part.some (outcome.1.mapError f, outcome.2)
  rw [Part.bind_some, run_adapt]

theorem Draws.toPartial_mapM (f : α → Draws ε β) (as : List α) :
    (as.mapM f).toPartial = as.mapM fun a => (f a).toPartial := by
  induction as with
  | nil => rfl
  | cons a as ih => simp [toPartial_bind, toPartial_map, ih]

theorem PartialDraws.endsWith_bind {x : PartialDraws ε α} {f : α → PartialDraws ε β}
    {outcome : Except ε β × Stream} : (x >>= f).EndsWith s outcome ↔
      (∃ e t, x.EndsWith s (.error e, t) ∧ outcome = (.error e, t)) ∨
        ∃ a t, x.EndsWith s (.ok a, t) ∧ (f a).EndsWith t outcome := by
  change outcome ∈ Part.bind (StateT.run (ExceptT.run x) s) (fun first =>
    StateT.run (ExceptT.bindCont f first.1) first.2) ↔ _
  rw [Part.mem_bind_iff]
  constructor
  · rintro ⟨⟨e | a, t⟩, hx, h⟩
    · exact .inl ⟨e, t, hx, Part.mem_some_iff.mp h⟩
    · exact .inr ⟨a, t, hx, h⟩
  · rintro (⟨e, t, hx, rfl⟩ | ⟨a, t, hx, h⟩)
    · exact ⟨_, hx, Part.mem_some _⟩
    · exact ⟨_, hx, h⟩

theorem PartialDraws.endsWith_bind_of_ok {x : PartialDraws ε α} {f : α → PartialDraws ε β} {a : α}
    {outcome : Except ε β × Stream} (h : x.EndsWith s (.ok a, t)) :
    (x >>= f).EndsWith s outcome ↔ (f a).EndsWith t outcome := by
  rw [endsWith_bind]
  constructor
  · rintro (⟨e, u, he, -⟩ | ⟨a', u, ha, h'⟩)
    · cases Part.mem_unique h he
    · cases Part.mem_unique h ha
      exact h'
  · exact fun h' => .inr ⟨a, t, h, h'⟩

/-- A sequence does not end before its first part does. -/
theorem PartialDraws.EndsWith.exists_of_bind {x : PartialDraws ε α} {f : α → PartialDraws ε β}
    {outcome : Except ε β × Stream} (h : (x >>= f).EndsWith s outcome) :
    ∃ outcome, x.EndsWith s outcome := by
  rcases endsWith_bind.mp h with ⟨e, t, hx, -⟩ | ⟨a, t, hx, -⟩
  · exact ⟨_, hx⟩
  · exact ⟨_, hx⟩

theorem PartialDraws.EndsWith.exists_of_adapt {f : ε → ε'} {x : PartialDraws ε α}
    {outcome : Except ε' α × Stream}
    (h : PartialDraws.EndsWith (ExceptT.adapt f x) s outcome) :
    ∃ outcome, x.EndsWith s outcome := by
  change outcome ∈ Part.bind (StateT.run (ExceptT.run x) s) (fun first =>
    Part.some (first.1.mapError f, first.2)) at h
  obtain ⟨first, hfirst, -⟩ := Part.mem_bind_iff.mp h
  exact ⟨first, hfirst⟩

theorem PartialDraws.endsWith_ofPart {x : Part α} {outcome : Except ε α × Stream} :
    (ofPart x : PartialDraws ε α).EndsWith s outcome ↔ ∃ a ∈ x, (.ok a, s) = outcome :=
  Part.mem_map_iff _

@[simp] theorem PartialDraws.ofPart_some (a : α) :
    (ofPart (Part.some a) : PartialDraws ε α) = pure a :=
  ExceptT.ext (funext fun _ => Part.map_some _ _)

end Random

open OpticScene.Random (Draws PartialDraws Stream)

/-! ### All values of a range -/

/-- All values of a range, if it comes to an end. -/
noncomputable def Range.allValues (r : Range) : Part (List Float) :=
  ⟨∃ xs, r.RunsFrom r.start xs, Exists.choose⟩

theorem Range.mem_allValues_iff {r : Range} {xs : List Float} :
    xs ∈ r.allValues ↔ r.RunsFrom r.start xs := by
  constructor
  · rintro ⟨h, rfl⟩
    exact h.choose_spec
  · intro h
    have hchosen := Exists.choose_spec ⟨xs, h⟩
    refine ⟨⟨xs, h⟩, ?_⟩
    exact (runsFrom_start_iff.mp hchosen).2.trans (runsFrom_start_iff.mp h).2.symm

namespace Expansion

namespace Unbounded

/-! ### Templates -/

/-- The variables of some ranges, each with all values of its range. -/
noncomputable def allAxes (ranges : List Range) : Part (List Axis) :=
  ranges.mapM fun range => (range.name, ·) <$> range.allValues

/-- The ranges of a loop, if it is accepted. -/
def acceptedRanges (limit : Nat) (b : Bindings) (descriptors : List String) :
    Draws ExpansionError (List Range) := do
  let ranges ← parseRanges b descriptors
  (checkTotal limit 1 ranges).mapError ExpansionError.loop
  return ranges

/-- The variables of a loop with all their values, if it is accepted. -/
noncomputable def axes (limit : Nat) (b : Bindings) (descriptors : List String) :
    PartialDraws ExpansionError (List Axis) := do
  let ranges ← (acceptedRanges limit b descriptors).toPartial
  PartialDraws.ofPart (allAxes ranges)

/-- Puts a step into a template around an error. -/
def inFrame (frame : Frame) (x : PartialDraws ExpansionError α) : PartialDraws ExpansionError α :=
  x.adapt (around [frame])

mutual

/-- The value of a template. -/
noncomputable def expand (limit : Nat) (b : Bindings) :
    Template → PartialDraws ExpansionError Json
  | .text template => (expandText b template).toPartial
  | .number n => return .number n
  | .bool v => return .bool v
  | .null => return .null
  | .object fields => do return .object (← expandFields limit b fields)
  | .array items => do return .array (← expandItems limit b 0 items)

/-- The values of named templates. -/
noncomputable def expandFields (limit : Nat) (b : Bindings) :
    ObjectTemplate → PartialDraws ExpansionError (List (String × Json))
  | [] => return []
  | (key, template) :: fields => do
    let v ← inFrame ⟨.field key, b⟩ (expand limit b template)
    return (key, v) :: (← expandFields limit b fields)

/-- The elements of an array, from the template with the given index on. -/
noncomputable def expandItems (limit : Nat) (b : Bindings) (index : Nat) :
    List Template.Item → PartialDraws ExpansionError (List Json)
  | [] => return []
  | item :: items => do
    let vs ← expandItem limit b index item
    return vs ++ (← expandItems limit b (index + 1) items)

/-- The elements that one template stands for. -/
noncomputable def expandItem (limit : Nat) (b : Bindings) (index : Nat) :
    Template.Item → PartialDraws ExpansionError (List Json)
  | .plain template => do return [← inFrame ⟨.element index, b⟩ (expand limit b template)]
  | .conditional condition body => inFrame ⟨.element index, b⟩ do
    if ← (holds b (some condition)).toPartial then
      return [.object (← expandFields limit b body)]
    else return []
  | .loop ranges condition body => do
    let axes ← inFrame ⟨.element index, b⟩ (axes limit b ranges)
    let found ← (choices axes).mapM fun choice =>
      inFrame ⟨.element index, b.layered choice⟩ do
        if ← (holds (b.layered choice) condition).toPartial then
          return [Json.object (← expandFields limit (b.layered choice) body)]
        else return []
    return found.flatten

end

/-- The bindings with each field bound to its value.  A field may use those before it. -/
noncomputable def expandSequential (limit : Nat) :
    Bindings → ObjectTemplate → PartialDraws ExpansionError Bindings
  | b, [] => return b
  | b, (key, template) :: fields => do
    let v ← (expand limit b template).adapt (.within ("var \x60" ++ key ++ "\x60") b)
    expandSequential limit (b.insert key v) fields

/-! ### Loops that are waited for -/

theorem allAxes_cons (range : Range) (ranges : List Range) :
    allAxes (range :: ranges) =
      range.allValues.bind fun xs => (allAxes ranges).map ((range.name, xs) :: ·) := by
  rw [allAxes, List.mapM_cons]
  change Part.bind (Part.map _ _) _ = _
  simp only [Part.bind_map, allAxes]
  exact congrArg _ (funext fun xs => Part.bind_some_eq_map _ _)

theorem mem_allAxes_iff {ranges : List Range} {found : List Axis} :
    found ∈ allAxes ranges ↔ List.Forall₂ (fun range axis =>
      axis.1 = range.name ∧ range.RunsFrom range.start axis.2) ranges found := by
  induction ranges generalizing found with
  | nil => simp [allAxes]
  | cons range ranges ih =>
    simp only [allAxes_cons, Part.mem_bind_iff, Part.mem_map_iff, ih, Range.mem_allValues_iff,
      List.forall₂_cons_left_iff]
    constructor
    · rintro ⟨xs, hxs, rest, hrest, rfl⟩
      exact ⟨_, _, ⟨rfl, hxs⟩, hrest, rfl⟩
    · rintro ⟨⟨name, xs⟩, rest, ⟨rfl, hxs⟩, hrest, rfl⟩
      exact ⟨xs, hxs, rest, hrest, rfl⟩

theorem allAxes_eq {ranges : List Range} (h : ∀ range ∈ ranges, range.size ≠ ⊤) :
    allAxes ranges = Part.some (ranges.map fun range => (range.name, range.values)) := by
  refine Part.eq_some_iff.mpr (mem_allAxes_iff.mpr ?_)
  rw [List.forall₂_map_right_iff, List.forall₂_same]
  exact fun range hrange => ⟨rfl, Range.runsFrom_start_iff.mpr ⟨h range hrange, rfl⟩⟩

theorem exists_mem_allAxes_iff {ranges : List Range} :
    (∃ found, found ∈ allAxes ranges) ↔
      ∀ range ∈ ranges, ∃ xs, range.RunsFrom range.start xs := by
  constructor
  · rintro ⟨found, h⟩
    induction mem_allAxes_iff.mp h with
    | nil => exact List.forall_mem_nil _
    | cons hfirst hrest ih =>
      exact List.forall_mem_cons.mpr ⟨⟨_, hfirst.2⟩, ih (mem_allAxes_iff.mpr hrest)⟩
  · intro h
    exact ⟨_, Part.eq_some_iff.mp (allAxes_eq fun range hrange =>
      Range.exists_runsFrom_iff.mp (h range hrange))⟩

variable {limit : Nat} {b : Bindings} {descriptors : List String} {ranges : List Range}
  {s t : Stream}

theorem run_acceptedRanges_eq_ok :
    ExceptT.run (acceptedRanges limit b descriptors) s = (.ok ranges, t) ↔
      ExceptT.run (parseRanges b descriptors) s = (.ok ranges, t) ∧
        checkTotal limit 1 ranges = .ok () := by
  rw [acceptedRanges, run_bind_eq_ok]
  constructor
  · rintro ⟨ranges', u, hread, h⟩
    rcases hok : checkTotal limit 1 ranges' with e | ⟨⟩
    · rw [hok] at h
      cases h
    · rw [hok] at h
      cases h
      exact ⟨hread, hok⟩
  · rintro ⟨hread, hok⟩
    exact ⟨ranges, t, hread, by rw [hok]; rfl⟩

/-- **A loop that is accepted waits for the ends of all its ranges.** -/
theorem exists_endsWith_axes_iff
    (h : ExceptT.run (acceptedRanges limit b descriptors) s = (.ok ranges, t)) :
    (∃ outcome, (axes limit b descriptors).EndsWith s outcome) ↔
      ∀ range ∈ ranges, ∃ xs, range.RunsFrom range.start xs := by
  simp only [axes, PartialDraws.endsWith_bind_of_ok (Draws.endsWith_toPartial.mpr h),
    PartialDraws.endsWith_ofPart]
  rw [← exists_mem_allAxes_iff]
  constructor
  · rintro ⟨-, found, hfound, -⟩
    exact ⟨found, hfound⟩
  · rintro ⟨found, hfound⟩
    exact ⟨_, found, hfound, rfl⟩

/-- No number of values is above the largest count. -/
theorem checkTotal_maxCount {total : Nat} : checkTotal Range.maxCount total ranges = .ok () := by
  induction ranges generalizing total with
  | nil => rfl
  | cons range ranges ih =>
    have hcount : range.countUpTo Range.maxCount ≤ Range.maxCount := by
      have hlength := (range.length_first (min (Range.maxCount + 1) Range.maxCount)).le
      rw [Range.countUpTo_eq]
      exact (Nat.cast_le.mp (hlength.trans (min_le_left _ _))).trans (Nat.min_le_right _ _)
    rw [checkTotal]
    dsimp only
    rw [if_neg hcount.not_gt, if_neg (Nat.min_le_right _ _).not_gt, ih]

/-- **Where the limit is the largest count, a range without an end is waited for in vain.** -/
theorem not_endsWith_axes_maxCount
    (hread : ExceptT.run (parseRanges b descriptors) s = (.ok ranges, t)) {range : Range}
    (hrange : range ∈ ranges) (hendless : ¬ ∃ xs, range.RunsFrom range.start xs) :
    ¬ ∃ outcome, (axes Range.maxCount b descriptors).EndsWith s outcome := by
  rw [exists_endsWith_axes_iff (run_acceptedRanges_eq_ok.mpr ⟨hread, checkTotal_maxCount⟩)]
  exact fun hall => hendless (hall range hrange)

theorem not_endsWith_expandItems_maxCount
    (hread : ExceptT.run (parseRanges b descriptors) s = (.ok ranges, t)) {range : Range}
    (hrange : range ∈ ranges) (hendless : ¬ ∃ xs, range.RunsFrom range.start xs) {index : Nat}
    {condition : Option String} {body : ObjectTemplate} {items : List Template.Item} :
    ¬ ∃ outcome, (expandItems Range.maxCount b index
      (.loop descriptors condition body :: items)).EndsWith s outcome := by
  rintro ⟨outcome, h⟩
  rw [expandItems, expandItem] at h
  obtain ⟨_, hloop⟩ := h.exists_of_bind
  obtain ⟨_, hframe⟩ := hloop.exists_of_bind
  exact not_endsWith_axes_maxCount hread hrange hendless hframe.exists_of_adapt

/-- **Below the largest count, an accepted loop goes through all values.** -/
theorem axes_eq (h : limit < Range.maxCount) (b : Bindings) (descriptors : List String) :
    axes limit b descriptors = (Expansion.axes limit b descriptors).toPartial := by
  rw [axes, acceptedRanges, Draws.toPartial_bind, bind_assoc, Expansion.axes_eq h,
    ← parseRanges_eq_mapM, Draws.toPartial_bind]
  refine bind_congr fun ranges => ?_
  rcases hok : checkTotal limit 1 ranges with e | ⟨⟩
  · -- the loop is refused before any value is collected
    refine ExceptT.ext (funext fun s => ?_)
    exact Part.bind_some (Except.error (ExpansionError.loop e), s) fun first =>
      StateT.run (ExceptT.bindCont (fun ranges => PartialDraws.ofPart (allAxes ranges)) first.1)
        first.2
  · have hsize : ∀ range ∈ ranges, range.size ≠ ⊤ := fun range hrange =>
      ne_top_of_le_ne_top (ENat.natCast_ne_top limit) (size_le_of_checkTotal h hok range hrange)
    refine (pure_bind ranges _).trans ?_
    rw [allAxes_eq hsize, PartialDraws.ofPart_some]
    rfl

/-! ### Templates below the largest count -/

theorem inFrame_element (index : Nat) (b : Bindings) (x : Draws ExpansionError α) :
    inFrame ⟨.element index, b⟩ x.toPartial = (inElement index b x).toPartial :=
  (Draws.toPartial_adapt _ x).symm

theorem inFrame_field (key : String) (b : Bindings) (x : Draws ExpansionError α) :
    inFrame ⟨.field key, b⟩ x.toPartial = (inField key b x).toPartial :=
  (Draws.toPartial_adapt _ x).symm

mutual

/-- **Below the largest count, the expansion goes through all values.** -/
theorem expand_eq (h : limit < Range.maxCount) (b : Bindings) : ∀ template : Template,
    expand limit b template = (Expansion.expand limit b template).toPartial
  | .text template => by rw [expand, Expansion.expand]
  | .number n => by rw [expand, Expansion.expand]; rfl
  | .bool v => by rw [expand, Expansion.expand]; rfl
  | .null => by rw [expand, Expansion.expand]; rfl
  | .object fields => by
    rw [expand, Expansion.expand, expandFields_eq h b fields, Draws.toPartial_bind]; rfl
  | .array items => by
    rw [expand, Expansion.expand, expandItems_eq h b 0 items, Draws.toPartial_bind]; rfl

theorem expandFields_eq (h : limit < Range.maxCount) (b : Bindings) : ∀ fields : ObjectTemplate,
    expandFields limit b fields = (Expansion.expandFields limit b fields).toPartial
  | [] => by rw [expandFields, Expansion.expandFields]; rfl
  | (key, template) :: fields => by
    rw [expandFields, Expansion.expandFields, expand_eq h b template,
      expandFields_eq h b fields, inFrame_field, Draws.toPartial_bind]
    simp only [Draws.toPartial_bind, Draws.toPartial_pure]

theorem expandItems_eq (h : limit < Range.maxCount) (b : Bindings) (index : Nat) :
    ∀ items : List Template.Item,
      expandItems limit b index items = (Expansion.expandItems limit b index items).toPartial
  | [] => by rw [expandItems, Expansion.expandItems]; rfl
  | item :: items => by
    rw [expandItems, Expansion.expandItems, expandItem_eq h b index item,
      expandItems_eq h b (index + 1) items]
    simp only [Draws.toPartial_bind, Draws.toPartial_pure]

theorem expandItem_eq (h : limit < Range.maxCount) (b : Bindings) (index : Nat) :
    ∀ item : Template.Item,
      expandItem limit b index item = (Expansion.expandItem limit b index item).toPartial
  | .plain template => by
    rw [expandItem, Expansion.expandItem, expand_eq h b template, inFrame_element]
    simp only [Draws.toPartial_bind, Draws.toPartial_pure]
  | .conditional condition body => by
    rw [expandItem, Expansion.expandItem, expandFields_eq h b body, ← inFrame_element]
    simp only [Draws.toPartial_bind, apply_ite Draws.toPartial, Draws.toPartial_pure]
  | .loop ranges condition body => by
    rw [expandItem, Expansion.expandItem, axes_eq h, inFrame_element, Draws.toPartial_bind]
    refine bind_congr fun axes => ?_
    rw [product_eq_mapM, Draws.toPartial_map, Draws.toPartial_mapM, bind_pure_comp]
    simp only [← inFrame_element, Draws.toPartial_bind, apply_ite Draws.toPartial,
      Draws.toPartial_pure, expandFields_eq h _ body]

end

theorem expandSequential_eq (h : limit < Range.maxCount) :
    ∀ (fields : ObjectTemplate) (b : Bindings),
      expandSequential limit b fields = (expandSequentialFrom limit b fields).toPartial
  | [], b => rfl
  | (key, template) :: fields, b => by
    rw [expandSequential, expandSequentialFrom, expand_eq h, Draws.toPartial_bind,
      Draws.toPartial_adapt]
    exact bind_congr fun v => expandSequential_eq h fields (b.insert key v)

end Unbounded

end Expansion

/-! ### Instances -/

namespace Module.Instance

variable {Obj : Type}

/-- The records that the definition expands to, with all values of all ranges. -/
noncomputable def allRecords (inst : Instance Obj) : PartialDraws ExpansionError (List Json) := do
  let d := inst.definition
  let scope ←
    match d.vars with
    | some vars => Expansion.Unbounded.expandSequential d.maxLoop inst.bindings.nested vars
    | none => pure inst.bindings.nested
  Expansion.Unbounded.expandItems d.maxLoop scope 0 d.objs

/-- **Below the largest count, an instance expands to the same records with all values of its
ranges.** -/
theorem allRecords_eq {inst : Instance Obj} (h : inst.definition.maxLoop < Range.maxCount) :
    inst.allRecords = inst.expandRecords.toPartial := by
  unfold allRecords expandRecords
  cases hvars : inst.definition.vars with
  | none =>
    simp only [hvars]
    rw [Draws.toPartial_bind, Draws.toPartial_pure]
    exact bind_congr fun scope => Expansion.Unbounded.expandItems_eq h scope 0 _
  | some vars =>
    simp only [hvars, Expansion.expandSequential]
    rw [Expansion.Unbounded.expandSequential_eq h, Draws.toPartial_bind]
    exact bind_congr fun scope => Expansion.Unbounded.expandItems_eq h scope 0 _

theorem endsWith_allRecords {inst : Instance Obj} {s : Stream}
    {outcome : Except ExpansionError (List Json) × Stream}
    (h : inst.definition.maxLoop < Range.maxCount) :
    inst.allRecords.EndsWith s outcome ↔ ExceptT.run inst.expandRecords s = outcome := by
  rw [allRecords_eq h, Draws.endsWith_toPartial]

end Module.Instance

end OpticScene
