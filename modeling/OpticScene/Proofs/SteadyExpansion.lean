import OpticScene.Module.Instance
import OpticScene.Proofs.Draws

/-!
# Expansions without chance

Only expressions draw from the random stream.  When the stream does not matter to any expression of
a definition, it does not matter to the expansion of an instance either: the same records come out
from every place of the stream, and the place is kept.

## Main definitions

* `Expression.IsSteady` — the random stream does not matter to an expression.
* `Range.used`, `Template.used`, `Definition.used` — the expressions of a descriptor, a template and
  a definition.
* `Definition.IsSteady` — the stream does not matter to any expression of a definition.

## Main results

* `Expansion.steady_expand` — **a template of steady expressions has the same value everywhere.**
* `Instance.steady_expandRecords` — the same for the records of an instance.
-/

namespace OpticScene

open OpticScene.Random

/-- The random stream does not matter to an expression, whatever the names stand for. -/
def Expression.IsSteady (expr : String) : Prop :=
  ∀ b : Bindings, Steady (ExceptT.run (Expression.evaluate b expr))

theorem Expression.IsSteady.condition {expr : String} (h : IsSteady expr) (b : Bindings) :
    Steady (ExceptT.run (condition b expr)) :=
  (h b).bind fun _ => steady_run_ofExcept _

/-! ### Ranges -/

/-- The expressions of a range descriptor. -/
def Range.used (descriptor : String) : List String :=
  match splitName descriptor with
  | .error _ => []
  | .ok (_, fields) =>
    match splitFields fields with
    | .error _ => []
    | .ok (start, step, stop, default) =>
      [start, step, stop].map Text.trim ++ default.toList.map Text.trim

theorem Range.steady_parseField {b : Bindings} {field : Field} {s : String}
    (h : Expression.IsSteady (Text.trim s)) : Steady (ExceptT.run (parseField b field s)) := by
  refine ((h b).adapt _).bind fun v => ?_
  split
  · exact steady_run_pure _
  · exact steady_run_throw _

theorem Range.steady_parse (b : Bindings) {descriptor : String}
    (h : ∀ e ∈ used descriptor, Expression.IsSteady e) :
    Steady (ExceptT.run (parse b descriptor)) := by
  refine Steady.adapt ?_ _
  unfold parseCause
  unfold used at h
  -- a descriptor is taken apart without draws; only the fields are evaluated
  rcases hname : splitName descriptor with cause | ⟨name, fields⟩
  · exact .bind_of_error (run_ofExcept _)
  rw [hname] at h
  refine .bind_of_ok (run_ofExcept _) ?_
  dsimp only at h ⊢
  rcases hfields : splitFields fields with cause | ⟨start, step, stop, default⟩
  · exact .bind_of_error (run_ofExcept _)
  rw [hfields] at h
  refine .bind_of_ok (run_ofExcept _) ?_
  dsimp only at h ⊢
  rw [List.map_cons, List.map_cons, List.map_cons, List.map_nil, List.forall_mem_append,
    List.forall_mem_cons, List.forall_mem_cons, List.forall_mem_singleton] at h
  obtain ⟨⟨hstart, hstep, hstop⟩, hdefault⟩ := h
  refine (steady_parseField hstart).bind fun start => ?_
  refine (steady_parseField hstep).bind fun step => ?_
  refine (steady_parseField hstop).bind fun stop => ?_
  cases default with
  | none => exact (steady_run_pure _).bind fun _ => steady_run_pure _
  | some default =>
    have hfield := hdefault (Text.trim default) (List.mem_map_of_mem List.mem_cons_self)
    exact (steady_parseField hfield).bind fun _ => steady_run_pure _

/-! ### Templates -/

/-- The expressions of a part of a text. -/
def Segment.used : Segment → List String
  | .literal _ => []
  | .expression expr => [expr]

/-- The expressions of a text. -/
def TextTemplate.used : TextTemplate → List String
  | .literal _ => []
  | .expression expr => [expr]
  | .interpolated segments => segments.flatMap Segment.used

mutual

/-- The expressions of a template. -/
def Template.used : Template → List String
  | .text template => template.used
  | .number _ => []
  | .bool _ => []
  | .null => []
  | .object fields => Template.usedInFields fields
  | .array items => Template.usedInItems items

/-- The expressions of named templates. -/
def Template.usedInFields : List (String × Template) → List String
  | [] => []
  | (_, template) :: fields => Template.used template ++ Template.usedInFields fields

/-- The expressions of the elements of an array. -/
def Template.usedInItems : List Template.Item → List String
  | [] => []
  | item :: items => Template.usedInItem item ++ Template.usedInItems items

/-- The expressions of an element of an array: those of its ranges, its condition and its body. -/
def Template.usedInItem : Template.Item → List String
  | .plain template => Template.used template
  | .loop ranges condition body =>
    ranges.flatMap Range.used ++ condition.toList ++ Template.usedInFields body
  | .conditional condition body => condition :: Template.usedInFields body

end

namespace Expansion

variable {ε α β : Type}

theorem steady_inElement {x : Draws ExpansionError α} (h : Steady (ExceptT.run x)) (index : Nat)
    (b : Bindings) : Steady (ExceptT.run (inElement index b x)) := h.adapt _

theorem steady_expandSegments (b : Bindings) : ∀ segments : List Segment,
    (∀ e ∈ segments.flatMap Segment.used, Expression.IsSteady e) →
      Steady (ExceptT.run (expandSegments b segments))
  | [], _ => steady_run_pure _
  | .literal _ :: segments, h =>
    (steady_expandSegments b segments h).bind fun _ => steady_run_pure _
  | .expression expr :: segments, h => by
    have hexpr := h expr List.mem_cons_self
    have hrest := steady_expandSegments b segments fun e he => h e (List.mem_cons_of_mem _ he)
    exact ((hexpr b).adapt _).bind fun _ => hrest.bind fun _ => steady_run_pure _

theorem steady_expandText (b : Bindings) {template : TextTemplate}
    (h : ∀ e ∈ template.used, Expression.IsSteady e) :
    Steady (ExceptT.run (expandText b template)) := by
  cases template with
  | literal s => exact steady_run_pure _
  | expression expr => exact (h expr List.mem_cons_self b).adapt _
  | interpolated segments => exact (steady_expandSegments b _ h).bind fun _ => steady_run_pure _

theorem steady_parseRanges (b : Bindings) : ∀ {descriptors : List String},
    (∀ e ∈ descriptors.flatMap Range.used, Expression.IsSteady e) →
      Steady (ExceptT.run (parseRanges b descriptors))
  | [], _ => steady_run_pure _
  | descriptor :: descriptors, h => by
    rw [List.flatMap_cons, List.forall_mem_append] at h
    refine ((Range.steady_parse b h.1).adapt _).bind fun _ => ?_
    exact (steady_parseRanges b h.2).bind fun _ => steady_run_pure _

theorem steady_axes (limit : Nat) (b : Bindings) {descriptors : List String}
    (h : ∀ e ∈ descriptors.flatMap Range.used, Expression.IsSteady e) :
    Steady (ExceptT.run (axes limit b descriptors)) :=
  (steady_parseRanges b h).bind fun _ => (steady_run_ofExcept _).bind fun _ => steady_run_pure _

theorem steady_collect {f : α → Draws ε (List β)} (h : ∀ a, Steady (ExceptT.run (f a))) :
    ∀ as, Steady (ExceptT.run (collect f as))
  | [] => steady_run_pure _
  | a :: as => (h a).bind fun _ => (steady_collect h as).bind fun _ => steady_run_pure _

theorem steady_product {body : Bindings → Draws ε (List β)}
    (h : ∀ b, Steady (ExceptT.run (body b))) :
    ∀ (axes : List Axis) (b : Bindings), Steady (ExceptT.run (product body b axes))
  | [], b => h b
  | _ :: axes, _ => steady_collect (fun _ => steady_product h axes _) _

theorem steady_holds (b : Bindings) {condition : Option String}
    (h : ∀ e ∈ condition.toList, Expression.IsSteady e) :
    Steady (ExceptT.run (holds b condition)) := by
  cases condition with
  | none => exact steady_run_pure _
  | some expr => exact ((h expr List.mem_cons_self).condition b).adapt _

/-- The body of a loop or of a condition. -/
theorem steady_body (b : Bindings) {condition : Option String} {x : Draws ExpansionError α}
    {f : α → β} (hc : ∀ e ∈ condition.toList, Expression.IsSteady e) (hx : Steady (ExceptT.run x)) :
    Steady (ExceptT.run do
      if ← holds b condition then return [f (← x)]
      else return []) := by
  refine (steady_holds b hc).bind fun kept => ?_
  cases kept
  · exact steady_run_pure _
  · exact hx.bind fun _ => steady_run_pure _

mutual

/-- **A template of steady expressions has the same value everywhere.** -/
theorem steady_expand (limit : Nat) : ∀ (template : Template) (b : Bindings),
    (∀ e ∈ template.used, Expression.IsSteady e) → Steady (ExceptT.run (expand limit b template))
  | .text template, b, h => by
    rw [Template.used] at h
    rw [expand]
    exact steady_expandText b h
  | .number _, _, _ => by rw [expand]; exact steady_run_pure _
  | .bool _, _, _ => by rw [expand]; exact steady_run_pure _
  | .null, _, _ => by rw [expand]; exact steady_run_pure _
  | .object fields, b, h => by
    rw [Template.used] at h
    rw [expand]
    exact (steady_expandFields limit fields b h).bind fun _ => steady_run_pure _
  | .array items, b, h => by
    rw [Template.used] at h
    rw [expand]
    exact (steady_expandItems limit items b 0 h).bind fun _ => steady_run_pure _

theorem steady_expandFields (limit : Nat) : ∀ (fields : ObjectTemplate) (b : Bindings),
    (∀ e ∈ Template.usedInFields fields, Expression.IsSteady e) →
      Steady (ExceptT.run (expandFields limit b fields))
  | [], _, _ => by rw [expandFields]; exact steady_run_pure _
  | (key, template) :: fields, b, h => by
    rw [Template.usedInFields, List.forall_mem_append] at h
    rw [expandFields]
    refine ((steady_expand limit template b h.1).adapt _).bind fun _ => ?_
    exact (steady_expandFields limit fields b h.2).bind fun _ => steady_run_pure _

theorem steady_expandItems (limit : Nat) : ∀ (items : List Template.Item) (b : Bindings)
    (index : Nat), (∀ e ∈ Template.usedInItems items, Expression.IsSteady e) →
      Steady (ExceptT.run (expandItems limit b index items))
  | [], _, _, _ => by rw [expandItems]; exact steady_run_pure _
  | item :: items, b, index, h => by
    rw [Template.usedInItems, List.forall_mem_append] at h
    rw [expandItems]
    refine (steady_expandItem limit item b index h.1).bind fun _ => ?_
    exact (steady_expandItems limit items b (index + 1) h.2).bind fun _ => steady_run_pure _

theorem steady_expandItem (limit : Nat) : ∀ (item : Template.Item) (b : Bindings) (index : Nat),
    (∀ e ∈ Template.usedInItem item, Expression.IsSteady e) →
      Steady (ExceptT.run (expandItem limit b index item))
  | .plain template, b, index, h => by
    rw [Template.usedInItem] at h
    rw [expandItem]
    exact (steady_inElement (steady_expand limit template b h) index b).bind fun _ =>
      steady_run_pure _
  | .conditional condition body, b, index, h => by
    rw [Template.usedInItem, List.forall_mem_cons] at h
    rw [expandItem]
    have hcondition : ∀ e ∈ (some condition).toList, Expression.IsSteady e := by
      simpa using h.1
    exact steady_inElement (steady_body b hcondition (steady_expandFields limit body b h.2)) index b
  | .loop ranges condition body, b, index, h => by
    rw [Template.usedInItem, List.forall_mem_append, List.forall_mem_append] at h
    obtain ⟨⟨hranges, hcondition⟩, hbody⟩ := h
    rw [expandItem]
    refine (steady_inElement (steady_axes limit b hranges) index b).bind fun axes => ?_
    refine steady_product (fun b => ?_) axes b
    have hfields := steady_expandFields limit body b hbody
    exact steady_inElement (steady_body b hcondition hfields) index b

end

theorem steady_expandSequentialFrom (limit : Nat) : ∀ (fields : ObjectTemplate) (b : Bindings),
    (∀ e ∈ Template.usedInFields fields, Expression.IsSteady e) →
      Steady (ExceptT.run (expandSequentialFrom limit b fields))
  | [], _, _ => steady_run_pure _
  | (key, template) :: fields, b, h => by
    rw [Template.usedInFields, List.forall_mem_append] at h
    rw [expandSequentialFrom]
    refine ((steady_expand limit template b h.1).adapt _).bind fun v => ?_
    exact steady_expandSequentialFrom limit fields _ h.2

end Expansion

/-! ### Definitions -/

namespace Module

/-- The expressions of a definition: those of its parameters, of its derived values and of its
objects. -/
def Definition.used (d : Definition) : List String :=
  d.params.flatMap Range.used ++ (d.vars.elim [] Template.usedInFields) ++
    Template.usedInItems d.objs

/-- The random stream does not matter to any expression of the definition. -/
def Definition.IsSteady (d : Definition) : Prop := ∀ e ∈ d.used, Expression.IsSteady e

/-- **The records of an instance are the same everywhere** when its definition is steady. -/
theorem Instance.steady_expandRecords {Obj : Type} {inst : Instance Obj}
    (h : inst.definition.IsSteady) : Steady (ExceptT.run inst.expandRecords) := by
  unfold Definition.IsSteady Definition.used at h
  rw [List.forall_mem_append, List.forall_mem_append] at h
  -- the descriptors of the parameters were evaluated when the definition was read
  obtain ⟨⟨-, hvars⟩, hobjs⟩ := h
  unfold expandRecords
  dsimp only
  rcases hv : inst.definition.vars with _ | vars
  · exact (steady_run_pure _).bind fun _ => Expansion.steady_expandItems _ _ _ _ hobjs
  · rw [hv] at hvars
    dsimp only
    refine Steady.bind (Expansion.steady_expandSequentialFrom _ vars _ hvars) fun _ => ?_
    exact Expansion.steady_expandItems _ _ _ _ hobjs

end Module

end OpticScene
