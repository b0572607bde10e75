import OpticScene.Proofs.Definition
import OpticScene.Proofs.ExpansionFailure
import OpticScene.Proofs.SteadyExpansion
import OpticScene.Scene.Diagnostic

/-!
# The trail of an error

The frames of an error tell the way from an array to what has failed in it.  Read as a path they
lead to a node of the template, and the cause of the error is about what stands there: an expression
of a text, the condition of an element, or the ranges of a loop.

## Main definitions

* `Expansion.Node`, `Expansion.Leads` — the nodes of a template, and the path to each of them.
* `Expansion.Node.Blames` — a cause is about what stands at a node.

## Main results

* `Expansion.Arrives.exists_leads` — the way into a template follows the path that the frames tell.
* `Expansion.trail_leads_to_failure` — **the trail of an error leads to what has failed.**
-/

namespace OpticScene

open OpticScene.Random (Stream)

namespace Expansion

/-! ### Nodes -/

/-- A node of a template: an element of an array, or the template of a field. -/
inductive Node where
  /-- An element of an array. -/
  | item (item : Template.Item)
  /-- A template. -/
  | template (template : Template)

namespace Node

/-- The elements of an array. -/
def items : Node → List Template.Item
  | .item (.plain (.array items)) => items
  | .template (.array items) => items
  | _ => []

/-- The fields of an object, or of the body of a loop or of a condition. -/
def fields : Node → ObjectTemplate
  | .item (.plain (.object fields)) => fields
  | .item (.loop _ _ body) => body
  | .item (.conditional _ body) => body
  | .template (.object fields) => fields
  | _ => []

/-- The text that a node is. -/
def text? : Node → Option TextTemplate
  | .item (.plain (.text text)) => some text
  | .template (.text text) => some text
  | _ => none

/-- The condition of a loop or of a body. -/
def condition? : Node → Option String
  | .item (.loop _ condition _) => condition
  | .item (.conditional condition _) => some condition
  | _ => none

/-- The range descriptors of a loop. -/
def ranges : Node → List String
  | .item (.loop descriptors _ _) => descriptors
  | _ => []

/-- A cause is about what stands at a node: an expression of a text, a condition, a range of a loop,
or the number of steps of a loop. -/
inductive Blames (node : Node) : ExpansionError → Prop
  /-- The expression of a text, or one of several. -/
  | expression {template : TextTemplate} {e : EvalError} : node.text? = some template →
    e.expr ∈ template.used → Blames node (.evaluate e)
  /-- The condition. -/
  | condition {e : EvalError} : node.condition? = some e.expr → Blames node (.evaluate e)
  /-- A range of a loop. -/
  | range {e : Range.Error} : e.descriptor ∈ node.ranges → Blames node (.range e)
  /-- A loop with too many steps; the error names the variable of one of its ranges. -/
  | loop {e : LoopTooLarge} {descriptor : String} : descriptor ∈ node.ranges →
    Range.nameOf descriptor = e.variableName → Blames node (.loop e)

end Node

/-- A path leads from a node to another one: the index of an element selects it, and a key selects a
field with this key. -/
inductive Leads : Node → List Place → Node → Prop
  /-- The path is at its end. -/
  | here (node : Node) : Leads node [] node
  /-- Its next place is an element. -/
  | element {node target : Node} {index : Nat} {item : Template.Item} {path : List Place} :
    node.items[index]? = some item → Leads (.item item) path target →
      Leads node (.element index :: path) target
  /-- Its next place is a field. -/
  | field {node target : Node} {key : String} {template : Template} {path : List Place} :
    (key, template) ∈ node.fields → Leads (.template template) path target →
      Leads node (.field key :: path) target

variable {limit : Nat} {b : Bindings} {s t : Stream} {e cause : ExpansionError}
  {first next last : Stage} {frames : List Frame}

/-! ### The path -/

/-- The work stands at a node. -/
def Task.At (node : Node) : Task → Prop
  | .template expanded => node = .template expanded ∨ node = .item (.plain expanded)
  | .fields expanded => node.fields = expanded
  | .items expanded => node.items = expanded
  | .ranges descriptors => node.ranges = descriptors
  | .body condition expanded => node.condition? = condition ∧ node.fields = expanded

/-- A step goes to the place that its frame tells, or stays at the node. -/
theorem Enters.exists_leads {node : Node} (h : Enters limit first frames next)
    (hat : first.task.At node) :
    ∃ target, next.task.At target ∧ ∀ {path : List Place} {end' : Node},
      Leads target path end' → Leads node (frames.map Frame.place ++ path) end' := by
  have helement : ∀ {before after : List Template.Item} {item : Template.Item},
      node.items = before ++ item :: after → node.items[before.length]? = some item := by
    intro before after item hitems
    rw [hitems, List.getElem?_append_right (Nat.le_refl _), Nat.sub_self]
    rfl
  cases h with
  | object =>
    refine ⟨node, ?_, id⟩
    rcases hat with rfl | rfl <;> rfl
  | array =>
    refine ⟨node, ?_, id⟩
    rcases hat with rfl | rfl <;> rfl
  | field hbefore =>
    refine ⟨_, .inl rfl, .field ?_⟩
    rw [show node.fields = _ from hat]
    exact List.mem_append_right _ List.mem_cons_self
  | plain hbefore => exact ⟨_, .inr rfl, .element (helement hat)⟩
  | conditional hbefore => exact ⟨_, ⟨rfl, rfl⟩, .element (helement hat)⟩
  | ranges hbefore => exact ⟨.item (.loop _ _ _), rfl, .element (helement hat)⟩
  | choice hbefore => exact ⟨_, ⟨rfl, rfl⟩, .element (helement hat)⟩
  | kept => exact ⟨node, hat.2, id⟩

/-- **The way in follows the path that the frames tell.** -/
theorem Arrives.exists_leads {node : Node} (h : Arrives limit first frames last)
    (hat : first.task.At node) :
    ∃ target, Leads node (frames.map Frame.place) target ∧ last.task.At target := by
  induction h generalizing node with
  | here stage => exact ⟨node, .here node, hat⟩
  | step henters _ ih =>
    obtain ⟨next, hnext, hleads⟩ := henters.exists_leads hat
    obtain ⟨target, htarget, hlast⟩ := ih hnext
    rw [List.map_append]
    exact ⟨target, hleads htarget, hlast⟩

theorem names_of_run_parseRanges {descriptors : List String} {ranges : List Range} :
    ∀ {s : Stream}, ExceptT.run (parseRanges b descriptors) s = (.ok ranges, t) →
      ranges.map Range.name = descriptors.map Range.nameOf := by
  induction descriptors generalizing ranges with
  | nil => intro s h; cases h; rfl
  | cons descriptor descriptors ih =>
    intro s h
    rw [parseRanges] at h
    obtain ⟨range, u, hrange, h⟩ := run_bind_eq_ok.mp h
    obtain ⟨rest, v, hrest, h⟩ := run_bind_eq_ok.mp h
    cases h
    have hparse : ExceptT.run (Range.parse b descriptor) s = (.ok range, u) := by
      rw [run_adapt] at hrange
      obtain ⟨hok, rfl⟩ := Prod.mk.inj hrange
      exact Prod.ext (mapError_eq_ok.mp hok) rfl
    rw [List.map_cons, List.map_cons, ih hrest, Range.name_of_run_parse hparse]

/-- A loop with too many steps is told by one of its ranges. -/
theorem exists_name_of_checkTotal {ranges : List Range} {e : LoopTooLarge} :
    ∀ {total : Nat}, checkTotal limit total ranges = .error e →
      ∃ range ∈ ranges, e.variableName = range.name := by
  induction ranges with
  | nil => intro total h; cases h
  | cons range ranges ih =>
    intro total h
    rw [checkTotal] at h
    dsimp only at h
    split at h
    · cases h; exact ⟨range, List.mem_cons_self, rfl⟩
    split at h
    · cases h; exact ⟨range, List.mem_cons_self, rfl⟩
    · obtain ⟨found, hfound, hname⟩ := ih h
      exact ⟨found, List.mem_cons_of_mem _ hfound, hname⟩

/-- The cause is about the node where the work stops. -/
theorem Stops.blames {node : Node} (h : Stops limit last cause t) (hat : last.task.At node) :
    node.Blames cause := by
  cases h with
  | @expression b s t expr e h =>
    obtain ⟨_, -, rfl⟩ := run_adapt_eq_error.mp h
    have htext : node.text? = some (.expression expr) := by rcases hat with rfl | rfl <;> rfl
    exact .expression htext List.mem_cons_self
  | @segment b s u t before after expr text e hbefore h =>
    obtain ⟨_, -, rfl⟩ := run_adapt_eq_error.mp h
    have htext : node.text? = some (.interpolated (before ++ .expression expr :: after)) := by
      rcases hat with rfl | rfl <;> rfl
    refine .expression htext (List.mem_flatMap.mpr ⟨.expression expr, ?_, List.mem_cons_self⟩)
    exact List.mem_append_right _ List.mem_cons_self
  | @condition b s t expr fields e h =>
    have hexpr : e.expr = expr := by
      rcases run_bind_eq_error.mp h with h | ⟨v, u, -, h⟩
      · obtain ⟨_, -, rfl⟩ := run_adapt_eq_error.mp h
        rfl
      · cases htruth : Expression.truth v with
        | ok kept => rw [htruth] at h; cases h
        | error cause => rw [htruth] at h; cases h; rfl
    exact .condition (hat.1.trans (congrArg some hexpr.symm))
  | @range b s u t before after descriptor ranges e hbefore h =>
    obtain ⟨_, -, rfl⟩ := run_adapt_eq_error.mp h
    refine .range ?_
    rw [show node.ranges = _ from hat]
    exact List.mem_append_right _ List.mem_cons_self
  | @loop b s t descriptors ranges e hranges hcheck =>
    obtain ⟨range, hrange, hname⟩ := exists_name_of_checkTotal hcheck
    have hmem := List.mem_map_of_mem (f := Range.name) hrange
    rw [names_of_run_parseRanges hranges] at hmem
    obtain ⟨descriptor, hdescriptor, hdname⟩ := List.mem_map.mp hmem
    rw [← show node.ranges = _ from hat] at hdescriptor
    exact .loop hdescriptor (hdname.trans hname.symm)

/-! ### Errors of arrays -/

/-- **The trail of an error leads to what has failed.**  Read as a path, in the only way it can be
read, it leads from the array to a node, and the cause is about an expression, the condition, or the
ranges of that node.  The bindings of the innermost frame are those that the evaluation that failed
has worked with; it was arrived at after all before it had succeeded, and no other one fails.  The
diagnostic of the error says the same. -/
theorem trail_leads_to_failure {items : List Template.Item}
    (h : ExceptT.run (expandItems limit b 0 items) s = (.error e, t)) :
    ∃ (frames : List Frame) (node : Node) (scope : Bindings) (u : Stream) (task : Task),
      frames ≠ [] ∧ e.trail = frames.map (·.place.text) ∧
      (∀ path : List Place, path.map Place.text = e.trail → path = frames.map Frame.place) ∧
      Leads (.template (.array items)) (frames.map Frame.place) node ∧ node.Blames e.root ∧
      (∀ location bindings inner, e.root ≠ .context location bindings inner) ∧
      Arrives limit ⟨b, s, .items items⟩ frames ⟨scope, u, task⟩ ∧
      Stops limit ⟨scope, u, task⟩ e.root t ∧ e = around frames e.root ∧
      (∀ frames' last cause t', Arrives limit ⟨b, s, .items items⟩ frames' last →
        Stops limit last cause t' → around frames' cause = e ∧ t' = t) ∧
      e.innermostBindings = some scope.text ∧
      (Diagnostic.ofError (.expansion e)).trail = e.trail ∧
      (Diagnostic.ofError (.expansion e)).bindings = some scope.text ∧
      (Diagnostic.ofError (.expansion e)).message = e.root.text := by
  have hfails : Stage.Fails limit ⟨b, s, .items items⟩ e t := h
  obtain ⟨frames, ⟨scope, u, task⟩, cause, harrives, hstops, rfl⟩ := Stage.fails_iff.mp hfails
  have hstart : (Task.items items).At (.template (.array items)) := rfl
  obtain ⟨node, hleads, hat⟩ := harrives.exists_leads hstart
  have hblames := hstops.blames hat
  -- a cause has no frames of its own
  have hbare : cause.root = cause ∧ cause.trail = [] ∧ cause.innermostBindings = none := by
    cases hblames <;> exact ⟨rfl, rfl, rfl⟩
  have hroot : (around frames cause).root = cause := (root_around frames cause).trans hbare.1
  have htrail : (around frames cause).trail = frames.map (·.place.text) := by
    rw [trail_around, hbare.2.1, List.append_nil]
  have hne := harrives.frames_ne_nil hstops
  have hbindings : (around frames cause).innermostBindings = some scope.text := by
    have hscope := harrives.scope_eq
    rw [List.getLast?_eq_some_getLast hne] at hscope
    rw [innermostBindings_around, hbare.2.2, Option.none_or, List.getLast?_eq_some_getLast hne]
    exact congrArg (fun b : Bindings => some b.text) hscope
  have honly : ∀ frames' last cause' t', Arrives limit ⟨b, s, .items items⟩ frames' last →
      Stops limit last cause' t' → around frames' cause' = around frames cause ∧ t' = t := by
    intro frames' last cause' t' harrives' hstops'
    have hfails' : Stage.Fails limit ⟨b, s, .items items⟩ (around frames' cause') t' :=
      Stage.fails_iff.mpr ⟨frames', last, cause', harrives', hstops', rfl⟩
    rw [Stage.Fails] at hfails hfails'
    obtain ⟨herror, rfl⟩ := Prod.mk.inj (hfails'.symm.trans hfails)
    exact ⟨Except.error.inj herror, rfl⟩
  have hread : ∀ path : List Place, path.map Place.text = (around frames cause).trail →
      path = frames.map Frame.place := by
    intro path hpath
    refine Place.text_injective.list_map ?_
    rw [hpath, htrail, List.map_map]
    rfl
  have hcontext : ∀ location bindings inner, cause ≠ .context location bindings inner := by
    intro location bindings inner hcause
    rw [hcause] at hblames
    cases hblames
  rw [hroot]
  exact ⟨frames, node, scope, u, task, hne, htrail, hread, hleads, hblames, hcontext, harrives,
    hstops, rfl, honly, hbindings, rfl, hbindings, congrArg ExpansionError.text hroot⟩

/-- The second element of an array is a loop, and a field of its body uses a name that is not
bound. -/
def unbound : List Template.Item :=
  [.plain (.object []),
    .loop ["i=0:1:1"] (some "i > 0")
      [("p1", .object [("x", .text (.interpolated [.literal "at ", .expression "i + nope"]))])]]

theorem trail_of_unbound :
    ∃ e t, ExceptT.run (expandItems 50 .empty 0 unbound) (.ofSeed 0) = (.error e, t) ∧
      e.trail = ["element [1]", "field \x60p1\x60", "field \x60x\x60"] ∧
      e.innermostBindings = some "\x7bi: 1\x7d" ∧
      ∃ path node, path.map Place.text = e.trail ∧ Leads (.template (.array unbound)) path node ∧
        node.Blames e.root := by
  have hchecks : (match (ExceptT.run (expandItems 50 .empty 0 unbound) (.ofSeed 0)).1 with
      | .ok _ => false
      | .error e => decide (e.trail = ["element [1]", "field \x60p1\x60", "field \x60x\x60"] ∧
          e.innermostBindings = some "\x7bi: 1\x7d")) = true := by
    decide +kernel
  rcases hrun : ExceptT.run (expandItems 50 .empty 0 unbound) (.ofSeed 0) with ⟨e | vs, t⟩
  · rw [hrun] at hchecks
    obtain ⟨htrail, hbindings⟩ := of_decide_eq_true hchecks
    obtain ⟨frames, node, -, -, -, -, hframes, -, hleads, hblames, -⟩ :=
      trail_leads_to_failure hrun
    refine ⟨e, t, rfl, htrail, hbindings, frames.map Frame.place, node, ?_, hleads, hblames⟩
    rw [hframes, List.map_map]
    rfl
  · rw [hrun] at hchecks
    cases hchecks

end Expansion

end OpticScene
