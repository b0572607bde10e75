import OpticScene.Proofs.FlatLoops
import OpticScene.Proofs.Refusal

/-!
# How expansions fail

An expansion works its way into a template: from an array to its elements, from an object to its
fields, and into the body of a loop once for each choice of values.  It stops at the first
expression, range or loop that fails, and the error collects a frame for each element and field on
its way out.  Here the way in is a relation of its own, and the error is what the way out makes of
its cause.

## Main definitions

* `Expansion.Place`, `Expansion.Frame` — a step into a template, and one with the bindings in force
  after it.
* `Expansion.around` — an error with frames around it.
* `Expansion.Task`, `Expansion.Stage` — what an expansion works on, and with which bindings and from
  which place of the random stream.
* `Expansion.Enters`, `Expansion.Arrives` — an expansion goes on to a part of its work after all
  before that part has succeeded.
* `Expansion.Stops` — an evaluation fails.

## Main results

* `Expansion.Stage.fails_iff_stops_or_enters` — what fails does so by itself or in one part.
* `Expansion.Stage.fails_iff` — **an expansion fails exactly when it arrives at an evaluation that
  fails**, with the frames of the way around the cause.
-/

namespace OpticScene

open OpticScene.Random (Draws Stream)

namespace Expansion

/-! ### Places -/

/-- A step into a template. -/
inductive Place where
  /-- To the element of an array with an index. -/
  | element (index : Nat)
  /-- To the field of an object with a key. -/
  | field (key : String)
  deriving DecidableEq

/-- The text of a place in a trail. -/
def Place.text : Place → String
  | .element index => "element [" ++ toString index ++ "]"
  | .field key => "field \x60" ++ key ++ "\x60"

/-- A place can be read off its text. -/
theorem Place.text_injective : Function.Injective Place.text := by
  intro p q h
  have hchars := congrArg String.toList h
  cases p <;> cases q <;>
    simp only [Place.text, String.toList_append, Nat.toString_eq_repr, Nat.toList_repr] at hchars
  case element.element m n =>
    rw [toDigits_inj (List.append_cancel_left (List.append_cancel_right hchars))]
  case field.field k l =>
    rw [String.toList_inj.mp (List.append_cancel_left (List.append_cancel_right hchars))]
  -- the first letters differ
  case element.field m k => exact absurd (List.cons.inj hchars).1 (by decide)
  case field.element k n => exact absurd (List.cons.inj hchars).1 (by decide)

/-- A step into a template with the bindings in force after it. -/
structure Frame where
  /-- Where the step goes. -/
  place : Place
  /-- The bindings there. -/
  scope : Bindings

/-- The error with frames around it, the first one outermost. -/
def around (frames : List Frame) (e : ExpansionError) : ExpansionError :=
  frames.foldr (fun frame e => e.within frame.place.text frame.scope) e

theorem around_append (frames frames' : List Frame) (e : ExpansionError) :
    around (frames ++ frames') e = around frames (around frames' e) := List.foldr_append ..

theorem root_around (frames : List Frame) (e : ExpansionError) :
    (around frames e).root = e.root := by
  induction frames with
  | nil => rfl
  | cons frame frames ih => exact ih

theorem trail_around (frames : List Frame) (e : ExpansionError) :
    (around frames e).trail = frames.map (·.place.text) ++ e.trail := by
  induction frames with
  | nil => rfl
  | cons frame frames ih => exact congrArg (frame.place.text :: ·) ih

/-- The innermost frame tells the bindings. -/
theorem innermostBindings_around (frames : List Frame) (e : ExpansionError) :
    (around frames e).innermostBindings =
      e.innermostBindings.or (frames.getLast?.map (·.scope.text)) := by
  induction frames with
  | nil => cases h : e.innermostBindings <;> simp [around, h]
  | cons frame frames ih =>
    change ((around frames e).innermostBindings).or (some frame.scope.text) = _
    rw [ih]
    cases e.innermostBindings <;> cases h : frames.getLast? <;> simp [List.getLast?_cons, h]

/-! ### The way in -/

/-- What an expansion works on. -/
inductive Task where
  /-- A template. -/
  | template (template : Template)
  /-- The fields of an object. -/
  | fields (fields : ObjectTemplate)
  /-- The elements of an array. -/
  | items (items : List Template.Item)
  /-- The ranges of a loop. -/
  | ranges (descriptors : List String)
  /-- The body of a loop or of a condition, if the condition holds. -/
  | body (condition : Option String) (fields : ObjectTemplate)

/-- What an expansion works on, with which bindings, and from which place of the random stream. -/
structure Stage where
  /-- The bindings in force. -/
  scope : Bindings
  /-- The place in the random stream. -/
  stream : Stream
  /-- What is expanded. -/
  task : Task

/-- The work fails with an error, and leaves the random stream at a place. -/
def Stage.Fails (limit : Nat) (stage : Stage) (e : ExpansionError) (t : Stream) : Prop :=
  match stage with
  | ⟨b, s, .template template⟩ => ExceptT.run (expand limit b template) s = (.error e, t)
  | ⟨b, s, .fields fields⟩ => ExceptT.run (expandFields limit b fields) s = (.error e, t)
  | ⟨b, s, .items items⟩ => ExceptT.run (expandItems limit b 0 items) s = (.error e, t)
  | ⟨b, s, .ranges descriptors⟩ => ExceptT.run (axes limit b descriptors) s = (.error e, t)
  | ⟨b, s, .body condition fields⟩ =>
    ExceptT.run (chosen (expand limit) condition fields b) s = (.error e, t)

/-- The body of a loop for one choice of its variables. -/
def bodyAt (limit : Nat) (b : Bindings) (index : Nat) (condition : Option String)
    (body : ObjectTemplate) (choice : Named Float) : Draws ExpansionError (Option Json) :=
  inElement index (b.layered choice) (chosen (expand limit) condition body (b.layered choice))

/-- An expansion goes on to a part of its work, after all before that part has succeeded.  The step
to an element or to a field has a frame. -/
inductive Enters (limit : Nat) : Stage → List Frame → Stage → Prop
  /-- The fields of an object. -/
  | object {b : Bindings} {s : Stream} {fields : ObjectTemplate} :
    Enters limit ⟨b, s, .template (.object fields)⟩ [] ⟨b, s, .fields fields⟩
  /-- The elements of an array. -/
  | array {b : Bindings} {s : Stream} {items : List Template.Item} :
    Enters limit ⟨b, s, .template (.array items)⟩ [] ⟨b, s, .items items⟩
  /-- The template of a field. -/
  | field {b : Bindings} {s u : Stream} {before after : ObjectTemplate} {key : String}
    {template : Template} {vs : List (String × Json)} :
    ExceptT.run (expandFields limit b before) s = (.ok vs, u) →
      Enters limit ⟨b, s, .fields (before ++ (key, template) :: after)⟩ [⟨.field key, b⟩]
        ⟨b, u, .template template⟩
  /-- The template of an element. -/
  | plain {b : Bindings} {s u : Stream} {before after : List Template.Item} {template : Template}
    {vs : List Json} :
    ExceptT.run (expandItems limit b 0 before) s = (.ok vs, u) →
      Enters limit ⟨b, s, .items (before ++ .plain template :: after)⟩
        [⟨.element before.length, b⟩] ⟨b, u, .template template⟩
  /-- The body of an element with a condition. -/
  | conditional {b : Bindings} {s u : Stream} {before after : List Template.Item}
    {condition : String} {body : ObjectTemplate} {vs : List Json} :
    ExceptT.run (expandItems limit b 0 before) s = (.ok vs, u) →
      Enters limit ⟨b, s, .items (before ++ .conditional condition body :: after)⟩
        [⟨.element before.length, b⟩] ⟨b, u, .body (some condition) body⟩
  /-- The ranges of a loop. -/
  | ranges {b : Bindings} {s u : Stream} {before after : List Template.Item}
    {descriptors : List String} {condition : Option String} {body : ObjectTemplate}
    {vs : List Json} :
    ExceptT.run (expandItems limit b 0 before) s = (.ok vs, u) →
      Enters limit ⟨b, s, .items (before ++ .loop descriptors condition body :: after)⟩
        [⟨.element before.length, b⟩] ⟨b, u, .ranges descriptors⟩
  /-- The body of a loop for one choice of its variables, after those for the choices before. -/
  | choice {b : Bindings} {s u v w : Stream} {before after : List Template.Item}
    {descriptors : List String} {condition : Option String} {body : ObjectTemplate}
    {vs : List Json} {found : List Axis} {earlier later : List (Named Float)}
    {choice : Named Float} {ws : List (Option Json)} :
    ExceptT.run (expandItems limit b 0 before) s = (.ok vs, u) →
      ExceptT.run (axes limit b descriptors) u = (.ok found, v) →
        choices found = earlier ++ choice :: later →
          ExceptT.run (earlier.mapM (bodyAt limit b before.length condition body)) v =
              (.ok ws, w) →
            Enters limit ⟨b, s, .items (before ++ .loop descriptors condition body :: after)⟩
              [⟨.element before.length, b.layered choice⟩]
              ⟨b.layered choice, w, .body condition body⟩
  /-- The fields of a body whose condition holds. -/
  | kept {b : Bindings} {s u : Stream} {condition : Option String} {fields : ObjectTemplate} :
    ExceptT.run (holds b condition) s = (.ok true, u) →
      Enters limit ⟨b, s, .body condition fields⟩ [] ⟨b, u, .fields fields⟩

/-- An expansion arrives at a part of its work, with the frames on the way. -/
inductive Arrives (limit : Nat) : Stage → List Frame → Stage → Prop
  /-- Where it is. -/
  | here (stage : Stage) : Arrives limit stage [] stage
  /-- By one more step. -/
  | step {first next last : Stage} {frames frames' : List Frame} :
    Enters limit first frames next → Arrives limit next frames' last →
      Arrives limit first (frames ++ frames') last

/-- An evaluation fails. -/
inductive Stops (limit : Nat) : Stage → ExpansionError → Stream → Prop
  /-- The only expression of a text. -/
  | expression {b : Bindings} {s t : Stream} {expr : String} {e : EvalError} :
    ExceptT.run (Expression.evaluate b expr) s = (.error e, t) →
      Stops limit ⟨b, s, .template (.text (.expression expr))⟩ (.evaluate e) t
  /-- An expression of a text, after those before it. -/
  | segment {b : Bindings} {s u t : Stream} {before after : List Segment} {expr text : String}
    {e : EvalError} :
    ExceptT.run (expandSegments b before) s = (.ok text, u) →
      ExceptT.run (Expression.evaluate b expr) u = (.error e, t) →
        Stops limit ⟨b, s, .template (.text (.interpolated (before ++ .expression expr :: after)))⟩
          (.evaluate e) t
  /-- A condition. -/
  | condition {b : Bindings} {s t : Stream} {expr : String} {fields : ObjectTemplate}
    {e : EvalError} :
    ExceptT.run (Expression.condition b expr) s = (.error e, t) →
      Stops limit ⟨b, s, .body (some expr) fields⟩ (.evaluate e) t
  /-- A range of a loop, after those before it. -/
  | range {b : Bindings} {s u t : Stream} {before after : List String} {descriptor : String}
    {ranges : List Range} {e : Range.Error} :
    ExceptT.run (parseRanges b before) s = (.ok ranges, u) →
      ExceptT.run (Range.parse b descriptor) u = (.error e, t) →
        Stops limit ⟨b, s, .ranges (before ++ descriptor :: after)⟩ (.range e) t
  /-- The number of steps of a loop, after all its ranges. -/
  | loop {b : Bindings} {s t : Stream} {descriptors : List String} {ranges : List Range}
    {e : LoopTooLarge} :
    ExceptT.run (parseRanges b descriptors) s = (.ok ranges, t) →
      checkTotal limit 1 ranges = .error e → Stops limit ⟨b, s, .ranges descriptors⟩ (.loop e) t

/-! ### Lists of work -/

variable {limit : Nat} {b : Bindings} {s t : Stream} {e : ExpansionError}

/-- The text of a segment. -/
def segmentText (b : Bindings) : Segment → Draws ExpansionError String
  | .literal text => pure text
  | .expression expr => Json.interpolated <$> (Expression.evaluate b expr).adapt .evaluate

theorem expandSegments_eq_mapM (b : Bindings) (segments : List Segment) :
    expandSegments b segments =
      (fun texts => texts.foldr (· ++ ·) "") <$> segments.mapM (segmentText b) := by
  induction segments with
  | nil => rfl
  | cons segment segments ih =>
    cases segment with
    | literal text => simp [expandSegments, segmentText, ih]
    | expression expr => simp [expandSegments, segmentText, ih]

theorem expandItems_eq_mapM (limit : Nat) (b : Bindings) (items : List Template.Item) :
    ∀ index, expandItems limit b index items = List.flatten <$>
      (items.zipIdx index).mapM fun (item, index) => expandItem limit b index item := by
  induction items with
  | nil => intro index; rw [expandItems]; simp
  | cons item items ih =>
    intro index
    rw [expandItems, ih, List.zipIdx_cons, List.mapM_cons]
    simp

theorem run_expandText_eq_error {template : TextTemplate} :
    ExceptT.run (expandText b template) s = (.error e, t) ↔
      Stops limit ⟨b, s, .template (.text template)⟩ e t := by
  cases template with
  | literal text => exact iff_of_false (fun h => nomatch h) (fun h => nomatch h)
  | expression expr =>
    rw [expandText, run_adapt_eq_error]
    constructor
    · rintro ⟨cause, h, rfl⟩
      exact .expression h
    · intro h
      cases h with | expression h => exact ⟨_, h, rfl⟩
  | interpolated segments =>
    have hrun : ExceptT.run (expandText b (.interpolated segments)) s = (.error e, t) ↔
        ExceptT.run (segments.mapM (segmentText b)) s = (.error e, t) := by
      rw [expandText, bind_pure_comp, run_map_eq_error, expandSegments_eq_mapM, run_map_eq_error]
    rw [hrun, run_mapM_eq_error]
    constructor
    · rintro ⟨before, segment, after, texts, u, rfl, hbefore, h⟩
      cases segment with
      | literal text => cases h
      | expression expr =>
        obtain ⟨cause, hexpr, rfl⟩ := run_adapt_eq_error.mp (run_map_eq_error.mp h)
        have htexts : ∃ text, ExceptT.run (expandSegments b before) s = (.ok text, u) := by
          simp only [expandSegments_eq_mapM, run_map_eq_ok]
          exact ⟨_, texts, hbefore, rfl⟩
        obtain ⟨text, htext⟩ := htexts
        exact .segment htext hexpr
    · intro h
      cases h with
      | @segment _ _ u _ before after expr text cause hbefore h =>
        rw [expandSegments_eq_mapM] at hbefore
        obtain ⟨texts, hbefore, -⟩ := run_map_eq_ok.mp hbefore
        refine ⟨before, _, after, texts, u, rfl, hbefore, run_map_eq_error.mpr ?_⟩
        exact run_adapt_eq_error.mpr ⟨cause, h, rfl⟩

/-- An object fails at one of its fields, after those before it. -/
theorem run_expandFields_eq_error {fields : ObjectTemplate} :
    ExceptT.run (expandFields limit b fields) s = (.error e, t) ↔
      ∃ before key template after vs u cause, fields = before ++ (key, template) :: after ∧
        ExceptT.run (expandFields limit b before) s = (.ok vs, u) ∧
          ExceptT.run (expand limit b template) u = (.error cause, t) ∧
            e = around [⟨.field key, b⟩] cause := by
  have hfields : ∀ fields, expandFields limit b fields = fieldsBy (expand limit) b fields :=
    fun fields => (fieldsBy_eq (fun _ _ _ => rfl) b).symm
  simp only [hfields, fieldsBy]
  rw [run_mapM_eq_error]
  constructor
  · rintro ⟨before, ⟨key, template⟩, after, vs, u, rfl, hbefore, h⟩
    rw [bind_pure_comp, run_map_eq_error, inField, run_adapt_eq_error] at h
    obtain ⟨cause, h, rfl⟩ := h
    exact ⟨before, key, template, after, vs, u, cause, rfl, hbefore, h, rfl⟩
  · rintro ⟨before, key, template, after, vs, u, cause, rfl, hbefore, h, rfl⟩
    refine ⟨before, (key, template), after, vs, u, rfl, hbefore, ?_⟩
    rw [bind_pure_comp, run_map_eq_error, inField, run_adapt_eq_error]
    exact ⟨cause, h, rfl⟩

/-- An array fails at one of its elements, after those before it. -/
theorem run_expandItems_eq_error {items : List Template.Item} :
    ExceptT.run (expandItems limit b 0 items) s = (.error e, t) ↔
      ∃ before item after vs u, items = before ++ item :: after ∧
        ExceptT.run (expandItems limit b 0 before) s = (.ok vs, u) ∧
          ExceptT.run (expandItem limit b before.length item) u = (.error e, t) := by
  have hok : ∀ {before : List Template.Item} {u : Stream},
      (∃ vs, ExceptT.run (expandItems limit b 0 before) s = (.ok vs, u)) ↔
        ∃ vss, ExceptT.run
          (before.zipIdx.mapM fun (item, index) => expandItem limit b index item) s =
            (.ok vss, u) := by
    intro before u
    simp only [expandItems_eq_mapM, run_map_eq_ok]
    constructor
    · rintro ⟨_, vss, h, -⟩
      exact ⟨vss, h⟩
    · rintro ⟨vss, h⟩
      exact ⟨vss.flatten, vss, h, rfl⟩
  rw [expandItems_eq_mapM, run_map_eq_error, run_mapM_eq_error]
  constructor
  · rintro ⟨before, ⟨item, index⟩, after, vss, u, hitems, hbefore, h⟩
    obtain ⟨before, rest, rfl, rfl, hrest⟩ := List.zipIdx_eq_append_iff.mp hitems
    obtain ⟨item, after, rfl, hitem, -⟩ := List.zipIdx_eq_cons_iff.mp hrest.symm
    obtain ⟨rfl, rfl⟩ := Prod.mk.inj hitem
    rw [Nat.zero_add] at h
    obtain ⟨vs, hbefore⟩ := hok.mpr ⟨vss, hbefore⟩
    exact ⟨before, _, after, vs, u, rfl, hbefore, h⟩
  · rintro ⟨before, item, after, vs, u, rfl, hbefore, h⟩
    obtain ⟨vss, hbefore⟩ := hok.mp ⟨vs, hbefore⟩
    refine ⟨before.zipIdx, (item, before.length), after.zipIdx (before.length + 1), vss, u, ?_,
      hbefore, h⟩
    rw [List.zipIdx_append, List.zipIdx_cons, Nat.zero_add]

/-- The body of a loop or of a condition fails at the condition or at the fields. -/
theorem run_chosen_eq_error {condition : Option String} {fields : ObjectTemplate} :
    ExceptT.run (chosen (expand limit) condition fields b) s = (.error e, t) ↔
      Stops limit ⟨b, s, .body condition fields⟩ e t ∨
        ∃ u, ExceptT.run (holds b condition) s = (.ok true, u) ∧
          ExceptT.run (expandFields limit b fields) u = (.error e, t) := by
  have hholds : ExceptT.run (holds b condition) s = (.error e, t) ↔
      Stops limit ⟨b, s, .body condition fields⟩ e t := by
    cases condition with
    | none => exact iff_of_false (fun h => nomatch h) (fun h => nomatch h)
    | some expr =>
      rw [holds, run_adapt_eq_error]
      constructor
      · rintro ⟨cause, h, rfl⟩
        exact .condition h
      · intro h
        cases h with | condition h => exact ⟨_, h, rfl⟩
  rw [chosen, run_bind_eq_error, hholds, fieldsBy_eq fun _ _ _ => rfl]
  refine or_congr_right ⟨?_, ?_⟩
  · rintro ⟨kept, u, hkept, h⟩
    cases kept with
    | false => cases h
    | true => exact ⟨u, hkept, run_map_eq_error.mp (by simpa using h)⟩
  · rintro ⟨u, hkept, h⟩
    exact ⟨true, u, hkept, by simpa using run_map_eq_error.mpr h⟩

/-- The ranges of a loop fail at one of them, or have too many steps together. -/
theorem run_axes_eq_error {descriptors : List String} :
    ExceptT.run (axes limit b descriptors) s = (.error e, t) ↔
      Stops limit ⟨b, s, .ranges descriptors⟩ e t := by
  rw [axes, run_bind_eq_error]
  constructor
  · rintro (h | ⟨ranges, u, hranges, h⟩)
    · rw [parseRanges_eq_mapM, run_mapM_eq_error] at h
      obtain ⟨before, descriptor, after, ranges, u, rfl, hbefore, h⟩ := h
      rw [← parseRanges_eq_mapM] at hbefore
      obtain ⟨cause, hparse, rfl⟩ := run_adapt_eq_error.mp h
      exact .range hbefore hparse
    · rcases run_bind_eq_error.mp h with h | ⟨_, _, -, h⟩
      · rcases hcheck : checkTotal limit 1 ranges with cause | _
        · rw [hcheck] at h
          cases h
          exact .loop hranges hcheck
        · rw [hcheck] at h
          cases h
      · cases h
  · intro h
    cases h with
    | range hbefore h =>
      refine .inl ?_
      rw [parseRanges_eq_mapM, run_mapM_eq_error]
      rw [parseRanges_eq_mapM] at hbefore
      exact ⟨_, _, _, _, _, rfl, hbefore, run_adapt_eq_error.mpr ⟨_, h, rfl⟩⟩
    | loop hranges hcheck =>
      refine .inr ⟨_, _, hranges, ?_⟩
      rw [hcheck]
      rfl

/-- A loop goes through its body once for each choice of its variables. -/
theorem expandItem_loop (limit : Nat) (b : Bindings) (index : Nat) (descriptors : List String)
    (condition : Option String) (body : ObjectTemplate) :
    expandItem limit b index (.loop descriptors condition body) =
      inElement index b (axes limit b descriptors) >>= fun found =>
        List.reduceOption <$> (choices found).mapM (bodyAt limit b index condition body) := by
  rw [expandItem]
  refine bind_congr fun found => ?_
  simp only [product_eq_mapM, chosen_eq fun _ _ _ => rfl, inElement_map, mapM_map_eq,
    Functor.map_map, flatten_map_toList]
  rfl

/-- A loop fails at its ranges, or in its body for one choice of its variables after those before
it. -/
theorem run_expandItem_loop_eq_error {index : Nat} {descriptors : List String}
    {condition : Option String} {body : ObjectTemplate} :
    ExceptT.run (expandItem limit b index (.loop descriptors condition body)) s = (.error e, t) ↔
      (∃ cause, ExceptT.run (axes limit b descriptors) s = (.error cause, t) ∧
        e = around [⟨.element index, b⟩] cause) ∨
      ∃ (found : List Axis) (u : Stream) (earlier : List (Named Float)) (choice : Named Float)
        (later : List (Named Float)) (ws : List (Option Json)) (v : Stream)
        (cause : ExpansionError), ExceptT.run (axes limit b descriptors) s = (.ok found, u) ∧
        choices found = earlier ++ choice :: later ∧
        ExceptT.run (earlier.mapM (bodyAt limit b index condition body)) u = (.ok ws, v) ∧
        ExceptT.run (chosen (expand limit) condition body (b.layered choice)) v =
          (.error cause, t) ∧
        e = around [⟨.element index, b.layered choice⟩] cause := by
  rw [expandItem_loop, run_bind_eq_error, inElement]
  simp only [run_map_eq_error]
  refine or_congr run_adapt_eq_error ?_
  constructor
  · rintro ⟨found, u, haxes, h⟩
    obtain ⟨earlier, choice, later, ws, v, hchoices, hearlier, h⟩ := run_mapM_eq_error.mp h
    obtain ⟨cause, hchosen, rfl⟩ := run_adapt_eq_error.mp h
    have haxes : ExceptT.run (axes limit b descriptors) s = (.ok found, u) := by
      rw [run_adapt] at haxes
      obtain ⟨hok, rfl⟩ := Prod.mk.inj haxes
      exact Prod.ext (mapError_eq_ok.mp hok) rfl
    exact ⟨found, u, earlier, choice, later, ws, v, cause, haxes, hchoices, hearlier, hchosen, rfl⟩
  · rintro ⟨found, u, earlier, choice, later, ws, v, cause, haxes, hchoices, hearlier, h, rfl⟩
    refine ⟨found, u, by rw [run_adapt, haxes]; rfl, ?_⟩
    exact run_mapM_eq_error.mpr ⟨earlier, choice, later, ws, v, hchoices, hearlier,
      run_adapt_eq_error.mpr ⟨cause, h, rfl⟩⟩

/-! ### One step -/

/-- An array fails in one of its parts. -/
theorem fails_items_iff_enters {items : List Template.Item} :
    Stage.Fails limit ⟨b, s, .items items⟩ e t ↔
      ∃ frames next cause, Enters limit ⟨b, s, .items items⟩ frames next ∧
        next.Fails limit cause t ∧ e = around frames cause := by
  rw [Stage.Fails, run_expandItems_eq_error]
  constructor
  · rintro ⟨before, item, after, vs, u, rfl, hbefore, h⟩
    cases item with
    | plain template =>
      rw [expandItem, bind_pure_comp, run_map_eq_error, inElement, run_adapt_eq_error] at h
      obtain ⟨cause, h, rfl⟩ := h
      exact ⟨_, _, cause, .plain hbefore, h, rfl⟩
    | conditional condition body =>
      rw [expandItem, chosen_eq fun _ _ _ => rfl, inElement, run_adapt_eq_error] at h
      obtain ⟨cause, h, rfl⟩ := h
      exact ⟨_, _, cause, .conditional hbefore, run_map_eq_error.mp h, rfl⟩
    | loop descriptors condition body =>
      rcases run_expandItem_loop_eq_error.mp h with ⟨cause, haxes, rfl⟩ |
        ⟨found, u', earlier, choice, later, ws, v, cause, haxes, hchoices, hearlier, hbody, rfl⟩
      · exact ⟨_, _, cause, .ranges hbefore, haxes, rfl⟩
      · exact ⟨_, _, cause, .choice hbefore haxes hchoices hearlier, hbody, rfl⟩
  · rintro ⟨frames, next, cause, henters, h, rfl⟩
    cases henters with
    | plain hbefore =>
      refine ⟨_, _, _, _, _, rfl, hbefore, ?_⟩
      rw [expandItem, bind_pure_comp, run_map_eq_error, inElement, run_adapt_eq_error]
      exact ⟨cause, h, rfl⟩
    | conditional hbefore =>
      refine ⟨_, _, _, _, _, rfl, hbefore, ?_⟩
      rw [expandItem, chosen_eq fun _ _ _ => rfl, inElement, run_adapt_eq_error]
      exact ⟨cause, run_map_eq_error.mpr h, rfl⟩
    | ranges hbefore =>
      refine ⟨_, _, _, _, _, rfl, hbefore, ?_⟩
      exact run_expandItem_loop_eq_error.mpr (.inl ⟨cause, h, rfl⟩)
    | choice hbefore haxes hchoices hearlier =>
      refine ⟨_, _, _, _, _, rfl, hbefore, run_expandItem_loop_eq_error.mpr (.inr ?_)⟩
      exact ⟨_, _, _, _, _, _, _, cause, haxes, hchoices, hearlier, h, rfl⟩

/-- **What fails does so by itself or in one part.** -/
theorem Stage.fails_iff_stops_or_enters {stage : Stage} :
    stage.Fails limit e t ↔
      Stops limit stage e t ∨
        ∃ frames next cause, Enters limit stage frames next ∧ next.Fails limit cause t ∧
          e = around frames cause := by
  obtain ⟨b, s, task⟩ := stage
  cases task with
  | items items =>
    rw [fails_items_iff_enters]
    exact ⟨.inr, fun h => h.resolve_left fun h => nomatch h⟩
  | ranges descriptors =>
    rw [Fails, run_axes_eq_error]
    refine ⟨.inl, fun h => h.resolve_right ?_⟩
    rintro ⟨frames, next, cause, henters, -⟩
    cases henters
  | body condition fields =>
    rw [Fails, run_chosen_eq_error]
    refine or_congr_right ⟨?_, ?_⟩
    · rintro ⟨u, hkept, h⟩
      exact ⟨_, _, e, .kept hkept, h, rfl⟩
    · rintro ⟨frames, next, cause, henters, h, rfl⟩
      cases henters with | kept hkept => exact ⟨_, hkept, h⟩
  | fields fields =>
    rw [Fails, run_expandFields_eq_error]
    constructor
    · rintro ⟨before, key, template, after, vs, u, cause, rfl, hbefore, h, rfl⟩
      exact .inr ⟨_, _, cause, .field hbefore, h, rfl⟩
    · rintro (h | ⟨frames, next, cause, henters, h, rfl⟩)
      · cases h
      · cases henters with
        | field hbefore => exact ⟨_, _, _, _, _, _, cause, rfl, hbefore, h, rfl⟩
  | template template =>
    -- a template goes on to its fields or elements without a frame
    cases template with
    | text text =>
      rw [Fails, expand, run_expandText_eq_error]
      refine ⟨.inl, fun h => h.resolve_right ?_⟩
      rintro ⟨frames, next, cause, henters, -⟩
      cases henters
    | object fields =>
      rw [Fails, expand, bind_pure_comp, run_map_eq_error]
      constructor
      · exact fun h => .inr ⟨_, _, e, .object, h, rfl⟩
      · rintro (h | ⟨frames, next, cause, henters, h, rfl⟩)
        · cases h
        · cases henters with | object => exact h
    | array items =>
      rw [Fails, expand, bind_pure_comp, run_map_eq_error]
      constructor
      · exact fun h => .inr ⟨_, _, e, .array, h, rfl⟩
      · rintro (h | ⟨frames, next, cause, henters, h, rfl⟩)
        · cases h
        · cases henters with | array => exact h
    | number | bool | null =>
      rw [Fails, expand]
      constructor
      · intro h; cases h
      · rintro (h | ⟨frames, next, cause, henters, -⟩)
        · cases h
        · cases henters

/-! ### The whole way -/

variable {first next last : Stage} {frames : List Frame} {cause : ExpansionError}

/-- The work becomes smaller with each step. -/
theorem Enters.sizeOf_lt (h : Enters limit first frames next) :
    sizeOf next.task < sizeOf first.task := by
  have hmem : ∀ {α : Type} (before after : List α) (a : α), a ∈ before ++ a :: after :=
    fun before after a => List.mem_append_right before List.mem_cons_self
  cases h with
  | object => simp
  | array => simp
  | @field b s u before after key template vs hbefore =>
    have hlt := List.sizeOf_lt_of_mem (hmem before after (key, template))
    simp only [Prod.mk.sizeOf_spec] at hlt
    simp only [Task.template.sizeOf_spec, Task.fields.sizeOf_spec]
    omega
  | @plain b s u before after template vs hbefore =>
    have hlt := List.sizeOf_lt_of_mem (hmem before after (.plain template))
    simp only [Template.Item.plain.sizeOf_spec] at hlt
    simp only [Task.template.sizeOf_spec, Task.items.sizeOf_spec]
    omega
  | @conditional b s u before after condition body vs hbefore =>
    have hlt := List.sizeOf_lt_of_mem (hmem before after (.conditional condition body))
    simp only [Template.Item.conditional.sizeOf_spec] at hlt
    simp only [Task.body.sizeOf_spec, Task.items.sizeOf_spec, Option.some.sizeOf_spec]
    omega
  | @ranges b s u before after descriptors condition body vs hbefore =>
    have hlt := List.sizeOf_lt_of_mem (hmem before after (.loop descriptors condition body))
    simp only [Template.Item.loop.sizeOf_spec] at hlt
    simp only [Task.ranges.sizeOf_spec, Task.items.sizeOf_spec]
    omega
  | @choice b s u v w before after descriptors condition body vs found earlier later choice ws =>
    have hlt := List.sizeOf_lt_of_mem (hmem before after (.loop descriptors condition body))
    simp only [Template.Item.loop.sizeOf_spec] at hlt
    simp only [Task.body.sizeOf_spec, Task.items.sizeOf_spec]
    omega
  | @kept b s u condition fields hkept => cases condition <;> simp

/-- **An expansion fails exactly when it arrives at an evaluation that fails**, and the error is the
cause with the frames of the way around it. -/
theorem Stage.fails_iff :
    first.Fails limit e t ↔
      ∃ frames last cause, Arrives limit first frames last ∧ Stops limit last cause t ∧
        e = around frames cause := by
  constructor
  · intro h
    induction hsize : sizeOf first.task using Nat.strong_induction_on generalizing first e with
    | _ n ih =>
      rcases fails_iff_stops_or_enters.mp h with hstops | ⟨frames, next, cause, henters, hnext, rfl⟩
      · exact ⟨[], first, e, .here first, hstops, rfl⟩
      · obtain ⟨frames', last, cause, harrives, hstops, rfl⟩ :=
          ih _ (hsize ▸ henters.sizeOf_lt) hnext rfl
        exact ⟨frames ++ frames', last, cause, .step henters harrives, hstops,
          (around_append frames frames' cause).symm⟩
  · rintro ⟨frames, last, cause, harrives, hstops, rfl⟩
    induction harrives with
    | here stage => exact fails_iff_stops_or_enters.mpr (.inl hstops)
    | step henters _ ih =>
      exact fails_iff_stops_or_enters.mpr
        (.inr ⟨_, _, _, henters, ih hstops, around_append ..⟩)

/-- The bindings of the last frame are those that the work goes on with. -/
theorem Arrives.scope_eq (h : Arrives limit first frames last) :
    (frames.getLast?.map Frame.scope).getD first.scope = last.scope := by
  induction h with
  | here stage => rfl
  | @step first next last frames frames' henters _ ih =>
    rw [← ih, List.getLast?_append]
    cases henters <;> cases frames'.getLast? <;> rfl

/-- The elements of an array are entered by a frame. -/
theorem Arrives.frames_ne_nil {items : List Template.Item}
    (h : Arrives limit ⟨b, s, .items items⟩ frames last) (hstops : Stops limit last cause t) :
    frames ≠ [] := by
  cases h with
  | here stage => cases hstops
  | step henters _ => cases henters <;> exact List.cons_ne_nil _ _

end Expansion

end OpticScene
