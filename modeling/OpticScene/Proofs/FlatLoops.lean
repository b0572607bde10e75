import Mathlib.Data.List.ReduceOption
import OpticScene.Json.Printer
import OpticScene.Proofs.LoopLimit

/-!
# Loops as lists

A loop over several ranges is expanded as loops inside one another, each binding its variable and
going on with the next.  Here the same loop is one list: that of all choices of a value for every
variable, the first variable changing last.  An array is then its elements put together from left to
right, and the expansion of templates is the only function that reads texts and objects as it does
and arrays in this way.

## Main definitions

* `Expansion.choices` — the choices of a value for every variable, in order.
* `Bindings.layered` — the bindings with a layer for each variable of a choice.
* `Expansion.chosen`, `Expansion.fieldsBy`, `Expansion.itemBy`, `Expansion.itemsBy` — what bodies,
  objects, elements and arrays stand for, given the values of templates.
* `Expansion.Interprets` — the values of templates are those of their parts put together.

## Main results

* `Bindings.find?_scope_layered` — of several variables with one name, expressions see the last one.
* `Expansion.mem_choices_iff` — the choices are all those of a value for every variable.
* `Expansion.product_eq_mapM` — **loops inside one another are one list of choices.**
* `Expansion.expandItems_eq_itemsBy` — arrays are expanded element by element and choice by choice,
  and nothing else does it.
-/

namespace OpticScene

open OpticScene.Random (Draws)

/-! ### Layers -/

namespace Bindings

/-- The bindings with one more layer for each variable of a choice. -/
def layered (b : Bindings) (choice : Named Float) : Bindings :=
  choice.foldl (fun b (name, x) => b.nested.insert name (.ofFloat x)) b

theorem layered_nil (b : Bindings) : b.layered [] = b := rfl

theorem layered_cons (b : Bindings) (name : String) (x : Float) (choice : Named Float) :
    b.layered ((name, x) :: choice) = (b.nested.insert name (.ofFloat x)).layered choice := rfl

theorem toList_layered (b : Bindings) (choice : Named Float) :
    (b.layered choice).toList = b.toList ++ choice.map fun (name, x) => (name, .ofFloat x) := by
  induction choice generalizing b with
  | nil => exact (List.append_nil _).symm
  | cons entry choice ih =>
    obtain ⟨name, x⟩ := entry
    have hlayer : (b.nested.insert name (.ofFloat x)).toList =
        b.toList ++ [(name, Json.ofFloat x)] := by
      simp [toList, layers, nested, insert, Named.set]
    rw [layered_cons, ih, hlayer, List.map_cons, List.append_assoc]
    rfl

end Bindings

theorem Expr.Scope.find?_append (name : String) (scope scope' : Scope) :
    Scope.find? name (scope ++ scope') =
      (Scope.find? name scope').or (Scope.find? name scope) := by
  induction scope with
  | nil => simp [find?]
  | cons entry scope ih =>
    obtain ⟨k, v⟩ := entry
    rw [List.cons_append, find?, find?, ih]
    cases find? name scope' <;> cases find? name scope <;> rfl

/-- Of several values with one name, converted one by one, the last one counts. -/
theorem Expr.Scope.find?_map {α : Type} (f : α → Value) (name : String) (entries : Named α) :
    Scope.find? name (entries.map fun e => (e.1, f e.2)) =
      (Named.get? name entries.reverse).map f := by
  induction entries using List.reverseRecOn with
  | nil => rfl
  | append_singleton entries entry ih =>
    obtain ⟨k, a⟩ := entry
    rw [List.map_append, find?_append, List.reverse_append, ih]
    by_cases h : k = name <;> simp [find?, Named.get?, h]

/-- **Of several variables with one name, expressions see the last one**, and it hides what the name
stands for outside. -/
theorem Bindings.find?_scope_layered (b : Bindings) (choice : Named Float) (name : String) :
    Expr.Scope.find? name (Expression.scope (b.layered choice)) =
      ((Named.get? name choice.reverse).map fun x => Expr.Value.ofJson (.ofFloat x)).or
        (Expr.Scope.find? name (Expression.scope b)) := by
  have hscope : Expression.scope (b.layered choice) = Expression.scope b ++
      choice.map fun e => (e.1, Expr.Value.ofJson (.ofFloat e.2)) := by
    rw [Expression.scope, toList_layered, List.map_append, ← List.append_assoc]
    simp [Expression.scope, Function.comp_def]
  rw [hscope, Expr.Scope.find?_append,
    Expr.Scope.find?_map fun x => Expr.Value.ofJson (.ofFloat x)]

namespace Expansion

variable {ε α β γ : Type}

/-! ### Choices -/

/-- All choices of a value for every variable.  The first variable changes last. -/
def choices : List Axis → List (Named Float)
  | [] => [[]]
  | (name, values) :: rest => values.flatMap fun x => (choices rest).map ((name, x) :: ·)

/-- The choices are all those of a value for every variable. -/
theorem mem_choices_iff {axes : List Axis} {choice : Named Float} :
    choice ∈ choices axes ↔
      List.Forall₂ (fun entry axis => entry.1 = axis.1 ∧ entry.2 ∈ axis.2) choice axes := by
  induction axes generalizing choice with
  | nil => simp [choices]
  | cons axis axes ih =>
    obtain ⟨name, values⟩ := axis
    cases choice with
    | nil => simp [choices]
    | cons entry choice =>
      obtain ⟨k, x⟩ := entry
      simp only [choices, List.mem_flatMap, List.mem_map, List.cons.injEq, Prod.mk.injEq,
        List.forall₂_cons, ← ih]
      constructor
      · rintro ⟨_, hx, _, hchoice, ⟨rfl, rfl⟩, rfl⟩
        exact ⟨⟨rfl, hx⟩, hchoice⟩
      · rintro ⟨⟨rfl, hx⟩, hchoice⟩
        exact ⟨x, hx, choice, hchoice, ⟨rfl, rfl⟩, rfl⟩

theorem collect_eq_mapM (f : α → Draws ε (List β)) (as : List α) :
    collect f as = List.flatten <$> as.mapM f := by
  induction as with
  | nil => simp [collect]
  | cons a as ih => simp [collect, ih]

theorem mapM_flatMap_eq (f : β → Draws ε γ) (g : α → List β) (as : List α) :
    (as.flatMap g).mapM f = List.flatten <$> as.mapM fun a => (g a).mapM f := by
  induction as with
  | nil => simp
  | cons a as ih => simp [List.mapM_append, ih]

theorem mapM_map_eq (f : α → Draws ε β) (g : β → γ) (as : List α) :
    (as.mapM fun a => g <$> f a) = List.map g <$> as.mapM f := by
  induction as with
  | nil => simp
  | cons a as ih => simp [ih]

/-- **Loops inside one another are one list of choices.** -/
theorem product_eq_mapM (body : Bindings → Draws ε (List β)) (axes : List Axis) (b : Bindings) :
    product body b axes =
      List.flatten <$> (choices axes).mapM fun choice => body (b.layered choice) := by
  induction axes generalizing b with
  | nil => simp [product, choices, Bindings.layered_nil]
  | cons axis axes ih =>
    obtain ⟨name, values⟩ := axis
    -- inside one value of the first variable, the rest is a loop in a layer of its own
    have hrest : ∀ x : Float, product body (b.nested.insert name (.ofFloat x)) axes =
        List.flatten <$> ((choices axes).map ((name, x) :: ·)).mapM fun choice =>
          body (b.layered choice) := by
      intro x
      rw [ih, List.mapM_map]
      rfl
    rw [product, collect_eq_mapM, choices, mapM_flatMap_eq]
    simp only [hrest, mapM_map_eq, Functor.map_map, List.flatten_flatten]

/-! ### Loops -/

theorem parseRanges_eq_mapM (b : Bindings) (descriptors : List String) :
    parseRanges b descriptors =
      descriptors.mapM fun descriptor => (Range.parse b descriptor).adapt .range := by
  induction descriptors with
  | nil => rfl
  | cons descriptor descriptors ih => simp [parseRanges, ih]

/-- The values of an accepted loop are all values of its ranges. -/
theorem axes_eq {limit : Nat} (h : limit < Range.maxCount) (b : Bindings)
    (descriptors : List String) :
    axes limit b descriptors = do
      let ranges ← descriptors.mapM fun descriptor => (Range.parse b descriptor).adapt .range
      (checkTotal limit 1 ranges).mapError ExpansionError.loop
      return ranges.map fun range => (range.name, range.values) := by
  rw [axes, parseRanges_eq_mapM]
  refine bind_congr fun ranges => ?_
  rcases hc : checkTotal limit 1 ranges with e | ⟨⟩
  · rfl
  -- no range goes beyond the limit, so stopping one value behind it cuts nothing off
  · have hvalues : ∀ range ∈ ranges,
        (range.name, range.first (min (limit + 1) Range.maxCount)) =
          (range.name, range.values) := by
      intro range hrange
      have hsize := size_le_of_checkTotal h hc range hrange
      rw [min_eq_left (Nat.succ_le_of_lt h), Range.first_eq_values (hsize.trans _)]
      exact_mod_cast Nat.le_succ limit
    rw [List.map_congr_left hvalues]

/-! ### Parts put together -/

section

variable (value : Bindings → Template → Draws ExpansionError Json)

/-- The fields of an object: the values of their templates from left to right. -/
def fieldsBy (b : Bindings) (fields : ObjectTemplate) :
    Draws ExpansionError (List (String × Json)) :=
  fields.mapM fun (key, template) => do return (key, ← inField key b (value b template))

/-- The object of a body, if the condition holds. -/
def chosen (condition : Option String) (body : ObjectTemplate) (b : Bindings) :
    Draws ExpansionError (Option Json) := do
  if ← holds b condition then return some (.object (← fieldsBy value b body)) else return none

/-- The elements that an item of an array stands for: one value, the object of a body if the
condition holds, or the objects of a body for all choices for which it holds.  The ranges of a loop
are read with the bindings around it. -/
noncomputable def itemBy (limit : Nat) (b : Bindings) (index : Nat) :
    Template.Item → Draws ExpansionError (List Json)
  | .plain template => do return [← inElement index b (value b template)]
  | .conditional condition body => do
    return (← inElement index b (chosen value (some condition) body b)).toList
  | .loop descriptors condition body => do
    let axes ← inElement index b do
      let ranges ← descriptors.mapM fun descriptor => (Range.parse b descriptor).adapt .range
      (checkTotal limit 1 ranges).mapError ExpansionError.loop
      return ranges.map fun range => (range.name, range.values)
    let found ← (choices axes).mapM fun choice =>
      inElement index (b.layered choice) (chosen value condition body (b.layered choice))
    return found.reduceOption

/-- The elements of an array: those of its items from left to right. -/
noncomputable def itemsBy (limit : Nat) (b : Bindings) (items : List Template.Item) :
    Draws ExpansionError (List Json) := do
  return (← items.zipIdx.mapM fun (item, index) => itemBy value limit b index item).flatten

/-- The values of templates are those of their parts put together. -/
structure Interprets (limit : Nat) : Prop where
  /-- Texts are evaluated. -/
  text : ∀ b template, value b (.text template) = expandText b template
  /-- A number stands for itself. -/
  number : ∀ b n, value b (.number n) = pure (.number n)
  /-- A truth value stands for itself. -/
  bool : ∀ b v, value b (.bool v) = pure (.bool v)
  /-- So does the absent value. -/
  null : ∀ b, value b .null = pure .null
  /-- An object has the values of its fields. -/
  object : ∀ b fields, value b (.object fields) = Json.object <$> fieldsBy value b fields
  /-- An array has the elements of its items. -/
  array : ∀ b items, value b (.array items) = Json.array <$> itemsBy value limit b items

/-- The templates that an item of an array is made of. -/
def parts : Template.Item → List Template
  | .plain template => [template]
  | .loop _ _ body => body.map Prod.snd
  | .conditional _ body => body.map Prod.snd

end

section

variable {value : Bindings → Template → Draws ExpansionError Json} {limit : Nat}

theorem fieldsBy_eq {fields : ObjectTemplate}
    (hv : ∀ template ∈ fields.map Prod.snd, ∀ b, value b template = expand limit b template)
    (b : Bindings) : fieldsBy value b fields = expandFields limit b fields := by
  induction fields with
  | nil => rw [expandFields]; rfl
  | cons field fields ih =>
    obtain ⟨key, template⟩ := field
    rw [List.map_cons, List.forall_mem_cons] at hv
    obtain ⟨hfirst, hrest⟩ := hv
    have hfields := ih hrest
    unfold fieldsBy at hfields ⊢
    rw [expandFields, List.mapM_cons, hfields]
    dsimp only at hfirst ⊢
    rw [hfirst]
    simp

theorem inElement_map (index : Nat) (b : Bindings) (f : α → β) (x : Draws ExpansionError α) :
    inElement index b (f <$> x) = f <$> inElement index b x := by
  refine ExceptT.ext (funext fun s => ?_)
  rw [← bind_pure_comp, ← bind_pure_comp, inElement, inElement, run_adapt, run_bind, run_bind,
    run_adapt]
  obtain ⟨e | a, t⟩ := ExceptT.run x s <;> rfl

theorem chosen_eq {body : ObjectTemplate}
    (hv : ∀ template ∈ body.map Prod.snd, ∀ b, value b template = expand limit b template)
    (condition : Option String) (b : Bindings) :
    (do
      if ← holds b condition then return [Json.object (← expandFields limit b body)]
      else return []) = Option.toList <$> chosen value condition body b := by
  simp only [chosen, fieldsBy_eq hv, map_bind]
  refine bind_congr fun kept => ?_
  cases kept <;> simp

theorem flatten_map_toList (found : List (Option α)) :
    (found.map Option.toList).flatten = found.reduceOption := by
  induction found with
  | nil => rfl
  | cons a found ih => cases a <;> simp [ih]

theorem itemBy_eq (h : limit < Range.maxCount) {item : Template.Item}
    (hv : ∀ template ∈ parts item, ∀ b, value b template = expand limit b template)
    (b : Bindings) (index : Nat) :
    itemBy value limit b index item = expandItem limit b index item := by
  cases item with
  | plain template =>
    rw [itemBy, expandItem, hv template (List.mem_singleton_self template)]
  | conditional condition body =>
    rw [itemBy, expandItem, chosen_eq hv, inElement_map]
    simp
  | loop descriptors condition body =>
    rw [itemBy, expandItem, axes_eq h]
    refine bind_congr fun axes => ?_
    simp only [product_eq_mapM, chosen_eq hv, inElement_map, mapM_map_eq, Functor.map_map,
      flatten_map_toList]
    simp

theorem itemsBy_eq (h : limit < Range.maxCount) {items : List Template.Item}
    (hv : ∀ item ∈ items, ∀ template ∈ parts item, ∀ b, value b template = expand limit b template)
    (b : Bindings) : itemsBy value limit b items = expandItems limit b 0 items := by
  -- the items that are left have the indices from `index` on
  suffices hfrom : ∀ index,
      (do return (← (items.zipIdx index).mapM fun (item, index) =>
        itemBy value limit b index item).flatten) = expandItems limit b index items from hfrom 0
  induction items with
  | nil => intro index; rw [expandItems]; simp
  | cons item items ih =>
    intro index
    rw [List.forall_mem_cons] at hv
    rw [expandItems, List.zipIdx_cons, List.mapM_cons, ← ih hv.2]
    dsimp only
    rw [itemBy_eq h hv.1]
    simp

/-- The expansion of templates puts the values of their parts together. -/
theorem interprets_expand (h : limit < Range.maxCount) : Interprets (expand limit) limit where
  text b template := by rw [expand]
  number b n := by rw [expand]
  bool b v := by rw [expand]
  null b := by rw [expand]
  object b fields := by
    rw [expand, fieldsBy_eq fun _ _ _ => rfl]
    simp
  array b items := by
    rw [expand, itemsBy_eq h fun _ _ _ _ _ => rfl]
    simp

/-! That no other function does so is an induction over templates.  An object goes down to its
fields, an array to its items, and an item to the templates that it is made of. -/

mutual

theorem Interprets.eq_expand (hv : Interprets value limit) (h : limit < Range.maxCount) :
    ∀ (template : Template) (b : Bindings), value b template = expand limit b template
  | .text template, b => by rw [hv.text, expand]
  | .number n, b => by rw [hv.number, expand]
  | .bool v, b => by rw [hv.bool, expand]
  | .null, b => by rw [hv.null, expand]
  | .object fields, b => by
    rw [hv.object, fieldsBy_eq (hv.eq_expand_field h fields), expand]
    simp
  | .array items, b => by
    rw [hv.array, itemsBy_eq h (hv.eq_expand_item h items), expand]
    simp

theorem Interprets.eq_expand_field (hv : Interprets value limit) (h : limit < Range.maxCount) :
    ∀ fields : ObjectTemplate, ∀ template ∈ fields.map Prod.snd, ∀ b,
      value b template = expand limit b template
  | [], _, hmem, _ => nomatch hmem
  | (_, first) :: fields, template, hmem, b => by
    rcases List.mem_cons.mp hmem with heq | hrest
    · rw [heq]; exact hv.eq_expand h first b
    · exact hv.eq_expand_field h fields template hrest b

theorem Interprets.eq_expand_item (hv : Interprets value limit) (h : limit < Range.maxCount) :
    ∀ items : List Template.Item, ∀ item ∈ items, ∀ template ∈ parts item, ∀ b,
      value b template = expand limit b template
  | [], _, hmem, _, _, _ => nomatch hmem
  | first :: items, item, hmem, template, hpart, b => by
    rcases List.mem_cons.mp hmem with heq | hrest
    · rw [heq] at hpart; exact hv.eq_expand_part h first template hpart b
    · exact hv.eq_expand_item h items item hrest template hpart b

theorem Interprets.eq_expand_part (hv : Interprets value limit) (h : limit < Range.maxCount) :
    ∀ item : Template.Item, ∀ template ∈ parts item, ∀ b,
      value b template = expand limit b template
  | .plain only, template, hpart, b => by
    rw [List.mem_singleton.mp hpart]; exact hv.eq_expand h only b
  | .loop _ _ body, template, hpart, b => hv.eq_expand_field h body template hpart b
  | .conditional _ body, template, hpart, b => hv.eq_expand_field h body template hpart b

end

end

/-- **Arrays are expanded item by item and choice by choice**, in outcome and in draws from the
random stream; the expansion of templates is the only function that puts the values of their parts
together in this way.  The choices of a loop are all those of a value for every variable, and of
several variables with one name the last one counts. -/
theorem expandItems_eq_itemsBy {limit : Nat} (h : limit < Range.maxCount) :
    (∀ b items, expandItems limit b 0 items = itemsBy (expand limit) limit b items) ∧
      Interprets (expand limit) limit ∧
      (∀ value, Interprets value limit → value = expand limit) ∧
      (∀ axes choice, choice ∈ choices axes ↔
        List.Forall₂ (fun entry axis => entry.1 = axis.1 ∧ entry.2 ∈ axis.2) choice axes) ∧
      ∀ (b : Bindings) (choice : Named Float) (name : String),
        Expr.Scope.find? name (Expression.scope (b.layered choice)) =
          ((Named.get? name choice.reverse).map fun x => Expr.Value.ofJson (.ofFloat x)).or
            (Expr.Scope.find? name (Expression.scope b)) := by
  refine ⟨fun b items => ?_, interprets_expand h, fun value hv => ?_,
    fun _ _ => mem_choices_iff, Bindings.find?_scope_layered⟩
  · exact (itemsBy_eq h (fun _ _ _ _ _ => rfl) b).symm
  · funext b template
    exact hv.eq_expand h template b

/-- A loop over two ranges with one name. -/
def shadowed : List Template.Item :=
  [.loop ["i=0:1:1", "i=2:1:3"] none [("v", .text (.expression "i"))]]

theorem itemsBy_shadowed :
    50 < Range.maxCount ∧
      (ExceptT.run (itemsBy (expand 50) 50 .empty shadowed) (.ofSeed 0)).1.toOption.map
        (List.map Json.compact) = some ["\x7b\"v\":2.0\x7d", "\x7b\"v\":3.0\x7d",
          "\x7b\"v\":2.0\x7d", "\x7b\"v\":3.0\x7d"] := by
  have h : 50 < Range.maxCount := by decide
  refine ⟨h, ?_⟩
  rw [← (expandItems_eq_itemsBy h).1]
  decide +kernel

end Expansion

end OpticScene
