import OpticScene.Expansion.Basic
import OpticScene.Proofs.Draws
import OpticScene.Proofs.TemplateGrammar

/-!
# Plain data in templates

A value without expressions, loops and conditions is a template of itself.  Only the keys `for` and
`if` cannot be written in this way: in an element of an array they are a loop or a condition, and in
all other objects they are left out.

## Main definitions

* `Json.withoutControls` — a value without the keys `for` and `if` of its objects.
* `Json.isPlain` — no text has a back-tick, and no element of an array has a key `for` or `if`.
* `Template.quote` — the template in which all parts of a value stand for themselves.

## Main results

* `compileValue_of_isPlain` — **plain data is quoted.**
* `Expansion.expand_quote` — **a quotation expands to what is quoted.**
* `Template.expand_of_isPlain` — plain data expands to itself without its keys `for` and `if`.
-/

namespace OpticScene

open OpticScene.Random (Stream)

/-! ### Plain values -/

namespace Json

mutual

/-- The value without the keys `for` and `if` of its objects, at every depth. -/
def withoutControls : Json → Json
  | .null => .null
  | .bool b => .bool b
  | .number n => .number n
  | .string s => .string s
  | .array items => .array (itemsWithoutControls items)
  | .object fields => .object (fieldsWithoutControls fields)

/-- Fields without the keys `for` and `if`, their own and those inside. -/
def fieldsWithoutControls : List (String × Json) → List (String × Json)
  | [] => []
  | (key, v) :: fields =>
    if isControl key then fieldsWithoutControls fields
    else (key, withoutControls v) :: fieldsWithoutControls fields

/-- Values without the keys `for` and `if` of their objects. -/
def itemsWithoutControls : List Json → List Json
  | [] => []
  | v :: vs => withoutControls v :: itemsWithoutControls vs

end

/-- All other fields keep their keys and their order. -/
theorem fieldsWithoutControls_eq (fields : List (String × Json)) :
    fieldsWithoutControls fields =
      (fields.filter fun e => !isControl e.1).map fun e => (e.1, e.2.withoutControls) := by
  induction fields with
  | nil => rw [fieldsWithoutControls, List.filter_nil, List.map_nil]
  | cons e fields ih =>
    rw [fieldsWithoutControls, ih, List.filter_cons]
    cases isControl e.1 <;> rfl

theorem itemsWithoutControls_eq (items : List Json) :
    itemsWithoutControls items = items.map withoutControls := by
  induction items with
  | nil => rw [itemsWithoutControls, List.map_nil]
  | cons v items ih => rw [itemsWithoutControls, ih, List.map_cons]

/-- No key of an object says when it is repeated or kept. -/
def isFree : Json → Bool
  | .object fields => fields.all fun e => !isControl e.1
  | _ => true

mutual

/-- No text in the value has a back-tick, and no object that is an element of an array has a key
`for` or `if`.  What such a key holds in any other object does not matter. -/
def isPlain : Json → Bool
  | .null => true
  | .bool _ => true
  | .number _ => true
  | .string s => !s.toList.contains '\x60'
  | .array items => itemsPlain items
  | .object fields => fieldsPlain fields

/-- Fields are plain, except for those that are left out. -/
def fieldsPlain : List (String × Json) → Bool
  | [] => true
  | (key, v) :: fields => (isControl key || isPlain v) && fieldsPlain fields

/-- The elements of an array are plain. -/
def itemsPlain : List Json → Bool
  | [] => true
  | v :: vs => v.isFree && isPlain v && itemsPlain vs

end

end Json

/-! ### Quotations -/

mutual

/-- The template in which all parts of a value stand for themselves. -/
def Template.quote : Json → Template
  | .null => .null
  | .bool b => .bool b
  | .number n => .number n
  | .string s => .text (.literal s)
  | .array items => .array (Template.quoteItems items)
  | .object fields => .object (Template.quoteFields fields)

/-- The templates in which fields stand for themselves. -/
def Template.quoteFields : List (String × Json) → ObjectTemplate
  | [] => []
  | (key, v) :: fields => (key, Template.quote v) :: Template.quoteFields fields

/-- The templates in which elements of an array stand for themselves. -/
def Template.quoteItems : List Json → List Template.Item
  | [] => []
  | v :: vs => .plain (Template.quote v) :: Template.quoteItems vs

end

namespace Expansion

open OpticScene.Random (Draws)

theorem inField_pure (key : String) (b : Bindings) (v : Json) : inField key b (pure v) = pure v :=
  rfl

theorem inElement_pure (index : Nat) (b : Bindings) (v : Json) :
    inElement index b (pure v) = pure v := rfl

mutual

/-- **A quotation expands to what is quoted**, without draws. -/
theorem expand_quote (limit : Nat) (b : Bindings) : ∀ v : Json,
    expand limit b (.quote v) = pure v
  | .null => by rw [Template.quote, expand]
  | .bool _ => by rw [Template.quote, expand]
  | .number _ => by rw [Template.quote, expand]
  | .string _ => by rw [Template.quote, expand]; rfl
  | .array items => by
    rw [Template.quote, expand, expandItems_quoteItems limit b items 0, pure_bind]
  | .object fields => by
    rw [Template.quote, expand, expandFields_quoteFields limit b fields, pure_bind]

theorem expandFields_quoteFields (limit : Nat) (b : Bindings) : ∀ fields : List (String × Json),
    expandFields limit b (Template.quoteFields fields) = pure fields
  | [] => by rw [Template.quoteFields, expandFields]
  | (key, v) :: fields => by
    rw [Template.quoteFields, expandFields, expand_quote limit b v, inField_pure, pure_bind,
      expandFields_quoteFields limit b fields, pure_bind]

theorem expandItems_quoteItems (limit : Nat) (b : Bindings) : ∀ (items : List Json) (index : Nat),
    expandItems limit b index (Template.quoteItems items) = pure items
  | [], _ => by rw [Template.quoteItems, expandItems]
  | v :: vs, index => by
    rw [Template.quoteItems, expandItems, expandItem, expand_quote limit b v, inElement_pure,
      pure_bind, pure_bind, expandItems_quoteItems limit b vs (index + 1), pure_bind]
    rfl

end

end Expansion

/-! ### Compiling -/

/-- A key that says when an element is repeated or kept has no value where there is none. -/
theorem get?_of_isFree {fields : List (String × Json)} (h : (Json.object fields).isFree = true)
    {key : String} (hkey : isControl key = true) : Named.get? key fields = none := by
  refine Named.get?_eq_none fun hmem => ?_
  obtain ⟨e, he, rfl⟩ := List.mem_map.mp hmem
  have hfree := List.all_eq_true.mp h e he
  rw [hkey] at hfree
  cases hfree

/-- An element without a condition and ranges is a template of its own. -/
theorem compileItem_of_isFree (path : String) {v : Json} (h : v.isFree = true) :
    compileItem path v = (compileValue path v).map .plain := by
  unfold compileItem
  cases v with
  | object fields =>
    have hif : compileCondition path fields = .ok none := by
      rw [compileCondition, get?_of_isFree h (by decide)]
    have hfor : compileRanges path fields = .ok none := by
      rw [compileRanges, get?_of_isFree h (by decide)]
    dsimp only
    rw [hif, hfor, compileValue]
    cases compileFields path fields <;> rfl
  | _ => rfl

mutual

/-- **Plain data is quoted.** -/
theorem compileValue_of_isPlain : ∀ (v : Json) (path : String), v.isPlain = true →
    compileValue path v = .ok (.quote v.withoutControls)
  | .null, _, _ => by rw [compileValue, Json.withoutControls, Template.quote]
  | .bool _, _, _ => by rw [compileValue, Json.withoutControls, Template.quote]
  | .number _, _, _ => by rw [compileValue, Json.withoutControls, Template.quote]
  | .string s, path, h => by
    rw [Json.isPlain, Bool.not_eq_true', List.contains_eq_mem, decide_eq_false_iff_not] at h
    rw [compileValue, TextTemplate.compile_of_not_mem h, Json.withoutControls, Template.quote]
  | .array items, path, h => by
    rw [compileValue, compileItems_of_itemsPlain items path 0 h, Json.withoutControls,
      Template.quote]
    rfl
  | .object fields, path, h => by
    rw [compileValue, compileFields_of_fieldsPlain fields path h, Json.withoutControls,
      Template.quote]
    rfl

theorem compileFields_of_fieldsPlain : ∀ (fields : List (String × Json)) (path : String),
    Json.fieldsPlain fields = true →
      compileFields path fields = .ok (Template.quoteFields (Json.fieldsWithoutControls fields))
  | [], _, _ => by rw [compileFields, Json.fieldsWithoutControls, Template.quoteFields]
  | (key, v) :: fields, path, h => by
    rw [Json.fieldsPlain, Bool.and_eq_true, Bool.or_eq_true] at h
    have hrest := compileFields_of_fieldsPlain fields path h.2
    rw [compileFields_cons, Json.fieldsWithoutControls]
    by_cases hkey : isControl key = true
    · rw [if_pos hkey, if_pos hkey, hrest]
    · have hvalue := compileValue_of_isPlain v (fieldPath path key) (h.1.resolve_left hkey)
      rw [if_neg hkey, if_neg hkey, hvalue, hrest, Template.quoteFields]
      rfl

theorem compileItems_of_itemsPlain : ∀ (items : List Json) (path : String) (index : Nat),
    Json.itemsPlain items = true →
      compileItems path index items = .ok (Template.quoteItems (Json.itemsWithoutControls items))
  | [], _, _, _ => by rw [compileItems, Json.itemsWithoutControls, Template.quoteItems]
  | v :: vs, path, index, h => by
    rw [Json.itemsPlain, Bool.and_eq_true, Bool.and_eq_true] at h
    obtain ⟨⟨hfree, hplain⟩, hplains⟩ := h
    have hvalue := compileValue_of_isPlain v (itemPath path index) hplain
    have hrest := compileItems_of_itemsPlain vs path (index + 1) hplains
    rw [compileItems_cons, compileItem_of_isFree _ hfree, hvalue, hrest,
      Json.itemsWithoutControls, Template.quoteItems]
    rfl

end

namespace Template

/-- **Plain data expands to itself without its keys `for` and `if`**, whatever the names stand for
and however short loops have to be, and nothing is drawn. -/
theorem expand_of_isPlain {v : Json} (h : v.isPlain = true) :
    ∃ template, compile v = .ok template ∧ ∀ (limit : Nat) (b : Bindings) (s : Stream),
      ExceptT.run (Expansion.expand limit b template) s = (.ok v.withoutControls, s) := by
  refine ⟨.quote v.withoutControls, compileValue_of_isPlain v rootPath h, fun limit b s => ?_⟩
  rw [Expansion.expand_quote, run_pure]

/-- A record with a list of values of all kinds. -/
def legend : Json :=
  .object
    [("if", .bool false), ("type", .string "TextLabel"), ("x", .ofInt 3),
      ("y", .number (.float 2.5)),
      ("notes",
        .array
          [.string "", .array [.object [("lost", .null)]],
            .object [("inner", .object [("for", .string "i=0:1:2"), ("z", .bool true)])]])]

theorem expand_of_isPlain_legend :
    legend.isPlain = true ∧ ∃ template, compile legend = .ok template ∧
      ∀ (limit : Nat) (b : Bindings) (s : Stream),
        ExceptT.run (Expansion.expand limit b template) s =
          (.ok (.object
            [("type", .string "TextLabel"), ("x", .ofInt 3), ("y", .number (.float 2.5)),
              ("notes",
                .array
                  [.string "", .array [.object [("lost", .null)]],
                    .object [("inner", .object [("z", .bool true)])]])]), s) := by
  have hplain : legend.isPlain = true := by decide +kernel
  exact ⟨hplain, expand_of_isPlain hplain⟩

end Template

end OpticScene
