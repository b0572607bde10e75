import OpticScene.Proofs.Definition
import OpticScene.Proofs.FiniteFloat

/-!
# Finite values

The numbers of a JSON value are finite, as there is no way to write any other.  What is made from
such values is finite again: a record is read without arithmetic, and while an expression may come
to an infinity on its way, no expression has one for its result.  So whatever the names in a
template stand for, its expansion is finite if the numbers that are written in it are.

## Main definitions

* `Json.isFinite`, `Template.isFinite` — all numbers in a value, or in a template, are finite.
* `Json.FiniteValue` — the values with finite numbers.

## Main results

* `Expression.gives_evaluate` — **the result of an expression is finite.**
* `yields_compileValue`, `Expansion.gives_expand` — a finite value is a finite template, and this
  expands to finite values.
-/

namespace OpticScene

open OpticScene.Random (Gives)

/-! ### Values -/

namespace Json

/-- The number is a finite double. -/
def Number.isFinite (n : Number) : Bool := n.toFloat.isFinite

mutual

/-- All numbers in a value are finite. -/
def isFinite : Json → Bool
  | .null => true
  | .bool _ => true
  | .number n => n.isFinite
  | .string _ => true
  | .array items => allFinite items
  | .object fields => fieldsFinite fields

/-- All numbers in some values are finite. -/
def allFinite : List Json → Bool
  | [] => true
  | v :: vs => isFinite v && allFinite vs

/-- All numbers in named values are finite. -/
def fieldsFinite : List (String × Json) → Bool
  | [] => true
  | (_, v) :: fields => isFinite v && fieldsFinite fields

end

/-- A JSON value with finite numbers only, as it is read from text. -/
structure FiniteValue where
  /-- The value. -/
  val : Json
  /-- All its numbers are finite. -/
  finite : val.isFinite = true

theorem allFinite_eq (vs : List Json) : allFinite vs = vs.all isFinite := by
  induction vs with
  | nil => rw [allFinite, List.all_nil]
  | cons v vs ih => rw [allFinite, List.all_cons, ih]

theorem allFinite_append (vs vs' : List Json) :
    allFinite (vs ++ vs') = (allFinite vs && allFinite vs') := by
  rw [allFinite_eq, allFinite_eq, allFinite_eq, List.all_append]

theorem fieldsFinite_eq (fields : List (String × Json)) :
    fieldsFinite fields = fields.all fun e => e.2.isFinite := by
  induction fields with
  | nil => rw [fieldsFinite, List.all_nil]
  | cons e fields ih => rw [fieldsFinite, List.all_cons, ih]

end Json

/-! ### Expressions -/

namespace Expr.Value

theorem natAbs_bmod_le (n : Int) : (n.bmod (2 ^ 64)).natAbs ≤ 2 ^ 64 := by
  have hlower := Int.le_bmod (x := n) (m := 2 ^ 64) (by decide)
  have hupper := Int.bmod_lt (x := n) (m := 2 ^ 64) (by decide)
  omega

mutual

theorem yields_toJson : ∀ v : Value, Yields (·.isFinite = true) v.toJson
  | .unit => by rw [toJson]; exact .ok rfl
  | .truth _ => by rw [toJson]; exact .ok rfl
  | .int n => by
    rw [toJson]
    exact .ok (isFinite_floatOfInt (natAbs_bmod_le n))
  | .float x => by
    rw [toJson]
    split
    · next h => exact .ok h
    · exact .error _ _
  | .text _ => by rw [toJson]; exact .ok rfl
  | .array items => by
    rw [toJson]
    exact (yields_toItems items).map fun _ h => h
  | .map fields => by
    rw [toJson]
    exact (yields_toFields fields).map fun _ h => h
  | .character _ => by unfold toJson; exact .error _ _
  | .range _ _ _ => by unfold toJson; exact .error _ _
  | .series _ => by unfold toJson; exact .error _ _
  | .function _ _ => by unfold toJson; exact .error _ _

theorem yields_toItems : ∀ vs : List Value, Yields (Json.allFinite · = true) (toItems vs)
  | [] => by rw [toItems]; exact .ok rfl
  | v :: vs => by
    rw [toItems]
    refine (yields_toJson v).bind fun item hitem => (yields_toItems vs).bind fun items hitems => ?_
    exact .ok (by rw [Json.allFinite, hitem, hitems]; rfl)

theorem yields_toFields : ∀ fields : List (String × Value),
    Yields (Json.fieldsFinite · = true) (toFields fields)
  | [] => by rw [toFields]; exact .ok rfl
  | (k, v) :: fields => by
    rw [toFields]
    refine (yields_toJson v).bind fun value hvalue => ?_
    refine (yields_toFields fields).bind fun fields hfields => ?_
    exact .ok (by rw [Json.fieldsFinite, hvalue, hfields]; rfl)

end

end Expr.Value

/-- **The result of an expression is finite**, whatever the names in it stand for. -/
theorem Expression.gives_evaluate (b : Bindings) (s : String) :
    Gives (·.isFinite = true) (evaluate b s) := by
  refine Gives.adapt (.of_bind fun e => .of_bind fun v => ?_) _
  exact .ofExcept (v.yields_toJson.mapError _)

/-! ### Templates -/

mutual

/-- All numbers that are written in a template are finite. -/
def Template.isFinite : Template → Bool
  | .text _ => true
  | .number n => n.isFinite
  | .bool _ => true
  | .null => true
  | .object fields => Template.fieldsFinite fields
  | .array items => Template.itemsFinite items

/-- All numbers that are written in named templates are finite. -/
def Template.fieldsFinite : List (String × Template) → Bool
  | [] => true
  | (_, template) :: fields => Template.isFinite template && Template.fieldsFinite fields

/-- All numbers that are written in the elements of an array are finite. -/
def Template.itemsFinite : List Template.Item → Bool
  | [] => true
  | item :: items => Template.itemFinite item && Template.itemsFinite items

/-- All numbers that are written in an element of an array are finite. -/
def Template.itemFinite : Template.Item → Bool
  | .plain template => Template.isFinite template
  | .loop _ _ body => Template.fieldsFinite body
  | .conditional _ body => Template.fieldsFinite body

end

theorem Template.itemFinite_make (ranges : Option (List String)) (condition : Option String)
    {body : ObjectTemplate} (h : Template.fieldsFinite body = true) :
    Template.itemFinite (Item.make ranges condition body) = true := by
  unfold Item.make
  split <;> exact h

mutual

/-- **A finite value is a finite template.** -/
theorem yields_compileValue : ∀ (v : Json) (path : String), v.isFinite = true →
    Yields (·.isFinite = true) (compileValue path v)
  | .null, _, _ => by rw [compileValue]; exact .ok rfl
  | .bool _, _, _ => by rw [compileValue]; exact .ok rfl
  | .number _, _, h => by rw [compileValue]; exact .ok h
  | .string s, _, _ => by
    rw [compileValue]
    split
    · exact .ok rfl
    · exact .error _ _
  | .array items, path, h => by
    rw [compileValue]
    exact (yields_compileItems items path 0 h).map fun _ h => h
  | .object fields, path, h => by
    rw [compileValue]
    exact (yields_compileFields fields path h).map fun _ h => h

theorem yields_compileFields : ∀ (fields : List (String × Json)) (path : String),
    Json.fieldsFinite fields = true →
      Yields (Template.fieldsFinite · = true) (compileFields path fields)
  | [], _, _ => by rw [compileFields]; exact .ok rfl
  | (key, value) :: fields, path, h => by
    rw [Json.fieldsFinite, Bool.and_eq_true] at h
    have hrest := yields_compileFields fields path h.2
    rw [compileFields]
    split
    · exact hrest
    · refine (yields_compileValue value _ h.1).bind fun template htemplate => ?_
      exact hrest.bind fun rest hrest => .ok (by
        rw [Template.fieldsFinite, htemplate, hrest]; rfl)

theorem yields_compileItems : ∀ (values : List Json) (path : String) (index : Nat),
    Json.allFinite values = true →
      Yields (Template.itemsFinite · = true) (compileItems path index values)
  | [], _, _, _ => by rw [compileItems]; exact .ok rfl
  | value :: values, path, index, h => by
    rw [Json.allFinite, Bool.and_eq_true] at h
    have hrest := yields_compileItems values path (index + 1) h.2
    have hnext : ∀ item, Template.itemFinite item = true →
        Yields (Template.itemsFinite · = true) do
          return item :: (← compileItems path (index + 1) values) := fun item hitem =>
      hrest.bind fun rest hrest => .ok (by rw [Template.itemsFinite, hitem, hrest]; rfl)
    unfold compileItems
    -- an object may be repeated or kept on a condition, which leaves its fields as they are
    cases value with
    | object fields =>
      refine .of_bind fun condition => .of_bind fun ranges => ?_
      refine (yields_compileFields fields _ h.1).bind fun body hbody => ?_
      exact hnext _ (Template.itemFinite_make ranges condition hbody)
    | _ => exact ((yields_compileValue _ _ h.1).map fun _ h => h).bind hnext

end

/-! ### Expansions -/

namespace Expansion

open OpticScene.Random (Draws)

variable {ε α : Type}

theorem gives_inElement {P : α → Prop} {x : Draws ExpansionError α} (h : Gives P x) (index : Nat)
    (b : Bindings) : Gives P (inElement index b x) := h.adapt _

theorem gives_expandText (b : Bindings) (template : TextTemplate) :
    Gives (·.isFinite = true) (expandText b template) := by
  cases template with
  | literal s => exact .pure rfl
  | expression expr => exact (Expression.gives_evaluate b expr).adapt _
  | interpolated segments => exact .of_bind fun _ => .pure rfl

theorem gives_collect {f : α → Draws ε (List Json)}
    (h : ∀ a, Gives (Json.allFinite · = true) (f a)) :
    ∀ as, Gives (Json.allFinite · = true) (collect f as)
  | [] => .pure rfl
  | a :: as => (h a).bind fun vs hvs => (gives_collect h as).bind fun rest hrest => .pure (by
    rw [Json.allFinite_append, hvs, hrest]; rfl)

theorem gives_product {body : Bindings → Draws ε (List Json)}
    (h : ∀ b, Gives (Json.allFinite · = true) (body b)) :
    ∀ (axes : List Axis) (b : Bindings), Gives (Json.allFinite · = true) (product body b axes)
  | [], b => h b
  | _ :: axes, _ => gives_collect (fun _ => gives_product h axes _) _

/-- The body of a loop or of a condition. -/
theorem gives_body (b : Bindings) (condition : Option String)
    {x : Draws ExpansionError (List (String × Json))} (hx : Gives (Json.fieldsFinite · = true) x) :
    Gives (Json.allFinite · = true) do
      if ← holds b condition then return [Json.object (← x)]
      else return [] := by
  refine .of_bind fun kept => ?_
  cases kept
  · exact .pure rfl
  · exact hx.bind fun fields hfields => .pure (by rw [Json.allFinite, Json.isFinite, hfields]; rfl)

mutual

/-- **A finite template expands to finite values**, whatever the names in it stand for. -/
theorem gives_expand (limit : Nat) : ∀ (template : Template) (b : Bindings),
    template.isFinite = true → Gives (·.isFinite = true) (expand limit b template)
  | .text template, b, _ => by rw [expand]; exact gives_expandText b template
  | .number _, _, h => by rw [expand]; exact .pure h
  | .bool _, _, _ => by rw [expand]; exact .pure rfl
  | .null, _, _ => by rw [expand]; exact .pure rfl
  | .object fields, b, h => by
    rw [expand]
    exact (gives_expandFields limit fields b h).bind fun _ hfields => .pure hfields
  | .array items, b, h => by
    rw [expand]
    exact (gives_expandItems limit items b 0 h).bind fun _ hitems => .pure hitems

theorem gives_expandFields (limit : Nat) : ∀ (fields : ObjectTemplate) (b : Bindings),
    Template.fieldsFinite fields = true →
      Gives (Json.fieldsFinite · = true) (expandFields limit b fields)
  | [], _, _ => by rw [expandFields]; exact .pure rfl
  | (key, template) :: fields, b, h => by
    rw [Template.fieldsFinite, Bool.and_eq_true] at h
    rw [expandFields]
    refine ((gives_expand limit template b h.1).adapt _).bind fun v hv => ?_
    refine (gives_expandFields limit fields b h.2).bind fun rest hrest => ?_
    exact .pure (by rw [Json.fieldsFinite, hv, hrest]; rfl)

theorem gives_expandItems (limit : Nat) : ∀ (items : List Template.Item) (b : Bindings)
    (index : Nat), Template.itemsFinite items = true →
      Gives (Json.allFinite · = true) (expandItems limit b index items)
  | [], _, _, _ => by rw [expandItems]; exact .pure rfl
  | item :: items, b, index, h => by
    rw [Template.itemsFinite, Bool.and_eq_true] at h
    rw [expandItems]
    refine (gives_expandItem limit item b index h.1).bind fun vs hvs => ?_
    refine (gives_expandItems limit items b (index + 1) h.2).bind fun rest hrest => ?_
    exact .pure (by rw [Json.allFinite_append, hvs, hrest]; rfl)

theorem gives_expandItem (limit : Nat) : ∀ (item : Template.Item) (b : Bindings) (index : Nat),
    Template.itemFinite item = true →
      Gives (Json.allFinite · = true) (expandItem limit b index item)
  | .plain template, b, index, h => by
    rw [expandItem]
    refine (gives_inElement (gives_expand limit template b h) index b).bind fun v hv => ?_
    exact .pure (by rw [Json.allFinite, hv]; rfl)
  | .conditional condition body, b, index, h => by
    rw [expandItem]
    exact gives_inElement (gives_body b condition (gives_expandFields limit body b h)) index b
  | .loop ranges condition body, b, index, h => by
    rw [expandItem]
    refine .of_bind fun axes => gives_product (fun b => ?_) axes b
    exact gives_inElement (gives_body b condition (gives_expandFields limit body b h)) index b

end

end Expansion

end OpticScene
