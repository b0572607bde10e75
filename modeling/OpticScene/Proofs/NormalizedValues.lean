import OpticScene.Proofs.ByteOrder
import OpticScene.Proofs.FiniteNumbers

/-!
# Values after an evaluation

A JSON value that is bound to a name comes back when the name is evaluated, but not always in the
form that it had: its numbers have become doubles, and the fields of its objects are in the order of
their names.  Nothing else happens to it, at any depth, and a value of this form comes back as it
is.

The numbers of a JSON value are finite, and no name stands twice in an object; nothing else is
assumed of a value.

## Main definitions

* `Json.everyObject` — a condition on the names of all objects in a value.
* `Json.hasDistinctNames`, `Json.hasIncreasingNames` — no name stands twice, or the names increase.
* `Json.ProperValue` — the values that can be read from text.
* `Json.normalized` — the value with doubles for numbers and its fields in order.

## Main results

* `Json.everyObject_normalized` — the names in a normalized value are the sorted names.
* `Json.normalized_normalized` — **a normalized value has its final form.**
* `Expr.Value.toFields_insertField` — a field of a map comes to its place in an object.
* `Expr.Value.toJson_ofJson` — **a value comes back normalized.**
* `Expr.Value.only_normalizes` — and from then on it stays as it is.
-/

namespace OpticScene

namespace Json

/-- Induction on JSON values: what holds of all items of an array holds of the array, and what holds
of all fields of an object holds of the object. -/
@[elab_as_elim]
theorem nestedInduction {motive : Json → Prop} (null : motive .null)
    (bool : ∀ b, motive (.bool b)) (number : ∀ n, motive (.number n))
    (string : ∀ s, motive (.string s))
    (array : ∀ items, (∀ v ∈ items, motive v) → motive (.array items))
    (object : ∀ fields : Named Json, (∀ e ∈ fields, motive e.2) → motive (.object fields))
    (v : Json) : motive v :=
  @Json.rec motive (fun items => ∀ v ∈ items, motive v) (fun fields => ∀ e ∈ fields, motive e.2)
    (fun e => motive e.2) null bool number string array object
    (fun _ h => absurd h List.not_mem_nil)
    (fun _ _ hv hvs => List.forall_mem_cons.mpr ⟨hv, hvs⟩)
    (fun _ h => absurd h List.not_mem_nil)
    (fun _ _ he hfields => List.forall_mem_cons.mpr ⟨he, hfields⟩)
    (fun _ _ hv => hv) v

/-! ### Names -/

mutual

/-- A condition holds of the names of every object in a value. -/
def everyObject (p : List String → Bool) : Json → Bool
  | .null => true
  | .bool _ => true
  | .number _ => true
  | .string _ => true
  | .array items => itemsEvery p items
  | .object fields => p (Named.names fields) && fieldsEvery p fields

/-- A condition holds of the names of every object in some values. -/
def itemsEvery (p : List String → Bool) : List Json → Bool
  | [] => true
  | v :: vs => everyObject p v && itemsEvery p vs

/-- A condition holds of the names of every object in named values. -/
def fieldsEvery (p : List String → Bool) : Named Json → Bool
  | [] => true
  | (_, v) :: fields => everyObject p v && fieldsEvery p fields

end

/-- No name stands twice in an object. -/
def hasDistinctNames (v : Json) : Bool := v.everyObject fun names => decide names.Nodup

/-- The names in every object increase by their bytes. -/
def hasIncreasingNames (v : Json) : Bool :=
  v.everyObject fun names => decide (names.Pairwise fun k l => Text.bytes k < Text.bytes l)

theorem everyObject_array {p : List String → Bool} {items : List Json} :
    everyObject p (.array items) = true ↔ ∀ v ∈ items, everyObject p v = true := by
  have hall : itemsEvery p items = items.all (everyObject p) := by
    induction items with
    | nil => rw [itemsEvery, List.all_nil]
    | cons v vs ih => rw [itemsEvery, List.all_cons, ih]
  rw [everyObject, hall, List.all_eq_true]

theorem everyObject_object {p : List String → Bool} {fields : Named Json} :
    everyObject p (.object fields) = true ↔
      p (Named.names fields) = true ∧ ∀ e ∈ fields, everyObject p e.2 = true := by
  have hall : fieldsEvery p fields = fields.all fun e => everyObject p e.2 := by
    induction fields with
    | nil => rw [fieldsEvery, List.all_nil]
    | cons e fields ih => rw [fieldsEvery, List.all_cons, ih]
  rw [everyObject, Bool.and_eq_true, hall, List.all_eq_true]

/-! ### Normalized values -/

mutual

/-- The value with doubles for its numbers, and with the fields of its objects in the order of their
names. -/
def normalized : Json → Json
  | .null => .null
  | .bool b => .bool b
  | .number n => .number (.float n.toFloat)
  | .string s => .string s
  | .array items => .array (normalizedItems items)
  | .object fields => .object (Named.inByteOrder (normalizedFields fields))

/-- The items of an array, each of them normalized. -/
def normalizedItems : List Json → List Json
  | [] => []
  | v :: vs => normalized v :: normalizedItems vs

/-- Named values, each of them normalized. -/
def normalizedFields : Named Json → Named Json
  | [] => []
  | (k, v) :: fields => (k, normalized v) :: normalizedFields fields

end

theorem normalized_array (items : List Json) :
    normalized (.array items) = .array (items.map normalized) := by
  have hmap : normalizedItems items = items.map normalized := by
    induction items with
    | nil => rw [normalizedItems, List.map_nil]
    | cons v vs ih => rw [normalizedItems, List.map_cons, ih]
  rw [normalized, hmap]

theorem normalized_object (fields : Named Json) :
    normalized (.object fields) =
      .object (Named.inByteOrder (fields.map fun e => (e.1, e.2.normalized))) := by
  have hmap : normalizedFields fields = fields.map fun e => (e.1, e.2.normalized) := by
    induction fields with
    | nil => rw [normalizedFields, List.map_nil]
    | cons e fields ih => rw [normalizedFields, List.map_cons, ih]
  rw [normalized, hmap]

/-- Entries whose values are changed each on its own have the same names in order. -/
theorem names_inByteOrder_map (f : Json → Json) (fields : Named Json) :
    Named.names (Named.inByteOrder (fields.map fun e => (e.1, f e.2))) =
      (Named.names fields).insertionSort Text.IsNotAfter := by
  rw [Named.names_inByteOrder, Named.names_map fun _ v => f v]

/-- **What is true of sorted names is true of the names in a normalized value.** -/
theorem everyObject_normalized {p q : List String → Bool}
    (hsort : ∀ names, p names = true → q (names.insertionSort Text.IsNotAfter) = true) {v : Json}
    (h : v.everyObject p = true) : v.normalized.everyObject q = true := by
  induction v using nestedInduction with
  | null | bool | number | string => rw [normalized]; rfl
  | array items ih =>
    rw [everyObject_array] at h
    rw [normalized_array, everyObject_array]
    intro w hw
    obtain ⟨v, hv, rfl⟩ := List.mem_map.mp hw
    exact ih v hv (h v hv)
  | object fields ih =>
    obtain ⟨hnames, hfields⟩ := everyObject_object.mp h
    rw [normalized_object, everyObject_object, names_inByteOrder_map]
    refine ⟨hsort _ hnames, fun f hf => ?_⟩
    obtain ⟨e, he, rfl⟩ := List.mem_map.mp ((Named.perm_inByteOrder _).mem_iff.mp hf)
    exact ih e he (hfields e he)

/-- A JSON value as it is read from text: its numbers are finite, and no name stands twice in an
object. -/
structure ProperValue extends FiniteValue where
  /-- No name stands twice. -/
  distinct : val.hasDistinctNames = true

theorem hasDistinctNames_normalized {v : Json} (h : v.hasDistinctNames = true) :
    v.normalized.hasDistinctNames = true := by
  refine everyObject_normalized (fun names hnames => ?_) h
  have hperm := List.perm_insertionSort Text.IsNotAfter names
  rw [decide_eq_true_eq] at hnames ⊢
  exact hperm.nodup_iff.mpr hnames

/-- **The names in a normalized value increase.** -/
theorem hasIncreasingNames_normalized {v : Json} (h : v.hasDistinctNames = true) :
    v.normalized.hasIncreasingNames = true := by
  refine everyObject_normalized (fun names hnames => ?_) h
  have hperm := List.perm_insertionSort Text.IsNotAfter names
  rw [decide_eq_true_eq] at hnames ⊢
  exact Text.pairwise_lt_of_nodup (List.pairwise_insertionSort _ names)
    (hperm.nodup_iff.mpr hnames)

/-- **A normalized value has its final form.** -/
theorem normalized_normalized (v : Json) : v.normalized.normalized = v.normalized := by
  induction v using nestedInduction with
  | null | bool | string => rw [normalized, normalized]
  | number n => rw [normalized, normalized]; rfl
  | array items ih =>
    have hitems : ∀ v ∈ items, (normalized ∘ normalized) v = normalized v := ih
    rw [normalized_array, normalized_array, List.map_map, List.map_congr_left hitems]
  | object fields ih =>
    have hfields : ∀ f ∈ Named.inByteOrder (fields.map fun e => (e.1, e.2.normalized)),
        (f.1, f.2.normalized) = id f := by
      intro f hf
      obtain ⟨e, he, rfl⟩ := List.mem_map.mp ((Named.perm_inByteOrder _).mem_iff.mp hf)
      rw [ih e he]
      rfl
    rw [normalized_object, normalized_object, List.map_congr_left hfields, List.map_id,
      Named.inByteOrder_eq_self]
    rw [names_inByteOrder_map]
    exact List.pairwise_insertionSort _ _

end Json

namespace Expr.Value

/-! ### Fields of maps -/

theorem mem_names_insertField {k l : String} {v : Value} {fields : Named Value} :
    l ∈ Named.names (insertField k v fields) ↔ l = k ∨ l ∈ Named.names fields := by
  induction fields with
  | nil => exact Named.mem_names_cons
  | cons e fields ih =>
    obtain ⟨k', v'⟩ := e
    rw [insertField]
    split_ifs with hlt heq
    · exact Named.mem_names_cons
    · subst heq
      rw [Named.mem_names_cons, Named.mem_names_cons, or_self_left]
    · rw [Named.mem_names_cons, Named.mem_names_cons]
      exact (or_congr_right ih).trans or_left_comm

/-- No name is lost. -/
theorem mem_names_ofFields {k : String} {fields : Named Json} :
    k ∈ Named.names (ofFields fields) ↔ k ∈ Named.names fields := by
  induction fields with
  | nil => rw [ofFields]; rfl
  | cons e fields ih =>
    obtain ⟨k', v⟩ := e
    rw [Named.mem_names_cons, ← ih, ofFields]
    split
    · next hk' =>
      rw [Named.contains_iff] at hk'
      exact ⟨.inr, fun h => h.elim (fun heq => heq ▸ hk') id⟩
    · exact mem_names_insertField

/-- **A field of a map comes to its place in an object.** -/
theorem toFields_insertField {k : String} {v : Value} {w : Json} {fields : Named Value}
    {given : Named Json} (hv : v.toJson = .ok w) (hfields : toFields fields = .ok given)
    (hk : k ∉ Named.names fields) :
    toFields (insertField k v fields) = .ok (Named.place k w given) := by
  induction fields generalizing given with
  | nil =>
    rw [toFields] at hfields
    cases hfields
    rw [insertField, toFields, hv, toFields]
    rfl
  | cons e fields ih =>
    obtain ⟨k', v'⟩ := e
    obtain ⟨hne, hk⟩ : k ≠ k' ∧ k ∉ Named.names fields := 
      not_or.mp (mt Named.mem_names_cons.mpr hk)
    have hstep := hfields
    rw [toFields] at hstep
    obtain ⟨w', hv', hstep⟩ := bind_eq_ok.mp hstep
    obtain ⟨rest, hrest, hstep⟩ := bind_eq_ok.mp hstep
    cases hstep
    rw [insertField]
    by_cases hlt : k < k'
    · rw [if_pos hlt, Named.place_cons_of_lt hlt, toFields, hv, hfields]
      rfl
    · rw [if_neg hlt, if_neg hne, Named.place_cons_of_not_lt hlt hne, toFields, hv', ih hrest hk]
      rfl

/-- Fields whose values come back as `f` tells come back in order. -/
theorem toFields_ofFields {f : Json → Json} {fields : Named Json}
    (hfields : ∀ e ∈ fields, (ofJson e.2).toJson = .ok (f e.2))
    (hnodup : (Named.names fields).Nodup) :
    toFields (ofFields fields) = .ok (Named.inByteOrder (fields.map fun e => (e.1, f e.2))) := by
  induction fields with
  | nil => rw [ofFields, toFields]; rfl
  | cons e fields ih =>
    obtain ⟨k, v⟩ := e
    obtain ⟨hv, hfields⟩ := List.forall_mem_cons.mp hfields
    obtain ⟨hk, hnodup⟩ := List.nodup_cons.mp hnodup
    have hnew : k ∉ Named.names (ofFields fields) := fun hmem => hk (mem_names_ofFields.mp hmem)
    have hother : ¬ Named.contains k (ofFields fields) = true :=
      fun hc => hnew ((Named.contains_iff k _).mp hc)
    rw [ofFields, if_neg hother, List.map_cons, Named.inByteOrder_cons]
    exact toFields_insertField hv (ih hfields hnodup) hnew

/-- Items that come back as `f` tells come back in the same order. -/
theorem toItems_ofItems {f : Json → Json} {items : List Json}
    (hitems : ∀ v ∈ items, (ofJson v).toJson = .ok (f v)) :
    toItems (ofItems items) = .ok (items.map f) := by
  induction items with
  | nil => rw [ofItems, toItems]; rfl
  | cons v vs ih =>
    obtain ⟨hv, hvs⟩ := List.forall_mem_cons.mp hitems
    rw [ofItems, toItems, hv, ih hvs]
    rfl

/-! ### Values that come back -/

/-- **A value comes back normalized.** -/
theorem toJson_ofJson {v : Json} (hfinite : v.isFinite = true)
    (hdistinct : v.hasDistinctNames = true) : (ofJson v).toJson = .ok v.normalized := by
  induction v using Json.nestedInduction with
  | null | bool | string => rw [ofJson, toJson, Json.normalized]
  | number n =>
    have hn : n.toFloat.isFinite = true := hfinite
    rw [ofJson, toJson, Json.normalized, if_pos hn]
  | array items ih =>
    rw [Json.isFinite, Json.allFinite_eq, List.all_eq_true] at hfinite
    have hitems := Json.everyObject_array.mp hdistinct
    have hback : ∀ v ∈ items, (ofJson v).toJson = .ok v.normalized :=
      fun v hv => ih v hv (hfinite v hv) (hitems v hv)
    rw [ofJson, toJson, Json.normalized_array, toItems_ofItems hback]
    rfl
  | object fields ih =>
    rw [Json.isFinite, Json.fieldsFinite_eq, List.all_eq_true] at hfinite
    obtain ⟨hnames, hfields⟩ := Json.everyObject_object.mp hdistinct
    have hback : ∀ e ∈ fields, (ofJson e.2).toJson = .ok e.2.normalized :=
      fun e he => ih e he (hfinite e he) (hfields e he)
    rw [ofJson, toJson, Json.normalized_object,
      toFields_ofFields hback (of_decide_eq_true hnames)]
    rfl

/-- **Values that pass through the evaluator are normalized, and nothing else happens to them.**
Each value comes back with doubles for its numbers and its fields in the order of the bytes of their
names; all else stays.  What came back once comes back as it is. -/
theorem only_normalizes (v : Json.ProperValue) :
    (ofJson v.val).toJson = .ok v.val.normalized ∧
    v.val.normalized.hasIncreasingNames = true ∧
    (ofJson v.val.normalized).toJson = .ok v.val.normalized := by
  have hback := toJson_ofJson v.finite v.distinct
  have hfinal : v.val.normalized.isFinite = true := yields_toJson (ofJson v.val) _ hback
  have hagain := toJson_ofJson hfinal (Json.hasDistinctNames_normalized v.distinct)
  rw [Json.normalized_normalized] at hagain
  exact ⟨hback, Json.hasIncreasingNames_normalized v.distinct, hagain⟩

/-- A value with fields that are not in order, at two depths, and with whole numbers. -/
def mixedRecord : Json :=
  .object
    [("é", .ofInt 3),
      ("b", .array [.null, .ofFloat 0.5, .object [("z", .bool true), ("a", .string "ü")]]),
      ("B", .ofInt (-1))]

theorem only_normalizes_mixedRecord :
    (ofJson mixedRecord).toJson = .ok mixedRecord.normalized ∧
    mixedRecord.normalized.hasIncreasingNames = true ∧
    (ofJson mixedRecord.normalized).toJson = .ok mixedRecord.normalized ∧
    mixedRecord.normalized = .object
      [("B", .number (.float (-1.0))),
        ("b", .array [.null, .ofFloat 0.5, .object [("a", .string "ü"), ("z", .bool true)]]),
        ("é", .number (.float 3.0))] := by
  obtain ⟨hback, hnames, hagain⟩ := only_normalizes ⟨⟨mixedRecord, by decide⟩, by decide⟩
  exact ⟨hback, hnames, hagain, by rfl⟩

end Expr.Value

end OpticScene
