import OpticScene.Proofs.TickedText

/-!
# What a template may be

Reading a value as a template comes past some places where not every value may stand: texts, in
which back-ticks have to stand in pairs, and in the elements of arrays the condition and the ranges,
which have to be texts.  The keys `for` and `if` of all other objects are passed over.  A value is a
template when nothing is wrong at any of these places, and otherwise the first one where something
is wrong is reported.

## Main definitions

* `Json.Step`, `placePath` — a step into a value, and the path that several steps are written as.
* `Json.Site` — what stands at a place that is looked at, with `Json.Site.IsSound`.
* `Json.Reaches` — reading a value as a template comes past a place.
* `Json.sites` — all these places in the order in which they are looked at.

## Main results

* `Json.mem_sites_iff` — the places in the list are those that are reached.
* `failure?_compileValue` — **the first place where something is wrong is reported.**
* `Template.compile_eq_ok_iff_sound` — which values are templates, and what is reported for others.
-/

namespace OpticScene

/-- The keys that say when an element of an array is repeated or kept. -/
def isControl (key : String) : Bool := key = forKey || key = ifKey

/-! ### Places -/

namespace Json

/-- A step into a value. -/
inductive Step where
  /-- To the value of a key. -/
  | key (name : String)
  /-- To the element with an index. -/
  | index (i : Nat)
  deriving Repr, DecidableEq, Inhabited

/-- The path behind a step. -/
def Step.extend (path : String) : Step → String
  | .key name => fieldPath path name
  | .index i => itemPath path i

/-- The path behind several steps. -/
def placePath (path : String) (place : List Step) : String := place.foldl Step.extend path

/-- What stands at a place that is looked at. -/
inductive Site where
  /-- A text, which may hold expressions. -/
  | text (s : String)
  /-- What an element of an array is kept on. -/
  | condition (v : Json)
  /-- What an element of an array is repeated over. -/
  | ranges (v : Json)
  /-- One of several ranges. -/
  | descriptor (v : Json)

namespace Site

/-- Nothing is wrong: the back-ticks of a text stand in pairs around expressions, a condition and
each range is a text, and the ranges may also be a list. -/
def IsSound : Site → Prop
  | .text s => Text.IsTicked s
  | .condition v => ∃ s, v = .string s
  | .ranges v => (∃ s, v = .string s) ∨ ∃ vs, v = .array vs
  | .descriptor v => ∃ s, v = .string s

/-- What is reported about a place where something is wrong. -/
def fault : Site → TemplateCause
  | .text s => TextTemplate.fault s
  | .condition v => .conditionKind v.kindName
  | .ranges v => .rangesKind v.kindName
  | .descriptor v => .descriptorKind v.kindName

instance : DecidablePred IsSound
  | .text s => inferInstanceAs (Decidable (Text.IsTicked s))
  | .condition v | .descriptor v =>
    decidable_of_iff (v.toString?.isSome = true) (by cases v <;> simp [toString?, IsSound])
  | .ranges v =>
    decidable_of_iff (v.toString?.isSome = true ∨ v.kindName = "an array") (by
      cases v <;> simp [toString?, IsSound, kindName])

end Site

/-- Reading a value as a template comes past a place.  It goes into the elements of arrays and into
the fields of objects other than `for` and `if`; these two matter in the elements of an array. -/
inductive Reaches : Json → List Step → Site → Prop
  /-- A text. -/
  | text (s : String) : Reaches (.string s) [] (.text s)
  /-- A place in a field. -/
  | field {fields : List (String × Json)} {key : String} {v : Json} {place : List Step}
    {site : Site} :
    (key, v) ∈ fields → isControl key = false → Reaches v place site →
      Reaches (.object fields) (.key key :: place) site
  /-- A place in an element. -/
  | item {items : List Json} {i : Nat} {v : Json} {place : List Step} {site : Site} :
    items[i]? = some v → Reaches v place site → Reaches (.array items) (.index i :: place) site
  /-- The condition of an element. -/
  | condition {items : List Json} {i : Nat} {fields : List (String × Json)} {v : Json} :
    items[i]? = some (.object fields) → Named.get? ifKey fields = some v →
      Reaches (.array items) [.index i, .key ifKey] (.condition v)
  /-- The ranges of an element. -/
  | ranges {items : List Json} {i : Nat} {fields : List (String × Json)} {v : Json} :
    items[i]? = some (.object fields) → Named.get? forKey fields = some v →
      Reaches (.array items) [.index i, .key forKey] (.ranges v)
  /-- One of several ranges of an element. -/
  | descriptor {items : List Json} {i j : Nat} {fields : List (String × Json)} {vs : List Json}
    {v : Json} :
    items[i]? = some (.object fields) → Named.get? forKey fields = some (.array vs) →
      vs[j]? = some v → Reaches (.array items) [.index i, .key forKey, .index j] (.descriptor v)

/-! ### The order of places -/

/-- Places seen from one step further out. -/
def under (step : Step) (sites : List (List Step × Site)) : List (List Step × Site) :=
  sites.map fun entry => (step :: entry.1, entry.2)

/-- The places in a list of ranges, from the one with the given index on. -/
def descriptorSites (index : Nat) (vs : List Json) : List (List Step × Site) :=
  (vs.zipIdx index).map fun entry => ([.index entry.2], .descriptor entry.1)

/-- The places in what an element is repeated over: the value itself, then the ranges in a list. -/
def rangesSites (v : Json) : List (List Step × Site) :=
  ([], .ranges v) ::
    match v with
    | .array vs => descriptorSites 0 vs
    | _ => []

/-- The places that matter only in an element of an array: the condition, then the ranges. -/
def controlSites : Json → List (List Step × Site)
  | .object fields =>
    ((Named.get? ifKey fields).toList.map fun v => ([.key ifKey], .condition v)) ++
      (Named.get? forKey fields).toList.flatMap fun v => under (.key forKey) (rangesSites v)
  | _ => []

mutual

/-- The places of a value: the elements of arrays and the fields of objects come in their order, and
in an element of an array the condition and the ranges come before the other fields. -/
def sites : Json → List (List Step × Site)
  | .null => []
  | .bool _ => []
  | .number _ => []
  | .string s => [([], .text s)]
  | .array items => itemSites 0 items
  | .object fields => fieldSites fields

/-- The places in fields other than `for` and `if`. -/
def fieldSites : List (String × Json) → List (List Step × Site)
  | [] => []
  | (key, v) :: fields =>
    (if isControl key then [] else under (.key key) (sites v)) ++ fieldSites fields

/-- The places in the elements of an array, from the one with the given index on. -/
def itemSites (index : Nat) : List Json → List (List Step × Site)
  | [] => []
  | v :: vs => under (.index index) (controlSites v ++ sites v) ++ itemSites (index + 1) vs

end

section

variable {place : List Step} {site : Site}

theorem mem_under_iff {step : Step} {entries : List (List Step × Site)} :
    (place, site) ∈ under step entries ↔ ∃ rest, place = step :: rest ∧ (rest, site) ∈ entries := by
  simp only [under, List.mem_map, Prod.mk.injEq, Prod.exists]
  constructor
  · rintro ⟨rest, _, h, rfl, rfl⟩
    exact ⟨rest, rfl, h⟩
  · rintro ⟨rest, rfl, h⟩
    exact ⟨rest, site, h, rfl, rfl⟩

theorem mem_descriptorSites_iff {vs : List Json} :
    (place, site) ∈ descriptorSites 0 vs ↔
      ∃ j v, vs[j]? = some v ∧ place = [.index j] ∧ site = .descriptor v := by
  simp only [descriptorSites, List.mem_map, List.mem_zipIdx_iff_getElem?, Prod.mk.injEq,
    Prod.exists]
  constructor
  · rintro ⟨v, j, hv, rfl, rfl⟩
    exact ⟨j, v, hv, rfl, rfl⟩
  · rintro ⟨j, v, hv, rfl, rfl⟩
    exact ⟨v, j, hv, rfl, rfl⟩

theorem mem_rangesSites_iff {v : Json} :
    (place, site) ∈ rangesSites v ↔ (place = [] ∧ site = .ranges v) ∨
      ∃ vs j w, v = .array vs ∧ vs[j]? = some w ∧ place = [.index j] ∧ site = .descriptor w := by
  unfold rangesSites
  rw [List.mem_cons, Prod.mk.injEq]
  refine or_congr_right ?_
  cases v with
  | array vs =>
    rw [mem_descriptorSites_iff]
    simp
  | _ => simp

theorem fieldSites_eq (fields : List (String × Json)) :
    fieldSites fields = fields.flatMap fun e =>
      if isControl e.1 then [] else under (.key e.1) (sites e.2) := by
  induction fields with
  | nil => rw [fieldSites, List.flatMap_nil]
  | cons e fields ih => rw [fieldSites, List.flatMap_cons, ih]

theorem mem_fieldSites_iff {fields : List (String × Json)} :
    (place, site) ∈ fieldSites fields ↔ ∃ key v rest, (key, v) ∈ fields ∧
      isControl key = false ∧ place = .key key :: rest ∧ (rest, site) ∈ sites v := by
  simp only [fieldSites_eq, List.mem_flatMap, Prod.exists]
  refine exists_congr fun key => exists_congr fun v => ?_
  cases isControl key <;> simp [mem_under_iff]

theorem itemSites_eq (index : Nat) (items : List Json) :
    itemSites index items = (items.zipIdx index).flatMap fun entry =>
      under (.index entry.2) (controlSites entry.1 ++ sites entry.1) := by
  induction items generalizing index with
  | nil => rw [itemSites, List.zipIdx_nil, List.flatMap_nil]
  | cons v items ih => rw [itemSites, List.zipIdx_cons, List.flatMap_cons, ih]

theorem mem_itemSites_iff {items : List Json} :
    (place, site) ∈ itemSites 0 items ↔ ∃ i v rest, items[i]? = some v ∧
      place = .index i :: rest ∧ ((rest, site) ∈ controlSites v ∨ (rest, site) ∈ sites v) := by
  simp only [itemSites_eq, List.mem_flatMap, List.mem_zipIdx_iff_getElem?, mem_under_iff,
    List.mem_append, Prod.exists]
  constructor
  · rintro ⟨v, i, hv, rest, rfl, h⟩
    exact ⟨i, v, rest, hv, rfl, h⟩
  · rintro ⟨i, v, rest, hv, rfl, h⟩
    exact ⟨v, i, hv, rest, rfl, h⟩

theorem mem_controlSites_iff {v : Json} :
    (place, site) ∈ controlSites v ↔ ∃ fields, v = .object fields ∧
      ((∃ w, Named.get? ifKey fields = some w ∧ place = [.key ifKey] ∧ site = .condition w) ∨
        ∃ w rest, Named.get? forKey fields = some w ∧ place = .key forKey :: rest ∧
          (rest, site) ∈ rangesSites w) := by
  unfold controlSites
  cases v with
  | object fields => simp [mem_under_iff, @eq_comm _ place, @eq_comm _ site]
  | _ => simp

/-- The places of a value are reached, as each step into the value is one step less to go. -/
theorem Reaches.of_mem_sites {v : Json} {place : List Step} (h : (place, site) ∈ sites v) :
    v.Reaches place site := by
  unfold sites at h
  cases v with
  | string s =>
    cases List.mem_singleton.mp h
    exact .text s
  | array items =>
    obtain ⟨i, v, rest, hi, rfl, hcontrol | hrest⟩ := mem_itemSites_iff.mp h
    · obtain ⟨fields, rfl, ⟨w, hget, rfl, rfl⟩ | ⟨w, rest, hget, rfl, hranges⟩⟩ :=
        mem_controlSites_iff.mp hcontrol
      · exact .condition hi hget
      · obtain ⟨rfl, rfl⟩ | ⟨vs, j, d, rfl, hj, rfl, rfl⟩ := mem_rangesSites_iff.mp hranges
        · exact .ranges hi hget
        · exact .descriptor hi hget hj
    · exact .item hi (Reaches.of_mem_sites hrest)
  | object fields =>
    obtain ⟨key, v, rest, hmem, hkey, rfl, hrest⟩ := mem_fieldSites_iff.mp h
    exact .field hmem hkey (Reaches.of_mem_sites hrest)
  | _ => cases h
termination_by place.length

/-- **The places in the list are those that are reached.** -/
theorem mem_sites_iff {v : Json} : (place, site) ∈ sites v ↔ v.Reaches place site := by
  refine ⟨Reaches.of_mem_sites, fun h => ?_⟩
  induction h with
  | text s => rw [sites]; exact List.mem_singleton_self _
  | field hmem hkey _ ih =>
    rw [sites]
    exact mem_fieldSites_iff.mpr ⟨_, _, _, hmem, hkey, rfl, ih⟩
  | item hi _ ih =>
    rw [sites]
    exact mem_itemSites_iff.mpr ⟨_, _, _, hi, rfl, .inr ih⟩
  | condition hi hget =>
    rw [sites]
    have hcontrol := mem_controlSites_iff.mpr ⟨_, rfl, .inl ⟨_, hget, rfl, rfl⟩⟩
    exact mem_itemSites_iff.mpr ⟨_, _, _, hi, rfl, .inl hcontrol⟩
  | ranges hi hget =>
    rw [sites]
    have hcontrol := mem_controlSites_iff.mpr
      ⟨_, rfl, .inr ⟨_, _, hget, rfl, mem_rangesSites_iff.mpr (.inl ⟨rfl, rfl⟩)⟩⟩
    exact mem_itemSites_iff.mpr ⟨_, _, _, hi, rfl, .inl hcontrol⟩
  | descriptor hi hget hj =>
    rw [sites]
    have hranges := mem_rangesSites_iff.mpr (.inr ⟨_, _, _, rfl, hj, rfl, rfl⟩)
    have hcontrol := mem_controlSites_iff.mpr ⟨_, rfl, .inr ⟨_, _, hget, rfl, hranges⟩⟩
    exact mem_itemSites_iff.mpr ⟨_, _, _, hi, rfl, .inl hcontrol⟩

end

/-! ### The first place where something is wrong -/

/-- The error about the first place where something is wrong. -/
def firstFault (path : String) (entries : List (List Step × Site)) : Option TemplateError :=
  entries.findSome? fun entry =>
    if entry.2.IsSound then none else some ⟨placePath path entry.1, entry.2.fault⟩

theorem firstFault_nil (path : String) : firstFault path [] = none := rfl

theorem firstFault_append (path : String) (entries entries' : List (List Step × Site)) :
    firstFault path (entries ++ entries') =
      (firstFault path entries).or (firstFault path entries') := List.findSome?_append

theorem firstFault_cons (path : String) (place : List Step) (site : Site)
    (entries : List (List Step × Site)) :
    firstFault path ((place, site) :: entries) =
      if site.IsSound then firstFault path entries
      else some ⟨placePath path place, site.fault⟩ := by
  unfold firstFault
  rw [List.findSome?_cons]
  by_cases h : site.IsSound
  · rw [if_pos h, if_pos h]
  · rw [if_neg h, if_neg h]

theorem firstFault_under (path : String) (step : Step) (entries : List (List Step × Site)) :
    firstFault path (under step entries) = firstFault (step.extend path) entries := by
  unfold firstFault under
  rw [List.findSome?_map]
  rfl

theorem firstFault_eq_none_iff {path : String} {entries : List (List Step × Site)} :
    firstFault path entries = none ↔ ∀ entry ∈ entries, entry.2.IsSound := by
  simp [firstFault]

theorem firstFault_eq_some_iff {path : String} {entries : List (List Step × Site)}
    {e : TemplateError} :
    firstFault path entries = some e ↔ ∃ before place site after,
      entries = before ++ (place, site) :: after ∧ (∀ entry ∈ before, entry.2.IsSound) ∧
        ¬ site.IsSound ∧ e = ⟨placePath path place, site.fault⟩ := by
  unfold firstFault
  rw [List.findSome?_eq_some_iff]
  constructor
  · rintro ⟨before, ⟨place, site⟩, after, rfl, hfault, hsound⟩
    split at hfault
    · cases hfault
    · next hsite =>
      refine ⟨before, place, site, after, rfl, fun entry hentry => ?_, hsite,
        (Option.some.inj hfault).symm⟩
      by_contra hnot
      have hnone := hsound entry hentry
      rw [if_neg hnot] at hnone
      cases hnone
  · rintro ⟨before, place, site, after, rfl, hsound, hsite, rfl⟩
    exact ⟨before, (place, site), after, rfl, if_neg hsite, fun entry hentry =>
      if_pos (hsound entry hentry)⟩

end Json

/-! ### Compiling -/

section

variable {ε α β : Type}

/-- The error of an outcome. -/
def failure? : Except ε α → Option ε
  | .ok _ => none
  | .error e => some e

theorem failure?_eq_some_iff {x : Except ε α} {e : ε} : failure? x = some e ↔ x = .error e := by
  cases x <;> simp [failure?]

theorem failure?_eq_none_iff {x : Except ε α} : failure? x = none ↔ ∃ a, x = .ok a := by
  cases x <;> simp [failure?]

theorem failure?_map (f : α → β) (x : Except ε α) : failure? (x.map f) = failure? x := by
  cases x <;> rfl

theorem failure?_bind_pure (x : Except ε α) (f : α → β) :
    failure? (x >>= fun a => pure (f a)) = failure? x := by
  cases x <;> rfl

/-- The first of two errors counts. -/
theorem failure?_bind {x : Except ε α} {f : α → Except ε β} {e : Option ε}
    (h : ∀ a, failure? (f a) = e) : failure? (x >>= f) = (failure? x).or e := by
  cases x with
  | error => rfl
  | ok a => exact h a

end

open Json

theorem compileFields_cons (path key : String) (v : Json) (fields : List (String × Json)) :
    compileFields path ((key, v) :: fields) =
      if isControl key then compileFields path fields
      else do
        let template ← compileValue (fieldPath path key) v
        return (key, template) :: (← compileFields path fields) := by
  rw [compileFields]
  rfl

/-- The template of an element of an array. -/
def compileItem (path : String) : Json → Except TemplateError Template.Item
  | .object fields => do
    let condition ← compileCondition path fields
    let ranges ← compileRanges path fields
    let body ← compileFields path fields
    return .make ranges condition body
  | v => (compileValue path v).map .plain

theorem compileItems_cons (path : String) (index : Nat) (v : Json) (vs : List Json) :
    compileItems path index (v :: vs) = do
      let item ← compileItem (itemPath path index) v
      return item :: (← compileItems path (index + 1) vs) := by
  unfold compileItem
  conv_lhs => unfold compileItems
  cases v with
  | object fields => simp only [bind_assoc, pure_bind]
  | _ => rfl

theorem failure?_compileCondition (path : String) (fields : List (String × Json)) :
    failure? (compileCondition path fields) = firstFault path
      ((Named.get? ifKey fields).toList.map fun v => ([.key ifKey], .condition v)) := by
  unfold compileCondition
  rcases Named.get? ifKey fields with _ | v
  · rfl
  · rw [Option.toList_some, List.map_singleton, firstFault_cons]
    cases v with
    | string s => exact (if_pos ⟨s, rfl⟩).symm
    | _ => exact (if_neg fun ⟨_, h⟩ => nomatch h).symm

theorem failure?_compileDescriptors (path : String) (index : Nat) (vs : List Json) :
    failure? (compileDescriptors path index vs) =
      firstFault (fieldPath path forKey) (descriptorSites index vs) := by
  induction vs generalizing index with
  | nil => rfl
  | cons v vs ih =>
    rw [descriptorSites, List.zipIdx_cons, List.map_cons, firstFault_cons, ← descriptorSites, ← ih]
    cases v with
    | string s =>
      have hsound : Site.IsSound (.descriptor (.string s)) := ⟨s, rfl⟩
      rw [compileDescriptors, failure?_bind_pure, if_pos hsound]
    | _ =>
      conv_lhs => unfold compileDescriptors
      exact (if_neg fun ⟨_, h⟩ => nomatch h).symm

theorem failure?_compileRanges (path : String) (fields : List (String × Json)) :
    failure? (compileRanges path fields) = firstFault path
      ((Named.get? forKey fields).toList.flatMap fun v => under (.key forKey) (rangesSites v)) := by
  unfold compileRanges
  rcases Named.get? forKey fields with _ | v
  · rfl
  · rw [Option.toList_some, List.flatMap_singleton, firstFault_under]
    unfold rangesSites
    rw [firstFault_cons]
    cases v with
    | string s => exact (if_pos (.inl ⟨s, rfl⟩)).symm
    | array vs =>
      rw [if_pos (.inr ⟨vs, rfl⟩)]
      exact (failure?_map _ _).trans (failure?_compileDescriptors path 0 vs)
    | _ => exact (if_neg fun h => h.elim (fun ⟨_, h⟩ => nomatch h) fun ⟨_, h⟩ => nomatch h).symm

theorem failure?_compileText (path s : String) :
    failure? (compileValue path (.string s)) = firstFault path (sites (.string s)) := by
  rw [compileValue, sites, firstFault_cons, TextTemplate.compile_eq]
  by_cases h : Text.IsTicked s
  · rw [if_pos h, if_pos (show Site.IsSound (.text s) from h)]
    rfl
  · rw [if_neg h, if_neg (show ¬ Site.IsSound (.text s) from h)]
    rfl

mutual

/-- **The first place where something is wrong is reported.** -/
theorem failure?_compileValue : ∀ (v : Json) (path : String),
    failure? (compileValue path v) = firstFault path (sites v)
  | .null, _ => by rw [compileValue, sites]; rfl
  | .bool _, _ => by rw [compileValue, sites]; rfl
  | .number _, _ => by rw [compileValue, sites]; rfl
  | .string s, path => failure?_compileText path s
  | .array items, path => by
    rw [compileValue, sites, failure?_map, failure?_compileItems items path 0]
  | .object fields, path => by
    rw [compileValue, sites, failure?_map, failure?_compileFields fields path]

theorem failure?_compileFields : ∀ (fields : List (String × Json)) (path : String),
    failure? (compileFields path fields) = firstFault path (fieldSites fields)
  | [], _ => by rw [compileFields, fieldSites]; rfl
  | (key, v) :: fields, path => by
    have hrest := failure?_compileFields fields path
    rw [compileFields_cons, fieldSites, firstFault_append, ← hrest]
    by_cases hkey : isControl key = true
    · rw [if_pos hkey, if_pos hkey, firstFault_nil, Option.none_or]
    · rw [if_neg hkey, if_neg hkey, firstFault_under,
        failure?_bind fun _ => failure?_bind_pure _ _, failure?_compileValue v]
      rfl

theorem failure?_compileItems : ∀ (values : List Json) (path : String) (index : Nat),
    failure? (compileItems path index values) = firstFault path (itemSites index values)
  | [], _, _ => by rw [compileItems, itemSites]; rfl
  | v :: values, path, index => by
    have hvalue := failure?_compileValue v (itemPath path index)
    have hrest := failure?_compileItems values path (index + 1)
    rw [itemSites, firstFault_append, ← hrest, firstFault_under, firstFault_append,
      compileItems_cons, failure?_bind fun _ => failure?_bind_pure _ _]
    refine congrArg (Option.or · _) ?_
    -- the condition and the ranges are looked at only if the element is an object
    cases v with
    | object fields =>
      have hfields := failure?_compileFields fields (itemPath path index)
      rw [compileItem, failure?_bind fun _ => failure?_bind fun _ => failure?_bind_pure _ _,
        failure?_compileCondition, failure?_compileRanges, hfields, controlSites, firstFault_append,
        sites, Option.or_assoc]
      rfl
    | _ => exact (failure?_map _ _).trans hvalue

end

/-- **A value is a template exactly when nothing is wrong at any place that is reached**; otherwise
the first of these places where something is wrong is reported, with the path that leads to it. -/
theorem Template.compile_eq_ok_iff_sound (v : Json) :
    ((∃ template, compile v = .ok template) ↔ ∀ place site, v.Reaches place site → site.IsSound) ∧
      (∀ e, compile v = .error e ↔ ∃ before place site after,
        v.sites = before ++ (place, site) :: after ∧ (∀ earlier ∈ before, earlier.2.IsSound) ∧
          ¬ site.IsSound ∧ e = ⟨placePath rootPath place, site.fault⟩) ∧
      ∀ place site, (place, site) ∈ v.sites ↔ v.Reaches place site := by
  have hfailure : failure? (compile v) = firstFault rootPath v.sites :=
    failure?_compileValue v rootPath
  refine ⟨?_, fun e => ?_, fun _ _ => mem_sites_iff⟩
  · rw [← failure?_eq_none_iff, hfailure, firstFault_eq_none_iff]
    constructor
    · exact fun h place site hreach => h _ (mem_sites_iff.mpr hreach)
    · exact fun h entry hentry => h entry.1 entry.2 (mem_sites_iff.mp hentry)
  · rw [← failure?_eq_some_iff, hfailure, firstFault_eq_some_iff]

/-- The condition of an element is looked at first, wherever it stands. -/
example : Template.compile (.array [.object [("x", .string "\x60"), ("if", .null)]]) =
    .error ⟨"$[0].if", .conditionKind "null"⟩ := by
  rfl

end OpticScene
