/-!
# Named values

Values with names, in the order in which the names came in. A name that is given another value keeps
its place.

## Main definitions

* `Named`: the lists of values with names.
* `Named.get?`, `Named.set`: looking up and giving values.
* `Named.names`: the names in order.
-/

namespace OpticScene

/-- Values with names. -/
abbrev Named (α : Type) := List (String × α)

namespace Named

variable {α : Type}

/-- The value of a name. -/
def get? (name : String) : Named α → Option α
  | [] => none
  | (k, a) :: entries => if k = name then some a else get? name entries

/-- Gives a name a value: in its place if it has one, at the end if not. -/
def set (name : String) (value : α) : Named α → Named α
  | [] => [(name, value)]
  | (k, a) :: entries =>
    if k = name then (k, value) :: entries else (k, a) :: set name value entries

/-- Whether a name has a value. -/
def contains (name : String) (entries : Named α) : Bool := (get? name entries).isSome

/-- The names in order. -/
def names (entries : Named α) : List String := entries.map Prod.fst

@[simp] theorem get?_nil (name : String) : get? name ([] : Named α) = none := rfl

theorem get?_cons (name k : String) (a : α) (entries : Named α) :
    get? name ((k, a) :: entries) = if k = name then some a else get? name entries := rfl

theorem mem_names_cons {name k : String} {a : α} {entries : Named α} :
    name ∈ names ((k, a) :: entries) ↔ name = k ∨ name ∈ names entries :=
  List.mem_cons

/-- What comes first counts. -/
theorem get?_append (name : String) (xs ys : Named α) :
    get? name (xs ++ ys) = (get? name xs).or (get? name ys) := by
  induction xs with
  | nil => rfl
  | cons e xs ih =>
    obtain ⟨k, a⟩ := e
    rw [List.cons_append, get?_cons, get?_cons, ih]
    split <;> rfl

/-- Values that are changed each on its own are found under the same names. -/
theorem get?_map {β : Type} (f : String → α → β) (name : String) (entries : Named α) :
    get? name (entries.map fun e => (e.1, f e.1 e.2) : Named β) =
      (get? name entries).map (f name) := by
  induction entries with
  | nil => rfl
  | cons e entries ih =>
    obtain ⟨k, a⟩ := e
    rw [List.map_cons, get?_cons, get?_cons, ih]
    by_cases hk : k = name
    · rw [if_pos hk, if_pos hk, hk, Option.map_some]
    · rw [if_neg hk, if_neg hk]

/-- Values that are changed each on its own keep their names. -/
theorem names_map {β : Type} (f : String → α → β) (entries : Named α) :
    names (entries.map fun e => (e.1, f e.1 e.2) : Named β) = names entries :=
  List.map_map

/-- A name that was given a value has it, and all other names keep theirs. -/
theorem get?_set (name k : String) (value : α) (entries : Named α) :
    get? k (set name value entries) = if name = k then some value else get? k entries := by
  induction entries with
  | nil => simp [set, get?]
  | cons e entries ih =>
    obtain ⟨k', a⟩ := e
    by_cases h : k' = name
    · subst h
      by_cases hk : k' = k <;> simp [set, get?, hk]
    · by_cases hk : k' = k
      · subst hk
        simp [set, get?, h, Ne.symm h]
      · simp [set, get?, h, hk, ih]

/-- The names stay, and a new one comes last. -/
theorem names_set (name : String) (value : α) (entries : Named α) :
    names (set name value entries) =
      if name ∈ names entries then names entries else names entries ++ [name] := by
  induction entries with
  | nil => simp [set, names]
  | cons e entries ih =>
    obtain ⟨k, a⟩ := e
    by_cases h : k = name
    · simp [set, names, h]
    · simp only [names] at ih
      by_cases hm : name ∈ entries.map Prod.fst <;>
        simp [set, names, h, Ne.symm h, hm, ih]

/-- No name stands twice if none stood twice before. -/
theorem nodup_names_set (name : String) (value : α) {entries : Named α}
    (h : (names entries).Nodup) : (names (set name value entries)).Nodup := by
  rw [names_set]
  split
  · exact h
  · next hnew =>
    rw [List.nodup_append]
    refine ⟨h, List.pairwise_singleton _ _, fun a ha b hb hab => hnew ?_⟩
    rw [← List.mem_singleton.mp hb, ← hab]
    exact ha

/-- The value of a name stands among the entries. -/
theorem mem_of_get?_eq_some {name : String} {entries : Named α} {a : α}
    (h : get? name entries = some a) : (name, a) ∈ entries := by
  induction entries with
  | nil => cases h
  | cons e entries ih =>
    obtain ⟨k, b⟩ := e
    rw [get?_cons] at h
    split at h
    · next hk =>
      cases h
      exact hk ▸ List.mem_cons_self
    · exact List.mem_cons_of_mem _ (ih h)

/-- An entry gives its name a value if no other entry has the name. -/
theorem get?_of_mem {name : String} {entries : Named α} {a : α} (h : (name, a) ∈ entries)
    (hn : (names entries).Nodup) : get? name entries = some a := by
  induction entries with
  | nil => exact absurd h List.not_mem_nil
  | cons e entries ih =>
    obtain ⟨k, b⟩ := e
    obtain ⟨hk, hn⟩ := List.nodup_cons.mp hn
    rw [get?_cons]
    rcases List.mem_cons.mp h with h | h
    · cases h
      exact if_pos rfl
    · have hmem : name ∈ names entries := List.mem_map_of_mem h
      have hne : k ≠ name := fun heq => hk (heq ▸ hmem)
      rw [if_neg hne]
      exact ih h hn

/-- The value of a name is that of the first entry with the name. -/
theorem get?_eq_some_iff_append {name : String} {entries : Named α} {a : α} :
    get? name entries = some a ↔
      ∃ before after, entries = before ++ (name, a) :: after ∧ name ∉ names before := by
  induction entries with
  | nil => simp
  | cons e entries ih =>
    obtain ⟨k, b⟩ := e
    rw [get?_cons]
    by_cases h : k = name
    · rw [if_pos h]
      constructor
      · rintro ⟨⟩
        exact ⟨[], entries, h ▸ rfl, List.not_mem_nil⟩
      · rintro ⟨_ | ⟨e, before⟩, after, heq, hmem⟩
        · cases heq
          rfl
        · cases heq
          exact absurd (List.mem_cons.mpr (.inl h.symm)) hmem
    · rw [if_neg h, ih]
      constructor
      · rintro ⟨before, after, rfl, hmem⟩
        refine ⟨(k, b) :: before, after, rfl, fun hm => ?_⟩
        exact (List.mem_cons.mp hm).elim (fun heq => h heq.symm) hmem
      · rintro ⟨_ | ⟨e, before⟩, after, heq, hmem⟩
        · cases heq
          exact absurd rfl h
        · cases heq
          exact ⟨before, after, rfl, fun hm => hmem (List.mem_cons_of_mem _ hm)⟩

/-- A new name comes last. -/
theorem set_of_not_mem {name : String} {entries : Named α} (h : name ∉ names entries) (value : α) :
    set name value entries = entries ++ [(name, value)] := by
  induction entries with
  | nil => rfl
  | cons e entries ih =>
    obtain ⟨k, b⟩ := e
    obtain ⟨hk, hrest⟩ := not_or.mp fun hm => h (List.mem_cons.mpr hm)
    rw [set, if_neg (Ne.symm hk), ih hrest]
    rfl

theorem contains_iff (name : String) (entries : Named α) :
    contains name entries = true ↔ name ∈ names entries := by
  induction entries with
  | nil => simp [contains, names]
  | cons e entries ih =>
    obtain ⟨k, a⟩ := e
    by_cases h : k = name
    · simp [contains, get?, names, h]
    · simp only [contains, names] at ih
      simp [contains, get?, names, h, Ne.symm h, ih]

/-- A name among the entries has a value. -/
theorem exists_get?_eq_some {name : String} {entries : Named α} (h : name ∈ names entries) :
    ∃ a, get? name entries = some a :=
  Option.isSome_iff_exists.mp ((contains_iff name entries).mpr h)

theorem get?_eq_none {name : String} {entries : Named α} (h : name ∉ names entries) :
    get? name entries = none :=
  Option.not_isSome_iff_eq_none.mp fun hc => h ((contains_iff name entries).mp hc)

/-- The order in which entries are searched does not matter if no name stands twice. -/
theorem get?_reverse {entries : Named α} (hn : (names entries).Nodup) (name : String) :
    get? name entries.reverse = get? name entries := by
  have hnames : names entries.reverse = (names entries).reverse := List.map_reverse
  by_cases h : name ∈ names entries
  · obtain ⟨a, ha⟩ := exists_get?_eq_some h
    rw [ha]
    refine get?_of_mem (List.mem_reverse.mpr (mem_of_get?_eq_some ha)) ?_
    rw [hnames]
    exact List.pairwise_reverse.mpr (hn.imp Ne.symm)
  · rw [get?_eq_none h, get?_eq_none]
    rw [hnames]
    exact fun hm => h (List.mem_reverse.mp hm)

/-- **Named values are the same when they have the same names in the same order and every name has
the same value**, if no name stands twice. -/
theorem ext_get? {xs ys : Named α} (hnames : names xs = names ys) (hn : (names xs).Nodup)
    (h : ∀ name, get? name xs = get? name ys) : xs = ys := by
  induction xs generalizing ys with
  | nil => exact (List.map_eq_nil_iff.mp hnames.symm).symm
  | cons x xs ih =>
    obtain ⟨k, a⟩ := x
    cases ys with
    | nil => cases hnames
    | cons y ys =>
      obtain ⟨l, b⟩ := y
      obtain ⟨rfl, hrest⟩ : k = l ∧ names xs = names ys := List.cons.inj hnames
      obtain ⟨hk, hn⟩ := List.nodup_cons.mp hn
      have hvalue := h k
      rw [get?_cons, get?_cons, if_pos rfl, if_pos rfl] at hvalue
      obtain rfl := Option.some.inj hvalue
      refine congrArg _ (ih hrest hn fun name => ?_)
      by_cases hname : k = name
      · subst hname
        rw [get?_eq_none hk, get?_eq_none (hrest ▸ hk)]
      · have hnext := h name
        rwa [get?_cons, get?_cons, if_neg hname, if_neg hname] at hnext

end Named

end OpticScene
