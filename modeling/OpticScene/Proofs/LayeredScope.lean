import OpticScene.Proofs.FlatLoops

/-!
# Views of layered bindings

Bindings are looked at in four ways: a name is searched from the innermost layer outward, all
entries are listed from the outermost layer inward, the entries of one name are put together, and
the entries are handed to an expression one after the other.  All four give a name the same value,
because a layer binds no name twice: what is found first from the inside is what stands last in the
list.

## Main definitions

* `Bindings.Built` — bindings that were made by entering scopes and binding names.

## Main results

* `Bindings.Built.nodup` — **no layer binds a name twice.**
* `Bindings.get?_eq_get?_reverse_toList` — **the search from the inside finds the last entry.**
* `Bindings.get?_resolve`, `Bindings.pairwise_names_resolve` — entries put together: the values, and
  the order.
* `Bindings.find?_scope` — what a name stands for in an expression.
* `Bindings.Built.views_agree` — all views agree.
-/

namespace OpticScene.Bindings

/-- Bindings are made from an empty layer by entering scopes and binding names. -/
inductive Built : Bindings → Prop
  /-- Nothing is bound. -/
  | empty : Built .empty
  /-- A scope is entered. -/
  | nested {b : Bindings} : Built b → Built b.nested
  /-- A name is bound. -/
  | insert {b : Bindings} (name : String) (value : Json) : Built b → Built (b.insert name value)

/-- **No layer binds a name twice.** -/
theorem Built.nodup {b : Bindings} (h : b.Built) :
    ∀ layer ∈ b.layers, (Named.names layer).Nodup := by
  induction h with
  | empty => exact fun layer hl => List.mem_singleton.mp hl ▸ List.nodup_nil
  | nested _ ih => exact List.forall_mem_cons.mpr ⟨List.nodup_nil, ih⟩
  | insert name value _ ih =>
    obtain ⟨hinnermost, houter⟩ := List.forall_mem_cons.mp ih
    exact List.forall_mem_cons.mpr ⟨Named.nodup_names_set name value hinnermost, houter⟩

/-! ### All entries -/

/-- The search through layers, each of them from its end. -/
theorem search_eq_get?_flatMap (name : String) {layers : List Layer}
    (h : ∀ layer ∈ layers, (Named.names layer).Nodup) :
    search name layers = Named.get? name (layers.flatMap List.reverse) := by
  induction layers with
  | nil => rfl
  | cons layer layers ih =>
    obtain ⟨hlayer, hlayers⟩ := List.forall_mem_cons.mp h
    rw [search, List.flatMap_cons, Named.get?_append, Named.get?_reverse hlayer, ih hlayers]

/-- **The search from the inside finds the last entry.** -/
theorem get?_eq_get?_reverse_toList {b : Bindings}
    (h : ∀ layer ∈ b.layers, (Named.names layer).Nodup) (name : String) :
    b.get? name = Named.get? name b.toList.reverse := by
  rw [get?, search_eq_get?_flatMap name h, toList, List.reverse_flatten, List.map_reverse,
    List.reverse_reverse]
  rfl

/-! ### Entries put together -/

theorem resolve_append_singleton (entries : Named Json) (name : String) (value : Json) :
    resolve (entries ++ [(name, value)]) = Named.set name value (resolve entries) := by
  rw [resolve, List.foldl_append]
  rfl

/-- Of the entries with one name, the value of the last one is kept. -/
theorem get?_resolve (name : String) (entries : Named Json) :
    Named.get? name (resolve entries) = Named.get? name entries.reverse := by
  induction entries using List.reverseRecOn with
  | nil => rfl
  | append_singleton entries entry ih =>
    obtain ⟨k, value⟩ := entry
    rw [resolve_append_singleton, Named.get?_set, ih, List.reverse_append]
    rfl

theorem mem_names_resolve {name : String} {entries : Named Json} :
    name ∈ Named.names (resolve entries) ↔ name ∈ Named.names entries := by
  have hnames : name ∈ Named.names entries ↔ name ∈ Named.names entries.reverse := by
    rw [Named.names, Named.names, List.map_reverse, List.mem_reverse]
  rw [hnames, ← Named.contains_iff, ← Named.contains_iff, Named.contains, get?_resolve]
  rfl

/-- **Each name is kept once, and the names stand in the order in which they come first.** -/
theorem pairwise_names_resolve (entries : Named Json) :
    (Named.names (resolve entries)).Pairwise fun m n =>
      (Named.names entries).idxOf m < (Named.names entries).idxOf n := by
  induction entries using List.reverseRecOn with
  | nil => exact List.Pairwise.nil
  | append_singleton entries entry ih =>
    obtain ⟨k, value⟩ := entry
    have hnames : Named.names (entries ++ [(k, value)]) = Named.names entries ++ [k] :=
      List.map_append
    -- one more entry does not move the first place of a name that was there before
    have hold : ∀ {m}, m ∈ Named.names (resolve entries) →
        (Named.names (entries ++ [(k, value)])).idxOf m = (Named.names entries).idxOf m := by
      intro m hm
      rw [hnames, List.idxOf_append_of_mem (mem_names_resolve.mp hm)]
    have hkept : (Named.names (resolve entries)).Pairwise fun m n =>
        (Named.names (entries ++ [(k, value)])).idxOf m <
          (Named.names (entries ++ [(k, value)])).idxOf n :=
      ih.imp_of_mem fun hm hn hlt => by rwa [hold hm, hold hn]
    rw [resolve_append_singleton, Named.names_set]
    split
    · exact hkept
    · next hnew =>
      have hk : k ∉ Named.names entries := fun hm => hnew (mem_names_resolve.mpr hm)
      refine List.pairwise_append.mpr ⟨hkept, List.pairwise_singleton _ _, fun m hm n hn => ?_⟩
      rw [List.mem_singleton.mp hn, hold hm, hnames, List.idxOf_append_of_notMem hk]
      exact Nat.lt_add_right _ (List.idxOf_lt_length_of_mem (mem_names_resolve.mp hm))

/-! ### Expressions -/

/-- **What a name stands for in an expression**: its value in the bindings, or else a constant. -/
theorem find?_scope {b : Bindings} (h : ∀ layer ∈ b.layers, (Named.names layer).Nodup)
    (name : String) :
    Expr.Scope.find? name (Expression.scope b) =
      ((b.get? name).map Expr.Value.ofJson).or
        (Expr.Scope.find? name [("pi", .float Expr.pi), ("e", .float Expr.euler)]) := by
  rw [Expression.scope, Expr.Scope.find?_append, Expr.Scope.find?_map,
    get?_eq_get?_reverse_toList h]

/-! ### All views -/

/-- **All views of bindings agree.**  A name has the value of the last entry with the name, which is
the value that is kept when entries are put together; it has none exactly when there is no entry.
Each bound name is kept once, in the order of the first entries.  An expression sees under a name
what the value is converted to; names that are not bound may be constants. -/
theorem Built.views_agree {b : Bindings} (h : b.Built) :
    (∀ layer ∈ b.layers, (Named.names layer).Nodup) ∧
    (∀ name value, b.get? name = some value ↔
      ∃ before after, b.toList = before ++ (name, value) :: after ∧ name ∉ Named.names after) ∧
    (∀ name value, b.get? name = some value ↔ (name, value) ∈ b.resolved) ∧
    (∀ name, b.get? name = none ↔ name ∉ Named.names b.toList) ∧
    (∀ name, b.get? name = none ↔ name ∉ Named.names b.resolved) ∧
    (Named.names b.resolved).Nodup ∧
    ((Named.names b.resolved).Pairwise fun m n =>
      (Named.names b.toList).idxOf m < (Named.names b.toList).idxOf n) ∧
    (∀ name value, b.get? name = some value →
      Expr.Scope.find? name (Expression.scope b) = some (.ofJson value)) ∧
    ∀ name, b.get? name = none → Expr.Scope.find? name (Expression.scope b) =
      Expr.Scope.find? name [("pi", .float Expr.pi), ("e", .float Expr.euler)] := by
  have horder := pairwise_names_resolve b.toList
  have hnodup : (Named.names b.resolved).Nodup := horder.imp fun hlt heq => by
    rw [heq] at hlt
    exact Nat.lt_irrefl _ hlt
  have hlast := get?_eq_get?_reverse_toList h.nodup
  have hvalue : ∀ name, b.get? name = Named.get? name b.resolved := fun name => by
    rw [hlast, resolved, get?_resolve]
  have hnone : ∀ name, b.get? name = none ↔ name ∉ Named.names b.resolved := fun name => by
    rw [hvalue, ← Named.contains_iff, Named.contains, Option.not_isSome_iff_eq_none]
  refine ⟨h.nodup, fun name value => ?_, fun name value => ?_, fun name => ?_, hnone, hnodup,
    horder, fun name value hget => ?_, fun name hget => ?_⟩
  · rw [hlast, Named.get?_eq_some_iff_append]
    constructor
    · rintro ⟨before, after, hsplit, hmem⟩
      refine ⟨after.reverse, before.reverse, ?_, ?_⟩
      · rw [← List.reverse_reverse b.toList, hsplit]
        simp
      · rwa [Named.names, List.map_reverse, List.mem_reverse]
    · rintro ⟨before, after, hsplit, hmem⟩
      refine ⟨after.reverse, before.reverse, ?_, ?_⟩
      · rw [hsplit]
        simp
      · rwa [Named.names, List.map_reverse, List.mem_reverse]
  · rw [hvalue]
    exact ⟨Named.mem_of_get?_eq_some, fun hmem => Named.get?_of_mem hmem hnodup⟩
  · rw [hnone, resolved, mem_names_resolve]
  · rw [find?_scope h.nodup, hget]
    rfl
  · rw [find?_scope h.nodup, hget]
    rfl

/-- A name is bound again in its layer and again inside, and a constant is hidden. -/
def shadowing : Bindings :=
  ((((((empty.insert "n" (.ofInt 1)).insert "pi" (.ofInt 3)).insert "n" (.ofInt 2)).nested.insert
    "m" (.ofInt 7)).insert "n" (.ofInt 5)).nested).insert "m" .null

theorem views_agree_shadowing :
    shadowing.Built ∧ shadowing.get? "n" = some (.ofInt 5) ∧
      ("n", Json.ofInt 5) ∈ shadowing.resolved ∧
      Named.names shadowing.resolved = ["n", "pi", "m"] ∧
      Expr.Scope.find? "n" (Expression.scope shadowing) = some (.ofJson (.ofInt 5)) ∧
      Expr.Scope.find? "pi" (Expression.scope shadowing) = some (.ofJson (.ofInt 3)) ∧
      Expr.Scope.find? "e" (Expression.scope shadowing) = some (.float Expr.euler) := by
  have hbuilt : shadowing.Built :=
    .insert _ _ (.nested (.insert _ _ (.insert _ _ (.nested (.insert _ _ (.insert _ _
      (.insert _ _ .empty)))))))
  obtain ⟨-, -, hresolved, -, -, -, -, hbound, hconstant⟩ := hbuilt.views_agree
  exact ⟨hbuilt, rfl, (hresolved "n" (.ofInt 5)).mp rfl, rfl, hbound "n" (.ofInt 5) rfl,
    hbound "pi" (.ofInt 3) rfl, hconstant "e" rfl⟩

end OpticScene.Bindings
