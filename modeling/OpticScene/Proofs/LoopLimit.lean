import Mathlib.Algebra.Order.BigOperators.Group.List
import Mathlib.Data.ENat.Lattice
import Mathlib.Data.Set.Card
import OpticScene.Expansion.Basic
import OpticScene.Proofs.Draws

/-!
# The limit of loops

A loop must not have more steps than its limit allows.  The number of steps is that of all choices
of a value from every range, but it is not computed before it is compared: the ranges are gone
through from the left, and the loop is refused as soon as those seen so far have too many choices
together.  An empty range makes a loop empty, so it saves the loop if it comes early, and it comes
too late behind ranges that are too many already.

A range may go on forever, so its size is an extended natural number.

## Main definitions

* `Range.value`, `Range.Reaches` — the values of a range by their index, and which of them there
  are.
* `Range.size`, `Range.values` — how many values there are, and all of them.
* `Expansion.steps` — the number of choices of a value from every range.
* `Expansion.Exceeds` — a range, or all of them together, have more values than the limit allows.
* `Expansion.EmptyTooLate` — an empty range stands behind ranges that exceed the limit.

## Main results

* `Range.length_first`, `Range.first_eq_values` — counting up to a limit, and going no further.
* `Expansion.checkTotal_eq_ok_iff` — the check looks at each range and at each group of ranges from
  the left.
* `Expansion.axes_fails_iff` — **a loop is refused exactly when it exceeds its limit or an empty
  range comes too late.**
-/

namespace OpticScene

open OpticScene.Random (Stream)

/-! ### Values of a range -/

namespace Range

/-- The value with an index: the first one with the step added as often as the index says. -/
def value (r : Range) (k : Nat) : Float := (· + r.step)^[k] r.start

/-- The range has a value with the index: neither this one nor any before it is above the end. -/
def Reaches (r : Range) (k : Nat) : Prop := ∀ j ≤ k, r.value j ≤ r.stop

/-- The number of values. -/
noncomputable def size (r : Range) : ℕ∞ := {k | r.Reaches k}.encard

/-- All values in their order, if they come to an end. -/
noncomputable def values (r : Range) : List Float := (List.range r.size.toNat).map r.value

variable {r : Range}

theorem Reaches.of_le {j k : Nat} (h : r.Reaches k) (hj : j ≤ k) : r.Reaches j :=
  fun i hi => h i (hi.trans hj)

/-- A range has more than `k` values when it has one with the index `k`. -/
theorem lt_size_iff {k : Nat} : (k : ℕ∞) < r.size ↔ r.Reaches k := by
  constructor
  · intro h
    by_contra hk
    -- all indices lie below the first one that is not reached
    have hsub : {j | r.Reaches j} ⊆ {j | j < k} :=
      fun j hj => lt_of_not_ge fun hkj => hk (Reaches.of_le hj hkj)
    have hle := Set.encard_le_encard hsub
    rw [Set.Nat.encard_range] at hle
    exact absurd h (not_lt_of_ge hle)
  · intro h
    have hsub : {j | j < k + 1} ⊆ {j | r.Reaches j} := fun j hj => h.of_le (Nat.lt_succ_iff.mp hj)
    have hle := Set.encard_le_encard hsub
    rw [Set.Nat.encard_range] at hle
    exact lt_of_lt_of_le (by exact_mod_cast Nat.lt_succ_self k) hle

/-- The first values from `x` on are those up to the first one that is above the end. -/
theorem lt_length_firstFrom {n k : Nat} {x : Float} :
    k < (r.firstFrom n x).length ↔ k < n ∧ ∀ j ≤ k, (· + r.step)^[j] x ≤ r.stop := by
  induction n generalizing x k with
  | zero => simp [firstFrom]
  | succ n ih =>
    by_cases hx : x ≤ r.stop
    · rw [firstFrom, if_pos hx, List.length_cons]
      cases k with
      | zero => simp [hx]
      | succ k =>
        rw [Nat.add_lt_add_iff_right, Nat.add_lt_add_iff_right, ih]
        refine and_congr_right fun _ => ⟨fun h j hj => ?_, fun h j hj => ?_⟩
        · cases j with
          | zero => exact hx
          | succ j => exact h j (Nat.le_of_succ_le_succ hj)
        · exact h (j + 1) (Nat.succ_le_succ hj)
    · rw [firstFrom, if_neg hx]
      refine iff_of_false (Nat.not_lt_zero k) fun h => hx ?_
      exact h.2 0 (Nat.zero_le k)

theorem getElem_firstFrom {n k : Nat} {x : Float} (h : k < (r.firstFrom n x).length) :
    (r.firstFrom n x)[k] = (· + r.step)^[k] x := by
  induction n generalizing x k with
  | zero => exact absurd h (Nat.not_lt_zero k)
  | succ n ih =>
    have hx : x ≤ r.stop := (lt_length_firstFrom.mp h).2 0 (Nat.zero_le k)
    simp only [firstFrom, if_pos hx] at h ⊢
    cases k with
    | zero => rfl
    | succ k => exact ih (Nat.lt_of_succ_lt_succ h)

/-- **Going on to the `n`-th value at most gives all values or `n` of them.** -/
theorem length_first (n : Nat) : ((r.first n).length : ℕ∞) = min (n : ℕ∞) r.size := by
  have hlt : ∀ k : Nat, k < (r.first n).length ↔ k < n ∧ r.Reaches k := fun k => lt_length_firstFrom
  rcases lt_or_ge (n : ℕ∞) r.size with h | h
  · rw [min_eq_left h.le, Nat.cast_inj]
    have hreaches := lt_size_iff.mp h
    refine Nat.le_antisymm (le_of_forall_lt fun k hk => ((hlt k).mp hk).1) ?_
    exact le_of_forall_lt fun k hk => (hlt k).mpr ⟨hk, hreaches.of_le hk.le⟩
  · rw [min_eq_right h]
    obtain ⟨m, hm⟩ := ENat.ne_top_iff_exists.mp (ne_top_of_le_ne_top (ENat.natCast_ne_top n) h)
    rw [← hm, Nat.cast_le] at h
    rw [← hm, Nat.cast_inj]
    have hreaches : ∀ k : Nat, k < m ↔ r.Reaches k := fun k => by
      rw [← lt_size_iff, ← hm, Nat.cast_lt]
    refine Nat.le_antisymm (le_of_forall_lt fun k hk => ?_) (le_of_forall_lt fun k hk => ?_)
    · exact (hreaches k).mpr ((hlt k).mp hk).2
    · exact (hlt k).mpr ⟨lt_of_lt_of_le hk h, (hreaches k).mp hk⟩

/-- A range that has ended is known from as many values. -/
theorem size_eq_of_length_lt {n m : Nat} (h : (r.first n).length = m) (hm : m < n) :
    r.size = m := by
  have hmin := r.length_first n
  rw [h] at hmin
  rcases min_choice (n : ℕ∞) r.size with hn | hs
  · rw [hn, Nat.cast_inj] at hmin
    exact absurd hmin hm.ne
  · rw [← hs, ← hmin]

/-- A range that has no more than `n` values is gone through to its end. -/
theorem first_eq_values {n : Nat} (h : r.size ≤ n) : r.first n = r.values := by
  have hlength : (r.first n).length = r.size.toNat := by
    have hmin := r.length_first n
    rw [min_eq_right h] at hmin
    rw [← hmin, ENat.toNat_natCast]
  refine List.ext_getElem (by simp [values, hlength]) fun k hk _ => ?_
  simp only [values, List.getElem_map, List.getElem_range]
  exact getElem_firstFrom hk

/-- The values are counted no further than one beyond the limit. -/
theorem countUpTo_eq_min {limit : Nat} (h : limit < maxCount) :
    (r.countUpTo limit : ℕ∞) = min ((limit + 1 : Nat) : ℕ∞) r.size := by
  rw [countUpTo_eq, min_eq_left (Nat.succ_le_of_lt h), length_first]

theorem lt_countUpTo_iff {limit : Nat} (h : limit < maxCount) :
    limit < r.countUpTo limit ↔ (limit : ℕ∞) < r.size := by
  rw [← Nat.cast_lt (α := ℕ∞), countUpTo_eq_min h, lt_min_iff]
  exact and_iff_right (by exact_mod_cast Nat.lt_succ_self limit)

theorem countUpTo_of_size_le {limit : Nat} (h : limit < maxCount) (hs : r.size ≤ limit) :
    (r.countUpTo limit : ℕ∞) = r.size := by
  rw [countUpTo_eq_min h, min_eq_right (hs.trans _)]
  exact_mod_cast Nat.le_succ limit

end Range

/-! ### The check of a loop -/

namespace Expansion

/-- The number of choices of a value from every range. -/
noncomputable def steps (ranges : List Range) : ℕ∞ := (ranges.map Range.size).prod

theorem steps_nil : steps [] = 1 := rfl

theorem steps_cons (range : Range) (ranges : List Range) :
    steps (range :: ranges) = range.size * steps ranges := List.prod_cons

theorem steps_append (before after : List Range) :
    steps (before ++ after) = steps before * steps after := by
  rw [steps, List.map_append, List.prod_append]
  rfl

theorem steps_eq_of_perm {ranges ranges' : List Range} (h : ranges.Perm ranges') :
    steps ranges = steps ranges' := (h.map Range.size).prod_eq

/-- Without an empty range there is a step. -/
theorem one_le_steps {ranges : List Range} (h : ∀ range ∈ ranges, range.size ≠ 0) :
    1 ≤ steps ranges := by
  refine List.one_le_prod_of_one_le fun n hn => ?_
  obtain ⟨range, hrange, rfl⟩ := List.mem_map.mp hn
  exact Order.one_le_iff_ne_zero.mpr (h range hrange)

variable {limit : Nat}

/-- No range of an accepted loop has more values than the limit allows, whatever was counted
before. -/
theorem size_le_of_checkTotal (h : limit < Range.maxCount) {total : Nat} {ranges : List Range}
    (hok : checkTotal limit total ranges = .ok ()) : ∀ range ∈ ranges, range.size ≤ limit := by
  induction ranges generalizing total with
  | nil => exact fun range hrange => absurd hrange List.not_mem_nil
  | cons range ranges ih =>
    rw [checkTotal] at hok
    dsimp only at hok
    split at hok
    · cases hok
    next hcount =>
    split at hok
    · cases hok
    · rw [List.forall_mem_cons]
      exact ⟨le_of_not_gt fun hlt => hcount ((Range.lt_countUpTo_iff h).mpr hlt), ih hok⟩

/-- **The check looks at each range, and at each group of ranges from the left.**  Numbers too large
to be counted are above the limit anyway. -/
theorem checkTotal_eq_ok_iff (h : limit < Range.maxCount) {ranges : List Range} :
    ∀ {total : Nat}, total ≤ limit →
      (checkTotal limit total ranges = .ok () ↔
        (∀ range ∈ ranges, range.size ≤ limit) ∧
          ∀ before, before <+: ranges → total * steps before ≤ limit) := by
  induction ranges with
  | nil =>
    intro total htotal
    have hnil : (total : ℕ∞) * steps [] ≤ limit := by
      rw [steps_nil, mul_one]
      exact_mod_cast htotal
    simp only [checkTotal, List.not_mem_nil, false_imp_iff, implies_true, List.prefix_nil,
      forall_eq, hnil, and_self]
  | cons range ranges ih =>
    intro total htotal
    rw [checkTotal]
    dsimp only
    by_cases hrange : (limit : ℕ∞) < range.size
    -- one range alone is too long
    · rw [if_pos ((Range.lt_countUpTo_iff h).mpr hrange)]
      refine iff_of_false (fun hok => nomatch hok) fun hall => ?_
      exact absurd (hall.1 range List.mem_cons_self) (not_le_of_gt hrange)
    rw [if_neg fun hcount => hrange ((Range.lt_countUpTo_iff h).mp hcount)]
    have hsize : range.size ≤ limit := le_of_not_gt hrange
    have hcount := Range.countUpTo_of_size_le h hsize
    have hproduct : ((total * range.countUpTo limit : Nat) : ℕ∞) = total * range.size := by
      rw [Nat.cast_mul, hcount]
    by_cases hfirst : limit < total * range.countUpTo limit
    -- it is too long together with those before it
    · rw [if_pos (lt_min hfirst h)]
      refine iff_of_false (fun hok => nomatch hok) fun hall => ?_
      have hle := hall.2 [range] (List.prefix_append [range] ranges)
      rw [steps_cons, steps_nil, mul_one, ← hproduct] at hle
      exact absurd hfirst (not_lt_of_ge (by exact_mod_cast hle))
    · have hle : total * range.countUpTo limit ≤ limit := le_of_not_gt hfirst
      rw [min_eq_left (hle.trans h.le), if_neg hfirst, ih hle, List.forall_mem_cons]
      constructor
      · rintro ⟨hsizes, hprefixes⟩
        refine ⟨⟨hsize, hsizes⟩, fun before hbefore => ?_⟩
        rcases List.prefix_cons_iff.mp hbefore with rfl | ⟨rest, rfl, hrest⟩
        · rw [steps_nil, mul_one]
          exact_mod_cast htotal
        · rw [steps_cons, ← mul_assoc, ← hproduct]
          exact hprefixes rest hrest
      · rintro ⟨⟨-, hsizes⟩, hprefixes⟩
        refine ⟨hsizes, fun before hbefore => ?_⟩
        have hlong := hprefixes (range :: before) (List.prefix_cons_iff.mpr
          (.inr ⟨before, rfl, hbefore⟩))
        rwa [steps_cons, ← mul_assoc, ← hproduct] at hlong

/-- One of the ranges, or all of them together, have more values than the limit allows. -/
def Exceeds (limit : Nat) (ranges : List Range) : Prop :=
  (∃ range ∈ ranges, (limit : ℕ∞) < range.size) ∨ (limit : ℕ∞) < steps ranges

/-- A range without values stands behind ranges that together exceed the limit. -/
def EmptyTooLate (limit : Nat) (ranges : List Range) : Prop :=
  ∃ before after, ranges = before ++ after ∧ (limit : ℕ∞) < steps before ∧
    ∃ range ∈ after, range.size = 0

theorem exceeds_iff_of_perm {ranges ranges' : List Range} (h : ranges.Perm ranges') :
    Exceeds limit ranges ↔ Exceeds limit ranges' := by
  unfold Exceeds
  rw [steps_eq_of_perm h]
  exact or_congr_left (exists_congr fun range => and_congr_left fun _ => h.mem_iff)

/-- If the ranges from the left exceed the limit, then so do all of them or an empty one comes
later. -/
theorem exists_prefix_iff {ranges : List Range} :
    (∃ before, before <+: ranges ∧ (limit : ℕ∞) < steps before) ↔
      (limit : ℕ∞) < steps ranges ∨ EmptyTooLate limit ranges := by
  constructor
  · rintro ⟨before, ⟨after, rfl⟩, hlt⟩
    by_cases hempty : ∃ range ∈ after, range.size = 0
    · exact .inr ⟨before, after, rfl, hlt, hempty⟩
    · left
      have hone : 1 ≤ steps after :=
        one_le_steps fun range hrange hzero => hempty ⟨range, hrange, hzero⟩
      rw [steps_append]
      exact lt_of_lt_of_le hlt (le_mul_of_one_le_right' hone)
  · rintro (hlt | ⟨before, after, rfl, hlt, -⟩)
    · exact ⟨ranges, List.prefix_rfl, hlt⟩
    · exact ⟨before, List.prefix_append before after, hlt⟩

/-- A loop is accepted when nothing exceeds the limit and no empty range comes too late. -/
theorem checkTotal_one_eq_ok_iff (hone : 1 ≤ limit) (h : limit < Range.maxCount)
    (ranges : List Range) :
    checkTotal limit 1 ranges = .ok () ↔
      ¬ (Exceeds limit ranges ∨ EmptyTooLate limit ranges) := by
  rw [checkTotal_eq_ok_iff h hone, Exceeds, or_assoc, ← exists_prefix_iff, not_or]
  push Not
  simp only [Nat.cast_one, one_mul]

/-! ### Loops with ranges that can be read -/

variable {b : Bindings} {descriptors : List String} {s t : Stream} {ranges : List Range}

/-- After the ranges are read, only the check decides; it draws nothing. -/
theorem run_axes (h : ExceptT.run (parseRanges b descriptors) s = (.ok ranges, t)) (limit : Nat) :
    ExceptT.run (axes limit b descriptors) s =
      (((checkTotal limit 1 ranges).mapError .loop).map fun _ =>
        ranges.map fun range => (range.name, range.first (min (limit + 1) Range.maxCount)), t) := by
  rw [axes, run_bind_of_ok h]
  cases checkTotal limit 1 ranges <;> rfl

theorem run_axes_eq_error_iff (hone : 1 ≤ limit) (h : limit < Range.maxCount)
    (hread : ExceptT.run (parseRanges b descriptors) s = (.ok ranges, t)) :
    (∃ e, ExceptT.run (axes limit b descriptors) s = (.error (.loop e), t)) ↔
      Exceeds limit ranges ∨ EmptyTooLate limit ranges := by
  have hcheck := checkTotal_one_eq_ok_iff hone h ranges
  rw [run_axes hread]
  rcases hc : checkTotal limit 1 ranges with e | ⟨⟩
  · refine iff_of_true ⟨e, rfl⟩ (by_contra fun hnot => ?_)
    rw [hc] at hcheck
    cases hcheck.mpr hnot
  · refine iff_of_false ?_ (hcheck.mp hc)
    rintro ⟨e, he⟩
    cases he

theorem run_axes_eq_ok_iff (hone : 1 ≤ limit) (h : limit < Range.maxCount)
    (hread : ExceptT.run (parseRanges b descriptors) s = (.ok ranges, t)) :
    (∃ found, ExceptT.run (axes limit b descriptors) s = (.ok found, t)) ↔
      ¬ (Exceeds limit ranges ∨ EmptyTooLate limit ranges) := by
  rw [← checkTotal_one_eq_ok_iff hone h, run_axes hread]
  rcases checkTotal limit 1 ranges with e | ⟨⟩
  · refine iff_of_false ?_ fun hok => nomatch hok
    rintro ⟨found, hfound⟩
    cases hfound
  · exact iff_of_true ⟨_, rfl⟩ rfl

/-- **A loop whose ranges can be read is refused exactly when it exceeds its limit or an empty range
comes too late**, and has its axes otherwise.  So unless an empty range comes too late, the sizes
alone decide and the order does not matter. -/
theorem axes_fails_iff (hone : 1 ≤ limit) (h : limit < Range.maxCount)
    (hread : ExceptT.run (parseRanges b descriptors) s = (.ok ranges, t)) :
    ((∃ e, ExceptT.run (axes limit b descriptors) s = (.error (.loop e), t)) ↔
        Exceeds limit ranges ∨ EmptyTooLate limit ranges) ∧
      ((∃ found, ExceptT.run (axes limit b descriptors) s = (.ok found, t)) ↔
        ¬ (Exceeds limit ranges ∨ EmptyTooLate limit ranges)) ∧
        ∀ {descriptors' ranges' s' t'},
          ExceptT.run (parseRanges b descriptors') s' = (.ok ranges', t') → ranges'.Perm ranges →
            ¬ EmptyTooLate limit ranges → ¬ EmptyTooLate limit ranges' →
              ((∃ e, ExceptT.run (axes limit b descriptors') s' = (.error (.loop e), t')) ↔
                ∃ e, ExceptT.run (axes limit b descriptors) s = (.error (.loop e), t)) := by
  refine ⟨run_axes_eq_error_iff hone h hread, run_axes_eq_ok_iff hone h hread, ?_⟩
  intro descriptors' ranges' s' t' hread' hperm hlate hlate'
  rw [run_axes_eq_error_iff hone h hread, run_axes_eq_error_iff hone h hread',
    or_iff_left hlate, or_iff_left hlate']
  exact exceeds_iff_of_perm hperm

/-- Two ranges with two values each, and an empty one. -/
def lateEmpty : List String := ["a=1:1:2", "b=1:1:2", "c=1:1:0"]

/-- What is found in an outcome shows that it is one. -/
theorem exists_eq_of_map_toOption {ε α β σ : Type} {x : Except ε α × σ} {f : α → β} {d : β} {u : σ}
    (hd : x.1.toOption.map f = some d) (hu : x.2 = u) : ∃ a, x = (.ok a, u) ∧ f a = d := by
  obtain ⟨e | a, v⟩ := x
  · cases hd
  · exact ⟨a, by rw [← hu], Option.some.inj hd⟩

theorem exists_run_parseRanges_lateEmpty :
    ∃ a b c, ExceptT.run (parseRanges .empty lateEmpty) (.ofSeed 0) =
        (.ok [a, b, c], .ofSeed 0) ∧ a.size = 2 ∧ b.size = 2 ∧ c.size = 0 := by
  obtain ⟨ranges, hrun, hsizes⟩ := exists_eq_of_map_toOption
    (x := ExceptT.run (parseRanges .empty lateEmpty) (.ofSeed 0))
    (f := fun ranges => ranges.map fun r => (r.first 4).length) (d := [2, 2, 0]) (u := .ofSeed 0)
    (by decide +kernel) (by decide +kernel)
  have hlength : ranges.length = 3 := by simpa using congrArg List.length hsizes
  obtain ⟨a, b, c, rfl⟩ := List.length_eq_three.mp hlength
  simp only [List.map_cons, List.map_nil, List.cons.injEq, and_true] at hsizes
  obtain ⟨ha, hb, hc⟩ := hsizes
  exact ⟨a, b, c, hrun, Range.size_eq_of_length_lt ha (by decide),
    Range.size_eq_of_length_lt hb (by decide), Range.size_eq_of_length_lt hc (by decide)⟩

/-- The empty range comes behind two that have four choices together. -/
theorem emptyTooLate_lateEmpty {a b c : Range} (ha : a.size = 2) (hb : b.size = 2)
    (hc : c.size = 0) : EmptyTooLate 3 [a, b, c] := by
  refine ⟨[a, b], [c], rfl, ?_, c, List.mem_singleton_self c, hc⟩
  rw [steps_cons, steps_cons, steps_nil, ha, hb]
  decide

theorem axes_fails_lateEmpty :
    1 ≤ 3 ∧ 3 < Range.maxCount ∧ ∃ a b c,
      ExceptT.run (parseRanges .empty lateEmpty) (.ofSeed 0) = (.ok [a, b, c], .ofSeed 0) ∧
        ∃ e, ExceptT.run (axes 3 .empty lateEmpty) (.ofSeed 0) = (.error (.loop e), .ofSeed 0) := by
  obtain ⟨a, b, c, hread, ha, hb, hc⟩ := exists_run_parseRanges_lateEmpty
  refine ⟨by decide, by decide, a, b, c, hread, ?_⟩
  exact (axes_fails_iff (by decide) (by decide) hread).1.mpr
    (.inr (emptyTooLate_lateEmpty ha hb hc))

/-- The loop is refused although none of its ranges exceeds the limit and it has no step at all. -/
theorem not_forall_axes_fails_iff_exceeds :
    ¬ ∀ limit b descriptors s t ranges, 1 ≤ limit → limit < Range.maxCount →
      ExceptT.run (parseRanges b descriptors) s = (.ok ranges, t) →
        ((∃ e, ExceptT.run (axes limit b descriptors) s = (.error (.loop e), t)) ↔
          Exceeds limit ranges) := by
  intro hall
  obtain ⟨a, b, c, hread, ha, hb, hc⟩ := exists_run_parseRanges_lateEmpty
  have hfails := (run_axes_eq_error_iff (by decide : 1 ≤ 3) (by decide) hread).mpr
    (.inr (emptyTooLate_lateEmpty ha hb hc))
  rcases (hall 3 _ _ _ _ _ (by decide) (by decide) hread).mp hfails with ⟨range, hrange, hlt⟩ | hlt
  · simp only [List.mem_cons, List.not_mem_nil, or_false] at hrange
    rcases hrange with rfl | rfl | rfl
    · rw [ha] at hlt; exact absurd hlt (by decide)
    · rw [hb] at hlt; exact absurd hlt (by decide)
    · rw [hc] at hlt; exact absurd hlt (by decide)
  · rw [steps_cons, steps_cons, steps_cons, hc, zero_mul, mul_zero, mul_zero] at hlt
    exact absurd hlt (by decide)

end Expansion

end OpticScene
