import OpticScene.Proofs.ExpansionFailure

/-!
# Accepted loops come to an end

The values of a range are made one after the other, each by adding the step to the one before.  This
may go on forever: with a step that is zero or negative, and also with a positive one that is so
small that adding it changes nothing.  Here the values up to the end are a relation of their own, so
that a range has all its values or none at all.

The values are counted before anything is done with them, no further than one beyond the limit.  So
a loop that is accepted runs through all values of its ranges and has no more steps than the limit
allows, and a loop that is refused has done nothing but read its ranges.

## Main definitions

* `Range.RunsFrom` — all values from one on, up to the end of the range.

## Main results

* `Range.runsFrom_start_iff` — a range with finitely many values runs through them.
* `Range.exists_runsFrom_iff` — a range never ends exactly when it has infinitely many values.
* `Expansion.coe_length_choices` — the choices of a loop are as many as its steps.
* `Expansion.loop_is_bounded` — **a loop is refused before its body is looked at, or it has at most
  as many steps as the limit allows.**
-/

namespace OpticScene

open OpticScene.Random (Stream)

/-! ### Going through a range -/

namespace Range

/-- The values of a range from one on are these, and then it has ended. -/
inductive RunsFrom (r : Range) : Float → List Float → Prop
  /-- A value above the end is no value of the range. -/
  | stop {x : Float} : ¬ x ≤ r.stop → RunsFrom r x []
  /-- The step is added to a value to find the next one. -/
  | next {x : Float} {xs : List Float} :
    x ≤ r.stop → RunsFrom r (x + r.step) xs → RunsFrom r x (x :: xs)

variable {r : Range} {x : Float} {xs : List Float} {n : Nat}

/-- Going further than the end finds no more values. -/
theorem RunsFrom.firstFrom_eq (h : r.RunsFrom x xs) (hn : xs.length ≤ n) :
    r.firstFrom n x = xs := by
  induction h generalizing n with
  | stop hx => cases n <;> simp [firstFrom, hx]
  | next hx _ ih =>
    cases n with
    | zero => exact absurd hn (Nat.not_succ_le_zero _)
    | succ n => rw [firstFrom, if_pos hx, ih (Nat.le_of_succ_le_succ hn)]

/-- A range that stops short has ended. -/
theorem runsFrom_firstFrom (h : (r.firstFrom n x).length < n) :
    r.RunsFrom x (r.firstFrom n x) := by
  induction n generalizing x with
  | zero => exact absurd h (Nat.not_lt_zero _)
  | succ n ih =>
    by_cases hx : x ≤ r.stop
    · rw [firstFrom, if_pos hx] at h ⊢
      exact .next hx (ih (Nat.lt_of_succ_lt_succ h))
    · rw [firstFrom, if_neg hx]
      exact .stop hx

/-- All values are as many as the size says. -/
theorem RunsFrom.size_eq (h : r.RunsFrom r.start xs) : r.size = xs.length :=
  size_eq_of_length_lt (congrArg List.length (h.firstFrom_eq (Nat.le_succ _))) (Nat.lt_succ_self _)

theorem coe_length_values (h : r.size ≠ ⊤) : (r.values.length : ℕ∞) = r.size := by
  rw [values, List.length_map, List.length_range, ENat.natCast_toNat h]

/-- **A range with finitely many values runs through them**, and through nothing else. -/
theorem runsFrom_start_iff : r.RunsFrom r.start xs ↔ r.size ≠ ⊤ ∧ xs = r.values := by
  constructor
  · intro h
    have hsize : r.size ≤ xs.length := h.size_eq.le
    refine ⟨ne_top_of_le_ne_top (ENat.natCast_ne_top _) hsize, ?_⟩
    exact (h.firstFrom_eq le_rfl).symm.trans (first_eq_values hsize)
  · rintro ⟨hsize, rfl⟩
    have hlength := coe_length_values hsize
    -- one more value is asked for than there are
    have hfirst : r.first (r.values.length + 1) = r.values := by
      refine first_eq_values ?_
      rw [← hlength]
      exact_mod_cast Nat.le_succ _
    have hrun := runsFrom_firstFrom (hfirst.symm ▸ Nat.lt_succ_self _ :
      (r.first (r.values.length + 1)).length < r.values.length + 1)
    rwa [← first, hfirst] at hrun

/-- A range comes to an end exactly when it does not have infinitely many values. -/
theorem exists_runsFrom_iff : (∃ xs, r.RunsFrom r.start xs) ↔ r.size ≠ ⊤ :=
  ⟨fun ⟨_, h⟩ => (runsFrom_start_iff.mp h).1, fun h => ⟨_, runsFrom_start_iff.mpr ⟨h, rfl⟩⟩⟩

/-- A range whose step does not lead on from its first value never ends. -/
theorem not_runsFrom_of_add_eq (hx : x ≤ r.stop) (hstep : x + r.step = x) : ¬ r.RunsFrom x xs := by
  intro h
  induction h with
  | stop hstop => exact hstop hx
  | next _ _ ih => exact ih (by rwa [hstep]) (by rw [hstep, hstep])

end Range

/-! ### Steps of a loop -/

namespace Expansion

/-- **The choices of a loop are as many as its steps**, if all its ranges come to an end. -/
theorem coe_length_choices {ranges : List Range} (h : ∀ range ∈ ranges, range.size ≠ ⊤) :
    ((choices (ranges.map fun range => (range.name, range.values))).length : ℕ∞) =
      steps ranges := by
  induction ranges with
  | nil => rfl
  | cons range ranges ih =>
    rw [List.forall_mem_cons] at h
    rw [steps_cons, ← Range.coe_length_values h.1, ← ih h.2, ← Nat.cast_mul]
    simp [choices, List.length_flatMap]

variable {limit : Nat} {b : Bindings} {descriptors : List String} {s t u : Stream}
  {ranges : List Range}

/-- What an accepted loop runs through. -/
theorem axes_of_run_eq_ok (h : limit < Range.maxCount)
    (hread : ExceptT.run (parseRanges b descriptors) s = (.ok ranges, t)) {found : List Axis}
    (hok : ExceptT.run (axes limit b descriptors) s = (.ok found, u)) :
    checkTotal limit 1 ranges = .ok () ∧ u = t ∧
      found = ranges.map fun range => (range.name, range.values) := by
  rw [axes_eq h, ← parseRanges_eq_mapM, run_bind_of_ok hread] at hok
  rcases hc : checkTotal limit 1 ranges with e | ⟨⟩
  · rw [hc] at hok
    cases hok
  · rw [hc] at hok
    cases hok
    exact ⟨rfl, rfl, rfl⟩

/-- The steps of a loop come after its ranges, and do not take place if these are refused. -/
theorem run_expandItem_loop {index : Nat} {condition : Option String} {body : ObjectTemplate} :
    ExceptT.run (expandItem limit b index (.loop descriptors condition body)) s =
      match ExceptT.run (axes limit b descriptors) s with
      | (.ok found, u) => ExceptT.run
        (List.reduceOption <$> (choices found).mapM (bodyAt limit b index condition body)) u
      | (.error e, u) => (.error (around [⟨.element index, b⟩] e), u) := by
  rw [expandItem_loop, run_bind, inElement, run_adapt]
  obtain ⟨e | found, u⟩ := ExceptT.run (axes limit b descriptors) s <;> rfl

/-- A range that never ends has more values than any limit allows. -/
theorem exceeds_of_endless {range : Range} (hrange : range ∈ ranges)
    (hendless : ¬ ∃ values, range.RunsFrom range.start values) : Exceeds limit ranges := by
  refine .inl ⟨range, hrange, ?_⟩
  rw [of_not_not (mt Range.exists_runsFrom_iff.mpr hendless)]
  exact ENat.natCast_lt_top limit

/-- **A loop is bounded before any work.**  The numbers of values alone decide whether it is
accepted.  If it is, each of its variables runs through all values of its range, of which there are
no more than the limit allows, and the body with its condition is evaluated once for each choice of
values, of which there are no more either.  If a range never ends, the loop is refused.  If it is
refused, the outcome is the same for all bodies and conditions, and nothing is drawn after the
ranges are read.  The values that are counted are all of them, or one more than the limit allows. -/
theorem loop_is_bounded (hone : 1 ≤ limit) (h : limit < Range.maxCount)
    (hread : ExceptT.run (parseRanges b descriptors) s = (.ok ranges, t)) :
    ((∃ found, ExceptT.run (axes limit b descriptors) s = (.ok found, t)) ↔
      ¬ (Exceeds limit ranges ∨ EmptyTooLate limit ranges)) ∧
    (∀ found u, ExceptT.run (axes limit b descriptors) s = (.ok found, u) →
      u = t ∧
      List.Forall₂ (fun range axis => axis.1 = range.name ∧
        range.RunsFrom range.start axis.2 ∧ axis.2.length ≤ limit) ranges found ∧
      (choices found).length ≤ limit ∧
      ∀ index condition body,
        ExceptT.run (expandItem limit b index (.loop descriptors condition body)) s =
          ExceptT.run (List.reduceOption <$>
            (choices found).mapM (bodyAt limit b index condition body)) t) ∧
    (∀ range ∈ ranges, (¬ ∃ values, range.RunsFrom range.start values) →
      ∃ cause, ExceptT.run (axes limit b descriptors) s = (.error (.loop cause), t)) ∧
    (∀ e u, ExceptT.run (axes limit b descriptors) s = (.error e, u) →
      u = t ∧ (∃ cause, e = .loop cause) ∧
      ∀ index condition body,
        ExceptT.run (expandItem limit b index (.loop descriptors condition body)) s =
          (.error (e.within (Place.element index).text b), t)) ∧
    ∀ range : Range, (range.countUpTo limit : ℕ∞) = min range.size (limit + 1) := by
  refine ⟨run_axes_eq_ok_iff hone h hread, fun found u hok => ?_,
    fun range hrange hendless => ?_, fun e u herror => ?_, fun range => ?_⟩
  · obtain ⟨hcheck, rfl, rfl⟩ := axes_of_run_eq_ok h hread hok
    obtain ⟨hsizes, hsteps⟩ := (checkTotal_eq_ok_iff h hone).mp hcheck
    have hends : ∀ range ∈ ranges, range.size ≠ ⊤ := fun range hrange =>
      ne_top_of_le_ne_top (ENat.natCast_ne_top limit) (hsizes range hrange)
    refine ⟨rfl, ?_, ?_, fun index condition body => by rw [run_expandItem_loop, hok]⟩
    · rw [List.forall₂_map_right_iff, List.forall₂_same]
      intro range hrange
      refine ⟨rfl, Range.runsFrom_start_iff.mpr ⟨hends range hrange, rfl⟩, ?_⟩
      rw [← Nat.cast_le (α := ℕ∞), Range.coe_length_values (hends range hrange)]
      exact hsizes range hrange
    · rw [← Nat.cast_le (α := ℕ∞), coe_length_choices hends]
      simpa using hsteps ranges List.prefix_rfl
  · exact (run_axes_eq_error_iff hone h hread).mpr (.inl (exceeds_of_endless hrange hendless))
  · have hrun := herror
    rw [run_axes hread] at herror
    rcases hcheck : checkTotal limit 1 ranges with cause | ⟨⟩
    · rw [hcheck] at herror
      cases herror
      exact ⟨rfl, ⟨cause, rfl⟩, fun index condition body => by rw [run_expandItem_loop, hrun]; rfl⟩
    · rw [hcheck] at herror
      cases herror
  · rw [Range.countUpTo_eq_min h, min_comm]
    rfl

/-- A loop whose variable stays where it is. -/
def endless : List String := ["i=1:0:2"]

/-- A loop with two variables that come to their ends. -/
def counting : List String := ["i=1:1:3", "j=0:0.5:0.5"]

/-- The step of a range does not lead on from its first value. -/
def stays (range : Range) : Bool :=
  decide (range.start ≤ range.stop) && decide (range.start + range.step = range.start)

theorem not_runsFrom_of_stays {range : Range} (h : stays range = true) :
    ¬ ∃ values, range.RunsFrom range.start values := by
  obtain ⟨hle, hstep⟩ : range.start ≤ range.stop ∧ range.start + range.step = range.start := by
    simpa [stays] using h
  exact fun ⟨_, hruns⟩ => Range.not_runsFrom_of_add_eq hle hstep hruns

theorem exists_read_endless {b : Bindings} {s : Stream}
    (h : (ExceptT.run (parseRanges b endless) s).1.toOption.map (List.map stays) = some [true])
    (hs : (ExceptT.run (parseRanges b endless) s).2 = s) :
    ∃ range, ExceptT.run (parseRanges b endless) s = (.ok [range], s) ∧
      ¬ ∃ values, range.RunsFrom range.start values := by
  obtain ⟨ranges, hread, hstays⟩ := exists_eq_of_map_toOption h hs
  have hlength : ranges.length = 1 := by simpa using congrArg List.length hstays
  obtain ⟨range, rfl⟩ := List.length_eq_one_iff.mp hlength
  exact ⟨range, hread, not_runsFrom_of_stays (List.head_eq_of_cons_eq hstays)⟩

theorem loop_is_bounded_for_endless_and_counting :
    1 ≤ 50 ∧ 50 < Range.maxCount ∧
    (∃ range, ExceptT.run (parseRanges .empty endless) (.ofSeed 0) = (.ok [range], .ofSeed 0) ∧
      ∃ cause, ExceptT.run (axes 50 .empty endless) (.ofSeed 0) =
        (.error (.loop cause), .ofSeed 0)) ∧
    ∃ ranges found,
      ExceptT.run (parseRanges .empty counting) (.ofSeed 0) = (.ok ranges, .ofSeed 0) ∧
      ExceptT.run (axes 50 .empty counting) (.ofSeed 0) = (.ok found, .ofSeed 0) ∧
      List.Forall₂ (fun range axis => axis.1 = range.name ∧
        range.RunsFrom range.start axis.2 ∧ axis.2.length ≤ 50) ranges found ∧
      found.map (fun axis => (axis.1, axis.2.length)) = [("i", 3), ("j", 2)] ∧
      (choices found).length ≤ 50 := by
  refine ⟨by decide, by decide, ?_, ?_⟩
  · obtain ⟨range, hread, hendless⟩ :=
      exists_read_endless (b := .empty) (s := .ofSeed 0) (by decide +kernel) (by decide +kernel)
    refine ⟨range, hread, ?_⟩
    exact (loop_is_bounded (by decide) (by decide) hread).2.2.1 range
      (List.mem_singleton_self range) hendless
  · obtain ⟨ranges, hread, -⟩ := exists_eq_of_map_toOption
      (x := ExceptT.run (parseRanges .empty counting) (.ofSeed 0)) (f := List.length)
      (d := 2) (u := .ofSeed 0) (by decide +kernel) (by decide +kernel)
    obtain ⟨found, hfound, hnumbers⟩ := exists_eq_of_map_toOption
      (x := ExceptT.run (axes 50 .empty counting) (.ofSeed 0))
      (f := List.map fun axis => (axis.1, axis.2.length)) (d := [("i", 3), ("j", 2)])
      (u := .ofSeed 0) (by decide +kernel) (by decide +kernel)
    obtain ⟨-, haxes, hchoices, -⟩ :=
      (loop_is_bounded (by decide) (by decide) hread).2.1 found _ hfound
    exact ⟨ranges, found, hread, hfound, haxes, hnumbers, hchoices⟩

end Expansion

end OpticScene
