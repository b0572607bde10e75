import OpticScene.Random.Stream

/-!
# Running computations

A computation that may fail and that changes a state is run from a state and gives an outcome with
the state it leaves.  Here is what each way to build one does when it is run; the state is a place
in the random stream or a whole scene.

A computation is *steady* when the random stream does not matter to it: it gives the same from
every place, and it leaves the stream where it was.

## Main definitions

* `Yields`, `Random.Gives` — what comes out has a property, if anything does.
* `Random.Steady` — the computations that the stream does not matter to.

## Main results

* `run_bind_of_ok`, `run_bind_of_error` — a sequence of two computations, by the outcome of the
  first.
* `Yields.bind`, `Random.Gives.bind` — what comes out of a sequence, by what comes out of the first
  of its two parts.
* `Random.Steady.bind` — **a sequence of steady computations is steady.**
-/

namespace OpticScene

variable {σ ε ε' α β : Type}

/-! ### Outcomes -/

theorem run_pure (a : α) (s : σ) : ExceptT.run (pure a : ExceptT ε (StateM σ) α) s = (.ok a, s) :=
  rfl

theorem run_get (s : σ) : ExceptT.run (get : ExceptT ε (StateM σ) σ) s = (.ok s, s) := rfl

theorem run_modify (f : σ → σ) (s : σ) :
    ExceptT.run (modify f : ExceptT ε (StateM σ) PUnit) s = (.ok ⟨⟩, f s) := rfl

/-- An outcome is given without a look at the state. -/
theorem run_ofExcept (x : Except ε α) (s : σ) :
    ExceptT.run (liftM x : ExceptT ε (StateM σ) α) s = (x, s) := rfl

/-- A change of the state does not fail. -/
theorem run_ofState (x : StateM σ α) (s : σ) :
    ExceptT.run (liftM x : ExceptT ε (StateM σ) α) s = (.ok (x s).1, (x s).2) := rfl

@[simp] theorem mapError_ok (f : ε → ε') (a : α) :
    (Except.ok a : Except ε α).mapError f = .ok a := rfl

@[simp] theorem mapError_error (f : ε → ε') (e : ε) :
    (Except.error e : Except ε α).mapError f = .error (f e) := rfl

theorem bind_eq_ok {x : Except ε α} {f : α → Except ε β} {b : β} :
    x >>= f = .ok b ↔ ∃ a, x = .ok a ∧ f a = .ok b := by
  cases x with
  | error e => exact ⟨fun h => (nomatch h), fun ⟨_, h, _⟩ => (nomatch h)⟩
  | ok a => exact ⟨fun h => ⟨a, rfl, h⟩, fun ⟨_, ha, h⟩ => by cases ha; exact h⟩

theorem mapError_eq_ok {f : ε → ε'} {x : Except ε α} {a : α} :
    x.mapError f = .ok a ↔ x = .ok a := by
  cases x <;> simp

/-- A check of what a computation gives shows that it gives something. -/
theorem exists_run_of_any {x : ExceptT ε (StateM σ) α} {s : σ} {p : α → Bool}
    (h : (ExceptT.run x s).1.toOption.any p = true) :
    ∃ a, ExceptT.run x s = (.ok a, (ExceptT.run x s).2) ∧ p a = true := by
  rcases hx : ExceptT.run x s with ⟨e | a, t⟩
  · rw [hx] at h
    cases h
  · rw [hx] at h
    exact ⟨a, rfl, h⟩

theorem run_adapt (f : ε → ε') (x : ExceptT ε (StateM σ) α) (s : σ) :
    ExceptT.run (x.adapt f) s = ((ExceptT.run x s).1.mapError f, (ExceptT.run x s).2) := rfl

/-- The second of two computations goes on from where the first one ends. -/
theorem run_bind_of_ok {x : ExceptT ε (StateM σ) α} {f : α → ExceptT ε (StateM σ) β} {s t : σ}
    {a : α} (h : ExceptT.run x s = (.ok a, t)) : ExceptT.run (x >>= f) s = ExceptT.run (f a) t := by
  change (ExceptT.bindCont f (ExceptT.run x s).1) (ExceptT.run x s).2 = _
  rw [h]
  rfl

/-- The second of two computations does not take place when the first one fails. -/
theorem run_bind_of_error {x : ExceptT ε (StateM σ) α} {f : α → ExceptT ε (StateM σ) β} {s t : σ}
    {e : ε} (h : ExceptT.run x s = (.error e, t)) : ExceptT.run (x >>= f) s = (.error e, t) := by
  change (ExceptT.bindCont f (ExceptT.run x s).1) (ExceptT.run x s).2 = _
  rw [h]
  rfl

theorem run_bind (x : ExceptT ε (StateM σ) α) (f : α → ExceptT ε (StateM σ) β) (s : σ) :
    ExceptT.run (x >>= f) s =
      match ExceptT.run x s with
      | (.ok a, t) => ExceptT.run (f a) t
      | (.error e, t) => (.error e, t) := by
  rcases h : ExceptT.run x s with ⟨e | a, t⟩
  · exact run_bind_of_error h
  · exact run_bind_of_ok h

/-- A sequence succeeds exactly when both parts do. -/
theorem run_bind_eq_ok {x : ExceptT ε (StateM σ) α} {f : α → ExceptT ε (StateM σ) β} {s t : σ}
    {b : β} : ExceptT.run (x >>= f) s = (.ok b, t) ↔
      ∃ a u, ExceptT.run x s = (.ok a, u) ∧ ExceptT.run (f a) u = (.ok b, t) := by
  rcases h : ExceptT.run x s with ⟨e | a, u⟩
  · rw [run_bind_of_error h]
    constructor
    · intro he; cases he
    · rintro ⟨a, v, ha, -⟩; cases ha
  · rw [run_bind_of_ok h]
    constructor
    · intro hb; exact ⟨a, u, rfl, hb⟩
    · rintro ⟨a', v, ha, hb⟩; cases ha; exact hb

/-- A sequence fails when its first part does, or when the second one does after it. -/
theorem run_bind_eq_error {x : ExceptT ε (StateM σ) α} {f : α → ExceptT ε (StateM σ) β} {s t : σ}
    {e : ε} : ExceptT.run (x >>= f) s = (.error e, t) ↔
      ExceptT.run x s = (.error e, t) ∨
        ∃ a u, ExceptT.run x s = (.ok a, u) ∧ ExceptT.run (f a) u = (.error e, t) := by
  rcases h : ExceptT.run x s with ⟨e' | a, u⟩
  · rw [run_bind_of_error h]
    constructor
    · intro he; cases he; exact .inl rfl
    · rintro (he | ⟨a, v, ha, -⟩)
      · cases he; rfl
      · cases ha
  · rw [run_bind_of_ok h]
    constructor
    · exact fun he => .inr ⟨a, u, rfl, he⟩
    · rintro (he | ⟨a', v, ha, he⟩)
      · cases he
      · cases ha; exact he

/-- What is made of a result does not matter to the success. -/
theorem run_map_eq_ok {x : ExceptT ε (StateM σ) α} {f : α → β} {s t : σ} {b : β} :
    ExceptT.run (f <$> x) s = (.ok b, t) ↔ ∃ a, ExceptT.run x s = (.ok a, t) ∧ f a = b := by
  rw [← bind_pure_comp, run_bind_eq_ok]
  constructor
  · rintro ⟨a, u, ha, hb⟩
    cases hb
    exact ⟨a, ha, rfl⟩
  · rintro ⟨a, ha, rfl⟩
    exact ⟨a, t, ha, rfl⟩

/-- What is made of a result does not matter to a failure. -/
theorem run_map_eq_error {x : ExceptT ε (StateM σ) α} {f : α → β} {s t : σ} {e : ε} :
    ExceptT.run (f <$> x) s = (.error e, t) ↔ ExceptT.run x s = (.error e, t) := by
  rw [← bind_pure_comp, run_bind_eq_error, or_iff_left]
  rintro ⟨a, u, -, he⟩
  cases he

theorem run_adapt_eq_ok {f : ε → ε'} {x : ExceptT ε (StateM σ) α} {s t : σ} {a : α} :
    ExceptT.run (x.adapt f) s = (.ok a, t) ↔ ExceptT.run x s = (.ok a, t) := by
  rw [run_adapt]
  rcases ExceptT.run x s with ⟨cause | a', u⟩
  · constructor <;> intro h <;> cases h
  · constructor <;> intro h <;> cases h <;> rfl

theorem run_adapt_eq_error {f : ε → ε'} {x : ExceptT ε (StateM σ) α} {s t : σ} {e : ε'} :
    ExceptT.run (x.adapt f) s = (.error e, t) ↔
      ∃ cause, ExceptT.run x s = (.error cause, t) ∧ e = f cause := by
  rw [run_adapt]
  rcases ExceptT.run x s with ⟨cause | a, u⟩
  · constructor
    · intro h; cases h; exact ⟨cause, rfl, rfl⟩
    · rintro ⟨cause', h, rfl⟩; cases h; rfl
  · constructor
    · intro h; cases h
    · rintro ⟨cause', h, -⟩; cases h

/-- **A list of computations fails when one of them does after all before it have succeeded.** -/
theorem run_mapM_eq_error {f : α → ExceptT ε (StateM σ) β} {as : List α} {s t : σ} {e : ε} :
    ExceptT.run (as.mapM f) s = (.error e, t) ↔
      ∃ (before : List α) (a : α) (after : List α) (bs : List β) (u : σ),
        as = before ++ a :: after ∧ ExceptT.run (before.mapM f) s = (.ok bs, u) ∧
          ExceptT.run (f a) u = (.error e, t) := by
  induction as generalizing s with
  | nil =>
    refine iff_of_false (fun h => nomatch h) ?_
    rintro ⟨before, a, after, bs, u, h, -⟩
    exact absurd h.symm (List.append_ne_nil_of_right_ne_nil _ (List.cons_ne_nil _ _))
  | cons a as ih =>
    rw [List.mapM_cons, run_bind_eq_error]
    constructor
    · rintro (he | ⟨b, u, hb, he⟩)
      · exact ⟨[], a, as, [], s, rfl, rfl, he⟩
      · rcases run_bind_eq_error.mp he with he | ⟨bs, v, -, he⟩
        · obtain ⟨before, a', after, bs, v, rfl, hbs, he⟩ := ih.mp he
          refine ⟨a :: before, a', after, b :: bs, v, rfl, ?_, he⟩
          rw [List.mapM_cons, run_bind_of_ok hb, run_bind_of_ok hbs]
          rfl
        · cases he
    · rintro ⟨before, a', after, bs, u, has, hbs, he⟩
      cases before with
      | nil =>
        obtain ⟨rfl, rfl⟩ := List.cons.inj has
        cases hbs
        exact .inl he
      | cons a'' before =>
        obtain ⟨rfl, rfl⟩ := List.cons.inj has
        rw [List.mapM_cons] at hbs
        obtain ⟨b, v, hb, hbs⟩ := run_bind_eq_ok.mp hbs
        obtain ⟨bs', w, hbs, hpure⟩ := run_bind_eq_ok.mp hbs
        cases hpure
        exact .inr ⟨b, v, hb, run_bind_of_error (ih.mpr ⟨before, a', after, bs', u, rfl, hbs, he⟩)⟩

theorem length_of_run_mapM {f : α → ExceptT ε (StateM σ) β} {as : List α} :
    ∀ {bs : List β} {s t : σ}, ExceptT.run (as.mapM f) s = (.ok bs, t) →
      bs.length = as.length := by
  induction as with
  | nil =>
    intro bs s t h
    cases h
    rfl
  | cons a as ih =>
    intro bs s t h
    rw [List.mapM_cons] at h
    obtain ⟨b, u, -, h⟩ := run_bind_eq_ok.mp h
    obtain ⟨bs, v, hbs, h⟩ := run_bind_eq_ok.mp h
    cases h
    exact congrArg (· + 1) (ih hbs)

/-- The second of two changes of the state goes on from where the first one ends. -/
theorem bindState_of_eq {x : StateM σ α} {f : α → StateM σ β} {s t : σ} {a : α}
    (h : x s = (a, t)) : (x >>= f) s = f a t := by
  change f (x s).1 (x s).2 = _
  rw [h]

/-! ### Properties of what comes out -/

/-- What comes out, if anything does, has a property. -/
def Yields (P : α → Prop) (x : Except ε α) : Prop := ∀ a, x = .ok a → P a

namespace Yields

variable {P : α → Prop} {Q : β → Prop}

theorem ok {a : α} (h : P a) : Yields P (.ok a : Except ε α) := fun _ ha => by cases ha; exact h

theorem error (P : α → Prop) (e : ε) : Yields P (.error e) := fun _ ha => nomatch ha

theorem bind {x : Except ε α} {f : α → Except ε β} (hx : Yields P x)
    (hf : ∀ a, P a → Yields Q (f a)) : Yields Q (x >>= f) := by
  cases x with
  | error e => exact .error Q e
  | ok a => exact hf a (hx a rfl)

/-- Nothing needs to be known about the first of two outcomes if the second one decides. -/
theorem of_bind {x : Except ε α} {f : α → Except ε β} (hf : ∀ a, Yields Q (f a)) :
    Yields Q (x >>= f) :=
  bind (P := fun _ => True) (fun _ _ => trivial) fun a _ => hf a

theorem map {x : Except ε α} {f : α → β} (hx : Yields P x) (hf : ∀ a, P a → Q (f a)) :
    Yields Q (x.map f) := by
  cases x with
  | error e => exact .error Q e
  | ok a => exact .ok (hf a (hx a rfl))

theorem mapError {x : Except ε α} (h : Yields P x) (f : ε → ε') : Yields P (x.mapError f) :=
  fun a ha => h a (mapError_eq_ok.mp ha)

end Yields

namespace Random

/-- What comes out, from whatever place of the stream, has a property. -/
def Gives (P : α → Prop) (x : Draws ε α) : Prop := ∀ s, Yields P (ExceptT.run x s).1

namespace Gives

variable {P : α → Prop} {Q : β → Prop}

theorem of_run {x : Draws ε α} (h : Gives P x) {s t : Stream} {a : α}
    (hx : ExceptT.run x s = (.ok a, t)) : P a := h s a (congrArg Prod.fst hx)

theorem pure {a : α} (h : P a) : Gives P (pure a : Draws ε α) := fun _ => .ok h

theorem throw (P : α → Prop) (e : ε) : Gives P (throw e : Draws ε α) := fun _ => .error P e

theorem ofState {x : StateM Stream α} (h : ∀ s, P (x s).1) : Gives P (liftM x : Draws ε α) :=
  fun s => .ok (h s)

theorem ofExcept {x : Except ε α} (h : Yields P x) : Gives P (liftM x : Draws ε α) := fun _ => h

theorem adapt {x : Draws ε α} (h : Gives P x) (f : ε → ε') : Gives P (x.adapt f) :=
  fun s => (h s).mapError f

theorem bind {x : Draws ε α} {f : α → Draws ε β} (hx : Gives P x)
    (hf : ∀ a, P a → Gives Q (f a)) : Gives Q (x >>= f) := by
  intro s
  rw [run_bind]
  rcases hr : ExceptT.run x s with ⟨e | a, t⟩
  · exact .error Q e
  · exact hf a (hx.of_run hr) t

theorem of_bind {x : Draws ε α} {f : α → Draws ε β} (hf : ∀ a, Gives Q (f a)) :
    Gives Q (x >>= f) :=
  bind (P := fun _ => True) (fun _ _ _ => trivial) fun a _ => hf a

end Gives

/-! ### Steady computations -/

/-- The random stream does not matter: the result is the same from every place, and the place is
kept. -/
def Steady (x : StateM Stream α) : Prop := ∃ a, ∀ s, x s = (a, s)

/-- A steady computation gives from every place what it gives from one of them. -/
theorem Steady.run_eq {x : StateM Stream α} (h : Steady x) {s t : Stream} {a : α}
    (hx : x s = (a, t)) : ∀ u, x u = (a, u) := by
  obtain ⟨b, hb⟩ := h
  have hab : b = a := congrArg Prod.fst ((hb s).symm.trans hx)
  exact hab ▸ hb

theorem steady_pure (a : α) : Steady (pure a : StateM Stream α) := ⟨a, fun _ => rfl⟩

theorem Steady.bindState {x : StateM Stream α} {f : α → StateM Stream β} (hx : Steady x)
    (hf : ∀ a, Steady (f a)) : Steady (x >>= f) := by
  obtain ⟨a, ha⟩ := hx
  obtain ⟨b, hb⟩ := hf a
  exact ⟨b, fun s => by rw [bindState_of_eq (ha s), hb]⟩

theorem steady_run_pure (a : α) : Steady (ExceptT.run (pure a : Draws ε α)) :=
  ⟨.ok a, fun _ => rfl⟩

theorem steady_run_throw (e : ε) : Steady (ExceptT.run (throw e : Draws ε α)) :=
  ⟨.error e, fun _ => rfl⟩

theorem steady_run_ofExcept (x : Except ε α) : Steady (ExceptT.run (liftM x : Draws ε α)) :=
  ⟨x, fun _ => rfl⟩

theorem Steady.adapt {x : Draws ε α} (h : Steady x.run) (f : ε → ε') :
    Steady (ExceptT.run (x.adapt f)) := by
  obtain ⟨r, hr⟩ := h
  exact ⟨r.mapError f, fun s => by rw [run_adapt, hr]⟩

/-- When the first of two computations gives the same from every place, the second one decides. -/
theorem Steady.bind_of_ok {x : Draws ε α} {f : α → Draws ε β} {a : α}
    (hx : ∀ s, ExceptT.run x s = (.ok a, s)) (hf : Steady (f a).run) :
    Steady (ExceptT.run (x >>= f)) := by
  obtain ⟨r, hr⟩ := hf
  exact ⟨r, fun s => by rw [run_bind_of_ok (hx s), hr]⟩

theorem Steady.bind_of_error {x : Draws ε α} {f : α → Draws ε β} {e : ε}
    (hx : ∀ s, ExceptT.run x s = (.error e, s)) : Steady (ExceptT.run (x >>= f)) :=
  ⟨.error e, fun s => run_bind_of_error (hx s)⟩

/-- **A sequence of steady computations is steady.** -/
theorem Steady.bind {x : Draws ε α} {f : α → Draws ε β} (hx : Steady x.run)
    (hf : ∀ a, Steady (f a).run) : Steady (ExceptT.run (x >>= f)) := by
  obtain ⟨e | a, hr⟩ := hx
  · exact .bind_of_error hr
  · exact .bind_of_ok hr (hf a)

end Random

end OpticScene
