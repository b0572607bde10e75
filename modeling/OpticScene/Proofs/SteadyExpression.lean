import OpticScene.Proofs.SteadyExpansion

/-!
# Expressions without calls

Numbers are drawn by a function, so an expression that calls none is steady.  This can be read off
its text, and for a definition off its record.

## Main definitions

* `Expr.isArithmetic` — an expression is made of literals, names and operators.
* `Definition.isArithmetic` — all expressions of a definition are.

## Main results

* `Expr.steady_evaluateIn` — **an expression without calls draws nothing and depends on no draw.**
* `Definition.isSteady_of_isArithmetic` — definitions that steadiness can be computed of.
-/

namespace OpticScene

open OpticScene.Random

namespace Expr

/-- Whether an expression is made of literals, names and operators. -/
def isArithmetic : Expr → Bool
  | .literal _ _ => true
  | .variable _ _ => true
  | .unary _ operand _ => isArithmetic operand
  | .binary _ left right _ => isArithmetic left && isArithmetic right
  | .connect _ left right _ => isArithmetic left && isArithmetic right
  | .coalesce left right _ => isArithmetic left && isArithmetic right
  | _ => false

/-- The random stream does not matter to an evaluation, whatever the scope is. -/
def Evaluation.IsSteady (x : Evaluation α) : Prop :=
  ∀ scope : Scope, Steady (ExceptT.run (x scope))

theorem Evaluation.IsSteady.bind {x : Evaluation α} {f : α → Evaluation β} (hx : IsSteady x)
    (hf : ∀ a, IsSteady (f a)) : IsSteady (x >>= f) :=
  fun scope => (hx scope).bind fun (a, next) => hf a next

theorem Evaluation.isSteady_pure (a : α) : IsSteady (pure a : Evaluation α) :=
  fun _ => steady_run_pure _

theorem Evaluation.isSteady_get : IsSteady (get : Evaluation Scope) := fun _ => steady_run_pure _

theorem Evaluation.isSteady_ofExcept (x : Except Failure α) :
    IsSteady (liftM x : Evaluation α) := by
  intro scope
  cases x with
  | error e => exact ⟨_, fun s => rfl⟩
  | ok a => exact ⟨_, fun s => rfl⟩

open Evaluation

/-- **An expression without calls draws nothing and depends on no draw.** -/
theorem steady_evaluateIn (ofText : Position → String → Evaluation Value) :
    ∀ e : Expr, e.isArithmetic = true → IsSteady (evaluateIn ofText e)
  | .literal value _, _ => by rw [evaluateIn]; exact isSteady_pure _
  | .variable name p, _ => by
    rw [evaluateIn]
    exact isSteady_get.bind fun _ => isSteady_ofExcept _
  | .unary op operand p, h => by
    rw [isArithmetic] at h
    rw [evaluateIn]
    exact (steady_evaluateIn ofText operand h).bind fun _ => isSteady_ofExcept _
  | .binary op left right p, h => by
    rw [isArithmetic, Bool.and_eq_true] at h
    have hleft := steady_evaluateIn ofText left h.1
    have hright := steady_evaluateIn ofText right h.2
    -- a name on the left is looked up after the right side, which may change it
    cases left with
    | «variable» name q =>
      rw [evaluateIn]
      refine hright.bind fun y => isSteady_get.bind fun scope => ?_
      exact (isSteady_ofExcept _).bind fun x => isSteady_ofExcept _
    | _ =>
      rw [evaluateIn]
      · exact hleft.bind fun x => hright.bind fun y => isSteady_ofExcept _
      · intro name q hname
        cases hname
  | .connect op left right _, h => by
    rw [isArithmetic, Bool.and_eq_true] at h
    have hleft := steady_evaluateIn ofText left h.1
    have hright := steady_evaluateIn ofText right h.2
    rw [evaluateIn]
    refine hleft.bind fun v => (isSteady_ofExcept _).bind fun a => ?_
    split
    · exact isSteady_pure _
    · exact hright.bind fun w => (isSteady_ofExcept _).bind fun _ => isSteady_pure _
  | .coalesce left right _, h => by
    rw [isArithmetic, Bool.and_eq_true] at h
    have hleft := steady_evaluateIn ofText left h.1
    have hright := steady_evaluateIn ofText right h.2
    rw [evaluateIn]
    refine hleft.bind fun v => ?_
    split
    · exact hright
    · exact isSteady_pure _

theorem steady_evaluate {e : Expr} (h : e.isArithmetic = true) (scope : Scope) :
    Steady (ExceptT.run (evaluate scope e)) := by
  have hvalue : Steady (ExceptT.run ((evaluateIn (evaluateText maxTexts) e).run' scope)) :=
    (steady_evaluateIn _ e h scope).bind fun _ => steady_run_pure _
  refine hvalue.bindState fun r => ?_
  split <;> exact steady_pure _

end Expr

namespace Expression

/-- Whether the text of an expression is one without calls; a text that is no expression has none
either. -/
def isArithmetic (s : String) : Bool :=
  match Expr.parse (expandCarets s) with
  | .ok e => e.isArithmetic
  | .error _ => true

theorem isSteady_of_isArithmetic {s : String} (h : isArithmetic s = true) : IsSteady s := by
  intro b
  refine Steady.adapt ?_ _
  unfold value
  unfold isArithmetic at h
  rcases hparse : Expr.parse (expandCarets s) with failure | e
  · exact .bind_of_error (run_ofExcept _)
  · rw [hparse] at h
    have hvalue := (Expr.steady_evaluate h (scope b)).adapt Cause.fails
    refine .bind_of_ok (run_ofExcept _) ?_
    exact hvalue.bind fun v => steady_run_ofExcept (v.toJson.mapError Cause.noResult)

end Expression

namespace Module

/-- Whether no expression of a definition has calls. -/
def Definition.isArithmetic (d : Definition) : Bool := d.used.all Expression.isArithmetic

/-- **A definition without calls is steady.** -/
theorem Definition.isSteady_of_isArithmetic {d : Definition} (h : d.isArithmetic = true) :
    d.IsSteady :=
  fun e he => Expression.isSteady_of_isArithmetic (List.all_eq_true.mp h e he)

end Module

end OpticScene
