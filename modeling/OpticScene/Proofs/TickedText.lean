import Mathlib.Algebra.Group.Nat.Even
import OpticScene.Template.Compile

/-!
# Texts with expressions

A text is cut at its back-ticks, and every other piece is an expression.  So back-ticks have to
stand in pairs, and between the two of a pair there has to be something to evaluate; a text without
back-ticks stands for itself.

## Main definitions

* `Text.IsTicked` — back-ticks stand in pairs around something that is not blank.
* `TextTemplate.fault` — what is wrong with a text where they do not.

## Main results

* `Text.exists_of_splitOn_eq_append` — where two pieces meet, a separator stands.
* `TextTemplate.mem_expressions_pieces_iff` — **the expressions of a text are what stands between
  its pairs of back-ticks.**
* `TextTemplate.compile_eq` — **a text is accepted when its back-ticks stand in pairs around
  expressions.**
-/

namespace OpticScene

namespace Text

/-! ### Pieces -/

/-- The pieces between separators are those of the library. -/
theorem piecesChars_eq_splitOn (sep : Char) (cs : List Char) :
    piecesChars sep cs = cs.splitOn sep := by
  induction cs with
  | nil => rfl
  | cons c cs ih =>
    rw [piecesChars, ih, List.splitOn_cons_eq_if_modifyHead]
    by_cases h : c = sep
    · rw [if_pos h, if_pos (beq_iff_eq.mpr h)]
    · rw [if_neg h, if_neg (by rwa [beq_iff_eq])]
      rcases hp : cs.splitOn sep with _ | ⟨p, ps⟩
      · exact absurd hp (List.splitOnP_ne_nil _ _)
      · rfl

/-- There is one more piece than separators. -/
theorem length_splitOn (sep : Char) (cs : List Char) :
    (cs.splitOn sep).length = cs.count sep + 1 := by
  induction cs with
  | nil => rfl
  | cons c cs ih =>
    rw [List.splitOn_cons_eq_if_modifyHead, List.count_cons]
    by_cases h : (c == sep) = true
    · rw [if_pos h, if_pos h, List.length_cons, ih]
    · rw [if_neg h, if_neg h, List.length_modifyHead, ih, Nat.add_zero]

theorem splitOn_append_sep (sep : Char) (cs ds : List Char) :
    (cs ++ sep :: ds).splitOn sep = cs.splitOn sep ++ ds.splitOn sep :=
  List.splitOnP_append_cons cs ds (beq_self_eq_true sep)

/-- There is only one piece where no separator stands. -/
theorem splitOn_eq_singleton_iff {sep : Char} {cs p : List Char} :
    cs.splitOn sep = [p] ↔ p = cs ∧ sep ∉ cs := by
  constructor
  · intro h
    have hlength := length_splitOn sep cs
    rw [h, List.length_singleton, Nat.right_eq_add, List.count_eq_zero] at hlength
    have hjoined : [sep].intercalate (cs.splitOn sep) = cs := List.intercalate_splitOn sep
    rw [h] at hjoined
    exact ⟨by simpa using hjoined, hlength⟩
  · rintro ⟨rfl, h⟩
    refine List.splitOnP_eq_singleton fun c hc => ?_
    rw [beq_eq_false_iff_ne]
    exact fun heq => h (heq ▸ hc)

/-- Where two pieces meet, a separator stands. -/
theorem exists_of_splitOn_eq_append {sep : Char} {cs : List Char} {ps qs : List (List Char)}
    (h : cs.splitOn sep = ps ++ qs) (hps : ps ≠ []) (hqs : qs ≠ []) :
    ∃ before after, cs = before ++ sep :: after ∧ before.splitOn sep = ps ∧
      after.splitOn sep = qs := by
  induction cs generalizing ps with
  | nil =>
    have hlength := congrArg List.length h
    have hp := List.length_pos_iff.mpr hps
    have hq := List.length_pos_iff.mpr hqs
    rw [List.length_append, List.splitOn_nil, List.length_singleton] at hlength
    omega
  | cons c cs ih =>
    obtain ⟨p, ps, rfl⟩ := List.exists_cons_of_ne_nil hps
    rw [List.splitOn_cons_eq_if_modifyHead] at h
    by_cases hc : (c == sep) = true
    · rw [if_pos hc, List.cons_append, List.cons.injEq] at h
      obtain ⟨rfl, h⟩ := h
      obtain rfl := beq_iff_eq.mp hc
      by_cases hrest : ps = []
      · subst hrest
        exact ⟨[], cs, rfl, rfl, h⟩
      · obtain ⟨before, after, rfl, hbefore, hafter⟩ := ih h hrest
        refine ⟨c :: before, after, rfl, ?_, hafter⟩
        rw [List.splitOn_cons_eq_if_modifyHead, if_pos hc, hbefore]
    · rw [if_neg hc] at h
      rcases hp : cs.splitOn sep with _ | ⟨p', ps'⟩
      · exact absurd hp (List.splitOnP_ne_nil _ _)
      rw [hp, List.modifyHead_cons, List.cons_append, List.cons.injEq] at h
      obtain ⟨rfl, rfl⟩ := h
      have hrest : cs.splitOn sep = (p' :: ps) ++ qs := hp
      obtain ⟨before, after, rfl, hbefore, hafter⟩ := ih hrest (List.cons_ne_nil _ _)
      refine ⟨c :: before, after, rfl, ?_, hafter⟩
      rw [List.splitOn_cons_eq_if_modifyHead, if_neg hc, hbefore, List.modifyHead_cons]

theorem map_toList_pieces (sep : Char) (s : String) :
    (pieces sep s).map String.toList = s.toList.splitOn sep := by
  rw [pieces, List.map_map, piecesChars_eq_splitOn]
  exact (List.map_congr_left fun cs _ => String.toList_ofList).trans (List.map_id _)

/-- No separator stands in a piece between separators. -/
theorem not_mem_of_mem_splitOn {sep : Char} {cs p : List Char} (h : p ∈ cs.splitOn sep) :
    sep ∉ p := by
  induction cs generalizing p with
  | nil =>
    rw [List.splitOn_nil, List.mem_singleton] at h
    simp [h]
  | cons c cs ih =>
    rw [List.splitOn_cons_eq_if_modifyHead] at h
    by_cases hc : (c == sep) = true
    · rw [if_pos hc, List.mem_cons] at h
      rcases h with rfl | h
      · exact List.not_mem_nil
      · exact ih h
    · rw [if_neg hc] at h
      rcases hp : cs.splitOn sep with _ | ⟨q, qs⟩
      · exact absurd hp (List.splitOnP_ne_nil _ _)
      rw [hp] at ih h
      rw [List.modifyHead_cons, List.mem_cons] at h
      rcases h with rfl | h
      · have hne : sep ≠ c := fun heq => hc (beq_iff_eq.mpr heq.symm)
        have hq := ih List.mem_cons_self
        simp [hne, hq]
      · exact ih (List.mem_cons_of_mem _ h)

theorem not_mem_of_mem_pieces {sep : Char} {s piece : String} (h : piece ∈ pieces sep s) :
    sep ∉ piece.toList := by
  have hmem : piece.toList ∈ (pieces sep s).map String.toList := List.mem_map_of_mem h
  rw [map_toList_pieces] at hmem
  exact not_mem_of_mem_splitOn hmem

/-! ### Texts with expressions -/

/-- Back-ticks stand in pairs, and between the two of a pair there is something that is not
blank. -/
structure IsTicked (s : String) : Prop where
  /-- The number of back-ticks is even. -/
  even : Even (s.toList.count '\x60')
  /-- What stands behind an even number of back-ticks up to the next one but one is not blank. -/
  not_blank : ∀ before expr after, s.toList = before ++ '\x60' :: (expr ++ '\x60' :: after) →
    Even (before.count '\x60') → '\x60' ∉ expr → ∃ c ∈ expr, isBlank c = false

end Text

namespace TextTemplate

open Text

/-- An element of a list is the first one or stands behind it. -/
theorem exists_cons_eq_append_iff {P : Nat → Prop} {a b : String} {as : List String} :
    (∃ before after, a :: as = before ++ b :: after ∧ P before.length) ↔
      (b = a ∧ P 0) ∨ ∃ before after, as = before ++ b :: after ∧ P (before.length + 1) := by
  constructor
  · rintro ⟨before, after, h, hP⟩
    cases before with
    | nil =>
      cases h
      exact .inl ⟨rfl, hP⟩
    | cons c before =>
      cases h
      exact .inr ⟨before, after, rfl, hP⟩
  · rintro (⟨rfl, hP⟩ | ⟨before, after, rfl, hP⟩)
    · exact ⟨[], as, rfl, hP⟩
    · exact ⟨a :: before, after, rfl, hP⟩

/-- The expressions are every other piece. -/
theorem mem_expressions_iff {isExpression : Bool} {pieces : List String} {expr : String} :
    expr ∈ expressions isExpression pieces ↔
      ∃ before after, pieces = before ++ expr :: after ∧
        (Even before.length ↔ isExpression = true) := by
  induction pieces generalizing isExpression with
  | nil => cases isExpression <;> simp [expressions]
  | cons piece pieces ih =>
    rw [exists_cons_eq_append_iff (P := fun n => Even n ↔ isExpression = true)]
    cases isExpression with
    | true => simp [expressions, ih, Nat.even_add_one]
    | false => simp [expressions, ih, Nat.even_add_one]

theorem length_pieces (s : String) : (pieces '\x60' s).length = s.toList.count '\x60' + 1 := by
  rw [pieces, List.length_map, piecesChars_eq_splitOn, length_splitOn]

/-- **The expressions of a text are what stands between its pairs of back-ticks.** -/
theorem mem_expressions_pieces_iff {s expr : String} (heven : Even (s.toList.count '\x60')) :
    expr ∈ expressions false (pieces '\x60' s) ↔
      ∃ before after, s.toList = before ++ '\x60' :: (expr.toList ++ '\x60' :: after) ∧
        Even (before.count '\x60') ∧ '\x60' ∉ expr.toList := by
  constructor
  · intro hexpr
    obtain ⟨as, bs, hpieces, hodd⟩ := mem_expressions_iff.mp hexpr
    have hlength := length_pieces s
    rw [hpieces, List.length_append, List.length_cons] at hlength
    rw [pieces, piecesChars_eq_splitOn] at hpieces
    obtain ⟨ps, rest, hsplit, rfl, hrest⟩ := List.map_eq_append_iff.mp hpieces
    obtain ⟨p, qs, rfl, rfl, rfl⟩ := List.map_eq_cons_iff.mp hrest
    simp only [List.length_map, Bool.false_eq_true, iff_false, Nat.not_even_iff] at hlength hodd
    rw [Nat.even_iff] at heven
    have hps : ps ≠ [] := List.ne_nil_of_length_pos (by omega)
    have hqs : qs ≠ [] := List.ne_nil_of_length_pos (by omega)
    -- the expression is cut off in front first, and then behind
    obtain ⟨before, behind, hs, hbefore, hbehind⟩ :=
      exists_of_splitOn_eq_append hsplit hps (List.cons_ne_nil _ _)
    have hbehind : behind.splitOn '\x60' = [p] ++ qs := hbehind
    obtain ⟨cs, after, rfl, hcs, -⟩ :=
      exists_of_splitOn_eq_append hbehind (List.cons_ne_nil _ _) hqs
    obtain ⟨rfl, hfree⟩ := splitOn_eq_singleton_iff.mp hcs
    have hcount := length_splitOn '\x60' before
    rw [hbefore] at hcount
    rw [String.toList_ofList]
    exact ⟨before, after, hs, Nat.even_iff.mpr (by omega), hfree⟩
  · rintro ⟨before, after, hs, hbefore, hfree⟩
    have hsplit : pieces '\x60' s = (before.splitOn '\x60').map String.ofList ++
        expr :: (after.splitOn '\x60').map String.ofList := by
      rw [pieces, piecesChars_eq_splitOn, hs, splitOn_append_sep,
        List.splitOn_append_cons_self_of_not_mem hfree, List.map_append, List.map_cons,
        String.ofList_toList]
    refine mem_expressions_iff.mpr ⟨_, _, hsplit, ?_⟩
    simp [length_splitOn, Nat.even_add_one, hbefore]

/-- The pieces of a text tell whether its back-ticks stand in pairs around expressions. -/
theorem isTicked_iff {s : String} :
    IsTicked s ↔ (pieces '\x60' s).length % 2 ≠ 0 ∧
      (expressions false (pieces '\x60' s)).any isAllBlank = false := by
  have hlength := length_pieces s
  rw [List.any_eq_false]
  constructor
  · intro h
    have heven := Nat.even_iff.mp h.even
    refine ⟨by omega, fun expr hexpr hblank => ?_⟩
    obtain ⟨before, after, hs, hbefore, hfree⟩ := (mem_expressions_pieces_iff h.even).mp hexpr
    obtain ⟨c, hc, hnot⟩ := h.not_blank before expr.toList after hs hbefore hfree
    exact absurd (List.all_eq_true.mp hblank c hc) (by rw [hnot]; exact Bool.false_ne_true)
  · rintro ⟨hodd, hblank⟩
    have heven : Even (s.toList.count '\x60') := Nat.even_iff.mpr (by omega)
    refine ⟨heven, fun before expr after hs hbefore hfree => ?_⟩
    have hexpr : String.ofList expr ∈ expressions false (pieces '\x60' s) := by
      refine (mem_expressions_pieces_iff heven).mpr ⟨before, after, ?_, hbefore, ?_⟩ <;>
        rwa [String.toList_ofList]
    have hnot := hblank _ hexpr
    rw [isAllBlank, String.toList_ofList, Bool.not_eq_true, List.all_eq_false] at hnot
    obtain ⟨c, hc, hc'⟩ := hnot
    exact ⟨c, hc, Bool.eq_false_iff.mpr hc'⟩

instance (s : String) : Decidable (IsTicked s) := decidable_of_iff' _ isTicked_iff

/-- What is wrong with a text whose back-ticks do not stand in pairs around expressions. -/
def fault (s : String) : TemplateCause :=
  if Even (s.toList.count '\x60') then .emptyExpression s else .unbalanced s

/-- **A text is accepted when its back-ticks stand in pairs around expressions.** -/
theorem compile_eq (s : String) :
    compile s = if IsTicked s then .ok (ofPieces (pieces '\x60' s)) else .error (fault s) := by
  have hlength := length_pieces s
  unfold compile fault
  simp only [isTicked_iff]
  by_cases hodd : (pieces '\x60' s).length % 2 = 0
  · have hnot : ¬ Even (s.toList.count '\x60') := by
      rw [Nat.not_even_iff]
      omega
    simp [hodd, hnot]
  · have heven : Even (s.toList.count '\x60') := Nat.even_iff.mpr (by omega)
    simp only [if_pos heven, ne_eq, hodd, not_false_eq_true, true_and]
    cases (expressions false (pieces '\x60' s)).any isAllBlank <;> simp

/-- **A text without back-ticks stands for itself.** -/
theorem compile_of_not_mem {s : String} (h : '\x60' ∉ s.toList) : compile s = .ok (.literal s) := by
  have hpieces : pieces '\x60' s = [s] := by
    rw [pieces, piecesChars_eq_splitOn, splitOn_eq_singleton_iff.mpr ⟨rfl, h⟩, List.map_singleton,
      String.ofList_toList]
  unfold compile
  rw [hpieces]
  rfl

end TextTemplate

end OpticScene
