import OpticScene.Proofs.SteadyExpansion
import OpticScene.Proofs.TickedText

/-!
# The segments of a text

The pieces of a text between its back-ticks are text and expressions by turns, and there is an odd
number of them.  The template of a text leaves out the empty pieces of text and nothing else, so
that the text can be read off its template again.  When the template is expanded, each expression
is replaced by the text of its value where it stands, and nothing else changes.

## Main definitions

* `TextTemplate.written` — a template of a text as it is written.
* `Text.Replaces` — a text with its expressions replaced by other texts.
* `TextTemplate.fill` — segments put together, with texts in the place of expressions.

## Main results

* `Text.pieces_induction` — a text and an expression are taken off an odd number of pieces.
* `TextTemplate.ofPieces_cases` — **the three forms of a template.**
* `TextTemplate.toList_written_ofPieces` — what is written are the pieces, with back-ticks between
  them.
* `TextTemplate.replaces_fill`, `Expansion.run_expandSegments` — what segments expand to.
* `TextTemplate.exists_literal_iff`, `TextTemplate.exists_expression_iff` — which texts have which
  form.
* `TextTemplate.run_expandText_segments` — **a text expands to itself with values in the place of
  its expressions.**
* `TextTemplate.text_is_kept` — a text is kept by its template.
-/

namespace OpticScene

open OpticScene.Random (Stream)

/-! ### Pieces -/

namespace Text

theorem odd_length_cons_cons {text expr : String} {rest : List String} :
    (text :: expr :: rest).length % 2 = 1 ↔ rest.length % 2 = 1 := by
  simp only [List.length_cons]
  omega

theorem ne_nil_of_odd {pieces : List String} (h : pieces.length % 2 = 1) : pieces ≠ [] := by
  rintro rfl
  simp at h

/-- An odd number of pieces is one text, or a text and an expression before an odd number. -/
@[elab_as_elim]
theorem pieces_induction {motive : ∀ pieces : List String, pieces.length % 2 = 1 → Prop}
    (one : ∀ text, motive [text] rfl)
    (more : ∀ text expr rest (h : rest.length % 2 = 1), motive rest h →
      motive (text :: expr :: rest) (odd_length_cons_cons.mpr h)) :
    ∀ (pieces : List String) (h : pieces.length % 2 = 1), motive pieces h
  | [text], _ => one text
  | text :: expr :: rest, h =>
    more text expr rest (odd_length_cons_cons.mp h)
      (pieces_induction one more rest (odd_length_cons_cons.mp h))

/-- A text in which the expressions between back-ticks are replaced by other texts; `holes` are
the expressions and what stands in their places, from left to right. -/
inductive Replaces : (source : List Char) → (holes : List (String × String)) →
    (result : List Char) → Prop
  /-- There is no expression any more. -/
  | rest {cs : List Char} : '\x60' ∉ cs → Replaces cs [] cs
  /-- Some text, the next expression, and what follows. -/
  | hole {before source result : List Char} {holes : List (String × String)} {expr x : String} :
      '\x60' ∉ before → '\x60' ∉ expr.toList → Replaces source holes result →
        Replaces (before ++ '\x60' :: (expr.toList ++ '\x60' :: source)) ((expr, x) :: holes)
          (before ++ (x.toList ++ result))

end Text

/-! ### Forms -/

/-- A segment as it is written. -/
def Segment.written : Segment → String
  | .literal text => text
  | .expression expr => "\x60" ++ expr ++ "\x60"

namespace TextTemplate

open Text

/-- A template of a text as it is written. -/
def written : TextTemplate → String
  | .literal text => text
  | .expression expr => "\x60" ++ expr ++ "\x60"
  | .interpolated segments => String.join (segments.map Segment.written)

/-- The segment of a piece of text, unless the piece is empty. -/
def ofText (text : String) : List Segment := if text.isEmpty then [] else [.literal text]

theorem segments_singleton (text : String) : segments false [text] = ofText text := by
  unfold segments ofText
  split <;> rfl

theorem segments_cons_cons (text expr : String) (rest : List String) :
    segments false (text :: expr :: rest) =
      ofText text ++ .expression expr :: segments false rest := by
  unfold ofText
  rw [segments, segments]
  split <;> rfl

/-- **The three forms of a template**: one piece of text, one expression with nothing around it, or
several segments. -/
theorem ofPieces_cases {pieces : List String} (h : pieces.length % 2 = 1) :
    (∃ text, pieces = [text] ∧ ofPieces pieces = .literal text) ∨
    (∃ expr, pieces = ["", expr, ""] ∧ ofPieces pieces = .expression expr) ∨
    (3 ≤ pieces.length ∧ (∀ expr, pieces ≠ ["", expr, ""]) ∧
      ofPieces pieces = .interpolated (segments false pieces)) := by
  match pieces, h with
  | [text], _ => exact .inl ⟨text, rfl, rfl⟩
  | [_, _], hodd => exact absurd hodd (by simp)
  | [before, expr, after], _ =>
    by_cases hempty : (before.isEmpty && after.isEmpty) = true
    · have hform : ofPieces [before, expr, after] = .expression expr := if_pos hempty
      rw [Bool.and_eq_true, String.isEmpty_iff, String.isEmpty_iff] at hempty
      obtain ⟨rfl, rfl⟩ := hempty
      exact .inr (.inl ⟨expr, rfl, hform⟩)
    · refine .inr (.inr ⟨Nat.le_refl 3, fun e he => hempty ?_, if_neg hempty⟩)
      cases he
      rfl
  | _ :: _ :: _ :: _ :: rest, _ =>
    refine .inr (.inr ⟨?_, fun e he => ?_, rfl⟩)
    · simp only [List.length_cons]
      omega
    · cases he

/-! ### What is written -/

/-- What is written of the segments of pieces are the pieces, with back-ticks between them. -/
theorem toList_written_segments {pieces : List String} (h : pieces.length % 2 = 1) :
    (segments false pieces).flatMap (fun segment => segment.written.toList) =
      ['\x60'].intercalate (pieces.map String.toList) := by
  have htext : ∀ text, (ofText text).flatMap (fun segment => segment.written.toList) =
      text.toList := by
    intro text
    unfold ofText
    split
    · next hempty => simp [String.isEmpty_iff.mp hempty]
    · simp [Segment.written]
  induction pieces, h using pieces_induction with
  | one text => simp [segments_singleton, htext]
  | more text expr rest h ih =>
    have hrest : rest.map String.toList ≠ [] := by simpa using ne_nil_of_odd h
    rw [segments_cons_cons, List.flatMap_append, htext, List.flatMap_cons, ih, List.map_cons,
      List.map_cons, List.intercalate_cons_of_ne_nil (List.cons_ne_nil _ _),
      List.intercalate_cons_of_ne_nil hrest]
    simp [Segment.written]

/-- **What is written of a template are its pieces, with back-ticks between them.** -/
theorem toList_written_ofPieces {pieces : List String} (h : pieces.length % 2 = 1) :
    (ofPieces pieces).written.toList = ['\x60'].intercalate (pieces.map String.toList) := by
  rcases ofPieces_cases h with ⟨text, rfl, hform⟩ | ⟨expr, rfl, hform⟩ | ⟨-, -, hform⟩
  · rw [hform]
    simp [written]
  · rw [hform]
    simp [written, List.intercalate]
  · rw [hform, written, String.toList_join, List.flatMap_map]
    exact toList_written_segments h

/-- The expressions of a template are those among its pieces. -/
theorem used_segments {pieces : List String} (h : pieces.length % 2 = 1) :
    (segments false pieces).flatMap Segment.used = expressions false pieces := by
  have htext : ∀ text, (ofText text).flatMap Segment.used = [] := by
    intro text
    unfold ofText
    split <;> rfl
  induction pieces, h using pieces_induction with
  | one text => rw [segments_singleton, htext]; rfl
  | more text expr rest h ih =>
    rw [segments_cons_cons, List.flatMap_append, htext, List.flatMap_cons, ih]
    rfl

theorem used_ofPieces {pieces : List String} (h : pieces.length % 2 = 1) :
    (ofPieces pieces).used = expressions false pieces := by
  rcases ofPieces_cases h with ⟨text, rfl, hform⟩ | ⟨expr, rfl, hform⟩ | ⟨-, -, hform⟩
  · rw [hform]; rfl
  · rw [hform]; rfl
  · rw [hform]; exact used_segments h

/-! ### The segments -/

/-- No segment is an empty text. -/
theorem literal_empty_not_mem_segments {pieces : List String} (h : pieces.length % 2 = 1) :
    .literal "" ∉ segments false pieces := by
  have htext : ∀ text, .literal "" ∉ ofText text := by
    intro text
    unfold ofText
    split
    · exact List.not_mem_nil
    · next hne =>
      rw [List.mem_singleton, Segment.literal.injEq]
      rintro rfl
      exact hne rfl
  induction pieces, h using pieces_induction with
  | one text => rw [segments_singleton]; exact htext text
  | more text expr rest h ih =>
    rw [segments_cons_cons]
    simp [htext, ih]

/-- No two texts are adjacent. -/
theorem not_literals_infix_segments {pieces : List String} (h : pieces.length % 2 = 1)
    (a b : String) : ¬ [.literal a, .literal b] <:+: segments false pieces := by
  induction pieces, h using pieces_induction with
  | one text =>
    intro hinfix
    have hlength := hinfix.length_le
    rw [segments_singleton, ofText] at hlength
    split at hlength <;> simp at hlength
  | more text expr rest h ih =>
    rw [segments_cons_cons, ofText]
    split <;> simp [List.infix_cons_iff, List.cons_prefix_cons, ih]

/-! ### Expansion -/

/-- Segments put together, with texts in the place of expressions. -/
def fill : List Segment → List String → String
  | [], _ => ""
  | .literal text :: segments, texts => text ++ fill segments texts
  | .expression _ :: segments, text :: texts => text ++ fill segments texts
  | .expression _ :: _, [] => ""

theorem fill_ofText_append (text : String) (segments : List Segment) (texts : List String) :
    fill (ofText text ++ segments) texts = text ++ fill segments texts := by
  unfold ofText
  split
  · next hempty => simp [String.isEmpty_iff.mp hempty]
  · rfl

/-- **Segments with texts in the place of expressions are the source with these texts.** -/
theorem replaces_fill {pieces : List String} (h : pieces.length % 2 = 1) :
    ∀ {texts : List String}, (∀ piece ∈ pieces, '\x60' ∉ piece.toList) →
      texts.length = (expressions false pieces).length →
        Replaces (['\x60'].intercalate (pieces.map String.toList))
          ((expressions false pieces).zip texts) (fill (segments false pieces) texts).toList := by
  induction pieces, h using pieces_induction with
  | one text =>
    intro texts hfree _
    have htext : fill (segments false [text]) texts = text := by
      have hfill := fill_ofText_append text [] texts
      rw [List.append_nil] at hfill
      rw [segments_singleton, hfill, fill, String.append_empty]
    rw [htext]
    simpa [expressions] using Replaces.rest (hfree text List.mem_cons_self)
  | more text expr rest h ih =>
    intro texts hfree hlength
    have hrest : rest.map String.toList ≠ [] := by simpa using ne_nil_of_odd h
    have hexprs : expressions false (text :: expr :: rest) = expr :: expressions false rest := rfl
    rw [hexprs, List.length_cons] at hlength
    obtain ⟨value, texts, rfl⟩ := List.exists_cons_of_length_eq_add_one hlength
    rw [List.forall_mem_cons, List.forall_mem_cons] at hfree
    have hholes := Replaces.hole (x := value) hfree.1 hfree.2.1
      (ih hfree.2.2 (Nat.succ.inj hlength))
    rw [segments_cons_cons, fill_ofText_append, fill, hexprs, List.map_cons, List.map_cons,
      List.intercalate_cons_of_ne_nil (List.cons_ne_nil _ _),
      List.intercalate_cons_of_ne_nil hrest]
    simpa using hholes

end TextTemplate

namespace Expansion

/-- **Segments expand to themselves with the texts of values in the place of expressions**, which
are evaluated once each, from left to right. -/
theorem run_expandSegments (b : Bindings) {segments : List Segment} :
    ∀ {values : List Json} {s t : Stream},
      ExceptT.run ((segments.flatMap Segment.used).mapM (Expression.evaluate b)) s =
          (.ok values, t) →
        ExceptT.run (expandSegments b segments) s =
          (.ok (TextTemplate.fill segments (values.map Json.interpolated)), t) := by
  induction segments with
  | nil =>
    intro values s t h
    cases h
    rfl
  | cons segment segments ih =>
    intro values s t h
    cases segment with
    | literal text =>
      rw [expandSegments, run_bind_of_ok (ih h)]
      rfl
    | expression expr =>
      change ExceptT.run ((expr :: segments.flatMap Segment.used).mapM (Expression.evaluate b)) s =
        _ at h
      rw [List.mapM_cons] at h
      obtain ⟨value, u, hvalue, h⟩ := run_bind_eq_ok.mp h
      obtain ⟨rest, v, hrest, h⟩ := run_bind_eq_ok.mp h
      cases h
      have hadapt : ExceptT.run ((Expression.evaluate b expr).adapt ExpansionError.evaluate) s =
          (.ok value, u) := by
        rw [run_adapt, hvalue]
        rfl
      rw [expandSegments, run_bind_of_ok hadapt, run_bind_of_ok (ih hrest)]
      rfl

end Expansion

namespace TextTemplate

open Text

/-! ### Templates of texts -/

variable {s : String}

/-- A text is what is written of its template. -/
theorem written_ofPieces_pieces (hodd : (pieces '\x60' s).length % 2 = 1) :
    (ofPieces (pieces '\x60' s)).written = s := by
  rw [← String.toList_inj, toList_written_ofPieces hodd, map_toList_pieces,
    List.intercalate_splitOn]

/-- A text is a template of its own exactly when it has no back-ticks. -/
theorem exists_literal_iff (hodd : (pieces '\x60' s).length % 2 = 1) :
    (∃ text, ofPieces (pieces '\x60' s) = .literal text) ↔ '\x60' ∉ s.toList := by
  have hcount : (pieces '\x60' s).length = 1 ↔ '\x60' ∉ s.toList := by
    rw [length_pieces, Nat.add_eq_right, List.count_eq_zero]
  rw [← hcount]
  rcases ofPieces_cases hodd with ⟨text, hpieces, hform⟩ | ⟨_, hpieces, hform⟩ | ⟨hmany, -, hform⟩
  · rw [hform, hpieces]
    simp
  · rw [hform, hpieces]
    simp
  · have hne : (pieces '\x60' s).length ≠ 1 := by omega
    simp [hform, hne]

/-- A template is a single expression exactly when its text is one between two back-ticks. -/
theorem exists_expression_iff (hodd : (pieces '\x60' s).length % 2 = 1) :
    (∃ expr, ofPieces (pieces '\x60' s) = .expression expr) ↔
      ∃ expr, s = "\x60" ++ expr ++ "\x60" ∧ '\x60' ∉ expr.toList := by
  constructor
  · rintro ⟨expr, hform⟩
    have hwritten := written_ofPieces_pieces hodd
    rcases ofPieces_cases hodd with ⟨_, -, hother⟩ | ⟨expr, hpieces, hform⟩ | ⟨-, -, hother⟩
    · rw [hform] at hother; cases hother
    · have hmem : expr ∈ pieces '\x60' s := by simp [hpieces]
      rw [hform] at hwritten
      exact ⟨expr, hwritten.symm, not_mem_of_mem_pieces hmem⟩
    · rw [hform] at hother; cases hother
  · rintro ⟨expr, rfl, hexpr⟩
    have hlist : ("\x60" ++ expr ++ "\x60").toList =
        [] ++ '\x60' :: (expr.toList ++ '\x60' :: []) := by simp
    have hpieces : pieces '\x60' ("\x60" ++ expr ++ "\x60") = ["", expr, ""] := by
      rw [pieces, piecesChars_eq_splitOn, hlist,
        List.splitOn_append_cons_self_of_not_mem List.not_mem_nil,
        List.splitOn_append_cons_self_of_not_mem hexpr]
      simp
    exact ⟨expr, by rw [hpieces]; rfl⟩

/-- **A text expands to itself with the texts of values in the place of its expressions.** -/
theorem run_expandText_segments (hodd : (pieces '\x60' s).length % 2 = 1) {b : Bindings}
    {t u : Stream} {values : List Json}
    (hvalues : ExceptT.run ((expressions false (pieces '\x60' s)).mapM (Expression.evaluate b)) t =
      (.ok values, u)) :
    ∃ text, ExceptT.run
        (Expansion.expandText b (.interpolated (segments false (pieces '\x60' s)))) t =
          (.ok (.string text), u) ∧
      Replaces s.toList
        ((expressions false (pieces '\x60' s)).zip (values.map Json.interpolated)) text.toList := by
  have hfree : ∀ piece ∈ pieces '\x60' s, '\x60' ∉ piece.toList := fun piece hpiece =>
    not_mem_of_mem_pieces hpiece
  have hlength : (values.map Json.interpolated).length =
      (expressions false (pieces '\x60' s)).length := by
    rw [List.length_map, length_of_run_mapM hvalues]
  have hreplaces := replaces_fill hodd hfree hlength
  rw [map_toList_pieces, List.intercalate_splitOn] at hreplaces
  rw [← used_segments hodd] at hvalues
  refine ⟨_, ?_, hreplaces⟩
  rw [Expansion.expandText, run_bind_of_ok (Expansion.run_expandSegments b hvalues)]
  rfl

/-- **A text is kept by its template.**  What is written of the template is the text.  The template
is a text of its own exactly when there are no back-ticks, and a single expression exactly when
there is one between two back-ticks and nothing else.  No expression is blank or has a back-tick in
it, no segment is an empty text, and no two texts are adjacent.  Where all expressions have values,
the template expands to the text with each expression replaced by the text of its value; they are
evaluated once each, from left to right. -/
theorem text_is_kept {template : TextTemplate} (h : compile s = .ok template) :
    template.written = s ∧
    ((∃ text, template = .literal text) ↔ '\x60' ∉ s.toList) ∧
    ((∃ expr, template = .expression expr) ↔
      ∃ expr, s = "\x60" ++ expr ++ "\x60" ∧ '\x60' ∉ expr.toList) ∧
    (∀ expr ∈ template.used, isAllBlank expr = false ∧ '\x60' ∉ expr.toList) ∧
    ∀ segments, template = .interpolated segments →
      .literal "" ∉ segments ∧ (∀ a b, ¬ [.literal a, .literal b] <:+: segments) ∧
      ∀ (b : Bindings) (t u : Stream) (values : List Json),
        ExceptT.run (template.used.mapM (Expression.evaluate b)) t = (.ok values, u) →
          ∃ text, ExceptT.run (Expansion.expandText b template) t = (.ok (.string text), u) ∧
            Replaces s.toList (template.used.zip (values.map Json.interpolated)) text.toList := by
  rw [compile_eq] at h
  by_cases hticked : IsTicked s
  case neg => rw [if_neg hticked] at h; cases h
  rw [if_pos hticked] at h
  cases h
  obtain ⟨hlength, hblank⟩ := isTicked_iff.mp hticked
  have hodd : (pieces '\x60' s).length % 2 = 1 := by omega
  have hused := used_ofPieces hodd
  refine ⟨written_ofPieces_pieces hodd, exists_literal_iff hodd, exists_expression_iff hodd,
    fun expr hexpr => ?_, fun segments hform => ?_⟩
  · rw [hused] at hexpr
    have hnot := List.any_eq_false.mp hblank expr hexpr
    obtain ⟨before, after, hsplit, -⟩ := mem_expressions_iff.mp hexpr
    have hpiece : expr ∈ pieces '\x60' s := by simp [hsplit]
    exact ⟨Bool.eq_false_iff.mpr hnot, not_mem_of_mem_pieces hpiece⟩
  · rcases ofPieces_cases hodd with ⟨_, -, hother⟩ | ⟨_, -, hother⟩ | ⟨-, -, hsegments⟩
    · rw [hform] at hother; cases hother
    · rw [hform] at hother; cases hother
    rw [hform] at hsegments
    cases hsegments
    refine ⟨literal_empty_not_mem_segments hodd, not_literals_infix_segments hodd, ?_⟩
    intro b t u values hvalues
    rw [hused] at hvalues ⊢
    rw [hform]
    exact run_expandText_segments hodd hvalues

/-- Two expressions without text between them, the first of which draws, and some text before a
third one. -/
def tally : String := "\x60random() < 1\x60\x601 + 1\x60 of \x602\x60"

theorem text_is_kept_tally :
    ∃ segments values text u, compile tally = .ok (.interpolated segments) ∧
      segments = [.expression "random() < 1", .expression "1 + 1", .literal " of ",
        .expression "2"] ∧
      String.join (segments.map Segment.written) = tally ∧
      ExceptT.run ((segments.flatMap Segment.used).mapM (Expression.evaluate .empty))
        (.ofSeed 0) = (.ok values, u) ∧
      ExceptT.run (Expansion.expandText .empty (.interpolated segments)) (.ofSeed 0) =
        (.ok (.string text), u) ∧
      Replaces tally.toList [("random() < 1", "true"), ("1 + 1", "2"), ("2", "2")] text.toList := by
  let segments : List Segment :=
    [.expression "random() < 1", .expression "1 + 1", .literal " of ", .expression "2"]
  have hcompile : compile tally = .ok (.interpolated segments) := by rfl
  obtain ⟨values, hvalues, htexts⟩ := exists_run_of_any
    (x := (segments.flatMap Segment.used).mapM (Expression.evaluate .empty)) (s := .ofSeed 0)
    (p := fun values => values.map Json.interpolated = ["true", "2", "2"]) (by decide +kernel)
  obtain ⟨hwritten, -, -, -, hsegments⟩ := text_is_kept hcompile
  obtain ⟨-, -, hexpand⟩ := hsegments segments rfl
  obtain ⟨text, hrun, hreplaces⟩ := hexpand .empty _ _ values hvalues
  rw [of_decide_eq_true htexts] at hreplaces
  exact ⟨segments, values, text, _, hcompile, rfl, hwritten, hvalues, hrun, hreplaces⟩

end TextTemplate

end OpticScene
