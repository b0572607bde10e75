import OpticScene.Expression
import OpticScene.Proofs.Draws

/-!
# Carets are powers

An expression may be written with `^` or with `**`: before it is read, every caret becomes two
stars, unless it stands in a literal.  Literals are found by a scan that only knows the quote around
a character and whether a backslash precedes it.  Here a text is divided by a grammar instead, and
the scan is proved to do what the grammar says.

A second scan finds the same literals as the first: what is written in the place of a caret is no
quote and no backslash, so that it can neither open nor close one.

## Main definitions

* `Expression.Closed`, `Expression.Unclosed` — what stands behind the quote that opens a literal.
* `Expression.Powers` — a text, and the text in which its carets are two stars.

## Main results

* `Expression.powers_iff` — **the scan finds the literals of the grammar.**
* `Expression.Powers.fixed` — a text in which carets are two stars has none that is left to write.
* `Expression.expandCarets_eq` — texts without carets need no scan.
* `Expression.caret_is_power` — either way to write a power gives the same value, draws and failure.
-/

namespace OpticScene.Expression

open OpticScene.Random (Stream)

/-! ### Literals -/

/-- A character that opens a literal. -/
def IsQuote (c : Char) : Prop := c = '"' ∨ c = '\'' ∨ c = '\x60'

/-- What stands behind an opening quote, up to the quote that closes the literal and with it.  A
character behind a backslash does not close anything. -/
inductive Closed (quote : Char) : List Char → Prop
  /-- The literal is closed. -/
  | close : Closed quote [quote]
  /-- A backslash and what follows it belong to the literal. -/
  | escaped {cs : List Char} (c : Char) : Closed quote cs → Closed quote ('\\' :: c :: cs)
  /-- Any other character belongs to the literal. -/
  | plain {c : Char} {cs : List Char} : c ≠ '\\' → c ≠ quote → Closed quote cs →
      Closed quote (c :: cs)

/-- What stands behind an opening quote when nothing closes the literal, up to the end. -/
inductive Unclosed (quote : Char) : List Char → Prop
  /-- The text ends. -/
  | nil : Unclosed quote []
  /-- The text ends with a backslash. -/
  | backslash : Unclosed quote ['\\']
  /-- A backslash and what follows it belong to the literal. -/
  | escaped {cs : List Char} (c : Char) : Unclosed quote cs → Unclosed quote ('\\' :: c :: cs)
  /-- Any other character belongs to the literal. -/
  | plain {c : Char} {cs : List Char} : c ≠ '\\' → c ≠ quote → Unclosed quote cs →
      Unclosed quote (c :: cs)

/-- What stands behind an opening quote is either closed somewhere or nowhere. -/
theorem exists_closed_or_unclosed (quote : Char) : ∀ cs : List Char,
    (∃ body rest, cs = body ++ rest ∧ Closed quote body) ∨ Unclosed quote cs
  | [] => .inr .nil
  | c :: cs => by
    by_cases hbackslash : c = '\\'
    · subst hbackslash
      -- a backslash takes the next character with it, if there is one
      match cs with
      | [] => exact .inr .backslash
      | d :: cs =>
        rcases exists_closed_or_unclosed quote cs with ⟨body, rest, rfl, hbody⟩ | h
        · exact .inl ⟨'\\' :: d :: body, rest, rfl, hbody.escaped d⟩
        · exact .inr (h.escaped d)
    · by_cases hquote : c = quote
      · subst hquote
        exact .inl ⟨[c], cs, rfl, .close⟩
      · rcases exists_closed_or_unclosed quote cs with ⟨body, rest, rfl, hbody⟩ | h
        · exact .inl ⟨c :: body, rest, rfl, hbody.plain hbackslash hquote⟩
        · exact .inr (h.plain hbackslash hquote)

/-! ### Texts -/

/-- A text, and the text in which its carets are two stars.  Literals stay as they are, and so does
everything that is neither a caret nor a literal. -/
inductive Powers : List Char → List Char → Prop
  /-- The text ends. -/
  | nil : Powers [] []
  /-- A caret outside of literals. -/
  | caret {cs ds : List Char} : Powers cs ds → Powers ('^' :: cs) ('*' :: '*' :: ds)
  /-- Any other character outside of literals. -/
  | plain {c : Char} {cs ds : List Char} : c ≠ '^' → ¬ IsQuote c → Powers cs ds →
      Powers (c :: cs) (c :: ds)
  /-- A literal. -/
  | literal {quote : Char} {body cs ds : List Char} : IsQuote quote → Closed quote body →
      Powers cs ds → Powers (quote :: (body ++ cs)) (quote :: (body ++ ds))
  /-- A literal that runs to the end. -/
  | unclosed {quote : Char} {body : List Char} : IsQuote quote → Unclosed quote body →
      Powers (quote :: body) (quote :: body)

/-- A text in which carets are two stars has no caret that is left to write. -/
theorem Powers.fixed {cs ds : List Char} (h : Powers cs ds) : Powers ds ds := by
  have hstar : ¬ IsQuote '*' := by simp [IsQuote]
  induction h with
  | nil => exact .nil
  | caret _ ih => exact (ih.plain (by decide) hstar).plain (by decide) hstar
  | plain hcaret hquote _ ih => exact ih.plain hcaret hquote
  | literal hquote hbody _ ih => exact ih.literal hquote hbody
  | unclosed hquote hbody => exact .unclosed hquote hbody

/-! ### The scan -/

/-- The scan leaves a literal as it is, and goes on behind it. -/
theorem Closed.expandCaretsFrom_append {quote : Char} {body : List Char} (h : Closed quote body)
    (hquote : IsQuote quote) (cs : List Char) :
    expandCaretsFrom (some quote) false (body ++ cs) = body ++ expandCaretsFrom none false cs := by
  induction h with
  | close =>
    have hbackslash : quote ≠ '\\' := by
      rintro rfl
      simp [IsQuote] at hquote
    simp [expandCaretsFrom, hbackslash]
  | escaped c _ ih => simp [expandCaretsFrom, ih]
  | plain hbackslash hne _ ih => simp [expandCaretsFrom, hbackslash, hne, ih]

/-- The scan leaves a literal that runs to the end as it is. -/
theorem Unclosed.expandCaretsFrom_eq {quote : Char} {body : List Char} (h : Unclosed quote body) :
    expandCaretsFrom (some quote) false body = body := by
  induction h with
  | nil => rfl
  | backslash => simp [expandCaretsFrom]
  | escaped c _ ih => simp [expandCaretsFrom, ih]
  | plain hbackslash hne _ ih => simp [expandCaretsFrom, hbackslash, hne, ih]

/-- Outside of literals, the scan looks at one character at a time. -/
theorem expandCaretsFrom_cons_of_isQuote {quote : Char} (h : IsQuote quote) (cs : List Char) :
    expandCaretsFrom none false (quote :: cs) =
      quote :: expandCaretsFrom (some quote) false cs := by
  rcases h with rfl | rfl | rfl <;> simp [expandCaretsFrom]

theorem expandCaretsFrom_cons_of_not_isQuote {c : Char} (hcaret : c ≠ '^') (h : ¬ IsQuote c)
    (cs : List Char) :
    expandCaretsFrom none false (c :: cs) = c :: expandCaretsFrom none false cs := by
  simp only [IsQuote, not_or] at h
  simp [expandCaretsFrom, hcaret, h]

/-- What the grammar says about a text, the scan does. -/
theorem Powers.eq_expandCaretsFrom {cs ds : List Char} (h : Powers cs ds) :
    ds = expandCaretsFrom none false cs := by
  induction h with
  | nil => rfl
  | caret _ ih => simp [expandCaretsFrom, ih]
  | plain hcaret hquote _ ih => rw [expandCaretsFrom_cons_of_not_isQuote hcaret hquote, ih]
  | literal hquote hbody _ ih =>
    rw [expandCaretsFrom_cons_of_isQuote hquote, hbody.expandCaretsFrom_append hquote, ih]
  | unclosed hquote hbody =>
    rw [expandCaretsFrom_cons_of_isQuote hquote, hbody.expandCaretsFrom_eq]

/-- The grammar has something to say about every text. -/
theorem exists_powers (cs : List Char) : ∃ ds, Powers cs ds := by
  -- on the length, since a literal is left behind in one step
  induction hn : cs.length using Nat.strongRecOn generalizing cs with
  | _ n ih =>
    cases cs with
    | nil => exact ⟨[], .nil⟩
    | cons c cs =>
      rw [List.length_cons] at hn
      by_cases hquote : IsQuote c
      · rcases exists_closed_or_unclosed c cs with ⟨body, rest, rfl, hbody⟩ | hbody
        · have hlt : rest.length < n := by
            rw [List.length_append] at hn
            omega
          obtain ⟨ds, hds⟩ := ih rest.length hlt rest rfl
          exact ⟨c :: (body ++ ds), hds.literal hquote hbody⟩
        · exact ⟨c :: cs, .unclosed hquote hbody⟩
      · obtain ⟨ds, hds⟩ := ih cs.length (by omega) cs rfl
        by_cases hcaret : c = '^'
        · subst hcaret
          exact ⟨'*' :: '*' :: ds, hds.caret⟩
        · exact ⟨c :: ds, hds.plain hcaret hquote⟩

/-- **The scan finds the literals of the grammar**: it writes each caret outside of them as two
stars, and nothing else changes. -/
theorem powers_iff {cs ds : List Char} : Powers cs ds ↔ ds = expandCaretsFrom none false cs := by
  constructor
  · exact Powers.eq_expandCaretsFrom
  · rintro rfl
    obtain ⟨ds, h⟩ := exists_powers cs
    exact h.eq_expandCaretsFrom ▸ h

/-- A text without carets stays as it is, wherever the scan is. -/
theorem expandCaretsFrom_of_not_mem (quote : Option Char) (escaped : Bool) {cs : List Char}
    (h : '^' ∉ cs) : expandCaretsFrom quote escaped cs = cs := by
  induction cs generalizing quote escaped with
  | nil => rw [expandCaretsFrom]
  | cons c cs ih =>
    obtain ⟨hc, hcs⟩ := not_or.mp fun hm => h (List.mem_cons.mpr hm)
    have hrest := fun quote escaped => ih quote escaped hcs
    cases quote with
    | none =>
      rw [expandCaretsFrom, if_neg (Ne.symm hc), hrest, hrest]
      split <;> rfl
    | some q =>
      cases escaped with
      | true => rw [expandCaretsFrom, hrest]
      | false =>
        rw [expandCaretsFrom, hrest, hrest, hrest]
        split
        · rfl
        · split <;> rfl

/-- **Texts without carets need no scan.** -/
theorem expandCarets_eq (s : String) :
    expandCarets s = String.ofList (expandCaretsFrom none false s.toList) := by
  unfold expandCarets
  split
  · rfl
  · next h =>
    have hcaret : '^' ∉ s.toList := by simpa using h
    rw [expandCaretsFrom_of_not_mem none false hcaret, String.ofList_toList]

theorem expandCarets_expandCarets (s : String) :
    expandCarets (expandCarets s) = expandCarets s := by
  have hpowers : Powers s.toList (expandCarets s).toList := by
    rw [powers_iff, expandCarets_eq, String.toList_ofList]
  rw [expandCarets_eq (expandCarets s), ← powers_iff.mp hpowers.fixed, String.ofList_toList]

/-! ### Expressions -/

/-- The value of an expression, or why it has none, does not depend on how powers are written. -/
theorem value_expandCarets (b : Bindings) (s : String) : value b (expandCarets s) = value b s := by
  unfold value
  rw [expandCarets_expandCarets]

/-- **Writing `^` or `**` is the same thing.**  Exactly the carets outside of literals become two
stars, by one scan as by two, and by the scan alone as by the short cut for texts without carets.
An expression has the same value, the same draws and the same failure as the one in which its
powers are written with stars; only the text that an error quotes is the one that was given. -/
theorem caret_is_power (s : String) :
    (∀ ds, Powers s.toList ds ↔ ds = (expandCarets s).toList) ∧
    expandCarets (expandCarets s) = expandCarets s ∧
    expandCarets s = String.ofList (expandCaretsFrom none false s.toList) ∧
    ∀ (b : Bindings) (t : Stream),
      ExceptT.run (evaluate b (expandCarets s)) t =
        ((ExceptT.run (evaluate b s) t).1.mapError fun e => ⟨expandCarets s, e.message⟩,
          (ExceptT.run (evaluate b s) t).2) := by
  refine ⟨fun ds => ?_, expandCarets_expandCarets s, expandCarets_eq s, fun b t => ?_⟩
  · rw [powers_iff, expandCarets_eq, String.toList_ofList]
  · unfold evaluate
    rw [value_expandCarets, run_adapt, run_adapt]
    cases (ExceptT.run (value b s) t).1 with
    | ok v => rfl
    | error cause => rfl

/-- A caret behind an escaped quote, one between other quotes, and two outside of literals. -/
example : expandCarets "\"a\\\"^\" + '^' + n^2^k" = "\"a\\\"^\" + '^' + n**2**k" := by
  decide +kernel

end OpticScene.Expression
