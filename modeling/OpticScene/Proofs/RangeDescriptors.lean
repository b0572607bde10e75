import Mathlib.Data.List.Forall2
import Mathlib.Data.List.TakeWhile
import OpticScene.Range
import OpticScene.Proofs.Draws
import OpticScene.Proofs.TickedText

/-!
# Range descriptors

A descriptor is a name, an equals sign and three or four fields between colons; blanks around the
name and the fields do not count.  A descriptor that is not written so is refused before anything is
evaluated.  Otherwise the fields are expressions, evaluated one after the other in the bindings
given: the variable of the range is not among them, and no field sees what another one stands for.
The first field that is no number decides the failure.

## Main definitions

* `Text.Trims` — a text without the blanks at its two ends.
* `Range.IsIdentifier` — the names that a variable may have.
* `Range.Splits`, `Range.HasFields`, `Range.Declares` — how a descriptor is written.
* `Range.Reads` — fields evaluated from left to right, once each.
* `Range.Rejects`, `Range.Accepts` — what is wrong with a descriptor, and which range it gives.

## Main results

* `Text.trim_eq_iff`, `Text.cut?_eq_some_iff`, `Text.pieces_eq_iff` — trimming and cutting, told by
  what is put together again.
* `Range.isName_iff` — identifiers are made of ASCII letters, digits and underscores.
* `Range.reads_iff` — **fields are evaluated in their order.**
* `Range.descriptor_decides_outcome` — **which descriptors are refused, for which cause and after
  which draws, and what the others give.**
-/

namespace OpticScene

open OpticScene.Random (Draws Stream)

/-! ### Texts -/

namespace Text

variable {s t : String} {sep : Char}

/-- A text without the blanks at its two ends. -/
structure Trims (s t : String) : Prop where
  /-- Only blanks are left out, at the front and at the back. -/
  around : ∃ front back, s.toList = front ++ (t.toList ++ back) ∧
    (∀ c ∈ front, isBlank c = true) ∧ ∀ c ∈ back, isBlank c = true
  /-- It does not begin with a blank. -/
  head : ∀ c ∈ t.toList.head?, isBlank c = false
  /-- It does not end with a blank. -/
  last : ∀ c ∈ t.toList.getLast?, isBlank c = false

/-- What is left without the blanks at the front begins with no blank. -/
theorem trimStart_eq_iff {cs ds : List Char} :
    trimStart cs = ds ↔ ∃ front, cs = front ++ ds ∧ (∀ c ∈ front, isBlank c = true) ∧
      ∀ c ∈ ds.head?, isBlank c = false := by
  constructor
  · rintro rfl
    refine ⟨cs.takeWhile isBlank, List.takeWhile_append_dropWhile.symm,
      fun c hc => List.mem_takeWhile_imp hc, fun c hc => ?_⟩
    have hhead := List.head?_dropWhile_not isBlank cs
    rw [show (cs.dropWhile isBlank).head? = some c from hc] at hhead
    exact hhead
  · rintro ⟨front, rfl, hfront, hhead⟩
    rw [trimStart, List.dropWhile_append_of_pos hfront]
    cases ds with
    | nil => rfl
    | cons d ds => exact List.dropWhile_cons_of_neg (by simp [hhead d rfl])

/-- **Trimming takes away all blanks at the two ends of a text, and nothing else.** -/
theorem trim_eq_iff : trim s = t ↔ Trims s t := by
  rw [trim, ← String.toList_inj, String.toList_ofList, trimChars]
  constructor
  · intro ht
    obtain ⟨front, hs, hfront, hhead⟩ := trimStart_eq_iff.mp (Eq.refl (trimStart s.toList))
    obtain ⟨back, hmid, hback, hlast⟩ :=
      trimStart_eq_iff.mp (List.reverse_eq_iff.mp ht)
    rw [List.reverse_eq_iff, List.reverse_append, List.reverse_reverse] at hmid
    rw [hmid] at hs hhead
    refine ⟨⟨front, back.reverse, hs, hfront, fun c hc => hback c (List.mem_reverse.mp hc)⟩,
      fun c hc => hhead c ?_, fun c hc => hlast c ?_⟩
    · rw [List.head?_append, Option.mem_def.mp hc]
      rfl
    · rwa [List.head?_reverse]
  · rintro ⟨⟨front, back, hs, hfront, hback⟩, hhead, hlast⟩
    rw [List.reverse_eq_iff, trimStart_eq_iff]
    by_cases hempty : t.toList = []
    · -- there are only blanks, so that all of them are left out at the front
      have hall : ∀ c ∈ s.toList, isBlank c = true := by
        rw [hs, hempty, List.nil_append]
        exact List.forall_mem_append.mpr ⟨hfront, hback⟩
      have hstart : trimStart s.toList = [] :=
        trimStart_eq_iff.mpr ⟨s.toList, (List.append_nil _).symm, hall, by simp⟩
      rw [hstart, hempty]
      exact ⟨[], rfl, by simp, by simp⟩
    · have hstart : trimStart s.toList = t.toList ++ back := by
        refine trimStart_eq_iff.mpr ⟨front, hs, hfront, fun c hc => hhead c ?_⟩
        obtain ⟨d, ds, hd⟩ := List.exists_cons_of_ne_nil hempty
        rw [hd] at hc ⊢
        exact hc
      rw [hstart, List.reverse_append]
      refine ⟨back.reverse, rfl, fun c hc => hback c (List.mem_reverse.mp hc), fun c hc => ?_⟩
      rw [List.head?_reverse] at hc
      exact hlast c hc

theorem cutChars?_eq_none_iff {cs : List Char} : cutChars? sep cs = none ↔ sep ∉ cs := by
  induction cs with
  | nil => simp [cutChars?]
  | cons c cs ih =>
    rw [cutChars?]
    by_cases h : c = sep
    · simp [h]
    · simp [h, ih, Ne.symm h]

theorem cutChars?_eq_some_iff {cs before after : List Char} :
    cutChars? sep cs = some (before, after) ↔ cs = before ++ sep :: after ∧ sep ∉ before := by
  induction cs generalizing before with
  | nil => simp [cutChars?]
  | cons c cs ih =>
    rw [cutChars?]
    by_cases hc : c = sep
    · rw [if_pos hc]
      subst hc
      constructor
      · intro h
        cases h
        exact ⟨rfl, List.not_mem_nil⟩
      · rintro ⟨h, hfree⟩
        cases before with
        | nil => cases h; rfl
        | cons d before => cases h; exact absurd List.mem_cons_self hfree
    · rw [if_neg hc, Option.map_eq_some_iff]
      constructor
      · rintro ⟨⟨before, after⟩, h, heq⟩
        cases heq
        obtain ⟨rfl, hfree⟩ := ih.mp h
        exact ⟨rfl, List.not_mem_cons_of_ne_of_not_mem (Ne.symm hc) hfree⟩
      · rintro ⟨h, hfree⟩
        cases before with
        | nil => cases h; exact absurd rfl hc
        | cons d before =>
          cases h
          have hrest : sep ∉ before := fun hmem => hfree (List.mem_cons_of_mem _ hmem)
          exact ⟨(before, after), ih.mpr ⟨rfl, hrest⟩, rfl⟩

/-- A text is not cut where no separator stands. -/
theorem cut?_eq_none_iff : cut? sep s = none ↔ sep ∉ s.toList := by
  rw [cut?, Option.map_eq_none_iff, cutChars?_eq_none_iff]

/-- **A text is cut at its first separator.** -/
theorem cut?_eq_some_iff {before after : String} :
    cut? sep s = some (before, after) ↔
      s.toList = before.toList ++ sep :: after.toList ∧ sep ∉ before.toList := by
  rw [← cutChars?_eq_some_iff, cut?, Option.map_eq_some_iff]
  constructor
  · rintro ⟨⟨cs, ds⟩, h, heq⟩
    cases heq
    rw [h, String.toList_ofList, String.toList_ofList]
  · intro h
    exact ⟨_, h, by rw [String.ofList_toList, String.ofList_toList]⟩

/-- **The pieces of a text are what has no separator in it and makes up the text again.** -/
theorem pieces_eq_iff {ps : List String} :
    pieces sep s = ps ↔ ps ≠ [] ∧ (∀ p ∈ ps, sep ∉ p.toList) ∧
      s.toList = [sep].intercalate (ps.map String.toList) := by
  constructor
  · rintro rfl
    refine ⟨fun hnil => ?_, fun p hp => not_mem_of_mem_pieces hp, ?_⟩
    · have hsplit := map_toList_pieces sep s
      rw [hnil] at hsplit
      exact List.splitOn_ne_nil _ _ hsplit.symm
    · rw [map_toList_pieces, List.intercalate_splitOn]
  · rintro ⟨hne, hfree, hs⟩
    have hinj : ∀ p q : String, p.toList = q.toList → p = q := fun _ _ => String.toList_inj.mp
    rw [← List.map_inj_right hinj, map_toList_pieces, hs]
    exact List.splitOn_intercalate sep (List.forall_mem_map.mpr hfree) (by simpa using hne)

end Text

namespace Range

open Text

variable {b : Bindings} {d name rest : String} {fields : List String} {s t : Stream}

/-! ### How descriptors are written -/

/-- An ASCII letter. -/
def IsLetter (c : Char) : Prop := ('A' ≤ c ∧ c ≤ 'Z') ∨ ('a' ≤ c ∧ c ≤ 'z')

/-- An ASCII digit. -/
def IsDigit (c : Char) : Prop := '0' ≤ c ∧ c ≤ '9'

/-- The names that a variable may have: they begin with a letter or an underscore and go on with
letters, digits and underscores. -/
def IsIdentifier (name : String) : Prop :=
  ∃ c cs, name.toList = c :: cs ∧ (IsLetter c ∨ c = '_') ∧
    ∀ d ∈ cs, IsLetter d ∨ IsDigit d ∨ d = '_'

/-- A descriptor is cut at its first equals sign.  Blanks around what stands before it do not
count. -/
def Splits (d name rest : String) : Prop :=
  ∃ before : String, d.toList = before.toList ++ '=' :: rest.toList ∧ '=' ∉ before.toList ∧
    Trims before name

/-- The fields of a text stand between its colons.  Blanks around them do not count. -/
def HasFields (rest : String) (fields : List String) : Prop :=
  ∃ pieces : List String, pieces ≠ [] ∧ (∀ p ∈ pieces, ':' ∉ p.toList) ∧
    rest.toList = [':'].intercalate (pieces.map String.toList) ∧ List.Forall₂ Trims pieces fields

/-- A descriptor is written as it should be, with this name and these fields. -/
def Declares (d name : String) (fields : List String) : Prop :=
  ∃ rest, Splits d name rest ∧ IsIdentifier name ∧ HasFields rest fields ∧
    (fields.length = 3 ∨ fields.length = 4)

theorem between_iff {c first last : Char} :
    (decide (first ≤ c) && decide (c ≤ last)) = true ↔ first ≤ c ∧ c ≤ last := by
  rw [Bool.and_eq_true, decide_eq_true_iff, decide_eq_true_iff]

theorem isAlpha_iff {c : Char} : c.isAlpha = true ↔ IsLetter c := by
  have hupper : c.isUpper = true ↔ 'A' ≤ c ∧ c ≤ 'Z' := decide_eq_true_iff
  have hlower : c.isLower = true ↔ 'a' ≤ c ∧ c ≤ 'z' := between_iff
  change (c.isUpper || c.isLower) = true ↔ IsLetter c
  rw [Bool.or_eq_true, hupper, hlower, IsLetter]

theorem isAlphanum_iff {c : Char} : c.isAlphanum = true ↔ IsLetter c ∨ IsDigit c := by
  have hdigit : c.isDigit = true ↔ IsDigit c := between_iff
  change (c.isAlpha || c.isDigit) = true ↔ IsLetter c ∨ IsDigit c
  rw [Bool.or_eq_true, isAlpha_iff, hdigit]

/-- **Identifiers are made of ASCII letters, digits and underscores.** -/
theorem isName_iff : isName name = true ↔ IsIdentifier name := by
  unfold isName IsIdentifier
  cases name.toList with
  | nil => simp
  | cons c cs =>
    have hfirst : (c.isAlpha || c = '_') = true ↔ IsLetter c ∨ c = '_' := by
      simp [isAlpha_iff]
    have hrest : (cs.all fun d => d.isAlphanum || d = '_') = true ↔
        ∀ d ∈ cs, IsLetter d ∨ IsDigit d ∨ d = '_' := by
      simp [isAlphanum_iff, or_assoc]
    dsimp only
    rw [Bool.and_eq_true, hfirst, hrest]
    constructor
    · rintro ⟨hc, hcs⟩
      exact ⟨c, cs, rfl, hc, hcs⟩
    · rintro ⟨_, _, h, hc, hcs⟩
      cases h
      exact ⟨hc, hcs⟩

theorem forall₂_trims_iff {pieces : List String} :
    List.Forall₂ Trims pieces fields ↔ pieces.map trim = fields := by
  have htrims : Trims = fun s t => trim s = t := by
    funext s t
    exact propext trim_eq_iff.symm
  rw [htrims, ← List.forall₂_map_left_iff (R := (· = ·)) (f := trim), List.forall₂_eq_eq_eq]

/-- There is exactly one way to take the fields out of a text. -/
theorem hasFields_iff : HasFields rest fields ↔ (pieces ':' rest).map trim = fields := by
  unfold HasFields
  constructor
  · rintro ⟨ps, hne, hfree, hrest, hfields⟩
    rw [pieces_eq_iff.mpr ⟨hne, hfree, hrest⟩]
    exact forall₂_trims_iff.mp hfields
  · intro h
    obtain ⟨hne, hfree, hrest⟩ := pieces_eq_iff.mp (Eq.refl (pieces ':' rest))
    exact ⟨_, hne, hfree, hrest, forall₂_trims_iff.mpr h⟩

theorem splits_iff : Splits d name rest ↔
    ∃ before, cut? '=' d = some (before, rest) ∧ trim before = name := by
  unfold Splits
  constructor
  · rintro ⟨before, hd, hfree, hname⟩
    exact ⟨before, cut?_eq_some_iff.mpr ⟨hd, hfree⟩, trim_eq_iff.mpr hname⟩
  · rintro ⟨before, hcut, hname⟩
    obtain ⟨hd, hfree⟩ := cut?_eq_some_iff.mp hcut
    exact ⟨before, hd, hfree, trim_eq_iff.mp hname⟩

theorem splitName_of_cut {before after : String} (hcut : cut? '=' d = some (before, after)) :
    splitName d =
      if isName (trim before) = true then .ok (trim before, after)
      else .error (.invalidName (trim before)) := by
  rw [splitName, hcut]

theorem splitName_eq_ok_iff :
    splitName d = .ok (name, rest) ↔ Splits d name rest ∧ IsIdentifier name := by
  rw [splits_iff, ← isName_iff]
  constructor
  · intro h
    rcases hcut : cut? '=' d with _ | ⟨before, after⟩
    · rw [splitName, hcut] at h
      cases h
    · rw [splitName_of_cut hcut] at h
      split at h
      · next hname =>
        cases h
        exact ⟨⟨before, rfl, rfl⟩, hname⟩
      · cases h
  · rintro ⟨⟨before, hcut, rfl⟩, hname⟩
    rw [splitName_of_cut hcut, if_pos hname]

/-- What is wrong with a descriptor before its fields are looked at. -/
theorem splitName_eq_error_iff {cause : Cause} : splitName d = .error cause ↔
    match cause with
    | .missingEquals => '=' ∉ d.toList
    | .invalidName name => (∃ rest, Splits d name rest) ∧ ¬ IsIdentifier name
    | _ => False := by
  simp only [splits_iff, ← isName_iff, ← cut?_eq_none_iff]
  rcases hcut : cut? '=' d with _ | ⟨before, after⟩
  · rw [splitName, hcut]
    cases cause <;> simp
  · rw [splitName_of_cut hcut]
    by_cases hname : isName (trim before) = true
    · rw [if_pos hname]
      cases cause with
      | invalidName name =>
        refine iff_of_false (fun h => nomatch h) ?_
        rintro ⟨⟨_, _, h, rfl⟩, hnot⟩
        cases h
        exact hnot hname
      | _ => simp
    · rw [if_neg hname]
      cases cause with
      | invalidName name =>
        constructor
        · intro h
          cases h
          exact ⟨⟨after, before, rfl, rfl⟩, hname⟩
        · rintro ⟨⟨_, _, h, rfl⟩, -⟩
          cases h
          rfl
      | _ => simp

theorem splitFields_eq_ok_iff {start step stop : String} {default : Option String} :
    splitFields rest = .ok (start, step, stop, default) ↔
      pieces ':' rest = start :: step :: stop :: default.toList := by
  unfold splitFields
  split
  · next h =>
    rw [h]
    cases default <;> simp
  · next h =>
    rw [h]
    cases default <;> simp
  · next h3 h4 =>
    refine iff_of_false (fun h => nomatch h) fun h => ?_
    cases default with
    | none => exact h3 _ _ _ h
    | some default => exact h4 _ _ _ _ h

/-- What is wrong with the fields before they are evaluated. -/
theorem splitFields_eq_error_iff {cause : Cause} : splitFields rest = .error cause ↔
    match cause with
    | .fieldCount count => (∃ fields, HasFields rest fields ∧ fields.length = count) ∧
        count ≠ 3 ∧ count ≠ 4
    | _ => False := by
  have hcount : ∀ count, (∃ fields, HasFields rest fields ∧ fields.length = count) ↔
      (pieces ':' rest).length = count := by
    intro count
    simp [hasFields_iff]
  simp only [hcount]
  unfold splitFields
  split
  · next h =>
    rw [h]
    cases cause <;> simp
    omega
  · next h =>
    rw [h]
    cases cause <;> simp
    omega
  · next h3 h4 =>
    have hne3 : (pieces ':' rest).length ≠ 3 := by
      intro hlength
      obtain ⟨p, q, r, h⟩ := List.length_eq_three.mp hlength
      exact h3 p q r h
    have hne4 : (pieces ':' rest).length ≠ 4 := by
      intro hlength
      obtain ⟨p, q, r, u, h⟩ := List.length_eq_four.mp hlength
      exact h4 p q r u h
    cases cause with
    | fieldCount count =>
      constructor
      · intro h
        cases h
        exact ⟨rfl, hne3, hne4⟩
      · rintro ⟨rfl, -⟩
        rfl
    | _ => simp

/-- Fields can be split off exactly when there are three or four of them. -/
theorem exists_splitFields_iff : (∃ parts, splitFields rest = .ok parts) ↔
    (pieces ':' rest).length = 3 ∨ (pieces ':' rest).length = 4 := by
  constructor
  · rintro ⟨⟨start, step, stop, default⟩, h⟩
    rw [splitFields_eq_ok_iff.mp h]
    cases default <;> simp
  · intro hlength
    rcases h : splitFields rest with cause | parts
    · have hcause := splitFields_eq_error_iff.mp h
      cases cause with
      | fieldCount count =>
        obtain ⟨⟨fields, hfields, rfl⟩, hne3, hne4⟩ := hcause
        rw [← hasFields_iff.mp hfields, List.length_map] at hne3 hne4
        omega
      | _ => exact hcause.elim
    · exact ⟨parts, rfl⟩

theorem declares_iff : Declares d name fields ↔
    ∃ rest parts, splitName d = .ok (name, rest) ∧ splitFields rest = .ok parts ∧
      (pieces ':' rest).map trim = fields := by
  unfold Declares
  constructor
  · rintro ⟨rest, hsplits, hname, hfields, hlength⟩
    rw [hasFields_iff] at hfields
    rw [← hfields, List.length_map] at hlength
    obtain ⟨parts, hparts⟩ := exists_splitFields_iff.mpr hlength
    exact ⟨rest, parts, splitName_eq_ok_iff.mpr ⟨hsplits, hname⟩, hparts, hfields⟩
  · rintro ⟨rest, parts, hname, hparts, rfl⟩
    obtain ⟨hsplits, hname⟩ := splitName_eq_ok_iff.mp hname
    have hlength := exists_splitFields_iff.mp ⟨parts, hparts⟩
    rw [← List.length_map (f := trim)] at hlength
    exact ⟨rest, hsplits, hname, hasFields_iff.mpr rfl, hlength⟩

/-! ### Fields in their order -/

/-- The fields in the order in which they are written. -/
def Field.order : List Field := [.start, .step, .stop, .default]

/-- Fields are evaluated one after the other, each once and in the same bindings; every evaluation
goes on in the stream where the one before it stopped. -/
inductive Reads (b : Bindings) : (fields : List String) → (s : Stream) → (xs : List Float) →
    (t : Stream) → Prop
  /-- There is no field left. -/
  | nil {s : Stream} : Reads b [] s [] s
  /-- The next field is a number. -/
  | cons {text : String} {fields : List String} {n : Json.Number} {xs : List Float}
      {s t u : Stream} :
      ExceptT.run (Expression.evaluate b text) s = (.ok (.number n), t) → Reads b fields t xs u →
        Reads b (text :: fields) s (n.toFloat :: xs) u

/-- The value of a field is not a number, or there is none. -/
def Misses (b : Bindings) (field : Field) (text : String) (s : Stream) : Cause → Stream → Prop
  | .evaluate e, t => ExceptT.run (Expression.evaluate b text) s = (.error e, t)
  | .notNumeric found shown, t => found = field ∧ ∃ v : Json,
      ExceptT.run (Expression.evaluate b text) s = (.ok v, t) ∧ (∀ n, v ≠ .number n) ∧
        v.compact = shown
  | _, _ => False

theorem run_parseField_eq_ok {field : Field} {piece : String} {x : Float} :
    ExceptT.run (parseField b field piece) s = (.ok x, t) ↔
      ∃ n : Json.Number, ExceptT.run (Expression.evaluate b (trim piece)) s = (.ok (.number n), t) ∧
        n.toFloat = x := by
  rw [parseField, run_bind_eq_ok]
  simp only [run_adapt_eq_ok]
  constructor
  · rintro ⟨v, u, hv, hx⟩
    cases v with
    | number n => cases hx; exact ⟨n, hv, rfl⟩
    | _ => cases hx
  · rintro ⟨n, hn, rfl⟩
    exact ⟨.number n, t, hn, rfl⟩

theorem run_parseField_eq_error {field : Field} {piece : String} {cause : Cause} :
    ExceptT.run (parseField b field piece) s = (.error cause, t) ↔
      Misses b field (trim piece) s cause t := by
  rw [parseField, run_bind_eq_error, run_adapt_eq_error]
  simp only [run_adapt_eq_ok]
  constructor
  · rintro (⟨e, he, rfl⟩ | ⟨v, u, hv, h⟩)
    · exact he
    · cases v with
      | number n => cases h
      | _ => cases h; exact ⟨rfl, _, hv, by simp, rfl⟩
  · intro h
    cases cause with
    | evaluate e => exact .inl ⟨e, h, rfl⟩
    | notNumeric found shown =>
      obtain ⟨rfl, v, hv, hnot, rfl⟩ := h
      refine .inr ⟨v, t, hv, ?_⟩
      cases v with
      | number n => exact absurd rfl (hnot n)
      | _ => rfl
    | _ => exact h.elim

/-- The values of fields. -/
def readFields (b : Bindings) (entries : List (Field × String)) : Draws Cause (List Float) :=
  entries.mapM fun entry => parseField b entry.1 entry.2

/-- **Fields are evaluated in their order**, and all of them are numbers. -/
theorem reads_iff {entries : List (Field × String)} {xs : List Float} :
    Reads b (entries.map fun entry => trim entry.2) s xs t ↔
      ExceptT.run (readFields b entries) s = (.ok xs, t) := by
  unfold readFields
  induction entries generalizing s xs with
  | nil =>
    constructor
    · intro h; cases h; rfl
    · intro h; cases h; exact .nil
  | cons entry entries ih =>
    rw [List.mapM_cons, run_bind_eq_ok]
    constructor
    · intro h
      cases h with
      | cons hn hrest =>
        refine ⟨_, _, run_parseField_eq_ok.mpr ⟨_, hn, rfl⟩, ?_⟩
        rw [run_bind_of_ok (ih.mp hrest)]
        rfl
    · rintro ⟨x, u, hx, h⟩
      obtain ⟨n, hn, rfl⟩ := run_parseField_eq_ok.mp hx
      obtain ⟨xs, v, hxs, h⟩ := run_bind_eq_ok.mp h
      cases h
      exact .cons hn (ih.mpr hxs)

theorem Reads.length_eq {xs : List Float} (h : Reads b fields s xs t) :
    xs.length = fields.length := by
  induction h with
  | nil => rfl
  | cons _ _ ih => exact congrArg (· + 1) ih

/-- **The first field that is no number decides the failure.** -/
theorem run_readFields_eq_error {entries : List (Field × String)} {cause : Cause} :
    ExceptT.run (readFields b entries) s = (.error cause, t) ↔
      ∃ before field piece after xs u, entries = before ++ (field, piece) :: after ∧
        Reads b (before.map fun entry => trim entry.2) s xs u ∧
          Misses b field (trim piece) u cause t := by
  simp only [reads_iff, ← run_parseField_eq_error]
  rw [readFields, run_mapM_eq_error]
  constructor
  · rintro ⟨before, ⟨field, piece⟩, after, xs, u, hentries, hxs, h⟩
    exact ⟨before, field, piece, after, xs, u, hentries, hxs, h⟩
  · rintro ⟨before, field, piece, after, xs, u, hentries, hxs, h⟩
    exact ⟨before, (field, piece), after, xs, u, hentries, hxs, h⟩

/-! ### Outcomes -/

/-- The range with the values of its fields; without a fourth field the default is the first
value.  Lists of another length are junk. -/
def ofValues (name : String) : List Float → Range
  | [start, step, stop] => ⟨name, start, step, stop, start⟩
  | [start, step, stop, default] => ⟨name, start, step, stop, default⟩
  | _ => Inhabited.default

theorem run_parseCause_of_split {parts : String × String × String × Option String}
    (hname : splitName d = .ok (name, rest)) (hfields : splitFields rest = .ok parts) :
    ExceptT.run (parseCause b d) s =
      ExceptT.run (ofValues name <$> readFields b (Field.order.zip (pieces ':' rest))) s := by
  obtain ⟨start, step, stop, default⟩ := parts
  have hrunName : ExceptT.run (liftM (splitName d) : Draws Cause _) s = (.ok (name, rest), s) := by
    rw [run_ofExcept, hname]
  have hrunFields : ExceptT.run (liftM (splitFields rest) : Draws Cause _) s =
      (.ok (start, step, stop, default), s) := by
    rw [run_ofExcept, hfields]
  rw [splitFields_eq_ok_iff.mp hfields, parseCause, run_bind_of_ok hrunName]
  dsimp only
  rw [run_bind_of_ok hrunFields]
  cases default with
  | none => simp [readFields, Field.order, ofValues]
  | some default => simp [readFields, Field.order, ofValues]

theorem run_parseCause_of_splitName {cause : Cause} (h : splitName d = .error cause) :
    ExceptT.run (parseCause b d) s = (.error cause, s) := by
  have hrun : ExceptT.run (liftM (splitName d) : Draws Cause _) s = (.error cause, s) := by
    rw [run_ofExcept, h]
  exact run_bind_of_error hrun

theorem run_parseCause_of_splitFields {cause : Cause} (hname : splitName d = .ok (name, rest))
    (h : splitFields rest = .error cause) :
    ExceptT.run (parseCause b d) s = (.error cause, s) := by
  have hrunName : ExceptT.run (liftM (splitName d) : Draws Cause _) s = (.ok (name, rest), s) := by
    rw [run_ofExcept, hname]
  have hrun : ExceptT.run (liftM (splitFields rest) : Draws Cause _) s = (.error cause, s) := by
    rw [run_ofExcept, h]
  rw [parseCause, run_bind_of_ok hrunName]
  exact run_bind_of_error hrun

/-- The fields before one of them are numbers, and the stream then stands at `u`.  The place of a
field among the others tells which one it is. -/
def ComesTo (b : Bindings) (d : String) (s : Stream) (field : Field) (text : String)
    (u : Stream) : Prop :=
  ∃ name before after xs, Declares d name (before ++ text :: after) ∧ Reads b before s xs u ∧
    Field.order[before.length]? = some field

/-- What is wrong with a descriptor, and where the stream stands when that is known.  Nothing is
drawn for a descriptor that is not written as it should be. -/
def Rejects (b : Bindings) (d : String) (s : Stream) : Cause → Stream → Prop
  | .missingEquals, t => '=' ∉ d.toList ∧ t = s
  | .invalidName name, t => (∃ rest, Splits d name rest) ∧ ¬ IsIdentifier name ∧ t = s
  | .fieldCount count, t =>
    (∃ name rest fields, Splits d name rest ∧ IsIdentifier name ∧ HasFields rest fields ∧
      fields.length = count) ∧ count ≠ 3 ∧ count ≠ 4 ∧ t = s
  | .evaluate e, t => ∃ field text u, ComesTo b d s field text u ∧
    ExceptT.run (Expression.evaluate b text) u = (.error e, t)
  | .notNumeric field shown, t => ∃ text u v, ComesTo b d s field text u ∧
    ExceptT.run (Expression.evaluate b text) u = (.ok v, t) ∧ (∀ n, v ≠ .number n) ∧
      v.compact = shown

/-- The range of a descriptor: its name, and the values of its fields.  The default is the value of
the fourth field, or the first value itself. -/
def Accepts (b : Bindings) (d : String) (s : Stream) (range : Range) (t : Stream) : Prop :=
  ∃ fields xs, Declares d range.name fields ∧ Reads b fields s xs t ∧
    (xs = [range.start, range.step, range.stop] ∧ range.default = range.start ∨
      xs = [range.start, range.step, range.stop, range.default])

theorem ofValues_eq_iff {xs : List Float} {range : Range} (h : xs.length = 3 ∨ xs.length = 4) :
    ofValues name xs = range ↔ range.name = name ∧
      (xs = [range.start, range.step, range.stop] ∧ range.default = range.start ∨
        xs = [range.start, range.step, range.stop, range.default]) := by
  constructor
  · rintro rfl
    rcases h with h | h
    · obtain ⟨start, step, stop, rfl⟩ := List.length_eq_three.mp h
      exact ⟨rfl, .inl ⟨rfl, rfl⟩⟩
    · obtain ⟨start, step, stop, default, rfl⟩ := List.length_eq_four.mp h
      exact ⟨rfl, .inr rfl⟩
  · obtain ⟨name', start, step, stop, default⟩ := range
    rintro ⟨rfl, ⟨rfl, hdefault⟩ | rfl⟩
    · cases hdefault
      rfl
    · rfl

/-- The fields of a descriptor, each with the text that stands for it. -/
theorem map_trim_zip (h : (pieces ':' rest).length = 3 ∨ (pieces ':' rest).length = 4) :
    (Field.order.zip (pieces ':' rest)).map (fun entry => trim entry.2) =
      (pieces ':' rest).map trim := by
  have hlength : (pieces ':' rest).length ≤ Field.order.length := by
    have horder : Field.order.length = 4 := rfl
    omega
  calc (Field.order.zip (pieces ':' rest)).map (fun entry => trim entry.2)
      = ((Field.order.zip (pieces ':' rest)).map Prod.snd).map trim := by
        rw [List.map_map]
        rfl
    _ = (pieces ':' rest).map trim := by rw [List.map_snd_zip hlength]

/-- **Which range a descriptor gives.** -/
theorem run_parseCause_eq_ok {range : Range} :
    ExceptT.run (parseCause b d) s = (.ok range, t) ↔ Accepts b d s range t := by
  unfold Accepts
  constructor
  · intro h
    rcases hname : splitName d with cause | ⟨name, rest⟩
    · rw [run_parseCause_of_splitName hname] at h
      cases h
    rcases hparts : splitFields rest with cause | parts
    · rw [run_parseCause_of_splitFields hname hparts] at h
      cases h
    have hlength := exists_splitFields_iff.mp ⟨parts, hparts⟩
    rw [run_parseCause_of_split hname hparts, run_map_eq_ok] at h
    obtain ⟨xs, hxs, hrange⟩ := h
    rw [← reads_iff, map_trim_zip hlength] at hxs
    have hvalues : xs.length = 3 ∨ xs.length = 4 := by
      rwa [hxs.length_eq, List.length_map]
    obtain ⟨rfl, hvalues⟩ := (ofValues_eq_iff hvalues).mp hrange
    exact ⟨_, xs, declares_iff.mpr ⟨rest, parts, hname, hparts, rfl⟩, hxs, hvalues⟩
  · rintro ⟨fields, xs, hdeclares, hxs, hvalues⟩
    obtain ⟨rest, parts, hname, hparts, rfl⟩ := declares_iff.mp hdeclares
    have hlength := exists_splitFields_iff.mp ⟨parts, hparts⟩
    have hcount : xs.length = 3 ∨ xs.length = 4 := by
      rwa [hxs.length_eq, List.length_map]
    rw [← map_trim_zip hlength, reads_iff] at hxs
    rw [run_parseCause_of_split hname hparts, run_map_eq_ok]
    exact ⟨xs, hxs, (ofValues_eq_iff hcount).mpr ⟨rfl, hvalues⟩⟩

/-- The place of a field among the others tells which one it is. -/
theorem getElem?_order_of_zip_eq {ps : List String} {before after : List (Field × String)}
    {field : Field} {piece : String}
    (h : Field.order.zip ps = before ++ (field, piece) :: after) :
    Field.order[before.length]? = some field := by
  have hplace : (Field.order.zip ps)[before.length]? = some (field, piece) := by
    rw [h, List.getElem?_append_right (Nat.le_refl _), Nat.sub_self]
    rfl
  exact (List.getElem?_zip_eq_some.mp hplace).1

/-- Evaluation comes to a field when all that are written before it have been read. -/
theorem comesTo_iff {parts : String × String × String × Option String} {field : Field}
    {text : String} (hname : splitName d = .ok (name, rest))
    (hparts : splitFields rest = .ok parts) :
    ComesTo b d s field text t ↔
      ∃ before piece after xs,
        Field.order.zip (pieces ':' rest) = before ++ (field, piece) :: after ∧
        Reads b (before.map fun entry => trim entry.2) s xs t ∧ trim piece = text := by
  have hlength := exists_splitFields_iff.mp ⟨parts, hparts⟩
  unfold ComesTo
  constructor
  · rintro ⟨name', before, after, xs, hdeclares, hxs, hfield⟩
    obtain ⟨rest', parts', hname', -, hfields⟩ := declares_iff.mp hdeclares
    cases hname.symm.trans hname'
    rw [← map_trim_zip hlength] at hfields
    obtain ⟨before, behind, hentries, rfl, hbehind⟩ := List.map_eq_append_iff.mp hfields
    obtain ⟨⟨field', piece⟩, after, rfl, rfl, rfl⟩ := List.map_eq_cons_iff.mp hbehind
    rw [List.length_map, getElem?_order_of_zip_eq hentries] at hfield
    cases hfield
    exact ⟨before, piece, after, xs, hentries, hxs, rfl⟩
  · rintro ⟨before, piece, after, xs, hentries, hxs, rfl⟩
    have hfields : (pieces ':' rest).map trim = before.map (fun entry => trim entry.2) ++
        trim piece :: after.map fun entry => trim entry.2 := by
      rw [← map_trim_zip hlength, hentries, List.map_append, List.map_cons]
    have hfield : Field.order[(before.map fun entry => trim entry.2).length]? = some field := by
      rw [List.length_map, getElem?_order_of_zip_eq hentries]
    exact ⟨name, _, _, xs, declares_iff.mpr ⟨rest, parts, hname, hparts, hfields⟩, hxs, hfield⟩

/-- What a field misses is what the descriptor fails with. -/
theorem ComesTo.run_parseCause {field : Field} {text : String} {u : Stream} {cause : Cause}
    (h : ComesTo b d s field text u) (hmisses : Misses b field text u cause t) :
    ExceptT.run (parseCause b d) s = (.error cause, t) := by
  have hdeclared : ∃ name fields, Declares d name fields := by
    obtain ⟨name, _, _, _, hdeclares, -⟩ := h
    exact ⟨name, _, hdeclares⟩
  obtain ⟨name, fields, hdeclares⟩ := hdeclared
  obtain ⟨rest, parts, hname, hparts, -⟩ := declares_iff.mp hdeclares
  obtain ⟨before, piece, after, xs, hentries, hxs, rfl⟩ := (comesTo_iff hname hparts).mp h
  rw [run_parseCause_of_split hname hparts, run_map_eq_error, run_readFields_eq_error]
  exact ⟨before, field, piece, after, xs, u, hentries, hxs, hmisses⟩

theorem rejects_of_splitName {cause : Cause} (h : splitName d = .error cause) :
    Rejects b d s cause s := by
  have hwrong := splitName_eq_error_iff.mp h
  cases cause with
  | missingEquals => exact ⟨hwrong, rfl⟩
  | invalidName name => exact ⟨hwrong.1, hwrong.2, rfl⟩
  | _ => exact hwrong.elim

theorem rejects_of_splitFields {cause : Cause} (hname : splitName d = .ok (name, rest))
    (h : splitFields rest = .error cause) : Rejects b d s cause s := by
  obtain ⟨hsplits, hident⟩ := splitName_eq_ok_iff.mp hname
  have hwrong := splitFields_eq_error_iff.mp h
  cases cause with
  | fieldCount count =>
    obtain ⟨⟨fields, hfields, hcount⟩, hne3, hne4⟩ := hwrong
    exact ⟨⟨name, rest, fields, hsplits, hident, hfields, hcount⟩, hne3, hne4, rfl⟩
  | _ => exact hwrong.elim

theorem ComesTo.rejects {field : Field} {text : String} {u : Stream} {cause : Cause}
    (h : ComesTo b d s field text u) (hmisses : Misses b field text u cause t) :
    Rejects b d s cause t := by
  cases cause with
  | evaluate e => exact ⟨field, text, u, h, hmisses⟩
  | notNumeric found shown =>
    obtain ⟨rfl, v, hv, hnot, hshown⟩ := hmisses
    exact ⟨text, u, v, h, hv, hnot, hshown⟩
  | _ => exact hmisses.elim

/-- **Why a descriptor gives no range.** -/
theorem run_parseCause_eq_error {cause : Cause} :
    ExceptT.run (parseCause b d) s = (.error cause, t) ↔ Rejects b d s cause t := by
  constructor
  · intro h
    rcases hname : splitName d with found | ⟨name, rest⟩
    · rw [run_parseCause_of_splitName hname] at h
      cases h
      exact rejects_of_splitName hname
    rcases hparts : splitFields rest with found | parts
    · rw [run_parseCause_of_splitFields hname hparts] at h
      cases h
      exact rejects_of_splitFields hname hparts
    rw [run_parseCause_of_split hname hparts, run_map_eq_error, run_readFields_eq_error] at h
    obtain ⟨before, field, piece, after, xs, u, hentries, hxs, hmisses⟩ := h
    have hcomes : ComesTo b d s field (trim piece) u :=
      (comesTo_iff hname hparts).mpr ⟨before, piece, after, xs, hentries, hxs, rfl⟩
    exact hcomes.rejects hmisses
  · intro h
    cases cause with
    | missingEquals =>
      obtain ⟨hd, rfl⟩ := h
      exact run_parseCause_of_splitName (splitName_eq_error_iff.mpr hd)
    | invalidName name =>
      obtain ⟨hsplits, hnot, rfl⟩ := h
      exact run_parseCause_of_splitName (splitName_eq_error_iff.mpr ⟨hsplits, hnot⟩)
    | fieldCount count =>
      obtain ⟨⟨name, rest, fields, hsplits, hident, hfields⟩, hne3, hne4, rfl⟩ := h
      exact run_parseCause_of_splitFields (splitName_eq_ok_iff.mpr ⟨hsplits, hident⟩)
        (splitFields_eq_error_iff.mpr ⟨⟨fields, hfields⟩, hne3, hne4⟩)
    | evaluate e =>
      obtain ⟨field, text, u, hcomes, he⟩ := h
      exact hcomes.run_parseCause he
    | notNumeric field shown =>
      obtain ⟨text, u, v, hcomes, hv, hnot, hshown⟩ := h
      exact hcomes.run_parseCause ⟨rfl, v, hv, hnot, hshown⟩

theorem run_parse_eq_ok {range : Range} :
    ExceptT.run (parse b d) s = (.ok range, t) ↔ Accepts b d s range t := by
  rw [parse, run_adapt_eq_ok, run_parseCause_eq_ok]

/-- An error tells the descriptor and the bindings. -/
theorem run_parse_eq_error {e : Error} :
    ExceptT.run (parse b d) s = (.error e, t) ↔
      e.descriptor = d ∧ e.bindings = b.text ∧ Rejects b d s e.cause t := by
  rw [parse, run_adapt_eq_error]
  simp only [run_parseCause_eq_error]
  constructor
  · rintro ⟨cause, hcause, rfl⟩
    exact ⟨rfl, rfl, hcause⟩
  · rintro ⟨rfl, hbindings, hcause⟩
    exact ⟨e.cause, hcause, by rw [← hbindings]⟩

/-- **What a descriptor gives, from every place of the stream.**  It is refused without a draw for
the lack of an equals sign, then for a name that is none, then for the number of its fields.
Otherwise the fields are evaluated in the bindings, from left to right and once each; the first one
that has no value, or no number for a value, decides the failure, and where there is none, the
values make up the range. -/
theorem descriptor_decides_outcome (b : Bindings) (d : String) (s t : Stream) :
    (∀ e : Error, ExceptT.run (parse b d) s = (.error e, t) ↔
      e.descriptor = d ∧ e.bindings = b.text ∧ Rejects b d s e.cause t) ∧
    ∀ range : Range, ExceptT.run (parse b d) s = (.ok range, t) ↔ Accepts b d s range t :=
  ⟨fun _ => run_parse_eq_error, fun _ => run_parse_eq_ok⟩

/-- A default that is not written is the first value, which is drawn only once. -/
example :
    let result := ExceptT.run (parse .empty "r = random() : 1 : 9") (.ofSeed 0)
    result.2 = ⟨0, 1⟩ ∧
      result.1.toOption.map (fun r => (r.name, r.default == r.start)) = some ("r", true) := by
  decide +kernel

/-- The variable of a range is not bound in the fields of its descriptor. -/
example :
    (match ExceptT.run (parse .empty "n=1:n:3") (.ofSeed 0) with
      | (.error e, _) => some e.cause
      | (.ok _, _) => none) =
        some (.evaluate ⟨"n", "Variable not found: n (line 1, position 1)"⟩) := by
  decide +kernel

end Range

end OpticScene
