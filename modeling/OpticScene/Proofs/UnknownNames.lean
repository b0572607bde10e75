import OpticScene.Proofs.Draws
import OpticScene.Scene.Diagnostic

/-!
# Names that are unknown

A diagnostic tells an unknown name from other failures by a phrase in the message of the error.  The
message about a condition that is neither true nor false shows the value of the condition, which may
hold any text.  So the phrase may come from the value, and no name is unknown then.

When this happens is told by the value alone: the words around the value do not hold a phrase, nor
do its numbers, and a phrase does not reach over the end of a text.

## Main definitions

* `Json.texts` — the texts within a value, and the names of its fields.
* `Diagnostic.Kind.phrases`, `Json.soundsUnknown` — the phrases, and the values in which one of them
  stands.
* `ExpansionError.framed` — an error with frames around it.

## Main results

* `Text.occursIn_iff`, `Text.infix_append_cons_iff` — where a text occurs, and that it does not
  reach over a separator.
* `Json.infix_compact_iff` — **what occurs in a value occurs in one of its texts.**
* `Diagnostic.kind_of_condition` — the diagnostic of a condition that is neither true nor false.
-/

namespace OpticScene

open OpticScene.Random (Stream)

/-! ### Occurrences -/

namespace Text

theorem isSome_findChars?_iff {needle cs : List Char} :
    (findChars? needle cs).isSome = true ↔ needle <:+: cs := by
  induction cs with
  | nil => cases needle <;> simp [findChars?]
  | cons c cs ih =>
    rw [findChars?, List.infix_cons_iff]
    split
    · next hstart => exact iff_of_true rfl (.inl (List.isPrefixOf_iff_prefix.mp hstart))
    · next hstart =>
      rw [Option.isSome_map, ih, or_iff_right]
      exact fun h => hstart (List.isPrefixOf_iff_prefix.mpr h)

theorem occursIn_iff {needle s : String} :
    occursIn needle s = true ↔ needle.toList <:+: s.toList :=
  isSome_findChars?_iff

section

variable {needle : List Char} {c : Char}

/-- What occurs in a text does not reach over a character that it does not have. -/
theorem infix_append_cons_iff {xs ys : List Char} (hc : c ∉ needle) :
    needle <:+: xs ++ c :: ys ↔ needle <:+: xs ∨ needle <:+: ys := by
  constructor
  · intro h
    rcases List.infix_append_iff.mp h with h | h | ⟨before, after, rfl, hbefore, hafter⟩
    · exact .inl h
    · rcases List.infix_cons_iff.mp h with h | h
      · rcases List.prefix_cons_iff.mp h with rfl | ⟨rest, rfl, -⟩
        · exact .inl List.nil_infix
        · exact absurd List.mem_cons_self hc
      · exact .inr h
    -- a part after the character would begin with it
    · rcases List.prefix_cons_iff.mp hafter with rfl | ⟨rest, rfl, -⟩
      · rw [List.append_nil]
        exact .inl hbefore.isInfix
      · exact absurd (List.mem_append_right _ List.mem_cons_self) hc
  · rintro (h | h)
    · exact h.trans (List.prefix_append ..).isInfix
    · exact h.trans ((List.suffix_cons ..).isInfix.trans (List.suffix_append ..).isInfix)

theorem infix_cons_iff_of_not_mem {xs : List Char} (hc : c ∉ needle) (hne : needle ≠ []) :
    needle <:+: c :: xs ↔ needle <:+: xs := by
  rw [← List.nil_append (c :: xs), infix_append_cons_iff hc, or_iff_right]
  exact fun h => hne (List.infix_nil.mp h)

theorem infix_concat_iff_of_not_mem {xs : List Char} (hc : c ∉ needle) (hne : needle ≠ []) :
    needle <:+: xs ++ [c] ↔ needle <:+: xs := by
  rw [infix_append_cons_iff hc, or_iff_left]
  exact fun h => hne (List.infix_nil.mp h)

/-- What occurs behind a text that does not have its first character occurs in what follows. -/
theorem infix_append_iff_of_head {before cs : List Char}
    (hhead : ∀ c ∈ needle.head?, c ∉ before) (hne : needle ≠ []) :
    needle <:+: before ++ cs ↔ needle <:+: cs := by
  obtain ⟨c, rest, rfl⟩ := List.exists_cons_of_ne_nil hne
  have hc : c ∉ before := hhead c rfl
  induction before with
  | nil => rfl
  | cons d before ih =>
    obtain ⟨hd, hbefore⟩ := not_or.mp fun h => hc (List.mem_cons.mpr h)
    rw [List.cons_append, List.infix_cons_iff, List.cons_prefix_cons, or_iff_right fun h => hd h.1]
    exact ih (fun _ hx => Option.some.inj hx ▸ hbefore) hbefore

/-- What occurs in texts with a separator between them occurs in one of the texts. -/
theorem infix_intercalate_iff {texts : List (List Char)} (hc : c ∉ needle) (hne : needle ≠ []) :
    needle <:+: [c].intercalate texts ↔ ∃ text ∈ texts, needle <:+: text := by
  induction texts with
  | nil => simpa using hne
  | cons text texts ih =>
    cases texts with
    | nil => simp
    | cons next texts =>
      rw [List.intercalate_cons_cons, List.append_assoc, List.singleton_append,
        infix_append_cons_iff hc, ih]
      simp

end

/-- The characters of a text, all letters of ASCII being small. -/
def small (s : String) : List Char := s.toList.map Char.toLower

theorem toList_toLower (s : String) : s.toLower.toList = small s := String.toList_map

theorem small_append (s t : String) : small (s ++ t) = small s ++ small t := by
  rw [small, String.toList_append, List.map_append]
  rfl

theorem small_intercalate_comma (texts : List String) :
    small (",".intercalate texts) = [','].intercalate (texts.map small) := by
  induction texts with
  | nil => rfl
  | cons text texts ih =>
    cases texts with
    | nil => simp
    | cons next texts =>
      rw [String.intercalate_cons_cons, small_append, small_append, ih, List.map_cons,
        List.map_cons, List.map_cons, List.intercalate_cons_cons]
      rfl

/-- No other character becomes a blank. -/
theorem eq_blank_of_toLower {c : Char} (h : c.toLower = ' ') : c = ' ' := by
  unfold Char.toLower at h
  split at h
  · next hcapital =>
    have hlow : 65 ≤ c.val.toNat := hcapital.1
    have hhigh : c.val.toNat ≤ 90 := hcapital.2
    have hshift : ('a'.val - 'A'.val).toNat = 32 := rfl
    have hblank : ' '.val.toNat = 32 := rfl
    have hval := congrArg (fun d : Char => d.val.toNat) h
    simp only [UInt32.toNat_add] at hval
    omega
  · exact h

theorem blank_not_mem_small {s : String} (h : ' ' ∉ s.toList) : ' ' ∉ small s := by
  intro hmem
  obtain ⟨c, hc, hlower⟩ := List.mem_map.mp hmem
  exact h (eq_blank_of_toLower hlower ▸ hc)

end Text

/-! ### Numbers -/

theorem blank_not_mem_toDigits (n : Nat) : ' ' ∉ Nat.toDigits 10 n := fun h =>
  absurd (Nat.isDigit_of_mem_toDigits (by decide) (by decide) h) (by decide)

theorem blank_not_mem_repr (n : Nat) : ' ' ∉ n.repr.toList := by
  rw [Nat.toList_repr]
  exact blank_not_mem_toDigits n

namespace Decimal

theorem blank_not_mem_positional (fraction : Bool) (d : Decimal) :
    ' ' ∉ (d.positional fraction).toList := by
  have hdigits : ' ' ∉ d.digits := blank_not_mem_toDigits d.coefficient
  unfold positional
  dsimp only
  split
  · simp [hdigits]
  · split
    · cases fraction <;> simp [hdigits]
    · have htake : ' ' ∉ d.digits.take d.point.toNat := fun h => hdigits (List.mem_of_mem_take h)
      have hdrop : ' ' ∉ d.digits.drop d.point.toNat := fun h => hdigits (List.mem_of_mem_drop h)
      simp [htake, hdrop]

theorem blank_not_mem_exponential (plus : Bool) (d : Decimal) :
    ' ' ∉ (d.exponential plus).toList := by
  have hdigits : ' ' ∉ d.digits := blank_not_mem_toDigits d.coefficient
  unfold exponential
  generalize d.digits = digits at hdigits
  have hsign : ' ' ∉ (if d.point - 1 < 0 then "-" else if plus then "+" else "").toList := by
    split
    · decide
    · split <;> decide
  have hexponent : ' ' ∉ (toString (d.point - 1).natAbs).toList := blank_not_mem_repr _
  rcases digits with _ | ⟨c, _ | ⟨c', cs⟩⟩ <;>
    simp_all [String.toList_append]

theorem Style.blank_not_mem_writeMagnitude (style : Style) (x : Float) :
    ' ' ∉ (style.writeMagnitude x).toList := by
  unfold writeMagnitude
  split
  · decide
  split
  · decide
  split
  · split <;> decide
  · dsimp only
    split
    · exact blank_not_mem_positional _ _
    · exact blank_not_mem_exponential _ _

/-- **The text of a double has no blank.** -/
theorem Style.blank_not_mem_write (style : Style) (x : Float) : ' ' ∉ (style.write x).toList := by
  rw [write, String.toList_append]
  refine List.not_mem_append ?_ (style.blank_not_mem_writeMagnitude x)
  split <;> decide

end Decimal

namespace Json

theorem Number.blank_not_mem_write (n : Number) : ' ' ∉ n.write.toList := by
  cases n with
  | int n =>
    rw [Number.write, Int.toString_eq_repr, Int.repr_eq_if]
    split
    · exact blank_not_mem_repr _
    · simpa using blank_not_mem_repr _
  | float x => exact Decimal.Style.blank_not_mem_write _ x

/-! ### Values -/

mutual

/-- The texts within a value, and the names of its fields. -/
def texts : Json → List String
  | .null => []
  | .bool _ => []
  | .number _ => []
  | .string s => [s]
  | .array items => itemTexts items
  | .object fields => fieldTexts fields

/-- The texts within the items of an array. -/
def itemTexts : List Json → List String
  | [] => []
  | v :: vs => texts v ++ itemTexts vs

/-- The names of fields, and the texts within their values. -/
def fieldTexts : List (String × Json) → List String
  | [] => []
  | (key, v) :: fields => key :: texts v ++ fieldTexts fields

end

section

variable {needle : List Char}

/-- The characters that JSON puts around texts and values do not occur, and a blank does. -/
structure IsProse (needle : List Char) : Prop where
  /-- There are no separators. -/
  free : ∀ c ∈ ['"', ',', ':', '[', ']', '\x7b', '\x7d'], c ∉ needle
  /-- There is a blank. -/
  blank : ' ' ∈ needle

theorem IsProse.ne_nil (h : IsProse needle) : needle ≠ [] := List.ne_nil_of_mem h.blank

/-- It does not occur where there is no blank. -/
theorem IsProse.not_infix_small (h : IsProse needle) {s : String} (hs : ' ' ∉ s.toList) :
    ¬ needle <:+: Text.small s :=
  fun hneedle => Text.blank_not_mem_small hs (hneedle.mem h.blank)

/-- Brackets around texts, and commas between them, do not matter. -/
theorem IsProse.infix_small_bracketed_iff (h : IsProse needle) {start stop : String}
    {left right : Char} (hstart : Text.small start = [left]) (hstop : Text.small stop = [right])
    (hleft : left ∉ needle) (hright : right ∉ needle) (texts : List String) :
    needle <:+: Text.small (start ++ ",".intercalate texts ++ stop) ↔
      ∃ text ∈ texts, needle <:+: Text.small text := by
  rw [Text.small_append, Text.small_append, hstart, hstop,
    Text.infix_concat_iff_of_not_mem hright h.ne_nil, List.singleton_append,
    Text.infix_cons_iff_of_not_mem hleft h.ne_nil, Text.small_intercalate_comma,
    Text.infix_intercalate_iff (h.free ',' (by decide)) h.ne_nil]
  constructor
  · rintro ⟨_, hmem, hneedle⟩
    obtain ⟨text, htext, rfl⟩ := List.mem_map.mp hmem
    exact ⟨text, htext, hneedle⟩
  · rintro ⟨text, htext, hneedle⟩
    exact ⟨_, List.mem_map_of_mem htext, hneedle⟩

mutual

/-- **What occurs in a value occurs in one of its texts.** -/
theorem infix_compact_iff (h : IsProse needle) : ∀ v : Json,
    needle <:+: Text.small v.compact ↔ ∃ s ∈ v.texts, needle <:+: Text.small (writeString s)
  | .null => by
    rw [compact, texts]
    exact iff_of_false (h.not_infix_small (by decide)) (by simp)
  | .bool b => by
    rw [compact, texts]
    exact iff_of_false (h.not_infix_small (by cases b <;> decide)) (by simp)
  | .number n => by
    rw [compact, texts]
    exact iff_of_false (h.not_infix_small n.blank_not_mem_write) (by simp)
  | .string s => by simp [compact, texts]
  | .array items => by
    rw [compact, texts, h.infix_small_bracketed_iff rfl rfl (h.free '[' (by decide))
      (h.free ']' (by decide)), infix_compactItems_iff h items]
  | .object fields => by
    rw [compact, texts, h.infix_small_bracketed_iff rfl rfl (h.free '\x7b' (by decide))
      (h.free '\x7d' (by decide)), infix_compactFields_iff h fields]

theorem infix_compactItems_iff (h : IsProse needle) : ∀ vs : List Json,
    (∃ text ∈ compactItems vs, needle <:+: Text.small text) ↔
      ∃ s ∈ itemTexts vs, needle <:+: Text.small (writeString s)
  | [] => by simp [compactItems, itemTexts]
  | v :: vs => by
    simp only [compactItems, itemTexts, List.mem_cons, List.mem_append, or_and_right, exists_or,
      exists_eq_left, infix_compact_iff h v, infix_compactItems_iff h vs]

theorem infix_compactFields_iff (h : IsProse needle) : ∀ fields : List (String × Json),
    (∃ text ∈ compactFields fields, needle <:+: Text.small text) ↔
      ∃ s ∈ fieldTexts fields, needle <:+: Text.small (writeString s)
  | [] => by simp [compactFields, fieldTexts]
  | (key, v) :: fields => by
    have hfield : needle <:+: Text.small (writeString key ++ ":" ++ compact v) ↔
        needle <:+: Text.small (writeString key) ∨ needle <:+: Text.small v.compact := by
      rw [Text.small_append, Text.small_append, List.append_assoc]
      exact Text.infix_append_cons_iff (h.free ':' (by decide))
    simp only [compactFields, fieldTexts, List.cons_append, List.mem_cons, List.mem_append,
      or_and_right, exists_or, exists_eq_left, hfield, infix_compact_iff h v,
      infix_compactFields_iff h fields, or_assoc]

end

end

end Json

/-! ### Kinds of diagnostics -/

namespace Diagnostic.Kind

/-- The phrases that tell an unknown name. -/
def phrases : List String := ["variable not found", "function not found"]

theorem isProse_of_mem_phrases {phrase : String} (h : phrase ∈ phrases) :
    Json.IsProse phrase.toList := by
  have hall : (phrases.all fun phrase =>
      ['"', ',', ':', '[', ']', '\x7b', '\x7d'].all (!phrase.toList.contains ·) &&
        phrase.toList.contains ' ') = true := by
    decide +kernel
  obtain ⟨hfree, hblank⟩ := Bool.and_eq_true_iff.mp (List.all_eq_true.mp hall phrase h)
  refine ⟨fun c hc => ?_, List.contains_iff_mem.mp hblank⟩
  have hnone := List.all_eq_true.mp hfree c hc
  rwa [Bool.not_eq_true', ← Bool.not_eq_true, List.contains_iff_mem] at hnone

theorem ofMessage_eq (message : String) :
    ofMessage message =
      if phrases.any fun phrase => Text.occursIn phrase message.toLower then .unknownName
      else .evaluation := by
  simp [ofMessage, phrases]

end Diagnostic.Kind

/-- One of the phrases stands in a text within a value, or in the name of a field, as JSON writes
it. -/
def Json.soundsUnknown (v : Json) : Bool :=
  v.texts.any fun s => Diagnostic.Kind.phrases.any fun phrase =>
    Text.occursIn phrase (writeString s).toLower

/-- An error with frames around it, each with its place and the bindings there. -/
def ExpansionError.framed (frames : List (String × String)) (e : ExpansionError) :
    ExpansionError :=
  frames.foldr (fun frame inner => .context frame.1 frame.2 inner) e

theorem ExpansionError.root_framed (frames : List (String × String)) (e : ExpansionError) :
    (framed frames e).root = e.root := by
  induction frames with
  | nil => rfl
  | cons frame frames ih => exact ih

namespace Diagnostic

/-- The words before the value do not matter. -/
theorem occursIn_notCondition {phrase : String} (h : phrase ∈ Kind.phrases) (v : Json) :
    Text.occursIn phrase (Expression.Cause.notCondition v).message.toLower = true ↔
      phrase.toList <:+: Text.small v.compact := by
  have hheads : (Kind.phrases.all fun phrase => phrase.toList.head?.all fun c =>
      !(Text.small "condition must be a boolean or number, got ").contains c) = true := by
    decide +kernel
  have hhead : ∀ c ∈ phrase.toList.head?,
      c ∉ Text.small "condition must be a boolean or number, got " := by
    intro c hc
    have hnone := List.all_eq_true.mp hheads phrase h
    rw [Option.mem_def.mp hc, Option.all_some] at hnone
    rwa [Bool.not_eq_true', ← Bool.not_eq_true, List.contains_iff_mem] at hnone
  have hmessage : Text.small (Expression.Cause.notCondition v).message =
      Text.small "condition must be a boolean or number, got " ++ Text.small v.compact :=
    Text.small_append ..
  rw [Text.occursIn_iff, Text.toList_toLower, hmessage]
  exact Text.infix_append_iff_of_head hhead (Kind.isProse_of_mem_phrases h).ne_nil

/-- **The message about a condition that is neither true nor false tells an unknown name exactly
when a text of its value does.** -/
theorem ofMessage_notCondition (v : Json) :
    Kind.ofMessage (Expression.Cause.notCondition v).message =
      if v.soundsUnknown then .unknownName else .evaluation := by
  have hsame : (Kind.phrases.any fun phrase =>
      Text.occursIn phrase (Expression.Cause.notCondition v).message.toLower) =
        v.soundsUnknown := by
    rw [Bool.eq_iff_iff, Json.soundsUnknown]
    simp only [List.any_eq_true]
    constructor
    · rintro ⟨phrase, hphrase, hoccurs⟩
      obtain ⟨s, hs, hneedle⟩ := (Json.infix_compact_iff (Kind.isProse_of_mem_phrases hphrase) v).mp
        ((occursIn_notCondition hphrase v).mp hoccurs)
      refine ⟨s, hs, phrase, hphrase, Text.occursIn_iff.mpr ?_⟩
      rwa [Text.toList_toLower]
    · rintro ⟨s, hs, phrase, hphrase, hoccurs⟩
      rw [Text.occursIn_iff, Text.toList_toLower] at hoccurs
      exact ⟨phrase, hphrase, (occursIn_notCondition hphrase v).mpr
        ((Json.infix_compact_iff (Kind.isProse_of_mem_phrases hphrase) v).mpr ⟨s, hs, hoccurs⟩)⟩
  rw [Kind.ofMessage_eq, hsame]

variable {b : Bindings} {expr : String} {s t : Stream} {v : Json}

/-- A condition whose value is neither true nor false, nor a number, is refused with its value. -/
theorem run_condition (h : ExceptT.run (Expression.evaluate b expr) s = (.ok v, t))
    (hbool : ∀ c, v ≠ .bool c) (hnumber : ∀ n, v ≠ .number n) :
    ExceptT.run (Expression.condition b expr) s =
      (.error ⟨expr, (Expression.Cause.notCondition v).message⟩, t) := by
  have htruth : Expression.truth v = .error (.notCondition v) := by
    cases v with
    | bool c => exact absurd rfl (hbool c)
    | number n => exact absurd rfl (hnumber n)
    | _ => rfl
  rw [Expression.condition, run_bind_of_ok h, htruth]
  rfl

/-- **The diagnostic of a condition that is neither true nor false.**  The condition is refused, and
whatever frames are put around the error, its diagnostic is that of an expression without a value,
unless a text within the value, or the name of a field, reads like the message about an unknown
name. -/
theorem kind_of_condition (h : ExceptT.run (Expression.evaluate b expr) s = (.ok v, t))
    (hbool : ∀ c, v ≠ .bool c) (hnumber : ∀ n, v ≠ .number n) (frames : List (String × String)) :
    ∃ e, ExceptT.run (Expression.condition b expr) s = (.error e, t) ∧ e.expr = expr ∧
      (ofError (.expansion (.framed frames (.evaluate e)))).kind =
        if v.soundsUnknown then .unknownName else .evaluation := by
  refine ⟨_, run_condition h hbool hnumber, rfl, ?_⟩
  rw [ofError, ofExpansion, ExpansionError.root_framed]
  exact ofMessage_notCondition v

/-- The bindings of one name. -/
def noted (v : Json) : Bindings := Bindings.empty.insert "note" v

/-- A value with texts is neither true nor false, nor a number. -/
theorem exists_run_noted {w : Json} {texts : List String} {unknown : Bool}
    (h : (ExceptT.run (Expression.evaluate (noted w) "note") (.ofSeed 0)).1.toOption.any
      (fun v => decide (v.texts = texts ∧ v.soundsUnknown = unknown)) = true)
    (hne : texts ≠ []) :
    ∃ v t, ExceptT.run (Expression.evaluate (noted w) "note") (.ofSeed 0) = (.ok v, t) ∧
      v.texts = texts ∧ v.soundsUnknown = unknown ∧ (∀ c, v ≠ .bool c) ∧
        ∀ n, v ≠ .number n := by
  obtain ⟨v, hrun, hfields⟩ := exists_run_of_any h
  obtain ⟨htexts, hunknown⟩ := of_decide_eq_true hfields
  refine ⟨v, _, hrun, htexts, hunknown, ?_, ?_⟩
  · rintro c rfl
    exact hne htexts.symm
  · rintro n rfl
    exact hne htexts.symm

/-- Neither of the two texts holds a phrase, though both together would. -/
theorem kind_of_condition_noted :
    ∃ b v t e, ExceptT.run (Expression.evaluate b "note") (.ofSeed 0) = (.ok v, t) ∧
      v.texts = ["Variable", "not found"] ∧
      ExceptT.run (Expression.condition b "note") (.ofSeed 0) = (.error e, t) ∧
      e.expr = "note" ∧
      (ofError (.expansion (.framed [("element [0]", "\x7bi: 1\x7d")] (.evaluate e)))).kind =
        .evaluation := by
  obtain ⟨v, t, hrun, htexts, hunknown, hbool, hnumber⟩ :=
    @exists_run_noted (.array [.string "Variable", .string "not found"])
      ["Variable", "not found"] false (by decide +kernel) (by decide)
  obtain ⟨e, hcondition, hexpr, hkind⟩ :=
    kind_of_condition hrun hbool hnumber [("element [0]", "\x7bi: 1\x7d")]
  rw [hunknown] at hkind
  exact ⟨_, v, t, e, hrun, htexts, hcondition, hexpr, hkind⟩

/-- A text that holds a phrase is taken for an unknown name. -/
theorem not_forall_kind_eq_evaluation :
    ¬ ∀ (b : Bindings) (expr : String) (s t : Stream) (v : Json),
      ExceptT.run (Expression.evaluate b expr) s = (.ok v, t) →
        (∀ c, v ≠ .bool c) → (∀ n, v ≠ .number n) → ∀ frames e u,
          ExceptT.run (Expression.condition b expr) s = (.error e, u) →
            (ofError (.expansion (.framed frames (.evaluate e)))).kind = .evaluation := by
  intro hall
  obtain ⟨v, t, hrun, -, hunknown, hbool, hnumber⟩ :=
    @exists_run_noted (.string "function not found") ["function not found"] true
      (by decide +kernel) (by decide)
  have hkind := hall _ _ _ _ v hrun hbool hnumber [] _ _ (run_condition hrun hbool hnumber)
  have hmessage := ofMessage_notCondition v
  rw [hunknown] at hmessage
  exact absurd (hmessage.symm.trans hkind) (by decide)

end Diagnostic

end OpticScene
