import OpticScene.Proofs.Nesting

/-!
# How expansions end

An expansion that does not come to its end leaves an error behind.  Most errors say nothing about
the library: a template or a record is wrong by itself.  The others tell what the library looked
like at that moment: a module was unknown, a module needed another number of control points, or
there was no level left.

That an error of the second kind can be told from its text is not obvious: names of modules are
arbitrary texts.  But the numbers stand at the end, and digits end where something else stands
before them.

## Main definitions

* `Library.Refuses` — the errors that an expansion can end with.

## Main results

* `Instance.wrongPoints_inj` — **the error about control points tells the module and both numbers.**
* `Registry.refuses_of_lastError` — every expansion ends with one of the errors, if with any.
-/

namespace OpticScene

open OpticScene.Random (Stream)
open OpticScene.Module (Definition Instance Library)

/-! ### Texts of numbers -/

/-- Digits at the end of a text can be told from what stands before them. -/
theorem append_digits_inj {before before' digits digits' : List Char} {c : Char}
    (hc : c.isDigit = false) (hd : ∀ x ∈ digits, x.isDigit = true)
    (hd' : ∀ x ∈ digits', x.isDigit = true)
    (h : before ++ c :: digits = before' ++ c :: digits') :
    before = before' ∧ digits = digits' := by
  have hmem : c ∉ digits := fun hm => by rw [hd c hm] at hc; cases hc
  have hmem' : c ∉ digits' := fun hm => by rw [hd' c hm] at hc; cases hc
  -- if one of the texts before were longer, it would reach over `c` into the other digits
  rcases List.append_eq_append_iff.mp h with ⟨between, hbefore, hrest⟩ | ⟨between, hbefore, hrest⟩
  · cases between with
    | nil => exact ⟨by rw [hbefore, List.append_nil], (List.cons.inj hrest).2⟩
    | cons x between =>
      refine absurd ?_ hmem
      rw [(List.cons.inj hrest).2]
      exact List.mem_append_right _ List.mem_cons_self
  · cases between with
    | nil => exact ⟨by rw [hbefore, List.append_nil], (List.cons.inj hrest).2.symm⟩
    | cons x between =>
      refine absurd ?_ hmem'
      rw [(List.cons.inj hrest).2]
      exact List.mem_append_right _ List.mem_cons_self

/-- Digits after the same text can be told from what stands before it, if the text ends
otherwise. -/
theorem append_append_digits_inj {before before' text digits digits' : List Char} {c : Char}
    (ht : text.getLast? = some c) (hc : c.isDigit = false)
    (hd : ∀ x ∈ digits, x.isDigit = true) (hd' : ∀ x ∈ digits', x.isDigit = true)
    (h : before ++ text ++ digits = before' ++ text ++ digits') :
    before = before' ∧ digits = digits' := by
  obtain ⟨init, rfl⟩ := List.getLast?_eq_some_iff.mp ht
  have hcons : ∀ b d : List Char, b ++ (init ++ [c]) ++ d = b ++ init ++ c :: d := by
    intro b d
    rw [← List.append_assoc, List.append_assoc, List.singleton_append]
  rw [hcons, hcons] at h
  obtain ⟨hinit, hdigits⟩ := append_digits_inj hc hd hd' h
  exact ⟨List.append_cancel_right hinit, hdigits⟩

theorem isDigit_of_mem_toDigits (n : Nat) : ∀ c ∈ Nat.toDigits 10 n, c.isDigit = true :=
  fun _ hc => Nat.isDigit_of_mem_toDigits (by decide) (by decide) hc

theorem toDigits_inj {m n : Nat} (h : Nat.toDigits 10 m = Nat.toDigits 10 n) : m = n := by
  rw [← Nat.ofDigitChars_ten_toDigits (n := m), h, Nat.ofDigitChars_ten_toDigits]

namespace Module.Instance

/-- **The error about control points tells the module and both numbers.** -/
theorem wrongPoints_inj {name name' : String} {expected expected' given given' : Nat}
    (h : wrongPoints name expected given = wrongPoints name' expected' given') :
    name = name' ∧ expected = expected' ∧ given = given' := by
  have htext := congrArg String.toList (SceneError.invalidRecord.inj h).2
  simp only [String.toList_append, Nat.toString_eq_repr, Nat.toList_repr] at htext
  -- the number given stands last; once it is cut off, the number expected does
  obtain ⟨hbefore, hgiven⟩ := append_append_digits_inj (c := ' ') (by decide) rfl
    (isDigit_of_mem_toDigits given) (isDigit_of_mem_toDigits given') htext
  obtain ⟨hname, hexpected⟩ := append_append_digits_inj (c := ' ') (by decide) rfl
    (isDigit_of_mem_toDigits expected) (isDigit_of_mem_toDigits expected') hbefore
  have hname := List.append_cancel_left hname
  exact ⟨String.toList_inj.mp hname, toDigits_inj hexpected, toDigits_inj hgiven⟩

/-- The message of a cause begins with one of four texts. -/
theorem exists_message_eq (cause : Record.Cause) :
    ∃ text ∈ ["missing field \x60", "invalid type: ", "invalid value: ", "invalid length "],
      ∃ rest, cause.message = text ++ rest := by
  cases cause with
  | missing field => exact ⟨_, by decide, field ++ "\x60", String.append_assoc ..⟩
  | wrongType found expected =>
    refine ⟨"invalid type: ", by decide, found ++ (", expected " ++ expected), ?_⟩
    rw [← String.append_assoc, ← String.append_assoc]
    rfl
  | wrongValue found expected =>
    refine ⟨"invalid value: ", by decide, found ++ (", expected " ++ expected), ?_⟩
    rw [← String.append_assoc, ← String.append_assoc]
    rfl
  | wrongLength length expected =>
    refine ⟨"invalid length ", by decide, toString length ++ (", expected " ++ expected), ?_⟩
    rw [← String.append_assoc, ← String.append_assoc]
    rfl

/-- The causes that are found in the fields of a record do not read like the error about control
points. -/
theorem ofRecord_ne_wrongPoints (cause : Record.Cause) (name : String) (expected given : Nat) :
    SceneError.ofRecord tag cause ≠ wrongPoints name expected given := by
  intro h
  -- none of the four texts begins like the word `module`
  have hdiffers : ∀ text ∈ ["missing field \x60", "invalid type: ", "invalid value: ",
      "invalid length "], 1 < text.toList.length ∧ text.toList[1]? ≠ "module \x60".toList[1]? := by
    decide
  obtain ⟨text, htext, rest, hmessage⟩ := exists_message_eq cause
  have hsecond := congrArg (fun s => s.toList[1]?)
    (hmessage.symm.trans (SceneError.invalidRecord.inj h).2)
  simp only [String.toList_append, List.append_assoc] at hsecond
  obtain ⟨hlength, hchar⟩ := hdiffers text htext
  rw [List.getElem?_append_left hlength, List.getElem?_append_left (by decide)] at hsecond
  exact hchar hsecond

end Module.Instance

/-! ### Errors of expansions -/

/-- An expansion with the modules of a library can end with the error, where `levels` levels are
left below it. -/
inductive Module.Library.Refuses (library : Library) (levels : Nat) : SceneError → Prop
  /-- A template could not be expanded. -/
  | expansion (e : ExpansionError) : Refuses library levels (.expansion e)
  /-- No level is left. -/
  | nestingTooDeep : levels = 0 → Refuses library levels (.nestingTooDeep maxDepth)
  /-- A record is wrong by itself. -/
  | ofRecord {e : SceneError} : e.IsOfRecord → Refuses library levels e
  /-- A module is unknown. -/
  | unknownModule {name : String} : library.find? name = none →
    Refuses library levels (.unknownModule name)
  /-- A record has not as many control points as its module needs. -/
  | wrongPoints {name : String} {d : Definition} (given : Nat) : library.find? name = some d →
    Refuses library levels (Instance.wrongPoints name d.numPoints given)

namespace Module.Instance

variable {Obj : Type}

/-- The error of some records is that of one of them. -/
theorem exists_run_of_buildAll_error {build : Json → Random.Draws SceneError Obj} {e : SceneError} :
    ∀ {records : List Json} {s : Stream}, (buildAll build records s).1.2 = some e →
      ∃ record t u, ExceptT.run (build record) t = (.error e, u) := by
  intro records
  induction records with
  | nil => intro s h; rw [buildAll_nil] at h; cases h
  | cons record records ih =>
    intro s h
    rcases hb : ExceptT.run (build record) s with ⟨e' | object, t⟩
    · rw [buildAll_cons_of_error hb] at h
      cases h
      exact ⟨record, s, t, hb⟩
    · rw [buildAll_cons_of_ok hb] at h
      exact ih h

end Module.Instance

namespace Registry

variable {registry : Registry} {library : Library}

theorem refuses_of_run_instantiate {levels : Nat} {record : Json} {e : SceneError} {s t : Stream}
    (h : ExceptT.run (registry.instantiate library levels record) s = (.error e, t))
    (levels' : Nat) : library.Refuses levels' e := by
  rcases run_instantiateWith_cases registry record with ⟨r, hr, hrun⟩ | ⟨fields, hrun⟩
  · have herror : r = .error e := congrArg Prod.fst ((hrun _ _ s).symm.trans h)
    exact .ofRecord (hr.isOfRecord e herror)
  · have hread := (hrun library (registry.builder library levels) s).symm.trans h
    rw [ofReadFields, Instance.ofFields_eq] at hread
    rcases hd : library.find? fields.moduleName with _ | d
    · rw [hd] at hread
      cases hread
      exact .unknownModule hd
    · rw [hd] at hread
      by_cases hfits : fields.Fits d
      · simp only [hfits, if_true] at hread
        cases hread
      · simp only [hfits, if_false] at hread
        cases hread
        exact .wrongPoints _ hd

/-- **Every expansion ends with one of the errors, if with any.** -/
theorem refuses_of_lastError {levels : Nat} {core : Instance SceneObject} {s : Stream}
    {e : SceneError}
    (h : (core.refresh (registry.builder library levels) s).1.lastError = some e) :
    library.Refuses levels e := by
  rw [Instance.lastError_refresh] at h
  cases hp : core.placement with
  | collecting =>
    rw [Instance.expansion_collecting _ hp] at h
    cases h
  | complete =>
    rcases hr : ExceptT.run core.expandRecords s with ⟨e' | records, t⟩
    · rw [Instance.expansion_of_error _ hp hr] at h
      cases h
      exact .expansion e'
    · cases levels with
      | zero =>
        rw [builder, Instance.expansion_of_none hp hr] at h
        cases h
        exact .nestingTooDeep rfl
      | succ levels =>
        rw [builder, Instance.expansion_of_some hp hr] at h
        obtain ⟨record, u, v, hrun⟩ := Instance.exists_run_of_buildAll_error h
        exact refuses_of_run_instantiate hrun _

end Registry

end OpticScene
