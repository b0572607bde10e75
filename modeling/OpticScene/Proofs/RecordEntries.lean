import Mathlib.Data.List.Nodup
import OpticScene.Proofs.Draws
import OpticScene.Record

/-!
# What records say

The fields of a record may be named or stand in order, unknown ones may be among them, and some may
be missing.  All that a reader sees of a record are the values of the fields that it knows, so that
records that say the same about these are read as the same.

## Main definitions

* `Record.Shape.entries` — what a record says, whether the fields are named or stand in order.
* `Record.Agree` — two records say the same about some fields.
* `Record.Accepts` — the fields that are known are right, and the required ones are there.
* `Record.Shape.Decodes` — a reader looks at nothing but the fields of a shape.

## Main results

* `Record.Shape.read_object_eq_ok` — **which records are read.**
* `Record.Shape.Decodes.eq_ok_of_agree` — **records that say the same are read as the same.**
-/

namespace OpticScene

namespace Record

/-! ### What a record says -/

/-- The names of the fields in order. -/
def Shape.names (shape : Shape) : List String := shape.fields.map Field.name

/-- What a record says: its fields, or the elements of a list with the names of the fields. -/
def Shape.entries (shape : Shape) : Json → Fields
  | .object given => given
  | .array items => shape.names.zip items
  | _ => []

/-- Two records give the fields the same values, in whatever order and whatever else they hold. -/
def Agree (fields : List Field) (given given' : Fields) : Prop :=
  ∀ field ∈ fields, ∀ v, (field.name, v) ∈ given ↔ (field.name, v) ∈ given'

/-- All known fields have values that may stand there, and no required field is missing. -/
structure Accepts (fields : List Field) (given : Fields) : Prop where
  /-- A known field has a value that may stand there. -/
  check : ∀ field ∈ fields, ∀ v, (field.name, v) ∈ given → field.check v = .ok ()
  /-- A required field is there. -/
  present : ∀ field ∈ fields, field.isRequired = true → field.name ∈ Named.names given

namespace Accepts

variable {fields : List Field} {given given' : Fields}

theorem nil : Accepts [] given :=
  ⟨fun _ hf => absurd hf List.not_mem_nil, fun _ hf => absurd hf List.not_mem_nil⟩

/-- Fields that are not known do not matter, nor does the order. -/
theorem congr (h : Accepts fields given) (hsame : Agree fields given given') :
    Accepts fields given' := by
  refine ⟨fun field hf v hv => h.check field hf v ((hsame field hf v).mpr hv), ?_⟩
  intro field hf hr
  obtain ⟨⟨name, v⟩, he, hname⟩ := List.mem_map.mp (h.present field hf hr)
  subst hname
  exact List.mem_map_of_mem ((hsame field hf v).mp he)

/-- One more field that is missing. -/
theorem skip {field : Field} (h : Accepts fields []) (hoptional : ¬ field.isRequired = true) :
    Accepts (field :: fields) [] := by
  refine ⟨fun _ _ _ hv => absurd hv List.not_mem_nil, fun other ho hr => ?_⟩
  rcases List.mem_cons.mp ho with rfl | ho
  · exact absurd hr hoptional
  · exact h.present other ho hr

/-- A value for one more field. -/
theorem cons {field : Field} {v : Json} (h : Accepts fields given)
    (hcheck : field.check v = .ok ()) (hnew : field.name ∉ fields.map Field.name)
    (hgiven : field.name ∉ Named.names given) :
    Accepts (field :: fields) ((field.name, v) :: given) := by
  refine ⟨fun other ho w hw => ?_, fun other ho hr => ?_⟩
  · rcases List.mem_cons.mp ho with rfl | ho
    · rcases List.mem_cons.mp hw with hw | hw
      · cases hw
        exact hcheck
      · exact absurd (List.mem_map_of_mem hw) hgiven
    · rcases List.mem_cons.mp hw with hw | hw
      · have hname : other.name = field.name := congrArg Prod.fst hw
        exact absurd (hname ▸ List.mem_map_of_mem ho) hnew
      · exact h.check other ho w hw
  · rcases List.mem_cons.mp ho with rfl | ho
    · exact List.mem_cons_self
    · exact List.mem_cons_of_mem _ (h.present other ho hr)

end Accepts

/-- The elements of a list get the first of the names. -/
theorem names_zip_sublist (names : List String) (items : List Json) :
    (Named.names (names.zip items)).Sublist names := by
  induction names generalizing items with
  | nil => exact List.Sublist.slnil
  | cons name names ih =>
    cases items with
    | nil => exact List.nil_sublist _
    | cons v vs => exact (ih vs).cons_cons name

/-- The elements of a list that is read are the values of the fields in order. -/
theorem Shape.nameElements_eq_ok {shape : Shape} {total : Nat} :
    ∀ {fields : List Field} {items : List Json} {index : Nat} {given : Fields},
      (fields.map Field.name).Nodup →
        shape.nameElements total index fields items = .ok given →
          given = (fields.map Field.name).zip items ∧ Accepts fields given := by
  intro fields
  induction fields with
  | nil =>
    intro items index given _ h
    cases items with
    | nil =>
      cases h
      exact ⟨rfl, .nil⟩
    | cons v vs => cases h
  | cons field fields ih =>
    intro items index given hn h
    obtain ⟨hnew, hn⟩ := List.nodup_cons.mp hn
    cases items with
    | nil =>
      rw [nameElements] at h
      split at h
      · cases h
      · next hoptional =>
        obtain ⟨rfl, hrest⟩ := ih hn h
        rw [List.zip_nil_right] at hrest ⊢
        exact ⟨rfl, hrest.skip hoptional⟩
    | cons v vs =>
      rw [nameElements] at h
      obtain ⟨_, hcheck, h⟩ := bind_eq_ok.mp h
      obtain ⟨rest, hrest, h⟩ := bind_eq_ok.mp h
      cases h
      obtain ⟨rfl, haccepts⟩ := ih hn hrest
      exact ⟨rfl, haccepts.cons hcheck hnew fun hm => hnew ((names_zip_sublist _ _).subset hm)⟩

theorem checkMissing_eq_ok {given : Fields} {fields : List Field} :
    checkMissing given fields = .ok () ↔
      ∀ field ∈ fields, field.isRequired = true → field.name ∈ Named.names given := by
  induction fields with
  | nil => exact ⟨fun _ _ hf => absurd hf List.not_mem_nil, fun _ => rfl⟩
  | cons field fields ih =>
    rw [List.forall_mem_cons, ← ih, checkMissing, ← Named.contains_iff, Named.contains]
    cases field.isRequired <;> cases Named.get? field.name given <;> simp

namespace Shape

variable {shape : Shape} (hn : shape.names.Nodup) {record : Json} {given fields : Fields}

include hn

/-- The first field of a record is right if it is not known or has a value that may stand there. -/
theorem checkGiven_cons_eq_ok {k : String} {w : Json} :
    shape.checkGiven ((k, w) :: given) = .ok () ↔
      (∀ field ∈ shape.fields, field.name = k → field.check w = .ok ()) ∧
        shape.checkGiven given = .ok () := by
  rw [checkGiven]
  split
  · next found hfound =>
    have hmem := List.mem_of_find?_eq_some hfound
    have hk : found.name = k := by simpa using List.find?_some hfound
    have honly : ∀ field ∈ shape.fields, field.name = k → field = found :=
      fun field hf hname => List.inj_on_of_nodup_map hn hf hmem (hname.trans hk.symm)
    rw [bind_eq_ok]
    constructor
    · rintro ⟨_, hw, hrest⟩
      exact ⟨fun field hf hname => honly field hf hname ▸ hw, hrest⟩
    · rintro ⟨hw, hrest⟩
      exact ⟨(), hw found hmem hk, hrest⟩
  · next hnone =>
    rw [List.find?_eq_none] at hnone
    exact ⟨fun h => ⟨fun field hf hk => absurd (decide_eq_true hk) (hnone field hf), h⟩, And.right⟩

theorem checkGiven_eq_ok :
    shape.checkGiven given = .ok () ↔
      ∀ field ∈ shape.fields, ∀ v, (field.name, v) ∈ given → field.check v = .ok () := by
  induction given with
  | nil => exact ⟨fun _ _ _ _ hv => absurd hv List.not_mem_nil, fun _ => rfl⟩
  | cons e given ih =>
    obtain ⟨k, w⟩ := e
    rw [checkGiven_cons_eq_ok hn, ih]
    constructor
    · rintro ⟨hw, hrest⟩ field hf v hv
      rcases List.mem_cons.mp hv with hv | hv
      · cases hv
        exact hw field hf rfl
      · exact hrest field hf v hv
    · refine fun h => ⟨fun field hf hk => h field hf w (hk ▸ List.mem_cons_self), ?_⟩
      exact fun field hf v hv => h field hf v (List.mem_cons_of_mem _ hv)

/-- **A record is read if the known fields are right and the required ones are there**, and then it
is read as what it says. -/
theorem read_object_eq_ok :
    shape.read (.object given) = .ok fields ↔ fields = given ∧ Accepts shape.fields given := by
  rw [read, bind_eq_ok]
  constructor
  · rintro ⟨_, hcheck, h⟩
    obtain ⟨_, hmissing, h⟩ := bind_eq_ok.mp h
    cases h
    exact ⟨rfl, (checkGiven_eq_ok hn).mp hcheck, checkMissing_eq_ok.mp hmissing⟩
  · rintro ⟨rfl, hcheck, hmissing⟩
    exact ⟨(), (checkGiven_eq_ok hn).mpr hcheck,
      bind_eq_ok.mpr ⟨(), checkMissing_eq_ok.mpr hmissing, rfl⟩⟩

/-- What is read of a record is what it says. -/
theorem eq_entries_of_read (h : shape.read record = .ok given) :
    given = shape.entries record ∧ Accepts shape.fields given := by
  cases record with
  | object fields =>
    obtain ⟨rfl, haccepts⟩ := (read_object_eq_ok hn).mp h
    exact ⟨rfl, haccepts⟩
  | array items => exact nameElements_eq_ok hn h
  | _ => cases h

/-- What says the same as a record that is read is read. -/
theorem read_of_agree (h : shape.read record = .ok given)
    (hsame : Agree shape.fields (shape.entries record) fields) :
    shape.read (.object fields) = .ok fields := by
  obtain ⟨rfl, haccepts⟩ := eq_entries_of_read hn h
  exact (read_object_eq_ok hn).mpr ⟨rfl, haccepts.congr hsame⟩

end Shape

/-! ### Readers of records -/

/-- A name that stands only once in each of two records has the same value in both if they say the
same about it. -/
theorem Agree.get?_eq {fields : List Field} {given given' : Fields} (h : Agree fields given given')
    (hn : (Named.names given).Nodup) (hn' : (Named.names given').Nodup) {field : Field}
    (hf : field ∈ fields) : Named.get? field.name given = Named.get? field.name given' := by
  refine Option.ext fun v => ⟨fun hv => ?_, fun hv => ?_⟩
  · exact Named.get?_of_mem ((h field hf v).mp (Named.mem_of_get?_eq_some hv)) hn'
  · exact Named.get?_of_mem ((h field hf v).mpr (Named.mem_of_get?_eq_some hv)) hn

/-- A reader takes all that it looks at from the fields of a shape. -/
def Shape.Decodes {α : Type} (shape : Shape) (decode : Decoder α) : Prop :=
  ∃ f : Fields → Except Cause α, (∀ record, decode record = shape.read record >>= f) ∧
    ∀ given given' : Fields, (∀ field ∈ shape.fields,
      Named.get? field.name given = Named.get? field.name given') → f given = f given'

/-- **Records that say the same are read as the same.** -/
theorem Shape.Decodes.eq_ok_of_agree {α : Type} {shape : Shape} {decode : Decoder α}
    (h : shape.Decodes decode) (hn : shape.names.Nodup) {record : Json} {fields : Fields} {a : α}
    (hrecord : decode record = .ok a) (hentries : (Named.names (shape.entries record)).Nodup)
    (hfields : (Named.names fields).Nodup)
    (hsame : Agree shape.fields (shape.entries record) fields) :
    decode (.object fields) = .ok a := by
  obtain ⟨f, hf, hlooks⟩ := h
  rw [hf] at hrecord ⊢
  obtain ⟨given, hgiven, ha⟩ := bind_eq_ok.mp hrecord
  obtain ⟨rfl, -⟩ := Shape.eq_entries_of_read hn hgiven
  refine bind_eq_ok.mpr ⟨fields, Shape.read_of_agree hn hgiven hsame, ?_⟩
  rw [← ha]
  exact (hlooks _ _ fun field hfield => hsame.get?_eq hentries hfields hfield).symm

end Record

end OpticScene
