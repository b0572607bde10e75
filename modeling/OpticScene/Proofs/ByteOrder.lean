import Mathlib.Data.List.Sort
import OpticScene.Named

/-!
# Texts by their bytes

Texts are compared by their characters, and characters by their numbers.  This is the same as to
compare the texts by their bytes in UTF-8: of two characters the one with the larger number has the
larger first byte, or as many bytes of which the first that differs is the larger one.

## Main definitions

* `Text.bytes` — the bytes of a text.
* `Text.IsNotAfter` — a text does not come after another one.
* `Named.place`, `Named.inByteOrder` — named values, sorted by the bytes of their names.

## Main results

* `Text.encoded_append_lt` — the bytes of a smaller character come first, whatever follows.
* `Text.bytes_lt_iff`, `Text.isNotAfter_iff` — **the order of texts is the order of their bytes.**
* `Named.perm_inByteOrder`, `Named.names_inByteOrder` — sorting keeps the entries and sorts their
  names.
-/

namespace OpticScene

namespace Text

/-! ### Bytes of characters -/

/-- The bytes of a text in UTF-8. -/
def bytes (s : String) : List UInt8 := s.toUTF8.data.toList

theorem bytes_eq (s : String) : bytes s = s.toList.flatMap String.utf8EncodeChar := by
  have hbytes : s.toUTF8 = s.toList.utf8Encode := String.utf8Encode_toList.symm
  rw [bytes, hbytes, List.utf8Encode, List.data_toByteArray]

theorem toNat_val_lt (c : Char) : c.val.toNat < 0x110000 := by
  have hvalid := c.valid
  simp only [UInt32.isValidChar, Nat.isValidChar] at hvalid
  omega

theorem toNat_ofNat_of_lt {n : Nat} (h : n < 256) : (UInt8.ofNat n).toNat = n := by
  rw [UInt8.toNat_ofNat', Nat.mod_eq_of_lt h]

/-- **The bytes of a smaller character come first**, whatever follows them. -/
theorem encoded_append_lt {c d : Char} (h : c < d) (xs ys : List UInt8) :
    String.utf8EncodeChar c ++ xs < String.utf8EncodeChar d ++ ys := by
  have hlt : c.val.toNat < d.val.toNat := h
  have hc := toNat_val_lt c
  have hd := toNat_val_lt d
  generalize hm : c.val.toNat = m at hlt hc
  generalize hn : d.val.toNat = n at hlt hd
  -- the numbers by their digits to the base 64
  have hdigits : m / 262144 < n / 262144 ∨ m / 262144 = n / 262144 ∧
      (m / 4096 % 64 < n / 4096 % 64 ∨ m / 4096 % 64 = n / 4096 % 64 ∧
        (m / 64 % 64 < n / 64 % 64 ∨ m / 64 % 64 = n / 64 % 64 ∧ m % 64 < n % 64)) := by omega
  have hmtop : m / 262144 % 8 = m / 262144 := by omega
  have hntop : n / 262144 % 8 = n / 262144 := by omega
  rw [String.utf8EncodeChar, String.utf8EncodeChar, hm, hn]
  -- a first byte tells how many bytes there are, and larger numbers never have fewer
  split_ifs <;>
    simp (disch := omega) only [List.cons_append, List.nil_append, List.cons_lt_cons_iff,
      UInt8.lt_iff_toNat_lt, ← UInt8.toNat_inj, toNat_ofNat_of_lt, hmtop, hntop] <;>
    omega

/-! ### Bytes of texts -/

theorem flatMap_encode_lt {cs ds : List Char} (h : cs < ds) :
    cs.flatMap String.utf8EncodeChar < ds.flatMap String.utf8EncodeChar := by
  induction cs generalizing ds with
  | nil =>
    cases ds with
    | nil => exact absurd h (List.not_lt_nil [])
    | cons d ds =>
      obtain ⟨b, bs, hb⟩ := List.exists_cons_of_ne_nil (String.utf8EncodeChar_ne_nil (c := d))
      rw [List.flatMap_cons, hb]
      exact List.nil_lt_cons b _
  | cons c cs ih =>
    cases ds with
    | nil => exact absurd h (List.not_lt_nil _)
    | cons d ds =>
      rw [List.flatMap_cons, List.flatMap_cons]
      rcases List.cons_lt_cons_iff.mp h with hlt | ⟨rfl, hrest⟩
      · exact encoded_append_lt hlt _ _
      · exact List.append_left_lt (ih hrest)

/-- **The order of texts is the order of their bytes.** -/
theorem bytes_lt_iff {s t : String} : bytes s < bytes t ↔ s < t := by
  have hmono : ∀ {s t : String}, s < t → bytes s < bytes t := by
    intro s t h
    rw [bytes_eq, bytes_eq]
    exact flatMap_encode_lt h
  refine ⟨fun h => ?_, hmono⟩
  by_contra hnot
  by_cases heq : s = t
  · subst heq
    exact List.lt_irrefl _ h
  · have hgt : t < s := by
      by_contra hle
      exact heq (String.le_antisymm hle hnot)
    exact List.lt_asymm h (hmono hgt)

/-- A text does not come after another one when they are sorted by their bytes. -/
def IsNotAfter (s t : String) : Prop := ¬ bytes t < bytes s

instance : DecidableRel IsNotAfter := fun s t => inferInstanceAs (Decidable (¬ bytes t < bytes s))

theorem isNotAfter_iff {s t : String} : IsNotAfter s t ↔ s ≤ t := not_congr bytes_lt_iff

instance : Std.Total IsNotAfter where
  total s t := by
    rw [isNotAfter_iff, isNotAfter_iff]
    exact String.le_total s t

instance : IsTrans String IsNotAfter where
  trans s t u := by
    rw [isNotAfter_iff, isNotAfter_iff, isNotAfter_iff]
    exact String.le_trans

/-- Texts that are sorted and all different increase. -/
theorem pairwise_lt_of_nodup {names : List String} (hsorted : names.Pairwise IsNotAfter)
    (hnodup : names.Nodup) : names.Pairwise fun s t => bytes s < bytes t := by
  refine (hsorted.and hnodup).imp fun {s t} h => ?_
  obtain ⟨hle, hne⟩ := h
  rw [bytes_lt_iff]
  by_contra hnot
  exact hne (String.le_antisymm (isNotAfter_iff.mp hle) hnot)

end Text

/-! ### Named values in order -/

namespace Named

variable {α : Type}

/-- Puts an entry before the first one whose name is not smaller. -/
def place (k : String) (a : α) (entries : Named α) : Named α :=
  entries.orderedInsert (fun e f => Text.IsNotAfter e.1 f.1) (k, a)

/-- The entries, sorted by the bytes of their names. -/
def inByteOrder (entries : Named α) : Named α :=
  entries.insertionSort fun e f => Text.IsNotAfter e.1 f.1

theorem place_cons_of_lt {k l : String} (h : k < l) (a b : α) (entries : Named α) :
    place k a ((l, b) :: entries) = (k, a) :: (l, b) :: entries :=
  if_pos (Text.isNotAfter_iff.mpr (String.lt_asymm h))

theorem place_cons_of_not_lt {k l : String} (h : ¬ k < l) (hne : k ≠ l) (a b : α)
    (entries : Named α) : place k a ((l, b) :: entries) = (l, b) :: place k a entries := by
  have hlater : ¬ Text.IsNotAfter k l := fun hle =>
    hne (String.le_antisymm (Text.isNotAfter_iff.mp hle) h)
  exact if_neg hlater

theorem inByteOrder_cons (k : String) (a : α) (entries : Named α) :
    inByteOrder ((k, a) :: entries) = place k a (inByteOrder entries) := rfl

theorem perm_inByteOrder (entries : Named α) : (inByteOrder entries).Perm entries :=
  List.perm_insertionSort _ entries

theorem names_inByteOrder (entries : Named α) :
    names (inByteOrder entries) = (names entries).insertionSort Text.IsNotAfter :=
  List.map_insertionSort _ _ _ _ fun _ _ _ _ => Iff.rfl

/-- Entries in order stay as they are. -/
theorem inByteOrder_eq_self {entries : Named α}
    (h : (names entries).Pairwise Text.IsNotAfter) : inByteOrder entries = entries :=
  List.Pairwise.insertionSort_eq (List.pairwise_map.mp h)

end Named

end OpticScene
