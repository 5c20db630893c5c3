import SalonBooking.Calendar.Date
import SalonBooking.Calendar.TimeOfDay
import SalonBooking.Json.Writable
import SalonBooking.Proofs.Text.Digits
import SalonBooking.Text.CodePoint

/-!
# Answers about days and times can be written

* `Text.isWritable_of_isAscii`: a text of ASCII characters holds no surrogates.
* `Date.isAscii_iso`, `TimeOfDay.isAscii_format`: days and times of day are such texts.
* `Json.areWritable_iff`: an array can be written if its items can.
-/

namespace SalonBooking

/-! ## ASCII -/

namespace Text

/-- Characters that are all ASCII. -/
def IsAscii (cs : List Char) : Prop := ∀ c ∈ cs, c.toNat < 128

theorem IsAscii.append {cs ds : List Char} (hcs : IsAscii cs) (hds : IsAscii ds) :
    IsAscii (cs ++ ds) := by
  intro c hc
  rcases List.mem_append.mp hc with hc | hc
  · exact hcs c hc
  · exact hds c hc

theorem IsAscii.cons {c : Char} {cs : List Char} (hc : c.toNat < 128) (hcs : IsAscii cs) :
    IsAscii (c :: cs) :=
  List.forall_mem_cons.mpr ⟨hc, hcs⟩

/-- A text of ASCII characters holds no surrogates. -/
theorem isWritable_of_isAscii {s : String} (h : IsAscii s.toList) : isWritable s = true := by
  have hmark : mark ∉ s.toList := fun hmem => absurd (h mark hmem) (by decide)
  rw [isWritable, codes_eq_unspell, unspell_of_not_mem hmark, Bool.not_eq_true',
    List.any_eq_false]
  intro code hcode
  obtain ⟨c, -, rfl⟩ := List.mem_map.mp hcode
  exact not_isSurrogate_toNat c

theorem isAscii_padLeft (width : Nat) {cs : List Char} (h : IsAscii cs) :
    IsAscii (padLeft width cs) := by
  refine IsAscii.append (fun c hc => ?_) h
  rw [List.eq_of_mem_replicate hc]
  decide

/-- The digits of a number are ASCII. -/
theorem isAscii_toString (n : Nat) : IsAscii (toString n).toList := by
  intro c hc
  exact Nat.lt_of_le_of_lt (toNat_of_isDigit (isDigit_of_mem_toString hc)).2 (by decide)

end Text

theorem Date.isAscii_padded (width n : Nat) : Text.IsAscii (padded width n).toList := by
  rw [padded, String.toList_ofList]
  exact Text.isAscii_padLeft width (Text.isAscii_toString n)

theorem Date.isAscii_iso (d : Date) : Text.IsAscii d.iso.toList := by
  have hhyphen : Text.IsAscii "-".toList := by
    intro c hc
    obtain rfl : c = '-' := by simpa using hc
    decide
  simp only [iso, String.toList_append]
  exact ((((isAscii_padded 4 _).append hhyphen).append (isAscii_padded 2 _)).append hhyphen).append
    (isAscii_padded 2 _)

theorem TimeOfDay.isAscii_twoDigits (n : Int) : Text.IsAscii (twoDigits n) := by
  rw [twoDigits]
  split
  · exact .cons (by decide) (Text.isAscii_padLeft 1 (Text.isAscii_toString _))
  · exact Text.isAscii_padLeft 2 (Text.isAscii_toString _)

theorem TimeOfDay.isAscii_format (minutes : Int) : Text.IsAscii (format minutes).toList := by
  rw [format, String.toList_ofList]
  exact (isAscii_twoDigits _).append (.cons (by decide) (isAscii_twoDigits _))

/-! ## Values -/

namespace Json

variable {limits : Limits}

theorem areWritable_iff {vs : List Json} :
    areWritable limits vs = true ↔ ∀ v ∈ vs, v.isWritable limits = true := by
  induction vs with
  | nil => simp [areWritable]
  | cons v rest ih => rw [areWritable, Bool.and_eq_true, ih, List.forall_mem_cons]

theorem isWritable_arr {vs : List Json} (h : ∀ v ∈ vs, v.isWritable limits = true) :
    (Json.arr vs).isWritable limits = true := by
  rw [isWritable, areWritable_iff]
  exact h

theorem isWritable_obj_nil : (Json.obj []).isWritable limits = true := rfl

theorem isWritable_obj_cons_iff {key : String} {v : Json} {rest : List (String × Json)}
    (hkey : Text.isWritable key = true) : (Json.obj ((key, v) :: rest)).isWritable limits = true ↔
      v.isWritable limits = true ∧ (Json.obj rest).isWritable limits = true := by
  rw [isWritable, isWritable, membersAreWritable, hkey, Bool.true_and, Bool.and_eq_true]

/-- An object can be written if its names and its values can. -/
theorem isWritable_obj_cons {key : String} {v : Json} {rest : List (String × Json)}
    (hkey : Text.isWritable key = true) (hv : v.isWritable limits = true)
    (hrest : (Json.obj rest).isWritable limits = true) :
    (Json.obj ((key, v) :: rest)).isWritable limits = true :=
  (isWritable_obj_cons_iff hkey).mpr ⟨hv, hrest⟩

end Json

end SalonBooking
