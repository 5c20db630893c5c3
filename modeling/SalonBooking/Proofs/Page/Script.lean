import SalonBooking.Page.Document
import SalonBooking.Proofs.Form.Embedded
import SalonBooking.Proofs.Text.Marker

/-!
# The script and the stylesheet of a page

Both stand in the page as they are, so neither may hold `</`, which would end
its element, and the script may not hold `<script>` either if its constants are
to be found by that tag.

The stylesheet has no `<` at all: what a salon chooses in it is a color.  In
the script `<` only compares, so a blank or an equals sign comes next; what a
salon enters stands in the constants, where `<` is escaped.

* `angles_stylesheet`, `angles_controllerScript`: where `<` stands.
* `isReadable_constants`: every machine with room for the depth of a stored
  configuration reads the constants back.
-/

namespace SalonBooking.Page

open Text

/-! ## The shared texts -/

/-- Where `<` stands in a text is seen from its characters. -/
theorem angles_ofList {p : Char → Bool} {cs : List Char} (h : anglesBefore p cs = true) :
    anglesBefore p (String.ofList cs).toList = true := by
  rw [String.toList_ofList]
  exact h

theorem angles_append {p : Char → Bool} {s t : String} (hs : anglesBefore p s.toList = true)
    (ht : anglesBefore p t.toList = true) : anglesBefore p (s ++ t).toList = true := by
  rw [String.toList_append]
  exact anglesBefore_append hs ht

/-- The empty class: a `<` before one of its characters stands nowhere. -/
def noChar (_ : Char) : Bool := false

/-- What comes after `<` where it compares. -/
def isComparison (c : Char) : Bool := c == ' ' || c == '='

theorem angles_baseStyles : anglesBefore noChar baseStyles.toList = true := by
  unfold baseStyles
  repeat' with_reducible apply angles_append
  all_goals
    apply angles_ofList
    decide +kernel

/-- In the shared code `<` only compares. -/
theorem angles_clientScript : anglesBefore isComparison clientScript.toList = true := by
  unfold clientScript
  repeat' with_reducible apply angles_append
  all_goals
    apply angles_ofList
    decide +kernel

/-! ## The stylesheet -/

theorem angles_color {s : String} (h : IsColor s) : anglesBefore noChar s.toList = true := by
  obtain ⟨digits, rfl, -, hdigits⟩ := h
  rw [String.toList_ofList]
  refine anglesBefore_of_notMem fun hmem => ?_
  rcases List.mem_cons.mp hmem with heq | hmem
  · exact absurd heq (by decide)
  · exact absurd (hdigits '<' hmem) (by decide)

/-- Whatever a salon chooses, its stylesheet has no `<`. -/
theorem angles_stylesheet {config : FormConfig} (h : config.WellFormed) :
    anglesBefore noChar (stylesheet config).toList = true := by
  have hradius : anglesBefore noChar (cornerRadius config.ui.buttonStyle).toList = true := by
    cases config.ui.buttonStyle with
    | rounded => rfl
    | square => rfl
  refine angles_append (angles_append (angles_append (angles_append (angles_append ?_ ?_) ?_)
    hradius) ?_) angles_baseStyles
  · rfl
  · exact angles_color h.basicInfo.themeColor
  · rfl
  · rfl

/-! ## The constants -/

/-- The constants of a script with their names, in their order. -/
def constants (config : FormConfig) (formId storeId : String)
    (index : List (String × String)) : List (String × Json) :=
  [("FORM_CONFIG", config.toJson), ("FORM_ID", .str formId), ("STORE_ID", .str storeId),
    ("ACTION_INDEX", indexJson index), ("SLOT_TABLES", slotTables config)]

theorem isReadable_indexJson (index : List (String × String)) (room : Nat) :
    (indexJson index).IsReadable (room + 2) := by
  refine isReadable_arr_map fun entry _ => ?_
  refine Json.isReadable_obj (by simp [Assoc.keys]) ?_
  simp

theorem isReadable_slotTables (config : FormConfig) (room : Nat) :
    (slotTables config).IsReadable (room + 2) := by
  have htexts (times : List String) : (Json.arr (times.map .str)).IsReadable (room + 1) :=
    isReadable_arr_map fun time _ => Json.isReadable_str time room
  refine Json.isReadable_obj (by simp [Assoc.keys]) ?_
  simp [htexts]

/-- How many arrays and objects stand inside each other in a constant at most. -/
def constantDepth : Nat := 8

/-- Every constant is read back. -/
theorem isReadable_constants {config : FormConfig} (h : config.WellFormed)
    (formId storeId : String) (index : List (String × String)) :
    ∀ entry ∈ constants config formId storeId index, entry.2.IsReadable constantDepth := by
  have hconfig : config.toJson.IsReadable constantDepth := FormConfig.isReadable_toJson h 0
  have hindex : (indexJson index).IsReadable constantDepth := isReadable_indexJson index 6
  have htables : (slotTables config).IsReadable constantDepth := isReadable_slotTables config 6
  simp [constants, hconfig, hindex, htables]

/-! ## The script -/

/-- An embedded value has no `<`. -/
theorem angles_embed {v : Json} (hv : v.IsPlain) : anglesBefore isComparison v.embed.toList = true :=
  anglesBefore_of_notMem fun hmem => (Json.inert_of_mem_embed hv hmem).1 rfl

theorem angles_constant {name : String} (hname : anglesBefore isComparison name.toList = true)
    {v : Json} (hv : v.IsPlain) : anglesBefore isComparison (constant name v).toList = true :=
  angles_append (angles_append (angles_append (angles_append rfl hname) rfl) (angles_embed hv)) rfl

/-- In the script of a page `<` only compares, whatever the salon has entered. -/
theorem angles_controllerScript {config : FormConfig} (h : config.WellFormed)
    (formId storeId : String) (index : List (String × String)) :
    anglesBefore isComparison
      (controllerScript config (.str formId) (.str storeId) index).toList = true := by
  have hindex := (isReadable_indexJson index 0).plain
  have htables := (isReadable_slotTables config 0).plain
  have hconfig := (FormConfig.isReadable_toJson h 0).plain
  unfold controllerScript
  repeat' with_reducible apply angles_append
  · rfl
  · exact angles_constant rfl hconfig
  · exact angles_constant rfl trivial
  · exact angles_constant rfl trivial
  · exact angles_constant rfl hindex
  · exact angles_constant rfl htables
  · exact angles_clientScript
  · rfl

end SalonBooking.Page
