import SalonBooking.Proofs.Form.WellFormed
import SalonBooking.Proofs.Json.RoundTrip

/-!
# Stored configurations can be read

A stored configuration is a value that a JSON reader takes: names do not repeat
within an object, its numbers are short, and no more than eight arrays and
objects stand inside each other.

One lemma per record, up to `FormConfig.isReadable_toJson`.
-/

namespace SalonBooking

theorem twoTo_le_tenTo {k m : Nat} (h : k ≤ 3 * m) : twoTo k ≤ tenTo m :=
  calc 2 ^ k
      ≤ 2 ^ (3 * m) := Nat.pow_le_pow_right (by decide) h
    _ = 8 ^ m := Nat.pow_mul 2 3 m
    _ ≤ 10 ^ m := Nat.pow_le_pow_left (by decide) m

/-- Numbers of the binary format are far shorter than the longest that every machine reads. -/
theorem isReadable_of_isRepresentable {n : Nat} (h : Binary64.IsRepresentable n) (room : Nat) :
    (Json.int n).IsReadable room :=
  Json.isReadable_int (Nat.lt_of_lt_of_le h.lt (twoTo_le_tenTo (by decide))) room

theorem isReadable_of_le {n bound : Nat} (h : n ≤ bound) (hbound : bound < twoTo 53)
    (room : Nat) : (Json.int n).IsReadable room :=
  isReadable_of_isRepresentable
    (Binary64.isRepresentable_of_lt (Nat.lt_of_le_of_lt h hbound)) room

/-- The records of a list, if each can be read. -/
theorem isReadable_arr_map {α : Type} {toJson : α → Json} {as : List α} {room : Nat}
    (h : ∀ a ∈ as, (toJson a).IsReadable room) :
    (Json.arr (as.map toJson)).IsReadable (room + 1) := by
  refine Json.isReadable_arr fun v hv => ?_
  obtain ⟨a, ha, rfl⟩ := List.mem_map.mp hv
  exact h a ha

/-! ## Choices -/

theorem Choice.isReadable_toJson (c : Choice) (room : Nat) : c.toJson.IsReadable (room + 1) := by
  refine Json.isReadable_obj (by simp [Assoc.keys]) ?_
  simp

theorem isReadable_choices (choices : List Choice) (room : Nat) :
    (Json.arr (choices.map Choice.toJson)).IsReadable (room + 2) :=
  isReadable_arr_map fun c _ => c.isReadable_toJson room

theorem ChoiceBlock.isReadable_toJson (block : ChoiceBlock) (room : Nat) :
    block.toJson.IsReadable (room + 3) := by
  have hchoices := isReadable_choices block.options room
  rw [ChoiceBlock.toJson]
  split
  · refine Json.isReadable_obj (by simp [Assoc.keys]) ?_
    simp [hchoices]
  · refine Json.isReadable_obj (by simp [Assoc.keys]) ?_
    simp [hchoices]

/-! ## The catalogue -/

theorem MenuOption.isReadable_toJson {o : MenuOption} (h : o.WellFormed) (room : Nat) :
    o.toJson.IsReadable (room + 1) := by
  refine Json.isReadable_obj (by simp [Assoc.keys]) ?_
  simp [isReadable_of_isRepresentable h.price, isReadable_of_isRepresentable h.duration]

theorem SubmenuItem.isReadable_toJson {item : SubmenuItem} (h : item.WellFormed) (room : Nat) :
    item.toJson.IsReadable (room + 1) := by
  refine Json.isReadable_obj (by simp [Assoc.keys]) ?_
  simp [isReadable_of_isRepresentable h.price, isReadable_of_isRepresentable h.duration]

theorem Menu.isReadable_toJson {menu : Menu} (h : menu.WellFormed) (room : Nat) :
    menu.toJson.IsReadable (room + 3) := by
  cases menu with
  | leaf menu =>
    have h : menu.WellFormed := h
    have hoptions : (Json.arr (menu.options.map MenuOption.toJson)).IsReadable (room + 2) :=
      isReadable_arr_map fun o ho => MenuOption.isReadable_toJson (h.options o ho) room
    refine Json.isReadable_obj (by simp [Assoc.keys]) ?_
    simp [isReadable_of_isRepresentable h.price, isReadable_of_isRepresentable h.duration,
      hoptions]
  | submenu menu =>
    have h : menu.WellFormed := h
    have hitems : (Json.arr (menu.items.map SubmenuItem.toJson)).IsReadable (room + 2) :=
      isReadable_arr_map fun item hitem => SubmenuItem.isReadable_toJson (h.items item hitem) room
    refine Json.isReadable_obj (by simp [Assoc.keys]) ?_
    simp [hitems]

theorem Category.isReadable_toJson {category : Category} (h : category.WellFormed) (room : Nat) :
    category.toJson.IsReadable (room + 5) := by
  have hmenus : (Json.arr (category.menus.map Menu.toJson)).IsReadable (room + 4) :=
    isReadable_arr_map fun menu hmenu => Menu.isReadable_toJson (h.menus menu hmenu) room
  refine Json.isReadable_obj (by simp [Assoc.keys]) ?_
  simp [hmenus]

theorem DisplayOptions.isReadable_toJson (display : DisplayOptions) (room : Nat) :
    display.toJson.IsReadable (room + 1) := by
  refine Json.isReadable_obj (by simp [Assoc.keys]) ?_
  simp

theorem Catalogue.isReadable_toJson {catalogue : Catalogue} (h : catalogue.WellFormed)
    (room : Nat) : catalogue.toJson.IsReadable (room + 7) := by
  have hcategories :
      (Json.arr (catalogue.categories.map Category.toJson)).IsReadable (room + 6) :=
    isReadable_arr_map fun category hcategory =>
      Category.isReadable_toJson (h.categories category hcategory) room
  refine Json.isReadable_obj (by simp [Assoc.keys]) ?_
  simp [hcategories, catalogue.display.isReadable_toJson (room + 5)]

/-! ## The schedule -/

theorem DayHours.isReadable_toJson (hours : DayHours) (room : Nat) :
    hours.toJson.IsReadable (room + 1) := by
  refine Json.isReadable_obj (by simp [Assoc.keys]) ?_
  simp

theorem WeekHours.isReadable_toJson (hours : WeekHours) (room : Nat) :
    (Json.obj (Weekday.fromMonday.map fun day =>
      (day.name, (hours.get day).toJson))).IsReadable (room + 2) := by
  refine Json.isReadable_obj ?_ ?_
  · rw [Assoc.keys, List.map_map]
    show (Weekday.fromMonday.map Weekday.name).Nodup
    decide
  · intro entry hentry
    obtain ⟨day, -, rfl⟩ := List.mem_map.mp hentry
    exact (hours.get day).isReadable_toJson room

theorem MultipleDates.isReadable_toJson {m : MultipleDates} (h : m.WellFormed) (room : Nat) :
    m.toJson.IsReadable (room + 2) := by
  have hstep : (Json.int m.step.minutes).IsReadable (room + 1) :=
    isReadable_of_le (show m.step.minutes ≤ 60 by cases m.step <;> decide) (by decide) _
  have hrange : (Json.int m.rangeDays).IsReadable (room + 1) :=
    isReadable_of_le h.rangeDays_le (by decide) _
  have hexcluded :
      (Json.arr (m.excluded.map fun day => .int day.index)).IsReadable (room + 1) :=
    isReadable_arr_map fun day _ =>
      isReadable_of_le (show day.index ≤ 6 by cases day <;> decide) (by decide) room
  refine Json.isReadable_obj (by simp [Assoc.keys]) ?_
  simp [hstep, hrange, hexcluded]

theorem Schedule.isReadable_toJson {schedule : Schedule} (h : schedule.WellFormed)
    (room : Nat) : schedule.toJson.IsReadable (room + 3) := by
  refine Json.isReadable_obj (by simp [Assoc.keys]) ?_
  simp [schedule.hours.isReadable_toJson room,
    isReadable_of_isRepresentable h.advanceDays,
    MultipleDates.isReadable_toJson h.multipleDates room]

/-! ## The whole form -/

theorem CustomField.isReadable_toJson (field : CustomField) (room : Nat) :
    field.toJson.IsReadable (room + 3) := by
  refine Json.isReadable_obj (by simp [Assoc.keys]) ?_
  simp [isReadable_choices field.options room]

theorem BasicInfo.isReadable_toJson (info : BasicInfo) (room : Nat) :
    info.toJson.IsReadable (room + 1) := by
  refine Json.isReadable_obj (by simp [Assoc.keys]) ?_
  simp

theorem UiSettings.isReadable_toJson (ui : UiSettings) (room : Nat) :
    ui.toJson.IsReadable (room + 1) := by
  refine Json.isReadable_obj (by simp [Assoc.keys]) ?_
  simp

/-- A stored configuration is read back. -/
theorem FormConfig.isReadable_toJson {config : FormConfig} (h : config.WellFormed)
    (room : Nat) : config.toJson.IsReadable (room + 8) := by
  have hfields : (Json.arr (config.customFields.map CustomField.toJson)).IsReadable (room + 7) :=
    isReadable_arr_map fun field _ => field.isReadable_toJson (room + 3)
  refine Json.isReadable_obj (by simp [Assoc.keys]) ?_
  simp [config.basicInfo.isReadable_toJson (room + 6), config.gender.isReadable_toJson (room + 4),
    config.visitCount.isReadable_toJson (room + 4), config.coupon.isReadable_toJson (room + 4),
    Catalogue.isReadable_toJson h.catalogue room,
    Schedule.isReadable_toJson h.schedule (room + 4),
    config.ui.isReadable_toJson (room + 6), hfields]

end SalonBooking
