import SalonBooking.Page.Fields

/-!
# Dates on the page

In calendar mode the page has a table that the script fills with the weekly
grid; in multiple-dates mode it has three pickers, each for a day and a time.
Both are hidden until the menus are chosen.
-/

namespace SalonBooking.Page

/-- A button that moves the calendar. -/
def navButton (action direction title : String) : Node :=
  el "button" [("type", "button"), ("class", "nav-button"), ("data-action", action),
    ("data-direction", direction)] [title]

/-- The two buttons that move the calendar back and forth. -/
def navRow (action back forth : String) : Node :=
  el "div" [("class", "nav-row")] [navButton action "prev" back, navButton action "next" forth]

/-- The weekly grid. -/
def calendarField : Node :=
  el "div" [("class", "field"), ("id", "datetime-field"), ("data-block", "datetime"),
      ("hidden", .flag true)]
    [label "希望日時" true .absent,
      el "div" [("class", "field-hint")]
        ["※メニューを選択すると空き状況のカレンダーが表示されます"],
      el "div" [("class", "calendar-container")]
        [el "span" [("id", "current-month"), ("class", "current-month")] [],
          navRow "navigate-month" "前月" "翌月",
          navRow "navigate-week" "前週" "翌週",
          el "div" [("class", "calendar-table-wrapper")]
            [el "table" [("id", "calendar-table"), ("data-action", "select-slot")] []]]]

/-- The titles of the three pickers. -/
def pickerTitles : List (Nat × String) :=
  [(1, "第一希望日時"), (2, "第二希望日時"), (3, "第三希望日時")]

/-- One entry of a picker. -/
def pickerOption (value shown : String) : Node :=
  el "option" [("value", value)] [shown]

/-- The list of a picker's days or times; `part` says which. -/
def pickerSelect (i : Nat) (part title : String) (entries : List Node) : Node :=
  el "select" [("id", "date" ++ toString i ++ "_" ++ part), ("class", "datetime-input"),
    ("aria-label", title), ("data-action", "pick-datetime"), ("data-picker", .number i)] entries

/-- A picker for a day and a time.  The script fills in the days. -/
def picker (times : List String) (i : Nat) (title : String) : Node :=
  el "div" [("class", "field"), ("id", "datetime-field-" ++ toString i),
      ("data-block", "datetime"), ("hidden", .flag true)]
    [label title (i == 1) .absent,
      el "div" [("class", "datetime-wrapper")]
        [el "span" [("class", "datetime-placeholder"), ("id", "placeholder" ++ toString i)]
            ["⇩タップして日時を入力⇩"],
          el "div" [("class", "dt-grid")]
            [pickerSelect i "day" "日付を選択" [pickerOption "" "日付を選択"],
              pickerSelect i "time" "時間を選択"
                (pickerOption "" "時間を選択" :: times.map fun t => pickerOption t t)]]]

/-- The three pickers. -/
def pickerFields (times : List String) : List Node :=
  pickerTitles.map fun (i, title) => picker times i title

end SalonBooking.Page
