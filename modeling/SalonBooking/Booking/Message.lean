import SalonBooking.Booking.Validation
import SalonBooking.Calendar.IsoDate

/-!
# The booking message

The text that is sent to the salon.  Its first lines and their labels have a
fixed order, which the salon's own program reads: name, telephone number,
number of visits, menus, wished dates, message.  Answers, gender and coupon
follow for people to read.
-/

namespace SalonBooking

/-- The first line of the message. -/
def messageHeader : String := "【予約フォーム】"

/-- A wished date in words; a date that cannot be read stands as it was entered. -/
def DesiredTime.text (d : DesiredTime) : String :=
  match Date.parse? d.date with
  | some date =>
    let (year, month, day) := date.civil
    toString year ++ "年" ++ Date.padded 2 month ++ "月" ++ Date.padded 2 day ++ "日 " ++ d.time
  | none => Text.trim (d.date ++ " " ++ d.time)

/-- The names of a category, a menu and a submenu item, and those of the options. -/
def Pick.line (p : Pick) : String :=
  let path := joinNonEmpty " > "
    [p.category.name, p.menu.name, (p.item?.map (·.name)).getD ""]
  joinNonEmpty ", " (path :: p.options.map (·.name))

/-- The line of the menus. -/
def Catalogue.menuLine (catalogue : Catalogue) (sel : Selection) : String :=
  joinNonEmpty " / " ((catalogue.picks sel).map Pick.line)

namespace FormConfig

/-- The number of visits: its label, or the answer itself if it has none. -/
def visitText (config : FormConfig) (sel : Selection) : String :=
  if config.visitCount.enabled && !sel.visitCount.isEmpty then
    let label := config.visitCount.answerLabel sel.visitCount
    if label.isEmpty then sel.visitCount else label
  else ""

/-- The wishes that the message lists: in multiple-dates mode the complete further ones as well. -/
def wishes (config : FormConfig) (sel : Selection) : List DesiredTime :=
  sel.desired ::
    if config.isMultipleDates then sel.alternates.filter DesiredTime.isComplete else []

/-- The lines of the answers that are not blank. -/
def answerLines (config : FormConfig) (sel : Selection) : List String :=
  config.customFields.filterMap fun field =>
    let text := field.answerText (sel.answer field.id)
    if isBlankText text then none else some (field.title ++ "：" ++ text)

/-- A line for an answer to a choice block, if there is one. -/
def labelLine (title label : String) : List String :=
  itemIf (!label.isEmpty) (title ++ "：" ++ label)

/-- The lines of the message. -/
def messageLines (config : FormConfig) (sel : Selection) : List String :=
  [messageHeader,
    "お名前：" ++ sel.name,
    "電話番号：" ++ sel.phone,
    "ご来店回数：" ++ config.visitText sel,
    "メニュー：" ++ config.catalogue.menuLine sel,
    "希望日時："] ++
  ((config.wishes sel).map fun wish => " " ++ wish.text) ++
  ["メッセージ：" ++ sel.message] ++
  config.answerLines sel ++
  labelLine "性別" (config.gender.answerLabel sel.gender) ++
  labelLine "クーポン" (config.coupon.answerLabel sel.coupon)

/-- The answers of which the text is taken: those that have to be given, and all of them once
nothing is missing. -/
def shownAnswers (config : FormConfig) (sel : Selection) : List Json :=
  (config.customFields.filter fun field => field.required || (config.missing sel).isEmpty).map
    fun field => sel.answer field.id

/-- The message that is sent to the salon. -/
def message (config : FormConfig) (sel : Selection) : String :=
  "\n".intercalate (config.messageLines sel)

end FormConfig

end SalonBooking
