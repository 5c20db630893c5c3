import SalonBooking.Booking.Answer
import SalonBooking.Booking.Pick
import SalonBooking.Data.Parts
import SalonBooking.Text.Blank

/-!
# What is missing

The reasons why a selection cannot be sent yet, in the order in which the page
reports them.
-/

namespace SalonBooking

/-- Something that a selection lacks. -/
inductive Missing where
  | nameOrPhone
  | gender
  | visitCount
  | menu
  | dateTime
  | answer (title : String)
  deriving DecidableEq, Repr

namespace Missing

/-- The text that the page shows. -/
def message : Missing → String
  | .nameOrPhone => "お名前と電話番号を入力してください"
  | .gender => "性別を選択してください"
  | .visitCount => "ご来店回数を選択してください"
  | .menu => "メニューを選択してください"
  | .dateTime => "予約日時を選択してください"
  | .answer title => title ++ "を入力してください"

end Missing

/-- Whether a text has nothing but blanks. -/
def isBlankText (s : String) : Bool :=
  (Text.trim s).isEmpty

/-- Whether a block that has to be answered is not. -/
def ChoiceBlock.lacks (block : ChoiceBlock) (value : String) : Bool :=
  block.enabled && block.required && value.isEmpty

/-- Whether a question that has to be answered is not. -/
def CustomField.lacks (field : CustomField) (sel : Selection) : Bool :=
  field.required && isBlankText (field.answerText (sel.answer field.id))

/-- What a selection lacks, in the order in which it is reported. -/
def FormConfig.missing (config : FormConfig) (sel : Selection) : List Missing :=
  itemIf (isBlankText sel.name || isBlankText sel.phone) .nameOrPhone ++
  itemIf (config.gender.lacks sel.gender) .gender ++
  itemIf (config.visitCount.lacks sel.visitCount) .visitCount ++
  itemIf (!(config.catalogue.phase sel).isTerminal) .menu ++
  itemIf (!sel.desired.isComplete) .dateTime ++
  (config.customFields.filter (·.lacks sel)).map fun field => .answer field.title

end SalonBooking
