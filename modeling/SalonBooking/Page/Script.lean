import SalonBooking.Page.Script.Dates
import SalonBooking.Page.Script.Menus
import SalonBooking.Page.Script.Repeat
import SalonBooking.Page.Script.Sending
import SalonBooking.Page.Script.Startup
import SalonBooking.Page.Script.Wiring
import SalonBooking.Data.Assoc

/-!
# The script of the page

Every page carries the same script, which runs in the customer's browser.  It
finds the configuration, the ids and the tables of times in constants that the
page declares in front of it, and it reacts to elements by their `data-action`:
`clientActions` lists the actions that it handles and the kind of event that
starts each.
-/

namespace SalonBooking.Page

/-- The actions that the script handles, with the events that start them. -/
def clientActions : Assoc String String :=
  [("input-text", "input"),
    ("select-choice", "click"),
    ("input-custom-field", "input"),
    ("select-custom-radio", "click"),
    ("toggle-custom-checkbox", "change"),
    ("select-menu", "click"),
    ("toggle-option", "click"),
    ("select-submenu", "click"),
    ("navigate-month", "click"),
    ("navigate-week", "click"),
    ("select-slot", "click"),
    ("pick-datetime", "change"),
    ("edit-field", "click"),
    ("repeat-booking", "click"),
    ("submit", "click")]

/-- The address of the messaging application's own script. -/
def messagingScriptUrl : String := "https://static.line-scdn.net/liff/edge/2.1/sdk.js"

/-- The script, from its constants to the call that starts it. -/
def clientScript : String :=
  Script.constants ++ Script.dateFunctions ++ Script.constructorState ++
    Script.constructorHandlers ++ Script.eventWiring ++ Script.messagingInit ++
    Script.customerFields ++ Script.menuPhase ++ Script.menuClicks ++
    Script.choiceClicks ++ Script.menuDisplay ++ Script.menuTotals ++
    Script.dateReset ++ Script.slotRules ++ Script.calendarDisplay ++
    Script.calendarClicks ++ Script.datePickers ++ Script.answerTexts ++
    Script.summaryFields ++ Script.summaryMenus ++ Script.validation ++
    Script.messageText ++ Script.notices ++ Script.sending ++
    Script.lastBooking ++ Script.repeatBooking ++ Script.start

end SalonBooking.Page
