import SalonBooking.Form.Config

/-!
# The stylesheet of the page

The styles are the same for every form; the color and the roundness of the
corners are variables that the first line sets.
-/

namespace SalonBooking.Page

/-- The frame of the page. -/
def frameStyles : String := "
* \x7b margin: 0; padding: 0; box-sizing: border-box; \x7d
body \x7b
    font-family: -apple-system, BlinkMacSystemFont, \"Segoe UI\", Roboto, \"Hiragino Sans\", \"Noto Sans JP\", sans-serif;
    background-color: #f9fafb;
    color: #111827;
    line-height: 1.5;
    min-height: 100vh;
\x7d
.form-container \x7b max-width: 42rem; margin: 0 auto; padding: 2rem 1rem; \x7d
.form-header \x7b
    background-color: var(--theme-color);
    color: #fff;
    padding: 1.5rem;
    border-radius: 0.5rem;
    box-shadow: 0 1px 3px 0 rgba(0, 0, 0, 0.1);
    margin-bottom: 1.5rem;
\x7d
.form-header h1 \x7b font-size: 1.5rem; font-weight: bold; margin-bottom: 0.5rem; \x7d
.form-header p \x7b opacity: 0.9; \x7d
.form-logo \x7b max-height: 3rem; margin-bottom: 0.75rem; \x7d
.form-content \x7b
    background: #fff;
    border-radius: 0.5rem;
    box-shadow: 0 1px 3px 0 rgba(0, 0, 0, 0.1);
    padding: 1.5rem;
\x7d
"

/-- Fields and their labels. -/
def fieldStyles : String := ".section-title \x7b font-size: 1.125rem; font-weight: 600; margin-bottom: 1.5rem; \x7d
.field \x7b margin-bottom: 1.5rem; \x7d
.field[hidden] \x7b display: none; \x7d
.field-label \x7b display: block; font-size: 0.875rem; font-weight: 500; color: #374151; margin-bottom: 0.5rem; \x7d
.field-hint \x7b font-size: 0.875rem; color: #6b7280; margin-bottom: 1rem; \x7d
.required \x7b color: #ef4444; \x7d
.input \x7b
    width: 100%;
    padding: 0.75rem;
    border: 1px solid #d1d5db;
    border-radius: var(--radius);
    font-size: 1rem;
\x7d
.input:focus \x7b outline: none; border-color: var(--theme-color); \x7d
textarea.input \x7b resize: vertical; \x7d
"

/-- Buttons and check boxes to choose from. -/
def choiceStyles : String := ".button-group \x7b display: flex; gap: 1rem; flex-wrap: wrap; \x7d
.checkbox-group > * + * \x7b margin-top: 0.5rem; \x7d
.checkbox-label \x7b
    display: flex;
    align-items: center;
    gap: 0.5rem;
    padding: 0.5rem;
    border: 1px solid #d1d5db;
    border-radius: var(--radius);
    cursor: pointer;
    font-size: 0.875rem;
\x7d
.choice-button, .menu-item, .submenu-item, .option-item \x7b
    border: 2px solid #d1d5db;
    border-radius: var(--radius);
    background: #fff;
    color: #374151;
    cursor: pointer;
    text-align: left;
    font: inherit;
\x7d
.choice-button \x7b flex: 1; padding: 0.75rem 1rem; font-weight: 500; text-align: center; \x7d
.choice-button:hover, .menu-item:hover, .submenu-item:hover, .option-item:hover \x7b border-color: #9ca3af; \x7d
.choice-button.selected, .option-item.selected \x7b border-color: var(--theme-color); background-color: #eff6ff; color: #1e40af; \x7d
.category \x7b margin-bottom: 1rem; \x7d
.category-name \x7b font-size: 0.95rem; font-weight: 600; margin-bottom: 0.5rem; \x7d
.menu-list \x7b border: 1px solid #e5e7eb; border-radius: 0.5rem; padding: 1rem; \x7d
"

/-- Menus. -/
def menuStyles : String := ".menu-item \x7b width: 100%; display: flex; flex-direction: column; overflow: hidden; margin-bottom: 0.5rem; padding: 0; \x7d
.menu-item.selected, .submenu-item.selected \x7b border-color: #10b981; background-color: #f0fdf4; \x7d
.menu-item-image \x7b width: 100%; aspect-ratio: 16 / 9; overflow: hidden; \x7d
.menu-image \x7b width: 100%; height: 100%; object-fit: cover; \x7d
.menu-item-content \x7b padding: 0.75rem 0.75rem 0 0.75rem; \x7d
.menu-item-name \x7b font-weight: 600; color: #111827; font-size: 0.95rem; \x7d
.menu-item-desc \x7b font-size: 0.8rem; opacity: 0.7; margin-top: 0.25rem; \x7d
.menu-item-info \x7b display: flex; justify-content: flex-end; gap: 1rem; padding: 0 0.75rem 0.75rem 0; \x7d
.menu-item-price \x7b font-weight: 700; font-size: 0.95rem; color: #111827; \x7d
.menu-item-duration \x7b font-size: 0.8rem; opacity: 0.7; \x7d
"

/-- Submenus and options. -/
def submenuStyles : String := ".submenu-container, .options-container \x7b
    margin: 0.75rem 0 0.75rem 1.5rem;
    padding-left: 1rem;
    border-left: 2px solid #bfdbfe;
\x7d
.submenu-container[hidden], .options-container[hidden] \x7b display: none; \x7d
.submenu-title, .options-title \x7b font-size: 0.875rem; font-weight: 500; color: #374151; margin-bottom: 0.75rem; \x7d
.submenu-item, .option-item \x7b
    width: 100%;
    display: flex;
    justify-content: space-between;
    align-items: center;
    padding: 0.75rem;
    margin-bottom: 0.5rem;
\x7d
.option-name \x7b font-size: 0.875rem; font-weight: 500; \x7d
.option-badge \x7b margin-left: 0.5rem; padding: 0.125rem 0.5rem; font-size: 0.75rem; background: #fed7aa; color: #9a3412; border-radius: 0.25rem; \x7d
.option-price \x7b font-weight: 500; font-size: 0.875rem; text-align: right; margin-left: 0.5rem; \x7d
"

/-- The weekly grid. -/
def calendarStyles : String := ".calendar-container \x7b width: 100%; margin-bottom: 1.5rem; \x7d
.current-month \x7b display: block; text-align: center; font-size: 1.125rem; font-weight: bold; color: #374151; margin-bottom: 1rem; \x7d
.nav-row \x7b display: flex; justify-content: space-between; gap: 0.5rem; margin-bottom: 0.75rem; \x7d
.nav-button \x7b
    flex: 1;
    padding: 0.5rem 1.25rem;
    background: #374151;
    color: #fff;
    border: none;
    border-radius: 0.25rem;
    cursor: pointer;
    font-weight: 500;
\x7d
.nav-button:hover \x7b background-color: #1f2937; \x7d
.calendar-table-wrapper \x7b overflow-x: auto; background: #fff; border: 1px solid #d1d5db; border-radius: 0.25rem; \x7d
#calendar-table \x7b table-layout: fixed; width: 100%; border-collapse: collapse; \x7d
#calendar-table th, #calendar-table td \x7b
    font-size: 0.75rem;
    text-align: center;
    padding: 0.25rem;
    border: 1px solid #9ca3af;
    word-break: keep-all;
\x7d
#calendar-table th \x7b background: #f3f4f6; font-weight: 500; padding: 0.5rem 0.3rem; \x7d
#calendar-table th:first-child, #calendar-table td:first-child \x7b width: 17%; min-width: 60px; background: #f9fafb; \x7d
#calendar-table td.calendar-cell \x7b background: #f3f4f6; color: #9ca3af; cursor: not-allowed; \x7d
#calendar-table td.calendar-cell.offered \x7b background: #fff; color: #111827; cursor: pointer; \x7d
#calendar-table td.calendar-cell.offered:hover \x7b background: #e5e7eb; \x7d
#calendar-table td.calendar-cell.selected \x7b background-color: #10b981; color: #fff; \x7d
"

/-- Date pickers, the repeat button and the summary. -/
def pickerStyles : String := ".datetime-wrapper \x7b text-align: center; \x7d
.datetime-placeholder \x7b display: block; color: #6b7280; font-size: 0.875rem; margin-bottom: 0.5rem; \x7d
.datetime-placeholder.filled \x7b color: #374151; font-weight: bold; \x7d
.dt-grid \x7b display: grid; grid-template-columns: 1fr 1fr; gap: 0.5rem; \x7d
.datetime-input \x7b padding: 0.75rem; border: 1px solid #d1d5db; border-radius: var(--radius); font-size: 1rem; \x7d
.repeat-booking-button \x7b
    width: 100%;
    padding: 0.75rem 1.25rem;
    border: 2px dashed var(--theme-color);
    border-radius: 0.5rem;
    background-color: transparent;
    color: var(--theme-color);
    font-size: 0.875rem;
    font-weight: 500;
    cursor: pointer;
\x7d
.summary-box \x7b margin-bottom: 1.5rem; padding: 1rem; border: 2px solid #e5e7eb; border-radius: 0.5rem; background-color: #f9fafb; \x7d
.summary-title \x7b font-size: 1.125rem; font-weight: 600; margin-bottom: 1rem; \x7d
.summary-empty \x7b color: #6b7280; font-size: 0.875rem; \x7d
.summary-item \x7b display: flex; justify-content: space-between; align-items: flex-start; padding: 0.5rem 0; \x7d
.summary-sub \x7b font-size: 0.875rem; color: #6b7280; \x7d
.summary-total \x7b margin-top: 0.5rem; padding-top: 0.5rem; border-top: 1px solid #e5e7eb; font-weight: bold; \x7d
"

/-- Errors, the send button and the final notice. -/
def messageStyles : String := ".form-error \x7b
    margin-bottom: 1rem;
    padding: 0.75rem 1rem;
    border: 1px solid #fecaca;
    background: #fef2f2;
    color: #b91c1c;
    border-radius: var(--radius);
    font-size: 0.875rem;
\x7d
.form-error[hidden] \x7b display: none; \x7d
.submit-button \x7b
    width: 100%;
    padding: 0.75rem;
    background-color: var(--theme-color);
    color: #fff;
    border: none;
    border-radius: var(--radius);
    font-size: 1rem;
    font-weight: 500;
    cursor: pointer;
    margin-top: 1.5rem;
\x7d
.submit-button:hover \x7b opacity: 0.9; \x7d
.success \x7b
    background-color: #f0fdf4;
    border: 1px solid #bbf7d0;
    color: #166534;
    padding: 2rem;
    border-radius: 0.5rem;
    text-align: center;
\x7d
.success h3 \x7b font-size: 1.25rem; font-weight: bold; margin-bottom: 0.5rem; \x7d
@media (max-width: 375px) \x7b
    #calendar-table th, #calendar-table td \x7b font-size: 0.5rem; padding: 0.2rem 0.1rem; \x7d
    .nav-button \x7b padding: 0.3rem 0.75rem; font-size: 0.75rem; \x7d
\x7d
"

/-- The styles that every form has. -/
def baseStyles : String :=
  frameStyles ++ fieldStyles ++ choiceStyles ++ menuStyles ++
    submenuStyles ++ calendarStyles ++ pickerStyles ++ messageStyles

/-- The radius of the corners of buttons. -/
def cornerRadius : ButtonStyle → String
  | .rounded => "0.375rem"
  | .square => "0"

/-- The line that sets the color and the corners. -/
def styleVariables (config : FormConfig) : String :=
  ":root \x7b --theme-color: " ++ config.basicInfo.themeColor ++ "; --radius: " ++
    cornerRadius config.ui.buttonStyle ++ "; \x7d"

/-- The stylesheet of a form. -/
def stylesheet (config : FormConfig) : String :=
  styleVariables config ++ baseStyles

end SalonBooking.Page
