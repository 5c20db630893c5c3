/-!
# Startup of the page controller

Constants and small functions of the page's script, the constructor of the controller, and what starts it.
-/

namespace SalonBooking.Page.Script

/-- Constants, logging and the reading of times of day. -/
def constants : String := "
const DAY_NAMES = ['日', '月', '火', '水', '木', '金', '土'];
const WEEKDAY_KEYS = ['sunday', 'monday', 'tuesday', 'wednesday', 'thursday', 'friday', 'saturday'];
const REPEAT_BOOKING_TTL_MS = 7 * 24 * 60 * 60 * 1000;
const PICKER_PLACEHOLDER = '⇩タップして日時を入力⇩';
const PICKER_LABELS = \x7b 2: '第二希望日時', 3: '第三希望日時' \x7d;
const MIN_LIFF_ID_LENGTH = 10;
const TRANSPORT_UNAVAILABLE_MESSAGE = 'LINEにログインしてください。';

function log(...args) \x7b console.log('[BookingForm]', ...args); \x7d
function warn(...args) \x7b console.warn('[BookingForm]', ...args); \x7d

function pad2(n) \x7b return String(n).padStart(2, '0'); \x7d

function parseHHMM(value) \x7b
    if (typeof value !== 'string') return null;
    const m = /^(\\d\x7b1,2\x7d):(\\d\x7b2\x7d)$/.exec(value.trim());
    if (!m) return null;
    const hours = Number(m[1]);
    const minutes = Number(m[2]);
    if (hours > 23 || minutes > 59) return null;
    return hours * 60 + minutes;
\x7d

"

/-- Dates in the browser, amounts, and building elements. -/
def dateFunctions : String := "function startOfDay(d) \x7b return new Date(d.getFullYear(), d.getMonth(), d.getDate()); \x7d

function addDays(d, n) \x7b return new Date(d.getFullYear(), d.getMonth(), d.getDate() + n); \x7d

function toISODate(d) \x7b return d.getFullYear() + '-' + pad2(d.getMonth() + 1) + '-' + pad2(d.getDate()); \x7d

function parseISODate(value) \x7b
    const m = /^(\\d\x7b4\x7d)-(\\d\x7b2\x7d)-(\\d\x7b2\x7d)$/.exec(value || '');
    return m ? new Date(Number(m[1]), Number(m[2]) - 1, Number(m[3])) : null;
\x7d

function weekStart(d) \x7b
    const day = d.getDay();
    return addDays(startOfDay(d), day === 0 ? -6 : 1 - day);
\x7d

function formatDesiredDateTime(dateStr, time) \x7b
    const d = parseISODate(dateStr);
    if (!d) return (dateStr + ' ' + time).trim();
    return d.getFullYear() + '年' + pad2(d.getMonth() + 1) + '月' + pad2(d.getDate()) + '日 ' + time;
\x7d

function formatYen(value) \x7b return '¥' + Number(value || 0).toLocaleString('ja-JP'); \x7d

function el(tag, className, text) \x7b
    const node = document.createElement(tag);
    if (className) node.className = className;
    if (text !== undefined && text !== null) node.textContent = text;
    return node;
\x7d

"

/-- The controller and the state that it starts with. -/
def constructorState : String := "class BookingController \x7b
    constructor(config, meta) \x7b
        this.config = config;
        this.formId = meta.formId;
        this.storeId = meta.storeId;
        this.actions = meta.actions;
        this.slots = meta.slots;
        this.state = \x7b
            name: '',
            phone: '',
            gender: '',
            visitCount: '',
            coupon: '',
            customFields: \x7b\x7d,
            selectedMenuIds: [],
            selectedSubmenus: \x7b\x7d,
            selectedOptions: \x7b\x7d,
            selectedDate: '',
            selectedTime: '',
            alternates: \x7b 2: \x7b date: '', time: '' \x7d, 3: \x7b date: '', time: '' \x7d \x7d,
            message: ''
        \x7d;
        this.viewWeekStart = weekStart(new Date());
        this.menuIndex = \x7b\x7d;
        (config.menu_structure.categories || []).forEach(category => \x7b
            (category.menus || []).forEach(menu => \x7b
                this.menuIndex[menu.id] = \x7b category, menu \x7d;
            \x7d);
        \x7d);
"

/-- The handler of every action, and the start of the controller. -/
def constructorHandlers : String := "        this.handlers = \x7b
            'input-text': this.onTextInput,
            'select-choice': this.onSelectChoice,
            'input-custom-field': this.onCustomFieldInput,
            'select-custom-radio': this.onCustomRadio,
            'toggle-custom-checkbox': this.onCustomCheckbox,
            'select-menu': this.onSelectMenu,
            'toggle-option': this.onToggleOption,
            'select-submenu': this.onSelectSubmenu,
            'navigate-month': this.onNavigateMonth,
            'navigate-week': this.onNavigateWeek,
            'select-slot': this.onSelectSlot,
            'pick-datetime': this.onPickDateTime,
            'edit-field': this.onEditField,
            'repeat-booking': this.onRepeatBooking,
            'submit': this.onSubmit
        \x7d;
        this.bindActions();
        if (this.isMultipleDates()) this.populateDatePickers();
        this.updateSummary();
        // Transport init may still be pending while the customer fills in the form; submit waits for it.
        this.submitting = false;
        this.transportInit = this.initTransport();
    \x7d

"

/-- Starting the controller when the page is there. -/
def start : String := "function boot() \x7b
    window.bookingForm = new BookingController(FORM_CONFIG, \x7b
        formId: FORM_ID,
        storeId: STORE_ID,
        actions: ACTION_INDEX,
        slots: SLOT_TABLES
    \x7d);
\x7d

if (document.readyState === 'loading') \x7b
    document.addEventListener('DOMContentLoaded', boot);
\x7d else \x7b
    boot();
\x7d
"

end SalonBooking.Page.Script
