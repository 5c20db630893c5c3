/-!
# Dates on the page

The part of the page's script that shows the weekly grid and the date pickers.
-/

namespace SalonBooking.Page.Script

/-- Clearing the dates, and showing the date block when it is time for it. -/
def dateReset : String := "    // ---------------------------
    // Date / time
    // ---------------------------
    isMultipleDates() \x7b
        return this.config.calendar_settings.booking_mode === 'multiple_dates';
    \x7d

    clearDateTime() \x7b
        this.state.selectedDate = '';
        this.state.selectedTime = '';
        this.state.alternates = \x7b 2: \x7b date: '', time: '' \x7d, 3: \x7b date: '', time: '' \x7d \x7d;
        for (let i = 1; i <= 3; i++) \x7b
            const day = document.getElementById('date' + i + '_day');
            const time = document.getElementById('date' + i + '_time');
            if (day) day.value = '';
            if (time) time.value = '';
            this.renderPickerPlaceholder(i, '');
        \x7d
    \x7d

    syncDateTimeBlock() \x7b
        const terminal = this.isTerminal();
        document.querySelectorAll('[data-block=\"datetime\"]').forEach(block => \x7b
            block.hidden = !terminal;
        \x7d);
        const table = document.getElementById('calendar-table');
        if (!terminal) \x7b
            this.clearDateTime();
            if (table) table.replaceChildren();
            return;
        \x7d
        if (!this.isMultipleDates()) this.renderCalendar();
    \x7d

"

/-- Whether a slot is offered: the window rules, then the live calendar. -/
def slotRules : String := "    isSlotOffered(day, time, now) \x7b
        const settings = this.config.calendar_settings;
        const lastDay = addDays(startOfDay(now), settings.advance_booking_days);
        if (startOfDay(day) > lastDay) return false;
        const hours = settings.business_hours[WEEKDAY_KEYS[day.getDay()]];
        if (!hours || hours.closed) return false;
        const minutes = parseHHMM(time);
        const openAt = parseHHMM(hours.open);
        const closeAt = parseHHMM(hours.close);
        if (minutes === null || openAt === null || closeAt === null) return false;
        if (minutes < openAt || minutes >= closeAt) return false;
        const slotStart = new Date(day.getFullYear(), day.getMonth(), day.getDate(), Math.floor(minutes / 60), minutes % 60);
        if (slotStart.getTime() <= now.getTime()) return false;
        const overlay = window.bookingFormAvailability;
        if (typeof overlay === 'function') \x7b
            try \x7b
                return Boolean(overlay(toISODate(day), time));
            \x7d catch (err) \x7b
                warn('availability check failed, using business hours only:', err);
            \x7d
        \x7d
        return true;
    \x7d

"

/-- The weekly grid. -/
def calendarDisplay : String := "    renderCalendar() \x7b
        const table = document.getElementById('calendar-table');
        if (!table) return;
        const now = new Date();
        const days = [];
        for (let i = 0; i < 7; i++) days.push(addDays(this.viewWeekStart, i));

        const monthLabel = document.getElementById('current-month');
        if (monthLabel) \x7b
            monthLabel.textContent = this.viewWeekStart.getFullYear() + '年' + (this.viewWeekStart.getMonth() + 1) + '月';
        \x7d

        const thead = el('thead');
        const headRow = el('tr');
        headRow.appendChild(el('th', null, '時間'));
        days.forEach(d => \x7b
            headRow.appendChild(el('th', null, (d.getMonth() + 1) + '/' + d.getDate() + '(' + DAY_NAMES[d.getDay()] + ')'));
        \x7d);
        thead.appendChild(headRow);

        const tbody = el('tbody');
        (this.slots.calendar_rows || []).forEach(time => \x7b
            const row = el('tr');
            row.appendChild(el('td', null, time));
            days.forEach(d => \x7b
                const dateStr = toISODate(d);
                const offered = this.isSlotOffered(d, time, now);
                const selected = offered && this.state.selectedDate === dateStr && this.state.selectedTime === time;
                const cell = el('td', 'calendar-cell' + (offered ? ' offered' : '') + (selected ? ' selected' : ''), offered ? '○' : '×');
                cell.dataset.date = dateStr;
                cell.dataset.time = time;
                cell.dataset.offered = offered ? '1' : '0';
                row.appendChild(cell);
            \x7d);
            tbody.appendChild(row);
        \x7d);
        table.replaceChildren(thead, tbody);
    \x7d

"

/-- Clicks on a slot, and moving by a week or a month. -/
def calendarClicks : String := "    onSelectSlot(target, event) \x7b
        const cell = event.target.closest('td.calendar-cell');
        if (!cell || cell.dataset.offered !== '1' || !this.isTerminal()) return;
        this.state.selectedDate = cell.dataset.date;
        this.state.selectedTime = cell.dataset.time;
        this.renderCalendar();
        this.updateSummary();
    \x7d

    onNavigateWeek(target) \x7b
        this.viewWeekStart = addDays(this.viewWeekStart, target.dataset.direction === 'prev' ? -7 : 7);
        this.renderCalendar();
    \x7d

    onNavigateMonth(target) \x7b
        const base = this.viewWeekStart;
        const shifted = new Date(base.getFullYear(), base.getMonth() + (target.dataset.direction === 'prev' ? -1 : 1), base.getDate());
        this.viewWeekStart = weekStart(shifted);
        this.renderCalendar();
    \x7d

"

/-- The three pickers of multiple-dates mode. -/
def datePickers : String := "    populateDatePickers() \x7b
        const settings = this.config.calendar_settings.multiple_dates_settings;
        const today = startOfDay(new Date());
        const excluded = settings.exclude_weekdays || [];
        const dates = [];
        for (let i = 0; i < settings.date_range_days; i++) \x7b
            const d = addDays(today, i);
            if (!excluded.includes(d.getDay())) dates.push(d);
        \x7d
        for (let i = 1; i <= 3; i++) \x7b
            const select = document.getElementById('date' + i + '_day');
            if (!select) continue;
            dates.forEach(d => \x7b
                const option = el('option', null, (d.getMonth() + 1) + '/' + d.getDate() + '(' + DAY_NAMES[d.getDay()] + ')');
                option.value = toISODate(d);
                select.appendChild(option);
            \x7d);
        \x7d
    \x7d

    renderPickerPlaceholder(index, text) \x7b
        const placeholder = document.getElementById('placeholder' + index);
        if (!placeholder) return;
        placeholder.textContent = text || PICKER_PLACEHOLDER;
        placeholder.classList.toggle('filled', Boolean(text));
    \x7d

    onPickDateTime(target) \x7b
        const index = Number(target.dataset.picker);
        const day = document.getElementById('date' + index + '_day');
        const time = document.getElementById('date' + index + '_time');
        if (!day || !time || !this.isTerminal()) return;
        const complete = Boolean(day.value && time.value);
        const dateValue = complete ? day.value : '';
        const timeValue = complete ? time.value : '';
        if (index === 1) \x7b
            this.state.selectedDate = dateValue;
            this.state.selectedTime = timeValue;
        \x7d else if (this.state.alternates[index]) \x7b
            this.state.alternates[index] = \x7b date: dateValue, time: timeValue \x7d;
        \x7d
        const label = complete ? day.options[day.selectedIndex].textContent + ' ' + time.value : '';
        this.renderPickerPlaceholder(index, label);
        this.updateSummary();
    \x7d

"

end SalonBooking.Page.Script
