/-!
# Summary, checking and sending

The part of the page's script that shows the summary, checks what was entered and sends the message.
-/

namespace SalonBooking.Page.Script

/-- Labels and texts of answers, and jumping to a field. -/
def answerTexts : String := "    // ---------------------------
    // Summary
    // ---------------------------
    choiceLabel(selection, value) \x7b
        if (!selection || !selection.enabled || !value) return '';
        const match = (selection.options || []).find(o => o.value === value);
        return match ? match.label : '';
    \x7d

    customFieldText(field) \x7b
        const value = this.state.customFields[field.id];
        if (value === undefined || value === null) return '';
        const labelFor = v => \x7b
            const match = (field.options || []).find(o => o.value === v);
            return match ? match.label : String(v);
        \x7d;
        if (Array.isArray(value)) return value.map(labelFor).filter(Boolean).join(', ');
        return field.type === 'radio' ? labelFor(value) : String(value);
    \x7d

    onEditField(target, event) \x7b
        const button = event.target.closest('[data-target]');
        if (!button) return;
        const field = document.getElementById(button.dataset.target);
        if (field) field.scrollIntoView(\x7b behavior: 'smooth', block: 'center' \x7d);
    \x7d

"

/-- The summary: the customer's details and answers. -/
def summaryFields : String := "    updateSummary() \x7b
        const container = document.getElementById('summary-content');
        if (!container) return;
        const items = [];
        const addItem = (label, lines, targetId) => \x7b
            const item = el('div', 'summary-item');
            const body = el('div');
            body.appendChild(el('strong', null, label + ':'));
            lines.forEach((line, i) => body.appendChild(el('div', i === 0 ? null : 'summary-sub', line)));
            item.appendChild(body);
            if (targetId) \x7b
                const edit = el('button', 'summary-edit-button', '修正');
                edit.type = 'button';
                edit.dataset.target = targetId;
                item.appendChild(edit);
            \x7d
            items.push(item);
        \x7d;

        if (this.state.name) addItem('お名前', [this.state.name], 'name-field');
        if (this.state.phone) addItem('電話番号', [this.state.phone], 'phone-field');
        const gender = this.choiceLabel(this.config.gender_selection, this.state.gender);
        if (gender) addItem('性別', [gender], 'gender-field');
        const visit = this.choiceLabel(this.config.visit_count_selection, this.state.visitCount);
        if (visit) addItem('ご来店回数', [visit], 'visit-count-field');
        const coupon = this.choiceLabel(this.config.coupon_selection, this.state.coupon);
        if (coupon) addItem('クーポン', [coupon], 'coupon-field');
        (this.config.custom_fields || []).forEach(field => \x7b
            const text = this.customFieldText(field);
            if (text.trim()) addItem(field.title, [text], 'custom-field-' + field.id);
        \x7d);

"

/-- The summary: menus, totals, dates and the message. -/
def summaryMenus : String := "        const entries = this.selectedEntries();
        if (entries.length > 0) \x7b
            const lines = [];
            entries.forEach(entry => \x7b
                const sub = this.selectedSubmenu(entry.menu.id);
                if (entry.menu.kind === 'submenu') \x7b
                    lines.push(entry.menu.name + (sub ? ' > ' + sub.name : ''));
                    if (sub) lines.push(formatYen(sub.price) + ' / ' + sub.duration + '分');
                    return;
                \x7d
                lines.push(entry.menu.name);
                lines.push(formatYen(entry.menu.price) + ' / ' + entry.menu.duration + '分');
                this.selectedOptionObjects(entry.menu.id).forEach(opt => \x7b
                    lines.push('+ ' + opt.name
                        + (opt.price > 0 ? ' (+' + formatYen(opt.price) + ')' : '')
                        + (opt.duration > 0 ? ' (+' + opt.duration + '分)' : ''));
                \x7d);
            \x7d);
            addItem('メニュー', lines, 'menu-field');
            if (this.isTerminal()) \x7b
                const totals = this.computeTotals();
                const total = el('div', 'summary-item summary-total');
                total.appendChild(el('div', null, '合計金額: ' + formatYen(totals.price) + ' / 合計時間: ' + totals.duration + '分'));
                items.push(total);
            \x7d
        \x7d

        const datetimeTarget = this.isMultipleDates() ? 'datetime-field-1' : 'datetime-field';
        if (this.state.selectedDate && this.state.selectedTime) \x7b
            addItem('希望日時', [formatDesiredDateTime(this.state.selectedDate, this.state.selectedTime)], datetimeTarget);
        \x7d
        [2, 3].forEach(i => \x7b
            const alt = this.state.alternates[i];
            if (alt.date && alt.time) \x7b
                addItem(PICKER_LABELS[i], [formatDesiredDateTime(alt.date, alt.time)], 'datetime-field-' + i);
            \x7d
        \x7d);
        if (this.state.message) addItem('メッセージ', [this.state.message], 'message-field');

        if (items.length === 0) \x7b
            container.replaceChildren(el('div', 'summary-empty', '入力内容がここに表示されます'));
        \x7d else \x7b
            container.replaceChildren(...items);
        \x7d
    \x7d

"

/-- What keeps the booking from being sent. -/
def validation : String := "    // ---------------------------
    // Validation / submission
    // ---------------------------
    validate() \x7b
        const cfg = this.config;
        if (!this.state.name.trim() || !this.state.phone.trim()) return 'お名前と電話番号を入力してください';
        if (cfg.gender_selection.enabled && cfg.gender_selection.required && !this.state.gender) \x7b
            return '性別を選択してください';
        \x7d
        if (cfg.visit_count_selection.enabled && cfg.visit_count_selection.required && !this.state.visitCount) \x7b
            return 'ご来店回数を選択してください';
        \x7d
        if (!this.isTerminal()) return 'メニューを選択してください';
        if (!this.state.selectedDate || !this.state.selectedTime) return '予約日時を選択してください';
        for (const field of (cfg.custom_fields || [])) \x7b
            if (field.required && !this.customFieldText(field).trim()) return field.title + 'を入力してください';
        \x7d
        return null;
    \x7d

"

/-- The message that is sent to the salon. -/
def messageText : String := "    buildMenuLine() \x7b
        return this.selectedEntries().map(entry => \x7b
            const sub = entry.menu.kind === 'submenu' ? this.selectedSubmenu(entry.menu.id) : null;
            let line = [entry.category.name, entry.menu.name, sub ? sub.name : ''].filter(Boolean).join(' > ');
            const optionNames = entry.menu.kind === 'submenu'
                ? []
                : this.selectedOptionObjects(entry.menu.id).map(o => o.name).filter(Boolean);
            if (optionNames.length > 0) line += (line ? ', ' : '') + optionNames.join(', ');
            return line;
        \x7d).filter(Boolean).join(' / ');
    \x7d

    buildSubmissionText() \x7b
        const cfg = this.config;
        const visit = cfg.visit_count_selection.enabled && this.state.visitCount
            ? (this.choiceLabel(cfg.visit_count_selection, this.state.visitCount) || this.state.visitCount)
            : '';
        const lines = [
            '【予約フォーム】',
            'お名前：' + this.state.name,
            '電話番号：' + this.state.phone,
            'ご来店回数：' + visit,
            'メニュー：' + this.buildMenuLine(),
            '希望日時：',
            ' ' + formatDesiredDateTime(this.state.selectedDate, this.state.selectedTime)
        ];
        if (this.isMultipleDates()) \x7b
            [2, 3].forEach(i => \x7b
                const alt = this.state.alternates[i];
                if (alt.date && alt.time) lines.push(' ' + formatDesiredDateTime(alt.date, alt.time));
            \x7d);
        \x7d
        lines.push('メッセージ：' + this.state.message);
        (cfg.custom_fields || []).forEach(field => \x7b
            const text = this.customFieldText(field);
            if (text.trim()) lines.push(field.title + '：' + text);
        \x7d);
        const gender = this.choiceLabel(cfg.gender_selection, this.state.gender);
        if (gender) lines.push('性別：' + gender);
        const coupon = this.choiceLabel(cfg.coupon_selection, this.state.coupon);
        if (coupon) lines.push('クーポン：' + coupon);
        return lines.join('\\n');
    \x7d

"

/-- Showing an error and the final notice. -/
def notices : String := "    showError(message) \x7b
        const box = document.getElementById('form-error');
        if (!box) return;
        box.textContent = message;
        box.hidden = false;
        box.scrollIntoView(\x7b behavior: 'smooth', block: 'center' \x7d);
    \x7d

    hideError() \x7b
        const box = document.getElementById('form-error');
        if (box) box.hidden = true;
    \x7d

    showSuccess() \x7b
        const content = document.querySelector('.form-content');
        if (!content) return;
        const box = el('div', 'success');
        box.appendChild(el('h3', null, '予約が完了しました！'));
        box.appendChild(el('p', null, 'ご予約ありがとうございます。'));
        content.replaceChildren(box);
    \x7d
"

/-- Sending the message. -/
def sending : String := "    sendMessage(text) \x7b
        // Waits for a transport init that may still be pending. Resolves to 'sent', 'unavailable' or 'failed'.
        return this.transportInit.then(ready => \x7b
            const liff = window.liff;
            if (!ready || !liff || !liff.isLoggedIn || !liff.isLoggedIn()) return 'unavailable';
            return liff.sendMessages([\x7b type: 'text', text \x7d]).then(() => \x7b
                liff.closeWindow();
                return 'sent';
            \x7d).catch(err => \x7b
                // Best effort: logged only, never retried.
                console.error('[BookingForm] message send failed:', err);
                return 'failed';
            \x7d);
        \x7d);
    \x7d

    onSubmit() \x7b
        if (this.submitting) return Promise.resolve('busy');
        this.hideError();
        const error = this.validate();
        if (error) \x7b
            this.showError(error);
            return Promise.resolve('invalid');
        \x7d
        const text = this.buildSubmissionText();
        const button = document.getElementById('submit-button');
        this.submitting = true;
        if (button) button.disabled = true;
        return this.sendMessage(text).then(outcome => \x7b
            this.submitting = false;
            if (button) button.disabled = false;
            if (outcome === 'sent') \x7b
                this.saveLastBooking();
                this.showSuccess();
            \x7d else if (outcome === 'unavailable') \x7b
                log('messaging transport unavailable, submission not delivered');
                this.showError(TRANSPORT_UNAVAILABLE_MESSAGE);
            \x7d
            return outcome;
        \x7d);
    \x7d

"

end SalonBooking.Page.Script
