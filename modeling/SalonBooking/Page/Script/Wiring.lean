/-!
# Event wiring and customer fields

The part of the page's script that connects elements with handlers and keeps the customer's details.
-/

namespace SalonBooking.Page.Script

/-- One listener for each kind of event, which finds the handler of the clicked element. -/
def eventWiring : String := "    // ---------------------------
    // Event wiring
    // ---------------------------
    bindActions() \x7b
        const byEvent = \x7b\x7d;
        this.actions.forEach(entry => \x7b
            if (!byEvent[entry.event]) byEvent[entry.event] = \x7b\x7d;
            byEvent[entry.event][entry.action] = true;
        \x7d);
        Object.keys(byEvent).forEach(eventType => \x7b
            document.addEventListener(eventType, event => \x7b
                const target = event.target && event.target.closest ? event.target.closest('[data-action]') : null;
                if (!target) return;
                const action = target.dataset.action;
                if (!byEvent[eventType][action]) return;
                const handler = this.handlers[action];
                if (!handler) \x7b
                    warn('no handler for action', action);
                    return;
                \x7d
                try \x7b
                    handler.call(this, target, event);
                \x7d catch (err) \x7b
                    console.error('[BookingForm] action failed:', action, err);
                \x7d
            \x7d);
        \x7d);
    \x7d

"

/-- Signing in to the messaging application, if the form uses one. -/
def messagingInit : String := "    initTransport() \x7b
        const liffId = (this.config.basic_info && this.config.basic_info.liff_id) || '';
        if (!liffId || liffId.length < MIN_LIFF_ID_LENGTH) return Promise.resolve(false);
        if (typeof window.liff === 'undefined') \x7b
            warn('messaging SDK is not loaded');
            return Promise.resolve(false);
        \x7d
        return window.liff.init(\x7b liffId \x7d).then(() => \x7b
            if (!window.liff.isLoggedIn()) return true;
            return window.liff.getProfile().then(profile => \x7b
                const input = document.getElementById('customer-name');
                if (!this.state.name && profile && profile.displayName) \x7b
                    this.state.name = profile.displayName;
                    if (input) input.value = profile.displayName;
                    this.updateSummary();
                \x7d
                return true;
            \x7d).catch(err => \x7b
                warn('could not read profile:', err);
                return true;
            \x7d);
        \x7d).catch(err => \x7b
            warn('messaging SDK init failed:', err);
            return false;
        \x7d);
    \x7d

"

/-- The customer's details, the choices and the salon's own questions. -/
def customerFields : String := "    // ---------------------------
    // Customer fields
    // ---------------------------
    onTextInput(target) \x7b
        const field = target.dataset.field;
        if (field === 'name' || field === 'phone' || field === 'message') \x7b
            this.state[field] = target.value;
            this.updateSummary();
        \x7d
    \x7d

    onSelectChoice(target) \x7b
        const group = target.dataset.group;
        if (group !== 'gender' && group !== 'visitCount' && group !== 'coupon') return;
        this.state[group] = target.dataset.value || '';
        this.renderChoiceGroup(group);
        this.updateSummary();
    \x7d

    renderChoiceGroup(group) \x7b
        document.querySelectorAll('[data-action=\"select-choice\"][data-group=\"' + group + '\"]').forEach(btn => \x7b
            btn.classList.toggle('selected', btn.dataset.value === this.state[group]);
        \x7d);
    \x7d

    onCustomFieldInput(target) \x7b
        this.state.customFields[target.dataset.fieldId] = target.value;
        this.updateSummary();
    \x7d

    onCustomRadio(target) \x7b
        const fieldId = target.dataset.fieldId;
        this.state.customFields[fieldId] = target.dataset.value || '';
        document.querySelectorAll('[data-action=\"select-custom-radio\"]').forEach(btn => \x7b
            if (btn.dataset.fieldId === fieldId) \x7b
                btn.classList.toggle('selected', btn.dataset.value === this.state.customFields[fieldId]);
            \x7d
        \x7d);
        this.updateSummary();
    \x7d

    onCustomCheckbox(target) \x7b
        const fieldId = target.dataset.fieldId;
        const value = target.dataset.value;
        const current = Array.isArray(this.state.customFields[fieldId]) ? this.state.customFields[fieldId] : [];
        const next = current.filter(v => v !== value);
        if (target.checked) next.push(value);
        this.state.customFields[fieldId] = next;
        this.updateSummary();
    \x7d

"

end SalonBooking.Page.Script
