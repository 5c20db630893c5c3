/-!
# Repeating the last booking

The part of the page's script that remembers a booking and fills it in again.
-/

namespace SalonBooking.Page.Script

/-- Remembering the last booking. -/
def lastBooking : String := "    // ---------------------------
    // Repeat booking
    // ---------------------------
    storageKey() \x7b
        return 'booking_' + (this.config.basic_info.form_name || this.formId || 'default');
    \x7d

    saveLastBooking() \x7b
        if (!this.config.ui_settings.show_repeat_booking) return;
        const entries = this.selectedEntries();
        if (entries.length === 0) return;
        try \x7b
            window.localStorage.setItem(this.storageKey(), JSON.stringify(\x7b
                timestamp: Date.now(),
                menus: entries.map(entry => (\x7b
                    categoryId: entry.category.id,
                    menuId: entry.menu.id,
                    submenuId: this.state.selectedSubmenus[entry.menu.id] || '',
                    options: this.state.selectedOptions[entry.menu.id] || []
                \x7d)),
                gender: this.state.gender,
                visitCount: this.state.visitCount,
                coupon: this.state.coupon
            \x7d));
        \x7d catch (err) \x7b
            warn('could not save last booking:', err);
        \x7d
    \x7d

"

/-- Filling in the last booking again. -/
def repeatBooking : String := "    onRepeatBooking() \x7b
        let saved = null;
        try \x7b
            saved = JSON.parse(window.localStorage.getItem(this.storageKey()) || 'null');
        \x7d catch (err) \x7b
            warn('could not read last booking:', err);
        \x7d
        const menus = saved && Array.isArray(saved.menus)
            ? saved.menus.filter(m => m && this.menuIndex[m.menuId])
            : [];
        if (menus.length === 0) \x7b
            alert('前回のメニューが見つかりません💦');
            return;
        \x7d
        if (!saved.timestamp || saved.timestamp < Date.now() - REPEAT_BOOKING_TTL_MS) \x7b
            alert('前回のメニューデータが古いため復元できません');
            return;
        \x7d
        this.resetMenuSelection();
        this.clearDateTime();
        menus.forEach(m => \x7b
            const menu = this.menuIndex[m.menuId].menu;
            if (this.state.selectedMenuIds.includes(menu.id)) return;
            this.state.selectedMenuIds.push(menu.id);
            if (menu.kind === 'submenu') \x7b
                if (menu.sub_menu_items.some(sub => sub.id === m.submenuId)) this.state.selectedSubmenus[menu.id] = m.submenuId;
            \x7d else \x7b
                const known = (menu.options || []).map(o => o.id);
                this.state.selectedOptions[menu.id] = (m.options || []).filter(id => known.includes(id));
            \x7d
        \x7d);
        [['gender', 'gender_selection'], ['visitCount', 'visit_count_selection'], ['coupon', 'coupon_selection']].forEach(pair => \x7b
            if (this.choiceLabel(this.config[pair[1]], saved[pair[0]])) \x7b
                this.state[pair[0]] = saved[pair[0]];
                this.renderChoiceGroup(pair[0]);
            \x7d
        \x7d);
        this.renderMenuSelection();
        this.syncDateTimeBlock();
        this.updateSummary();
        alert('前回のメニューを復元しました！');
        const block = document.querySelector('[data-block=\"datetime\"]:not([hidden])');
        if (block) block.scrollIntoView(\x7b behavior: 'smooth', block: 'center' \x7d);
    \x7d
\x7d

"

end SalonBooking.Page.Script
