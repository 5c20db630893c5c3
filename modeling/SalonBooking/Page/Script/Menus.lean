/-!
# Menus on the page

The part of the page's script that follows the clicks on menus, options and submenu items.
-/

namespace SalonBooking.Page.Script

/-- Which menus are selected, and whether anything is left to choose. -/
def menuPhase : String := "    // ---------------------------
    // Menu / submenu / options
    // ---------------------------
    selectedEntries() \x7b
        return this.state.selectedMenuIds.map(id => this.menuIndex[id]).filter(Boolean);
    \x7d

    isAdditive(category) \x7b
        const structure = this.config.menu_structure;
        return Boolean(structure.allow_cross_category_selection) || category.selection_mode === 'multiple';
    \x7d

    isResolved(entry) \x7b
        return entry.menu.kind !== 'submenu' || Boolean(this.selectedSubmenu(entry.menu.id));
    \x7d

    phase() \x7b
        const entries = this.selectedEntries();
        if (entries.length === 0) return 'none';
        if (!entries.every(entry => this.isResolved(entry))) return 'awaiting-submenu';
        if (entries.some(entry => entry.menu.kind === 'submenu')) return 'submenu';
        return 'leaf';
    \x7d

    isTerminal() \x7b
        const phase = this.phase();
        return phase === 'leaf' || phase === 'submenu';
    \x7d

"

/-- Clicks on menus. -/
def menuClicks : String := "    resetMenuSelection() \x7b
        this.state.selectedMenuIds = [];
        this.state.selectedSubmenus = \x7b\x7d;
        this.state.selectedOptions = \x7b\x7d;
    \x7d

    dropMenu(menuId) \x7b
        this.state.selectedMenuIds = this.state.selectedMenuIds.filter(id => id !== menuId);
        delete this.state.selectedSubmenus[menuId];
        delete this.state.selectedOptions[menuId];
    \x7d

    onSelectMenu(target) \x7b
        const menuId = target.dataset.menuId;
        const entry = this.menuIndex[menuId];
        if (!entry) \x7b
            warn('unknown menu', menuId);
            return;
        \x7d
        this.clearDateTime();
        if (!this.isAdditive(entry.category)) \x7b
            const ids = this.state.selectedMenuIds;
            const wasSelected = ids.length === 1 && ids[0] === menuId;
            this.resetMenuSelection();
            if (!wasSelected) this.state.selectedMenuIds = [menuId];
        \x7d else if (this.state.selectedMenuIds.includes(menuId)) \x7b
            this.dropMenu(menuId);
        \x7d else \x7b
            if (!this.config.menu_structure.allow_cross_category_selection) \x7b
                this.state.selectedMenuIds.slice().forEach(id => \x7b
                    const other = this.menuIndex[id];
                    if (!other || other.category.id !== entry.category.id) this.dropMenu(id);
                \x7d);
            \x7d
            this.state.selectedMenuIds.push(menuId);
        \x7d
        this.renderMenuSelection();
        this.syncDateTimeBlock();
        this.updateSummary();
    \x7d

"

/-- Clicks on options and on submenu items. -/
def choiceClicks : String := "    onToggleOption(target) \x7b
        const menuId = target.dataset.menuId;
        const optionId = target.dataset.optionId;
        const entry = this.menuIndex[menuId];
        if (!entry || entry.menu.kind !== 'leaf' || !this.state.selectedMenuIds.includes(menuId)) return;
        if (!(entry.menu.options || []).some(o => o.id === optionId)) return;
        const current = this.state.selectedOptions[menuId] || [];
        this.state.selectedOptions[menuId] = current.includes(optionId)
            ? current.filter(id => id !== optionId)
            : current.concat([optionId]);
        this.renderMenuSelection();
        this.updateSummary();
    \x7d

    onSelectSubmenu(target) \x7b
        const menuId = target.dataset.menuId;
        const entry = this.menuIndex[menuId];
        if (!entry || entry.menu.kind !== 'submenu' || !this.state.selectedMenuIds.includes(menuId)) return;
        const submenuId = target.dataset.submenuId;
        if (!entry.menu.sub_menu_items.some(sub => sub.id === submenuId)) return;
        this.state.selectedSubmenus[menuId] = submenuId;
        this.renderMenuSelection();
        this.syncDateTimeBlock();
        this.updateSummary();
    \x7d

"

/-- Marking what is selected. -/
def menuDisplay : String := "    renderMenuSelection() \x7b
        const ids = this.state.selectedMenuIds;
        document.querySelectorAll('[data-action=\"select-menu\"]').forEach(btn => \x7b
            btn.classList.toggle('selected', ids.includes(btn.dataset.menuId));
        \x7d);
        document.querySelectorAll('[data-options-for]').forEach(container => \x7b
            container.hidden = !ids.includes(container.dataset.optionsFor);
        \x7d);
        document.querySelectorAll('[data-submenus-for]').forEach(container => \x7b
            container.hidden = !ids.includes(container.dataset.submenusFor);
        \x7d);
        document.querySelectorAll('[data-action=\"toggle-option\"]').forEach(btn => \x7b
            const chosen = this.state.selectedOptions[btn.dataset.menuId] || [];
            btn.classList.toggle('selected', ids.includes(btn.dataset.menuId) && chosen.includes(btn.dataset.optionId));
        \x7d);
        document.querySelectorAll('[data-action=\"select-submenu\"]').forEach(btn => \x7b
            btn.classList.toggle('selected',
                ids.includes(btn.dataset.menuId) && this.state.selectedSubmenus[btn.dataset.menuId] === btn.dataset.submenuId);
        \x7d);
    \x7d

"

/-- What is chosen under a menu, and what it adds up to. -/
def menuTotals : String := "    selectedOptionObjects(menuId) \x7b
        const entry = this.menuIndex[menuId];
        if (!entry || entry.menu.kind !== 'leaf') return [];
        const ids = this.state.selectedOptions[menuId] || [];
        return ids.map(id => entry.menu.options.find(o => o.id === id)).filter(Boolean);
    \x7d

    selectedSubmenu(menuId) \x7b
        const entry = this.menuIndex[menuId];
        if (!entry || entry.menu.kind !== 'submenu') return null;
        return entry.menu.sub_menu_items.find(sub => sub.id === this.state.selectedSubmenus[menuId]) || null;
    \x7d

    entryTotals(entry) \x7b
        if (entry.menu.kind === 'submenu') \x7b
            const sub = this.selectedSubmenu(entry.menu.id);
            return sub ? \x7b price: sub.price || 0, duration: sub.duration || 0 \x7d : \x7b price: 0, duration: 0 \x7d;
        \x7d
        return this.selectedOptionObjects(entry.menu.id).reduce((acc, opt) => (\x7b
            price: acc.price + (opt.price || 0),
            duration: acc.duration + (opt.duration || 0)
        \x7d), \x7b price: entry.menu.price || 0, duration: entry.menu.duration || 0 \x7d);
    \x7d

    computeTotals() \x7b
        return this.selectedEntries().reduce((acc, entry) => \x7b
            const t = this.entryTotals(entry);
            return \x7b price: acc.price + t.price, duration: acc.duration + t.duration \x7d;
        \x7d, \x7b price: 0, duration: 0 \x7d);
    \x7d

"

end SalonBooking.Page.Script
