import SalonBooking.Page.ActionIndex
import SalonBooking.Proofs.Data.Parts
import SalonBooking.Proofs.Data.Results
import SalonBooking.Proofs.Markup.Places

/-!
# The index of actions

The page's script binds what the index lists, so an action that is not listed
is a control that does nothing.  The index is exact for every tree, whatever
its shape: it lists the actions that elements of the tree name, each once, in
the order of their first places, and fails on the first one that the script
does not handle.

`NamesAt` is about places in the tree; `placedActions` lists the same in
document order, from which the index keeps the first of each action.

* `mem_actions_iff`, `pairwise_actions`: which actions there are, in which order.
* `actionIndex_eq_ok_iff`, `actionIndex_eq_error_iff`: when there is an index.
* `actions_appendChild`: what one more child adds.
-/

namespace SalonBooking

namespace Page

/-- An element at a place names an action in its `data-action` attribute. -/
def NamesAt (root : Node) (place : List Nat) (action : String) : Prop :=
  ∃ (tag : String) (attrs : Assoc String AttrValue) (children : List Node),
    root.at? place = some (.element tag attrs children) ∧
      attrs.get? "data-action" = some (.text action)

/-- The actions of a tree with their places, in document order. -/
def placedActions (root : Node) : List (List Nat × String) :=
  root.placed.filterMap fun found =>
    (found.2.head?.bind fun head => actionOf? head.2).map fun action => (found.1, action)

theorem actionOf?_eq_some_iff {attrs : Assoc String AttrValue} {action : String} :
    actionOf? attrs = some action ↔ attrs.get? "data-action" = some (.text action) := by
  rw [actionOf?, actionAttr]
  split
  · rename_i text htext
    rw [htext]
    simp
  · rename_i hother
    simpa using hother action

theorem mem_placedActions {root : Node} {place : List Nat} {action : String} :
    (place, action) ∈ placedActions root ↔ NamesAt root place action := by
  simp only [placedActions, List.mem_filterMap, Option.map_eq_some_iff, Option.bind_eq_some_iff,
    actionOf?_eq_some_iff]
  constructor
  · rintro ⟨⟨place', node⟩, hfound, named, ⟨head, hhead, hnamed⟩, heq⟩
    obtain ⟨rfl, rfl⟩ := Prod.mk.inj heq
    cases node with
    | element tag attrs children =>
      obtain rfl := Option.some.inj hhead
      exact ⟨tag, attrs, children, Node.mem_placed.mp hfound, hnamed⟩
    | _ => cases hhead
  · rintro ⟨tag, attrs, children, hat, hnamed⟩
    exact ⟨(place, _), Node.mem_placed.mpr hat, action, ⟨(tag, attrs), rfl, hnamed⟩, rfl⟩

/-- The actions of a tree are those with a place, without repetitions. -/
theorem actions_eq_distinct (root : Node) :
    actions root = distinct ((placedActions root).map Prod.snd) := by
  rw [actions, Node.elements_eq_filterMap_placed, placedActions, List.filterMap_filterMap,
    List.map_filterMap]
  simp only [Option.map_map, Function.comp_def, Option.map_id_fun', id_eq]

/-! ## Which actions there are -/

theorem mem_actions_iff {root : Node} {action : String} :
    action ∈ actions root ↔ ∃ place, NamesAt root place action := by
  rw [actions_eq_distinct, mem_distinct, List.mem_map]
  constructor
  · rintro ⟨⟨place, _⟩, hmem, rfl⟩
    exact ⟨place, mem_placedActions.mp hmem⟩
  · rintro ⟨place, hnames⟩
    exact ⟨(place, action), mem_placedActions.mpr hnames, rfl⟩

/-- Actions are listed in the order of their first places. -/
theorem pairwise_actions (root : Node) : (actions root).Pairwise fun action later =>
    ∃ place, NamesAt root place action ∧ ∀ other, NamesAt root other later → place < other := by
  -- All actions with their places are in document order; of each the first one is kept.
  have hplaced : (placedActions root).Pairwise fun entry entry' => entry.1 < entry'.1 := by
    refine List.Pairwise.filterMap _ (fun found found' hlt entry hentry entry' hentry' => ?_)
      root.pairwise_placed
    obtain ⟨action, -, rfl⟩ := Option.map_eq_some_iff.mp hentry
    obtain ⟨action', -, rfl⟩ := Option.map_eq_some_iff.mp hentry'
    exact hlt
  rw [actions_eq_distinct]
  refine (pairwise_distinct hplaced).imp ?_
  rintro action later ⟨place, hplace, hfirst⟩
  exact ⟨place, mem_placedActions.mp hplace, fun other h => hfirst other (mem_placedActions.mpr h)⟩

/-! ## When there is an index -/

/-- The entry of an action. -/
def entryOf (action : String) : Except PageError (String × String) :=
  match clientActions.get? action with
  | some event => .ok (action, event)
  | none => .error (.unknownAction action)

theorem entryOf_eq_ok_iff {action : String} {entry : String × String} :
    entryOf action = .ok entry ↔
      entry.1 = action ∧ clientActions.get? action = some entry.2 := by
  obtain ⟨action', event'⟩ := entry
  rw [entryOf]
  cases clientActions.get? action <;> simp [eq_comm]

theorem entryOf_eq_error_iff {action : String} {e : PageError} :
    entryOf action = .error e ↔
      clientActions.contains action = false ∧ e = .unknownAction action := by
  rw [entryOf, Assoc.contains]
  cases clientActions.get? action <;> simp [eq_comm]

theorem exists_entryOf_iff {action : String} :
    (∃ entry, entryOf action = .ok entry) ↔ clientActions.contains action = true := by
  rw [entryOf, Assoc.contains]
  cases clientActions.get? action <;> simp

theorem actionIndex_eq_mapM (root : Node) : actionIndex root = (actions root).mapM entryOf := rfl

theorem actionIndex_eq_ok_iff {root : Node} {index : List (String × String)} :
    actionIndex root = .ok index ↔ List.Forall₂ (fun action entry => entry.1 = action ∧
      clientActions.get? action = some entry.2) (actions root) index := by
  simp only [actionIndex_eq_mapM, mapM_eq_ok_iff, entryOf_eq_ok_iff]

/-- The first action that the script does not handle is the one that the error names. -/
theorem actionIndex_eq_error_iff {root : Node} {e : PageError} :
    actionIndex root = .error e ↔ ∃ before action after, actions root = before ++ action :: after ∧
      (∀ other ∈ before, clientActions.contains other = true) ∧
      clientActions.contains action = false ∧ e = .unknownAction action := by
  simp only [actionIndex_eq_mapM, mapM_eq_error_iff, exists_entryOf_iff, entryOf_eq_error_iff]

/-- There is an index unless the script does not handle one of the actions. -/
theorem exists_error_actionIndex_iff {root : Node} :
    (∃ e, actionIndex root = .error e) ↔
      ∃ action ∈ actions root, clientActions.contains action = false := by
  constructor
  · rintro ⟨e, he⟩
    obtain ⟨before, action, after, hsplit, -, hunknown, -⟩ := actionIndex_eq_error_iff.mp he
    exact ⟨action, by simp [hsplit], hunknown⟩
  · rintro ⟨action, haction, hunknown⟩
    cases hindex : actionIndex root with
    | error e => exact ⟨e, rfl⟩
    | ok index =>
      have hentries := actionIndex_eq_ok_iff.mp hindex
      obtain ⟨entry, -, -, hevent⟩ := exists_of_mem_right hentries.flip haction
      rw [Assoc.contains, hevent] at hunknown
      cases hunknown

/-! ## One more child -/

/-- Only an element takes another child, and what that names comes last. -/
theorem actions_appendChild (root child : Node) : ∃ more,
    actions (Node.appendChild child root) = actions root ++ more ∧
      ∀ action ∈ more, action ∈ actions child ∧ action ∉ actions root := by
  cases root with
  | element tag attrs children =>
    refine ⟨(actions child).filter fun action => action ∉ actions (.element tag attrs children),
      ?_, fun action haction => by simpa using List.mem_filter.mp haction⟩
    have helements : (Node.appendChild child (.element tag attrs children)).elements =
        (Node.element tag attrs children).elements ++ child.elements := by
      simp only [Node.appendChild, Node.elements, Node.elementsOf_append, Node.elementsOf,
        List.append_nil, List.cons_append]
    rw [actions, helements, List.filterMap_append, distinct_append]
    rfl
  | text s => exact ⟨[], (List.append_nil (actions (.text s))).symm, List.forall_mem_nil _⟩
  | raw s => exact ⟨[], (List.append_nil (actions (.raw s))).symm, List.forall_mem_nil _⟩

end Page

/-- The actions of a tree are the texts that its elements have as `data-action`, each once, in the
order of their first places.  Their index fails exactly if the script does not handle one of them,
and names the first such; otherwise it gives each its event, in this order.  One more child of the
root adds its actions at the end, and none if it names no new one. -/
theorem action_index_exact (root : Node) :
    (Page.actions root).Nodup ∧
    (∀ action, action ∈ Page.actions root ↔ ∃ place, Page.NamesAt root place action) ∧
    (Page.actions root).Pairwise (fun action later => ∃ place, Page.NamesAt root place action ∧
      ∀ other, Page.NamesAt root other later → place < other) ∧
    ((∃ e, Page.actionIndex root = .error e) ↔
      ∃ action ∈ Page.actions root, Page.clientActions.contains action = false) ∧
    (∀ e, Page.actionIndex root = .error e → ∃ before action after,
      Page.actions root = before ++ action :: after ∧
      (∀ other ∈ before, Page.clientActions.contains other = true) ∧
      Page.clientActions.contains action = false ∧ e = .unknownAction action) ∧
    (∀ index, Page.actionIndex root = .ok index → List.Forall₂ (fun action entry =>
      entry.1 = action ∧ Page.clientActions.get? action = some entry.2) (Page.actions root) index) ∧
    ∀ child, ∃ more, Page.actions (Node.appendChild child root) = Page.actions root ++ more ∧
      ((∀ place action, Page.NamesAt child place action →
        ∃ other, Page.NamesAt root other action) → more = []) := by
  refine ⟨nodup_distinct _, fun action => Page.mem_actions_iff, Page.pairwise_actions root,
    Page.exists_error_actionIndex_iff, fun e => Page.actionIndex_eq_error_iff.mp,
    fun index => Page.actionIndex_eq_ok_iff.mp, fun child => ?_⟩
  obtain ⟨more, happend, hmore⟩ := Page.actions_appendChild root child
  refine ⟨more, happend, fun hknown => List.eq_nil_iff_forall_not_mem.mpr fun action haction => ?_⟩
  obtain ⟨hchild, hnew⟩ := hmore action haction
  obtain ⟨place, hnames⟩ := Page.mem_actions_iff.mp hchild
  exact hnew (Page.mem_actions_iff.mpr (hknown place action hnames))

/-- A panel with two buttons that submit, a picker, and an attribute that is no text. -/
def panel : Node :=
  .element "div" [("data-action", .number 1)] [
    .element "button" [("data-action", .text "submit")] [],
    .element "p" [] [.element "button" [("data-action", .text "submit")] []],
    .element "select" [("data-action", .text "pick-datetime")] []]

/-- A button of which the script knows nothing. -/
def strayButton : Node :=
  .element "p" [] [.element "button" [("data-action", .text "dance")] []]

/-- Another picker. -/
def secondPicker : Node :=
  .element "select" [("data-action", .text "pick-datetime")] []

/-- The panel has an index.  With the stray button it has none, and a second picker adds nothing. -/
theorem action_index_exact_panel :
    Page.actionIndex panel = .ok [("submit", "click"), ("pick-datetime", "change")] ∧
      List.Forall₂ (fun action entry => entry.1 = action ∧
        Page.clientActions.get? action = some entry.2) (Page.actions panel)
        [("submit", "click"), ("pick-datetime", "change")] ∧
      (∃ e, Page.actionIndex (Node.appendChild strayButton panel) = .error e) ∧
      Page.actions (Node.appendChild secondPicker panel) = Page.actions panel := by
  have hindex : Page.actionIndex panel =
      .ok [("submit", "click"), ("pick-datetime", "change")] := by
    decide +kernel
  have hstray : "dance" ∈ Page.actions (Node.appendChild strayButton panel) := by
    decide +kernel
  obtain ⟨-, -, -, -, -, hentries, hmore⟩ := action_index_exact panel
  obtain ⟨more, happend, hnone⟩ := hmore secondPicker
  have hmoreNil : more = [] := hnone fun place action hnames => by
    obtain rfl : action = "pick-datetime" :=
      List.mem_singleton.mp (Page.mem_actions_iff.mpr ⟨place, hnames⟩)
    exact ⟨[2], _, _, _, rfl, rfl⟩
  refine ⟨hindex, hentries _ hindex, ?_, by rw [happend, hmoreNil, List.append_nil]⟩
  exact (action_index_exact (Node.appendChild strayButton panel)).2.2.2.1.mpr
    ⟨"dance", hstray, by decide +kernel⟩

end SalonBooking
