import SalonBooking.Proofs.Page.Actions
import SalonBooking.Proofs.Page.Blocks
import SalonBooking.Proofs.Page.Script

/-!
# Every page can be written and read back

A page is a tree of blocks around two raw texts, its stylesheet and its script,
and neither holds `</`.  So the tree is tidy, and as its actions are handled and
its numbers short nothing stands in the way of the page: there is one for every
configuration and all ids on every machine, and what a reader makes of it is the
tree that it was written from.

* `exists_actionIndex`: no page has an action that is not handled.
* `isTidy_scriptedTree`: the document with its script is tidy.
* `exists_page`: there is a page.
* `rendering_undone`: trees and pages are read back.
-/

namespace SalonBooking

namespace Page

/-! ## The actions -/

/-- What names an action of the page is a text, and the action is handled. -/
theorem handled_of_mem_tree (config : FormConfig) {element : String × Assoc String AttrValue}
    (helement : element ∈ (tree config).elements) {value : AttrValue}
    (hvalue : (actionAttr, value) ∈ element.2) :
    ∃ action, value = .text action ∧ clientActions.contains action = true := by
  simp only [tree, treeWith, head, el, Node.elements, Node.elementsOf, List.append_nil,
    List.nil_append, List.cons_append, List.mem_cons] at helement
  -- Outside of the form no element names an action.
  rcases helement with rfl | rfl | rfl | rfl | rfl | rfl | rfl | rfl | hinside
  case inr.inr.inr.inr.inr.inr.inr.inr =>
    exact handled_of_isBlock (isBlock_container config) hinside hvalue
  all_goals simp [actionAttr] at hvalue

/-- Every page has an index of its actions. -/
theorem exists_actionIndex (config : FormConfig) :
    ∃ index, actionIndex (tree config) = .ok index := by
  refine exists_mapM fun action haction => exists_entryOf_iff.mpr ?_
  rw [actions, mem_distinct, List.mem_filterMap] at haction
  obtain ⟨element, helement, hof⟩ := haction
  have hnamed : (actionAttr, .text action) ∈ element.2 :=
    Assoc.mem_of_get? (actionOf?_eq_some_iff.mp hof)
  obtain ⟨_, heq, hhandled⟩ := handled_of_mem_tree config helement hnamed
  obtain rfl := AttrValue.text.inj heq
  exact hhandled

/-! ## The document -/

/-- The document of a page, with its script. -/
def scriptedTree (config : FormConfig) (formId storeId : String)
    (index : List (String × String)) : Node :=
  treeWith config [scriptElement config (.str formId) (.str storeId) index]

/-- An end mark does not stand where `<` only compares. -/
theorem rawWithoutEnd_singleton {p : Char → Bool} (hp : p '/' = false) {s : String}
    (h : Text.anglesBefore p s.toList = true) : Markup.RawWithoutEnd [.raw s] := by
  refine ⟨[s], rfl, ?_⟩
  rw [String.join_cons, String.join_nil, String.append_empty]
  exact Text.not_infix_of_anglesBefore h hp []

theorem isTidy_head {config : FormConfig} (h : config.WellFormed) :
    (head config).IsTidy Markup.RawWithoutEnd := by
  have hmessaging : (el "script" [("src", messagingScriptUrl)] []).IsTidy Markup.RawWithoutEnd :=
    ⟨rfl, by decide, [], rfl, by decide⟩
  have hstyle : (el "style" [] [.raw (stylesheet config)]).IsTidy Markup.RawWithoutEnd :=
    ⟨rfl, by simp, rawWithoutEnd_singleton rfl (angles_stylesheet h)⟩
  refine isTidy_el rfl ⟨?_, ?_, ?_, hmessaging, hstyle, trivial⟩
  · exact isTidy_of_isBlock _ _ rfl
  · exact isTidy_of_isBlock _ _ rfl
  · exact isTidy_of_isBlock _ _ rfl

theorem isTidy_scriptElement {config : FormConfig} (h : config.WellFormed)
    (formId storeId : String) (index : List (String × String)) :
    (scriptElement config (.str formId) (.str storeId) index).IsTidy Markup.RawWithoutEnd :=
  ⟨rfl, by simp, rawWithoutEnd_singleton rfl (angles_controllerScript h formId storeId index)⟩

/-- The document of a page is tidy, whatever the salon has entered. -/
theorem isTidy_scriptedTree {config : FormConfig} (h : config.WellFormed)
    (formId storeId : String) (index : List (String × String)) :
    (scriptedTree config formId storeId index).IsTidy Markup.RawWithoutEnd := by
  have hcontainer := isTidy_of_isBlock Markup.RawWithoutEnd _ (isBlock_container config)
  refine isTidy_el rfl ⟨isTidy_head h, isTidy_el rfl ⟨hcontainer, ?_, trivial⟩, trivial⟩
  exact isTidy_scriptElement h formId storeId index

/-- Only blocks have numbers in their attributes, and these are short. -/
theorem not_isOverlong_treeWith {limits : Limits} (config : FormConfig) {atEnd : List Node}
    (hend : ∀ element ∈ Node.elementsOf atEnd, attrsHaveTexts limits element.2 = true)
    (place : List Nat) : ¬ (treeWith config atEnd).IsOverlong limits place := by
  refine Node.not_isOverlong_of_elements (fun element helement => ?_) place
  simp only [treeWith, head, el, Node.elements, Node.elementsOf, List.append_nil, List.nil_append,
    List.cons_append, List.mem_cons, List.mem_append] at helement
  rcases helement with rfl | rfl | rfl | rfl | rfl | rfl | rfl | rfl | hinside | hatEnd
  case inr.inr.inr.inr.inr.inr.inr.inr.inl =>
    exact attrsHaveTexts_of_isBlock limits (isBlock_container config) hinside
  case inr.inr.inr.inr.inr.inr.inr.inr.inr => exact hend element hatEnd
  all_goals rfl

theorem not_isOverlong_scriptedTree (limits : Limits) (config : FormConfig)
    (formId storeId : String) (index : List (String × String)) (place : List Nat) :
    ¬ (scriptedTree config formId storeId index).IsOverlong limits place := by
  refine not_isOverlong_treeWith config (fun element helement => ?_) place
  obtain rfl := List.mem_singleton.mp helement
  rfl

theorem exists_render_of_isTidy {limits : Limits} {node : Node}
    (h : node.IsTidy Markup.RawWithoutEnd) (hnumbers : ∀ place, ¬ node.IsOverlong limits place) :
    ∃ html, node.render limits = .ok html :=
  Markup.exists_render (fun _ ⟨pieces, hpieces, _⟩ => ⟨pieces, hpieces⟩) h hnumbers

/-- The constants of a page are embedded by every machine. -/
theorem fit_constantValues {config : FormConfig} (h : config.WellFormed) (limits : Limits)
    (formId storeId : String) (index : List (String × String)) :
    (constantValues config (.str formId) (.str storeId) index).all (Json.fits limits) = true := by
  refine List.all_eq_true.mpr fun value hvalue => ?_
  obtain ⟨entry, hentry, rfl⟩ : ∃ entry ∈ constants config formId storeId index, entry.2 = value :=
    List.mem_map.mp hvalue
  exact (isReadable_constants h formId storeId index entry hentry).fits limits

/-- Where there is an index the page is its document. -/
theorem page_eq {limits : Limits} {config : FormConfig} (h : config.WellFormed)
    {formId storeId html : String} {index : List (String × String)}
    (hindex : actionIndex (tree config) = .ok index)
    (hhtml : (scriptedTree config formId storeId index).render limits = .ok html) :
    config.page limits formId storeId = .ok ("<!DOCTYPE html>\n" ++ html ++ "\n") := by
  rw [FormConfig.page, FormConfig.pageFor, hindex]
  simp only [fit_constantValues h]
  show (((scriptedTree config formId storeId index).render limits).map _).mapError _ = _
  rw [hhtml]
  rfl

/-- There is a page for every configuration and all ids, on every machine. -/
theorem exists_page {config : FormConfig} (h : config.WellFormed) (limits : Limits)
    (formId storeId : String) :
    ∃ index html, actionIndex (tree config) = .ok index ∧
      (scriptedTree config formId storeId index).render limits = .ok html ∧
      config.page limits formId storeId = .ok ("<!DOCTYPE html>\n" ++ html ++ "\n") := by
  obtain ⟨index, hindex⟩ := exists_actionIndex config
  obtain ⟨html, hhtml⟩ := exists_render_of_isTidy (isTidy_scriptedTree h formId storeId index)
    (not_isOverlong_scriptedTree limits config formId storeId index)
  exact ⟨index, html, hindex, hhtml, page_eq h hindex hhtml⟩

end Page

/-- The page of a source is that of its configuration. -/
theorem generate_eq_page {limits : Limits} {source : Source} {config : FormConfig}
    (h : normalize limits source = .ok config) (formId storeId : String) :
    generate limits source formId storeId = (config.page limits formId storeId).mapError .page := by
  rw [generate, generateFor, h]
  rfl

/-- There is a page for every source that has a configuration. -/
theorem exists_generate {limits : Limits} {source : Source} {config : FormConfig}
    (h : normalize limits source = .ok config) (formId storeId : String) :
    ∃ html, generate limits source formId storeId = .ok html := by
  obtain ⟨index, html, -, -, hpage⟩ :=
    Page.exists_page (wellFormed_of_normalize h) limits formId storeId
  rw [generate_eq_page h, hpage]
  exact ⟨_, rfl⟩

/-! ## Reading back -/

/-- Rendering can be undone.  A tidy element has a text, unless the machine does not convert one of
its numbers, and from the text its normal form is read back; and the document of every
configuration, with all ids, is such an element. -/
theorem rendering_undone (limits : Limits) :
    (∀ (tag : String) (attrs : List (String × AttrValue)) (children : List Node),
      let root := Node.element tag attrs children
      root.IsTidy Markup.RawWithoutEnd →
        ((∃ html, root.render limits = .ok html) ↔ ∀ place, ¬ root.IsOverlong limits place) ∧
        ∀ html, root.render limits = .ok html → Node.parse? html = some root.normal) ∧
    (limits.maxDigits = none → ∀ (root : Node) place, ¬ root.IsOverlong limits place) ∧
    ∀ (source : Source) (config : FormConfig), normalize limits source = .ok config →
      ∀ formId storeId : String, ∃ index html,
        Page.actionIndex (Page.tree config) = .ok index ∧
        (Page.scriptedTree config formId storeId index).render limits = .ok html ∧
        config.page limits formId storeId = .ok ("<!DOCTYPE html>\n" ++ html ++ "\n") ∧
        Node.parse? html = some (Page.scriptedTree config formId storeId index).normal := by
  refine ⟨fun tag attrs children => ?_, fun hnone root => root.not_isOverlong hnone, ?_⟩
  · intro root h
    refine ⟨⟨?_, Page.exists_render_of_isTidy h⟩, fun html hhtml => Markup.parse?_render h hhtml⟩
    rintro ⟨html, hhtml⟩ place hplace
    have houtcome := root.render_outcome limits
    rw [hhtml] at houtcome
    exact houtcome place _ (.number hplace)
  · intro source config h formId storeId
    have hconfig := wellFormed_of_normalize h
    obtain ⟨index, html, hindex, hhtml, hpage⟩ := Page.exists_page hconfig limits formId storeId
    have htidy := Page.isTidy_scriptedTree hconfig formId storeId index
    exact ⟨index, html, hindex, hhtml, hpage, Markup.parse?_render htidy hhtml⟩

/-- An element with all that rendering loses, and with markup in its texts. -/
def hostileNode : Node :=
  .element "div" [("title", .text "\"><b title='&amp;'>"), ("tabindex", .number (-1)),
      ("hidden", .flag true), ("draggable", .flag false), ("lang", .absent)]
    [.text "</div><b>", .text "&lt;", .text "", .element "br" [] [.text "lost"],
      .element "script" [] [.raw "if (a <", .raw " b) run();"]]

/-- A form whose name closes the title and opens a script. -/
def hostileForm : Json :=
  .obj [("form_name", .str "</title><script>"), ("theme_color", .str "red; \x7d</style>")]

theorem rendering_undone_hostile :
    (∃ html, hostileNode.render .standard = .ok html ∧ Node.parse? html = some
      (.element "div" [("title", .text "\"><b title='&amp;'>"), ("tabindex", .text "-1"),
          ("hidden", .flag true)]
        [.text "</div><b>&lt;", .element "br" [] [],
          .element "script" [] [.raw "if (a < b) run();"]])) ∧
    ∃ config, normalize .standard (.value hostileForm) = .ok config ∧
      config.basicInfo.formName = "</title><script>" ∧
      ∃ index html, Page.actionIndex (Page.tree config) = .ok index ∧
        (Page.scriptedTree config "'</script>" "\\<" index).render .standard = .ok html ∧
        config.page .standard "'</script>" "\\<" = .ok ("<!DOCTYPE html>\n" ++ html ++ "\n") ∧
        Node.parse? html = some (Page.scriptedTree config "'</script>" "\\<" index).normal := by
  have hform : normalize .standard (.value hostileForm) = .ok _ := rfl
  have htidy : hostileNode.IsTidy Markup.RawWithoutEnd :=
    ⟨rfl, by decide, trivial, trivial, trivial, ⟨rfl, by decide, trivial⟩,
      ⟨rfl, by decide, ["if (a <", " b) run();"], rfl, by decide⟩, trivial⟩
  have hnumbers : ∀ place, ¬ hostileNode.IsOverlong .standard place :=
    Node.not_isOverlong_of_elements (by decide)
  obtain ⟨hundone, -, hpages⟩ := rendering_undone .standard
  obtain ⟨hrendered, hback⟩ := hundone _ _ _ htidy
  obtain ⟨html, hhtml⟩ := hrendered.mpr hnumbers
  exact ⟨⟨html, hhtml, hback html hhtml⟩, _, hform, by decide +kernel, hpages _ _ hform _ _⟩

end SalonBooking
