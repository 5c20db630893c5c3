import SalonBooking.Proofs.Form.Refused
import SalonBooking.Proofs.Page.Constants

/-!
# Every object has a page

Once a source is read nothing can go wrong with its page: the salon's entries
become texts and values of attributes, and each action that the blocks name is
in the table of the script.  So a page is missing only where there is no object
to make it from, where a text is given up because its parts stand too deep
inside each other, and where an integer that the machine does not convert stands
in the place of a text.

* `keepsRaw_scriptedTree`: raw texts stand in script and style elements only.
* `isIndexOf_actionIndex`: the index of a page lists its actions.
* `every_object_has_page`: which sources have a page.
* `deep_text_has_none`: the texts that are given up.
-/

namespace SalonBooking

/-! ## Raw texts -/

namespace Node

mutual

/-- Whether raw texts stand only directly inside script and style elements. -/
def keepsRaw : Node → Bool
  | .text _ => true
  | .raw _ => false
  | .element tag _ children => keepsRawIn tag children

/-- The same for the children of an element. -/
def keepsRawIn (tag : String) : List Node → Bool
  | [] => true
  | child :: rest =>
    (child.isRaw && rawTextTags.contains tag || child.keepsRaw) && keepsRawIn tag rest

end

end Node

namespace Page

mutual

/-- Blocks have no raw texts at all. -/
theorem keepsRaw_of_isBlock : ∀ node : Node, isBlock node = true → node.keepsRaw = true
  | .text _, _ => rfl
  | .raw _, h => Bool.noConfusion h
  | .element tag attrs children, h => by
    rw [isBlock, Bool.and_eq_true] at h
    exact keepsRawIn_of_areBlocks tag children h.2

theorem keepsRawIn_of_areBlocks (tag : String) :
    ∀ nodes : List Node, areBlocks nodes = true → Node.keepsRawIn tag nodes = true
  | [], _ => rfl
  | node :: rest, h => by
    rw [areBlocks, Bool.and_eq_true] at h
    rw [Node.keepsRawIn, keepsRaw_of_isBlock node h.1, keepsRawIn_of_areBlocks tag rest h.2,
      Bool.or_true, Bool.and_true]

end

theorem keepsRaw_scriptedTree (config : FormConfig) (formId storeId : String)
    (index : List (String × String)) :
    (scriptedTree config formId storeId index).keepsRaw = true := by
  have hhead : (head config).keepsRaw = true := rfl
  have hcontainer := keepsRaw_of_isBlock _ (isBlock_container config)
  have hscript : (scriptElement config (.str formId) (.str storeId) index).keepsRaw = true := rfl
  simp only [scriptedTree, treeWith, el, Node.keepsRaw, Node.keepsRawIn, hhead, hcontainer, hscript,
    Bool.or_true, Bool.and_true]

/-! ## The index -/

/-- An index lists the actions of a tree, each once and in the order in which they first occur, with
the events that start them; and nothing in the tree names an action that is not in the table. -/
structure IsIndexOf (index : List (String × String)) (root : Node) : Prop where
  handled : ∀ element ∈ root.elements, ∀ value, (actionAttr, value) ∈ element.2 →
    ∃ action, value = .text action ∧ clientActions.contains action = true
  actions : index.map Prod.fst =
    (root.elements.filterMap fun element => actionOf? element.2).eraseDups
  events : ∀ entry ∈ index, clientActions.get? entry.1 = some entry.2

theorem addDistinct_eq_eraseDups (seen xs : List String) :
    addDistinct seen xs = seen ++ (xs.filter fun x => !seen.contains x).eraseDups := by
  induction xs generalizing seen with
  | nil => simp [addDistinct]
  | cons x rest ih =>
    rw [addDistinct_cons, ih]
    by_cases hx : x ∈ seen
    · rw [if_pos hx, List.filter_cons_of_neg (by simpa using hx)]
    · rw [if_neg hx, List.filter_cons_of_pos (by simpa using hx), List.eraseDups_cons,
        List.filter_filter, List.append_assoc, List.singleton_append]
      congr 3
      refine List.filter_congr fun y _ => ?_
      rw [Bool.eq_iff_iff]
      simp [and_comm]

/-- Leaving out what was there before keeps each item at its first place. -/
theorem distinct_eq_eraseDups (xs : List String) : distinct xs = xs.eraseDups := by
  rw [distinct, addDistinct_eq_eraseDups, List.nil_append]
  simp

/-- What an index lists, and with which events. -/
theorem of_actionIndex {root : Node} {index : List (String × String)}
    (h : actionIndex root = .ok index) :
    index.map Prod.fst = actions root ∧
      ∀ entry ∈ index, clientActions.get? entry.1 = some entry.2 := by
  rw [actionIndex_eq_ok_iff] at h
  generalize actions root = names at h ⊢
  induction h with
  | nil => exact ⟨rfl, List.forall_mem_nil _⟩
  | cons hentry _ ih =>
    obtain ⟨hname, hevent⟩ := hentry
    rw [← hname] at hevent
    exact ⟨by rw [List.map_cons, hname, ih.1], List.forall_mem_cons.mpr ⟨hevent, ih.2⟩⟩

/-- The index of every page is one. -/
theorem isIndexOf_actionIndex {config : FormConfig} {index : List (String × String)}
    (h : actionIndex (tree config) = .ok index) : IsIndexOf index (tree config) where
  handled _ helement _ hvalue := handled_of_mem_tree config helement hvalue
  actions := by rw [(of_actionIndex h).1, Page.actions, distinct_eq_eraseDups]
  events := (of_actionIndex h).2

/-! ## What every page has -/

theorem mem_elementsOf {nodes : List Node} {node : Node} {element : String × Assoc String AttrValue}
    (hnode : node ∈ nodes) (helement : element ∈ node.elements) :
    element ∈ Node.elementsOf nodes := by
  induction nodes with
  | nil => exact absurd hnode List.not_mem_nil
  | cons first rest ih =>
    rw [Node.elementsOf, List.mem_append]
    rcases List.mem_cons.mp hnode with rfl | hrest
    · exact Or.inl helement
    · exact Or.inr (ih hrest)

/-- The blocks of the form are part of the page. -/
theorem mem_tree_of_mem_fields {config : FormConfig} {field : Node}
    {element : String × Assoc String AttrValue} (hfield : field ∈ fields config)
    (helement : element ∈ field.elements) : element ∈ (tree config).elements := by
  have hfields := mem_elementsOf hfield helement
  simp [tree, treeWith, container, el, Node.elements, Node.elementsOf, hfields]

/-- An action that is handled and stands in a block of the form is in the index. -/
theorem mem_of_isIndexOf {config : FormConfig} {index : List (String × String)}
    (h : IsIndexOf index (tree config)) {field : Node} (hfield : field ∈ fields config)
    {element : String × Assoc String AttrValue} (helement : element ∈ field.elements)
    {action event : String} (haction : actionOf? element.2 = some action)
    (hevent : clientActions.get? action = some event) : (action, event) ∈ index := by
  have hlisted : action ∈ index.map Prod.fst := by
    rw [h.actions, List.mem_eraseDups]
    exact List.mem_filterMap.mpr ⟨element, mem_tree_of_mem_fields hfield helement, haction⟩
  obtain ⟨⟨_, event'⟩, hentry, rfl⟩ := List.mem_map.mp hlisted
  have hevent' := h.events _ hentry
  rw [hevent] at hevent'
  rwa [Option.some.inj hevent']

/-- The name and the button that sends the booking are there whatever the salon chose. -/
theorem mem_index {config : FormConfig} {index : List (String × String)}
    (h : IsIndexOf index (tree config)) :
    ("input-text", "input") ∈ index ∧ ("submit", "click") ∈ index := by
  have hname : nameField ∈ fields config := by simp [fields]
  have hsubmit : submitButton ∈ fields config := by simp [fields]
  -- The input stands behind its block, the label and the label's mark.
  exact ⟨mem_of_isIndexOf h hname (.tail _ (.tail _ (.tail _ (.head _)))) rfl rfl,
    mem_of_isIndexOf h hsubmit (.head _) rfl rfl⟩

/-- The fourth constant of a page's script is its index. -/
theorem declares_index {limits : Limits} {config : FormConfig} (h : config.WellFormed)
    {formId storeId html : String} {index : List (String × String)}
    (hhtml : (scriptedTree config formId storeId index).render limits = .ok html) :
    ∃ lines line, scriptLines? ("<!DOCTYPE html>\n" ++ html ++ "\n") = some lines ∧
      lines[6]? = some line ∧ Declares line ("ACTION_INDEX", indexJson index) := by
  obtain ⟨lines, hlines, hdeclares⟩ := scriptLines?_page h hhtml
  have hlength : 3 < ((lines.drop 3).take 5).length := by
    rw [hdeclares.length_eq]
    exact Nat.lt_of_sub_eq_succ rfl
  have hline : lines[6]? = some ((lines.drop 3).take 5)[3] := by
    rw [← List.getElem?_eq_getElem hlength, List.getElem?_take, List.getElem?_drop]
    rfl
  exact ⟨lines, _, hlines, hline, hdeclares.get hlength (Nat.lt_of_sub_eq_succ rfl)⟩

end Page

/-- What is no object is refused, a text that stands too deep inside itself is given up, and a form
is stopped at an integer that the machine does not convert in the place of a text.  From everything
else there is a page, with all ids: raw texts stand in its script and its stylesheet only, and the
script declares the index of its actions, among them those of the name and of the button that sends
the booking. -/
theorem every_object_has_page (limits : Limits) (source : Source) :
    ((∃ e, normalize limits source = .error e ∧ e.message?.isSome = true) ↔
      ¬ source.HoldsObject limits ∧ ¬ source.IsGivenUp limits) ∧
    (normalize limits source = .error .tooDeep ↔ source.IsGivenUp limits) ∧
    (normalize limits source = .error .integerTooLong ↔ source.HoldsTooLong limits) ∧
    (∀ form, StoredForm.ofSource limits source = .ok form → form.config.fits limits = true →
      form.record.fits limits = true → ¬ source.HoldsTooLong limits) ∧
    (source.HoldsObject limits → ¬ source.IsGivenUp limits → ¬ source.HoldsTooLong limits →
      ∀ formId storeId : String,
      ∃ config index html lines line, normalize limits source = .ok config ∧
        generate limits source formId storeId = .ok ("<!DOCTYPE html>\n" ++ html ++ "\n") ∧
        (Page.scriptedTree config formId storeId index).render limits = .ok html ∧
        (Page.scriptedTree config formId storeId index).keepsRaw = true ∧
        Page.IsIndexOf index (Page.tree config) ∧
        ("input-text", "input") ∈ index ∧ ("submit", "click") ∈ index ∧
        Page.scriptLines? ("<!DOCTYPE html>\n" ++ html ++ "\n") = some lines ∧
        lines[6]? = some line ∧ Page.Declares line ("ACTION_INDEX", Page.indexJson index)) := by
  refine ⟨refused_iff, normalize_eq_tooDeep_iff, normalize_eq_integerTooLong_iff,
    fun form => not_holdsTooLong, fun hobject hread hshort formId storeId => ?_⟩
  obtain ⟨config, hconfig⟩ := exists_normalize hobject hread hshort
  have hwell := wellFormed_of_normalize hconfig
  obtain ⟨index, html, hindex, hhtml, hpage⟩ := Page.exists_page hwell limits formId storeId
  obtain ⟨lines, line, hlines, hline, hdeclares⟩ := Page.declares_index hwell hhtml
  have hlists := Page.isIndexOf_actionIndex hindex
  have hgenerate := generate_eq_page hconfig formId storeId
  rw [hpage] at hgenerate
  exact ⟨config, index, html, lines, line, hconfig, hgenerate, hhtml,
    Page.keepsRaw_scriptedTree config formId storeId index, hlists, (Page.mem_index hlists).1,
    (Page.mem_index hlists).2, hlines, hline, hdeclares⟩

/-- A record whose configuration is a text that is no JSON, and whose name looks like markup. -/
def garbledRecord : Json :=
  .obj [("config", .str "oops"), ("form_name", .str "</title><script>")]

/-- A list is refused; a record with a text that is no JSON has a page. -/
theorem every_object_has_page_garbled :
    (∃ e, normalize .standard (.value (.arr [])) = .error e ∧ e.message?.isSome = true) ∧
      ∃ index html, generate .standard (.value garbledRecord) "f" "s" =
          .ok ("<!DOCTYPE html>\n" ++ html ++ "\n") ∧
        ("input-text", "input") ∈ index ∧ ("submit", "click") ∈ index ∧
        ∃ lines line, Page.scriptLines? ("<!DOCTYPE html>\n" ++ html ++ "\n") = some lines ∧
          lines[6]? = some line ∧ Page.Declares line ("ACTION_INDEX", Page.indexJson index) := by
  have hlist : ¬ Source.HoldsObject .standard (.value (.arr [])) := by
    rintro ⟨v, hheld, hobject⟩
    obtain rfl := Except.ok.inj hheld
    exact Bool.noConfusion hobject
  have hlistRead : ¬ Source.IsGivenUp .standard (.value (.arr [])) := by
    rintro (hheld | ⟨v, s, hheld, hobject, -⟩)
    · cases hheld
    · exact hlist ⟨v, hheld, hobject⟩
  have hoops : Json.read .standard "oops" = .error .malformed := rfl
  have hrecord : Source.HoldsObject .standard (.value garbledRecord) := ⟨_, rfl, rfl⟩
  have hrecordRead : ¬ Source.IsGivenUp .standard (.value garbledRecord) := by
    rintro (hheld | ⟨v, s, hheld, -, hinside, hread⟩)
    · cases hheld
    · obtain rfl := Except.ok.inj hheld
      obtain rfl : "oops" = s := Json.str.inj hinside
      rw [hoops] at hread
      cases hread
  obtain ⟨-, -, -, hshort, hpage⟩ := every_object_has_page .standard (.value garbledRecord)
  have hrecordShort := hshort ⟨garbledRecord, garbledRecord, .null⟩ rfl
    (Limits.allows_of_le (by decide)) (Limits.allows_of_le (by decide))
  obtain ⟨config, index, html, lines, line, -, hgenerate, -, -, -, hinput, hsubmit, hlines, hline,
    hdeclares⟩ := hpage hrecord hrecordRead hrecordShort "f" "s"
  exact ⟨(every_object_has_page .standard (.value (.arr []))).1.mpr ⟨hlist, hlistRead⟩, index, html,
    hgenerate, hinput, hsubmit, lines, line, hlines, hline, hdeclares⟩

/-- A text of nothing but opening brackets. -/
def deepText : String := String.ofList (List.replicate 100000 '[')

/-- Such a text is neither an object nor refused, and a record with it in the place of its
configuration is an object without a page. -/
theorem deep_text_has_none :
    ¬ Source.HoldsObject .standard (.value (.str deepText)) ∧
      normalize .standard (.value (.str deepText)) = .error .tooDeep ∧
      Source.HoldsObject .standard (.value (.obj [("config", .str deepText)])) ∧
      generate .standard (.value (.obj [("config", .str deepText)])) "f" "s" =
        .error (.config .tooDeep) := by
  have hread : Json.read .standard deepText = .error .tooDeep := Json.read_brackets (by decide)
  have hgivenUp : Source.IsGivenUp .standard (.value (.obj [("config", .str deepText)])) :=
    Or.inr ⟨_, deepText, rfl, rfl, rfl, hread⟩
  refine ⟨?_, normalize_eq_tooDeep_iff.mpr (Or.inl hread), ⟨_, rfl, rfl⟩, ?_⟩
  · rintro ⟨v, hheld, -⟩
    cases hread.symm.trans hheld
  · rw [generate, generateFor, normalize_eq_tooDeep_iff.mpr hgivenUp]

end SalonBooking
