import SalonBooking.Page.Document
import SalonBooking.Proofs.Data.Assoc
import SalonBooking.Proofs.Data.Limits
import SalonBooking.Proofs.Markup.RoundTrip

/-!
# The blocks of a page

The body of a page, its script apart, is made of blocks: trees without raw
texts, with names for names and no number past nine, in which every action is
one that the script handles.  Whatever a salon enters stands in texts and in
texts of attributes, so the blocks of every configuration are blocks
(`isBlock_container`).

`isBlock` is a test that looks at names, numbers and actions only.  For an
element without lists inside it computes, whatever the texts are.

* `isTidy_of_isBlock`: blocks are tidy and can therefore be read back.
* `handled_of_isBlock`: the actions of a block are handled.
* `attrsHaveTexts_of_isBlock`: every machine converts the numbers of a block.
-/

namespace SalonBooking.Page

/-- Whether a value is anything but a number past nine. -/
def isShortValue : AttrValue → Bool
  | .number n => n.natAbs < 10
  | _ => true

/-- Whether an attribute has a name for a name, a short value and, if it names an action, one that
is handled. -/
def isBlockAttr : String × AttrValue → Bool
  | (name, value) =>
    Markup.isName name && isShortValue value && (name != actionAttr ||
      match value with
      | .text action => clientActions.contains action
      | _ => false)

/-- Whether the tag of an element is one of a block. -/
def isBlockHead (tag : String) (attrs : List (String × AttrValue)) : Bool :=
  Markup.isName tag && !rawTextTags.contains tag && attrs.all isBlockAttr

mutual

/-- Whether a tree has no raw texts, names for names, short values, and no action that is not
handled. -/
def isBlock : Node → Bool
  | .text _ => true
  | .raw _ => false
  | .element tag attrs children => isBlockHead tag attrs && areBlocks children

/-- The same for all nodes of a list. -/
def areBlocks : List Node → Bool
  | [] => true
  | node :: rest => isBlock node && areBlocks rest

end

/-! ## What blocks are good for -/

/-- An element with the head of a block is tidy if its children are. -/
theorem isTidy_el {content : List Node → Prop} {tag : String} {attrs : List (String × AttrValue)}
    {children : List Node} (hhead : isBlockHead tag attrs = true)
    (hchildren : Node.AreTidy content children) : (el tag attrs children).IsTidy content := by
  rw [isBlockHead] at hhead
  simp only [Bool.and_eq_true, Bool.not_eq_true', List.all_eq_true] at hhead
  obtain ⟨⟨htag, hraw⟩, hattrs⟩ := hhead
  refine ⟨htag, fun (name, value) hattr => ?_, ?_⟩
  · have hname := hattrs (name, value) hattr
    unfold isBlockAttr at hname
    rw [Bool.and_eq_true, Bool.and_eq_true] at hname
    exact hname.1.1
  · have hnotRaw : ¬ rawTextTags.contains tag = true := by
      rw [hraw]
      exact Bool.false_ne_true
    rw [if_neg hnotRaw]
    split
    · trivial
    · exact hchildren

mutual

/-- Blocks are tidy, whatever is said of script and style elements. -/
theorem isTidy_of_isBlock (content : List Node → Prop) :
    ∀ node : Node, isBlock node = true → node.IsTidy content
  | .text _, _ => trivial
  | .raw _, h => Bool.noConfusion h
  | .element tag attrs children, h => by
    rw [isBlock, Bool.and_eq_true] at h
    exact isTidy_el h.1 (areTidy_of_areBlocks content children h.2)

theorem areTidy_of_areBlocks (content : List Node → Prop) :
    ∀ nodes : List Node, areBlocks nodes = true → Node.AreTidy content nodes
  | [], _ => trivial
  | node :: rest, h => by
    rw [areBlocks, Bool.and_eq_true] at h
    exact ⟨isTidy_of_isBlock content node h.1, areTidy_of_areBlocks content rest h.2⟩

end

mutual

/-- Every element of a block has the head of one. -/
theorem isBlockHead_of_mem : ∀ node : Node, isBlock node = true →
    ∀ element ∈ node.elements, isBlockHead element.1 element.2 = true
  | .text _, _, _, helement => absurd helement (by simp [Node.elements])
  | .raw _, h, _, _ => Bool.noConfusion h
  | .element tag attrs children, h, element, helement => by
    rw [isBlock, Bool.and_eq_true] at h
    rw [Node.elements, List.mem_cons] at helement
    rcases helement with rfl | hinside
    · exact h.1
    · exact isBlockHead_of_mem_elementsOf children h.2 element hinside

theorem isBlockHead_of_mem_elementsOf : ∀ nodes : List Node, areBlocks nodes = true →
    ∀ element ∈ Node.elementsOf nodes, isBlockHead element.1 element.2 = true
  | [], _, _, helement => absurd helement (by simp [Node.elementsOf])
  | node :: rest, h, element, helement => by
    rw [areBlocks, Bool.and_eq_true] at h
    rw [Node.elementsOf, List.mem_append] at helement
    rcases helement with hinside | hinside
    · exact isBlockHead_of_mem node h.1 element hinside
    · exact isBlockHead_of_mem_elementsOf rest h.2 element hinside

end

/-- What names an action of a block is a text, and the action is handled. -/
theorem handled_of_isBlock {node : Node} (h : isBlock node = true)
    {element : String × Assoc String AttrValue} (helement : element ∈ node.elements)
    {value : AttrValue} (hvalue : (actionAttr, value) ∈ element.2) :
    ∃ action, value = .text action ∧ clientActions.contains action = true := by
  have hhead := isBlockHead_of_mem node h element helement
  rw [isBlockHead, Bool.and_eq_true, List.all_eq_true] at hhead
  have hattr := hhead.2 _ hvalue
  simp only [isBlockAttr, bne_self_eq_false, Bool.false_or, Bool.and_eq_true] at hattr
  cases value with
  | text action => exact ⟨action, rfl, hattr.2⟩
  | _ => exact Bool.noConfusion hattr.2

theorem hasText_of_isShortValue (limits : Limits) {value : AttrValue}
    (h : isShortValue value = true) : value.hasText limits = true := by
  cases value with
  | number n =>
    have hpow : tenTo 1 ≤ tenTo leastMaxDigits := tenTo_le_tenTo (by decide)
    exact Limits.isSome_text?_of_lt (Nat.lt_of_lt_of_le (of_decide_eq_true h) hpow)
  | text | flag | absent => rfl

/-- Every machine converts the numbers of a block. -/
theorem attrsHaveTexts_of_isBlock (limits : Limits) {node : Node} (h : isBlock node = true)
    {element : String × Assoc String AttrValue} (helement : element ∈ node.elements) :
    attrsHaveTexts limits element.2 = true := by
  have hhead := isBlockHead_of_mem node h element helement
  rw [isBlockHead, Bool.and_eq_true, List.all_eq_true] at hhead
  refine List.all_eq_true.mpr fun (name, value) hattr => ?_
  have hshort := hhead.2 (name, value) hattr
  unfold isBlockAttr at hshort
  rw [Bool.and_eq_true, Bool.and_eq_true] at hshort
  exact hasText_of_isShortValue limits hshort.1.2

/-! ## Putting blocks together -/

theorem isBlock_el {tag : String} {attrs : List (String × AttrValue)} {children : List Node}
    (hhead : isBlockHead tag attrs = true) (hchildren : areBlocks children = true) :
    isBlock (el tag attrs children) = true := by
  rw [el, isBlock, hhead, hchildren]
  rfl

theorem areBlocks_cons {node : Node} {rest : List Node} (hnode : isBlock node = true)
    (hrest : areBlocks rest = true) : areBlocks (node :: rest) = true := by
  rw [areBlocks, hnode, hrest]
  rfl

theorem areBlocks_append {nodes others : List Node} (hnodes : areBlocks nodes = true)
    (hothers : areBlocks others = true) : areBlocks (nodes ++ others) = true := by
  induction nodes with
  | nil => exact hothers
  | cons node rest ih =>
    rw [areBlocks, Bool.and_eq_true] at hnodes
    exact areBlocks_cons hnodes.1 (ih hnodes.2)

theorem areBlocks_map_of_mem {α : Type} {f : α → Node} {as : List α}
    (h : ∀ a ∈ as, isBlock (f a) = true) : areBlocks (as.map f) = true := by
  induction as with
  | nil => rfl
  | cons a rest ih =>
    exact areBlocks_cons (h a List.mem_cons_self) (ih fun b hb => h b (List.mem_cons_of_mem a hb))

theorem areBlocks_map {α : Type} {f : α → Node} (h : ∀ a, isBlock (f a) = true) (as : List α) :
    areBlocks (as.map f) = true :=
  areBlocks_map_of_mem fun a _ => h a

theorem areBlocks_itemIf {node : Node} (h : isBlock node = true) (condition : Bool) :
    areBlocks (itemIf condition node) = true := by
  cases condition with
  | true => exact areBlocks_cons h rfl
  | false => rfl

/-! ## Fields -/

/-- An attribute that names no action only has to be short. -/
theorem isBlockAttr_of_short {name : String} {value : AttrValue}
    (hname : Markup.isName name = true) (haction : (name != actionAttr) = true)
    (hvalue : isShortValue value = true) : isBlockAttr (name, value) = true := by
  unfold isBlockAttr
  simp only [hname, haction, hvalue, Bool.true_or, Bool.and_self]

theorem isShortValue_attrUnlessEmpty (s : String) : isShortValue (attrUnlessEmpty s) = true := by
  rw [attrUnlessEmpty]
  split <;> rfl

theorem isBlock_label (text : String) (required : Bool) {forId : AttrValue}
    (h : isShortValue forId = true) : isBlock (label text required forId) = true := by
  refine isBlock_el ?_ (by cases required <;> rfl)
  simp only [isBlockHead, List.all_cons,
    isBlockAttr_of_short (show Markup.isName "for" = true from rfl) rfl h]
  rfl

theorem isBlock_choiceField {id title group : String} (block : ChoiceBlock) :
    isBlock (choiceField id title group block) = true :=
  isBlock_el rfl (areBlocks_cons (isBlock_label _ _ rfl) (areBlocks_cons
    (isBlock_el rfl (areBlocks_map (fun _ => rfl) block.options)) rfl))

theorem isBlock_writtenField {field : CustomField} {control : Node}
    (h : isBlock control = true) : isBlock (writtenField field control) = true :=
  isBlock_el rfl (areBlocks_cons (isBlock_label _ _ rfl) (areBlocks_cons h rfl))

theorem isBlock_chosenField {field : CustomField} {groupClass : String} {controls : List Node}
    (h : areBlocks controls = true) : isBlock (chosenField field groupClass controls) = true :=
  isBlock_el rfl (areBlocks_cons (isBlock_label _ _ rfl) (areBlocks_cons (isBlock_el rfl h) rfl))

theorem all_writtenAttrs (field : CustomField) : (writtenAttrs field).all isBlockAttr = true := by
  have hplaceholder :=
    isBlockAttr_of_short (show Markup.isName "placeholder" = true from rfl) rfl
      (isShortValue_attrUnlessEmpty field.placeholder)
  simp only [writtenAttrs, List.all_cons, hplaceholder]
  rfl

theorem isBlock_customField (field : CustomField) : isBlock (customField field) = true := by
  rw [customField]
  split
  · refine isBlock_writtenField (isBlock_el ?_ rfl)
    rw [isBlockHead, List.all_cons, all_writtenAttrs]
    rfl
  · refine isBlock_writtenField (isBlock_el ?_ rfl)
    rw [isBlockHead, List.all_append, all_writtenAttrs]
    rfl
  · exact isBlock_chosenField (areBlocks_map (fun _ => rfl) field.options)
  · exact isBlock_chosenField (areBlocks_map (fun _ => rfl) field.options)

theorem areBlocks_choiceFields (config : FormConfig) : areBlocks (choiceFields config) = true :=
  areBlocks_append
    (areBlocks_append (areBlocks_itemIf (isBlock_choiceField _) _)
      (areBlocks_itemIf (isBlock_choiceField _) _))
    (areBlocks_itemIf (isBlock_choiceField _) _)

/-! ## Menus -/

theorem areBlocks_descriptionNode (shown : Bool) (description : String) :
    areBlocks (descriptionNode shown description) = true :=
  areBlocks_itemIf rfl _

theorem isBlock_menuInfo (display : DisplayOptions) (menu : Menu) :
    isBlock (menuInfo display menu) = true := by
  cases menu with
  | leaf menu =>
    exact isBlock_el rfl (areBlocks_append (areBlocks_itemIf rfl _) (areBlocks_itemIf rfl _))
  | submenu menu => rfl

theorem isBlock_menuButton (display : DisplayOptions) (categoryId : String) (menu : Menu) :
    isBlock (menuButton display categoryId menu) = true := by
  have hcontent : isBlock (menuContent display menu) = true :=
    isBlock_el rfl (areBlocks_cons rfl (areBlocks_descriptionNode _ _))
  exact isBlock_el rfl (areBlocks_append (areBlocks_itemIf rfl _)
    (areBlocks_cons hcontent (areBlocks_cons (isBlock_menuInfo display menu) rfl)))

theorem isBlock_optionButton (display : DisplayOptions) (menuId : String) (o : MenuOption) :
    isBlock (optionButton display menuId o) = true := by
  have hname : isBlock (el "div" [("class", "option-name")]
      (.text o.name ::
        itemIf o.isDefault (el "span" [("class", "option-badge")] ["おすすめ"]))) = true :=
    isBlock_el rfl (areBlocks_cons rfl (areBlocks_itemIf rfl _))
  refine isBlock_el rfl (areBlocks_cons ?_ (areBlocks_cons ?_ rfl))
  · exact isBlock_el rfl (areBlocks_cons hname (areBlocks_descriptionNode _ _))
  · exact isBlock_el rfl (areBlocks_append (areBlocks_itemIf rfl _) (areBlocks_itemIf rfl _))

theorem isBlock_itemButton (display : DisplayOptions) (menuId : String) (item : SubmenuItem) :
    isBlock (itemButton display menuId item) = true := by
  refine isBlock_el rfl (areBlocks_cons ?_ (areBlocks_cons ?_ rfl))
  · exact isBlock_el rfl (areBlocks_cons rfl (areBlocks_descriptionNode _ _))
  · exact isBlock_el rfl (areBlocks_append (areBlocks_itemIf rfl _) (areBlocks_itemIf rfl _))

theorem areBlocks_menuPanel (display : DisplayOptions) (menu : Menu) :
    areBlocks (menuPanel display menu) = true := by
  cases menu with
  | leaf menu =>
    exact areBlocks_itemIf (isBlock_el rfl (areBlocks_cons rfl
      (areBlocks_map (isBlock_optionButton display menu.id) _))) _
  | submenu menu =>
    exact areBlocks_cons (isBlock_el rfl (areBlocks_cons rfl
      (areBlocks_map (isBlock_itemButton display menu.id) _))) rfl

theorem isBlock_menuEntry (display : DisplayOptions) (categoryId : String) (menu : Menu) :
    isBlock (menuEntry display categoryId menu) = true :=
  isBlock_el rfl (areBlocks_cons (isBlock_menuButton display categoryId menu)
    (areBlocks_menuPanel display menu))

theorem isBlock_categoryBlock (display : DisplayOptions) (category : Category) :
    isBlock (categoryBlock display category) = true :=
  isBlock_el rfl (areBlocks_append (areBlocks_itemIf rfl _) (areBlocks_cons
    (isBlock_el rfl (areBlocks_map (isBlock_menuEntry display category.id) _)) rfl))

theorem areBlocks_menuField (catalogue : Catalogue) : areBlocks (menuField catalogue) = true :=
  areBlocks_itemIf (isBlock_el rfl (areBlocks_cons (isBlock_label _ _ rfl)
    (areBlocks_map (isBlock_categoryBlock catalogue.display) _))) _

/-! ## Dates -/

theorem isBlockHead_pickerSelect {i : Nat} (hi : i < 10) (part title : String) :
    isBlockHead "select" [("id", "date" ++ toString i ++ "_" ++ part), ("class", "datetime-input"),
      ("aria-label", title), ("data-action", "pick-datetime"), ("data-picker", .number i)] =
      true := by
  have hshort : isBlockAttr ("data-picker", .number i) = true := by
    simp only [isBlockAttr, isShortValue, Int.natAbs_natCast, decide_eq_true hi]
    rfl
  simp only [isBlockHead, List.all_cons, hshort]
  rfl

theorem isBlock_picker (times : List String) {i : Nat} (hi : i < 10) (title : String) :
    isBlock (picker times i title) = true := by
  have htimes : areBlocks (pickerOption "" "時間を選択" :: times.map fun t => pickerOption t t) =
      true :=
    areBlocks_cons rfl (areBlocks_map (fun _ => rfl) times)
  have hselects : areBlocks [pickerSelect i "day" "日付を選択" [pickerOption "" "日付を選択"],
      pickerSelect i "time" "時間を選択"
        (pickerOption "" "時間を選択" :: times.map fun t => pickerOption t t)] = true :=
    areBlocks_cons (isBlock_el (isBlockHead_pickerSelect hi _ _) rfl)
      (areBlocks_cons (isBlock_el (isBlockHead_pickerSelect hi _ _) htimes) rfl)
  refine isBlock_el rfl (areBlocks_cons (isBlock_label _ _ rfl) (areBlocks_cons ?_ rfl))
  exact isBlock_el rfl (areBlocks_cons rfl (areBlocks_cons (isBlock_el rfl hselects) rfl))

theorem areBlocks_dateFields (config : FormConfig) : areBlocks (dateFields config) = true := by
  rw [dateFields]
  split
  · refine areBlocks_map_of_mem fun (i, title) hentry => isBlock_picker _ ?_ _
    have hall : ∀ entry ∈ pickerTitles, entry.1 < 10 := by decide
    exact hall _ hentry
  · rfl

/-! ## The form -/

theorem isBlock_header (info : BasicInfo) : isBlock (header info) = true :=
  isBlock_el rfl (areBlocks_append (areBlocks_itemIf rfl _) rfl)

theorem areBlocks_fields (config : FormConfig) : areBlocks (fields config) = true := by
  refine areBlocks_append (areBlocks_append (areBlocks_append (areBlocks_append (areBlocks_append
    (areBlocks_append (areBlocks_itemIf rfl _) rfl) ?_) ?_) ?_) ?_) rfl
  · exact areBlocks_choiceFields config
  · exact areBlocks_map isBlock_customField config.customFields
  · exact areBlocks_menuField config.catalogue
  · exact areBlocks_dateFields config

/-- The whole form is a block, whatever the salon has entered. -/
theorem isBlock_container (config : FormConfig) : isBlock (container config) = true :=
  isBlock_el rfl (areBlocks_cons (isBlock_header config.basicInfo) (areBlocks_cons
    (isBlock_el rfl (areBlocks_cons rfl (areBlocks_fields config))) rfl))

end SalonBooking.Page
