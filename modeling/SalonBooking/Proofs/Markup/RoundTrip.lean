import SalonBooking.Proofs.Markup.MisplacedRaw
import SalonBooking.Proofs.Markup.Reader

/-!
# Rendered trees are read back

Rendering loses little of a tree: how an absent attribute was left out, how a
text was cut into pieces, what was put inside a void element.  `Node.normal` is
what is left, and for a tidy tree the reader gets exactly that back from the
rendered text.  So no text of a tree, and no value of an attribute, can pass
for markup.

Tidy trees have names for names and raw texts only inside script and style
elements.  The pieces of such a content are rendered one after the other, and
it is the whole that must not hold `</`: two harmless pieces may form an end
mark between them.  With the weaker condition on single pieces
(`PiecesWithoutEnd`) rendering cannot be undone by any reader, as
`not_readable_of_pieces` shows.

* `exists_render`: tidy trees are rendered if the machine converts the numbers of their
  attributes.
* `readNodes_render`: the nodes of an element are read back, by recursion over
  them with any text behind that ends the element.
* `parse?_render`: so is a whole tree.
-/

namespace SalonBooking

/-! ## Normal form -/

/-- The value of an attribute as it is read, if it is written at all. -/
def AttrValue.normal? : AttrValue → Option AttrValue
  | .text s => some (.text s)
  | .number n => some (.text (toString n))
  | .flag true => some (.flag true)
  | .flag false => none
  | .absent => none

namespace Markup

/-- The attributes that are written, as they are read. -/
def normalAttrs (attrs : List (String × AttrValue)) : List (String × AttrValue) :=
  attrs.filterMap fun (name, value) => value.normal?.map (name, ·)

/-- Nodes with one more in front: an empty text is left out, and texts of one kind are joined. -/
def addNode : Node → List Node → List Node
  | .text s, .text t :: rest => .text (s ++ t) :: rest
  | .raw s, .raw t :: rest => .raw (s ++ t) :: rest
  | .text s, rest => itemIf (!s.isEmpty) (.text s) ++ rest
  | .raw s, rest => itemIf (!s.isEmpty) (.raw s) ++ rest
  | node, rest => node :: rest

end Markup

mutual

/-- A tree as it is read. -/
def Node.normal : Node → Node
  | .text s => .text s
  | .raw s => .raw s
  | .element tag attrs children =>
    .element tag (Markup.normalAttrs attrs)
      (if voidTags.contains tag then [] else Node.normalNodes children)

/-- Nodes as they are read. -/
def Node.normalNodes : List Node → List Node
  | [] => []
  | node :: rest => Markup.addNode node.normal (Node.normalNodes rest)

end

/-! ## Tidy trees -/

namespace Markup

/-- Raw texts that together hold no end mark. -/
def RawWithoutEnd (children : List Node) : Prop :=
  ∃ pieces : List String, children = pieces.map Node.raw ∧
    ¬ endMark <:+: (String.join pieces).toList

/-- Raw texts of which none holds an end mark. -/
def PiecesWithoutEnd (children : List Node) : Prop :=
  ∃ pieces : List String, children = pieces.map Node.raw ∧
    ∀ s ∈ pieces, ¬ endMark <:+: s.toList

end Markup

mutual

/-- A tree with names for names and raw texts only inside script and style elements; `content`
says which contents these may have. -/
def Node.IsTidy (content : List Node → Prop) : Node → Prop
  | .text _ => True
  | .raw _ => False
  | .element tag attrs children =>
    Markup.isName tag = true ∧ (∀ attr ∈ attrs, Markup.isName attr.1 = true) ∧
      if voidTags.contains tag then True
      else if rawTextTags.contains tag then content children
      else Node.AreTidy content children

/-- The same for all nodes of a list. -/
def Node.AreTidy (content : List Node → Prop) : List Node → Prop
  | [] => True
  | node :: rest => node.IsTidy content ∧ Node.AreTidy content rest

end

namespace Markup

/-! ## Attributes -/

/-- The characters of some attributes as they are written. -/
def attrChars (attrs : List (String × AttrValue)) : List Char :=
  attrs.flatMap fun attr => (renderAttr attr.1 attr.2).toList

theorem toList_openTag (tag : String) (attrs : List (String × AttrValue)) :
    (openTag tag attrs).toList = '<' :: tag.toList ++ attrChars attrs ++ ['>'] := by
  rw [openTag, String.toList_append, String.toList_append, String.toList_append,
    String.toList_join, List.flatMap_map]
  rfl

theorem toList_closeTag (tag : String) :
    (closeTag tag).toList = endMark ++ (tag.toList ++ ['>']) := by
  rw [closeTag, String.toList_append, String.toList_append, List.append_assoc]
  rfl

theorem attrChars_cons (name : String) (value : AttrValue) (attrs : List (String × AttrValue)) :
    attrChars ((name, value) :: attrs) = (renderAttr name value).toList ++ attrChars attrs :=
  List.flatMap_cons

/-- An attribute with a value as it is written. -/
theorem toList_renderAttr_text (name s : String) :
    (renderAttr name (.text s)).toList =
      ' ' :: (name.toList ++ '=' :: '"' :: (s.toList.flatMap escapeAttrChar ++ ['"'])) := by
  simp only [renderAttr, escapeAttr, String.toList_append, String.toList_ofList,
    List.append_assoc]
  rfl

/-- An attribute that is its name alone, as it is written. -/
theorem toList_renderAttr_flag (name : String) :
    (renderAttr name (.flag true)).toList = ' ' :: name.toList := by
  rw [renderAttr, String.toList_append]
  rfl

/-- After a name comes a blank or the end of the tag. -/
theorem exists_attrChars_eq_cons (attrs : List (String × AttrValue)) (rest : List Char) :
    ∃ c more, attrChars attrs ++ '>' :: rest = c :: more ∧ (c = ' ' ∨ c = '>') := by
  induction attrs with
  | nil => exact ⟨'>', rest, rfl, Or.inr rfl⟩
  | cons attr attrs ih =>
    obtain ⟨name, value⟩ := attr
    rw [attrChars_cons]
    cases value with
    | text s =>
      rw [toList_renderAttr_text]
      exact ⟨' ', _, rfl, Or.inl rfl⟩
    | number n =>
      have hnumber : renderAttr name (.number n) = renderAttr name (.text (toString n)) := rfl
      rw [hnumber, toList_renderAttr_text]
      exact ⟨' ', _, rfl, Or.inl rfl⟩
    | flag on =>
      cases on with
      | true =>
        rw [toList_renderAttr_flag]
        exact ⟨' ', _, rfl, Or.inl rfl⟩
      | false => exact ih
    | absent => exact ih

theorem isNameChar_blank_or_end {c : Char} (h : c = ' ' ∨ c = '>') :
    isNameChar c = false ∧ c ≠ '=' := by
  rcases h with rfl | rfl
  · decide
  · decide

/-- One attribute with a value is read off the front. -/
theorem readAttrs_text {name : String} (hname : isName name = true) (s : String) (fuel : Nat)
    (rest : List Char) :
    readAttrs (fuel + 1) ((renderAttr name (.text s)).toList ++ rest) =
      (readAttrs fuel rest).map fun (attrs, rest) => ((name, .text s) :: attrs, rest) := by
  have hend : isNameChar '=' = false := by decide
  rw [toList_renderAttr_text, List.cons_append, List.append_assoc, List.cons_append,
    List.cons_append, List.append_assoc, List.singleton_append, readAttrs]
  simp only [readName_append hname hend, readAttrText_append]

/-- An attribute without a value is read off the front, if its name ends there. -/
theorem readAttrs_flag {name : String} (hname : isName name = true) (fuel : Nat) {c : Char}
    (hc : c = ' ' ∨ c = '>') (rest : List Char) :
    readAttrs (fuel + 1) ((renderAttr name (.flag true)).toList ++ c :: rest) =
      (readAttrs fuel (c :: rest)).map
        fun (attrs, rest) => ((name, .flag true) :: attrs, rest) := by
  obtain ⟨hend, hequals⟩ := isNameChar_blank_or_end hc
  rw [toList_renderAttr_flag, List.cons_append, readAttrs]
  simp only [readName_append hname hend]
  split
  · rename_i heq
    exact absurd (List.cons.inj heq).1 hequals
  · rfl

/-- The attributes of a tag are read back. -/
theorem readAttrs_render {attrs : List (String × AttrValue)}
    (h : ∀ attr ∈ attrs, isName attr.1 = true) {fuel : Nat}
    (hfuel : (attrChars attrs).length < fuel) (rest : List Char) :
    readAttrs fuel (attrChars attrs ++ '>' :: rest) = some (normalAttrs attrs, rest) := by
  induction attrs generalizing fuel with
  | nil =>
    obtain ⟨fuel, rfl⟩ : ∃ k, fuel = k + 1 := ⟨fuel - 1, by omega⟩
    rfl
  | cons attr attrs ih =>
    obtain ⟨name, value⟩ := attr
    have hname := h (name, value) List.mem_cons_self
    have hrest (k : Nat) (hk : (attrChars attrs).length < k) :=
      ih (fun other hother => h other (List.mem_cons_of_mem _ hother)) hk
    rw [attrChars_cons, List.length_append] at hfuel
    -- A written attribute starts with a blank, which pays for the step that reads it.
    have hstep {more : List Char} (hwritten : (renderAttr name value).toList = ' ' :: more) :
        ∃ k, fuel = k + 1 ∧ (attrChars attrs).length < k := by
      rw [hwritten, List.length_cons] at hfuel
      exact ⟨fuel - 1, by omega, by omega⟩
    have hvalue (s : String) (hwritten : renderAttr name value = renderAttr name (.text s)) :
        readAttrs fuel (attrChars ((name, value) :: attrs) ++ '>' :: rest) =
          some ((name, .text s) :: normalAttrs attrs, rest) := by
      obtain ⟨k, rfl, hk⟩ := hstep (hwritten ▸ toList_renderAttr_text name s)
      rw [attrChars_cons, hwritten, List.append_assoc, readAttrs_text hname, hrest k hk]
      rfl
    have hnone (hwritten : renderAttr name value = "") :
        readAttrs fuel (attrChars ((name, value) :: attrs) ++ '>' :: rest) =
          some (normalAttrs attrs, rest) := by
      rw [attrChars_cons, hwritten]
      exact hrest fuel (by omega)
    cases value with
    | text s => exact hvalue s rfl
    | number n => exact hvalue (toString n) rfl
    | flag on =>
      cases on with
      | true =>
        obtain ⟨k, rfl, hk⟩ := hstep (toList_renderAttr_flag name)
        obtain ⟨c, more, hmore, hc⟩ := exists_attrChars_eq_cons attrs rest
        have hread := hrest k hk
        rw [attrChars_cons, List.append_assoc]
        rw [hmore] at hread ⊢
        rw [readAttrs_flag hname k hc, hread]
        rfl
      | false => exact hnone rfl
    | absent => exact hnone rfl

/-! ## Nodes -/

/-- A text in which the content of an element is over: the end of all, or of the element. -/
def EndsContent (rest : List Char) : Prop :=
  rest = [] ∨ ∃ more, rest = '<' :: '/' :: more

theorem endsContent_closeTag (tag : String) (rest : List Char) :
    EndsContent ((closeTag tag).toList ++ rest) := by
  rw [toList_closeTag]
  exact Or.inr ⟨_, rfl⟩

/-- Where the content is over no node is read. -/
theorem readNodes_of_endsContent {rest : List Char} (h : EndsContent rest) (fuel : Nat) :
    readNodes (fuel + 1) rest = some ([], rest) := by
  rcases h with rfl | ⟨more, rfl⟩
  · rfl
  · rfl

/-- A text is read up to the next `<`. -/
theorem readNodes_shown (fuel : Nat) {c : Char} (hc : c ≠ '<') (rest : List Char) :
    readNodes (fuel + 1) (c :: rest) =
      (readNodes fuel ((c :: rest).dropWhile (· != '<'))).map fun (nodes, rest') =>
        (.text (String.ofList (unescape ((c :: rest).takeWhile (· != '<')))) :: nodes, rest') := by
  rw [readNodes]
  · exact List.cons_ne_nil c rest
  · intro more hmore
    exact hc (List.cons.inj hmore).1
  · intro more hmore
    exact hc (List.cons.inj hmore).1

theorem exists_name_eq_cons {name : String} (h : isName name = true) :
    ∃ c rest, name.toList = c :: rest ∧ isNameChar c = true := by
  rw [isName, Bool.and_eq_true, Bool.not_eq_true', List.all_eq_true] at h
  cases hname : name.toList with
  | nil =>
    rw [String.toList_eq_nil_iff] at hname
    rw [hname] at h
    exact absurd h.1 (by decide)
  | cons c rest => exact ⟨c, rest, rfl, h.2 c (hname ▸ List.mem_cons_self)⟩

/-- An element is read off the front together with its content. -/
theorem readNodes_element {tag : String} (htag : isName tag = true)
    {attrs : List (String × AttrValue)} (hattrs : ∀ attr ∈ attrs, isName attr.1 = true)
    (fuel : Nat) (rest : List Char) :
    readNodes (fuel + 1) ((openTag tag attrs).toList ++ rest) =
      (if voidTags.contains tag then some ([], rest)
        else if rawTextTags.contains tag then
          readEnd tag (some (rawNodes (String.ofList (Text.splitAtFirst endMark rest).1),
            (Text.splitAtFirst endMark rest).2))
        else readEnd tag (readNodes fuel rest)).bind fun (children, rest) =>
          (readNodes fuel rest).map fun (nodes, rest) =>
            (.element tag (normalAttrs attrs) children :: nodes, rest) := by
  obtain ⟨c, more, hmore, hc⟩ := exists_attrChars_eq_cons attrs rest
  have hname : readName (tag.toList ++ (attrChars attrs ++ '>' :: rest)) =
      (tag, attrChars attrs ++ '>' :: rest) := by
    rw [hmore]
    exact readName_append htag (isNameChar_blank_or_end hc).1 more
  have hread : readAttrs ((attrChars attrs ++ '>' :: rest).length + 1)
      (attrChars attrs ++ '>' :: rest) = some (normalAttrs attrs, rest) := by
    refine readAttrs_render hattrs ?_ rest
    rw [List.length_append]
    omega
  have htext : (openTag tag attrs).toList ++ rest =
      '<' :: (tag.toList ++ (attrChars attrs ++ '>' :: rest)) := by
    rw [toList_openTag]
    simp only [List.cons_append, List.append_assoc, List.nil_append]
  rw [htext, readNodes]
  · simp only [hname, hread]
  · intro other hother
    obtain ⟨d, name, htagChars, hd⟩ := exists_name_eq_cons htag
    rw [htagChars] at hother
    rw [(List.cons.inj hother).1] at hd
    exact absurd hd (by decide)

/-! ## Joining texts -/

theorem addNode_text_empty (nodes : List Node) : addNode (.text "") nodes = nodes := by
  cases nodes with
  | nil => rfl
  | cons node rest =>
    cases node with
    | text t => rw [addNode, String.empty_append]
    | raw => rfl
    | element => rfl

/-- Where a tag starts no text is read: there is an element, or the end of one. -/
theorem eq_element_of_readNodes {fuel : Nat} {text rest : List Char} {nodes : List Node}
    (h : readNodes (fuel + 1) ('<' :: text) = some (nodes, rest)) :
    nodes = [] ∨ ∃ tag attrs children others, nodes = .element tag attrs children :: others := by
  by_cases hend : ∃ more, text = '/' :: more
  · obtain ⟨more, rfl⟩ := hend
    left
    have hread := readNodes_of_endsContent (Or.inr ⟨more, rfl⟩) fuel
    rw [h] at hread
    exact (Prod.mk.inj (Option.some.inj hread)).1
  · right
    rw [readNodes] at h
    · simp only at h
      split at h
      · exact absurd h (by simp)
      · obtain ⟨⟨children, inside⟩, -, h⟩ := Option.bind_eq_some_iff.mp h
        obtain ⟨⟨others, rest'⟩, -, hpair⟩ := Option.map_eq_some_iff.mp h
        exact ⟨_, _, children, others, (Prod.mk.inj hpair).1.symm⟩
    · exact fun more hmore => hend ⟨more, hmore⟩

/-- What is read where a tag starts, or where all is over, does not start with a text. -/
theorem addNode_text_of_tag {fuel : Nat} {text rest : List Char} {nodes : List Node}
    (h : readNodes (fuel + 1) text = some (nodes, rest)) (hstart : ∀ c ∈ text.head?, c = '<')
    {s : String} (hs : s ≠ "") : addNode (.text s) nodes = .text s :: nodes := by
  have hshown : itemIf (!s.isEmpty) (Node.text s) = [.text s] := by
    have hsome : s.isEmpty = false := by simpa using hs
    rw [hsome]
    rfl
  have hkind : nodes = [] ∨ ∃ tag attrs children others,
      nodes = .element tag attrs children :: others := by
    cases text with
    | nil =>
      have hnone : some (([] : List Node), ([] : List Char)) = some (nodes, rest) := h
      exact Or.inl (Prod.mk.inj (Option.some.inj hnone)).1.symm
    | cons c text =>
      obtain rfl : c = '<' := hstart c rfl
      exact eq_element_of_readNodes h
  rcases hkind with rfl | ⟨tag, attrs, children, others, rfl⟩
  · rw [addNode, hshown]
    · rfl
    · simp
  · rw [addNode, hshown]
    · rfl
    · simp

/-- A text that is not empty is written with some characters. -/
theorem exists_escapeText_eq_cons {s : String} (hs : s ≠ "") :
    ∃ d more, s.toList.flatMap escapeTextChar = d :: more := by
  refine List.exists_cons_of_ne_nil fun hnil => hs ?_
  have hback := unescape_text s.toList []
  rw [hnil] at hback
  rw [← String.toList_eq_nil_iff]
  simpa [unescape] using hback

/-- A text in front of what is read is read with it.  It takes one step, and none where another
text follows. -/
theorem readNodes_text {fuel : Nat} {text rest : List Char} {nodes : List Node} {s : String}
    (hs : s ≠ "") (h : readNodes fuel text = some (nodes, rest))
    (h' : readNodes (fuel + 1) text = some (nodes, rest)) :
    readNodes (fuel + 1) ((escapeText s).toList ++ text) =
      some (addNode (.text s) nodes, rest) := by
  have hshown : ∀ c ∈ s.toList.flatMap escapeTextChar, (c != '<') = true :=
    fun c hc => bne_iff_ne.mpr (ne_angle_of_mem_text hc)
  obtain ⟨d, more, hd⟩ := exists_escapeText_eq_cons hs
  have hdne : d ≠ '<' := bne_iff_ne.mp (hshown d (hd ▸ List.mem_cons_self))
  rw [escapeText, String.toList_ofList, hd, List.cons_append, readNodes_shown fuel hdne,
    ← List.cons_append, ← hd, List.takeWhile_append_of_pos hshown,
    List.dropWhile_append_of_pos hshown, unescape_text]
  by_cases htag : ∀ c ∈ text.head?, c = '<'
  · have hsplit : text.takeWhile (· != '<') = [] ∧ text.dropWhile (· != '<') = text := by
      cases text with
      | nil => exact ⟨rfl, rfl⟩
      | cons c text =>
        obtain rfl : c = '<' := htag c rfl
        exact ⟨rfl, rfl⟩
    rw [hsplit.1, hsplit.2, h, unescape, List.append_nil, String.ofList_toList,
      addNode_text_of_tag h' htag hs]
    rfl
  · obtain ⟨c, text, rfl, hc⟩ : ∃ c text', text = c :: text' ∧ c ≠ '<' := by
      cases text with
      | nil => exact absurd (by simp) htag
      | cons c text => exact ⟨c, text, rfl, fun he => htag (by simp [he])⟩
    rw [readNodes_shown fuel hc] at h'
    obtain ⟨⟨others, rest'⟩, hothers, hpair⟩ := Option.map_eq_some_iff.mp h'
    obtain ⟨rfl, rfl⟩ := Prod.mk.inj hpair
    rw [hothers, String.ofList_append, String.ofList_toList]
    rfl

/-! ## Rendering -/

variable {limits : Limits}

/-- Some nodes are rendered one after the other. -/
theorem renderChildren_cons {tag : String} {node : Node} {rest : List Node} {html : String}
    (h : Node.renderChildren limits tag (node :: rest) = .ok html) :
    ∃ first others, node.render limits = .ok first ∧
      Node.renderChildren limits tag rest = .ok others ∧
      html = first ++ others := by
  rw [Node.renderChildren] at h
  split at h
  · exact absurd h (by simp)
  · split at h
    · rename_i first hfirst
      split at h
      · rename_i others hothers
        exact ⟨first, others, hfirst, hothers, (Except.ok.inj h).symm⟩
      · exact absurd h (by simp)
    · exact absurd h (by simp)

/-- An element is its tag, and unless it is void its content and its closing tag. -/
theorem render_element {tag : String} {attrs : List (String × AttrValue)} {children : List Node}
    {html : String} (h : (Node.element tag attrs children).render limits = .ok html) :
    (voidTags.contains tag = true ∧ html = openTag tag attrs) ∨
      (voidTags.contains tag = false ∧ ∃ body, Node.renderChildren limits tag children = .ok body ∧
        html = openTag tag attrs ++ body ++ closeTag tag) := by
  rw [Node.render] at h
  split at h
  · exact absurd h (by simp)
  split at h
  · rename_i hvoid
    exact Or.inl ⟨hvoid, (Except.ok.inj h).symm⟩
  · rename_i hvoid
    right
    refine ⟨by simpa using hvoid, ?_⟩
    split at h
    · rename_i body hbody
      exact ⟨body, hbody, (Except.ok.inj h).symm⟩
    · exact absurd h (by simp)

/-- An element that is not void has a content. -/
theorem render_element_of_not_void {tag : String} (htag : voidTags.contains tag = false)
    {attrs : List (String × AttrValue)} {children : List Node} {html : String}
    (h : (Node.element tag attrs children).render limits = .ok html) :
    ∃ body, Node.renderChildren limits tag children = .ok body ∧
      html = openTag tag attrs ++ body ++ closeTag tag := by
  rcases render_element h with ⟨hvoid, -⟩ | ⟨-, hbody⟩
  · rw [htag] at hvoid
    exact Bool.noConfusion hvoid
  · exact hbody

/-- Raw texts are rendered as they are. -/
theorem renderChildren_raw {tag : String} (htag : rawTextTags.contains tag = true)
    (pieces : List String) :
    Node.renderChildren limits tag (pieces.map Node.raw) = .ok (String.join pieces) := by
  induction pieces with
  | nil => rfl
  | cons s rest ih =>
    rw [List.map_cons, Node.renderChildren, ih, htag, String.join_cons]
    rfl

theorem normalNodes_raw (pieces : List String) :
    Node.normalNodes (pieces.map Node.raw) = rawNodes (String.join pieces) := by
  induction pieces with
  | nil => rfl
  | cons s rest ih =>
    rw [List.map_cons, Node.normalNodes, ih, String.join_cons, Node.normal, rawNodes, rawNodes]
    by_cases hrest : String.join rest = ""
    · have hnone : itemIf (!"".isEmpty) (Node.raw "") = [] := rfl
      rw [hrest, String.append_empty, hnone, addNode, List.append_nil]
      simp
    · have hsome : (String.join rest).isEmpty = false := by simpa using hrest
      have hboth : (s ++ String.join rest).isEmpty = false := by simp [hrest]
      rw [hsome, hboth]
      rfl

variable {content : List Node → Prop}

theorem isTidy_of_mem {nodes : List Node} (h : Node.AreTidy content nodes) {node : Node}
    (hnode : node ∈ nodes) : node.IsTidy content := by
  induction nodes with
  | nil => exact absurd hnode List.not_mem_nil
  | cons first rest ih =>
    rcases List.mem_cons.mp hnode with rfl | hrest
    · exact h.1
    · exact ih h.2 hrest

/-- In a tidy tree no raw text is misplaced, whatever its script and style elements hold besides raw
texts. -/
theorem not_isMisplaced_of_isTidy
    (hcontent : ∀ children, content children → ∃ pieces : List String, children = pieces.map .raw)
    {node : Node} (hnode : node.IsTidy content) {place : List Nat} {found : String} :
    ¬ node.IsMisplaced place found := by
  intro h
  induction place generalizing node with
  | nil =>
    obtain ⟨above, position, -, -, -, hplace, -⟩ := h.raw
    cases above <;> cases hplace
  | cons position place ih =>
    cases node with
    | text s => exact Node.not_isMisplaced rfl _ _ h
    | raw s => exact hnode
    | element tag attrs children =>
      obtain ⟨hvoid, child, hchild, hinside⟩ := Node.isMisplaced_cons_iff.mp h
      have hmem : child ∈ children := List.mem_of_getElem? hchild
      obtain ⟨-, -, hchildren⟩ := hnode
      rw [if_neg fun h => hvoid (List.contains_iff_mem.mp h)] at hchildren
      by_cases hraw : rawTextTags.contains tag = true
      · rw [if_pos hraw] at hchildren
        obtain ⟨pieces, rfl⟩ := hcontent children hchildren
        obtain ⟨s, -, rfl⟩ := List.mem_map.mp hmem
        rcases hinside with ⟨-, -, htag, -⟩ | hinside
        · exact htag (List.contains_iff_mem.mp hraw)
        · exact Node.not_isMisplaced rfl _ _ hinside
      · rw [if_neg hraw] at hchildren
        have htidy := isTidy_of_mem hchildren hmem
        rcases hinside with ⟨-, hisRaw, -, -⟩ | hinside
        · obtain ⟨s, rfl⟩ := Node.isRaw_iff.mp hisRaw
          exact htidy
        · exact ih htidy hinside

/-- A tidy tree is rendered unless a number in it is too long. -/
theorem exists_render
    (hcontent : ∀ children, content children → ∃ pieces : List String, children = pieces.map .raw)
    {node : Node} (hnode : node.IsTidy content)
    (hnumbers : ∀ place, ¬ node.IsOverlong limits place) :
    ∃ html, node.render limits = .ok html := by
  cases hrender : node.render limits with
  | ok html => exact ⟨html, rfl⟩
  | error e =>
    have houtcome := node.render_outcome limits
    rw [hrender] at houtcome
    obtain ⟨place, hfirst⟩ := houtcome
    obtain ⟨tag, -, hraw⟩ := hfirst.misplaced hnumbers
    exact absurd hraw.holds (not_isMisplaced_of_isTidy hcontent hnode)

/-! ## Elements -/

section

variable {tag : String} {attrs : List (String × AttrValue)} {fuel : Nat} {rest after : List Char}
  {nodes : List Node}

/-- A void element is over with its tag. -/
theorem readNodes_void (htag : isName tag = true) (hattrs : ∀ attr ∈ attrs, isName attr.1 = true)
    (hvoid : voidTags.contains tag = true) (hrest : readNodes fuel rest = some (nodes, after)) :
    readNodes (fuel + 1) ((openTag tag attrs).toList ++ rest) =
      some (.element tag (normalAttrs attrs) [] :: nodes, after) := by
  rw [readNodes_element htag hattrs, if_pos hvoid]
  simp only [Option.bind_some, hrest]
  rfl

/-- The content of a script or style element goes up to its end mark. -/
theorem readNodes_raw (htag : isName tag = true) (hattrs : ∀ attr ∈ attrs, isName attr.1 = true)
    (hvoid : ¬ voidTags.contains tag = true) (hraw : rawTextTags.contains tag = true)
    {body : String} (hbody : ¬ endMark <:+: body.toList)
    (hrest : readNodes fuel rest = some (nodes, after)) :
    readNodes (fuel + 1) ((openTag tag attrs ++ body ++ closeTag tag).toList ++ rest) =
      some (.element tag (normalAttrs attrs) (rawNodes body) :: nodes, after) := by
  have hclose : (closeTag tag).toList ++ rest = endMark ++ (tag.toList ++ ['>'] ++ rest) := by
    rw [toList_closeTag, List.append_assoc]
  rw [String.toList_append, String.toList_append, List.append_assoc, List.append_assoc,
    readNodes_element htag hattrs, if_neg hvoid, if_pos hraw, hclose,
    rawBody_append hbody, ← hclose, readEnd_append]
  simp only [Option.bind_some, hrest, String.ofList_toList]
  rfl

/-- The content of any other element goes up to its closing tag. -/
theorem readNodes_content (htag : isName tag = true)
    (hattrs : ∀ attr ∈ attrs, isName attr.1 = true) (hvoid : ¬ voidTags.contains tag = true)
    (hraw : ¬ rawTextTags.contains tag = true) {body : String} {children : List Node}
    (hbody : readNodes fuel (body.toList ++ ((closeTag tag).toList ++ rest)) =
      some (children, (closeTag tag).toList ++ rest))
    (hrest : readNodes fuel rest = some (nodes, after)) :
    readNodes (fuel + 1) ((openTag tag attrs ++ body ++ closeTag tag).toList ++ rest) =
      some (.element tag (normalAttrs attrs) children :: nodes, after) := by
  rw [String.toList_append, String.toList_append, List.append_assoc, List.append_assoc,
    readNodes_element htag hattrs, if_neg hvoid, if_neg hraw, hbody, readEnd_append]
  simp only [Option.bind_some, hrest]
  rfl

end

/-! ## The round trip -/

/-- The nodes of an element are read back, with any text behind that ends the element. -/
theorem readNodes_render : ∀ (nodes : List Node), Node.AreTidy RawWithoutEnd nodes →
    ∀ (tag html : String), Node.renderChildren limits tag nodes = .ok html →
    ∀ (fuel : Nat) (rest : List Char), html.toList.length < fuel → EndsContent rest →
    readNodes fuel (html.toList ++ rest) = some (Node.normalNodes nodes, rest)
  | [], _, tag, html, hhtml, fuel, rest, hfuel, hrest => by
    obtain rfl : html = "" := (Except.ok.inj hhtml).symm
    obtain ⟨fuel, rfl⟩ : ∃ k, fuel = k + 1 := ⟨fuel - 1, by omega⟩
    exact readNodes_of_endsContent hrest fuel
  | .raw s :: nodes, h, _, _, _, _, _, _, _ => h.1.elim
  | .text s :: nodes, h, tag, html, hhtml, fuel, rest, hfuel, hrest => by
    obtain ⟨first, others, hfirst, hothers, rfl⟩ := renderChildren_cons hhtml
    obtain rfl : first = escapeText s := (Except.ok.inj hfirst).symm
    rw [String.toList_append, List.length_append] at hfuel
    have hread (k : Nat) (hk : others.toList.length < k) :=
      readNodes_render nodes h.2 tag others hothers k rest hk hrest
    rw [String.toList_append, List.append_assoc, Node.normalNodes, Node.normal]
    by_cases hs : s = ""
    · rw [hs, addNode_text_empty]
      exact hread fuel (by omega)
    · have hpos : 0 < (escapeText s).toList.length := by
        obtain ⟨d, more, hd⟩ := exists_escapeText_eq_cons hs
        rw [escapeText, String.toList_ofList, hd]
        exact Nat.succ_pos _
      obtain ⟨fuel, rfl⟩ : ∃ k, fuel = k + 1 := ⟨fuel - 1, by omega⟩
      exact readNodes_text hs (hread fuel (by omega)) (hread (fuel + 1) (by omega))
  | .element tag attrs children :: nodes, h, parent, html, hhtml, fuel, rest, hfuel, hrest => by
    obtain ⟨first, others, hfirst, hothers, rfl⟩ := renderChildren_cons hhtml
    obtain ⟨⟨htag, hattrs, hchildren⟩, hnodes⟩ := h
    rw [String.toList_append, List.length_append] at hfuel
    obtain ⟨fuel, rfl⟩ : ∃ k, fuel = k + 1 := ⟨fuel - 1, by omega⟩
    have hopen : 0 < (openTag tag attrs).toList.length := by
      rw [toList_openTag, List.length_append]
      exact Nat.succ_pos _
    rw [String.toList_append, List.append_assoc, Node.normalNodes, Node.normal]
    rcases render_element hfirst with ⟨hvoid, rfl⟩ | ⟨hvoid, body, hbody, rfl⟩
    · have hread := readNodes_render nodes hnodes parent others hothers fuel rest (by omega) hrest
      rw [if_pos hvoid]
      exact readNodes_void htag hattrs hvoid hread
    · simp only [String.toList_append, List.length_append] at hfuel
      have hread := readNodes_render nodes hnodes parent others hothers fuel rest (by omega) hrest
      have hnotVoid : ¬ voidTags.contains tag = true := by
        rw [hvoid]
        exact Bool.false_ne_true
      rw [if_neg hnotVoid] at hchildren ⊢
      by_cases hraw : rawTextTags.contains tag = true
      · rw [if_pos hraw] at hchildren
        obtain ⟨pieces, rfl, hend⟩ := hchildren
        rw [renderChildren_raw hraw] at hbody
        obtain rfl := Except.ok.inj hbody
        rw [normalNodes_raw]
        exact readNodes_raw htag hattrs hnotVoid hraw hend hread
      · rw [if_neg hraw] at hchildren
        have hinside := readNodes_render children hchildren tag body hbody fuel
          ((closeTag tag).toList ++ (others.toList ++ rest)) (by omega)
          (endsContent_closeTag tag _)
        exact readNodes_content htag hattrs hnotVoid hraw hinside hread
termination_by nodes => sizeOf nodes
decreasing_by
  all_goals
    simp only [List.cons.sizeOf_spec, Node.element.sizeOf_spec]
    omega

/-- A rendered tree is read back in its normal form. -/
theorem parse?_render {tag : String} {attrs : List (String × AttrValue)} {children : List Node}
    (h : (Node.element tag attrs children).IsTidy RawWithoutEnd) {html : String}
    (hhtml : (Node.element tag attrs children).render limits = .ok html) :
    Node.parse? html = some (Node.element tag attrs children).normal := by
  have hall : Node.renderChildren limits "" [.element tag attrs children] = .ok html := by
    rw [Node.renderChildren, hhtml]
    show Except.ok (html ++ "") = _
    rw [String.append_empty]
  have hread := readNodes_render [.element tag attrs children] ⟨h, trivial⟩ "" html hall
    (html.toList.length + 1) [] (Nat.lt_succ_self _) (Or.inl rfl)
  rw [List.append_nil] at hread
  rw [Node.parse?, hread]
  rfl

/-! ## Contents cut into pieces -/

/-- A script whose content is cut inside an end mark. -/
def cutScript : Node :=
  .element "div" [] [.element "script" [] [.raw "<", .raw "/script><script>"]]

/-- Two scripts without content. -/
def twoScripts : Node :=
  .element "div" [] [.element "script" [] [], .element "script" [] []]

/-- No reader can tell one script from two if only the pieces of a content are looked at. -/
theorem not_readable_of_pieces :
    ¬ ∃ read : String → Option Node, ∀ root : Node, root.IsTidy PiecesWithoutEnd →
      ∀ limits html, root.render limits = .ok html → read html = some root.normal := by
  rintro ⟨read, hread⟩
  have hcut : cutScript.IsTidy PiecesWithoutEnd :=
    ⟨by decide, by simp, ⟨by decide, by simp, ["<", "/script><script>"], rfl, by decide⟩, trivial⟩
  have htwo : twoScripts.IsTidy PiecesWithoutEnd :=
    ⟨by decide, by simp, ⟨by decide, by simp, [], rfl, by simp⟩,
      ⟨by decide, by simp, [], rfl, by simp⟩, trivial⟩
  have hone := hread cutScript hcut .standard "<div><script></script><script></script></div>" rfl
  have hboth := hread twoScripts htwo .standard "<div><script></script><script></script></div>" rfl
  rw [hone] at hboth
  have hchildren : ([_] : List Node) = [_, _] :=
    (Node.element.inj (Option.some.inj hboth)).2.2
  exact absurd (congrArg List.length hchildren) (by simp)

end Markup

end SalonBooking
