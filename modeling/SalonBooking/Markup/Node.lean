import SalonBooking.Data.Assoc
import SalonBooking.Data.Limits

/-!
# Markup trees

A document is a tree of elements, texts and raw texts.  What is escaped depends
on the kind of node alone: a text is, a raw text is not.  A raw text therefore
stands only directly inside a script or style element, and rendering refuses it
anywhere else.

An attribute has a text, a number, or nothing but its name; one that is absent
or switched off is not written.  A void element has no content: its children
are neither written nor looked at.  The attributes of an element come before
its children, and rendering refuses a number among them that the machine does
not convert.
-/

namespace SalonBooking

/-- The value of an attribute. -/
inductive AttrValue where
  | text (s : String)
  | number (n : Int)
  /-- An attribute that is its name alone, if it is switched on. -/
  | flag (on : Bool)
  | absent
  deriving DecidableEq, Repr

instance : Coe String AttrValue := ⟨.text⟩

/-- A node of a document. -/
inductive Node where
  | text (s : String)
  | raw (s : String)
  | element (tag : String) (attrs : List (String × AttrValue)) (children : List Node)
  deriving Inhabited, Repr

instance : Coe String Node := ⟨.text⟩

/-- Why a document cannot be written. -/
inductive MarkupError where
  /-- A raw text stands directly inside an element that takes none. -/
  | misplacedRaw (tag : String)
  /-- The number of an attribute has too many digits. -/
  | integerTooLong
  deriving DecidableEq, Repr

/-- The text of an error.  That a number is not converted has no text of its own. -/
def MarkupError.message? : MarkupError → Option String
  | .misplacedRaw tag => some ("raw text is not allowed inside <" ++ tag ++ ">")
  | .integerTooLong => none

/-- The elements that have no content. -/
def voidTags : List String := ["meta", "link", "input", "br", "img", "hr"]

/-- The elements whose content is not escaped. -/
def rawTextTags : List String := ["script", "style"]

/-- One character of a text. -/
def escapeTextChar (c : Char) : List Char :=
  if c == '&' then "&amp;".toList
  else if c == '<' then "&lt;".toList
  else if c == '>' then "&gt;".toList
  else [c]

/-- One character of the text of an attribute. -/
def escapeAttrChar (c : Char) : List Char :=
  if c == '"' then "&quot;".toList
  else if c == '\'' then "&#x27;".toList
  else escapeTextChar c

/-- A text as it is written. -/
def escapeText (s : String) : String :=
  String.ofList (s.toList.flatMap escapeTextChar)

/-- The text of an attribute as it is written between quotes. -/
def escapeAttr (s : String) : String :=
  String.ofList (s.toList.flatMap escapeAttrChar)

/-- An attribute as it is written, with the blank in front of it. -/
def renderAttr (name : String) : AttrValue → String
  | .text s => " " ++ name ++ "=\"" ++ escapeAttr s ++ "\""
  | .number n => " " ++ name ++ "=\"" ++ escapeAttr (toString n) ++ "\""
  | .flag true => " " ++ name
  | .flag false => ""
  | .absent => ""

/-- Whether the text of an attribute's value can be taken. -/
def AttrValue.hasText (limits : Limits) : AttrValue → Bool
  | .number n => (limits.text? n).isSome
  | _ => true

/-- Whether the texts of all values of some attributes can be taken. -/
def attrsHaveTexts (limits : Limits) (attrs : List (String × AttrValue)) : Bool :=
  attrs.all fun (_, value) => value.hasText limits

/-- The tag that opens an element. -/
def openTag (tag : String) (attrs : List (String × AttrValue)) : String :=
  "<" ++ tag ++ String.join (attrs.map fun (name, value) => renderAttr name value) ++ ">"

/-- The tag that closes an element. -/
def closeTag (tag : String) : String :=
  "</" ++ tag ++ ">"

namespace Node

/-- Whether a node is a raw text. -/
def isRaw : Node → Bool
  | .raw _ => true
  | _ => false

mutual

/-- The text of a node. -/
def render (limits : Limits) : Node → Except MarkupError String
  | .text s => .ok (escapeText s)
  | .raw s => .ok s
  | .element tag attrs children =>
    if !attrsHaveTexts limits attrs then .error .integerTooLong
    else if voidTags.contains tag then .ok (openTag tag attrs)
    else
      match renderChildren limits tag children with
      | .ok body => .ok (openTag tag attrs ++ body ++ closeTag tag)
      | .error e => .error e

/-- The texts of the children of an element, one after the other. -/
def renderChildren (limits : Limits) (tag : String) : List Node → Except MarkupError String
  | [] => .ok ""
  | child :: rest =>
    if child.isRaw && !rawTextTags.contains tag then .error (.misplacedRaw tag)
    else
      match render limits child with
      | .ok first =>
        match renderChildren limits tag rest with
        | .ok others => .ok (first ++ others)
        | .error e => .error e
      | .error e => .error e

end

/-- The text of a whole document. -/
def renderDocument (limits : Limits) (root : Node) : Except MarkupError String :=
  (root.render limits).map fun html => "<!DOCTYPE html>\n" ++ html ++ "\n"

mutual

/-- The elements of a tree in document order, each as its tag and its attributes. -/
def elements : Node → List (String × Assoc String AttrValue)
  | .text _ => []
  | .raw _ => []
  | .element tag attrs children => (tag, attrs) :: elementsOf children

/-- The elements of some trees in document order. -/
def elementsOf : List Node → List (String × Assoc String AttrValue)
  | [] => []
  | child :: rest => elements child ++ elementsOf rest

end

/-- A tree with one more child at the end of its root. -/
def appendChild (child : Node) : Node → Node
  | .element tag attrs children => .element tag attrs (children ++ [child])
  | node => node

end Node

end SalonBooking
