import SalonBooking.Data.Parts
import SalonBooking.Markup.Node
import SalonBooking.Proofs.Text.Marker

/-!
# Reading markup

A reader of written trees that knows as little as possible: `<` starts a tag,
the value of an attribute ends at the next quote, a text at the next `<`, and
the content of a script or style element at the next `</`.  Void elements have
no content.  Five escapes are undone, in texts and in values.

* `unescape_text`, `unescape_attr`: what is escaped comes back.
* `readName_append`, `readAttrText_append`: names and values come to their end
  where they were written to.
* `rawBody_append`: and so does the content of a script or style element.
-/

namespace SalonBooking

/-! ## The reader -/

namespace Markup

/-- A character of the name of a tag or an attribute. -/
def isNameChar (c : Char) : Bool :=
  c.isAlphanum || c == '-'

/-- Whether a text is a name: ASCII letters, digits and hyphens, at least one of them. -/
def isName (s : String) : Bool :=
  !s.isEmpty && s.toList.all isNameChar

/-- A text with its escapes undone. -/
def unescape : List Char → List Char
  | '&' :: 'a' :: 'm' :: 'p' :: ';' :: rest => '&' :: unescape rest
  | '&' :: 'l' :: 't' :: ';' :: rest => '<' :: unescape rest
  | '&' :: 'g' :: 't' :: ';' :: rest => '>' :: unescape rest
  | '&' :: 'q' :: 'u' :: 'o' :: 't' :: ';' :: rest => '"' :: unescape rest
  | '&' :: '#' :: 'x' :: '2' :: '7' :: ';' :: rest => '\'' :: unescape rest
  | c :: rest => c :: unescape rest
  | [] => []

/-- A name in front, and what follows it. -/
def readName (text : List Char) : String × List Char :=
  (String.ofList (text.takeWhile isNameChar), text.dropWhile isNameChar)

/-- The value of an attribute after its equals sign and opening quote, and what follows its
closing quote. -/
def readAttrText (text : List Char) : String × List Char :=
  (String.ofList (unescape (text.takeWhile (· != '"'))), (text.dropWhile (· != '"')).tail)

/-- The attributes up to the end of a tag, and what follows it. -/
def readAttrs : (fuel : Nat) → List Char → Option (List (String × AttrValue) × List Char)
  | 0, _ => none
  | _ + 1, '>' :: rest => some ([], rest)
  | fuel + 1, ' ' :: rest =>
    let (name, afterName) := readName rest
    match afterName with
    | '=' :: '"' :: rest =>
      let (value, rest) := readAttrText rest
      (readAttrs fuel rest).map fun (attrs, rest) => ((name, .text value) :: attrs, rest)
    | rest => (readAttrs fuel rest).map fun (attrs, rest) => ((name, .flag true) :: attrs, rest)
  | _, _ => none

/-- The content of a script or style element: one raw text, or nothing. -/
def rawNodes (s : String) : List Node :=
  itemIf (!s.isEmpty) (.raw s)

/-- What starts a closing tag, and therefore ends the content of a script or style element. -/
def endMark : List Char := ['<', '/']

/-- The end of an element after its content. -/
def readEnd (tag : String) : Option (List Node × List Char) → Option (List Node × List Char)
  | some (children, text) => ((closeTag tag).toList.isPrefixOf? text).map (children, ·)
  | none => none

/-- Nodes in front up to the end of the element that they stand in, and what follows them. -/
def readNodes : (fuel : Nat) → List Char → Option (List Node × List Char)
  | 0, _ => none
  | _ + 1, [] => some ([], [])
  | _ + 1, '<' :: '/' :: rest => some ([], '<' :: '/' :: rest)
  | fuel + 1, '<' :: rest =>
    let (tag, rest) := readName rest
    match readAttrs (rest.length + 1) rest with
    | none => none
    | some (attrs, rest) =>
      let content :=
        if voidTags.contains tag then some ([], rest)
        else if rawTextTags.contains tag then
          let (body, rest) := Text.splitAtFirst endMark rest
          readEnd tag (some (rawNodes (String.ofList body), rest))
        else readEnd tag (readNodes fuel rest)
      content.bind fun (children, rest) =>
        (readNodes fuel rest).map fun (nodes, rest) => (.element tag attrs children :: nodes, rest)
  | fuel + 1, text =>
    let shown := String.ofList (unescape (text.takeWhile (· != '<')))
    (readNodes fuel (text.dropWhile (· != '<'))).map
      fun (nodes, rest) => (.text shown :: nodes, rest)

end Markup

/-- The tree that a text writes. -/
def Node.parse? (html : String) : Option Node :=
  match Markup.readNodes (html.toList.length + 1) html.toList with
  | some ([node], []) => some node
  | _ => none

namespace Markup

/-! ## Escapes -/

theorem unescape_cons {c : Char} (h : c ≠ '&') (rest : List Char) :
    unescape (c :: rest) = c :: unescape rest := by
  rw [unescape]
  all_goals
    intros
    exact h ‹_›

theorem unescape_textChar (c : Char) (rest : List Char) :
    unescape (escapeTextChar c ++ rest) = c :: unescape rest := by
  rw [escapeTextChar]
  split
  · rename_i hc
    rw [eq_of_beq hc]
    rfl
  split
  · rename_i hc
    rw [eq_of_beq hc]
    rfl
  split
  · rename_i hc
    rw [eq_of_beq hc]
    rfl
  · rename_i hamp _ _
    exact unescape_cons (by simpa using hamp) rest

theorem unescape_attrChar (c : Char) (rest : List Char) :
    unescape (escapeAttrChar c ++ rest) = c :: unescape rest := by
  rw [escapeAttrChar]
  split
  · rename_i hc
    rw [eq_of_beq hc]
    rfl
  split
  · rename_i hc
    rw [eq_of_beq hc]
    rfl
  · exact unescape_textChar c rest

/-- An escaped text comes back, in front of whatever follows. -/
theorem unescape_text (cs rest : List Char) :
    unescape (cs.flatMap escapeTextChar ++ rest) = cs ++ unescape rest := by
  induction cs with
  | nil => rfl
  | cons c cs ih =>
    rw [List.flatMap_cons, List.append_assoc, unescape_textChar, ih, List.cons_append]

theorem unescape_attr (cs : List Char) : unescape (cs.flatMap escapeAttrChar) = cs := by
  induction cs with
  | nil => rfl
  | cons c cs ih => rw [List.flatMap_cons, unescape_attrChar, ih]

/-- Nothing in an escaped text looks like a tag. -/
theorem ne_angle_of_mem_text {cs : List Char} {d : Char} (h : d ∈ cs.flatMap escapeTextChar) :
    d ≠ '<' := by
  obtain ⟨c, -, hd⟩ := List.mem_flatMap.mp h
  have hall {ds : List Char} (hds : ds.all (· != '<') = true) (hin : d ∈ ds) : d ≠ '<' :=
    bne_iff_ne.mp (List.all_eq_true.mp hds d hin)
  rw [escapeTextChar] at hd
  repeat' split at hd
  · exact hall (by decide) hd
  · exact hall (by decide) hd
  · exact hall (by decide) hd
  · rename_i _ hangle _
    rw [List.mem_singleton.mp hd]
    simpa using hangle

/-- Nothing in the escaped value of an attribute looks like its closing quote. -/
theorem ne_quote_of_mem_attr {cs : List Char} {d : Char} (h : d ∈ cs.flatMap escapeAttrChar) :
    d ≠ '"' := by
  obtain ⟨c, -, hd⟩ := List.mem_flatMap.mp h
  have hall {ds : List Char} (hds : ds.all (· != '"') = true) (hin : d ∈ ds) : d ≠ '"' :=
    bne_iff_ne.mp (List.all_eq_true.mp hds d hin)
  rw [escapeAttrChar, escapeTextChar] at hd
  repeat' split at hd
  · exact hall (by decide) hd
  · exact hall (by decide) hd
  · exact hall (by decide) hd
  · exact hall (by decide) hd
  · exact hall (by decide) hd
  · rename_i hquote _ _ _ _
    rw [List.mem_singleton.mp hd]
    simpa using hquote

/-! ## Names, values and raw contents -/

/-- A run of characters of a class ends in front of a character of another one. -/
theorem takeWhile_append_cons {p : Char → Bool} {cs : List Char} (hcs : ∀ c ∈ cs, p c = true)
    {d : Char} (hd : p d = false) (rest : List Char) :
    (cs ++ d :: rest).takeWhile p = cs ∧ (cs ++ d :: rest).dropWhile p = d :: rest := by
  constructor
  · rw [List.takeWhile_append_of_pos hcs, List.takeWhile_cons_of_neg (by simp [hd]),
      List.append_nil]
  · rw [List.dropWhile_append_of_pos hcs, List.dropWhile_cons_of_neg (by simp [hd])]

theorem readName_append {name : String} (h : isName name = true) {d : Char}
    (hd : isNameChar d = false) (rest : List Char) :
    readName (name.toList ++ d :: rest) = (name, d :: rest) := by
  rw [isName, Bool.and_eq_true, List.all_eq_true] at h
  obtain ⟨htake, hdrop⟩ := takeWhile_append_cons h.2 hd rest
  rw [readName, htake, hdrop, String.ofList_toList]

theorem readAttrText_append (s : String) (rest : List Char) :
    readAttrText (s.toList.flatMap escapeAttrChar ++ '"' :: rest) = (s, rest) := by
  have hvalue : ∀ c ∈ s.toList.flatMap escapeAttrChar, (c != '"') = true :=
    fun c hc => bne_iff_ne.mpr (ne_quote_of_mem_attr hc)
  obtain ⟨htake, hdrop⟩ :=
    takeWhile_append_cons (d := '"') hvalue (by decide) rest
  rw [readAttrText, htake, hdrop, unescape_attr, String.ofList_toList]
  rfl

theorem rawBody_append {body : List Char} (h : ¬ endMark <:+: body) (rest : List Char) :
    Text.splitAtFirst endMark (body ++ (endMark ++ rest)) = (body, endMark ++ rest) :=
  Text.splitAtFirst_append (by decide) h rest

/-- The end of an element is found where it was written. -/
theorem readEnd_append (tag : String) (children : List Node) (rest : List Char) :
    readEnd tag (some (children, (closeTag tag).toList ++ rest)) = some (children, rest) := by
  rw [readEnd, Text.isPrefixOf?_append]
  rfl

end Markup

end SalonBooking
