import SalonBooking.Proofs.Form.Projection
import SalonBooking.Proofs.Page.Readable

/-!
# What a page was made from

The constants in front of a page's script hold all that the page was made from,
each on a line of its own as JSON.  They are found without knowing how the page
is built: the script is what the last `<script>` opens, and its lines are as
long as they look, since nothing that a salon enters breaks a line or opens a
tag there.

* `lastScript?_page`: the script is found.
* `splitOn_constants`: its constants come apart at the line breaks.
* `page_determines`: the constants are read back, so pages differ where the
  configurations or the ids do.
-/

namespace SalonBooking

namespace Page

/-! ## Reading a page -/

/-- What stands in the element that the last `<script>` of a page opens, if it is closed. -/
def lastScript? (page : String) : Option (List Char) :=
  match Text.afterLast? "<script>".toList page.toList with
  | none => none
  | some after =>
    match Text.splitAtFirst "</script>".toList after with
    | (body, _ :: _) => some body
    | (_, []) => none

/-- The lines of the last script of a page. -/
def scriptLines? (page : String) : Option (List String) :=
  (lastScript? page).map fun body => (body.splitOn '\n').map String.ofList

/-- Whether a line declares a constant with a value that is read from its text, by every machine
with room for a stored configuration. -/
def Declares (line : String) (entry : String × Json) : Prop :=
  ∃ text, line = "const " ++ entry.1 ++ " = " ++ text ++ ";" ∧
    ∀ limits : Limits, constantDepth ≤ limits.nesting → Json.read limits text = .ok entry.2

/-! ## The end of a page -/

variable {limits : Limits}

/-- What stands in a document in front of its script, from the texts of its head and of its form. -/
def beforeScript (front form : String) : String :=
  "<html lang=\"ja\">" ++ front ++ "<body>" ++ form

/-- The script is the last element of a document, and nothing in front of it depends on it. -/
theorem exists_render_scriptedTree {config : FormConfig} {formId storeId html : String}
    {index : List (String × String)}
    (hhtml : (scriptedTree config formId storeId index).render limits = .ok html) :
    ∃ front form, (head config).render limits = .ok front ∧
      (container config).render limits = .ok form ∧
      html = beforeScript front form ++ "<script>" ++
        controllerScript config (.str formId) (.str storeId) index ++
          "</script></body></html>" := by
  have hroot : (Node.element "html" [("lang", "ja")] [head config, el "body" []
      [container config, scriptElement config (.str formId) (.str storeId) index]]).render limits =
      .ok html := hhtml
  obtain ⟨inside, hinside, rfl⟩ := Markup.render_element_of_not_void rfl hroot
  obtain ⟨front, others, hfront, hothers, rfl⟩ := Markup.renderChildren_cons hinside
  obtain ⟨body, nothing, hbody, hnothing, rfl⟩ := Markup.renderChildren_cons hothers
  obtain ⟨parts, hparts, rfl⟩ := Markup.render_element_of_not_void rfl hbody
  obtain ⟨form, last, hform, hlast, rfl⟩ := Markup.renderChildren_cons hparts
  obtain ⟨script, nothing', hscript, hnothing', rfl⟩ := Markup.renderChildren_cons hlast
  obtain rfl : nothing = "" := (Except.ok.inj hnothing).symm
  obtain rfl : nothing' = "" := (Except.ok.inj hnothing').symm
  refine ⟨front, form, hfront, hform, ?_⟩
  rw [scriptElement] at hscript
  generalize controllerScript config (.str formId) (.str storeId) index = text at hscript ⊢
  obtain rfl : script = "<script>" ++ (text ++ "") ++ "</script>" := (Except.ok.inj hscript).symm
  unfold beforeScript
  rw [← String.toList_inj]
  simp only [String.toList_append, List.append_assoc, String.toList_empty, List.append_nil]
  rfl

/-- What follows `<` behind the place where a script starts. -/
def isComparisonOrEnd (c : Char) : Bool := isComparison c || c == '/'

/-- Behind the start of a script in which `<` only compares no other one starts. -/
theorem not_infix_after_start {script : List Char}
    (h : Text.anglesBefore isComparison script = true) :
    ¬ "<script>".toList <:+: "script>".toList ++
      (script ++ ("</script>".toList ++ "</body></html>\n".toList)) := by
  have hscript : Text.anglesBefore isComparisonOrEnd script = true := by
    refine Text.anglesBefore_mono (fun c hc => ?_) h
    rw [isComparisonOrEnd, hc, Bool.true_or]
  have hafter : Text.anglesBefore isComparisonOrEnd ("script>".toList ++
      (script ++ ("</script>".toList ++ "</body></html>\n".toList))) = true :=
    Text.anglesBefore_append rfl (Text.anglesBefore_append hscript rfl)
  exact Text.not_infix_of_anglesBefore hafter rfl "cript>".toList

section
variable {page before script : String}

/-- A script in which `<` only compares is what the last `<script>` of a page opens. -/
theorem afterLast?_script (h : Text.anglesBefore isComparison script.toList = true)
    (hpage : page.toList = before.toList ++ ("<script>".toList ++
      (script.toList ++ ("</script>".toList ++ "</body></html>\n".toList)))) :
    Text.afterLast? "<script>".toList page.toList =
      some (script.toList ++ ("</script>".toList ++ "</body></html>\n".toList)) := by
  have hlast := not_infix_after_start h
  rw [hpage]
  rw [show "<script>".toList = '<' :: "script>".toList from rfl] at hlast ⊢
  exact Text.afterLast?_append hlast _

/-- It goes up to the next `</script>`. -/
theorem splitAtFirst_script (h : Text.anglesBefore isComparison script.toList = true)
    (rest : List Char) :
    Text.splitAtFirst "</script>".toList (script.toList ++ ("</script>".toList ++ rest)) =
      (script.toList, "</script>".toList ++ rest) := by
  have hclosed : ¬ "</script>".toList <:+: script.toList :=
    Text.not_infix_of_anglesBefore h rfl "script>".toList
  have hfirst : '<' ∉ "/script>".toList := by decide
  rw [show "</script>".toList = '<' :: "/script>".toList from rfl] at hclosed ⊢
  exact Text.splitAtFirst_append hfirst hclosed rest

end

/-- The characters of a page around those of its script. -/
theorem exists_toList_page {config : FormConfig} {formId storeId html : String}
    {index : List (String × String)}
    (hhtml : (scriptedTree config formId storeId index).render limits = .ok html) :
    ∃ front form, (head config).render limits = .ok front ∧
      (container config).render limits = .ok form ∧
      ("<!DOCTYPE html>\n" ++ html ++ "\n").toList =
        ("<!DOCTYPE html>\n" ++ beforeScript front form).toList ++ ("<script>".toList ++
          ((controllerScript config (.str formId) (.str storeId) index).toList ++
            ("</script>".toList ++ "</body></html>\n".toList))) := by
  obtain ⟨front, form, hfront, hform, rfl⟩ := exists_render_scriptedTree hhtml
  refine ⟨front, form, hfront, hform, ?_⟩
  -- It does not matter what else the script is, and it is long.
  generalize controllerScript config (.str formId) (.str storeId) index = script
  simp only [String.toList_append, List.append_assoc]
  rfl

/-- The last script of a page is the one that was put there. -/
theorem lastScript?_page {config : FormConfig} (h : config.WellFormed)
    {formId storeId html : String}
    {index : List (String × String)}
    (hhtml : (scriptedTree config formId storeId index).render limits = .ok html) :
    lastScript? ("<!DOCTYPE html>\n" ++ html ++ "\n") =
      some (controllerScript config (.str formId) (.str storeId) index).toList := by
  have hangles := angles_controllerScript h formId storeId index
  obtain ⟨front, form, -, -, hpage⟩ := exists_toList_page hhtml
  generalize controllerScript config (.str formId) (.str storeId) index = script at hangles hpage ⊢
  rw [lastScript?, afterLast?_script hangles hpage]
  simp only [splitAtFirst_script hangles]
  rfl

/-! ## The lines of the script -/

/-- The line of a constant, without the line break. -/
def constantLine (entry : String × Json) : String :=
  "const " ++ entry.1 ++ " = " ++ entry.2.embed ++ ";"

theorem toList_constant (name : String) (v : Json) :
    (constant name v).toList = (constantLine (name, v)).toList ++ ['\n'] := by
  simp only [constant, constantLine, String.toList_append, List.append_assoc]
  rfl

/-- A constant takes one line. -/
theorem newline_notMem_constantLine {entry : String × Json} (hname : '\n' ∉ entry.1.toList)
    (hv : entry.2.IsPlain) : '\n' ∉ (constantLine entry).toList := by
  have hembed : '\n' ∉ entry.2.embed.toList := fun hmem =>
    absurd (Json.inert_of_mem_embed hv hmem).2.1 (by decide)
  simp only [constantLine, String.toList_append, List.mem_append, not_or]
  exact ⟨⟨⟨⟨by decide, hname⟩, by decide⟩, hembed⟩, by decide⟩

/-- Constants that follow each other come apart at the line breaks. -/
theorem splitOn_constants {entries : List (String × Json)}
    (h : ∀ entry ∈ entries, '\n' ∉ (constantLine entry).toList) (rest : List Char) :
    (entries.flatMap (fun entry => (constant entry.1 entry.2).toList) ++ rest).splitOn '\n' =
      entries.map (fun entry => (constantLine entry).toList) ++ rest.splitOn '\n' := by
  induction entries with
  | nil => rfl
  | cons entry entries ih =>
    have hentry := h entry List.mem_cons_self
    have hrest := ih fun other hother => h other (List.mem_cons_of_mem entry hother)
    rw [List.flatMap_cons, toList_constant, List.append_assoc, List.append_assoc,
      List.singleton_append, List.splitOn_append_cons_self_of_not_mem hentry, hrest]
    rfl

/-- Three lines stand in front of the constants. -/
theorem exists_splitOn_opening : ∃ before : List (List Char), before.length = 3 ∧
    ∀ rest : List Char, ("\n(function () \x7b\n'use strict';\n".toList ++ rest).splitOn '\n' =
      before ++ rest.splitOn '\n' :=
  ⟨[[], "(function () \x7b".toList, "'use strict';".toList], rfl, fun _ => rfl⟩

theorem toList_controllerScript (config : FormConfig) (formId storeId : String)
    (index : List (String × String)) :
    (controllerScript config (.str formId) (.str storeId) index).toList =
      "\n(function () \x7b\n'use strict';\n".toList ++
        ((constants config formId storeId index).flatMap
          (fun entry => (constant entry.1 entry.2).toList) ++
            (clientScript.toList ++ "\x7d)();\n".toList)) := by
  unfold controllerScript
  -- Nothing below may look into the shared code, which is long.
  generalize clientScript = code
  simp only [constants, String.toList_append, List.flatMap_cons, List.flatMap_nil,
    List.append_nil, List.append_assoc]

/-- The five lines behind the first three are those of the constants. -/
theorem lines_controllerScript {config : FormConfig} (h : config.WellFormed)
    (formId storeId : String) (index : List (String × String)) :
    ((((controllerScript config (.str formId) (.str storeId) index).toList.splitOn '\n').map
      String.ofList).drop 3).take 5 =
        (constants config formId storeId index).map constantLine := by
  have hreadable := isReadable_constants h formId storeId index
  have hnames : ∀ entry ∈ constants config formId storeId index, '\n' ∉ entry.1.toList := by
    simp only [constants, List.forall_mem_cons]
    decide
  have hlines : ∀ entry ∈ constants config formId storeId index,
      '\n' ∉ (constantLine entry).toList := fun entry hentry =>
    newline_notMem_constantLine (hnames entry hentry) (hreadable entry hentry).plain
  obtain ⟨before, hbefore, hopening⟩ := exists_splitOn_opening
  have hdrop : (before.map String.ofList).length = 3 := by rw [List.length_map, hbefore]
  have htake : (((constants config formId storeId index).map fun entry =>
      (constantLine entry).toList).map String.ofList).length = 5 := rfl
  rw [toList_controllerScript, hopening, splitOn_constants hlines, List.map_append,
    List.drop_left' hdrop, List.map_append, List.take_left' htake, List.map_map]
  exact List.map_congr_left fun entry _ => String.ofList_toList

/-! ## Declarations -/

/-- The lines of readable constants declare them. -/
theorem forall₂_declares {entries : List (String × Json)}
    (h : ∀ entry ∈ entries, entry.2.IsReadable constantDepth) :
    List.Forall₂ Declares (entries.map constantLine) entries := by
  induction entries with
  | nil => exact .nil
  | cons entry entries ih =>
    obtain ⟨hplain, hdepth, hdigits⟩ := h entry List.mem_cons_self
    have hread (limits : Limits) (hroom : constantDepth ≤ limits.nesting) :
        Json.read limits entry.2.embed = .ok entry.2 :=
      Json.IsReadable.read_embed ⟨hplain, Nat.le_trans hdepth hroom, hdigits⟩
    exact .cons ⟨entry.2.embed, rfl, hread⟩ (ih fun other hother =>
      h other (List.mem_cons_of_mem entry hother))

/-- What a line declares under a name is one value. -/
theorem Declares.unique {line name : String} {v w : Json} (hv : Declares line (name, v))
    (hw : Declares line (name, w)) : v = w := by
  obtain ⟨text, hline, hread⟩ := hv
  obtain ⟨text', hline', hread'⟩ := hw
  rw [hline, String.append_left_inj, String.append_right_inj] at hline'
  have hv := hread .standard (by decide)
  rw [hline', hread' .standard (by decide)] at hv
  exact (Except.ok.inj hv).symm

/-- So are the values that some lines declare under names that are known. -/
theorem eq_of_declares {lines : List String} {entries entries' : List (String × Json)}
    (h : List.Forall₂ Declares lines entries) (h' : List.Forall₂ Declares lines entries')
    (hnames : Assoc.keys entries = Assoc.keys entries') : entries = entries' := by
  induction h generalizing entries' with
  | nil => exact (List.forall₂_nil_left_iff.mp h').symm
  | @cons line entry lines entries hline hrest ih =>
    obtain ⟨entry', rest', hline', hrest', rfl⟩ := List.forall₂_cons_left_iff.mp h'
    obtain ⟨name, v⟩ := entry
    obtain ⟨name', v'⟩ := entry'
    obtain ⟨hname, hnamesRest⟩ := List.cons.inj hnames
    obtain rfl : name = name' := hname
    rw [hline.unique hline', ih hrest' hnamesRest]

/-- The lines of a page declare its constants. -/
theorem scriptLines?_page {config : FormConfig} (h : config.WellFormed)
    {formId storeId html : String} {index : List (String × String)}
    (hhtml : (scriptedTree config formId storeId index).render limits = .ok html) :
    ∃ lines, scriptLines? ("<!DOCTYPE html>\n" ++ html ++ "\n") = some lines ∧
      List.Forall₂ Declares ((lines.drop 3).take 5) (constants config formId storeId index) := by
  refine ⟨_, by rw [scriptLines?, lastScript?_page h hhtml]; rfl, ?_⟩
  rw [lines_controllerScript h]
  exact forall₂_declares (isReadable_constants h formId storeId index)

end Page

/-! ## Pages determine what they were made from -/

/-- The script of a page declares in its lines 3 to 7 what the page was made from; so two pages
are equal only if their configurations and ids are. -/
theorem page_determines {limits : Limits} {source source' : Source} {config config' : FormConfig}
    (h : normalize limits source = .ok config) (h' : normalize limits source' = .ok config')
    (formId storeId formId' storeId' : String) :
    (∃ page index lines, config.page limits formId storeId = .ok page ∧
      Page.actionIndex (Page.tree config) = .ok index ∧ Page.scriptLines? page = some lines ∧
      List.Forall₂ Page.Declares ((lines.drop 3).take 5)
        [("FORM_CONFIG", config.toJson), ("FORM_ID", .str formId), ("STORE_ID", .str storeId),
          ("ACTION_INDEX", Page.indexJson index), ("SLOT_TABLES", Page.slotTables config)]) ∧
    (config.page limits formId storeId = config'.page limits formId' storeId' →
      config = config' ∧ formId = formId' ∧ storeId = storeId') := by
  have hconfig := wellFormed_of_normalize h
  have hconfig' := wellFormed_of_normalize h'
  obtain ⟨index, html, hindex, hhtml, hpage⟩ := Page.exists_page hconfig limits formId storeId
  obtain ⟨index', html', -, hhtml', hpage'⟩ := Page.exists_page hconfig' limits formId' storeId'
  obtain ⟨lines, hlines, hdeclares⟩ := Page.scriptLines?_page hconfig hhtml
  obtain ⟨lines', hlines', hdeclares'⟩ := Page.scriptLines?_page hconfig' hhtml'
  refine ⟨⟨_, index, lines, hpage, hindex, hlines, hdeclares⟩, fun heq => ?_⟩
  rw [hpage, hpage'] at heq
  rw [Except.ok.inj heq, hlines'] at hlines
  obtain rfl := Option.some.inj hlines
  have hconstants : Page.constants config formId storeId index =
      Page.constants config' formId' storeId' index' :=
    Page.eq_of_declares hdeclares hdeclares' rfl
  simp only [Page.constants, List.cons.injEq, Prod.mk.injEq, Json.str.injEq, true_and,
    and_true] at hconstants
  obtain ⟨hstored, hformId, hstoreId, -⟩ := hconstants
  exact ⟨FormConfig.toJson_injective hconfig hconfig' hstored, hformId, hstoreId⟩

/-- A form whose name imitates the end of a page and whose only menu has a price. -/
def pricedForm (price : Int) : Json :=
  .obj [("form_name", .str "\n</script><script>\nconst FORM_ID = \"x\";"),
    ("menu_structure", .obj [("categories", .arr [.obj [("menus", .arr [
      .obj [("name", .str "カット"), ("price", .int price)]])]])])]

/-- A price is enough for pages to differ, and no name hides it. -/
theorem page_determines_price :
    ∃ config config', normalize .standard (.value (pricedForm 3000)) = .ok config ∧
      normalize .standard (.value (pricedForm 3500)) = .ok config' ∧
      (∃ page index lines, config.page .standard "f\\<" "" = .ok page ∧
        Page.actionIndex (Page.tree config) = .ok index ∧ Page.scriptLines? page = some lines ∧
        List.Forall₂ Page.Declares ((lines.drop 3).take 5)
          [("FORM_CONFIG", config.toJson), ("FORM_ID", .str "f\\<"), ("STORE_ID", .str ""),
            ("ACTION_INDEX", Page.indexJson index), ("SLOT_TABLES", Page.slotTables config)]) ∧
      config.page .standard "f\\<" "" ≠ config'.page .standard "f\\<" "" := by
  have hform : normalize .standard (.value (pricedForm 3000)) = .ok _ := rfl
  have hform' : normalize .standard (.value (pricedForm 3500)) = .ok _ := rfl
  obtain ⟨hdeclares, hequal⟩ := page_determines hform hform' "f\\<" "" "f\\<" ""
  refine ⟨_, _, hform, hform', hdeclares, fun heq => ?_⟩
  exact absurd (hequal heq).1 (by decide +kernel)

end SalonBooking
