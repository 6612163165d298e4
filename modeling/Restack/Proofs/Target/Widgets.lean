import Restack.Ir.Node
import Restack.Proofs.Target.Scan

/-!
# Widgets and their texts

The markup of a component becomes one expression of nested widgets. `Sketch` keeps of a node what
its widget depends on, and `Sketch.texts` says, from the markup alone, which texts the widget shows.
Each piece of the expression is shown to be read as its texts wherever it stands, so that an
induction over the markup gives the expression as a whole.
-/

namespace Restack.Target

open Restack.Text

/-- What the widget of a part of markup depends on. -/
inductive Sketch where
  | text (name : String)
  | element (tag : String) (children : List Sketch)
  | other

namespace Sketch

/-- The text of a part that is a text. -/
def label? : Sketch → Option String
  | .text name => some name
  | _ => none

mutual

/-- The texts that the widget of a part shows, in their order: an element that is a caption shows
the texts right within it as one, and any other element what its children show. -/
def texts : Sketch → List String
  | .text name => [name]
  | .element tag children =>
    if captionTags.contains (lowered tag) then [joined " " (children.filterMap label?)]
    else textsOfAll children
  | .other => []

/-- The texts that the widgets of several parts show. -/
def textsOfAll : List Sketch → List String
  | [] => []
  | part :: rest => part.texts ++ textsOfAll rest

end

/-- The texts of a forest are those of its parts, in order. -/
theorem textsOfAll_eq (forest : List Sketch) : textsOfAll forest = (forest.map texts).flatten := by
  induction forest with
  | nil => rw [textsOfAll, List.map_nil, List.flatten_nil]
  | cons part rest ih => rw [textsOfAll, List.map_cons, List.flatten_cons, ih]

end Sketch

mutual

/-- A value is a node with the type, the name and the children of a sketch. -/
inductive Shows : Value → Sketch → Prop where
  | text {fields : List (String × Value)} {name : String}
      (htype : fields.lookup "type" = some (.str "text"))
      (hname : fields.lookup "name" = some (.str name)) :
      Shows (.object fields) (.text name)
  | element {fields : List (String × Value)} {tag : String} {items : List Value}
      {children : List Sketch} (htype : fields.lookup "type" = some (.str "element"))
      (hname : fields.lookup "name" = some (.str tag))
      (hitems : fields.lookup "children" = some (.list items))
      (hchildren : ShowAll items children) : Shows (.object fields) (.element tag children)
  /-- The children of an element may be missing. -/
  | leaf {fields : List (String × Value)} {tag : String}
      (htype : fields.lookup "type" = some (.str "element"))
      (hname : fields.lookup "name" = some (.str tag))
      (hnone : ∀ value ∈ fields.lookup "children", value.truthy = false) :
      Shows (.object fields) (.element tag [])
  | other {fields : List (String × Value)} {kind : String}
      (htype : fields.lookup "type" = some (.str kind))
      (htext : kind ≠ "text") (helement : kind ≠ "element") :
      Shows (.object fields) .other

/-- Several values are nodes as sketched. -/
inductive ShowAll : List Value → List Sketch → Prop where
  | nil : ShowAll [] []
  | cons {value : Value} {items : List Value} {part : Sketch} {rest : List Sketch}
      (hfirst : Shows value part) (hrest : ShowAll items rest) :
      ShowAll (value :: items) (part :: rest)

end

/-- A part is a text by its type. -/
theorem Shows.textName?_eq {value : Value} {part : Sketch} (h : Shows value part) :
    textName? value = .ok (part.label?.map Value.str) := by
  unfold textName?
  cases h with
  | text htype hname =>
    rw [Value.field_object htype, Value.field_object hname]
    rfl
  | element htype =>
    rw [Value.field_object htype]
    rfl
  | leaf htype =>
    rw [Value.field_object htype]
    rfl
  | @other fields kind htype htext =>
    have hkind : (Value.str kind == .str "text") = false := by
      simpa [-Value.beq_str_iff] using htext
    rw [Value.field_object htype]
    simp only [bind, Except.bind, hkind]
    rfl

/-- The names of the texts among some parts are their labels. -/
theorem ShowAll.filterMapM_textName? {items : List Value} {forest : List Sketch}
    (h : ShowAll items forest) :
    items.filterMapM textName? = .ok ((forest.filterMap Sketch.label?).map Value.str) := by
  cases h with
  | nil => rfl
  | @cons value items part rest hfirst hrest =>
    rw [List.filterMapM_cons, hfirst.textName?_eq, hrest.filterMapM_textName?]
    cases hlabel : part.label? with
    | none => simp [hlabel, bind, Except.bind]
    | some name => simp [hlabel, bind, Except.bind, pure, Except.pure]

/-- Names that are texts make up a caption. -/
theorem mapM_captionPart (names : List String) (start : Nat) :
    (((names.map Value.str).zipIdx start).mapM fun (name, i) => captionPart name i) =
      .ok names := by
  induction names generalizing start with
  | nil => rfl
  | cons name rest ih =>
    rw [List.map_cons, List.zipIdx_cons, List.mapM_cons, ih]
    rfl

/-- Parts one after the other show forests one after the other. -/
theorem ShowAll.append {items others : List Value} {forest more : List Sketch}
    (h : ShowAll items forest) (hothers : ShowAll others more) :
    ShowAll (items ++ others) (forest ++ more) := by
  cases h with
  | nil => exact hothers
  | cons hfirst hrest => exact .cons hfirst (hrest.append hothers)

/-- Each part shows something. -/
theorem ShowAll.shows_of_mem {items : List Value} {forest : List Sketch} (h : ShowAll items forest)
    {value : Value} (hvalue : value ∈ items) : ∃ part, Shows value part := by
  cases h with
  | nil => cases hvalue
  | cons hfirst hrest =>
    rcases List.mem_cons.mp hvalue with rfl | hvalue
    · exact ⟨_, hfirst⟩
    · exact hrest.shows_of_mem hvalue

/-- The caption of a node is made of the texts right within it. -/
theorem ShowAll.caption_eq {node : Value} {items : List Value} {forest : List Sketch}
    (h : ShowAll items forest) (hnode : node.elementsOf "children" = .ok items) :
    caption node = .ok (joined " " (forest.filterMap Sketch.label?)) := by
  unfold caption
  rw [hnode]
  simp only [bind, Except.bind]
  rw [h.filterMapM_textName?]
  simp only
  rw [mapM_captionPart]
  rfl

namespace Flutter

/-- Within a literal, an escaped text is read as it was. -/
theorem foldlM_escaped (s read : List Char) (opened : List Char) (texts : List String) :
    (s.flatMap fun c => if c == '\\' || c == '\x27' then ['\\', c] else [c]).foldlM Scan.step
      ⟨opened, texts, .literal read⟩ = some ⟨opened, texts, .literal (read ++ s)⟩ := by
  induction s generalizing read with
  | nil => simp
  | cons c rest ih =>
    have hc : (if c == '\\' || c == '\x27' then ['\\', c] else [c]).foldlM Scan.step
        ⟨opened, texts, .literal read⟩ = some ⟨opened, texts, .literal (read ++ [c])⟩ := by
      split
      · rfl
      · rename_i hplain
        simp only [Bool.or_eq_true, beq_iff_eq, not_or] at hplain
        simp [Scan.step, hplain]
    rw [List.flatMap_cons, List.foldlM_append, hc]
    simpa using ih (read ++ [c])

/-- A literal is read as the text that it was written for, whatever the text is. -/
theorem reads_literal (s : String) : Reads (String.ofList (literal s.toList)) [s] := by
  intro opened before
  have htext := foldlM_escaped s.toList [] opened before
  unfold Scan.run literal
  rw [String.toList_ofList, List.foldlM_cons]
  simp only [Scan.step, if_true, Option.bind_eq_bind, Option.bind_some]
  rw [List.foldlM_append, htext]
  simp [Scan.step]

/-- A text widget shows its text. -/
theorem reads_textWidget (s : String) : Reads (textWidget s) [s] := by
  have hname : Reads "Text" [] := .of_plain (by decide)
  have h := hname.append (reads_literal s).parenthesized
  rw [textWidget, show "Text(" = "Text" ++ "(" from rfl]
  simpa only [String.append_assoc, List.nil_append] using h

/-- A widget around others shows their texts. -/
theorem reads_nest {name : String} (hname : Reads name []) {codes : List String}
    {texts : List (List String)} (h : List.Forall₂ Reads codes texts) :
    Reads (nest name codes) texts.flatten := by
  cases h with
  | nil =>
    have hnone : Reads "" [] := .of_plain (by decide)
    exact hname.append hnone.parenthesized
  | @cons code found rest others hfirst hrest =>
    cases hrest with
    | nil =>
      have hchild : Reads "child: " [] := .of_plain (by decide)
      have hinner := hname.append (hchild.append hfirst).parenthesized
      rw [nest, show "(child: " = "(" ++ "child: " from rfl, List.flatten_singleton]
      simpa only [String.append_assoc, List.nil_append] using hinner
    | @cons next shown codes shownRest hnext hall =>
      have hcolumn : Reads "child: Column" [] := .of_plain (by decide)
      have hchildren : Reads "children: " [] := .of_plain (by decide)
      have hcomma : Reads ", " [] := .of_plain (by decide)
      have hitems := Reads.joined hcomma (.cons hfirst (.cons hnext hall))
      have hinner := hname.append
        (hcolumn.append (hchildren.append hitems.bracketed).parenthesized).parenthesized
      have hnest : nest name (code :: next :: codes) =
          name ++ ("(" ++ "child: Column" ++ "(" ++ "children: " ++ "[") ++
            joined ", " (code :: next :: codes) ++ ("]" ++ ")" ++ ")") := rfl
      rw [hnest]
      simpa only [String.append_assoc, List.nil_append] using hinner

/-- What is found under a tag is an entry of the table. -/
theorem mem_widgetTable {tag name : String} (h : widgetTable.lookup tag = some name) :
    (tag, name) ∈ widgetTable := by
  obtain ⟨before, after, htable, -⟩ := List.lookup_eq_some_iff.mp h
  rw [htable]
  exact List.mem_append_right before List.mem_cons_self

/-- The name of a widget has no texts in it. -/
theorem reads_widgetName (tag : String) : Reads (widgetName tag) [] := by
  have hplain : ∀ entry ∈ widgetTable, isPlain entry.2 = true := by decide
  unfold widgetName
  cases hname : widgetTable.lookup (lowered tag) with
  | none => exact .of_plain (by decide)
  | some name => exact .of_plain (hplain _ (mem_widgetTable hname))

/-- The elements that become texts are the captions. -/
theorem widgetName_eq_text_iff {tag : String} :
    widgetName tag = "Text" ↔ lowered tag ∈ captionTags := by
  have honly : ∀ entry ∈ widgetTable, entry.2 = "Text" → entry.1 ∈ captionTags := by decide
  have hall : ∀ tag ∈ captionTags, widgetTable.lookup tag = some "Text" := by decide
  constructor
  · intro h
    unfold widgetName at h
    cases hname : widgetTable.lookup (lowered tag) with
    | none =>
      rw [hname] at h
      exact absurd h (by decide)
    | some name =>
      rw [hname] at h
      exact honly _ (mem_widgetTable hname) h
  · intro h
    rw [widgetName, hall _ h]
    rfl

/-- The widgets within a node are those of its field for children, none where it is missing. -/
theorem childWidgets_eq (fields : List (String × Value)) :
    childWidgets fields = ((fields.lookup "children").map widgetsOf).getD (.ok []) := by
  induction fields with
  | nil => rw [childWidgets, List.lookup_nil, Option.map_none, Option.getD_none]
  | cons entry rest ih =>
    obtain ⟨key, value⟩ := entry
    rw [childWidgets, List.lookup_cons]
    by_cases hkey : key = "children"
    · rw [hkey, if_pos (beq_self_eq_true "children"), beq_self_eq_true]
      rfl
    · rw [if_neg (by simpa using hkey), ih, beq_false_of_ne (Ne.symm hkey)]

/-- What has nothing within it has no widgets within it. -/
theorem childWidgets_falsy {fields : List (String × Value)}
    (h : ∀ value ∈ fields.lookup "children", value.truthy = false) :
    childWidgets fields = .ok [] := by
  rw [childWidgets_eq]
  cases hvalue : fields.lookup "children" with
  | none => rfl
  | some value =>
    have hfalsy := h value hvalue
    rw [Option.map_some, Option.getD_some]
    cases value with
    | list items =>
      cases items with
      | nil => rw [widgetsOf, widgets]
      | cons => cases hfalsy
    | _ => simp [widgetsOf, hfalsy]

/-- The widget of an element shows its caption or what its children show. -/
theorem element_reads {fields : List (String × Value)} {tag : String} {children : List Sketch}
    {codes : List String} (htype : fields.lookup "type" = some (.str "element"))
    (hname : fields.lookup "name" = some (.str tag))
    (hcaption : caption (.object fields) = .ok (joined " " (children.filterMap Sketch.label?)))
    (hcodes : childWidgets fields = .ok codes)
    (h : List.Forall₂ Reads codes (children.map Sketch.texts)) :
    ∃ code, widget (.object fields) = .ok code ∧
      Reads code (Sketch.element tag children).texts := by
  rw [widget, Value.field_object htype, Value.field_object hname, Sketch.texts]
  by_cases hcaptioned : lowered tag ∈ captionTags
  · refine ⟨textWidget (joined " " (children.filterMap Sketch.label?)), ?_, ?_⟩
    · simp [bind, Except.bind, Value.textFor, widgetName_eq_text_iff.mpr hcaptioned, hcaption]
      rfl
    · rw [if_pos (List.contains_iff_mem.mpr hcaptioned)]
      exact reads_textWidget _
  · refine ⟨nest (widgetName tag) codes, ?_, ?_⟩
    · simp [bind, Except.bind, Value.textFor, mt widgetName_eq_text_iff.mp hcaptioned, hcodes]
      rfl
    · rw [if_neg (mt List.contains_iff_mem.mp hcaptioned), Sketch.textsOfAll_eq]
      exact reads_nest (reads_widgetName tag) h

mutual

/-- The widget of a node shows the texts of its sketch. -/
theorem widget_reads {value : Value} {part : Sketch} (h : Shows value part) :
    ∃ code, widget value = .ok code ∧ Reads code part.texts := by
  cases h with
  | @text fields name htype hname =>
    refine ⟨textWidget name, ?_, by rw [Sketch.texts]; exact reads_textWidget name⟩
    rw [widget, Value.field_object htype, Value.field_object hname]
    rfl
  | element htype hname hitems hchildren =>
    obtain ⟨codes, hcodes, hread⟩ := widgets_read hchildren
    refine element_reads htype hname (hchildren.caption_eq (Value.elementsOf_list hitems)) ?_ hread
    rw [childWidgets_eq, hitems, Option.map_some, Option.getD_some, widgetsOf, hcodes]
  | leaf htype hname hnone =>
    exact element_reads htype hname (ShowAll.nil.caption_eq (Value.elementsOf_falsy hnone))
      (childWidgets_falsy hnone) .nil
  | other htype htext helement =>
    refine ⟨"Container()", ?_, ?_⟩
    · rw [widget, Value.field_object htype]
      simp [bind, Except.bind, htext, helement]
      rfl
    · have hname : Reads "Container" [] := .of_plain (by decide)
      have hnone : Reads "" [] := .of_plain (by decide)
      rw [Sketch.texts]
      exact hname.append hnone.parenthesized

/-- The widgets of several nodes show the texts of their sketches. -/
theorem widgets_read {items : List Value} {forest : List Sketch} (h : ShowAll items forest) :
    ∃ codes, widgets items = .ok codes ∧ List.Forall₂ Reads codes (forest.map Sketch.texts) := by
  cases h with
  | nil => exact ⟨[], by rw [widgets], .nil⟩
  | cons hfirst hrest =>
    obtain ⟨code, hcode, hreads⟩ := widget_reads hfirst
    obtain ⟨codes, hcodes, hread⟩ := widgets_read hrest
    refine ⟨code :: codes, ?_, .cons hreads hread⟩
    rw [widgets, hcode, hcodes]
    rfl

end

/-- A column shows the texts of the widgets in it. -/
theorem reads_column {codes : List String} {texts : List (List String)}
    (h : List.Forall₂ Reads codes texts) : Reads (column codes) texts.flatten := by
  cases h with
  | nil =>
    have hname : Reads "Container" [] := .of_plain (by decide)
    have hnone : Reads "" [] := .of_plain (by decide)
    exact hname.append hnone.parenthesized
  | @cons code found rest others hfirst hrest =>
    cases hrest with
    | nil =>
      rw [column, List.flatten_singleton]
      exact hfirst
    | @cons next shown codes shownRest hnext hall =>
      have hname : Reads "Column" [] := .of_plain (by decide)
      have hbefore : Reads "\n        children: " [] := .of_plain (by decide)
      have hstart : Reads "\n        " [] := .of_plain (by decide)
      have hcomma : Reads ",\n        " [] := .of_plain (by decide)
      have hend : Reads "\n      " [] := .of_plain (by decide)
      have hafter : Reads ",\n    " [] := .of_plain (by decide)
      have hitems := Reads.joined hcomma (.cons hfirst (.cons hnext hall))
      have hlist := ((hstart.append hitems).append hend).bracketed
      have hinner := hname.append ((hbefore.append hlist).append hafter).parenthesized
      have hcolumn : column (code :: next :: codes) =
          "Column" ++ "(" ++ "\n        children: " ++ "[" ++ "\n        " ++
            joined ",\n        " (code :: next :: codes) ++
            ("\n      " ++ "]" ++ ",\n    " ++ ")") := rfl
      rw [hcolumn]
      simpa only [String.append_assoc, List.nil_append, List.append_nil] using hinner

/-- The code for a forest of nodes is read as the texts of its sketch. -/
theorem widgetTree_reads {items : List Value} {forest : List Sketch} (h : ShowAll items forest) :
    ∃ code, widgetTree (.list items) = .ok code ∧ Reads code (Sketch.textsOfAll forest) := by
  obtain ⟨codes, hcodes, hread⟩ := widgets_read h
  refine ⟨column codes, by rw [widgetTree, hcodes]; rfl, ?_⟩
  rw [Sketch.textsOfAll_eq]
  exact reads_column hread

/-- **Generated markup is well formed and says what the source says.** Whatever the nodes of a
forest and their texts are, all literals and all brackets in the code for it are closed, and its
literals are the texts of the forest in their order. -/
theorem textsIn?_widgetTree {items : List Value} {forest : List Sketch} (h : ShowAll items forest) :
    ∃ code, widgetTree (.list items) = .ok code ∧
      Scan.textsIn? code = some (Sketch.textsOfAll forest) := by
  obtain ⟨code, hcode, hreads⟩ := widgetTree_reads h
  refine ⟨code, hcode, ?_⟩
  rw [Scan.textsIn?, hreads]
  rfl

/-- Texts that hold an apostrophe, a backslash and a bracket. -/
theorem textsIn?_widgetTree_quoted :
    let items := Ir.Part.toValues "page.jsx"
      [.element (.str "DIV") []
        [.text (.str "it\x27s"),
          .element (.str "h1") []
            [.text (.str "a \\"), .element (.str "b") [] [], .text (.str "(")]],
        .text (.str "\\\x27")]
    let forest :=
      [.element "DIV"
        [.text "it\x27s", .element "h1" [.text "a \\", .element "b" [], .text "("]],
        .text "\\\x27"]
    ShowAll items forest ∧ ∃ code, widgetTree (.list items) = .ok code ∧
      Scan.textsIn? code = some ["it\x27s", "a \\ (", "\\\x27"] := by
  intro items forest
  have h : ShowAll items forest := by
    refine .cons (.element rfl rfl rfl (.cons (.text rfl rfl) (.cons ?caption .nil)))
      (.cons (.text rfl rfl) .nil)
    exact .element rfl rfl rfl
      (.cons (.text rfl rfl) (.cons (.element rfl rfl rfl .nil) (.cons (.text rfl rfl) .nil)))
  exact ⟨h, textsIn?_widgetTree h⟩

end Flutter

end Restack.Target
