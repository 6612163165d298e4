import Restack.Proofs.Conversion.SourceFiles
import Restack.Proofs.Target.Paths
import Restack.Proofs.Target.Widgets
import Restack.Proofs.Value.Entries

/-!
# Files of nodes

Code can be written for each node that is sound, on every platform, and the path of its file shows
where the node has its place. So does the path of its test, if the node is a component. What makes a
node sound is all that the writers of code read without asking whether it is there.
-/

namespace Restack

namespace Ir

open Target

/-- What a body holds is of the kind that code is written from: the texts and the tags of markup
are texts, and so is the code of a function; a class of a style sheet has settings. -/
def Body.Sound : Body → Prop
  | .component _ _ _ children => ∃ forest, ∀ file, ShowAll (Part.toValues file children) forest
  | .function code => ∃ text, code = .str text
  | .stylesheet classes => ∀ entry ∈ classes, entry.2.IsRecord

namespace Node

/-- Whether a node is a component. -/
def isComponent (node : Node) : Bool :=
  node.kindName == "component"

/-- Code can be written for a node: its name is a text, that of a component begins with a capital,
and its body is of the kind that code is written from. -/
structure Sound (node : Node) : Prop where
  name : node.name = .str node.name.display
  capital : node.isComponent = true → Text.isUpper (node.name.display.toList.take 1) = true
  body : node.body.Sound

variable {node : Node} {name : String} {props : List String} {state : List StateVariable}
  {hooks : List Value} {children : List Part} {options : Value}

/-- The record of a node tells whether it is a component. -/
theorem isComponent_toValue (node : Node) :
    Target.isComponent node.toValue = .ok node.isComponent := by
  obtain ⟨name, body, origin⟩ := node
  cases body <;> rfl

/-- The record of a node has its name. -/
theorem field_name (node : Node) : node.toValue.field "name" = .ok node.name := rfl

/-- A component is a node with such a body. -/
theorem isComponent_iff : node.isComponent = true ↔
    ∃ props state hooks children, node.body = .component props state hooks children := by
  obtain ⟨name, body, origin⟩ := node
  cases body with
  | component props state hooks children =>
    exact ⟨fun _ => ⟨props, state, hooks, children, rfl⟩, fun _ => rfl⟩
  | function => simp [isComponent, kindName]
  | stylesheet => simp [isComponent, kindName]

/-- The heading of the file of a node names the file that it comes from, or is left out. -/
theorem heading_eq (node : Node) (hoptions : options.IsRecord) :
    heading node.toValue options = .ok "" ∨
      heading node.toValue options = .ok ("// Converted from " ++ node.origin.file ++ "\n") := by
  obtain ⟨name, body, origin⟩ := node
  obtain ⟨comments, hcomments⟩ := hoptions.get?_ok "preserveComments"
  simp only [heading, hcomments, bind, Except.bind]
  split
  · exact .inl rfl
  · cases body <;> exact .inr rfl

/-- A node has a heading, whatever the record of options holds. -/
theorem heading_isOk (node : Node) (hoptions : options.IsRecord) :
    ∃ top, heading node.toValue options = .ok top :=
  (node.heading_eq hoptions).elim (fun h => ⟨_, h⟩) fun h => ⟨_, h⟩

section Component

variable (hbody : node.body = .component props state hooks children)
include hbody

/-- The record of a component has its properties. -/
theorem entriesOf_props : node.toValue.entriesOf "props" =
    .ok (Value.ofEntries (props.map fun prop => (prop, propValue prop))) := by
  obtain ⟨name, _, origin⟩ := node
  cases hbody
  exact Value.entriesOf_object rfl

/-- The record of a component has its state. -/
theorem entriesOf_state : node.toValue.entriesOf "state" =
    .ok (state.map fun kept => (kept.name, stateValue kept)) := by
  obtain ⟨name, _, origin⟩ := node
  cases hbody
  exact Value.entriesOf_object rfl

/-- The record of a component can be asked for its state. -/
theorem getTruthy?_state : ∃ kept, node.toValue.getTruthy? "state" = .ok kept := by
  obtain ⟨name, _, origin⟩ := node
  cases hbody
  exact ⟨_, rfl⟩

/-- The record of a component has what is within it. -/
theorem get_children :
    node.toValue.get "children" = .ok (.list (Part.toValues node.origin.file children)) := by
  obtain ⟨name, _, origin⟩ := node
  cases hbody
  rfl

end Component

/-- Something can be written for the properties of a component if it can be for each property of
no known type. -/
theorem mapM_props_isOk {β : Type} {step : String × Value → Except Fault β}
    (h : ∀ name prop, ∃ result, step (name, propValue prop) = .ok result) :
    ∃ results, (Value.ofEntries (props.map fun prop => (prop, propValue prop))).mapM step =
      .ok results := by
  refine mapM_isOk_iff.mpr fun entry hentry => ?_
  obtain ⟨prop, -, rfl⟩ := List.mem_map.mp (Value.mem_of_mem_ofEntries hentry)
  exact h prop prop

/-- Something can be written for the state of a component if it can be for each variable. -/
theorem mapM_state_isOk {β : Type} {step : String × Value → Except Fault β}
    (h : ∀ kept : StateVariable, ∃ result, step (kept.name, stateValue kept) = .ok result) :
    ∃ results, (state.map fun kept => (kept.name, stateValue kept)).mapM step = .ok results := by
  refine mapM_isOk_iff.mpr fun entry hentry => ?_
  obtain ⟨kept, -, rfl⟩ := List.mem_map.mp hentry
  exact h kept

end Node

end Ir

namespace Target

open Ir (Node)

variable {node : Node} {name : String} {options : Value} {props : List String}
  {state : List Ir.StateVariable} {hooks : List Value} {children : List Ir.Part}

/-- What a function held can be written down. -/
theorem commentedCode_isOk (h : node.body.Sound) :
    ∃ lines, commentedCode node.toValue = .ok lines := by
  obtain ⟨_, body, origin⟩ := node
  cases body with
  | component => exact ⟨_, rfl⟩
  | stylesheet => exact ⟨_, rfl⟩
  | function code =>
    obtain ⟨text, rfl⟩ := h
    let implementation := Value.object [("code", .str text), ("language", .str "javascript")]
    refine bind_isOk_of_eq (a := some implementation) rfl ?_
    refine bind_isOk_of_eq (a := .str text) rfl ?_
    split <;> exact ⟨_, rfl⟩

/-- The classes of a style sheet can be written down. -/
theorem commentedClasses_isOk (h : node.body.Sound) :
    ∃ lines, commentedClasses node.toValue = .ok lines := by
  obtain ⟨name, body, origin⟩ := node
  cases body with
  | component => exact ⟨_, rfl⟩
  | function => exact ⟨_, rfl⟩
  | stylesheet classes =>
    have hclasses : (Node.toValue ⟨name, .stylesheet classes, origin⟩).entriesOf "styles" =
        .ok classes := Value.entriesOf_object rfl
    refine bind_isOk_of_eq hclasses (bind_isOk (mapM_isOk_iff.mpr ?_) fun _ => ⟨_, rfl⟩)
    intro entry hentry
    obtain ⟨settings, hsettings⟩ := h entry hentry
    rw [hsettings]
    exact ⟨_, rfl⟩

/-- What a node carried can be written down. -/
theorem stubFile_isOk (h : node.body.Sound) (hoptions : options.IsRecord) :
    ∃ content, stubFile node.toValue options = .ok content := by
  have hstub : ∃ content, stub node.toValue = .ok content :=
    bind_isOk_of_eq rfl <| bind_isOk (commentedCode_isOk h) fun _ =>
      bind_isOk (commentedClasses_isOk h) fun _ => ⟨_, rfl⟩
  exact bind_isOk (node.heading_isOk hoptions) fun _ => bind_isOk hstub fun _ => ⟨_, rfl⟩

section Files

variable {node options : Value} {file : File}

/-- The file of a component holds the code of a widget, and the component has a name that is a
text. -/
theorem Flutter.code_of_emit (hcomponent : isComponent node = .ok true)
    (h : emit node options = .ok file) : ∃ name text, node.field "name" = .ok name ∧
      nameText name = .ok text ∧ code name node options = .ok file.content := by
  obtain ⟨answer, hanswer, h⟩ := exists_of_bind_eq_ok h
  rw [hcomponent] at hanswer
  cases hanswer
  rw [if_pos rfl] at h
  obtain ⟨name, hname, h⟩ := exists_of_bind_eq_ok h
  obtain ⟨content, hcontent, h⟩ := exists_of_bind_eq_ok h
  obtain ⟨text, htext, h⟩ := exists_of_bind_eq_ok h
  cases h
  exact ⟨name, text, hname, htext, hcontent⟩

/-- The file of a component holds the code of a screen. -/
theorem Compose.code_of_emit (hcomponent : isComponent node = .ok true)
    (h : emit node options = .ok file) :
    ∃ name, node.field "name" = .ok name ∧ code name node options = .ok file.content := by
  obtain ⟨name, hname, h⟩ := exists_of_bind_eq_ok h
  obtain ⟨answer, hanswer, h⟩ := exists_of_bind_eq_ok h
  rw [hcomponent] at hanswer
  cases hanswer
  rw [if_pos rfl] at h
  obtain ⟨content, hcontent, h⟩ := exists_of_bind_eq_ok h
  cases h
  exact ⟨name, hname, hcontent⟩

/-- The file of a component holds the code of a function component. -/
theorem React.code_of_emit (hcomponent : isComponent node = .ok true)
    (h : emit node options = .ok file) :
    ∃ name, node.field "name" = .ok name ∧ code name.display node options = .ok file.content := by
  obtain ⟨name, hname, h⟩ := exists_of_bind_eq_ok h
  obtain ⟨answer, hanswer, h⟩ := exists_of_bind_eq_ok h
  rw [hcomponent] at hanswer
  cases hanswer
  rw [if_pos rfl] at h
  obtain ⟨content, hcontent, h⟩ := exists_of_bind_eq_ok h
  cases h
  exact ⟨name, hname, hcontent⟩

end Files

namespace Flutter

variable (hbody : node.body = .component props state hooks children)
include hbody

/-- A component has a constructor. -/
theorem constructor_isOk (className : String) :
    ∃ code, constructor className node.toValue = .ok code :=
  bind_isOk_of_eq (Node.entriesOf_props hbody) <|
    bind_isOk (Node.mapM_props_isOk fun _ _ => ⟨_, rfl⟩) fun _ => ⟨_, rfl⟩

/-- A component has a head of its class. -/
theorem opening_isOk (className : String) :
    ∃ code, opening className node.toValue = .ok code := by
  refine bind_isOk (Node.getTruthy?_state hbody) fun kept => ?_
  split
  · refine bind_isOk (constructor_isOk hbody className) fun _ => ?_
    refine bind_isOk_of_eq (Node.entriesOf_state hbody) ?_
    exact bind_isOk (Node.mapM_state_isOk fun _ => ⟨_, rfl⟩) fun _ => ⟨_, rfl⟩
  · exact bind_isOk (constructor_isOk hbody className) fun _ => ⟨_, rfl⟩

/-- The code of a component can be written. -/
theorem code_isOk (h : node.body.Sound) (hoptions : options.IsRecord) (name : Value) :
    ∃ content, code name node.toValue options = .ok content := by
  rw [hbody] at h
  obtain ⟨forest, hforest⟩ := h
  obtain ⟨tree, htree, -⟩ := widgetTree_reads (hforest node.origin.file)
  refine bind_isOk (node.heading_isOk hoptions) fun _ => ?_
  refine bind_isOk (opening_isOk hbody _) fun _ => ?_
  refine bind_isOk_of_eq (Node.get_children hbody) (bind_isOk_of_eq htree ?_)
  refine bind_isOk_of_eq (Node.entriesOf_state hbody) ?_
  exact bind_isOk (Node.mapM_state_isOk fun _ => ⟨_, rfl⟩) fun _ => ⟨_, rfl⟩

end Flutter

namespace Compose

/-- A call can be written for an element if its caption can be. -/
theorem element_isOk {fields : List (String × Value)} {tag caption : String}
    (htype : fields.lookup "type" = some (.str "element"))
    (hname : fields.lookup "name" = some (.str tag))
    (hcaption : Target.caption (.object fields) = .ok caption) :
    ∃ code, composable (.object fields) = .ok code := by
  refine bind_isOk_of_eq (Value.field_object htype) ?_
  refine bind_isOk_of_eq (Value.field_object hname) (bind_isOk_of_eq rfl ?_)
  dsimp only
  split
  · exact bind_isOk_of_eq hcaption ⟨_, rfl⟩
  · exact ⟨_, rfl⟩

/-- A call can be written for each part of markup. -/
theorem composable_isOk {value : Value} {part : Sketch} (h : Shows value part) :
    ∃ code, composable value = .ok code := by
  cases h with
  | text htype hname =>
    refine bind_isOk_of_eq (Value.field_object htype) ?_
    exact bind_isOk_of_eq (Value.field_object hname) ⟨_, rfl⟩
  | element htype hname hitems hchildren =>
    exact element_isOk htype hname (hchildren.caption_eq (Value.elementsOf_list hitems))
  | leaf htype hname hnone =>
    exact element_isOk htype hname (ShowAll.nil.caption_eq (Value.elementsOf_falsy hnone))
  | @other fields kind htype htext helement =>
    refine bind_isOk_of_eq (Value.field_object htype) ⟨"Box \x7b\x7d", ?_⟩
    simp only [Value.beq_str_iff, Value.str.injEq, htext, helement, if_false]
    rfl

/-- There are composables for every forest of parts. -/
theorem composableTree_isOk {items : List Value} {forest : List Sketch} (h : ShowAll items forest) :
    ∃ code, composableTree (.list items) = .ok code := by
  unfold composableTree
  split
  · exact ⟨_, rfl⟩
  · refine bind_isOk_of_eq rfl ?_
    refine bind_isOk (mapM_isOk_iff.mpr fun value hvalue => ?_) fun _ => ⟨_, rfl⟩
    obtain ⟨part, hpart⟩ := h.shows_of_mem hvalue
    exact composable_isOk hpart

/-- The code of a component can be written. -/
theorem code_isOk (hbody : node.body = .component props state hooks children)
    (h : node.body.Sound) (hoptions : options.IsRecord) (name : Value) :
    ∃ content, code name node.toValue options = .ok content := by
  rw [hbody] at h
  obtain ⟨forest, hforest⟩ := h
  refine bind_isOk (node.heading_isOk hoptions) fun _ => ?_
  refine bind_isOk_of_eq (Node.entriesOf_props hbody) ?_
  refine bind_isOk (Node.mapM_props_isOk fun _ _ => ⟨_, rfl⟩) fun _ => ?_
  refine bind_isOk_of_eq (Node.entriesOf_state hbody) ?_
  refine bind_isOk (Node.mapM_state_isOk fun _ => ⟨_, rfl⟩) fun _ => ?_
  refine bind_isOk_of_eq (Node.get_children hbody) ?_
  exact bind_isOk (composableTree_isOk (hforest node.origin.file)) fun _ => ⟨_, rfl⟩

end Compose

namespace React

/-- The code of a component can be written. -/
theorem code_isOk (hbody : node.body = .component props state hooks children)
    (hoptions : options.IsRecord) (name : String) :
    ∃ content, code name node.toValue options = .ok content := by
  refine bind_isOk (node.heading_isOk hoptions) fun _ => ?_
  refine bind_isOk_of_eq (Node.entriesOf_props hbody) ?_
  refine bind_isOk (Node.mapM_props_isOk fun _ _ => ⟨_, rfl⟩) fun _ => ?_
  refine bind_isOk_of_eq (Node.entriesOf_state hbody) ?_
  exact bind_isOk (Node.mapM_state_isOk fun _ => ⟨_, rfl⟩) fun _ => ⟨_, rfl⟩

end React

namespace Platform

section

variable (platform : Platform) (hname : node.toValue.field "name" = .ok (.str name))
include hname

/-- The file of a component stands where its place is. -/
theorem emit_component_isOk (hcomponent : node.isComponent = true) (h : node.body.Sound)
    (hoptions : options.IsRecord) : ∃ file, platform.emit node.toValue options = .ok file ∧
      file.path = (platform.place true name).path platform.layout := by
  have hkind := node.isComponent_toValue
  rw [hcomponent] at hkind
  obtain ⟨props, state, hooks, children, hbody⟩ := Node.isComponent_iff.mp hcomponent
  cases platform with
  | flutter =>
    obtain ⟨content, hcontent⟩ := Flutter.code_isOk hbody h hoptions (.str name)
    refine ⟨⟨(flutter.place true name).path flutter.layout, content, "dart"⟩, ?_, rfl⟩
    simp only [emit, Flutter.emit, hname, hkind, hcontent, bind, Except.bind]
    rfl
  | compose =>
    obtain ⟨content, hcontent⟩ := Compose.code_isOk hbody h hoptions (.str name)
    refine ⟨⟨(compose.place true name).path compose.layout, content, "kotlin"⟩, ?_, rfl⟩
    simp only [emit, Compose.emit, hname, hkind, hcontent, bind, Except.bind]
    rfl
  | react =>
    obtain ⟨content, hcontent⟩ := React.code_isOk hbody hoptions name
    refine ⟨⟨(react.place true name).path react.layout, content, "typescript"⟩, ?_, rfl⟩
    simp only [emit, React.emit, hname, hkind, Value.display, hcontent, bind, Except.bind]
    rfl

/-- The file of a node that is no component stands where its place is, and holds what the node
carried. -/
theorem emit_stub_isOk (hcomponent : node.isComponent = false) (h : node.body.Sound)
    (hoptions : options.IsRecord) : ∃ file, platform.emit node.toValue options = .ok file ∧
      file.path = (platform.place false name).path platform.layout ∧
      stubFile node.toValue options = .ok file.content := by
  have hkind := node.isComponent_toValue
  rw [hcomponent] at hkind
  obtain ⟨content, hcontent⟩ := stubFile_isOk h hoptions
  cases platform with
  | flutter =>
    refine ⟨⟨(flutter.place false name).path flutter.layout, content, "dart"⟩, ?_, rfl, hcontent⟩
    simp only [emit, Flutter.emit, hname, hkind, nameText, hcontent, bind, Except.bind]
    rfl
  | compose =>
    refine ⟨⟨(compose.place false name).path compose.layout, content, "kotlin"⟩, ?_, rfl, hcontent⟩
    simp only [emit, Compose.emit, hname, hkind, nameText, hcontent, bind, Except.bind]
    rfl
  | react =>
    refine ⟨⟨(react.place false name).path react.layout, content, "typescript"⟩, ?_, rfl, hcontent⟩
    simp only [emit, React.emit, hname, hkind, nameText, hcontent, bind, Except.bind]
    rfl

/-- A node has a file for every platform, and its path shows the place of the node. -/
theorem emit_isOk (h : node.body.Sound) (hoptions : options.IsRecord) :
    ∃ file, platform.emit node.toValue options = .ok file ∧
      file.path = (platform.place node.isComponent name).path platform.layout := by
  cases hcomponent : node.isComponent with
  | true => exact emit_component_isOk platform hname hcomponent h hoptions
  | false =>
    obtain ⟨file, hfile, hpath, -⟩ := emit_stub_isOk platform hname hcomponent h hoptions
    exact ⟨file, hfile, hpath⟩

/-- A component has a test for every platform, and its path shows the place of the component. -/
theorem test_isOk (hcomponent : node.isComponent = true) :
    ∃ file, platform.test node.toValue = .ok file ∧
      (platform.place true name).testPath? platform.layout = some file.path := by
  obtain ⟨props, state, hooks, children, hbody⟩ := Node.isComponent_iff.mp hcomponent
  have hprops := Node.entriesOf_props hbody
  cases platform with
  | flutter =>
    refine bind_isOk_and_of_eq hname (bind_isOk_and_of_eq hprops ?_)
    refine bind_isOk_and (Node.mapM_props_isOk fun _ _ => ⟨_, rfl⟩) fun _ => ?_
    exact bind_isOk_and_of_eq rfl ⟨_, rfl, rfl⟩
  | compose =>
    refine bind_isOk_and_of_eq hname (bind_isOk_and_of_eq hprops ?_)
    exact bind_isOk_and (Node.mapM_props_isOk fun _ _ => ⟨_, rfl⟩) fun _ => ⟨_, rfl, rfl⟩
  | react => exact bind_isOk_and_of_eq hname ⟨_, rfl, rfl⟩

end

end Platform

end Target

end Restack
