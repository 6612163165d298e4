import Restack.Proofs.Conversion.Totality
import Restack.Proofs.Ir.Markup
import Restack.Proofs.Script.Summaries
import Restack.Proofs.Target.Emission

/-!
# Nodes of source files

What is reported on a source file is lowered to nodes without fault, and the nodes are sound: code
can be written for each of them. The names of components begin with a capital, since only functions
with such a name are components.
-/

namespace Restack

namespace Script

/-- The name of a component begins with a capital. -/
def Component.Capital (component : Component) : Prop :=
  Text.isUpper (component.name.toList.take 1) = true

/-- The names of all components of a script begin with a capital. -/
theorem Summary.ofTree_capital (tree : Tree) :
    ∀ component ∈ (Summary.ofTree tree).components, component.Capital := by
  intro component hcomponent
  obtain ⟨declarator, name, function, -, hdeclares, rfl⟩ := mem_components_iff.mp hcomponent
  exact hdeclares.capital

end Script

namespace Ir

open Target

/-- The node is a component that keeps these variables. -/
def Node.Keeps (node : Node) (state : List StateVariable) : Prop :=
  ∃ props hooks children, node.body = .component props state hooks children

/-- Only components keep state. -/
theorem Node.Keeps.isComponent {node : Node} {state : List StateVariable} (h : node.Keeps state) :
    node.isComponent = true := by
  obtain ⟨props, hooks, children, hbody⟩ := h
  exact isComponent_iff.mpr ⟨props, state, hooks, children, hbody⟩

/-- A component keeps its variables and no others. -/
theorem Node.Keeps.eq {node : Node} {state other : List StateVariable} (h : node.Keeps state)
    (hother : node.Keeps other) : state = other := by
  obtain ⟨_, _, _, hbody⟩ := h
  obtain ⟨_, _, _, hsame⟩ := hother
  rw [hbody] at hsame
  cases hsame
  rfl

namespace Lowering

open Script (Markup)

/-- A name that is a text stays one where a standard stands in for it. -/
theorem nameOr_isText (standard : String) (fields : List (String × Value)) {name : String}
    (h : fields.lookup "name" = some (.str name)) :
    ∃ found, nameOr standard (.object fields) = .ok (.str found) := by
  simp only [nameOr, Value.getTruthy?, Value.get, Value.get?, h, Except.map, Option.getD_some]
  split
  · exact ⟨name, rfl⟩
  · exact ⟨standard, rfl⟩

mutual

/-- The markup of a script lowers to parts whose tags and texts are texts. -/
theorem parts_toValue (markup : Markup) :
    ∃ lowered, parts markup.toValue = .ok lowered ∧
      ∃ forest, ∀ file, ShowAll (Part.toValues file lowered) forest := by
  cases markup with
  | fragment children =>
    obtain ⟨lowered, hlowered, hforest⟩ := partsOfAll_toValues children
    rw [Markup.toValue, parts, if_neg (by simp)]
    refine bind_isOk_and_of_eq (a := .str "Fragment") rfl ⟨lowered, ?_, hforest⟩
    simpa [childParts, partsOfItems] using hlowered
  | element name settings children =>
    obtain ⟨lowered, hlowered, forest, hforest⟩ := partsOfAll_toValues children
    rw [Markup.toValue, parts, if_neg (by simp)]
    refine bind_isOk_and_of_eq (a := .str "Element") rfl ?_
    let fields : List (String × Value) :=
      [("type", .str "Element"), ("name", .str name),
        ("props", .object (settings.map fun entry => (entry.1, entry.2.toValue))),
        ("children", .list (Markup.toValues children))]
    have hparts : childParts fields = .ok lowered := by
      simpa [fields, childParts, partsOfItems] using hlowered
    obtain ⟨tag, htag⟩ := nameOr_isText "div" fields rfl
    refine bind_isOk_and_of_eq htag (bind_isOk_and_of_eq hparts ?_)
    refine bind_isOk_and_of_eq (Value.entriesOf_object rfl) ?_
    refine ⟨_, rfl, [.element tag forest], fun file => .cons (.element rfl rfl rfl ?_) .nil⟩
    exact hforest file
  | text content =>
    rw [Markup.toValue, parts, if_neg (by simp)]
    refine bind_isOk_and_of_eq (a := .str "Text") rfl ?_
    obtain ⟨found, hfound⟩ :=
      nameOr_isText "" [("type", .str "Text"), ("name", .str content)] rfl
    refine bind_isOk_and_of_eq hfound ⟨_, rfl, [.text found], fun file => ?_⟩
    exact .cons (.text rfl rfl) .nil
  | expression kind =>
    rw [Markup.toValue, parts, if_neg (by simp)]
    exact bind_isOk_and_of_eq (a := .str "Expression") rfl ⟨[], rfl, [], fun file => .nil⟩

/-- The markup of a script is lowered to parts that show a forest, wherever the file is. -/
theorem partsOfAll_toValues (markup : List Markup) :
    ∃ lowered, partsOfAll (Markup.toValues markup) = .ok lowered ∧
      ∃ forest, ∀ file, ShowAll (Part.toValues file lowered) forest := by
  cases markup with
  | nil => exact ⟨[], rfl, [], fun file => .nil⟩
  | cons first rest =>
    obtain ⟨lowered, hlowered, forest, hforest⟩ := parts_toValue first
    obtain ⟨others, hothers, more, hmore⟩ := partsOfAll_toValues rest
    refine ⟨lowered ++ others, ?_, forest ++ more, fun file => ?_⟩
    · rw [Markup.toValues, partsOfAll, hlowered, hothers]
      rfl
    · rw [Part.toValues_append]
      exact (hforest file).append (hmore file)

end

/-- The variables that a component of a script keeps. -/
def keptBy (component : Script.Component) : List StateVariable :=
  component.state.map fun entry => .ofText entry.1 entry.2

/-- The state of a component is read back from its record. -/
theorem stateOf_toValue (component : Script.Component) (isDefault : Bool) :
    stateOf (component.toValue isDefault) = .ok (keptBy component) := by
  have hentries : (component.toValue isDefault).entriesOf "state" =
      .ok (component.state.map fun entry => (entry.1, .str entry.2)) :=
    Value.entriesOf_object rfl
  unfold stateOf
  rw [hentries]
  refine (List.mapM_map ..).trans ?_
  exact List.mapM_pure

variable (file framework : String) (dependencies : List Value)

/-- A node stands for a component of a script: code can be written for it, and it has the name and
the variables of the component. -/
structure IsNodeOf (component : Script.Component) (node : Node) : Prop where
  sound : node.Sound
  name : node.name = .str component.name
  keeps : node.Keeps (keptBy component)

/-- A component of a script has a node. -/
theorem component_toValue {component : Script.Component}
    (hcapital : component.Capital) (isDefault : Bool) :
    ∃ node, Lowering.component file framework dependencies (component.toValue isDefault) =
      .ok node ∧ IsNodeOf component node := by
  have hprops : ∃ props, propsOf (component.toValue isDefault) = .ok props := by
    refine bind_isOk_of_eq (Value.elementsOf_list rfl) (mapM_isOk_iff.mpr fun value hvalue => ?_)
    obtain ⟨prop, -, rfl⟩ := List.mem_map.mp hvalue
    exact ⟨_, rfl⟩
  obtain ⟨children, hchildren, hforest⟩ := parts_toValue component.markup
  refine bind_isOk_and_of_eq (a := .str component.name) rfl ?_
  refine bind_isOk_and hprops fun props => ?_
  refine bind_isOk_and_of_eq (stateOf_toValue component isDefault) ?_
  refine bind_isOk_and_of_eq (Value.elementsOf_list rfl) ?_
  refine bind_isOk_and_of_eq (a := component.markup.toValue) rfl (bind_isOk_and_of_eq hchildren ?_)
  refine bind_isOk_and_of_eq (a := .bool isDefault) rfl ⟨_, rfl, ?_⟩
  exact ⟨{ name := rfl, capital := fun _ => hcapital, body := hforest }, rfl, _, _, _, rfl⟩

/-- The components of a script have nodes, and each of these stands for one of them. -/
theorem mapM_component_isOk {components : List Script.Component}
    (h : ∀ component ∈ components, component.Capital)
    (isDefault : Script.Component → Bool) :
    ∃ nodes, (components.map fun component => component.toValue (isDefault component)).mapM
      (component file framework dependencies) = .ok nodes ∧
        (∀ node ∈ nodes, ∃ component ∈ components, IsNodeOf component node) ∧
        ∀ component ∈ components, ∃ node ∈ nodes, IsNodeOf component node := by
  have hstep : ∀ component ∈ components, ∃ node, Lowering.component file framework dependencies
      (component.toValue (isDefault component)) = .ok node ∧ IsNodeOf component node :=
    fun component hcomponent => component_toValue file framework dependencies
      (h component hcomponent) (isDefault component)
  obtain ⟨nodes, hnodes, hfrom⟩ := mapM_isOk_and
    (P := fun node => ∃ component ∈ components, IsNodeOf component node) fun value hvalue => by
      obtain ⟨component, hcomponent, rfl⟩ := List.mem_map.mp hvalue
      obtain ⟨node, hnode, hof⟩ := hstep component hcomponent
      exact ⟨node, hnode, component, hcomponent, hof⟩
  refine ⟨nodes, hnodes, hfrom, fun component hcomponent => ?_⟩
  obtain ⟨node, hmem, hnode⟩ := exists_mem_of_mapM hnodes (List.mem_map_of_mem hcomponent)
  obtain ⟨other, hother, hof⟩ := hstep component hcomponent
  obtain rfl := Except.ok.inj (hnode.symm.trans hother)
  exact ⟨node, hmem, hof⟩

/-- The node of a function of a script. -/
def routineNode (routine : Script.Routine) : Node :=
  ⟨.str routine.name, .function (.str routine.body),
    ⟨file, framework, dependencies, if routine.isExported then [.str routine.name] else []⟩⟩

/-- Code can be written for the node of a function. -/
theorem routineNode_sound (routine : Script.Routine) :
    (routineNode file framework dependencies routine).Sound :=
  { name := rfl, capital := nofun, body := ⟨routine.body, rfl⟩ }

/-- The records of functions are lowered one by one. -/
theorem mapM_routine_toValue (routines : List Script.Routine) :
    (routines.map Script.Routine.toValue).mapM (routine file framework dependencies) =
      .ok (routines.map (routineNode file framework dependencies)) := by
  rw [List.mapM_map]
  exact List.mapM_pure

/-- The name of the node of a style sheet: the path of its file, if that is not empty. -/
def sheetName (path : String) : String :=
  if (Value.str path).truthy then path else "styles"

/-- The classes of a style sheet as its node carries them. -/
def sheetClasses (sheet : Style.Sheet) : List (String × Value) :=
  sheet.classes.map fun entry =>
    (entry.1, .object (entry.2.map fun property => (property.1, .str property.2)))

/-- The node of a style sheet in a file. -/
def sheetNode (path : String) (sheet : Style.Sheet) : Node :=
  ⟨.str (sheetName path), .stylesheet (sheetClasses sheet), ⟨file, framework, [], []⟩⟩

/-- The record of a style sheet is lowered to one node. -/
theorem stylesheet_report (path code : String) :
    Lowering.stylesheet file framework (Style.Sheet.report path code) =
      .ok (sheetNode file framework path (Style.Sheet.ofText code)) := by
  have hname : nameOr "styles" (Style.Sheet.report path code) = .ok (.str (sheetName path)) := by
    change Except.ok ((if (Value.str path).truthy then some (Value.str path) else none).getD
      (.str "styles")) = _
    unfold sheetName
    split <;> rfl
  have hstyles : (Style.Sheet.report path code).getTruthy? "styles" =
      .ok (if (Style.Sheet.ofText code).toValue.truthy then
        some (Style.Sheet.ofText code).toValue else none) := rfl
  unfold Lowering.stylesheet
  rw [hname, hstyles]
  unfold sheetNode sheetClasses Style.Sheet.toValue
  cases (Style.Sheet.ofText code).classes <;> rfl

/-- Code can be written for the node of a style sheet. -/
theorem sheetNode_sound (path : String) (sheet : Style.Sheet) :
    (sheetNode file framework path sheet).Sound := by
  refine { name := rfl, capital := nofun, body := fun entry hentry => ?_ }
  obtain ⟨_, -, rfl⟩ := List.mem_map.mp hentry
  exact ⟨_, rfl⟩

/-- A style sheet has one node. -/
theorem nodes_sheet (path code : String) :
    Lowering.nodes (Style.Sheet.report path code) file framework =
      .ok [sheetNode file framework path (Style.Sheet.ofText code)] := by
  have hnone : ∀ key, (Style.Sheet.report path code).get key = .ok .null →
      (Style.Sheet.report path code).elementsOf key = .ok [] := by
    intro key hkey
    simp only [Value.elementsOf, Value.getTruthy?, hkey]
    rfl
  unfold Lowering.nodes
  simp only [hnone "importSources" rfl, hnone "components" rfl, hnone "functions" rfl,
    stylesheet_report]
  rfl

/-- The nodes of a script are those of its components, each of which has one, and those of its
functions. -/
theorem nodes_script_cases (tree : Script.Tree) : ∃ nodes,
    Lowering.nodes (Script.Summary.ofTree tree).toValue file framework = .ok nodes ∧
      (∀ node ∈ nodes,
        (∃ component ∈ (Script.Summary.ofTree tree).components, IsNodeOf component node) ∨
        ∃ dependencies, ∃ routine ∈ (Script.Summary.ofTree tree).routines,
          node = routineNode file framework dependencies routine) ∧
      ∀ component ∈ (Script.Summary.ofTree tree).components,
        ∃ node ∈ nodes, IsNodeOf component node := by
  let summary := Script.Summary.ofTree tree
  let dependencies := summary.importSources.map Value.str
  obtain ⟨components, hcomponents, hfrom, hall⟩ := mapM_component_isOk file framework dependencies
    (Script.Summary.ofTree_capital tree)
    fun component => some component.name == summary.defaultExport
  have hroutines := mapM_routine_toValue file framework dependencies summary.routines
  refine bind_isOk_and_of_eq (a := .str "Program") rfl ?_
  dsimp only
  rw [if_neg (by simp)]
  refine bind_isOk_and_of_eq (Value.elementsOf_list rfl) ?_
  refine bind_isOk_and_of_eq (Value.elementsOf_list rfl) (bind_isOk_and_of_eq hcomponents ?_)
  refine bind_isOk_and_of_eq (Value.elementsOf_list rfl) (bind_isOk_and_of_eq hroutines ?_)
  refine bind_isOk_and_of_eq (a := .str "Program") rfl ?_
  rw [if_neg (by simp)]
  refine ⟨_, rfl, fun node hnode => ?_, fun component hcomponent => ?_⟩
  · rw [List.append_nil] at hnode
    rcases List.mem_append.mp hnode with hnode | hnode
    · exact .inl (hfrom node hnode)
    · obtain ⟨routine, hroutine, rfl⟩ := List.mem_map.mp hnode
      exact .inr ⟨dependencies, routine, hroutine, rfl⟩
  · obtain ⟨node, hnode, hof⟩ := hall component hcomponent
    exact ⟨node, List.mem_append_left _ (List.mem_append_left _ hnode), hof⟩

/-- The nodes of a script are components, and those of its functions. -/
theorem nodes_script (tree : Script.Tree) : ∃ nodes,
    Lowering.nodes (Script.Summary.ofTree tree).toValue file framework = .ok nodes ∧
      ∀ node ∈ nodes, node.Sound ∧ (node.isComponent = true ∨
        ∃ dependencies, ∃ routine ∈ (Script.Summary.ofTree tree).routines,
          node = routineNode file framework dependencies routine) := by
  obtain ⟨nodes, hnodes, hfrom, -⟩ := nodes_script_cases file framework tree
  refine ⟨nodes, hnodes, fun node hnode => ?_⟩
  rcases hfrom node hnode with ⟨component, -, hof⟩ | ⟨dependencies, routine, hroutine, rfl⟩
  · exact ⟨hof.sound, .inl hof.keeps.isComponent⟩
  · exact ⟨routineNode_sound file framework dependencies routine,
      .inr ⟨dependencies, routine, hroutine, rfl⟩⟩

/-- A script that could not be read has no nodes. -/
theorem nodes_failure (path reason : String) :
    Lowering.nodes (Script.failure path reason) file framework = .ok [] :=
  rfl

/-- All of a report is lowered, and code can be written for each node. -/
theorem nodes_isOk {report : Value} (h : Conversion.IsReport report) :
    ∃ nodes, Lowering.nodes report file framework = .ok nodes ∧ ∀ node ∈ nodes, node.Sound := by
  cases h with
  | script tree =>
    obtain ⟨nodes, hnodes, hsound⟩ := nodes_script file framework tree
    exact ⟨nodes, hnodes, fun node hnode => (hsound node hnode).1⟩
  | sheet path code =>
    refine ⟨_, nodes_sheet file framework path code, fun node hnode => ?_⟩
    rw [List.mem_singleton.mp hnode]
    exact sheetNode_sound file framework path _

end Lowering

end Ir

namespace Conversion

/-- All nodes of a parsed file can be written. -/
theorem lowerReport_sound {parsed : Parsed} (hfile : parsed.file.IsSourceFile)
    (hreport : IsReport parsed.report) (framework : String) :
    ∃ outcome, lowerReport framework parsed = .ok outcome ∧
      ∀ node ∈ outcome.passed, node.Sound := by
  obtain ⟨path, hpath⟩ := hfile.path
  obtain ⟨nodes, hnodes, hsound⟩ :=
    Ir.Lowering.nodes_isOk (Value.str path).display framework hreport
  refine bind_isOk_and_of_eq hpath ?_
  rw [hnodes]
  exact ⟨_, rfl, hsound⟩

/-- Source files are parsed and lowered, and all of their nodes can be written. -/
theorem lowered_isOk (parser : Script.Parser) {files : List Value}
    (h : ∀ file ∈ files, file.IsSourceFile) (source : String) :
    ∃ parsed lowered, parseSources parser files = .ok parsed ∧
      lowerReports source parsed.passed = .ok lowered ∧ ∀ node ∈ lowered.passed, node.Sound := by
  obtain ⟨parsed, hparsed, hreports⟩ := Outcome.gather_isOk fun file hfile =>
    parseSource_isOk parser (h file hfile)
  obtain ⟨lowered, hlowered, hsound⟩ := Outcome.gather_isOk fun found hfound =>
    lowerReport_sound (hreports found hfound).1 (hreports found hfound).2 source
  exact ⟨parsed, lowered, hparsed, hlowered, hsound⟩

end Conversion

end Restack
