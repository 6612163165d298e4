import Restack.Ir.Lowering
import Restack.Proofs.Value.Entries

/-!
# Lowering keeps elements and texts and dissolves fragments

What markup lowers to has the elements and texts of the markup in their order and at their depth,
once computed parts are left out and each fragment stands for its children. A run of siblings can
therefore be put into a fragment, or a fragment be replaced by its children, anywhere in a tree
without a trace in the nodes.
-/

namespace Restack.Ir

/-- A tree of markup without its attributes. -/
inductive Shape where
  | element (name : Value) (children : List Shape)
  | text (name : Value)
  | expression
  | fragment (children : List Shape)

namespace Shape

mutual

/-- What stands for a shape where computed parts are left out and a fragment is replaced by its
children. -/
def dissolved : Shape → List Shape
  | element name children => [element name (dissolvedAll children)]
  | text name => [text name]
  | expression => []
  | fragment children => dissolvedAll children

/-- What stands for the shapes in a row. -/
def dissolvedAll : List Shape → List Shape
  | [] => []
  | shape :: rest => shape.dissolved ++ dissolvedAll rest

end

/-- What an outline lists: the name of an element or of a text. -/
inductive Label where
  | element (name : Value)
  | text (name : Value)

mutual

/-- The elements and texts of a shape in the order in which they begin, each with its depth. -/
def outline (depth : Nat) : Shape → List (Nat × Label)
  | element name children => (depth, .element name) :: outlineAll (depth + 1) children
  | text name => [(depth, .text name)]
  | expression => []
  | fragment children => outlineAll (depth + 1) children

/-- The elements and texts of shapes in a row. -/
def outlineAll (depth : Nat) : List Shape → List (Nat × Label)
  | [] => []
  | shape :: rest => shape.outline depth ++ outlineAll depth rest

end

/-- Shapes one after the other have their outlines one after the other. -/
theorem outlineAll_append (depth : Nat) (first second : List Shape) :
    outlineAll depth (first ++ second) = outlineAll depth first ++ outlineAll depth second := by
  induction first with
  | nil => rfl
  | cons shape rest ih => rw [List.cons_append, outlineAll, outlineAll, ih, List.append_assoc]

end Shape

/-- The name among the fields of a part of markup, or a standard name where it is missing or counts
as false. -/
def nameAmong (standard : String) (fields : List (String × Value)) : Value :=
  ((fields.lookup "name").filter Value.truthy).getD (.str standard)

/-- The children of a part of markup: a list, or none where the field is missing or counts as
false. -/
def ChildrenAre (fields : List (String × Value)) (items : List Value) : Prop :=
  fields.lookup "children" = some (.list items) ∨
    items = [] ∧ ∀ value ∈ fields.lookup "children", value.truthy = false

/-- The attributes of a part of markup are an object, or the field is missing or counts as false. -/
def HasAttributes (fields : List (String × Value)) : Prop :=
  ∀ value ∈ fields.lookup "props", value.truthy = false ∨ ∃ settings, value = .object settings

/-- The attributes of an element can be looked through. -/
theorem HasAttributes.entriesOf_isOk {fields : List (String × Value)} (h : HasAttributes fields) :
    ∃ settings, (Value.object fields).entriesOf "props" = .ok settings := by
  simp only [Value.entriesOf, Value.getTruthy?, Value.get, Value.get?, Except.map]
  cases hvalue : fields.lookup "props" with
  | none => exact ⟨[], rfl⟩
  | some value =>
    rw [Option.getD_some]
    rcases h value hvalue with hfalse | ⟨settings, rfl⟩
    · rw [hfalse]
      exact ⟨[], rfl⟩
    · cases settings with
      | nil => exact ⟨[], rfl⟩
      | cons entry rest => exact ⟨entry :: rest, rfl⟩

/-- A row of reported markup is made of elements, texts, computed parts and fragments, to any depth,
and has these shapes. Further fields may stand among those of a part. -/
inductive Depicts : List Value → List Shape → Prop
  | nil : Depicts [] []
  | element {fields : List (String × Value)} {items rest : List Value}
      {children shapes : List Shape} (htype : fields.lookup "type" = some (.str "Element"))
      (hattributes : HasAttributes fields)
      (hitems : ChildrenAre fields items) (hchildren : Depicts items children)
      (hrest : Depicts rest shapes) :
      Depicts (.object fields :: rest) (.element (nameAmong "div" fields) children :: shapes)
  | text {fields : List (String × Value)} {rest : List Value} {shapes : List Shape}
      (htype : fields.lookup "type" = some (.str "Text")) (hrest : Depicts rest shapes) :
      Depicts (.object fields :: rest) (.text (nameAmong "" fields) :: shapes)
  | expression {fields : List (String × Value)} {rest : List Value} {shapes : List Shape}
      (htype : fields.lookup "type" = some (.str "Expression")) (hrest : Depicts rest shapes) :
      Depicts (.object fields :: rest) (.expression :: shapes)
  | fragment {fields : List (String × Value)} {items rest : List Value}
      {children shapes : List Shape} (htype : fields.lookup "type" = some (.str "Fragment"))
      (hitems : ChildrenAre fields items) (hchildren : Depicts items children)
      (hrest : Depicts rest shapes) :
      Depicts (.object fields :: rest) (.fragment children :: shapes)

/-- A row of reported nodes is made of elements and texts, to any depth, and from this depth on it
has these names. -/
inductive Lists : Nat → List Value → List (Nat × Shape.Label) → Prop
  | nil (depth : Nat) : Lists depth [] []
  | element {depth : Nat} {fields : List (String × Value)} {name : Value} {items rest : List Value}
      {inner after : List (Nat × Shape.Label)}
      (htype : fields.lookup "type" = some (.str "element"))
      (hname : fields.lookup "name" = some name)
      (hchildren : fields.lookup "children" = some (.list items))
      (hinner : Lists (depth + 1) items inner) (hafter : Lists depth rest after) :
      Lists depth (.object fields :: rest) ((depth, .element name) :: inner ++ after)
  | text {depth : Nat} {fields : List (String × Value)} {name : Value} {rest : List Value}
      {after : List (Nat × Shape.Label)} (htype : fields.lookup "type" = some (.str "text"))
      (hname : fields.lookup "name" = some name) (hafter : Lists depth rest after) :
      Lists depth (.object fields :: rest) ((depth, .text name) :: after)

/-- Nodes one after the other have their names one after the other. -/
theorem Lists.append {depth : Nat} {first second : List Value}
    {before after : List (Nat × Shape.Label)} (hfirst : Lists depth first before)
    (hsecond : Lists depth second after) :
    Lists depth (first ++ second) (before ++ after) := by
  induction hfirst with
  | nil => exact hsecond
  | element htype hname hchildren hinner _ _ ihafter =>
    rw [List.append_assoc]
    exact .element htype hname hchildren hinner (ihafter hsecond)
  | text htype hname _ ihafter => exact .text htype hname (ihafter hsecond)

/-- A row of reported markup differs from another by one fragment: around a run of siblings in one
of them, or around the same run at some depth. -/
inductive Rewrap : List Value → List Value → Prop
  | wrap {fields : List (String × Value)} {run : List Value} (before after : List Value)
      (htype : fields.lookup "type" = some (.str "Fragment")) (hrun : ChildrenAre fields run) :
      Rewrap (before ++ run ++ after) (before ++ .object fields :: after)
  | unwrap {fields : List (String × Value)} {run : List Value} (before after : List Value)
      (htype : fields.lookup "type" = some (.str "Fragment")) (hrun : ChildrenAre fields run) :
      Rewrap (before ++ .object fields :: after) (before ++ run ++ after)
  | within {fields : List (String × Value)} {items others : List Value} (before after : List Value)
      (hitems : ChildrenAre fields items) (hinner : Rewrap items others) :
      Rewrap (before ++ .object fields :: after)
        (before ++ .object (Value.setField "children" (.list others) fields) :: after)

namespace Part

/-- Parts are reported one after the other. -/
theorem toValues_append (file : String) (first second : List Part) :
    toValues file (first ++ second) = toValues file first ++ toValues file second := by
  induction first with
  | nil => rfl
  | cons part rest ih => rw [List.cons_append, toValues, toValues, ih, List.cons_append]

end Part

namespace Lowering

variable {fields : List (String × Value)} {items others : List Value}

/-- The name of a part is the one among its fields, or else the standard one. -/
theorem nameOr_eq (standard : String) (fields : List (String × Value)) :
    nameOr standard (.object fields) = .ok (nameAmong standard fields) := by
  simp only [nameOr, Value.getTruthy?, Value.get, Value.get?, Except.map, nameAmong]
  cases fields.lookup "name" with
  | none => rfl
  | some name =>
    rw [Option.getD_some]
    cases hname : name.truthy with
    | false => simp [Option.filter, hname]
    | true => simp [Option.filter, hname]

/-- How a part of markup lowers is told by its type. -/
theorem parts_object (fields : List (String × Value)) :
    parts (.object fields) =
      let kind := (fields.lookup "type").getD .null
      if kind == .str "Element" then do
        let children ← childParts fields
        let settings ← (Value.object fields).entriesOf "props"
        return [.element (nameAmong "div" fields) settings children]
      else if kind == .str "Text" then .ok [.text (nameAmong "" fields)]
      else if kind == .str "Fragment" then childParts fields
      else .ok [] := by
  rw [parts]
  simp only [nameOr_eq]
  cases fields with
  | nil => rfl
  | cons entry rest => rfl

/-- What is within a part is lowered if the part has a field for it. -/
theorem childParts_eq (fields : List (String × Value)) :
    childParts fields =
      match fields.lookup "children" with
      | some value => partsOfItems value
      | none => .ok [] := by
  induction fields with
  | nil => rfl
  | cons entry rest ih =>
    obtain ⟨key, value⟩ := entry
    rw [childParts, Value.lookup_cons]
    by_cases hkey : key = "children"
    · rw [if_pos (by simpa using hkey), if_pos hkey.symm]
    · rw [if_neg (by simpa using hkey), if_neg (Ne.symm hkey), ih]

/-- What lies in a part of markup lowers to what its children lower to. -/
theorem childParts_of_childrenAre (h : ChildrenAre fields items) :
    childParts fields = partsOfAll items := by
  rw [childParts_eq]
  rcases h with hlist | ⟨rfl, hfalse⟩
  · rw [hlist]
    exact partsOfItems.eq_1 items
  · cases hvalue : fields.lookup "children" with
    | none => rfl
    | some value =>
      have hvalue := hfalse value hvalue
      cases value with
      | list items =>
        cases items with
        | nil => rfl
        | cons item rest => cases hvalue
      | _ => simp [partsOfItems, hvalue, partsOfAll]

/-- An element is lowered to one element, around what is within it. -/
theorem parts_element (htype : fields.lookup "type" = some (.str "Element"))
    (hattributes : HasAttributes fields) (hitems : ChildrenAre fields items) {inner : List Part}
    (hinner : partsOfAll items = .ok inner) :
    ∃ settings,
      parts (.object fields) = .ok [.element (nameAmong "div" fields) settings inner] := by
  obtain ⟨settings, hsettings⟩ := hattributes.entriesOf_isOk
  refine ⟨settings, ?_⟩
  rw [parts_object, htype, hsettings, childParts_of_childrenAre hitems, hinner]
  rfl

/-- A text is lowered to one text. -/
theorem parts_text (htype : fields.lookup "type" = some (.str "Text")) :
    parts (.object fields) = .ok [.text (nameAmong "" fields)] := by
  rw [parts_object, htype]
  rfl

/-- Nothing is left of an expression. -/
theorem parts_expression (htype : fields.lookup "type" = some (.str "Expression")) :
    parts (.object fields) = .ok [] := by
  rw [parts_object, htype]
  rfl

/-- What is within a fragment stands in its place. -/
theorem parts_fragment (htype : fields.lookup "type" = some (.str "Fragment"))
    (hitems : ChildrenAre fields items) : parts (.object fields) = partsOfAll items := by
  rw [parts_object, htype, childParts_of_childrenAre hitems]
  rfl

/-- A row of nodes is lowered one by one. -/
theorem partsOfAll_cons_ok {item : Value} {first second : List Part}
    (hitem : parts item = .ok first) (hitems : partsOfAll items = .ok second) :
    partsOfAll (item :: items) = .ok (first ++ second) := by
  rw [partsOfAll, hitem, hitems]
  rfl

/-- Markup made of elements, texts, computed parts and fragments lowers to nodes whose outline is
that of the markup once it is dissolved. -/
theorem partsOfAll_of_depicts {shapes : List Shape} (h : Depicts items shapes) :
    ∃ lowered, partsOfAll items = .ok lowered ∧ ∀ file depth,
      Lists depth (Part.toValues file lowered)
        (Shape.outlineAll depth (Shape.dissolvedAll shapes)) := by
  induction h with
  | nil => exact ⟨[], rfl, fun _ depth => .nil depth⟩
  | element htype hattributes hitems _ _ ihchildren ihrest =>
    obtain ⟨inner, hinner, hlists⟩ := ihchildren
    obtain ⟨after, hafter, hmore⟩ := ihrest
    obtain ⟨settings, hparts⟩ := parts_element htype hattributes hitems hinner
    refine ⟨_, partsOfAll_cons_ok hparts hafter, fun file depth => ?_⟩
    exact .element rfl rfl rfl (hlists file (depth + 1)) (hmore file depth)
  | text htype _ ihrest =>
    obtain ⟨after, hafter, hmore⟩ := ihrest
    refine ⟨_, partsOfAll_cons_ok (parts_text htype) hafter, fun file depth => ?_⟩
    exact .text rfl rfl (hmore file depth)
  | expression htype _ ihrest =>
    obtain ⟨after, hafter, hmore⟩ := ihrest
    exact ⟨after, partsOfAll_cons_ok (parts_expression htype) hafter, hmore⟩
  | fragment htype hitems _ _ ihchildren ihrest =>
    obtain ⟨inner, hinner, hlists⟩ := ihchildren
    obtain ⟨after, hafter, hmore⟩ := ihrest
    have hparts := (parts_fragment htype hitems).trans hinner
    refine ⟨_, partsOfAll_cons_ok hparts hafter, fun file depth => ?_⟩
    rw [Part.toValues_append, Shape.dissolvedAll, Shape.dissolved, Shape.outlineAll_append]
    exact (hlists file depth).append (hmore file depth)

/-- Markup in a row lowers to what its parts lower to, in a row. -/
theorem partsOfAll_append (first second : List Value) :
    partsOfAll (first ++ second) = do return (← partsOfAll first) ++ (← partsOfAll second) := by
  induction first with
  | nil =>
    rw [List.nil_append, partsOfAll]
    cases partsOfAll second <;> rfl
  | cons item rest ih =>
    rw [List.cons_append, partsOfAll, partsOfAll, ih]
    cases parts item with
    | error fault => rfl
    | ok inner =>
      cases partsOfAll rest with
      | error fault => rfl
      | ok more =>
        cases partsOfAll second with
        | error fault => rfl
        | ok after => exact congrArg Except.ok (List.append_assoc inner more after).symm

/-- A row of one node is lowered as the node is. -/
theorem partsOfAll_singleton (value : Value) : partsOfAll [value] = parts value := by
  rw [partsOfAll, partsOfAll]
  cases parts value with
  | error fault => rfl
  | ok inner => exact congrArg Except.ok (List.append_nil inner)

/-- Rows of markup that lower alike lower alike between the same neighbours. -/
theorem partsOfAll_between {run other : List Value} (before after : List Value)
    (h : partsOfAll run = partsOfAll other) :
    partsOfAll (before ++ run ++ after) = partsOfAll (before ++ other ++ after) := by
  simp only [partsOfAll_append, h]

/-- A part of markup lowers alike with other children that lower alike. -/
theorem parts_setField (hitems : ChildrenAre fields items)
    (h : partsOfAll items = partsOfAll others) :
    parts (.object fields) =
      parts (.object (Value.setField "children" (.list others) fields)) := by
  have hlookup (key : String) := Value.lookup_setField "children" key (.list others) fields
  have hchildren :
      childParts (Value.setField "children" (.list others) fields) = partsOfAll others :=
    childParts_of_childrenAre (.inl ((hlookup "children").trans (if_pos rfl)))
  have htype := (hlookup "type").trans (if_neg (by decide))
  have hname := (hlookup "name").trans (if_neg (by decide))
  have hprops : (Value.object (Value.setField "children" (.list others) fields)).get "props" =
      (Value.object fields).get "props" := by
    rw [Value.get, Value.get, Value.get?, Value.get?, hlookup, if_neg (by decide)]
  rw [parts_object, parts_object, htype, hchildren, childParts_of_childrenAre hitems, h]
  simp only [nameAmong, hname, Value.entriesOf, Value.getTruthy?, hprops]

/-- One fragment more or less makes no difference. -/
theorem partsOfAll_of_rewrap (h : Rewrap items others) : partsOfAll items = partsOfAll others := by
  induction h with
  | wrap before after htype hrun =>
    rw [List.append_cons before]
    refine partsOfAll_between before after ?_
    rw [partsOfAll_singleton, parts_fragment htype hrun]
  | unwrap before after htype hrun =>
    rw [List.append_cons before]
    refine partsOfAll_between before after ?_
    rw [partsOfAll_singleton, parts_fragment htype hrun]
  | within before after hitems _ ih =>
    rw [List.append_cons before, List.append_cons before _ after]
    refine partsOfAll_between before after ?_
    rw [partsOfAll_singleton, partsOfAll_singleton]
    exact parts_setField hitems ih

/-- Lowering keeps every element and text in order and at its depth and leaves no trace of a
fragment: the nodes that markup lowers to have the outline of the dissolved markup, and they are the
same where one fragment more or less stands in the tree. -/
theorem parts_outline {value : Value} {shape : Shape} (h : Depicts [value] [shape]) :
    ∃ lowered, parts value = .ok lowered ∧
      (∀ file, Lists 0 (Part.toValues file lowered) (Shape.outlineAll 0 shape.dissolved)) ∧
      ∀ other, Rewrap [value] [other] → parts other = .ok lowered := by
  obtain ⟨lowered, hlowered, hlists⟩ := partsOfAll_of_depicts h
  refine ⟨lowered, (partsOfAll_singleton value).symm.trans hlowered, fun file => ?_, ?_⟩
  · rw [← List.append_nil shape.dissolved]
    exact hlists file 0
  · intro other hother
    rw [← partsOfAll_singleton, ← partsOfAll_of_rewrap hother, hlowered]

/-- An element of reported markup with these children. -/
def elementOf (children : List Value) : Value :=
  .object [("type", .str "Element"), ("name", .str "ul"), ("children", .list children)]

/-- A reported text. -/
def textOf (content : String) : Value :=
  .object [("type", .str "Text"), ("name", .str content)]

/-- A nameless element, a computed part and a text. -/
def siblings : List Value :=
  [.object [("type", .str "Element")], .object [("type", .str "Expression")], textOf "one"]

/-- The fields of a fragment around the siblings. -/
def around : List (String × Value) :=
  [("type", .str "Fragment"), ("children", .list siblings)]

/-- The shape of an element with the fragment and a text behind it. -/
def nestedShape : Shape :=
  .element (.str "ul")
    [.fragment [.element (.str "div") [], .expression, .text (.str "one")], .text (.str "two")]

/-- An element with the fragment and a text behind it has this shape. -/
theorem depicts_nested : Depicts [elementOf [.object around, textOf "two"]] [nestedShape] := by
  have hsiblings : Depicts siblings [.element (.str "div") [], .expression, .text (.str "one")] :=
    .element rfl (by rintro _ ⟨⟩) (.inr ⟨rfl, by rintro _ ⟨⟩⟩) .nil
      (.expression rfl (.text rfl .nil))
  exact .element rfl (by rintro _ ⟨⟩) (.inl rfl)
    (.fragment rfl (.inl rfl) hsiblings (.text rfl .nil)) .nil

/-- The element is lowered to the same parts without the fragment, and these are listed with their
depths. -/
theorem parts_outline_nested :
    Depicts [elementOf [.object around, textOf "two"]] [nestedShape] ∧
    ∃ lowered, parts (elementOf [.object around, textOf "two"]) = .ok lowered ∧
      parts (elementOf (siblings ++ [textOf "two"])) = .ok lowered ∧
      ∀ file, Lists 0 (Part.toValues file lowered)
        [(0, .element (.str "ul")), (1, .element (.str "div")), (1, .text (.str "one")),
          (1, .text (.str "two"))] := by
  obtain ⟨lowered, hlowered, hlists, hrewrap⟩ := parts_outline depicts_nested
  have hunwrap : Rewrap [.object around, textOf "two"] (siblings ++ [textOf "two"]) :=
    .unwrap [] [textOf "two"] rfl (.inl rfl)
  exact ⟨depicts_nested, lowered, hlowered, hrewrap _ (.within [] [] (.inl rfl) hunwrap), hlists⟩

end Lowering

end Restack.Ir
