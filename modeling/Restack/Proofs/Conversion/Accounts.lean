import Mathlib.Data.List.Forall2
import Restack.Proofs.Conversion.Totality
import Restack.Proofs.Target.Emission

/-!
# Nodes are accounted for one by one

When nodes are written, what comes of each of them does not depend on the others: it is a file, with
a test behind it where one is wanted, or a remark and no file. A file and a remark for one node
would take a node whose code can be written while its test cannot; but the test of a component asks
for nothing that its code has not asked for before.
-/

namespace Restack

namespace Target

/-- The types of properties can be looked up in the tables of a dialect. -/
def Dialect.Types (dialect : Dialect) (props : List (String × Value)) : Prop :=
  ∀ entry ∈ props, ∃ type name, entry.2.field "type" = .ok type ∧ dialect.typeName type = .ok name

namespace Dialect

variable {dialect : Dialect} {props : List (String × Value)}

/-- Steps over properties that write the type of each have shown that the types can be looked up. -/
theorem types_of_mapM {α : Type} {step : String × Value → Except Fault α}
    {f : String → String → α} (hstep : ∀ entry, step entry = do
      return f entry.1 (← dialect.typeName (← entry.2.field "type")))
    {parts : List α} (h : props.mapM step = .ok parts) : dialect.Types props := by
  intro entry hentry
  obtain ⟨part, hpart⟩ := mapM_isOk_iff.mp ⟨parts, h⟩ entry hentry
  rw [hstep] at hpart
  obtain ⟨type, htype, hpart⟩ := exists_of_bind_eq_ok hpart
  obtain ⟨name, hname, -⟩ := exists_of_bind_eq_ok hpart
  exact ⟨type, name, htype, hname⟩

/-- A type that has a name has a sample as well: both ask only whether it can be looked up. -/
theorem sample_isOk_of_typeName {type : Value} {name : String}
    (h : dialect.typeName type = .ok name) : ∃ sample, dialect.sample type = .ok sample := by
  unfold typeName inTable at h
  unfold sample inTable
  cases hkey : type.asKey with
  | error fault =>
    rw [hkey] at h
    cases h
  | ok key => exact ⟨_, rfl⟩

/-- Where the types of properties can be looked up, a sample of each can be written. -/
theorem Types.mapM_isOk (h : dialect.Types props) {α : Type}
    {step : String × Value → Except Fault α} {f : String → String → α}
    (hstep : ∀ entry, step entry = do
      return f entry.1 (← dialect.sample (← entry.2.field "type"))) :
    ∃ args, props.mapM step = .ok args := by
  refine mapM_isOk_iff.mpr fun entry hentry => ?_
  obtain ⟨type, name, htype, hname⟩ := h entry hentry
  rw [hstep]
  exact bind_isOk_of_eq htype (bind_isOk_of_eq (sample_isOk_of_typeName hname).choose_spec ⟨_, rfl⟩)

end Dialect

section Tests

variable {node options : Value} {file : File}

namespace Flutter

/-- A constructor is written only if the types of all properties are written. -/
theorem types_of_constructor {className code : String} (h : constructor className node = .ok code) :
    ∃ props, node.entriesOf "props" = .ok props ∧ dart.Types props := by
  obtain ⟨props, hprops, h⟩ := exists_of_bind_eq_ok h
  obtain ⟨fields, hfields, -⟩ := exists_of_bind_eq_ok h
  let field (name type : String) : String := "  final " ++ type ++ " " ++ name ++ ";"
  exact ⟨props, hprops, Dialect.types_of_mapM (f := field) (fun _ => rfl) hfields⟩

/-- The head of a class has the constructor in it. -/
theorem constructor_of_opening {className code : String} (h : opening className node = .ok code) :
    ∃ fields, constructor className node = .ok fields := by
  obtain ⟨state, -, h⟩ := exists_of_bind_eq_ok h
  dsimp only at h
  split at h
  · obtain ⟨fields, hfields, -⟩ := exists_of_bind_eq_ok h
    exact ⟨fields, hfields⟩
  · obtain ⟨fields, hfields, -⟩ := exists_of_bind_eq_ok h
    exact ⟨fields, hfields⟩

/-- A component that a widget is written for has a test. -/
theorem test_isOk_of_emit (hcomponent : isComponent node = .ok true)
    (h : emit node options = .ok file) : ∃ written, test node = .ok written := by
  obtain ⟨name, text, hname, htext, hcontent⟩ := code_of_emit hcomponent h
  obtain ⟨top, -, hcontent⟩ := exists_of_bind_eq_ok hcontent
  obtain ⟨code, hcode, -⟩ := exists_of_bind_eq_ok hcontent
  obtain ⟨fields, hfields⟩ := constructor_of_opening hcode
  obtain ⟨props, hprops, htypes⟩ := types_of_constructor hfields
  let arg (name sample : String) : String := name ++ ": " ++ sample
  refine bind_isOk_of_eq hname (bind_isOk_of_eq hprops ?_)
  refine bind_isOk (htypes.mapM_isOk (f := arg) fun _ => rfl) fun _ => ?_
  exact bind_isOk_of_eq htext ⟨_, rfl⟩

end Flutter

namespace Compose

/-- A component that a screen is written for has a test. -/
theorem test_isOk_of_emit (hcomponent : isComponent node = .ok true)
    (h : emit node options = .ok file) : ∃ written, test node = .ok written := by
  obtain ⟨name, hname, hcontent⟩ := code_of_emit hcomponent h
  obtain ⟨top, -, hcontent⟩ := exists_of_bind_eq_ok hcontent
  obtain ⟨props, hprops, hcontent⟩ := exists_of_bind_eq_ok hcontent
  obtain ⟨params, hparams, -⟩ := exists_of_bind_eq_ok hcontent
  let param (name type : String) : String := name ++ ": " ++ type
  have htypes : kotlin.Types props := Dialect.types_of_mapM (f := param) (fun _ => rfl) hparams
  let arg (name sample : String) : String := name ++ " = " ++ sample
  refine bind_isOk_of_eq hname (bind_isOk_of_eq hprops ?_)
  exact bind_isOk (htypes.mapM_isOk (f := arg) fun _ => rfl) fun _ => ⟨_, rfl⟩

end Compose

namespace React

/-- The test of a component asks for its name only. -/
theorem test_isOk_of_emit (h : emit node options = .ok file) :
    ∃ written, test node = .ok written := by
  obtain ⟨name, hname, -⟩ := exists_of_bind_eq_ok h
  exact bind_isOk_of_eq hname ⟨_, rfl⟩

end React

/-- Whatever the platform, a component whose code can be written has a test. -/
theorem Platform.test_isOk_of_emit {platform : Platform} (hcomponent : isComponent node = .ok true)
    (h : platform.emit node options = .ok file) : ∃ written, platform.test node = .ok written := by
  cases platform with
  | flutter => exact Flutter.test_isOk_of_emit hcomponent h
  | compose => exact Compose.test_isOk_of_emit hcomponent h
  | react => exact React.test_isOk_of_emit h

/-- No code is written for a node without asking whether it is a component. -/
theorem Platform.isComponent_of_emit {platform : Platform}
    (h : platform.emit node options = .ok file) : ∃ answer, isComponent node = .ok answer := by
  cases platform with
  | flutter =>
    obtain ⟨answer, hanswer, -⟩ := exists_of_bind_eq_ok h
    exact ⟨answer, hanswer⟩
  | compose | react =>
    obtain ⟨name, -, h⟩ := exists_of_bind_eq_ok h
    obtain ⟨answer, hanswer, -⟩ := exists_of_bind_eq_ok h
    exact ⟨answer, hanswer⟩

end Tests

end Target

namespace Conversion

open Target (File Platform isComponent)

/-- Whether a test is wanted for a node: tests are, and the node is a component. -/
def WantsTest (options node : Value) : Prop :=
  (∃ wanted, options.get "generateTests" = .ok wanted ∧ wanted.truthy = true) ∧
    isComponent node = .ok true

/-- What comes of a node: its file, its file and its test, or a remark. -/
inductive Accounts (platform : Platform) (options node : Value) : Outcome File → Prop where
  | written {file : File} (hfile : platform.emit node options = .ok file)
    (hplain : ¬WantsTest options node) : Accounts platform options node ⟨[file], []⟩
  | tested {file test : File} (hfile : platform.emit node options = .ok file)
    (htest : platform.test node = .ok test) (hwants : WantsTest options node) :
    Accounts platform options node ⟨[file, test], []⟩
  | refused {fault : Fault} {name : Value} (hfault : platform.emit node options = .error fault)
    (hname : node.get "name" = .ok name) :
    Accounts platform options node
      ⟨[], ["Failed to convert " ++ name.display ++ ": " ++ fault.message]⟩

/-- What comes of a node whose code can be written. -/
theorem wantedTest_eq {platform : Platform} {options node wanted : Value} {file : File}
    (hwanted : options.get "generateTests" = .ok wanted)
    (hfile : platform.emit node options = .ok file) :
    (emitNode.wantedTest platform options node = .ok [] ∧ ¬WantsTest options node) ∨
      ∃ test, emitNode.wantedTest platform options node = .ok [test] ∧
        platform.test node = .ok test ∧ WantsTest options node := by
  obtain ⟨answer, hanswer⟩ := Platform.isComponent_of_emit hfile
  unfold emitNode.wantedTest WantsTest
  rw [hwanted, hanswer]
  by_cases hwants : wanted.truthy = true ∧ answer = true
  · obtain ⟨htruthy, rfl⟩ := hwants
    obtain ⟨test, htest⟩ := Platform.test_isOk_of_emit hanswer hfile
    refine .inr ⟨test, ?_, htest, ⟨wanted, rfl, htruthy⟩, rfl⟩
    simp only [htruthy, htest, bind, Except.bind]
    rfl
  · refine .inl ⟨?_, ?_⟩
    · simp only [bind, Except.bind, Bool.and_eq_true, if_neg hwants]
      rfl
    · rintro ⟨⟨_, ⟨⟩, htruthy⟩, hcomponent⟩
      cases hcomponent
      exact hwants ⟨htruthy, rfl⟩

/-- Each node that is a record is accounted for. -/
theorem emitNode_accounts {platform : Platform} {options node : Value} (hoptions : options.IsRecord)
    (hnode : node.IsRecord) : ∃ outcome,
      emitNode platform options node = .ok outcome ∧ Accounts platform options node outcome := by
  obtain ⟨name, hname⟩ := hnode.get_ok "name"
  obtain ⟨wanted, hwanted⟩ := hoptions.get_ok "generateTests"
  unfold emitNode
  cases hfile : platform.emit node options with
  | error fault => exact bind_isOk_and_of_eq hname ⟨_, rfl, .refused hfile hname⟩
  | ok file =>
    rcases wantedTest_eq hwanted hfile with ⟨htests, hplain⟩ | ⟨test, htests, htest, hwants⟩
    · exact ⟨_, by rw [htests]; rfl, .written hfile hplain⟩
    · exact ⟨_, by rw [htests]; rfl, .tested hfile htest hwants⟩

namespace Outcome

/-- A stage that comes to an outcome for each item comes to all of these in turn. -/
theorem gather_forall₂ {α β : Type} {step : β → Except Fault (Outcome α)}
    {P : β → Outcome α → Prop} {items : List β}
    (h : ∀ item ∈ items, ∃ outcome, step item = .ok outcome ∧ P item outcome) :
    ∃ outcomes, List.Forall₂ (fun item outcome => step item = .ok outcome ∧ P item outcome) items
        outcomes ∧
      gather step items = .ok ⟨outcomes.flatMap (·.passed), outcomes.flatMap (·.remarks)⟩ := by
  induction items with
  | nil => exact ⟨[], .nil, rfl⟩
  | cons item rest ih =>
    obtain ⟨⟨first, hfirst, hP⟩, hrest⟩ := List.forall_mem_cons.mp h
    obtain ⟨others, hothers, hgather⟩ := ih hrest
    refine ⟨first :: others, .cons ⟨hfirst, hP⟩ hothers, ?_⟩
    rw [gather, hfirst, hgather]
    rfl

/-- A stage over one item comes to what comes of the item. -/
theorem gather_singleton {α β : Type} {step : β → Except Fault (Outcome α)} {item : β}
    {outcome : Outcome α} (h : step item = .ok outcome) : gather step [item] = .ok outcome := by
  rw [gather, h]
  change Except.ok (outcome.append empty) = _
  simp [append, empty]

end Outcome

/-- **What comes of nodes is what comes of each of them alone, in their order.** Each of them, well
formed or not, has its file and the test that is wanted for it, or a remark and no file. -/
theorem emitNodes_accounts {target : String} {platform : Platform}
    (htarget : Platform.ofName? target = some platform) {options : Value}
    (hoptions : options.IsRecord) {nodes : List Value} (hnodes : ∀ node ∈ nodes, node.IsRecord) :
    ∃ outcomes,
      List.Forall₂ (fun node outcome => emitNodes target options [node] = .ok outcome ∧
        Accounts platform options node outcome) nodes outcomes ∧
      emitNodes target options nodes =
        .ok ⟨outcomes.flatMap (·.passed), outcomes.flatMap (·.remarks)⟩ := by
  unfold emitNodes
  rw [htarget]
  have hall : ∀ node ∈ nodes, ∃ outcome, emitNode platform options node = .ok outcome ∧
      Accounts platform options node outcome := fun node hnode =>
    emitNode_accounts hoptions (hnodes node hnode)
  obtain ⟨outcomes, houtcomes, hgather⟩ := Outcome.gather_forall₂ hall
  refine ⟨outcomes, houtcomes.imp fun node outcome h => ?_, hgather⟩
  exact ⟨Outcome.gather_singleton h.1, h.2⟩

/-- A component that has one property, of this type. -/
def titled (name : String) (type : Value) : Value :=
  .object
    [("type", .str "component"), ("name", .str name),
      ("props", .object [("title", .object [("type", type)])]),
      ("metadata", .object [("originalFile", .str (name ++ ".jsx"))])]

/-- A node that cannot be written, since its property has a list for a type, takes nothing away from
the node behind it. -/
theorem emitNodes_accounts_titled :
    let options : Value := .object [("generateTests", .bool true)]
    let nodes := [titled "Broken" (.list []), titled "Card" (.str "string")]
    Platform.ofName? "Flutter" = some .flutter ∧ options.IsRecord ∧
      (∀ node ∈ nodes, node.IsRecord) ∧
      ∃ file test, emitNodes "Flutter" options nodes =
        .ok ⟨[file, test], ["Failed to convert Broken: unhashable type: 'list'"]⟩ := by
  intro options nodes
  have htarget : Platform.ofName? "Flutter" = some .flutter := by decide
  have hoptions : options.IsRecord := ⟨_, rfl⟩
  have hnodes : ∀ node ∈ nodes, node.IsRecord := by
    simp [nodes, titled, Value.IsRecord]
  refine ⟨htarget, hoptions, hnodes, ?_⟩
  obtain ⟨outcomes, houtcomes, hall⟩ := emitNodes_accounts htarget hoptions hnodes
  rw [hall]
  obtain ⟨_, _, ⟨-, hbroken⟩, hrest, rfl⟩ := List.forall₂_cons_left_iff.mp houtcomes
  obtain ⟨_, _, ⟨-, hcard⟩, hnone, rfl⟩ := List.forall₂_cons_left_iff.mp hrest
  cases hnone
  have hfault : Platform.flutter.emit (titled "Broken" (.list [])) options =
    .error (.unhashable .list) := rfl
  obtain ⟨file, hfile⟩ : ∃ file, Platform.flutter.emit (titled "Card" (.str "string")) options =
    .ok file := ⟨_, rfl⟩
  cases hbroken with
  | written hwritten | tested hwritten =>
    rw [hfault] at hwritten
    cases hwritten
  | refused hrefused hname =>
    rw [hfault] at hrefused
    cases hrefused
    cases hname
    cases hcard with
    | written _ hplain => exact absurd ⟨⟨_, rfl, rfl⟩, rfl⟩ hplain
    | tested => exact ⟨_, _, rfl⟩
    | refused hcard =>
      rw [hfile] at hcard
      cases hcard

end Conversion

end Restack
