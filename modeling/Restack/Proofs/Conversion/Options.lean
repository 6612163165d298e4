import Restack.Conversion.Stages
import Restack.Jobs.Store

/-!
# What conversions ask of options

A conversion asks its options whether comments are kept and whether tests are wanted, and nothing
else. The options of a job that is made without any say as little about this as no options at all.
-/

namespace Restack.Conversion

/-- Two values say the same about all that conversions ask of options. -/
structure OptionsAgree (a b : Value) : Prop where
  comments : a.get? "preserveComments" = b.get? "preserveComments"
  tests : a.get? "generateTests" = b.get? "generateTests"

namespace OptionsAgree

variable {a b : Value}

/-- Options agree with themselves. -/
theorem refl (options : Value) : OptionsAgree options options := ⟨rfl, rfl⟩

/-- The options of a job that is made without any are like no options. -/
theorem standardOptions : OptionsAgree Jobs.standardOptions (.object []) := ⟨rfl, rfl⟩

/-- Whether tests are asked for is the same under options that agree. -/
theorem get_tests (h : OptionsAgree a b) : a.get "generateTests" = b.get "generateTests" := by
  unfold Value.get
  rw [h.tests]

/-- Nodes have the same headings under options that agree. -/
theorem heading (h : OptionsAgree a b) (node : Value) :
    Target.heading node a = Target.heading node b := by
  unfold Target.heading
  rw [h.comments]

/-- Nodes that are no components have the same files under options that agree. -/
theorem stubFile (h : OptionsAgree a b) (node : Value) :
    Target.stubFile node a = Target.stubFile node b := by
  unfold Target.stubFile
  rw [h.heading]

/-- Each platform looks at options for the heading of a file only. -/
theorem emit (h : OptionsAgree a b) (platform : Target.Platform) (node : Value) :
    platform.emit node a = platform.emit node b := by
  cases platform with
  | flutter =>
    unfold Target.Platform.emit Target.Flutter.emit Target.Flutter.code
    simp only [h.heading, h.stubFile]
  | compose =>
    unfold Target.Platform.emit Target.Compose.emit Target.Compose.code
    simp only [h.heading, h.stubFile]
  | react =>
    unfold Target.Platform.emit Target.React.emit Target.React.code
    simp only [h.heading, h.stubFile]

/-- A node gives the same files under options that agree. -/
theorem emitNode (h : OptionsAgree a b) (platform : Target.Platform) :
    Conversion.emitNode platform a = Conversion.emitNode platform b := by
  funext node
  unfold Conversion.emitNode Conversion.emitNode.wantedTest
  rw [h.emit, h.get_tests]

/-- Nodes give the same files, with the same errors, under options that agree. -/
theorem emitNodes (h : OptionsAgree a b) (target : String) (nodes : List Value) :
    Conversion.emitNodes target a nodes = Conversion.emitNodes target b nodes := by
  unfold Conversion.emitNodes
  simp only [h.emitNode]

/-- The files beside those of nodes are the same under options that agree. -/
theorem projectFiles (h : OptionsAgree a b) (source target : String) (parsed nodes : Nat)
    (moment : Time.Moment) :
    Conversion.projectFiles source target a parsed nodes moment =
      Conversion.projectFiles source target b parsed nodes moment := by
  have hconfig : Target.configFiles target a = Target.configFiles target b := by
    unfold Target.configFiles Target.Platform.configFiles
    rw [h.get_tests]
  unfold Conversion.projectFiles
  rw [hconfig]

/-- Options that agree have the same conversions. -/
theorem convert (h : OptionsAgree a b) (parser : Script.Parser) (files : List Value)
    (source target : String) (moment : Time.Moment) :
    Conversion.convert parser files source target a moment =
      Conversion.convert parser files source target b moment := by
  unfold Conversion.convert
  simp only [h.emitNodes, h.projectFiles]

end OptionsAgree

end Restack.Conversion
