import Restack.Proofs.Outline.BackReferences
import Restack.Proofs.Stack.Skeletons
import Restack.Proofs.Target.Literals

/-!
# First values in converted components

What a variable begins with is written into the file that its component becomes. A text stands there
between the quotes of the target as it was read, whatever quotes it stood between in the source, so
that the literal says what the text is exactly if neither the quote of the target nor a backslash is
in it.
-/

namespace Restack.Stack

open Restack.Text

namespace Form

/-- The quotes that texts among such values stand between. Vue has none: they are written as data
there. -/
def quote? : Form → Option Char
  | .flutter | .angular | .react _ => some '\x27'
  | .android => some '"'
  | .vue => none

/-- A text is put between the quotes as it is. -/
theorem initial_str {form : Form} {mark : Char} (h : form.quote? = some mark) (s : String) :
    form.initial (.str s) = String.ofList (mark :: (s.toList ++ [mark])) := by
  cases form <;> cases h <;> rfl

/-- The quotes of a form are no backslashes. -/
theorem quote_ne_backslash {form : Form} {mark : Char} (h : form.quote? = some mark) :
    mark ≠ '\\' := by
  cases form <;> cases h <;> decide

end Form

/-- **A text is read back from what a variable begins with exactly if neither the quote of the
target nor a backslash is in it.** The text is one that a component's variable begins with: it
stands between quotes of any kind on the line of the variable, and between those of the target in
the file that the component becomes. -/
theorem initial_faithful_iff {files : List SourceFile} {framework : String}
    {component : Outline.Component} {v : Outline.StateVariable} {s : String} {form : Form}
    {mark : Char} (hcomponent : component ∈ (Outline.Project.ofFiles files framework).components)
    (hv : v ∈ component.state) (hs : v.initial = .str s) (hmark : form.quote? = some mark) :
    (∃ source i line, Outline.Project.lastFile? files component.file = some source ∧
      (lines source.content)[i]? = some line ∧ v.line = i + 1 ∧
        Outline.StandsQuoted s line.toList) ∧
      (∃ file, form.convert component.toValue = .ok file ∧
        (form.initial v.initial).toList <:+: file.content.toList) ∧
      (Target.literalText? mark (form.initial v.initial) = some s ↔
        mark ∉ s.toList ∧ '\\' ∉ s.toList) := by
  obtain ⟨source, hsource, i, line, hline, hnumber, hquoted⟩ :=
    Outline.Project.state_standsOn hcomponent hv
  refine ⟨⟨source, i, line, hsource, hline, by omega, hquoted s hs⟩, form.convert_initial hv, ?_⟩
  rw [hs, Form.initial_str hmark]
  exact Target.literalText?_plain_iff (Form.quote_ne_backslash hmark) s

/-- A file with a component that has one variable, which begins with a literal. -/
def noteFile (literal : String) : SourceFile :=
  ⟨"src/Note.jsx",
    joined "\n"
      ["const Note = () => \x7b",
        "  const [text, setText] = useState(" ++ literal ++ ");",
        "\x7d;"]⟩

/-- The components of such a file. -/
def noteComponents (literal : String) : List Outline.Component :=
  (Outline.Project.ofFiles [noteFile literal] "react").components

/-- A component of such a file has a variable with the one first value that is reported. -/
theorem exists_noteVariable {literal s : String}
    (h : ((noteComponents literal).map fun component => component.state.map (·.initial)) =
      [[.str s]]) :
    ∃ component ∈ noteComponents literal, ∃ v ∈ component.state, v.initial = .str s := by
  have hstates := List.mem_singleton_self [Value.str s]
  rw [← h] at hstates
  obtain ⟨component, hcomponent, hinitials⟩ := List.mem_map.mp hstates
  have hinitial := List.mem_singleton_self (Value.str s)
  rw [← hinitials] at hinitial
  obtain ⟨v, hv, hs⟩ := List.mem_map.mp hinitial
  exact ⟨component, hcomponent, v, hv, hs⟩

/-- A text with quotation marks in it stands between apostrophes, and is read back from the literal
of a target that uses them, but not from one between quotation marks. -/
theorem initial_faithful_quoted :
    let s := "say \"so\""
    ∃ component ∈ noteComponents "'say \"so\"'", ∃ v ∈ component.state, v.initial = .str s ∧
      Target.literalText? '\x27' (Form.flutter.initial v.initial) = some s ∧
      Target.literalText? '"' (Form.android.initial v.initial) ≠ some s := by
  intro s
  obtain ⟨component, hcomponent, v, hv, hs⟩ : ∃ component ∈ noteComponents "'say \"so\"'",
      ∃ v ∈ component.state, v.initial = .str s := exists_noteVariable rfl
  obtain ⟨-, -, hflutter⟩ :=
    initial_faithful_iff hcomponent hv hs (rfl : Form.flutter.quote? = some '\x27')
  obtain ⟨-, -, handroid⟩ :=
    initial_faithful_iff hcomponent hv hs (rfl : Form.android.quote? = some '"')
  refine ⟨component, hcomponent, v, hv, hs, hflutter.mpr (by decide), fun h => ?_⟩
  exact absurd (handroid.mp h) (by decide)

/-- A text with an apostrophe breaks out of the literal of each target that uses apostrophes. -/
theorem apostrophe_breaks_initial :
    ∃ component ∈ noteComponents "\"it's\"", ∃ v ∈ component.state, v.initial = .str "it's" ∧
      Form.flutter.initial v.initial = "'it's'" ∧
      Target.literalText? '\x27' (Form.flutter.initial v.initial) = none ∧
      Target.literalText? '\x27' ((Form.react true).initial v.initial) = none ∧
      Target.literalText? '\x27' (Form.angular.initial v.initial) = none := by
  obtain ⟨component, hcomponent, v, hv, hs⟩ : ∃ component ∈ noteComponents "\"it's\"",
      ∃ v ∈ component.state, v.initial = .str "it's" := exists_noteVariable rfl
  refine ⟨component, hcomponent, v, hv, hs, ?_⟩
  rw [hs]
  exact ⟨rfl, rfl, rfl, rfl⟩

end Restack.Stack
