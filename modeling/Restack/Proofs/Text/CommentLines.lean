import Restack.Proofs.Text.Pieces
import Restack.Proofs.Text.Trimming

/-!
# Lines of comments

Which of the lines of a text are comments depends on where its first line begins and on the lines
after it. A text that is written behind the sign of a comment keeps the lines after its first one as
they are, so these have to be comments by themselves.
-/

namespace Restack.Text

/-- A line that is empty or a comment. -/
def IsCommentLine (line : List Char) : Prop :=
  line = [] ∨ ['/', '/'] <+: line

instance (line : List Char) : Decidable (IsCommentLine line) :=
  inferInstanceAs (Decidable (_ ∨ _))

/-- Characters that lines end with: a line feed is one of them, and all of them are blanks, but not
the space. -/
structure EndsLines (ends : Char → Bool) : Prop where
  lineFeed : ends '\n' = true
  space : ends ' ' = false
  blank : ∀ c, ends c = true → isBlank c = true

/-- Line feeds may be all that ends lines. -/
theorem endsLines_lineFeed : EndsLines (· == '\n') where
  lineFeed := rfl
  space := rfl
  blank := by
    intro c hc
    rw [beq_iff_eq.mp hc]
    rfl

/-- All lines are empty or comments. -/
def OnlyComments (ends : Char → Bool) (s : List Char) : Prop :=
  ∀ line ∈ s.splitOnP ends, IsCommentLine line

/-- All lines after the first are empty or comments. -/
def ContinuesInComments (ends : Char → Bool) (s : List Char) : Prop :=
  ∀ line ∈ (s.splitOnP ends).tail, IsCommentLine line

instance (ends : Char → Bool) (s : List Char) : Decidable (OnlyComments ends s) :=
  inferInstanceAs (Decidable (∀ line ∈ s.splitOnP ends, IsCommentLine line))

instance (ends : Char → Bool) (s : List Char) : Decidable (ContinuesInComments ends s) :=
  inferInstanceAs (Decidable (∀ line ∈ (s.splitOnP ends).tail, IsCommentLine line))

variable {ends : Char → Bool} {s t : List Char} {c : Char}

/-- What is no blank ends no line. -/
theorem EndsLines.eq_false (h : EndsLines ends) (hc : isBlank c = false) : ends c = false := by
  by_contra hends
  rw [h.blank c (Bool.not_eq_false _ ▸ hends)] at hc
  cases hc

/-- Nothing ends a line in a text whose only blanks are spaces. -/
theorem EndsLines.forall_eq_false (h : EndsLines ends)
    (hs : (s.all fun c => c == ' ' || !isBlank c) = true) : ∀ c ∈ s, ends c = false := by
  intro c hc
  have hkind := List.all_eq_true.mp hs c hc
  rw [Bool.or_eq_true, beq_iff_eq, Bool.not_eq_true'] at hkind
  rcases hkind with rfl | hvisible
  · exact h.space
  · exact h.eq_false hvisible

/-- An empty text is nothing but comments. -/
theorem onlyComments_nil : OnlyComments ends [] := by
  simp [OnlyComments, IsCommentLine]

/-- An empty text goes on in comments. -/
theorem continuesInComments_nil : ContinuesInComments ends [] := by
  simp [ContinuesInComments]

/-- After the end of a line the text has to be nothing but comments. -/
theorem continuesInComments_cons_of_ends (hc : ends c = true) :
    ContinuesInComments ends (c :: s) ↔ OnlyComments ends s := by
  rw [ContinuesInComments, List.splitOnP_cons_eq_if_modifyHead, if_pos hc]
  rfl

/-- Within a line any character may follow. -/
theorem continuesInComments_cons (hc : ends c = false) :
    ContinuesInComments ends (c :: s) ↔ ContinuesInComments ends s := by
  rw [ContinuesInComments, ContinuesInComments, List.splitOnP_cons_eq_if_modifyHead,
    if_neg (by simp [hc]), List.tail_modifyHead]

/-- A text is nothing but comments if its first line is one and it goes on in comments. -/
theorem onlyComments_iff : OnlyComments ends s ↔
    IsCommentLine (s.takeWhile fun c => !ends c) ∧ ContinuesInComments ends s := by
  have hhead := head?_splitOnP ends s
  unfold OnlyComments ContinuesInComments
  cases hlines : s.splitOnP ends with
  | nil => simp [hlines] at hhead
  | cons line rest =>
    rw [hlines, List.head?_cons, Option.some_inj] at hhead
    rw [List.forall_mem_cons, hhead, List.tail_cons]

/-- The lines before and after the end of a line are looked at apart. -/
theorem onlyComments_append_cons (hc : ends c = true) :
    OnlyComments ends (s ++ c :: t) ↔ OnlyComments ends s ∧ OnlyComments ends t := by
  simp only [OnlyComments, List.splitOnP_append_cons s t hc, List.forall_mem_append]

/-- What is written on the same line before a text does not matter to the lines after it. -/
theorem continuesInComments_append (h : ∀ c ∈ s, ends c = false) :
    ContinuesInComments ends (s ++ t) ↔ ContinuesInComments ends t := by
  induction s with
  | nil => rfl
  | cons c rest ih =>
    obtain ⟨hc, hrest⟩ := List.forall_mem_cons.mp h
    rw [List.cons_append, continuesInComments_cons hc, ih hrest]

/-- A text within which no line ends goes on in comments. -/
theorem continuesInComments_of_forall (h : ∀ c ∈ s, ends c = false) :
    ContinuesInComments ends s := by
  have hrest := (continuesInComments_append h (t := [])).mpr continuesInComments_nil
  rwa [List.append_nil] at hrest

/-- Behind the sign of a comment the lines after the first one decide. -/
theorem onlyComments_comment (hends : EndsLines ends) :
    OnlyComments ends ('/' :: '/' :: s) ↔ ContinuesInComments ends s := by
  have hslash : ends '/' = false := hends.eq_false rfl
  have hline : IsCommentLine (('/' :: '/' :: s).takeWhile fun c => !ends c) := by
    refine .inr ?_
    simp [hslash]
  rw [onlyComments_iff, continuesInComments_cons hslash, continuesInComments_cons hslash]
  exact and_iff_right hline

/-- Behind the sign of a comment and a text on its line the rest decides. -/
theorem onlyComments_comment_append (hends : EndsLines ends)
    (hs : (s.all fun c => c == ' ' || !isBlank c) = true) :
    OnlyComments ends ('/' :: '/' :: (s ++ t)) ↔ ContinuesInComments ends t := by
  rw [onlyComments_comment hends, continuesInComments_append (hends.forall_eq_false hs)]

/-- Pieces that are joined with line feeds are nothing but comments exactly if each piece is. -/
theorem onlyComments_joinWith (hends : EndsLines ends) (pieces : List (List Char)) :
    OnlyComments ends (joinWith ['\n'] pieces) ↔ ∀ piece ∈ pieces, OnlyComments ends piece := by
  induction pieces with
  | nil => simp [joinWith, onlyComments_nil]
  | cons piece rest ih =>
    cases rest with
    | nil => simp [joinWith]
    | cons next rest =>
      rw [joinWith, List.append_assoc, List.singleton_append,
        onlyComments_append_cons hends.lineFeed, ih, ← List.forall_mem_cons]
      exact List.cons_ne_nil _ _

/-- A line that is no comment yet is none with a semicolon behind it, if it is not empty. -/
theorem isCommentLine_append_semicolon (hs : s ≠ []) :
    IsCommentLine (s ++ ';' :: t) ↔ IsCommentLine s := by
  cases s with
  | nil => exact absurd rfl hs
  | cons c rest =>
    cases rest with
    | nil => simp [IsCommentLine, List.cons_prefix_cons]
    | cons d rest => simp [IsCommentLine, List.cons_prefix_cons]

/-- Of a text that ends with no end of a line, and what follows it behind a semicolon, both have to
go on in comments. -/
theorem continuesInComments_append_semicolon (hends : EndsLines ends)
    (hlast : ∀ c ∈ s.getLast?, ends c = false) :
    ContinuesInComments ends (s ++ ';' :: t) ↔
      ContinuesInComments ends s ∧ ContinuesInComments ends t := by
  have hsign : ends ';' = false := hends.eq_false rfl
  induction s with
  | nil =>
    rw [List.nil_append, continuesInComments_cons hsign]
    exact (and_iff_right continuesInComments_nil).symm
  | cons c rest ih =>
    cases hc : ends c with
    | false =>
      rw [List.cons_append, continuesInComments_cons hc, continuesInComments_cons hc]
      refine ih fun d hd => hlast d ?_
      cases rest with
      | nil => cases hd
      | cons e rest => exact hd
    | true =>
      cases rest with
      | nil => exact absurd hc (by simp [hlast c rfl])
      | cons d rest =>
        have hafter : ContinuesInComments ends (d :: rest ++ ';' :: t) ↔
            ContinuesInComments ends (d :: rest) ∧ ContinuesInComments ends t := ih hlast
        have hline : IsCommentLine ((d :: rest ++ ';' :: t).takeWhile fun c => !ends c) ↔
            IsCommentLine ((d :: rest).takeWhile fun c => !ends c) := by
          rw [List.takeWhile_append]
          split
          · rename_i hwhole
            have hall : (d :: rest).takeWhile (fun c => !ends c) = d :: rest :=
              (List.takeWhile_prefix _).eq_of_length hwhole
            rw [List.takeWhile_cons_of_pos (by simp [hsign]), hall]
            exact isCommentLine_append_semicolon (List.cons_ne_nil _ _)
          · rfl
        rw [List.cons_append, continuesInComments_cons_of_ends hc,
          continuesInComments_cons_of_ends hc, onlyComments_iff, onlyComments_iff, hline, hafter,
          and_assoc]

end Restack.Text
