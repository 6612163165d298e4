import Restack.Outline.Block
import Restack.Proofs.Text.Pieces

/-!
# Where the body of a component can begin

On the line that declares a component, its body can begin behind the first arrow. Where the line has
no arrow, it can begin behind the last parenthesis that is closed there.
-/

namespace Restack.Outline

open Restack.Text

/-- The last place of a character is within the text. -/
theorem lastPlace?_lt {c : Char} {s : List Char} {place : Nat} (h : lastPlace? c s = some place) :
    place < s.length := by
  unfold lastPlace? at h
  split at h
  · rename_i found hfound
    cases h
    obtain ⟨hlt, -⟩ := List.findIdx?_eq_some_iff_getElem.mp hfound
    rw [List.length_reverse] at hlt
    omega
  · cases h

/-- The last place of a character is told from what stands behind it. -/
theorem lastPlace?_append_cons {c : Char} {before after : List Char} (h : c ∉ after) :
    lastPlace? c (before ++ c :: after) = some before.length := by
  have hnone : after.reverse.findIdx? (· == c) = none := by
    refine List.findIdx?_eq_none_iff.mpr fun d hd => beq_false_of_ne ?_
    rintro rfl
    exact h (List.mem_reverse.mp hd)
  have hfound : (before ++ c :: after).reverse.findIdx? (· == c) = some after.length := by
    rw [List.reverse_append, List.reverse_cons, List.append_assoc, List.singleton_append,
      List.findIdx?_append, hnone, List.findIdx?_cons]
    simp
  rw [lastPlace?, hfound]
  simp only [List.length_append, List.length_cons, Option.some_inj]
  omega

/-- The body of a component is looked for within the line that declares it. -/
theorem bodyColumn_le (line : List Char) : bodyColumn line ≤ line.length := by
  unfold bodyColumn
  split
  · rename_i before after hcut
    rw [eq_of_cutAt hcut]
    simp only [List.length_append, List.length_cons, List.length_nil]
    omega
  · split
    · rename_i place hplace
      exact lastPlace?_lt hplace
    · exact Nat.zero_le _

/-- Two signs in a row, as they stand before the body of an arrow function. -/
def arrow : List Char := ['=', '>']

section BodyColumn

variable {before after params line : List Char}

/-- An arrow in two texts is in the first, in the second, or goes over from one to the other. -/
theorem arrow_infix_append {s t : List Char} (h : arrow <:+: s ++ t) :
    arrow <:+: s ∨ arrow <:+: t ∨ (['='] <:+ s ∧ ['>'] <+: t) := by
  rcases List.infix_append_iff_ne_nil.mp h with h | h | ⟨first, second, hne, hne', harrow, hs, ht⟩
  · exact .inl h
  · exact .inr (.inl h)
  · have hparts : first = ['='] ∧ second = ['>'] := by
      cases first with
      | nil => exact absurd rfl hne
      | cons c others =>
        cases others with
        | nil =>
          cases harrow
          exact ⟨rfl, rfl⟩
        | cons d others =>
          cases second with
          | nil => exact absurd rfl hne'
          | cons e second => simp [arrow] at harrow
    rw [hparts.1] at hs
    rw [hparts.2] at ht
    exact .inr (.inr ⟨hs, ht⟩)

/-- An arrow stands within the parameters if nothing around them has a part in it. -/
theorem not_arrow_infix (hbefore : '>' ∉ before) (hlast : ¬['='] <:+ before)
    (hparams : ¬arrow <:+: params) (hafter : '>' ∉ after) :
    ¬arrow <:+: before ++ (params ++ after) := by
  have hsign : '>' ∈ arrow := by decide
  intro h
  rcases arrow_infix_append h with h | h | h
  · exact hbefore (h.subset hsign)
  · rcases arrow_infix_append h with h | h | h
    · exact hparams h
    · exact hafter (h.subset hsign)
    · exact hafter (h.2.subset List.mem_cons_self)
  · exact hlast h.1

/-- The body can begin behind an arrow, if there is one. -/
theorem exists_bodyColumn (h : arrow <:+: line) :
    ∃ front back, cutAt arrow line = some (front, back) ∧ bodyColumn line = front.length + 2 := by
  have hoccurs : (cutAt arrow line).isSome = true := occurs_iff_infix.mpr h
  obtain ⟨⟨front, back⟩, hcut⟩ := Option.isSome_iff_exists.mp hoccurs
  refine ⟨front, back, hcut, ?_⟩
  unfold arrow at hcut
  simp only [bodyColumn, hcut]

/-- The body can begin behind the first arrow. -/
theorem bodyColumn_of_arrow (h : ¬arrow <:+: before ++ ['=']) :
    bodyColumn (before ++ (arrow ++ after)) = before.length + 2 := by
  have harrow : arrow <:+: before ++ (arrow ++ after) := ⟨before, after, List.append_assoc _ _ _⟩
  obtain ⟨front, back, hcut, hcolumn⟩ := exists_bodyColumn harrow
  have hle := length_le_of_cutAt hcut rfl
  have hge : before.length ≤ front.length := by
    refine Nat.le_of_not_lt fun hlt => h ?_
    have hfront : front ++ arrow <+: before ++ (arrow ++ after) := by
      rw [eq_of_cutAt hcut, ← List.append_assoc]
      exact List.prefix_append _ _
    have hback : before ++ ['='] <+: before ++ (arrow ++ after) :=
      (List.prefix_append_right_inj before).mpr ⟨'>' :: after, rfl⟩
    have hprefix := List.prefix_of_prefix_length_le hfront hback (by simp [arrow]; omega)
    exact (List.suffix_append front arrow).isInfix.trans hprefix.isInfix
  rw [hcolumn, Nat.le_antisymm hle hge]

/-- Where there is no arrow, the body can begin behind the last parenthesis that is closed. -/
theorem bodyColumn_of_parenthesis (harrow : ¬arrow <:+: before ++ ')' :: after)
    (hlast : ')' ∉ after) : bodyColumn (before ++ ')' :: after) = before.length + 1 := by
  have hcut : cutAt arrow (before ++ ')' :: after) = none :=
    Option.not_isSome_iff_eq_none.mp fun hoccurs => harrow <| occurs_iff_infix.mp hoccurs
  unfold arrow at hcut
  simp only [bodyColumn, hcut, lastPlace?_append_cons hlast]

end BodyColumn

end Restack.Outline
