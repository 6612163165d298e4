import Mathlib.Data.List.Basic
import Restack.Proofs.Text.Pieces
import Restack.Proofs.Text.Trimming
import Restack.Text.Pattern
import Restack.Text.Quoted

/-!
# Stretches of a text

What is cut out of a text, or trimmed, is a stretch of it. Matching a pattern only moves forward in
a text and keeps stretches of it, so whatever a group holds stands in the text that it was matched
in.
-/

namespace Restack.Text

/-- A trimmed text is a stretch of the text. -/
theorem isInfix_trim (s : List Char) : trim s <:+: s :=
  (isPrefix_dropTail isBlank _).isInfix.trans (List.dropWhile_suffix isBlank).isInfix

/-- A stretch of a text stays one when something is appended. -/
theorem isInfix_append_left {part whole : String} (other : String)
    (h : part.toList <:+: whole.toList) : part.toList <:+: (whole ++ other).toList := by
  rw [String.toList_append]
  exact h.trans (List.prefix_append _ _).isInfix

/-- A stretch of a text stays one when something is put in front. -/
theorem isInfix_append_right {part whole : String} (other : String)
    (h : part.toList <:+: whole.toList) : part.toList <:+: (other ++ whole).toList := by
  rw [String.toList_append]
  exact h.trans (List.suffix_append _ _).isInfix

/-- What stands in the middle is a stretch of the whole. -/
theorem isInfix_middle (before part after : String) :
    part.toList <:+: (before ++ part ++ after).toList :=
  isInfix_append_left after (isInfix_append_right before List.infix_rfl)

/-- The pieces of a text are stretches of it. -/
theorem isInfix_of_mem_splitOnChar {separator : Char} {s piece : List Char}
    (h : piece ∈ splitOnChar separator s) : piece <:+: s := by
  -- Only the first piece grows when a character is put in front, so it has to be told apart.
  suffices hpieces : ∃ first others, splitOnChar separator s = first :: others ∧ first <+: s ∧
      ∀ other ∈ others, other <:+: s by
    obtain ⟨first, others, hsplit, hfirst, hothers⟩ := hpieces
    rw [hsplit] at h
    rcases List.mem_cons.mp h with rfl | hmem
    · exact hfirst.isInfix
    · exact hothers piece hmem
  clear h
  induction s with
  | nil => exact ⟨[], [], rfl, List.nil_prefix, fun _ h => nomatch h⟩
  | cons c rest ih =>
    obtain ⟨first, others, hsplit, hfirst, hothers⟩ := ih
    have hbelow : ∀ other ∈ others, other <:+: c :: rest := fun other hother =>
      (hothers other hother).trans (List.suffix_cons c rest).isInfix
    rw [splitOnChar, hsplit]
    split
    · refine ⟨[], first :: others, rfl, List.nil_prefix, List.forall_mem_cons.mpr ⟨?_, hbelow⟩⟩
      exact hfirst.isInfix.trans (List.suffix_cons c rest).isInfix
    · exact ⟨c :: first, others, rfl, List.cons_prefix_cons.mpr ⟨rfl, hfirst⟩, hbelow⟩

/-- The pieces are stretches of what they are joined to. -/
theorem isInfix_joinWith {separator piece : List Char} {pieces : List (List Char)}
    (h : piece ∈ pieces) : piece <:+: joinWith separator pieces := by
  induction pieces with
  | nil => cases h
  | cons first rest ih =>
    cases rest with
    | nil =>
      rw [List.mem_singleton.mp h]
      exact List.infix_rfl
    | cons next rest =>
      rw [joinWith, List.append_assoc]
      rcases List.mem_cons.mp h with rfl | hmem
      · exact (List.prefix_append _ _).isInfix
      · refine (ih hmem).trans ?_
        exact ((List.suffix_append _ _).trans (List.suffix_append _ _)).isInfix
      · exact List.cons_ne_nil _ _

/-- What is joined stands in what it is joined to. -/
theorem isInfix_joined {separator piece : String} {pieces : List String} (h : piece ∈ pieces) :
    piece.toList <:+: (joined separator pieces).toList := by
  rw [joined, String.toList_ofList]
  exact isInfix_joinWith (List.mem_map_of_mem h)

section Seams

variable {c : Char} {word before after : List Char}

/-- What stands at the front of two texts with a character between them, and does not have that
character, stands at the front of the first. -/
theorem isPrefix_of_isPrefix_separated (hword : c ∉ word) (h : word <+: before ++ c :: after) :
    word <+: before := by
  rcases List.prefix_or_prefix_of_prefix h (List.prefix_append before (c :: after)) with
    hshort | ⟨more, rfl⟩
  · exact hshort
  · rw [List.prefix_append_right_inj] at h
    cases more with
    | nil => exact (List.append_nil before).symm ▸ List.prefix_rfl
    | cons d more =>
      rw [(List.cons_prefix_cons.mp h).1] at hword
      exact absurd (List.mem_append_right _ List.mem_cons_self) hword

/-- A stretch without a character does not reach over it. -/
theorem isInfix_separated_iff (hword : c ∉ word) :
    word <:+: before ++ c :: after ↔ word <:+: before ∨ word <:+: after := by
  induction before with
  | nil =>
    rw [List.nil_append, List.infix_cons_iff, List.infix_nil]
    refine or_congr_left' fun hafter => ⟨fun h => ?_, fun h => h ▸ List.nil_prefix⟩
    exact List.prefix_nil.mp (isPrefix_of_isPrefix_separated hword h)
  | cons d before ih =>
    rw [List.cons_append, List.infix_cons_iff, ih, List.infix_cons_iff, or_assoc]
    refine or_congr_left' fun _ => ⟨fun h => ?_, fun h => ?_⟩
    · exact @isPrefix_of_isPrefix_separated c word (d :: before) after hword h
    · exact h.trans (List.prefix_append (d :: before) (c :: after))

/-- A word without the separator stands in what is joined exactly if it stands in a piece. -/
theorem isInfix_joinWith_iff (hword : c ∉ word) (hne : word ≠ []) {pieces : List (List Char)} :
    word <:+: joinWith [c] pieces ↔ ∃ piece ∈ pieces, word <:+: piece := by
  induction pieces with
  | nil => simpa [joinWith] using hne
  | cons first rest ih =>
    cases rest with
    | nil => simp [joinWith]
    | cons next rest =>
      rw [joinWith, List.append_assoc, List.singleton_append, isInfix_separated_iff hword, ih]
      · simp
      · exact List.cons_ne_nil _ _

end Seams

/-- What stands behind a cut is a stretch of the text. -/
theorem isInfix_of_cutAt {part s before after : List Char}
    (h : cutAt part s = some (before, after)) : after <:+: s := by
  rw [eq_of_cutAt h]
  exact ((List.suffix_append part after).trans (List.suffix_append before _)).isInfix

/-- The quotes of a text are what was taken off it. -/
theorem eq_of_betweenQuotes? {s content : List Char} (h : betweenQuotes? s = some content) :
    ∃ mark ∈ ['\x27', '"', '\x60'], s = mark :: (content ++ [mark]) := by
  unfold betweenQuotes? at h
  split at h
  · rename_i mark rest
    split at h
    · rename_i hmarks
      cases h
      obtain ⟨hmark, hlast⟩ := Bool.and_eq_true_iff.mp hmarks
      refine ⟨mark, by simpa using hmark, congrArg (mark :: ·) ?_⟩
      exact (List.dropLast_append_getLast? mark (by simpa using hlast)).symm
    · cases h
  · cases h

/-- What stands between quotes is read back. -/
theorem betweenQuotes?_quoted {mark : Char} (hmark : mark ∈ ['\x27', '"', '\x60'])
    (content : List Char) : betweenQuotes? (mark :: (content ++ [mark])) = some content := by
  have hknown : ['\x27', '"', '\x60'].contains mark = true := List.contains_iff_mem.mpr hmark
  rw [betweenQuotes?, hknown]
  simp

namespace Spot

/-- A place with the text of a group. -/
def keep (spot : Spot) (n start : Nat) (text : List Char) : Spot :=
  { spot with captures := ⟨n, start, text⟩ :: spot.captures }

/-- What holds of places goes on to hold when a character is passed over and when a group is kept
that begins at such a place. -/
structure Invariant (I : Spot → Prop) : Prop where
  advance {spot : Spot} {c : Char} {rest : List Char} (h : I spot) (hrest : spot.rest = c :: rest) :
    I (spot.advance c rest)
  keep {spot reached : Spot} (h : I spot) (hreached : I reached) (n length : Nat) :
    I (reached.keep n spot.pos (spot.rest.take length))

/-- A step leads from places of which something holds only to such places. -/
def Keeps (I : Spot → Prop) (step : (Spot → Option Spot) → Spot → Option Spot) : Prop :=
  ∀ {next : Spot → Option Spot} {spot found : Spot}, I spot →
    step next spot = some found → ∃ reached, I reached ∧ next reached = some found

variable {I : Spot → Prop} {spot : Spot}

/-- What holds of a place holds of all places that are reached from it over characters. -/
theorem Invariant.reach (hinv : Invariant I) (h : I spot) (p : Char → Bool) :
    ∀ reached ∈ spot.reach p, I reached := by
  suffices hgo : ∀ (rest : List Char) (done : List Spot) (here : Spot), here.rest = rest →
      I here → (∀ reached ∈ done, I reached) →
      ∀ reached ∈ Spot.reach.go p done here rest, I reached by
    exact hgo spot.rest [] spot rfl h fun _ hreached => nomatch hreached
  intro rest
  induction rest with
  | nil => exact fun done here _ hhere hdone => List.forall_mem_cons.mpr ⟨hhere, hdone⟩
  | cons c rest ih =>
    intro done here hrest hhere hdone
    have hall := List.forall_mem_cons.mpr ⟨hhere, hdone⟩
    rw [reach.go]
    split
    · exact ih (here :: done) (here.advance c rest) rfl (hinv.advance hhere hrest) hall
    · exact hall

/-- The first place from which the continuation succeeds is one of the places. -/
theorem exists_of_firstOf {next : Spot → Option Spot} {spots : List Spot} {found : Spot}
    (h : firstOf next spots = some found) : ∃ reached ∈ spots, next reached = some found := by
  induction spots with
  | nil => cases h
  | cons spot rest ih =>
    rw [firstOf] at h
    split at h
    · rename_i hnext
      cases h
      exact ⟨spot, List.mem_cons_self, hnext⟩
    · obtain ⟨reached, hreached, hfound⟩ := ih h
      exact ⟨reached, List.mem_cons_of_mem _ hreached, hfound⟩

/-- A repetition keeps what the step that is repeated keeps. -/
theorem Keeps.repeatStep {step : (Spot → Option Spot) → Spot → Option Spot}
    (hstep : Keeps I step) (fuel : Nat) :
    Keeps I fun next spot => Spot.repeatStep step next fuel spot := by
  induction fuel with
  | zero => exact fun {next spot found} hspot h => ⟨spot, hspot, h⟩
  | succ fuel ih =>
    intro next spot found hspot h
    dsimp only at h
    rw [Spot.repeatStep] at h
    split at h
    · rename_i hfound
      cases h
      obtain ⟨between, hbetween, hagain⟩ := hstep hspot hfound
      split at hagain
      · cases hagain
      · exact ih hbetween hagain
    · exact ⟨spot, hspot, h⟩

end Spot

namespace Pattern

open Spot

/-- A pattern leads from places of which an invariant holds only to such places. -/
theorem keeps_follow {I : Spot → Prop} (hinv : Invariant I) (p : Pattern) : Keeps I p.follow := by
  induction p with
  | empty => exact fun {next spot found} hspot h => ⟨spot, hspot, h⟩
  | one p =>
    intro next spot found hspot h
    rw [follow] at h
    split at h
    · rename_i c rest hrest
      split at h
      · exact ⟨_, hinv.advance hspot hrest, h⟩
      · cases h
    · cases h
  | run p =>
    intro next spot found hspot h
    obtain ⟨reached, hreached, hnext⟩ := exists_of_firstOf h
    exact ⟨reached, hinv.reach hspot p reached hreached, hnext⟩
  | thriftyRun p =>
    intro next spot found hspot h
    obtain ⟨reached, hreached, hnext⟩ := exists_of_firstOf h
    exact ⟨reached, hinv.reach hspot p reached (List.mem_reverse.mp hreached), hnext⟩
  | seq a b iha ihb =>
    intro next spot found hspot h
    obtain ⟨between, hbetween, hrest⟩ := iha hspot h
    exact ihb hbetween hrest
  | alt a b iha ihb =>
    intro next spot found hspot h
    rw [follow] at h
    split at h
    · rename_i hfound
      cases h
      exact iha hspot hfound
    · exact ihb hspot h
  | many a iha => exact fun hspot h => iha.repeatStep _ hspot h
  | group n a iha =>
    -- What follows starts from the place that is reached with the new group added to it.
    intro next spot found hspot h
    obtain ⟨reached, hreached, hnext⟩ := iha hspot h
    exact ⟨_, hinv.keep hspot hreached n _, hnext⟩
  | finish =>
    intro next spot found hspot h
    rw [follow] at h
    split at h
    · exact ⟨spot, hspot, h⟩
    · cases h
  | wordEdge =>
    intro next spot found hspot h
    rw [follow] at h
    split at h
    · exact ⟨spot, hspot, h⟩
    · cases h

end Pattern

/-- What is left at a place is the end of a text, and the groups kept so far are stretches of the
text. -/
structure Spot.Inside (whole : List Char) (spot : Spot) : Prop where
  rest : spot.rest <:+ whole
  captures : ∀ capture ∈ spot.captures, capture.text <:+: whole

namespace Spot

variable {whole : List Char} {spot : Spot}

/-- The beginning of a text stands in it. -/
theorem inside_start (s : List Char) : Inside s (start s) :=
  ⟨List.suffix_rfl, fun _ h => nomatch h⟩

/-- A place without the groups on the way to it. -/
theorem Inside.forget (h : Inside whole spot) : Inside whole { spot with captures := [] } :=
  ⟨h.rest, fun _ hcapture => nomatch hcapture⟩

/-- The place after the next character is still in the text, and what is kept of the text from a
place on is a stretch of it. -/
theorem inside_invariant (whole : List Char) : Invariant (Inside whole) where
  advance {spot c rest} h hrest := by
    refine ⟨?_, h.captures⟩
    have hsuffix : c :: rest <:+ whole := hrest ▸ h.rest
    exact (List.suffix_cons c rest).trans hsuffix
  keep h hreached n length := by
    refine ⟨hreached.rest, fun capture hcapture => ?_⟩
    rcases List.mem_cons.mp hcapture with rfl | hcapture
    · exact (List.take_prefix _ _).isInfix.trans h.rest.isInfix
    · exact hreached.captures capture hcapture

end Spot

namespace Pattern

open Spot

variable {whole : List Char}

/-- The groups of a match that begins in a text are stretches of the text. -/
theorem captures_of_matchFrom? {p : Pattern} {spot reached : Spot} {m : Match}
    (hspot : Inside whole spot) (h : p.matchFrom? spot = some (m, reached)) :
    ∀ capture ∈ m.captures, capture.text <:+: whole := by
  obtain ⟨finish, hfollow, heq⟩ := Option.map_eq_some_iff.mp h
  obtain ⟨last, hlast, hsame⟩ := keeps_follow (inside_invariant whole) p hspot.forget hfollow
  cases heq
  cases hsame
  exact hlast.captures

/-- The groups of the leftmost match are stretches of the text. -/
theorem captures_of_searchFrom? {p : Pattern} {spot reached : Spot} {m : Match}
    (hspot : Inside whole spot) (h : p.searchFrom? spot = some (m, reached)) :
    ∀ capture ∈ m.captures, capture.text <:+: whole := by
  suffices hgo : ∀ (rest : List Char) (here : Spot), here.rest = rest → Inside whole here →
      searchFrom?.go p here rest = some (m, reached) →
      ∀ capture ∈ m.captures, capture.text <:+: whole by
    exact hgo spot.rest spot rfl hspot h
  intro rest
  induction rest with
  | nil => exact fun here _ hhere h => captures_of_matchFrom? hhere h
  | cons c rest ih =>
    intro here hrest hhere h
    rw [searchFrom?.go] at h
    split at h
    · rename_i hfound
      cases h
      exact captures_of_matchFrom? hhere hfound
    · exact ih (here.advance c rest) rfl ((inside_invariant whole).advance hhere hrest) h

end Pattern

namespace Match

/-- The text of a group is one of the stretches that a match keeps, or empty. -/
theorem isInfix_group {m : Match} {whole : List Char}
    (h : ∀ capture ∈ m.captures, capture.text <:+: whole) (n : Nat) :
    (m.group n).toList <:+: whole := by
  unfold group group? capture?
  cases hfound : m.captures.find? fun c => c.number == n with
  | none => exact List.nil_infix
  | some capture =>
    rw [Option.map_some, Option.getD_some, String.toList_ofList]
    exact h capture (List.mem_of_find?_eq_some hfound)

end Match

namespace Pattern

/-- What a group holds of a match at the beginning of a text stands in the text. -/
theorem group_of_matchStart? {p : Pattern} {s : String} {m : Match} (h : p.matchStart? s = some m)
    (n : Nat) : (m.group n).toList <:+: s.toList := by
  obtain ⟨⟨_, reached⟩, hfound, rfl⟩ := Option.map_eq_some_iff.mp h
  exact Match.isInfix_group (captures_of_matchFrom? (Spot.inside_start s.toList) hfound) n

/-- What a group holds of the leftmost match in a text stands in the text. -/
theorem group_of_search? {p : Pattern} {s : String} {m : Match} (h : p.search? s = some m)
    (n : Nat) : (m.group n).toList <:+: s.toList := by
  obtain ⟨⟨_, reached⟩, hfound, rfl⟩ := Option.map_eq_some_iff.mp h
  exact Match.isInfix_group (captures_of_searchFrom? (Spot.inside_start s.toList) hfound) n

end Pattern

end Restack.Text
