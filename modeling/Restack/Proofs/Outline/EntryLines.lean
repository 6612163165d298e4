import Restack.Outline.Block
import Restack.Proofs.Text.Matching
import Restack.Proofs.Text.Trimming

/-!
# Lines with an entry

A line that holds an entry has a word as its key, a colon, and a value with nothing but a comma
behind it. The key and the value are read from such a line exactly as they stand there, wherever
blanks are put around them. From a line that begins with a closing brace nothing is read.
-/

namespace Restack.Outline

open Restack.Text
open Pattern Spot

section Signs

variable {c : Char}

/-- The blanks beyond ASCII. -/
def wideBlanks : List Nat :=
  [133, 160, 5760, 8192, 8193, 8194, 8195, 8196, 8197, 8198, 8199, 8200, 8201, 8202, 8232, 8233,
    8239, 8287, 12288]

/-- The blanks are those up to the space, and a few wide ones. -/
theorem toNat_of_isBlank (h : isBlank c = true) : c.toNat ≤ 32 ∨ c.toNat ∈ wideBlanks := by
  simp only [isBlank, Bool.or_eq_true, Bool.and_eq_true, decide_eq_true_eq, beq_iff_eq] at h
  simp only [wideBlanks, List.mem_cons, List.not_mem_nil, or_false]
  omega

/-- Blanks are no part of a word. -/
theorem isWordChar_of_isBlank (h : isBlank c = true) : isWordChar c = false := by
  rcases toNat_of_isBlank h with hlow | hwide
  · have hletter : isAsciiLetter c = false := Bool.eq_false_iff.mpr fun hletter => by
      have hcode := toNat_of_isAsciiLetter hletter
      omega
    have hdigit : isAsciiDigit c = false := Bool.eq_false_iff.mpr fun hdigit => by
      have hcode := toNat_of_isAsciiDigit hdigit
      omega
    have hbar : (c == '_') = false := beq_false_of_ne fun heq => by
      rw [heq] at hlow
      exact absurd hlow (by decide)
    rw [isWordChar, if_pos (by omega), hletter, hdigit, hbar]
    rfl
  · have hhigh : ∀ n ∈ wideBlanks, 128 ≤ n ∧ inRanges wordRanges n = false := by decide +kernel
    obtain ⟨hcode, hoff⟩ := hhigh _ hwide
    rw [isWordChar, if_neg (Nat.not_lt_of_le hcode), hoff]

/-- The characters of words are no blanks. -/
theorem isBlank_of_isWordChar (h : isWordChar c = true) : isBlank c = false :=
  Bool.eq_false_iff.mpr fun hblank => by
    rw [isWordChar_of_isBlank hblank] at h
    cases h

/-- Either kind of quotation mark. -/
def isQuote (c : Char) : Bool := "'\"".toList.contains c

/-- What a test accepts that refuses both quotes is no quote. -/
theorem isQuote_eq_false {p : Char → Bool} (hsingle : p '\x27' = false) (hdouble : p '\x22' = false)
    (h : p c = true) : isQuote c = false := by
  refine Bool.eq_false_iff.mpr fun hquote => ?_
  have hmem : c ∈ ['\x27', '\x22'] := List.contains_iff_mem.mp hquote
  rcases List.mem_pair.mp hmem with rfl | rfl
  · rw [hsingle] at h
    cases h
  · rw [hdouble] at h
    cases h

/-- The characters of words are no quotes. -/
theorem isQuote_of_isWordChar (h : isWordChar c = true) : isQuote c = false :=
  isQuote_eq_false (by decide) (by decide) h

/-- Blanks are no quotes. -/
theorem isQuote_of_isBlank (h : isBlank c = true) : isQuote c = false :=
  isQuote_eq_false (by decide) (by decide) h

end Signs

/-- A line with a key and its value, which takes up all of the line but the blanks around them and a
comma at the end. -/
structure EntryLine where
  indent : List Char
  key : List Char
  beforeColon : List Char
  afterColon : List Char
  value : List Char
  tail : List Char
  indent_blank : ∀ c ∈ indent, isBlank c = true
  key_ne_nil : key ≠ []
  key_word : ∀ c ∈ key, isWordChar c = true
  beforeColon_blank : ∀ c ∈ beforeColon, isBlank c = true
  afterColon_blank : ∀ c ∈ afterColon, isBlank c = true
  value_ne_nil : value ≠ []
  value_trimmed : IsTrimmed value
  value_last : value.getLast? ≠ some ','
  value_line : '\n' ∉ value
  tail_end : trim tail = [] ∨ trim tail = [',']

namespace EntryLine

/-- The characters from the colon on. -/
def fromColon (line : EntryLine) : List Char :=
  ':' :: (line.afterColon ++ (line.value ++ line.tail))

/-- The line as it is written. -/
def text (line : EntryLine) : String :=
  String.ofList (line.indent ++ (line.key ++ (line.beforeColon ++ line.fromColon)))

/-- The entry that a line with a number holds. -/
def entry (line : EntryLine) (number : Nat) : Entry :=
  ⟨String.ofList line.key, String.ofList line.value, number⟩

section Heads

variable {p : Char → Bool} (line : EntryLine)

/-- A key begins with a character of words. -/
theorem exists_key : ∃ c others, line.key = c :: others ∧ isWordChar c = true := by
  obtain ⟨c, others, hkey⟩ := List.exists_cons_of_ne_nil line.key_ne_nil
  exact ⟨c, others, hkey, line.key_word c (hkey ▸ List.mem_cons_self)⟩

/-- A test that refuses the characters of words refuses the beginning of a key. -/
theorem head?_key_append (h : ∀ c, isWordChar c = true → p c = false) (rest : List Char) :
    (line.key ++ rest).head?.any p = false := by
  obtain ⟨c, others, hkey, hc⟩ := line.exists_key
  rw [hkey]
  exact h c hc

/-- A test that refuses blanks and the colon refuses what follows a key. -/
theorem head?_beforeColon_append (hcolon : p ':' = false)
    (h : ∀ c, isBlank c = true → p c = false) :
    (line.beforeColon ++ line.fromColon).head?.any p = false := by
  cases hblanks : line.beforeColon with
  | nil => exact hcolon
  | cons c others => exact h c (line.beforeColon_blank c (hblanks ▸ List.mem_cons_self))

/-- A value does not begin with a blank. -/
theorem head?_value_append (rest : List Char) :
    (line.value ++ rest).head?.any isBlank = false := by
  obtain ⟨c, others, hvalue⟩ := List.exists_cons_of_ne_nil line.value_ne_nil
  have hc : isBlank c = false := line.value_trimmed.head c (by rw [hvalue]; rfl)
  rw [hvalue]
  exact hc

end Heads

end EntryLine

section Reading

variable {spot : Spot} {next : Spot → Option Spot} {c : Char} {rest : List Char}

/-- What may stand behind a value. -/
def afterValue : Spot → Option Spot :=
  blanks.follow ((maybe (sign ',')).follow (blanks.follow (finish.follow some)))

/-- What is read behind a key. -/
def afterKey : Spot → Option Spot :=
  (maybe quotes).follow (blanks.follow ((sign ':').follow (blanks.follow
    ((group 2 (thriftyRun1 (· != '\n'))).follow afterValue))))

/-- The pattern of an entry goes on behind the blanks in front and the key. -/
theorem follow_entryPattern :
    entryPattern.follow some =
      blanks.follow ((maybe quotes).follow ((group 1 word).follow afterKey)) := rfl

/-- Behind its value an entry cannot go on over anything but blanks and a comma. -/
theorem afterValue_eq_none (hmem : c ∈ spot.rest) (hblank : isBlank c = false) (hcomma : c ≠ ',') :
    afterValue spot = none := by
  have hfeed : c ≠ '\n' := fun heq => by
    rw [heq] at hblank
    cases hblank
  have hfinish : ∀ here : Spot, c ∈ here.rest → finish.follow some here = none := by
    intro here hmem
    have hatFinish : here.atFinish = false := by
      unfold Spot.atFinish
      split
      · rename_i hrest
        rw [hrest] at hmem
        cases hmem
      · rename_i d hrest
        rw [hrest, List.mem_singleton] at hmem
        exact beq_false_of_ne fun heq => hfeed (hmem.trans heq)
      · rfl
    rw [follow, hatFinish]
    exact if_neg Bool.false_ne_true
  have hblanks : ∀ here : Spot, c ∈ here.rest →
      blanks.follow (finish.follow some) here = none := fun here hmem =>
    follow_run_eq_none hmem hblank hfinish
  refine follow_run_eq_none hmem hblank fun here hmem => ?_
  rw [follow_maybe_of_none, hblanks here hmem]
  cases hrest : here.rest with
  | nil =>
    rw [hrest] at hmem
    cases hmem
  | cons d rest =>
    rw [hrest] at hmem
    by_cases hd : d = ','
    · subst hd
      exact (follow_sign hrest).trans
        (hblanks _ ((List.mem_cons.mp hmem).resolve_left hcomma))
    · exact follow_sign_of_ne (by simpa [hrest] using hd)

/-- Blanks at the end of a line are passed over. -/
theorem follow_blanks_finish (h : ∀ c ∈ spot.rest, isBlank c = true) :
    blanks.follow (finish.follow some) spot = some (spot.past isBlank) := by
  have hrest : (spot.past isBlank).rest = [] := rest_past (List.append_nil _).symm h rfl
  refine follow_run_of_eq_some ?_
  rw [follow, Spot.atFinish, hrest]
  exact if_pos rfl

/-- Blanks, a comma among them, may stand behind a value. -/
theorem exists_afterValue (h : trim spot.rest = [] ∨ trim spot.rest = [',']) :
    ∃ reached, afterValue spot = some reached ∧ reached.captures = spot.captures := by
  obtain ⟨front, back, hrest, hfront, hback⟩ := exists_trim spot.rest
  rcases h with hnone | hcomma
  · rw [hnone, List.append_nil] at hrest
    have hblank : ∀ c ∈ spot.rest, isBlank c = true := by
      rw [hrest]
      exact List.forall_mem_append.mpr ⟨hfront, hback⟩
    have hpast : (spot.past isBlank).rest = [] := rest_past (List.append_nil _).symm hblank rfl
    refine ⟨(spot.past isBlank).past isBlank, follow_run_of_eq_some ?_, rfl⟩
    refine (follow_maybe_of_none (follow_sign_of_ne ?_)).trans (follow_blanks_finish ?_)
    · rw [hpast]
      nofun
    · rw [hpast]
      exact List.forall_mem_nil _
  · rw [hcomma, List.append_assoc] at hrest
    have hpast : (spot.past isBlank).rest = ',' :: back := rest_past hrest hfront rfl
    refine ⟨((spot.past isBlank).advance ',' back).past isBlank, follow_run_of_eq_some ?_, rfl⟩
    exact follow_alt_of_eq_some ((follow_sign hpast).trans (follow_blanks_finish hback))

/-- A value is taken up to its end, since before that there is always something left of it. -/
theorem exists_follow_value (line : EntryLine) (hrest : spot.rest = line.value ++ line.tail) :
    ∃ reached, (group 2 (thriftyRun1 (· != '\n'))).follow afterValue spot = some reached ∧
      reached.captures = ⟨2, spot.pos, line.value⟩ :: spot.captures := by
  obtain ⟨first, others, hvalue⟩ := List.exists_cons_of_ne_nil line.value_ne_nil
  have hline : ∀ c ∈ first :: others, (c != '\n') = true := fun c hc =>
    bne_iff_ne.mpr fun heq => line.value_line (heq ▸ hvalue ▸ hc)
  obtain ⟨hfirst, hothers⟩ := List.forall_mem_cons.mp hline
  have hstuck : ∀ (here : Spot) (back : List Char), back <:+ others → back ≠ [] →
      here.rest = back ++ line.tail → afterValue (spot.keepFrom 2 here) = none := by
    intro here back hback hne hhere
    -- The last character of the value is still there, and it is neither a blank nor a comma.
    have hlast : line.value.getLast? = some (back.getLast hne) := by
      obtain ⟨front, rfl⟩ := hback
      rw [hvalue, ← List.cons_append, List.getLast?_append_of_ne_nil _ hne,
        List.getLast?_eq_some_getLast hne]
    have hmem : back.getLast hne ∈ here.rest := by
      rw [hhere]
      exact List.mem_append_left _ (List.getLast_mem hne)
    refine afterValue_eq_none hmem (line.value_trimmed.last _ hlast) fun heq => ?_
    rw [heq] at hlast
    exact line.value_last hlast
  have hahead : (spot.advance first (others ++ line.tail)).rest = others ++ line.tail := rfl
  obtain ⟨here, hleft, hpos, hcaptures, hfollow⟩ :=
    exists_follow_thriftyRun hahead hothers hstuck
  have hkept : spot.rest.take (here.pos - spot.pos) = line.value := by
    have hlength : here.pos - spot.pos = line.value.length := by
      rw [hpos, hvalue, List.length_cons, Spot.advance]
      dsimp only
      omega
    rw [hlength, hrest, List.take_left]
  have htail : (spot.keepFrom 2 here).rest = line.tail := hleft
  obtain ⟨reached, hreached, hlater⟩ := exists_afterValue (htail ▸ line.tail_end)
  refine ⟨reached, ?_, ?_⟩
  · have hopening : spot.rest = first :: (others ++ line.tail) := by
      rw [hrest, hvalue]
      rfl
    change (one (· != '\n')).follow ((thriftyRun (· != '\n')).follow
      (afterValue ∘ spot.keepFrom 2)) spot = _
    rw [follow_one_of_meets hopening hfirst]
    refine (hfollow.trans (follow_thriftyRun_of_isSome ?_)).trans hreached
    exact Option.isSome_of_eq_some hreached
  · rw [hlater]
    change ⟨2, spot.pos, spot.rest.take (here.pos - spot.pos)⟩ :: here.captures = _
    rw [hkept, hcaptures]
    rfl

/-- Behind the key, the colon is passed over with the blanks around it. -/
theorem exists_afterKey (line : EntryLine)
    (hrest : spot.rest = line.beforeColon ++ line.fromColon) : ∃ reached start,
      afterKey spot = some reached ∧
        reached.captures = ⟨2, start, line.value⟩ :: spot.captures := by
  have hquote : spot.meets isQuote = false := by
    rw [meets, hrest]
    exact line.head?_beforeColon_append (by decide) fun _ => isQuote_of_isBlank
  have hcolon : (spot.past isBlank).rest = line.fromColon :=
    rest_past hrest line.beforeColon_blank rfl
  obtain ⟨behind, hbehind⟩ : ∃ behind, behind =
    (spot.past isBlank).advance ':' (line.afterColon ++ (line.value ++ line.tail)) := ⟨_, rfl⟩
  have hvalue : (behind.past isBlank).rest = line.value ++ line.tail := by
    rw [hbehind]
    exact rest_past rfl line.afterColon_blank (line.head?_value_append line.tail)
  obtain ⟨reached, hreached, hcaptures⟩ := exists_follow_value line hvalue
  refine ⟨reached, (behind.past isBlank).pos, ?_, ?_⟩
  · refine (follow_maybe_of_none (follow_one_of_not_meets hquote)).trans (follow_run_of_eq_some ?_)
    refine (follow_sign hcolon).trans (follow_run_of_eq_some ?_)
    rw [← hbehind]
    exact hreached
  · rw [hcaptures, hbehind]
    rfl

/-- The key is taken as a whole, since neither a blank nor a colon is part of a word. -/
theorem exists_follow_key (line : EntryLine)
    (hrest : spot.rest = line.key ++ (line.beforeColon ++ line.fromColon)) :
    ∃ reached start, (group 1 word).follow afterKey spot = some reached ∧
      reached.captures = ⟨2, start, line.value⟩ :: ⟨1, spot.pos, line.key⟩ :: spot.captures := by
  have hstop : (line.beforeColon ++ line.fromColon).head?.any isWordChar = false :=
    line.head?_beforeColon_append (by decide) fun _ => isWordChar_of_isBlank
  have hmeets : spot.meets isWordChar = true := by
    obtain ⟨c, others, hkey, hc⟩ := line.exists_key
    rw [hkey] at hrest
    exact (meets_cons hrest).trans hc
  have hleft : ((spot.past isWordChar).keep 1 spot.pos (spot.rest.takeWhile isWordChar)).rest =
      line.beforeColon ++ line.fromColon := rest_past hrest line.key_word hstop
  obtain ⟨reached, start, hreached, hcaptures⟩ := exists_afterKey line hleft
  refine ⟨reached, start, ?_, ?_⟩
  · exact (follow_group_of_isSome (fun _ => id) hmeets (Option.isSome_of_eq_some hreached)).trans
      hreached
  · rw [hcaptures, takeWhile_rest hrest line.key_word hstop]
    rfl

/-- Where neither a quotation mark nor a word comes next there is no key. -/
theorem follow_key_eq_none (hquote : spot.meets isQuote = false)
    (hword : spot.meets isWordChar = false) :
    (maybe quotes).follow ((group 1 word).follow next) spot = none :=
  (follow_maybe_of_none (follow_one_of_not_meets hquote)).trans (follow_one_of_not_meets hword)

end Reading

/-- The entry on a line is its key with its value. -/
theorem entryOn?_text (line : EntryLine) (number : Nat) :
    entryOn? line.text number = some (line.entry number) := by
  have hstart : (Spot.start line.text.toList).rest =
      line.indent ++ (line.key ++ (line.beforeColon ++ line.fromColon)) := String.toList_ofList
  have hkey : ((Spot.start line.text.toList).past isBlank).rest =
      line.key ++ (line.beforeColon ++ line.fromColon) := by
    refine rest_past hstart line.indent_blank ?_
    exact line.head?_key_append (fun _ => isBlank_of_isWordChar) _
  have hquote : ((Spot.start line.text.toList).past isBlank).meets isQuote = false := by
    rw [meets, hkey]
    exact line.head?_key_append (fun _ => isQuote_of_isWordChar) _
  obtain ⟨reached, start, hreached, hcaptures⟩ := exists_follow_key line hkey
  have hfollow : entryPattern.follow some (Spot.start line.text.toList) = some reached := by
    rw [follow_entryPattern]
    refine follow_run_of_eq_some ?_
    exact (follow_maybe_of_none (follow_one_of_not_meets hquote)).trans hreached
  have hmatch : entryPattern.matchStart? line.text = some ⟨0, reached.pos, reached.captures⟩ := by
    have hcleared : { Spot.start line.text.toList with captures := [] } =
        Spot.start line.text.toList := rfl
    rw [matchStart?, matchFrom?, hcleared, hfollow]
    rfl
  rw [entryOn?, hmatch, hcaptures]
  rfl

/-- A line that begins with something other than a word or a quotation mark holds no entry. -/
theorem entryOn?_eq_none {indent rest : List Char} {c : Char}
    (hindent : ∀ c ∈ indent, isBlank c = true) (hblank : isBlank c = false)
    (hquote : isQuote c = false) (hword : isWordChar c = false) (number : Nat) :
    entryOn? (String.ofList (indent ++ c :: rest)) number = none := by
  have hpast : ((Spot.start (indent ++ c :: rest)).past isBlank).rest = c :: rest :=
    rest_past rfl hindent hblank
  have hfollow : entryPattern.follow some (Spot.start (indent ++ c :: rest)) = none := by
    rw [follow_entryPattern]
    refine (follow_run_of_stuck fun here hmeets => ?_).trans ?_
    · exact follow_key_eq_none (not_meets_of_meets (fun _ => isQuote_of_isBlank) hmeets)
        (not_meets_of_meets (fun _ => isWordChar_of_isBlank) hmeets)
    · exact follow_key_eq_none ((meets_cons hpast).trans hquote) ((meets_cons hpast).trans hword)
  have hcleared : { Spot.start (indent ++ c :: rest) with captures := [] } =
      Spot.start (indent ++ c :: rest) := rfl
  rw [entryOn?, matchStart?, matchFrom?, String.toList_ofList, hcleared, hfollow]
  rfl

/-- A line with an entry is no comment. -/
theorem startsWith_slashes_text (line : EntryLine) :
    startsWith ['/', '/'] (trim line.text.toList) = false := by
  refine Bool.eq_false_iff.mpr fun hcomment => ?_
  obtain ⟨c, others, hkey, hc⟩ := line.exists_key
  have hvisible : ¬isBlank c = true := Bool.eq_false_iff.mp (isBlank_of_isWordChar hc)
  have hslashes := startsWith_iff_prefix.mp hcomment
  have hprefix := hslashes.trans (isPrefix_dropTail isBlank _)
  rw [EntryLine.text, String.toList_ofList, List.dropWhile_append_of_pos line.indent_blank, hkey,
    List.cons_append, List.dropWhile_cons_of_neg hvisible] at hprefix
  rw [← (List.cons_prefix_cons.mp hprefix).1] at hc
  exact absurd hc (by decide)

end Restack.Outline
