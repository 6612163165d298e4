import Restack.Proofs.Outline.EntryLines
import Restack.Proofs.Outline.Partners

/-!
# Objects over several lines

An object that goes on over several lines has each of its entries on a line of its own, or on a line
and those of another object that begins there. The depth within braces at the beginning of a line
tells whether it is looked at, and the brace that closes the object tells which line is the last.
Both agree on such an object, so that its entries are read as they stand there, and nothing that
stands deeper or behind the object is taken for one.
-/

namespace Restack.Outline

open Restack.Text

section Braces

variable {c : Char}

/-- Blanks are no braces. -/
theorem not_isBrace_of_isBlank (h : isBlank c = true) : ¬IsBrace c := by
  rintro (rfl | rfl) <;> exact absurd h (by decide)

/-- The characters of words are no braces. -/
theorem not_isBrace_of_isWordChar (h : isWordChar c = true) : ¬IsBrace c := by
  rintro (rfl | rfl) <;> exact absurd h (by decide)

end Braces

namespace EntryLine

/-- The characters before the value. -/
def beforeValue (line : EntryLine) : List Char :=
  line.indent ++ (line.key ++ (line.beforeColon ++ ':' :: line.afterColon))

/-- A line is what stands before its value, the value, and what stands behind it. -/
theorem toList_text (line : EntryLine) :
    line.text.toList = line.beforeValue ++ (line.value ++ line.tail) := by
  rw [text, String.toList_ofList, beforeValue, fromColon]
  simp only [List.append_assoc, List.cons_append]

/-- No brace stands before a value. -/
theorem beforeValue_plain (line : EntryLine) : ∀ c ∈ line.beforeValue, ¬IsBrace c := by
  have hblank : ∀ s : List Char, (∀ c ∈ s, isBlank c = true) → ∀ c ∈ s, ¬IsBrace c :=
    fun s hs c hc => not_isBrace_of_isBlank (hs c hc)
  refine List.forall_mem_append.mpr ⟨hblank _ line.indent_blank, ?_⟩
  refine List.forall_mem_append.mpr ⟨fun c hc => not_isBrace_of_isWordChar (line.key_word c hc), ?_⟩
  refine List.forall_mem_append.mpr ⟨hblank _ line.beforeColon_blank, ?_⟩
  exact List.forall_mem_cons.mpr ⟨by decide, hblank _ line.afterColon_blank⟩

/-- No brace stands behind a value. -/
theorem tail_plain (line : EntryLine) : ∀ c ∈ line.tail, ¬IsBrace c := by
  obtain ⟨front, back, htail, hfront, hback⟩ := exists_trim line.tail
  rw [htail]
  refine List.forall_mem_append.mpr ⟨List.forall_mem_append.mpr ⟨fun c hc =>
    not_isBrace_of_isBlank (hfront c hc), ?_⟩, fun c hc => not_isBrace_of_isBlank (hback c hc)⟩
  rcases line.tail_end with hnone | hcomma
  · rw [hnone]
    exact List.forall_mem_nil _
  · rw [hcomma]
    exact List.forall_mem_singleton.mpr (by decide)

end EntryLine

/-- A line that begins with a closing brace and has no brace besides. -/
structure ClosingLine where
  indent : List Char
  rest : List Char
  indent_blank : ∀ c ∈ indent, isBlank c = true
  rest_plain : ∀ c ∈ rest, ¬IsBrace c

/-- The line as it is written. -/
def ClosingLine.text (line : ClosingLine) : String :=
  String.ofList (line.indent ++ '\x7d' :: line.rest)

/-- An entry of an object with the lines that it takes. -/
inductive ObjectItem where
  /-- A value that ends on its line: one without braces, or one whose braces nest, such as an object
  on one line. -/
  | line (heading : EntryLine) (value_balanced : IsBalanced heading.value)
  /-- An object that begins on the line of its key, with any lines whose braces nest in it. -/
  | nested (heading : EntryLine) (inner : List String) (closing : ClosingLine)
      (value_opens : heading.value = ['\x7b'])
      (inner_balanced : IsBalanced (inner.flatMap String.toList))

namespace ObjectItem

/-- The line with the key. -/
def heading : ObjectItem → EntryLine
  | line heading _ => heading
  | nested heading _ _ _ _ => heading

/-- The lines that an item stands on. -/
def lines : ObjectItem → List String
  | line heading _ => [heading.text]
  | nested heading inner closing _ _ => heading.text :: (inner ++ [closing.text])

end ObjectItem

/-- The entries that items hold, the first of which begins on the line with a number. -/
def entriesFrom (number : Nat) : List ObjectItem → List Entry
  | [] => []
  | item :: rest => item.heading.entry number :: entriesFrom (number + item.lines.length) rest

/-- An object as it is laid out over lines. On its first line there is no brace but its own. -/
structure ObjectLayout where
  front : List Char
  back : List Char
  items : List ObjectItem
  closing : ClosingLine
  front_plain : ∀ c ∈ front, ¬IsBrace c
  back_plain : ∀ c ∈ back, ¬IsBrace c

namespace ObjectLayout

/-- The line with the brace that opens the object. -/
def opening (layout : ObjectLayout) : String :=
  String.ofList (layout.front ++ '\x7b' :: layout.back)

/-- The lines between the first and the last. -/
def body (layout : ObjectLayout) : List String :=
  layout.items.flatMap ObjectItem.lines

/-- The lines of the object, from one brace to the other. -/
def lines (layout : ObjectLayout) : List String :=
  layout.opening :: (layout.body ++ [layout.closing.text])

/-- The entries of an object that begins on the line with a number. -/
def entries (layout : ObjectLayout) (number : Nat) : List Entry :=
  entriesFrom (number + 1) layout.items

end ObjectLayout

section Balance

/-- The braces of an item nest. -/
theorem ObjectItem.isBalanced (item : ObjectItem) :
    IsBalanced (item.lines.flatMap String.toList) := by
  cases item with
  | line heading value_balanced =>
    rw [lines, List.flatMap_singleton, heading.toList_text]
    exact (IsBalanced.of_forall heading.beforeValue_plain).append
      (value_balanced.append (IsBalanced.of_forall heading.tail_plain))
  | nested heading inner closing value_opens inner_balanced =>
    have hlines : (nested heading inner closing value_opens inner_balanced).lines.flatMap
        String.toList = heading.beforeValue ++ ('\x7b' :: (heading.tail ++
          (inner.flatMap String.toList ++ closing.indent) ++ ['\x7d']) ++ closing.rest) := by
      rw [lines, List.flatMap_cons, List.flatMap_append, List.flatMap_singleton,
        heading.toList_text, value_opens, ClosingLine.text, String.toList_ofList]
      simp only [List.append_assoc, List.cons_append, List.nil_append]
    have hindent : IsBalanced closing.indent := IsBalanced.of_forall fun c hc =>
      not_isBrace_of_isBlank (closing.indent_blank c hc)
    have htail : IsBalanced heading.tail := IsBalanced.of_forall heading.tail_plain
    rw [hlines]
    exact (IsBalanced.of_forall heading.beforeValue_plain).append
      ((htail.append (inner_balanced.append hindent)).enclosed.append
        (IsBalanced.of_forall closing.rest_plain))

/-- The lines between the outer braces are balanced. -/
theorem ObjectLayout.body_balanced (layout : ObjectLayout) :
    IsBalanced (layout.body.flatMap String.toList) := by
  rw [body]
  induction layout.items with
  | nil => exact IsBalanced.of_forall (List.forall_mem_nil _)
  | cons item rest ih =>
    rw [List.flatMap_cons, List.flatMap_append]
    exact item.isBalanced.append ih

end Balance

section Levels

variable {depth : Int} {lines : List String} {number : Nat}

/-- On further lines the depth goes on from where the lines before have left it. -/
theorem entriesBelow_append (depth : Int) (first second : List String) (number : Nat) :
    entriesBelow depth ((first ++ second).zipIdx number) =
      entriesBelow depth (first.zipIdx number) ++
        entriesBelow (depth + braceBalance (first.flatMap String.toList))
          (second.zipIdx (number + first.length)) := by
  induction first generalizing depth number with
  | nil =>
    have hnone : braceBalance ([].flatMap String.toList) = 0 := rfl
    rw [hnone, Int.add_zero]
    rfl
  | cons line rest ih =>
    rw [List.cons_append, List.zipIdx_cons, List.zipIdx_cons, entriesBelow, entriesBelow]
    rw [ih, List.append_assoc, List.flatMap_cons, braceBalance_append, Int.add_assoc,
      List.length_cons, Nat.add_assoc, Nat.add_comm 1]

/-- Nothing is read within a block below the first level. -/
theorem entriesBelow_eq_nil
    (h : ∀ front, front <+: lines.flatMap String.toList → 2 ≤ depth + braceBalance front)
    (number : Nat) : entriesBelow depth (lines.zipIdx number) = [] := by
  induction lines generalizing depth number with
  | nil => rfl
  | cons line rest ih =>
    have hdeep : ¬(depth == 1) = true := by
      have hhere : 2 ≤ depth + braceBalance [] := h [] List.nil_prefix
      have hnone : braceBalance [] = 0 := rfl
      rw [beq_iff_eq]
      omega
    have hrest := fun front (hfront : front <+: rest.flatMap String.toList) =>
      h (line.toList ++ front) ((List.prefix_append_right_inj _).mpr hfront)
    rw [List.zipIdx_cons, entriesBelow]
    rw [Bool.eq_false_iff.mpr hdeep, Bool.false_and, if_neg Bool.false_ne_true, List.nil_append]
    refine ih (fun front hfront => ?_) _
    have hlater := hrest front hfront
    rw [braceBalance_append] at hlater
    omega

/-- At the first level, the entry on a line is read. -/
theorem entriesBelow_text (line : EntryLine) (number : Nat) :
    entriesBelow 1 ([line.text].zipIdx number) = [line.entry number] := by
  rw [List.zipIdx_cons, entriesBelow]
  rw [startsWith_slashes_text, entryOn?_text]
  rfl

/-- From a line that begins with a closing brace nothing is read. -/
theorem entriesBelow_closing (depth : Int) (line : ClosingLine) (number : Nat) :
    entriesBelow depth ([line.text].zipIdx number) = [] := by
  have hnone : entryOn? line.text number = none :=
    entryOn?_eq_none line.indent_blank (by decide) (by decide) (by decide) number
  rw [List.zipIdx_cons, entriesBelow]
  rw [hnone, Option.toList_none, ite_self]
  rfl

/-- From the lines of an item one entry is read, and that is the one on the line with the key. -/
theorem entriesBelow_item (item : ObjectItem) (number : Nat) :
    entriesBelow 1 (item.lines.zipIdx number) = [item.heading.entry number] := by
  cases item with
  | line heading value_balanced => exact entriesBelow_text heading number
  | nested heading inner closing value_opens inner_balanced =>
    have hopen : braceBalance ['\x7b'] = 1 := rfl
    have hheading : braceBalance ([heading.text].flatMap String.toList) = 1 := by
      rw [List.flatMap_singleton, heading.toList_text, value_opens, braceBalance_append,
        braceBalance_append, braceBalance_of_forall heading.beforeValue_plain,
        braceBalance_of_forall heading.tail_plain]
      omega
    -- Within the braces of the heading and the object's own, the depth is two or more.
    have hinner : ∀ front, front <+: inner.flatMap String.toList → 2 ≤ 1 + 1 + braceBalance front :=
      fun front hfront => Int.le_add_of_nonneg_right (inner_balanced.nonneg front hfront)
    change entriesBelow 1 (([heading.text] ++ (inner ++ [closing.text])).zipIdx number) = _
    rw [entriesBelow_append, entriesBelow_append, entriesBelow_text, hheading,
      entriesBelow_eq_nil hinner, entriesBelow_closing]
    rfl

/-- From the lines of items their entries are read, once each and in order. -/
theorem entriesBelow_items (items : List ObjectItem) (number : Nat) :
    entriesBelow 1 ((items.flatMap ObjectItem.lines).zipIdx number) = entriesFrom number items := by
  induction items generalizing number with
  | nil => rfl
  | cons item rest ih =>
    rw [List.flatMap_cons, entriesBelow_append, entriesBelow_item, item.isBalanced.total,
      Int.add_zero, ih]
    rfl

end Levels

namespace ObjectLayout

/-- The number of the last line of an object that begins on the line with a number. -/
def last (layout : ObjectLayout) (number : Nat) : Nat := number + 1 + layout.body.length

/-- What stands between the braces of an object that begins on the line with a number. -/
def contents (layout : ObjectLayout) (number : Nat) : List (Char × Nat) :=
  layout.back.map (·, number) ++
    (charactersOn layout.body (number + 1) ++ layout.closing.indent.map (·, layout.last number))

/-- The characters between the outer braces are balanced, whatever lines they stand on. -/
theorem contents_balanced (layout : ObjectLayout) (number : Nat) :
    IsBalanced ((layout.contents number).map Prod.fst) := by
  have hback : IsBalanced layout.back := IsBalanced.of_forall layout.back_plain
  have hindent : IsBalanced layout.closing.indent := IsBalanced.of_forall fun c hc =>
    not_isBrace_of_isBlank (layout.closing.indent_blank c hc)
  rw [contents, List.map_append, List.map_append, map_fst_charactersOn, List.map_map, List.map_map]
  simpa [Function.comp_def] using hback.append (layout.body_balanced.append hindent)

/-- Behind what stands before its brace, an object goes from that to the brace on its last line. -/
theorem exists_charactersFrom (layout : ObjectLayout) (before after : List String) :
    ∃ rest, charactersFrom (before ++ (layout.lines ++ after)) before.length 0 =
      layout.front.map (·, before.length) ++ ('\x7b', before.length) ::
        (layout.contents before.length ++ ('\x7d', layout.last before.length) :: rest) := by
  rw [charactersFrom, linesFrom_zero, List.drop_left, lines, List.cons_append, List.append_assoc,
    charactersOn_cons, charactersOn_append, List.singleton_append, charactersOn_cons, opening,
    ClosingLine.text, String.toList_ofList, String.toList_ofList]
  simp only [contents, last, List.map_append, List.map_cons, List.append_assoc, List.cons_append]
  exact ⟨_, rfl⟩

/-- An object ends on its last line. -/
theorem blockEnd_eq (layout : ObjectLayout) (before after : List String) :
    blockEnd (before ++ (layout.lines ++ after)) before.length = layout.last before.length := by
  have hstart : before.length < (before ++ (layout.lines ++ after)).length := by
    simp only [List.length_append, lines, List.length_cons]
    omega
  have hfront : ∀ c ∈ layout.front.map (·, before.length), ¬IsBrace c.1 :=
    List.forall_mem_map.mpr layout.front_plain
  obtain ⟨rest, hchars⟩ := layout.exists_charactersFrom before after
  rw [blockEnd, blockEnd?_eq hstart,
    closingLine?_of_isBalanced hchars hfront (layout.contents_balanced before.length)]
  rfl

/-- The lines behind the first one, up to where the object ends. -/
theorem slice_eq (layout : ObjectLayout) (before after : List String) :
    slice (before ++ (layout.lines ++ after)) (before.length + 1) (layout.last before.length + 1) =
      layout.body ++ [layout.closing.text] := by
  have hlength : layout.last before.length + 1 - (before.length + 1) =
      (layout.body ++ [layout.closing.text]).length := by
    rw [List.length_append, List.length_singleton, last]
    omega
  rw [slice, ← List.drop_drop, List.drop_left, hlength]
  exact List.take_left

/-- The first line opens one brace. -/
theorem braceBalance_opening (layout : ObjectLayout) : braceBalance layout.opening.toList = 1 := by
  have hopen : braceBalance ['\x7b'] = 1 := rfl
  rw [opening, String.toList_ofList, braceBalance_append, braceBalance_cons,
    braceBalance_of_forall layout.front_plain, braceBalance_of_forall layout.back_plain]
  omega

/-- The first line closes no brace. -/
theorem brace_not_mem_opening (layout : ObjectLayout) : '\x7d' ∉ layout.opening.toList := by
  rw [opening, String.toList_ofList]
  intro hmem
  rcases List.mem_append.mp hmem with hfront | hback
  · exact layout.front_plain _ hfront (.inr rfl)
  · rcases List.mem_cons.mp hback with heq | hback
    · cases heq
    · exact layout.back_plain _ hback (.inr rfl)

end ObjectLayout

/-- A character that does not occur has no last place. -/
theorem lastPlace?_eq_none {c : Char} {s : List Char} (h : c ∉ s) : lastPlace? c s = none := by
  have hnone : s.reverse.findIdx? (· == c) = none := by
    rw [List.findIdx?_eq_none_iff]
    exact fun d hd => beq_false_of_ne fun heq => h (heq ▸ List.mem_reverse.mp hd)
  rw [lastPlace?, hnone]

/-- An object does not end on its first line if that has no closing brace. -/
theorem inlineEntries?_eq_none {line : String} (h : '\x7d' ∉ line.toList) (number : Nat) :
    inlineEntries? line number = none := by
  have hinline : '\x7d' ∉ afterBrace line.toList := by
    unfold afterBrace
    split
    · rename_i before rest hcut
      exact fun hmem => h ((isInfix_of_cutAt hcut).subset hmem)
    · exact h
  rw [inlineEntries?, lastPlace?_eq_none hinline]
  rfl

/-- **The entries of an object are read back from its lines**, wherever it stands among others: each
entry of its first level with its value and the number of its line, and nothing else. -/
theorem objectEntries_layout (layout : ObjectLayout) (before after : List String) :
    objectEntries (before ++ (layout.lines ++ after)) before.length =
      layout.entries before.length := by
  have hfirst : (before ++ (layout.lines ++ after))[before.length]? = some layout.opening := by
    rw [List.getElem?_append_right (Nat.le_refl _), Nat.sub_self]
    rfl
  have hinline : inlineEntries? layout.opening before.length = none :=
    inlineEntries?_eq_none layout.brace_not_mem_opening before.length
  rw [objectEntries, hfirst]
  dsimp only
  rw [hinline]
  dsimp only
  rw [layout.blockEnd_eq, layout.slice_eq, layout.braceBalance_opening, entriesBelow_append,
    entriesBelow_closing, List.append_nil]
  exact entriesBelow_items layout.items (before.length + 1)

/-- An object on one line. -/
def filterLine : EntryLine where
  indent := "    ".toList
  key := "filters".toList
  beforeColon := []
  afterColon := [' ']
  value := "\x7b open: true, tag: '' \x7d".toList
  tail := [',']
  indent_blank := List.all_eq_true.mp rfl
  key_ne_nil := by decide
  key_word := List.all_eq_true.mp rfl
  beforeColon_blank := List.forall_mem_nil _
  afterColon_blank := List.all_eq_true.mp rfl
  value_ne_nil := by decide
  value_trimmed := isTrimmed_trim "\x7b open: true, tag: '' \x7d".toList
  value_last := by decide
  value_line := by decide
  tail_end := .inr rfl

/-- The first line of an object over several lines. -/
def addressLine : EntryLine where
  indent := "    ".toList
  key := "address".toList
  beforeColon := [' ']
  afterColon := [' ']
  value := ['\x7b']
  tail := []
  indent_blank := List.all_eq_true.mp rfl
  key_ne_nil := by decide
  key_word := List.all_eq_true.mp rfl
  beforeColon_blank := List.all_eq_true.mp rfl
  afterColon_blank := List.all_eq_true.mp rfl
  value_ne_nil := by decide
  value_trimmed := isTrimmed_trim ['\x7b']
  value_last := by decide
  value_line := by decide
  tail_end := .inl rfl

/-- An object with two others in it. -/
def cartLayout : ObjectLayout where
  front := "  state: () => (".toList
  back := []
  items := [.line filterLine (by decide),
    .nested addressLine ["      city: 'Ulm',", "      geo: \x7b", "        lat: 48", "      \x7d"]
      ⟨"    ".toList, [','], List.all_eq_true.mp rfl, by simp [IsBrace]⟩ rfl (by decide)]
  closing := ⟨"  ".toList, "),".toList, List.all_eq_true.mp rfl, by simp [IsBrace]⟩
  front_plain := by simp [IsBrace]
  back_plain := List.forall_mem_nil _

/-- Neither what stands within the second object nor what stands behind the whole is read. -/
theorem objectEntries_layout_cart :
    cartLayout.lines = ["  state: () => (\x7b", "    filters: \x7b open: true, tag: '' \x7d,",
      "    address : \x7b", "      city: 'Ulm',", "      geo: \x7b", "        lat: 48",
      "      \x7d", "    \x7d,", "  \x7d),"] ∧
    objectEntries (["export default \x7b"] ++ (cartLayout.lines ++ ["  total: 2", "\x7d"])) 1 =
      [⟨"filters", "\x7b open: true, tag: '' \x7d", 2⟩, ⟨"address", "\x7b", 3⟩] :=
  ⟨rfl, objectEntries_layout cartLayout ["export default \x7b"] ["  total: 2", "\x7d"]⟩

end Restack.Outline
