import Mathlib.Data.List.Infix
import Restack.Proofs.Outline.Blocks
import Restack.Proofs.Text.Pieces

/-!
# The brace that closes a block

Which brace closes a block does not depend on how the text is divided into lines. Where braces are
balanced before a block and within it, this is the brace behind its contents, as long as the scan
begins before the block and meets no other brace. From anywhere else the scan stops somewhere else.
-/

namespace Restack.Outline

section Balance

variable {s t : List Char} {c : Char}

/-- The braces of two texts are counted one after the other. -/
theorem braceBalance_append (s t : List Char) :
    braceBalance (s ++ t) = braceBalance s + braceBalance t := by
  simp only [braceBalance, List.count_append]
  omega

/-- The first character is counted for itself. -/
theorem braceBalance_cons (c : Char) (s : List Char) :
    braceBalance (c :: s) = braceBalance [c] + braceBalance s :=
  braceBalance_append [c] s

/-- A character that is a brace. -/
def IsBrace (c : Char) : Prop := c = '\x7b' ∨ c = '\x7d'

instance (c : Char) : Decidable (IsBrace c) :=
  inferInstanceAs (Decidable (_ ∨ _))

/-- What is no brace does not count. -/
theorem braceBalance_singleton (hc : ¬IsBrace c) : braceBalance [c] = 0 := by
  unfold IsBrace at hc
  simp only [not_or] at hc
  simp [braceBalance, hc.1, hc.2]

/-- A text without braces has none open. -/
theorem braceBalance_of_forall (h : ∀ c ∈ s, ¬IsBrace c) : braceBalance s = 0 := by
  induction s with
  | nil => rfl
  | cons c rest ih =>
    obtain ⟨hc, hrest⟩ := List.forall_mem_cons.mp h
    rw [braceBalance_cons, braceBalance_singleton hc, ih hrest, Int.zero_add]

/-- Each brace that is opened is closed, and none is closed before. -/
structure IsBalanced (s : List Char) : Prop where
  nonneg : ∀ front, front <+: s → 0 ≤ braceBalance front
  total : braceBalance s = 0

instance (s : List Char) : Decidable (IsBalanced s) :=
  decidable_of_iff ((∀ front ∈ s.inits, 0 ≤ braceBalance front) ∧ braceBalance s = 0)
    ⟨fun h => ⟨fun front hfront => h.1 front ((List.mem_inits front s).mpr hfront), h.2⟩,
      fun h => ⟨fun front hfront => h.nonneg front ((List.mem_inits front s).mp hfront), h.total⟩⟩

/-- At most as many braces are opened behind a place as are closed there. -/
theorem IsBalanced.nonpos (h : IsBalanced s) {back : List Char} (hback : back <:+ s) :
    braceBalance back ≤ 0 := by
  obtain ⟨front, rfl⟩ := hback
  have hfront := h.nonneg front (List.prefix_append front back)
  have htotal := h.total
  rw [braceBalance_append] at htotal
  omega

/-- Balanced texts one after the other are balanced. -/
theorem IsBalanced.append (hs : IsBalanced s) (ht : IsBalanced t) : IsBalanced (s ++ t) where
  nonneg := by
    intro front hfront
    rcases List.prefix_or_prefix_of_prefix hfront (List.prefix_append s t) with hshort | hlong
    · exact hs.nonneg front hshort
    · obtain ⟨more, rfl⟩ := hlong
      rw [braceBalance_append, hs.total, Int.zero_add]
      exact ht.nonneg more ((List.prefix_append_right_inj s).mp hfront)
  total := by rw [braceBalance_append, hs.total, ht.total, Int.zero_add]

/-- A text without braces. -/
theorem IsBalanced.of_forall (h : ∀ c ∈ s, ¬IsBrace c) : IsBalanced s where
  nonneg := fun _ hfront =>
    Int.le_of_eq (braceBalance_of_forall fun c hc => h c (hfront.subset hc)).symm
  total := braceBalance_of_forall h

end Balance

namespace Depth

variable {depth deeper : Depth} {s t : List Char} {c : Char} {place : Nat}

/-- A block is closed by the closing brace that matches its opening one. -/
theorem step_eq_none_iff :
    depth.step c = none ↔ c = '\x7d' ∧ depth.count = 1 ∧ depth.opened = true := by
  unfold step
  split
  · rename_i hc
    simp [beq_iff_eq.mp hc]
  · split
    · rename_i hc
      simp [beq_iff_eq.mp hc]
    · rename_i hc
      simp [show c ≠ '\x7d' by simpa using hc]

/-- A step counts the character, and braces that were opened stay so. -/
theorem of_step (h : depth.step c = some deeper) :
    deeper.count = depth.count + braceBalance [c] ∧
      (depth.opened = true ∨ c = '\x7b' → deeper.opened = true) := by
  unfold step at h
  split at h
  · rename_i hc
    cases h
    simp [beq_iff_eq.mp hc, braceBalance]
  · rename_i hopen
    split at h
    · rename_i hc
      split at h
      · cases h
      · cases h
        simp [beq_iff_eq.mp hc, braceBalance, Int.sub_eq_add_neg]
    · rename_i hclose
      cases h
      have hc : ¬IsBrace c := by simp [IsBrace, show c ≠ '\x7b' by simpa using hopen,
        show c ≠ '\x7d' by simpa using hclose]
      refine ⟨by rw [braceBalance_singleton hc, Int.add_zero], fun hor => hor.resolve_right ?_⟩
      exact fun heq => hc (.inl heq)

/-- Nothing happens at a character that is no brace. -/
theorem step_of_not_isBrace (hc : ¬IsBrace c) : depth.step c = some depth := by
  unfold IsBrace at hc
  simp only [not_or] at hc
  simp [step, hc.1, hc.2]

/-- Within a block that is not closed a scan stays within it. -/
theorem pos_of_step (h : depth.step c = some deeper) (hopened : depth.opened = true)
    (hpos : 1 ≤ depth.count) : 1 ≤ deeper.count := by
  rw [(of_step h).1]
  by_cases hc : IsBrace c
  · rcases hc with rfl | rfl
    · exact Int.le_trans hpos (Int.le_add_of_nonneg_right (by decide))
    · have hne : depth.count ≠ 1 := fun hcount => by
        rw [step_eq_none_iff.mpr ⟨rfl, hcount, hopened⟩] at h
        cases h
      have hclose : braceBalance ['\x7d'] = -1 := rfl
      omega
  · rw [braceBalance_singleton hc]
    omega

/-- The number of characters before the brace that closes the block. -/
def closingPlace? (depth : Depth) : List Char → Option Nat
  | [] => none
  | c :: rest =>
    match depth.step c with
    | some depth => (depth.closingPlace? rest).map (· + 1)
    | none => some 0

/-- The brace that closes a block balances the braces from where the scan begins. -/
theorem balance_of_closingPlace? (h : depth.closingPlace? s = some place) :
    depth.count + braceBalance (s.take (place + 1)) = 0 := by
  induction s generalizing depth place with
  | nil => cases h
  | cons c rest ih =>
    rw [closingPlace?] at h
    rw [List.take_succ_cons, braceBalance_cons]
    split at h
    · rename_i deeper hstep
      obtain ⟨more, hmore, rfl⟩ := Option.map_eq_some_iff.mp h
      have hrest := ih hmore
      have hcount := (of_step hstep).1
      omega
    · rename_i hstep
      cases h
      obtain ⟨rfl, hcount, -⟩ := step_eq_none_iff.mp hstep
      rw [hcount]
      rfl

/-- A text without braces is passed over. -/
theorem closingPlace?_append_of_forall (h : ∀ c ∈ s, ¬IsBrace c) :
    depth.closingPlace? (s ++ t) = (depth.closingPlace? t).map (· + s.length) := by
  induction s with
  | nil => simp
  | cons c rest ih =>
    obtain ⟨hc, hrest⟩ := List.forall_mem_cons.mp h
    rw [List.cons_append, closingPlace?, step_of_not_isBrace hc]
    dsimp only
    rw [ih hrest, Option.map_map]
    rfl

/-- Within a block, a text that does not close it is passed over. -/
theorem closingPlace?_append_of_pos (hopened : depth.opened = true)
    (h : ∀ front, front <+: s → 1 ≤ depth.count + braceBalance front) :
    depth.closingPlace? (s ++ t) =
      ((⟨depth.count + braceBalance s, true⟩ : Depth).closingPlace? t).map (· + s.length) := by
  induction s generalizing depth with
  | nil =>
    obtain ⟨count, opened⟩ := depth
    cases hopened
    simp [braceBalance]
  | cons c rest ih =>
    rw [List.cons_append, closingPlace?]
    cases hstep : depth.step c with
    | none =>
      obtain ⟨rfl, hcount, -⟩ := step_eq_none_iff.mp hstep
      have hfirst := h ['\x7d'] (List.prefix_append ['\x7d'] rest)
      rw [hcount] at hfirst
      exact absurd hfirst (by decide)
    | some deeper =>
      obtain ⟨hcount, hopen⟩ := of_step hstep
      have hrest : ∀ front, front <+: rest → 1 ≤ deeper.count + braceBalance front := by
        intro front hfront
        have hlonger := h (c :: front) (List.cons_prefix_cons.mpr ⟨rfl, hfront⟩)
        rw [braceBalance_cons] at hlonger
        omega
      dsimp only
      rw [ih (hopen (.inl hopened)) hrest, hcount, braceBalance_cons c rest, Int.add_assoc,
        Option.map_map]
      rfl

/-- Within a block, a text that closes more braces than it opens closes the block. -/
theorem closingPlace?_append_of_nonpos (hopened : depth.opened = true) (hpos : 1 ≤ depth.count)
    (h : depth.count + braceBalance s ≤ 0) :
    ∃ place, depth.closingPlace? (s ++ t) = some place ∧ place < s.length := by
  induction s generalizing depth with
  | nil =>
    have hnone : braceBalance [] = 0 := rfl
    omega
  | cons c rest ih =>
    rw [List.cons_append, closingPlace?]
    cases hstep : depth.step c with
    | none => exact ⟨0, rfl, Nat.zero_lt_succ _⟩
    | some deeper =>
      obtain ⟨hcount, hopen⟩ := of_step hstep
      have hdeeper : 1 ≤ deeper.count := pos_of_step hstep hopened hpos
      rw [braceBalance_cons] at h
      obtain ⟨place, hplace, hlt⟩ := ih (hopen (.inl hopened)) hdeeper (by omega)
      refine ⟨place + 1, ?_, Nat.succ_lt_succ hlt⟩
      dsimp only
      rw [hplace]
      rfl

/-- The lines of a text are scanned as the text is, since line feeds are no braces. -/
theorem closingLine_lines (depth : Depth) (i : Nat) (s : List Char) :
    closingLine depth i ((s.splitOn '\n').map String.ofList) =
      (depth.closingPlace? s).map fun place => i + (s.take place).count '\n' := by
  induction s generalizing depth i with
  | nil => rfl
  | cons c rest ih =>
    rw [List.splitOn_cons_eq_if_modifyHead]
    split
    · rename_i hc
      rw [beq_iff_eq.mp hc, List.map_cons, closingLine]
      change closingLine depth (i + 1) _ = _
      rw [ih, closingPlace?, step_of_not_isBrace (by decide)]
      dsimp only
      rw [Option.map_map]
      refine congrArg (Option.map · _) (funext fun place => ?_)
      simp only [Function.comp_apply, List.take_succ_cons, List.count_cons_self]
      omega
    · rename_i hc
      obtain ⟨first, others, hpieces⟩ :=
        List.exists_cons_of_ne_nil (List.splitOn_ne_nil '\n' rest)
      have hlater := fun depth : Depth => ih depth i
      rw [hpieces] at hlater ⊢
      simp only [List.modifyHead_cons, List.map_cons, closingLine, String.toList_ofList, afterLine,
        closingPlace?] at hlater ⊢
      cases depth.step c with
      | none => simp
      | some deeper =>
        dsimp only
        rw [hlater deeper, Option.map_map]
        refine congrArg (Option.map · _) (funext fun place => ?_)
        simp only [Function.comp_apply, List.take_succ_cons]
        rw [List.count_cons_of_ne (by simpa using hc)]

end Depth

/-- The place of the brace that closes the block which is opened first at or after a column. -/
def closingBrace? (s : List Char) (column : Nat) : Option Nat :=
  (Depth.start.closingPlace? (s.drop column)).map (column + ·)

section Block

variable {head body rest : List Char}

/-- From a place before a block, with no brace before that of the block, the block is closed behind
its contents. -/
theorem closingPlace?_block (hhead : ∀ c ∈ head, ¬IsBrace c) (hbody : IsBalanced body) :
    Depth.start.closingPlace? (head ++ '\x7b' :: (body ++ '\x7d' :: rest)) =
      some (head.length + 1 + body.length) := by
  have hopen : Depth.start.step '\x7b' = some ⟨1, true⟩ := rfl
  have hinner : ∀ front, front <+: body → 1 ≤ 1 + braceBalance front := fun front hfront =>
    Int.le_add_of_nonneg_right (hbody.nonneg front hfront)
  have hclose : (⟨1, true⟩ : Depth).closingPlace? ('\x7d' :: rest) = some 0 := rfl
  rw [Depth.closingPlace?_append_of_forall hhead, Depth.closingPlace?, hopen]
  dsimp only
  rw [Depth.closingPlace?_append_of_pos rfl hinner, hbody.total, Int.add_zero, hclose]
  simp only [Option.map_some, Option.some_inj]
  omega

/-- Up to the brace behind its contents, a block with balanced contents is balanced. -/
theorem braceBalance_take_block (hbody : braceBalance body = 0) :
    braceBalance ((head ++ '\x7b' :: (body ++ '\x7d' :: rest)).take
      (head.length + 1 + body.length + 1)) = braceBalance head := by
  have hwhole : head ++ '\x7b' :: (body ++ '\x7d' :: rest) =
      (head ++ '\x7b' :: (body ++ ['\x7d'])) ++ rest := by simp
  have hlength : head.length + 1 + body.length + 1 =
      (head ++ '\x7b' :: (body ++ ['\x7d'])).length := by
    simp only [List.length_append, List.length_cons, List.length_nil]
    omega
  have hopen : braceBalance ['\x7b'] = 1 := rfl
  have hclose : braceBalance ['\x7d'] = -1 := rfl
  rw [hwhole, hlength, List.take_left, braceBalance_append, braceBalance_cons, braceBalance_append]
  omega

/-- A scan that stops behind the contents of a block has met no brace before the block, if no more
braces are opened behind a place than are closed there. -/
theorem not_isBrace_of_closingPlace? (hhead : ∀ back, back <:+ head → braceBalance back ≤ 0)
    (hbody : braceBalance body = 0)
    (h : Depth.start.closingPlace? (head ++ '\x7b' :: (body ++ '\x7d' :: rest)) =
      some (head.length + 1 + body.length)) : ∀ c ∈ head, ¬IsBrace c := by
  induction head with
  | nil => exact fun c hc => absurd hc List.not_mem_nil
  | cons c tail ih =>
    have htail : ∀ back, back <:+ tail → braceBalance back ≤ 0 := fun back hback =>
      hhead back (hback.trans (List.suffix_cons c tail))
    have htotal : braceBalance [c] + braceBalance tail = 0 := by
      have hbalance := Depth.balance_of_closingPlace? h
      rw [braceBalance_take_block hbody, braceBalance_cons] at hbalance
      exact (Int.zero_add _).symm.trans hbalance
    rw [List.cons_append, Depth.closingPlace?] at h
    by_cases hc : IsBrace c
    · rcases hc with rfl | rfl
      · -- The block that begins here is closed before the other one begins.
        have hopen : braceBalance ['\x7b'] = 1 := rfl
        have hclosed : (⟨1, true⟩ : Depth).count + braceBalance tail ≤ 0 := by
          dsimp only
          omega
        have hopened : (⟨1, true⟩ : Depth).opened = true := rfl
        obtain ⟨place, hplace, hlt⟩ := Depth.closingPlace?_append_of_nonpos
          (t := '\x7b' :: (body ++ '\x7d' :: rest)) hopened (Int.le_refl 1) hclosed
        have hstep : Depth.start.step '\x7b' = some ⟨1, true⟩ := rfl
        rw [hstep] at h
        dsimp only at h
        rw [hplace, Option.map_some, Option.some_inj, List.length_cons] at h
        omega
      · have hclose : braceBalance ['\x7d'] = -1 := rfl
        have hnonpos := htail tail List.suffix_rfl
        omega
    · rw [Depth.step_of_not_isBrace hc] at h
      obtain ⟨place, hplace, heq⟩ := Option.map_eq_some_iff.mp h
      rw [List.length_cons] at heq
      refine List.forall_mem_cons.mpr ⟨hc, ih htail ?_⟩
      rw [hplace, Option.some_inj]
      omega

/-- A scan that begins within a block does not stop at its end: what is left of the block opens at
most as many braces as it closes, and one of these is the block's own. -/
theorem closingBrace?_ne_of_lt (hbody : IsBalanced body) {column : Nat}
    (hcolumn : head.length < column) :
    closingBrace? (head ++ '\x7b' :: (body ++ '\x7d' :: rest)) column ≠
      some (head.length + 1 + body.length) := by
  intro h
  obtain ⟨place, hplace, heq⟩ := Option.map_eq_some_iff.mp h
  obtain ⟨skipped, rfl⟩ : ∃ skipped, column = head.length + 1 + skipped :=
    ⟨column - head.length - 1, by omega⟩
  have hdrop : (head ++ '\x7b' :: (body ++ '\x7d' :: rest)).drop (head.length + 1 + skipped) =
      body.drop skipped ++ '\x7d' :: rest := by
    rw [Nat.add_assoc, ← List.drop_drop, List.drop_left, Nat.add_comm 1, List.drop_succ_cons,
      List.drop_append_of_le_length (by omega)]
  have hlength : (body.drop skipped).length = place := by
    rw [List.length_drop]
    omega
  have hbalance := Depth.balance_of_closingPlace? hplace
  rw [hdrop, ← hlength, List.take_length_add_append] at hbalance
  rw [List.take_succ_cons, List.take_zero, braceBalance_append] at hbalance
  have hclose : braceBalance ['\x7d'] = -1 := rfl
  have hstart : Depth.start.count = 0 := rfl
  have hnonpos := hbody.nonpos (List.drop_suffix skipped body)
  omega

/-- A block with balanced contents is closed by the brace behind them exactly if the scan begins
before the block and meets no brace before. -/
theorem closingBrace?_eq_iff (hhead : IsBalanced head) (hbody : IsBalanced body) (column : Nat) :
    closingBrace? (head ++ '\x7b' :: (body ++ '\x7d' :: rest)) column =
        some (head.length + 1 + body.length) ↔
      column ≤ head.length ∧ ∀ c ∈ head.drop column, ¬IsBrace c := by
  by_cases hcolumn : column ≤ head.length
  · unfold closingBrace?
    rw [Option.map_eq_some_iff, List.drop_append_of_le_length hcolumn, and_iff_right hcolumn]
    have hlength : (head.drop column).length = head.length - column := List.length_drop
    constructor
    · rintro ⟨place, hplace, heq⟩
      have hstop : Depth.start.closingPlace?
          (head.drop column ++ '\x7b' :: (body ++ '\x7d' :: rest)) =
            some ((head.drop column).length + 1 + body.length) := by
        rw [hplace, Option.some_inj]
        omega
      exact not_isBrace_of_closingPlace? (fun back hback =>
        hhead.nonpos (hback.trans (List.drop_suffix column head))) hbody.total hstop
    · intro hnone
      exact ⟨_, closingPlace?_block hnone hbody, by omega⟩
  · exact iff_of_false (closingBrace?_ne_of_lt hbody (Nat.lt_of_not_le hcolumn))
      fun h => hcolumn h.1

end Block

/-- The number of line feeds before the brace that closes the block which is opened first at or
after a column, or of all of them where none does. -/
def feedsBeforeClosing (s : List Char) (column : Nat) : Nat :=
  (s.take ((closingBrace? s column).getD s.length)).count '\n'

/-- The line feeds before the brace behind the contents of a block. -/
theorem feedsBeforeClosing_block {head body rest : List Char} {column : Nat}
    (h : closingBrace? (head ++ '\x7b' :: (body ++ '\x7d' :: rest)) column =
      some (head.length + 1 + body.length)) :
    feedsBeforeClosing (head ++ '\x7b' :: (body ++ '\x7d' :: rest)) column =
      (head ++ body).count '\n' := by
  have htext : (head ++ '\x7b' :: (body ++ '\x7d' :: rest)).take (head.length + 1 + body.length) =
      head ++ '\x7b' :: body := by
    have hlength : head.length + 1 + body.length = (head ++ '\x7b' :: body).length := by
      simp only [List.length_append, List.length_cons]
      omega
    have hwhole : head ++ '\x7b' :: (body ++ '\x7d' :: rest) =
        (head ++ '\x7b' :: body) ++ '\x7d' :: rest := by simp
    rw [hlength, hwhole, List.take_left]
  rw [feedsBeforeClosing, h, Option.getD_some, htext, List.count_append, List.count_append,
    List.count_cons_of_ne (by decide)]

section Lines

variable {lines : List String} {start column : Nat} {s : List Char}

/-- Characters that are left out of the first line are left out of the text. -/
theorem splitOn_drop {first : List Char} {others : List (List Char)}
    (h : s.splitOn '\n' = first :: others) (hcolumn : column ≤ first.length) :
    (s.drop column).splitOn '\n' = first.drop column :: others := by
  induction s generalizing column first others with
  | nil =>
    rw [List.splitOn_nil] at h
    cases h
    simp
  | cons c rest ih =>
    cases column with
    | zero => exact h
    | succ column =>
      rw [List.splitOn_cons_eq_if_modifyHead] at h
      split at h
      · cases h
        exact absurd hcolumn (Nat.not_succ_le_zero _)
      · obtain ⟨line, more, hpieces⟩ :=
          List.exists_cons_of_ne_nil (List.splitOn_ne_nil '\n' rest)
        rw [hpieces, List.modifyHead_cons] at h
        cases h
        exact ih hpieces (Nat.le_of_succ_le_succ hcolumn)

/-- The first line of a text, up to the first line feed. -/
def firstLine (s : List Char) : List Char :=
  s.takeWhile (· != '\n')

/-- What goes on with a line belongs to the first line. -/
theorem firstLine_append {t : List Char} (h : '\n' ∉ s) :
    firstLine (s ++ t) = s ++ firstLine t :=
  List.takeWhile_append_of_pos fun _ hc => bne_iff_ne.mpr fun heq => h (heq ▸ hc)

/-- No line ends within the first line. -/
theorem count_take_of_le_firstLine (hcolumn : column ≤ (firstLine s).length) :
    (s.take column).count '\n' = 0 := by
  have hline : s.take column <+: firstLine s :=
    List.prefix_of_prefix_length_le (List.take_prefix column s) (List.takeWhile_prefix _)
      (Nat.le_trans (List.length_take_le column s) hcolumn)
  refine List.count_eq_zero.mpr fun hmem => ?_
  have hkept := List.all_eq_true.mp List.all_takeWhile _ (hline.subset hmem)
  simp at hkept

/-- The lines from a column of a line on are those of the text from this place on. -/
theorem linesFrom_eq (hlines : lines.drop start = Text.lines (String.ofList s))
    (hcolumn : column ≤ (firstLine s).length) :
    linesFrom lines start column = ((s.drop column).splitOn '\n').map String.ofList := by
  rw [Text.lines, String.toList_ofList, Text.splitOnChar_eq_splitOn] at hlines
  have hfirst : (s.splitOn '\n').head? = some (firstLine s) := Text.head?_splitOnP _ s
  obtain ⟨line, more, hpieces⟩ := List.exists_cons_of_ne_nil (List.splitOn_ne_nil '\n' s)
  rw [hpieces, List.head?_cons, Option.some_inj] at hfirst
  rw [← hfirst] at hcolumn
  rw [linesFrom, hlines, hpieces, splitOn_drop hpieces hcolumn]
  simp

/-- The line that a text begins on, where the text goes on to the end of the lines. -/
theorem getElem?_of_drop (hlines : lines.drop start = Text.lines (String.ofList s)) :
    lines[start]? = some (String.ofList (firstLine s)) := by
  have hhead := congrArg List.head? hlines
  rw [List.head?_drop, Text.lines, String.toList_ofList, Text.splitOnChar_eq_splitOn,
    List.head?_map, List.splitOn, Text.head?_splitOnP] at hhead
  exact hhead

/-- The last line of a block in a text that begins on a line. -/
theorem blockEnd?_lines (hlines : lines.drop start = Text.lines (String.ofList s))
    (hcolumn : column ≤ (firstLine s).length) :
    blockEnd? lines start column = some (start + feedsBeforeClosing s column) := by
  have htotal : lines.length = start + s.count '\n' + 1 := by
    have hlength := congrArg List.length hlines
    rw [Text.lines, List.length_map, Text.length_splitOnChar, List.length_drop,
      String.toList_ofList] at hlength
    omega
  have hne : lines.isEmpty = false := by
    rw [List.isEmpty_eq_false_iff_exists_mem]
    exact ⟨_, List.getElem_mem (show 0 < lines.length by omega)⟩
  unfold blockEnd? closingLine? feedsBeforeClosing closingBrace?
  rw [linesFrom_eq hlines hcolumn, Depth.closingLine_lines]
  cases Depth.start.closingPlace? (s.drop column) with
  | none =>
    simp only [Option.map_none, Option.none_or, hne, Option.getD_none, List.take_length]
    rw [if_neg Bool.false_ne_true, htotal, Nat.add_sub_cancel]
  | some place =>
    simp only [Option.map_some, Option.some_or, Option.getD_some]
    rw [List.take_add, List.count_append, count_take_of_le_firstLine hcolumn, Nat.zero_add]

end Lines

end Restack.Outline
