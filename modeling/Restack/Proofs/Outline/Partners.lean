import Restack.Proofs.Outline.Closings

/-!
# The partner of a brace

Braces nest as the grammar of balanced words has it, which is what counting them comes to. So the
line on which a block is found to end is the line of the partner of the brace that opens it, over
however many lines the block goes on.
-/

namespace Restack.Outline

section Nesting

variable {s t : List Char} {c : Char}

/-- A text in which each brace has its partner. -/
inductive Nests : List Char → Prop where
  | nil : Nests []
  | plain {c : Char} {s : List Char} (hc : ¬IsBrace c) (hs : Nests s) : Nests (c :: s)
  | block {s t : List Char} (hs : Nests s) (ht : Nests t) : Nests ('\x7b' :: (s ++ '\x7d' :: t))

/-- Balanced contents between braces. -/
theorem IsBalanced.enclosed (hs : IsBalanced s) : IsBalanced ('\x7b' :: (s ++ ['\x7d'])) where
  nonneg := by
    intro front hfront
    have hopen : braceBalance ['\x7b'] = 1 := rfl
    cases front with
    | nil => exact Int.le_refl 0
    | cons c front =>
      obtain ⟨rfl, hrest⟩ := List.cons_prefix_cons.mp hfront
      rw [braceBalance_cons]
      rcases List.prefix_concat_iff.mp hrest with rfl | hinner
      · have hclose : braceBalance ['\x7d'] = -1 := rfl
        rw [braceBalance_append, hs.total]
        omega
      · have hnonneg := hs.nonneg front hinner
        omega
  total := by
    have hopen : braceBalance ['\x7b'] = 1 := rfl
    have hclose : braceBalance ['\x7d'] = -1 := rfl
    rw [braceBalance_cons, braceBalance_append, hs.total]
    omega

/-- What stands behind a balanced text is balanced if the whole is. -/
theorem IsBalanced.of_append (h : IsBalanced (s ++ t)) (hs : IsBalanced s) : IsBalanced t where
  nonneg := by
    intro front hfront
    have hnonneg := h.nonneg (s ++ front) ((List.prefix_append_right_inj s).mpr hfront)
    rw [braceBalance_append, hs.total] at hnonneg
    omega
  total := by
    have htotal := h.total
    rw [braceBalance_append, hs.total] at htotal
    omega

/-- A text whose braces are nested is balanced. -/
theorem Nests.isBalanced (h : Nests s) : IsBalanced s := by
  induction h with
  | nil => exact IsBalanced.of_forall (List.forall_mem_nil _)
  | plain hc _ ih => exact (IsBalanced.of_forall (List.forall_mem_singleton.mpr hc)).append ih
  | @block s t _ _ ihs iht =>
    have hwhole : '\x7b' :: (s ++ '\x7d' :: t) = '\x7b' :: (s ++ ['\x7d']) ++ t := by simp
    rw [hwhole]
    exact ihs.enclosed.append iht

end Nesting

namespace Depth

variable {depth : Depth} {s t : List Char} {place : Nat}

/-- Within a block, the scan stops at a closing brace, up to which it stays within the block. -/
theorem exists_of_closingPlace? (hopened : depth.opened = true) (hpos : 1 ≤ depth.count)
    (h : depth.closingPlace? s = some place) :
    ∃ body after, s = body ++ '\x7d' :: after ∧ body.length = place ∧
      (∀ front, front <+: body → 1 ≤ depth.count + braceBalance front) ∧
      depth.count + braceBalance body = 1 := by
  induction s generalizing depth place with
  | nil => cases h
  | cons c rest ih =>
    rw [closingPlace?] at h
    cases hstep : depth.step c with
    | none =>
      rw [hstep] at h
      cases h
      obtain ⟨rfl, hcount, -⟩ := step_eq_none_iff.mp hstep
      refine ⟨[], rest, rfl, rfl, ?_, ?_⟩
      · intro front hfront
        rw [List.prefix_nil.mp hfront]
        exact hpos.trans_eq (Int.add_zero _).symm
      · rw [hcount]
        rfl
    | some deeper =>
      rw [hstep] at h
      obtain ⟨later, hlater, rfl⟩ := Option.map_eq_some_iff.mp h
      obtain ⟨hcount, hopen⟩ := of_step hstep
      obtain ⟨body, after, rfl, hlength, hinner, htotal⟩ :=
        ih (hopen (.inl hopened)) (pos_of_step hstep hopened hpos) hlater
      refine ⟨c :: body, after, rfl, congrArg (· + 1) hlength, ?_, ?_⟩
      · intro front hfront
        cases front with
        | nil => exact hpos.trans_eq (Int.add_zero _).symm
        | cons d front =>
          obtain ⟨rfl, hrest⟩ := List.cons_prefix_cons.mp hfront
          have hdeeper := hinner front hrest
          rw [braceBalance_cons]
          omega
      · rw [braceBalance_cons]
        omega

/-- Right behind the brace that opens a block, the scan stops behind its balanced contents. -/
theorem closingPlace?_eq_some_iff : (⟨1, true⟩ : Depth).closingPlace? s = some place ↔
    ∃ body after, s = body ++ '\x7d' :: after ∧ body.length = place ∧ IsBalanced body := by
  constructor
  · intro h
    obtain ⟨body, after, hs, hlength, hinner, htotal⟩ :=
      exists_of_closingPlace? rfl (Int.le_refl 1) h
    refine ⟨body, after, hs, hlength, ⟨fun front hfront => ?_, ?_⟩⟩
    · have hfront := hinner front hfront
      dsimp only at hfront
      omega
    · dsimp only at htotal
      omega
  · rintro ⟨body, after, rfl, rfl, hbody⟩
    have hblock : Depth.start.closingPlace? ([] ++ '\x7b' :: (body ++ '\x7d' :: after)) =
        some (([] : List Char).length + 1 + body.length) :=
      closingPlace?_block (List.forall_mem_nil _) hbody
    obtain ⟨later, hlater, heq⟩ := Option.map_eq_some_iff.mp hblock
    refine hlater.trans (congrArg some ?_)
    rw [List.length_nil] at heq
    omega

/-- Without an opening brace no block is closed. -/
theorem closingPlace?_eq_none (hopened : depth.opened = false) (h : '\x7b' ∉ s) :
    depth.closingPlace? s = none := by
  induction s generalizing depth with
  | nil => rfl
  | cons c rest ih =>
    obtain ⟨hc, hrest⟩ := not_or.mp (mt List.mem_cons.mpr h)
    rw [closingPlace?]
    cases hstep : depth.step c with
    | none =>
      rw [(step_eq_none_iff.mp hstep).2.2] at hopened
      cases hopened
    | some deeper =>
      dsimp only
      rw [ih ?_ hrest, Option.map_none]
      unfold step at hstep
      rw [if_neg (by simpa using Ne.symm hc)] at hstep
      split at hstep
      · split at hstep
        · cases hstep
        · cases hstep
          exact hopened
      · cases hstep
        exact hopened

/-- A scan goes on behind a line from the depth that it has reached there, unless it stops on the
line. -/
theorem closingPlace?_append (depth : Depth) (s t : List Char) :
    depth.closingPlace? (s ++ t) =
      match depth.afterLine s with
      | some deeper => (deeper.closingPlace? t).map (· + s.length)
      | none => depth.closingPlace? s := by
  induction s generalizing depth with
  | nil => simp [afterLine]
  | cons c rest ih =>
    rw [List.cons_append, closingPlace?, afterLine, closingPlace?]
    cases depth.step c with
    | none => rfl
    | some deeper =>
      dsimp only
      rw [ih]
      cases deeper.afterLine rest with
      | none => rfl
      | some deepest =>
        dsimp only
        rw [Option.map_map]
        rfl

/-- Where counting breaks off on a line there is a closing place on it. -/
theorem exists_of_afterLine (h : depth.afterLine s = none) :
    ∃ place, depth.closingPlace? s = some place ∧ place < s.length := by
  induction s generalizing depth with
  | nil => cases h
  | cons c rest ih =>
    rw [afterLine] at h
    rw [closingPlace?]
    cases hstep : depth.step c with
    | none => exact ⟨0, rfl, Nat.zero_lt_succ _⟩
    | some deeper =>
      rw [hstep] at h
      obtain ⟨place, hplace, hlt⟩ := ih h
      refine ⟨place + 1, ?_, Nat.succ_lt_succ hlt⟩
      dsimp only
      rw [hplace]
      rfl

end Depth

/-- Braces nest exactly where they are balanced. -/
theorem nests_iff_isBalanced {s : List Char} : Nests s ↔ IsBalanced s := by
  refine ⟨Nests.isBalanced, fun h => ?_⟩
  induction hlength : s.length using Nat.strong_induction_on generalizing s with
  | _ n ih =>
    cases s with
    | nil => exact .nil
    | cons c rest =>
      rw [List.length_cons] at hlength
      by_cases hc : IsBrace c
      · rcases hc with rfl | rfl
        · -- The scan behind the brace stops at its partner, since the rest closes one brace more.
          have hopen : braceBalance ['\x7b'] = 1 := rfl
          have htotal : 1 + braceBalance rest = 0 := by
            rw [← hopen, ← braceBalance_cons]
            exact h.total
          have hclosed : (⟨1, true⟩ : Depth).count + braceBalance rest ≤ 0 := Int.le_of_eq htotal
          have hopened : (⟨1, true⟩ : Depth).opened = true := rfl
          obtain ⟨place, hplace, -⟩ :=
            Depth.closingPlace?_append_of_nonpos (t := []) hopened (Int.le_refl 1) hclosed
          rw [List.append_nil] at hplace
          obtain ⟨body, after, rfl, -, hbody⟩ := Depth.closingPlace?_eq_some_iff.mp hplace
          rw [List.length_append, List.length_cons] at hlength
          have hwhole : '\x7b' :: (body ++ '\x7d' :: after) =
              '\x7b' :: (body ++ ['\x7d']) ++ after := by simp
          rw [hwhole] at h
          exact .block (ih body.length (by omega) hbody rfl)
            (ih after.length (by omega) (h.of_append hbody.enclosed) rfl)
        · have hclose : braceBalance ['\x7d'] = -1 := rfl
          have hnonneg := h.nonneg ['\x7d'] (List.prefix_append ['\x7d'] rest)
          omega
      · have hfirst : IsBalanced [c] := IsBalanced.of_forall (List.forall_mem_singleton.mpr hc)
        have hrest : IsBalanced rest := IsBalanced.of_append (s := [c]) h hfirst
        exact .plain hc (ih rest.length (by omega) hrest rfl)

/-- The characters on some lines, each with the number of its line, counted from `i`. -/
def charactersOn (lines : List String) (i : Nat) : List (Char × Nat) :=
  (lines.zipIdx i).flatMap fun (line, number) => line.toList.map (·, number)

/-- The characters at or after a place, each with the number of its line. -/
def charactersFrom (lines : List String) (start column : Nat) : List (Char × Nat) :=
  charactersOn (linesFrom lines start column) start

/-- The shortest beginning of a text that is not empty and in which each brace has its partner. -/
structure IsBlock (text block : List (Char × Nat)) : Prop where
  front : block <+: text
  ne_nil : block ≠ []
  nests : Nests (block.map Prod.fst)
  shortest : ∀ other, other <+: text → other ≠ [] → Nests (other.map Prod.fst) →
    block.length ≤ other.length

section Lines

variable {lines : List String} {i : Nat}

/-- The characters of the first line come first, each with its number. -/
theorem charactersOn_cons (line : String) (rest : List String) (i : Nat) :
    charactersOn (line :: rest) i =
      line.toList.map (·, i) ++ charactersOn rest (i + 1) := by
  rw [charactersOn, List.zipIdx_cons, List.flatMap_cons]
  rfl

/-- The characters of further lines have the numbers that go on. -/
theorem charactersOn_append (first second : List String) (i : Nat) :
    charactersOn (first ++ second) i =
      charactersOn first i ++ charactersOn second (i + first.length) := by
  rw [charactersOn, List.zipIdx_append, List.flatMap_append]
  rfl

/-- Without their numbers the characters are those of the lines. -/
theorem map_fst_charactersOn (lines : List String) (i : Nat) :
    (charactersOn lines i).map Prod.fst = lines.flatMap String.toList := by
  induction lines generalizing i with
  | nil => rfl
  | cons line rest ih =>
    rw [charactersOn_cons, List.map_append, ih, List.flatMap_cons]
    simp [Function.comp_def]

/-- Lines are scanned as the text on them is: a block is closed on the line of the character that
closes it. -/
theorem closingLine_eq (depth : Depth) (i : Nat) (lines : List String) :
    closingLine depth i lines =
      (depth.closingPlace? ((charactersOn lines i).map Prod.fst)).bind fun place =>
        (charactersOn lines i)[place]?.map Prod.snd := by
  induction lines generalizing depth i with
  | nil => rfl
  | cons line rest ih =>
    have hline : (line.toList.map (·, i)).map Prod.fst = line.toList := by
      simp [Function.comp_def]
    rw [closingLine, charactersOn_cons, List.map_append, hline, Depth.closingPlace?_append]
    cases hafter : depth.afterLine line.toList with
    | none =>
      obtain ⟨place, hplace, hlt⟩ := Depth.exists_of_afterLine hafter
      dsimp only
      rw [hplace, Option.bind_some, List.getElem?_append_left (by simpa using hlt)]
      simp [hlt]
    | some deeper =>
      dsimp only
      rw [ih]
      cases deeper.closingPlace? ((charactersOn rest (i + 1)).map Prod.fst) with
      | none => rfl
      | some place =>
        simp [List.getElem?_append_right]

end Lines

section Blocks

variable {i n : Nat} {rest body after : List (Char × Nat)}

/-- With balanced contents, a block goes from its brace to the one behind its contents. -/
theorem isBlock_of_isBalanced (hbody : IsBalanced (body.map Prod.fst)) :
    IsBlock (('\x7b', i) :: (body ++ ('\x7d', n) :: after))
      (('\x7b', i) :: (body ++ [('\x7d', n)])) where
  front := ⟨after, by simp⟩
  ne_nil := List.cons_ne_nil _ _
  nests := by
    rw [nests_iff_isBalanced, List.map_cons, List.map_append]
    exact hbody.enclosed
  shortest := by
    intro other hother hne hnests
    cases other with
    | nil => exact absurd rfl hne
    | cons first inner =>
      obtain ⟨rfl, hinner⟩ := List.cons_prefix_cons.mp hother
      by_contra hshort
      simp only [List.length_cons, List.length_append, List.length_nil] at hshort
      -- Within the contents one brace more is open than they have opened.
      have hfront : inner <+: body :=
        List.prefix_of_prefix_length_le hinner (List.prefix_append _ _) (by omega)
      have hnonneg := hbody.nonneg _ (hfront.map Prod.fst)
      have htotal := hnests.isBalanced.total
      have hopen : braceBalance ['\x7b'] = 1 := rfl
      rw [List.map_cons, braceBalance_cons] at htotal
      dsimp only at htotal
      omega

/-- A block that is never closed. -/
theorem eq_nil_of_closingPlace?_eq_none
    (h : (⟨1, true⟩ : Depth).closingPlace? (rest.map Prod.fst) = none) {other : List (Char × Nat)}
    (hother : other <+: ('\x7b', i) :: rest) (hnests : Nests (other.map Prod.fst)) :
    other = [] := by
  cases other with
  | nil => rfl
  | cons first inner =>
    obtain ⟨rfl, more, rfl⟩ := List.cons_prefix_cons.mp hother
    rw [List.map_cons] at hnests
    generalize hinner : inner.map Prod.fst = contents at hnests
    cases hnests with
    | plain hc _ => exact absurd (.inl rfl) hc
    | @block s t hs _ =>
      have hclosed := Depth.closingPlace?_eq_some_iff.mpr
        ⟨s, t ++ more.map Prod.fst, rfl, rfl, hs.isBalanced⟩
      rw [List.map_append, hinner, List.append_assoc, List.cons_append, hclosed] at h
      cases h

end Blocks

section Ends

variable {lines : List String} {start column : Nat}

/-- From the first column on no line is cut off. -/
theorem linesFrom_zero (lines : List String) (start : Nat) :
    linesFrom lines start 0 = lines.drop start := by
  rw [linesFrom]
  cases lines.drop start with
  | nil => rfl
  | cons line rest => simp

/-- A block ends on the closing line, or else on the last one. -/
theorem blockEnd?_eq (hstart : start < lines.length) (column : Nat) :
    blockEnd? lines start column =
      some ((closingLine? lines start column).getD (lines.length - 1)) := by
  have hne : lines.isEmpty = false := by
    rw [List.isEmpty_eq_false_iff_exists_mem]
    exact ⟨_, List.getElem_mem hstart⟩
  unfold blockEnd?
  rw [hne]
  cases closingLine? lines start column <;> rfl

/-- From a place before which there is no brace, the scan goes on behind the first brace, if that is
an opening one. -/
theorem closingLine?_eq {front rest : List (Char × Nat)} {i : Nat}
    (hchars : charactersFrom lines start column = front ++ ('\x7b', i) :: rest)
    (hfront : ∀ c ∈ front, ¬IsBrace c.1) :
    closingLine? lines start column =
      ((⟨1, true⟩ : Depth).closingPlace? (rest.map Prod.fst)).bind fun place =>
        rest[place]?.map Prod.snd := by
  have hnone : ∀ c ∈ front.map Prod.fst, ¬IsBrace c := List.forall_mem_map.mpr hfront
  have hopen : Depth.start.step '\x7b' = some ⟨1, true⟩ := rfl
  rw [charactersFrom] at hchars
  rw [closingLine?, closingLine_eq, hchars, List.map_append, List.map_cons,
    Depth.closingPlace?_append_of_forall hnone, Depth.closingPlace?, hopen]
  dsimp only
  cases (⟨1, true⟩ : Depth).closingPlace? (rest.map Prod.fst) with
  | none => rfl
  | some place => simp [Nat.add_comm, List.getElem?_append_right]

/-- With balanced contents, a block is closed on the line of the brace behind them. -/
theorem closingLine?_of_isBalanced {i n : Nat} {front contents after : List (Char × Nat)}
    (hchars : charactersFrom lines start column =
      front ++ ('\x7b', i) :: (contents ++ ('\x7d', n) :: after))
    (hfront : ∀ c ∈ front, ¬IsBrace c.1) (hcontents : IsBalanced (contents.map Prod.fst)) :
    closingLine? lines start column = some n := by
  have hplace : (⟨1, true⟩ : Depth).closingPlace?
      ((contents ++ ('\x7d', n) :: after).map Prod.fst) = some contents.length :=
    Depth.closingPlace?_eq_some_iff.mpr
      ⟨contents.map Prod.fst, after.map Prod.fst, by simp, by simp, hcontents⟩
  rw [closingLine?_eq hchars hfront, hplace, Option.bind_some,
    List.getElem?_append_right (Nat.le_refl _), Nat.sub_self]
  rfl

/-- Where a block ends that is looked for from a place on. If the first brace there is an opening
one, the block ends on the line of its partner, and on the last line if it has none. Without an
opening brace it ends on the last line as well. -/
theorem blockEnd?_partner (hstart : start < lines.length) (column : Nat) :
    ∃ last, blockEnd? lines start column = some last ∧
      start ≤ last ∧ last ≤ lines.length - 1 ∧
      (∀ front i rest, charactersFrom lines start column = front ++ ('\x7b', i) :: rest →
        (∀ c ∈ front, ¬IsBrace c.1) →
        (∃ block, IsBlock (('\x7b', i) :: rest) block ∧ block.getLast? = some ('\x7d', last)) ∨
        (∀ other, other <+: ('\x7b', i) :: rest → Nests (other.map Prod.fst) → other = []) ∧
          last = lines.length - 1) ∧
      ((∀ c ∈ charactersFrom lines start column, c.1 ≠ '\x7b') → last = lines.length - 1) := by
  obtain ⟨last, hlast, hfirst, hlt⟩ := blockEnd?_bounds hstart column
  rw [blockEnd?_eq hstart, Option.some_inj] at hlast
  refine ⟨last, ?_, hfirst, by omega, ?_, ?_⟩
  · rw [blockEnd?_eq hstart, hlast]
  · intro front i rest hchars hfront
    rw [closingLine?_eq hchars hfront] at hlast
    cases hplace : (⟨1, true⟩ : Depth).closingPlace? (rest.map Prod.fst) with
    | none =>
      rw [hplace] at hlast
      exact .inr ⟨fun other hother => eq_nil_of_closingPlace?_eq_none hplace hother, hlast.symm⟩
    | some place =>
      obtain ⟨contents, behind, hcontents, rfl, hbalanced⟩ :=
        Depth.closingPlace?_eq_some_iff.mp hplace
      obtain ⟨body, tail, rfl, rfl, htail⟩ := List.map_eq_append_iff.mp hcontents
      obtain ⟨⟨brace, n⟩, after, rfl, rfl, -⟩ := List.map_eq_cons_iff.mp htail
      refine .inl ⟨_, isBlock_of_isBalanced hbalanced, ?_⟩
      rw [hplace, Option.bind_some, List.length_map] at hlast
      simp only [List.getElem?_append_right (Nat.le_refl _), Nat.sub_self, List.getElem?_cons_zero,
        Option.map_some, Option.getD_some] at hlast
      subst hlast
      rw [← List.cons_append, List.getLast?_concat]
  · intro hnone
    have hopen : '\x7b' ∉ (charactersFrom lines start column).map Prod.fst := by
      intro hmem
      obtain ⟨c, hc, heq⟩ := List.mem_map.mp hmem
      exact hnone c hc heq
    rw [closingLine?, closingLine_eq] at hlast
    rw [charactersFrom] at hopen
    rw [Depth.closingPlace?_eq_none rfl hopen] at hlast
    exact hlast.symm

/-- A function whose parameters stand between braces of their own. -/
def bannerLines : List String :=
  ["export function Banner(\x7b title \x7d) \x7b", "  if (title) \x7b", "    return title;",
    "  \x7d", "\x7d", "// \x7d"]

/-- The body of the function is looked for behind its parameters. -/
theorem blockEnd?_partner_banner : 0 < bannerLines.length ∧
    ∃ rest last block, charactersFrom bannerLines 0 33 = [(' ', 0)] ++ ('\x7b', 0) :: rest ∧
      blockEnd? bannerLines 0 33 = some last ∧ IsBlock (('\x7b', 0) :: rest) block ∧
      block.getLast? = some ('\x7d', last) := by
  obtain ⟨last, hlast, -, -, hpartner, -⟩ :=
    blockEnd?_partner (show 0 < bannerLines.length by decide) 33
  obtain ⟨rest, hrest⟩ : ∃ rest,
      charactersFrom bannerLines 0 33 = [(' ', 0)] ++ ('\x7b', 0) :: rest := ⟨_, rfl⟩
  have hcomputed : blockEnd? bannerLines 0 33 = some 4 := rfl
  rcases hpartner _ _ _ hrest (by decide) with ⟨block, hblock, hend⟩ | ⟨-, hend⟩
  · exact ⟨by decide, rest, last, block, hrest, hlast, hblock, hend⟩
  · rw [hlast, hend] at hcomputed
    exact absurd hcomputed (by decide)

end Ends

end Restack.Outline
