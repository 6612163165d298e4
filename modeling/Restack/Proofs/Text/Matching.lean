import Restack.Proofs.Text.Stretches

/-!
# What a pattern takes

A run of characters takes all of them wherever what follows it cannot begin earlier, so that many
patterns are read from the front of a text without a choice. The matches of such a pattern are then
found by going through the text once, and reading wherever the pattern can be read.
-/

namespace Restack.Text

namespace Spot

variable {p : Char → Bool} {spot : Spot} {c : Char} {rest : List Char}

/-- The places that are reached are put in front of those that were reached before. -/
theorem reach_go_eq (p : Char → Bool) (done : List Spot) (here : Spot) (s : List Char) :
    reach.go p done here s = reach.go p [] here s ++ done := by
  induction s generalizing done here with
  | nil => rfl
  | cons c rest ih =>
    rw [reach.go, reach.go]
    split
    · rw [ih (here :: done), ih [here], List.append_assoc, List.singleton_append]
    · rfl

/-- The first place that leads on is in the first list if there is one. -/
theorem firstOf_append (next : Spot → Option Spot) (first second : List Spot) :
    firstOf next (first ++ second) = (firstOf next first).or (firstOf next second) := by
  induction first with
  | nil => rfl
  | cons spot rest ih =>
    rw [List.cons_append, firstOf, firstOf, ih]
    cases next spot <;> rfl

/-- The place behind all characters that satisfy a test. -/
def past (p : Char → Bool) (spot : Spot) : Spot :=
  ⟨(spot.rest.takeWhile p).getLast?.or spot.before, spot.rest.dropWhile p,
    spot.pos + (spot.rest.takeWhile p).length, spot.captures⟩

/-- Whether the next character satisfies a test. -/
def meets (p : Char → Bool) (spot : Spot) : Bool :=
  spot.rest.head?.any p

/-- A test is met if the next character satisfies it. -/
theorem meets_cons (hrest : spot.rest = c :: rest) : spot.meets p = p c := by
  rw [meets, hrest]
  rfl

/-- Nothing is passed over where the test is not met. -/
theorem past_of_not_meets (h : spot.meets p = false) : spot.past p = spot := by
  obtain ⟨before, s, pos, captures⟩ := spot
  cases s with
  | nil => rfl
  | cons c rest =>
    rw [meets_cons rfl] at h
    simp [past, h]

/-- What satisfies the test is passed over one by one. -/
theorem past_of_meets (hrest : spot.rest = c :: rest) (hc : p c = true) :
    spot.past p = (spot.advance c rest).past p := by
  obtain ⟨before, s, pos, captures⟩ := spot
  cases hrest
  simp only [past, advance, List.takeWhile_cons, List.dropWhile_cons, hc, if_true,
    List.length_cons, mk.injEq, true_and, and_true]
  refine ⟨?_, by omega⟩
  cases rest.takeWhile p <;> simp [List.getLast?_cons]

/-- The text that was passed over. -/
theorem take_past (p : Char → Bool) (spot : Spot) :
    spot.rest.take ((spot.past p).pos - spot.pos) = spot.rest.takeWhile p := by
  rw [past, Nat.add_sub_cancel_left]
  exact (List.prefix_iff_eq_take.mp (List.takeWhile_prefix p)).symm

/-- A stretch of one kind of characters is passed over up to a character of another kind. -/
theorem rest_past {taken : List Char} (hrest : spot.rest = taken ++ rest)
    (htaken : ∀ c ∈ taken, p c = true) (hstop : rest.head?.any p = false) :
    (spot.past p).rest = rest := by
  rw [past, hrest, List.dropWhile_append_of_pos htaken]
  cases rest with
  | nil => rfl
  | cons c others => exact List.dropWhile_cons_of_neg (by simpa using hstop)

/-- What satisfies the test is taken up to what does not. -/
theorem takeWhile_rest {taken : List Char} (hrest : spot.rest = taken ++ rest)
    (htaken : ∀ c ∈ taken, p c = true) (hstop : rest.head?.any p = false) :
    spot.rest.takeWhile p = taken := by
  rw [hrest, List.takeWhile_append_of_pos htaken]
  cases rest with
  | nil => exact List.append_nil taken
  | cons c others =>
    rw [List.takeWhile_cons_of_neg (by simpa using hstop), List.append_nil]

/-- A place that has been reached, with the text that was passed over since an earlier one kept
under a number. -/
def keepFrom (n : Nat) (spot reached : Spot) : Spot :=
  reached.keep n spot.pos (spot.rest.take (reached.pos - spot.pos))

/-- Where a character of one kind comes next, none of another kind does. -/
theorem not_meets_of_meets {q : Char → Bool} (h : ∀ c, p c = true → q c = false)
    (hmeets : spot.meets p = true) : spot.meets q = false := by
  cases hrest : spot.rest with
  | nil => simp [meets, hrest]
  | cons c rest =>
    rw [meets_cons hrest] at hmeets ⊢
    exact h c hmeets

end Spot

namespace Pattern

open Spot

variable {p : Char → Bool} {next : Spot → Option Spot} {spot : Spot} {c : Char} {rest : List Char}

/-- A character is followed if it satisfies the test. -/
theorem follow_one_of_meets (hrest : spot.rest = c :: rest) (hc : p c = true) :
    (one p).follow next spot = next (spot.advance c rest) := by
  rw [follow, hrest]
  exact if_pos hc

/-- A character is not followed if it does not satisfy the test. -/
theorem follow_one_of_not_meets (h : spot.meets p = false) : (one p).follow next spot = none := by
  rw [follow]
  cases hrest : spot.rest with
  | nil => rfl
  | cons c rest =>
    rw [meets_cons hrest] at h
    exact if_neg (by simp [h])

/-- Of two patterns the first is followed if that leads on. -/
theorem follow_alt_of_eq_some {a b : Pattern} {reached : Spot}
    (h : a.follow next spot = some reached) : (alt a b).follow next spot = some reached := by
  rw [follow, h]

/-- What may be there is left out if it leads nowhere. -/
theorem follow_maybe_of_none {a : Pattern} (h : a.follow next spot = none) :
    (maybe a).follow next spot = next spot := by
  rw [maybe, follow, h]
  rfl

/-- A sign is followed where it stands. -/
theorem follow_sign (hrest : spot.rest = c :: rest) :
    (one (· == c)).follow next spot = next (spot.advance c rest) :=
  follow_one_of_meets hrest (beq_self_eq_true c)

/-- A sign is not followed where it does not stand. -/
theorem follow_sign_of_ne (h : spot.rest.head? ≠ some c) :
    (one (· == c)).follow next spot = none := by
  refine follow_one_of_not_meets ?_
  cases hrest : spot.rest with
  | nil => simp [meets, hrest]
  | cons d rest =>
    rw [meets_cons hrest]
    rw [hrest, List.head?_cons, Option.some_inj.ne] at h
    exact beq_false_of_ne h

/-- An empty run is followed where the test is not met. -/
theorem follow_run_of_not_meets (h : spot.meets p = false) :
    (run p).follow next spot = next spot := by
  rw [follow, reach]
  cases hrest : spot.rest with
  | nil =>
    rw [reach.go, firstOf]
    cases next spot <;> rfl
  | cons c rest =>
    rw [meets_cons hrest] at h
    rw [reach.go, if_neg (by simp [h]), firstOf]
    cases next spot <;> rfl

/-- A run goes on if it can, and stops only if nothing comes of that. -/
theorem follow_run_of_meets (hrest : spot.rest = c :: rest) (hc : p c = true) :
    (run p).follow next spot = ((run p).follow next (spot.advance c rest)).or (next spot) := by
  rw [follow, follow, reach, reach, hrest, reach.go, if_pos hc, reach_go_eq, firstOf_append]
  congr 1
  rw [firstOf]
  cases next spot <;> rfl

/-- A run takes all that it can where nothing is won by stopping earlier. -/
theorem follow_run_eq_past
    (h : ∀ here : Spot, here.meets p = true → here.past p = spot.past p →
      (next (spot.past p)).or (next here) = next (spot.past p)) :
    (run p).follow next spot = next (spot.past p) := by
  suffices hgo : ∀ (s : List Char) (here : Spot), here.rest = s → here.past p = spot.past p →
      (run p).follow next here = next (spot.past p) from hgo spot.rest spot rfl rfl
  intro s
  induction s with
  | nil =>
    intro here hrest hpast
    have hmeets : here.meets p = false := by simp [meets, hrest]
    rw [follow_run_of_not_meets hmeets, ← hpast, past_of_not_meets hmeets]
  | cons c rest ih =>
    intro here hrest hpast
    cases hc : p c with
    | false =>
      have hmeets : here.meets p = false := (meets_cons hrest).trans hc
      rw [follow_run_of_not_meets hmeets, ← hpast, past_of_not_meets hmeets]
    | true =>
      have hnext : (here.advance c rest).past p = spot.past p :=
        (past_of_meets hrest hc).symm.trans hpast
      rw [follow_run_of_meets hrest hc, ih (here.advance c rest) rfl hnext,
        h here ((meets_cons hrest).trans hc) hpast]

/-- A run takes all that it can where what follows cannot begin at any character of its kind. -/
theorem follow_run_of_stuck (h : ∀ here : Spot, here.meets p = true → next here = none) :
    (run p).follow next spot = next (spot.past p) :=
  follow_run_eq_past fun here hmeets _ => by rw [h here hmeets, Option.or_none]

/-- A run takes all that it can where that leads to a match. -/
theorem follow_run_of_isSome (h : (next (spot.past p)).isSome) :
    (run p).follow next spot = next (spot.past p) :=
  follow_run_eq_past fun _ _ _ => Option.or_of_isSome h

/-- A run takes all that it can if that leads on. -/
theorem follow_run_of_eq_some {reached : Spot} (h : next (spot.past p) = some reached) :
    (run p).follow next spot = some reached :=
  (follow_run_of_isSome (Option.isSome_of_eq_some h)).trans h

/-- A run leads nowhere if nothing can follow it before a character of another kind. -/
theorem follow_run_eq_none (hmem : c ∈ spot.rest) (hc : p c = false)
    (h : ∀ here : Spot, c ∈ here.rest → next here = none) :
    (run p).follow next spot = none := by
  suffices hgo : ∀ (s : List Char) (here : Spot), here.rest = s → c ∈ s →
      (run p).follow next here = none from hgo spot.rest spot rfl hmem
  intro s
  induction s with
  | nil => exact fun here _ hmem => absurd hmem List.not_mem_nil
  | cons d rest ih =>
    intro here hrest hmem
    have hhere : next here = none := h here (hrest ▸ hmem)
    cases hd : p d with
    | false => rw [follow_run_of_not_meets ((meets_cons hrest).trans hd), hhere]
    | true =>
      have hlater : c ∈ rest := (List.mem_cons.mp hmem).resolve_left fun heq => by
        rw [heq, hd] at hc
        cases hc
      rw [follow_run_of_meets hrest hd, ih (here.advance d rest) rfl hlater, hhere]
      rfl

/-- A thrifty run stops if it can, and goes on only if nothing comes of that. -/
theorem follow_thriftyRun_of_meets (hrest : spot.rest = c :: rest) (hc : p c = true) :
    (thriftyRun p).follow next spot =
      (next spot).or ((thriftyRun p).follow next (spot.advance c rest)) := by
  rw [follow, follow, reach, reach, hrest, reach.go, if_pos hc, reach_go_eq, List.reverse_append,
    firstOf_append]
  congr 1
  rw [List.reverse_singleton, firstOf]
  cases next spot <;> rfl

/-- A thrifty run is empty where the test is not met. -/
theorem follow_thriftyRun_of_not_meets (h : spot.meets p = false) :
    (thriftyRun p).follow next spot = next spot := by
  rw [follow, reach]
  cases hrest : spot.rest with
  | nil =>
    rw [reach.go, List.reverse_singleton, firstOf]
    cases next spot <;> rfl
  | cons c rest =>
    rw [meets_cons hrest] at h
    rw [reach.go, if_neg (by simp [h]), List.reverse_singleton, firstOf]
    cases next spot <;> rfl

/-- A thrifty run takes nothing where that leads to a match. -/
theorem follow_thriftyRun_of_isSome (h : (next spot).isSome) :
    (thriftyRun p).follow next spot = next spot := by
  cases hmeets : spot.meets p with
  | false => exact follow_thriftyRun_of_not_meets hmeets
  | true =>
    cases hrest : spot.rest with
    | nil => simp [meets, hrest] at hmeets
    | cons c rest =>
      rw [meets_cons hrest] at hmeets
      rw [follow_thriftyRun_of_meets hrest hmeets, Option.or_of_isSome h]

/-- A thrifty run goes over a stretch if nothing can follow before its end. -/
theorem exists_follow_thriftyRun {taken : List Char} (hrest : spot.rest = taken ++ rest)
    (htaken : ∀ c ∈ taken, p c = true)
    (hstuck : ∀ (here : Spot) (back : List Char), back <:+ taken → back ≠ [] →
      here.rest = back ++ rest → next here = none) :
    ∃ here : Spot, here.rest = rest ∧ here.pos = spot.pos + taken.length ∧
      here.captures = spot.captures ∧
      (thriftyRun p).follow next spot = (thriftyRun p).follow next here := by
  induction taken generalizing spot with
  | nil => exact ⟨spot, hrest, rfl, rfl, rfl⟩
  | cons c others ih =>
    obtain ⟨hc, hothers⟩ := List.forall_mem_cons.mp htaken
    have hhere : next spot = none :=
      hstuck spot (c :: others) List.suffix_rfl (List.cons_ne_nil _ _) hrest
    have hahead : (spot.advance c (others ++ rest)).rest = others ++ rest := rfl
    obtain ⟨here, hleft, hpos, hcaptures, hfollow⟩ :=
      ih hahead hothers fun here back hback =>
        hstuck here back (hback.trans (List.suffix_cons c others))
    refine ⟨here, hleft, ?_, hcaptures, ?_⟩
    · rw [hpos, List.length_cons, Spot.advance]
      dsimp only
      omega
    · rw [follow_thriftyRun_of_meets hrest hc, hhere, Option.none_or]
      exact hfollow

section Group

variable {first : Char → Bool} {n : Nat}

/-- A group that begins with a character of its kind goes on with a run. -/
theorem exists_follow_group (n : Nat) (next : Spot → Option Spot)
    (hfirst : ∀ c, first c = true → p c = true) (hmeets : spot.meets first = true) :
    ∃ here : Spot, here.past p = spot.past p ∧
      (group n (one first ++ run p)).follow next spot = (run p).follow (fun reached =>
        next (reached.keep n spot.pos (spot.rest.take (reached.pos - spot.pos)))) here := by
  cases hrest : spot.rest with
  | nil => simp [Spot.meets, hrest] at hmeets
  | cons c rest =>
    rw [meets_cons hrest] at hmeets
    refine ⟨spot.advance c rest, (past_of_meets hrest (hfirst c hmeets)).symm, ?_⟩
    rw [← hrest]
    exact follow_one_of_meets hrest hmeets

/-- A group of characters of one kind takes all of them where what follows cannot begin at any of
them. The first one may have to be of a narrower kind. -/
theorem follow_group_of_stuck (hfirst : ∀ c, first c = true → p c = true)
    (h : ∀ here : Spot, here.meets p = true → next here = none) :
    (group n (one first ++ run p)).follow next spot =
      if spot.meets first then next ((spot.past p).keep n spot.pos (spot.rest.takeWhile p))
      else none := by
  cases hmeets : spot.meets first with
  | false => exact follow_one_of_not_meets hmeets
  | true =>
    obtain ⟨here, hpast, hfollow⟩ := exists_follow_group n next hfirst hmeets
    have hstuck : ∀ reached : Spot, reached.meets p = true →
        next (reached.keep n spot.pos (spot.rest.take (reached.pos - spot.pos))) = none :=
      fun reached hreached => h _ hreached
    rw [hfollow, follow_run_of_stuck hstuck, hpast, take_past]
    rfl

/-- A group of characters of one kind takes all of them where that leads to a match. -/
theorem follow_group_of_isSome (hfirst : ∀ c, first c = true → p c = true)
    (hmeets : spot.meets first = true)
    (h : (next ((spot.past p).keep n spot.pos (spot.rest.takeWhile p))).isSome) :
    (group n (one first ++ run p)).follow next spot =
      next ((spot.past p).keep n spot.pos (spot.rest.takeWhile p)) := by
  obtain ⟨here, hpast, hfollow⟩ := exists_follow_group n next hfirst hmeets
  rw [← take_past] at h ⊢
  rw [hfollow, follow_run_of_isSome (by rw [hpast]; exact h), hpast]

/-- A group of characters of one kind that ends a pattern takes all of them. -/
theorem follow_group_run1_some :
    (group n (run1 p)).follow some spot =
      if spot.meets p then some ((spot.past p).keep n spot.pos (spot.rest.takeWhile p))
      else none := by
  cases hmeets : spot.meets p with
  | false => exact follow_one_of_not_meets hmeets
  | true => exact follow_group_of_isSome (fun _ hc => hc) hmeets rfl

end Group

/-- A group of any number of characters of one kind. -/
theorem follow_group_run_of_stuck {n : Nat}
    (h : ∀ here : Spot, here.meets p = true → next here = none) :
    (group n (run p)).follow next spot =
      next ((spot.past p).keep n spot.pos (spot.rest.takeWhile p)) := by
  have hstuck : ∀ here : Spot, here.meets p = true →
      next (here.keep n spot.pos (spot.rest.take (here.pos - spot.pos))) = none :=
    fun here hmeets => h _ hmeets
  change (run p).follow (fun reached =>
    next (reached.keep n spot.pos (spot.rest.take (reached.pos - spot.pos)))) spot = _
  rw [follow_run_of_stuck hstuck, take_past]

end Pattern

/-- What is read from a text when it is gone through once. `read` takes something from the front of
a text, if it can, and gives the text behind it. The first number tells how many characters are left
of what has been read. -/
def scan {α : Type} (read : List Char → Option (α × List Char)) : Nat → List Char → List α
  | _, [] => []
  | skip + 1, _ :: rest => scan read skip rest
  | 0, c :: rest =>
    match read (c :: rest) with
    | some (a, tail) => a :: scan read (rest.length - tail.length) rest
    | none => scan read 0 rest

section Scan

variable {α : Type} {read : List Char → Option (α × List Char)}

/-- Skipping characters is scanning behind them. -/
theorem scan_eq_drop (skip : Nat) (s : List Char) :
    scan read skip s = scan read 0 (s.drop skip) := by
  induction s generalizing skip with
  | nil => simp [scan]
  | cons c rest ih =>
    cases skip with
    | zero => rfl
    | succ skip => rw [scan, ih, List.drop_succ_cons]

/-- Where nothing is read scanning goes on with the next character. -/
theorem scan_of_none {c : Char} {rest : List Char} (h : read (c :: rest) = none) :
    scan read 0 (c :: rest) = scan read 0 rest := by
  rw [scan, h]

/-- What is read is skipped, and scanning goes on behind it. -/
theorem scan_of_some {c : Char} {rest tail : List Char} {a : α}
    (h : read (c :: rest) = some (a, tail)) (htail : tail <:+ rest) :
    scan read 0 (c :: rest) = a :: scan read 0 tail := by
  rw [scan, h]
  dsimp only
  rw [scan_eq_drop, ← List.suffix_iff_eq_drop.mp htail]

/-- What is read stands somewhere in the text. -/
theorem exists_suffix_of_mem_scan {s : List Char} {skip : Nat} {a : α}
    (h : a ∈ scan read skip s) : ∃ front tail, front <:+ s ∧ read front = some (a, tail) := by
  induction s generalizing skip with
  | nil => cases h
  | cons c rest ih =>
    have hlater : ∀ {skip : Nat}, a ∈ scan read skip rest →
        ∃ front tail, front <:+ c :: rest ∧ read front = some (a, tail) := by
      intro skip h
      obtain ⟨front, tail, hfront, hread⟩ := ih h
      exact ⟨front, tail, hfront.trans (List.suffix_cons c rest), hread⟩
    cases skip with
    | succ skip => exact hlater h
    | zero =>
      rw [scan] at h
      split at h
      · rename_i b tail hread
        rcases List.mem_cons.mp h with rfl | h
        · exact ⟨c :: rest, tail, List.suffix_rfl, hread⟩
        · exact hlater h
      · exact hlater h

/-- Nothing is read from a stretch of text at no character of which something begins. -/
theorem scan_append_of_none {before after : List Char}
    (h : ∀ s, s <:+ before → s ≠ [] → read (s ++ after) = none) :
    scan read 0 (before ++ after) = scan read 0 after := by
  induction before with
  | nil => rfl
  | cons c rest ih =>
    have hnone : read (c :: (rest ++ after)) = none :=
      h (c :: rest) List.suffix_rfl (List.cons_ne_nil _ _)
    rw [List.cons_append, scan_of_none hnone]
    exact ih fun s hs hne => h s (hs.trans (List.suffix_cons c rest)) hne

end Scan

/-- A match where the search begins is the leftmost one. -/
theorem Pattern.searchFrom?_of_matchFrom? {p : Pattern} {spot : Spot} {found : Match × Spot}
    (h : p.matchFrom? spot = some found) : p.searchFrom? spot = some found := by
  rw [Pattern.searchFrom?]
  cases spot.rest with
  | nil => exact h
  | cons c rest => rw [Pattern.searchFrom?.go, h]

/-- A match ends as many characters after its beginning as it leaves behind. -/
theorem Pattern.finish_of_matchFrom? {p : Pattern} {spot reached : Spot} {m : Match}
    (h : p.matchFrom? spot = some (m, reached)) :
    m.start = spot.pos ∧ m.finish + reached.rest.length = m.start + spot.rest.length := by
  let I (here : Spot) : Prop := here.pos + here.rest.length = spot.pos + spot.rest.length
  have hinv : Spot.Invariant I :=
    { advance := fun {here c rest} hhere hrest => by
        simp only [I, hrest, List.length_cons] at hhere
        simp only [I, Spot.advance]
        omega
      keep := fun _ hreached _ _ => hreached }
  obtain ⟨finish, hfollow, heq⟩ := Option.map_eq_some_iff.mp h
  obtain ⟨last, hlast, hsame⟩ :=
    Pattern.keeps_follow hinv p (show I { spot with captures := [] } from rfl) hfollow
  cases heq
  cases hsame
  exact ⟨rfl, hlast⟩

/-- A pattern matches exactly where `read` takes something from the front of the text, and `view`
tells of the match what has been taken. -/
structure Pattern.Reads {α : Type} (p : Pattern) (view : Match → α)
    (read : List Char → Option (α × List Char)) : Prop where
  map_matchFrom? (spot : Spot) :
    (p.matchFrom? spot).map (fun found => (view found.1, found.2.rest)) = read spot.rest
  suffix_of_some {s : List Char} {a : α} {tail : List Char} (h : read s = some (a, tail)) :
    ∃ c rest, s = c :: rest ∧ tail <:+ rest

namespace Pattern.Reads

variable {α : Type} {p : Pattern} {view : Match → α} {read : List Char → Option (α × List Char)}

/-- The leftmost match is what is read first. -/
theorem scan_eq_of_searchFrom? (h : p.Reads view read) (spot : Spot) :
    (p.searchFrom? spot = none ∧ scan read 0 spot.rest = []) ∨
      ∃ m reached, p.searchFrom? spot = some (m, reached) ∧ m.start < m.finish ∧
        reached.rest.length < spot.rest.length ∧
        scan read 0 spot.rest = view m :: scan read 0 reached.rest := by
  suffices hgo : ∀ (s : List Char) (here : Spot), here.rest = s →
      (searchFrom?.go p here s = none ∧ scan read 0 s = []) ∨
        ∃ m reached, searchFrom?.go p here s = some (m, reached) ∧ m.start < m.finish ∧
          reached.rest.length < s.length ∧
          scan read 0 s = view m :: scan read 0 reached.rest from hgo spot.rest spot rfl
  intro s
  induction s with
  | nil =>
    intro here hrest
    refine .inl ⟨?_, rfl⟩
    rw [searchFrom?.go]
    cases hmatch : p.matchFrom? here with
    | none => rfl
    | some found =>
      have hread := h.map_matchFrom? here
      rw [hmatch, hrest] at hread
      obtain ⟨c, rest, hnil, -⟩ := h.suffix_of_some hread.symm
      cases hnil
  | cons c rest ih =>
    intro here hrest
    have hread := h.map_matchFrom? here
    rw [hrest] at hread
    cases hmatch : p.matchFrom? here with
    | none =>
      rw [hmatch] at hread
      rw [searchFrom?.go, hmatch, scan_of_none hread.symm]
      rcases ih (here.advance c rest) rfl with ⟨hsearch, hscan⟩ | ⟨m, reached, hsearch, hlt, hless,
        hscan⟩
      · exact .inl ⟨hsearch, hscan⟩
      · exact .inr ⟨m, reached, hsearch, hlt, by rw [List.length_cons]; omega, hscan⟩
    | some found =>
      obtain ⟨m, reached⟩ := found
      rw [hmatch] at hread
      obtain ⟨_, _, hcons, hsuffix⟩ := h.suffix_of_some hread.symm
      cases hcons
      have hle : reached.rest.length ≤ rest.length := hsuffix.length_le
      have hpos := (finish_of_matchFrom? hmatch).2
      rw [hrest, List.length_cons] at hpos
      rw [searchFrom?.go, hmatch, scan_of_some hread.symm hsuffix, List.length_cons]
      exact .inr ⟨m, reached, rfl, by omega, by omega, rfl⟩

/-- The matches in a text are what is read when it is gone through once. -/
theorem map_findAll (h : p.Reads view read) (s : String) :
    (p.findAll s).map view = scan read 0 s.toList := by
  suffices hgo : ∀ (fuel : Nat) (spot : Spot), spot.rest.length < fuel →
      (findAll.go p fuel spot).map view = scan read 0 spot.rest by
    exact hgo (s.length + 1) (Spot.start s.toList)
      (Nat.lt_succ_of_le (Nat.le_of_eq s.length_toList))
  intro fuel
  induction fuel with
  | zero => exact fun spot hlt => absurd hlt (Nat.not_lt_zero _)
  | succ fuel ih =>
    intro spot hlt
    rw [findAll.go]
    rcases h.scan_eq_of_searchFrom? spot with ⟨hsearch, hscan⟩ | ⟨m, reached, hsearch, hfinish,
      hrest, hscan⟩
    · rw [hsearch, hscan]
      rfl
    · rw [hsearch, hscan]
      dsimp only
      rw [if_neg (by simp only [beq_iff_eq]; omega), List.map_cons, ih reached (by omega)]

end Pattern.Reads

end Restack.Text
