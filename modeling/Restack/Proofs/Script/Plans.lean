import Restack.Script.Plan

/-!
# Where lines end in a plan

A plan lays the lines of a symbol out as a tree of places. However the lines share their beginnings,
the steps on the way to a place at which a line ends are the steps of a line of the same symbol.
-/

namespace Restack.Script

/-- Where a line ends, the steps before the place are those of a line of the symbol. -/
def Spot.EndsLine (grammar : Rule → Form) (spot : Spot) : Prop :=
  spot.favour?.isSome → ∃ line ∈ spot.owner.lines grammar, line.steps = spot.trail.reverse

/-- A place and a later one at which it still belongs to the same symbol, behind the same steps. -/
structure Spot.Same (spot later : Spot) : Prop where
  owner : later.owner = spot.owner
  trail : later.trail = spot.trail

/-- A place and one that lies a step behind it within the lines of the same symbol. -/
structure Spot.Leads (spot next : Spot) (step : Step) : Prop where
  owner : next.owner = spot.owner
  trail : next.trail = step :: spot.trail

/-- Places stay where they are when others are added. -/
def Extends (spots later : Array Spot) : Prop :=
  ∀ (n : Nat) (spot : Spot), spots[n]? = some spot → ∃ kept, later[n]? = some kept ∧ spot.Same kept

/-- Places that are laid out as they should be: lines end where they may, and moves lead on by one
step. -/
structure Laid (grammar : Rule → Form) (spots : Array Spot) : Prop where
  ends : ∀ (n : Nat) (spot : Spot), spots[n]? = some spot → spot.EndsLine grammar
  moves : ∀ (n : Nat) (spot : Spot), spots[n]? = some spot → ∀ move ∈ spot.moves, ∀ m ∈ move.2,
    ∃ step next, spots[m]? = some next ∧ spot.Leads next step

namespace Extends

variable {spots later last : Array Spot}

/-- Places stay where they are when nothing is added. -/
theorem refl (spots : Array Spot) : Extends spots spots :=
  fun _ spot h => ⟨spot, h, rfl, rfl⟩

/-- Places stay where they are through two extensions. -/
theorem trans (h : Extends spots later) (hlater : Extends later last) : Extends spots last := by
  intro n spot hspot
  obtain ⟨kept, hkept, hsame⟩ := h n spot hspot
  obtain ⟨final, hfinal, hsame'⟩ := hlater n kept hkept
  exact ⟨final, hfinal, hsame'.owner.trans hsame.owner, hsame'.trail.trans hsame.trail⟩

/-- What a place leads to is still there. -/
theorem leads (h : Extends spots later) {spot : Spot} {m : Nat}
    (hnext : ∃ step next, spots[m]? = some next ∧ spot.Leads next step) :
    ∃ step next, later[m]? = some next ∧ spot.Leads next step := by
  obtain ⟨step, next, hnext, hleads⟩ := hnext
  obtain ⟨kept, hkept, hsame⟩ := h m next hnext
  exact ⟨step, kept, hkept, hsame.owner.trans hleads.owner, hsame.trail.trans hleads.trail⟩

/-- A place is changed, but not its symbol or the steps before it. -/
theorem set {here : Nat} {spot new : Spot} (hhere : spots[here]? = some spot)
    (hsame : spot.Same new) : Extends spots (spots.setIfInBounds here new) := by
  intro n other hother
  rw [Array.getElem?_setIfInBounds]
  split
  · rename_i heq
    subst heq
    rw [hhere, Option.some_inj] at hother
    subst hother
    obtain ⟨hlt, -⟩ := Array.getElem?_eq_some_iff.mp hhere
    rw [if_pos hlt]
    exact ⟨new, rfl, hsame⟩
  · exact ⟨other, hother, rfl, rfl⟩

/-- Places stay where they are when a place is changed in what does not tell it apart. -/
theorem modify (here : Nat) {change : Spot → Spot} (hsame : ∀ spot, Spot.Same spot (change spot)) :
    Extends spots (spots.modify here change) := by
  intro n other hother
  rw [Array.getElem?_modify, hother]
  split
  · exact ⟨change other, rfl, hsame other⟩
  · exact ⟨other, rfl, rfl, rfl⟩

/-- Places stay where they are when one is added behind them. -/
theorem push (spots : Array Spot) (new : Spot) : Extends spots (spots.push new) := by
  intro n spot hspot
  obtain ⟨hlt, -⟩ := Array.getElem?_eq_some_iff.mp hspot
  exact ⟨spot, by rw [Array.getElem?_push, if_neg (by omega), hspot], rfl, rfl⟩

end Extends

section Added

variable {grammar : Rule → Form} {spots : Array Spot} {here : Nat} {spot changed new : Spot}

/-- Where one place is changed and another one added, each is one of these or as it was. -/
theorem eq_or_of_getElem?_push {n : Nat} {place : Spot}
    (h : ((spots.setIfInBounds here changed).push new)[n]? = some place) :
    place = new ∨ place = changed ∨ spots[n]? = some place := by
  rw [Array.getElem?_push, Array.getElem?_setIfInBounds] at h
  split at h
  · exact .inl (Option.some.inj h).symm
  · split at h
    · split at h
      · exact .inr (.inl (Option.some.inj h).symm)
      · cases h
    · exact .inr (.inr h)

/-- A place without moves is added behind another one, which knows about it then. -/
theorem Laid.push (h : Laid grammar spots) (hhere : spots[here]? = some spot) {step : Step}
    (hsame : spot.Same changed) (hfavour : changed.favour? = spot.favour?)
    (hmoves : ∀ move ∈ changed.moves, ∀ m ∈ move.2, m = spots.size ∨
      ∃ step next, spots[m]? = some next ∧ spot.Leads next step)
    (hleads : spot.Leads new step) (hleaf : new.moves = []) (hopen : new.favour? = none) :
    Laid grammar ((spots.setIfInBounds here changed).push new) := by
  have hextends : Extends spots ((spots.setIfInBounds here changed).push new) :=
    (Extends.set hhere hsame).trans (.push _ new)
  have hnew : ((spots.setIfInBounds here changed).push new)[spots.size]? = some new := by
    rw [Array.getElem?_push, if_pos (by simp)]
  refine ⟨fun n place hn => ?_, fun n place hn move hmove m hm => ?_⟩
  · rcases eq_or_of_getElem?_push hn with rfl | rfl | hold
    · intro hsome
      rw [hopen] at hsome
      cases hsome
    · intro hsome
      rw [hsame.owner, hsame.trail]
      exact h.ends here spot hhere (hfavour ▸ hsome)
    · exact h.ends n place hold
  · rcases eq_or_of_getElem?_push hn with rfl | rfl | hold
    · rw [hleaf] at hmove
      cases hmove
    · have hnext : ∃ step next, ((spots.setIfInBounds here place).push new)[m]? = some next ∧
          spot.Leads next step := by
        rcases hmoves move hmove m hm with rfl | hnext
        · exact ⟨step, new, hnew, hleads⟩
        · exact hextends.leads hnext
      obtain ⟨step, next, hnext, hleads⟩ := hnext
      exact ⟨step, next, hnext, hleads.owner.trans hsame.owner.symm,
        hleads.trail.trans (congrArg (step :: ·) hsame.trail.symm)⟩
    · exact hextends.leads (h.moves n place hold move hmove m hm)

end Added

namespace Survey

variable {grammar : Rule → Form} (survey : Survey) {spots : Array Spot} {here : Nat} {spot : Spot}

/-- A step from a place leads to a place that lies a step behind it. -/
theorem follow_laid (h : Laid grammar spots) (hhere : spots[here]? = some spot) (step : Step) :
    Laid grammar (survey.follow spots here step).1 ∧
      Extends spots (survey.follow spots here step).1 ∧
      ∃ next, (survey.follow spots here step).1[(survey.follow spots here step).2]? = some next ∧
        spot.Leads next step := by
  have hafter : ∀ m ∈ (spot.moves.lookup (survey.number step.symbol)).getD [],
      ∃ step next, spots[m]? = some next ∧ spot.Leads next step := by
    intro m hm
    cases hlookup : spot.moves.lookup (survey.number step.symbol) with
    | none => simp [hlookup] at hm
    | some after =>
      rw [hlookup, Option.getD_some] at hm
      obtain ⟨before, others, hmoves, -⟩ := List.lookup_eq_some_iff.mp hlookup
      exact h.moves here spot hhere (survey.number step.symbol, after) (by simp [hmoves]) m hm
  unfold follow
  rw [hhere]
  dsimp only
  split
  · rename_i n hfound
    have hstep := List.find?_some hfound
    obtain ⟨other, next, hnext, hleads⟩ := hafter n (List.mem_of_find?_eq_some hfound)
    rw [hnext, Option.bind_some, hleads.trail, List.head?_cons, beq_iff_eq, Option.some_inj]
      at hstep
    subst hstep
    exact ⟨h, .refl spots, next, hnext, hleads⟩
  · -- the step is new here: its place goes to the end, and the place before it knows about it
    let moves := (survey.number step.symbol, spots.size ::
      (spot.moves.lookup (survey.number step.symbol)).getD []) ::
        spot.moves.filter fun move => move.1 != survey.number step.symbol
    let new : Spot := ⟨spot.owner, step :: spot.trail, [], none⟩
    let changed : Spot := { spot with moves }
    have hsame : spot.Same changed := ⟨rfl, rfl⟩
    have hleads : spot.Leads new step := ⟨rfl, rfl⟩
    have hextends : Extends spots ((spots.setIfInBounds here changed).push new) :=
      (Extends.set hhere hsame).trans (.push _ new)
    have hnew : ((spots.setIfInBounds here changed).push new)[spots.size]? = some new := by
      rw [Array.getElem?_push, if_pos (by simp)]
    have hmoves : ∀ move ∈ moves, ∀ m ∈ move.2, m = spots.size ∨
        ∃ step next, spots[m]? = some next ∧ spot.Leads next step := by
      intro move hmove m hm
      rcases List.mem_cons.mp hmove with rfl | hmove
      · exact (List.mem_cons.mp hm).imp_right (hafter m)
      · exact .inr (h.moves here spot hhere move (List.mem_filter.mp hmove).1 m hm)
    exact ⟨h.push hhere hsame rfl hmoves hleads rfl rfl, hextends, new, hnew, hleads⟩

/-- Steps one after the other lead to a place behind all of them. -/
theorem foldl_follow_laid (steps : List Step) (h : Laid grammar spots)
    (hhere : spots[here]? = some spot) :
    let reached :=
      steps.foldl (fun (spots, here) step => survey.follow spots here step) (spots, here)
    Laid grammar reached.1 ∧ Extends spots reached.1 ∧
      ∃ last, reached.1[reached.2]? = some last ∧ last.owner = spot.owner ∧
        last.trail = steps.reverse ++ spot.trail := by
  induction steps generalizing spots here spot with
  | nil => exact ⟨h, .refl spots, spot, hhere, rfl, rfl⟩
  | cons step rest ih =>
    obtain ⟨hlaid, hextends, next, hnext, hleads⟩ := follow_laid survey h hhere step
    obtain ⟨hlaid', hextends', last, hlast, howner, htrail⟩ := ih hlaid hnext
    refine ⟨hlaid', hextends.trans hextends', last, hlast, howner.trans hleads.owner, ?_⟩
    rw [htrail, hleads.trail, List.reverse_cons, List.append_assoc, List.singleton_append]

/-- A line that is laid out from the place before the lines of its symbol ends where it may. -/
theorem layLine_laid (h : Laid grammar spots) (hhere : spots[here]? = some spot)
    (htrail : spot.trail = []) {line : Line} (hline : line ∈ spot.owner.lines grammar) :
    Laid grammar (survey.layLine here spots line) ∧
      Extends spots (survey.layLine here spots line) := by
  obtain ⟨hlaid, hextends, last, hlast, howner, hsteps⟩ :=
    foldl_follow_laid survey line.steps h hhere
  let favoured (spot : Spot) : Spot := { spot with favour? := some line.favour }
  unfold layLine
  dsimp only
  generalize line.steps.foldl (fun (spots, here) step => survey.follow spots here step)
    (spots, here) = reached at hlaid hextends hlast ⊢
  have hmodified : Extends reached.1 (reached.1.modify reached.2 favoured) :=
    .modify reached.2 fun _ => ⟨rfl, rfl⟩
  have hplace : ∀ (n : Nat) (place : Spot),
      (reached.1.modify reached.2 favoured)[n]? = some place →
        place = favoured last ∧ reached.2 = n ∨ reached.1[n]? = some place := by
    intro n place hplace
    rw [Array.getElem?_modify] at hplace
    split at hplace
    · rename_i heq
      rw [← heq, hlast] at hplace
      exact .inl ⟨(Option.some.inj hplace).symm, heq⟩
    · exact .inr hplace
  refine ⟨⟨fun n place hn => ?_, fun n place hn => ?_⟩, hextends.trans hmodified⟩
  · rcases hplace n place hn with ⟨rfl, -⟩ | hold
    · refine fun _ => ⟨line, howner ▸ hline, ?_⟩
      change line.steps = last.trail.reverse
      rw [hsteps, htrail, List.append_nil, List.reverse_reverse]
    · exact hlaid.ends n place hold
  · intro move hmove m hm
    rcases hplace n place hn with ⟨rfl, -⟩ | hold
    · obtain ⟨step, next, hnext, hleads⟩ :=
        hmodified.leads (hlaid.moves reached.2 last hlast move hmove m hm)
      exact ⟨step, next, hnext, hleads.owner, hleads.trail⟩
    · exact hmodified.leads (hlaid.moves n place hold move hmove m hm)

/-- Laying out all lines of a symbol keeps places laid out as they should be. -/
theorem foldl_layLine_laid (lines : List Line) (h : Laid grammar spots)
    (hhere : spots[here]? = some spot) (htrail : spot.trail = [])
    (hlines : ∀ line ∈ lines, line ∈ spot.owner.lines grammar) :
    Laid grammar (lines.foldl (survey.layLine here) spots) ∧
      Extends spots (lines.foldl (survey.layLine here) spots) := by
  induction lines generalizing spots spot with
  | nil => exact ⟨h, .refl spots⟩
  | cons line rest ih =>
    obtain ⟨hline, hrest⟩ := List.forall_mem_cons.mp hlines
    obtain ⟨hlaid, hextends⟩ := layLine_laid survey h hhere htrail hline
    obtain ⟨kept, hkept, hsame⟩ := hextends here spot hhere
    obtain ⟨hlaid', hextends'⟩ :=
      ih hlaid hkept (hsame.trail.trans htrail) (hsame.owner ▸ hrest)
    exact ⟨hlaid', hextends.trans hextends'⟩

/-- A survey whose rows hold the lines of their symbols. -/
def Faithful (grammar : Rule → Form) (survey : Survey) : Prop :=
  ∀ row ∈ survey.rows, row.2 = row.1.lines grammar

/-- A survey of a grammar stays faithful to it while its symbols are collected. -/
theorem faithful_collect (fuel : Nat) (symbols : List Symbol) {survey : Survey}
    (h : survey.Faithful grammar) : (collect grammar fuel symbols survey).Faithful grammar := by
  induction fuel generalizing symbols survey with
  | zero => exact h
  | succ fuel ih =>
    cases symbols with
    | nil => exact h
    | cons symbol rest =>
      rw [collect]
      split
      · exact ih rest h
      · refine ih _ fun row hrow => ?_
        rcases Array.mem_push.mp hrow with hrow | rfl
        · exact h row hrow
        · rfl

/-- The places of a survey are laid out as they should be. -/
theorem spots_laid {survey : Survey} (h : survey.Faithful grammar) : Laid grammar survey.spots := by
  let root (row : Symbol × List Line) : Spot := ⟨row.1, [], [], none⟩
  have hroots : ∀ (n : Nat) (spot : Spot), (survey.rows.map root)[n]? = some spot →
      ∃ row, survey.rows[n]? = some row ∧ spot = root row := by
    intro n spot hspot
    rw [Array.getElem?_map] at hspot
    obtain ⟨row, hrow, rfl⟩ := Option.map_eq_some_iff.mp hspot
    exact ⟨row, hrow, rfl⟩
  have hstart : Laid grammar (survey.rows.map root) := by
    refine ⟨fun n spot hspot => ?_, fun n spot hspot => ?_⟩
    · obtain ⟨row, -, rfl⟩ := hroots n spot hspot
      exact nofun
    · obtain ⟨row, -, rfl⟩ := hroots n spot hspot
      exact nofun
  -- the rows are gone through one by one, and the place before the lines of each is still there
  have hfold : ∀ (rows : List ((Symbol × List Line) × Nat)) (spots : Array Spot),
      Laid grammar spots → Extends (survey.rows.map root) spots →
      (∀ row ∈ rows, survey.rows[row.2]? = some row.1) →
      Laid grammar (rows.foldl
        (fun spots row => row.1.2.foldl (survey.layLine row.2) spots) spots) := by
    intro rows
    induction rows with
    | nil => exact fun spots hlaid _ _ => hlaid
    | cons row rest ih =>
      intro spots hlaid hextends hrows
      obtain ⟨hrow, hrest⟩ := List.forall_mem_cons.mp hrows
      obtain ⟨kept, hkept, hsame⟩ := hextends row.2 (root row.1) (by
        rw [Array.getElem?_map, hrow]
        rfl)
      have hlines : ∀ line ∈ row.1.2, line ∈ kept.owner.lines grammar := by
        rw [hsame.owner, h row.1 (Array.mem_of_getElem? hrow)]
        exact fun line hline => hline
      obtain ⟨hlaid', hextends'⟩ :=
        foldl_layLine_laid survey row.1.2 hlaid hkept hsame.trail hlines
      exact ih _ hlaid' (hextends.trans hextends') hrest
  refine hfold _ _ hstart (.refl _) fun row hrow => ?_
  obtain ⟨row, n⟩ := row
  have hget := List.mem_zipIdx_iff_getElem?.mp hrow
  rw [← Array.getElem?_toList]
  exact hget

end Survey

/-- In the plan of a grammar, lines end where they may. -/
theorem Plan.endsLine_ofGrammar {grammar : Rule → Form} {start : Rule} {n : Nat} {spot : Spot}
    (h : (Plan.ofGrammar grammar start).spots[n]? = some spot) : spot.EndsLine grammar := by
  have hlaid : Laid grammar (Plan.ofGrammar grammar start).spots :=
    Survey.spots_laid (Survey.faithful_collect _ _ fun row hrow => by
      simp [Survey.empty] at hrow)
  exact hlaid.ends n spot h

end Restack.Script
