import Restack.Proofs.Script.Plans
import Restack.Proofs.Script.Units
import Restack.Proofs.Script.Walk
import Restack.Script.Reader

/-!
# Scripts are read by the grammar

Whatever a script is read as, each frame on the way holds parts that the grammar derives for its
symbol: a unit with a text that spells it, or a whole line of the symbol with the parts of its
steps, between which only blanks and comments stand. Nothing stands before the first of them.
-/

namespace Restack.Script

/-- Blanks, and comments, which are nodes of one token without a role. -/
inductive Tree.IsExtra : Tree → Prop where
  | blank (text : String) : IsExtra (.blank text)
  | comment {kind : Kind} (text : String) (h : kind.isComment = true) :
    IsExtra (.node kind none [.token text])

mutual

/-- Parts of a tree that a symbol stands for by a grammar, the latest first. -/
inductive Derives (grammar : Rule → Form) : Symbol → List Tree → Prop where
  | unit {what : Terminal} {text : List Char} (h : what.Spells text) :
    Derives grammar (.terminal what) (Tree.ofUnit what text)
  | line {owner : Symbol} {line : Line} {parts : List Tree} (hline : line ∈ owner.lines grammar)
    (h : Row grammar line.steps.reverse parts) : Derives grammar owner (Tree.ofLine owner parts)

/-- Parts of a tree that stand for steps by a grammar, the latest first. -/
inductive Row (grammar : Rule → Form) : List Step → List Tree → Prop where
  | nil : Row grammar [] []
  | cons {step : Step} {steps : List Step} {parts before earlier : List Tree}
    (h : Derives grammar step.symbol parts) (hbefore : ∀ part ∈ before, part.IsExtra)
    (hrest : Row grammar steps earlier) (hfirst : steps = [] → before = []) :
    Row grammar (step :: steps) (Tree.atStep step parts ++ before ++ earlier)

end

/-- What a frame holds is derived by the grammar. -/
structure Frame.Valid (grammar : Rule → Form) (frame : Frame) : Prop where
  derives : Derives grammar frame.symbol frame.parts
  before : ∀ part ∈ frame.before, part.IsExtra

/-- What comes next is spelled as it should be. -/
structure Lookahead.Valid (ahead : Lookahead) : Prop where
  spells : ahead.unit.what.Spells ahead.unit.text
  before : ∀ part ∈ ahead.before, part.IsExtra

/-- All that has been read is derived by the grammar. -/
structure Reading.Valid (grammar : Rule → Form) (reading : Reading) : Prop where
  frames : ∀ frame ∈ reading.frames, frame.Valid grammar
  ahead : ∀ ahead ∈ reading.ahead?, ahead.Valid

/-- A tree of a whole script, made of frames with blanks and comments before and after them. -/
def Tree.IsProgram (grammar : Rule → Form) (tree : Tree) : Prop :=
  ∃ (frames : List Frame) (after : List Tree), (∀ frame ∈ frames, frame.Valid grammar) ∧
    (∀ part ∈ after, part.IsExtra) ∧ tree = .node .program none
      (after ++ frames.flatMap fun frame => frame.parts ++ frame.before).reverse

/-- What a step of reading leads to is derived by the grammar. -/
def Outcome.Valid (grammar : Rule → Form) : Outcome → Prop
  | .onward first others => first.Valid grammar ∧ ∀ reading ∈ others, reading.Valid grammar
  | .complete tree => tree.IsProgram grammar
  | .stuck => True

variable {grammar : Rule → Form} {plan : Plan}

/-- Blanks stand between units. -/
theorem isExtra_of_mem_ofBlank {blank : List Char} {part : Tree}
    (h : part ∈ Tree.ofBlank blank) : part.IsExtra := by
  unfold Tree.ofBlank at h
  split at h
  · cases h
  · rw [List.mem_singleton.mp h]
    exact .blank _

/-- The parts of frames that hold the symbols of a line are those of its steps. -/
theorem Frame.row_of_gather {frames : List Frame} {steps : List Step} {parts : List Tree}
    (hframes : ∀ frame ∈ frames, frame.Valid grammar) (h : gather frames steps = some parts) :
    Row grammar steps parts := by
  induction steps generalizing frames parts with
  | nil =>
    cases frames <;> (cases h; exact .nil)
  | cons step steps ih =>
    cases frames with
    | nil => cases h
    | cons frame rest =>
      obtain ⟨hframe, hrest⟩ := List.forall_mem_cons.mp hframes
      rw [gather] at h
      split at h
      · rename_i hsymbol
        have hderives := hframe.derives
        rw [beq_iff_eq.mp hsymbol] at hderives
        dsimp only at h
        split at h
        · rename_i hlast
          cases h
          rw [List.isEmpty_iff.mp hlast]
          have hrow : Row grammar [step] (Tree.atStep step frame.parts ++ [] ++ []) :=
            .cons hderives nofun .nil fun _ => rfl
          rwa [List.append_nil, List.append_nil] at hrow
        · rename_i hmore
          obtain ⟨earlier, hearlier, rfl⟩ := Option.map_eq_some_iff.mp h
          exact .cons hderives hframe.before (ih hrest hearlier) fun hlast =>
            absurd (List.isEmpty_iff.mpr hlast) hmore
      · cases h

namespace Plan

/-- A place is completed if it is the one that is added or was so before. -/
theorem mem_of_mem_add {done : Completions} {spot : Nat} {step? : Option Step}
    {rules : List Rule} {n : Nat} (h : n ∈ (done.add spot step? rules).spots) :
    n = spot ∨ n ∈ done.spots := by
  unfold Completions.add at h
  dsimp only at h
  split at h
  · exact .inl (List.mem_singleton.mp h)
  · split at h
    · exact .inl (List.mem_singleton.mp h)
    · exact (List.mem_append.mp h).symm.imp_left List.mem_singleton.mp
    · exact .inr h

/-- Lines are completed only where they end. -/
theorem isEnd_of_mem_completions {state : State} {unit n : Nat}
    (h : n ∈ (plan.completions state unit).spots) : plan.isEnd n = true := by
  suffices hfold : ∀ (items : List Item) (done : Completions),
      (∀ n ∈ done.spots, plan.isEnd n = true) →
      ∀ n ∈ (items.foldl (fun done item =>
        if plan.isEnd item.spot && item.followers.testBit unit then
          done.add item.spot (plan.lastStep? item.spot) (plan.rulesAt item.spot)
        else done) done).spots, plan.isEnd n = true from
    hfold state .none nofun n h
  intro items
  induction items with
  | nil => exact fun done hdone => hdone
  | cons item rest ih =>
    intro done hdone
    refine ih _ fun n hn => ?_
    dsimp only at hn
    split at hn
    · rename_i hend
      rcases mem_of_mem_add hn with rfl | hn
      · exact (Bool.and_eq_true_iff.mp hend).1
      · exact hdone n hn
    · exact hdone n hn

/-- What is chosen to be completed is the end of a line. -/
theorem isEnd_of_mem_choose {state : State} {unit n : Nat}
    (h : n ∈ (plan.choose state unit).completed) : plan.isEnd n = true := by
  have hsorted : ∀ m ∈ ((plan.completions state unit).spots.mergeSort
      fun spot other => plan.prefers other spot), plan.isEnd m = true := fun m hm =>
    isEnd_of_mem_completions (List.mem_mergeSort.mp hm)
  unfold choose at h
  dsimp only at h
  repeat' split at h
  all_goals first
    | exact hsorted n h
    | cases h

end Plan

namespace Reading

/-- What is seen ahead is a unit that is spelled as it should be, behind what may stand between
units. -/
theorem valid_of_look {expected : List Terminal} {fuel place : Nat} {before : List Tree}
    {s : List Char} {ahead : Lookahead} (hbefore : ∀ part ∈ before, part.IsExtra)
    (h : look expected fuel place before s = some ahead) : ahead.Valid := by
  induction fuel generalizing place before s with
  | zero => cases h
  | succ fuel ih =>
    rw [look] at h
    split at h
    · cases h
    · rename_i found hfound
      cases h
      refine ⟨Token.isSpelled_of_next? hfound, fun part hpart => ?_⟩
      rcases List.mem_append.mp hpart with hpart | hpart
      · exact isExtra_of_mem_ofBlank hpart
      · exact hbefore part hpart
    · rename_i found hfound
      refine ih (fun part hpart => ?_) h
      rcases List.mem_cons.mp hpart with rfl | hpart
      · exact .comment _ (Token.isSpelled_of_next? hfound)
      · rcases List.mem_append.mp hpart with hpart | hpart
        · exact isExtra_of_mem_ofBlank hpart
        · exact hbefore part hpart

/-- A unit is taken for what it is, or for a name. -/
theorem spells_of_unitIn? {state : State} {what taken : Terminal} {number : Nat}
    {text : List Char} (hspells : what.Spells text)
    (h : unitIn? plan state what = some (taken, number)) : taken.Spells text := by
  have hfits : ∀ t : Terminal, ∀ found ∈ ((plan.number? (.terminal t)).filter fun number =>
      (plan.expected state).testBit number).map (t, ·), found.1 = t := by
    intro t found hfound
    obtain ⟨_, -, rfl⟩ := Option.map_eq_some_iff.mp hfound
    rfl
  unfold unitIn? at h
  dsimp only at h
  split at h
  · rename_i w
    rcases Option.or_eq_some_iff.mp h with hself | ⟨-, hname⟩
    · have heq := hfits _ _ hself
      cases heq
      exact hspells
    · have heq := hfits _ _ hname
      cases heq
      exact hspells.1
  · have heq := hfits _ _ h
    cases heq
    exact hspells

/-- A unit that is taken extends a reading by a frame that derives it. -/
theorem Valid.shift {reading : Reading} (h : reading.Valid grammar) {ahead : Lookahead}
    (hahead : ahead.Valid) {what : Terminal} (hwhat : what.Spells ahead.unit.text)
    (state : State) : (reading.shift ahead what state).Valid grammar := by
  refine ⟨fun frame hframe => ?_, nofun⟩
  rcases List.mem_cons.mp hframe with rfl | hframe
  · exact ⟨.unit hwhat, hahead.before⟩
  · exact h.frames frame hframe

/-- A line that is completed where lines end is one of its symbol. -/
theorem Valid.completeLine {reading next : Reading} (h : reading.Valid grammar)
    (hplan : ∀ (n : Nat) (spot : Spot), plan.spots[n]? = some spot → spot.EndsLine grammar)
    {spot : Nat} (hend : plan.isEnd spot = true)
    (hnext : reading.completeLine plan spot = some next) : next.Valid grammar := by
  unfold Reading.completeLine at hnext
  obtain ⟨place, hplace, hnext⟩ := Option.bind_eq_some_iff.mp hnext
  obtain ⟨number, -, hnext⟩ := Option.bind_eq_some_iff.mp hnext
  obtain ⟨first, hfirst, hnext⟩ := Option.bind_eq_some_iff.mp hnext
  obtain ⟨parts, hparts, hnext⟩ := Option.bind_eq_some_iff.mp hnext
  cases hnext
  have hfavour : place.favour?.isSome := by
    unfold Plan.isEnd at hend
    rwa [hplace, Option.bind_some] at hend
  obtain ⟨line, hline, hsteps⟩ := hplan spot place hplace hfavour
  have hrow : Row grammar line.steps.reverse parts := by
    rw [hsteps, List.reverse_reverse]
    exact Frame.row_of_gather h.frames hparts
  refine ⟨fun frame hframe => ?_, h.ahead⟩
  rcases List.mem_cons.mp hframe with rfl | hframe
  · exact ⟨.line hline hrow, (h.frames first (List.mem_of_getElem? hfirst)).before⟩
  · exact h.frames frame (List.mem_of_mem_drop hframe)

/-- Joining a reading to others makes no new one. -/
theorem mem_of_mem_join {reading next : Reading} {others : List Reading}
    (h : next ∈ reading.join others) : next = reading ∨ next ∈ others := by
  induction others with
  | nil => exact .inl (List.mem_singleton.mp h)
  | cons other rest ih =>
    rw [join] at h
    split at h
    · rcases List.mem_cons.mp h with rfl | h
      · split
        · exact .inl rfl
        · exact .inr List.mem_cons_self
      · exact .inr (List.mem_cons_of_mem _ h)
    · rcases List.mem_cons.mp h with rfl | h
      · exact .inr List.mem_cons_self
      · exact (ih h).imp_right (List.mem_cons_of_mem _)

/-- The readings that are followed further are some of those that there were. -/
theorem mem_of_mem_settled {readings : List Reading} {next : Reading}
    (h : next ∈ settled readings) : next ∈ readings := by
  have hfold : ∀ (readings others : List Reading) (next : Reading),
      next ∈ readings.foldl (fun others reading => reading.join others) others →
        next ∈ readings ∨ next ∈ others := by
    intro readings
    induction readings with
    | nil => exact fun others next h => .inr h
    | cons reading rest ih =>
      intro others next h
      rcases ih _ next h with h | h
      · exact .inl (List.mem_cons_of_mem _ h)
      · rcases mem_of_mem_join h with rfl | h
        · exact .inl List.mem_cons_self
        · exact .inr h
  have hjoined := List.mem_mergeSort.mp (List.mem_of_mem_take h)
  exact (hfold readings [] next hjoined).resolve_right List.not_mem_nil

/-- The better of two programs is a program. -/
theorem isProgram_of_better {best? : Option (Int × Tree)} {favour : Int} {tree : Tree}
    (hbest : ∀ best ∈ best?, best.2.IsProgram grammar) (htree : tree.IsProgram grammar) :
    ∀ best ∈ better best? favour tree, best.2.IsProgram grammar := by
  unfold better
  split
  · rintro _ ⟨⟩
    exact htree
  · exact hbest

/-- What is seen ahead does not matter to what was read. -/
theorem Valid.withAhead {reading : Reading} (h : reading.Valid grammar)
    (ahead? : Option Lookahead) (hahead : ∀ ahead ∈ ahead?, ahead.Valid) :
    Valid grammar { reading with ahead? } :=
  ⟨h.frames, hahead⟩

/-- A reading that is complete gives a program. -/
theorem Valid.program {reading : Reading} (h : reading.Valid grammar) {ahead : Lookahead}
    (hahead : ahead.Valid) : (reading.program ahead).IsProgram grammar :=
  ⟨reading.frames, ahead.before, h.frames, hahead.before, rfl⟩

variable (hplan : ∀ (n : Nat) (spot : Spot), plan.spots[n]? = some spot → spot.EndsLine grammar)

include hplan

/-- Each step of a reading leads to readings that derive what they have read. -/
theorem Valid.stepWith {reading : Reading} (h : reading.Valid grammar) {ahead : Lookahead}
    (hahead : ahead.Valid) : (reading.stepWith plan ahead).Valid grammar := by
  unfold Reading.stepWith
  dsimp only
  split
  · trivial
  · rename_i what number hunit
    have hwhat := spells_of_unitIn? hahead.spells hunit
    have hcompleted : ∀ next ∈
        (plan.choose (stateAfter plan reading.frames) number).completed.filterMap
          (reading.completeLine plan), next.Valid grammar := by
      intro next hnext
      obtain ⟨spot, hspot, hnext⟩ := List.mem_filterMap.mp hnext
      exact h.completeLine hplan (Plan.isEnd_of_mem_choose hspot) hnext
    split
    · exact h.program hahead
    · split
      · refine ⟨h.shift hahead hwhat _, fun other hother => ?_⟩
        obtain ⟨next, hnext, rfl⟩ := List.mem_map.mp hother
        exact (hcompleted next hnext).withAhead none (by simp)
      · split
        · trivial
        · rename_i last others hlast
          have hall : ∀ next ∈ last :: others, next.Valid grammar := fun next hnext =>
            hcompleted next (List.mem_reverse.mp (hlast ▸ hnext))
          refine ⟨(hall last List.mem_cons_self).withAhead (some ahead) ?_, fun other hother => ?_⟩
          · rintro _ ⟨⟩
            exact hahead
          · obtain ⟨next, hnext, rfl⟩ := List.mem_map.mp hother
            have hvalid := hall next (List.mem_cons_of_mem _ (List.mem_reverse.mp hnext))
            exact hvalid.withAhead none (by simp)

/-- A step of reading keeps to the grammar. -/
theorem Valid.step {reading : Reading} (h : reading.Valid grammar) :
    (reading.step plan).Valid grammar := by
  unfold Reading.step
  split
  · rename_i ahead hahead
    exact h.stepWith hplan (h.ahead ahead hahead)
  · dsimp only
    split
    · rename_i ahead hlook
      exact h.stepWith hplan (valid_of_look (by simp) hlook)
    · trivial

/-- A pass over all readings leaves valid readings, and the best program is one. -/
theorem valid_pass (place fuel : Nat) {readings past : List Reading}
    {best? : Option (Int × Tree)} (hreadings : ∀ reading ∈ readings, reading.Valid grammar)
    (hpast : ∀ reading ∈ past, reading.Valid grammar)
    (hbest : ∀ best ∈ best?, best.2.IsProgram grammar) :
    (∀ reading ∈ (pass plan place fuel readings past best?).1, reading.Valid grammar) ∧
      ∀ best ∈ (pass plan place fuel readings past best?).2, best.2.IsProgram grammar := by
  induction fuel generalizing readings past best? with
  | zero =>
    rw [pass]
    exact ⟨fun reading hreading => hpast reading (List.mem_reverse.mp hreading), hbest⟩
  | succ fuel ih =>
    cases readings with
    | nil =>
      rw [pass]
      exact ⟨fun reading hreading => hpast reading (List.mem_reverse.mp hreading), hbest⟩
    | cons reading rest =>
      obtain ⟨hreading, hrest⟩ := List.forall_mem_cons.mp hreadings
      rw [pass]
      split
      · exact ih hrest (List.forall_mem_cons.mpr ⟨hreading, hpast⟩) hbest
      · have hstep := hreading.step hplan
        split
        · rename_i tree htree
          rw [htree] at hstep
          exact ih hrest hpast (isProgram_of_better hbest hstep)
        · exact ih hrest hpast hbest
        · rename_i first others honward
          rw [honward] at hstep
          refine ih (List.forall_mem_cons.mpr ⟨hstep.1, ?_⟩) hpast hbest
          exact List.forall_mem_append.mpr ⟨hrest, hstep.2⟩

/-- However long readings are followed, what they come to is a program. -/
theorem isProgram_of_follow (fuel : Nat) {readings : List Reading} {best? : Option (Int × Tree)}
    (hreadings : ∀ reading ∈ readings, reading.Valid grammar)
    (hbest : ∀ best ∈ best?, best.2.IsProgram grammar) :
    ∀ best ∈ follow plan fuel readings best?, best.2.IsProgram grammar := by
  induction fuel generalizing readings best? with
  | zero => exact hbest
  | succ fuel ih =>
    rw [follow]
    split
    · exact hbest
    · rename_i place _
      obtain ⟨hpassed, hfound⟩ := valid_pass hplan place fuel hreadings
        (show ∀ reading ∈ ([] : List Reading), reading.Valid grammar from nofun) hbest
      exact ih (fun reading hreading => hpassed reading (mem_of_mem_settled hreading)) hfound

end Reading

/-- The tree of a script is derived by the grammar of its dialect. -/
theorem isProgram_of_parse {dialect : Dialect} {code : String} {tree : Tree}
    (h : parse dialect code = .ok tree) : tree.IsProgram (Script.grammar dialect) := by
  have hplan : ∀ (n : Nat) (spot : Spot), dialect.plan.spots[n]? = some spot →
      spot.EndsLine (Script.grammar dialect) := by
    intro n spot hspot
    cases dialect with
    | markup => exact Plan.endsLine_ofGrammar hspot
    | plain => exact Plan.endsLine_ofGrammar hspot
  unfold parse at h
  dsimp only at h
  split at h
  · rename_i favour found hfollow
    cases h
    refine Reading.isProgram_of_follow hplan _ ?_ (by simp) _ hfollow
    intro reading hreading
    rw [List.mem_singleton.mp hreading]
    exact ⟨nofun, nofun⟩
  · cases h

end Restack.Script
