import Restack.Proofs.Jobs.Session

/-!
# What listeners can do

Listeners never write rows: the only trace of what they do to the work on jobs is the requests that
were granted. A listener that only observes leaves no trace at all, and breaks nothing off.
-/

namespace Restack.Jobs

namespace Session

/-- The session `after` comes from `before` by what listeners did, and `granted` names the jobs that
they were allowed to cancel. -/
structure Heard (before after : Session) (granted : List String) : Prop where
  store : after.store = before.store
  milestones : after.milestones = before.milestones ++ granted.map .granted
  cancelling : ∀ job, job ∈ after.cancelling ↔ job ∈ before.cancelling ∨ job ∈ granted
  isOpen : ∀ job ∈ granted, ∀ row, before.store.job? job = some row → row.status.isOpen = true

namespace Heard

variable {before middle after : Session} {first second : List String}

/-- Nobody did anything. -/
theorem of_eq (hstore : after.store = before.store)
    (hmilestones : after.milestones = before.milestones)
    (hcancelling : after.cancelling = before.cancelling) : Heard before after [] where
  store := hstore
  milestones := by simp [hmilestones]
  cancelling := by simp [hcancelling]
  isOpen := by simp

/-- One listener after the other. -/
theorem trans (hfirst : Heard before middle first) (hsecond : Heard middle after second) :
    Heard before after (first ++ second) where
  store := hsecond.store.trans hfirst.store
  milestones := by
    rw [hsecond.milestones, hfirst.milestones, List.map_append, List.append_assoc]
  cancelling job := by
    rw [hsecond.cancelling, hfirst.cancelling, List.mem_append, or_assoc]
  isOpen job hjob row hrow := by
    rcases List.mem_append.mp hjob with hjob | hjob
    · exact hfirst.isOpen job hjob row hrow
    · exact hsecond.isOpen job hjob row (by rwa [hfirst.store])

end Heard

variable {session : Session}

/-- A request to cancel a job is kept exactly if it is granted. -/
theorem cancel_heard (job : String) (session : Session) :
    ∃ granted, Heard session (session.cancel job).2 granted := by
  unfold cancel
  cases hrow : session.store.job? job with
  | none => exact ⟨[], .of_eq rfl rfl rfl⟩
  | some row =>
    cases hopen : row.status.isOpen with
    | false => exact ⟨[], .of_eq (by simp [hopen]) (by simp [hopen]) (by simp [hopen])⟩
    | true =>
      refine ⟨[job], ?_, ?_, ?_, ?_⟩
      · simp [hopen, pass]
      · simp [hopen, pass]
      · intro other
        simp only [hopen, if_true, pass]
        split
        · rename_i hmem
          have hmem : job ∈ session.cancelling := by simpa using hmem
          simp only [List.mem_singleton]
          exact ⟨.inl, fun h => h.elim id fun heq => heq ▸ hmem⟩
        · simp only [List.mem_cons, List.not_mem_nil, or_false]
          exact or_comm
      · intro other hother row' hrow'
        obtain rfl : other = job := by simpa using hother
        rw [hrow] at hrow'
        obtain rfl : row = row' := by simpa using hrow'
        exact hopen

/-- Whatever a listener does, it only adds requests that are granted. -/
theorem perform_heard (listener : String) (reactions : List Reaction) (session : Session) :
    ∃ granted, Heard session (session.perform listener reactions).2 granted := by
  induction reactions generalizing session with
  | nil => exact ⟨[], .of_eq rfl rfl rfl⟩
  | cons reaction rest ih =>
    cases reaction with
    | cancel job =>
      obtain ⟨first, hfirst⟩ := cancel_heard job session
      obtain ⟨second, hsecond⟩ :=
        ih ((session.cancel job).2.note (.asked listener (session.cancel job).1))
      have hnote : Heard (session.cancel job).2
          ((session.cancel job).2.note (.asked listener (session.cancel job).1)) [] :=
        .of_eq rfl rfl rfl
      exact ⟨first ++ ([] ++ second), hfirst.trans (hnote.trans hsecond)⟩
    | subscribe name react =>
      obtain ⟨granted, h⟩ := ih (session.subscribe ⟨name, react⟩)
      have hsubscribe : Heard session (session.subscribe ⟨name, react⟩) [] := .of_eq rfl rfl rfl
      exact ⟨[] ++ granted, hsubscribe.trans h⟩
    | unsubscribe name =>
      obtain ⟨granted, h⟩ := ih (session.unsubscribe name)
      have hunsubscribe : Heard session (session.unsubscribe name) [] := .of_eq rfl rfl rfl
      exact ⟨[] ++ granted, hunsubscribe.trans h⟩
    | raise message => exact ⟨[], .of_eq rfl rfl rfl⟩

/-- What one listener does only adds requests that are granted. -/
theorem respond_heard (event : Event) (listener : Listener) (session : Session) :
    ∃ granted, Heard session (session.respond event listener).2 granted := by
  obtain ⟨granted, h⟩ := perform_heard listener.name
    (listener.react (session.note (.heard listener.name event)).log event)
    (session.note (.heard listener.name event))
  have hnote : Heard session (session.note (.heard listener.name event)) [] := .of_eq rfl rfl rfl
  exact ⟨[] ++ granted, hnote.trans h⟩

/-- Telling listeners of an event only adds requests that are granted, also when one of them breaks
off and the others are not told. -/
theorem tell_heard (event : Event) (listeners : List Listener) (session : Session) :
    ∃ granted, Heard session (session.tell event listeners).2 granted := by
  induction listeners generalizing session with
  | nil => exact ⟨[], .of_eq rfl rfl rfl⟩
  | cons listener rest ih =>
    obtain ⟨first, hfirst⟩ := respond_heard event listener session
    rw [tell]
    split <;> rename_i after hrespond
    · obtain ⟨second, hsecond⟩ := ih after
      rw [hrespond] at hfirst
      exact ⟨first ++ second, hfirst.trans hsecond⟩
    · rw [hrespond] at hfirst
      exact ⟨first, hfirst⟩

/-- Publishing what a job has come to passes one milestone for the event, and then only requests. -/
theorem publish_heard (job : Job) (session : Session) :
    ∃ granted, Heard (session.pass (.published (.ofJob job))) (session.publish job).2 granted :=
  tell_heard _ _ _

end Session

/-- A reaction that asks for nothing to be cancelled and breaks nothing off, and has nobody listen
who would. -/
inductive Reaction.Harmless : Reaction → Prop
  | subscribe (name : String) (react : List Note → Event → List Reaction)
      (h : ∀ past event, ∀ reaction ∈ react past event, Harmless reaction) :
      Harmless (.subscribe name react)
  | unsubscribe (name : String) : Harmless (.unsubscribe name)

/-- A listener that only observes: whatever has happened, all of its reactions are harmless. -/
def Listener.Observes (listener : Listener) : Prop :=
  ∀ past event, ∀ reaction ∈ listener.react past event, reaction.Harmless

namespace Session

/-- The listeners only observe. -/
def IsObserved (session : Session) : Prop :=
  ∀ listener ∈ session.listeners, listener.Observes

/-- The session `after` comes from `before` by listeners that only observe. -/
structure Observed (before after : Session) : Prop where
  store : after.store = before.store
  cancelling : after.cancelling = before.cancelling
  isObserved : after.IsObserved

namespace Observed

variable {before middle after : Session}

/-- One listener after the other. -/
theorem trans (hfirst : Observed before middle) (hsecond : Observed middle after) :
    Observed before after :=
  ⟨hsecond.store.trans hfirst.store, hsecond.cancelling.trans hfirst.cancelling,
    hsecond.isObserved⟩

end Observed

/-- Harmless reactions are carried out to the end and leave jobs alone. -/
theorem perform_observed (listener : String) {reactions : List Reaction} {session : Session}
    (hsession : session.IsObserved) (hreactions : ∀ reaction ∈ reactions, reaction.Harmless) :
    (session.perform listener reactions).1 = none ∧
      Observed session (session.perform listener reactions).2 := by
  induction reactions generalizing session with
  | nil => exact ⟨rfl, rfl, rfl, hsession⟩
  | cons reaction rest ih =>
    have hrest : ∀ reaction ∈ rest, reaction.Harmless := fun reaction hmem =>
      hreactions reaction (List.mem_cons_of_mem _ hmem)
    cases hreactions reaction List.mem_cons_self with
    | subscribe name react h =>
      have hstep : Observed session (session.subscribe ⟨name, react⟩) := by
        refine ⟨rfl, rfl, fun listener hlistener => ?_⟩
        rcases List.mem_append.mp hlistener with hold | hnew
        · exact hsession listener hold
        · obtain rfl := List.mem_singleton.mp hnew
          exact h
      obtain ⟨hnone, hobserved⟩ := ih hstep.isObserved hrest
      exact ⟨hnone, hstep.trans hobserved⟩
    | unsubscribe name =>
      have hstep : Observed session (session.unsubscribe name) := by
        refine ⟨rfl, rfl, fun listener hlistener => hsession listener ?_⟩
        exact List.mem_of_mem_eraseP hlistener
      obtain ⟨hnone, hobserved⟩ := ih hstep.isObserved hrest
      exact ⟨hnone, hstep.trans hobserved⟩

/-- A listener that only observes does all that it does and leaves jobs alone. -/
theorem respond_observed (event : Event) {listener : Listener} {session : Session}
    (hsession : session.IsObserved) (hlistener : listener.Observes) :
    (session.respond event listener).1 = none ∧
      Observed session (session.respond event listener).2 := by
  have hstep : Observed session (session.note (.heard listener.name event)) := ⟨rfl, rfl, hsession⟩
  obtain ⟨hnone, hobserved⟩ :=
    perform_observed listener.name hstep.isObserved (hlistener _ event)
  exact ⟨hnone, hstep.trans hobserved⟩

/-- Listeners that only observe are all told, and leave jobs alone. -/
theorem tell_observed {event : Event} {listeners : List Listener} {session : Session}
    (hsession : session.IsObserved) (hlisteners : ∀ listener ∈ listeners, listener.Observes) :
    (session.tell event listeners).1 = none ∧
      Observed session (session.tell event listeners).2 := by
  induction listeners generalizing session with
  | nil => exact ⟨rfl, rfl, rfl, hsession⟩
  | cons listener rest ih =>
    obtain ⟨hnone, hobserved⟩ := respond_observed event hsession
      (hlisteners listener List.mem_cons_self)
    rw [tell]
    split <;> rename_i after hrespond
    · rw [hrespond] at hobserved
      obtain ⟨hrest, hafter⟩ := ih hobserved.isObserved fun other hmem =>
        hlisteners other (List.mem_cons_of_mem _ hmem)
      exact ⟨hrest, hobserved.trans hafter⟩
    · rw [hrespond] at hnone
      cases hnone

/-- Publishing to listeners that only observe comes to its end and leaves jobs alone. -/
theorem publish_observed (job : Job) {session : Session} (hsession : session.IsObserved) :
    (session.publish job).1 = none ∧ Observed session (session.publish job).2 := by
  have hstep : Observed session (session.pass (.published (.ofJob job))) := ⟨rfl, rfl, hsession⟩
  obtain ⟨hnone, hobserved⟩ := tell_observed hstep.isObserved hsession
  exact ⟨hnone, hstep.trans hobserved⟩

end Session

end Restack.Jobs
