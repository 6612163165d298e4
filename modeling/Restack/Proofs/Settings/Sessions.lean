import Restack.Settings

/-!
# A session keeps the first settings that it could read

Whatever is requested in between, and however the environment changes, the first settings that a
session could read are its settings from then on. An environment that cannot be read leaves nothing
behind, and neither does a request that reads the environment past the session.
-/

namespace Restack.Settings

/-- A limit is at least one, if the standard is. -/
theorem one_le_of_limit {environment : Environment} {name : String} {standard value : Int}
    (h : limit environment name standard = .ok value) (hstandard : 1 ≤ standard) : 1 ≤ value := by
  unfold limit at h
  split at h
  · cases h
    exact hstandard
  · split at h
    · cases h
      exact hstandard
    · split at h
      · cases h
      · split at h
        · cases h
        · cases h
          omega

/-- Files of some size are taken in, and some of them together. -/
structure HasLimits (settings : Settings) : Prop where
  file : 1 ≤ settings.maxFileSize
  total : 1 ≤ settings.maxTotalSize

/-- Settings that are read from an environment have limits. -/
theorem hasLimits_of_ofEnvironment {environment : Environment} {settings : Settings}
    (h : ofEnvironment environment = .ok settings) : settings.HasLimits := by
  unfold ofEnvironment at h
  cases hfile : limit environment "STACKSHIFT_MAX_FILE_SIZE" standard.maxFileSize with
  | error flaw =>
    rw [hfile] at h
    cases h
  | ok file =>
    cases htotal : limit environment "STACKSHIFT_MAX_TOTAL_SIZE" standard.maxTotalSize with
    | error flaw =>
      rw [hfile, htotal] at h
      cases h
    | ok total =>
      rw [hfile, htotal] at h
      cases h
      exact ⟨one_le_of_limit hfile (by decide), one_le_of_limit htotal (by decide)⟩

/-- What a session keeps after some requests. -/
def keptAfter (cache : Cache) (requests : List Request) : Cache :=
  requests.foldl (fun cache request => (answer cache request).2) cache

/-- A request for the settings of the session. -/
def Request.isGet : Request → Bool
  | .load _ => false
  | .get _ => true

section Steps

variable {cache : Cache} {settings : Settings}

/-- A session that keeps nothing asks the environment. -/
theorem get_none (environment : Environment) : get environment none =
    (ofEnvironment environment, (ofEnvironment environment).toOption) := by
  rw [get]
  cases ofEnvironment environment <;> rfl

/-- What a session answers with it keeps, and it keeps nothing that it does not answer with. -/
theorem get_keeps (environment : Environment) (cache : Cache) :
    (get environment cache).2 = (get environment cache).1.toOption := by
  cases cache with
  | none => rw [get_none]
  | some settings => rfl

/-- Nothing replaces what is kept. -/
theorem answer_some (settings : Settings) (request : Request) :
    (answer (some settings) request).2 = some settings := by
  cases request <;> rfl

/-- Settings that are asked for have limits if those that are kept have. -/
theorem limits_of_get {environment : Environment}
    (hcache : ∀ kept ∈ cache, kept.HasLimits)
    (h : (get environment cache).1 = .ok settings) : settings.HasLimits := by
  cases cache with
  | none =>
    rw [get_none] at h
    exact hasLimits_of_ofEnvironment h
  | some kept =>
    cases h
    exact hcache settings rfl

/-- Settings that are answered with allow something, if those that are kept do. -/
theorem limits_of_answer {request : Request} (hcache : ∀ kept ∈ cache, kept.HasLimits)
    (h : (answer cache request).1 = .ok settings) : settings.HasLimits := by
  cases request with
  | load environment => exact hasLimits_of_ofEnvironment h
  | get environment => exact limits_of_get hcache h

/-- Settings that are kept allow something, if those that were kept before do. -/
theorem limits_of_kept {request : Request} (hcache : ∀ kept ∈ cache, kept.HasLimits) :
    ∀ kept ∈ (answer cache request).2, kept.HasLimits := by
  intro kept hkept
  cases request with
  | load environment => exact hcache kept hkept
  | get environment =>
    change (get environment cache).2 = some kept at hkept
    rw [get_keeps] at hkept
    cases hreply : (get environment cache).1 with
    | error flaw =>
      rw [hreply] at hkept
      cases hkept
    | ok settings =>
      rw [hreply] at hkept
      cases hkept
      exact limits_of_get hcache hreply

end Steps

section Runs

variable {cache : Cache} {requests : List Request} {settings : Settings} {i j : Nat}

/-- Each request has one answer. -/
theorem length_answers (cache : Cache) (requests : List Request) :
    (answers cache requests).length = requests.length := by
  induction requests generalizing cache with
  | nil => rfl
  | cons request rest ih => rw [answers, List.length_cons, ih, List.length_cons]

/-- Each request is answered from what the requests before it have left. -/
theorem getElem?_answers (cache : Cache) (requests : List Request) (i : Nat) :
    (answers cache requests)[i]? =
      requests[i]?.map fun request => (answer (keptAfter cache (requests.take i)) request).1 := by
  induction requests generalizing cache i with
  | nil => rfl
  | cons request rest ih =>
    cases i with
    | zero => rfl
    | succ i =>
      rw [answers, List.getElem?_cons_succ, List.getElem?_cons_succ, ih]
      rfl

/-- What is kept after two lists of requests is kept after the second. -/
theorem keptAfter_append (cache : Cache) (first second : List Request) :
    keptAfter cache (first ++ second) = keptAfter (keptAfter cache first) second :=
  List.foldl_append

/-- What is kept after one more request is what its answer leaves. -/
theorem keptAfter_take_succ {request : Request} (hrequest : requests[i]? = some request) :
    keptAfter cache (requests.take (i + 1)) =
      (answer (keptAfter cache (requests.take i)) request).2 := by
  rw [List.take_add_one, hrequest, keptAfter_append]
  rfl

/-- No requests replace what is kept. -/
theorem keptAfter_some (settings : Settings) (requests : List Request) :
    keptAfter (some settings) requests = some settings := by
  induction requests with
  | nil => rfl
  | cons request rest ih =>
    change keptAfter (answer (some settings) request).2 rest = _
    rw [answer_some, ih]

/-- What is kept once is kept from then on. -/
theorem keptAfter_of_le (hkept : keptAfter cache (requests.take i) = some settings) (h : i ≤ j) :
    keptAfter cache (requests.take j) = some settings := by
  obtain ⟨more, hmore⟩ := List.take_prefix_take_left h (l := requests)
  rw [← hmore, keptAfter_append, hkept, keptAfter_some]

/-- All settings that a session answers with allow something. -/
theorem limits_of_mem_answers (hcache : ∀ kept ∈ cache, kept.HasLimits)
    (h : .ok settings ∈ answers cache requests) : settings.HasLimits := by
  induction requests generalizing cache with
  | nil => cases h
  | cons request rest ih =>
    rcases List.mem_cons.mp h with hfirst | hrest
    · exact limits_of_answer hcache hfirst.symm
    · exact ih (limits_of_kept hcache) hrest

/-- Requests that read the environment past the session do not change what the others get. -/
theorem answers_filter_isGet (cache : Cache) (requests : List Request) :
    ((requests.zip (answers cache requests)).filter (·.1.isGet)).map Prod.snd =
      answers cache (requests.filter Request.isGet) := by
  induction requests generalizing cache with
  | nil => rfl
  | cons request rest ih =>
    rw [answers, List.zip_cons_cons]
    cases request with
    | load environment => exact ih cache
    | get environment => exact congrArg (_ :: ·) (ih (get environment cache).2)

end Runs

/-- At one of the requests the session was asked for its settings and answered with some. -/
def GotAt (requests : List Request) (replies : List (Except Flaw Settings)) (i : Nat)
    (settings : Settings) : Prop :=
  ∃ environment, requests[i]? = some (.get environment) ∧ replies[i]? = some (.ok settings)

section Session

variable {requests : List Request} {settings : Settings} {i j : Nat}

/-- What a session has answered with it keeps from then on. -/
theorem GotAt.kept (h : GotAt requests (answers none requests) i settings) (hij : i < j) :
    keptAfter none (requests.take j) = some settings := by
  obtain ⟨environment, hrequest, hreply⟩ := h
  refine keptAfter_of_le (i := i + 1) ?_ hij
  rw [getElem?_answers, hrequest, Option.map_some, Option.some_inj] at hreply
  rw [keptAfter_take_succ hrequest, answer, get_keeps]
  exact congrArg Except.toOption hreply

/-- As long as a session has answered with no settings it keeps none. -/
theorem keptAfter_eq_none
    (h : ∀ j < i, ∀ settings, ¬GotAt requests (answers none requests) j settings) :
    keptAfter none (requests.take i) = none := by
  induction i with
  | zero => rfl
  | succ i ih =>
    have hbefore := ih fun j hj => h j (Nat.lt_succ_of_lt hj)
    cases hrequest : requests[i]? with
    | none =>
      rw [List.take_add_one, hrequest]
      simpa using hbefore
    | some request =>
      rw [keptAfter_take_succ hrequest, hbefore]
      cases request with
      | load environment => rfl
      | get environment =>
        rw [answer, get_keeps]
        cases hreply : (get environment none).1 with
        | error flaw => rfl
        | ok settings =>
          refine absurd ⟨environment, hrequest, ?_⟩ (h i (Nat.lt_succ_self i) settings)
          rw [getElem?_answers, hrequest, hbefore]
          exact congrArg some hreply

end Session

/-- What a session answers to requests, one after the other, each of which is made under an
environment of its own. -/
structure KeepsFirst (requests : List Request) (replies : List (Except Flaw Settings)) : Prop where
  answered : replies.length = requests.length
  /-- Past the session, the environment of that moment is read. -/
  load : ∀ (i : Nat) environment, requests[i]? = some (.load environment) →
    replies[i]? = some (ofEnvironment environment)
  /-- Up to the first request that the session answers with settings, that one included, it reads
  the environment of that moment. -/
  first : ∀ (i : Nat) environment, requests[i]? = some (.get environment) →
    (∀ j < i, ∀ settings, ¬GotAt requests replies j settings) →
    replies[i]? = some (ofEnvironment environment)
  /-- Once it has answered with settings, it answers with the same ones. -/
  later : ∀ (i j : Nat) settings environment, GotAt requests replies i settings → i < j →
    requests[j]? = some (.get environment) → replies[j]? = some (.ok settings)
  /-- Nothing is kept after a request that the session could not answer with settings, -/
  failed : ∀ (i : Nat) environment flaw, requests[i]? = some (.get environment) →
    replies[i]? = some (.error flaw) → keptAfter none (requests.take (i + 1)) = none
  /-- and where nothing is kept, the environment of that moment is read. -/
  reread : ∀ (i : Nat) environment, requests[i]? = some (.get environment) →
    keptAfter none (requests.take i) = none → replies[i]? = some (ofEnvironment environment)
  /-- The session answers as if nothing had been read past it. -/
  apart : ((requests.zip replies).filter (·.1.isGet)).map Prod.snd =
    answers none (requests.filter Request.isGet)
  limits : ∀ settings, .ok settings ∈ replies → settings.HasLimits

/-- A session keeps the first settings that it could read, and nothing else. -/
theorem answers_keep_first (requests : List Request) :
    KeepsFirst requests (answers none requests) := by
  have hreread : ∀ (i : Nat) environment, requests[i]? = some (.get environment) →
      keptAfter none (requests.take i) = none →
      (answers none requests)[i]? = some (ofEnvironment environment) := by
    intro i environment hrequest hkept
    rw [getElem?_answers, hrequest, hkept, Option.map_some, answer, get_none]
  refine ⟨length_answers _ _, ?_, ?_, ?_, ?_, hreread, answers_filter_isGet _ _, ?_⟩
  · intro i environment hrequest
    rw [getElem?_answers, hrequest]
    rfl
  · intro i environment hrequest hnone
    exact hreread i environment hrequest (keptAfter_eq_none hnone)
  · intro i j settings environment hgot hij hrequest
    rw [getElem?_answers, hrequest, hgot.kept hij]
    rfl
  · intro i environment flaw hrequest hreply
    rw [getElem?_answers, hrequest, Option.map_some, Option.some_inj] at hreply
    rw [keptAfter_take_succ hrequest, answer, get_keeps]
    exact congrArg Except.toOption hreply
  · intro settings hmem
    have hnone : ∀ kept ∈ (none : Cache), kept.HasLimits := nofun
    exact limits_of_mem_answers hnone hmem

/-- Settings that cannot be read, since a separator of files pads no number, then settings read past
the session, and the first ones that it keeps. -/
example : answers none
    [.get [("STACKSHIFT_MAX_FILE_SIZE", "\x1c5")], .load [("STACKSHIFT_MAX_FILE_SIZE", "10")],
      .get [("STACKSHIFT_MAX_FILE_SIZE", "2_048")], .get [("STACKSHIFT_MAX_FILE_SIZE", "0")]] =
    [.error (.notInteger "STACKSHIFT_MAX_FILE_SIZE" "\x1c5"),
      .ok { standard with maxFileSize := 10 }, .ok { standard with maxFileSize := 2048 },
      .ok { standard with maxFileSize := 2048 }] := by
  rfl

end Restack.Settings
