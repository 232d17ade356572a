/-
Sessions, taken apart. A session that starts on a workspace has an outcome and leaves a workspace; what
was done before a failure stays. One that only reads and takes reports leaves everything but the reports
as it was, whether it fails or not; if it reads one location only, what is there determines its result.
-/
import SwaggerRoutes.Host

namespace SwaggerRoutes.Session

open SwaggerRoutes.Files

variable {α β : Type} {before between after : Workspace}

/-- The outcome of a session that starts on a workspace, and the workspace that it leaves. -/
def outcome (action : Session α) (before : Workspace) : Except Error α × Workspace := action.run.run before

theorem outcome_eq_of_fst {action : Session α} {result : Except Error α}
    (h : (outcome action before).1 = result) : outcome action before = (result, (outcome action before).2) :=
  Prod.ext h rfl

/-! ## One after the other -/

theorem outcome_bind (action : Session α) (next : α → Session β) (before : Workspace) :
    outcome (action >>= next) before =
      match outcome action before with
      | (.ok x, between) => outcome (next x) between
      | (.error error, between) => (.error error, between) := by
  unfold outcome
  rw [ExceptT.run_bind, StateT.run_bind]
  rcases action.run.run before with ⟨_ | _, _⟩ <;> rfl

theorem outcome_bind_of_error {action : Session α} {error : Error}
    (h : outcome action before = (.error error, between)) (next : α → Session β) :
    outcome (action >>= next) before = (.error error, between) := by
  rw [outcome_bind, h]

/-- Two sessions succeed one after the other if the first one does, and the second where it stops. -/
theorem outcome_bind_eq_ok {action : Session α} {next : α → Session β} {y : β}
    (h : outcome (action >>= next) before = (.ok y, after)) :
    ∃ x between, outcome action before = (.ok x, between) ∧ outcome (next x) between = (.ok y, after) := by
  rw [outcome_bind] at h
  split at h
  next x between first => exact ⟨x, between, first, h⟩
  next error between first => cases h

/-! ## Operations -/

theorem outcome_isAddress (location : String) (before : Workspace) :
    outcome (Host.isAddress location) before = (.ok (before.web.isAddress location), before) := rfl

theorem outcome_fetch (address : String) (before : Workspace) :
    outcome (Host.fetch address) before =
      match before.web.get address with
      | .ok reply => (.ok reply, before)
      | .error fault => (.error (.remote fault), before) := rfl

theorem outcome_ofExcept (result : Except Error α) (before : Workspace) :
    outcome (MonadExcept.ofExcept result) before = (result, before) := by
  cases result <;> rfl

theorem outcome_readText (path : Path) (before : Workspace) :
    outcome (Host.readText path) before =
      match before.tree.readText path with
      | .ok text => (.ok text, before)
      | .error fault => (.error (.files fault), before) := by
  show look (·.readText path) before = _
  unfold look
  split <;> simp [*]

theorem outcome_makeParents (path : Path) (before : Workspace) :
    outcome (Host.makeParents path) before =
      match before.tree.makeParents path with
      | (.ok (), tree) => (.ok (), { before with tree })
      | (.error fault, tree) => (.error (.files fault), { before with tree }) := rfl

theorem outcome_writeText (path : Path) (text : String) (before : Workspace) :
    outcome (Host.writeText path text) before =
      match before.tree.writeText path text with
      | .ok tree => (.ok (), { before with tree })
      | .error fault => (.error (.files fault), before) := rfl

/-! ## Sessions that change nothing but their reports -/

/-- Whatever its outcome, the session leaves the workspace as it was, with other reports at most. -/
def OnlyReports (action : Session α) : Prop :=
  ∀ before, ∃ log, (outcome action before).2 = { before with log }

namespace OnlyReports

theorem pure (x : α) : OnlyReports (pure x) := fun before => ⟨before.log, rfl⟩

theorem throw (error : Error) : OnlyReports (throw error : Session α) := fun before => ⟨before.log, rfl⟩

theorem note (record : LogRecord) : OnlyReports (Host.note record) := fun _ => ⟨_, rfl⟩

theorem bind {action : Session α} {next : α → Session β} (first : OnlyReports action)
    (second : ∀ x, OnlyReports (next x)) : OnlyReports (action >>= next) := by
  intro before
  obtain ⟨log, kept⟩ := first before
  rw [outcome_bind]
  split
  next x between run =>
    rw [run] at kept
    obtain ⟨log', kept'⟩ := second x between
    exact ⟨log', by rw [kept', show between = { before with log } from kept]⟩
  next error between run =>
    rw [run] at kept
    exact ⟨log, kept⟩

theorem forM (records : List LogRecord) : OnlyReports (records.forM (m := Session) Host.note) := by
  induction records with
  | nil => exact pure ()
  | cons record records ih => exact bind (note record) fun _ => ih

theorem tree {action : Session α} (only : OnlyReports action) (before : Workspace) :
    (outcome action before).2.tree = before.tree := by
  obtain ⟨log, kept⟩ := only before
  rw [kept]

end OnlyReports

/-! ## Sessions that read one location -/

/-- What stands at a location: what comes back from the web, or the text of a file. -/
inductive Found
  | web (result : Except Web.Fault Web.Reply)
  | file (text : Except Fault String)

/-- What a session finds at a location. -/
def found (location : String) (w : Workspace) : Found :=
  if w.web.isAddress location then .web (w.web.get location) else .file (w.tree.readText ⟨location⟩)

/-- The result of the session depends on the workspace through what stands at one location only. -/
def ReadsOnly (location : String) (action : Session α) : Prop :=
  ∀ before before' : Workspace, found location before' = found location before →
    (outcome action before').1 = (outcome action before).1

namespace ReadsOnly

variable {location : String}

theorem pure (x : α) : ReadsOnly location (pure x) := fun _ _ _ => rfl

theorem throw (error : Error) : ReadsOnly location (throw error : Session α) := fun _ _ _ => rfl

theorem note (record : LogRecord) : ReadsOnly location (Host.note record) := fun _ _ _ => rfl

/-- The second session finds at the location what the first one did, which only reports. -/
theorem bind {action : Session α} {next : α → Session β} (only : OnlyReports action)
    (first : ReadsOnly location action) (second : ∀ x, ReadsOnly location (next x)) :
    ReadsOnly location (action >>= next) := by
  intro before before' same
  have result := first before before' same
  obtain ⟨log, kept⟩ := only before
  obtain ⟨log', kept'⟩ := only before'
  rw [outcome_bind, outcome_bind]
  rcases run : outcome action before with ⟨_ | x, between⟩
  all_goals rcases run' : outcome action before' with ⟨_ | _, between'⟩
  all_goals rw [run] at result kept; rw [run'] at result kept'; cases result
  · rfl
  · cases kept
    cases kept'
    exact second x _ _ same

theorem forM (records : List LogRecord) : ReadsOnly location (records.forM (m := Session) Host.note) := by
  induction records with
  | nil => exact pure ()
  | cons record records ih => exact bind (.note record) (note record) fun _ => ih

end ReadsOnly

end SwaggerRoutes.Session
