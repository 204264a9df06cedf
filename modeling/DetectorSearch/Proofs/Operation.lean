import DetectorSearch.Session

/-!
# Operations on sessions

An operation is known by how it ends in each session and by the session that it
leaves. What it does not touch is told by a view of the session that it keeps,
however it ends; views are kept by parts and so by the whole.

Results:
1. `outcome_bind`, `outcome_tryCatch`: operations one after another, and those
   that answer failures.
2. `view_bind`, `view_tryCatch`: views that all but the first part keep.
3. `Keeps.bind`, `Keeps.tryCatch`, `Keeps.mapM`: views that all parts keep.
-/

namespace DetectorSearch

variable {σ α β γ : Type}

namespace Op

/-! ## 1. Outcomes -/

/-- How an operation ends that starts in a session, and the session that it leaves. -/
def outcome (operation : Op σ α) (session : Session σ) : Outcome α × Session σ :=
  operation session

variable {session : Session σ} {operation : Op σ α}

@[simp]
theorem outcome_pure (value : α) : outcome (pure value) session = (.ok value, session) :=
  rfl

@[simp]
theorem outcome_throw (failure : Failure) :
    outcome (throw failure : Op σ α) session = (.error failure, session) :=
  rfl

theorem outcome_bind (operation : Op σ α) (next : α → Op σ β) :
    outcome (operation >>= next) session =
      match operation.outcome session with
      | (.ok value, session) => (next value).outcome session
      | (.error failure, session) => (.error failure, session) := by
  -- an operation is a function of the session, under both layers of the monad
  simp only [outcome, bind, ExceptT.bind, ExceptT.mk, StateT.bind]
  cases h : operation session with
  | mk result left => cases result <;> rfl

theorem outcome_tryCatch (operation : Op σ α) (handler : Failure → Op σ α) :
    outcome (tryCatch operation handler) session =
      match operation.outcome session with
      | (.ok value, session) => (.ok value, session)
      | (.error failure, session) => (handler failure).outcome session := by
  simp only [outcome, tryCatch, tryCatchThe, MonadExceptOf.tryCatch, ExceptT.tryCatch, ExceptT.mk,
    bind, StateT.bind]
  cases h : operation session with
  | mk result left => cases result <;> rfl

@[simp]
theorem outcome_get : outcome (get : Op σ (Session σ)) session = (.ok session, session) :=
  rfl

@[simp]
theorem outcome_modify (change : Session σ → Session σ) :
    outcome (modify change : Op σ PUnit) session = (.ok ⟨⟩, change session) :=
  rfl

@[simp]
theorem outcome_ofOutcome (result : Outcome α) :
    outcome (Session.ofOutcome result) session = (result, session) := by
  cases result <;> rfl

@[simp]
theorem outcome_record (events : List Event) :
    outcome (Session.record events) session =
      (.ok (), { session with events := session.events ++ events }) :=
  rfl

@[simp]
theorem outcome_draw (around : Surroundings σ) :
    outcome (Session.draw around) session =
      (.ok (around.draw session.world).1,
        { session with world := (around.draw session.world).2 }) :=
  rfl

@[simp]
theorem outcome_send (around : Surroundings σ) (request : Http.Request) :
    outcome (Session.send around request) session =
      (.ok (around.exchange request session.world).1,
        { session with
          world := (around.exchange request session.world).2
          sent := session.sent ++ [request] }) :=
  rfl

theorem outcome_sleep (span : Seconds) :
    outcome (Session.sleep span) session =
      match Session.after session.clock span with
      | .ok clock => (.ok (), { session with clock })
      | .error failure => (.error failure, session) := by
  simp only [Session.sleep, outcome_bind, outcome_get, outcome_ofOutcome]
  cases Session.after session.clock span <;> rfl

/-! ## 2. Views that are kept -/

/-- Whether an operation leaves a view of every session as it is, however it ends. -/
def Keeps (view : Session σ → γ) (operation : Op σ α) : Prop :=
  ∀ session, view (operation.outcome session).2 = view session

variable {view : Session σ → γ}

theorem keeps_pure (value : α) : Keeps view (pure value : Op σ α) :=
  fun _ => rfl

theorem keeps_throw (failure : Failure) : Keeps view (throw failure : Op σ α) :=
  fun _ => rfl

theorem keeps_get : Keeps view (get : Op σ (Session σ)) :=
  fun _ => rfl

theorem keeps_ofOutcome (result : Outcome α) : Keeps view (Session.ofOutcome result : Op σ α) :=
  fun session => by rw [outcome_ofOutcome]

/-- What follows an operation and keeps a view shows what the operation shows. -/
theorem view_bind (operation : Op σ α) {next : α → Op σ β} (hnext : ∀ value, Keeps view (next value)) :
    view ((operation >>= next).outcome session).2 = view (operation.outcome session).2 := by
  rw [outcome_bind]
  cases operation.outcome session with
  | mk result left =>
      cases result with
      | ok value => exact hnext value left
      | error failure => rfl

theorem view_tryCatch (operation : Op σ α) {handler : Failure → Op σ α}
    (hhandler : ∀ failure, Keeps view (handler failure)) :
    view (outcome (tryCatch operation handler) session).2 = view (operation.outcome session).2 := by
  rw [outcome_tryCatch]
  cases operation.outcome session with
  | mk result left =>
      cases result with
      | ok value => rfl
      | error failure => exact hhandler failure left

theorem Keeps.bind {next : α → Op σ β} (h : Keeps view operation)
    (hnext : ∀ value, Keeps view (next value)) : Keeps view (operation >>= next) :=
  fun session => (view_bind operation hnext).trans (h session)

theorem Keeps.tryCatch {handler : Failure → Op σ α} (h : Keeps view operation)
    (hhandler : ∀ failure, Keeps view (handler failure)) :
    Keeps view (MonadExcept.tryCatch operation handler) :=
  fun session => (view_tryCatch operation hhandler).trans (h session)

theorem Keeps.mapM {items : List β} {each : β → Op σ α} (h : ∀ item, Keeps view (each item)) :
    Keeps view (items.mapM each) := by
  induction items with
  | nil =>
      rw [List.mapM_nil]
      exact keeps_pure []
  | cons item rest ih =>
      rw [List.mapM_cons]
      exact (h item).bind fun first => ih.bind fun others => keeps_pure (first :: others)

/-- The clock alone is touched by waiting. -/
theorem keeps_sleep (span : Seconds)
    (h : ∀ (session : Session σ) (clock : Instant), view { session with clock } = view session) :
    Keeps view (Session.sleep span) := by
  intro session
  rw [outcome_sleep]
  cases Session.after session.clock span with
  | ok clock => exact h session clock
  | error failure => rfl

theorem keeps_forM_sleep (wait : Option Seconds)
    (h : ∀ (session : Session σ) (clock : Instant), view { session with clock } = view session) :
    Keeps view (wait.forM (@Session.sleep σ)) := by
  cases wait with
  | none => exact keeps_pure _
  | some span => exact keeps_sleep span h

/-- What is sent shows in the views that show what is sent. -/
theorem keeps_send {around : Surroundings σ} {request : Http.Request}
    (h : ∀ (session : Session σ) (world : σ),
      view { session with world, sent := session.sent ++ [request] } = view session) :
    Keeps view (Session.send around request) :=
  fun session => h session _

/-- A connection that is opened shows in the openings, and in what its link becomes. -/
theorem keeps_connect (link : Link) {keep : Link → Session σ → Session σ}
    (hopened : ∀ (session : Session σ) (opened : List Opening),
      view { session with opened } = view session)
    (hkeep : ∀ link session, view (keep link session) = view session) :
    Keeps view (Session.connect link keep) := by
  unfold Session.connect
  split
  · -- the link has a connection already
    exact keeps_pure _
  · refine Keeps.bind (fun session => hopened session _) fun _ => ?_
    refine (keeps_ofOutcome _).bind fun connection => ?_
    exact Keeps.bind (hkeep _) fun _ => keeps_pure connection

end Op

end DetectorSearch
