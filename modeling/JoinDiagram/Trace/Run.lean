import JoinDiagram.Trace.Event

namespace JoinDiagram

/-- The events of a computation and what it ends with. A failure ends it; the events before remain. -/
structure Run (α : Type) where
  events : List Event
  result : Except Failure α

namespace Run

def report (events : List Event) : Run Unit := ⟨events, .ok ()⟩

def fail {α : Type} (failure : Failure) : Run α := ⟨[], .error failure⟩

def andThen {α β : Type} (r : Run α) (next : α → Run β) : Run β :=
  match r.result with
  | .ok value => ⟨r.events ++ (next value).events, (next value).result⟩
  | .error failure => ⟨r.events, .error failure⟩

instance : Monad Run where
  pure value := ⟨[], .ok value⟩
  bind := andThen

theorem bind_result {α β : Type} {r : Run α} {value : α} (h : r.result = .ok value)
    (next : α → Run β) : (r >>= next).result = (next value).result := by
  change (andThen r next).result = _
  rw [andThen, h]

theorem bind_result_error {α β : Type} {r : Run α} {failure : Failure}
    (h : r.result = .error failure) (next : α → Run β) : (r >>= next).result = .error failure := by
  change (andThen r next).result = _
  rw [andThen, h]

@[simp]
theorem report_bind_result {β : Type} (events : List Event) (next : Unit → Run β) :
    (report events >>= next).result = (next ()).result :=
  bind_result rfl next

theorem bind_events {α β : Type} {r : Run α} {value : α} (h : r.result = .ok value)
    (next : α → Run β) : (r >>= next).events = r.events ++ (next value).events := by
  change (andThen r next).events = _
  rw [andThen, h]

theorem bind_events_error {α β : Type} {r : Run α} {failure : Failure}
    (h : r.result = .error failure) (next : α → Run β) : (r >>= next).events = r.events := by
  change (andThen r next).events = _
  rw [andThen, h]

theorem bind_result_eq_ok {α β : Type} {r : Run α} {next : α → Run β} {b : β}
    (succeeds : (r >>= next).result = .ok b) :
    ∃ a, r.result = .ok a ∧ (next a).result = .ok b ∧
      (r >>= next).events = r.events ++ (next a).events := by
  cases first : r.result with
  | error failure =>
    rw [bind_result_error first] at succeeds
    cases succeeds
  | ok a =>
    rw [bind_result first] at succeeds
    exact ⟨a, rfl, succeeds, bind_events first next⟩

@[simp]
theorem report_bind_events {β : Type} (events : List Event) (next : Unit → Run β) :
    (report events >>= next).events = events ++ (next ()).events :=
  bind_events rfl next

end Run

end JoinDiagram
