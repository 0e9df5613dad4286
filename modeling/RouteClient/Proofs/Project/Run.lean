import RouteClient.Project.Session

namespace RouteClient.Project.Run

variable {ε σ α β : Type}

theorem bind_ok {x : ExceptT ε (StateM σ) α} {f : α → ExceptT ε (StateM σ) β} {s t : σ} {a : α}
    (h : x s = (.ok a, t)) : (x >>= f) s = f a t := by
  change ExceptT.bindCont f (x s).1 (x s).2 = f a t
  rw [h]
  rfl

theorem bind_error {x : ExceptT ε (StateM σ) α} {f : α → ExceptT ε (StateM σ) β} {s t : σ} {e : ε}
    (h : x s = (.error e, t)) : (x >>= f) s = (.error e, t) := by
  change ExceptT.bindCont f (x s).1 (x s).2 = (.error e, t)
  rw [h]
  rfl

theorem bind_eq_ok {x : ExceptT ε (StateM σ) α} {f : α → ExceptT ε (StateM σ) β} {s u : σ} {b : β}
    (h : (x >>= f) s = (.ok b, u)) : ∃ a t, x s = (.ok a, t) ∧ f a t = (.ok b, u) := by
  rcases hx : x s with ⟨e | a, t⟩
  · rw [bind_error hx] at h
    cases h
  · exact ⟨a, t, rfl, (bind_ok hx).symm.trans h⟩

theorem reading_eq_ok {g : Session → Except Raised α} {s t : Session} {a : α}
    (h : reading g s = (.ok a, t)) : g s = .ok a ∧ s = t := by
  change reading.liftExcept (g s) s = (.ok a, t) at h
  cases hg : g s with
  | error r =>
    rw [hg] at h
    cases h
  | ok b =>
    rw [hg] at h
    cases h
    exact ⟨rfl, rfl⟩

/-- Whatever has been logged, the computation has the given result, and only logs. -/
def Answers (x : Run α) (s : Session) (r : Except Raised α) : Prop :=
  ∀ log, ∃ log', x { s with log } = (r, { s with log := log' })

variable {s : Session}

theorem Answers.result {x : Run α} {r : Except Raised α} (h : Answers x s r) : (x s).1 = r := by
  obtain ⟨log', h⟩ := h s.log
  exact congrArg Prod.fst h

theorem answers_pure (a : α) : Answers (pure a) s (.ok a) := fun log ↦ ⟨log, rfl⟩

theorem answers_warn (text : String) : Answers (warn text) s (.ok ()) := fun _ ↦ ⟨_, rfl⟩

theorem answers_debug (text : String) : Answers (debug text) s (.ok ()) := fun _ ↦ ⟨_, rfl⟩

theorem Answers.bind {x : Run α} {f : α → Run β} {r : Except Raised α} {k : α → Except Raised β}
    (hx : Answers x s r) (hf : ∀ a, Answers (f a) s (k a)) : Answers (x >>= f) s (r >>= k) := by
  intro log
  obtain ⟨log', hx⟩ := hx log
  cases r with
  | error e => exact ⟨log', bind_error hx⟩
  | ok a =>
    obtain ⟨log'', hf⟩ := hf a log'
    exact ⟨log'', (bind_ok hx).trans hf⟩

theorem Answers.get_bind {f : Session → Run β} {r : Except Raised β}
    (hf : ∀ log, Answers (f { s with log }) s r) : Answers (get >>= f) s r :=
  fun log ↦ hf log log

theorem answers_reading {f : Session → Except Raised α} (hf : ∀ log, f { s with log } = f s) :
    Answers (reading f) s (f s) := by
  intro log
  refine ⟨log, ?_⟩
  change (reading.liftExcept (f { s with log })) { s with log } = _
  rw [hf]
  cases f s <;> rfl

theorem answers_mapM {f : α → Run β} {k : α → β} (hf : ∀ a, Answers (f a) s (.ok (k a)))
    (xs : List α) : Answers (xs.mapM f) s (.ok (xs.map k)) := by
  induction xs with
  | nil => exact answers_pure []
  | cons a xs ih =>
    rw [List.mapM_cons]
    exact (hf a).bind (k := fun b ↦ .ok (b :: xs.map k)) fun b ↦
      ih.bind (k := fun bs ↦ .ok (b :: bs)) fun bs ↦ answers_pure (b :: bs)

def OnlyLogs (x : Run α) (s : Session) : Prop :=
  ∀ log, ∃ log', (x { s with log }).2 = { s with log := log' }

theorem onlyLogs_pure (a : α) : OnlyLogs (pure a) s := fun log ↦ ⟨log, rfl⟩

theorem Answers.onlyLogs {x : Run α} {r : Except Raised α} (h : Answers x s r) : OnlyLogs x s := by
  intro log
  obtain ⟨log', h⟩ := h log
  exact ⟨log', congrArg Prod.snd h⟩

theorem OnlyLogs.bind {x : Run α} {f : α → Run β} (hx : OnlyLogs x s) (hf : ∀ a, OnlyLogs (f a) s) :
    OnlyLogs (x >>= f) s := by
  intro log
  obtain ⟨log', hx⟩ := hx log
  rcases hr : x { s with log } with ⟨e | a, t⟩
  · rw [hr] at hx
    rw [bind_error hr]
    exact ⟨log', hx⟩
  · obtain ⟨log'', hf⟩ := hf a log'
    rw [hr] at hx
    rw [bind_ok hr]
    refine ⟨log'', ?_⟩
    rw [← hf, ← show t = { s with log := log' } from hx]

theorem OnlyLogs.get_bind {f : Session → Run β} (hf : ∀ log, OnlyLogs (f { s with log }) s) :
    OnlyLogs (get >>= f) s := fun log ↦ hf log log

end RouteClient.Project.Run
