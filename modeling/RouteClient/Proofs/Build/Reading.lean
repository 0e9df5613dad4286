import RouteClient.Build
import RouteClient.Proofs.Shape.Reading

namespace RouteClient.Project.Hints

variable {s : Session} {locals : String → Option Value} {r : Raised}

theorem not_isUnresolvable_of_oneByOne {annotations : List RawAnnotation} {h : Hints}
    (herror : oneByOne s locals annotations h = .error r) : ¬r.isUnresolvable := by
  induction annotations generalizing h with
  | nil => cases herror
  | cons a annotations ih =>
    unfold oneByOne at herror
    split at herror
    · exact ih herror
    · split at herror
      · exact ih herror
      · next hr =>
        cases herror
        exact hr

theorem not_isUnresolvable_of_error {target : Annotated}
    (herror : ofAnnotated s target locals = .error r) : ¬r.isUnresolvable := by
  unfold ofAnnotated at herror
  split at herror
  · cases herror
  · split at herror
    · exact not_isUnresolvable_of_oneByOne herror
    · next hr =>
      cases herror
      exact hr

end RouteClient.Project.Hints

namespace RouteClient.Contract

open RouteClient.Project

variable (s : Session)

def entryRead (entry : Entry) : Except Raised (Option ContractTypes) :=
  match entry.signature.parameters.drop (if entry.skipsFirst then 1 else 0) with
  | [] => .ok none
  | first :: _ => do
    let hints ← Hints.ofAnnotated s entry.annotated fun _ ↦ none
    if hints.unresolved.contains first.name || hints.unresolved.contains "return" then .ok none
    else
      let request := (hints.types.get? first.name).getD (first.hint.getD .unannotated)
      let response := (hints.types.get? "return").getD (entry.signature.returns.getD .unannotated)
      if request == .unannotated || response == .unannotated then .ok none
      else .ok (some ⟨request, response⟩)

def typesRead (contract : ClassRef) : Except Raised (Option ContractTypes) :=
  match entry? s contract with
  | none => .ok none
  | some entry => entryRead s entry

variable {s}

theorem typesRead_congr {t : Session} (h : s.known = t.known) : typesRead s = typesRead t := by
  suffices ∀ u : Session, typesRead u.known = typesRead u by rw [← this s, h, this t]
  intro u
  have hentry : entryRead u.known = entryRead u := by
    funext entry
    simp only [entryRead, Hints.ofAnnotated_congr (s := u.known) (t := u) rfl]
  funext contract
  unfold typesRead
  rw [hentry]
  rfl

theorem answers_typesOfEntry (shown : String) (entry : Entry) :
    Run.Answers (typesOfEntry shown entry) s (entryRead s entry) := by
  unfold typesOfEntry entryRead
  dsimp only
  generalize entry.signature.parameters.drop (if entry.skipsFirst then 1 else 0) = parameters
  cases parameters with
  | nil => exact Run.answers_pure none
  | cons first rest =>
    refine (Shape.Reflect.answers_hintsOf _ _ _).bind fun hints ↦ ?_
    split
    · exact (Run.answers_warn _).bind fun _ ↦ Run.answers_pure none
    · split
      · exact Run.answers_pure none
      · exact Run.answers_pure _

theorem answers_types (contract : ClassRef) :
    Run.Answers (types contract) s (typesRead s contract) := by
  refine .get_bind fun log ↦ ?_
  change Run.Answers (match entry? s contract with | none => _ | some entry => _) s _
  unfold typesRead
  split
  · exact Run.answers_pure none
  · exact answers_typesOfEntry _ _

/-- An annotation that is merely unresolved costs a contract its types and does no more. -/
theorem not_isUnresolvable_of_typesRead {contract : ClassRef} {r : Raised}
    (h : typesRead s contract = .error r) : ¬r.isUnresolvable := by
  unfold typesRead at h
  split at h
  · cases h
  · next entry _ =>
    unfold entryRead at h
    split at h
    · cases h
    · rcases hhints : Hints.ofAnnotated s entry.annotated fun _ ↦ none with r' | hints
      · rw [hhints] at h
        cases h
        exact Hints.not_isUnresolvable_of_error hhints
      · rw [hhints] at h
        simp only [bind, Except.bind] at h
        split at h
        · cases h
        · split at h <;> cases h

end RouteClient.Contract

namespace RouteClient.Build

open RouteClient.Project

variable (s : Session)

def endpointRead (handler : Option ClassRef) : Except Raised (Endpoint ClassRef) :=
  match handler.bind (Contract.find? s) with
  | none => .ok (.skipped "No contract found")
  | some contract => do
    match ← Contract.typesRead s contract with
    | none => .ok (.skipped "Could not extract types from contract")
    | some types =>
      .ok (.typed (Shape.Describe.field s "" types.request false)
        (Shape.Describe.field s "" types.response false))

variable {s} {t : Session} {route : Route ClassRef} {handler : Option ClassRef}

theorem endpointRead_congr (h : s.known = t.known) : endpointRead s = endpointRead t := by
  suffices ∀ u : Session, endpointRead u.known = endpointRead u by rw [← this s, h, this t]
  intro u
  funext handler
  simp only [endpointRead, Contract.typesRead_congr (s := u.known) (t := u) rfl,
    Shape.Describe.field_congr (s := u.known) (t := u) rfl]
  rfl

theorem endpointOf_eq_bind (route : Route ClassRef) :
    ∃ ask, endpointOf route = Contract.locateHandler route >>= ask ∧
      ∀ handler s, Run.Answers (ask handler) s (endpointRead s handler) := by
  refine ⟨_, rfl, fun handler s ↦ .get_bind fun log ↦ ?_⟩
  change Run.Answers (match handler.bind (Contract.find? s) with | none => _ | some contract => _) s _
  unfold endpointRead
  split
  · exact Run.answers_pure _
  · refine (Contract.answers_types _).bind fun types ↦ ?_
    split
    · exact Run.answers_pure _
    · exact .get_bind fun log ↦ Run.answers_pure _

theorem answers_endpointOf (h : Run.Answers (Contract.locateHandler route) s (.ok handler)) :
    Run.Answers (endpointOf route) s (endpointRead s handler) := by
  obtain ⟨ask, hask, hanswers⟩ := endpointOf_eq_bind route
  rw [hask]
  exact h.bind (k := fun handler ↦ endpointRead s handler) fun handler ↦ hanswers handler s

theorem endpointOf_of_located (h : Contract.locateHandler route s = (.ok handler, t)) :
    ∃ log, endpointOf route s = (endpointRead t handler, { t with log }) := by
  obtain ⟨ask, hask, hanswers⟩ := endpointOf_eq_bind route
  rw [hask, Run.bind_ok h]
  exact hanswers handler t t.log

theorem endpointOf_of_error {r : Raised} (h : Contract.locateHandler route s = (.error r, t)) :
    endpointOf route s = (.error r, t) := Run.bind_error h

end RouteClient.Build
