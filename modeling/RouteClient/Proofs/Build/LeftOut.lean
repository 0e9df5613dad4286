import RouteClient.Proofs.Build.Likeness
import RouteClient.Proofs.Build.Reading
import RouteClient.Proofs.Contract.Identifiers

namespace RouteClient.Build

open RouteClient.Project Draft

inductive Deleting {α : Type} (P : α → Prop) : List α → List α → Prop
  | nil : Deleting P [] []
  | keep (a : α) {all kept : List α} (h : Deleting P all kept) : Deleting P (a :: all) (a :: kept)
  | delete {a : α} (ha : P a) {all kept : List α} (h : Deleting P all kept) :
    Deleting P (a :: all) kept

variable {s t : Session} {d d' e : Draft ClassRef} {route : Route ClassRef}
  {routes kept : List (Route ClassRef)} {endpoint : Endpoint ClassRef} {log log' : Array LogLine}

/-- The handler of a route is known without importing anything. -/
def Located (s : Session) (route : Route ClassRef) : Prop :=
  ∃ handler, Run.Answers (Contract.locateHandler route) s (.ok handler)

theorem addRoute_of_answers (d : Draft ClassRef) (log : Array LogLine)
    (h : Run.Answers (endpointOf route) s (.ok endpoint)) :
    ∃ log', addRoute d route { s with log } =
      (turnResult (d.add (graph s) (depth s) route endpoint), { s with log := log' }) := by
  obtain ⟨logged, hendpoint⟩ := h log
  obtain ⟨log', hadd⟩ := addRoute_of_ok (d := d) hendpoint
  exact ⟨log', hadd⟩

theorem answers_of_addRoute (hroute : Located s route)
    (h : addRoute d route { s with log } = (.ok e, t)) :
    ∃ endpoint, Run.Answers (endpointOf route) s (.ok endpoint) ∧
      turnResult (d.add (graph s) (depth s) route endpoint) = .ok e ∧
      ∃ log', t = { s with log := log' } := by
  obtain ⟨handler, hhandler⟩ := hroute
  have hanswers := answers_endpointOf hhandler
  cases hread : endpointRead s handler with
  | error r =>
    obtain ⟨_, hendpoint⟩ := hanswers log
    rw [hread] at hendpoint
    rw [addRoute_of_error hendpoint] at h
    cases h
  | ok endpoint =>
    rw [hread] at hanswers
    obtain ⟨log', hadd⟩ := addRoute_of_answers d log hanswers
    rw [hadd] at h
    obtain ⟨hresult, ht⟩ := Prod.mk.inj h
    exact ⟨endpoint, hanswers, hresult, log', ht.symm⟩

theorem Deleting.mono {α : Type} {P Q : α → Prop} {all kept : List α} (hPQ : ∀ a, P a → Q a)
    (h : Deleting P all kept) : Deleting Q all kept := by
  induction h with
  | nil => exact .nil
  | keep a _ ih => exact .keep a ih
  | delete ha _ ih => exact .delete (hPQ _ ha) ih

/-- The entry method of a route's contract and the constructors of all that its types lead to quote
names by themselves. -/
structure QuotesAlone (s : Session) (route : Route ClassRef) : Prop where
  entry : ∀ handler contract, Run.Answers (Contract.locateHandler route) s (.ok (some handler)) →
    Contract.find? s handler = some contract →
      ∀ entry ∈ Contract.entry? s contract, Hints.QuotesAlone s entry.annotated
  shapes : ∀ endpoint, Run.Answers (endpointOf route) s (.ok endpoint) →
    ∀ c, (graph s).Reachable endpoint.shapes c →
      Hints.QuotesAlone s (Shape.Reflect.constructorAnnotations s c)

theorem quotesAlone_of_functions
    (h : ∀ index < s.functions.size, Hints.QuotesAlone s (.function index))
    (route : Route ClassRef) : QuotesAlone s route :=
  ⟨fun _ _ _ _ entry _ ↦ Hints.quotesAlone_of_functions h entry.annotated,
    fun _ _ _ _ ↦ Hints.quotesAlone_of_functions h _⟩

def loadedLookup : Session :=
  { lookup with
    modules := #[{ name := "shop", bindings := .ofList [("Users", .cls (.declared 1))] }]
    loaded := .ofList [("shop", 0)] }

end RouteClient.Build
