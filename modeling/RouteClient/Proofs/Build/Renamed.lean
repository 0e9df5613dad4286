import RouteClient.Client.Render
import RouteClient.Proofs.Build.Asked
import RouteClient.Proofs.Build.InterfaceNames
import RouteClient.Proofs.Renaming.Shapes
import RouteClient.Proofs.Renaming.Steady
import Mathlib.Logic.Equiv.Basic

namespace RouteClient.Client.Render

/-- Full names do not occur in the text. -/
theorem clientText_congr {π : Relabelling} {client client' : Client}
    (hinterfaces : List.Forall₂ (Interfaces.DeclaredUnder π) client.interfaces client'.interfaces)
    (hbindings : client.bindings = client'.bindings) : clientText client = clientText client' := by
  have htext : ∀ i j, Interfaces.DeclaredUnder π i j → interfaceText i = interfaceText j := by
    intro i j hi
    unfold interfaceText
    rw [hi.name, hi.properties]
  have htexts : client.interfaces.map interfaceText = client'.interfaces.map interfaceText := by
    rw [← List.forall₂_eq_eq_eq]
    exact List.rel_map htext hinterfaces
  unfold clientText
  rw [htexts, hbindings]

end RouteClient.Client.Render

namespace RouteClient.Contract

open RouteClient.Project Renaming

variable {ρ : Renaming} {s s' : Session}

theorem follow_takes (h : ρ.TakesSession s s') {v w : Value} (hv : ρ.Takes v w) {names : List String}
    (hnames : ∀ n ∈ names, ¬ρ.hidden n) :
    Option.Rel ρ.Takes (follow s v names) (follow s' w names) := by
  induction names generalizing v w with
  | nil => exact .some hv
  | cons name names ih =>
    rw [List.forall_mem_cons] at hnames
    have hfound := Attribute.get_takes h hv hnames.1
    unfold follow
    generalize Attribute.get s v name = x, Attribute.get s' w name = y at hfound
    cases hfound with
    | error _ => exact .none
    | @ok v w hv =>
      have hnext := ih hv hnames.2
      cases hv with
      | @scalar x hx =>
        cases x with
        | none => exact .none
        | _ => exact hnext
      | _ => exact hnext

theorem class?_takes {x y : Option Value} (h : Option.Rel ρ.Takes x y) :
    Option.Rel ρ.TakesRef (x.bind class?) (y.bind class?) := by
  refine rel_bind h fun v w hv ↦ ?_
  cases hv with
  | cls hc => exact .some hc
  | _ => exact .none

end RouteClient.Contract

namespace RouteClient.Build

open RouteClient.Project RouteClient.Shape Renaming ShapeGraph Draft

variable {ρ : Renaming} {π : Relabelling} {name : String → String} {s s' t t' : Session}
  {d e : Draft ClassRef}
  {route route' : Route ClassRef} {routes routes' : List (Route ClassRef)} {R : ClassRef → Prop}

theorem fieldAlike_takes (h : ρ.TakesSession s s') {f f' : Shape.Field ClassRef}
    (hfield : ρ.TakesField f f') (hf : ∀ c, f.nested = some c → (graph s).isShape c → R c) :
    FieldAlike (graph s) (graph s')
      (fun c d ↦ ρ.TakesRef c d ∧ ((graph s).isShape c → R c)) f f' := by
  obtain ⟨hothers, hnested⟩ := hfield
  constructor
  case property =>
    have hnames : f.nested.map (graph s).name = f'.nested.map (graph s').name :=
      map_congr_of_rel hnested fun _ _ hc ↦ Attribute.name_takes h hc
    have htype : ∀ (t : Session) (g : Shape.Field ClassRef), Client.TypeText.ofField (graph t).name g =
        Client.TypeText.ofField id { g with nested := g.nested.map (graph t).name } := by
      intro t g
      unfold Client.TypeText.ofField
      cases g.nested <;> rfl
    unfold Interfaces.propertyOf
    rw [htype, htype, ← hnames, hothers]
  case nested =>
    generalize f.nested = x, f'.nested = y at hnested hf
    cases hnested with
    | none => exact .none
    | some hc => exact .some ⟨hc, hf _ rfl⟩

/-- Every class corresponds to the one that it is compared with. -/
theorem corresponds_takes (h : ρ.TakesSession s s') (hstandard : ρ.KeepsStandard s)
    (hlabel : ∀ c d, ρ.TakesRef c d → R c → π.label (Attribute.id s c) (Attribute.id s' d))
    (hraised : ∀ r r', r.kind = r'.kind → π.raised r r')
    (hstep : ∀ c d, R c → (graph s).LeadsTo c d → R d) :
    CorrespondsUnder π (graph s) (graph s') fun c d ↦
      ρ.TakesRef c d ∧ ((graph s).isShape c → R c) := by
  constructor
  case id => exact fun c d hc hshape ↦ hlabel c d hc.1 (hc.2 hshape)
  case name => exact fun c d hc ↦ Attribute.name_takes h hc.1
  case isShape => exact fun c d hc ↦ Describe.isShapeClass_takes h hstandard hc.1
  case fields =>
    intro c d hc hshape
    have hread := Reflect.read_takes h hstandard hc.1
    rw [← reflect_graph, ← reflect_graph] at hread
    cases hfields : ((graph s).reflect c).fields with
    | error r =>
      rw [hfields] at hread
      generalize ((graph s').reflect d).fields = fields' at hread
      cases hread with | error hkin
      exact .error (hraised _ _ hkin.kind)
    | ok fields =>
      rw [hfields] at hread
      generalize ((graph s').reflect d).fields = fields' at hread
      cases hread with | ok hfield
      have hreached : ∀ f ∈ fields, ∀ e, f.nested = some e → (graph s).isShape e → R e := by
        intro f hf e hnested he
        rw [← fieldsOf_of_ok hfields] at hf
        exact hstep c e (hc.2 hshape) ⟨he, f, hf, hnested⟩
      refine .ok (List.forall₂_iff_get.2 ⟨hfield.length_eq, fun i hi hi' ↦ ?_⟩)
      exact fieldAlike_takes h (hfield.get hi hi') (hreached _ (List.get_mem _ _))

theorem leadsTo_takes (h : ρ.TakesSession s s') (hstandard : ρ.KeepsStandard s)
    (hlevel : ρ.IsLevel) : (graph s).LeadsTo = (graph s').LeadsTo := by
  have hshape : (graph s).isShape = (graph s').isShape :=
    funext fun c ↦ Describe.isShapeClass_takes h hstandard (hlevel.takesRef c)
  have hfields : (graph s).fieldsOf = (graph s').fieldsOf := by
    funext c
    have hread := Reflect.read_takes h hstandard (hlevel.takesRef c)
    rw [← reflect_graph, ← reflect_graph] at hread
    unfold fieldsOf
    generalize ((graph s).reflect c).fields = x, ((graph s').reflect c).fields = y at hread
    cases hread with
    | error _ => rfl
    | ok hfield =>
      rw [← List.forall₂_eq_eq_eq]
      exact hfield.imp fun _ _ ↦ hlevel.eq_of_takesField
  funext c d
  simp only [LeadsTo, hshape, hfields]

theorem reachable_takes (h : ρ.TakesSession s s') (hstandard : ρ.KeepsStandard s)
    (hlevel : ρ.IsLevel) : (graph s).Reachable = (graph s').Reachable := by
  have hshape : (graph s).isShape = (graph s').isShape :=
    funext fun c ↦ Describe.isShapeClass_takes h hstandard (hlevel.takesRef c)
  funext roots c
  simp only [Reachable, Reaches, hshape, leadsTo_takes h hstandard hlevel]

def shapesOf (s : Session) (handler : Option ClassRef) : List ClassRef :=
  match endpointRead s handler with
  | .ok endpoint => endpoint.shapes
  | .error _ => []

/-- Two builds have their turns side by side. Locating a handler, whatever it imports, gives the same
class in both and leaves the second session as the first one renamed; no class changes sides between
standard and not; and full names keep apart what they kept apart, the one becoming the other. -/
inductive TurnsTake (name : String → String) (label : String → String → Prop) :
    List (Route ClassRef) → Draft ClassRef → Session → List (Route ClassRef) → Draft ClassRef →
      Session → Prop
  | nil (d e : Draft ClassRef) (s s' : Session) : TurnsTake name label [] d s [] e s'
  | raised {route route' : Route ClassRef} {routes routes' : List (Route ClassRef)}
      {d e : Draft ClassRef} {s s' t t' : Session} {r r' : Raised}
      (hlocated : Contract.locateHandler route s = (.error r, t))
      (hlocated' : Contract.locateHandler route' s' = (.error r', t')) (hkind : r.kind = r'.kind) :
    TurnsTake name label (route :: routes) d s (route' :: routes') e s'
  | located {ρ : Renaming} {route route' : Route ClassRef} {routes routes' : List (Route ClassRef)}
      {d e : Draft ClassRef} {s s' t t' : Session} {handler handler' : Option ClassRef}
      (hname : ρ.name = name) (hmethod : route.method = route'.method) (hpath : route.path = route'.path)
      (hlocated : Contract.locateHandler route s = (.ok handler, t))
      (hlocated' : Contract.locateHandler route' s' = (.ok handler', t'))
      (hhandler : Option.Rel ρ.TakesRef handler handler') (hsession : ρ.TakesSession t t')
      (hstandard : ρ.KeepsStandard t)
      (hlabel : ∀ c c', ρ.TakesRef c c' → (graph t).Reachable (shapesOf t handler) c →
        label (Attribute.id t c) (Attribute.id t' c'))
      (hrest : ∀ d' e' u u', addRoute d route s = (.ok d', u) → addRoute e route' s' = (.ok e', u') →
        TurnsTake name label routes d' u routes' e' u') :
    TurnsTake name label (route :: routes) d s (route' :: routes') e s'

def relabelling (label : String → String → Prop)
    (hunique : ∀ {a b a' b' : String}, label a b → label a' b' → (a = a' ↔ b = b')) : Relabelling :=
  ⟨label, fun r r' ↦ r.kind = r'.kind, hunique⟩

section

variable {label : String → String → Prop}
  (hunique : ∀ {a b a' b' : String}, label a b → label a' b' → (a = a' ↔ b = b'))

theorem endpointAlike_takes {endpoint endpoint' : Endpoint ClassRef} (h : ρ.TakesSession t t')
    (hstandard : ρ.KeepsStandard t) (hendpoint : TakesEndpoint ρ endpoint endpoint')
    (hlabel : ∀ c d, ρ.TakesRef c d → (graph t).Reachable endpoint.shapes c →
      label (Attribute.id t c) (Attribute.id t' d)) :
    EndpointAlikeUnder (relabelling label hunique) (graph t) (graph t') endpoint endpoint' := by
  cases hendpoint with
  | skipped reason => exact .skipped reason reason
  | typed hrequest hresponse =>
    refine .typed (corresponds_takes h hstandard hlabel (fun _ _ hkind ↦ hkind)
      fun _ _ ↦ Reachable.step) (fieldAlike_takes h hrequest fun c hc ↦ ?_)
        (fieldAlike_takes h hresponse fun c hc ↦ ?_)
    · exact Reachable.root (List.mem_append_left _ (Option.mem_toList.2 hc))
    · exact Reachable.root (List.mem_append_right _ (Option.mem_toList.2 hc))

/-- Two drafts alike that have got the same routes as skipped since two others. -/
structure GrownAlike (π : Relabelling) (pairs : List (Route ClassRef × Route ClassRef))
    (d e d' e' : Draft ClassRef) : Prop where
  alike : AlikeUnder π d' e'
  skipped : ∃ left ⊆ pairs,
    d'.skipped = d.skipped ++ left.map (·.1) ∧ e'.skipped = e.skipped ++ left.map (·.2)

theorem GrownAlike.turnResult {pairs : List (Route ClassRef × Route ClassRef)}
    {d' e' : Draft ClassRef} (h : GrownAlike π pairs d e d' e') :
    Outcomes π.raised (GrownAlike π pairs d e) (turnResult d') (turnResult e') := by
  have hfailure := h.alike.interfaces.failure
  have hflushed : AlikeUnder π (flushed d') (flushed e') :=
    h.alike.congr (alike_flushed d') (alike_flushed e')
  unfold Build.turnResult
  generalize d'.interfaces.failure = r, e'.interfaces.failure = r' at hfailure
  cases hfailure with
  | none => exact .ok ⟨hflushed, h.skipped⟩
  | some hr => exact .error hr

theorem GrownAlike.trans {pairs more : List (Route ClassRef × Route ClassRef)}
    {d₁ e₁ d₂ e₂ : Draft ClassRef} (h : GrownAlike π pairs d e d₁ e₁)
    (h' : GrownAlike π more d₁ e₁ d₂ e₂) : GrownAlike π (pairs ++ more) d e d₂ e₂ := by
  obtain ⟨left, hleft, hd, he⟩ := h.skipped
  obtain ⟨left', hleft', hd', he'⟩ := h'.skipped
  refine ⟨h'.alike, left ++ left', ?_, ?_, ?_⟩
  · exact List.append_subset.2 ⟨List.subset_append_of_subset_left _ hleft,
      List.subset_append_of_subset_right _ hleft'⟩
  · rw [hd', hd, List.map_append, List.append_assoc]
  · rw [he', he, List.map_append, List.append_assoc]

theorem grownAlike_add {u u' : Session} {endpoint endpoint' : Endpoint ClassRef}
    (hd : AlikeUnder π d e) (hmethod : route.method = route'.method) (hpath : route.path = route'.path)
    (h : EndpointAlikeUnder π (graph u) (graph u') endpoint endpoint') :
    GrownAlike π [(route, route')] d e (d.add (graph u) (depth u) route endpoint)
      (e.add (graph u') (depth u') route' endpoint') := by
  refine ⟨added_alikeUnder hd hmethod hpath h, ?_⟩
  rw [skipped_add, skipped_add]
  cases h with
  | skipped => exact ⟨[(route, route')], List.Subset.refl _, rfl, rfl⟩
  | typed => exact ⟨[], List.nil_subset _, rfl, rfl⟩

theorem grownAlike_of_turnsTake (h : TurnsTake name label routes d s routes' e s')
    (hd : AlikeUnder (relabelling label hunique) d e) :
    SameKind (GrownAlike (relabelling label hunique) (routes.zip routes') d e)
      (routes.foldlM addRoute d s).1 (routes'.foldlM addRoute e s').1 := by
  induction h with
  | nil => exact .ok ⟨hd, [], List.nil_subset _, by simp, by simp⟩
  | raised hlocated hlocated' hkind =>
    rw [List.foldlM_cons, List.foldlM_cons,
      Run.bind_error (addRoute_of_error (endpointOf_of_error hlocated)),
      Run.bind_error (addRoute_of_error (endpointOf_of_error hlocated'))]
    exact .error hkind
  | @located ρ route route' routes routes' d e s s' t t' handler handler' hname hmethod hpath hlocated
      hlocated' hhandler hsession hstandard hlabel _ ih =>
    obtain ⟨log, hendpoint⟩ := endpointOf_of_located hlocated
    obtain ⟨log', hendpoint'⟩ := endpointOf_of_located hlocated'
    have hsame := endpointRead_takes hsession hstandard hhandler
    rw [List.foldlM_cons, List.foldlM_cons]
    cases hread : endpointRead t handler <;> cases hread' : endpointRead t' handler' <;>
      rw [hread, hread'] at hsame <;> cases hsame
    case error.error hkin =>
      rw [hread] at hendpoint
      rw [hread'] at hendpoint'
      rw [Run.bind_error (addRoute_of_error hendpoint),
        Run.bind_error (addRoute_of_error hendpoint')]
      exact .error hkin.kind
    case ok.ok endpoint endpoint' hsame =>
      have hshapes : shapesOf t handler = endpoint.shapes := by
        unfold shapesOf
        rw [hread]
      rw [hshapes] at hlabel
      rw [hread] at hendpoint
      rw [hread'] at hendpoint'
      obtain ⟨after, hadd⟩ := addRoute_of_ok (d := d) hendpoint
      obtain ⟨after', hadd'⟩ := addRoute_of_ok (d := e) hendpoint'
      have halike := endpointAlike_takes hunique hsession hstandard hsame hlabel
      have hadded : GrownAlike (relabelling label hunique) [(route, route')] d e
          (d.add (graph { t with log }) (depth { t with log }) route endpoint)
          (e.add (graph { t' with log := log' }) (depth { t' with log := log' }) route' endpoint') :=
        grownAlike_add hd hmethod hpath halike
      have hresult := hadded.turnResult
      generalize turnResult _ = added, turnResult _ = added' at hadd hadd' hresult
      cases hresult with
      | error hkind =>
        rw [Run.bind_error hadd, Run.bind_error hadd']
        exact .error hkind
      | ok hnext =>
        rw [Run.bind_ok hadd, Run.bind_ok hadd']
        exact (ih _ _ _ _ hadd hadd' hnext.alike).mono fun _ _ ↦ hnext.trans

end

structure LocatedAlike (s s' : Session) (route route' : Route ClassRef) : Prop where
  method : route.method = route'.method
  path : route.path = route'.path
  handler : ∃ handler, Run.Answers (Contract.locateHandler route) s (.ok handler) ∧
    Run.Answers (Contract.locateHandler route') s' (.ok handler)

/-- A route whose identifier has the new name of its handler's module. -/
theorem locatedAlike_of_loaded (h : ρ.TakesSession s s') (hall : ρ.IsTotal)
    {moduleName handler handler' : String}
    {names : List String} {index : Nat} (method path : String)
    (hsplit : Contract.splitIdentifier handler = some (moduleName, names))
    (hsplit' : Contract.splitIdentifier handler' = some (ρ.name moduleName, names))
    (hname : moduleName.startsWith "." = false) (hname' : (ρ.name moduleName).startsWith "." = false)
    (hloaded : s.loaded.get? moduleName = some index) (hnames : ∀ n ∈ names, ¬ρ.hidden n) :
    LocatedAlike s s' ⟨method, path, handler, none⟩ ⟨method, path, handler', none⟩ := by
  have hclass : (Contract.follow s (.module index) names).bind Contract.class? =
      (Contract.follow s' (.module index) names).bind Contract.class? :=
    hall.eq_of_rel (Contract.class?_takes (Contract.follow_takes h (.module (hall.modules index)) hnames))
  have hloaded' : s'.loaded.get? (ρ.name moduleName) = some index := by
    have hrel := h.loaded moduleName (hall.homes moduleName)
    rw [hloaded] at hrel
    generalize s'.loaded.get? (ρ.name moduleName) = x at hrel
    cases hrel with | some hindex
    rw [eq_of_level ρ.modulesUnique hall.modules hindex]
  refine ⟨rfl, rfl, _, Contract.answers_loadHandler hsplit hname hloaded, ?_⟩
  rw [hclass]
  exact Contract.answers_loadHandler hsplit' hname' hloaded'

theorem locatedAlike_of_reference (method path handler handler' : String) (c : ClassRef) :
    LocatedAlike s s' ⟨method, path, handler, some c⟩ ⟨method, path, handler', some c⟩ :=
  ⟨rfl, rfl, some c, Run.answers_pure (some c), Run.answers_pure (some c)⟩

def LabelOf (s s' : Session) (roots : List ClassRef) (a b : String) : Prop :=
  ∃ c, (graph s).Reachable roots c ∧ a = Attribute.id s c ∧ b = Attribute.id s' c

theorem labelOf_unique (h : ρ.TakesSession s s') (hstandard : ρ.KeepsStandard s)
    (hlevel : ρ.IsLevel) {roots : List ClassRef} (hids : (graph s).DistinctIds roots)
    (hids' : (graph s').DistinctIds roots) {a b a' b' : String}
    (hab : LabelOf s s' roots a b) (hab' : LabelOf s s' roots a' b') : a = a' ↔ b = b' := by
  obtain ⟨c, hc, rfl, rfl⟩ := hab
  obtain ⟨d, hd, rfl, rfl⟩ := hab'
  have hreachable := congrFun (reachable_takes h hstandard hlevel) roots
  constructor
  · intro hid
    rw [hids c d hc hd hid]
  · intro hid
    rw [hreachable] at hc hd
    rw [hids' c d hc hd hid]

def shapesAt (s : Session) (route : Route ClassRef) : List ClassRef :=
  match (Contract.locateHandler route s).1 with
  | .ok handler => shapesOf s handler
  | .error _ => []

/-- Where nothing is imported, all turns are of one session. -/
theorem turnsTake_of_located (h : ρ.TakesSession s s') (hstandard : ρ.KeepsStandard s)
    (hall : ρ.IsTotal)
    (hroutes : List.Forall₂ (LocatedAlike s s') routes routes') {roots : List ClassRef}
    (hroots : routes.flatMap (shapesAt s) ⊆ roots) (d e : Draft ClassRef) (log log' : Array LogLine) :
    TurnsTake ρ.name (LabelOf s s' roots) routes d { s with log } routes' e { s' with log := log' } := by
  induction hroutes generalizing d e log log' with
  | nil => exact .nil _ _ _ _
  | @cons route _ _ _ hroute _ ih =>
    rw [List.flatMap_cons, List.append_subset] at hroots
    obtain ⟨handler, hlocated, hlocated'⟩ := hroute.handler
    obtain ⟨after, hlocate⟩ := hlocated log
    obtain ⟨after', hlocate'⟩ := hlocated' log'
    refine .located rfl hroute.method hroute.path hlocate hlocate'
      (rel_refl_of_forall fun c _ ↦ hall.takesRef c) ⟨h.classes, h.functions, h.modules, h.loaded⟩
      hstandard (fun c c' hcc hc ↦ ⟨c, ?_, rfl, hall.eq_of_takesRef hcc ▸ rfl⟩)
      fun d' e' u u' hadd hadd' ↦ ?_
    · have hshapes : shapesOf { s with log := after } handler = shapesAt s route := by
        obtain ⟨_, hasked⟩ := hlocated s.log
        unfold shapesAt shapesOf
        rw [endpointRead_congr (Session.known_log s after),
          show Contract.locateHandler route s = _ from hasked]
      rw [hshapes] at hc
      exact hc.mono hroots.1
    · obtain ⟨_, hu⟩ := session_of_addRoute hlocate d
      obtain ⟨_, hu'⟩ := session_of_addRoute hlocate' e
      rw [hadd] at hu
      rw [hadd'] at hu'
      rw [show u = _ from hu, show u' = _ from hu']
      exact ih hroots.2 d' e' _ _

theorem alikeUnder_empty (π : Relabelling) : AlikeUnder π ({} : Draft ClassRef) {} :=
  ⟨⟨.nil, .nil, .none⟩, rfl, rfl⟩

theorem clientText_of_alikeUnder (h : AlikeUnder π d e) :
    Client.Render.clientText d.client = Client.Render.clientText e.client :=
  Client.Render.clientText_congr h.interfaces.declared h.bindings

/-- The text of the client is the same after modules have been renamed, or both builds end with an
exception of one kind. -/
theorem client_text_of_renamed {label : String → String → Prop}
    (hunique : ∀ {a b a' b' : String}, label a b → label a' b' → (a = a' ↔ b = b'))
    (h : TurnsTake name label routes {} s routes' {} s') :
    SameKind (fun d d' ↦ Client.Render.clientText d.client = Client.Render.clientText d'.client)
      (ofRoutes routes s).1 (ofRoutes routes' s').1 :=
  (grownAlike_of_turnsTake hunique h (alikeUnder_empty _)).mono fun _ _ hd ↦
    clientText_of_alikeUnder hd.alike

def swapped (a b : String) (ha : a ∉ Prelude.modules.map (·.1))
    (hb : b ∉ Prelude.modules.map (·.1)) : Renaming where
  name := Equiv.swap a b
  injective := (Equiv.swap a b).injective
  kept := fun m hm ↦
    have hname : m.1 ∈ Prelude.modules.map (·.1) := List.mem_map_of_mem hm
    Equiv.swap_apply_of_ne_of_ne (fun h ↦ ha (h ▸ hname)) fun h ↦ hb (h ▸ hname)
  hidden := (· ∈ ["__name__", "__qualname__", "__module__"])
  hides := fun _ ↦ id
  classes := Eq
  functions := Eq
  modules := Eq
  classesUnique := biUnique_eq
  functionsUnique := biUnique_eq
  modulesUnique := biUnique_eq
  homes := fun _ ↦ True
  prelude := fun _ _ ↦ trivial

theorem isTotal_swapped {a b : String} (ha : a ∉ Prelude.modules.map (·.1))
    (hb : b ∉ Prelude.modules.map (·.1)) : (swapped a b ha hb).IsTotal :=
  ⟨⟨fun _ ↦ rfl, fun _ ↦ rfl, fun _ ↦ rfl⟩, fun _ ↦ trivial⟩

def toKiosk : Renaming := swapped "shop" "kiosk" (by decide) (by decide)

def toProfile : Renaming := swapped "shop" "profile" (by decide) (by decide)

def loadedSale : Session :=
  { sale with
    modules := #[{ name := "shop", bindings := .ofList [("Trader", .cls (.declared 1))] }]
    loaded := .ofList [("shop", 0)] }

def traderRoutes (moduleName : String) : List (Route ClassRef) :=
  [⟨"POST", "/trade", moduleName ++ "." ++ "Trader", none⟩,
    ⟨"PUT", "/trade/{id}", moduleName ++ "." ++ "Trader", some (.declared 1)⟩]

def sessionsOfSale : List Session :=
  [loadedSale, loadedSale.renamed toKiosk.name, loadedSale.renamed toProfile.name]

theorem evaluated_sale :
    loadedSale.isSteady ∧
      (traderRoutes "shop").flatMap (shapesAt loadedSale) ⊆ [shopItem, basket] ∧
      (∀ s ∈ sessionsOfSale, (∀ c ∈ [shopItem, basket], nestedShapes s c ⊆ [shopItem, basket]) ∧
        ([shopItem, basket].map (graph s).id).Nodup) ∧
      (∀ r ∈ loadedSale.classes.toList, Standard.isStandardModule (toKiosk.name r.moduleName) =
        Standard.isStandardModule r.moduleName) ∧
      ∀ name ∈ ["shop", "kiosk", "profile", "Trader"],
        Contract.Plain name ∧ name.startsWith "." = false := by
  decide +kernel

theorem takesSession_loadedSale {ρ : Renaming} (hρ : ρ.IsTotal) :
    ρ.TakesSession loadedSale (loadedSale.renamed ρ.name) :=
  takesSession_renamed hρ evaluated_sale.1

theorem distinctIds_sale {s : Session} (hs : s ∈ sessionsOfSale) :
    (graph s).DistinctIds [shopItem, basket] := by
  obtain ⟨_, _, hsessions, _⟩ := evaluated_sale
  obtain ⟨hclosed, hids⟩ := hsessions s hs
  exact distinctIds_of_closed (List.Subset.refl _) hclosed hids

theorem keepsStandard_kiosk : toKiosk.KeepsStandard loadedSale := by
  obtain ⟨_, _, _, hmodules, _⟩ := evaluated_sale
  exact fun index r hr ↦ hmodules r (Array.mem_toList_iff.2 (Array.mem_of_getElem? hr))

theorem locatedAlike_trader {ρ : Renaming} {name : String} (hall : ρ.IsTotal)
    (hρ : ρ.name "shop" = name)
    (hname : name ∈ ["shop", "kiosk", "profile", "Trader"])
    (hhidden : ¬ρ.hidden "Trader") :
    List.Forall₂ (LocatedAlike loadedSale (loadedSale.renamed ρ.name)) (traderRoutes "shop")
      (traderRoutes name) := by
  subst hρ
  obtain ⟨_, _, _, _, hplain⟩ := evaluated_sale
  obtain ⟨hshop, hshopDot⟩ := hplain "shop" (by simp)
  obtain ⟨hmodule, hmoduleDot⟩ := hplain _ hname
  obtain ⟨htrader, _⟩ := hplain "Trader" (by simp)
  have hdot : '.' ∉ "Trader".toList := by decide
  have hloaded : loadedSale.loaded.get? "shop" = some 0 := rfl
  have hnames : ∀ n ∈ ["Trader"], ¬ρ.hidden n := by simpa using hhidden
  refine .cons (locatedAlike_of_loaded (takesSession_loadedSale hall) hall "POST" "/trade"
    (Contract.splitIdentifier_dotted hshop htrader hdot)
    (Contract.splitIdentifier_dotted hmodule htrader hdot) hshopDot hmoduleDot hloaded hnames)
    (.cons ?_ .nil)
  exact locatedAlike_of_reference "PUT" "/trade/{id}" _ _ (.declared 1)

theorem locatedAlike_kiosk :
    List.Forall₂ (LocatedAlike loadedSale (loadedSale.renamed toKiosk.name)) (traderRoutes "shop")
      (traderRoutes "kiosk") :=
  locatedAlike_trader (isTotal_swapped _ _) (by decide) (by decide)
    (show "Trader" ∉ ["__name__", "__qualname__", "__module__"] by decide)

theorem locatedAlike_profile :
    List.Forall₂ (LocatedAlike loadedSale (loadedSale.renamed toProfile.name)) (traderRoutes "shop")
      (traderRoutes "profile") :=
  locatedAlike_trader (isTotal_swapped _ _) (by decide) (by decide)
    (show "Trader" ∉ ["__name__", "__qualname__", "__module__"] by decide)

theorem client_text_of_renamed_kiosk :
    TurnsTake toKiosk.name
        (LabelOf loadedSale (loadedSale.renamed toKiosk.name) [shopItem, basket])
        (traderRoutes "shop") {} loadedSale (traderRoutes "kiosk") {}
        (loadedSale.renamed toKiosk.name) ∧
      SameKind (fun d d' ↦ Client.Render.clientText d.client = Client.Render.clientText d'.client)
        (ofRoutes (traderRoutes "shop") loadedSale).1
        (ofRoutes (traderRoutes "kiosk") (loadedSale.renamed toKiosk.name)).1 := by
  have hall : toKiosk.IsTotal := isTotal_swapped _ _
  have hsession := takesSession_loadedSale hall
  obtain ⟨_, hroots, _⟩ := evaluated_sale
  have hturns := turnsTake_of_located hsession keepsStandard_kiosk hall locatedAlike_kiosk hroots
    {} {} loadedSale.log (loadedSale.renamed toKiosk.name).log
  refine ⟨hturns, client_text_of_renamed
    (labelOf_unique hsession keepsStandard_kiosk hall.toIsLevel ?_ ?_) hturns⟩
  · exact distinctIds_sale List.mem_cons_self
  · exact distinctIds_sale (List.mem_cons_of_mem _ List.mem_cons_self)

def textOf (routes : List (Route ClassRef)) (s : Session) : Option String :=
  (ofRoutes routes s).1.toOption.map fun d ↦ Client.Render.clientText d.client

/-- Under the name of a standard module the classes of a project count as standard. -/
theorem client_text_of_standard_name :
    toProfile.TakesSession loadedSale (loadedSale.renamed toProfile.name) ∧
      List.Forall₂ (LocatedAlike loadedSale (loadedSale.renamed toProfile.name))
        (traderRoutes "shop") (traderRoutes "profile") ∧
      (∀ s ∈ sessionsOfSale, (graph s).DistinctIds [shopItem, basket]) ∧
      (ofRoutes (traderRoutes "shop") loadedSale).1.toOption.map
          (fun d ↦ (d.client.interfaces.map (·.sourceId), d.client.bindings.map (·.name))) =
        some (["shop.Item", "shop.Basket"], ["postTrade", "putTrade"]) ∧
      (ofRoutes (traderRoutes "profile") (loadedSale.renamed toProfile.name)).1.toOption.map
          (fun d ↦ (d.client, d.skipped.map (·.handler))) =
        some ({}, ["profile.Trader", "profile.Trader"]) ∧
      textOf (traderRoutes "shop") loadedSale ≠
        textOf (traderRoutes "profile") (loadedSale.renamed toProfile.name) := by
  refine ⟨takesSession_loadedSale (isTotal_swapped _ _), locatedAlike_profile, fun s ↦ distinctIds_sale, ?_⟩
  decide +kernel

end RouteClient.Build
