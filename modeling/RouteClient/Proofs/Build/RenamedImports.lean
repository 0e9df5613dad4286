import RouteClient.Proofs.Build.Gathered
import RouteClient.Proofs.Build.Renamed
import RouteClient.Proofs.Renaming.Imports
import RouteClient.Proofs.Renaming.Start

namespace RouteClient.Project.Renaming

variable {ρ : Renaming} {near : Placement} {b s s' : Session}

theorem rel_of_lt {γ δ : Type} {T : γ → δ → Prop} {xs : Array γ} {ys : Array δ} {i : Nat}
    (hsize : xs.size = ys.size) (h : i < xs.size → Option.Rel T xs[i]? ys[i]?) :
    Option.Rel T xs[i]? ys[i]? := by
  by_cases hi : i < xs.size
  · exact h hi
  · rw [Array.getElem?_eq_none (not_lt.1 hi), Array.getElem?_eq_none (hsize ▸ not_lt.1 hi)]
    exact .none

variable (hlevel : ρ.IsLevel)

include hlevel

/-- Where everything has the number of what it is compared with, all of both sessions is compared. -/
theorem Mirrors.takesSession_of_isLevel (h : Mirrors ρ near b s s') : ρ.TakesSession s s' := by
  have hwithin := within_of_upTo ρ s
  have hclasses := eq_of_level ρ.classesUnique hlevel.classes (h.nextClass 0)
  have hfunctions := eq_of_level ρ.functionsUnique hlevel.functions (h.nextFunction 0)
  have hmodules := eq_of_level ρ.modulesUnique hlevel.modules (h.nextModule 0)
  constructor
  case classes =>
    intro i j hij
    obtain rfl := eq_of_level ρ.classesUnique hlevel.classes hij
    refine rel_of_lt hclasses fun hi ↦ ?_
    exact rel_mono (h.classes i i ⟨hij, hi⟩) fun _ _ hr ↦ hr.toTakesClass.within hwithin
  case functions =>
    intro i j hij
    obtain rfl := eq_of_level ρ.functionsUnique hlevel.functions hij
    exact rel_of_lt hfunctions fun hi ↦
      rel_mono (h.functions i i ⟨hij, hi⟩) fun _ _ hf ↦ hf.within hwithin
  case modules =>
    intro i j hij
    obtain rfl := eq_of_level ρ.modulesUnique hlevel.modules hij
    exact rel_of_lt hmodules fun hi ↦
      rel_mono (h.modules i i ⟨hij, hi⟩) fun _ _ hm ↦ (hm.within hwithin).takesModule
  case loaded => exact fun n hn ↦ rel_mono (h.loaded n hn) fun _ _ ↦ And.left

theorem Mirrors.keepsStandard (h : Mirrors ρ near b s s')
    (hstandard : ∀ n, ρ.homes n →
      Standard.isStandardModule (ρ.name n) = Standard.isStandardModule n) : ρ.KeepsStandard s := by
  intro i r hr
  have hclass := h.classes i i ⟨hlevel.classes i, (Array.getElem?_eq_some_iff.1 hr).1⟩
  rw [hr] at hclass
  generalize s'.classRecord? i = y at hclass
  cases hclass with | some hclass
  exact hstandard r.moduleName hclass.home.1

end RouteClient.Project.Renaming

namespace RouteClient.Contract

open RouteClient.Project Renaming

variable {ρ : Renaming} {near : Placement} {b s s' : Session}

/-- An identifier and the one with the new name of its module. -/
inductive TakesIdentifier (ρ : Renaming) : String → String → Prop
  | broken {identifier identifier' : String} (h : splitIdentifier identifier = none)
      (h' : splitIdentifier identifier' = none) : TakesIdentifier ρ identifier identifier'
  | named {identifier identifier' moduleName : String} {names : List String}
      (h : splitIdentifier identifier = some (moduleName, names))
      (h' : splitIdentifier identifier' = some (ρ.name moduleName, names))
      (hhome : ρ.homes moduleName)
      (hdot : (ρ.name moduleName).startsWith "." = moduleName.startsWith ".")
      (hnames : ∀ n ∈ names, ¬ρ.hidden n) : TakesIdentifier ρ identifier identifier'

/-- A route and its new version. -/
structure TakesRoute (ρ : Renaming) (s : Session) (route route' : Route ClassRef) : Prop where
  method : route.method = route'.method
  path : route.path = route'.path
  reference : Option.Rel (ρ.upTo s).TakesRef route.reference route'.reference
  identifier : route.reference = none → TakesIdentifier ρ route.handler route'.handler

theorem TakesRoute.extended {t : Session} {route route' : Route ClassRef}
    (h : TakesRoute ρ s route route') (hst : b.Lasts s t) : TakesRoute ρ t route route' :=
  { h with reference := rel_mono h.reference fun _ _ hc ↦ hc.within (hst.within ρ) }

variable (hρ : ρ.KeepsPackages)

include hρ

theorem importFor_lockstep (h : Mirrors ρ near b s s') {name : String} (hhome : ρ.homes name)
    (hdot : (ρ.name name).startsWith "." = name.startsWith ".") :
    Lockstep ρ near b (TakesNamed ρ name) s s' (importFor name) (importFor (ρ.name name)) := by
  unfold importFor
  rw [hdot]
  split
  · exact .throw h (.of_kin .typeError)
  · exact Import.importModule_lockstep hρ _ name hhome h

theorem loadHandler_lockstep (h : Mirrors ρ near b s s') {identifier identifier' : String}
    (hidentifier : TakesIdentifier ρ identifier identifier') :
    Lockstep ρ near b (fun t ↦ Option.Rel (ρ.upTo t).TakesRef) s s' (loadHandler identifier)
      (loadHandler identifier') := by
  unfold loadHandler
  cases hidentifier with
  | broken hsplit hsplit' =>
    rw [hsplit, hsplit']
    exact .pure h .none
  | named hsplit hsplit' hhome hdot hnames =>
    rw [hsplit, hsplit']
    refine (importFor_lockstep hρ h hhome hdot).attempt.bind fun result result' t t' ht _ hresult ↦ ?_
    cases hresult with
    | ok hi =>
      refine Lockstep.get_bind (.pure ht ?_)
      exact class?_takes (follow_takes ht.takesSession (.module hi.takes) hnames)
    | @error r r' hr =>
      have himport : r.isImportError = r'.isImportError := by
        unfold Raised.isImportError
        rw [hr.kind]
      have hends : r.endsProgram = r'.endsProgram := by
        unfold Raised.endsProgram
        rw [hr.kind]
      dsimp only
      rw [himport, hends]
      split
      · exact (Lockstep.note ht _ _ _).bind fun _ _ _ _ hu _ _ ↦ .pure hu Option.Rel.none
      · split
        · exact .throw ht hr
        · exact (Lockstep.note ht _ _ _).bind fun _ _ _ _ hu _ _ ↦ .pure hu Option.Rel.none

theorem locateHandler_lockstep (h : Mirrors ρ near b s s') {route route' : Route ClassRef}
    (hroute : TakesRoute ρ s route route') :
    Lockstep ρ near b (fun t ↦ Option.Rel (ρ.upTo t).TakesRef) s s' (locateHandler route)
      (locateHandler route') := by
  have hreference := hroute.reference
  have hidentifier := hroute.identifier
  unfold locateHandler
  generalize route.reference = x, route'.reference = y at hreference hidentifier
  cases hreference with
  | some hc => exact .pure h (.some hc)
  | none => exact loadHandler_lockstep hρ h (hidentifier rfl)

end RouteClient.Contract

namespace RouteClient.Build

open RouteClient.Project Renaming ShapeGraph Draft

variable {ρ : Renaming} {near : Placement} {b s s' t t' : Session} {d e : Draft ClassRef}
  {route route' : Route ClassRef} {routes routes' : List (Route ClassRef)} {turns turns' : List Visit}

/-- All turns of a build, also the one in which it fails. -/
def allVisits : List (Route ClassRef) → Draft ClassRef → Session → List Visit
  | [], _, _ => []
  | route :: rest, d, s =>
    match endpointOf route s with
    | (.error _, _) => []
    | (.ok endpoint, u) =>
      ⟨route, u, endpoint⟩ ::
        match addRoute d route s with
        | (.ok e, t) => allVisits rest e t
        | (.error _, _) => []

theorem mem_allVisits {endpoint : Endpoint ClassRef} {u : Session}
    (h : endpointOf route s = (.ok endpoint, u)) :
    ⟨route, u, endpoint⟩ ∈ allVisits (route :: routes) d s := by
  rw [allVisits, h]
  exact List.mem_cons_self

theorem allVisits_subset (h : addRoute d route s = (.ok e, t)) :
    allVisits routes e t ⊆ allVisits (route :: routes) d s := by
  obtain ⟨v, hendpoint, -⟩ := addRoute_eq_ok h
  rw [allVisits, hendpoint]
  dsimp only
  rw [h]
  exact List.subset_cons_self _ _

/-- In all turns together, a full name is that of one class. -/
def NamesOne (turns : List Visit) : Prop :=
  ∀ p q, Met turns p → Met turns q → (p.id = q.id ↔ p.shape = q.shape)

/-- The full names of a class that two builds meet. -/
def LabelMet (ρ : Renaming) (turns turns' : List Visit) (a a' : String) : Prop :=
  ∃ p p', Met turns p ∧ Met turns' p' ∧ ρ.TakesRef p.shape p'.shape ∧ a = p.id ∧ a' = p'.id

theorem labelMet_unique (hids : NamesOne turns) (hids' : NamesOne turns') {a a' c c' : String}
    (ha : LabelMet ρ turns turns' a a') (hc : LabelMet ρ turns turns' c c') : a = c ↔ a' = c' := by
  obtain ⟨p, p', hp, hp', hpp, rfl, rfl⟩ := ha
  obtain ⟨q, q', hq, hq', hqq, rfl, rfl⟩ := hc
  rw [hids p q hp hq, hids' p' q' hp' hq', hpp.eq_iff hqq]

theorem shapes_takes (hlevel : ρ.IsLevel) {endpoint endpoint' : Endpoint ClassRef}
    (h : TakesEndpoint ρ endpoint endpoint') : endpoint.shapes = endpoint'.shapes := by
  cases h with
  | skipped => rfl
  | typed hrequest hresponse =>
    rw [hlevel.eq_of_takesField hrequest, hlevel.eq_of_takesField hresponse]

theorem met_of_located {handler : Option ClassRef} {c : ClassRef}
    (hlocated : Contract.locateHandler route s = (.ok handler, t))
    (hc : (graph t).Reachable (shapesOf t handler) c) :
    ∃ p, Met (allVisits (route :: routes) d s) p ∧ p.shape = c ∧ p.id = Attribute.id t c := by
  obtain ⟨log, hendpoint⟩ := endpointOf_of_located hlocated
  unfold shapesOf at hc
  cases hread : endpointRead t handler with
  | error r =>
    rw [hread] at hc
    obtain ⟨_, hnone, _⟩ := hc
    cases hnone
  | ok endpoint =>
    rw [hread] at hc hendpoint
    exact ⟨⟨{ t with log }, c⟩, ⟨_, mem_allVisits hendpoint, rfl, hc⟩, rfl, rfl⟩

theorem shapesOf_takes (hlevel : ρ.IsLevel) (h : ρ.TakesSession t t') (hstandard : ρ.KeepsStandard t)
    {handler handler' : Option ClassRef} (hhandler : Option.Rel ρ.TakesRef handler handler') :
    shapesOf t handler = shapesOf t' handler' := by
  have hread := endpointRead_takes h hstandard hhandler
  unfold shapesOf
  generalize endpointRead t handler = x, endpointRead t' handler' = y at hread
  cases hread with
  | error => rfl
  | ok hendpoint => exact shapes_takes hlevel hendpoint

/-- After a turn in which both handlers have been located, the sessions still mirror each other. -/
theorem mirrors_addRoute (h : Mirrors ρ near b t t') (hst : b.Lasts s t)
    {handler handler' : Option ClassRef} {d' e' : Draft ClassRef} {u u' : Session}
    (hlocated : Contract.locateHandler route s = (.ok handler, t))
    (hlocated' : Contract.locateHandler route' s' = (.ok handler', t'))
    (hadd : addRoute d route s = (.ok d', u)) (hadd' : addRoute e route' s' = (.ok e', u')) :
    Mirrors ρ near b u u' ∧ b.Lasts s u := by
  obtain ⟨log, hu⟩ := session_of_addRoute hlocated d
  obtain ⟨log', hu'⟩ := session_of_addRoute hlocated' e
  rw [hadd] at hu
  rw [hadd'] at hu'
  obtain rfl : u = { t with log } := hu
  obtain rfl : u' = { t' with log := log' } := hu'
  exact ⟨h.relog log log', hst.trans (Session.lasts_relog b t log)⟩

/-- Two projects, the second one renamed, are imported side by side. -/
theorem turnsTake_of_mirrors (hlevel : ρ.IsLevel) (hρ : ρ.KeepsPackages)
    (hstandard : ∀ n, ρ.homes n →
      Standard.isStandardModule (ρ.name n) = Standard.isStandardModule n)
    {label : String → String → Prop} (h : Mirrors ρ near b s s')
    (hroutes : List.Forall₂ (Contract.TakesRoute ρ s) routes routes')
    (hlabel : ∀ p p', Met (allVisits routes d s) p → Met (allVisits routes' e s') p' →
      ρ.TakesRef p.shape p'.shape → label p.id p'.id) :
    TurnsTake ρ.name label routes d s routes' e s' := by
  -- On the routes that are left, from sessions that mirror each other.
  induction routes generalizing routes' s s' d e with
  | nil =>
    cases hroutes
    exact .nil d e s s'
  | cons route routes ih =>
    cases hroutes with | @cons _ route' _ routes' hroute hroutes
    obtain ⟨houtcome, hmirrors, hextended⟩ := Contract.locateHandler_lockstep hρ h hroute
    rcases hlocated : Contract.locateHandler route s with ⟨located, t⟩
    rcases hlocated' : Contract.locateHandler route' s' with ⟨located', t'⟩
    rw [hlocated] at houtcome hmirrors hextended
    rw [hlocated'] at houtcome hmirrors
    cases houtcome with
    | error hr => exact .raised hlocated hlocated' hr.kind
    | @ok handler handler' hhandler =>
      have hsession := hmirrors.takesSession_of_isLevel hlevel
      have hkept := hmirrors.keepsStandard hlevel hstandard
      have hhandler : Option.Rel ρ.TakesRef handler handler' :=
        rel_mono hhandler fun _ _ hc ↦ hc.within (within_of_upTo ρ t)
      refine .located rfl hroute.method hroute.path hlocated hlocated' hhandler hsession hkept
        (fun c c' hcc hc ↦ ?_) fun d' e' u u' hadd hadd' ↦ ?_
      · obtain rfl := hlevel.eq_of_takesRef hcc
        have hc' := hc
        rw [shapesOf_takes hlevel hsession hkept hhandler, reachable_takes hsession hkept hlevel] at hc'
        obtain ⟨p, hp, hshape, hid⟩ := met_of_located hlocated hc
        obtain ⟨p', hp', hshape', hid'⟩ := met_of_located hlocated' hc'
        rw [← hid, ← hid']
        exact hlabel p p' hp hp' (by rwa [hshape, hshape'])
      · obtain ⟨hmirrors, hafter⟩ := mirrors_addRoute hmirrors hextended hlocated hlocated' hadd hadd'
        refine ih hmirrors (hroutes.imp fun _ _ hr ↦ hr.extended hafter) ?_
        exact fun p p' hp hp' ↦ hlabel p p' (hp.mono (allVisits_subset hadd))
          (hp'.mono (allVisits_subset hadd'))

/-- The text of the client is the same after the modules of a project have been renamed, whatever is
imported, or both builds end with an exception of one kind. -/
theorem client_text_of_mirrors (hlevel : ρ.IsLevel) (hρ : ρ.KeepsPackages)
    (hstandard : ∀ n, ρ.homes n →
      Standard.isStandardModule (ρ.name n) = Standard.isStandardModule n)
    (h : Mirrors ρ near b s s') (hroutes : List.Forall₂ (Contract.TakesRoute ρ s) routes routes')
    (hids : NamesOne (allVisits routes {} s)) (hids' : NamesOne (allVisits routes' {} s')) :
    SameKind (fun d d' ↦ Client.Render.clientText d.client = Client.Render.clientText d'.client)
      (ofRoutes routes s).1 (ofRoutes routes' s').1 := by
  have hturns := turnsTake_of_mirrors (d := {}) (e := {}) hlevel hρ hstandard h hroutes
    fun p p' hp hp' hpp ↦ show LabelMet ρ _ _ p.id p'.id from ⟨p, p', hp, hp', hpp, rfl, rfl⟩
  exact (grownAlike_of_turnsTake (labelMet_unique hids hids') hturns (alikeUnder_empty _)).mono
    fun d d' hd ↦ clientText_of_alikeUnder hd.alike

theorem namesOne_singleton {v : Visit} (h : (graph v.session).DistinctIds v.endpoint.shapes) :
    NamesOne [v] := by
  rintro ⟨_, c⟩ ⟨_, c'⟩ ⟨w, hw, rfl, hc⟩ ⟨w', hw', rfl, hc'⟩
  obtain rfl := List.mem_singleton.1 hw
  obtain rfl := List.mem_singleton.1 hw'
  exact ⟨h c c' hc hc', fun hcc ↦ congrArg (Attribute.id _) hcc⟩

def itemDecl : ClassDecl where
  name := "Item"
  kind := .dataclass
  fields := [{ name := "sku", hint := some (.name "str" []) }]

def stockSource : ModuleSource where
  body := [.declare itemDecl]

def shopSource : ModuleSource where
  body := [.importFrom "stock" [("Item", "Item")],
    .declare (contractDecl "Trade" (.name "Item" [])), .declare (handlerDecl "Trader" "Trade")]

def stocked (moduleName : String) (source : ModuleSource) : Session :=
  Prelude.start
    (({} : Files.Tree Source).put ["stock.py"] (.file (.source (.module stockSource))) |>.put
      [moduleName ++ ".py"] (.file (.source (.module source)))) ["/"]

def stockedShop : Session := stocked "shop" shopSource

def stockedKiosk : Session := stocked "kiosk" (shopSource.renamed toKiosk.name)

def stockedNames : List String := ["shop", "stock", "stock.Item"] ++ Prelude.modules.map (·.1)

def stockedRenaming : Renaming :=
  { toKiosk with
    homes := (· ∈ stockedNames)
    prelude := fun _ hm ↦ List.mem_append_right _ (List.mem_map_of_mem hm) }

/-- Modules of no package lie at the root, and packages hold none. -/
def atRoot : Placement := fun package paths paths' ↦
  paths = paths' ∧ paths = if package.isNone then ["/"] else []

theorem keepsPackages_stocked : stockedRenaming.KeepsPackages where
  package := show ∀ n ∈ stockedNames, (Import.splitName (toKiosk.name n)).1 =
    (Import.splitName n).1.map toKiosk.name by decide +kernel
  packageHome := show ∀ n ∈ stockedNames, ∀ p ∈ (Import.splitName n).1, p ∈ stockedNames by
    decide +kernel
  last := show ∀ n ∈ stockedNames, (Import.splitName n).1.isSome →
    (Import.splitName (toKiosk.name n)).2 = (Import.splitName n).2 by decide +kernel
  standard := show ∀ n ∈ stockedNames, Standard.topNames.contains n =
    Standard.topNames.contains (toKiosk.name n) by decide +kernel
  quoted := by
    have hquoted : ∀ n ∈ stockedNames, ∀ m ∈ stockedNames,
        (Text.Quoted.quoted n = Text.Quoted.quoted m ↔
          Text.Quoted.quoted (toKiosk.name n) = Text.Quoted.quoted (toKiosk.name m)) := by
      decide +kernel
    exact fun n m hn hm ↦ hquoted n hn m hm

theorem readsPlainly_name {n : String} (h : ¬ρ.hidden n) : ρ.ReadsPlainly (.name n []) := by
  constructor
  · exact fun m hm ↦ List.mem_singleton.1 hm ▸ h
  · exact fun t ht ↦ nomatch ht

theorem quietClass_contractDecl (name : String) {request : String}
    (h : ∀ n ∈ ["ABC", request, "int"], ¬ρ.hidden n) :
    ρ.QuietClass false (contractDecl name (.name request [])) := by
  simp only [List.forall_mem_cons] at h
  obtain ⟨hbase, hrequest, hreturns, -⟩ := h
  refine .intro ⟨?_, ?_, ?_, ?_, ?_, ?_, ?_, ?_, ?_, ?_⟩ ?_
  all_goals simp [contractDecl, QuietHint, QuietParameters, readsPlainly_name, hbase, hrequest, hreturns]

theorem quietClass_handlerDecl (name : String) {contract : String}
    (h : ∀ n ∈ ["RouteHandler", contract], ¬ρ.hidden n) :
    ρ.QuietClass false (handlerDecl name contract) := by
  simp only [List.forall_mem_cons] at h
  obtain ⟨hbase, hcontract, -⟩ := h
  refine .intro ⟨?_, ?_, ?_, ?_, ?_, ?_, ?_, ?_, ?_, ?_⟩ ?_
  all_goals simp [handlerDecl, readsPlainly_name, hbase, hcontract]

theorem quietClass_itemDecl (h : ¬ρ.hidden "str") : ρ.QuietClass false itemDecl := by
  refine .intro ⟨?_, ?_, ?_, ?_, ?_, ?_, ?_, ?_, ?_, ?_⟩ ?_
  all_goals simp [itemDecl, QuietHint, readsPlainly_name, h]

theorem shown_stocked : ∀ n ∈ ["ABC", "RouteHandler", "Item", "Trade", "str", "int"],
    ¬stockedRenaming.hidden n :=
  show ∀ n ∈ ["ABC", "RouteHandler", "Item", "Trade", "str", "int"],
    n ∉ ["__name__", "__qualname__", "__module__"] by decide

theorem takesContent_stock : stockedRenaming.TakesContent (.source (.module stockSource))
    (.source (.module stockSource)) := by
  have hquiet : ∀ st ∈ stockSource.body, stockedRenaming.QuietStatement false st := by
    intro st hst
    obtain rfl := List.mem_singleton.1 hst
    exact quietClass_itemDecl (shown_stocked _ (by simp))
  exact .module hquiet

theorem takesContent_shop : stockedRenaming.TakesContent (.source (.module shopSource))
    (.source (.module (shopSource.renamed toKiosk.name))) := by
  have hmember : "stock" ∈ stockedNames ∧ "stock" ++ "." ++ "Item" ∈ stockedNames ∧
      toKiosk.name ("stock" ++ "." ++ "Item") = toKiosk.name "stock" ++ "." ++ "Item" := by
    decide +kernel
  refine .module fun st hst ↦ ?_
  simp only [shopSource, List.mem_cons, List.not_mem_nil, or_false] at hst
  rcases hst with rfl | rfl | rfl
  · exact ⟨hmember.1, fun n hn ↦ List.mem_singleton.1 hn ▸ ⟨hmember.2.1, hmember.2.2⟩⟩
  · exact quietClass_contractDecl _ fun n hn ↦ shown_stocked n (by simp at hn ⊢; tauto)
  · exact quietClass_handlerDecl _ fun n hn ↦ shown_stocked n (by simp at hn ⊢; tauto)

theorem takesTree_stocked : stockedRenaming.TakesTree atRoot stockedShop.tree stockedKiosk.tree where
  find := by
    rintro n hn paths _ ⟨rfl, rfl⟩
    have hother : ∀ n ∈ stockedNames, n ≠ "shop" → n ≠ "stock" →
        ∀ paths ∈ [if (Import.splitName n).1.isNone then ["/"] else []],
          (Import.find stockedShop.tree (Import.splitName n).2 paths).isNone ∧
            (Import.find stockedKiosk.tree (Import.splitName (toKiosk.name n)).2 paths).isNone := by
      decide +kernel
    by_cases hshop : n = "shop"
    · subst hshop
      exact .some (.file "//shop.py" "//kiosk.py" takesContent_shop ⟨rfl, rfl⟩)
    · by_cases hstock : n = "stock"
      · subst hstock
        exact .some (.file "//stock.py" "//stock.py" takesContent_stock ⟨rfl, rfl⟩)
      · obtain ⟨h, h'⟩ := hother n hn hshop hstock _ List.mem_cons_self
        rw [Option.isNone_iff_eq_none] at h h'
        rw [h, show Import.find stockedKiosk.tree
          (Import.splitName (stockedRenaming.name n)).2 _ = none from h']
        exact .none
  isEmpty := by
    rintro _ _ _ ⟨rfl, _⟩
    rfl
  none := fun n ↦ ⟨rfl, rfl⟩

theorem mirrors_stocked : Mirrors stockedRenaming atRoot stockedShop stockedShop stockedKiosk :=
  Prelude.mirrors_start ⟨fun _ ↦ rfl, fun _ ↦ rfl, fun _ ↦ rfl⟩ (by decide) takesTree_stocked
    ⟨rfl, rfl⟩

def stockedRoute (moduleName : String) : Route ClassRef :=
  ⟨"POST", "/trade", moduleName ++ "." ++ "Trader", none⟩

theorem takesRoute_stocked :
    Contract.TakesRoute stockedRenaming stockedShop (stockedRoute "shop") (stockedRoute "kiosk") := by
  have hsplit : Contract.splitIdentifier (stockedRoute "shop").handler = some ("shop", ["Trader"]) ∧
      Contract.splitIdentifier (stockedRoute "kiosk").handler = some ("kiosk", ["Trader"]) ∧
      "shop" ∈ stockedNames ∧ "kiosk".startsWith "." = "shop".startsWith "." ∧
      ∀ n ∈ ["Trader"], n ∉ ["__name__", "__qualname__", "__module__"] := by
    decide +kernel
  obtain ⟨hshop, hkiosk, hhome, hdot, hnames⟩ := hsplit
  exact ⟨rfl, rfl, .none, fun _ ↦ .named hshop hkiosk hhome hdot hnames⟩

theorem namesOne_of_visit {endpoint : Endpoint ClassRef} {u : Session}
    (h : endpointOf route s = (.ok endpoint, u)) (reach : List ClassRef) (hroots : endpoint.shapes ⊆ reach)
    (hclosed : ∀ c ∈ reach, nestedShapes u c ⊆ reach) (hids : (reach.map (graph u).id).Nodup) :
    NamesOne (allVisits [route] d s) := by
  have hvisits : allVisits [route] d s = [⟨route, u, endpoint⟩] := by
    rw [allVisits, h]
    dsimp only
    split <;> rfl
  rw [hvisits]
  exact namesOne_singleton (distinctIds_of_closed hroots hclosed hids)

theorem namesOne_stocked : ∀ p ∈ [("shop", stockedShop), ("kiosk", stockedKiosk)],
    NamesOne (allVisits [stockedRoute p.1] {} p.2) := by
  have hvisit : ∀ p ∈ [("shop", stockedShop), ("kiosk", stockedKiosk)],
      (endpointOf (stockedRoute p.1) p.2).1.toOption.map (·.shapes) = some [.declared 0] ∧
        nestedShapes (endpointOf (stockedRoute p.1) p.2).2 (.declared 0) = [] := by
    decide +kernel
  intro p hp
  obtain ⟨hshapes, hnested⟩ := hvisit p hp
  rcases h : endpointOf (stockedRoute p.1) p.2 with ⟨r | endpoint, u⟩
  · rw [h] at hshapes
    cases hshapes
  · rw [h] at hshapes hnested
    have hshapes : endpoint.shapes = [.declared 0] := Option.some_inj.1 hshapes
    refine namesOne_of_visit h [.declared 0] ?_ ?_ (List.nodup_singleton _)
    · rw [hshapes]
      exact List.Subset.refl _
    · intro c hc
      rw [List.mem_singleton.1 hc, hnested]
      exact List.nil_subset _

/-- A module that imports another one, under two names. -/
theorem client_text_of_mirrors_stocked :
    SameKind (fun d d' ↦ Client.Render.clientText d.client = Client.Render.clientText d'.client)
      (ofRoutes [stockedRoute "shop"] stockedShop).1
      (ofRoutes [stockedRoute "kiosk"] stockedKiosk).1 := by
  refine client_text_of_mirrors ⟨fun _ ↦ rfl, fun _ ↦ rfl, fun _ ↦ rfl⟩ keepsPackages_stocked ?_
    mirrors_stocked (.cons takesRoute_stocked .nil)
    (namesOne_stocked ("shop", _) List.mem_cons_self)
    (namesOne_stocked ("kiosk", _) (List.mem_cons_of_mem _ List.mem_cons_self))
  show ∀ n ∈ stockedNames, Standard.isStandardModule (toKiosk.name n) = Standard.isStandardModule n
  decide +kernel

end RouteClient.Build
