import RouteClient.Generate
import RouteClient.Proofs.Contract.Identifiers
import RouteClient.Proofs.OrderedMap
import RouteClient.Proofs.Outcomes

namespace RouteClient.RouteTable

variable {κ : Type}

mutual

def references : RouteTable κ → List κ
  | mapping entries => entryReferences entries
  | sequence items => itemReferences items
  | reference c => [c]
  | scalar _ => []

def itemReferences : List (RouteTable κ) → List κ
  | [] => []
  | item :: rest => references item ++ itemReferences rest

def entryReferences : List (Scalar × RouteTable κ) → List κ
  | [] => []
  | (_, value) :: rest => references value ++ entryReferences rest

end

theorem entryReferences_eq_nil {entries : List (Scalar × RouteTable κ)} :
    entryReferences entries = [] ↔ ∀ e ∈ entries, e.2.references = [] := by
  induction entries with
  | nil => simp [entryReferences]
  | cons e rest ih => simp [entryReferences, ih]

theorem references_ofEntries {entries : List (Scalar × RouteTable κ)}
    (h : entryReferences entries = []) : (ofEntries entries).references = [] := by
  rw [ofEntries, references, entryReferences_eq_nil]
  exact OrderedMap.forall_mem_ofList (P := fun value : RouteTable κ ↦ value.references = [])
    (entryReferences_eq_nil.1 h)

variable (texts texts' : ClassTexts κ)

/-- What is written for a table without references names no class. -/
theorem all_sources_congr :
    (∀ table : RouteTable κ, table.references = [] → table.source texts = table.source texts') ∧
      (∀ items : List (RouteTable κ), itemReferences items = [] →
        itemSources texts items = itemSources texts' items) ∧
      ∀ entries : List (Scalar × RouteTable κ), entryReferences entries = [] →
        entrySources texts entries = entrySources texts' entries := by
  apply source.mutual_induct <;> intros <;>
    simp_all [source, itemSources, entrySources, references, itemReferences, entryReferences]

variable {table : RouteTable κ}

theorem routeOf_congr {handler : RouteTable κ} (h : handler.references = []) (method path : Scalar) :
    routeOf texts method path handler = routeOf texts' method path handler := by
  have htext : handler.handlerText texts = handler.handlerText texts' := by
    cases handler with
    | reference c => cases h
    | scalar s => rfl
    | mapping entries => exact (all_sources_congr texts texts').1 _ h
    | sequence items => exact (all_sources_congr texts texts').1 _ h
  unfold routeOf
  rw [htext]

theorem groupRoutes_congr {group : Scalar × RouteTable κ} (h : group.2.references = []) :
    groupRoutes texts group = groupRoutes texts' group := by
  obtain ⟨method, value⟩ := group
  cases value with
  | mapping entries =>
    rw [references, entryReferences_eq_nil] at h
    exact mapM_congr fun e he ↦ routeOf_congr texts texts' (h e he) method e.1
  | _ => rfl

/-- The routes of a table without references do not depend on what the classes are called. -/
theorem routes_congr (h : table.references = []) : table.routes texts = table.routes texts' := by
  cases table with
  | mapping groups =>
    rw [references, entryReferences_eq_nil] at h
    unfold routes
    dsimp only [entries?]
    rw [mapM_congr fun g hg ↦ groupRoutes_congr texts texts' (h g hg)]
  | _ => rfl

end RouteClient.RouteTable

namespace RouteClient.RouteFile

open RouteClient.Project

/-- Looking up a table without references reads nothing and imports nothing. -/
theorem all_lookUp_of_nil :
    (∀ table, table.references = [] → ∃ found : RouteTable ClassRef, found.references = [] ∧
      ∀ s, lookUp table s = (.ok found, s)) ∧
    (∀ items, RouteTable.itemReferences items = [] → ∃ found : List (RouteTable ClassRef),
      RouteTable.itemReferences found = [] ∧ ∀ s, lookUpAll items s = (.ok found, s)) ∧
    ∀ entries, RouteTable.entryReferences entries = [] →
      ∃ found : List (Scalar × RouteTable ClassRef), RouteTable.entryReferences found = [] ∧
        ∀ s, lookUpEntries entries s = (.ok found, s) := by
  apply lookUp.mutual_induct
  case case1 =>
    intro entries ih h
    obtain ⟨found, hnone, hfound⟩ := ih h
    refine ⟨.ofEntries found, RouteTable.references_ofEntries hnone, fun s ↦ ?_⟩
    rw [lookUp, Run.bind_ok (hfound s)]
    rfl
  case case2 =>
    intro items ih h
    obtain ⟨found, hnone, hfound⟩ := ih h
    refine ⟨.sequence found, hnone, fun s ↦ ?_⟩
    rw [lookUp, Run.bind_ok (hfound s)]
    rfl
  case case3 =>
    intro path h
    cases h
  case case4 =>
    intro value _
    refine ⟨.scalar value, rfl, fun s ↦ ?_⟩
    rw [lookUp]
    rfl
  case case5 =>
    intro _
    refine ⟨[], rfl, fun s ↦ ?_⟩
    rw [lookUpEntries]
    rfl
  case case6 =>
    intro key value rest ih ihs h
    obtain ⟨hvalue, hrest⟩ := List.append_eq_nil_iff.1 h
    obtain ⟨found, hnone, hfound⟩ := ih hvalue
    obtain ⟨others, hothers, hfounds⟩ := ihs hrest
    refine ⟨(key, found) :: others, List.append_eq_nil_iff.2 ⟨hnone, hothers⟩, fun s ↦ ?_⟩
    rw [lookUpEntries, Run.bind_ok (hfound s), Run.bind_ok (hfounds s)]
    rfl
  case case7 =>
    intro _
    refine ⟨[], rfl, fun s ↦ ?_⟩
    rw [lookUpAll]
    rfl
  case case8 =>
    intro item rest ih ihs h
    obtain ⟨hitem, hrest⟩ := List.append_eq_nil_iff.1 h
    obtain ⟨found, hnone, hfound⟩ := ih hitem
    obtain ⟨others, hothers, hfounds⟩ := ihs hrest
    refine ⟨found :: others, List.append_eq_nil_iff.2 ⟨hnone, hothers⟩, fun s ↦ ?_⟩
    rw [lookUpAll, Run.bind_ok (hfound s), Run.bind_ok (hfounds s)]
    rfl

variable {s t : Session} {directory : List String} {path : Files.Path}
  {table : RouteTable ClassPath}

def Loads (s : Session) (path : ClassPath) : Prop :=
  path.moduleName.startsWith "." = false ∧ (s.loaded.get? path.moduleName).isSome

/-- What a computation gives is decided by what the session knows, and the session stays as it is. -/
def Asks {α : Type} (x : Run α) (s : Session) : Prop :=
  ∃ result, ∀ t, s.known = t.known → x t = (result, t)

theorem asks_pure {α : Type} (a : α) : Asks (pure a) s := ⟨.ok a, fun _ _ ↦ rfl⟩

theorem Asks.bind {α β : Type} {x : Run α} {f : α → Run β} (hx : Asks x s)
    (hf : ∀ a, Asks (f a) s) : Asks (x >>= f) s := by
  obtain ⟨result, hx⟩ := hx
  cases result with
  | error r => exact ⟨.error r, fun t hknown ↦ Run.bind_error (hx t hknown)⟩
  | ok a =>
    obtain ⟨result, hf⟩ := hf a
    exact ⟨result, fun t hknown ↦ (Run.bind_ok (hx t hknown)).trans (hf t hknown)⟩

theorem asks_importFor {path : ClassPath} (h : Loads s path) :
    Asks (Contract.importFor path.moduleName) s := by
  obtain ⟨hname, hloaded⟩ := h
  obtain ⟨index, hindex⟩ := Option.isSome_iff_exists.1 hloaded
  refine ⟨.ok index, fun t hknown ↦ ?_⟩
  rw [Session.loaded_of_known hknown] at hindex
  unfold Contract.importFor Import.importNamed Import.depth
  rw [hname, if_neg Bool.false_ne_true]
  exact Contract.importModule_of_loaded _ hindex

theorem asks_reading {α : Type} {f : Session → Except Raised α}
    (h : ∀ t, s.known = t.known → f t = f s) : Asks (Run.reading f) s := by
  refine ⟨f s, fun t hknown ↦ ?_⟩
  change Run.reading.liftExcept (f t) t = _
  rw [h t hknown]
  cases f s <;> rfl

theorem asks_classOf {path : ClassPath} (h : Loads s path) : Asks (classOf path) s := by
  refine (asks_importFor h).bind fun index ↦ asks_reading fun t hknown ↦ ?_
  have hget : Attribute.get t = Attribute.get s := by
    change Attribute.get t.known = Attribute.get s.known
    rw [hknown]
  rw [hget]

theorem tableValue_congr (h : s.known = t.known) : tableValue s = tableValue t := by
  have hlabel : TypeForm.label s = TypeForm.label t := by
    funext v
    rw [← (TypeForm.all_labels_skeleton s).1, Session.skeleton_of_known h,
      (TypeForm.all_labels_skeleton t).1]
  funext v
  simp only [tableValue, hlabel]

/-- Where the modules of its references are loaded, nothing is imported to look up a table. -/
theorem all_asks_lookUp (s : Session) :
    (∀ table : RouteTable ClassPath, (∀ p ∈ table.references, Loads s p) → Asks (lookUp table) s) ∧
    (∀ items : List (RouteTable ClassPath), (∀ p ∈ RouteTable.itemReferences items, Loads s p) →
      Asks (lookUpAll items) s) ∧
    ∀ entries : List (Scalar × RouteTable ClassPath),
      (∀ p ∈ RouteTable.entryReferences entries, Loads s p) → Asks (lookUpEntries entries) s := by
  apply lookUp.mutual_induct
  case case1 =>
    intro entries ih h
    rw [lookUp]
    exact (ih h).bind fun _ ↦ asks_pure _
  case case2 =>
    intro items ih h
    rw [lookUp]
    exact (ih h).bind fun _ ↦ asks_pure _
  case case3 =>
    intro path h
    rw [lookUp]
    refine (asks_classOf (h path (List.mem_singleton.2 rfl))).bind fun v ↦
      ⟨.ok (tableValue s v), fun t hknown ↦ ?_⟩
    rw [tableValue_congr hknown]
    rfl
  case case4 =>
    intro value _
    rw [lookUp]
    exact asks_pure _
  case case5 =>
    intro _
    rw [lookUpEntries]
    exact asks_pure _
  case case6 =>
    intro key value rest ih ihs h
    rw [RouteTable.entryReferences, List.forall_mem_append] at h
    rw [lookUpEntries]
    exact (ih h.1).bind fun _ ↦ (ihs h.2).bind fun _ ↦ asks_pure _
  case case7 =>
    intro _
    rw [lookUpAll]
    exact asks_pure _
  case case8 =>
    intro item rest ih ihs h
    rw [RouteTable.itemReferences, List.forall_mem_append] at h
    rw [lookUpAll]
    exact (ih h.1).bind fun _ ↦ (ihs h.2).bind fun _ ↦ asks_pure _

theorem contentOf_of_find {content : Files.Content Source}
    (h : s.tree.find directory path = .ok (some (.file content))) :
    contentOf directory path s = (.ok content, s) := by
  have hasked : Operation.asking path (fun tree ↦ tree.find directory path) s =
      (.ok (some (.file content)), s) := by
    have hget : (get : Operation Session) s = (.ok s, s) := rfl
    unfold Operation.asking
    rw [Run.bind_ok hget]
    dsimp only
    rw [h]
    rfl
  unfold contentOf
  rw [Run.bind_ok hasked]
  rfl

def loaded (path : Files.Path) (s : Session) :
    Except Raised (RouteTable ClassRef) → Except Failure (List (Route ClassRef))
  | .error r =>
    .error (if r.endsProgram then .raised r
      else .refused (.table ("Failed to load " ++ path.toString ++ ": " ++ r.line) []))
  | .ok found => (found.routes (classTexts s)).mapError .refused

theorem load_of_lookUp {found : Except Raised (RouteTable ClassRef)}
    (hs : s.tree.find directory path = .ok (some (.file (.source (.table (.table table))))))
    (hfound : lookUp table s = (found, s)) :
    ∃ log, load directory path s = (loaded path s found, { s with log }) := by
  have hrun : run path (.source (.table (.table table))) s = (found.map some, s) := by
    unfold run
    dsimp only
    cases found with
    | error r => rw [Run.bind_error hfound]; rfl
    | ok found => rw [Run.bind_ok hfound]; rfl
  have hattempt : Operation.ofRun (Run.attempt (run path (.source (.table (.table table))))) s =
      (.ok (found.map some), s) := by
    simp only [Operation.ofRun, Run.attempt, hrun]
  have hget : (get : Operation Session) s = (.ok s, s) := rfl
  unfold load
  rw [Run.bind_ok (contentOf_of_find hs), Run.bind_ok hattempt]
  cases found with
  | error r =>
    refine ⟨s.log, ?_⟩
    unfold loaded
    dsimp only [Except.map]
    split <;> rfl
  | ok found =>
    dsimp only [Except.map]
    rw [Run.bind_ok hget]
    unfold loaded
    dsimp only
    cases found.routes (classTexts s) with
    | error refusal => exact ⟨s.log, rfl⟩
    | ok routes => exact ⟨_, rfl⟩

/-- A table without references is read alike in all sessions, and nothing is imported. -/
theorem load_of_nil (h : table.references = []) (directory : List String) (path : Files.Path) :
    ∃ result, ∀ s : Session,
      s.tree.find directory path = .ok (some (.file (.source (.table (.table table))))) →
      ∃ log, load directory path s = (result, { s with log }) := by
  obtain ⟨found, hnone, hfound⟩ := all_lookUp_of_nil.1 table h
  refine ⟨(found.routes (classTexts {})).mapError .refused, fun s hs ↦ ?_⟩
  rw [RouteTable.routes_congr (classTexts {}) (classTexts s) hnone]
  exact load_of_lookUp hs (hfound s)

/-- Where the modules of its references are loaded, what the session knows decides how a table is
read, and nothing is imported. -/
theorem load_of_loads (h : ∀ p ∈ table.references, Loads s p) (directory : List String)
    (path : Files.Path) :
    ∃ result, ∀ t : Session, s.known = t.known →
      t.tree.find directory path = .ok (some (.file (.source (.table (.table table))))) →
      ∃ log, load directory path t = (result, { t with log }) := by
  obtain ⟨found, hfound⟩ := (all_asks_lookUp s).1 table h
  refine ⟨loaded path s found, fun t hknown ht ↦ ?_⟩
  have htexts : classTexts s = classTexts t := by
    change classTexts s.known = classTexts t.known
    rw [hknown]
  have hsame : loaded path s found = loaded path t found := by
    cases found with
    | error r => rfl
    | ok found => simp only [loaded, htexts]
  rw [hsame]
  exact load_of_lookUp ht (hfound t hknown)

end RouteClient.RouteFile
