import RouteClient.Proofs.Build.Reading
import RouteClient.Proofs.Project.Alone

namespace RouteClient.Project

def Parameter.cleared (p : Parameter) : Parameter := { p with hint := none }

end RouteClient.Project

namespace RouteClient.Project.FunctionRecord

def clearedFrom (k : Nat) (f : FunctionRecord) : FunctionRecord :=
  { f with parameters := f.parameters.take k ++ (f.parameters.drop k).map (·.cleared) }

/-- The functions differ at most in the annotations of their parameters from a place on. -/
def DifferFrom (k : Nat) (f f' : FunctionRecord) : Prop := f.clearedFrom k = f'.clearedFrom k

def Distinct (f : FunctionRecord) : Prop := ("return" :: f.parameters.map (·.name)).Nodup

instance (f : FunctionRecord) : Decidable f.Distinct := inferInstanceAs (Decidable (List.Nodup _))

def namesFrom (k : Nat) (f : FunctionRecord) : List String := (f.parameters.drop k).map (·.name)

end RouteClient.Project.FunctionRecord

namespace RouteClient.Project.Hints

def ofParameters (parameters : List Parameter) : List (String × Value) :=
  parameters.filterMap fun p ↦ p.hint.map fun a ↦ (p.name, a)

/-- The parameters from a place on have annotations that fail at worst by having no meaning. -/
def HarmlessFrom (k : Nat) (s : Session) (f : FunctionRecord) : Prop :=
  ∀ a ∈ ofParameters (f.parameters.drop k),
    Passes (alone s (fun _ ↦ none) ⟨a.1, a.2, homeNames s f⟩)

instance (k : Nat) (s : Session) (f : FunctionRecord) : Decidable (HarmlessFrom k s f) :=
  inferInstanceAs (Decidable (∀ a ∈ ofParameters (f.parameters.drop k), Passes _))

end RouteClient.Project.Hints

namespace RouteClient.Contract

open RouteClient.Project

def given : Value → Nat
  | .staticFunction _ => 0
  | _ => 1

/-- The number of parameters before the one that is taken for the request. A class method is seen
without its class already, and one more is left out. -/
def passedOver (v : Value) (f : FunctionRecord) : Nat :=
  match v, f.parameters.head? with
  | .classFunction _, some first =>
    if first.kind == .positional || first.kind == .positionalOnly then given v + 1 else given v
  | _, _ => given v

def candidates (entry : Entry) : List Parameter :=
  entry.signature.parameters.drop (if entry.skipsFirst then 1 else 0)

def indexOf : Value → Nat
  | .function index | .staticFunction index | .classFunction index => index
  | _ => 0

end RouteClient.Contract

namespace RouteClient.Project.FunctionRecord

variable {k : Nat} {f f' : FunctionRecord}

theorem take_clearedFrom : (f.clearedFrom k).parameters.take k = f.parameters.take k := by
  have hlater : k - (f.parameters.take k).length = 0 ∨ f.parameters.drop k = [] := by
    rw [List.length_take, List.drop_eq_nil_iff]
    omega
  rw [clearedFrom, List.take_append, List.take_take, Nat.min_self]
  rcases hlater with hlength | hnil
  · rw [hlength, List.take_zero, List.append_nil]
  · rw [hnil, List.map_nil, List.take_nil, List.append_nil]

theorem DifferFrom.take_eq (h : f.DifferFrom k f') :
    f.parameters.take k = f'.parameters.take k := by
  rw [← take_clearedFrom, h, take_clearedFrom]

theorem DifferFrom.head?_drop_eq (h : f.DifferFrom (k + 1) f') :
    (f.parameters.drop k).head? = (f'.parameters.drop k).head? := by
  have hget := congrArg (·[k]?) h.take_eq
  simpa [List.getElem?_take] using hget

theorem Distinct.not_mem_namesFrom (h : f.Distinct) {p : Parameter}
    (hp : p ∈ (f.parameters.drop k).head?) : p.name ∉ f.namesFrom (k + 1) := by
  have hsplit : f.parameters.drop k = p :: f.parameters.drop (k + 1) := by
    rw [← List.tail_drop]
    exact List.eq_cons_of_mem_head? hp
  have hnames := (List.nodup_cons.1 h).2.sublist ((List.drop_sublist k f.parameters).map _)
  rw [hsplit, List.map_cons, List.nodup_cons] at hnames
  exact hnames.1

theorem map_name_clearedFrom :
    (f.clearedFrom k).parameters.map (·.name) = f.parameters.map (·.name) := by
  have htake : f.parameters.map (·.name) =
      (f.parameters.take k ++ f.parameters.drop k).map (·.name) := by rw [List.take_append_drop]
  rw [htake, clearedFrom, List.map_append, List.map_append, List.map_map]
  rfl

theorem namesFrom_eq : f.namesFrom k = ((f.clearedFrom k).parameters.map (·.name)).drop k := by
  rw [map_name_clearedFrom, namesFrom, List.map_drop]

theorem DifferFrom.namesFrom_eq (h : f.DifferFrom k f') : f.namesFrom k = f'.namesFrom k := by
  rw [FunctionRecord.namesFrom_eq, h, ← FunctionRecord.namesFrom_eq]

theorem DifferFrom.distinct (h : f.DifferFrom k f') (hf : f.Distinct) : f'.Distinct := by
  rwa [Distinct, ← map_name_clearedFrom, h, map_name_clearedFrom] at hf

theorem DifferFrom.home_eq (h : f.DifferFrom k f') : f.home = f'.home := by
  unfold DifferFrom at h
  exact congrArg (·.home) h

theorem DifferFrom.returns_eq (h : f.DifferFrom k f') : f.returns = f'.returns := by
  unfold DifferFrom at h
  exact congrArg (·.returns) h

end RouteClient.Project.FunctionRecord

namespace RouteClient.Project.Hints

variable {s t : Session} {k index : Nat} {f f' : FunctionRecord}

theorem fst_mem_of_mem_ofParameters {parameters : List Parameter} {a : String × Value}
    (h : a ∈ ofParameters parameters) : a.1 ∈ parameters.map (·.name) := by
  obtain ⟨p, hp, ha⟩ := List.mem_filterMap.1 h
  obtain ⟨v, _, rfl⟩ := Option.map_eq_some_iff.1 ha
  exact List.mem_map_of_mem hp

theorem ofParameters_append (ps qs : List Parameter) :
    ofParameters (ps ++ qs) = ofParameters ps ++ ofParameters qs := List.filterMap_append

theorem functionAnnotations_eq (k : Nat) (f : FunctionRecord) : functionAnnotations f =
    ofParameters (f.parameters.take k) ++ ofParameters (f.parameters.drop k) ++
      (f.returns.map fun a ↦ ("return", a)).toList := by
  rw [← ofParameters_append, List.take_append_drop]
  rfl

theorem not_mem_namesFrom_of_earlier (h : f.Distinct) {a : String × Value}
    (ha : a ∈ ofParameters (f.parameters.take k)) : a.1 ∉ f.namesFrom k := by
  have hnames := (List.nodup_cons.1 h).2
  rw [← List.take_append_drop k f.parameters, List.map_append] at hnames
  exact (List.nodup_append'.1 hnames).2.2 (fst_mem_of_mem_ofParameters ha)

theorem return_not_mem_namesFrom (h : f.Distinct) : "return" ∉ f.namesFrom k :=
  fun hin ↦ (List.nodup_cons.1 h).1 (List.map_subset _ (List.drop_subset k _) hin)

theorem functionAnnotations_clearedFrom (h : f.Distinct) : functionAnnotations (f.clearedFrom k) =
    (functionAnnotations f).filter fun a ↦ a.1 ∉ f.namesFrom k := by
  have hearlier : (ofParameters (f.parameters.take k)).filter (fun a ↦ a.1 ∉ f.namesFrom k) =
      ofParameters (f.parameters.take k) :=
    List.filter_eq_self.2 fun a ha ↦ decide_eq_true (not_mem_namesFrom_of_earlier h ha)
  have hlater : (ofParameters (f.parameters.drop k)).filter (fun a ↦ a.1 ∉ f.namesFrom k) = [] := by
    refine List.filter_eq_nil_iff.2 fun a ha ↦ ?_
    have hin : a.1 ∈ f.namesFrom k := fst_mem_of_mem_ofParameters ha
    simpa using hin
  have hresult : ((f.returns.map fun a ↦ ("return", a)).toList).filter
      (fun a ↦ a.1 ∉ f.namesFrom k) = (f.returns.map fun a ↦ ("return", a)).toList := by
    refine List.filter_eq_self.2 fun a ha ↦ decide_eq_true ?_
    obtain ⟨v, _, rfl⟩ := Option.map_eq_some_iff.1 (Option.mem_toList.1 ha)
    exact return_not_mem_namesFrom h
  have hcleared : ofParameters ((f.parameters.drop k).map (·.cleared)) = [] := by
    refine List.filterMap_eq_nil_iff.2 fun p hp ↦ ?_
    obtain ⟨q, _, rfl⟩ := List.mem_map.1 hp
    rfl
  have hparameters : functionAnnotations (f.clearedFrom k) =
      ofParameters (f.parameters.take k ++ (f.parameters.drop k).map (·.cleared)) ++
        (f.returns.map fun a ↦ ("return", a)).toList := rfl
  rw [functionAnnotations_eq k f, List.filter_append, List.filter_append, hearlier, hlater, hresult,
    hparameters, ofParameters_append, hcleared]

theorem mem_later (h : f.Distinct) {a : String × Value} (ha : a ∈ functionAnnotations f)
    (hn : a.1 ∈ f.namesFrom k) : a ∈ ofParameters (f.parameters.drop k) := by
  rw [functionAnnotations_eq k f, List.mem_append, List.mem_append] at ha
  rcases ha with (hearlier | hlater) | hresult
  · exact absurd hn (not_mem_namesFrom_of_earlier h hearlier)
  · exact hlater
  · obtain ⟨v, _, rfl⟩ := Option.map_eq_some_iff.1 (Option.mem_toList.1 hresult)
    exact absurd hn (return_not_mem_namesFrom h)

def inFunction (s : Session) (f : FunctionRecord) (a : String × Value) : Annotation :=
  ⟨a.1, a.2, ⟨fun _ ↦ none, homeNames s f⟩, false, homeNames s f⟩

theorem annotations_function (hf : s.functionRecord? index = some f) :
    annotations s (.function index) = (functionAnnotations f).map (inFunction s f) := by
  simp only [annotations, hf]
  rfl

theorem annotations_filter_later (hf : s.functionRecord? index = some f) (h : f.Distinct) :
    (annotations s (.function index)).filter (fun a ↦ a.name ∉ f.namesFrom k) =
      (functionAnnotations (f.clearedFrom k)).map (inFunction s f) := by
  rw [annotations_function hf, List.filter_map, functionAnnotations_clearedFrom h]
  rfl

theorem passes_later (hf : s.functionRecord? index = some f) (h : f.Distinct)
    (hlater : HarmlessFrom k s f) : ∀ a ∈ annotations s (.function index), a.name ∈ f.namesFrom k →
      Passes (apart s (fun _ ↦ none) a) := by
  rw [annotations_function hf]
  intro b hb hn
  obtain ⟨a, ha, rfl⟩ := List.mem_map.1 hb
  exact hlater a (mem_later h ha hn)

theorem alikeOn_versions (hskeleton : s.skeleton = t.skeleton)
    (hf : s.functionRecord? index = some f) (hf' : t.functionRecord? index = some f')
    (hversion : f.DifferFrom k f') (hdistinct : f.Distinct) (hlater : HarmlessFrom k s f)
    (hlater' : HarmlessFrom k t f') :
    AlikeOn (· ∉ f.namesFrom k) (ofAnnotated s (.function index) fun _ ↦ none)
      (ofAnnotated t (.function index) fun _ ↦ none) := by
  have hnames := hversion.namesFrom_eq
  have hdistinct' := hversion.distinct hdistinct
  have hscope : inFunction s f = inFunction t f' := by
    funext a
    simp only [inFunction, homeNames, Session.moduleRecord?_congr hskeleton, hversion.home_eq]
  -- What the versions have in common is the function without the later annotations.
  have hothers : (annotations s (.function index)).filter (fun a ↦ a.name ∉ f.namesFrom k) =
      (annotations t (.function index)).filter (fun a ↦ a.name ∉ f.namesFrom k) := by
    have hcleared : f.clearedFrom k = f'.clearedFrom k := hversion
    rw [annotations_filter_later hf hdistinct, hnames, annotations_filter_later hf' hdistinct',
      hcleared, hscope]
  have hapart : apart s (fun _ ↦ none) = apart t fun _ ↦ none := by
    funext a
    simp only [apart, alone_congr hskeleton]
  have hpasses := passes_later hf hdistinct hlater
  have hpasses' := passes_later hf' hdistinct' hlater'
  rw [← hnames] at hpasses'
  have htells' := tells_function (s := t) index
  rw [← hapart] at hpasses' htells'
  refine (tells_function index).alikeOn htells' ?_ fun n hn ↦ ?_
  · rw [← firstFatal_filter (p := fun a ↦ a.name ∉ f.namesFrom k), hothers, firstFatal_filter]
    · intro a ha hn
      exact hpasses' a ha (by simpa using hn)
    · intro a ha hn
      exact hpasses a ha (by simpa using hn)
  · have hnot : decide (n ∉ f.namesFrom k) = true := decide_eq_true hn
    rw [← verdictOf_filterNames (p := fun n ↦ n ∉ f.namesFrom k) hnot, hothers,
      verdictOf_filterNames (p := fun n ↦ n ∉ f.namesFrom k) hnot]

end RouteClient.Project.Hints

namespace RouteClient.Contract

open RouteClient.Project

variable {s t : Session} {contract : ClassRef} {v : Value} {f f' : FunctionRecord}

theorem returns_withoutFirst (signature : Constructor.Signature) :
    (Constructor.withoutFirst signature).returns = signature.returns := by
  unfold Constructor.withoutFirst
  split
  · split <;> rfl
  · rfl

theorem drop_withoutFirst (index : Nat) (f : FunctionRecord) :
    (Constructor.withoutFirst (Constructor.ofFunction f)).parameters.drop 1 =
      f.parameters.drop (passedOver (.classFunction index) f) := by
  unfold Constructor.withoutFirst passedOver
  dsimp only [Constructor.ofFunction]
  cases f.parameters with
  | nil => rfl
  | cons first rest =>
    dsimp only [List.head?_cons]
    split <;> rfl

theorem exists_entry (hentry : Attribute.find? s contract entryMethod = some v)
    (hf : Constructor.functionOf? s (some v) = some f) :
    ∃ entry, entry? s contract = some entry ∧ s.functionRecord? (indexOf v) = some f ∧
      entry.annotated = .function (indexOf v) ∧ entry.signature.returns = f.returns ∧
      candidates entry = f.parameters.drop (passedOver v f) := by
  unfold entry?
  rw [hentry]
  cases v with
  | function index =>
    have hrecord : s.functionRecord? index = some f := hf
    simp only [functionEntry, hrecord]
    exact ⟨_, rfl, hrecord, rfl, rfl, rfl⟩
  | staticFunction index =>
    have hrecord : s.functionRecord? index = some f := hf
    simp only [functionEntry, hrecord]
    exact ⟨_, rfl, hrecord, rfl, rfl, rfl⟩
  | classFunction index =>
    have hrecord : s.functionRecord? index = some f := hf
    simp only [functionEntry, hrecord]
    exact ⟨_, rfl, hrecord, rfl, returns_withoutFirst _, drop_withoutFirst _ _⟩
  | _ => cases hf

theorem entryRead_congr {entry entry' : Entry} (names : String → Prop)
    (halike : Hints.AlikeOn names (Hints.ofAnnotated s entry.annotated fun _ ↦ none)
      (Hints.ofAnnotated t entry'.annotated fun _ ↦ none))
    (hfirst : (candidates entry).head? = (candidates entry').head?)
    (hnames : ∀ first ∈ (candidates entry).head?, names first.name)
    (hreturn : names "return") (hreturns : entry.signature.returns = entry'.signature.returns) :
    entryRead s entry = entryRead t entry' := by
  unfold entryRead
  rw [← candidates, ← candidates]
  generalize candidates entry = ps at hfirst hnames ⊢
  generalize candidates entry' = ps' at hfirst ⊢
  rcases ps with _ | ⟨first, rest⟩ <;> rcases ps' with _ | ⟨first', rest'⟩
  · rfl
  · cases hfirst
  · cases hfirst
  obtain rfl : first = first' := Option.some.inj hfirst
  dsimp only
  cases hx : Hints.ofAnnotated s entry.annotated fun _ ↦ none with
  | error r =>
    cases hy : Hints.ofAnnotated t entry'.annotated fun _ ↦ none with
    | error r' =>
      rw [hx, hy] at halike
      obtain rfl : r = r' := halike
      rfl
    | ok k =>
      rw [hx, hy] at halike
      exact halike.elim
  | ok h =>
    cases hy : Hints.ofAnnotated t entry'.annotated fun _ ↦ none with
    | error r' =>
      rw [hx, hy] at halike
      exact halike.elim
    | ok k =>
      rw [hx, hy] at halike
      obtain ⟨htype, hunresolved⟩ := halike first.name (hnames first rfl)
      obtain ⟨htype', hunresolved'⟩ := halike "return" hreturn
      have hcontains : ∀ n, (n ∈ h.unresolved ↔ n ∈ k.unresolved) →
          h.unresolved.contains n = k.unresolved.contains n := by
        intro n hn
        rw [Bool.eq_iff_iff, List.contains_iff_mem, List.contains_iff_mem]
        exact hn
      simp only [bind, Except.bind, hcontains _ hunresolved, hcontains _ hunresolved', htype,
        htype', hreturns]

theorem find?_congr (hskeleton : s.skeleton = t.skeleton) : find? s = find? t := by
  have hfind : ∀ u : Session, find? u.skeleton = find? u := by
    intro u
    funext c
    have hcontract : isContract u.skeleton = isContract u := by
      funext d
      simp [isContract]
    simp [find?, hcontract]
  rw [← hfind s, hskeleton, hfind t]

theorem passedOver_congr {k : Nat} (h : f.DifferFrom (k + 1) f') :
    passedOver v f = passedOver v f' := by
  have hhead := congrArg List.head? h.take_eq
  rw [List.head?_take, List.head?_take, if_neg k.succ_ne_zero, if_neg k.succ_ne_zero] at hhead
  simp only [passedOver, hhead]

theorem typesRead_of_versions (hskeleton : s.skeleton = t.skeleton)
    (hentry : Attribute.find? s contract entryMethod = some v)
    (hf : Constructor.functionOf? s (some v) = some f)
    (hf' : Constructor.functionOf? t (some v) = some f')
    (hversion : f.DifferFrom (passedOver v f + 1) f') (hdistinct : f.Distinct)
    (hlater : Hints.HarmlessFrom (passedOver v f + 1) s f)
    (hlater' : Hints.HarmlessFrom (passedOver v f + 1) t f') :
    typesRead s contract = typesRead t contract := by
  have hentry' : Attribute.find? t contract entryMethod = some v := by
    rw [← Attribute.find?_skeleton, ← hskeleton, Attribute.find?_skeleton, hentry]
  obtain ⟨entry, hs, hindex, hannotated, hreturns, hparameters⟩ := exists_entry hentry hf
  obtain ⟨entry', ht, hindex', hannotated', hreturns', hparameters'⟩ := exists_entry hentry' hf'
  unfold typesRead
  rw [hs, ht]
  dsimp only
  refine entryRead_congr (· ∉ f.namesFrom (passedOver v f + 1)) ?_ ?_ ?_ ?_ ?_
  · rw [hannotated, hannotated']
    exact Hints.alikeOn_versions hskeleton hindex hindex' hversion hdistinct hlater hlater'
  · rw [hparameters, hparameters', ← passedOver_congr hversion, hversion.head?_drop_eq]
  · rw [hparameters]
    exact fun first hfirst ↦ hdistinct.not_mem_namesFrom hfirst
  · exact Hints.return_not_mem_namesFrom hdistinct
  · rw [hreturns, hreturns', hversion.returns_eq]

/-- Two versions of a contract's entry method that differ at most in the annotations of the
parameters after the one that is taken for the request, where these fail at worst by having no
meaning, have the same types, and what is found for the routes of the contract is the same. Both must
quote names by themselves: when all annotations are read at once, a typing form may be taken for what
it has meant in another method. -/
theorem types_of_versions (hskeleton : s.skeleton = t.skeleton)
    (hentry : Attribute.find? s contract entryMethod = some v)
    (hf : Constructor.functionOf? s (some v) = some f)
    (hf' : Constructor.functionOf? t (some v) = some f')
    (hversion : f.DifferFrom (passedOver v f + 1) f') (hdistinct : f.Distinct)
    (_hquotes : ∀ u ∈ [s, t], ∀ entry ∈ entry? u contract, Hints.QuotesAlone u entry.annotated)
    (hlater : Hints.HarmlessFrom (passedOver v f + 1) s f)
    (hlater' : Hints.HarmlessFrom (passedOver v f + 1) t f') :
    (types contract s).1 = (types contract t).1 ∧
      ∀ (route : Route ClassRef) (handler : ClassRef), find? s handler = some contract →
        Run.Answers (locateHandler route) s (.ok (some handler)) →
        Run.Answers (locateHandler route) t (.ok (some handler)) →
          (Build.endpointOf route s).1 = (Build.endpointOf route t).1 := by
  have htypes := typesRead_of_versions hskeleton hentry hf hf' hversion hdistinct hlater hlater'
  refine ⟨?_, fun route handler hcontract hlocated hlocated' ↦ ?_⟩
  · rw [(answers_types contract).result, (answers_types contract).result, htypes]
  · have hcontract' : find? t handler = some contract := by rw [← find?_congr hskeleton, hcontract]
    rw [(Build.answers_endpointOf hlocated).result, (Build.answers_endpointOf hlocated').result]
    simp only [Build.endpointRead, Option.bind_some, hcontract, hcontract', htypes,
      Shape.Describe.field_congr hskeleton]

def findMethod (first : String) (later : Option Value) : FunctionRecord where
  name := "execute"
  parameters := [{ name := first }, { name := "request", hint := some (.scalar (.text "float")) },
    { name := "extra", hint := later }]
  returns := some (.standard ⟨"builtins", "bool"⟩)
  home := some 0

def finding (v : Value) (first : String) (later : Option Value) : Session where
  classes := #[
    { name := "Find", qualifiedName := "Find", moduleName := "shop", bases := [.standard .abc],
      above := [.standard .abc, .standard .object], metaclass := .abstract,
      attributes := ⟨[("execute", v)]⟩ },
    { name := "FindRoute", qualifiedName := "FindRoute", moduleName := "shop",
      above := [.standard .routeHandler, .declared 0, .standard .abc, .standard .object],
      metaclass := .abstract }]
  functions := #[findMethod first later]
  modules := #[
    { name := "shop",
      bindings := ⟨[("Find", .cls (.declared 0)), ("FindRoute", .cls (.declared 1))]⟩ }]
  loaded := ⟨[("shop", 0)]⟩

theorem differFrom_findMethod (first : String) (later later' : Option Value) :
    (findMethod first later).DifferFrom 2 (findMethod first later') := rfl

def missing : Value := .scalar (.text "Missing")

def findRoute : Route ClassRef where
  method := "GET"
  path := "/find"
  handler := "shop.FindRoute"
  reference := some (.declared 1)

/-- An annotation without a meaning costs the request neither its type nor its route. -/
theorem types_of_versions_find :
    (types (.declared 0) (finding (.function 0) "self" missing)).1 =
        .ok (some ⟨.standard ⟨"builtins", "float"⟩, .standard ⟨"builtins", "bool"⟩⟩) ∧
      (Build.endpointOf findRoute (finding (.function 0) "self" missing)).1 =
        .ok (.typed { name := "", typeName := "float" } { name := "", typeName := "bool" }) :=
  have hversion := differFrom_findMethod "self" missing none
  have hsame := @types_of_versions (finding (.function 0) "self" missing)
    (finding (.function 0) "self" none) (.declared 0) (.function 0) _ _ rfl rfl rfl rfl hversion
    (by decide +kernel) (by decide +kernel) (by decide +kernel) (by decide +kernel)
  have hroute := hsame.2 findRoute (.declared 1) (by decide +kernel) (Run.answers_pure _)
    (Run.answers_pure _)
  ⟨hsame.1.trans rfl, hroute.trans rfl⟩

/-- Of a class method the second parameter is taken, whatever the first one is. -/
theorem class_method_types_differ :
    ¬∀ (s t : Session) (contract : ClassRef) (v : Value) (f f' : FunctionRecord),
      s.skeleton = t.skeleton → Attribute.find? s contract entryMethod = some v →
        Constructor.functionOf? s (some v) = some f →
        Constructor.functionOf? t (some v) = some f' → f.DifferFrom (given v + 1) f' →
        f.Distinct → Hints.HarmlessFrom (given v + 1) s f →
        Hints.HarmlessFrom (given v + 1) t f' → (types contract s).1 = (types contract t).1 := by
  intro h
  have hsame := h (finding (.classFunction 0) "cls" (some (.scalar (.text "int"))))
    (finding (.classFunction 0) "cls" (some (.scalar (.text "str")))) (.declared 0)
    (.classFunction 0) _ _ rfl rfl rfl rfl (differFrom_findMethod "cls" _ _) (by decide +kernel)
    (by decide +kernel) (by decide +kernel)
  have hnumber : (types (.declared 0)
      (finding (.classFunction 0) "cls" (some (.scalar (.text "int"))))).1 =
        .ok (some ⟨.standard ⟨"builtins", "int"⟩, .standard ⟨"builtins", "bool"⟩⟩) := rfl
  have htext : (types (.declared 0)
      (finding (.classFunction 0) "cls" (some (.scalar (.text "str"))))).1 =
        .ok (some ⟨.standard ⟨"builtins", "str"⟩, .standard ⟨"builtins", "bool"⟩⟩) := rfl
  rw [hnumber, htext] at hsame
  injection hsame with hsome
  injection hsome with htypes
  injection htypes with hrequest
  exact absurd (congrArg class? hrequest) (by decide)

end RouteClient.Contract
