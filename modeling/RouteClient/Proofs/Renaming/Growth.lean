import RouteClient.Proofs.Renaming.Sources
import Mathlib.Order.Nat

namespace RouteClient.Project.Renaming

variable {ρ τ : Renaming}

/-- The second renaming compares all that the first one does. -/
structure Within (ρ τ : Renaming) : Prop where
  name : τ.name = ρ.name
  hidden : τ.hidden = ρ.hidden
  classes : ∀ i j, ρ.classes i j → τ.classes i j
  functions : ∀ i j, ρ.functions i j → τ.functions i j
  modules : ∀ i j, ρ.modules i j → τ.modules i j
  homes : ∀ n, ρ.homes n → τ.homes n

theorem Within.refl (ρ : Renaming) : ρ.Within ρ :=
  ⟨rfl, rfl, fun _ _ ↦ id, fun _ _ ↦ id, fun _ _ ↦ id, fun _ ↦ id⟩

theorem Within.trans {σ : Renaming} (h : ρ.Within τ) (h' : τ.Within σ) : ρ.Within σ :=
  ⟨h'.name.trans h.name, h'.hidden.trans h.hidden, fun i j hi ↦ h'.classes i j (h.classes i j hi),
    fun i j hi ↦ h'.functions i j (h.functions i j hi),
    fun i j hi ↦ h'.modules i j (h.modules i j hi), fun n hn ↦ h'.homes n (h.homes n hn)⟩

theorem Quiet.of_hidden (h : τ.hidden = ρ.hidden) {text : String} (hq : ρ.Quiet text) :
    τ.Quiet text := by
  induction hq with
  | intro hnames _ ih =>
    refine .intro (fun e he n hn ↦ ?_) ih
    rw [h]
    exact hnames e he n hn

theorem rel_mono {α β : Type} {R S : α → β → Prop} {x : Option α} {y : Option β}
    (h : Option.Rel R x y) (hRS : ∀ a b, R a b → S a b) : Option.Rel S x y := by
  cases h with
  | none => exact .none
  | some h => exact .some (hRS _ _ h)

section

variable (h : ρ.Within τ) {v w : Value} {vs ws : List Value} {c d : ClassRef}

include h

theorem TakesRef.within (hc : ρ.TakesRef c d) : τ.TakesRef c d := by
  cases hc with
  | standard c => exact .standard c
  | declared hi => exact .declared (h.classes _ _ hi)
  | specialized label hi => exact .specialized label (h.classes _ _ hi)

theorem Takes.within (hv : ρ.Takes v w) : τ.Takes v w := by
  apply @Takes.rec ρ (fun v w _ ↦ τ.Takes v w) (fun vs ws _ ↦ τ.TakesAll vs ws)
  case t => exact hv
  case cls => exact fun hc ↦ .cls (hc.within h)
  case scalar => exact fun hq ↦ .scalar fun t ht ↦ (hq t ht).of_hidden h.hidden
  case typeVar =>
    intro name home
    rw [← h.name]
    exact .typeVar name home
  case newType =>
    intro name home
    rw [← h.name]
    exact .newType name home
  case reference =>
    intro text hq home hhome
    rw [← h.name]
    exact .reference (hq.of_hidden h.hidden) fun n hn ↦ h.homes n (hhome n hn)
  case plainAlias => exact fun hc _ _ _ ih ↦ .plainAlias (hc.within h) ih
  case typingAlias => exact fun name _ _ hc _ _ _ ih ↦ .typingAlias name (hc.within h) ih
  case module => exact fun hi ↦ .module (h.modules _ _ hi)
  case function => exact fun hi ↦ .function (h.functions _ _ hi)
  case classFunction => exact fun hi ↦ .classFunction (h.functions _ _ hi)
  case staticFunction => exact fun hi ↦ .staticFunction (h.functions _ _ hi)
  case bound => exact fun hi ↦ .bound (h.functions _ _ hi)
  case property => exact fun hi ↦ .property (h.functions _ _ hi)
  case nil => exact .nil
  case cons => exact fun _ _ ih ihs ↦ .cons ih ihs
  -- All others name neither a part of a session nor a module.
  all_goals
    intros
    constructor <;> assumption

theorem takesAll_within (hvs : ρ.TakesAll vs ws) : τ.TakesAll vs ws :=
  hvs.imp fun _ _ ↦ Takes.within h

theorem takesRefs_within {cs ds : List ClassRef} (hcs : List.Forall₂ ρ.TakesRef cs ds) :
    List.Forall₂ τ.TakesRef cs ds := hcs.imp fun _ _ ↦ TakesRef.within h

theorem takesEntries_within {entries entries' : List (String × Value)}
    (hentries : ρ.TakesEntries entries entries') : τ.TakesEntries entries entries' :=
  hentries.imp fun _ _ he ↦ ⟨he.1, he.2.within h⟩

theorem TakesParameter.within {p p' : Parameter} (hp : ρ.TakesParameter p p') :
    τ.TakesParameter p p' :=
  ⟨hp.name, hp.kind, rel_mono hp.hint fun _ _ ↦ Takes.within h, hp.hasDefault⟩

theorem takesParameters_within {ps ps' : List Parameter}
    (hps : List.Forall₂ ρ.TakesParameter ps ps') : List.Forall₂ τ.TakesParameter ps ps' :=
  hps.imp fun _ _ ↦ TakesParameter.within h

theorem TakesFunction.within {f f' : FunctionRecord} (hf : ρ.TakesFunction f f') :
    τ.TakesFunction f f' :=
  ⟨hf.name, takesParameters_within h hf.parameters, rel_mono hf.returns fun _ _ ↦ Takes.within h,
    rel_mono hf.home h.modules⟩

theorem TakesClass.within {r r' : ClassRecord} (hr : ρ.TakesClass r r') : τ.TakesClass r r' where
  name := hr.name
  qualifiedName := hr.qualifiedName
  moduleName := by rw [hr.moduleName, h.name]
  home := h.homes _ hr.home
  above := takesRefs_within h hr.above
  metaclass := hr.metaclass
  typeVariables := takesAll_within h hr.typeVariables
  annotations := takesEntries_within h hr.annotations
  attributes := takesEntries_within h hr.attributes
  signature := rel_mono hr.signature fun _ _ ↦ takesParameters_within h

end

structure TakesDataField (ρ : Renaming) (f f' : DataField) : Prop where
  others : f' = { f with hint := f'.hint }
  hint : ρ.Takes f.hint f'.hint

structure TakesModelField (ρ : Renaming) (f f' : ModelField) : Prop where
  others : f' = { f with hint := f'.hint }
  hint : ρ.Takes f.hint f'.hint

/-- All that classes below a class read of it. -/
structure TakesRecord (ρ : Renaming) (r r' : ClassRecord) : Prop extends ρ.TakesClass r r' where
  bases : List.Forall₂ ρ.TakesRef r.bases r'.bases
  isProtocol : r.isProtocol = r'.isProtocol
  dataFields : Option.Rel (fun x y ↦ List.Forall₂ (TakesDataField ρ) x.1 y.1 ∧ x.2 = y.2)
    r.dataFields r'.dataFields
  modelFields : Option.Rel (List.Forall₂ (TakesModelField ρ)) r.modelFields r'.modelFields

/-- A module and its new version, which may lie in other directories. -/
structure TakesPlace (ρ : Renaming) (near : Placement)
    (m m' : ModuleRecord) : Prop where
  name : m'.name = ρ.name m.name
  bindings : ρ.TakesEntries m.bindings.entries m'.bindings.entries
  directories : near (some m.name) m.directories m'.directories

theorem TakesPlace.takesModule {near : Placement} {m m' : ModuleRecord}
    (h : TakesPlace ρ near m m') : ρ.TakesModule m m' := fun key _ ↦ lookup_takes h.bindings key

section

variable (h : ρ.Within τ)

include h

theorem TakesDataField.within {f f' : DataField} (hf : TakesDataField ρ f f') :
    TakesDataField τ f f' := ⟨hf.others, hf.hint.within h⟩

theorem TakesModelField.within {f f' : ModelField} (hf : TakesModelField ρ f f') :
    TakesModelField τ f f' := ⟨hf.others, hf.hint.within h⟩

theorem TakesRecord.within {r r' : ClassRecord} (hr : TakesRecord ρ r r') : TakesRecord τ r r' where
  toTakesClass := hr.toTakesClass.within h
  bases := takesRefs_within h hr.bases
  isProtocol := hr.isProtocol
  dataFields := rel_mono hr.dataFields fun _ _ hx ↦ ⟨hx.1.imp fun _ _ ↦ TakesDataField.within h, hx.2⟩
  modelFields := rel_mono hr.modelFields fun _ _ hx ↦ hx.imp fun _ _ ↦ TakesModelField.within h

theorem TakesPlace.within {near : Placement} {m m' : ModuleRecord}
    (hm : TakesPlace ρ near m m') : TakesPlace τ near m m' :=
  ⟨by rw [hm.name, h.name], takesEntries_within h hm.bindings, hm.directories⟩

end

theorem biUnique_of_imp {α β : Type} {R S : α → β → Prop} (hS : Relator.BiUnique S)
    (h : ∀ a b, R a b → S a b) : Relator.BiUnique R :=
  ⟨fun _ _ _ hx hy ↦ hS.1 (h _ _ hx) (h _ _ hy), fun _ _ _ hx hy ↦ hS.2 (h _ _ hx) (h _ _ hy)⟩

end RouteClient.Project.Renaming

namespace RouteClient.Project

/-- The module has made a class, or is there before any project. -/
def Session.Makes (s : Session) (name : String) : Prop :=
  name ∈ Prelude.modules.map (·.1) ∨ ∃ i r, s.classRecord? i = some r ∧ r.moduleName = name

/-- Only what a session has so far is compared. -/
def Renaming.upTo (ρ : Renaming) (s : Session) : Renaming :=
  { ρ with
    classes := fun i j ↦ ρ.classes i j ∧ i < s.classes.size
    functions := fun i j ↦ ρ.functions i j ∧ i < s.functions.size
    modules := fun i j ↦ ρ.modules i j ∧ i < s.modules.size
    classesUnique := Renaming.biUnique_of_imp ρ.classesUnique fun _ _ ↦ And.left
    functionsUnique := Renaming.biUnique_of_imp ρ.functionsUnique fun _ _ ↦ And.left
    modulesUnique := Renaming.biUnique_of_imp ρ.modulesUnique fun _ _ ↦ And.left
    homes := fun n ↦ ρ.homes n ∧ s.Makes n
    prelude := fun m hm ↦ ⟨ρ.prelude m hm, .inl (List.mem_map_of_mem hm)⟩ }

theorem Renaming.within_of_upTo (ρ : Renaming) (s : Session) : (ρ.upTo s).Within ρ :=
  ⟨rfl, rfl, fun _ _ ↦ And.left, fun _ _ ↦ And.left, fun _ _ ↦ And.left, fun _ ↦ And.left⟩

/-- One more module is compared, which makes its first class just then. -/
def Renaming.withHome (ρ : Renaming) (name : String) : Renaming :=
  { ρ with
    homes := fun n ↦ ρ.homes n ∨ n = name
    prelude := fun m hm ↦ .inl (ρ.prelude m hm) }

theorem Renaming.within_withHome (ρ : Renaming) (name : String) : ρ.Within (ρ.withHome name) where
  name := rfl
  hidden := rfl
  classes _ _ := id
  functions _ _ := id
  modules _ _ := id
  homes _ := .inl

theorem Renaming.Within.withHome {ρ τ : Renaming} (h : ρ.Within τ) (name : String) :
    (ρ.withHome name).Within (τ.withHome name) :=
  { h with homes := fun n hn ↦ hn.imp_left (h.homes n) }

theorem Renaming.Quiet.upTo {ρ : Renaming} {text : String} (h : ρ.Quiet text) (s : Session) :
    (ρ.upTo s).Quiet text :=
  have hhidden : (ρ.upTo s).hidden = ρ.hidden := rfl
  h.of_hidden hhidden

namespace Session

/-- The name of a module in a package that the second session has and the first one has not. -/
def Held (b t : Session) (key : String) : Prop :=
  ∃ i m, b.modules.size ≤ i ∧ t.moduleRecord? i = some m ∧
    (Import.splitName m.name).1.isSome ∧ (Import.splitName m.name).2 = key

/-- A module of the package that the second session has and the first one has not. -/
def Holds (b t : Session) (package : String) : Prop :=
  ∃ i m, b.modules.size ≤ i ∧ t.moduleRecord? i = some m ∧ (Import.splitName m.name).1 = some package

/-- The last session has come from the one before it, and of what the first one has had, nothing has
changed. Only a package gets the names of its modules as they are imported. -/
structure Lasts (b s t : Session) : Prop where
  classes : ∀ i < b.classes.size, t.classRecord? i = s.classRecord? i
  homes : ∀ i < s.classes.size,
    (t.classRecord? i).map (·.moduleName) = (s.classRecord? i).map (·.moduleName)
  functions : ∀ i < s.functions.size, t.functionRecord? i = s.functionRecord? i
  names : ∀ i < s.modules.size, (t.moduleRecord? i).map (·.name) = (s.moduleRecord? i).map (·.name)
  bindings : ∀ i < b.modules.size, ∀ key, ¬Held b t key →
    (t.moduleRecord? i).bind (·.bindings.get? key) = (s.moduleRecord? i).bind (·.bindings.get? key)
  modules : ∀ i < b.modules.size, ∀ m, s.moduleRecord? i = some m → ¬Holds b t m.name →
    t.moduleRecord? i = some m
  loaded : ∀ name i, i < b.modules.size → s.loaded.get? name = some i → t.loaded.get? name = some i
  fresh : ∀ name i, t.loaded.get? name = some i → s.loaded.get? name = some i ∨ b.modules.size ≤ i

variable {b s t u : Session}

theorem Lasts.refl (b s : Session) : Lasts b s s :=
  ⟨fun _ _ ↦ rfl, fun _ _ ↦ rfl, fun _ _ ↦ rfl, fun _ _ ↦ rfl, fun _ _ _ _ ↦ rfl,
    fun _ _ _ hm _ ↦ hm, fun _ _ _ ↦ id, fun _ _ ↦ .inl⟩

theorem lasts_relog (b s : Session) (log : Array LogLine) : b.Lasts s { s with log } :=
  { Lasts.refl b s with loaded := fun _ _ _ ↦ id }

theorem size_le_of_map_eq {α β : Type} {xs ys : Array α} {f : α → β}
    (h : ∀ i < xs.size, ys[i]?.map f = xs[i]?.map f) : xs.size ≤ ys.size := by
  by_contra hlt
  rw [not_le] at hlt
  have hsame := h ys.size hlt
  rw [Array.getElem?_eq_none le_rfl, Array.getElem?_eq_getElem hlt] at hsame
  cases hsame

theorem Lasts.classes_le (h : Lasts b s t) : s.classes.size ≤ t.classes.size :=
  size_le_of_map_eq h.homes

theorem Lasts.functions_le (h : Lasts b s t) : s.functions.size ≤ t.functions.size :=
  size_le_of_map_eq fun i hi ↦ congrArg (Option.map id) (h.functions i hi)

theorem Lasts.modules_le (h : Lasts b s t) : s.modules.size ≤ t.modules.size :=
  size_le_of_map_eq h.names

theorem Lasts.record (h : Lasts b s t) {i : Nat} {m : ModuleRecord}
    (hm : s.moduleRecord? i = some m) : ∃ m', t.moduleRecord? i = some m' ∧ m'.name = m.name := by
  have hname := h.names i (Array.getElem?_eq_some_iff.1 hm).1
  rw [hm] at hname
  exact Option.map_eq_some_iff.1 hname

theorem Lasts.held (h : Lasts b s t) {key : String} (hkey : Held b s key) : Held b t key := by
  obtain ⟨i, m, hi, hm, hsplit⟩ := hkey
  obtain ⟨m', hm', hname⟩ := h.record hm
  exact ⟨i, m', hi, hm', by rwa [hname]⟩

theorem Lasts.holds (h : Lasts b s t) {package : String} (hheld : Holds b s package) :
    Holds b t package := by
  obtain ⟨i, m, hi, hm, hsplit⟩ := hheld
  obtain ⟨m', hm', hname⟩ := h.record hm
  exact ⟨i, m', hi, hm', by rwa [hname]⟩

theorem Lasts.trans (h : Lasts b s t) (h' : Lasts b t u) : Lasts b s u where
  classes i hi := (h'.classes i hi).trans (h.classes i hi)
  homes i hi := (h'.homes i (hi.trans_le h.classes_le)).trans (h.homes i hi)
  functions i hi := (h'.functions i (hi.trans_le h.functions_le)).trans (h.functions i hi)
  names i hi := (h'.names i (hi.trans_le h.modules_le)).trans (h.names i hi)
  bindings i hi key hkey :=
    (h'.bindings i hi key hkey).trans (h.bindings i hi key fun hheld ↦ hkey (h'.held hheld))
  modules i hi m hm hfree :=
    h'.modules i hi m (h.modules i hi m hm fun hheld ↦ hfree (h'.holds hheld)) hfree
  loaded name i hi hname := h'.loaded name i hi (h.loaded name i hi hname)
  fresh name i hname := (h'.fresh name i hname).elim (h.fresh name i) .inr

theorem Lasts.makes (h : Lasts b s t) {name : String} (hname : s.Makes name) : t.Makes name := by
  obtain hname | ⟨i, r, hr, rfl⟩ := hname
  · exact .inl hname
  · have hhome := h.homes i (Array.getElem?_eq_some_iff.1 hr).1
    rw [hr] at hhome
    obtain ⟨r', hr', hsame⟩ := Option.map_eq_some_iff.1 hhome
    exact .inr ⟨i, r', hr', hsame⟩

theorem Lasts.within (h : Lasts b s t) (ρ : Renaming) : (ρ.upTo s).Within (ρ.upTo t) where
  name := rfl
  hidden := rfl
  classes _ _ hi := ⟨hi.1, hi.2.trans_le h.classes_le⟩
  functions _ _ hi := ⟨hi.1, hi.2.trans_le h.functions_le⟩
  modules _ _ hi := ⟨hi.1, hi.2.trans_le h.modules_le⟩
  homes _ hn := ⟨hn.1, h.makes hn.2⟩

end Session

end RouteClient.Project
