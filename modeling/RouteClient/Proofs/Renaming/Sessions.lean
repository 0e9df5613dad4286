import RouteClient.Proofs.Renaming.Values
import RouteClient.Project.Evaluate

namespace RouteClient.Project.Renaming

variable (ρ : Renaming)

abbrev TakesEntries : List (String × Value) → List (String × Value) → Prop :=
  List.Forall₂ fun e e' ↦ e.1 = e'.1 ∧ ρ.Takes e.2 e'.2

abbrev TakesMap (m m' : OrderedMap String Value) : Prop := ρ.TakesEntries m.entries m'.entries

structure TakesParameter (p p' : Parameter) : Prop where
  name : p.name = p'.name
  kind : p.kind = p'.kind
  hint : Option.Rel ρ.Takes p.hint p'.hint
  hasDefault : p.hasDefault = p'.hasDefault

structure TakesFunction (f f' : FunctionRecord) : Prop where
  name : f.name = f'.name
  parameters : List.Forall₂ ρ.TakesParameter f.parameters f'.parameters
  returns : Option.Rel ρ.Takes f.returns f'.returns
  home : Option.Rel ρ.modules f.home f'.home

structure TakesClass (r r' : ClassRecord) : Prop where
  name : r.name = r'.name
  qualifiedName : r.qualifiedName = r'.qualifiedName
  moduleName : r'.moduleName = ρ.name r.moduleName
  home : ρ.homes r.moduleName
  above : List.Forall₂ ρ.TakesRef r.above r'.above
  metaclass : r.metaclass = r'.metaclass
  typeVariables : ρ.TakesAll r.typeVariables r'.typeVariables
  annotations : ρ.TakesEntries r.annotations.entries r'.annotations.entries
  attributes : ρ.TakesEntries r.attributes.entries r'.attributes.entries
  signature : Option.Rel (List.Forall₂ ρ.TakesParameter) r.signature r'.signature

def TakesModule (m m' : ModuleRecord) : Prop :=
  ∀ key, ¬ρ.hidden key → Option.Rel ρ.Takes (m.bindings.get? key) (m'.bindings.get? key)

/-- The second session is the first one with its modules renamed, as far as they are compared. -/
structure TakesSession (s s' : Session) : Prop where
  classes : ∀ i j, ρ.classes i j → Option.Rel ρ.TakesClass (s.classRecord? i) (s'.classRecord? j)
  functions : ∀ i j, ρ.functions i j →
    Option.Rel ρ.TakesFunction (s.functionRecord? i) (s'.functionRecord? j)
  modules : ∀ i j, ρ.modules i j →
    Option.Rel ρ.TakesModule (s.moduleRecord? i) (s'.moduleRecord? j)
  loaded : ∀ name, ρ.homes name →
    Option.Rel ρ.modules (s.loaded.get? name) (s'.loaded.get? (ρ.name name))

variable {ρ} {s s' : Session} {c : ClassRef} {v w : Value} {key : String}

theorem lookup_takes {entries entries' : List (String × Value)} (h : ρ.TakesEntries entries entries')
    (key : String) : Option.Rel ρ.Takes (entries.lookup key) (entries'.lookup key) := by
  induction h with
  | nil => exact .none
  | @cons e e' _ _ he _ ih =>
    rw [List.lookup_cons, List.lookup_cons, ← he.1]
    cases key == e.1 with
    | true => exact .some he.2
    | false => exact ih

theorem putEntries_rel {α β : Type} {R : α → β → Prop} (name : String) {a : α} {b : β} (hab : R a b)
    {entries : List (String × α)} {entries' : List (String × β)}
    (h : List.Forall₂ (fun e e' ↦ e.1 = e'.1 ∧ R e.2 e'.2) entries entries') :
    List.Forall₂ (fun e e' ↦ e.1 = e'.1 ∧ R e.2 e'.2) (OrderedMap.putEntries name a entries)
      (OrderedMap.putEntries name b entries') := by
  induction h with
  | nil => exact .cons ⟨rfl, hab⟩ .nil
  | @cons e e' _ _ he hrest ih =>
    obtain ⟨key, value⟩ := e
    obtain ⟨key', value'⟩ := e'
    obtain ⟨rfl, hvalue⟩ := he
    unfold OrderedMap.putEntries
    split
    · exact .cons ⟨rfl, hab⟩ hrest
    · exact .cons ⟨rfl, hvalue⟩ ih

theorem putEntries_takes (name : String) (hv : ρ.Takes v w)
    {entries entries' : List (String × Value)} (h : ρ.TakesEntries entries entries') :
    ρ.TakesEntries (OrderedMap.putEntries name v entries)
      (OrderedMap.putEntries name w entries') := putEntries_rel name hv h

theorem putAll_takes (hv : ρ.Takes v w) (names : List String) {m m' : OrderedMap String Value}
    (hm : ρ.TakesMap m m') :
    ρ.TakesMap (names.foldl (fun m name ↦ m.put name v) m)
      (names.foldl (fun m name ↦ m.put name w) m') := by
  induction names generalizing m m' with
  | nil => exact hm
  | cons name names ih => exact ih (putEntries_takes name hv hm)

theorem eraseEntries_takes {entries entries' : List (String × Value)} (name : String)
    (h : ρ.TakesEntries entries entries') :
    ρ.TakesEntries (entries.filter fun e ↦ !(name == e.1)) (entries'.filter fun e ↦ !(name == e.1)) :=
  filter_forall₂ h fun e e' he ↦ by rw [he.1]

theorem isSome_of_rel {α β : Type} {R : α → β → Prop} {x : Option α} {y : Option β}
    (h : Option.Rel R x y) : x.isSome = y.isSome := by
  cases h <;> rfl

theorem map_congr_of_rel {α β γ : Type} {R : α → β → Prop} {x : Option α} {y : Option β} {f : α → γ}
    {k : β → γ} (h : Option.Rel R x y) (hfk : ∀ a b, R a b → f a = k b) : x.map f = y.map k := by
  cases h with
  | none => rfl
  | some h => exact congrArg some (hfk _ _ h)

theorem rel_map {α α' β β' : Type} {R : α → α' → Prop} {S : β → β' → Prop} {x : Option α}
    {y : Option α'} {f : α → β} {k : α' → β'} (h : Option.Rel R x y)
    (hfk : ∀ a a', R a a' → S (f a) (k a')) : Option.Rel S (x.map f) (y.map k) := by
  cases h with
  | none => exact .none
  | some h => exact .some (hfk _ _ h)

theorem rel_bind {α α' β β' : Type} {R : α → α' → Prop} {S : β → β' → Prop} {x : Option α}
    {y : Option α'} {f : α → Option β} {k : α' → Option β'} (h : Option.Rel R x y)
    (hfk : ∀ a a', R a a' → Option.Rel S (f a) (k a')) : Option.Rel S (x.bind f) (y.bind k) := by
  cases h with
  | none => exact .none
  | some h => exact hfk _ _ h

theorem rel_refl_of_forall {α : Type} {R : α → α → Prop} {x : Option α} (h : ∀ a ∈ x, R a a) :
    Option.Rel R x x := by
  cases x with
  | none => exact .none
  | some a => exact .some (h a rfl)

theorem rel_findSome {α α' β β' : Type} {R : α → α' → Prop} {S : β → β' → Prop} {f : α → Option β}
    {k : α' → Option β'} {xs : List α} {ys : List α'} (h : List.Forall₂ R xs ys)
    (hfk : ∀ a a', R a a' → Option.Rel S (f a) (k a')) :
    Option.Rel S (xs.findSome? f) (ys.findSome? k) := by
  induction h with
  | nil => exact .none
  | @cons a a' _ _ ha _ ih =>
    have hfound := hfk a a' ha
    rw [List.findSome?_cons, List.findSome?_cons]
    generalize f a = b, k a' = b' at hfound
    cases hfound with
    | none => exact ih
    | some h => exact .some h

theorem findSome_congr_of_rel {α α' β : Type} {R : α → α' → Prop} {f : α → Option β}
    {k : α' → Option β} {xs : List α} {ys : List α'} (h : List.Forall₂ R xs ys)
    (hfk : ∀ a a', R a a' → f a = k a') : xs.findSome? f = ys.findSome? k := by
  induction h with
  | nil => rfl
  | cons ha _ ih => rw [List.findSome?_cons, List.findSome?_cons, hfk _ _ ha, ih]

theorem rel_find {α α' : Type} {R : α → α' → Prop} {p : α → Bool} {q : α' → Bool} {xs : List α}
    {ys : List α'} (h : List.Forall₂ R xs ys) (hpq : ∀ a a', R a a' → p a = q a') :
    Option.Rel R (xs.find? p) (ys.find? q) := by
  induction h with
  | nil => exact .none
  | @cons a a' _ _ ha _ ih =>
    rw [List.find?_cons, List.find?_cons, hpq a a' ha]
    cases q a' with
    | true => exact .some ha
    | false => exact ih

theorem contains_takes {cs ds : List ClassRef} (h : List.Forall₂ ρ.TakesRef cs ds) {c d : ClassRef}
    (hc : ρ.TakesRef c d) : cs.contains c = ds.contains d := by
  rw [List.contains_eq_any_beq, List.contains_eq_any_beq]
  exact any_forall₂ h fun _ _ h ↦ hc.beq h

theorem TakesSession.loadedModule (h : ρ.TakesSession s s') {name : String} (hname : ρ.homes name) :
    Option.Rel ρ.TakesModule (s.loadedModule? name) (s'.loadedModule? (ρ.name name)) :=
  rel_bind (h.loaded name hname) h.modules

end RouteClient.Project.Renaming

namespace RouteClient.Project.Attribute

open Renaming

variable {ρ : Renaming} {s s' : Session} (h : ρ.TakesSession s s') {c d : ClassRef} {v w : Value}
  {key : String}

section

variable (hc : ρ.TakesRef c d)

include h hc

theorem record?_takes : Option.Rel ρ.TakesClass (record? s c) (record? s' d) := by
  cases hc with
  | standard _ => exact .none
  | declared hindex => exact h.classes _ _ hindex
  | specialized _ hindex => exact h.classes _ _ hindex

theorem above_takes : List.Forall₂ ρ.TakesRef (above s c) (above s' d) := by
  have hrecord : List.Forall₂ ρ.TakesRef (((record? s c).map (·.above)).getD [])
      (((record? s' d).map (·.above)).getD []) := by
    have hrecord := record?_takes h hc
    generalize record? s c = x, record? s' d = y at hrecord
    cases hrecord with
    | none => exact .nil
    | some hr => exact hr.above
  cases hc with
  | standard d =>
    exact List.forall₂_map_left_iff.2 (List.forall₂_map_right_iff.2
      (List.forall₂_same.2 fun d _ ↦ .standard d))
  | declared hindex => exact hrecord
  | specialized label hindex => exact .cons (.declared hindex) hrecord

theorem lineage_takes : List.Forall₂ ρ.TakesRef (lineage s c) (lineage s' d) :=
  .cons hc (above_takes h hc)

theorem name_takes : name s c = name s' d := by
  cases hc with
  | declared hindex =>
    exact congrArg (Option.getD · "")
      (map_congr_of_rel (h.classes _ _ hindex) fun _ _ hr ↦ hr.name)
  | _ => rfl

theorem qualifiedName_takes : qualifiedName s c = qualifiedName s' d := by
  cases hc with
  | declared hindex =>
    exact congrArg (Option.getD · "")
      (map_congr_of_rel (h.classes _ _ hindex) fun _ _ hr ↦ hr.qualifiedName)
  | _ => rfl

theorem metaclass_takes : metaclass s c = metaclass s' d := by
  have hrecord := map_congr_of_rel (record?_takes h hc) fun _ _ hr ↦ hr.metaclass
  cases hc with
  | standard d => rfl
  | _ => exact congrArg (Option.getD · .plain) hrecord

/-- A class of a project moves with its module. -/
theorem home_takes (hrecord : (record? s c).isSome) :
    ρ.homes (moduleName s c) ∧ moduleName s' d = ρ.name (moduleName s c) := by
  have hrecords := record?_takes h hc
  have hname : moduleName s c = ((record? s c).map (·.moduleName)).getD "" ∧
      moduleName s' d = ((record? s' d).map (·.moduleName)).getD "" := by
    cases hc with
    | standard c => cases hrecord
    | _ => exact ⟨rfl, rfl⟩
  rw [hname.1, hname.2]
  generalize record? s c = x, record? s' d = y at hrecords hrecord
  cases hrecords with
  | none => cases hrecord
  | some hr => exact ⟨hr.home, hr.moduleName⟩

theorem isBelow_takes (e : StandardClass) : isBelow s c e = isBelow s' d e :=
  contains_takes (lineage_takes h hc) (.standard e)

theorem isEnum_takes : isEnum s c = isEnum s' d := isBelow_takes h hc .enum

theorem own?_takes (key : String) : Option.Rel ρ.Takes (own? s c key) (own? s' d key) := by
  cases hc with
  | standard d =>
    unfold own?
    dsimp only
    split
    · exact .some (.builtinFunction key)
    · exact .none
  | declared hindex => exact rel_bind (h.classes _ _ hindex) fun _ _ hr ↦ lookup_takes hr.attributes key
  | specialized label hindex => exact .none

theorem find?_takes (key : String) : Option.Rel ρ.Takes (find? s c key) (find? s' d key) :=
  rel_findSome (lineage_takes h hc) fun _ _ hd ↦ own?_takes h hd key

omit h hc in
theorem throughClass_takes (hv : ρ.Takes v w) : ρ.Takes (throughClass v) (throughClass w) := by
  have hsame := hv
  cases hv with
  | staticFunction h => exact .function h
  | classFunction h => exact .bound h
  | _ => exact hsame

theorem ofClass?_takes (hkey : ¬ρ.hidden key) :
    Option.Rel ρ.Takes (ofClass? s c key) (ofClass? s' d key) := by
  have hfound := rel_map (find?_takes h hc key) fun _ _ ↦ throughClass_takes
  unfold ofClass?
  generalize (find? s c key).map throughClass = x, (find? s' d key).map throughClass = y at hfound
  cases hfound with
  | some hv => exact .some hv
  | none =>
    dsimp only
    split
    · exact absurd (ρ.hides _ (by simp)) hkey
    · exact absurd (ρ.hides _ (by simp)) hkey
    · exact absurd (ρ.hides _ (by simp)) hkey
    · exact .some (.scalar (by simp))
    · exact .some (.cls (.standard _))
    · exact .none

end

include h in
theorem get_takes (hv : ρ.Takes v w) (hkey : ¬ρ.hidden key) :
    Akin ρ.Takes (get s v key) (get s' w key) := by
  cases hv with
  | @cls c d hc =>
    have hfound := ofClass?_takes h hc hkey
    unfold get
    dsimp only
    generalize ofClass? s c key = x, ofClass? s' d key = y at hfound
    cases hfound with
    | none => exact .error .attributeError
    | some hv => exact .ok hv
  | @module i j hindex =>
    have hrecord := h.modules i j hindex
    unfold get
    dsimp only
    generalize s.moduleRecord? i = x, s'.moduleRecord? j = y at hrecord
    cases hrecord with
    | none => exact .error .attributeError
    | some hm =>
      have hbound := hm key hkey
      dsimp only
      revert hbound
      generalize OrderedMap.get? _ key = x, OrderedMap.get? _ key = y
      intro hbound
      cases hbound with
      | none => exact .error .attributeError
      | some hv => exact .ok hv
  | _ => exact .error .attributeError

end RouteClient.Project.Attribute
