import RouteClient.Proofs.OrderedMap
import RouteClient.Proofs.Renaming.Creation

namespace RouteClient.Project.Session

variable {b s : Session} {i : Nat} {f : ModuleRecord → ModuleRecord}

theorem moduleRecord?_updateModule (s : Session) (i : Nat) (f : ModuleRecord → ModuleRecord) (j : Nat) :
    (s.updateModule i f).moduleRecord? j =
      if i = j then (s.moduleRecord? j).map f else s.moduleRecord? j := Array.getElem?_modify

theorem names_updateModule (hname : ∀ m, (f m).name = m.name) (j : Nat) :
    ((s.updateModule i f).moduleRecord? j).map (·.name) = (s.moduleRecord? j).map (·.name) := by
  rw [moduleRecord?_updateModule]
  split
  · rw [Option.map_map, Function.comp_def]
    simp only [hname]
  · rfl

/-- Whatever becomes of a module that is new. -/
theorem lasts_updateModule (hnew : b.modules.size ≤ i) (hname : ∀ m, (f m).name = m.name) :
    b.Lasts s (s.updateModule i f) :=
  { Lasts.refl b s with
    names := fun j _ ↦ names_updateModule hname j
    bindings := fun j hj key _ ↦ by rw [moduleRecord?_updateModule, if_neg (hj.trans_le hnew).ne']
    modules := fun j hj m hm _ ↦ by rwa [moduleRecord?_updateModule, if_neg (hj.trans_le hnew).ne'] }

/-- A package gets the name of a module that has been imported from it. -/
theorem lasts_hold {name : String} {index : Nat} (hindex : b.modules.size ≤ index)
    (hname : (s.moduleRecord? index).map (·.name) = some name)
    (hpackage : (Import.splitName name).1.isSome) {i : Nat}
    (hholder : (s.moduleRecord? i).map (·.name) = (Import.splitName name).1) :
    b.Lasts s (s.updateModule i fun r ↦
      { r with bindings := r.bindings.put (Import.splitName name).2 (.module index) }) := by
  have hnames : ∀ j, ((s.updateModule i fun r ↦
      { r with bindings := r.bindings.put (Import.splitName name).2 (.module index) }).moduleRecord?
        j).map (·.name) = (s.moduleRecord? j).map (·.name) := by
    intro j
    apply names_updateModule
    exact fun _ ↦ rfl
  obtain ⟨n, hn, rfl⟩ := Option.map_eq_some_iff.1 ((hnames index).trans hname)
  refine { Lasts.refl b s with
    names := fun j _ ↦ hnames j
    bindings := fun j _ other hother ↦ ?_
    modules := fun j _ m hm hfree ↦ ?_ }
  · have hne : other ≠ (Import.splitName n.name).2 := fun heq ↦
      hother ⟨index, n, hindex, hn, hpackage, heq.symm⟩
    rw [moduleRecord?_updateModule]
    split
    · rw [Option.bind_map]
      congr 1
      funext r
      exact (OrderedMap.get?_put _ _ _ _).trans (if_neg (by simpa using hne))
    · rfl
  · rw [moduleRecord?_updateModule]
    split
    · next hij =>
      subst hij
      rw [hm] at hholder
      exact absurd ⟨index, n, hindex, hn, hholder.symm⟩ hfree
    · exact hm

end RouteClient.Project.Session

namespace RouteClient.Project.Renaming

variable {ρ : Renaming} {near : Placement} {b s s' : Session}

theorem extended_name {t : Session} {name : String} {i : Nat} (hst : b.Lasts s t)
    (h : (s.moduleRecord? i).map (·.name) = some name) :
    (t.moduleRecord? i).map (·.name) = some name := by
  obtain ⟨m, hm, rfl⟩ := Option.map_eq_some_iff.1 h
  obtain ⟨m', hm', hname⟩ := hst.record hm
  rw [hm', Option.map_some, hname]

theorem Mirrors.updateModule (h : Mirrors ρ near b s s') {i j : Nat} (hi : (ρ.upTo s).modules i j)
    {f k : ModuleRecord → ModuleRecord}
    (hfk : ∀ m m', s.moduleRecord? i = some m → TakesPlace (ρ.upTo s) near m m' →
      TakesPlace (ρ.upTo s) near (f m) (k m'))
    (hextended : b.Lasts s (s.updateModule i f)) :
    Mirrors ρ near b (s.updateModule i f) (s'.updateModule j k) := by
  have hwithin := hextended.within ρ
  constructor
  case classes => exact fun i j hi ↦ rel_mono (h.classes i j hi) fun _ _ hr ↦ hr.within hwithin
  case functions => exact fun i j hi ↦ rel_mono (h.functions i j hi) fun _ _ hf ↦ hf.within hwithin
  case modules =>
    refine rel_modify ρ.modulesUnique hi.1 (fun i j hi ↦ ?_) fun m m' hm hm' htakes ↦ ?_
    · exact rel_mono (h.modules i j hi) fun _ _ hm ↦ hm.within hwithin
    · have hold := h.modules i j hi
      rw [show s.moduleRecord? i = some m from hm, show s'.moduleRecord? j = some m' from hm'] at hold
      cases hold with | some hold
      exact (hfk m m' hm hold).within hwithin
  case loaded => exact fun n hn ↦ rel_mono (h.loaded n hn) hwithin.modules
  case named => exact fun n hn i hi ↦ extended_name hextended (h.named n hn i hi)
  case nextClass => exact h.nextClass
  case nextFunction => exact h.nextFunction
  case nextModule =>
    intro n
    change ρ.modules ((s.modules.modify i f).size + n) ((s'.modules.modify j k).size + n)
    rw [Array.size_modify, Array.size_modify]
    exact h.nextModule n
  case typing => exact hwithin.modules _ _ h.typing
  case tree => exact h.tree
  case searchPath => exact h.searchPath
  case baseClasses => exact h.baseClasses
  case baseModules => exact h.baseModules.trans hextended.modules_le

theorem Lockstep.updateModule (h : Mirrors ρ near b s s') {i j : Nat} (hi : (ρ.upTo s).modules i j)
    {f k : ModuleRecord → ModuleRecord}
    (hfk : ∀ m m', s.moduleRecord? i = some m → TakesPlace (ρ.upTo s) near m m' →
      TakesPlace (ρ.upTo s) near (f m) (k m'))
    (hextended : b.Lasts s (s.updateModule i f)) :
    Lockstep ρ near b (fun _ _ _ ↦ True) s s' (modify (·.updateModule i f))
      (modify (·.updateModule j k)) :=
  ⟨.ok trivial, h.updateModule hi hfk hextended, hextended⟩

structure TakesNamed (ρ : Renaming) (name : String) (s : Session) (i j : Nat) : Prop where
  takes : (ρ.upTo s).modules i j
  name : (s.moduleRecord? i).map (·.name) = some name

/-- A module of the given name that has come after the session at the beginning. -/
structure TakesNew (ρ : Renaming) (b : Session) (name : String) (s : Session) (i j : Nat) : Prop
    extends TakesNamed ρ name s i j where
  isNew : b.modules.size ≤ i

theorem TakesNamed.extended {t : Session} {name : String} {i j : Nat} (h : TakesNamed ρ name s i j)
    (hst : b.Lasts s t) : TakesNamed ρ name t i j :=
  ⟨(hst.within ρ).modules _ _ h.takes, extended_name hst h.name⟩

theorem TakesNew.extended {t : Session} {name : String} {i j : Nat} (h : TakesNew ρ b name s i j)
    (hst : b.Lasts s t) : TakesNew ρ b name t i j := ⟨h.toTakesNamed.extended hst, h.isNew⟩

theorem TakesPlace.put {m m' : ModuleRecord} (h : TakesPlace ρ near m m') (name : String) {v w : Value}
    (hv : ρ.Takes v w) :
    TakesPlace ρ near { m with bindings := m.bindings.put name v }
      { m' with bindings := m'.bindings.put name w } :=
  { h with bindings := putEntries_takes name hv h.bindings }

/-- A new module has the same place on both sides, after all that was there at the beginning. -/
theorem Lockstep.addModule (h : Mirrors ρ near b s s') {m m' : ModuleRecord}
    (hm : TakesPlace (ρ.upTo s) near m m') :
    Lockstep ρ near b (TakesNew ρ b m.name) s s' (modifyGet (·.addModule m))
      (modifyGet (·.addModule m')) := by
  have hextended : b.Lasts s (s.addModule m).2 :=
    { Session.Lasts.refl b s with
      names := fun i hi ↦ congrArg (Option.map _) (getElem?_push_of_lt hi m)
      bindings := fun i hi key _ ↦ congrArg (Option.bind · _)
        (getElem?_push_of_lt (hi.trans_le h.baseModules) m)
      modules := fun i hi _ hn _ ↦ (getElem?_push_of_lt (hi.trans_le h.baseModules) m).trans hn }
  have hwithin := hextended.within ρ
  have hrecord : (s.addModule m).2.moduleRecord? s.modules.size = some m := Array.getElem?_push_size
  refine ⟨.ok ⟨⟨⟨h.nextModule 0, lt_size_push _ _⟩, congrArg _ hrecord⟩, h.baseModules⟩, ?_, hextended⟩
  constructor
  case classes => exact fun i j hi ↦ rel_mono (h.classes i j hi) fun _ _ hr ↦ hr.within hwithin
  case functions => exact fun i j hi ↦ rel_mono (h.functions i j hi) fun _ _ hf ↦ hf.within hwithin
  case modules =>
    refine rel_push ρ.modulesUnique (h.nextModule 0) (fun i j hi ↦ ?_) (hm.within hwithin)
    exact rel_mono (h.modules i j hi) fun _ _ hm ↦ hm.within hwithin
  case loaded => exact fun n hn ↦ rel_mono (h.loaded n hn) hwithin.modules
  case named => exact fun n hn i hi ↦ extended_name hextended (h.named n hn i hi)
  case nextClass => exact h.nextClass
  case nextFunction => exact h.nextFunction
  case nextModule => exact next_push h.nextModule m m'
  case typing => exact hwithin.modules _ _ h.typing
  case tree => exact h.tree
  case searchPath => exact h.searchPath
  case baseClasses => exact h.baseClasses
  case baseModules => exact h.baseModules.trans hextended.modules_le

theorem name_beq (ρ : Renaming) (m n : String) : (ρ.name m == ρ.name n) = (m == n) := by
  rw [Bool.eq_iff_iff, beq_iff_eq, beq_iff_eq, ρ.injective.eq_iff]

/-- Mirrors of the same classes, functions and modules that have loaded others. -/
theorem Mirrors.reload (h : Mirrors ρ near b s s') {loaded loaded' : OrderedMap String Nat}
    (hloaded : ∀ n, ρ.homes n →
      Option.Rel (ρ.upTo s).modules (loaded.get? n) (loaded'.get? (ρ.name n)))
    (hnamed : ∀ n, ρ.homes n → ∀ i, loaded.get? n = some i →
      (s.moduleRecord? i).map (·.name) = some n) :
    Mirrors ρ near b { s with loaded } { s' with loaded := loaded' } :=
  { h with
    loaded := hloaded
    named := hnamed }

theorem Lockstep.putLoaded (h : Mirrors ρ near b s s') {n : String} (hnone : s.loaded.get? n = none)
    {i j : Nat} (hi : TakesNew ρ b n s i j) :
    Lockstep ρ near b (fun _ _ _ ↦ True) s s' (modify fun s ↦ { s with loaded := s.loaded.put n i })
      (modify fun s ↦ { s with loaded := s.loaded.put (ρ.name n) j }) := by
  refine ⟨.ok trivial, h.reload (fun k hk ↦ ?_) fun k hk l hl ↦ ?_, ?_⟩
  · rw [OrderedMap.get?_put, OrderedMap.get?_put, name_beq]
    split
    · exact .some hi.takes
    · exact h.loaded k hk
  · rw [OrderedMap.get?_put] at hl
    split at hl
    · next hkn =>
      obtain rfl := Option.some_inj.1 hl
      rw [hi.name, eq_of_beq hkn]
    · exact h.named k hk l hl
  · refine { Session.Lasts.refl b s with
      loaded := fun k l _ hl ↦ ?_
      fresh := fun k l hl ↦ ?_ }
    · have hne : k ≠ n := by
        rintro rfl
        rw [hnone] at hl
        cases hl
      exact (OrderedMap.get?_put _ _ _ _).trans ((if_neg (by simpa using hne)).trans hl)
    · have hl : (s.loaded.put n i).get? k = some l := hl
      rw [OrderedMap.get?_put] at hl
      split at hl
      · obtain rfl := Option.some_inj.1 hl
        exact .inr hi.isNew
      · exact .inl hl

theorem Lockstep.eraseLoaded (h : Mirrors ρ near b s s') {n : String}
    (hnew : ∀ i, s.loaded.get? n = some i → b.modules.size ≤ i) :
    Lockstep ρ near b (fun _ _ _ ↦ True) s s' (modify fun s ↦ { s with loaded := s.loaded.erase n })
      (modify fun s ↦ { s with loaded := s.loaded.erase (ρ.name n) }) := by
  refine ⟨.ok trivial, h.reload (fun k hk ↦ ?_) fun k hk l hl ↦ ?_, ?_⟩
  · rw [OrderedMap.get?_erase, OrderedMap.get?_erase, name_beq]
    split
    · exact .none
    · exact h.loaded k hk
  · rw [OrderedMap.get?_erase] at hl
    split at hl
    · cases hl
    · exact h.named k hk l hl
  · refine { Session.Lasts.refl b s with
      loaded := fun k l hlt hl ↦ ?_
      fresh := fun k l hl ↦ ?_ }
    · have hne : k ≠ n := by
        rintro rfl
        exact absurd hlt (not_lt.2 (hnew l hl))
      exact OrderedMap.get?_erase.trans ((if_neg (by simpa using hne)).trans hl)
    · have hl : (s.loaded.erase n).get? k = some l := hl
      rw [OrderedMap.get?_erase] at hl
      split at hl
      · cases hl
      · exact .inl hl

end RouteClient.Project.Renaming

namespace RouteClient.Project.Prelude

open Renaming

variable {ρ : Renaming}

/-- A value that belongs to no project. -/
def isLasting : Value → Bool
  | .cls (.standard _) | .form _ | .classForm .. | .builtinFunction _ | .object _
  | .scalar (.bool _) => true
  | _ => false

theorem takes_of_isLasting {v : Value} (h : isLasting v) : ρ.Takes v v := by
  unfold isLasting at h
  split at h
  · exact .cls (.standard _)
  · exact .form _
  · exact .classForm ..
  · exact .builtinFunction _
  · exact .object _
  · exact .scalar fun _ ht ↦ nomatch ht
  · cases h

/-- The names that a module begins with. -/
theorem names_takes (htyping : ρ.modules (indexOf "typing") (indexOf "typing")) (moduleName : String)
    (postponed : Bool) :
    ρ.TakesEntries (names moduleName postponed) (names (ρ.name moduleName) postponed) := by
  have hlasting : ∀ {entries : List (String × Value)}, entries.all (fun e ↦ isLasting e.2) →
      ρ.TakesEntries entries entries := fun hall ↦ List.forall₂_same.2 fun e he ↦
    ⟨rfl, takes_of_isLasting (List.all_eq_true.1 hall e he)⟩
  unfold names
  refine List.rel_append ?_
    (.cons ⟨rfl, .cls (.standard _)⟩ (.cons ⟨rfl, .cls (.standard _)⟩ (.cons ⟨rfl, .typeVar ..⟩ .nil)))
  repeat refine List.rel_append ?_ (hlasting rfl)
  refine List.rel_append ?_ (.cons ⟨rfl, .module htyping⟩ .nil)
  cases postponed <;> exact hlasting rfl

end RouteClient.Project.Prelude
