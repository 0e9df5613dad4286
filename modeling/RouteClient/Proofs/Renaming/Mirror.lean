import RouteClient.Proofs.Project.Run
import RouteClient.Proofs.Renaming.Growth
import RouteClient.Proofs.Renaming.Sources

namespace RouteClient.Project.Renaming

/-- The second session has all that the first one has, renamed, and what the two get next
corresponds as well. All of it has come after a session that is at their beginning. -/
structure Mirrors (ρ : Renaming) (near : Placement) (b s s' : Session) :
    Prop where
  classes : ∀ i j, (ρ.upTo s).classes i j →
    Option.Rel (TakesRecord (ρ.upTo s)) (s.classRecord? i) (s'.classRecord? j)
  functions : ∀ i j, (ρ.upTo s).functions i j →
    Option.Rel (ρ.upTo s).TakesFunction (s.functionRecord? i) (s'.functionRecord? j)
  modules : ∀ i j, (ρ.upTo s).modules i j →
    Option.Rel (TakesPlace (ρ.upTo s) near) (s.moduleRecord? i) (s'.moduleRecord? j)
  loaded : ∀ n, ρ.homes n →
    Option.Rel (ρ.upTo s).modules (s.loaded.get? n) (s'.loaded.get? (ρ.name n))
  named : ∀ n, ρ.homes n → ∀ i, s.loaded.get? n = some i → (s.moduleRecord? i).map (·.name) = some n
  nextClass : ∀ k, ρ.classes (s.classes.size + k) (s'.classes.size + k)
  nextFunction : ∀ k, ρ.functions (s.functions.size + k) (s'.functions.size + k)
  nextModule : ∀ k, ρ.modules (s.modules.size + k) (s'.modules.size + k)
  typing : (ρ.upTo s).modules (Prelude.indexOf "typing") (Prelude.indexOf "typing")
  tree : ρ.TakesTree near s.tree s'.tree
  searchPath : near none s.searchPath s'.searchPath
  baseClasses : b.classes.size ≤ s.classes.size
  baseModules : b.modules.size ≤ s.modules.size

variable {ρ : Renaming} {near : Placement} {b s s' t t' : Session}

theorem Mirrors.takesSession (h : Mirrors ρ near b s s') : (ρ.upTo s).TakesSession s s' where
  classes i j hi := rel_mono (h.classes i j hi) fun _ _ ↦ TakesRecord.toTakesClass
  functions := h.functions
  modules i j hi := rel_mono (h.modules i j hi) fun _ _ ↦ TakesPlace.takesModule
  loaded n hn := h.loaded n hn.1

theorem Mirrors.place (h : Mirrors ρ near b s s') {i j : Nat} (hi : (ρ.upTo s).modules i j) :
    ∃ m m', s.moduleRecord? i = some m ∧ s'.moduleRecord? j = some m' ∧
      TakesPlace (ρ.upTo s) near m m' := by
  have hsize : i < s.modules.size := hi.2
  have hm : s.moduleRecord? i = some s.modules[i] := Array.getElem?_eq_getElem hsize
  have hplace := h.modules i j hi
  rw [hm] at hplace
  rcases hm' : s'.moduleRecord? j with _ | m'
  · rw [hm'] at hplace
    cases hplace
  · rw [hm'] at hplace
    cases hplace with | some hplace
    exact ⟨_, _, hm, rfl, hplace⟩

/-- What is logged makes no difference. -/
theorem Mirrors.relog (h : Mirrors ρ near b s s') (log log' : Array LogLine) :
    Mirrors ρ near b { s with log } { s' with log := log' } :=
  { h with loaded := h.loaded }

/-- A predicate on values stays true as a session grows. -/
def Stays (b : Session) {α β : Type} (S : Session → α → β → Prop) : Prop :=
  ∀ {s t}, b.Lasts s t → ∀ {a c}, S s a c → S t a c

/-- Two computations from sessions that mirror each other end in such sessions, with results that
correspond. -/
structure Lockstep (ρ : Renaming) (near : Placement) (b : Session) {α β : Type}
    (S : Session → α → β → Prop) (s s' : Session) (x : Run α) (y : Run β) : Prop where
  outcome : Outcomes ρ.TakesRaised (S (x s).2) (x s).1 (y s').1
  mirrors : Mirrors ρ near b (x s).2 (y s').2
  extended : b.Lasts s (x s).2

variable {α α' β β' : Type} {R : Session → α → α' → Prop} {S : Session → β → β' → Prop}
  {x : Run α} {y : Run α'} {f : α → Run β} {k : α' → Run β'}

theorem Lockstep.pure (h : Mirrors ρ near b s s') {a : α} {a' : α'} (ha : R s a a') :
    Lockstep ρ near b R s s' (pure a) (pure a') := ⟨.ok ha, h, .refl b s⟩

theorem Lockstep.throw (h : Mirrors ρ near b s s') {r r' : Raised} (hr : ρ.TakesRaised r r') :
    Lockstep ρ near b R s s' (throw r : Run α) (throw r' : Run α') := ⟨.error hr, h, .refl b s⟩

theorem Lockstep.note (h : Mirrors ρ near b s s') (level : Level) (text text' : String) :
    Lockstep ρ near b (fun _ _ _ ↦ True) s s' (modify (·.note level text))
      (modify (·.note level text')) :=
  ⟨.ok trivial, h.relog _ _, Session.lasts_relog b s _⟩

theorem Lockstep.bind_run (h : Lockstep ρ near b R s s' x y)
    (hf : ∀ a a' t t', x s = (.ok a, t) → Mirrors ρ near b t t' → b.Lasts s t → R t a a' →
      Lockstep ρ near b S t t' (f a) (k a')) :
    Lockstep ρ near b S s s' (x >>= f) (y >>= k) := by
  obtain ⟨houtcome, hmirrors, hextended⟩ := h
  rcases hx : x s with ⟨result, t⟩
  rcases hy : y s' with ⟨result', t'⟩
  rw [hx] at houtcome hmirrors hextended
  rw [hy] at houtcome hmirrors
  cases houtcome with
  | error hr =>
    constructor
    case outcome =>
      rw [Run.bind_error hx, Run.bind_error hy]
      exact .error hr
    case mirrors => rwa [Run.bind_error hx, Run.bind_error hy]
    case extended => rwa [Run.bind_error hx]
  | ok ha =>
    obtain ⟨hnext, hmirrors', hextended'⟩ := hf _ _ t t' hx hmirrors hextended ha
    constructor
    case outcome => rwa [Run.bind_ok hx, Run.bind_ok hy]
    case mirrors => rwa [Run.bind_ok hx, Run.bind_ok hy]
    case extended =>
      rw [Run.bind_ok hx]
      exact hextended.trans hextended'

theorem Lockstep.bind (h : Lockstep ρ near b R s s' x y)
    (hf : ∀ a a' t t', Mirrors ρ near b t t' → b.Lasts s t → R t a a' →
      Lockstep ρ near b S t t' (f a) (k a')) :
    Lockstep ρ near b S s s' (x >>= f) (y >>= k) :=
  h.bind_run fun a a' t t' _ ↦ hf a a' t t'

theorem Lockstep.ite_bind {p q : Bool} (hpq : p = q) {x₁ x₂ : Run α} {y₁ y₂ : Run α'}
    (h : Lockstep ρ near b R s s' (if p then x₁ else x₂) (if q then y₁ else y₂))
    (hf : ∀ a a' t t', Mirrors ρ near b t t' → b.Lasts s t → R t a a' →
      Lockstep ρ near b S t t' (f a) (k a')) :
    Lockstep ρ near b S s s' (if p then x₁ >>= f else x₂ >>= f)
      (if q then y₁ >>= k else y₂ >>= k) := by
  obtain rfl := hpq
  cases p <;> exact h.bind hf

theorem Lockstep.reading (h : Mirrors ρ near b s s') {f : Session → Except Raised α}
    {k : Session → Except Raised α'}
    (hfk : Outcomes ρ.TakesRaised (R s) (f s) (k s')) :
    Lockstep ρ near b R s s' (Run.reading f) (Run.reading k) := by
  have hread : ∀ {γ : Type} (f : Session → Except Raised γ) (s : Session),
      Run.reading f s = (f s, s) := by
    intro γ f s
    unfold Run.reading
    rw [Run.bind_ok (show (get : Run Session) s = (.ok s, s) from rfl)]
    cases f s <;> rfl
  constructor
  case outcome => rwa [hread, hread]
  case mirrors => rwa [hread, hread]
  case extended =>
    rw [hread]
    exact .refl b s

theorem Lockstep.akin (h : Mirrors ρ near b s s') {f : Session → Except Raised α}
    {k : Session → Except Raised α'} (hfk : Akin (R s) (f s) (k s')) :
    Lockstep ρ near b R s s' (Run.reading f) (Run.reading k) :=
  .reading h (hfk.imp fun _ _ ↦ TakesRaised.of_kin)

theorem Lockstep.get_bind {f : Session → Run β} {k : Session → Run β'}
    (h : Lockstep ρ near b S s s' (f s) (k s')) :
    Lockstep ρ near b S s s' (get >>= f) (get >>= k) := ⟨h.outcome, h.mirrors, h.extended⟩

theorem Lockstep.mono {T : Session → α → α' → Prop} (h : Lockstep ρ near b R s s' x y)
    (hRT : ∀ t a a', R t a a' → T t a a') : Lockstep ρ near b T s s' x y :=
  ⟨h.outcome.mono (hRT _), h.mirrors, h.extended⟩

theorem Lockstep.attempt (h : Lockstep ρ near b R s s' x y) :
    Lockstep ρ near b (fun t ↦ Outcomes ρ.TakesRaised (R t)) s s' (Run.attempt x) (Run.attempt y) :=
  ⟨.ok h.outcome, h.mirrors, h.extended⟩

section

variable {P : α → α' → Prop} {xs : List α} {ys : List α'}

theorem Lockstep.foldlM {f : β → α → Run β} {k : β' → α' → Run β'} (hxs : List.Forall₂ P xs ys)
    (h : Mirrors ρ near b s s') {c : β} {c' : β'} (hc : S s c c')
    (hf : ∀ a a' c c' t t', P a a' → Mirrors ρ near b t t' → b.Lasts s t → S t c c' →
      Lockstep ρ near b S t t' (f c a) (k c' a')) :
    Lockstep ρ near b S s s' (xs.foldlM f c) (ys.foldlM k c') := by
  induction hxs generalizing s s' c c' with
  | nil => exact .pure h hc
  | cons ha _ ih =>
    rw [List.foldlM_cons, List.foldlM_cons]
    refine (hf _ _ c c' s s' ha h (.refl b s) hc).bind fun c c' t t' h hst hc ↦ ?_
    exact ih h hc fun a a' c c' u u' ha h htu ↦ hf a a' c c' u u' ha h (hst.trans htu)

theorem Lockstep.forM {f : α → Run Unit} {k : α' → Run Unit} (hxs : List.Forall₂ P xs ys)
    (h : Mirrors ρ near b s s')
    (hf : ∀ a a' t t', P a a' → Mirrors ρ near b t t' → b.Lasts s t →
      Lockstep ρ near b (fun _ _ _ ↦ True) t t' (f a) (k a')) :
    Lockstep ρ near b (fun _ _ _ ↦ True) s s' (xs.forM f) (ys.forM k) := by
  induction hxs generalizing s s' with
  | nil => exact .pure h trivial
  | cons ha _ ih =>
    refine (hf _ _ s s' ha h (.refl b s)).bind fun _ _ t t' h hst _ ↦ ?_
    exact ih h fun a a' u u' ha h htu ↦ hf a a' u u' ha h (hst.trans htu)

theorem Lockstep.mapM (hS : Stays b S) {f : α → Run β} {k : α' → Run β'} (hxs : List.Forall₂ P xs ys)
    (h : Mirrors ρ near b s s')
    (hf : ∀ a a' t t', P a a' → Mirrors ρ near b t t' → b.Lasts s t →
      Lockstep ρ near b S t t' (f a) (k a')) :
    Lockstep ρ near b (fun t ↦ List.Forall₂ (S t)) s s' (xs.mapM f) (ys.mapM k) := by
  induction hxs generalizing s s' with
  | nil => exact .pure h .nil
  | cons ha _ ih =>
    rw [List.mapM_cons, List.mapM_cons]
    refine (hf _ _ s s' ha h (.refl b s)).bind fun c c' t t' h hst hc ↦ ?_
    refine (ih h fun a a' u u' ha h htu ↦ hf a a' u u' ha h (hst.trans htu)).bind
      fun cs cs' u u' h htu hcs ↦ .pure h (.cons (hS htu hc) hcs)

theorem Lockstep.option_mapM {f : α → Run β} {k : α' → Run β'} {x : Option α} {y : Option α'}
    (hxy : Option.Rel P x y) (h : Mirrors ρ near b s s')
    (hf : ∀ a a', P a a' → Lockstep ρ near b S s s' (f a) (k a')) :
    Lockstep ρ near b (fun t c c' ↦ Option.Rel (S t) c c' ∧ c.isSome = x.isSome) s s' (x.mapM f)
      (y.mapM k) := by
  cases hxy with
  | none => exact .pure h ⟨.none, rfl⟩
  | some ha => exact (hf _ _ ha).bind fun c c' t t' h _ hc ↦ .pure h ⟨.some hc, rfl⟩

end

section

variable {γ δ : Type} {T : γ → δ → Prop} {N : Nat → Nat → Prop} {xs : Array γ} {ys : Array δ}

theorem rel_push (hN : Relator.BiUnique N) (hnext : N xs.size ys.size)
    (h : ∀ i j, N i j ∧ i < xs.size → Option.Rel T xs[i]? ys[j]?) {c : γ} {d : δ} (hcd : T c d)
    (i j : Nat) (hi : N i j ∧ i < (xs.push c).size) :
    Option.Rel T (xs.push c)[i]? (ys.push d)[j]? := by
  have hsame := eq_iff_of_biUnique hN hi.1 hnext
  rw [Array.getElem?_push, Array.getElem?_push]
  by_cases hlast : i = xs.size
  · rw [if_pos hlast, if_pos (hsame.1 hlast)]
    exact .some hcd
  · rw [if_neg hlast, if_neg fun hj ↦ hlast (hsame.2 hj)]
    refine h i j ⟨hi.1, ?_⟩
    have hsize := hi.2
    rw [Array.size_push] at hsize
    omega

theorem rel_modify (hN : Relator.BiUnique N) {i₀ j₀ : Nat} (h₀ : N i₀ j₀)
    (h : ∀ i j, N i j ∧ i < xs.size → Option.Rel T xs[i]? ys[j]?) {f : γ → γ} {k : δ → δ}
    (hfk : ∀ c d, xs[i₀]? = some c → ys[j₀]? = some d → T c d → T (f c) (k d))
    (i j : Nat) (hi : N i j ∧ i < (xs.modify i₀ f).size) :
    Option.Rel T (xs.modify i₀ f)[i]? (ys.modify j₀ k)[j]? := by
  have hsame := eq_iff_of_biUnique hN h₀ hi.1
  rw [Array.size_modify] at hi
  have hold := h i j hi
  rw [Array.getElem?_modify, Array.getElem?_modify]
  by_cases hi₀ : i₀ = i
  · obtain rfl := hi₀
    obtain rfl := hsame.1 rfl
    rw [if_pos rfl, if_pos rfl]
    generalize xs[i₀]? = x, ys[j₀]? = y at hold hfk
    cases hold with
    | none => exact .none
    | some hcd => exact .some (hfk _ _ rfl rfl hcd)
  · rw [if_neg hi₀, if_neg fun hj₀ ↦ hi₀ (hsame.2 hj₀)]
    exact hold

end

/-- The sizes of both sides grow alike. -/
theorem next_push {γ δ : Type} {N : Nat → Nat → Prop} {xs : Array γ} {ys : Array δ}
    (h : ∀ k, N (xs.size + k) (ys.size + k)) (c : γ) (d : δ) (k : Nat) :
    N ((xs.push c).size + k) ((ys.push d).size + k) := by
  rw [Array.size_push, Array.size_push, Nat.add_right_comm, Nat.add_right_comm ys.size]
  exact h (k + 1)

theorem getElem?_push_of_lt {γ : Type} {xs : Array γ} {i : Nat} (h : i < xs.size) (c : γ) :
    (xs.push c)[i]? = xs[i]? := by
  rw [Array.getElem?_push, if_neg h.ne]

theorem Mirrors.addFunction (h : Mirrors ρ near b s s') {f f' : FunctionRecord}
    (hf : (ρ.upTo s).TakesFunction f f') :
    Mirrors ρ near b (s.addFunction f).2 (s'.addFunction f').2 ∧ b.Lasts s (s.addFunction f).2 := by
  have hextended : b.Lasts s (s.addFunction f).2 :=
    { Session.Lasts.refl b s with functions := fun i hi ↦ getElem?_push_of_lt hi f }
  have hwithin := hextended.within ρ
  refine ⟨?_, hextended⟩
  constructor
  case classes => exact fun i j hi ↦ rel_mono (h.classes i j hi) fun _ _ hr ↦ hr.within hwithin
  case functions =>
    refine rel_push ρ.functionsUnique (h.nextFunction 0) (fun i j hi ↦ ?_) (hf.within hwithin)
    exact rel_mono (h.functions i j hi) fun _ _ hf ↦ hf.within hwithin
  case modules => exact fun i j hi ↦ rel_mono (h.modules i j hi) fun _ _ hm ↦ hm.within hwithin
  case loaded => exact fun n hn ↦ rel_mono (h.loaded n hn) hwithin.modules
  case nextFunction => exact next_push h.nextFunction f f'
  case named => exact h.named
  case nextClass => exact h.nextClass
  case nextModule => exact h.nextModule
  case typing => exact h.typing
  case tree => exact h.tree
  case searchPath => exact h.searchPath
  case baseClasses => exact h.baseClasses
  case baseModules => exact h.baseModules

theorem lt_size_push {γ : Type} (xs : Array γ) (c : γ) : xs.size < (xs.push c).size := by
  rw [Array.size_push]
  exact Nat.lt_succ_self _

/-- A new function has the same place on both sides. -/
theorem Lockstep.addFunction (h : Mirrors ρ near b s s') {f f' : FunctionRecord}
    (hf : (ρ.upTo s).TakesFunction f f') :
    Lockstep ρ near b (fun t ↦ (ρ.upTo t).functions) s s' (Run.addFunction f) (Run.addFunction f') := by
  obtain ⟨hmirrors, hextended⟩ := h.addFunction hf
  exact ⟨.ok ⟨h.nextFunction 0, lt_size_push _ _⟩, hmirrors, hextended⟩

theorem Mirrors.addClass (h : Mirrors ρ near b s s') {r r' : ClassRecord}
    (hhome : ρ.homes r.moduleName) (hr : TakesRecord ((ρ.upTo s).withHome r.moduleName) r r') :
    Mirrors ρ near b (s.addClass r).2 (s'.addClass r').2 ∧ b.Lasts s (s.addClass r).2 := by
  have hextended : b.Lasts s (s.addClass r).2 :=
    { Session.Lasts.refl b s with
      classes := fun i hi ↦ getElem?_push_of_lt (hi.trans_le h.baseClasses) r
      homes := fun i hi ↦ congrArg (Option.map _) (getElem?_push_of_lt hi r) }
  have hwithin := hextended.within ρ
  have hmade : (s.addClass r).2.Makes r.moduleName :=
    .inr ⟨s.classes.size, r, Array.getElem?_push_size, rfl⟩
  have hwithHome : ((ρ.upTo s).withHome r.moduleName).Within (ρ.upTo (s.addClass r).2) :=
    { hwithin with homes := fun n hn ↦ hn.elim (hwithin.homes n) fun hn ↦ hn ▸ ⟨hhome, hmade⟩ }
  refine ⟨?_, hextended⟩
  constructor
  case classes =>
    refine rel_push ρ.classesUnique (h.nextClass 0) (fun i j hi ↦ ?_) (hr.within hwithHome)
    exact rel_mono (h.classes i j hi) fun _ _ hr ↦ hr.within hwithin
  case functions => exact fun i j hi ↦ rel_mono (h.functions i j hi) fun _ _ hf ↦ hf.within hwithin
  case modules => exact fun i j hi ↦ rel_mono (h.modules i j hi) fun _ _ hm ↦ hm.within hwithin
  case loaded => exact fun n hn ↦ rel_mono (h.loaded n hn) hwithin.modules
  case nextClass => exact next_push h.nextClass r r'
  case named => exact h.named
  case nextFunction => exact h.nextFunction
  case nextModule => exact h.nextModule
  case typing => exact h.typing
  case tree => exact h.tree
  case searchPath => exact h.searchPath
  case baseClasses => exact h.baseClasses.trans hextended.classes_le
  case baseModules => exact h.baseModules

/-- A new class has the same place on both sides, after all that was there at the beginning. -/
theorem Lockstep.addClass (h : Mirrors ρ near b s s') {r r' : ClassRecord}
    (hhome : ρ.homes r.moduleName) (hr : TakesRecord ((ρ.upTo s).withHome r.moduleName) r r') :
    Lockstep ρ near b (fun t i j ↦ (ρ.upTo t).classes i j ∧ b.classes.size ≤ i) s s' (Run.addClass r)
      (Run.addClass r') := by
  obtain ⟨hmirrors, hextended⟩ := h.addClass hhome hr
  exact ⟨.ok ⟨⟨h.nextClass 0, lt_size_push _ _⟩, h.baseClasses⟩, hmirrors, hextended⟩

/-- A class that is still being made gets another record, of the same module. -/
theorem Lockstep.updateClass (h : Mirrors ρ near b s s') {i j : Nat} (hi : (ρ.upTo s).classes i j)
    (hnew : b.classes.size ≤ i) {f k : ClassRecord → ClassRecord}
    (hfk : ∀ r r', s.classRecord? i = some r → s'.classRecord? j = some r' →
      TakesRecord (ρ.upTo s) r r' → TakesRecord (ρ.upTo s) (f r) (k r'))
    (hhome : ∀ r, (f r).moduleName = r.moduleName) :
    Lockstep ρ near b (fun _ _ _ ↦ True) s s' (modify (·.updateClass i f))
      (modify (·.updateClass j k)) := by
  have hextended : b.Lasts s (s.updateClass i f) := by
    refine { Session.Lasts.refl b s with
      classes := fun m hm ↦ ?_
      homes := fun m hm ↦ ?_ }
    · exact Array.getElem?_modify.trans (if_neg (hm.trans_le hnew).ne')
    · have hrecord : (s.updateClass i f).classRecord? m =
          if i = m then (s.classRecord? m).map f else s.classRecord? m := Array.getElem?_modify
      rw [hrecord]
      split
      · rw [Option.map_map, Function.comp_def]
        simp only [hhome]
      · rfl
  have hwithin := hextended.within ρ
  refine ⟨.ok trivial, ?_, hextended⟩
  constructor
  case classes =>
    refine rel_modify ρ.classesUnique hi.1 (fun i j hi ↦ ?_) fun r r' hr hr' htakes ↦ ?_
    · exact rel_mono (h.classes i j hi) fun _ _ hr ↦ hr.within hwithin
    · have hold := h.classes i j hi
      rw [show s.classRecord? i = some r from hr, show s'.classRecord? j = some r' from hr'] at hold
      cases hold with | some hold
      exact (hfk r r' hr hr' hold).within hwithin
  case functions => exact fun i j hi ↦ rel_mono (h.functions i j hi) fun _ _ hf ↦ hf.within hwithin
  case modules => exact fun i j hi ↦ rel_mono (h.modules i j hi) fun _ _ hm ↦ hm.within hwithin
  case loaded => exact fun n hn ↦ rel_mono (h.loaded n hn) hwithin.modules
  case nextClass =>
    intro n
    change ρ.classes ((s.classes.modify i f).size + n) ((s'.classes.modify j k).size + n)
    rw [Array.size_modify, Array.size_modify]
    exact h.nextClass n
  case named => exact h.named
  case nextFunction => exact h.nextFunction
  case nextModule => exact h.nextModule
  case typing => exact h.typing
  case tree => exact h.tree
  case searchPath => exact h.searchPath
  case baseClasses => exact h.baseClasses.trans hextended.classes_le
  case baseModules => exact h.baseModules

end RouteClient.Project.Renaming
