import RouteClient.Proofs.OrderedMap
import RouteClient.Proofs.Project.Hints
import RouteClient.Proofs.Project.Lookups

namespace RouteClient.Project

/-- An annotation with the scope that it has among all others of its class or function. By itself it
sees the outer names. -/
structure Annotation where
  name : String
  value : Value
  scope : Scope
  inClass : Bool
  outer : String → Option Value

end RouteClient.Project

namespace RouteClient.Project.Evaluate

/-- Whether evaluating a value comes upon a name that is quoted inside of a typing form. All modules
that write the same form share it, and with it what the name has meant to the first of them. -/
def meetsQuoted (s : Session) (scope : Scope) : Nat → Value → Bool
  | 0, _ => true
  | fuel + 1, v =>
    match v with
    | .reference .. => true
    | .scalar (.text text) =>
      match ofText s scope text with
      | .ok found => meetsQuoted s scope fuel found
      | .error _ => false
    | .plainAlias _ vs | .typingAlias _ _ vs | .union vs | .bars vs =>
      vs.any (meetsQuoted s scope fuel)
    | .applied _ v | .annotated v _ => meetsQuoted s scope fuel v
    | _ => false

end RouteClient.Project.Evaluate

namespace RouteClient.Project.Hints

variable (s : Session) (locals : String → Option Value)

def annotations : Annotated → List Annotation
  | .cls c => (Attribute.lineage s c).reverse.flatMap fun d ↦ (ownAnnotations s d).map fun a ↦
      ⟨a.1, a.2, ⟨moduleNames s d, Attribute.own? s d⟩, true, moduleNames s d⟩
  | .function index =>
    match s.functionRecord? index with
    | some f => (functionAnnotations f).map fun a ↦
      ⟨a.1, a.2, ⟨fun _ ↦ none, homeNames s f⟩, false, homeNames s f⟩
    | none => []
  | .known _ => []

/-- The names that the annotations of a function quote stand by themselves, not inside of typing
forms. The forms in the body of a class are always read afresh. -/
def QuotesAlone (target : Annotated) : Prop :=
  ∀ a ∈ annotations s target,
    a.inClass = false → Evaluate.meetsQuoted s a.scope Evaluate.depth a.value = false

instance (target : Annotated) : Decidable (QuotesAlone s target) :=
  inferInstanceAs (Decidable (∀ a ∈ annotations s target, _ = _ → _ = _))

variable {s} in
theorem quotesAlone_of_functions
    (h : ∀ index < s.functions.size, QuotesAlone s (.function index)) (target : Annotated) :
    QuotesAlone s target := by
  cases target with
  | cls c =>
    intro a ha houter
    obtain ⟨d, -, ha⟩ := List.mem_flatMap.1 ha
    obtain ⟨entry, -, rfl⟩ := List.mem_map.1 ha
    cases houter
  | function index =>
    intro a ha
    refine h index ?_ a ha
    by_contra hindex
    have hnone : s.functionRecord? index = none := Array.getElem?_eq_none (Nat.not_lt.1 hindex)
    rw [annotations, hnone] at ha
    cases ha
  | known types => exact fun a ha ↦ absurd ha List.not_mem_nil

def whole (a : Annotation) : Except Raised Value :=
  (Evaluate.hint s a.scope a.inClass a.value).map (Evaluate.strip s)

def apart (a : Annotation) : Except Raised Value := alone s locals ⟨a.name, a.value, a.outer⟩

def verdict {α : Type} (name : String) : List (String × α) → Option α
  | [] => none
  | x :: rest => (verdict name rest).or (if name = x.1 then some x.2 else none)

def verdictOf (eval : Annotation → Except Raised Value) (as : List Annotation) (name : String) :
    Option (Except Raised Value) :=
  verdict name (as.map fun a ↦ (a.name, eval a))

variable {s locals} {eval : Annotation → Except Raised Value} {as : List Annotation} {name : String}

theorem verdictOf_cons (a : Annotation) : verdictOf eval (a :: as) name =
    (verdictOf eval as name).or (if name = a.name then some (eval a) else none) := rfl

def Holds (types₀ types : OrderedMap String Value) (f : String → Option (Except Raised Value)) :
    Prop :=
  ∀ n, types.get? n =
    match f n with
    | some v => v.toOption
    | none => types₀.get? n

def gather (eval : Annotation → Except Raised Value) (types : OrderedMap String Value)
    (as : List Annotation) : Except Raised (OrderedMap String Value) :=
  as.foldlM (fun types a ↦ do return types.put a.name (← eval a)) types

theorem gather_eq_ok {types₀ types : OrderedMap String Value} (h : gather eval types₀ as = .ok types) :
    (∀ a ∈ as, ∃ v, eval a = .ok v) ∧ Holds types₀ types (verdictOf eval as) ∧
      (types₀.keys.Nodup → types.keys.Nodup) := by
  induction as generalizing types₀ with
  | nil =>
    cases h
    exact ⟨by simp, fun _ ↦ rfl, id⟩
  | cons a as ih =>
    rw [gather, List.foldlM_cons] at h
    cases ha : eval a with
    | error r =>
      rw [ha] at h
      cases h
    | ok v =>
      rw [ha] at h
      obtain ⟨hall, hholds, hnodup⟩ := ih h
      refine ⟨List.forall_mem_cons.2 ⟨⟨v, ha⟩, hall⟩, fun n ↦ ?_,
        fun hn ↦ hnodup (OrderedMap.nodup_keys_put hn)⟩
      rw [hholds n, verdictOf_cons, ha]
      cases verdictOf eval as n with
      | some w => rfl
      | none =>
        by_cases hn : n = a.name
        · simp [hn, Except.toOption]
        · simp [hn]

def firstError (eval : Annotation → Except Raised Value) : List Annotation → Option Raised
  | [] => none
  | a :: as =>
    match eval a with
    | .ok _ => firstError eval as
    | .error r => some r

theorem gather_eq_error {types₀ : OrderedMap String Value} {r : Raised}
    (h : gather eval types₀ as = .error r) : firstError eval as = some r := by
  induction as generalizing types₀ with
  | nil => cases h
  | cons a as ih =>
    rw [gather, List.foldlM_cons] at h
    cases ha : eval a with
    | error r' =>
      rw [ha] at h
      cases h
      simp only [firstError, ha]
    | ok v =>
      rw [ha] at h
      simp only [firstError, ha]
      exact ih h

theorem exists_of_firstError {r : Raised} (h : firstError eval as = some r) :
    ∃ a ∈ as, eval a = .error r := by
  induction as with
  | nil => cases h
  | cons a as ih =>
    cases ha : eval a with
    | error r' =>
      simp only [firstError, ha] at h
      cases h
      exact ⟨a, List.mem_cons_self, ha⟩
    | ok v =>
      simp only [firstError, ha] at h
      obtain ⟨a', ha', he⟩ := ih h
      exact ⟨a', List.mem_cons_of_mem _ ha', he⟩

/-- The first error is that of an annotation of the name, or the first one of the others. -/
theorem firstError_eq_some {b : String} {r : Raised} (h : firstError eval as = some r) :
    (∃ a ∈ as, a.name = b ∧ eval a = .error r) ∨
      firstError eval (as.filter (·.name ≠ b)) = some r := by
  induction as with
  | nil => cases h
  | cons a as ih =>
    by_cases hn : a.name = b
    · rw [List.filter_cons_of_neg (by simpa using hn)]
      cases ha : eval a with
      | error r' =>
        simp only [firstError, ha] at h
        cases h
        exact .inl ⟨a, List.mem_cons_self, hn, ha⟩
      | ok v =>
        simp only [firstError, ha] at h
        exact (ih h).imp_left fun ⟨a', ha', he⟩ ↦ ⟨a', List.mem_cons_of_mem _ ha', he⟩
    · rw [List.filter_cons_of_pos (by simpa using hn)]
      cases ha : eval a with
      | error r' =>
        simp only [firstError, ha] at h ⊢
        exact .inr h
      | ok v =>
        simp only [firstError, ha] at h ⊢
        exact (ih h).imp_left fun ⟨a', ha', he⟩ ↦ ⟨a', List.mem_cons_of_mem _ ha', he⟩

theorem gather_flatMap {α : Type} (f : α → List Annotation) (xs : List α)
    (types : OrderedMap String Value) :
    gather eval types (xs.flatMap f) = xs.foldlM (fun types x ↦ gather eval types (f x)) types := by
  induction xs generalizing types with
  | nil => rfl
  | cons x xs ih =>
    rw [List.flatMap_cons, List.foldlM_cons, gather, List.foldlM_append]
    exact congrArg _ (funext ih)

variable (s) in
def marked (a : Annotation) : Except Raised Value := Evaluate.hint s a.scope a.inClass a.value

theorem extend_eq_gather (scope : Scope) (inClass : Bool) (outer : String → Option Value)
    (types : OrderedMap String Value) (entries : List (String × Value)) :
    extend s scope inClass types entries =
      gather (marked s) types (entries.map fun a ↦ ⟨a.1, a.2, scope, inClass, outer⟩) := by
  rw [gather, List.foldlM_map]
  rfl

theorem together_eq_gather {target : Annotated} (h : ∀ types, target ≠ .known types) :
    together s target = (gather (marked s) .empty (annotations s target)).map (strip s) := by
  cases target with
  | cls c =>
    rw [annotations, gather_flatMap]
    simp only [← extend_eq_gather]
    rfl
  | function index =>
    cases hf : s.functionRecord? index with
    | none =>
      simp only [together, annotations, hf]
      rfl
    | some f =>
      simp only [together, annotations, hf, ← extend_eq_gather]
      rfl
  | known types => exact absurd rfl (h types)

theorem raw_eq_annotations {target : Annotated} (h : ∀ types, target ≠ .known types) :
    raw s target = (annotations s target).map fun a ↦ ⟨a.name, a.value, a.outer⟩ := by
  cases target with
  | cls c => simp [raw, annotations, List.map_flatMap, Function.comp_def]
  | function index =>
    cases hf : s.functionRecord? index with
    | none => simp [raw, annotations, hf]
    | some f => simp [raw, annotations, hf, Function.comp_def]
  | known types => exact absurd rfl (h types)

theorem verdictOf_map (f : Value → Value) :
    verdictOf (fun a ↦ (eval a).map f) as name = (verdictOf eval as name).map (·.map f) := by
  induction as with
  | nil => rfl
  | cons a as ih =>
    rw [verdictOf_cons, verdictOf_cons, ih]
    cases verdictOf eval as name with
    | some v => rfl
    | none => by_cases hn : name = a.name <;> simp [hn]

theorem firstError_map (f : Value → Value) :
    firstError (fun a ↦ (eval a).map f) as = firstError eval as := by
  induction as with
  | nil => rfl
  | cons a as ih =>
    rw [firstError, firstError, ih]
    cases eval a <;> rfl

/-- Read together, every annotation has a type, and the last one of a name decides. -/
theorem together_eq_ok {target : Annotated} (h : ∀ types, target ≠ .known types)
    {types : OrderedMap String Value} (htypes : together s target = .ok types) :
    (∀ a ∈ annotations s target, ∃ v, whole s a = .ok v) ∧
      (∀ n, types.get? n = (verdictOf (whole s) (annotations s target) n).bind Except.toOption) ∧
      types.keys.Nodup := by
  rw [together_eq_gather h] at htypes
  cases hg : gather (marked s) .empty (annotations s target) with
  | error r =>
    rw [hg] at htypes
    cases htypes
  | ok types₀ =>
    rw [hg] at htypes
    cases htypes
    obtain ⟨hall, hholds, hnodup⟩ := gather_eq_ok hg
    refine ⟨fun a ha ↦ ?_, fun n ↦ ?_, OrderedMap.nodup_keys_mapValues (hnodup List.nodup_nil)⟩
    · obtain ⟨v, hv⟩ := hall a ha
      refine ⟨Evaluate.strip s v, ?_⟩
      change (marked s a).map (Evaluate.strip s) = _
      rw [hv]
      rfl
    · change OrderedMap.get? ⟨types₀.entries.map fun e ↦ (e.1, Evaluate.strip s e.2)⟩ n = _
      rw [OrderedMap.get?_mapValues, hholds n]
      have hwhole : verdictOf (whole s) (annotations s target) n =
          (verdictOf (marked s) (annotations s target) n).map (·.map (Evaluate.strip s)) :=
        verdictOf_map _
      rw [hwhole]
      rcases verdictOf (marked s) (annotations s target) n with _ | _ | v <;> rfl

theorem together_eq_error {target : Annotated} (h : ∀ types, target ≠ .known types) {r : Raised}
    (hr : together s target = .error r) : firstError (whole s) (annotations s target) = some r := by
  rw [together_eq_gather h] at hr
  cases hg : gather (marked s) .empty (annotations s target) with
  | ok types =>
    rw [hg] at hr
    cases hr
  | error r' =>
    rw [hg] at hr
    cases hr
    exact (firstError_map _).trans (gather_eq_error hg)

def bare (a : Annotation) : RawAnnotation := ⟨a.name, a.value, a.outer⟩

def settled (h : Hints) (name : String) : Except Raised Value → Hints
  | .ok type => h.resolved name type
  | .error _ => h.failed name

theorem get?_settled (h : Hints) (v : Except Raised Value) (n : String) :
    (h.settled name v).types.get? n = if n = name then v.toOption else h.types.get? n := by
  cases v <;> simp [settled, resolved, failed, OrderedMap.get?_erase, Except.toOption]

theorem mem_unresolved_settled (h : Hints) (v : Except Raised Value) (n : String) :
    n ∈ (h.settled name v).unresolved ↔ if n = name then v.toOption = none else n ∈ h.unresolved := by
  by_cases hn : n = name <;> cases v <;> simp [settled, resolved, failed, Except.toOption, hn]

theorem nodup_keys_settled {h : Hints} (hn : h.types.keys.Nodup) (v : Except Raised Value) :
    (h.settled name v).types.keys.Nodup := by
  cases v with
  | ok type => exact OrderedMap.nodup_keys_put hn
  | error r => exact OrderedMap.nodup_keys_erase hn

/-- An annotation has a type, or none for a reason that costs only this annotation. -/
def Passes (v : Except Raised Value) : Prop := ∀ r, v = .error r → r.isUnresolvable

instance (v : Except Raised Value) : Decidable (Passes v) :=
  match v with
  | .ok _ => isTrue fun _ h ↦ nomatch h
  | .error r => decidable_of_iff (r.isUnresolvable = true)
      ⟨fun hr _ h ↦ Except.error.inj h ▸ hr, fun h ↦ h r rfl⟩

theorem oneByOne_cons_eq_ok {a : Annotation} {rest : List RawAnnotation} {h₀ h : Hints} :
    oneByOne s locals (bare a :: rest) h₀ = .ok h ↔
      Passes (apart s locals a) ∧
        oneByOne s locals rest (h₀.settled a.name (apart s locals a)) = .ok h := by
  have hbare : alone s locals (bare a) = apart s locals a := rfl
  rw [oneByOne, hbare]
  cases ha : apart s locals a with
  | ok type => simp [settled, Passes, bare]
  | error r => by_cases hr : r.isUnresolvable <;> simp [settled, Passes, bare, hr]

/-- Read one by one, the last annotation of a name decides whether it has a type. -/
theorem oneByOne_eq_ok {h₀ h : Hints} (hk : oneByOne s locals (as.map bare) h₀ = .ok h) :
    (∀ a ∈ as, Passes (apart s locals a)) ∧
      Holds h₀.types h.types (verdictOf (apart s locals) as) ∧
      (∀ n, n ∈ h.unresolved ↔
        match verdictOf (apart s locals) as n with
        | some v => v.toOption = none
        | none => n ∈ h₀.unresolved) ∧
      (h₀.types.keys.Nodup → h.types.keys.Nodup) := by
  induction as generalizing h₀ with
  | nil =>
    cases hk
    exact ⟨by simp, fun _ ↦ rfl, fun _ ↦ Iff.rfl, id⟩
  | cons a as ih =>
    obtain ⟨hpasses, hrest⟩ := oneByOne_cons_eq_ok.1 hk
    obtain ⟨hall, htypes, hunresolved, hnodup⟩ := ih hrest
    refine ⟨List.forall_mem_cons.2 ⟨hpasses, hall⟩, fun n ↦ ?_, fun n ↦ ?_,
      fun hn ↦ hnodup (nodup_keys_settled hn _)⟩
    · rw [htypes n, verdictOf_cons, get?_settled]
      cases verdictOf (apart s locals) as n with
      | some v => rfl
      | none => by_cases hn : n = a.name <;> simp [hn]
    · rw [hunresolved n, verdictOf_cons, mem_unresolved_settled]
      cases verdictOf (apart s locals) as n with
      | some v => rfl
      | none => by_cases hn : n = a.name <;> simp [hn]

theorem exists_oneByOne (h₀ : Hints) (hall : ∀ a ∈ as, Passes (apart s locals a)) :
    ∃ h, oneByOne s locals (as.map bare) h₀ = .ok h := by
  induction as generalizing h₀ with
  | nil => exact ⟨h₀, rfl⟩
  | cons a as ih =>
    obtain ⟨hfirst, hrest⟩ := List.forall_mem_cons.1 hall
    obtain ⟨h, hh⟩ := ih (h₀.settled a.name (apart s locals a)) hrest
    exact ⟨h, oneByOne_cons_eq_ok.2 ⟨hfirst, hh⟩⟩

theorem verdictOf_congr {eval' : Annotation → Except Raised Value}
    (h : ∀ a ∈ as, a.name = name → eval a = eval' a) :
    verdictOf eval as name = verdictOf eval' as name := by
  induction as with
  | nil => rfl
  | cons a as ih =>
    obtain ⟨hfirst, hrest⟩ := List.forall_mem_cons.1 h
    rw [verdictOf_cons, verdictOf_cons, ih hrest]
    by_cases hn : name = a.name
    · rw [hfirst hn.symm]
    · simp only [if_neg hn]

theorem exists_of_verdictOf {v : Except Raised Value} (h : verdictOf eval as name = some v) :
    ∃ a ∈ as, a.name = name ∧ eval a = v := by
  induction as with
  | nil => cases h
  | cons a as ih =>
    rw [verdictOf_cons] at h
    cases hrest : verdictOf eval as name with
    | some w =>
      rw [hrest] at h
      cases h
      obtain ⟨a', ha', hname, hv⟩ := ih hrest
      exact ⟨a', List.mem_cons_of_mem _ ha', hname, hv⟩
    | none =>
      by_cases hn : name = a.name
      · rw [hrest, if_pos hn] at h
        cases h
        exact ⟨a, List.mem_cons_self, hn.symm, rfl⟩
      · rw [hrest, if_neg hn] at h
        cases h

theorem verdictOf_filterNames {p : String → Bool} (hp : p name) :
    verdictOf eval (as.filter (p ·.name)) name = verdictOf eval as name := by
  induction as with
  | nil => rfl
  | cons a as ih =>
    by_cases ha : p a.name
    · rw [List.filter_cons_of_pos (by exact ha), verdictOf_cons, verdictOf_cons, ih]
    · have hn : name ≠ a.name := fun hn ↦ ha (hn ▸ hp)
      rw [List.filter_cons_of_neg (by exact ha), ih, verdictOf_cons, if_neg hn, Option.or_none]

theorem verdictOf_filter {b : String} (hb : name ≠ b) :
    verdictOf eval (as.filter (·.name ≠ b)) name = verdictOf eval as name :=
  verdictOf_filterNames (p := (· ≠ b)) (decide_eq_true hb)

/-- Hints that say of all names what some annotations say. -/
structure Says (h : Hints) (f : String → Option (Except Raised Value)) : Prop where
  types : ∀ n, h.types.get? n = (f n).bind Except.toOption
  unresolved : ∀ n, n ∈ h.unresolved ↔ ∃ r, f n = some (.error r)
  distinct : h.types.keys.Nodup

theorem says_together {target : Annotated} {types : OrderedMap String Value}
    (htarget : ∀ types, target ≠ .known types) (htypes : together s target = .ok types) :
    Says ⟨types, []⟩ (verdictOf (whole s) (annotations s target)) := by
  obtain ⟨hall, htypes, hnodup⟩ := together_eq_ok htarget htypes
  refine ⟨htypes, fun n ↦ ?_, hnodup⟩
  simp only [List.not_mem_nil, false_iff]
  rintro ⟨r, hr⟩
  obtain ⟨a, ha, _, he⟩ := exists_of_verdictOf hr
  obtain ⟨v, hv⟩ := hall a ha
  rw [hv] at he
  cases he

theorem says_oneByOne {h : Hints} (hh : oneByOne s locals (as.map bare) {} = .ok h) :
    Says h (verdictOf (apart s locals) as) := by
  obtain ⟨_, htypes, hunresolved, hnodup⟩ := oneByOne_eq_ok hh
  refine ⟨fun n ↦ ?_, fun n ↦ ?_, hnodup List.nodup_nil⟩
  · rw [htypes n]
    cases verdictOf (apart s locals) as n <;> rfl
  · rw [hunresolved n]
    rcases verdictOf (apart s locals) as n with _ | _ | v <;> simp [Except.toOption]

structure SaysExcept (b : String) (h : Hints) (f : String → Option (Except Raised Value)) :
    Prop where
  types : ∀ n, n ≠ b → h.types.get? n = (f n).bind Except.toOption
  unresolved : ∀ n, n ≠ b → (n ∈ h.unresolved ↔ ∃ r, f n = some (.error r))
  distinct : h.types.keys.Nodup

theorem SaysExcept.congr {b : String} {h : Hints} {f g : String → Option (Except Raised Value)}
    (hh : SaysExcept b h f)
    (hfg : ∀ n, n ≠ b → f n = g n) : SaysExcept b h g where
  types := fun n hn ↦ by rw [hh.types n hn, hfg n hn]
  unresolved := fun n hn ↦ by rw [hh.unresolved n hn, hfg n hn]
  distinct := hh.distinct

theorem Says.except {h : Hints} {f : String → Option (Except Raised Value)} (hh : Says h f)
    (b : String) : SaysExcept b h f where
  types := fun n _ ↦ hh.types n
  unresolved := fun n _ ↦ hh.unresolved n
  distinct := hh.distinct

theorem saysExcept_together {b : String} {target : Annotated} {types : OrderedMap String Value}
    (htarget : ∀ types, target ≠ .known types) (htypes : together s target = .ok types) :
    SaysExcept b ⟨types, []⟩ (verdictOf (whole s) (annotations s target)) :=
  (says_together htarget htypes).except b

theorem saysExcept_oneByOne {b : String} {h : Hints}
    (hh : oneByOne s locals (as.map bare) {} = .ok h) :
    SaysExcept b h (verdictOf (apart s locals) as) :=
  (says_oneByOne hh).except b

theorem ofAnnotated_eq_ok {target : Annotated} {h : Hints}
    (htarget : ∀ types, target ≠ .known types) (hh : ofAnnotated s target locals = .ok h) :
    (∃ types, together s target = .ok types ∧ h = ⟨types, []⟩) ∨
      (∃ r, together s target = .error r ∧ r.isUnresolvable) ∧
        oneByOne s locals ((annotations s target).map bare) {} = .ok h := by
  unfold ofAnnotated at hh
  cases htogether : together s target with
  | ok types =>
    rw [htogether] at hh
    cases hh
    exact .inl ⟨types, rfl, rfl⟩
  | error r =>
    rw [htogether, raw_eq_annotations htarget] at hh
    dsimp only at hh
    split at hh
    case isTrue hr => exact .inr ⟨⟨r, rfl, hr⟩, hh⟩
    case isFalse => cases hh

theorem ofAnnotated_of_error {target : Annotated} (htarget : ∀ types, target ≠ .known types)
    {r : Raised} (htogether : together s target = .error r) (hr : r.isUnresolvable) :
    ofAnnotated s target locals = oneByOne s locals ((annotations s target).map bare) {} := by
  simp only [ofAnnotated, htogether, hr, if_true, raw_eq_annotations htarget]
  rfl

variable (s locals) in
def evaluation (target : Annotated) (a : Annotation) : Except Raised Value :=
  if (annotations s target).all fun a ↦ (whole s a).isOk then whole s a else apart s locals a

theorem evaluation_of_whole {target : Annotated}
    (h : ∀ a ∈ annotations s target, ∃ v, whole s a = .ok v) :
    evaluation s locals target = whole s := by
  funext a
  refine if_pos (List.all_eq_true.2 fun b hb ↦ ?_)
  obtain ⟨v, hv⟩ := h b hb
  rw [hv]
  rfl

theorem evaluation_of_error {target : Annotated} (htarget : ∀ types, target ≠ .known types)
    {r : Raised} (h : together s target = .error r) :
    evaluation s locals target = apart s locals := by
  obtain ⟨a, ha, hr⟩ := exists_of_firstError (together_eq_error htarget h)
  funext b
  refine if_neg fun hall ↦ ?_
  have hok := List.all_eq_true.1 hall a ha
  rw [hr] at hok
  cases hok

variable (s locals) in
/-- What is annotated can be read: all of it together, or else nothing of it fails worse than by
having no meaning. -/
def Readable (target : Annotated) : Prop :=
  ∀ r, together s target = .error r →
    r.isUnresolvable ∧ ∀ a ∈ annotations s target, Passes (apart s locals a)

theorem exists_ofAnnotated_iff {target : Annotated} :
    (∃ h, ofAnnotated s target locals = .ok h) ↔ Readable s locals target := by
  constructor
  · rintro ⟨h, hh⟩ r hr
    have htarget : ∀ types, target ≠ .known types := by
      rintro types rfl
      cases hr
    rcases ofAnnotated_eq_ok htarget hh with ⟨types, htypes, _⟩ | ⟨⟨r', hr', hpasses⟩, hone⟩
    · rw [hr] at htypes
      cases htypes
    · rw [hr] at hr'
      cases hr'
      exact ⟨hpasses, (oneByOne_eq_ok hone).1⟩
  · intro h
    cases htogether : together s target with
    | ok types => exact ⟨⟨types, []⟩, by rw [ofAnnotated, htogether]⟩
    | error r =>
      have htarget : ∀ types, target ≠ .known types := by
        rintro types rfl
        cases htogether
      obtain ⟨hr, hpasses⟩ := h r htogether
      rw [ofAnnotated_of_error htarget htogether hr]
      exact exists_oneByOne {} hpasses

/-- All that is found is what the last annotation of each name says. -/
theorem says_ofAnnotated {target : Annotated} (htarget : ∀ types, target ≠ .known types) {h : Hints}
    (hh : ofAnnotated s target locals = .ok h) :
    Says h (verdictOf (evaluation s locals target) (annotations s target)) := by
  rcases ofAnnotated_eq_ok htarget hh with ⟨types, htypes, rfl⟩ | ⟨⟨r, hr, -⟩, hone⟩
  · rw [evaluation_of_whole (together_eq_ok htarget htypes).1]
    exact says_together htarget htypes
  · rw [evaluation_of_error htarget hr]
    exact says_oneByOne hone

theorem exists_says {target : Annotated} (htarget : ∀ types, target ≠ .known types)
    (hall : ∀ a ∈ annotations s target, Passes (whole s a) ∧ Passes (apart s locals a)) :
    ∃ h, ofAnnotated s target locals = .ok h ∧
      Says h (verdictOf (evaluation s locals target) (annotations s target)) := by
  have hreadable : Readable s locals target := by
    intro r hr
    obtain ⟨a, ha, hfirst⟩ := exists_of_firstError (together_eq_error htarget hr)
    exact ⟨(hall a ha).1 r hfirst, fun b hb ↦ (hall b hb).2⟩
  obtain ⟨h, hh⟩ := exists_ofAnnotated_iff.2 hreadable
  exact ⟨h, hh, says_ofAnnotated htarget hh⟩

theorem get?_combine {h k : Hints} (hk : k.types.keys.Nodup) (n : String) :
    (combine h k).types.get? n = (k.types.get? n).or (h.types.get? n) := OrderedMap.get?_merge hk

theorem mem_unresolved_combine {h k : Hints} {n : String} :
    n ∈ (combine h k).unresolved ↔
      (n ∈ h.unresolved ∨ n ∈ k.unresolved) ∧ (combine h k).types.get? n = none := by
  simp [combine, List.mem_filter, List.mem_eraseDups, OrderedMap.contains]

/-- What is said of a name after a second finding: its type replaces what was said before, but its
failure replaces no type. -/
def override : Option (Except Raised Value) → Option (Except Raised Value) →
    Option (Except Raised Value)
  | first, none => first
  | _, some (.ok type) => some (.ok type)
  | some (.ok type), some (.error _) => some (.ok type)
  | _, some (.error r) => some (.error r)

theorem toOption_override (v w : Option (Except Raised Value)) :
    (override v w).bind Except.toOption =
      (w.bind Except.toOption).or (v.bind Except.toOption) := by
  rcases v with _ | r | type <;> rcases w with _ | r' | type' <;> rfl

theorem exists_error_override (v w : Option (Except Raised Value)) :
    (∃ r, override v w = some (.error r)) ↔
      ((∃ r, v = some (.error r)) ∨ ∃ r, w = some (.error r)) ∧
        (override v w).bind Except.toOption = none := by
  rcases v with _ | r | type <;> rcases w with _ | r' | type' <;> simp [override, Except.toOption]

/-- Two findings say of a name what the second one makes of the first. -/
theorem Says.override {h k : Hints} {f g : String → Option (Except Raised Value)} (hh : Says h f)
    (hk : Says k g) : Says (h.combine k) fun n ↦ Hints.override (f n) (g n) := by
  have hget : ∀ n, (h.combine k).types.get? n = (Hints.override (f n) (g n)).bind Except.toOption := by
    intro n
    rw [get?_combine hk.distinct, hh.types, hk.types, toOption_override]
  refine ⟨hget, fun n ↦ ?_, OrderedMap.nodup_keys_merge hh.distinct⟩
  rw [mem_unresolved_combine, hget, hh.unresolved, hk.unresolved, exists_error_override]

theorem says_known {types : OrderedMap String Value} (htypes : types.keys.Nodup) :
    Says ⟨types, []⟩ fun n ↦ (types.get? n).map .ok := by
  refine ⟨fun n ↦ ?_, fun n ↦ ?_, htypes⟩
  · cases types.get? n <;> rfl
  · simp

/-- Types without a failure replace what was said before. -/
theorem Says.combine {h : Hints} {f : String → Option (Except Raised Value)} (hh : Says h f)
    {types : OrderedMap String Value} (htypes : types.keys.Nodup) :
    Says (h.combine ⟨types, []⟩) fun n ↦ ((types.get? n).map .ok).or (f n) := by
  have hsame : (fun n ↦ ((types.get? n).map .ok).or (f n)) =
      fun n ↦ Hints.override (f n) ((types.get? n).map .ok) := by
    funext n
    cases types.get? n <;> rfl
  rw [hsame]
  exact hh.override (says_known htypes)

def inBody (s : Session) (d : ClassRef) : List Annotation :=
  (ownAnnotations s d).map fun a ↦
    ⟨a.1, a.2, ⟨moduleNames s d, Attribute.own? s d⟩, true, moduleNames s d⟩

def nearest? (s : Session) (c : ClassRef) (name : String) : Option Annotation :=
  (Attribute.lineage s c).findSome? fun d ↦ (inBody s d).reverse.find? (·.name == name)

theorem verdictOf_eq_find :
    verdictOf eval as name = (as.reverse.find? (·.name == name)).map eval := by
  induction as with
  | nil => rfl
  | cons a as ih =>
    rw [verdictOf_cons, ih, List.reverse_cons, List.find?_append]
    by_cases hn : name = a.name
    · cases as.reverse.find? (·.name == name) <;> simp [hn]
    · have hbeq : (a.name == name) = false := by simpa using Ne.symm hn
      cases as.reverse.find? (·.name == name) <;> simp [hn, hbeq]

/-- An annotation that is alone with its name decides. -/
theorem verdictOf_of_unique {a : Annotation} (ha : a ∈ as) (h : ∀ b ∈ as, b.name = a.name → b = a) :
    verdictOf eval as a.name = some (eval a) := by
  rw [verdictOf_eq_find]
  cases hfind : as.reverse.find? (·.name == a.name) with
  | none =>
    have hnone := List.find?_eq_none.1 hfind a (List.mem_reverse.2 ha)
    simp at hnone
  | some b =>
    have hmem : b ∈ as := List.mem_reverse.1 (List.mem_of_find?_eq_some hfind)
    have hname : b.name = a.name := by simpa using List.find?_some hfind
    rw [h b hmem hname, Option.map_some]

theorem find?_annotations (c : ClassRef) (name : String) :
    (annotations s (.cls c)).reverse.find? (·.name == name) = nearest? s c name := by
  have hreverse : (annotations s (.cls c)).reverse =
      (Attribute.lineage s c).flatMap fun d ↦ (inBody s d).reverse := by
    change ((Attribute.lineage s c).reverse.flatMap (inBody s)).reverse = _
    rw [List.reverse_flatMap, List.reverse_reverse]
    rfl
  rw [hreverse, List.find?_flatMap]
  rfl

theorem verdictOf_annotations (c : ClassRef) :
    verdictOf eval (annotations s (.cls c)) name = (nearest? s c name).map eval := by
  rw [verdictOf_eq_find, find?_annotations]

theorem isSome_nearest?_iff (c : ClassRef) : (nearest? s c name).isSome ↔
    ∃ d ∈ Attribute.lineage s c, ∃ v, (name, v) ∈ ownAnnotations s d := by
  unfold nearest? inBody
  simp only [List.findSome?_isSome_iff, List.find?_isSome, List.mem_reverse, List.mem_map]
  constructor
  · rintro ⟨d, hd, a, ⟨e, he, rfl⟩, hname⟩
    exact ⟨d, hd, e.2, eq_of_beq hname ▸ he⟩
  · rintro ⟨d, hd, v, hv⟩
    exact ⟨d, hd, _, ⟨(name, v), hv, rfl⟩, beq_self_eq_true name⟩

end RouteClient.Project.Hints
