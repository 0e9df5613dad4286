import RouteClient.Proofs.Renaming.Types

namespace RouteClient.Project

variable {ρ : Renaming}

structure Renaming.TakesScope (ρ : Renaming) (σ τ : Scope) : Prop where
  inner : ∀ n, ¬ρ.hidden n → Option.Rel ρ.Takes (σ.inner n) (τ.inner n)
  outer : ∀ n, ¬ρ.hidden n → Option.Rel ρ.Takes (σ.outer n) (τ.outer n)

namespace Scope

variable {σ τ : Scope} {name : String}

theorem or_takes {x y x' y' : Option Value} (h : Option.Rel ρ.Takes x y)
    (h' : Option.Rel ρ.Takes x' y') : Option.Rel ρ.Takes (x.or x') (y.or y') := by
  cases h with
  | none => exact h'
  | some hv => exact .some hv

theorem builtin?_takes (name : String) : Option.Rel ρ.Takes (builtin? name) (builtin? name) := by
  unfold builtin?
  split
  · exact .some (.cls (.standard _))
  · split
    · exact .some .ellipsis
    · exact .some (.object _)
    · exact .some (.cls (.standard _))
    · exact .some (.cls (.standard _))
    · split
      · exact .some (.builtinFunction _)
      · exact .none

theorem find_takes (hσ : ρ.TakesScope σ τ) (hname : ¬ρ.hidden name) :
    Akin ρ.Takes (σ.find name) (τ.find name) := by
  have hfound : Option.Rel ρ.Takes (σ.find? name) (τ.find? name) :=
    or_takes (hσ.inner name hname) (or_takes (hσ.outer name hname) (builtin?_takes name))
  unfold find
  generalize σ.find? name = x, τ.find? name = y at hfound
  cases hfound with
  | none => exact .error .nameError
  | some hv => exact .ok hv

theorem bindingsOf_takes {m m' : Option ModuleRecord} (h : Option.Rel ρ.TakesModule m m')
    (hname : ¬ρ.hidden name) : Option.Rel ρ.Takes (bindingsOf m name) (bindingsOf m' name) :=
  Renaming.rel_bind h fun _ _ hm ↦ hm name hname

end Scope

namespace Evaluate

open Renaming

variable {s s' : Session} {σ τ : Scope} {v w : Value} {vs ws : List Value} {text : String}
  {pending : List String} (h : ρ.TakesSession s s')

include h

theorem value_takes (hσ : ρ.TakesScope σ τ) :
    (∀ e : TypeExpr, (∀ n ∈ e.mentioned, ¬ρ.hidden n) → (∀ t ∈ e.quoted, ρ.Quiet t) →
      Akin ρ.Takes (value s σ e) (value s' τ e)) ∧
    ∀ es, (∀ n ∈ TypeExpr.mentionedInAll es, ¬ρ.hidden n) →
      (∀ t ∈ TypeExpr.quotedInAll es, ρ.Quiet t) →
      Akin ρ.TakesAll (values s σ es) (values s' τ es) := by
  apply value.mutual_induct
  case case1 =>
    intro first more hn _
    rw [TypeExpr.mentioned, List.forall_mem_cons] at hn
    obtain ⟨hfirst, hmore⟩ := hn
    refine (Scope.find_takes hσ hfirst).bind fun v w hv ↦ ?_
    have hkeys : List.Forall₂ (fun k k' : String ↦ k = k' ∧ ¬ρ.hidden k) more more :=
      List.forall₂_same.2 fun k hk ↦ ⟨rfl, hmore k hk⟩
    refine Outcomes.foldlM hkeys hv fun v w k k' hv hk ↦ ?_
    obtain ⟨rfl, hk⟩ := hk
    exact Attribute.get_takes h hv hk
  case case2 =>
    intro c _ hq
    refine .ok (.scalar fun t ht ↦ hq t ?_)
    rw [ht]
    exact List.mem_singleton.2 rfl
  case case3 => exact fun _ _ ↦ .ok .ellipsis
  case case4 =>
    intro head arguments ih ihs hn hq
    simp only [TypeExpr.mentioned, TypeExpr.quoted, List.forall_mem_append] at hn hq
    exact (ih hn.1 hq.1).bind fun _ _ hv ↦ (ihs hn.2 hq.2).bind fun _ _ hvs ↦
      TypeForm.subscript_takes h hv hvs
  case case5 =>
    intro left right ih ih' hn hq
    simp only [TypeExpr.mentioned, TypeExpr.quoted, List.forall_mem_append] at hn hq
    exact (ih hn.1 hq.1).bind fun _ _ hv ↦ (ih' hn.2 hq.2).bind fun _ _ hv' ↦
      TypeForm.bar_takes hv hv'
  case case6 =>
    intro items ihs hn hq
    exact (ihs hn hq).bind fun _ _ hvs ↦ .ok (.sequence hvs)
  case case7 =>
    intro head arguments ih hn hq
    exact (ih hn hq).bind fun _ _ _ ↦ .ok (.object _)
  case case8 => exact fun _ _ _ ↦ .error .syntaxError
  case case9 => exact fun _ _ ↦ .ok .nil
  case case10 =>
    intro e rest ih ihs hn hq
    simp only [TypeExpr.mentionedInAll, TypeExpr.quotedInAll, List.forall_mem_append] at hn hq
    exact (ih hn.1 hq.1).bind fun _ _ hv ↦ (ihs hn.2 hq.2).bind fun _ _ hvs ↦ .ok (.cons hv hvs)

/-- A quiet text reads no name that means something else, and what it quotes is quiet. -/
theorem ofText_takes (hσ : ρ.TakesScope σ τ) (hq : ρ.Quiet text) :
    Akin ρ.Takes (ofText s σ text) (ofText s' τ text) := by
  cases hq with | intro hnames hquoted
  unfold ofText
  cases hparse : TypeText.parse? text with
  | none => exact .error .syntaxError
  | some e => exact (value_takes h hσ).1 e (hnames e hparse) (hquoted e hparse)

theorem within_takes (hσ : ρ.TakesScope σ τ) {home : Option String} (hhome : ∀ n ∈ home, ρ.homes n) :
    ρ.TakesScope
      (home.elim σ fun name ↦
        match s.loadedModule? name with
        | some record => { σ with outer := Scope.bindingsOf (some record) }
        | none => σ)
      ((home.map ρ.name).elim τ fun name ↦
        match s'.loadedModule? name with
        | some record => { τ with outer := Scope.bindingsOf (some record) }
        | none => τ) := by
  cases home with
  | none => exact hσ
  | some name =>
    have hmodule := h.loadedModule (hhome name rfl)
    dsimp only [Option.map_some, Option.elim_some]
    generalize s.loadedModule? name = x, s'.loadedModule? (ρ.name name) = y at hmodule
    cases hmodule with
    | none => exact hσ
    | some hm => exact ⟨hσ.inner, fun n hn ↦ Scope.bindingsOf_takes (.some hm) hn⟩

theorem all_resolve_takes (fuel : Nat) :
    (∀ {σ τ pending v w}, ρ.TakesScope σ τ → ρ.Takes v w →
      Akin ρ.Takes (resolve s fuel σ pending v) (resolve s' fuel τ pending w)) ∧
    (∀ {σ τ pending vs ws}, ρ.TakesScope σ τ → ρ.TakesAll vs ws →
      Akin ρ.TakesAll (resolveAll s fuel σ pending vs) (resolveAll s' fuel τ pending ws)) := by
  -- Scopes and texts under way change with every step, so both statements hold of all of them.
  induction fuel with
  | zero => exact ⟨fun _ _ ↦ .error .recursionError, fun _ _ ↦ .error .recursionError⟩
  | succ fuel ih =>
    obtain ⟨ihv, ihvs⟩ := ih
    constructor
    · intro σ τ pending v w hσ hv
      have hsame := hv
      unfold resolve
      cases hv with
      | reference hq hhome =>
        dsimp only
        split
        · exact .ok hsame
        · have hwithin := within_takes h hσ hhome
          refine (ofText_takes h hwithin hq).bind fun _ _ hfound ↦ ?_
          exact (TypeForm.check_takes _ hfound false true ρ.homes_none).bind fun _ _ hv ↦ ihv hwithin hv
      | plainAlias horigin hvs =>
        -- Texts among the arguments are references from here on.
        refine (Outcomes.mapM hvs fun v w hv ↦ ?_).bind fun _ _ hvs ↦
          (ihvs hσ hvs).bind fun _ _ hvs ↦ .ok (.plainAlias horigin hvs)
        have hsame := hv
        cases hv with
        | @scalar x hx =>
          cases x with
          | text t => exact TypeForm.reference_takes (hx t rfl) ρ.homes_none
          | _ => exact .ok hsame
        | _ => exact .ok hsame
      | typingAlias name horigin hvs =>
        exact (ihvs hσ hvs).bind fun _ _ hvs ↦ .ok (.typingAlias name horigin hvs)
      | applied form hv => exact (ihv hσ hv).bind fun _ _ hv ↦ .ok (.applied form hv)
      | annotated hv hvs => exact (ihv hσ hv).bind fun _ _ hv ↦ .ok (.annotated hv hvs)
      | union hvs => exact (ihvs hσ hvs).bind fun _ _ hvs ↦ TypeForm.union_takes hvs
      | bars hvs => exact (ihvs hσ hvs).bind fun _ _ hvs ↦ TypeForm.barAll_takes hvs
      | _ => exact .ok hsame
    · intro σ τ pending vs ws hσ hvs
      cases hvs with
      | nil => exact .ok .nil
      | cons hv hvs =>
        exact (ihv hσ hv).bind fun _ _ hv ↦ (ihvs hσ hvs).bind fun _ _ hvs ↦ .ok (.cons hv hvs)

theorem resolve_takes (fuel : Nat) (hσ : ρ.TakesScope σ τ) (hv : ρ.Takes v w) :
    Akin ρ.Takes (resolve s fuel σ pending v) (resolve s' fuel τ pending w) :=
  (all_resolve_takes h fuel).1 hσ hv

theorem hintOfText_takes (hσ : ρ.TakesScope σ τ) (inClass : Bool) (fuel : Nat) (hq : ρ.Quiet text) :
    Akin ρ.Takes (hintOfText s σ inClass fuel pending text)
      (hintOfText s' τ inClass fuel pending text) := by
  induction fuel generalizing pending text with
  | zero => exact .error .recursionError
  | succ fuel ih =>
    refine (TypeForm.reference_takes hq ρ.homes_none).bind fun v w hv ↦ ?_
    have hsame := hv
    cases hv with
    | @reference text hq home =>
      dsimp only
      split
      · exact .ok hsame
      · refine (ofText_takes h hσ hq).bind fun v w hv ↦ ?_
        have hresolved : Akin ρ.Takes
            (TypeForm.check s referencePurpose v inClass (!inClass) none >>= fun type ↦
              resolve s depth σ (text :: pending) type)
            (TypeForm.check s' referencePurpose w inClass (!inClass) none >>= fun type ↦
              resolve s' depth τ (text :: pending) type) :=
          (TypeForm.check_takes _ hv inClass (!inClass) ρ.homes_none).bind fun _ _ hv ↦
            resolve_takes h depth hσ hv
        cases hv with
        | @scalar x hx =>
          cases x with
          | text t => exact ih (hx t rfl)
          | _ => exact hresolved
        | _ => exact hresolved
    | _ => exact .ok hsame

theorem hint_takes (hσ : ρ.TakesScope σ τ) (inClass : Bool) (hv : ρ.Takes v w) :
    Akin ρ.Takes (hint s σ inClass v) (hint s' τ inClass w) := by
  have hresolved : Akin ρ.Takes (resolve s depth σ [] v.noneAsType)
      (resolve s' depth τ [] w.noneAsType) := resolve_takes h depth hσ hv.noneAsType
  cases hv with
  | @scalar x hx =>
    cases x with
    | text t => exact hintOfText_takes h hσ inClass depth (hx t rfl)
    | _ => exact hresolved
  | _ => exact hresolved

omit h in
theorem strip_takes (hv : ρ.Takes v w) : ρ.Takes (strip s v) (strip s' w) := by
  apply @Takes.rec ρ (fun v w _ ↦ ρ.Takes (strip s v) (strip s' w))
    (fun vs ws _ ↦ ρ.TakesAll (stripAll s vs) (stripAll s' ws))
  case t => exact hv
  case plainAlias => exact fun horigin _ _ _ ih ↦ .plainAlias horigin ih
  case typingAlias => exact fun name _ _ horigin _ _ _ ih ↦ .typingAlias name horigin ih
  case annotated => exact fun _ _ ih _ ↦ ih
  case applied =>
    intro form v w _ ih
    unfold strip
    split
    · exact ih
    · exact .applied form ih
  case union => exact fun _ ih ↦ TypeForm.collapse_takes (fun _ _ ↦ .union) ih
  case bars =>
    intro vs ws _ ih
    have hjoined : Akin ρ.Takes (TypeForm.barAll s (stripAll s vs))
        (TypeForm.barAll s' (stripAll s' ws)) := TypeForm.barAll_takes ih
    unfold strip
    generalize TypeForm.barAll s (stripAll s vs) = x,
      TypeForm.barAll s' (stripAll s' ws) = y at hjoined
    cases hjoined with
    | error _ => exact .bars ih
    | ok hv => exact hv
  case nil => exact .nil
  case cons => exact fun _ _ ih ihs ↦ .cons ih ihs
  -- All other values are their own type.
  all_goals
    intros
    constructor <;> assumption

end Evaluate

end RouteClient.Project
