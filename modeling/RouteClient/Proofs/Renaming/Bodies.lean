import RouteClient.Proofs.Renaming.Evaluation
import RouteClient.Proofs.Renaming.Mirror

namespace RouteClient.Project.Renaming

structure TakesBody (ρ : Renaming) (body body' : ClassBody) : Prop where
  attributes : ρ.TakesEntries body.attributes.entries body'.attributes.entries
  annotations : ρ.TakesEntries body.annotations.entries body'.annotations.entries

/-- Statements run in corresponding modules, which are not older than the session at the
beginning. -/
structure TakesContext (ρ : Renaming) (b s : Session) (ctx ctx' : Context) : Prop where
  home : (ρ.upTo s).modules ctx.home ctx'.home
  moduleName : ctx'.moduleName = ρ.name ctx.moduleName
  isHome : ρ.homes ctx.moduleName
  postponed : ctx'.postponed = ctx.postponed
  outerClasses : ctx'.outerClasses = ctx.outerClasses
  isNew : b.modules.size ≤ ctx.home

variable {ρ : Renaming} {near : Placement} {b s s' t : Session}
  {ctx ctx' : Context} {body body' : ClassBody} {e : TypeExpr}

theorem stays_takes (ρ : Renaming) : Stays b fun t ↦ (ρ.upTo t).Takes := fun h _ _ ↦ Takes.within (h.within ρ)

theorem stays_takesParameter (ρ : Renaming) : Stays b fun t ↦ (ρ.upTo t).TakesParameter :=
  fun h _ _ ↦ TakesParameter.within (h.within ρ)

theorem TakesBody.within {τ : Renaming} (hτ : ρ.Within τ) (h : TakesBody ρ body body') :
    TakesBody τ body body' :=
  ⟨takesEntries_within hτ h.attributes, takesEntries_within hτ h.annotations⟩

theorem TakesContext.extended (h : TakesContext ρ b s ctx ctx') (hst : b.Lasts s t) :
    TakesContext ρ b t ctx ctx' :=
  { h with home := (hst.within ρ).modules _ _ h.home }

theorem ReadsPlainly.upTo (h : ρ.ReadsPlainly e) (s : Session) : (ρ.upTo s).ReadsPlainly e :=
  ⟨h.1, fun t ht ↦ (h.2 t ht).upTo s⟩

theorem QuietScalar.takes {x : Scalar} (h : ρ.QuietScalar x) (s : Session) :
    (ρ.upTo s).Takes (.scalar x) (.scalar x) := .scalar fun t ht ↦ (h t ht).upTo s

theorem TakesBody.bind (h : TakesBody ρ body body') (name : String) {v w : Value}
    (hv : ρ.Takes v w) : TakesBody ρ (body.bind name v) (body'.bind name w) :=
  ⟨putEntries_takes name hv h.attributes, h.annotations⟩

theorem TakesBody.annotate (h : TakesBody ρ body body') (name : String) {v w : Value}
    (hv : ρ.Takes v w) : TakesBody ρ (body.annotate name v) (body'.annotate name w) :=
  ⟨h.attributes, putEntries_takes name hv h.annotations⟩

end RouteClient.Project.Renaming

namespace RouteClient.Project.ClassBody

open Renaming

variable {ρ : Renaming} {near : Placement} {b s s' : Session}
  {ctx ctx' : Context} {body body' : ClassBody} {e : TypeExpr}
  (h : Mirrors ρ near b s s') (hctx : TakesContext ρ b s ctx ctx')

include h hctx

theorem scope_takes (hbody : TakesBody (ρ.upTo s) body body') :
    (ρ.upTo s).TakesScope (scope s ctx body) (scope s' ctx' body') where
  inner name _ := lookup_takes hbody.attributes name
  outer _ hn := Scope.bindingsOf_takes (h.takesSession.modules _ _ hctx.home) hn

theorem evaluate_lockstep (hbody : TakesBody (ρ.upTo s) body body') (he : ρ.ReadsPlainly e) :
    Lockstep ρ near b (fun t ↦ (ρ.upTo t).Takes) s s' (evaluate ctx body e) (evaluate ctx' body' e) := by
  have hplain := he.upTo s
  exact .akin h ((Evaluate.value_takes h.takesSession (scope_takes h hctx hbody)).1 e
    hplain.1 hplain.2)

theorem annotationOf_lockstep (hbody : TakesBody (ρ.upTo s) body body')
    (he : ρ.QuietHint ctx.postponed e) :
    Lockstep ρ near b (fun t ↦ (ρ.upTo t).Takes) s s' (annotationOf ctx body e)
      (annotationOf ctx' body' e) := by
  unfold QuietHint at he
  unfold annotationOf
  rw [hctx.postponed]
  split
  · next hpostponed =>
    rw [if_pos hpostponed] at he
    exact .pure h (QuietScalar.takes (fun t ht ↦ by cases ht; exact he) s)
  · next hpostponed =>
    rw [if_neg hpostponed] at he
    exact evaluate_lockstep h hctx hbody he

theorem makeFunction_lockstep (hbody : TakesBody (ρ.upTo s) body body') (name : String)
    {first : List Parameter} (hfirst : List.Forall₂ (ρ.upTo s).TakesParameter first first)
    {parameters : List ParameterDecl} (hparameters : ρ.QuietParameters ctx.postponed parameters)
    {returns : Option TypeExpr} (hreturns : ∀ e ∈ returns, ρ.QuietHint ctx.postponed e) :
    Lockstep ρ near b (fun t ↦ (ρ.upTo t).functions) s s'
      (makeFunction ctx body name first parameters returns)
      (makeFunction ctx' body' name first parameters returns) := by
  have hsame : List.Forall₂ (fun p p' : ParameterDecl ↦ p = p' ∧
      ∀ e ∈ p.hint, ρ.QuietHint ctx.postponed e) parameters parameters :=
    List.forall₂_same.2 fun p hp ↦ ⟨rfl, hparameters p hp⟩
  have hhint : ∀ {t t' : Session} {x : Option TypeExpr}, Mirrors ρ near b t t' → b.Lasts s t →
      (∀ e ∈ x, ρ.QuietHint ctx.postponed e) →
      Lockstep ρ near b (fun t ↦ Option.Rel (ρ.upTo t).Takes) t t' (x.mapM (annotationOf ctx body))
        (x.mapM (annotationOf ctx' body')) := by
    intro t t' x ht hst hx
    refine (Lockstep.option_mapM (P := fun e e' ↦ e = e' ∧ ρ.QuietHint ctx.postponed e)
      (rel_refl_of_forall fun e he ↦ ⟨rfl, hx e he⟩) ht fun e e' he ↦ ?_).mono fun _ _ _ ↦ And.left
    obtain ⟨rfl, he⟩ := he
    exact annotationOf_lockstep ht (hctx.extended hst) (hbody.within (hst.within ρ)) he
  unfold makeFunction
  refine (Lockstep.mapM (stays_takesParameter ρ) hsame h fun p p' t t' hp ht hst ↦ ?_).bind
    fun declared declared' t t' ht hst hdeclared ↦ ?_
  · obtain ⟨rfl, hp⟩ := hp
    exact (hhint ht hst hp).bind fun hint hint' u u' hu _ hhint ↦
      .pure hu ⟨rfl, rfl, hhint, rfl⟩
  · refine (hhint ht hst hreturns).bind fun returns returns' u u' hu htu hreturns ↦ ?_
    have hfirst := takesParameters_within ((hst.trans htu).within ρ) hfirst
    have hdeclared := takesParameters_within (htu.within ρ) hdeclared
    exact .addFunction hu ⟨rfl, List.rel_append hfirst hdeclared, hreturns,
      .some (hctx.extended (hst.trans htu)).home⟩

theorem member_lockstep (hbody : TakesBody (ρ.upTo s) body body') {a : String × AttributeDecl}
    (hconstant : ∀ x, a.2 = .constant x → ρ.QuietScalar x)
    (hexpression : ∀ e, a.2 = .expression e → ρ.ReadsPlainly e) :
    Lockstep ρ near b (fun t ↦ TakesBody (ρ.upTo t)) s s' (member ctx body a) (member ctx' body' a) := by
  unfold member
  cases ha : a.2 with
  | constant x => exact .pure h (hbody.bind a.1 ((hconstant x ha).takes s))
  | expression e =>
    exact (evaluate_lockstep h hctx hbody (hexpression e ha)).bind fun v w t t' ht hst hv ↦
      .pure ht ((hbody.within (hst.within ρ)).bind a.1 hv)

omit h hctx in
theorem fieldValue?_takes (kind : ClassKind) {f : FieldDecl} (hf : ∀ x ∈ f.default, ρ.QuietScalar x) :
    ∀ v ∈ fieldValue? kind f, (ρ.upTo s).Takes v v := by
  have hdefault : ∀ v ∈ f.default.map Value.scalar, (ρ.upTo s).Takes v v := by
    intro v hv
    obtain ⟨x, hx, rfl⟩ := Option.mem_map.1 hv
    exact (hf x hx).takes s
  have hobject : ∀ name : String, ∀ v ∈ some (Value.object name), (ρ.upTo s).Takes v v := by
    rintro name v ⟨⟩
    exact .object name
  unfold fieldValue?
  cases kind with
  | dataclass =>
    dsimp only
    split
    · exact hobject _
    · exact hdefault
  | model =>
    dsimp only
    split
    · exact hobject _
    · exact hdefault
  | _ => exact hdefault

theorem field_lockstep (hbody : TakesBody (ρ.upTo s) body body') (kind : ClassKind) {f : FieldDecl}
    (hhint : ∀ e ∈ f.hint, ρ.QuietHint ctx.postponed e) (hdefault : ∀ x ∈ f.default, ρ.QuietScalar x) :
    Lockstep ρ near b (fun t ↦ TakesBody (ρ.upTo t)) s s' (field ctx kind body f)
      (field ctx' kind body' f) := by
  have hvalue := fieldValue?_takes (s := s) kind hdefault
  have hbound : TakesBody (ρ.upTo s) ((fieldValue? kind f).elim body (body.bind f.name))
      ((fieldValue? kind f).elim body' (body'.bind f.name)) := by
    generalize fieldValue? kind f = x at hvalue
    cases x with
    | none => exact hbody
    | some v => exact hbody.bind f.name (hvalue v rfl)
  unfold field
  dsimp only
  generalize f.hint = x at hhint
  cases x with
  | none => exact .pure h hbound
  | some e =>
    exact (annotationOf_lockstep h hctx hbound (hhint e rfl)).bind fun v w t t' ht hst hv ↦
      .pure ht ((hbound.within (hst.within ρ)).annotate f.name hv)

omit h hctx in
theorem takesParameters_first (τ : Renaming) (name : String) :
    List.Forall₂ τ.TakesParameter (first name) (first name) :=
  .cons ⟨rfl, rfl, .none, rfl⟩ .nil

theorem method_lockstep (hbody : TakesBody (ρ.upTo s) body body') {m : MethodDecl}
    (hparameters : ρ.QuietParameters ctx.postponed m.parameters)
    (hreturns : ∀ e ∈ m.returns, ρ.QuietHint ctx.postponed e) :
    Lockstep ρ near b (fun t ↦ TakesBody (ρ.upTo t)) s s' (method ctx body m) (method ctx' body' m) := by
  have hmake : ∀ {own : List Parameter}, List.Forall₂ (ρ.upTo s).TakesParameter own own →
      Lockstep ρ near b (fun t ↦ (ρ.upTo t).functions) s s'
        (makeFunction ctx body m.name own m.parameters m.returns)
        (makeFunction ctx' body' m.name own m.parameters m.returns) := fun hown ↦
    makeFunction_lockstep h hctx hbody m.name hown hparameters hreturns
  have hbind : ∀ {v w : Value} {t t' : Session}, Mirrors ρ near b t t' → b.Lasts s t →
      (ρ.upTo t).Takes v w → Lockstep ρ near b (fun t ↦ TakesBody (ρ.upTo t)) t t' (pure (body.bind m.name v))
        (pure (body'.bind m.name w)) := fun ht hst hv ↦
    .pure ht ((hbody.within (hst.within ρ)).bind m.name hv)
  unfold method
  dsimp only
  cases m.kind with
  | ofObject =>
    exact (hmake (takesParameters_first _ "self")).bind fun i j t t' ht hst hi ↦
      hbind ht hst (.function hi)
  | ofClass =>
    exact (hmake (takesParameters_first _ "cls")).bind fun i j t t' ht hst hi ↦
      hbind ht hst (.classFunction hi)
  | static =>
    exact (hmake .nil).bind fun i j t t' ht hst hi ↦ hbind ht hst (.staticFunction hi)
  | property =>
    exact (hmake (takesParameters_first _ "self")).bind fun i j t t' ht hst hi ↦
      hbind ht hst (.property hi)

/-- A function of the class body that is written out if there is one, and all that comes after. -/
theorem special_lockstep (hbody : TakesBody (ρ.upTo s) body body') (name kind : String)
    {make : Nat → Value} (hmake : ∀ {τ : Renaming} {i j}, τ.functions i j → τ.Takes (make i) (make j))
    {α α' : Type} {S : Session → α → α' → Prop} {f : ClassBody → Run α} {k : ClassBody → Run α'}
    (hfk : ∀ c c' t t', Mirrors ρ near b t t' → b.Lasts s t → TakesBody (ρ.upTo t) c c' →
      Lockstep ρ near b S t t' (f c) (k c')) (x : Option (List ParameterDecl)) :
    (∀ parameters ∈ x, ρ.QuietParameters ctx.postponed parameters) → Lockstep ρ near b S s s'
      (match x with
      | some parameters => do
        let f₀ ← makeFunction ctx body name (first kind) parameters none
        let body ← pure (body.bind name (make f₀))
        f body
      | none => do
        let body ← pure body
        f body)
      (match x with
      | some parameters => do
        let f₀ ← makeFunction ctx' body' name (first kind) parameters none
        let body ← pure (body'.bind name (make f₀))
        k body
      | none => do
        let body ← pure body'
        k body) := by
  intro hx
  cases x with
  | none => exact hfk body body' s s' h (.refl b s) hbody
  | some parameters =>
    refine (makeFunction_lockstep h hctx hbody name (takesParameters_first _ kind)
      (hx parameters rfl) (by simp)).bind fun i j t t' ht hst hi ↦ ?_
    exact hfk _ _ t t' ht hst ((hbody.within (hst.within ρ)).bind name (hmake hi))

theorem run_lockstep {decl decl' : ClassDecl} (hdecl : ρ.QuietBody ctx.postponed decl)
    (hsame : decl' = { decl with moduleName := decl'.moduleName, nested := decl'.nested })
    (hbody : TakesBody (ρ.upTo s) body body') :
    Lockstep ρ near b (fun t ↦ TakesBody (ρ.upTo t)) s s' (run ctx decl body) (run ctx' decl' body') := by
  rw [hsame]
  unfold run
  dsimp only
  refine (Lockstep.foldlM (S := fun t ↦ TakesBody (ρ.upTo t)) (P := fun a a' ↦ a = a' ∧ a ∈ decl.attributes)
    (List.forall₂_same.2 fun a ha ↦ ⟨rfl, ha⟩) h hbody
    fun a a' c c' t t' ha ht hst hc ↦ ?_).bind fun c c' t t' ht hst hc ↦ ?_
  · obtain ⟨rfl, ha⟩ := ha
    exact member_lockstep ht (hctx.extended hst) hc (hdecl.constants a ha) (hdecl.expressions a ha)
  have hmembers : TakesBody (ρ.upTo t)
      (decl.members.foldl (fun body m ↦ body.bind m.1 (.object decl.name)) c)
      (decl.members.foldl (fun body m ↦ body.bind m.1 (.object decl.name)) c') :=
    List.rel_foldl (R := Eq) (P := TakesBody (ρ.upTo t))
      (fun c c' hc m m' hm ↦ hm ▸ hc.bind m.1 (.object decl.name)) hc (List.forall₂_same.2 fun _ _ ↦ rfl)
  refine (Lockstep.foldlM (S := fun t ↦ TakesBody (ρ.upTo t)) (P := fun f f' ↦ f = f' ∧ f ∈ decl.fields)
    (List.forall₂_same.2 fun f hf ↦ ⟨rfl, hf⟩) ht hmembers
    fun f f' c c' u u' hf hu htu hc ↦ ?_).bind fun c c' u u' hu htu hc ↦ ?_
  · obtain ⟨rfl, hf⟩ := hf
    exact field_lockstep hu (hctx.extended (hst.trans htu)) hc decl.kind (hdecl.hints f hf)
      (hdecl.defaults f hf)
  have hctx := hctx.extended (hst.trans htu)
  refine special_lockstep hu hctx hc "__new__" "cls" .staticFunction
    (fun c c' v v' hv huv hc ↦ ?_) decl.maker hdecl.maker
  have hctx := hctx.extended huv
  refine special_lockstep hv hctx hc "__init__" "self" .function
    (fun c c' w w' hw hvw hc ↦ ?_) decl.constructor hdecl.constructor
  have hctx := hctx.extended hvw
  refine Lockstep.foldlM (S := fun t ↦ TakesBody (ρ.upTo t)) (P := fun m m' ↦ m = m' ∧ m ∈ decl.methods)
    (List.forall₂_same.2 fun m hm ↦ ⟨rfl, hm⟩) hw hc fun m m' c c' y y' hm hy hwy hc ↦ ?_
  obtain ⟨rfl, hm⟩ := hm
  exact method_lockstep hy (hctx.extended hwy) hc (hdecl.parameters m hm) (hdecl.returns m hm)

end RouteClient.Project.ClassBody
