import RouteClient.Project.Prelude
import RouteClient.Project.TypeText
import RouteClient.Proofs.Outcomes
import RouteClient.Proofs.Project.Constructor
import Mathlib.Logic.Relator

namespace RouteClient.Project

namespace TypeExpr

mutual

def mentioned : TypeExpr → List String
  | name first more => first :: more
  | subscript head arguments => head.mentioned ++ mentionedInAll arguments
  | union left right => left.mentioned ++ right.mentioned
  | sequence items => mentionedInAll items
  | call head _ => head.mentioned
  | constant _ | ellipsis | malformed _ => []

def mentionedInAll : List TypeExpr → List String
  | [] => []
  | e :: rest => e.mentioned ++ mentionedInAll rest

end

mutual

def quoted : TypeExpr → List String
  | constant (.text t) => [t]
  | subscript head arguments => head.quoted ++ quotedInAll arguments
  | union left right => left.quoted ++ right.quoted
  | sequence items => quotedInAll items
  | call head _ => head.quoted
  | _ => []

def quotedInAll : List TypeExpr → List String
  | [] => []
  | e :: rest => e.quoted ++ quotedInAll rest

end

end TypeExpr

/-- New names for modules, different ones for different modules. Those that are loaded before any
project is keep theirs. Of two sessions only some classes, functions and modules are compared, each
with one of the other. -/
structure Renaming where
  name : String → String
  injective : Function.Injective name
  kept : ∀ m ∈ Prelude.modules, name m.1 = m.1
  hidden : String → Prop
  hides : ∀ key ∈ ["__name__", "__qualname__", "__module__"], hidden key
  classes : Nat → Nat → Prop
  functions : Nat → Nat → Prop
  modules : Nat → Nat → Prop
  classesUnique : Relator.BiUnique classes
  functionsUnique : Relator.BiUnique functions
  modulesUnique : Relator.BiUnique modules
  homes : String → Prop
  prelude : ∀ m ∈ Prelude.modules, homes m.1

namespace Renaming

variable (ρ : Renaming)

inductive TakesRef : ClassRef → ClassRef → Prop
  | standard (c : StandardClass) : TakesRef (.standard c) (.standard c)
  | declared {i j : Nat} (h : ρ.classes i j) : TakesRef (.declared i) (.declared j)
  | specialized (label : String) {i j : Nat} (h : ρ.classes i j) :
    TakesRef (.specialized i label) (.specialized j label)

/-- Everything of a session is compared, each with what has its number. -/
structure IsLevel : Prop where
  classes : ∀ index, ρ.classes index index
  functions : ∀ index, ρ.functions index index
  modules : ∀ index, ρ.modules index index

structure IsTotal : Prop extends ρ.IsLevel where
  homes : ∀ name, ρ.homes name

variable {ρ} in
theorem IsLevel.takesRef (h : ρ.IsLevel) (c : ClassRef) : ρ.TakesRef c c := by
  cases c with
  | standard d => exact .standard d
  | declared index => exact .declared (h.classes index)
  | specialized index label => exact .specialized label (h.classes index)

theorem homes_none : ∀ n ∈ (none : Option String), ρ.homes n := fun _ h ↦ nomatch h

/-- A text that mentions no hidden name, also not in the texts within it. -/
inductive Quiet : String → Prop
  | intro {text : String}
      (hnames : ∀ e, TypeText.parse? text = some e → ∀ n ∈ e.mentioned, ¬ρ.hidden n)
      (hquoted : ∀ e, TypeText.parse? text = some e → ∀ t ∈ e.quoted, Quiet t) : Quiet text

inductive Takes : Value → Value → Prop
  | cls {c d : ClassRef} (h : ρ.TakesRef c d) : Takes (.cls c) (.cls d)
  | scalar {x : Scalar} (h : ∀ t, x = .text t → ρ.Quiet t) : Takes (.scalar x) (.scalar x)
  | ellipsis : Takes .ellipsis .ellipsis
  | form (name : String) : Takes (.form name) (.form name)
  | classForm (name : String) (origin : StandardClass) (arity : Option Nat) :
    Takes (.classForm name origin arity) (.classForm name origin arity)
  | typeVar (name home : String) : Takes (.typeVar name home) (.typeVar name (ρ.name home))
  | newType (name home : String) : Takes (.newType name home) (.newType name (ρ.name home))
  | reference {text : String} (h : ρ.Quiet text) {home : Option String} (hhome : ∀ n ∈ home, ρ.homes n) :
    Takes (.reference text home) (.reference text (home.map ρ.name))
  | plainAlias {c d : ClassRef} (horigin : ρ.TakesRef c d) {vs ws : List Value}
      (h : List.Forall₂ Takes vs ws) : Takes (.plainAlias c vs) (.plainAlias d ws)
  | typingAlias (name : Option String) {c d : ClassRef} (horigin : ρ.TakesRef c d)
      {vs ws : List Value} (h : List.Forall₂ Takes vs ws) :
    Takes (.typingAlias name c vs) (.typingAlias name d ws)
  | literal {vs ws : List Value} (h : List.Forall₂ Takes vs ws) : Takes (.literal vs) (.literal ws)
  | applied (form : String) {v w : Value} (h : Takes v w) : Takes (.applied form v) (.applied form w)
  | annotated {v w : Value} {vs ws : List Value} (h : Takes v w) (hs : List.Forall₂ Takes vs ws) :
    Takes (.annotated v vs) (.annotated w ws)
  | initOnly {v w : Value} (h : Takes v w) : Takes (.initOnly v) (.initOnly w)
  | union {vs ws : List Value} (h : List.Forall₂ Takes vs ws) : Takes (.union vs) (.union ws)
  | bars {vs ws : List Value} (h : List.Forall₂ Takes vs ws) : Takes (.bars vs) (.bars ws)
  | sequence {vs ws : List Value} (h : List.Forall₂ Takes vs ws) :
    Takes (.sequence vs) (.sequence ws)
  | tuple {vs ws : List Value} (h : List.Forall₂ Takes vs ws) : Takes (.tuple vs) (.tuple ws)
  | module {i j : Nat} (h : ρ.modules i j) : Takes (.module i) (.module j)
  | function {i j : Nat} (h : ρ.functions i j) : Takes (.function i) (.function j)
  | classFunction {i j : Nat} (h : ρ.functions i j) : Takes (.classFunction i) (.classFunction j)
  | staticFunction {i j : Nat} (h : ρ.functions i j) : Takes (.staticFunction i) (.staticFunction j)
  | bound {i j : Nat} (h : ρ.functions i j) : Takes (.bound i) (.bound j)
  | property {i j : Nat} (h : ρ.functions i j) : Takes (.property i) (.property j)
  | builtinFunction (name : String) : Takes (.builtinFunction name) (.builtinFunction name)
  | object (className : String) : Takes (.object className) (.object className)

abbrev TakesAll : List Value → List Value → Prop := List.Forall₂ ρ.Takes

variable {ρ} {v w v' w' : Value} {vs ws vs' ws' : List Value} {c d c' d' : ClassRef}

theorem eq_iff_of_biUnique {R : Nat → Nat → Prop} (hR : Relator.BiUnique R) {i j i' j' : Nat}
    (h : R i j) (h' : R i' j') : i = i' ↔ j = j' := Relator.rel_eq hR h h'

theorem eq_of_level {R : Nat → Nat → Prop} (hR : Relator.BiUnique R) (hall : ∀ i, R i i) {i j : Nat}
    (h : R i j) : i = j := (eq_iff_of_biUnique hR (hall i) h).1 rfl

theorem TakesRef.eq_iff (h : ρ.TakesRef c d) (h' : ρ.TakesRef c' d') : c = c' ↔ d = d' := by
  cases h <;> cases h'
  case declared.declared h _ _ h' =>
    rw [ClassRef.declared.injEq, ClassRef.declared.injEq, eq_iff_of_biUnique ρ.classesUnique h h']
  case specialized.specialized h _ _ _ h' =>
    rw [ClassRef.specialized.injEq, ClassRef.specialized.injEq,
      eq_iff_of_biUnique ρ.classesUnique h h']
  all_goals simp only [reduceCtorEq]

theorem TakesRef.beq (h : ρ.TakesRef c d) (h' : ρ.TakesRef c' d') : (c == c') = (d == d') := by
  rw [Bool.eq_iff_iff, beq_iff_eq, beq_iff_eq, h.eq_iff h']

theorem equalConstants_takes (h : ρ.Takes v w) (h' : ρ.Takes v' w') :
    Value.equalConstants v v' = Value.equalConstants w w' := by
  cases h <;> cases h' <;> rfl

theorem any_forall₂ {α β : Type} {R : α → β → Prop} {p : α → Bool} {q : β → Bool} {xs : List α}
    {ys : List β} (h : List.Forall₂ R xs ys) (hpq : ∀ x y, R x y → p x = q y) :
    xs.any p = ys.any q := by
  induction h with
  | nil => rfl
  | cons hx _ ih => rw [List.any_cons, List.any_cons, hpq _ _ hx, ih]

theorem all_forall₂ {α β : Type} {R : α → β → Prop} {p : α → Bool} {q : β → Bool} {xs : List α}
    {ys : List β} (h : List.Forall₂ R xs ys) (hpq : ∀ x y, R x y → p x = q y) :
    xs.all p = ys.all q := by
  induction h with
  | nil => rfl
  | cons hx _ ih => rw [List.all_cons, List.all_cons, hpq _ _ hx, ih]

theorem filter_forall₂ {α β : Type} {R : α → β → Prop} {p : α → Bool} {q : β → Bool} {xs : List α}
    {ys : List β} (h : List.Forall₂ R xs ys) (hpq : ∀ x y, R x y → p x = q y) :
    List.Forall₂ R (xs.filter p) (ys.filter q) :=
  List.rel_filter (fun _ _ hx ↦ Bool.eq_iff_iff.1 (hpq _ _ hx)) h

theorem equalLiterals_takes (h : ρ.TakesAll vs ws) (h' : ρ.TakesAll vs' ws') :
    Value.equalLiterals vs vs' = Value.equalLiterals ws ws' := by
  unfold Value.equalLiterals
  congr 1
  · exact all_forall₂ h fun _ _ hx ↦ any_forall₂ h' fun _ _ hy ↦ equalConstants_takes hx hy
  · exact all_forall₂ h' fun _ _ hx ↦ any_forall₂ h fun _ _ hy ↦ equalConstants_takes hx hy

theorem beq_of_biUnique {R : Nat → Nat → Prop} (hR : Relator.BiUnique R) {i j i' j' : Nat}
    (h : R i j) (h' : R i' j') : (i == i') = (j == j') := by
  rw [Bool.eq_iff_iff, beq_iff_eq, beq_iff_eq, eq_iff_of_biUnique hR h h']

theorem IsLevel.eq_of_takesRef (hρ : ρ.IsLevel) (h : ρ.TakesRef c d) : c = d :=
  ((hρ.takesRef c).eq_iff h).1 rfl

theorem biUnique_eq {α : Type} : Relator.BiUnique (Eq : α → α → Prop) :=
  ⟨fun _ _ _ h h' ↦ h.trans h'.symm, fun _ _ _ h h' ↦ h.symm.trans h'⟩

/-- Values are equal afterwards exactly if they were. -/
theorem equal_takes (h : ρ.Takes v w) :
    ∀ {v' w'}, ρ.Takes v' w' → Value.equal v v' = Value.equal w w' := by
  apply @Takes.rec ρ (fun v w _ ↦ ∀ {v' w'}, ρ.Takes v' w' → Value.equal v v' = Value.equal w w')
    (fun vs ws _ ↦ ∀ {vs' ws'}, ρ.TakesAll vs' ws' → Value.equalAll vs vs' = Value.equalAll ws ws')
  case t => exact h
  -- Values of different constructors are different on both sides.
  all_goals
    intros
    rename_i h'
    cases h' <;> try rfl
  case typeVar.typeVar => simp only [Value.equal, ρ.injective.eq_iff]
  case newType.newType => simp only [Value.equal, ρ.injective.eq_iff]
  case reference.reference =>
    simp only [Value.equal, (Option.map_injective ρ.injective).eq_iff]
  case literal.literal h _ _ _ h' => exact equalLiterals_takes h h'
  case cls.cls hc _ _ hd => simp only [Value.equal, hc.eq_iff hd]
  case plainAlias.plainAlias hc _ _ _ ih _ _ hd _ _ h => simp only [Value.equal, hc.eq_iff hd, ih h]
  case typingAlias.typingAlias hc _ _ _ ih _ _ _ hd _ _ h =>
    simp only [Value.equal, hc.eq_iff hd, ih h]
  case function.function h _ _ h' => exact beq_of_biUnique ρ.functionsUnique h h'
  case classFunction.classFunction h _ _ h' => exact beq_of_biUnique ρ.functionsUnique h h'
  case staticFunction.staticFunction h _ _ h' => exact beq_of_biUnique ρ.functionsUnique h h'
  case bound.bound h _ _ h' => exact beq_of_biUnique ρ.functionsUnique h h'
  case property.property h _ _ h' => exact beq_of_biUnique ρ.functionsUnique h h'
  case module.module h _ _ h' => exact beq_of_biUnique ρ.modulesUnique h h'
  case applied.applied ih _ _ _ h => simp only [Value.equal, ih h]
  case annotated.annotated ih ihs _ _ _ _ h hs => simp only [Value.equal, ih h, ihs hs]
  case initOnly.initOnly ih _ _ h => exact ih h
  case cons.cons ih ihs _ _ _ _ h hs => simp only [Value.equalAll, ih h, ihs hs]
  case union.union ih _ _ h => exact ih h
  case bars.bars ih _ _ h => exact ih h
  case sequence.sequence ih _ _ h => exact ih h
  case tuple.tuple ih _ _ h => exact ih h

theorem beq_takes (h : ρ.Takes v w) (h' : ρ.Takes v' w') : (v == v') = (w == w') := equal_takes h h'

theorem bne_takes (h : ρ.Takes v w) (h' : ρ.Takes v' w') : (v != v') = (w != w') :=
  congrArg not (beq_takes h h')

theorem eraseDups_takes (h : ρ.TakesAll vs ws) : ρ.TakesAll vs.eraseDups ws.eraseDups := by
  -- A value that has been met is taken out of the rest, which is shorter by at least the first.
  induction hn : vs.length using Nat.strongRecOn generalizing vs ws with
  | ind n ih =>
    cases h with
    | nil => exact .nil
    | @cons v w vs ws hv hvs =>
      rw [List.eraseDups_cons, List.eraseDups_cons]
      have hrest : ρ.TakesAll (vs.filter fun u ↦ !u == v) (ws.filter fun u ↦ !u == w) :=
        filter_forall₂ hvs fun _ _ hu ↦ congrArg not (beq_takes hu hv)
      have hlength : (vs.filter fun u ↦ !u == v).length < n := by
        have hle := List.length_filter_le (fun u ↦ !u == v) vs
        rw [List.length_cons] at hn
        omega
      exact .cons hv (ih _ hlength hrest rfl)

theorem takesAll_append (h : ρ.TakesAll vs ws) (h' : ρ.TakesAll vs' ws') :
    ρ.TakesAll (vs ++ vs') (ws ++ ws') := List.rel_append h h'

theorem Takes.noneAsType (h : ρ.Takes v w) : ρ.Takes v.noneAsType w.noneAsType := by
  have hsame := h
  cases h with
  | @scalar x hx =>
    cases x with
    | none => exact .cls (.standard _)
    | _ => exact hsame
  | _ => exact hsame

end Renaming

end RouteClient.Project
