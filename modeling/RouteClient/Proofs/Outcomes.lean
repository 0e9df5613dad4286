import RouteClient.Failure
import Mathlib.Data.List.Forall2
import Mathlib.Data.Option.Basic

namespace RouteClient

variable {ε δ α α' β β' : Type}

inductive Outcomes (E : ε → δ → Prop) (S : α → β → Prop) : Except ε α → Except δ β → Prop
  | error {e : ε} {e' : δ} (h : E e e') : Outcomes E S (.error e) (.error e')
  | ok {a : α} {b : β} (h : S a b) : Outcomes E S (.ok a) (.ok b)

namespace Outcomes

variable {E : ε → δ → Prop} {R : α → α' → Prop} {S : β → β' → Prop}

theorem mono {T : β → β' → Prop} {x : Except ε β} {y : Except δ β'} (h : Outcomes E S x y)
    (hST : ∀ b b', S b b' → T b b') : Outcomes E T x y := by
  cases h with
  | error h => exact .error h
  | ok h => exact .ok (hST _ _ h)

theorem imp {F : ε → δ → Prop} {x : Except ε β} {y : Except δ β'}
    (h : Outcomes E S x y) (hEF : ∀ e e', E e e' → F e e') : Outcomes F S x y := by
  cases h with
  | error h => exact .error (hEF _ _ h)
  | ok h => exact .ok h

theorem bind {x : Except ε α} {y : Except δ α'} {f : α → Except ε β} {k : α' → Except δ β'}
    (h : Outcomes E R x y) (hf : ∀ a a', R a a' → Outcomes E S (f a) (k a')) :
    Outcomes E S (x >>= f) (y >>= k) := by
  cases h with
  | error h => exact .error h
  | ok h => exact hf _ _ h

theorem map {x : Except ε α} {y : Except δ α'} {f : α → β} {k : α' → β'} (h : Outcomes E R x y)
    (hf : ∀ a a', R a a' → S (f a) (k a')) : Outcomes E S (x.map f) (y.map k) := by
  cases h with
  | error h => exact .error h
  | ok h => exact .ok (hf _ _ h)

theorem mapM {f : α → Except ε β} {k : α' → Except δ β'} {xs : List α} {ys : List α'}
    (h : List.Forall₂ R xs ys) (hf : ∀ a a', R a a' → Outcomes E S (f a) (k a')) :
    Outcomes E (List.Forall₂ S) (xs.mapM f) (ys.mapM k) := by
  induction h with
  | nil => exact .ok .nil
  | cons ha _ ih =>
    rw [List.mapM_cons, List.mapM_cons]
    exact (hf _ _ ha).bind fun b b' hb ↦ ih.bind fun bs bs' hbs ↦ .ok (.cons hb hbs)

theorem foldlM {f : β → α → Except ε β} {k : β' → α' → Except δ β'} {xs : List α} {ys : List α'}
    {b : β} {b' : β'} (h : List.Forall₂ R xs ys) (hb : S b b')
    (hf : ∀ b b' a a', S b b' → R a a' → Outcomes E S (f b a) (k b' a')) :
    Outcomes E S (xs.foldlM f b) (ys.foldlM k b') := by
  induction h generalizing b b' with
  | nil => exact .ok hb
  | cons ha _ ih =>
    rw [List.foldlM_cons, List.foldlM_cons]
    exact (hf _ _ _ _ hb ha).bind fun c c' hc ↦ ih hc

end Outcomes

theorem exists_of_bind_eq_ok {x : Except ε α} {f : α → Except ε β} {b : β}
    (h : (x >>= f) = .ok b) : ∃ a, x = .ok a ∧ f a = .ok b := by
  cases x with
  | error e => cases h
  | ok a => exact ⟨a, rfl, h⟩

theorem exists_of_mapM_eq_ok {f : α → Except ε β} {xs : List α} {ys : List β}
    (h : xs.mapM f = .ok ys) : ∀ y ∈ ys, ∃ x ∈ xs, f x = .ok y := by
  induction xs generalizing ys with
  | nil =>
    cases h
    simp
  | cons x xs ih =>
    rw [List.mapM_cons] at h
    obtain ⟨z, hz, h⟩ := exists_of_bind_eq_ok h
    obtain ⟨zs, hzs, h⟩ := exists_of_bind_eq_ok h
    cases h
    intro y hy
    rcases List.mem_cons.1 hy with rfl | hy
    · exact ⟨x, List.mem_cons_self, hz⟩
    · obtain ⟨w, hw, hy⟩ := ih hzs y hy
      exact ⟨w, List.mem_cons_of_mem x hw, hy⟩

theorem eq_ok_of_toOption {x : Except ε α} {a : α} (h : x.toOption = some a) : x = .ok a := by
  cases x with
  | error e => cases h
  | ok b => exact congrArg Except.ok (Option.some_inj.1 h)

theorem mapM_congr {f k : α → Except ε β} {xs : List α} (h : ∀ a ∈ xs, f a = k a) :
    xs.mapM f = xs.mapM k := by
  induction xs with
  | nil => rfl
  | cons a xs ih =>
    rw [List.forall_mem_cons] at h
    rw [List.mapM_cons, List.mapM_cons, h.1, ih h.2]

/-- Errors of one kind, and not about a module that is not there. -/
structure Raised.Kin (r r' : Raised) : Prop where
  kind : r.kind = r'.kind
  found : r.kind ≠ "ModuleNotFoundError"

theorem Raised.Kin.of {kind text text' : String} (h : kind ≠ "ModuleNotFoundError") :
    Raised.Kin ⟨kind, text⟩ ⟨kind, text'⟩ := ⟨rfl, h⟩

namespace Raised.Kin

variable {text text' : String}

theorem typeError : Raised.Kin ⟨"TypeError", text⟩ ⟨"TypeError", text'⟩ := .of (by decide)

theorem attributeError : Raised.Kin ⟨"AttributeError", text⟩ ⟨"AttributeError", text'⟩ := .of (by decide)

theorem nameError : Raised.Kin ⟨"NameError", text⟩ ⟨"NameError", text'⟩ := .of (by decide)

theorem keyError : Raised.Kin ⟨"KeyError", text⟩ ⟨"KeyError", text'⟩ := .of (by decide)

theorem syntaxError : Raised.Kin ⟨"SyntaxError", text⟩ ⟨"SyntaxError", text'⟩ := .of (by decide)

theorem importError : Raised.Kin ⟨"ImportError", text⟩ ⟨"ImportError", text'⟩ := .of (by decide)

theorem recursionError : Raised.Kin ⟨"RecursionError", text⟩ ⟨"RecursionError", text'⟩ := .of (by decide)

theorem indexError : Raised.Kin ⟨"IndexError", text⟩ ⟨"IndexError", text'⟩ := .of (by decide)

end Raised.Kin

abbrev Akin (S : α → β → Prop) : Except Raised α → Except Raised β → Prop := Outcomes Raised.Kin S

abbrev SameKind (S : α → β → Prop) : Except Raised α → Except Raised β → Prop :=
  Outcomes (fun r r' ↦ r.kind = r'.kind) S

theorem Raised.isUnresolvable_congr {r r' : Raised} (h : r.kind = r'.kind) :
    r.isUnresolvable = r'.isUnresolvable := by
  unfold isUnresolvable
  rw [h]

end RouteClient
