import RouteClient.Contract
import RouteClient.Proofs.Shape.Models
import Mathlib.Data.List.Find
import Mathlib.Data.List.TakeWhile

namespace RouteClient.Contract

open RouteClient.Project

-- No record of a session says which functions are marked as abstract.
variable (marked : Value → Bool) (s : Session)

/-- The class itself declares an entry method that is marked. -/
def declaresEntry (c : ClassRef) : Bool := (Attribute.own? s c entryMethod).any marked

def attributeNames (c : ClassRef) : List String :=
  ((Attribute.record? s c).map (·.attributes.keys)).getD []

def leavesAbstract (c : ClassRef) : Bool :=
  ((Attribute.lineage s c).flatMap (attributeNames s)).any fun key ↦
    (Attribute.find? s c key).any marked

def namesAbstractBase (c : ClassRef) : Bool :=
  (((Attribute.record? s c).map (·.bases)).getD []).any fun b ↦
    decide (b = .standard .abc ∨ b = .standard .protocol)

/-- An abstract base of the project: an `ABC` or a `Protocol`. A model is none, nor is a class that
only comes from one and implements all of it. -/
def isAbstractBase (c : ClassRef) : Bool :=
  isContract s c && Attribute.metaclass s c != .model &&
    (namesAbstractBase s c || leavesAbstract marked s c)

def before (handler contract : ClassRef) : List ClassRef :=
  (Attribute.above s handler).takeWhile (· ≠ contract)

variable {marked s} {handler contract base c : ClassRef}

theorem isContract_of_isAbstractBase (h : isAbstractBase marked s c) : isContract s c := by
  simp only [isAbstractBase, Bool.and_eq_true] at h
  exact h.1.1

theorem above_eq_before_append (h : contract ∈ Attribute.above s handler) :
    ∃ after, Attribute.above s handler = before s handler contract ++ contract :: after := by
  simp only [before]
  generalize Attribute.above s handler = line at h ⊢
  induction line with
  | nil => cases h
  | cons d line ih =>
    by_cases hd : d = contract
    · subst hd
      exact ⟨line, by simp⟩
    · obtain ⟨after, hafter⟩ := ih (List.mem_of_ne_of_mem (Ne.symm hd) h)
      refine ⟨after, ?_⟩
      rw [List.takeWhile_cons_of_pos (by simpa using hd), List.cons_append, ← hafter]

/-- The contract is found unless a class before it counts as one. -/
theorem find?_eq_getD_before (h : contract ∈ Attribute.above s handler)
    (hcontract : isContract s contract) :
    find? s handler = some (((before s handler contract).find? (isContract s)).getD contract) := by
  obtain ⟨after, hsplit⟩ := above_eq_before_append h
  rw [find?, hsplit, List.find?_append, List.find?_cons_of_pos hcontract]
  cases (before s handler contract).find? (isContract s) with
  | none => rfl
  | some base => rfl

theorem find?_isContract_eq (line : List ClassRef)
    (h : ∀ c ∈ line, isContract s c → isAbstractBase marked s c) :
    line.find? (isContract s) = line.find? (isAbstractBase marked s) := by
  apply List.find?_congr
  intro c hc
  rw [Bool.eq_iff_iff]
  exact ⟨h c hc, isContract_of_isAbstractBase⟩

/-- Of the classes above a handler let one alone declare the entry method as abstract, and let those
before it that count as abstract bases be such. The handler's contract is that class if there are
none, and otherwise the first of them, although it declares no entry method. -/
theorem find?_of_sole_declaration
    (hsole : (Attribute.above s handler).filter (declaresEntry marked s) = [contract])
    (hcontract : isContract s contract)
    (hbefore : ∀ c ∈ before s handler contract, isContract s c → isAbstractBase marked s c) :
    ((∀ c ∈ before s handler contract, ¬isAbstractBase marked s c) →
      find? s handler = some contract) ∧
    ∀ base, (before s handler contract).find? (isAbstractBase marked s) = some base →
      find? s handler = some base ∧ ¬declaresEntry marked s base := by
  have hmem : contract ∈ Attribute.above s handler := by
    have h := List.mem_singleton_self contract
    rw [← hsole] at h
    exact (List.mem_filter.1 h).1
  have hfind := find?_eq_getD_before hmem hcontract
  rw [find?_isContract_eq _ hbefore] at hfind
  refine ⟨fun hnone ↦ ?_, fun base hbase ↦ ⟨?_, fun hdeclares ↦ ?_⟩⟩
  · rw [hfind, List.find?_eq_none.2 hnone, Option.getD_none]
  · rw [hfind, hbase, Option.getD_some]
  · have hin := List.mem_of_find?_eq_some hbase
    have habove : base ∈ Attribute.above s handler := (List.takeWhile_prefix _).subset hin
    have hsame : base ∈ [contract] := hsole ▸ List.mem_filter.2 ⟨habove, hdeclares⟩
    have hne := List.mem_takeWhile_imp hin
    simp only [List.mem_singleton] at hsame
    simp [hsame] at hne

def methodOf (name : String) : MethodDecl where
  name
  parameters := [⟨"request", .positional, some (.name "str" []), false⟩]
  returns := some (.name "int" [])

def classOf (name : String) (bases : List String) (methods : List MethodDecl := []) : ClassDecl where
  name
  bases := bases.map (.name · [])
  methods

def logins : List ClassDecl :=
  [classOf "Login" ["ABC"] [methodOf "execute"],
    classOf "Timed" [] [methodOf "seconds"],
    classOf "Audited" ["ABC"] [methodOf "audit"],
    classOf "TimedRoute" ["RouteHandler", "Timed", "Login"],
    classOf "AuditedRoute" ["RouteHandler", "Audited", "Login"]]

def markedEntry : Value → Bool
  | .function index => index == 0
  | _ => false

def visits : Session := Shape.Reflect.declared logins

theorem find?_visits :
    find? visits (.declared 3) = some (.declared 0) ∧
      find? visits (.declared 4) = some (.declared 2) ∧
      ¬declaresEntry markedEntry visits (.declared 2) := by
  -- One evaluation for all, since each would run the declarations again.
  obtain ⟨hcontract, ⟨htimed, hallowed, hplain⟩, haudited, hallowed', hmixin⟩ :
      isContract visits (.declared 0) ∧
      ((Attribute.above visits (.declared 3)).filter (declaresEntry markedEntry visits) =
          [.declared 0] ∧
        (∀ c ∈ before visits (.declared 3) (.declared 0), isContract visits c →
          isAbstractBase markedEntry visits c) ∧
        ∀ c ∈ before visits (.declared 3) (.declared 0), ¬isAbstractBase markedEntry visits c) ∧
      (Attribute.above visits (.declared 4)).filter (declaresEntry markedEntry visits) =
          [.declared 0] ∧
        (∀ c ∈ before visits (.declared 4) (.declared 0), isContract visits c →
          isAbstractBase markedEntry visits c) ∧
        (before visits (.declared 4) (.declared 0)).find? (isAbstractBase markedEntry visits) =
          some (.declared 2) := by
    decide +kernel
  exact ⟨(find?_of_sole_declaration htimed hcontract hallowed).1 hplain,
    (find?_of_sole_declaration haudited hcontract hallowed').2 _ hmixin⟩

theorem abstract_mixin_hides_contract :
    ¬∀ (marked : Value → Bool) (s : Session) (handler contract : ClassRef),
      (Attribute.above s handler).filter (declaresEntry marked s) = [contract] →
        isAbstractBase marked s contract → find? s handler = some contract := by
  intro h
  have hfound := h markedEntry visits (.declared 4) (.declared 0)
  revert hfound
  decide +kernel

end RouteClient.Contract
