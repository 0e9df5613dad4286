namespace RouteClient

structure OrderedMap (α β : Type) where
  entries : List (α × β)
deriving Repr, BEq, DecidableEq

end RouteClient

namespace RouteClient.OrderedMap

variable {α β : Type}

def empty : OrderedMap α β := ⟨[]⟩

instance : Inhabited (OrderedMap α β) := ⟨empty⟩

def keys (m : OrderedMap α β) : List α := m.entries.map (·.1)

def values (m : OrderedMap α β) : List β := m.entries.map (·.2)

variable [BEq α]

def get? (m : OrderedMap α β) (k : α) : Option β := m.entries.lookup k

def contains (m : OrderedMap α β) (k : α) : Bool := (m.get? k).isSome

def putEntries (k : α) (v : β) : List (α × β) → List (α × β)
  | [] => [(k, v)]
  | (a, b) :: rest => if k == a then (a, v) :: rest else (a, b) :: putEntries k v rest

def put (m : OrderedMap α β) (k : α) (v : β) : OrderedMap α β := ⟨putEntries k v m.entries⟩

def erase (m : OrderedMap α β) (k : α) : OrderedMap α β :=
  ⟨m.entries.filter fun e ↦ !(k == e.1)⟩

def merge (m n : OrderedMap α β) : OrderedMap α β :=
  n.entries.foldl (fun acc e ↦ acc.put e.1 e.2) m

def ofList (entries : List (α × β)) : OrderedMap α β := empty.merge ⟨entries⟩

end RouteClient.OrderedMap

namespace RouteClient.OrderedMap

variable {α β : Type} [BEq α] [LawfulBEq α]

theorem lookup_putEntries (k a : α) (v : β) (entries : List (α × β)) :
    (putEntries k v entries).lookup a = if a == k then some v else entries.lookup a := by
  induction entries with
  | nil => cases h : a == k <;> simp [putEntries, List.lookup_cons, h]
  | cons e rest ih =>
    obtain ⟨b, w⟩ := e
    by_cases hkb : k = b
    · subst hkb
      cases h : a == k <;> simp [putEntries, List.lookup_cons, h]
    · have hkb' : (k == b) = false := by simpa using hkb
      by_cases hab : a = b
      · subst hab
        have hak : (a == k) = false := by simpa using fun h ↦ hkb h.symm
        simp [putEntries, hkb', hak]
      · have hab' : (a == b) = false := by simpa using hab
        simp only [putEntries, hkb', List.lookup_cons, hab', ih, Bool.false_eq_true, if_false]

@[simp] theorem get?_put (m : OrderedMap α β) (k a : α) (v : β) :
    (m.put k v).get? a = if a == k then some v else m.get? a :=
  lookup_putEntries k a v m.entries

omit [LawfulBEq α] in
@[simp] theorem get?_empty (a : α) : (empty : OrderedMap α β).get? a = none := rfl

end RouteClient.OrderedMap
