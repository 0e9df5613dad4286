namespace RouteClient.Project.Lineage

variable {α : Type} [BEq α]

def nextHead? (orders : List (List α)) : Option α :=
  orders.findSome? fun
    | [] => none
    | head :: _ => if orders.any fun order ↦ (order.drop 1).contains head then none else some head

def dropHead (head : α) (orders : List (List α)) : List (List α) :=
  orders.map fun
    | [] => []
    | a :: rest => if a == head then rest else a :: rest

/-- Merges orders by taking next heads, or returns the heads that are left when there is none. Each
step takes an element, so as many steps as there are elements suffice. -/
def merge : Nat → List (List α) → Except (List α) (List α)
  | 0, _ => .ok []
  | fuel + 1, orders =>
    if orders.all List.isEmpty then .ok []
    else
      match nextHead? orders with
      | none => .error (orders.filterMap List.head?).eraseDups
      | some head => (merge fuel (dropHead head orders)).map (head :: ·)

def above (orderOf : α → List α) (bases : List α) : Except (List α) (List α) :=
  let orders := bases.map orderOf ++ [bases]
  merge (orders.flatten.length + 1) orders

end RouteClient.Project.Lineage
