import RouteClient.Proofs.Build.Gathered

namespace RouteClient.Build

open RouteClient.Project

def holder (moduleName name fieldName : String) (type : Value) (init : Nat) :
    ClassRecord × FunctionRecord :=
  ({ name, qualifiedName := name, moduleName, above := [.standard .object],
     annotations := ⟨[(fieldName, type)]⟩, attributes := ⟨[("__init__", .function init)]⟩ },
   { name := "__init__", parameters := [{ name := "self" }, { name := fieldName, hint := some type }],
     returns := none, home := none })

def shopItem : ClassRef := .declared 2

def stockItem : ClassRef := .declared 3

def basket : ClassRef := .declared 4

def page : ClassRef := .declared 5

def trade (request response : Value) : Session :=
  let int : Value := .standard ⟨"builtins", "int"⟩
  let holders := [holder "shop" "Item" "sku" (.standard ⟨"builtins", "str"⟩) 1,
    holder "stock" "Item" "count" int 2,
    holder "shop" "Basket" "items" (.plainAlias (.standard .list) [.cls shopItem]) 3,
    holder "shop" "Page" "total" int 4]
  { classes := #[
      { name := "Trade", qualifiedName := "Trade", moduleName := "shop", metaclass := .abstract,
        above := [.standard .abc, .standard .object], attributes := ⟨[("execute", .function 0)]⟩ },
      { name := "Trader", qualifiedName := "Trader", moduleName := "shop", metaclass := .abstract,
        above := [.declared 0, .standard .abc, .standard .object] }] ++
      (holders.map (·.1)).toArray
    functions := #[
      { name := "execute", home := none, returns := some response,
        parameters := [{ name := "self" }, { name := "request", hint := some request }] }] ++
      (holders.map (·.2)).toArray }

def tradeRoutes : List (Route ClassRef) := [⟨"POST", "/trade", "shop.Trader", some (.declared 1)⟩]

def sale : Session := trade (.cls shopItem) (.cls basket)

theorem references_tradeRoutes : ∀ r ∈ tradeRoutes, r.reference.isSome := by decide

theorem identified_sale : Identified (visits tradeRoutes {} sale) := by
  have hroots : (visits tradeRoutes {} sale).flatMap (·.endpoint.shapes) = [shopItem, basket] := by
    decide +kernel
  refine identified_of_distinctIds references_tradeRoutes ?_
  rw [hroots]
  exact distinctIds_of_closed (List.Subset.refl _) (by decide +kernel) (by decide +kernel)

theorem interfaces_sale :
    (ofRoutes tradeRoutes sale).1.toOption.map (·.client.interfaces.map (·.name)) =
      some ["Item", "Basket"] := by
  decide +kernel

variable {s t : Session} {d : Draft ClassRef} {routes : List (Route ClassRef)}

/-- The interfaces are of classes met, and have different full names. Where a full name means one
class, all that is met and has fields is declared; then the interfaces have different names exactly
if no two such classes share a name, and each of those names means the interface of its class. -/
theorem interface_names_distinct_iff (h : ofRoutes routes s = (.ok d, t)) :
    (visits routes {} s).map (·.route) = routes ∧
      (d.client.interfaces.map (·.sourceId)).Nodup ∧
      (∀ i ∈ d.client.interfaces,
        ∃ p, Met (visits routes {} s) p ∧ p.fields ≠ [] ∧ i = p.declaration) ∧
      (Identified (visits routes {} s) →
        (∀ p, Met (visits routes {} s) p → p.fields ≠ [] →
          p.declaration ∈ d.client.interfaces) ∧
        ((d.client.interfaces.map (·.name)).Nodup ↔
          ∀ p q, Met (visits routes {} s) p → Met (visits routes {} s) q → p.fields ≠ [] →
            q.fields ≠ [] → p.name = q.name → p.id = q.id) ∧
        ((d.client.interfaces.map (·.name)).Nodup →
          ∀ p, Met (visits routes {} s) p → p.fields ≠ [] →
            ∀ i ∈ d.client.interfaces, i.name = p.name → i = p.declaration)) := by
  obtain ⟨hturns, entered, order, hgathered⟩ := gathered_ofRoutes h
  refine ⟨hturns, hgathered.sourceIds_nodup, fun i ↦ hgathered.exists_declared, fun hid ↦
    ⟨fun p ↦ hgathered.declared_of_met hid, hgathered.names_nodup_iff hid, ?_⟩⟩
  intro hnames p hp hn i hi hname
  have hdeclared := hgathered.declared_of_met hid hp hn
  exact List.inj_on_of_nodup_map hnames hi hdeclared hname

theorem interface_names_distinct_iff_sale :
    ∃ d t, ofRoutes tradeRoutes sale = (.ok d, t) ∧ Identified (visits tradeRoutes {} sale) ∧
      (d.client.interfaces.map (·.sourceId)).Nodup ∧
      (d.client.interfaces.map (·.name)).Nodup ∧
      ∀ p, Met (visits tradeRoutes {} sale) p → p.fields ≠ [] →
        p.declaration ∈ d.client.interfaces ∧
          ∀ i ∈ d.client.interfaces, i.name = p.name → i = p.declaration := by
  have hinterfaces := interfaces_sale
  rcases h : ofRoutes tradeRoutes sale with ⟨r | d, t⟩
  · rw [h] at hinterfaces
    cases hinterfaces
  · rw [h] at hinterfaces
    have hnames : d.client.interfaces.map (·.name) = ["Item", "Basket"] :=
      Option.some.inj hinterfaces
    have hnodup : (d.client.interfaces.map (·.name)).Nodup := by
      rw [hnames]
      decide
    obtain ⟨_, hids, _, hidentified⟩ := interface_names_distinct_iff h
    obtain ⟨hall, _, hmeaning⟩ := hidentified identified_sale
    exact ⟨d, t, rfl, identified_sale, hids, hnodup, fun p hp hn ↦
      ⟨hall p hp hn, hmeaning hnodup p hp hn⟩⟩

/-- Two classes of different modules are declared under one name. -/
theorem interface_names_equal :
    (ofRoutes tradeRoutes (trade (.cls shopItem) (.cls stockItem))).1.toOption.map
        (·.client.interfaces.map fun i ↦ (i.name, i.sourceId)) =
      some [("Item", "shop.Item"), ("Item", "stock.Item")] := by
  decide +kernel

end RouteClient.Build
