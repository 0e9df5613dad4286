import RouteClient.Proofs.Build.Depth
import RouteClient.Proofs.Interfaces.Declarations
import RouteClient.Proofs.Project.Verdict

namespace RouteClient.Endpoint

variable {σ : Type}

def shapes : Endpoint σ → List σ
  | .skipped _ => []
  | .typed request response => request.nested.toList ++ response.nested.toList

end RouteClient.Endpoint

namespace RouteClient.Draft

open Interfaces ShapeGraph

variable {κ σ : Type} {g : ShapeGraph σ} {R : σ → Prop} {fuel : Nat} {order : List σ}

variable {d : Draft κ}

theorem bind_interfaces (d : Draft κ) (route : Route κ) (b : Client.Binding) :
    (d.bind route b).interfaces.seen = d.interfaces.seen ∧
      (d.bind route b).interfaces.declared = d.interfaces.declared ∧
      (d.bind route b).interfaces.failure = d.interfaces.failure := by
  simp only [bind]
  split <;> exact ⟨rfl, rfl, rfl⟩

end RouteClient.Draft

namespace RouteClient.Build

open RouteClient.Project RouteClient.Shape ShapeGraph Interfaces

variable (s : Session) (roots : List ClassRef)

/-- The interfaces collected from some shapes of a session. -/
def collected : Interfaces := collectAll (graph s) (depth s) roots

variable {s roots} (hids : (graph s).DistinctIds roots)

include hids in
theorem complete_collected : Complete (graph s) roots (collected s roots) :=
  complete_collectAll hids (smallerThan_depth s roots)

def partner (name fieldName : String) (other : Nat) : ClassRecord × FunctionRecord :=
  let type := Value.cls (.declared other)
  ({ name, qualifiedName := name, moduleName := "shop", above := [.standard .object],
     annotations := ⟨[(fieldName, type)]⟩, attributes := ⟨[("__init__", .function (1 - other))]⟩ },
   { name := "__init__", parameters := [{ name := "self" }, { name := fieldName, hint := some type }],
     returns := none, home := none })

def partners : Session :=
  let left := partner "Left" "right" 1
  let right := partner "Right" "left" 0
  { classes := #[left.1, right.1], functions := #[left.2, right.2] }

theorem read_left : Reflect.read partners (.declared 0) =
    .ok [{ name := "right", typeName := "Right", nested := some (.declared 1) }] := by
  decide +kernel

theorem read_right : Reflect.read partners (.declared 1) =
    .ok [{ name := "left", typeName := "Left", nested := some (.declared 0) }] := by
  decide +kernel

theorem leadsTo_partner {c d : ClassRef} (hc : c = .declared 0 ∨ c = .declared 1)
    (h : (graph partners).LeadsTo c d) : d = .declared 0 ∨ d = .declared 1 := by
  have hmem := mem_nestedShapes h
  rcases hc with rfl | rfl
  · rw [nestedShapes, fieldsOf_of_ok ((reflect_graph _ _).trans read_left)] at hmem
    exact .inr (by simpa using hmem)
  · rw [nestedShapes, fieldsOf_of_ok ((reflect_graph _ _).trans read_right)] at hmem
    exact .inl (by simpa using hmem)

theorem reachable_partners {c : ClassRef} (hc : (graph partners).Reachable [.declared 0] c) :
    c = .declared 0 ∨ c = .declared 1 :=
  hc.induction (P := fun c ↦ c = .declared 0 ∨ c = .declared 1)
    (fun _ hr ↦ .inl (List.mem_singleton.1 hr)) fun _ _ ↦ leadsTo_partner

theorem distinctIds_partners : (graph partners).DistinctIds [.declared 0] := by
  intro x y hx hy hid
  have hleft : (graph partners).id (.declared 0) = "shop.Left" := rfl
  have hright : (graph partners).id (.declared 1) = "shop.Right" := rfl
  rcases reachable_partners hx with rfl | rfl <;> rcases reachable_partners hy with rfl | rfl
  · rfl
  · rw [hleft, hright] at hid
    exact absurd hid (by decide)
  · rw [hleft, hright] at hid
    exact absurd hid (by decide)
  · rfl

theorem leadsTo_right : (graph partners).LeadsTo (.declared 0) (.declared 1) := by
  refine ⟨by decide +kernel, { name := "right", typeName := "Right", nested := some (.declared 1) }, ?_, rfl⟩
  rw [fieldsOf_of_ok ((reflect_graph _ _).trans read_left)]
  exact List.mem_singleton.2 rfl

theorem leadsTo_left : (graph partners).LeadsTo (.declared 1) (.declared 0) := by
  refine ⟨by decide +kernel, { name := "left", typeName := "Left", nested := some (.declared 0) }, ?_, rfl⟩
  rw [fieldsOf_of_ok ((reflect_graph _ _).trans read_right)]
  exact List.mem_singleton.2 rfl

theorem declared_partners : (collected partners [.declared 0]).declared =
    [(graph partners).declaration (.declared 1), (graph partners).declaration (.declared 0)] := by
  decide +kernel

/-- A declared shape stands before another one that it has a field of only if that one leads back to
it. Every other shape with fields that it has a field of stands before it. -/
theorem declared_before_or_cycle (s : Session) (roots : List ClassRef)
    (hids : (graph s).DistinctIds roots) {c d : ClassRef} (hc : (graph s).Reachable roots c)
    (hleads : (graph s).LeadsTo c d) {i : Nat}
    (hi : (collected s roots).declared[i]? = some ((graph s).declaration c)) :
    (∀ j, i < j → (collected s roots).declared[j]? = some ((graph s).declaration d) →
      (graph s).Reaches d c) ∧
    ((graph s).fieldsOf d ≠ [] → ¬(graph s).Reaches d c →
      ∃ j < i, (collected s roots).declared[j]? = some ((graph s).declaration d)) := by
  have hcomplete := complete_collected hids
  refine ⟨fun j hij hj ↦ hcomplete.reaches_of_declared_after hids hc hleads hi hj hij,
    fun hd hacyclic ↦ ?_⟩
  rcases hcomplete.declared_before hids hc hleads hd hi with hbefore | hreaches
  · exact hbefore
  · exact absurd hreaches hacyclic

theorem declared_before_or_cycle_partners :
    (graph partners).LeadsTo (.declared 1) (.declared 0) ∧
      (collected partners [.declared 0]).declared[0]? =
        some ((graph partners).declaration (.declared 1)) ∧
      (collected partners [.declared 0]).declared[1]? =
        some ((graph partners).declaration (.declared 0)) ∧
      (graph partners).Reaches (.declared 0) (.declared 1) := by
  have hright : (graph partners).Reachable [.declared 0] (.declared 1) :=
    (Reachable.root List.mem_cons_self rfl).step leadsTo_right
  refine ⟨leadsTo_left, by rw [declared_partners]; rfl, by rw [declared_partners]; rfl, ?_⟩
  exact (declared_before_or_cycle partners [.declared 0] distinctIds_partners hright leadsTo_left
    (i := 0) (by rw [declared_partners]; rfl)).1 1 (by decide) (by rw [declared_partners]; rfl)

end RouteClient.Build
