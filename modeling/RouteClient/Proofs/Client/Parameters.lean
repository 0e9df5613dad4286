import RouteClient.Build
import RouteClient.Client.Render
import RouteClient.Proofs.Build.Bindings
import RouteClient.Proofs.Template

namespace RouteClient.Client.Binding

def parameters (b : Binding) : List (String × String) :=
  (if b.hasBody then [("data", b.requestType.getD "None")] else []) ++
    b.pathParams.map fun name ↦ (name, "string")

def quotationMark (b : Binding) : String := if b.pathParams.isEmpty then "'" else "`"

def address (b : Binding) (text : List Char → List Char) : String :=
  b.quotationMark ++ String.ofList (Template.fill text (Template.pieces b.path.toList)) ++
    b.quotationMark

theorem paramsText_eq (b : Binding) :
    Render.paramsText b = ", ".intercalate (b.parameters.map fun p ↦ p.1 ++ ": " ++ p.2) := by
  have hpath : (b.pathParams.map fun name ↦ (name, "string")).map (fun p ↦ p.1 ++ ": " ++ p.2) =
      b.pathParams.map (· ++ ": string") := by
    rw [List.map_map]
    refine List.map_congr_left fun name _ ↦ ?_
    simp only [Function.comp_apply, String.append_assoc]
    rfl
  unfold Render.paramsText parameters
  rw [List.map_append, hpath]
  cases b.hasBody <;> rfl

theorem map_fst_parameters (b : Binding) :
    b.parameters.map (·.1) = (if b.hasBody then ["data"] else []) ++ b.pathParams := by
  have hpath : (b.pathParams.map fun name ↦ (name, "string")).map (·.1) = b.pathParams := by
    rw [List.map_map]
    exact List.map_id _
  unfold parameters
  rw [List.map_append, hpath]
  cases b.hasBody <;> rfl

theorem nodup_parameters_iff (b : Binding) :
    (b.parameters.map (·.1)).Nodup ↔ b.pathParams.Nodup ∧ (b.hasBody → "data" ∉ b.pathParams) := by
  rw [map_fst_parameters]
  cases b.hasBody
  · simp
  · simp [and_comm]

/-- All of some placeholders interpolated, one after the other: each placeholder of the path is
marked for all of them. -/
theorem foldl_interpolate (path : List Char) {ns : List (List Char)}
    (hns : ∀ n ∈ ns, n ≠ [] ∧ '}' ∉ n) :
    (ns.map String.ofList).foldl Render.interpolate path =
      Template.fill (fun n ↦ Template.markedAll ns (Template.braced n)) (Template.pieces path) := by
  have hfold : (ns.map String.ofList).foldl Render.interpolate path =
      ns.foldl (fun url n ↦ Text.Split.replaceAll (Template.braced n)
        (Template.interpolation n) url) path := by
    rw [List.foldl_map]
    refine congrArg (fun f ↦ List.foldl f _ _) (funext fun url ↦ funext fun n ↦ ?_)
    simp only [Render.interpolate, String.toList_ofList]
    rfl
  have hreplaced := Template.foldl_replaceAll_fill path hns fun n hn ↦ Template.closed_braced hn
  rw [Template.fill_braced] at hreplaced
  rw [hfold, hreplaced]

/-- The address is the path, each placeholder in it marked for all placeholders. -/
theorem urlText_eq {b : Binding} (h : b.pathParams = Template.params b.path) :
    Render.urlText b = b.address fun name ↦
      Template.markedAll (Template.names b.path.toList) (Template.braced name) := by
  have hnonempty : ∀ n ∈ Template.names b.path.toList, n ≠ [] ∧ '}' ∉ n :=
    fun n hn ↦ Template.name_of_mem_names hn
  have hreplaced := foldl_interpolate b.path.toList hnonempty
  rw [← Template.params_eq, ← h] at hreplaced
  unfold Render.urlText address quotationMark
  split
  · next hempty =>
    rw [List.isEmpty_iff] at hempty
    rw [hempty, List.foldl_nil] at hreplaced
    rw [← hreplaced, String.ofList_toList]
  · rw [hreplaced]

end RouteClient.Client.Binding

namespace RouteClient.Draft

open RouteClient.Client RouteClient.Template

variable {κ σ : Type}

/-- The signature of a route's function has the body and then each placeholder. Its names are
different if the placeholders are and none is called like the body. A placeholder becomes one
interpolation if it alone ends in its braces, and stands in the path once. -/
theorem signature_and_address (g : ShapeGraph σ) (route : Route κ) (name : String)
    (request response : Shape.Field σ) (hmethod : route.method ∈ Route.methods) :
    let b : Binding := { bindingOf g route request response with name }
    Render.paramsText b = ", ".intercalate (b.parameters.map fun p ↦ p.1 ++ ": " ++ p.2) ∧
      b.parameters.map (·.1) = (if route.method = "GET" then [] else ["data"]) ++ params route.path ∧
      ((b.parameters.map (·.1)).Nodup ↔
        (params route.path).Nodup ∧ (route.method ≠ "GET" → "data" ∉ params route.path)) ∧
      Render.urlText b =
        b.address (fun n ↦ markedAll (names route.path.toList) (braced n)) ∧
      (∀ n ∈ names route.path.toList, String.ofList n ∈ b.parameters.map (·.1) ∧
        (markedAll (names route.path.toList) (braced n) = interpolation n ↔
          (names route.path.toList).filter (fun m ↦ braced m <:+ braced n) = [n])) ∧
      ((params route.path).Nodup → (∀ p ∈ params route.path, '{' ∉ p.toList) →
        Render.urlText b = b.address interpolation) := by
  intro b
  have hupper : b.method = route.method := Route.upper_method hmethod
  have hbody : b.hasBody ↔ route.method ≠ "GET" := by
    rw [Binding.hasBody, hupper, bne_iff_ne]
  have hparams : b.pathParams = params b.path := rfl
  have hnames : b.parameters.map (·.1) =
      (if route.method = "GET" then [] else ["data"]) ++ params route.path := by
    rw [Binding.map_fst_parameters, hparams]
    by_cases hget : route.method = "GET"
    · rw [if_neg fun h ↦ hbody.1 h hget, if_pos hget]
      rfl
    · rw [if_pos (hbody.2 hget), if_neg hget]
      rfl
  have hurl := Binding.urlText_eq hparams
  refine ⟨Binding.paramsText_eq b, hnames, ?_, hurl, fun n hn ↦ ⟨?_, markedAll_eq_iff hn⟩, ?_⟩
  · rw [Binding.nodup_parameters_iff, hparams, hbody]
    rfl
  · rw [hnames, params_eq]
    exact List.mem_append_right _ (List.mem_map_of_mem hn)
  · intro hnodup hopen
    rw [params_eq] at hnodup hopen
    have hdistinct : (names route.path.toList).Nodup := List.Nodup.of_map _ hnodup
    rw [hurl]
    unfold Binding.address
    rw [fill_congr fun n hn ↦ ?_]
    refine (markedAll_eq_iff hn).2 (filter_suffix_of_nodup hdistinct hn ?_)
    have hplain := hopen _ (List.mem_map_of_mem hn)
    rwa [String.toList_ofList] at hplain

theorem signature_and_address_order :
    let route : Route Unit := ⟨"POST", "/orders/\x7bid\x7d/lines/\x7bline\x7d", "shop.AddLine", none⟩
    let f : Shape.Field Project.ClassRef := { name := "", typeName := "str" }
    let b : Binding := { bindingOf (Build.graph {}) route f f with name := "postOrderLine" }
    route.method ∈ Route.methods ∧
      b.parameters.map (·.1) = ["data", "id", "line"] ∧ (b.parameters.map (·.1)).Nodup ∧
      Render.urlText b = "`/orders/$\x7bid\x7d/lines/$\x7bline\x7d`" := by
  intro route f b
  have hmethod : route.method ∈ Route.methods := by decide
  obtain ⟨-, hnames, hnodup, -, -, hurl⟩ :=
    signature_and_address (Build.graph {}) route "postOrderLine" f f hmethod
  have hparams : params route.path = ["id", "line"] := by decide +kernel
  rw [hparams] at hnames hnodup hurl
  refine ⟨hmethod, hnames, hnodup.2 ⟨by decide, fun _ ↦ by decide⟩, ?_⟩
  rw [hurl (by decide) (by decide)]
  decide +kernel

/-- A placeholder that stands twice in a path is a parameter twice, and is marked twice; one with the
name of the body is a second parameter of that name. -/
theorem parameter_repeated :
    let f : Shape.Field Project.ClassRef := { name := "", typeName := "str" }
    let compare : Route Unit := ⟨"GET", "/compare/\x7bid\x7d/\x7bid\x7d", "shop.Compare", none⟩
    let store : Route Unit := ⟨"POST", "/store/\x7bdata\x7d", "shop.Store", none⟩
    Render.paramsText (bindingOf (Build.graph {}) compare f f) = "id: string, id: string" ∧
      Render.urlText (bindingOf (Build.graph {}) compare f f) =
        "`/compare/$$\x7bid\x7d/$$\x7bid\x7d`" ∧
      Render.paramsText (bindingOf (Build.graph {}) store f f) = "data: string, data: string" := by
  decide +kernel

end RouteClient.Draft
