import RouteClient.Proofs.Client.Parameters

namespace RouteClient.Template

variable {name : List Char} {ns : List (List Char)}

/-- A name that does not occur twice is marked once, wherever it stands among the others. -/
theorem markedAll_eq_interpolation (hnodup : ns.Nodup) (hmem : name ∈ ns) (hopen : '{' ∉ name) :
    markedAll ns (braced name) = interpolation name :=
  (markedAll_eq_iff hmem).2 (filter_suffix_of_nodup hnodup hmem hopen)

end RouteClient.Template

namespace RouteClient.Draft

open RouteClient.Client RouteClient.Template

variable {κ σ : Type}

/-- The address is the path between backticks with each placeholder turned into an interpolation and
all else as it was. The order in which the placeholders are given does not matter. -/
theorem address_substituted (g : ShapeGraph σ) (route : Route κ) (name : String)
    (request response : Shape.Field σ) (hsome : params route.path ≠ [])
    (hnodup : (params route.path).Nodup) (hopen : ∀ p ∈ params route.path, '{' ∉ p.toList) :
    let b : Binding := { bindingOf g route request response with name }
    fill braced (pieces route.path.toList) = route.path.toList ∧
      Render.urlText b =
        "`" ++ String.ofList (fill interpolation (pieces route.path.toList)) ++ "`" ∧
      ∀ ps, ps.Perm (params route.path) →
        Render.urlText { b with pathParams := ps } = Render.urlText b := by
  intro b
  rw [params_eq] at hsome hnodup hopen
  have hdistinct : (names route.path.toList).Nodup := hnodup.of_map
  -- A list of parameters comes from a list of names, in the order of the parameters.
  have hurl : ∀ ps, ps.Perm (params route.path) → Render.urlText { b with pathParams := ps } =
      "`" ++ String.ofList (fill interpolation (pieces route.path.toList)) ++ "`" := by
    intro ps hps
    rw [params_eq] at hps
    obtain ⟨ns, rfl⟩ : ∃ ns : List (List Char), ps = ns.map String.ofList :=
      ⟨ps.map String.toList, by simp⟩
    have hperm : ns.Perm (names route.path.toList) := by
      have := hps.map String.toList
      simpa [Function.comp_def] using this
    have hmem : ∀ n ∈ ns, n ∈ names route.path.toList := fun n hn ↦ hperm.mem_iff.1 hn
    have hne : ns.map String.ofList ≠ [] := by
      intro h
      rw [h] at hps
      exact hsome (List.nil_perm.1 hps)
    have hmarked : fill (fun n ↦ markedAll ns (braced n)) (pieces route.path.toList) =
        fill interpolation (pieces route.path.toList) := by
      refine fill_congr fun n hn ↦ ?_
      refine markedAll_eq_interpolation (hperm.nodup_iff.2 hdistinct) (hperm.mem_iff.2 hn) ?_
      have hplain := hopen _ (List.mem_map_of_mem hn)
      rwa [String.toList_ofList] at hplain
    unfold Render.urlText
    rw [if_neg (by simpa using hne)]
    change "`" ++ String.ofList ((ns.map String.ofList).foldl Render.interpolate _) ++ "`" = _
    rw [Binding.foldl_interpolate _ fun n hn ↦ name_of_mem_names (hmem n hn), ← hmarked]
    rfl
  have hown : Render.urlText b = _ := hurl (params route.path) (List.Perm.refl _)
  exact ⟨fill_braced _, hown, fun ps hps ↦ (hurl ps hps).trans hown.symm⟩

/-- Of two names one may begin the other, and braces may stand alone or round nothing. -/
theorem address_substituted_backwards :
    let route : Route Unit :=
      ⟨"GET", "/$\x7b\x7d/\x7bid\x7d-\x7bidx\x7d/\x7b", "shop.Find", none⟩
    let f : Shape.Field Project.ClassRef := { name := "", typeName := "str" }
    let b : Binding := { bindingOf (Build.graph {}) route f f with name := "find" }
    params route.path = ["id", "idx"] ∧
      Render.urlText b = "`/$\x7b\x7d/$\x7bid\x7d-$\x7bidx\x7d/\x7b`" ∧
      Render.urlText { b with pathParams := ["idx", "id"] } =
        "`/$\x7b\x7d/$\x7bid\x7d-$\x7bidx\x7d/\x7b`" := by
  intro route f b
  have hparams : params route.path = ["id", "idx"] := by decide +kernel
  obtain ⟨-, hurl, horder⟩ := address_substituted (Build.graph {}) route "find" f f
    (by rw [hparams]; simp) (by rw [hparams]; decide) (by rw [hparams]; decide)
  have hown : Render.urlText b = "`/$\x7b\x7d/$\x7bid\x7d-$\x7bidx\x7d/\x7b`" := by
    rw [hurl]
    decide +kernel
  refine ⟨hparams, hown, ?_⟩
  rw [horder ["idx", "id"] (by rw [hparams]; exact .swap "id" "idx" []), hown]

end RouteClient.Draft
