import RouteClient.Naming.Binding
import RouteClient.Proofs.Text.CaseMap
import RouteClient.Route

namespace RouteClient.Naming.Binding

open RouteClient.Text

variable {path method : List Char}

/-- The methods of routes are written in capitals. -/
theorem verb_of_method : ∀ method ∈ Route.methods,
    CaseMap.lower method.toList ≠ [] ∧ (∀ c ∈ CaseMap.lower method.toList, c.isLower) ∧
      CaseMap.upper method.toList = method.toList := by
  decide

theorem upper_ne_get {method : String} (hmethod : method ∈ Route.methods) (hget : method ≠ "GET") :
    CaseMap.upper method.toList ≠ "GET".toList := by
  rw [(verb_of_method method hmethod).2.2]
  exact fun h ↦ hget (String.toList_injective h)

theorem stem_of_no_words (h : (words (segments path)).flatten = []) :
    stem path method = CaseMap.lower method := by
  rw [stem, h]
  rfl

theorem stem_of_words (h : (words (segments path)).flatten ≠ []) :
    stem path method = CaseMap.uncapitalize (words (segments path)).flatten := by
  obtain ⟨c, rest, hflat⟩ := List.exists_cons_of_ne_nil h
  have hname : CaseMap.uncapitalize (c :: rest) ≠ [] := by
    rw [CaseMap.uncapitalize, Ne, List.append_eq_nil_iff, not_and]
    exact fun hnil ↦ absurd hnil (CaseMap.lower_singleton_ne_nil c)
  rw [stem, hflat]
  split
  · next hnil => exact absurd hnil hname
  · rfl

theorem stem_ne_nil (hverb : CaseMap.lower method ≠ []) : stem path method ≠ [] := by
  unfold stem
  split
  · exact hverb
  · next h => simpa using h

theorem nameOf_get : nameOf path "GET".toList = stem path "GET".toList := by
  have hupper : CaseMap.upper "GET".toList = "GET".toList := by decide
  rw [nameOf, hupper]
  simp

theorem nameOf_eq_or (path method : List Char) :
    nameOf path method = stem path method ∨
      nameOf path method = CaseMap.lower method ++ CaseMap.capitalize (stem path method) := by
  unfold nameOf
  simp only
  split
  · exact .inr rfl
  · exact .inl rfl

/-- A method other than GET stands in front of a name that does not begin with it. -/
theorem nameOf_of_verb (hget : CaseMap.upper method ≠ "GET".toList) :
    nameOf path method =
      if CaseMap.lower method <+: stem path method then stem path method
      else CaseMap.lower method ++ CaseMap.capitalize (stem path method) := by
  have hother : (CaseMap.upper method != "GET".toList) = true := by simpa using hget
  have hbegins : (CaseMap.lower method).isPrefixOf (stem path method) ↔
      CaseMap.lower method <+: stem path method := List.isPrefixOf_iff_prefix
  simp only [nameOf, hother, Bool.true_and, Bool.not_eq_true', ← Bool.not_eq_true, hbegins, ite_not]

theorem verb_prefix_nameOf (hget : CaseMap.upper method ≠ "GET".toList) :
    CaseMap.lower method <+: nameOf path method := by
  rw [nameOf_of_verb hget]
  split
  · next hbegins => exact hbegins
  · exact List.prefix_append _ _

theorem nameOf_ne_nil (hverb : CaseMap.lower method ≠ []) : nameOf path method ≠ [] := by
  rcases nameOf_eq_or path method with hname | hname
  · rw [hname]
    exact stem_ne_nil hverb
  · rw [hname]
    exact List.append_ne_nil_of_left_ne_nil hverb _

/-- A path without words is named by its method alone. -/
theorem nameOf_of_no_words (h : (words (segments path)).flatten = []) :
    nameOf path method = CaseMap.lower method := by
  have hself : (CaseMap.lower method).isPrefixOf (CaseMap.lower method) = true :=
    List.isPrefixOf_iff_prefix.2 (List.prefix_refl _)
  rw [nameOf, stem_of_no_words h]
  simp [hself]

end RouteClient.Naming.Binding
