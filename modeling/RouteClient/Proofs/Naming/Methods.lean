import RouteClient.Proofs.Naming.FirstFree
import RouteClient.Proofs.Naming.Stem

namespace RouteClient.Naming.Binding

open RouteClient.Text

/-- The name with GET, in front of which no method stands, begins with the method. -/
def BareBegins (path method : String) : Prop :=
  CaseMap.lower method.toList <+: (bindingName path "GET").toList

instance (path method : String) : Decidable (BareBegins path method) :=
  inferInstanceAs (Decidable (_ <+: _))

variable {path : List Char} {first second : String}

/-- No method in lower case begins another one. -/
theorem eq_of_verb_begins (hfirst : first ∈ Route.methods) (hsecond : second ∈ Route.methods)
    (h : CaseMap.lower first.toList <+: CaseMap.lower second.toList) : first = second := by
  have hall : ∀ m ∈ Route.methods, ∀ n ∈ Route.methods,
      CaseMap.lower m.toList <+: CaseMap.lower n.toList → m = n := by
    decide
  exact hall first hfirst second hsecond h

theorem eq_of_verbs_begin (hfirst : first ∈ Route.methods) (hsecond : second ∈ Route.methods)
    {name : List Char} (hone : CaseMap.lower first.toList <+: name)
    (hother : CaseMap.lower second.toList <+: name) : first = second := by
  rcases List.prefix_or_prefix_of_prefix hone hother with h | h
  · exact eq_of_verb_begins hfirst hsecond h
  · exact (eq_of_verb_begins hsecond hfirst h).symm

/-- The words do not depend on the method. -/
theorem stem_congr (h : (words (segments path)).flatten ≠ []) (method other : List Char) :
    stem path method = stem path other := by
  rw [stem_of_words h, stem_of_words h]

theorem nameOf_get_eq_iff (hmethod : second ∈ Route.methods) (hget : second ≠ "GET") :
    nameOf path "GET".toList = nameOf path second.toList ↔
      CaseMap.lower second.toList <+: nameOf path "GET".toList := by
  constructor
  · intro h
    rw [h]
    exact verb_prefix_nameOf (upper_ne_get hmethod hget)
  · intro hbegins
    by_cases hwords : (words (segments path)).flatten = []
    · -- The bare method is no name that begins with another method.
      rw [nameOf_of_no_words hwords] at hbegins
      exact absurd (eq_of_verb_begins hmethod (by decide) hbegins) hget
    · rw [nameOf_get, stem_congr hwords _ second.toList] at hbegins ⊢
      rw [nameOf_of_verb (upper_ne_get hmethod hget), if_pos hbegins]

/-- Two methods other than GET give two names: each name starts with its method. -/
theorem nameOf_ne_of_verbs (hfirst : first ∈ Route.methods) (hsecond : second ∈ Route.methods)
    (hone : first ≠ "GET") (hother : second ≠ "GET") (hne : first ≠ second) :
    nameOf path first.toList ≠ nameOf path second.toList := by
  intro h
  have hbegins : CaseMap.lower first.toList <+: nameOf path second.toList :=
    h ▸ verb_prefix_nameOf (upper_ne_get hfirst hone)
  exact hne (eq_of_verbs_begin hfirst hsecond hbegins
    (verb_prefix_nameOf (upper_ne_get hsecond hother)))

theorem bindingName_eq_iff_nameOf {path first second : String} :
    bindingName path first = bindingName path second ↔
      nameOf path.toList first.toList = nameOf path.toList second.toList :=
  String.ofList_inj

/-- Two methods give one path two names, unless one of them is GET and the name with GET begins with
the other one. Two different names are handed out as they are, in each order. -/
theorem names_of_methods (path first second : String) (hfirst : first ∈ Route.methods)
    (hsecond : second ∈ Route.methods) (hne : first ≠ second) :
    (bindingName path first = bindingName path second ↔
      first = "GET" ∧ BareBegins path second ∨ second = "GET" ∧ BareBegins path first) ∧
    (Allocator.handOut .empty [bindingName path first, bindingName path second] =
        [bindingName path first, bindingName path second] ↔
      ¬(first = "GET" ∧ BareBegins path second ∨ second = "GET" ∧ BareBegins path first)) := by
  have hbare : ∀ method, BareBegins path method ↔
      CaseMap.lower method.toList <+: nameOf path.toList "GET".toList := by
    intro method
    rw [BareBegins, bindingName, String.toList_ofList]
  have hequal : bindingName path first = bindingName path second ↔
      first = "GET" ∧ BareBegins path second ∨ second = "GET" ∧ BareBegins path first := by
    rw [bindingName_eq_iff_nameOf, hbare, hbare]
    by_cases hone : first = "GET"
    · subst hone
      rw [nameOf_get_eq_iff hsecond hne.symm]
      simp [hne.symm]
    · by_cases hother : second = "GET"
      · subst hother
        rw [eq_comm, nameOf_get_eq_iff hfirst hone]
        simp [hone]
      · simp [hone, hother, nameOf_ne_of_verbs hfirst hsecond hone hother hne]
  refine ⟨hequal, ?_⟩
  rw [← hequal, Allocator.handOut_eq_self_iff]
  simp

/-- The posts of a user, read and written; a word that begins with another method is no obstacle. -/
theorem names_of_methods_posts :
    "GET" ∈ Route.methods ∧ "POST" ∈ Route.methods ∧ "GET" ≠ "POST" ∧
      bindingName "/headers/\x7bid\x7d/posts" "GET" ≠
        bindingName "/headers/\x7bid\x7d/posts" "POST" ∧
      Allocator.handOut .empty
          [bindingName "/headers/\x7bid\x7d/posts" "GET",
            bindingName "/headers/\x7bid\x7d/posts" "POST"] =
        ["headerPosts", "postHeaderPosts"] := by
  obtain ⟨hequal, hkept⟩ :=
    names_of_methods "/headers/\x7bid\x7d/posts" "GET" "POST" (by decide) (by decide) (by decide)
  have hnot : ¬("GET" = "GET" ∧ BareBegins "/headers/\x7bid\x7d/posts" "POST" ∨
      "POST" = "GET" ∧ BareBegins "/headers/\x7bid\x7d/posts" "GET") := by
    decide
  exact ⟨by decide, by decide, by decide, fun h ↦ hnot (hequal.1 h),
    (hkept.2 hnot).trans (by decide)⟩

/-- Reading and adding posts: one name for two methods, and the second function gets a number. -/
theorem names_of_methods_equal :
    "GET" ∈ Route.methods ∧ "POST" ∈ Route.methods ∧ "GET" ≠ "POST" ∧
      bindingName "/posts" "GET" = bindingName "/posts" "POST" ∧
      Allocator.handOut .empty [bindingName "/posts" "GET", bindingName "/posts" "POST"] =
        ["posts", "posts2"] := by
  decide

end RouteClient.Naming.Binding
