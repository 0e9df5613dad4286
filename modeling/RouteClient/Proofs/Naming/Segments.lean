import RouteClient.Naming.Binding
import RouteClient.Proofs.Text.Split
import Mathlib.Data.List.DropRight
import Mathlib.Data.List.Forall2

namespace RouteClient.Naming.Binding

open RouteClient.Text

def parts (path : List Char) : List (List Char) :=
  (Split.splitBy (· == '/') path).filter (!·.isEmpty)

/-- The same segment, or one placeholder in place of another. -/
def SameSegment (a b : List Char) : Prop :=
  a = b ∨ Template.isPlaceholder a ∧ Template.isPlaceholder b

def leadsToPlaceholder (rest : List (List Char)) : Bool :=
  (rest.head?.map Template.isPlaceholder).getD false

/-- The static segments in order, each with whether a placeholder follows it directly. -/
def statics : List (List Char) → List (List Char × Bool)
  | [] => []
  | segment :: rest =>
    if Template.isPlaceholder segment then statics rest
    else (segment, leadsToPlaceholder rest) :: statics rest

def wordOf (segment : List Char × Bool) : List Char :=
  Word.camel (if segment.2 then Word.singular segment.1 else segment.1)

variable {path : List Char} {xs ys : List (List Char)}

theorem parts_append_slash (front back : List Char) :
    parts (front ++ '/' :: back) = parts front ++ parts back := by
  have hsplit : Split.splitBy (· == '/') (front ++ '/' :: back) =
      Split.splitBy (· == '/') front ++ Split.splitBy (· == '/') back :=
    Split.splitBy_append_sep rfl front back
  rw [parts, hsplit, List.filter_append]
  rfl

theorem parts_slash (path : List Char) : parts ('/' :: path) = parts path :=
  parts_append_slash [] path

theorem parts_concat_slash (path : List Char) : parts (path ++ ['/']) = parts path := by
  rw [parts_append_slash]
  exact List.append_nil _

theorem parts_dropWhile (path : List Char) : parts (path.dropWhile (· == '/')) = parts path := by
  induction path with
  | nil => rfl
  | cons c path ih =>
    by_cases hc : c = '/'
    · subst hc
      rw [parts_slash, ← ih]
      rfl
    · rw [List.dropWhile_cons_of_neg (by simpa using hc)]

theorem parts_rdropWhile (path : List Char) : parts (path.rdropWhile (· == '/')) = parts path := by
  induction path using List.reverseRecOn with
  | nil => rfl
  | append_singleton path c ih =>
    by_cases hc : c = '/'
    · subst hc
      rw [List.rdropWhile_concat_pos _ _ _ rfl, ih, parts_concat_slash]
    · rw [List.rdropWhile_concat_neg _ _ _ (by simpa using hc)]

/-- Leading and trailing slashes do not count, nor do doubled ones. -/
theorem segments_eq_parts (path : List Char) : segments path = parts path :=
  (parts_rdropWhile _).trans (parts_dropWhile path)

theorem words_eq_map_statics (xs : List (List Char)) : words xs = (statics xs).map wordOf := by
  induction xs with
  | nil => rfl
  | cons segment rest ih =>
    rw [words, statics, ih]
    by_cases hsegment : Template.isPlaceholder segment
    · rw [if_pos hsegment, if_pos hsegment]
    · rw [if_neg hsegment, if_neg hsegment, List.map_cons, wordOf, leadsToPlaceholder]
      split <;> rfl

theorem leadsToPlaceholder_congr (h : List.Forall₂ SameSegment xs ys) :
    leadsToPlaceholder xs = leadsToPlaceholder ys := by
  cases h with
  | nil => rfl
  | cons hfirst _ =>
    rcases hfirst with rfl | ⟨ha, hb⟩
    · rfl
    · exact ha.trans hb.symm

theorem statics_congr (h : List.Forall₂ SameSegment xs ys) : statics xs = statics ys := by
  induction h with
  | nil => rfl
  | @cons a b xs ys hfirst hrest ih =>
    rw [statics, statics, ih, leadsToPlaceholder_congr hrest]
    rcases hfirst with rfl | ⟨ha, hb⟩
    · rfl
    · rw [if_pos ha, if_pos hb]

theorem nameOf_congr {p q : List Char} (h : statics (parts p) = statics (parts q))
    (method : List Char) : nameOf p method = nameOf q method := by
  have hwords : words (segments p) = words (segments q) := by
    rw [words_eq_map_statics, words_eq_map_statics, segments_eq_parts, segments_eq_parts, h]
  have hstem : stem p method = stem q method := by
    unfold stem
    rw [hwords]
  unfold nameOf
  rw [hstem]

/-- Two paths with the same segments, up to the placeholders and to slashes that separate nothing,
have the same name with each method. So have two with the same static segments, of which the same
are directly followed by a placeholder. -/
theorem name_of_same_segments (p q method : String) :
    (List.Forall₂ SameSegment (parts p.toList) (parts q.toList) →
      bindingName p method = bindingName q method) ∧
    (statics (parts p.toList) = statics (parts q.toList) →
      bindingName p method = bindingName q method) := by
  have hstatics : statics (parts p.toList) = statics (parts q.toList) →
      bindingName p method = bindingName q method :=
    fun h ↦ congrArg String.ofList (nameOf_congr h method.toList)
  exact ⟨fun h ↦ hstatics (statics_congr h), hstatics⟩

/-- Renamed placeholders and doubled slashes; and a further placeholder behind another one. -/
theorem name_of_same_segments_posts :
    bindingName "/users/\x7bid\x7d//posts/" "POST" = bindingName "users/\x7bname\x7d/posts" "POST" ∧
      bindingName "/users/\x7bid\x7d/\x7bpage\x7d/posts" "GET" =
        bindingName "/users/\x7bid\x7d/posts" "GET" := by
  have hsame : List.Forall₂ SameSegment (parts "/users/\x7bid\x7d//posts/".toList)
      (parts "users/\x7bname\x7d/posts".toList) :=
    .cons (.inl rfl) (.cons (.inr (by decide)) (.cons (.inl rfl) .nil))
  exact ⟨(name_of_same_segments _ _ "POST").1 hsame, (name_of_same_segments _ _ "GET").2 (by decide)⟩

end RouteClient.Naming.Binding
