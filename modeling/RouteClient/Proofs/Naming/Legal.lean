import RouteClient.Proofs.Naming.Alphabet
import RouteClient.Proofs.Naming.Singular
import RouteClient.Proofs.Naming.Stem
import RouteClient.Proofs.Text.Split

namespace RouteClient.Naming

open RouteClient.Text

variable {A : Alphabet}

namespace Alphabet

variable {c : Char} {s t : List Char}

theorem parts_append :
    (∀ c ∈ s ++ t, A.isPart c) ↔ (∀ c ∈ s, A.isPart c) ∧ ∀ c ∈ t, A.isPart c :=
  List.forall_mem_append

theorem parts_capitalize (s : List Char) :
    (∀ c ∈ CaseMap.capitalize s, A.isPart c) ↔ ∀ c ∈ s, A.isPart c := by
  cases s with
  | nil => rfl
  | cons c s => rw [CaseMap.capitalize, parts_append, A.forall_upperChar, List.forall_mem_cons]

theorem parts_uncapitalize (s : List Char) :
    (∀ c ∈ CaseMap.uncapitalize s, A.isPart c) ↔ ∀ c ∈ s, A.isPart c := by
  cases s with
  | nil => rfl
  | cons c s => rw [CaseMap.uncapitalize, parts_append, A.forall_lower, List.forall_mem_cons]

theorem head_uncapitalize (s : List Char) :
    (∀ c ∈ (CaseMap.uncapitalize s).head?, A.isStart c) ↔ ∀ c ∈ s.head?, A.isStart c := by
  cases s with
  | nil => rfl
  | cons c s =>
    rw [CaseMap.uncapitalize, List.head?_append_of_ne_nil _ (CaseMap.lower_singleton_ne_nil c),
      A.head_lower, List.head?_cons]
    simp

theorem isStart_of_isLower (h : c.isLower) : A.isStart c := by
  have halpha : c.isAlpha = (c.isUpper || c.isLower) := rfl
  rw [A.isStart_ascii c (toNat_lt_of_isLower h), halpha, h, Bool.or_true]
  rfl

theorem isPart_of_isLower (h : c.isLower) : A.isPart c :=
  A.isPart_of_isStart c (isStart_of_isLower h)

end Alphabet

namespace Word

variable {s : List Char}

theorem parts_camel (s : List Char) :
    (∀ c ∈ camel s, A.isPart c) ↔ ∀ c ∈ s, isSeparator c = false → A.isPart c := by
  have hpieces : ∀ pieces : List (List Char),
      (∀ c ∈ pieces.flatMap CaseMap.capitalize, A.isPart c) ↔ ∀ c ∈ pieces.flatten, A.isPart c := by
    intro pieces
    induction pieces with
    | nil => rfl
    | cons piece pieces ih =>
      rw [List.flatMap_cons, List.flatten_cons, Alphabet.parts_append, Alphabet.parts_append, ih,
        Alphabet.parts_capitalize]
  rw [camel, hpieces, Split.flatten_splitBy]
  simp

theorem isPart_of_isLetter {c : Char} (h : IsLetter c) : A.isPart c := by
  obtain ⟨d, hd, hlower⟩ := h
  rw [← A.forall_lower, hlower, List.forall_mem_singleton]
  exact Alphabet.isPart_of_isLower hd

/-- What the singular drops and adds are letters. -/
theorem parts_singular (s : List Char) :
    (∀ c ∈ singular s, isSeparator c = false → A.isPart c) ↔
      ∀ c ∈ s, isSeparator c = false → A.isPart c := by
  have hletters : ∀ t : List Char, (∀ c ∈ t, IsLetter c) →
      ∀ c ∈ t, isSeparator c = false → A.isPart c :=
    fun t ht c hc _ ↦ isPart_of_isLetter (ht c hc)
  rcases singular_cases s with hsame | ⟨front, back, new, rfl, hsingular, hback, hnew, -⟩
  · rw [hsame]
  · rw [hsingular, List.forall_mem_append, List.forall_mem_append]
    exact and_congr_right fun _ ↦ iff_of_true (hletters new hnew) (hletters back hback)

end Word

namespace Binding

theorem parts_words (segments : List (List Char)) :
    (∀ c ∈ (words segments).flatten, A.isPart c) ↔
      ∀ segment ∈ segments, Template.isPlaceholder segment = false →
        ∀ c ∈ segment, Word.isSeparator c = false → A.isPart c := by
  induction segments with
  | nil => simp [words]
  | cons segment rest ih =>
    rw [List.forall_mem_cons, ← ih, words]
    by_cases hsegment : Template.isPlaceholder segment
    · simp [hsegment]
    · rw [if_neg hsegment]
      split <;> rw [List.flatten_cons, Alphabet.parts_append, Word.parts_camel]
      · rw [Word.parts_singular]
        simp [hsegment]
      · simp [hsegment]

variable {path method : List Char}

theorem parts_stem (hverb : ∀ c ∈ CaseMap.lower method, c.isLower) :
    (∀ c ∈ stem path method, A.isPart c) ↔
      ∀ c ∈ (words (segments path)).flatten, A.isPart c := by
  by_cases h : (words (segments path)).flatten = []
  · rw [stem_of_no_words h, h]
    exact iff_of_true (fun c hc ↦ Alphabet.isPart_of_isLower (hverb c hc)) (by simp)
  · rw [stem_of_words h, Alphabet.parts_uncapitalize]

theorem head_stem (hverb : ∀ c ∈ CaseMap.lower method, c.isLower) :
    (∀ c ∈ (stem path method).head?, A.isStart c) ↔
      ∀ c ∈ (words (segments path)).flatten.head?, A.isStart c := by
  by_cases h : (words (segments path)).flatten = []
  · rw [stem_of_no_words h, h]
    exact iff_of_true
      (fun c hc ↦ Alphabet.isStart_of_isLower (hverb c (List.mem_of_mem_head? hc))) (by simp)
  · rw [stem_of_words h, Alphabet.head_uncapitalize]

/-- A name that starts with the method is an identifier if it consists of its characters. -/
theorem legal_iff_of_begins {verb name : List Char} (hne : verb ≠ [])
    (hverb : ∀ c ∈ verb, c.isLower) (hbegins : verb <+: name) :
    A.Legal name ↔ ∀ c ∈ name, A.isPart c := by
  obtain ⟨rest, rfl⟩ := hbegins
  obtain ⟨c, more, rfl⟩ := List.exists_cons_of_ne_nil hne
  refine ⟨Alphabet.Legal.parts, fun h ↦ ⟨by simp, ?_, h⟩⟩
  intro d hd
  obtain rfl : c = d := by simpa using hd
  exact Alphabet.isStart_of_isLower (hverb c List.mem_cons_self)

theorem legal_nameOf_of_verb (hne : CaseMap.lower method ≠ [])
    (hverb : ∀ c ∈ CaseMap.lower method, c.isLower) (hget : CaseMap.upper method ≠ "GET".toList) :
    A.Legal (nameOf path method) ↔ ∀ c ∈ (words (segments path)).flatten, A.isPart c := by
  rw [← parts_stem hverb, nameOf_of_verb hget]
  split
  · next hbegins => exact legal_iff_of_begins hne hverb hbegins
  · rw [legal_iff_of_begins hne hverb (List.prefix_append _ _), Alphabet.parts_append,
      Alphabet.parts_capitalize]
    exact and_iff_right fun c hc ↦ Alphabet.isPart_of_isLower (hverb c hc)

theorem legal_nameOf_get :
    A.Legal (nameOf path "GET".toList) ↔
      (∀ c ∈ (words (segments path)).flatten, A.isPart c) ∧
        ∀ c ∈ (words (segments path)).flatten.head?, A.isStart c := by
  have hverb : ∀ c ∈ CaseMap.lower "GET".toList, c.isLower := by decide
  rw [nameOf_get, ← parts_stem hverb, ← head_stem hverb]
  exact ⟨fun h ↦ ⟨h.parts, h.head⟩, fun h ↦ ⟨stem_ne_nil (by decide), h.2, h.1⟩⟩

/-- The name is an identifier exactly if all characters of the static segments are characters of
identifiers or stand between words, and, with GET, the first character of the words can start
one. -/
theorem bindingName_legal_iff (A : Alphabet) (path method : String)
    (hmethod : method ∈ Route.methods) :
    A.Legal (bindingName path method).toList ↔
      (∀ segment ∈ segments path.toList, Template.isPlaceholder segment = false →
        ∀ c ∈ segment, Word.isSeparator c = false → A.isPart c) ∧
      (method = "GET" → ∀ c ∈ (words (segments path.toList)).flatten.head?, A.isStart c) := by
  obtain ⟨hne, hverb, hupper⟩ := verb_of_method method hmethod
  rw [bindingName, String.toList_ofList, ← parts_words]
  by_cases hget : method = "GET"
  · rw [hget, legal_nameOf_get]
    simp
  · have hother : CaseMap.upper method.toList ≠ "GET".toList := by
      rw [hupper]
      exact fun h ↦ hget (String.toList_injective h)
    rw [legal_nameOf_of_verb hne hverb hother]
    simp [hget]

/-- Posts of a user profile, and an address with letters beyond ASCII. -/
theorem bindingName_legal_iff_posts :
    "POST" ∈ Route.methods ∧ "GET" ∈ Route.methods ∧
      Alphabet.wide.Legal (bindingName "/user-profiles/{id}/2_posts" "POST").toList ∧
      Alphabet.wide.Legal (bindingName "/Écoles/{id}" "GET").toList :=
  ⟨by decide, by decide,
    (bindingName_legal_iff Alphabet.wide _ "POST" (by decide)).2 (by decide +kernel),
    (bindingName_legal_iff Alphabet.wide _ "GET" (by decide)).2 (by decide +kernel)⟩

/-- A dot stays in the name, and a name can start with a digit. -/
theorem bindingName_not_legal :
    bindingName "/report.csv" "GET" = "report.csv" ∧ bindingName "/2fa" "GET" = "2fa" ∧
      ∀ A : Alphabet, ¬ A.Legal "report.csv".toList ∧ ¬ A.Legal "2fa".toList := by
  refine ⟨by decide +kernel, by decide +kernel, fun A ↦ ⟨fun h ↦ ?_, fun h ↦ ?_⟩⟩
  · have hdot : A.isPart '.' := h.parts '.' (by decide)
    rw [A.isPart_ascii '.' (by decide)] at hdot
    exact absurd hdot (by decide)
  · have hdigit : A.isStart '2' := h.head '2' rfl
    rw [A.isStart_ascii '2' (by decide)] at hdigit
    exact absurd hdigit (by decide)

end Binding

end RouteClient.Naming
