import RouteClient.Listing
import RouteClient.Proofs.Console.Markup

namespace RouteClient

open RouteClient.Console RouteClient.Text Json

def Listed.json (listed : Listed) : Json :=
  .object [("method", .text listed.method), ("path", .text listed.path),
    ("handler", .text listed.handler), ("binding", .text listed.binding)]

def Listing.json (routes : List Listed) : Json := .array (routes.map Listed.json)

theorem Listed.reads_entry {s : State} {outer : List Open} {members : List (String × Json)}
    (hblank : s.step ' ' = some s) (hopen : s.step '"' = some (.text outer (some members) {}))
    (key value : String) :
    Reads s ("    " ++ JsonText.quoted key ++ ": " ++ JsonText.quoted value).toList
      (.after (.object members key :: outer) (.text value)) := by
  have hindent : Reads s "    ".toList s := by
    simp [Reads, hblank]
  have hcolon : Reads (.colon outer members key) ": ".toList
      (.value (.object members key :: outer)) := rfl
  have hvalue : State.step (.value (.object members key :: outer)) '"' =
      some (.text (.object members key :: outer) none {}) := rfl
  simp only [String.toList_append]
  exact ((hindent.append (Reads.quoted hopen key)).append hcolon).append
    (Reads.quoted hvalue value)

theorem Listed.reads_jsonText {s : State} {outer : List Open}
    (h : Reads s "  \x7b\n".toList (.firstMember outer)) (listed : Listed) :
    Reads s listed.jsonText.toList (.after outer listed.json) := by
  have hnext : ∀ (members : List (String × Json)) (key : String) (v : Json),
      Reads (.after (.object members key :: outer) v) ",\n".toList
        (.member outer ((key, v) :: members)) := fun _ _ _ ↦ rfl
  have hmethod := h.append (reads_entry rfl rfl "method" listed.method)
  have hpath := (hmethod.append (hnext _ _ _)).append (reads_entry rfl rfl "path" listed.path)
  have hhandler := (hpath.append (hnext _ _ _)).append
    (reads_entry rfl rfl "handler" listed.handler)
  have hbinding := (hhandler.append (hnext _ _ _)).append
    (reads_entry rfl rfl "binding" listed.binding)
  have hclose : Reads (.after (.object [("handler", .text listed.handler),
      ("path", .text listed.path), ("method", .text listed.method)] "binding" :: outer)
      (.text listed.binding)) "\n  \x7d".toList (.after outer listed.json) := rfl
  simpa [Listed.jsonText, String.toList_intercalate, List.intercalate] using hbinding.append hclose

namespace Listing

theorem reads_others (routes : List Listed) (items : List Json) (v : Json) :
    Reads (.after [.array items] v)
      (routes.flatMap (fun listed ↦ ",\n".toList ++ listed.jsonText.toList) ++ "\n]".toList)
      (.after [] (.array (items.reverse ++ v :: routes.map Listed.json))) := by
  induction routes generalizing items v with
  | nil =>
    simp [Reads, State.step, State.goOn, isBlank]
  | cons listed routes ih =>
    have hcomma : Reads (.after [.array items] v) ",\n".toList (.value [.array (v :: items)]) := rfl
    have hopen : Reads (.value [.array (v :: items)]) "  \x7b\n".toList
        (.firstMember [.array (v :: items)]) := rfl
    have hnext := (hcomma.append (Listed.reads_jsonText hopen listed)).append
      (ih (v :: items) listed.json)
    simpa using hnext

theorem intercalate_cons (sep x : List Char) (xs : List (List Char)) :
    sep.intercalate (x :: xs) = x ++ xs.flatMap (sep ++ ·) := by
  induction xs generalizing x with
  | nil => simp
  | cons y xs ih =>
    rw [List.intercalate_cons_cons, ih, List.flatMap_cons, List.append_assoc, List.append_assoc]

theorem toList_jsonText (listed : Listed) (routes : List Listed) :
    (jsonText (listed :: routes)).toList = "[\n".toList ++ listed.jsonText.toList ++
      (routes.flatMap (fun listed ↦ ",\n".toList ++ listed.jsonText.toList) ++ "\n]".toList) := by
  unfold jsonText
  rw [List.isEmpty_cons, if_neg Bool.false_ne_true, String.toList_append, String.toList_append,
    String.toList_intercalate, List.map_cons, List.map_cons, intercalate_cons, List.flatMap_map,
    List.flatMap_map]
  simp only [List.append_assoc]

/-- The text of a list is read as the list, whatever its routes are. -/
theorem read_jsonText (routes : List Listed) :
    Json.read? (jsonText routes) = some (json routes) := by
  cases routes with
  | nil => rfl
  | cons listed routes =>
    have hstart : Reads (.value []) "[\n".toList (.first []) := rfl
    have hopen : Reads (.first []) "  \x7b\n".toList (.firstMember [.array []]) := rfl
    have hall := (hstart.append (Listed.reads_jsonText hopen listed)).append
      (reads_others routes [] listed.json)
    rw [← toList_jsonText] at hall
    exact hall.read_eq

end Listing

open JsonText Markup

/-- The indentation, the key and the colon before a value. -/
theorem Console.Stays.of_key (key : String) (h : key ∈ ["method", "path", "handler", "binding"]) :
    Stays ("    " ++ quoted key ++ ": ").toList := by
  have hall : ∀ key ∈ ["method", "path", "handler", "binding"],
      ("    " ++ quoted key).toList.IsChain Harmless ∧
        (("    " ++ quoted key).toList.getLast?.all fun c ↦ c ≠ '[' ∧ c ≠ '\\') ∧
        ':' ∉ ("    " ++ quoted key).toList ∧
        ("    " ++ quoted key).toList.all fun c ↦ c = '\n' ∨ 0x20 ≤ c.toNat := by
    decide
  have hcolon : Stays ": ".toList := by
    refine ⟨by decide, ?_, fun _ ↦ rfl, by simp⟩
    intro c hc
    cases hc
    decide
  rw [String.toList_append]
  exact (Stays.of_given (hall key h)).append hcolon

/-- A route whose texts are printed as they are. -/
structure Listed.Plain (listed : Listed) : Prop where
  method : Console.Plain listed.method
  path : Console.Plain listed.path
  handler : Console.Plain listed.handler
  binding : Console.Plain listed.binding

theorem Listed.stays_jsonText {listed : Listed} (h : listed.Plain) :
    Stays listed.jsonText.toList := by
  have hopen : Stays "  \x7b\n".toList := .of_given (by decide)
  have hclose : Stays "  \x7d".toList := .of_given (by decide)
  have hmethod := (hopen.append (.of_key "method" (by decide))).append
    (.of_plain h.method (.inr rfl))
  have hpath := (hmethod.append (.of_key "path" (by decide))).append (.of_plain h.path (.inr rfl))
  have hhandler := (hpath.append (.of_key "handler" (by decide))).append
    (.of_plain h.handler (.inr rfl))
  have hbinding := (hhandler.append (.of_key "binding" (by decide))).append
    (.of_plain h.binding (.inl rfl))
  have hall := hbinding.append hclose
  simpa [Listed.jsonText, String.toList_intercalate, List.intercalate] using hall

theorem Listing.stays_jsonText {routes : List Listed} (h : ∀ listed ∈ routes, listed.Plain) :
    Stays (jsonText routes).toList := by
  have hclose : Stays "\n]".toList := .of_given (by decide)
  have hothers : ∀ others : List Listed, (∀ listed ∈ others, listed.Plain) →
      Stays (others.flatMap (fun listed ↦ ",\n".toList ++ listed.jsonText.toList) ++
        "\n]".toList) := by
    intro others hothers
    induction others with
    | nil => exact hclose
    | cons listed others ih =>
      have hcomma : Stays ",\n".toList := .of_given (by decide)
      have hrest := ih fun l hl ↦ hothers l (List.mem_cons_of_mem listed hl)
      have hlisted := Listed.stays_jsonText (hothers listed List.mem_cons_self)
      rw [List.flatMap_cons, List.append_assoc]
      exact (hcomma.append hlisted).append hrest
  cases routes with
  | nil => exact .of_given (by decide)
  | cons listed routes =>
    have hopen : Stays "[\n".toList := .of_given (by decide)
    rw [toList_jsonText]
    exact (hopen.append (Listed.stays_jsonText (h listed List.mem_cons_self))).append
      (hothers routes fun l hl ↦ h l (List.mem_cons_of_mem listed hl))

end RouteClient
