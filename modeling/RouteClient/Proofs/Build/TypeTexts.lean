import RouteClient.Proofs.Build.Bindings
import RouteClient.Proofs.Build.InterfaceNames

namespace RouteClient.Shape.Describe

open RouteClient.Project

/-- What is left of an annotation without `None`, the list around it and `None` among its items. -/
def core (hint : Value) : Value :=
  let type := (unwrapOptional hint).1
  match listItem? type with
  | some item => (unwrapOptional item).1
  | none => type

variable {s : Session} {name : String} {hint item v : Value} {isOptional : Bool} {c : ClassRef}

/-- Alternatives of one type and `None`, in any order and spelling, have the core of that type. -/
theorem core_optional {members : List Value} (hv : unwrapOptional v = (v, false))
    (hmembers : members.filter (· != .noneType) = [v]) :
    core (.union members) = core v ∧ core (.bars members) = core v := by
  have hunwrapped : (unwrapMembers members).1 = v := by
    unfold unwrapMembers
    rw [hmembers]
  have hunion : (unwrapOptional (.union members)).1 = v := hunwrapped
  have hbars : (unwrapOptional (.bars members)).1 = v := hunwrapped
  unfold core
  rw [hunion, hbars, hv]
  exact ⟨rfl, rfl⟩

/-- Lists, sets and tuples of any length have the core of their items. -/
theorem core_item (hv : unwrapOptional v = (v, false)) (hitem : listItem? v = some item) :
    core v = (unwrapOptional item).1 := by
  unfold core
  rw [hv]
  simp only [hitem]

theorem core_class (c : ClassRef) : core (.cls c) = .cls c := rfl

example : core (.union [.plainAlias (.standard .list) [.bars [.noneType, .cls (.declared 0)]],
    .noneType]) = .cls (.declared 0) := rfl

theorem field_core (h : (hint == .unannotated) = false) :
    (field s name hint isOptional).nested = shape? s (core hint) ∧
      (field s name hint isOptional).typeName = typeName s (core hint) := by
  unfold field core
  rw [h]
  cases hitem : listItem? (unwrapOptional hint).1 <;> simp [hitem]

theorem eq_unannotated (h : (hint == .unannotated) = true) : hint = .unannotated := by
  cases hint with
  | cls c => exact congrArg Value.cls (of_decide_eq_true h)
  | _ => cases h

theorem shape?_of_class (h : isShapeClass s c) : shape? s (.cls c) = some c := by
  simp [shape?, h]

theorem not_isShapeClass_unannotated : isShapeClass s (.standard .unannotated) = false :=
  not_isShapeClass_of_standard (by decide +kernel)

/-- An annotation that is a shape at its core has it as nested shape. -/
theorem nested_of_core (h : core hint = .cls c) (hc : isShapeClass s c) :
    (field s name hint isOptional).nested = some c := by
  cases hhint : hint == .unannotated with
  | false => rw [(field_core hhint).1, h, shape?_of_class hc]
  | true =>
    obtain rfl := eq_unannotated hhint
    have hcore : core .unannotated = .cls (.standard .unannotated) := rfl
    rw [hcore] at h
    cases h
    rw [not_isShapeClass_unannotated] at hc
    cases hc

/-- A class with arguments is named like the class, and no nested shape. -/
theorem nested_of_origin (h : origin? (core hint) = some c) :
    (field s name hint isOptional).nested = none ∧
      (field s name hint isOptional).typeName = Attribute.name s c := by
  cases hhint : hint == .unannotated with
  | false =>
    have hfield : (field s name hint isOptional).nested = shape? s (core hint) ∧
        (field s name hint isOptional).typeName = typeName s (core hint) := field_core hhint
    rw [hfield.1, hfield.2]
    cases hcore : core hint with
    | plainAlias | typingAlias | classForm | annotated | bars =>
      rw [hcore] at h
      cases h
      exact ⟨rfl, rfl⟩
    | _ =>
      rw [hcore] at h
      cases h
  | true =>
    obtain rfl := eq_unannotated hhint
    cases h

end RouteClient.Shape.Describe

namespace RouteClient.Client

def typeTexts (client : Client) : List String :=
  client.interfaces.flatMap (·.properties.map (·.type)) ++
    client.bindings.flatMap fun b ↦ b.responseType :: b.requestType.toList

theorem mem_typeTexts {client : Client} {text : String} (h : text ∈ client.typeTexts) :
    (∃ i ∈ client.interfaces, ∃ p ∈ i.properties, text = p.type) ∨
      ∃ b ∈ client.bindings, text = b.responseType ∨ text ∈ b.requestType := by
  rcases List.mem_append.1 h with h | h
  · obtain ⟨i, hi, h⟩ := List.mem_flatMap.1 h
    obtain ⟨p, hp, rfl⟩ := List.mem_map.1 h
    exact .inl ⟨i, hi, p, hp, rfl⟩
  · obtain ⟨b, hb, h⟩ := List.mem_flatMap.1 h
    refine .inr ⟨b, hb, (List.mem_cons.1 h).imp id fun h ↦ ?_⟩
    exact Option.mem_toList.1 h

end RouteClient.Client

namespace RouteClient.Build

open RouteClient.Project RouteClient.Shape RouteClient.Client Interfaces ShapeGraph

variable {s t : Session} {d : Draft ClassRef} {routes : List (Route ClassRef)}
  {turns : List Visit} {v : Visit} {f request response : Shape.Field ClassRef}

def Described (s : Session) (f : Shape.Field ClassRef) : Prop :=
  (f.isUnresolved ∧ f.nested = none ∧ TypeText.ofField (Attribute.name s) f = "any") ∨
    ∃ name hint isOptional, f = Describe.field s name hint isOptional

theorem described_fieldRead (hints : Hints) (p : Parameter) :
    Described s (Reflect.fieldRead s hints p) := by
  unfold Reflect.fieldRead
  split
  · have hany : TypeText.ofName "any" = "any" := by decide +kernel
    exact .inl ⟨rfl, rfl, hany⟩
  · exact .inr ⟨_, _, _, rfl⟩

theorem described_of_mem_fields {p : Found} (hf : f ∈ p.fields) : Described p.session f := by
  cases hread : Reflect.read p.session p.shape with
  | error r =>
    have hnil := fieldsOf_of_error ((reflect_graph _ _).trans hread)
    rw [Found.fields, hnil] at hf
    cases hf
  | ok fields =>
    rw [Found.fields, fieldsOf_of_ok ((reflect_graph _ _).trans hread)] at hf
    unfold Reflect.read at hread
    split at hread
    · cases hread
      cases hf
    · split at hread
      · cases hread
        cases hf
      · cases htypes : Reflect.typesRead p.session p.shape with
        | error r =>
          rw [htypes] at hread
          cases hread
        | ok hints =>
          rw [htypes] at hread
          cases hread
          obtain ⟨parameter, _, rfl⟩ := List.mem_map.1 hf
          exact described_fieldRead hints parameter

theorem described_of_asked (hv : v.Asked) (he : v.endpoint = .typed request response) :
    Described v.session request ∧ Described v.session response := by
  obtain ⟨s, h⟩ := hv
  rw [he] at h
  obtain ⟨handler, u, _, hfind⟩ := Run.bind_eq_ok h
  obtain ⟨_, _, hget, hcontract⟩ := Run.bind_eq_ok hfind
  cases hget
  cases hfound : handler.bind (Contract.find? u) with
  | none =>
    simp only [hfound] at hcontract
    cases hcontract
  | some contract =>
    simp only [hfound] at hcontract
    obtain ⟨types, w, _, htypes⟩ := Run.bind_eq_ok hcontract
    cases types with
    | none => cases htypes
    | some types =>
      obtain ⟨_, _, hget, hfields⟩ := Run.bind_eq_ok htypes
      cases hget
      cases hfields
      exact ⟨.inr ⟨_, _, _, rfl⟩, .inr ⟨_, _, _, rfl⟩⟩

/-- The types of a binding are those of a request and a response that a route had in its turn. -/
def TypedIn (turns : List Visit) (b : Binding) : Prop :=
  ∃ v ∈ turns, v.Asked ∧ ∃ request response, v.endpoint = .typed request response ∧
    b.responseType = TypeText.ofField (Attribute.name v.session) response ∧
    ∀ text ∈ b.requestType, text = TypeText.ofField (Attribute.name v.session) request

theorem TypedIn.mono {more : List Visit} {b : Binding} (hsub : turns ⊆ more) (h : TypedIn turns b) :
    TypedIn more b := by
  obtain ⟨v, hv, hb⟩ := h
  exact ⟨v, hsub hv, hb⟩

theorem typedIn_added (hv : v.Asked) (hfailure : (v.added d).interfaces.failure = none)
    (h : ∀ b ∈ d.bindings, TypedIn turns b) :
    ∀ b ∈ (v.added d).bindings, TypedIn (turns ++ [v]) b := by
  have hkept : ∀ b ∈ d.bindings, TypedIn (turns ++ [v]) b :=
    fun b hb ↦ (h b hb).mono (List.subset_append_left _ _)
  unfold Visit.added at hfailure ⊢
  cases he : v.endpoint with
  | skipped reason => exact hkept
  | typed request response =>
    rw [he] at hfailure
    rw [(Draft.add_typed hfailure).2, (Draft.bind_eq _ _ _).1, Draft.collect_bindings,
      Draft.collect_bindings]
    intro b hb
    rcases List.mem_append.1 hb with hb | hb
    · exact hkept b hb
    · obtain rfl := List.mem_singleton.1 hb
      refine ⟨v, List.mem_append_right _ List.mem_cons_self, hv, request, response, he, rfl, ?_⟩
      intro text htext
      unfold Draft.boundTo Draft.bindingOf at htext
      dsimp only at htext
      split at htext
      · exact (Option.some.inj htext).symm
      · cases htext

theorem typedIn_ofRoutes (h : ofRoutes routes s = (.ok d, t)) :
    ∀ b ∈ d.bindings, TypedIn (visits routes {} s) b := by
  let P (turns : List Visit) (d : Draft ClassRef) : Prop := ∀ b ∈ d.bindings, TypedIn turns b
  have hstart : P [] {} := fun b hb ↦ by cases hb
  exact (visits_run (P := P) hstart (fun _ _ _ hd _ hv hc ↦ typedIn_added hv hc hd) h).2

theorem exists_field {entered order : List Found} (hg : Gathered turns d.interfaces entered order)
    (hb : ∀ b ∈ d.bindings, TypedIn turns b) {text : String} (h : text ∈ d.client.typeTexts) :
    ∃ v ∈ turns, ∃ f, text = TypeText.ofField (Attribute.name v.session) f ∧
      Described v.session f ∧ ∀ c, f.nested = some c → Describe.isShapeClass v.session c →
        Met turns ⟨v.session, c⟩ ∧ Found.id ⟨v.session, c⟩ ∈ d.interfaces.seen := by
  rcases mem_typeTexts h with ⟨i, hi, property, hp, rfl⟩ | ⟨b, hmem, htext⟩
  -- A property is that of a field of an entered class, whose references are marked.
  · have hi : i ∈ d.interfaces.declared := hi
    rw [hg.declared_eq] at hi
    obtain ⟨p, horder, rfl⟩ := List.mem_map.1 hi
    obtain ⟨f, hf, rfl⟩ := List.mem_map.1 hp
    have hentered := ((hg.mem_order p).1 horder).1
    have hmet := hg.sound p hentered
    obtain ⟨v, hv, hs, _⟩ := hg.sound p hentered
    refine ⟨v, hv, f, by rw [hs]; rfl, by rw [hs]; exact described_of_mem_fields hf, ?_⟩
    rw [hs]
    intro c hnested hc
    have hleads : p.LeadsTo ⟨p.session, c⟩ := ⟨rfl, hc, f, hf, hnested⟩
    exact ⟨hmet.step hleads, hg.closed p hentered _ hleads⟩
  -- The request and the response of a binding are where the walks of its route start.
  · obtain ⟨v, hv, hasked, request, response, he, hresponse, hrequest⟩ := hb b hmem
    obtain ⟨hdq, hdr⟩ := described_of_asked hasked he
    have hroot : ∀ c ∈ v.endpoint.shapes, Describe.isShapeClass v.session c →
        Met turns ⟨v.session, c⟩ ∧ Found.id ⟨v.session, c⟩ ∈ d.interfaces.seen :=
      fun c hmem hc ↦ ⟨⟨v, hv, rfl, .root hmem hc⟩, hg.reached v hv c hmem hc⟩
    rw [he] at hroot
    rcases htext with rfl | htext
    · refine ⟨v, hv, response, hresponse, hdr, fun c hnested ↦ hroot c ?_⟩
      exact List.mem_append_right _ (Option.mem_toList.2 hnested)
    · refine ⟨v, hv, request, hrequest text htext, hdq, fun c hnested ↦ hroot c ?_⟩
      exact List.mem_append_left _ (Option.mem_toList.2 hnested)

def WrittenAs (name text : String) : Prop :=
  text = name ∨ ∃ nullable, text = TypeText.arrayOf name nullable

theorem writtenAs_of_nested {g : ClassRef → String} {c : ClassRef} (h : f.nested = some c) :
    WrittenAs (g c) (TypeText.ofField g f) := by
  unfold TypeText.ofField
  rw [h]
  cases f.isList
  · exact .inl rfl
  · exact .inr ⟨f.itemNullable, rfl⟩

/-- The types of a client against its interfaces. A type whose annotation is a class at its core is
written as that class, and the class, or the first one met under its full name, is declared if it has
fields. An annotation that gives arguments to a class is written as the class too, but leads to none.
-/
theorem type_text_declared (h : ofRoutes routes s = (.ok d, t)) :
    (visits routes {} s).map (·.route) = routes ∧
      (∀ text ∈ d.client.typeTexts, ∃ v ∈ visits routes {} s, ∃ f : Shape.Field ClassRef,
        text = TypeText.ofField (Attribute.name v.session) f ∧
        ((f.isUnresolved ∧ f.nested = none ∧ text = "any") ∨
          ∃ name hint isOptional, f = Describe.field v.session name hint isOptional ∧
            ∀ c, (Describe.core hint = .cls c → Describe.isShapeClass v.session c →
                WrittenAs (Attribute.name v.session c) text ∧
                Met (visits routes {} s) ⟨v.session, c⟩ ∧
                ∃ q, Met (visits routes {} s) q ∧ q.id = Attribute.id v.session c ∧
                  (q.fields ≠ [] → q.declaration ∈ d.client.interfaces)) ∧
              (Describe.origin? (Describe.core hint) = some c →
                f.nested = none ∧ f.typeName = Attribute.name v.session c))) ∧
      (∀ i ∈ d.client.interfaces,
        ∃ p, Met (visits routes {} s) p ∧ p.fields ≠ [] ∧ i = p.declaration) ∧
      (Identified (visits routes {} s) →
        ∀ p, Met (visits routes {} s) p → p.fields ≠ [] → p.declaration ∈ d.client.interfaces) := by
  obtain ⟨hturns, entered, order, hg⟩ := gathered_ofRoutes h
  refine ⟨hturns, fun text htext ↦ ?_, fun i ↦ hg.exists_declared, fun hid p ↦
    hg.declared_of_met hid⟩
  obtain ⟨v, hv, f, hofField, hdescribed, hmet⟩ := exists_field hg (typedIn_ofRoutes h) htext
  refine ⟨v, hv, f, hofField, ?_⟩
  rcases hdescribed with ⟨hunresolved, hnested, hany⟩ | ⟨name, hint, isOptional, rfl⟩
  · exact .inl ⟨hunresolved, hnested, hofField.trans hany⟩
  refine .inr ⟨name, hint, isOptional, rfl, fun c ↦ ⟨fun hcore hc ↦ ?_, Describe.nested_of_origin⟩⟩
  have hnested : (Describe.field v.session name hint isOptional).nested = some c :=
    Describe.nested_of_core hcore hc
  obtain ⟨hc, hseen⟩ := hmet c hnested hc
  obtain ⟨q, hq, hid, horder⟩ := hg.exists_entered hseen
  refine ⟨?_, hc, q, hq, hid, fun hn ↦ ?_⟩
  · rw [hofField]
    exact writtenAs_of_nested hnested
  · have hdeclared : q.declaration ∈ d.interfaces.declared := by
      rw [hg.declared_eq]
      exact List.mem_map_of_mem (horder hn)
    exact hdeclared

theorem type_text_declared_sale :
    ∃ d t, ofRoutes tradeRoutes sale = (.ok d, t) ∧ Identified (visits tradeRoutes {} sale) ∧
      d.client.typeTexts = ["string", "Item[]", "Basket", "Item"] ∧
      ∀ p, Met (visits tradeRoutes {} sale) p → p.fields ≠ [] →
        p.declaration ∈ d.client.interfaces := by
  have htexts : (ofRoutes tradeRoutes sale).1.toOption.map (·.client.typeTexts) =
      some ["string", "Item[]", "Basket", "Item"] := by
    decide +kernel
  rcases h : ofRoutes tradeRoutes sale with ⟨r | d, t⟩
  · rw [h] at htexts
    cases htexts
  · rw [h] at htexts
    obtain ⟨_, _, _, hdeclared⟩ := type_text_declared h
    exact ⟨d, t, rfl, identified_sale, Option.some.inj htexts, hdeclared identified_sale⟩

/-- A class with arguments is written as the class, which has a field but no interface. -/
theorem type_text_undeclared :
    let s := trade (.standard ⟨"builtins", "str"⟩) (.typingAlias none page [.cls shopItem])
    Describe.isShapeClass s page ∧ (Reflect.read s page).toOption.map List.length = some 1 ∧
      Attribute.name s page = "Page" ∧
      (ofRoutes tradeRoutes s).1.toOption.map
          (fun d ↦ (d.client.interfaces, d.client.bindings.map (·.responseType))) =
        some ([], ["Page"]) := by
  decide +kernel

end RouteClient.Build
