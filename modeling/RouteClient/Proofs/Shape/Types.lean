import RouteClient.Proofs.Project.Verdict
import RouteClient.Proofs.Shape.Reading

namespace RouteClient.Shape.Reflect

open RouteClient.Project Hints

variable {s : Session} {c : ClassRef} {locals : String → Option Value} {h : Hints} {n : String}

/-- Types and failures of exactly the names that are annotated in the line of a class, each decided
by the nearest annotation. -/
structure NearestDecides (s : Session) (c : ClassRef) (eval : Annotation → Except Raised Value)
    (h : Hints) : Prop where
  disjoint : ∀ n ∈ h.unresolved, ¬ h.types.contains n
  covers : ∀ n, h.types.contains n ∨ n ∈ h.unresolved ↔
    ∃ d ∈ Attribute.lineage s c, ∃ v, (n, v) ∈ ownAnnotations s d
  nearest : ∀ n a, nearest? s c n = some a →
    h.types.get? n = (eval a).toOption ∧ (n ∈ h.unresolved ↔ ∃ r, eval a = .error r)

theorem says_ofClass (hh : ofAnnotated s (.cls c) locals = .ok h) :
    Says h fun n ↦ (nearest? s c n).map (evaluation s locals (.cls c)) := by
  have hsame : verdictOf (evaluation s locals (.cls c)) (annotations s (.cls c)) =
      fun n ↦ (nearest? s c n).map (evaluation s locals (.cls c)) :=
    funext fun _ ↦ verdictOf_annotations c
  exact hsame ▸ says_ofAnnotated (fun _ ↦ Annotated.noConfusion) hh

theorem nearestDecides_of_says {eval : Annotation → Except Raised Value}
    (hfound : Says h fun n ↦ (nearest? s c n).map eval) : NearestDecides s c eval h where
  disjoint := by
    intro n hn
    obtain ⟨r, hr⟩ := (hfound.unresolved n).1 hn
    unfold OrderedMap.contains
    rw [hfound.types, hr]
    exact Bool.false_ne_true
  covers := by
    intro n
    unfold OrderedMap.contains
    rw [← isSome_nearest?_iff, hfound.types, hfound.unresolved]
    cases nearest? s c n with
    | none => simp
    | some a =>
      rw [Option.map_some]
      cases eval a <;> simp [Except.toOption]
  nearest := by
    intro n a ha
    have htypes := hfound.types n
    have hunresolved := hfound.unresolved n
    rw [ha] at htypes hunresolved
    exact ⟨htypes, hunresolved.trans (by simp)⟩

/-- What the line of a class says of a name: its nearest annotation, read with all others or by
itself. -/
def saidByLine (s : Session) (c : ClassRef) (n : String) : Option (Except Raised Value) :=
  (nearest? s c n).map (evaluation s (selfNamed s c) (.cls c))

/-- What the constructor that a class has from the nearest class of its line says of a name. -/
def saidByConstructor (s : Session) (c : ClassRef) (n : String) : Option (Except Raised Value) :=
  match constructorAnnotations s c with
  | .known types => ((OrderedMap.ofList types).get? n).map .ok
  | target => verdictOf (evaluation s (selfNamed s c) target) (annotations s target) n

def Resolves (said : Option (Except Raised Value)) : Prop := ∃ type, said = some (.ok type)

def Fails (said : Option (Except Raised Value)) : Prop := ∃ r, said = some (.error r)

instance (said : Option (Except Raised Value)) : Decidable (Resolves said) :=
  match said with
  | some (.ok type) => isTrue ⟨type, rfl⟩
  | some (.error _) | none => isFalse nofun

instance (said : Option (Except Raised Value)) : Decidable (Fails said) :=
  match said with
  | some (.error r) => isTrue ⟨r, rfl⟩
  | some (.ok _) | none => isFalse nofun

theorem says_constructor
    (hh : ofAnnotated s (constructorAnnotations s c) (selfNamed s c) = .ok h) :
    Says h (saidByConstructor s c) := by
  unfold saidByConstructor
  cases htarget : constructorAnnotations s c with
  | cls d =>
    rw [htarget] at hh
    exact says_ofAnnotated (fun _ ↦ Annotated.noConfusion) hh
  | function index =>
    rw [htarget] at hh
    exact says_ofAnnotated (fun _ ↦ Annotated.noConfusion) hh
  | known types =>
    rw [htarget] at hh
    cases hh
    exact says_known (OrderedMap.nodup_keys_merge List.nodup_nil)

theorem typesRead_eq_ok (hh : typesRead s c = .ok h) :
    Says h fun n ↦ override (saidByLine s c n) (saidByConstructor s c n) := by
  unfold typesRead at hh
  cases hown : ofAnnotated s (.cls c) (selfNamed s c) with
  | error r =>
    rw [hown] at hh
    cases hh
  | ok own =>
    cases hconstructor : ofAnnotated s (constructorAnnotations s c) (selfNamed s c) with
    | error r =>
      rw [hown, hconstructor] at hh
      cases hh
    | ok constructor =>
      rw [hown, hconstructor] at hh
      cases hh
      exact (says_ofClass hown).override (says_constructor hconstructor)

theorem exists_typesRead_iff : (∃ h, typesRead s c = .ok h) ↔
    Readable s (selfNamed s c) (.cls c) ∧
      Readable s (selfNamed s c) (constructorAnnotations s c) := by
  rw [← exists_ofAnnotated_iff, ← exists_ofAnnotated_iff]
  unfold typesRead
  cases ofAnnotated s (.cls c) (selfNamed s c) with
  | error r => simp [bind, Except.bind]
  | ok own =>
    cases ofAnnotated s (constructorAnnotations s c) (selfNamed s c) with
    | error r => simp [bind, Except.bind]
    | ok constructor => simp [bind, Except.bind, pure, Except.pure]

theorem exists_error_override_iff (v w : Option (Except Raised Value)) :
    (∃ r, override v w = some (.error r)) ↔ (Fails v ∨ Fails w) ∧ ¬ Resolves v ∧ ¬ Resolves w := by
  rcases v with _ | r | type <;> rcases w with _ | r' | type' <;> simp [override, Fails, Resolves]

/-- Where the annotations of a line are taken one by one, there is a result if and only if none of
them fails worse than by having no meaning, and in any result the nearest annotation of each name
decides. Let the constructor quote names by themselves only. Then the types of a class and of its
constructor can be read if and only if those of both can; a name has the type that the constructor
says or else the line, and is unresolved if and only if one of them fails and none resolves. -/
theorem nearest_annotation_decides (s : Session) (c : ClassRef) :
    (∀ locals r, together s (.cls c) = .error r → r.isUnresolvable →
      ((∃ h, ofAnnotated s (.cls c) locals = .ok h) ↔
        ∀ a ∈ annotations s (.cls c), Passes (apart s locals a)) ∧
      ∀ h, ofAnnotated s (.cls c) locals = .ok h → NearestDecides s c (apart s locals) h) ∧
    (QuotesAlone s (constructorAnnotations s c) →
      ((∃ h, (typesOf c s).1 = .ok h) ↔ Readable s (selfNamed s c) (.cls c) ∧
        Readable s (selfNamed s c) (constructorAnnotations s c)) ∧
      ∀ h, (typesOf c s).1 = .ok h → ∀ n, n ≠ "return" →
        (n ∈ h.unresolved ↔
          (Fails (saidByLine s c n) ∨ Fails (saidByConstructor s c n)) ∧
            ¬ Resolves (saidByLine s c n) ∧ ¬ Resolves (saidByConstructor s c n)) ∧
        h.types.get? n = ((saidByConstructor s c n).bind Except.toOption).or
          ((saidByLine s c n).bind Except.toOption)) := by
  have htarget : ∀ types, Annotated.cls c ≠ .known types := fun _ ↦ Annotated.noConfusion
  rw [answers_typesOf.result]
  refine ⟨fun locals r htogether hr ↦ ⟨?_, fun h hh ↦ ?_⟩,
    fun _ ↦ ⟨exists_typesRead_iff, fun h hh n _ ↦ ?_⟩⟩
  · rw [exists_ofAnnotated_iff]
    constructor
    · intro hreadable
      exact (hreadable r htogether).2
    · intro hall r' hr'
      rw [htogether] at hr'
      cases hr'
      exact ⟨hr, hall⟩
  · have hfound := says_ofClass hh
    rw [evaluation_of_error htarget htogether] at hfound
    exact nearestDecides_of_says hfound
  · have hfound := typesRead_eq_ok hh
    refine ⟨(hfound.unresolved n).trans (exists_error_override_iff _ _), ?_⟩
    rw [hfound.types, toOption_override]

def missing : Value := .scalar (.text "Missing")

def integer : Value := .cls (.standard ⟨"builtins", "int"⟩)

def layer (name : String) (above : List ClassRef) (annotations : List (String × Value)) :
    ClassRecord :=
  { name, qualifiedName := name, moduleName := "shop", above := above ++ [.standard .object],
    annotations := ⟨annotations⟩ }

def layers (top middle bottom : List (String × Value)) : Session :=
  { modules := #[{ name := "shop" }]
    loaded := ⟨[("shop", 0)]⟩
    classes := #[layer "Top" [] top, layer "Middle" [.declared 0] middle,
      layer "Bottom" [.declared 1, .declared 0] bottom] }

def alternating : Session :=
  layers [("x", missing), ("y", integer)] [("x", integer), ("y", missing)]
    [("x", missing), ("y", integer)]

def unknownName : Raised := ⟨"NameError", "name 'Missing' is not defined"⟩

theorem together_alternating : together alternating (.cls (.declared 2)) = .error unknownName := by
  have hraised : (together alternating (.cls (.declared 2))).map (fun _ ↦ ()) =
      .error unknownName := by decide +kernel
  cases htogether : together alternating (.cls (.declared 2)) with
  | ok types =>
    rw [htogether] at hraised
    cases hraised
  | error r =>
    rw [htogether] at hraised
    exact congrArg _ (Except.error.inj hraised)

theorem nearest_annotation_decides_alternating :
    (∃ h, ofAnnotated alternating (.cls (.declared 2)) (fun _ ↦ none) = .ok h ∧
      NearestDecides alternating (.declared 2) (apart alternating fun _ ↦ none) h) ∧
    ∃ h, (typesOf (.declared 2) alternating).1 = .ok h ∧
      "x" ∈ h.unresolved ∧ (h.types.get? "y").isSome := by
  obtain ⟨hline, hquotes⟩ := nearest_annotation_decides alternating (.declared 2)
  obtain ⟨htypes, hsaid⟩ := hquotes (by decide +kernel)
  obtain ⟨hreturns, hdecides⟩ := hline (fun _ ↦ none) _ together_alternating (by decide +kernel)
  obtain ⟨h, hh⟩ := hreturns.2 (by decide +kernel)
  have hown : Readable alternating (selfNamed alternating (.declared 2)) (.cls (.declared 2)) := by
    intro r hr
    rw [together_alternating] at hr
    cases hr
    decide +kernel
  have hconstructor : Readable alternating (selfNamed alternating (.declared 2))
      (constructorAnnotations alternating (.declared 2)) := fun r hr ↦ nomatch hr
  obtain ⟨k, hk⟩ := htypes.2 ⟨hown, hconstructor⟩
  refine ⟨⟨h, hh, hdecides h hh⟩, k, hk, (hsaid k hk "x" (by decide)).1.2 (by decide +kernel), ?_⟩
  rw [(hsaid k hk "y" (by decide)).2]
  decide +kernel

/-- An annotation without any text ends the reading of a line, although a nearer one of its name has
a type. -/
theorem replaced_annotation_aborts :
    let s := layers [("x", missing)] [("y", .scalar (.text ""))] [("y", integer)]
    (together s (.cls (.declared 2))).map (fun _ ↦ ()) = .error unknownName ∧
      Resolves ((nearest? s (.declared 2) "y").map (apart s fun _ ↦ none)) ∧
      (ofAnnotated s (.cls (.declared 2)) fun _ ↦ none).map (fun _ ↦ ()) =
        .error ⟨"IndexError", "string index out of range"⟩ := by
  refine ⟨?_, ?_, ?_⟩
  all_goals decide +kernel

end RouteClient.Shape.Reflect
