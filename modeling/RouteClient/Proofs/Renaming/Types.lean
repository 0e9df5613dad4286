import RouteClient.Proofs.Renaming.Sessions

namespace RouteClient.Project.TypeForm

open Renaming

variable {ρ : Renaming} {s s' : Session} {v w v' w' : Value} {vs ws : List Value}

theorem reference_takes {text : String} (h : ρ.Quiet text) {home : Option String}
    (hhome : ∀ n ∈ home, ρ.homes n) :
    Akin ρ.Takes (reference text home) (reference text (home.map ρ.name)) := by
  unfold reference
  split
  · exact .error .indexError
  · split
    · exact .ok (.reference h hhome)
    · exact .error .syntaxError

theorem asType_takes (hv : ρ.Takes v w) {home : Option String} (hhome : ∀ n ∈ home, ρ.homes n) :
    Akin ρ.Takes (asType v home) (asType w (home.map ρ.name)) := by
  have hsame := hv.noneAsType
  cases hv with
  | @scalar x hx =>
    cases x with
    | text t => exact reference_takes (hx t rfl) hhome
    | _ => exact .ok hsame
  | _ => exact .ok hsame

theorem check_takes (purpose : String) (hv : ρ.Takes v w) (inClass asArgument : Bool)
    {home : Option String} (hhome : ∀ n ∈ home, ρ.homes n) :
    Akin ρ.Takes (check s purpose v inClass asArgument home)
      (check s' purpose w inClass asArgument (home.map ρ.name)) := by
  refine (asType_takes hv hhome).bind fun v w hv ↦ ?_
  have hsame := hv
  cases hv with
  | typingAlias name horigin hvs =>
    cases horigin with
    | standard c =>
      dsimp only
      split
      · exact .error .typeError
      · exact .ok hsame
    | _ => exact .ok hsame
  | applied form hv =>
    dsimp only
    split
    · exact .error .typeError
    · exact .ok hsame
  | form name =>
    dsimp only
    split
    · exact .ok hsame
    · exact .error .typeError
  | cls hc =>
    cases hc with
    | standard c =>
      dsimp only
      split
      · exact .error .typeError
      · exact .ok hsame
    | _ => exact .ok hsame
  | tuple hvs => exact .error .typeError
  | _ => exact .ok hsame

theorem checkArgument_takes (purpose : String) (hv : ρ.Takes v w) :
    Akin ρ.Takes (checkArgument s purpose v) (checkArgument s' purpose w) :=
  check_takes purpose hv false true ρ.homes_none

theorem members_takes (hv : ρ.Takes v w) : ρ.TakesAll (members v) (members w) := by
  have hsame := hv
  cases hv with
  | union hvs => exact hvs
  | bars hvs => exact hvs
  | _ => exact .cons hsame .nil

theorem collapse_takes {wrap : List Value → Value}
    (hwrap : ∀ vs ws, ρ.TakesAll vs ws → ρ.Takes (wrap vs) (wrap ws)) (hvs : ρ.TakesAll vs ws) :
    ρ.Takes (collapse wrap vs) (collapse wrap ws) := by
  have hmembers : ρ.TakesAll (vs.flatMap members) (ws.flatMap members) :=
    List.rel_flatMap hvs fun _ _ ↦ members_takes
  have hdistinct := eraseDups_takes hmembers
  unfold collapse
  generalize (vs.flatMap members).eraseDups = xs, (ws.flatMap members).eraseDups = ys at hdistinct
  have hsame := hdistinct
  cases hdistinct with
  | nil => exact hwrap _ _ .nil
  | cons hv hrest =>
    cases hrest with
    | nil => exact hv
    | cons _ _ => exact hwrap _ _ hsame

theorem isEmpty_takes (hvs : ρ.TakesAll vs ws) : vs.isEmpty = ws.isEmpty := by
  cases hvs <;> rfl

theorem union_takes (hvs : ρ.TakesAll vs ws) : Akin ρ.Takes (union s vs) (union s' ws) := by
  unfold union
  rw [isEmpty_takes hvs]
  split
  · exact .error .typeError
  · exact (Outcomes.mapM hvs fun _ _ ↦ checkArgument_takes _).bind fun _ _ hchecked ↦
      .ok (collapse_takes (fun _ _ ↦ .union) hchecked)

theorem isTypingOperand_takes (hv : ρ.Takes v w) : isTypingOperand v = isTypingOperand w := by
  cases hv <;> rfl

theorem isPlainOperand_takes (hv : ρ.Takes v w) : isPlainOperand v = isPlainOperand w := by
  cases hv <;> rfl

theorem isNone_takes (hv : ρ.Takes v w) : isNone v = isNone w := by
  cases hv <;> rfl

theorem bar_takes (hv : ρ.Takes v w) (hv' : ρ.Takes v' w') :
    Akin ρ.Takes (bar s v v') (bar s' w w') := by
  unfold bar
  rw [isTypingOperand_takes hv, isTypingOperand_takes hv', isPlainOperand_takes hv,
    isPlainOperand_takes hv', isNone_takes hv, isNone_takes hv']
  split
  · exact union_takes (.cons hv (.cons hv' .nil))
  · split
    · exact .ok (collapse_takes (fun _ _ ↦ .bars) (.cons hv.noneAsType (.cons hv'.noneAsType .nil)))
    · exact .error .typeError

theorem barAll_takes (hvs : ρ.TakesAll vs ws) : Akin ρ.Takes (barAll s vs) (barAll s' ws) := by
  cases hvs with
  | nil => exact .ok (.bars .nil)
  | cons hv hrest => exact Outcomes.foldlM hrest hv fun _ _ _ _ ↦ bar_takes

theorem literalValues_takes (hvs : ρ.TakesAll vs ws) :
    ρ.TakesAll (literalValues vs) (literalValues ws) := by
  refine eraseDups_takes (List.rel_flatMap hvs fun v w hv ↦ ?_)
  have hsame := hv
  cases hv with
  | literal hvs => exact hvs
  | _ => exact .cons hsame .nil

theorem exists_notSubscriptable (s : Session) (v : Value) :
    ∃ text, notSubscriptable s v = typeError text := by
  cases v <;> exact ⟨_, rfl⟩

theorem notSubscriptable_takes (v w : Value) :
    Akin ρ.Takes (notSubscriptable s v) (notSubscriptable s' w) := by
  obtain ⟨_, hv⟩ := exists_notSubscriptable s v
  obtain ⟨_, hw⟩ := exists_notSubscriptable s' w
  rw [hv, hw]
  exact .error .typeError

theorem single_takes (purpose : String) (vs ws : List Value) : ρ.TakesAll vs ws → Akin ρ.Takes
    (match vs with
    | [v] => checkArgument s purpose v
    | vs => checkArgument s purpose (.tuple vs))
    (match ws with
    | [w] => checkArgument s' purpose w
    | ws => checkArgument s' purpose (.tuple ws)) := by
  intro hvs
  have hsame := hvs
  cases hvs with
  | nil => exact checkArgument_takes _ (.tuple .nil)
  | cons hv hrest =>
    cases hrest with
    | nil => exact checkArgument_takes _ hv
    | cons _ _ => exact checkArgument_takes _ (.tuple hsame)

theorem applyForm_takes (name : String) (hvs : ρ.TakesAll vs ws) :
    Akin ρ.Takes (applyForm s name vs) (applyForm s' name ws) := by
  unfold applyForm
  dsimp only
  split
  · exact (single_takes _ vs ws hvs).bind fun _ _ hv ↦
      union_takes (.cons hv (.cons (.cls (.standard _)) .nil))
  · exact union_takes hvs
  · exact .ok (.literal (literalValues_takes hvs))
  case h_10 => exact .error .typeError
  all_goals exact (single_takes _ vs ws hvs).bind fun _ _ hv ↦ .ok (.applied _ hv)

theorem asTypes_takes (hvs : ρ.TakesAll vs ws) :
    Akin ρ.TakesAll (vs.mapM (asType · none)) (ws.mapM (asType · none)) :=
  Outcomes.mapM hvs fun _ _ hv ↦ asType_takes hv ρ.homes_none

theorem length_takes (hvs : ρ.TakesAll vs ws) : vs.length = ws.length := hvs.length_eq

theorem tupleArguments_takes (hvs : ρ.TakesAll vs ws) :
    Akin ρ.TakesAll (tupleArguments s vs) (tupleArguments s' ws) := by
  have hchecked : ∀ {vs ws}, ρ.TakesAll vs ws → Akin ρ.TakesAll
      (vs.mapM (checkArgument s "Tuple[t0, t1, ...]: each t must be a type."))
      (ws.mapM (checkArgument s' "Tuple[t0, t1, ...]: each t must be a type.")) :=
    fun hvs ↦ Outcomes.mapM hvs fun _ _ ↦ checkArgument_takes _
  have hlast : Option.Rel ρ.Takes vs.getLast? ws.getLast? := by
    rw [List.getLast?_eq_head?_reverse, List.getLast?_eq_head?_reverse]
    have hreverse := List.rel_reverse hvs
    generalize vs.reverse = xs, ws.reverse = ys at hreverse
    cases hreverse with
    | nil => exact .none
    | cons hv _ => exact .some hv
  have hdropped : ρ.TakesAll vs.dropLast ws.dropLast := by
    rw [List.dropLast_eq_take, List.dropLast_eq_take, length_takes hvs]
    exact List.forall₂_take _ hvs
  unfold tupleArguments
  dsimp only
  generalize vs.getLast? = x, ws.getLast? = y at hlast
  cases hlast with
  | none => exact hchecked hvs
  | some hv =>
    cases hv with
    | ellipsis =>
      dsimp only
      rw [length_takes hvs]
      split
      · exact (hchecked hdropped).bind fun _ _ hfront ↦
          .ok (takesAll_append hfront (.cons .ellipsis .nil))
      · exact hchecked hvs
    | _ => exact hchecked hvs

theorem callableArguments_takes (hvs : ρ.TakesAll vs ws) :
    Akin ρ.TakesAll (callableArguments s vs) (callableArguments s' ws) := by
  rcases hvs with _ | @⟨arguments, arguments', _, _, harguments, _ |
    @⟨result, result', _, _, hresult, _ | _⟩⟩
  · exact .error .typeError
  · exact .error .typeError
  · refine (checkArgument_takes resultPurpose hresult).bind fun v w hv ↦ ?_
    have hsame := harguments
    cases harguments with
    | sequence hvs =>
      exact (asTypes_takes hvs).bind fun _ _ hvs ↦ .ok (takesAll_append hvs (.cons hv .nil))
    | ellipsis => exact .ok (.cons .ellipsis (.cons hv .nil))
    | _ => exact (asType_takes hsame ρ.homes_none).bind fun _ _ hv' ↦ .ok (.cons hv' (.cons hv .nil))
  · exact .error .typeError

theorem checkCount_takes (shown shown' : String) (expected actual : Nat) :
    Akin (fun _ _ ↦ True) (checkCount shown expected actual)
      (checkCount shown' expected actual) := by
  unfold checkCount
  split
  · exact .ok trivial
  · exact .error .typeError

theorem applyClassForm_takes (name : String) (origin : StandardClass) (arity : Option Nat)
    (hvs : ρ.TakesAll vs ws) :
    Akin ρ.Takes (applyClassForm s name origin arity vs)
      (applyClassForm s' name origin arity ws) := by
  unfold applyClassForm
  dsimp only
  split
  · exact (tupleArguments_takes hvs).bind fun _ _ hvs ↦ .ok (.typingAlias _ (.standard _) hvs)
  · exact (callableArguments_takes hvs).bind fun _ _ hvs ↦ .ok (.typingAlias _ (.standard _) hvs)
  · refine (Outcomes.mapM hvs fun _ _ ↦ checkArgument_takes _).bind fun vs ws hvs ↦ ?_
    cases arity with
    | none => exact .ok (.typingAlias _ (.standard _) hvs)
    | some expected =>
      dsimp only
      rw [length_takes hvs]
      exact (checkCount_takes _ _ expected _).bind fun _ _ _ ↦ .ok (.typingAlias _ (.standard _) hvs)

theorem applyGeneric_takes (c : StandardClass) (hvs : ρ.TakesAll vs ws) :
    Akin ρ.Takes (applyGeneric c vs) (applyGeneric c ws) := by
  have hvariables : vs.all isTypeVar = ws.all isTypeVar :=
    all_forall₂ hvs fun _ _ hv ↦ by cases hv <;> rfl
  unfold applyGeneric
  rw [isEmpty_takes hvs, hvariables, length_takes (eraseDups_takes hvs), length_takes hvs]
  split
  · exact .error .typeError
  · split
    · exact .error .typeError
    · split
      · exact .error .typeError
      · exact .ok (.typingAlias _ (.standard _) hvs)

section

variable (h : ρ.TakesSession s s')

include h

theorem label_takes (hv : ρ.Takes v w) : label s v = label s' w := by
  apply @Takes.rec ρ (fun v w _ ↦ label s v = label s' w) (fun vs ws _ ↦ labels s vs = labels s' ws)
  case t => exact hv
  case cls => exact fun hc ↦ Attribute.qualifiedName_takes h hc
  case scalar => exact fun {x} _ ↦ by cases x <;> rfl
  case plainAlias =>
    intro _ _ hc _ _ _ ih
    simp only [label, Attribute.qualifiedName_takes h hc, ih]
  case typingAlias =>
    intro _ _ _ hc _ _ _ ih
    simp only [label, Attribute.qualifiedName_takes h hc, ih]
  case annotated => exact fun _ _ ih _ ↦ by simp only [label, ih]
  case union => exact fun _ ih ↦ by simp only [label, ih]
  case bars => exact fun _ ih ↦ by simp only [label, ih]
  case cons => exact fun _ _ ih ihs ↦ by simp only [labels, ih, ihs]
  -- The name of a class is all that a label reads of a session.
  all_goals
    intros
    rfl

theorem labels_takes (hvs : ρ.TakesAll vs ws) : labels s vs = labels s' ws := by
  induction hvs with
  | nil => rfl
  | cons hv _ ih => rw [labels, labels, label_takes h hv, ih]

omit h in
theorem beqAll_takes (hvs : ρ.TakesAll vs ws) {vs' ws' : List Value} (hvs' : ρ.TakesAll vs' ws') :
    (vs == vs') = (ws == ws') := by
  induction hvs generalizing vs' ws' with
  | nil => cases hvs' <;> rfl
  | cons hv _ ih =>
    cases hvs' with
    | nil => rfl
    | cons hv' hrest => rw [List.cons_beq_cons, List.cons_beq_cons, beq_takes hv hv', ih hrest]

theorem applyModel_takes {i j : Nat} (hindex : ρ.classes i j) {r r' : ClassRecord}
    (hr : ρ.TakesClass r r') (hvs : ρ.TakesAll vs ws) :
    Akin ρ.Takes (applyModel s i r vs) (applyModel s' j r' ws) := by
  have hvariables := hr.typeVariables
  unfold applyModel
  dsimp only
  rw [contains_takes (Attribute.lineage_takes h (.declared hindex)) (.standard .generic),
    isEmpty_takes hvariables, length_takes hvariables, length_takes hvs, beqAll_takes hvs hvariables,
    labels_takes h hvs, hr.name]
  split
  · exact .error .typeError
  · split
    · exact .error .typeError
    · refine (checkCount_takes _ _ _ _).bind fun _ _ _ ↦ ?_
      split
      · exact .ok (.cls (.declared hindex))
      · exact .ok (.cls (.specialized _ hindex))

omit h in
/-- What an enumeration has under a name is a member, or not one, in both sessions. -/
theorem enumMember_takes {r r' : ClassRecord} (hr : ρ.TakesClass r r') (vs ws : List Value) :
    ρ.TakesAll vs ws → Akin ρ.Takes
      (match vs with
      | [.scalar (.text key)] =>
        match r.attributes.get? key with
        | some (.object kind) => return .object kind
        | _ => .error ⟨"KeyError", Text.Quoted.quoted key⟩
      | [v] => .error ⟨"KeyError", ValueText.text s v⟩
      | vs => .error ⟨"KeyError", ValueText.text s (.tuple vs)⟩)
      (match ws with
      | [.scalar (.text key)] =>
        match r'.attributes.get? key with
        | some (.object kind) => return .object kind
        | _ => .error ⟨"KeyError", Text.Quoted.quoted key⟩
      | [v] => .error ⟨"KeyError", ValueText.text s' v⟩
      | vs => .error ⟨"KeyError", ValueText.text s' (.tuple vs)⟩) := by
  intro hvs
  rcases hvs with _ | ⟨hv, _ | ⟨_, _⟩⟩
  · exact .error .keyError
  · cases hv with
    | @scalar x hx =>
      cases x with
      | text key =>
        have hmember : Option.Rel ρ.Takes (r.attributes.get? key) (r'.attributes.get? key) :=
          lookup_takes hr.attributes key
        dsimp only
        generalize r.attributes.get? key = a, r'.attributes.get? key = b at hmember
        cases hmember with
        | none => exact .error .keyError
        | some hm =>
          cases hm with
          | object kind => exact .ok (.object kind)
          | _ => exact .error .keyError
      | _ => exact .error .keyError
    | _ => exact .error .keyError
  · cases hv with
    | @scalar x hx => cases x <;> exact .error .keyError
    | _ => exact .error .keyError

omit h in
theorem takesOwnArguments_takes {cs ds : List ClassRef} (hcs : List.Forall₂ ρ.TakesRef cs ds) :
    takesOwnArguments cs = takesOwnArguments ds := by
  refine congrArg (Option.getD · false) (findSome_congr_of_rel hcs fun c d hc ↦ ?_)
  cases hc <;> rfl

theorem applyDeclared_takes {i j : Nat} (hindex : ρ.classes i j) {r r' : ClassRecord}
    (hr : ρ.TakesClass r r') (hvs : ρ.TakesAll vs ws) :
    Akin ρ.Takes (applyDeclared s i r vs) (applyDeclared s' j r' ws) := by
  have hline := Attribute.lineage_takes h (.declared hindex)
  unfold applyDeclared
  dsimp only
  rw [takesOwnArguments_takes hline, contains_takes hline (.standard .generic),
    Attribute.isEnum_takes h (.declared hindex), hr.metaclass]
  split
  · exact applyModel_takes h hindex hr hvs
  · split
    · exact .ok (.plainAlias (.declared hindex) hvs)
    · split
      · refine (asTypes_takes hvs).bind fun vs ws hvs ↦ ?_
        have hvariables := hr.typeVariables
        rw [isEmpty_takes hvariables, length_takes hvariables, length_takes hvs]
        split
        · exact .error .typeError
        · exact (checkCount_takes _ _ _ _).bind fun _ _ _ ↦ .ok (.typingAlias _ (.declared hindex) hvs)
      · split
        · exact enumMember_takes hr vs ws hvs
        · exact notSubscriptable_takes _ _

omit h in
theorem applyStandard_takes (c : StandardClass) (hvs : ρ.TakesAll vs ws) :
    Akin ρ.Takes (applyStandard s c vs) (applyStandard s' c ws) := by
  unfold applyStandard
  split
  · exact (asTypes_takes hvs).bind fun _ _ ↦ applyGeneric_takes c
  · split
    · rcases hvs with _ | ⟨hv, _ | ⟨hm, hmetadata⟩⟩
      · exact .error .typeError
      · exact .error .typeError
      · refine (check_takes _ hv true true ρ.homes_none).bind fun v w hv ↦ ?_
        have hsame := hv
        cases hv with
        | annotated hv hinner =>
          exact .ok (.annotated hv (takesAll_append hinner (.cons hm hmetadata)))
        | _ => exact .ok (.annotated hsame (.cons hm hmetadata))
    · split
      · have hsame := hvs
        rcases hvs with _ | ⟨hv, _ | ⟨_, _⟩⟩
        · exact .ok (.initOnly (.tuple hsame))
        · exact .ok (.initOnly hv)
        · exact .ok (.initOnly (.tuple hsame))
      · split
        · exact .ok (.plainAlias (.standard c) hvs)
        · exact notSubscriptable_takes _ _

/-- A value with arguments. -/
theorem subscript_takes (hv : ρ.Takes v w) (hvs : ρ.TakesAll vs ws) :
    Akin ρ.Takes (subscript s v vs) (subscript s' w ws) := by
  cases hv with
  | form name => exact applyForm_takes name hvs
  | classForm name origin arity => exact applyClassForm_takes name origin arity hvs
  | cls hc =>
    cases hc with
    | standard c => exact applyStandard_takes c hvs
    | @declared i j hindex =>
      have hrecord := h.classes i j hindex
      unfold subscript
      dsimp only
      generalize s.classRecord? i = x, s'.classRecord? j = y at hrecord
      cases hrecord with
      | none => exact notSubscriptable_takes _ _
      | some hr => exact applyDeclared_takes h hindex hr hvs
    | specialized index label => exact .error .typeError
  | _ => exact .error .typeError

end

end RouteClient.Project.TypeForm
