import RouteClient.Contract
import RouteClient.Proofs.Project.Run
import RouteClient.Proofs.Project.Skeleton
import RouteClient.Proofs.Text.Split

namespace RouteClient.Contract

open RouteClient.Project RouteClient.Text

variable {s : Session} {identifier moduleName front last qualified : String} {names : List String}
  {index : Nat}

def Plain (text : String) : Prop :=
  text ≠ "" ∧ ∀ c ∈ text.toList, Blank.isBlank c = false ∧ c ≠ ':'

instance (text : String) : Decidable (Plain text) :=
  decidable_of_iff (text ≠ "" ∧ text.toList.all fun c ↦ !Blank.isBlank c && c != ':')
    (by simp [Plain])

theorem Plain.toList_ne_nil (h : Plain front) : front.toList ≠ [] := by
  simpa using h.1

theorem Plain.append (hfront : Plain front) (hlast : Plain last) (sep : Char)
    (hsep : Blank.isBlank sep = false) :
    ∀ c ∈ front.toList ++ sep :: last.toList, Blank.isBlank c = false := by
  intro c hc
  rw [List.mem_append, List.mem_cons] at hc
  rcases hc with hc | rfl | hc
  · exact (hfront.2 c hc).1
  · exact hsep
  · exact (hlast.2 c hc).1

theorem toList_joined (front last : String) (sep : String) {c : Char} (hsep : sep.toList = [c]) :
    (front ++ sep ++ last).toList = front.toList ++ c :: last.toList := by
  simp [hsep]

theorem plain_joined (hfront : Plain front) (hlast : Plain last) : Plain (front ++ "." ++ last) := by
  have htext := toList_joined front last "." (c := '.') rfl
  refine ⟨fun hempty ↦ ?_, fun c hc ↦ ?_⟩
  · rw [hempty] at htext
    simp at htext
  · rw [htext] at hc
    refine ⟨hfront.append hlast '.' (by decide) c hc, ?_⟩
    rw [List.mem_append, List.mem_cons] at hc
    rcases hc with hc | rfl | hc
    · exact (hfront.2 c hc).2
    · decide
    · exact (hlast.2 c hc).2

/-- Without a colon the module is all before the last dot. -/
theorem splitIdentifier_dotted (hfront : Plain front) (hlast : Plain last)
    (hdot : '.' ∉ last.toList) :
    splitIdentifier (front ++ "." ++ last) = some (front, [last]) := by
  have htext := toList_joined front last "." (c := '.') rfl
  have hcolon : ':' ∉ front.toList ++ '.' :: last.toList := fun hc ↦
    ((plain_joined hfront hlast).2 ':' (htext ▸ hc)).2 rfl
  unfold splitIdentifier
  dsimp only
  rw [htext, Blank.trimBy_of_forall (hfront.append hlast '.' (by decide)),
    Split.cutFirst_of_not_mem hcolon, Option.none_or, Split.cutLast_append hdot]
  obtain ⟨a, as, ha⟩ := List.exists_cons_of_ne_nil hfront.toList_ne_nil
  obtain ⟨b, bs, hb⟩ := List.exists_cons_of_ne_nil hlast.toList_ne_nil
  rw [ha, hb]
  dsimp only
  rw [← ha, ← hb, Split.splitBy_of_not_mem hdot]
  simp

/-- With a colon the module is all before it. -/
theorem splitIdentifier_colon (hmodule : Plain moduleName) (hqualified : Plain qualified) :
    splitIdentifier (moduleName ++ ":" ++ qualified) =
      some (moduleName, Split.splitOn '.' qualified) := by
  have htext := toList_joined moduleName qualified ":" (c := ':') rfl
  have hcolon : ':' ∉ moduleName.toList := fun hc ↦ (hmodule.2 ':' hc).2 rfl
  unfold splitIdentifier
  dsimp only
  rw [htext, Blank.trimBy_of_forall (hmodule.append hqualified ':' (by decide)),
    Split.cutFirst_append hcolon, Option.some_or]
  obtain ⟨a, as, ha⟩ := List.exists_cons_of_ne_nil hmodule.toList_ne_nil
  obtain ⟨b, bs, hb⟩ := List.exists_cons_of_ne_nil hqualified.toList_ne_nil
  rw [ha, hb]
  dsimp only
  rw [← ha, ← hb, Split.splitOn]
  simp

theorem follow_congr {t : Session} (h : s.known = t.known) : follow s = follow t := by
  suffices ∀ u : Session, follow u.known = follow u by rw [← this s, h, this t]
  intro u
  funext v names
  induction names generalizing v with
  | nil => rfl
  | cons name names ih =>
    unfold follow
    rw [show Attribute.get u.known = Attribute.get u from rfl]
    split
    · rfl
    · rfl
    · exact ih _

theorem get_eq_ok (s : Session) : (get : Run Session) s = (.ok s, s) := rfl

theorem importModule_of_loaded (fuel : Nat) (hloaded : s.loaded.get? moduleName = some index) :
    Import.importModule (fuel + 1) moduleName s = (.ok index, s) := by
  unfold Import.importModule
  rw [Run.bind_ok (get_eq_ok s)]
  dsimp only
  rw [hloaded]
  rfl

theorem answers_loadHandler (hsplit : splitIdentifier identifier = some (moduleName, names))
    (hname : moduleName.startsWith "." = false) (hloaded : s.loaded.get? moduleName = some index) :
    Run.Answers (loadHandler identifier) s (.ok ((follow s (.module index) names).bind class?)) := by
  refine fun log ↦ ⟨log, ?_⟩
  have himport : importFor moduleName { s with log } = (.ok index, { s with log }) := by
    unfold importFor Import.importNamed Import.depth
    rw [hname, if_neg Bool.false_ne_true]
    exact importModule_of_loaded _ hloaded
  have hattempt : Run.attempt (importFor moduleName) { s with log } =
      (.ok (.ok index), { s with log }) := by
    simp only [Run.attempt, himport]
  unfold loadHandler
  rw [hsplit]
  dsimp only
  rw [Run.bind_ok hattempt, ← follow_congr (Session.known_log s log)]
  rfl

theorem exists_last_dot (h : '.' ∈ qualified.toList) :
    ∃ front last, qualified = front ++ "." ++ last ∧ '.' ∉ last.toList := by
  have hreverse : '.' ∈ qualified.toList.reverse := List.mem_reverse.2 h
  obtain ⟨back, front, hsplit, hback⟩ := List.eq_append_cons_of_mem hreverse
  have htext : qualified.toList = front.reverse ++ '.' :: back.reverse := by
    rw [← List.reverse_reverse qualified.toList, hsplit]
    simp
  refine ⟨String.ofList front.reverse, String.ofList back.reverse, ?_, by simpa using hback⟩
  rw [← String.toList_inj, toList_joined _ _ "." (c := '.') rfl, htext]
  simp

theorem splitName_joined (hdot : '.' ∉ last.toList) :
    Import.splitName (front ++ "." ++ last) = (some front, last) := by
  unfold Import.splitName
  rw [toList_joined front last "." (c := '.') rfl, Split.cutLast_append hdot]
  simp

/-- A module that is loaded and holds no other ones. -/
structure Single (s : Session) (moduleName : String) (index : Nat) : Prop where
  loaded : s.loaded.get? moduleName = some index
  holdsNone : (s.moduleRecord? index).map (·.directories) = some []
  nothingBelow : ∀ rest, s.loaded.get? (moduleName ++ "." ++ rest) = none

theorem endsProgram_notFound (text : String) :
    Raised.endsProgram ⟨"ModuleNotFoundError", text⟩ = false := by
  unfold Raised.endsProgram
  dsimp only
  decide

theorem importModule_below (h : Single s moduleName index) (fuel : Nat) (rest : String) :
    ∃ r, Import.importModule fuel (moduleName ++ "." ++ rest) s = (.error r, s) ∧
      r.endsProgram = false := by
  -- What holds the module to be imported is imported with less fuel.
  induction fuel generalizing rest with
  | zero => exact ⟨_, rfl, by decide⟩
  | succ fuel ih =>
    unfold Import.importModule
    rw [Run.bind_ok (get_eq_ok s)]
    dsimp only
    rw [h.nothingBelow rest]
    by_cases hdot : '.' ∈ rest.toList
    · obtain ⟨front, last, rfl, hlast⟩ := exists_last_dot hdot
      obtain ⟨r, himport, hr⟩ := ih front
      have hname : moduleName ++ "." ++ (front ++ "." ++ last) =
          moduleName ++ "." ++ front ++ "." ++ last := by
        simp only [String.append_assoc]
      rw [hname, splitName_joined hlast]
      refine ⟨r, ?_, hr⟩
      exact Run.bind_error (Run.bind_error himport)
    · rw [splitName_joined hdot]
      cases fuel with
      | zero => exact ⟨_, rfl, by decide⟩
      | succ fuel =>
        have himport := importModule_of_loaded fuel h.loaded
        have hholder : (some moduleName).mapM (Import.importModule (fuel + 1)) s =
            (.ok (some index), s) := Run.bind_ok himport
        dsimp only
        rw [Run.bind_ok hholder, Run.bind_ok (get_eq_ok s)]
        dsimp only
        rw [h.nothingBelow rest]
        dsimp only
        rw [Run.bind_ok (get_eq_ok s), h.holdsNone]
        exact ⟨_, Run.bind_error rfl, endsProgram_notFound _⟩

theorem Single.logged (h : Single s moduleName index) (log : Array LogLine) :
    Single { s with log } moduleName index := ⟨h.loaded, h.holdsNone, h.nothingBelow⟩

/-- What is looked for in such a module's place is not found. -/
theorem answers_none_of_below (h : Single s moduleName index) {rest : String}
    (hsplit : splitIdentifier identifier = some (moduleName ++ "." ++ rest, names))
    (hname : (moduleName ++ "." ++ rest).startsWith "." = false) :
    Run.Answers (loadHandler identifier) s (.ok none) := by
  intro log
  obtain ⟨r, himport, hends⟩ := importModule_below (h.logged log) Import.depth rest
  have hattempt : Run.attempt (importFor (moduleName ++ "." ++ rest)) { s with log } =
      (.ok (.error r), { s with log }) := by
    have himport : importFor (moduleName ++ "." ++ rest) { s with log } =
        (.error r, { s with log }) := by
      unfold importFor
      rw [hname, if_neg Bool.false_ne_true]
      exact himport
    simp only [Run.attempt, himport]
  unfold loadHandler
  rw [hsplit]
  dsimp only
  rw [Run.bind_ok hattempt]
  dsimp only
  rw [hends, if_neg Bool.false_ne_true]
  split
  · exact ⟨_, rfl⟩
  · exact ⟨_, rfl⟩

theorem absolute_joined (hplain : Plain moduleName) (h : moduleName.startsWith "." = false)
    (rest : String) : (moduleName ++ "." ++ rest).startsWith "." = false := by
  obtain ⟨c, cs, hc⟩ := List.exists_cons_of_ne_nil hplain.toList_ne_nil
  rw [Bool.eq_false_iff, ne_eq, String.startsWith_string_iff] at h ⊢
  have htext := toList_joined moduleName rest "." (c := '.') rfl
  rw [htext, hc, List.cons_append]
  rw [hc] at h
  intro hprefix
  obtain ⟨hsame, _⟩ := List.cons_prefix_cons.1 hprefix
  exact h (List.cons_prefix_cons.2 ⟨hsame, List.nil_prefix⟩)

/-- A class whose module is loaded, and which its names lead to from there. -/
structure Reached (s : Session) (c : ClassRef) (index : Nat) : Prop where
  loaded : s.loaded.get? (Attribute.moduleName s c) = some index
  followed : follow s (.module index) (Split.splitOn '.' (Attribute.qualifiedName s c)) =
    some (.cls c)
  plainModule : Plain (Attribute.moduleName s c)
  absolute : (Attribute.moduleName s c).startsWith "." = false
  plainName : Plain (Attribute.qualifiedName s c)

variable {c : ClassRef}

/-- With a colon the identifier of a class means that class, however deep it is nested. -/
theorem Reached.answers_colon (h : Reached s c index) :
    Run.Answers (loadHandler (Attribute.moduleName s c ++ ":" ++ Attribute.qualifiedName s c)) s
      (.ok (some c)) := by
  have hanswers := answers_loadHandler (splitIdentifier_colon h.plainModule h.plainName) h.absolute
    h.loaded
  rwa [h.followed] at hanswers

/-- The full name of a class of a module itself means that class. -/
theorem Reached.answers_id (h : Reached s c index)
    (hdot : '.' ∉ (Attribute.qualifiedName s c).toList) :
    Run.Answers (loadHandler (Attribute.id s c)) s (.ok (some c)) := by
  have hanswers := answers_loadHandler (splitIdentifier_dotted h.plainModule h.plainName hdot)
    h.absolute h.loaded
  have hsplit : Split.splitOn '.' (Attribute.qualifiedName s c) = [Attribute.qualifiedName s c] := by
    simp [Split.splitOn, Split.splitBy_of_not_mem hdot]
  rw [← hsplit, h.followed] at hanswers
  exact hanswers

/-- The full name of a nested class is cut at its last dot, so that the class around it is taken for
a module. -/
theorem Reached.splitIdentifier_id (h : Reached s c index) (hlast : last ≠ "")
    (hname : Attribute.qualifiedName s c = front ++ "." ++ last) (hdot : '.' ∉ last.toList) :
    splitIdentifier (Attribute.id s c) = some (Attribute.moduleName s c ++ "." ++ front, [last]) := by
  have hid : Attribute.id s c = Attribute.moduleName s c ++ "." ++ front ++ "." ++ last := by
    unfold Attribute.id
    rw [hname]
    simp only [String.append_assoc]
  have hplain := plain_joined h.plainModule h.plainName
  rw [Attribute.id] at hid
  rw [hid] at hplain
  have htext := toList_joined (Attribute.moduleName s c ++ "." ++ front) last "." (c := '.') rfl
  rw [Attribute.id, hid]
  refine splitIdentifier_dotted ⟨?_, fun ch hch ↦ hplain.2 ch ?_⟩
    ⟨hlast, fun ch hch ↦ hplain.2 ch ?_⟩ hdot
  · intro hempty
    have hlength := congrArg String.length hempty
    simp at hlength
  · rw [htext]
    exact List.mem_append_left _ hch
  · rw [htext]
    exact List.mem_append_right _ (List.mem_cons_of_mem _ hch)

end RouteClient.Contract
