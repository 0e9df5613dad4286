import RouteClient.Proofs.Project.Skeleton
import RouteClient.Project.Hints

namespace RouteClient.Project.Hints

variable {s t : Session}

theorem moduleNames_congr (h : s.skeleton = t.skeleton) : moduleNames s = moduleNames t := by
  funext c
  simp [moduleNames, Session.moduleName_congr h, Session.loadedModule?_congr h]

theorem homeNames_congr (h : s.skeleton = t.skeleton) : homeNames s = homeNames t := by
  funext f
  simp [homeNames, Session.moduleRecord?_congr h]

theorem extend_congr (h : s.skeleton = t.skeleton) : extend s = extend t := by
  funext scope inClass types annotations
  simp [extend, Session.hint_congr h]

theorem strip_congr (h : s.skeleton = t.skeleton) : strip s = strip t := by
  funext types
  simp [strip, Session.strip_congr h]

theorem together_congr (h : s.known = t.known) : together s = together t := by
  suffices ∀ u : Session, together u.known = together u by rw [← this s, h, this t]
  intro u
  have hsame : u.known.skeleton = u.skeleton := rfl
  funext target
  cases target with
  | cls c =>
    have hown : ownAnnotations u.known = ownAnnotations u := rfl
    simp [together, ofClass, Session.lineage_congr hsame, extend_congr hsame,
      moduleNames_congr hsame, Session.own?_congr hsame, strip_congr hsame, hown]
  | function index =>
    have hf : u.known.functionRecord? index = u.functionRecord? index := rfl
    simp [together, ofFunction, extend_congr hsame, homeNames_congr hsame, strip_congr hsame, hf]
  | known types => rfl

theorem alone_congr (h : s.skeleton = t.skeleton) : alone s = alone t := by
  funext locals a
  simp [alone, Session.hint_congr h, Session.strip_congr h]

theorem oneByOne_congr (h : s.skeleton = t.skeleton) (locals : String → Option Value)
    (annotations : List RawAnnotation) (k : Hints) :
    oneByOne s locals annotations k = oneByOne t locals annotations k := by
  induction annotations generalizing k with
  | nil => rfl
  | cons a rest ih => simp [oneByOne, alone_congr h, ih]

theorem ofAnnotated_congr (h : s.known = t.known) : ofAnnotated s = ofAnnotated t := by
  funext target locals
  have hraw : raw s target = raw t target := by
    change raw s.known target = raw t.known target
    rw [h]
  simp only [ofAnnotated, together_congr h, oneByOne_congr (Session.skeleton_of_known h), hraw]

variable (s) (index : Nat) (label : String)

theorem reverse_lineage_specialized : (Attribute.lineage s (.specialized index label)).reverse =
    (Attribute.lineage s (.declared index)).reverse ++ [.specialized index label] :=
  List.reverse_cons

theorem ofClass_specialized : ofClass s (.specialized index label) = ofClass s (.declared index) := by
  unfold ofClass
  rw [reverse_lineage_specialized, List.foldlM_append]
  exact bind_pure _

theorem together_specialized :
    together s (.cls (.specialized index label)) = together s (.cls (.declared index)) := by
  simp only [together, ofClass_specialized]

theorem raw_specialized :
    raw s (.cls (.specialized index label)) = raw s (.cls (.declared index)) := by
  simp only [raw, reverse_lineage_specialized, List.flatMap_append]
  exact List.append_nil _

theorem ofAnnotated_specialized (locals : String → Option Value) :
    ofAnnotated s (.cls (.specialized index label)) locals =
      ofAnnotated s (.cls (.declared index)) locals := by
  simp only [ofAnnotated, together_specialized, raw_specialized]

end RouteClient.Project.Hints
