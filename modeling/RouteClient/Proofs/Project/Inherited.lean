import RouteClient.Proofs.Project.Signed

namespace RouteClient.Project

namespace Attribute

/-- The second class is the first one, or is found by going up from it, from class to class. -/
def Ascends (s : Session) : ClassRef → ClassRef → Prop :=
  Relation.ReflTransGen fun c d ↦ d ∈ above s c

variable {s : Session} {c d e : ClassRef}

theorem ascends_of_mem_lineage (h : d ∈ lineage s c) : Ascends s c d := by
  rcases List.mem_cons.1 h with rfl | h
  · exact .refl
  · exact .single h

/-- A line that contains the lines of its classes is not left by going up. -/
theorem mem_lineage_of_ascends (hline : ∀ d ∈ lineage s c, above s d ⊆ lineage s c)
    (hd : d ∈ lineage s c) (h : Ascends s d e) : e ∈ lineage s c := by
  induction h with
  | refl => exact hd
  | tail _ hstep ih => exact hline _ ih hstep

/-- A class with a record, and the class of that record. -/
theorem exists_of_record? {r : ClassRecord} (h : record? s c = some r) :
    ∃ index, s.classRecord? index = some r ∧ Ascends s c (.declared index) := by
  cases c with
  | standard c => cases h
  | declared index => exact ⟨index, h, .refl⟩
  | specialized index label => exact ⟨index, h, .single List.mem_cons_self⟩

end Attribute

namespace Session

open Attribute Dataclass

variable {s t : Session} {c d : ClassRef} {index : Nat} {r r' : ClassRecord}
  {fields : List DataField}

theorem Extends.above_subset (h : Extends s t) (c : ClassRef) : above s c ⊆ above t c := by
  have hrecord : ∀ index, ((s.classRecord? index).map (·.above)).getD [] ⊆
      ((t.classRecord? index).map (·.above)).getD [] := by
    intro index
    cases hr : s.classRecord? index with
    | none => exact List.nil_subset _
    | some r =>
      obtain ⟨r', hr', hkept⟩ := h index r hr
      rw [hr', Option.map_some, Option.map_some, hkept.above]
      exact List.Subset.refl _
  cases c with
  | standard c => exact List.Subset.refl _
  | declared index => exact hrecord index
  | specialized index label => exact List.cons_subset_cons _ (hrecord index)

theorem Extends.ascends (h : Extends s t) (hascends : Ascends s c d) : Ascends t c d :=
  Relation.ReflTransGen.mono (fun c _ hd ↦ h.above_subset c hd) _ _ hascends

theorem Extends.ownAnnotations_subset (h : Extends s t) (c : ClassRef) :
    Hints.ownAnnotations s c ⊆ Hints.ownAnnotations t c := by
  cases c with
  | standard c => exact List.Subset.refl _
  | specialized index label => exact List.Subset.refl _
  | declared index =>
    simp only [Hints.ownAnnotations]
    cases hr : s.classRecord? index with
    | none => exact List.nil_subset _
    | some r =>
      obtain ⟨r', hr', hkept⟩ := h index r hr
      rw [hr', Option.map_some, Option.map_some, hkept.annotations]
      exact List.Subset.refl _

/-- Each name once, and each field with an annotation of a class that the dataclass comes from. -/
structure Collected (s : Session) (c : ClassRef) (fields : List DataField) : Prop where
  names : (fields.map (·.name)).Nodup
  sources : ∀ g ∈ fields, ∃ d, Ascends s c d ∧ (g.name, g.hint) ∈ Hints.ownAnnotations s d

theorem Collected.mono (hcollected : Collected s c fields) (h : Extends s t) :
    Collected t c fields := by
  refine ⟨hcollected.names, fun g hg ↦ ?_⟩
  obtain ⟨d, hascends, hannotated⟩ := hcollected.sources g hg
  exact ⟨d, h.ascends hascends, h.ownAnnotations_subset d hannotated⟩

def Collecting (s : Session) : Prop :=
  ∀ index r fields frozen, s.classRecord? index = some r → r.dataFields = some (fields, frozen) →
    Collected s (.declared index) fields

/-- A class that is added has the fields that it gathers from itself and from the dataclasses that
are there already. -/
theorem Collecting.collected_of_gathers (hs : s.Collecting) (h : Extends s t)
    (hr : t.classRecord? index = some r) (hgathers : Gathers s r.annotations r.above fields) :
    Collected t (.declared index) fields := by
  refine ⟨hgathers.names, fun g hg ↦ ?_⟩
  rcases hgathers.sources g hg with hown | ⟨d, hd, inherited, hinherited, hg⟩
  · refine ⟨.declared index, .refl, ?_⟩
    rw [Hints.ownAnnotations, hr]
    exact hown
  · obtain ⟨e, he, hfound⟩ := List.exists_of_findSome?_eq_some hinherited
    obtain ⟨r', hrecord, hfields⟩ := Option.bind_eq_some_iff.1 hfound
    obtain ⟨k, hk, hascends⟩ := exists_of_record? hrecord
    obtain ⟨source, hsource, hannotated⟩ := (hs k r' _ _ hk hfields).sources g hg
    have habove : d ∈ above t (.declared index) := by
      rw [above, hr]
      exact hd
    refine ⟨source, .head habove ?_, h.ownAnnotations_subset _ hannotated⟩
    exact h.ascends (((ascends_of_mem_lineage he).trans hascends).trans hsource)

theorem Change.collecting (h : Change s t) (hs : s.Collecting) : t.Collecting := by
  have hextends := h.toStep.extends
  intro index r fields frozen hr hfields
  have hkept : index < s.classes.size → Collected t (.declared index) fields := by
    intro hlt
    have hold : s.classRecord? index = some s.classes[index] := Array.getElem?_eq_getElem hlt
    obtain ⟨r', hr', hkept⟩ := hextends index _ hold
    obtain rfl := Option.some_inj.1 (hr.symm.trans hr')
    exact (hs index _ fields frozen hold (hkept.dataFields.symm.trans hfields)).mono hextends
  cases h with
  | step h hsize => exact hkept (hsize ▸ (Array.getElem?_eq_some_iff.1 hr).1)
  | addClass c h hgathers =>
    have hadded := hr
    rw [classRecord?_addClass] at hadded
    split at hadded
    · cases hadded
      exact hs.collected_of_gathers hextends hr (hgathers fields frozen hfields)
    · exact hkept (Array.getElem?_eq_some_iff.1 hadded).1

/-- What a project has made of a session without classes. -/
theorem collecting_of_changes (h : Relation.ReflTransGen Change s t) (hs : s.classes = #[]) :
    t.Collecting := by
  induction h with
  | refl =>
    intro index r fields frozen hr
    rw [classRecord?, hs] at hr
    cases hr
  | tail _ hchange ih => exact hchange.collecting ih

end Session

end RouteClient.Project
