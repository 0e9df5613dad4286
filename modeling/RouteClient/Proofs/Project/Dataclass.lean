import RouteClient.Project.Dataclass
import RouteClient.Proofs.OrderedMap
import RouteClient.Proofs.Outcomes
import RouteClient.Proofs.Project.Run

namespace RouteClient.Project.Dataclass

variable {s t : Session} {moduleName : String} {above : List ClassRef} {options : DataclassOptions}
  {decls : List FieldDecl} {body body' : ClassBody} {name : String} {hint : Value}
  {f g : DataField} {fields own : List DataField}

theorem mem_putField (h : g ∈ putField fields f) : g = f ∨ g ∈ fields := by
  unfold putField OrderedMap.values OrderedMap.put at h
  induction fields with
  | nil => simpa [OrderedMap.putEntries] using h
  | cons k fields ih =>
    simp only [List.map_cons, OrderedMap.putEntries] at h
    by_cases hname : f.name == k.name
    · simp only [hname, if_true, List.map_cons, List.map_map, List.mem_cons] at h
      rcases h with h | h
      · exact .inl h
      · exact .inr (List.mem_cons_of_mem _ (by simpa [Function.comp_def] using h))
    · simp only [hname, Bool.false_eq_true, if_false, List.map_cons, List.mem_cons] at h
      rcases h with rfl | h
      · exact .inr List.mem_cons_self
      · exact (ih h).imp_right (List.mem_cons_of_mem _)

theorem names_putField : (putField fields f).map (·.name) =
    (OrderedMap.put ⟨fields.map fun g ↦ (g.name, g)⟩ f.name f).keys := by
  unfold putField OrderedMap.values OrderedMap.keys OrderedMap.put
  induction fields with
  | nil => rfl
  | cons k fields ih =>
    simp only [List.map_cons, OrderedMap.putEntries]
    by_cases hname : f.name == k.name
    · simp [Function.comp_def, beq_iff_eq.1 hname]
    · simpa [hname] using ih

theorem nodup_putField (h : (fields.map (·.name)).Nodup) :
    ((putField fields f).map (·.name)).Nodup := by
  rw [names_putField]
  apply OrderedMap.nodup_keys_put
  simpa [OrderedMap.keys, Function.comp_def] using h

theorem nodup_foldl_putField (h : (fields.map (·.name)).Nodup) :
    ((own.foldl putField fields).map (·.name)).Nodup := by
  induction own generalizing fields with
  | nil => exact h
  | cons f own ih => exact ih (nodup_putField h)

theorem mem_foldl_putField (h : g ∈ own.foldl putField fields) : g ∈ own ∨ g ∈ fields := by
  induction own generalizing fields with
  | nil => exact .inr h
  | cons f own ih =>
    rcases ih h with h | h
    · exact .inl (List.mem_cons_of_mem _ h)
    · rcases mem_putField h with rfl | h
      · exact .inl List.mem_cons_self
      · exact .inr h

theorem fieldsAbove_eq : fieldsAbove s above =
    ((above.reverse.filterMap (inherited? s)).flatMap (·.1)).foldl putField [] := by
  rw [fieldsAbove, List.foldl_flatMap]

structure Gathers (s : Session) (annotations : OrderedMap String Value) (above : List ClassRef)
    (fields : List DataField) : Prop where
  names : (fields.map (·.name)).Nodup
  sources : ∀ g ∈ fields, (g.name, g.hint) ∈ annotations.entries ∨
    ∃ d ∈ above, ∃ inherited, inherited? s d = some inherited ∧ g ∈ inherited.1

theorem record?_congr (h : t.classes = s.classes) (c : ClassRef) :
    Attribute.record? t c = Attribute.record? s c := by
  cases c <;> simp only [Attribute.record?, Session.classRecord?, h]

theorem lineage_congr (h : t.classes = s.classes) (c : ClassRef) :
    Attribute.lineage t c = Attribute.lineage s c := by
  cases c <;> simp only [Attribute.lineage, Attribute.above, Session.classRecord?, h]

theorem Gathers.congr {annotations : OrderedMap String Value}
    (hgathers : Gathers s annotations above fields) (h : t.classes = s.classes) :
    Gathers t annotations above fields := by
  have hinherited : inherited? t = inherited? s := by
    funext c
    simp only [inherited?, lineage_congr h, record?_congr h]
  exact ⟨hgathers.names, hinherited ▸ hgathers.sources⟩

theorem fieldOf_eq_ok (h : fieldOf s moduleName above options decls body name hint = .ok f) :
    f.name = name ∧ f.hint = hint := by
  obtain ⟨pseudo, _, h⟩ := exists_of_bind_eq_ok h
  dsimp only at h
  split at h
  · obtain ⟨_, hraised, _⟩ := exists_of_bind_eq_ok h
    cases hraised
  · split at h
    · obtain ⟨_, hraised, _⟩ := exists_of_bind_eq_ok h
      cases hraised
    · cases h
      exact ⟨rfl, rfl⟩

theorem gathers_of_own
    (h : body.annotations.entries.mapM (fun e ↦
      fieldOf s moduleName above options decls body e.1 e.2) = .ok own) :
    Gathers s body.annotations above (own.foldl putField (fieldsAbove s above)) := by
  rw [fieldsAbove_eq, ← List.foldl_append]
  refine ⟨nodup_foldl_putField List.nodup_nil, fun g hg ↦ ?_⟩
  rcases mem_foldl_putField hg with hg | hg
  · rcases List.mem_append.1 hg with hg | hg
    · obtain ⟨inherited, hinherited, hg⟩ := List.mem_flatMap.1 hg
      obtain ⟨d, hd, hfound⟩ := List.mem_filterMap.1 hinherited
      exact .inr ⟨d, List.mem_reverse.1 hd, inherited, hfound, hg⟩
    · obtain ⟨e, hentry, hfield⟩ := exists_of_mapM_eq_ok h g hg
      obtain ⟨hname, hhint⟩ := fieldOf_eq_ok hfield
      rw [hname, hhint]
      exact .inl hentry
  · cases hg

theorem gathers_of_complete {decl : ClassDecl}
    (h : complete decl moduleName above body s = (.ok (body', fields), t)) :
    Gathers s body.annotations above fields ∧ t.classes = s.classes := by
  obtain ⟨own, u, hown, h⟩ := Run.bind_eq_ok h
  obtain ⟨hread, rfl⟩ := Run.reading_eq_ok hown
  have hgathers := gathers_of_own hread
  obtain ⟨s₀, u, hget, h⟩ := Run.bind_eq_ok h
  cases hget
  obtain ⟨_, u, hfrozen, h⟩ := Run.bind_eq_ok h
  obtain ⟨_, rfl⟩ := Run.reading_eq_ok hfrozen
  dsimp only at h
  split at h
  · obtain ⟨_, u, horder, h⟩ := Run.bind_eq_ok h
    obtain ⟨_, rfl⟩ := Run.reading_eq_ok horder
    split at h
    · cases h
      exact ⟨hgathers, rfl⟩
    · obtain ⟨index, u, hadd, h⟩ := Run.bind_eq_ok h
      cases hadd
      cases h
      exact ⟨hgathers, rfl⟩
  · cases h
    exact ⟨hgathers, rfl⟩

end RouteClient.Project.Dataclass
