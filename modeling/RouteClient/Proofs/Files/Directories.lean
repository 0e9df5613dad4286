import RouteClient.Proofs.Files.Tree
import Mathlib.Data.List.Induction

namespace RouteClient.Files.Tree

variable {σ : Type} {s t : Tree σ} {directory here place parts : List String} {p : Path}
  {name : String} {o whenDots : Obstacle}

theorem walk_single_eq_missing : s.walk here [name] = .error .missing ↔
    s.hasDirectory here ∧ name ≠ ".." ∧ isLongName name = false ∧
      s.entry? (here ++ [name]) = none := by
  rw [walk]
  cases hhere : s.hasDirectory here with
  | false => simp
  | true =>
    by_cases hdots : name = ".."
    · simp [hdots, walk]
    · cases hlong : isLongName name with
      | true => simp [hdots]
      | false => cases hentry : s.entry? (here ++ [name]) <;> simp [hdots, walk]

/-- The components before a certain one lead to the directory in which it is missing. -/
def BreaksOff (s : Tree σ) (here parts place : List String) : Prop :=
  ∃ front name rest above, parts = front ++ name :: rest ∧ s.walk here front = .ok above ∧
    s.walk above [name] = .error .missing ∧ place = above ++ [name]

theorem BreaksOff.append (h : s.BreaksOff here parts place) (back : List String) :
    s.BreaksOff here (parts ++ back) place := by
  obtain ⟨front, name, rest, above, rfl, hbreaks⟩ := h
  exact ⟨front, name, rest ++ back, above, by simp, hbreaks⟩

theorem BreaksOff.ne_nil (h : s.BreaksOff here parts place) : place ≠ [] := by
  obtain ⟨_, _, _, _, _, _, _, rfl⟩ := h
  simp

theorem BreaksOff.free (h : s.BreaksOff here parts place) : s.entry? place = none := by
  obtain ⟨_, _, _, _, _, _, hmissing, rfl⟩ := h
  exact (walk_single_eq_missing.1 hmissing).2.2.2

theorem target_of_locate (whenDots : Obstacle) (h : s.locate directory p = .ok place) :
    s.target directory p whenDots = .error whenDots ∨
      ∃ entry, s.target directory p whenDots = .ok (place, some entry) := by
  obtain ⟨hshort, hwalk⟩ := locate_eq_ok.1 h
  rw [target_eq, if_neg (by simp [hshort])]
  cases hlast : p.parts.getLast? with
  | none => exact .inl rfl
  | some name =>
    rw [← List.dropLast_append_getLast? name hlast] at hwalk
    obtain ⟨above, hfront, hback⟩ := exists_of_walk_append hwalk
    obtain ⟨next, ⟨habove, hstep⟩, hnext⟩ := walk_cons_eq_ok.1 hback
    cases hnext
    rw [hfront]
    rcases hstep with ⟨rfl, _⟩ | ⟨hdots, hlong, hthere, rfl⟩
    · exact .inl (by simp [habove])
    · obtain ⟨entry, hentry⟩ := Option.isSome_iff_exists.1 hthere
      exact .inr ⟨entry, by simp [habove, hdots, hlong, hentry]⟩

theorem makeDirectory_eq (s : Tree σ) (directory : List String) (p : Path) :
    s.makeDirectory directory p =
      match s.target directory p .alreadyExists with
      | .error obstacle => .error obstacle
      | .ok (_, some _) => .error .alreadyExists
      | .ok (place, none) => .ok (s.put place .directory) := by
  unfold makeDirectory
  rcases s.target directory p .alreadyExists with obstacle | ⟨place, _ | entry⟩ <;> rfl

theorem ensureDirectory_of_locate (h : s.locate directory p = .ok place) :
    s.ensureDirectory directory p =
      if s.hasDirectory place then .ok s else .error .alreadyExists := by
  have hmake : s.makeDirectory directory p = .error .alreadyExists := by
    rw [makeDirectory_eq]
    rcases target_of_locate .alreadyExists h with htarget | ⟨entry, htarget⟩ <;>
      rw [htarget]
  unfold ensureDirectory
  rw [hmake, isDirectory_of_locate h]
  cases s.hasDirectory place <;> rfl

/-- What has been made a directory is one. -/
theorem isDirectory_of_ensureDirectory (h : s.ensureDirectory directory p = .ok t) :
    t.isDirectory directory p = .ok true := by
  unfold ensureDirectory at h
  split at h
  next made hmade =>
    cases h
    obtain ⟨place, hmeans, -, rfl⟩ := means_of_makeDirectory hmade
    have hentry : Tree.entry? (s.put place .directory) place = some .directory := by
      rw [entry?_put hmeans.ne_nil, if_pos rfl]
    have hwalk := hmeans.walk (prepared_of_makeDirectory hmade).kept (by rw [hentry]; rfl)
    rw [isDirectory_of_locate (locate_eq_ok.2 ⟨hmeans.short, hwalk⟩), hasDirectory_iff.2 hentry]
  · cases h
  · split at h
    next htrue =>
      cases h
      exact htrue
    · cases h
    · cases h

/-- The directories of a path are made after those of its parent where something is missing. -/
theorem makeDirectories_eq (s : Tree σ) (directory : List String) (p : Path) :
    s.makeDirectories directory p =
      match s.ensureDirectory directory p with
      | .ok made => (made, none)
      | .error .missing =>
        if p.parts = [] then (s, some .missing)
        else
          match s.makeDirectories directory p.parent with
          | (made, some obstacle) => (made, some obstacle)
          | (made, none) =>
            match made.ensureDirectory directory p with
            | .ok all => (all, none)
            | .error obstacle => (made, some obstacle)
      | .error obstacle => (s, some obstacle) := by
  have hself : ∀ reversed, p.parts.reverse = reversed →
      (⟨p.anchor, reversed.reverse⟩ : Path) = p := by
    rintro _ rfl
    rw [List.reverse_reverse]
  unfold makeDirectories
  cases hreverse : p.parts.reverse with
  | nil =>
    have hempty : p.parts = [] := List.reverse_eq_nil_iff.1 hreverse
    have hlast : (⟨p.anchor, []⟩ : Path) = p := hself [] hreverse
    rcases hensure : s.ensureDirectory directory p with obstacle | made
    · cases obstacle <;> simp [ensureDirectories, hlast, hensure, hempty]
    · simp [ensureDirectories, hlast, hensure]
  | cons name above =>
    have hne : p.parts ≠ [] := by
      rw [← List.reverse_ne_nil_iff, hreverse]
      exact List.cons_ne_nil _ _
    have habove : p.parent.parts.reverse = above := by
      rw [Path.parent, ← List.tail_reverse, hreverse, List.tail_cons]
    rw [ensureDirectories, if_neg hne, hself _ hreverse, habove]
    rfl

theorem makeDirectories_of_locate (h : s.locate directory p = .ok place) :
    s.makeDirectories directory p =
      (s, if s.hasDirectory place then none else some .alreadyExists) := by
  rw [makeDirectories_eq, ensureDirectory_of_locate h]
  cases s.hasDirectory place <;> rfl

theorem makeDirectories_of_isDirectory (h : s.isDirectory directory p = .ok true) :
    s.makeDirectories directory p = (s, none) := by
  rcases hlocate : s.locate directory p with o | place
  · unfold isDirectory find at h
    rw [hlocate] at h
    cases o <;> cases h
  · rw [isDirectory_of_locate hlocate] at h
    rw [makeDirectories_of_locate hlocate, if_pos (Except.ok.inj h)]

/-- If all directories could be made, the path leads to a directory. -/
theorem isDirectory_of_makeDirectories (h : s.makeDirectories directory p = (t, none)) :
    t.isDirectory directory p = .ok true := by
  rw [makeDirectories_eq] at h
  split at h
  next made hmade =>
    cases h
    exact isDirectory_of_ensureDirectory hmade
  · split at h
    · cases h
    · split at h
      · cases h
      · split at h
        next all hall =>
          cases h
          exact isDirectory_of_ensureDirectory hall
        · cases h
  · cases h

theorem Kept.isDirectory (h : Kept s t) (hs : s.isDirectory directory p = .ok true) :
    t.isDirectory directory p = .ok true := by
  rcases hlocate : s.locate directory p with o | place
  · unfold Tree.isDirectory find at hs
    rw [hlocate] at hs
    cases o <;> cases hs
  · rw [isDirectory_of_locate hlocate] at hs
    obtain ⟨hshort, hwalk⟩ := locate_eq_ok.1 hlocate
    rw [isDirectory_of_locate (locate_eq_ok.2 ⟨hshort, h.walk hwalk⟩),
      h.directories place (Except.ok.inj hs)]

end RouteClient.Files.Tree
