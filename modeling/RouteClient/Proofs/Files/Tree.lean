import RouteClient.Files.Tree
import RouteClient.Proofs.OrderedMap
import Mathlib.Data.List.Basic

namespace RouteClient.Files.Tree

variable {σ : Type} {s t u : Tree σ} {entry entry' : Entry σ} {directory here place other : List String}
  {p q : Path} {parts : List String} {text : String}

theorem entry?_put (hplace : place ≠ []) :
    Tree.entry? (s.put place entry) other = if other = place then some entry else s.entry? other := by
  unfold entry? put
  cases other with
  | nil => simp [hplace.symm]
  | cons name rest => simp

theorem entry?_plant (s : Tree σ) (hplace : place ≠ []) (entry : Entry σ) :
    Tree.entry? (s.plant place entry) place = some entry := by
  unfold plant
  dsimp only
  rw [entry?_put hplace, if_pos rfl]

theorem entry?_of_put (h : Tree.entry? (s.put place entry) other = some entry') :
    entry' = entry ∨ s.entry? other = some entry' := by
  by_cases hplace : place = []
  · subst hplace
    unfold entry? put at h
    cases other with
    | nil => exact .inr h
    | cons name rest =>
      rw [OrderedMap.get?_put] at h
      exact .inr (by simpa [ entry?] using h)
  · rw [entry?_put hplace] at h
    split at h
    · exact .inl (Option.some_inj.1 h).symm
    · exact .inr h

/-- What is planted stands among what has been there and the directories above it. -/
theorem entry?_of_plant (h : Tree.entry? (s.plant place entry) other = some entry') :
    entry' = entry ∨ entry' = .directory ∨ s.entry? other = some entry' := by
  refine (entry?_of_put h).imp_right fun hprepared ↦ ?_
  clear h
  revert hprepared
  generalize (List.range place.length).map place.take = above
  induction above generalizing s with
  | nil => exact .inr
  | cons p above ih =>
    intro hprepared
    rw [List.foldl_cons] at hprepared
    obtain hdirectory | hbefore := ih hprepared
    · exact .inl hdirectory
    · split at hbefore
      · exact .inr hbefore
      · exact entry?_of_put hbefore

/-- Anything else stays as it was. -/
theorem entry?_plant_of_ne (hplace : place ≠ []) (hother : other ≠ place)
    (h : s.entry? other = some entry') : Tree.entry? (s.plant place entry) other = some entry' := by
  unfold plant
  dsimp only
  rw [entry?_put hplace, if_neg hother]
  generalize (List.range place.length).map place.take = above
  induction above generalizing s with
  | nil => exact h
  | cons p above ih =>
    rw [List.foldl_cons]
    refine ih ?_
    split
    · exact h
    · next hfree =>
      have hp : p ≠ [] := by
        rintro rfl
        exact hfree rfl
      rw [entry?_put hp, if_neg, h]
      rintro rfl
      exact hfree (by rw [h]; rfl)

theorem hasDirectory_iff : s.hasDirectory place ↔ s.entry? place = some .directory := by
  unfold hasDirectory
  split
  · next h => simp [h]
  · next h => simpa using h

def Leads (s : Tree σ) (here : List String) (name : String) (next : List String) : Prop :=
  s.hasDirectory here ∧ ((name = ".." ∧ next = here.dropLast) ∨
    (name ≠ ".." ∧ isLongName name = false ∧ (s.entry? (here ++ [name])).isSome ∧
      next = here ++ [name]))

theorem walk_cons_eq_ok {name : String} : s.walk here (name :: parts) = .ok place ↔
    ∃ next, s.Leads here name next ∧ s.walk next parts = .ok place := by
  unfold Leads
  rw [walk]
  cases hhere : s.hasDirectory here with
  | false => simp
  | true =>
    by_cases hdots : name = ".."
    · simp [hdots]
    · cases hlong : isLongName name with
      | true => simp [hdots]
      | false => cases hentry : s.entry? (here ++ [name]) <;> simp [hdots]

structure Kept (s t : Tree σ) : Prop where
  there : ∀ place, (s.entry? place).isSome → (t.entry? place).isSome
  directories : ∀ place, s.hasDirectory place → t.hasDirectory place

theorem Kept.refl (s : Tree σ) : Kept s s := ⟨fun _ h ↦ h, fun _ h ↦ h⟩

/-- Every entry of one tree is an entry of the other one, files with their contents. -/
def Extends (s t : Tree σ) : Prop := ∀ place entry, s.entry? place = some entry →
  t.entry? place = some entry

theorem Extends.refl (s : Tree σ) : Extends s s := fun _ _ h ↦ h

theorem Extends.trans (h : Extends s t) (h' : Extends t u) : Extends s u :=
  fun place entry hentry ↦ h' place entry (h place entry hentry)

theorem Extends.kept (h : Extends s t) : Kept s t := by
  constructor
  case there =>
    intro place hplace
    obtain ⟨entry, hentry⟩ := Option.isSome_iff_exists.1 hplace
    rw [h place entry hentry]
    rfl
  case directories =>
    intro place hplace
    rw [hasDirectory_iff] at hplace ⊢
    exact h place _ hplace

theorem kept_put (hplace : place ≠ []) (hfree : ¬s.hasDirectory place) (entry : Entry σ) :
    Kept s (s.put place entry) where
  there other hother := by
    rw [entry?_put hplace]
    split
    · rfl
    · exact hother
  directories other hother := by
    have hne : other ≠ place := by
      rintro rfl
      exact hfree hother
    rw [hasDirectory_iff] at hother ⊢
    rw [entry?_put hplace, if_neg hne, hother]

theorem Kept.leads (h : Kept s t) {name : String} (hleads : s.Leads here name other) :
    t.Leads here name other := by
  obtain ⟨hhere, hup | ⟨hdots, hlong, hthere, hnext⟩⟩ := hleads
  · exact ⟨h.directories here hhere, .inl hup⟩
  · exact ⟨h.directories here hhere, .inr ⟨hdots, hlong, h.there _ hthere, hnext⟩⟩

theorem Kept.walk (h : Kept s t) (hwalk : s.walk here parts = .ok place) :
    t.walk here parts = .ok place := by
  induction parts generalizing here with
  | nil => exact hwalk
  | cons name parts ih =>
    obtain ⟨next, hleads, hrest⟩ := walk_cons_eq_ok.1 hwalk
    exact walk_cons_eq_ok.2 ⟨next, h.leads hleads, ih hrest⟩

theorem walk_append_eq (s : Tree σ) (here front back : List String) :
    s.walk here (front ++ back) = (s.walk here front).bind (s.walk · back) := by
  induction front generalizing here with
  | nil => rfl
  | cons name front ih =>
    rw [List.cons_append, walk, walk]
    split
    · rfl
    · split
      · exact ih _
      · split
        · rfl
        · split
          · rfl
          · exact ih _

theorem walk_append {front back : List String} (hfront : s.walk here front = .ok other)
    (hback : s.walk other back = .ok place) : s.walk here (front ++ back) = .ok place := by
  rw [walk_append_eq, hfront]
  exact hback

theorem exists_of_walk_append {front back : List String}
    (h : s.walk here (front ++ back) = .ok place) :
    ∃ other, s.walk here front = .ok other ∧ s.walk other back = .ok place := by
  rw [walk_append_eq] at h
  cases hfront : s.walk here front with
  | error o =>
    rw [hfront] at h
    cases h
  | ok other =>
    rw [hfront] at h
    exact ⟨other, rfl, h⟩

/-- Without double dots a path leads down. -/
theorem walk_eq_append (hdots : ".." ∉ parts) (h : s.walk here parts = .ok place) :
    place = here ++ parts := by
  induction parts generalizing here with
  | nil =>
    cases h
    exact (List.append_nil _).symm
  | cons name parts ih =>
    rw [List.mem_cons, not_or] at hdots
    obtain ⟨next, ⟨_, ⟨hup, _⟩ | ⟨_, _, _, rfl⟩⟩, hrest⟩ := walk_cons_eq_ok.1 h
    · exact absurd hup.symm hdots.1
    · rw [ih hdots.2 hrest, List.append_assoc]
      rfl

structure Means (s : Tree σ) (directory : List String) (p : Path) (place : List String) : Prop where
  short : isLongPath p = false
  step : ∃ above name, p.parts = p.parts.dropLast ++ [name] ∧ place = above ++ [name] ∧
    s.walk (start p directory) p.parts.dropLast = .ok above ∧ s.hasDirectory above ∧
    name ≠ ".." ∧ isLongName name = false

theorem target_eq (whenDots : Obstacle) : s.target directory p whenDots =
    if isLongPath p then .error .nameTooLong
    else
      match p.parts.getLast? with
      | none => .error whenDots
      | some name =>
        match s.walk (start p directory) p.parts.dropLast with
        | .error obstacle => .error obstacle
        | .ok above =>
          if !s.hasDirectory above then .error .notDirectory
          else if name == ".." then .error whenDots
          else if isLongName name then .error .nameTooLong
          else .ok (above ++ [name], s.entry? (above ++ [name])) := by
  unfold target
  cases isLongPath p with
  | true => cases p.parts.getLast? <;> rfl
  | false =>
    cases p.parts.getLast? with
    | none => rfl
    | some name =>
      cases s.walk (start p directory) p.parts.dropLast with
      | error obstacle => rfl
      | ok above =>
        dsimp only [bind, Except.bind]
        cases s.hasDirectory above <;> cases name == ".." <;> cases isLongName name <;> rfl

theorem means_of_target {whenDots : Obstacle} {found : Option (Entry σ)}
    (h : s.target directory p whenDots = .ok (place, found)) :
    s.Means directory p place ∧ found = s.entry? place := by
  rw [target_eq] at h
  split at h
  · cases h
  next hshort =>
  split at h
  · cases h
  next name hlast =>
  split at h
  · cases h
  next above hwalk =>
  split at h
  · cases h
  next habove =>
  split at h
  · cases h
  next hdots =>
  split at h
  · cases h
  next hlong =>
  cases h
  have hparts : p.parts = p.parts.dropLast ++ [name] :=
    (List.dropLast_append_getLast? name hlast).symm
  exact ⟨⟨by simpa using hshort, above, name, hparts, rfl, hwalk, by simpa using habove,
    by simpa using hdots, by simpa using hlong⟩, rfl⟩

theorem Means.ne_nil (h : s.Means directory p place) : place ≠ [] := by
  obtain ⟨_, _, _, _, rfl, _⟩ := h
  simp

theorem Means.kept (h : s.Means directory p place) (hkept : Kept s t) :
    t.Means directory p place := by
  obtain ⟨hshort, above, name, hparts, hplace, hwalk, habove, hname⟩ := h
  exact ⟨hshort, above, name, hparts, hplace, hkept.walk hwalk, hkept.directories above habove, hname⟩

theorem Means.target (h : s.Means directory p place) (whenDots : Obstacle) :
    s.target directory p whenDots = .ok (place, s.entry? place) := by
  obtain ⟨hshort, above, name, hparts, rfl, hwalk, habove, hdots, hlong⟩ := h
  have hlast : p.parts.getLast? = some name := by
    rw [hparts]
    exact List.getLast?_concat
  rw [target_eq]
  simp [hshort, hlast, hwalk, habove, hdots, hlong]

/-- Once there is something, the path leads to it. -/
theorem Means.walk (h : s.Means directory p place) (hkept : Kept s t)
    (hthere : (t.entry? place).isSome) : t.walk (start p directory) p.parts = .ok place := by
  obtain ⟨_, above, name, hparts, rfl, hwalk, habove, hdots, hlong⟩ := h
  have hleads : t.Leads above name (above ++ [name]) :=
    ⟨hkept.directories above habove, .inr ⟨hdots, hlong, hthere, rfl⟩⟩
  rw [hparts]
  exact walk_append (hkept.walk hwalk) (walk_cons_eq_ok.2 ⟨_, hleads, rfl⟩)

theorem means_of_makeDirectory (h : s.makeDirectory directory p = .ok t) :
    ∃ place, s.Means directory p place ∧ s.entry? place = none ∧ t = s.put place .directory := by
  unfold makeDirectory at h
  cases htarget : s.target directory p .alreadyExists with
  | error obstacle =>
    rw [htarget] at h
    cases h
  | ok found =>
    obtain ⟨place, entry⟩ := found
    obtain ⟨hmeans, rfl⟩ := means_of_target htarget
    rw [htarget] at h
    cases hentry : s.entry? place with
    | some e =>
      simp only [bind, Except.bind, hentry] at h
      cases h
    | none =>
      simp only [bind, Except.bind, hentry] at h
      cases h
      exact ⟨place, hmeans, hentry, rfl⟩

theorem means_of_write (h : s.write directory p text = .ok t) :
    ∃ place, s.Means directory p place ∧ ¬s.hasDirectory place ∧
      t = s.put place (.file (.text text)) := by
  unfold write at h
  cases htarget : s.target directory p .isDirectory with
  | error obstacle =>
    rw [htarget] at h
    cases h
  | ok found =>
    obtain ⟨place, entry⟩ := found
    obtain ⟨hmeans, rfl⟩ := means_of_target htarget
    rw [htarget] at h
    simp only [bind, Except.bind] at h
    split at h
    · cases h
    · next hentry =>
      cases h
      exact ⟨place, hmeans, fun hd ↦ hentry (hasDirectory_iff.1 hd), rfl⟩

theorem locate_eq_ok : s.locate directory p = .ok place ↔
    isLongPath p = false ∧ s.walk (start p directory) p.parts = .ok place := by
  unfold locate
  cases isLongPath p <;> simp

theorem find_of_locate (h : s.locate directory p = .ok place) :
    s.find directory p = .ok (s.entry? place) := by
  unfold find
  rw [h]

theorem isDirectory_of_locate (h : s.locate directory p = .ok place) :
    s.isDirectory directory p = .ok (s.hasDirectory place) := by
  unfold isDirectory find hasDirectory
  rw [h]
  rfl

theorem holds_of_locate (h : s.locate directory p = .ok place) :
    s.holds directory p = .ok (s.entry? place).isSome := by
  unfold holds find
  rw [h]
  rfl

theorem not_isLongPath_of_isDirectory {answer : Bool}
    (h : s.isDirectory directory p = .ok answer) : isLongPath p = false := by
  cases hlong : isLongPath p with
  | false => rfl
  | true =>
    unfold isDirectory find locate at h
    rw [hlong] at h
    cases h

theorem isLongPath_iff :
    isLongPath p ↔ 4096 ≤ (p.anchor ++ "/".intercalate p.parts).utf8ByteSize := by
  unfold isLongPath Path.toString
  rw [decide_eq_true_iff]
  split
  · next h =>
    rw [h]
    decide
  · rfl

/-- The path of an entry is no shorter than that of its directory. -/
theorem not_isLongPath_of_child {name : String} (h : isLongPath (p.child name) = false) :
    isLongPath p = false := by
  rw [← Bool.not_eq_true, isLongPath_iff, Nat.not_le] at h ⊢
  refine Nat.lt_of_le_of_lt ?_ h
  rw [Path.child, String.utf8ByteSize_append, String.utf8ByteSize_append]
  apply Nat.add_le_add_left
  by_cases hparts : p.parts = []
  · simp [hparts]
  · rw [String.intercalate_append_of_ne_nil hparts (by simp), String.utf8ByteSize_append,
      String.utf8ByteSize_append]
    omega

/-- What is found missing at a path is missing where the path means something. -/
theorem Means.absent (h : s.Means directory p place) (hholds : s.holds directory p = .ok false) :
    s.entry? place = none := by
  rw [← Option.not_isSome_iff_eq_none]
  intro hthere
  rw [holds_of_locate (locate_eq_ok.2 ⟨h.short, h.walk (.refl s) hthere⟩), hthere] at hholds
  cases hholds

/-- What a path with a further component leads to is in the directory that the path leads to. -/
theorem above_of_locate_child {name : String} (hname : name ≠ "..")
    (h : s.locate directory (p.child name) = .ok place) :
    ∃ above, s.walk (start p directory) p.parts = .ok above ∧ s.hasDirectory above ∧
      place = above ++ [name] := by
  obtain ⟨above, hfront, hback⟩ := exists_of_walk_append (locate_eq_ok.1 h).2
  obtain ⟨next, ⟨habove, hstep⟩, hnext⟩ := walk_cons_eq_ok.1 hback
  cases hnext
  rcases hstep with ⟨hdots, _⟩ | ⟨_, _, _, rfl⟩
  · exact absurd hdots hname
  · exact ⟨above, hfront, habove, rfl⟩

/-- A place that a path leads through. -/
def OnTheWay (s : Tree σ) (directory : List String) (p : Path) (place : List String) : Prop :=
  ∃ front, front ≠ [] ∧ front <+: p.parts ∧ s.walk (start p directory) front = .ok place

theorem OnTheWay.mono (h : s.OnTheWay directory p place) (hkept : Kept s t)
    (hanchor : p.anchor = q.anchor) (hparts : p.parts <+: q.parts) :
    t.OnTheWay directory q place := by
  obtain ⟨front, hfront, hp, hwalk⟩ := h
  have hstart : start q directory = start p directory := by
    unfold start Path.isAbsolute
    rw [hanchor]
  refine ⟨front, hfront, hp.trans hparts, ?_⟩
  rw [hstart]
  exact hkept.walk hwalk

/-- The second tree is the first one, with new directories at places that a path leads through. -/
def Prepared (directory : List String) (p : Path) (s t : Tree σ) : Prop :=
  ∀ place, t.entry? place = s.entry? place ∨
    (s.entry? place = none ∧ t.entry? place = some .directory ∧ t.OnTheWay directory p place)

theorem Prepared.refl (s : Tree σ) : Prepared directory p s s := fun _ ↦ .inl rfl

theorem Prepared.extends (h : Prepared directory p s t) : Extends s t := by
  intro place entry hentry
  rcases h place with hsame | ⟨hnone, _⟩
  · exact hsame.trans hentry
  · rw [hnone] at hentry
    cases hentry

theorem Prepared.source {source : σ} (h : Prepared directory p s t)
    (hentry : t.entry? place = some (.file (.source source))) :
    s.entry? place = some (.file (.source source)) := by
  rcases h place with hsame | ⟨_, hmade, _⟩
  · rwa [← hsame]
  · rw [hmade] at hentry
    cases hentry

theorem Prepared.kept (h : Prepared directory p s t) : Kept s t := h.extends.kept

theorem Prepared.trans (h : Prepared directory p s t) (h' : Prepared directory p t u) :
    Prepared directory p s u := by
  intro place
  rcases h' place with hsame' | ⟨hnone', hmade', hway'⟩
  · rcases h place with hsame | ⟨hnone, hmade, hway⟩
    · exact .inl (hsame'.trans hsame)
    · exact .inr ⟨hnone, hsame'.trans hmade, hway.mono h'.kept rfl (List.prefix_refl _)⟩
  · rcases h place with hsame | ⟨_, hmade, _⟩
    · exact .inr ⟨hsame.symm.trans hnone', hmade', hway'⟩
    · rw [hmade] at hnone'
      cases hnone'

theorem Prepared.mono (h : Prepared directory p s t) (hanchor : p.anchor = q.anchor)
    (hparts : p.parts <+: q.parts) : Prepared directory q s t := by
  intro place
  rcases h place with hsame | ⟨hnone, hmade, hway⟩
  · exact .inl hsame
  · exact .inr ⟨hnone, hmade, hway.mono (.refl t) hanchor hparts⟩

theorem prepared_of_makeDirectory (h : s.makeDirectory directory p = .ok t) :
    Prepared directory p s t := by
  obtain ⟨place, hmeans, hnone, rfl⟩ := means_of_makeDirectory h
  have hput : ∀ other, Tree.entry? (s.put place .directory) other =
      if other = place then some .directory else s.entry? other :=
    fun _ ↦ entry?_put hmeans.ne_nil
  have hkept : Kept s (s.put place .directory) :=
    kept_put hmeans.ne_nil (by simp [hasDirectory_iff, hnone]) _
  intro other
  by_cases hother : other = place
  · subst hother
    have hmade : Tree.entry? (s.put other .directory) other = some .directory := by
      rw [hput, if_pos rfl]
    have hparts : p.parts ≠ [] := by
      obtain ⟨_, _, _, hparts, _⟩ := hmeans
      rw [hparts]
      simp
    exact .inr ⟨hnone, hmade, p.parts, hparts, List.prefix_refl _,
      hmeans.walk hkept (by rw [hmade]; rfl)⟩
  · exact .inl (by rw [hput, if_neg hother])

theorem prepared_of_ensureDirectory (h : s.ensureDirectory directory p = .ok t) :
    Prepared directory p s t := by
  unfold ensureDirectory at h
  split at h
  · next made hmade =>
    cases h
    exact prepared_of_makeDirectory hmade
  · cases h
  · split at h
    · cases h
      exact .refl s
    · cases h
    · cases h

theorem prepared_ensureDirectories (anchor : String) (directory reversed : List String)
    (s : Tree σ) : Prepared directory ⟨anchor, reversed.reverse⟩ s
      (ensureDirectories anchor directory reversed s).1 := by
  -- From the last component up: the directories above are those of a shorter path.
  induction reversed with
  | nil =>
    unfold ensureDirectories
    dsimp only
    split
    · next made hmade => exact prepared_of_ensureDirectory hmade
    · exact .refl s
    · exact .refl s
  | cons name above ih =>
    have hshorter : Prepared directory ⟨anchor, (name :: above).reverse⟩ s
        (ensureDirectories anchor directory above s).1 := by
      refine ih.mono rfl ?_
      simp
    unfold ensureDirectories
    dsimp only
    split
    · next made hmade => exact prepared_of_ensureDirectory hmade
    · split
      · next made obstacle hmade =>
        rw [hmade] at hshorter
        exact hshorter
      · next made hmade =>
        rw [hmade] at hshorter
        split
        · next all hall => exact hshorter.trans (prepared_of_ensureDirectory hall)
        · exact hshorter
    · exact .refl s

theorem prepared_makeDirectories (s : Tree σ) (directory : List String) (p : Path) :
    Prepared directory p s (s.makeDirectories directory p).1 := by
  have h := prepared_ensureDirectories p.anchor directory p.parts.reverse s
  rwa [List.reverse_reverse] at h

/-- The second tree is the first one, with a text in the file that a path leads to, and new
directories at places that the path leads through before. -/
structure Written (directory : List String) (p : Path) (text : String) (file : List String)
    (s t : Tree σ) : Prop where
  located : t.locate directory p = .ok file
  content : t.entry? file = some (.file (.text text))
  noDirectory : ¬s.hasDirectory file
  others : ∀ place ≠ file, t.entry? place = s.entry? place ∨
    (s.entry? place = none ∧ t.entry? place = some .directory ∧
      t.OnTheWay directory p.parent place)

/-- What has been written can be written again, and the tree stays as it is. -/
theorem write_again (h : s.write directory p text = .ok t) : t.write directory p text = .ok t := by
  obtain ⟨file, hmeans, hfile, rfl⟩ := means_of_write h
  have hkept : Kept s (s.put file (.file (.text text))) := kept_put hmeans.ne_nil hfile _
  unfold write
  rw [(hmeans.kept hkept).target .isDirectory, entry?_put hmeans.ne_nil, if_pos rfl]
  change Except.ok (Tree.put _ file (.file (.text text))) = _
  unfold put
  rw [OrderedMap.put_put]

theorem written_of_write (hprepared : Prepared directory p.parent s t)
    (h : t.write directory p text = .ok u) :
    ∃ file, t.Means directory p file ∧ Written directory p text file s u := by
  obtain ⟨file, hmeans, hfile, rfl⟩ := means_of_write h
  have hput : ∀ place, Tree.entry? (t.put file (.file (.text text))) place =
      if place = file then some (.file (.text text)) else t.entry? place :=
    fun _ ↦ entry?_put hmeans.ne_nil
  have hcontent : Tree.entry? (t.put file (.file (.text text))) file = some (.file (.text text)) := by
    rw [hput, if_pos rfl]
  have hkept : Kept t (t.put file (.file (.text text))) := kept_put hmeans.ne_nil hfile _
  refine ⟨file, hmeans, ?_⟩
  constructor
  case located =>
    unfold locate
    rw [if_neg (by simp [hmeans.short])]
    exact hmeans.walk hkept (by rw [hcontent]; rfl)
  case content => exact hcontent
  case noDirectory => exact fun hd ↦ hfile (hprepared.kept.directories file hd)
  case others =>
    intro place hplace
    rw [hput, if_neg hplace]
    rcases hprepared place with hsame | ⟨hnone, hmade, hway⟩
    · exact .inl hsame
    · exact .inr ⟨hnone, hmade, hway.mono hkept rfl (List.prefix_refl _)⟩

theorem Written.kept {file : List String} (h : Written directory p text file s t) : Kept s t where
  there other hother := by
    by_cases hfile : other = file
    · rw [hfile, h.content]
      rfl
    · rcases h.others other hfile with hsame | ⟨_, hmade, _⟩
      · rwa [hsame]
      · rw [hmade]
        rfl
  directories other hother := by
    have hfile : other ≠ file := by
      rintro rfl
      exact h.noDirectory hother
    rw [hasDirectory_iff] at hother ⊢
    rcases h.others other hfile with hsame | ⟨_, hmade, _⟩
    · exact hsame.trans hother
    · exact hmade

/-- Any other file is found as before. -/
theorem Written.find {file : List String} {content : Content σ}
    (h : Written directory p text file s t) (hlocate : s.locate directory q = .ok place)
    (hcontent : s.entry? place = some (.file content)) (hplace : place ≠ file) :
    t.find directory q = .ok (some (.file content)) := by
  obtain ⟨hshort, hwalk⟩ := locate_eq_ok.1 hlocate
  rw [find_of_locate (locate_eq_ok.2 ⟨hshort, h.kept.walk hwalk⟩)]
  rcases h.others place hplace with hsame | ⟨hnone, _⟩
  · rw [← hcontent, ← hsame]
  · rw [hnone] at hcontent
    cases hcontent

/-- All sources were there before. -/
theorem Written.source {file : List String} {source : σ} (h : Written directory p text file s t)
    (hentry : t.entry? place = some (.file (.source source))) :
    s.entry? place = some (.file (.source source)) := by
  have hplace : place ≠ file := by
    rintro rfl
    rw [h.content] at hentry
    cases hentry
  rcases h.others place hplace with hsame | ⟨_, hmade, _⟩
  · rwa [← hsame]
  · rw [hmade] at hentry
    cases hentry

/-- Where there was nothing, nothing is written over. -/
theorem Written.extends {file : List String} (h : Written directory p text file s t)
    (hfile : s.entry? file = none) : Extends s t := by
  intro place entry hentry
  have hother : place ≠ file := by
    rintro rfl
    rw [hfile] at hentry
    cases hentry
  rcases h.others place hother with hsame | ⟨hnone, _⟩
  · exact hsame.trans hentry
  · rw [hnone] at hentry
    cases hentry

/-- Without double dots the way to a file goes through the directories above it. -/
theorem OnTheWay.above {file : List String} (h : s.OnTheWay directory p.parent place)
    (hdots : ".." ∉ p.parts) (hfile : s.locate directory p = .ok file) :
    place <+: file ∧ place ≠ file := by
  obtain ⟨front, hfront, hprefix, hwalk⟩ := h
  have hparts : front <+: p.parts := hprefix.trans (List.dropLast_prefix _)
  have hplace : place = start p directory ++ front :=
    walk_eq_append (fun hd ↦ hdots (hparts.subset hd)) hwalk
  have hlocated : s.walk (start p directory) p.parts = .ok file := by
    unfold locate at hfile
    split at hfile
    · cases hfile
    · exact hfile
  have hfile : file = start p directory ++ p.parts := walk_eq_append hdots hlocated
  rw [hplace, hfile]
  refine ⟨(List.prefix_append_right_inj _).2 hparts, fun hsame ↦ ?_⟩
  have hall : front = p.parts := List.append_cancel_left hsame
  have hlength := hprefix.length_le
  rw [hall, Path.parent, List.length_dropLast] at hlength
  exact hfront (List.eq_nil_of_length_eq_zero (by rw [hall]; omega))

end RouteClient.Files.Tree
