import RouteClient.Proofs.Scaffold.Name
import RouteClient.Proofs.Text.CaseMap

namespace RouteClient.Text

theorem Split.splitBy_eq_splitOnP (p : Char → Bool) (s : List Char) :
    splitBy p s = s.splitOnP p := by
  induction s with
  | nil => rfl
  | cons c s ih =>
    obtain ⟨piece, pieces, hpieces⟩ := List.exists_cons_of_ne_nil (List.splitOnP_ne_nil p s)
    rw [splitBy, List.splitOnP_cons_eq_if_modifyHead, ih, hpieces]
    rfl

theorem CaseMap.mem_capitalize {s : List Char} {c : Char} (h : c ∈ s) (hc : c ∈ upperChar c) :
    c ∈ capitalize s := by
  cases s with
  | nil => cases h
  | cons d s =>
    rw [capitalize, List.mem_append]
    rcases List.mem_cons.1 h with rfl | h
    · exact .inl hc
    · exact .inr h

end RouteClient.Text

namespace RouteClient.Scaffold

open RouteClient.Text

variable {s group : List Char} {c d : Char} {name className : String}

/-- Groups of small letters and digits joined by single hyphens, a small letter first. -/
structure Kebab (s : List Char) : Prop where
  groups : ∃ groups : List (List Char), groups ≠ [] ∧
    (∀ group ∈ groups, group ≠ [] ∧ ∀ c ∈ group, isSmallOrDigit c) ∧
    s = ['-'].intercalate groups
  first : ∃ c ∈ s.head?, isSmall c

def IsIdentifier (s : List Char) : Prop :=
  (∃ c ∈ s.head?, c.isAlpha ∨ c = '_') ∧ ∀ c ∈ s, c.isAlphanum ∨ c = '_'

/-- Small letters, digits and underscores before the ending of a module. -/
def IsModuleFile (s : List Char) : Prop :=
  ∃ stem, stem ≠ [] ∧ (∀ c ∈ stem, isSmallOrDigit c ∨ c = '_') ∧ s = stem ++ ".py".toList

theorem isKebab_iff : isKebab s ↔ Kebab s := by
  have hfirst : (s.head?.map isSmall).getD false = true ↔ ∃ c ∈ s.head?, isSmall c := by
    cases s <;> simp
  have hgroup : ∀ group : List Char, (!group.isEmpty && group.all isSmallOrDigit) = true ↔
      group ≠ [] ∧ ∀ c ∈ group, isSmallOrDigit c := by
    simp
  unfold isKebab
  rw [Bool.and_eq_true, hfirst, List.all_eq_true]
  simp only [hgroup]
  constructor
  · rintro ⟨hgroups, hletter⟩
    refine ⟨⟨_, Split.splitBy_ne_nil _ s, hgroups, ?_⟩, hletter⟩
    rw [Split.splitBy_eq_splitOnP]
    exact (List.intercalate_splitOn '-').symm
  · rintro ⟨⟨groups, hne, hgroups, rfl⟩, hletter⟩
    refine ⟨?_, hletter⟩
    have hhyphen : ∀ group ∈ groups, '-' ∉ group :=
      fun group hmem hc ↦ absurd ((hgroups group hmem).2 _ hc) (by decide)
    have hsplit : Split.splitBy (· == '-') (['-'].intercalate groups) = groups := by
      rw [Split.splitBy_eq_splitOnP]
      exact List.splitOn_intercalate '-' hhyphen hne
    rwa [hsplit]

theorem Kebab.not_lineBreak (h : Kebab s) : '\n' ∉ s := by
  intro hmem
  rcases small_or_hyphen_of_isKebab (isKebab_iff.2 h) hmem with hsmall | hhyphen
  · exact absurd hsmall (by decide)
  · exact absurd hhyphen (by decide)

theorem withoutLineBreak_append (s : List Char) : withoutLineBreak (s ++ ['\n']) = s := by
  unfold withoutLineBreak
  simp

theorem withoutLineBreak_of_not_mem (h : '\n' ∉ s) : withoutLineBreak s = s := by
  unfold withoutLineBreak
  split
  next rest hrest => exact absurd (List.mem_reverse.1 (hrest ▸ List.mem_cons_self)) h
  next => rfl

theorem kebab_withoutLineBreak_iff :
    Kebab (withoutLineBreak s) ↔ Kebab s ∨ ∃ kebab, Kebab kebab ∧ s = kebab ++ ['\n'] := by
  constructor
  · intro h
    rcases eq_or_eq_append_withoutLineBreak s with hsame | hbreak
    · exact .inl (hsame ▸ h)
    · exact .inr ⟨_, h, hbreak⟩
  · rintro (h | ⟨kebab, h, rfl⟩)
    · rwa [withoutLineBreak_of_not_mem h.not_lineBreak]
    · rwa [withoutLineBreak_append]

theorem className_eq_ok_iff : Scaffold.className name = .ok className ↔
    Kebab (withoutLineBreak name.toList) ∧
      className = String.ofList
        ((Split.splitBy (· == '-') name.toList).flatMap CaseMap.capitalize) ++ "Route" := by
  unfold Scaffold.className
  rw [← isKebab_iff]
  split
  next h => simp [h, eq_comm]
  next h => simp [h]

theorem toNat_lt_of_isSmallOrDigit (h : isSmallOrDigit c) : c.toNat < 0x80 := by
  unfold isSmallOrDigit isSmall at h
  simp only [Bool.or_eq_true, Bool.and_eq_true, decide_eq_true_eq] at h
  have hz : c ≤ 'z' := h.elim (·.2) fun hdigit ↦ Char.le_trans hdigit.2 (by decide)
  exact Nat.lt_of_le_of_lt hz (by decide)

theorem upperChar_smallOrDigit : ∀ c : Char, c.toNat < 0x80 → isSmallOrDigit c →
    c.isAlphanum ∧ (CaseMap.upperChar c).all Char.isAlphanum ∧
      (isSmall c → (CaseMap.upperChar c).head?.any Char.isAlpha) :=
  forall_ascii (by decide)

theorem isAlphanum_of_mem_capitalize (h : ∀ c ∈ group, isSmallOrDigit c)
    (hd : d ∈ CaseMap.capitalize group) : d.isAlphanum := by
  have hascii : ∀ c ∈ group, c.toNat < 0x80 := fun c hc ↦ toNat_lt_of_isSmallOrDigit (h c hc)
  cases group with
  | nil => cases hd
  | cons c group =>
    have hc : c ∈ c :: group := List.mem_cons_self
    rcases List.mem_append.1 hd with hfirst | hrest
    · exact List.all_eq_true.1 (upperChar_smallOrDigit c (hascii c hc) (h c hc)).2.1 d hfirst
    · have hmem := List.mem_cons_of_mem c hrest
      exact (upperChar_smallOrDigit d (hascii d hmem) (h d hmem)).1

theorem isSmallOrDigit_of_mem_splitBy (h : Kebab s) (hgroup : group ∈ Split.splitBy (· == '-') s) :
    ∀ c ∈ group, isSmallOrDigit c := by
  intro c hc
  obtain ⟨hmem, hhyphen⟩ := Split.of_mem_splitBy hgroup hc
  refine (small_or_hyphen_of_isKebab (isKebab_iff.2 h) hmem).resolve_right ?_
  simpa using hhyphen

theorem head_flatMap_capitalize (h : Kebab s) :
    ∃ d ∈ ((Split.splitBy (· == '-') s).flatMap CaseMap.capitalize).head?, d.isAlpha := by
  obtain ⟨c, hc, hsmall⟩ := h.first
  cases s with
  | nil => cases hc
  | cons e s =>
    obtain rfl : e = c := by simpa using hc
    have hdigit : isSmallOrDigit e := by simp [isSmallOrDigit, hsmall]
    have hhyphen : (e == '-') = false := by
      rw [beq_eq_false_iff_ne]
      rintro rfl
      exact absurd hsmall (by decide)
    have hupper :=
      (upperChar_smallOrDigit e (toNat_lt_of_isSmallOrDigit hdigit) hdigit).2.2 hsmall
    obtain ⟨d, hd, halpha⟩ := (Option.any_eq_true _ _).1 hupper
    obtain ⟨piece, pieces, hpieces⟩ :=
      List.exists_cons_of_ne_nil (Split.splitBy_ne_nil (· == '-') s)
    refine ⟨d, ?_, halpha⟩
    rw [Split.splitBy, hhyphen, hpieces]
    simp only [Bool.false_eq_true, if_false, List.flatMap_cons, CaseMap.capitalize,
      List.append_assoc, List.head?_append]
    rw [hd]
    rfl

theorem isIdentifier_className_iff (h : Scaffold.className name = .ok className) :
    IsIdentifier className.toList ↔ Kebab name.toList := by
  obtain ⟨hkebab, rfl⟩ := className_eq_ok_iff.1 h
  rw [String.toList_append, String.toList_ofList]
  constructor
  · rintro ⟨-, hall⟩
    refine (kebab_withoutLineBreak_iff.1 hkebab).resolve_right ?_
    rintro ⟨kebab, -, hbreak⟩
    have hmem : '\n' ∈ (Split.splitBy (· == '-') name.toList).flatten := by
      rw [Split.flatten_splitBy, hbreak]
      simp
    obtain ⟨group, hgroup, hmem⟩ := List.mem_flatten.1 hmem
    have hclass := List.mem_flatMap.2
      ⟨group, hgroup, CaseMap.mem_capitalize hmem (by decide)⟩
    exact absurd (hall _ (List.mem_append_left _ hclass)) (by decide)
  · intro hname
    have hroute : "Route".toList.all Char.isAlphanum := by decide
    obtain ⟨d, hd, halpha⟩ := head_flatMap_capitalize hname
    refine ⟨⟨d, by rw [List.head?_append, hd]; rfl, .inl halpha⟩, fun c hc ↦ .inl ?_⟩
    rcases List.mem_append.1 hc with hstem | hending
    · obtain ⟨group, hgroup, hmem⟩ := List.mem_flatMap.1 hstem
      exact isAlphanum_of_mem_capitalize (isSmallOrDigit_of_mem_splitBy hname hgroup) hmem
    · exact List.all_eq_true.1 hroute c hending

theorem isModuleFile_fileName_iff (h : Scaffold.className name = .ok className) :
    IsModuleFile (fileName name).toList ↔ Kebab name.toList := by
  rw [toList_fileName]
  constructor
  · rintro ⟨stem, -, hstem, hfile⟩
    obtain rfl := List.append_cancel_right hfile
    refine (kebab_withoutLineBreak_iff.1 (className_eq_ok_iff.1 h).1).resolve_right ?_
    rintro ⟨kebab, -, hbreak⟩
    have hmem : '\n' ∈ name.toList.map fun c ↦ if c == '-' then '_' else c :=
      List.mem_map.2 ⟨'\n', by simp [hbreak], rfl⟩
    exact absurd (hstem _ hmem) (by decide)
  · intro hname
    obtain ⟨c, hc, -⟩ := hname.first
    refine ⟨_, ?_, ?_, rfl⟩
    · intro hempty
      rw [List.map_eq_nil_iff.1 hempty] at hc
      cases hc
    · intro d hd
      obtain ⟨e, he, rfl⟩ := List.mem_map.1 hd
      rcases small_or_hyphen_of_isKebab (isKebab_iff.2 hname) he with hsmall | rfl
      · left
        rwa [if_neg]
        rintro heq
        rw [eq_of_beq heq] at hsmall
        exact absurd hsmall (by decide)
      · exact .inr rfl

/-- A name is accepted if and only if it is in kebab case, or in kebab case but for one line break
at its end. Its class is called so that `Route` comes last; it is called by an identifier, and the
file as a module is, if and only if there is no such line break. -/
theorem className_accepts_iff (name : String) :
    ((∃ className, Scaffold.className name = .ok className) ↔
      Kebab name.toList ∨ ∃ kebab, Kebab kebab ∧ name.toList = kebab ++ ['\n']) ∧
    ∀ className, Scaffold.className name = .ok className →
      "Route".toList <:+ className.toList ∧
      (IsIdentifier className.toList ↔ Kebab name.toList) ∧
      (IsModuleFile (fileName name).toList ↔ Kebab name.toList) := by
  refine ⟨?_, fun className h ↦ ⟨?_, isIdentifier_className_iff h, isModuleFile_fileName_iff h⟩⟩
  · rw [← kebab_withoutLineBreak_iff]
    exact ⟨fun ⟨_, h⟩ ↦ (className_eq_ok_iff.1 h).1, fun h ↦ ⟨_, className_eq_ok_iff.2 ⟨h, rfl⟩⟩⟩
  · rw [(className_eq_ok_iff.1 h).2, String.toList_append]
    exact List.suffix_append _ _

theorem className_accepts_iff_login :
    Scaffold.className "user-login" = .ok "UserLoginRoute" ∧
      IsIdentifier "UserLoginRoute".toList ∧ IsModuleFile (fileName "user-login").toList := by
  have hname : Scaffold.className "user-login" = .ok "UserLoginRoute" := by decide +kernel
  have hkebab : Kebab "user-login".toList := isKebab_iff.1 (by decide +kernel)
  obtain ⟨-, hidentifier, hfile⟩ := (className_accepts_iff "user-login").2 _ hname
  exact ⟨hname, hidentifier.2 hkebab, hfile.2 hkebab⟩

/-- The check of a name lets a line break at its end pass. -/
theorem lineBreak_accepted :
    ¬ Kebab "user-login\n".toList ∧
      Scaffold.className "user-login\n" = .ok "UserLogin\nRoute" ∧
      ¬ IsIdentifier "UserLogin\nRoute".toList ∧ fileName "user-login\n" = "user_login\n.py" := by
  have hkebab : ¬ Kebab "user-login\n".toList := fun h ↦ h.not_lineBreak (by decide +kernel)
  have hname : Scaffold.className "user-login\n" = .ok "UserLogin\nRoute" := by decide +kernel
  exact ⟨hkebab, hname, mt (isIdentifier_className_iff hname).1 hkebab, by decide +kernel⟩

end RouteClient.Scaffold
