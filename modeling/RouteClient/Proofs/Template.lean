import RouteClient.Proofs.Text.Replace
import RouteClient.Template
import Mathlib.Data.List.Basic

namespace RouteClient.Template

open RouteClient.Text

def braced (name : List Char) : List Char := (Piece.placeholder name).written

def interpolation (name : List Char) : List Char := '$' :: braced name

def names (path : List Char) : List (List Char) := (pieces path).filterMap Piece.name?

def fill (text : List Char → List Char) (ps : List Piece) : List Char :=
  ps.flatMap fun p ↦ p.name?.elim p.written text

def marked (name : List Char) : List Char → List Char
  | [] => []
  | c :: s => if braced name = c :: s then '$' :: c :: s else c :: marked name s

/-- A text marked for one name after the other. -/
def markedAll (ns : List (List Char)) (s : List Char) : List Char :=
  ns.foldl (fun s n ↦ marked n s) s

variable {name : List Char} {text : List Char → List Char}

theorem params_eq (path : String) : params path = (names path.toList).map String.ofList := by
  simp only [params, names, List.map_filterMap]

theorem mem_names {path : List Char} : name ∈ names path ↔ .placeholder name ∈ pieces path := by
  constructor
  · intro h
    obtain ⟨p, hp, hn⟩ := List.mem_filterMap.1 h
    cases p with
    | literal c => cases hn
    | placeholder n =>
      obtain rfl : n = name := Option.some.inj hn
      exact hp
  · intro h
    exact List.mem_filterMap.2 ⟨_, h, rfl⟩

theorem piecesFrom_none_open (rest : List Char) :
    piecesFrom none ('{' :: rest) = piecesFrom (some []) rest := by
  rw [piecesFrom, if_pos rfl]

theorem piecesFrom_none {c : Char} (hc : c ≠ '{') (rest : List Char) :
    piecesFrom none (c :: rest) = .literal c :: piecesFrom none rest := by
  rw [piecesFrom, if_neg hc]

theorem piecesFrom_some {c : Char} (hc : c ≠ '}') (held rest : List Char) :
    piecesFrom (some held) (c :: rest) = piecesFrom (some (c :: held)) rest := by
  cases held with
  | nil => simp [piecesFrom, hc]
  | cons d held => simp [piecesFrom, hc]

theorem piecesFrom_empty (rest : List Char) :
    piecesFrom (some []) ('}' :: rest) = .literal '{' :: .literal '}' :: piecesFrom none rest := by
  simp [piecesFrom]

theorem piecesFrom_close (d : Char) (held rest : List Char) :
    piecesFrom (some (d :: held)) ('}' :: rest) =
      .placeholder (d :: held).reverse :: piecesFrom none rest := by
  simp [piecesFrom]

theorem not_mem_cons_held {c : Char} (hc : c ≠ '}') {held : List Char} (h : '}' ∉ held) :
    ∀ k ∈ some (c :: held), '}' ∉ k := by
  rintro _ ⟨⟩ hmem
  rcases List.mem_cons.1 hmem with he | he
  · exact hc he.symm
  · exact h he

theorem name_of_mem_piecesFrom {held : Option (List Char)} {path : List Char}
    (hheld : ∀ h ∈ held, '}' ∉ h) (hmem : .placeholder name ∈ piecesFrom held path) :
    name ≠ [] ∧ '}' ∉ name := by
  -- The name read so far never has a closing brace, and an empty one makes no placeholder.
  induction path generalizing held with
  | nil =>
    cases held with
    | none => cases hmem
    | some h =>
      obtain ⟨c, _, hc⟩ := List.mem_map.1 hmem
      cases hc
  | cons c path ih =>
    cases held with
    | none =>
      by_cases hc : c = '{'
      · subst hc
        rw [piecesFrom_none_open] at hmem
        exact ih (by simp) hmem
      · rw [piecesFrom_none hc] at hmem
        rcases List.mem_cons.1 hmem with hl | hrest
        · cases hl
        · exact ih (by simp) hrest
    | some h =>
      have hclosed : '}' ∉ h := hheld h rfl
      by_cases hc : c = '}'
      · subst hc
        cases h with
        | nil =>
          rw [piecesFrom_empty] at hmem
          rcases List.mem_cons.1 hmem with hl | hmem
          · cases hl
          rcases List.mem_cons.1 hmem with hl | hrest
          · cases hl
          · exact ih (by simp) hrest
        | cons d h =>
          rw [piecesFrom_close] at hmem
          rcases List.mem_cons.1 hmem with hname | hrest
          · obtain rfl := Piece.placeholder.inj hname
            exact ⟨by simp, by rwa [List.mem_reverse]⟩
          · exact ih (by simp) hrest
      · rw [piecesFrom_some hc] at hmem
        exact ih (not_mem_cons_held hc hclosed) hmem

theorem name_of_mem_names {path : List Char} (h : name ∈ names path) : name ≠ [] ∧ '}' ∉ name :=
  name_of_mem_piecesFrom (by simp) (mem_names.1 h)

/-- A literal opening brace is closed at once, or nothing after it is closed. -/
theorem literal_brace_of_piecesFrom {held : Option (List Char)} {path : List Char}
    {front back : List Piece} (hheld : ∀ h ∈ held, '}' ∉ h)
    (h : piecesFrom held path = front ++ .literal '{' :: back) :
    (∃ more, back = .literal '}' :: more) ∨ ∃ s : List Char, '}' ∉ s ∧ back = s.map .literal := by
  induction path generalizing held front with
  | nil =>
    cases held with
    | none => cases front <;> cases h
    | some name =>
      obtain ⟨a, b, hname, -, hb⟩ := List.map_eq_append_iff.1 h
      obtain ⟨c, s, rfl, -, hback⟩ := List.map_eq_cons_iff.1 hb
      refine .inr ⟨s, fun hs ↦ ?_, hback.symm⟩
      have hmem : '}' ∈ '{' :: name.reverse := by
        rw [hname]
        simp [hs]
      exact hheld name rfl (by simpa using hmem)
  | cons c path ih =>
    cases held with
    | none =>
      by_cases hc : c = '{'
      · subst hc
        rw [piecesFrom_none_open] at h
        exact ih (by simp) h
      · rw [piecesFrom_none hc] at h
        cases front with
        | nil => exact absurd (Piece.literal.inj (List.cons.inj h).1) hc
        | cons p front => exact ih (by simp) (List.cons.inj h).2
    | some name =>
      by_cases hc : c = '}'
      · subst hc
        cases name with
        | nil =>
          rw [piecesFrom_empty] at h
          cases front with
          | nil => exact .inl ⟨_, (List.cons.inj h).2.symm⟩
          | cons p front =>
            cases front with
            | nil => cases (List.cons.inj (List.cons.inj h).2).1
            | cons q front => exact ih (by simp) (List.cons.inj (List.cons.inj h).2).2
        | cons d name =>
          rw [piecesFrom_close] at h
          cases front with
          | nil => cases (List.cons.inj h).1
          | cons p front => exact ih (by simp) (List.cons.inj h).2
      · rw [piecesFrom_some hc] at h
        exact ih (not_mem_cons_held hc (hheld name rfl)) h

def Closed (s : List Char) : Prop := ∃ body, '}' ∉ body ∧ s = body ++ ['}']

theorem closed_braced (h : '}' ∉ name) : Closed (braced name) :=
  ⟨'{' :: name, by simpa using h, rfl⟩

theorem Closed.of_cons {c d : Char} {s : List Char} (h : Closed (c :: d :: s)) :
    c ≠ '}' ∧ Closed (d :: s) := by
  obtain ⟨body, hbody, hs⟩ := h
  cases body with
  | nil => cases hs
  | cons b body =>
    obtain ⟨rfl, hrest⟩ := List.cons.inj hs
    rw [List.mem_cons, not_or] at hbody
    exact ⟨fun he ↦ hbody.1 he.symm, body, hbody.2, hrest⟩

/-- Of two such texts, one does not begin the other with something after it. -/
theorem Closed.eq_of_begins {s t rest : List Char} (hs : Closed s) (ht : Closed t)
    (h : s <+: t ++ rest) : s = t := by
  obtain ⟨a, ha, rfl⟩ := hs
  obtain ⟨b, hb, rfl⟩ := ht
  obtain ⟨more, h⟩ := h
  simp only [List.append_assoc, List.singleton_append] at h
  have hbody : ∀ (u v : List Char), '}' ∉ u → (u ++ '}' :: v).takeWhile (· ≠ '}') = u := by
    intro u v hu
    rw [List.takeWhile_append_of_pos]
    · simp
    · intro c hc
      simpa using fun he : c = '}' ↦ hu (he ▸ hc)
  have heq := congrArg (List.takeWhile (· ≠ '}')) h
  rw [hbody a more ha, hbody b rest hb] at heq
  rw [heq]

theorem marked_cons (c : Char) (s : List Char) :
    marked name (c :: s) = if braced name = c :: s then '$' :: c :: s else c :: marked name s := rfl

theorem marked_cases (name s : List Char) :
    (∃ front, s = front ++ braced name ∧ marked name s = front ++ interpolation name) ∨
      (¬braced name <:+ s ∧ marked name s = s) := by
  induction s with
  | nil =>
    refine .inr ⟨fun h ↦ ?_, rfl⟩
    cases List.suffix_nil.1 h
  | cons c s ih =>
    rw [marked_cons]
    split
    · next h => exact .inl ⟨[], h.symm, congrArg ('$' :: ·) h.symm⟩
    · next h =>
      rcases ih with ⟨front, hs, hm⟩ | ⟨hs, hm⟩
      · exact .inl ⟨c :: front, congrArg (c :: ·) hs, congrArg (c :: ·) hm⟩
      · refine .inr ⟨fun hsuffix ↦ ?_, congrArg (c :: ·) hm⟩
        rcases List.suffix_cons_iff.1 hsuffix with he | he
        · exact h he
        · exact hs he

theorem marked_of_not_suffix {s : List Char} (h : ¬braced name <:+ s) : marked name s = s := by
  rcases marked_cases name s with ⟨front, rfl, _⟩ | ⟨_, hm⟩
  · exact absurd ⟨front, rfl⟩ h
  · exact hm

theorem closed_marked {s : List Char} (h : Closed s) : Closed (marked name s) := by
  rcases marked_cases name s with ⟨front, rfl, hm⟩ | ⟨_, hm⟩
  · rw [hm]
    obtain ⟨body, hbody, hs⟩ := h
    have hname : front ++ '{' :: name = body := by
      have hsplit : (front ++ '{' :: name) ++ ['}'] = body ++ ['}'] := by
        simpa [braced, Piece.written] using hs
      exact List.append_cancel_right hsplit
    refine ⟨front ++ '$' :: '{' :: name, ?_, by simp [interpolation, braced, Piece.written]⟩
    subst hname
    simpa using hbody
  · rwa [hm]

section

variable (hname : name ≠ []) (hclosed : '}' ∉ name)

include hclosed in
theorem replaceAll_closed {s : List Char} (hs : Closed s) (rest : List Char) :
    Split.replaceAll (braced name) (interpolation name) (s ++ rest) =
      marked name s ++ Split.replaceAll (braced name) (interpolation name) rest := by
  induction s with
  | nil =>
    obtain ⟨body, _, h⟩ := hs
    cases List.append_ne_nil_of_right_ne_nil body (List.cons_ne_nil '}' []) h.symm
  | cons c s ih =>
    rw [marked_cons]
    split
    · next h =>
      have hne : braced name ≠ [] := List.cons_ne_nil _ _
      rw [← h, Split.replaceAll_occurrence hne]
      rfl
    · next h =>
      have hprefix : ¬braced name <+: c :: (s ++ rest) := fun hp ↦
        h ((closed_braced hclosed).eq_of_begins hs hp)
      rw [List.cons_append, Split.replaceAll_cons hprefix]
      cases s with
      | nil => rfl
      | cons d s => rw [ih hs.of_cons.2, List.cons_append]

theorem not_prefix_of_ne {c : Char} {rest : List Char} (hc : c ≠ '{') :
    ¬braced name <+: c :: rest := fun hp ↦ hc (List.cons_prefix_cons.1 hp).1.symm

include hname hclosed in
theorem not_prefix_braces (rest : List Char) : ¬braced name <+: '{' :: '}' :: rest := by
  intro hp
  obtain ⟨d, name, rfl⟩ := List.exists_cons_of_ne_nil hname
  have hd : d = '}' := (List.cons_prefix_cons.1 (List.cons_prefix_cons.1 hp).2).1
  exact hclosed (hd ▸ List.mem_cons_self)

theorem fill_literals (s : List Char) : fill text (s.map .literal) = s := by
  induction s with
  | nil => rfl
  | cons c s ih => exact congrArg (c :: ·) ih

include hname hclosed in
/-- Replacing one placeholder changes the texts that end in it, and nothing else. -/
theorem replaceAll_fill_piecesFrom (htext : ∀ n, '}' ∉ n → Closed (text n))
    {held : Option (List Char)} (path : List Char) (hheld : ∀ h ∈ held, '}' ∉ h) :
    Split.replaceAll (braced name) (interpolation name) (fill text (piecesFrom held path)) =
      fill (fun n ↦ marked name (text n)) (piecesFrom held path) := by
  induction path generalizing held with
  | nil =>
    cases held with
    | none => rfl
    | some h =>
      -- An opening brace that nothing closes: no occurrence starts there.
      have hbrace : '}' ∉ '{' :: h.reverse := by simpa using hheld h rfl
      have hmem : '}' ∈ braced name := by simp [braced, Piece.written]
      rw [piecesFrom, fill_literals, fill_literals, Split.replaceAll_of_not_mem hmem hbrace]
  | cons c path ih =>
    cases held with
    | none =>
      by_cases hc : c = '{'
      · subst hc
        rw [piecesFrom_none_open]
        exact ih (by simp)
      · rw [piecesFrom_none hc]
        change Split.replaceAll _ _ (c :: fill text (piecesFrom none path)) = c :: fill _ _
        rw [Split.replaceAll_cons (not_prefix_of_ne hc), ih (by simp)]
    | some h =>
      have hbrace : '}' ∉ h := hheld h rfl
      by_cases hc : c = '}'
      · subst hc
        cases h with
        | nil =>
          -- One that is closed at once, where an occurrence has its name.
          rw [piecesFrom_empty]
          change Split.replaceAll _ _ ('{' :: '}' :: fill text (piecesFrom none path)) =
            '{' :: '}' :: fill _ _
          rw [Split.replaceAll_cons (not_prefix_braces hname hclosed _),
            Split.replaceAll_cons (not_prefix_of_ne (by decide)), ih (by simp)]
        | cons d h =>
          have hread : Closed (text (d :: h).reverse) := htext _ (by rwa [List.mem_reverse])
          rw [piecesFrom_close]
          change Split.replaceAll _ _ (text (d :: h).reverse ++ fill text (piecesFrom none path)) =
            marked name (text (d :: h).reverse) ++ fill _ _
          rw [replaceAll_closed hclosed hread, ih (by simp)]
      · rw [piecesFrom_some hc]
        exact ih (not_mem_cons_held hc hbrace)

end

/-- All placeholders replaced one after the other: the text in place of one of them is changed by
each that ends it at the time. -/
theorem foldl_replaceAll_fill (path : List Char) {ns : List (List Char)}
    (hns : ∀ n ∈ ns, n ≠ [] ∧ '}' ∉ n) (htext : ∀ n, '}' ∉ n → Closed (text n)) :
    ns.foldl (fun url n ↦ Split.replaceAll (braced n) (interpolation n) url)
        (fill text (pieces path)) =
      fill (fun m ↦ markedAll ns (text m)) (pieces path) := by
  -- Each name changes the texts for those after it, which stay closed.
  induction ns generalizing text with
  | nil => rfl
  | cons n ns ih =>
    obtain ⟨hne, hbrace⟩ := hns n List.mem_cons_self
    rw [List.foldl_cons, pieces, replaceAll_fill_piecesFrom hne hbrace htext path (by simp)]
    exact ih (fun m hm ↦ hns m (List.mem_cons_of_mem n hm)) fun m hm ↦ closed_marked (htext m hm)

theorem markedAll_of_not_suffix {ns : List (List Char)} {s : List Char}
    (h : ∀ n ∈ ns, ¬braced n <:+ s) : markedAll ns s = s := by
  induction ns with
  | nil => rfl
  | cons n ns ih =>
    rw [List.forall_mem_cons] at h
    change markedAll ns (marked n s) = s
    rw [marked_of_not_suffix h.1]
    exact ih h.2

/-- Marks make a text longer, or leave it as it is. -/
theorem length_markedAll (ns : List (List Char)) (s : List Char) :
    s.length ≤ (markedAll ns s).length ∧ ((markedAll ns s).length = s.length →
      markedAll ns s = s ∧ ∀ n ∈ ns, ¬braced n <:+ s) := by
  induction ns generalizing s with
  | nil => exact ⟨Nat.le_refl _, fun _ ↦ ⟨rfl, by simp⟩⟩
  | cons n ns ih =>
    obtain ⟨hle, heq⟩ := ih (marked n s)
    change s.length ≤ (markedAll ns (marked n s)).length ∧
      ((markedAll ns (marked n s)).length = s.length →
        markedAll ns (marked n s) = s ∧ ∀ m ∈ n :: ns, ¬braced m <:+ s)
    rcases marked_cases n s with ⟨front, hs, hm⟩ | ⟨hs, hm⟩
    · have hlong : (marked n s).length = s.length + 1 := by
        rw [hm, hs]
        simp [interpolation]
        omega
      refine ⟨by omega, fun h ↦ ?_⟩
      omega
    · rw [hm] at hle heq ⊢
      refine ⟨hle, fun h ↦ ?_⟩
      obtain ⟨hsame, hnone⟩ := heq h
      exact ⟨hsame, List.forall_mem_cons.2 ⟨hs, hnone⟩⟩

theorem suffix_interpolation {n : List Char} :
    braced n <:+ interpolation name ↔ braced n <:+ braced name := by
  constructor
  · intro h
    rcases List.suffix_cons_iff.1 h with he | he
    · cases (List.cons.inj he).1
    · exact he
  · intro h
    exact h.trans (List.suffix_cons _ _)

theorem exists_first_suffix {ns : List (List Char)} (hmem : name ∈ ns) :
    ∃ front n back before, ns = front ++ n :: back ∧ before ++ braced n = braced name ∧
      ∀ m ∈ front, ¬braced m <:+ braced name := by
  have hsome : (ns.find? fun n ↦ braced n <:+ braced name).isSome := by
    rw [List.find?_isSome]
    exact ⟨name, hmem, by simp⟩
  obtain ⟨n, hfind⟩ := Option.isSome_iff_exists.1 hsome
  obtain ⟨hn, front, back, hns, hfront⟩ := List.find?_eq_some_iff_append.1 hfind
  obtain ⟨before, hbefore⟩ : braced n <:+ braced name := by simpa using hn
  exact ⟨front, n, back, before, hns, hbefore, fun m hm ↦ by simpa using hfront m hm⟩

/-- The first mark in a placeholder moves what stands before it in front of the dollar sign. -/
theorem markedAll_append {front back : List (List Char)} {n before : List Char}
    (hfront : ∀ m ∈ front, ¬braced m <:+ braced name) (hbefore : before ++ braced n = braced name) :
    markedAll (front ++ n :: back) (braced name) =
      markedAll back (before ++ interpolation n) := by
  have hmarked : marked n (braced name) = before ++ interpolation n := by
    rcases marked_cases n (braced name) with ⟨other, ho, hm⟩ | ⟨hnone, _⟩
    · rw [hm, List.append_cancel_right (hbefore.trans ho)]
    · exact absurd ⟨before, hbefore⟩ hnone
  have hstart : markedAll front (braced name) = braced name := markedAll_of_not_suffix hfront
  rw [markedAll, List.foldl_append]
  change markedAll back (marked n (markedAll front (braced name))) = _
  rw [hstart, hmarked]

/-- A mark that gives the interpolation is that of the placeholder itself. -/
theorem eq_of_append_interpolation {n before : List Char}
    (hbefore : before ++ braced n = braced name)
    (h : before ++ interpolation n = interpolation name) : before = [] ∧ n = name := by
  have hempty : before = [] := by
    cases before with
    | nil => rfl
    | cons c before =>
      have hdollar : c = '$' := (List.cons.inj h).1
      have hbrace : c = '{' := (List.cons.inj hbefore).1
      rw [hdollar] at hbrace
      cases hbrace
  subst hempty
  have hname : n ++ ['}'] = name ++ ['}'] := (List.cons.inj hbefore).2
  exact ⟨rfl, List.append_cancel_right hname⟩

/-- A placeholder becomes one interpolation exactly if, of all placeholders that are replaced, it
alone ends it, and is replaced once. -/
theorem markedAll_eq_iff {ns : List (List Char)} (hmem : name ∈ ns) :
    markedAll ns (braced name) = interpolation name ↔
      ns.filter (fun n ↦ braced n <:+ braced name) = [name] := by
  obtain ⟨front, n, back, before, rfl, hbefore, hfront⟩ := exists_first_suffix hmem
  have hfilter : front.filter (fun n ↦ braced n <:+ braced name) = [] := by
    rw [List.filter_eq_nil_iff]
    simpa using hfront
  rw [markedAll_append hfront hbefore, List.filter_append, hfilter, List.nil_append,
    List.filter_cons_of_pos (by simpa using ⟨before, hbefore⟩)]
  constructor
  · intro h
    -- After the first mark the text is as long as the interpolation: there is no room for another.
    have hlength : (before ++ interpolation n).length = (interpolation name).length := by
      rw [interpolation, interpolation, ← hbefore]
      simp
      omega
    obtain ⟨hsame, hnone⟩ := (length_markedAll back (before ++ interpolation n)).2
      ((congrArg List.length h).trans hlength.symm)
    obtain ⟨rfl, rfl⟩ := eq_of_append_interpolation hbefore (hsame.symm.trans h)
    have hback : back.filter (fun m ↦ braced m <:+ braced n) = [] := by
      rw [List.filter_eq_nil_iff]
      intro m hm
      simpa using fun hs ↦ hnone m hm (suffix_interpolation.2 hs)
    rw [hback]
  · intro h
    obtain ⟨rfl, hback⟩ := List.cons.inj h
    have hempty : before = [] := by
      have hlength := congrArg List.length hbefore
      rw [List.length_append] at hlength
      exact List.eq_nil_of_length_eq_zero (by omega)
    rw [hempty]
    refine markedAll_of_not_suffix fun m hm hs ↦ ?_
    rw [List.filter_eq_nil_iff] at hback
    exact hback m hm (by simpa using suffix_interpolation.1 hs)

/-- A name without an opening brace ends in no placeholder but its own. -/
theorem eq_of_suffix_braced {n : List Char} (hopen : '{' ∉ name) (h : braced n <:+ braced name) :
    n = name := by
  obtain ⟨before, hbefore⟩ := h
  have hbody : before ++ '{' :: n = '{' :: name := by
    have hsplit : (before ++ '{' :: n) ++ ['}'] = ('{' :: name) ++ ['}'] := by
      simpa [braced, Piece.written] using hbefore
    exact List.append_cancel_right hsplit
  cases before with
  | nil => exact (List.cons.inj hbody).2
  | cons c before =>
    have hname : before ++ '{' :: n = name := (List.cons.inj hbody).2
    exact absurd (by simp [← hname]) hopen

theorem filter_suffix_of_nodup {ns : List (List Char)} (hnodup : ns.Nodup) (hmem : name ∈ ns)
    (hopen : '{' ∉ name) : ns.filter (fun n ↦ braced n <:+ braced name) = [name] := by
  have hends : ∀ n, braced n <:+ braced name ↔ n = name := by
    intro n
    constructor
    · exact eq_of_suffix_braced hopen
    · rintro rfl
      exact List.suffix_refl _
  simp only [hends]
  rw [List.filter_eq, hnodup.count, if_pos hmem]
  rfl

def dollars (ns : List (List Char)) (n : List Char) : List Char :=
  List.replicate (ns.count n) '$' ++ braced n

theorem eq_of_suffix_dollars {n name : List Char} {k : Nat} (hopen : '{' ∉ name)
    (h : braced n <:+ List.replicate k '$' ++ braced name) : n = name := by
  obtain ⟨front, hfront⟩ := h
  rcases List.append_eq_append_iff.1 hfront with ⟨more, hmore, hbraced⟩ | ⟨more, -, hbraced⟩
  · cases more with
    | nil => exact eq_of_suffix_braced hopen ⟨[], hbraced⟩
    | cons d more =>
      have hdollar : d = '$' := List.eq_of_mem_replicate (n := k) (hmore ▸ by simp)
      have hbrace : '{' = d := (List.cons.inj hbraced).1
      rw [hdollar] at hbrace
      cases hbrace
  · exact eq_of_suffix_braced hopen ⟨more, hbraced.symm⟩

theorem marked_dollars {n name : List Char} {k : Nat} (hopen : '{' ∉ name) :
    marked n (List.replicate k '$' ++ braced name) =
      List.replicate (k + if n = name then 1 else 0) '$' ++ braced name := by
  rcases marked_cases n (List.replicate k '$' ++ braced name) with ⟨front, hfront, hm⟩ | ⟨hnot, hm⟩
  · obtain rfl : n = name := eq_of_suffix_dollars hopen ⟨front, hfront.symm⟩
    obtain rfl : front = List.replicate k '$' := (List.append_cancel_right hfront).symm
    rw [hm, if_pos rfl, List.replicate_succ', List.append_assoc]
    rfl
  · have hne : n ≠ name := by
      rintro rfl
      exact hnot (List.suffix_append _ _)
    rw [hm, if_neg hne, Nat.add_zero]

/-- Every placeholder is marked once for each time that its name is among the marks. -/
theorem markedAll_eq_dollars {name : List Char} (hopen : '{' ∉ name) (ns : List (List Char)) :
    markedAll ns (braced name) = dollars ns name := by
  have hfrom : ∀ k, markedAll ns (List.replicate k '$' ++ braced name) =
      List.replicate (k + ns.count name) '$' ++ braced name := by
    induction ns with
    | nil => exact fun k ↦ rfl
    | cons n ns ih =>
      intro k
      change markedAll ns (marked n _) = _
      rw [marked_dollars hopen, ih, List.count_cons]
      simp only [beq_iff_eq, Nat.add_assoc, Nat.add_comm (ns.count name)]
  exact (hfrom 0).trans (by rw [Nat.zero_add]; rfl)

theorem fill_braced (path : List Char) : fill braced (pieces path) = path := by
  have hwritten : fill braced (pieces path) = (pieces path).flatMap Piece.written := by
    refine List.flatMap_congr fun p _ ↦ ?_
    cases p <;> rfl
  rw [hwritten, flatMap_written_pieces]

theorem fill_congr {text' : List Char → List Char} {path : List Char}
    (h : ∀ n ∈ names path, text n = text' n) :
    fill text (pieces path) = fill text' (pieces path) := by
  refine List.flatMap_congr fun p hp ↦ ?_
  cases p with
  | literal c => rfl
  | placeholder n => exact h n (mem_names.2 hp)

end RouteClient.Template
