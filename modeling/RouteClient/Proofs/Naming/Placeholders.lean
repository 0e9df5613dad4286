import RouteClient.Proofs.Naming.Segments
import RouteClient.Proofs.Template.Decoding

namespace RouteClient.Template

def isSingle (segment : List Char) : Bool :=
  match params (String.ofList segment) with
  | [name] => segment == braced name.toList
  | _ => false

/-- Segments in braces as a whole that are no single placeholder, or the other way round. -/
inductive Misread : List Char → Prop
  | enclosing (body : List Char) (hbrace : '}' ∈ body) (hline : '\n' ∉ body) :
      Misread (braced body)
  | broken (body : List Char) (hbrace : '}' ∉ body) (hline : '\n' ∈ body) : Misread (braced body)
  | followed (body : List Char) (hne : body ≠ []) (hline : '\n' ∉ body) :
      Misread (braced body ++ ['\n'])

variable {s name body : List Char}

theorem braced_eq (name : List Char) : braced name = '{' :: (name ++ ['}']) := rfl

theorem braced_inj : braced name = braced body ↔ name = body := by
  simp [braced_eq]

theorem braced_ne_followed : braced name ≠ braced body ++ ['\n'] := by
  intro h
  have hname : (braced name).getLast? = some '}' := List.getLast?_concat
  rw [h, List.getLast?_concat] at hname
  exact absurd hname (by decide)

theorem isPlaceholder_braced (body : List Char) :
    isPlaceholder (braced body) ↔ body ≠ [] ∧ '\n' ∉ body := by
  simp [isPlaceholder, braced_eq]

theorem isPlaceholder_followed (body : List Char) :
    isPlaceholder (braced body ++ ['\n']) ↔ body ≠ [] ∧ '\n' ∉ body := by
  simp [isPlaceholder, braced_eq]

theorem braced_of_isPlaceholder (h : isPlaceholder s) :
    ∃ body, s = braced body ∨ s = braced body ++ ['\n'] := by
  unfold isPlaceholder at h
  split at h
  · next rest =>
    split at h
    · next held hrest =>
      have hbody : rest = held.reverse ++ ['}'] := by
        simpa using congrArg List.reverse hrest
      exact ⟨held.reverse, .inl (by rw [hbody, braced_eq])⟩
    · next held hrest =>
      have hbody : rest = held.reverse ++ ['}', '\n'] := by
        simpa using congrArg List.reverse hrest
      exact ⟨held.reverse, .inr (by rw [hbody, braced_eq]; simp)⟩
    · cases h
  · cases h

theorem isSingle_iff : isSingle s ↔ ∃ name, name ≠ [] ∧ '}' ∉ name ∧ s = braced name := by
  unfold isSingle
  rw [params_eq, String.toList_ofList]
  constructor
  · intro h
    split at h
    · next name hnames =>
      have hs : s = braced name.toList := by simpa using h
      obtain ⟨read, hread, hname⟩ : ∃ read ∈ names s, String.ofList read = name := by
        apply List.mem_map.1
        rw [hnames]
        exact List.mem_singleton_self name
      obtain ⟨hne, hclosed⟩ := name_of_mem_names hread
      refine ⟨read, hne, hclosed, ?_⟩
      rw [hs, ← hname, String.toList_ofList]
    · cases h
  · rintro ⟨name, hne, hclosed, rfl⟩
    have hnames : names (braced name) = [name] := by
      have hread : names (assemble [] [(name, [])]) = [name] :=
        names_assemble (by simp) (by simp [hne, hclosed])
      simpa [assemble] using hread
    rw [hnames]
    simp

theorem isSingle_braced (body : List Char) : isSingle (braced body) ↔ body ≠ [] ∧ '}' ∉ body := by
  rw [isSingle_iff]
  constructor
  · rintro ⟨name, hne, hclosed, hname⟩
    rw [braced_inj.1 hname]
    exact ⟨hne, hclosed⟩
  · rintro ⟨hne, hclosed⟩
    exact ⟨body, hne, hclosed, rfl⟩

theorem not_isSingle_followed (body : List Char) : ¬isSingle (braced body ++ ['\n']) := by
  rw [isSingle_iff]
  rintro ⟨name, -, -, hname⟩
  exact braced_ne_followed hname.symm

theorem misread_braced (body : List Char) :
    Misread (braced body) ↔ ¬('}' ∈ body ↔ '\n' ∈ body) := by
  constructor
  · intro h
    generalize hs : braced body = s at h
    cases h with
    | enclosing read hbrace hline =>
      obtain rfl := braced_inj.1 hs
      exact fun hiff ↦ hline (hiff.1 hbrace)
    | broken read hbrace hline =>
      obtain rfl := braced_inj.1 hs
      exact fun hiff ↦ hbrace (hiff.2 hline)
    | followed read _ _ => exact absurd hs braced_ne_followed
  · intro h
    by_cases hbrace : '}' ∈ body
    · exact .enclosing body hbrace fun hline ↦ h (by simp [hbrace, hline])
    · exact .broken body hbrace (by simpa [hbrace] using h)

theorem misread_followed (body : List Char) :
    Misread (braced body ++ ['\n']) ↔ body ≠ [] ∧ '\n' ∉ body := by
  constructor
  · intro h
    generalize hs : braced body ++ ['\n'] = s at h
    cases h with
    | enclosing read _ _ => exact absurd hs.symm braced_ne_followed
    | broken read _ _ => exact absurd hs.symm braced_ne_followed
    | followed read hne hline =>
      obtain rfl := braced_inj.1 (List.append_cancel_right hs)
      exact ⟨hne, hline⟩
  · exact fun h ↦ .followed body h.1 h.2

/-- A closing brace that ends the text and no line break are read in one way. -/
theorem not_misread_of_plain (hline : '\n' ∉ s) (hbrace : '}' ∉ s.dropLast) : ¬Misread s := by
  intro h
  cases h with
  | enclosing body hmem _ =>
    apply hbrace
    rw [braced_eq, ← List.cons_append, List.dropLast_concat]
    exact List.mem_cons_of_mem _ hmem
  | broken body _ hmem => exact hline (by simp [braced_eq, hmem])
  | followed body _ _ => exact hline (by simp)

theorem isPlaceholder_iff_isSingle_iff : (isPlaceholder s ↔ isSingle s) ↔ ¬Misread s := by
  by_cases hwhole : ∃ body, s = braced body ∨ s = braced body ++ ['\n']
  · obtain ⟨body, rfl | rfl⟩ := hwhole
    · rw [isPlaceholder_braced, isSingle_braced, misread_braced, not_not]
      by_cases hne : body = []
      · simp [hne]
      · simp only [ne_eq, hne, not_false_eq_true, true_and, not_iff_not]
        exact Iff.comm
    · rw [isPlaceholder_followed, misread_followed]
      exact iff_false_right (not_isSingle_followed body)
  · have hplaceholder : ¬isPlaceholder s := fun h ↦ hwhole (braced_of_isPlaceholder h)
    have hsingle : ¬isSingle s := by
      rw [isSingle_iff]
      rintro ⟨name, -, -, hname⟩
      exact hwhole ⟨name, .inl hname⟩
    have hread : ¬Misread s := by
      intro h
      apply hwhole
      cases h with
      | enclosing body _ _ => exact ⟨body, .inl rfl⟩
      | broken body _ _ => exact ⟨body, .inl rfl⟩
      | followed body _ _ => exact ⟨body, .inr rfl⟩
    simp only [hplaceholder, hsingle, hread, not_false_eq_true]

end RouteClient.Template

namespace RouteClient.Naming.Binding

open RouteClient.Template

/-- The segments that have no word in the name are those in braces as a whole. -/
theorem map_fst_statics (xs : List (List Char)) :
    (statics xs).map Prod.fst = xs.filter (!isPlaceholder ·) := by
  induction xs with
  | nil => rfl
  | cons segment rest ih =>
    rw [statics, List.filter_cons]
    by_cases hsegment : isPlaceholder segment
    · rw [if_pos hsegment, if_neg (by simp [hsegment]), ih]
    · rw [if_neg hsegment, if_pos (by simp [hsegment]), List.map_cons, ih]

/-- Of the segments of a path, the name leaves out those that are a single placeholder, exactly for
the segments that are not misread: in braces as a whole, with a closing brace and no line break
inside or the other way round, or with a line break after the braces. -/
theorem left_out_iff_single (path : String) (segment : List Char)
    (h : segment ∈ parts path.toList) :
    (segment ∉ (statics (parts path.toList)).map Prod.fst ↔ isSingle segment) ↔
      ¬Misread segment := by
  have hleft : segment ∉ (statics (parts path.toList)).map Prod.fst ↔ isPlaceholder segment := by
    rw [map_fst_statics, List.mem_filter]
    simp [h]
  rw [hleft]
  exact isPlaceholder_iff_isSingle_iff

/-- Text beside a placeholder is kept, also where it has braces. -/
theorem left_out_iff_single_files :
    "\x7bid\x7d".toList ∈ parts "/files/\x7bid\x7d/v\x7bn\x7d".toList ∧
      ("\x7bid\x7d".toList ∉
          (statics (parts "/files/\x7bid\x7d/v\x7bn\x7d".toList)).map Prod.fst ↔
        isSingle "\x7bid\x7d".toList) ∧
      ("v\x7bn\x7d".toList ∉
          (statics (parts "/files/\x7bid\x7d/v\x7bn\x7d".toList)).map Prod.fst ↔
        isSingle "v\x7bn\x7d".toList) := by
  have hid : "\x7bid\x7d".toList ∈ parts "/files/\x7bid\x7d/v\x7bn\x7d".toList := by decide
  have hversion : "v\x7bn\x7d".toList ∈ parts "/files/\x7bid\x7d/v\x7bn\x7d".toList := by decide
  exact ⟨hid, (left_out_iff_single _ _ hid).2 (not_misread_of_plain (by decide) (by decide)),
    (left_out_iff_single _ _ hversion).2 (not_misread_of_plain (by decide) (by decide))⟩

/-- Two placeholders with text between them are left out together with the text. -/
theorem left_out_with_text :
    "\x7bname\x7d.\x7bext\x7d".toList ∈ parts "/files/\x7bname\x7d.\x7bext\x7d".toList ∧
      "\x7bname\x7d.\x7bext\x7d".toList ∉
        (statics (parts "/files/\x7bname\x7d.\x7bext\x7d".toList)).map Prod.fst ∧
      params "\x7bname\x7d.\x7bext\x7d" = ["name", "ext"] ∧
      ¬isSingle "\x7bname\x7d.\x7bext\x7d".toList ∧
      bindingName "/files/\x7bname\x7d.\x7bext\x7d" "GET" = "file" := by
  decide

end RouteClient.Naming.Binding
