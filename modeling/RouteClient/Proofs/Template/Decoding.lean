import RouteClient.Proofs.Template
import Mathlib.Data.List.Infix

namespace RouteClient.Template

/-- A literal text, and then one placeholder after the other with the literal text behind it. -/
def assemble (first : List Char) (rest : List (List Char × List Char)) : List Char :=
  first ++ rest.flatMap fun part ↦ braced part.1 ++ part.2

/-- Some text without a closing brace stands between braces. -/
def HasPlaceholder (s : List Char) : Prop := ∃ name, name ≠ [] ∧ '}' ∉ name ∧ braced name <:+: s

variable {name s : List Char} {first : List Char} {rest : List (List Char × List Char)}

theorem piecesFrom_append_of_not_mem (h : '{' ∉ s) (more : List Char) :
    piecesFrom none (s ++ more) = s.map .literal ++ piecesFrom none more := by
  induction s with
  | nil => rfl
  | cons c s ih =>
    rw [List.mem_cons, not_or] at h
    rw [List.cons_append, piecesFrom_none (Ne.symm h.1), ih h.2]
    rfl

theorem piecesFrom_held (h : '}' ∉ name) (held more : List Char) :
    piecesFrom (some held) (name ++ more) = piecesFrom (some (name.reverse ++ held)) more := by
  induction name generalizing held with
  | nil => rfl
  | cons c name ih =>
    rw [List.mem_cons, not_or] at h
    rw [List.cons_append, piecesFrom_some (Ne.symm h.1), ih h.2, List.reverse_cons,
      List.append_assoc]
    rfl

theorem piecesFrom_braced (hne : name ≠ []) (hclosed : '}' ∉ name) (more : List Char) :
    piecesFrom none (braced name ++ more) = .placeholder name :: piecesFrom none more := by
  have hwritten : braced name ++ more = '{' :: (name ++ '}' :: more) := by
    simp [braced, Piece.written]
  obtain ⟨c, held, hreverse⟩ := List.exists_cons_of_ne_nil (by simpa using hne : name.reverse ≠ [])
  rw [hwritten, piecesFrom_none_open, piecesFrom_held hclosed, List.append_nil, hreverse,
    piecesFrom_close, ← hreverse, List.reverse_reverse]

theorem filterMap_name?_literals (s : List Char) :
    (s.map Piece.literal).filterMap Piece.name? = [] := by
  rw [List.filterMap_map, List.filterMap_eq_nil_iff]
  exact fun _ _ ↦ rfl

theorem names_assemble (hfirst : '{' ∉ first)
    (hrest : ∀ part ∈ rest, part.1 ≠ [] ∧ '}' ∉ part.1 ∧ '{' ∉ part.2) :
    names (assemble first rest) = rest.map Prod.fst := by
  induction rest generalizing first with
  | nil =>
    have hpieces := piecesFrom_append_of_not_mem hfirst []
    rw [names, pieces, assemble, List.flatMap_nil, hpieces, List.filterMap_append,
      filterMap_name?_literals]
    rfl
  | cons part rest ih =>
    obtain ⟨⟨hne, hclosed, hliteral⟩, hrest⟩ := List.forall_mem_cons.1 hrest
    have hsplit :
        assemble first (part :: rest) = first ++ (braced part.1 ++ assemble part.2 rest) := by
      simp [assemble]
    rw [names, pieces, hsplit, piecesFrom_append_of_not_mem hfirst, piecesFrom_braced hne hclosed,
      List.filterMap_append, filterMap_name?_literals, List.nil_append, List.map_cons,
      ← ih hliteral hrest]
    rfl

/-- The literal text in front of the first placeholder, and each placeholder with the literal text
behind it. -/
def takeApart : List Piece → List Char × List (List Char × List Char)
  | [] => ([], [])
  | .literal c :: ps => (c :: (takeApart ps).1, (takeApart ps).2)
  | .placeholder name :: ps => ([], (name, (takeApart ps).1) :: (takeApart ps).2)

theorem assemble_takeApart (ps : List Piece) :
    assemble (takeApart ps).1 (takeApart ps).2 = ps.flatMap Piece.written := by
  induction ps with
  | nil => rfl
  | cons p ps ih =>
    rw [List.flatMap_cons, ← ih]
    cases p with
    | literal c => rfl
    | placeholder name => simp [takeApart, assemble, braced]

theorem map_fst_takeApart (ps : List Piece) :
    (takeApart ps).2.map Prod.fst = ps.filterMap Piece.name? := by
  induction ps with
  | nil => rfl
  | cons p ps ih =>
    cases p with
    | literal c => exact ih
    | placeholder name => exact congrArg (name :: ·) ih

/-- The literal texts stand among the pieces without a break. -/
theorem literals_takeApart (ps : List Piece) :
    (takeApart ps).1.map .literal <+: ps ∧
      ∀ part ∈ (takeApart ps).2, part.2.map .literal <:+: ps := by
  induction ps with
  | nil => simp [takeApart]
  | cons p ps ih =>
    obtain ⟨hfirst, hrest⟩ := ih
    cases p with
    | literal c =>
      refine ⟨?_, fun part hpart ↦ (hrest part hpart).trans (List.suffix_cons _ _).isInfix⟩
      rw [takeApart, List.map_cons]
      exact List.cons_prefix_cons.2 ⟨rfl, hfirst⟩
    | placeholder name =>
      refine ⟨List.nil_prefix, fun part hpart ↦ ?_⟩
      rcases List.mem_cons.1 hpart with rfl | hpart
      · exact hfirst.isInfix.trans (List.suffix_cons _ _).isInfix
      · exact (hrest part hpart).trans (List.suffix_cons _ _).isInfix

/-- Nothing is left enclosed in a literal text: its opening brace would have begun a name. -/
theorem not_hasPlaceholder_of_infix {path : List Char} (h : s.map .literal <:+: pieces path) :
    ¬HasPlaceholder s := by
  rintro ⟨name, hne, hclosed, hwithin⟩
  obtain ⟨d, name, rfl⟩ := List.exists_cons_of_ne_nil hne
  obtain ⟨before, after, hpieces⟩ := (hwithin.map Piece.literal).trans h
  let tail := name.map Piece.literal ++ .literal '}' :: after
  have hsplit : piecesFrom none path = before ++ .literal '{' :: (.literal d :: tail) := by
    rw [← pieces, ← hpieces]
    simp [braced, Piece.written, tail]
  rcases literal_brace_of_piecesFrom (by simp) hsplit with ⟨more, hmore⟩ | ⟨t, ht, htail⟩
  · -- The brace would be closed at once, but the name is not empty.
    obtain rfl := Piece.literal.inj (List.cons.inj hmore).1
    exact hclosed List.mem_cons_self
  · -- Nothing after the brace would be closed, but the name is.
    have hmem : Piece.literal '}' ∈ t.map Piece.literal := by
      rw [← htail]
      simp [tail]
    obtain ⟨c, hc, hliteral⟩ := List.mem_map.1 hmem
    obtain rfl := Piece.literal.inj hliteral
    exact ht hc

/-- Names in braces between literal texts without an opening brace are the placeholders of the path,
in their order. Every path is made of its placeholders and literal texts without any further name in
braces. -/
theorem params_of_assembled :
    (∀ first rest, '{' ∉ first →
      (∀ part ∈ rest, part.1 ≠ [] ∧ '}' ∉ part.1 ∧ '{' ∉ part.2) →
      params (String.ofList (assemble first rest)) = rest.map fun part ↦ String.ofList part.1) ∧
    ∀ path : String, ∃ first rest, path.toList = assemble first rest ∧
      params path = rest.map (fun part ↦ String.ofList part.1) ∧
      (∀ part ∈ rest, part.1 ≠ [] ∧ '}' ∉ part.1) ∧
      ¬HasPlaceholder first ∧ ∀ part ∈ rest, ¬HasPlaceholder part.2 := by
  constructor
  · intro first rest hfirst hrest
    rw [params_eq, String.toList_ofList, names_assemble hfirst hrest, List.map_map]
    rfl
  · intro path
    let apart := takeApart (pieces path.toList)
    have hnames : apart.2.map Prod.fst = names path.toList := map_fst_takeApart _
    obtain ⟨hfirst, hrest⟩ := literals_takeApart (pieces path.toList)
    refine ⟨apart.1, apart.2, ?_, ?_, fun part hpart ↦ ?_, ?_, fun part hpart ↦ ?_⟩
    · rw [assemble_takeApart, flatMap_written_pieces]
    · rw [params_eq, ← hnames, List.map_map]
      rfl
    · exact name_of_mem_names (hnames ▸ List.mem_map_of_mem hpart)
    · exact not_hasPlaceholder_of_infix hfirst.isInfix
    · exact not_hasPlaceholder_of_infix (hrest part hpart)

/-- A name may have an opening brace in it, and a literal text a closing one. -/
theorem params_of_assembled_items :
    '{' ∉ "/items/".toList ∧
      (∀ part ∈ [("itemId".toList, "/\x7d/".toList), ("a\x7bb".toList, [])],
        part.1 ≠ [] ∧ '}' ∉ part.1 ∧ '{' ∉ part.2) ∧
      String.ofList (assemble "/items/".toList
        [("itemId".toList, "/\x7d/".toList), ("a\x7bb".toList, [])]) =
          "/items/\x7bitemId\x7d/\x7d/\x7ba\x7bb\x7d" ∧
      params (String.ofList (assemble "/items/".toList
        [("itemId".toList, "/\x7d/".toList), ("a\x7bb".toList, [])])) = ["itemId", "a\x7bb"] := by
  have hfirst : '{' ∉ "/items/".toList := by decide
  have hrest : ∀ part ∈ [("itemId".toList, "/\x7d/".toList), ("a\x7bb".toList, [])],
      part.1 ≠ [] ∧ '}' ∉ part.1 ∧ '{' ∉ part.2 := by
    decide
  exact ⟨hfirst, hrest, by decide, params_of_assembled.1 _ _ hfirst hrest⟩

end RouteClient.Template
