import RouteClient.Proofs.Client.Address
import RouteClient.Proofs.Client.Verbatim
import RouteClient.Proofs.Naming.Alphabet
import Mathlib.Data.List.Infix

namespace RouteClient.Client.Literal

open RouteClient.Text RouteClient.Template RouteClient.Naming

variable {quote : Char} {parts : List Part} {ps : List Piece} {path : List Char}

/-- No character of the path means another one between the quotes, and none ends the literal or
begins a parameter. -/
structure Inert (quote : Char) (ps : List Piece) : Prop where
  literals : ∀ c ∈ [quote, '\\', '\r'], .literal c ∉ ps
  lines : quote ≠ '`' → .literal '\n' ∉ ps
  dollars : quote = '`' → ¬[.literal '$', .literal '{'] <:+: ps

instance : Decidable (Inert quote ps) :=
  decidable_of_iff
    ((∀ p ∈ ps, ∀ c ∈ [quote, '\\', '\r'], p ≠ .literal c) ∧
      (quote ≠ '`' → ∀ p ∈ ps, p ≠ .literal '\n') ∧
      (quote = '`' → ¬[Piece.literal '$', .literal '{'] <:+: ps))
    ⟨fun h ↦ ⟨fun c hc hmem ↦ h.1 _ hmem c hc rfl, fun hq hmem ↦ h.2.1 hq _ hmem rfl, h.2.2⟩,
      fun h ↦ ⟨fun _ hp c hc he ↦ h.literals c hc (he ▸ hp), fun hq _ hp he ↦ h.lines hq (he ▸ hp),
        h.dollars⟩⟩

def Part.ofPiece : Piece → Part
  | .literal c => if c = '\n' then .lineEnd ['\n'] else .plain c
  | .placeholder name => .parameter name

theorem Inert.of_cons {p : Piece} (h : Inert quote (p :: ps)) : Inert quote ps where
  literals := fun c hc hmem ↦ h.literals c hc (List.mem_cons_of_mem p hmem)
  lines := fun hq hmem ↦ h.lines hq (List.mem_cons_of_mem p hmem)
  dollars := fun hq hin ↦ h.dollars hq (hin.trans (List.suffix_cons p ps).isInfix)

theorem partAt_literal {c : Char} {rest : List Char} (hc : c ≠ '\\')
    (hdollar : ¬(quote = '`' ∧ c = '$' ∧ rest.head? = some '{')) (hreturn : c ≠ '\r')
    (hline : quote ≠ '`' → c ≠ '\n') :
    partAt quote (c :: rest) = some (Part.ofPiece (.literal c)) := by
  rw [partAt, if_neg hc, if_neg hdollar, Part.ofPiece]
  by_cases hn : c = '\n'
  · have hquote : ¬quote ≠ '`' := fun hq ↦ hline hq hn
    rw [if_pos (.inr hn), if_neg hquote, if_neg (fun h ↦ hreturn h.1), if_pos hn, hn]
  · rw [if_neg (by simp [hreturn, hn]), if_neg hn]

theorem partAt_interpolation {name : List Char} (hname : '}' ∉ name) (rest : List Char) :
    partAt '`' (interpolation name ++ rest) = some (.parameter name) := by
  have hcut : Split.cutFirst '}' (name ++ '}' :: rest) = some (name, rest) :=
    Split.cutFirst_append hname
  have hsplit : interpolation name ++ rest = '$' :: '{' :: (name ++ '}' :: rest) := by
    simp [interpolation, braced, Piece.written]
  rw [hsplit, partAt, if_neg (by decide), if_pos ⟨rfl, rfl, rfl⟩, List.tail_cons, hcut]
  rfl

/-- What is written after a dollar sign begins with a brace only if the path has one there. -/
theorem head_fill_ne_brace (h : ¬[.literal '$', .literal '{'] <:+: .literal '$' :: ps) :
    (fill interpolation ps ++ ['`']).head? ≠ some '{' := by
  cases ps with
  | nil => simp [fill]
  | cons p ps =>
    cases p with
    | literal d =>
      intro hd
      obtain rfl : d = '{' := by simpa [fill, Piece.name?, Piece.written] using hd
      exact h ⟨[], ps, rfl⟩
    | placeholder name => simp [fill, Piece.name?, interpolation]

theorem scanned_of_inert (h : Inert quote ps)
    (hnames : ∀ n, .placeholder n ∈ ps → quote = '`' ∧ '}' ∉ n) :
    Scanned quote (fill interpolation ps ++ [quote]) (ps.map Part.ofPiece) := by
  induction ps with
  | nil => exact .close
  | cons p ps ih =>
    have hrest := ih h.of_cons fun n hn ↦ hnames n (List.mem_cons_of_mem p hn)
    cases p with
    | literal c =>
      have hspecial : c ∉ [quote, '\\', '\r'] := fun hc ↦ h.literals c hc List.mem_cons_self
      simp only [List.mem_cons, List.not_mem_nil, or_false, not_or] at hspecial
      obtain ⟨hquote, hescape, hreturn⟩ := hspecial
      have hline : quote ≠ '`' → c ≠ '\n' := by
        rintro hq rfl
        exact h.lines hq List.mem_cons_self
      have hdollar : ¬(quote = '`' ∧ c = '$' ∧
          (fill interpolation ps ++ [quote]).head? = some '{') := by
        rintro ⟨rfl, rfl, hhead⟩
        exact head_fill_ne_brace (h.dollars rfl) hhead
      have hsource : (Part.ofPiece (.literal c)).source = [c] := by
        rw [Part.ofPiece]
        split
        · next hn => rw [hn]; rfl
        · rfl
      have hcons : Scanned quote (c :: [] ++ (fill interpolation ps ++ [quote]))
          (Part.ofPiece (.literal c) :: ps.map Part.ofPiece) :=
        .part hquote (partAt_literal hescape hdollar hreturn hline) hsource hrest
      exact hcons
    | placeholder n =>
      obtain ⟨rfl, hn⟩ := hnames n List.mem_cons_self
      have hpart := partAt_interpolation hn (fill interpolation ps ++ ['`'])
      have hsplit : fill interpolation (.placeholder n :: ps) ++ ['`'] =
          '$' :: braced n ++ (fill interpolation ps ++ ['`']) := by
        rw [← List.append_assoc]
        rfl
      rw [hsplit]
      exact .part (by decide) hpart rfl hrest

theorem means_ofPiece (values : List Char → List Nat) (ps : List Piece) :
    (ps.map Part.ofPiece).flatMap (Part.means values) = filled values ps := by
  unfold filled
  rw [List.flatMap_map]
  refine List.flatMap_congr fun p _ ↦ ?_
  cases p with
  | literal c =>
    rw [Part.ofPiece]
    split
    · next hn => rw [hn]; rfl
    · exact (List.append_nil _).symm
  | placeholder n => rfl

theorem parameters_ofPiece (ps : List Piece) :
    parameters (ps.map Part.ofPiece) = ps.filterMap Piece.name? := by
  unfold parameters
  rw [List.filterMap_map]
  refine List.filterMap_congr fun p _ ↦ ?_
  cases p with
  | literal c =>
    rw [Function.comp_apply, Part.ofPiece]
    split <;> rfl
  | placeholder n => rfl

theorem after_brace {n a b rest : List Char} (hopen : '{' ∉ n)
    (h : n ++ '}' :: rest = a ++ '$' :: '{' :: b) : ∃ front, rest = front ++ '$' :: '{' :: b := by
  induction n generalizing a with
  | nil =>
    cases a with
    | nil => cases (List.cons.inj h).1
    | cons x a => exact ⟨a, (List.cons.inj h).2⟩
  | cons c n ih =>
    rw [List.mem_cons, not_or] at hopen
    cases a with
    | nil =>
      have hbrace : n ++ '}' :: rest = '{' :: b := (List.cons.inj h).2
      cases n with
      | nil => cases (List.cons.inj hbrace).1
      | cons d n =>
        obtain rfl : d = '{' := (List.cons.inj hbrace).1
        exact absurd List.mem_cons_self hopen.2
    | cons x a => exact ih hopen.2 (List.cons.inj h).2

/-- A dollar sign before a brace begins a parameter, wherever it is. -/
theorem parameter_of_dollar {s a b : List Char} (hscan : Scanned '`' s parts)
    (hverbatim : ∀ p ∈ parts, p.Verbatim) (hopen : ∀ n ∈ parameters parts, '{' ∉ n)
    (hs : s = a ++ '$' :: '{' :: b) : ∃ n ∈ parameters parts, ∃ more, b = n ++ '}' :: more := by
  -- The dollar sign begins the first part, or stands behind its first character.
  induction hscan generalizing a with
  | close =>
    cases a with
    | nil => cases (List.cons.inj hs).1
    | cons x a => simpa using (List.cons.inj hs).2
  | @part c p front rest ps _ hpart hsource _ ih =>
    rw [List.forall_mem_cons] at hverbatim
    cases p with
    | plain d =>
      obtain ⟨rfl, rfl⟩ := List.cons.inj hsource
      cases a with
      | nil =>
        obtain ⟨rfl, rfl⟩ := List.cons.inj hs
        rw [List.cons_append, partAt, if_neg (by decide), if_pos ⟨rfl, rfl, rfl⟩] at hpart
        obtain ⟨cut, -, hcut⟩ := Option.map_eq_some_iff.1 hpart
        cases hcut
      | cons x a => exact ih hverbatim.2 hopen (List.cons.inj hs).2
    | lineEnd source =>
      obtain rfl : source = ['\n'] := hverbatim.1
      obtain ⟨rfl, rfl⟩ := List.cons.inj hsource
      cases a with
      | nil => cases (List.cons.inj hs).1
      | cons x a => exact ih hverbatim.2 hopen (List.cons.inj hs).2
    | escape source means => exact hverbatim.1.elim
    | parameter n =>
      have hparameters : parameters (.parameter n :: ps) = n :: parameters ps := rfl
      rw [hparameters, List.forall_mem_cons] at hopen
      rw [hparameters]
      have hsplit : '$' :: '{' :: (n ++ '}' :: rest) = a ++ '$' :: '{' :: b := by
        rw [← hs, ← hsource]
        simp [Part.source, interpolation, braced, Piece.written]
      cases a with
      | nil =>
        have hb : n ++ '}' :: rest = b := (List.cons.inj (List.cons.inj hsplit).2).2
        exact ⟨n, List.mem_cons_self, rest, hb.symm⟩
      | cons x a =>
        have hbrace : '{' :: (n ++ '}' :: rest) = a ++ '$' :: '{' :: b := (List.cons.inj hsplit).2
        cases a with
        | nil => cases (List.cons.inj hbrace).1
        | cons y a =>
          obtain ⟨front, hfront⟩ := after_brace hopen.1 (List.cons.inj hbrace).2
          obtain ⟨m, hm, hmore⟩ := ih hverbatim.2 hopen.2 hfront
          exact ⟨m, List.mem_cons_of_mem n hm, hmore⟩

/-- What ends a literal or a placeholder, or begins an escape, is no character of identifiers. -/
theorem not_mem_of_legal {A : Alphabet} {s : List Char} (h : A.Legal s) :
    ∀ c ∈ ['\'', '`', '\\', '\r', '\n', '{', '}'], c ∉ s := by
  have hnone : ∀ c ∈ ['\'', '`', '\\', '\r', '\n', '{', '}'],
      c.toNat < 0x80 ∧ (c.isAlphanum || c == '_' || c == '$') = false := by decide
  intro c hc hmem
  obtain ⟨hascii, hother⟩ := hnone c hc
  have hpart := h.parts c hmem
  rw [A.isPart_ascii c hascii, hother] at hpart
  cases hpart

theorem mem_source_cases {p : Part} {c : Char} (hformed : p.Formed quote) (hverbatim : p.Verbatim)
    (hc : c ∈ p.source) :
    (c ≠ quote ∧ c ≠ '\\' ∧ c ≠ '\r' ∧ c ≠ '\n') ∨ (quote = '`' ∧ c = '\n') ∨
      quote = '`' ∧ ∃ n, p = .parameter n ∧ c ∈ interpolation n := by
  cases p with
  | plain d =>
    obtain rfl := List.mem_singleton.1 hc
    exact .inl hformed
  | lineEnd source =>
    obtain rfl : source = ['\n'] := hverbatim
    exact .inr (.inl ⟨hformed.1, List.mem_singleton.1 hc⟩)
  | escape source means => exact hverbatim.elim
  | parameter n => exact .inr (.inr ⟨hformed.1, n, rfl, hc⟩)

theorem mem_fill_of_literal {text : List Char → List Char} {ps : List Piece} {c : Char}
    (h : .literal c ∈ ps) : c ∈ fill text ps :=
  List.mem_flatMap.2 ⟨_, h, List.mem_singleton.2 rfl⟩

section

variable {A : Alphabet} (hlegal : ∀ n ∈ names path, A.Legal n)
  (hscan : Scanned quote (fill (dollars (names path)) (pieces path) ++ [quote]) parts)
  (hverbatim : ∀ p ∈ parts, p.Verbatim) (hbound : ∀ n ∈ parameters parts, n ∈ names path)

include hscan in
theorem exists_source_of_literal {c : Char} (h : .literal c ∈ pieces path) :
    ∃ p ∈ parts, c ∈ p.source := by
  have hsource := List.append_cancel_right hscan.source
  have hmem : c ∈ parts.flatMap Part.source := hsource ▸ mem_fill_of_literal h
  exact List.mem_flatMap.1 hmem

include hlegal hscan hverbatim hbound in
theorem not_dollar_brace (hquote : quote = '`') :
    ¬[.literal '$', .literal '{'] <:+: pieces path := by
  subst hquote
  rintro ⟨front, back, hpieces⟩
  have hsplit : pieces path = (front ++ [.literal '$']) ++ .literal '{' :: back := by
    rw [← hpieces]
    simp
  have htext : fill (dollars (names path)) (pieces path) ++ ['`'] =
      fill (dollars (names path)) front ++
        '$' :: '{' :: (fill (dollars (names path)) back ++ ['`']) := by
    rw [hsplit]
    simp [fill, Piece.name?, Piece.written]
  obtain ⟨n, hn, more, hmore⟩ := parameter_of_dollar hscan hverbatim
    (fun n hn ↦ not_mem_of_legal (hlegal n (hbound n hn)) '{' (by decide)) htext
  have hname := hlegal n (hbound n hn)
  -- A name would have to start where the brace is closed, or to be closed where nothing is.
  rcases literal_brace_of_piecesFrom (by simp) hsplit with ⟨rest, rfl⟩ | ⟨s, hs, rfl⟩
  · obtain ⟨c, n, rfl⟩ := List.exists_cons_of_ne_nil hname.ne_nil
    obtain rfl : '}' = c := (List.cons.inj hmore).1
    exact not_mem_of_legal hname '}' (by decide) List.mem_cons_self
  · rw [fill_literals] at hmore
    have hmem : '}' ∈ s ++ ['`'] := by
      rw [hmore]
      simp
    simp [hs] at hmem

include hlegal hscan hverbatim hbound in
theorem inert_of_scanned : Inert quote (pieces path) where
  literals := by
    intro c hspecial hc
    obtain ⟨p, hp, hsource⟩ := exists_source_of_literal hscan hc
    rcases mem_source_cases (hscan.formed p hp) (hverbatim p hp) hsource with
      ⟨hquote, hescape, hreturn, -⟩ | ⟨rfl, rfl⟩ | ⟨rfl, n, rfl, hin⟩
    · simp [hquote, hescape, hreturn] at hspecial
    · revert hspecial
      decide
    · have hother : ∀ c ∈ ['`', '\\', '\r'], c ≠ '$' ∧ c ≠ '{' ∧ c ≠ '}' ∧
          c ∈ ['\'', '`', '\\', '\r', '\n', '{', '}'] := by decide
      obtain ⟨hdollar, hopen, hclose, hforeign⟩ := hother c hspecial
      have hn : n ∈ parameters parts := List.mem_filterMap.2 ⟨_, hp, rfl⟩
      have hnot : c ∉ n := not_mem_of_legal (hlegal n (hbound n hn)) c hforeign
      simp [interpolation, braced, Piece.written, hdollar, hopen, hclose, hnot] at hin
  lines := by
    intro hquote hc
    obtain ⟨p, hp, hsource⟩ := exists_source_of_literal hscan hc
    rcases mem_source_cases (hscan.formed p hp) (hverbatim p hp) hsource with
      ⟨-, -, -, hline⟩ | ⟨rfl, -⟩ | ⟨rfl, -⟩
    · exact hline rfl
    · exact hquote rfl
    · exact hquote rfl
  dollars := not_dollar_brace hlegal hscan hverbatim hbound

end

/-- What is between the quotes is read alike whatever the parameters stand for. -/
theorem read_eq_some_iff {quote : Char} (hquote : quote ∈ ['\'', '`']) {bound : List (List Char)}
    {values : List Char → List Nat} {s : List Char} {us : List Nat} :
    read bound values (quote :: s) = some us ↔
      ∃ parts, Scanned quote s parts ∧ (∀ n ∈ parameters parts, n ∈ bound) ∧
        parts.flatMap (Part.means values) = us := by
  rw [read, if_pos hquote]
  constructor
  · intro h
    obtain ⟨parts, hscan, h⟩ := Option.bind_eq_some_iff.1 h
    split_ifs at h with hbound
    exact ⟨parts, scanned_of_scan hscan, hbound, Option.some.inj h⟩
  · rintro ⟨parts, hscan, hbound, rfl⟩
    rw [scan_of_scanned hscan, Option.bind_eq_bind, Option.bind_some, if_pos hbound]

theorem Scanned.unique {quote : Char} {s : List Char} {parts parts' : List Part}
    (h : Scanned quote s parts) (h' : Scanned quote s parts') : parts = parts' :=
  Option.some.inj ((scan_of_scanned h).symm.trans (scan_of_scanned h'))

end RouteClient.Client.Literal

namespace RouteClient.Client.Binding

open RouteClient.Template

/-- The address of a function in characters, if no placeholder has an opening brace in its name. -/
theorem toList_urlText {b : Binding} (h : b.pathParams = params b.path)
    (hopen : ∀ n ∈ names b.path.toList, '{' ∉ n) :
    let quote := if params b.path = [] then '\'' else '`'
    (Render.urlText b).toList =
      quote :: (fill (dollars (names b.path.toList)) (pieces b.path.toList) ++ [quote]) := by
  intro quote
  have hquote : b.quotationMark.toList = [quote] := by
    rw [quotationMark, h]
    by_cases hempty : params b.path = []
    · simp [quote, hempty]
    · simp [quote, hempty]
  rw [urlText_eq h, address, String.toList_append, String.toList_append, hquote,
    String.toList_ofList, fill_congr fun n hn ↦ markedAll_eq_dollars (hopen n hn) _]
  rfl

end RouteClient.Client.Binding

namespace RouteClient.Draft

open RouteClient.Client RouteClient.Client.Literal RouteClient.Template RouteClient.Naming

variable {κ σ : Type}

/-- The address, read as a literal in which each parameter stands for some text, is the path with
these texts, exactly if the placeholders are different and no other character has a meaning of its
own between the quotes. -/
theorem address_read_back_iff (A : Alphabet) (g : ShapeGraph σ) (route : Route κ) (name : String)
    (request response : Shape.Field σ) (hnames : ∀ p ∈ params route.path, A.Legal p.toList) :
    let b : Binding := { bindingOf g route request response with name }
    (∀ values, Literal.read (names route.path.toList) values (Render.urlText b).toList =
        some (filled values (pieces route.path.toList))) ↔
      (params route.path).Nodup ∧
        Inert (if params route.path = [] then '\'' else '`') (pieces route.path.toList) := by
  intro b
  have hlegal : ∀ n ∈ names route.path.toList, A.Legal n := by
    intro n hn
    rw [params_eq] at hnames
    simpa using hnames _ (List.mem_map_of_mem hn)
  have hnodup : (params route.path).Nodup ↔ (names route.path.toList).Nodup := by
    rw [params_eq]
    exact List.nodup_map_iff fun _ _ ↦ String.ofList_injective
  obtain ⟨quote, hquote⟩ : ∃ c, c = if params route.path = [] then '\'' else '`' := ⟨_, rfl⟩
  have htext : (Render.urlText b).toList = quote ::
      (fill (dollars (names route.path.toList)) (pieces route.path.toList) ++ [quote]) := by
    rw [hquote]
    exact Binding.toList_urlText rfl fun n hn ↦ not_mem_of_legal (hlegal n hn) '{' (by decide)
  have hmem : quote ∈ ['\'', '`'] := by
    rw [hquote]
    split <;> simp
  rw [htext, hnodup, ← hquote]
  constructor
  · intro h
    obtain ⟨parts, hscan, hbound, -⟩ := (read_eq_some_iff hmem).1 (h fun _ ↦ [])
    have hmeans : ∀ values, parts.flatMap (Part.means values) =
        filled values (pieces route.path.toList) := by
      intro values
      obtain ⟨parts', hscan', -, hvalue⟩ := (read_eq_some_iff hmem).1 (h values)
      rwa [hscan.unique hscan']
    have hsource := (List.append_cancel_right hscan.source).symm
    obtain ⟨hverbatim, hdistinct⟩ := verbatim_of_means hsource hmeans hscan.formed
    exact ⟨hdistinct, inert_of_scanned hlegal hscan hverbatim hbound⟩
  · rintro ⟨hdistinct, hinert⟩ values
    have hclosed : ∀ n, .placeholder n ∈ pieces route.path.toList → quote = '`' ∧ '}' ∉ n := by
      intro n hn
      have hname : n ∈ names route.path.toList := mem_names.2 hn
      have hsome : params route.path ≠ [] := by
        rw [params_eq]
        exact List.ne_nil_of_mem (List.mem_map_of_mem hname)
      exact ⟨by rw [hquote, if_neg hsome], (name_of_mem_names hname).2⟩
    have hfill : fill (dollars (names route.path.toList)) (pieces route.path.toList) =
        fill interpolation (pieces route.path.toList) :=
      fill_congr fun n hn ↦ by rw [dollars, hdistinct.count, if_pos hn]; rfl
    refine (read_eq_some_iff hmem).2 ⟨_, ?_, ?_, means_ofPiece values _⟩
    · rw [hfill]
      exact scanned_of_inert hinert hclosed
    · rw [parameters_ofPiece]
      exact fun n hn ↦ hn

/-- An apostrophe is no special character in a template, and a backtick is none in a string. -/
theorem address_read_back_iff_lines :
    let f : Shape.Field Project.ClassRef := { name := "", typeName := "str" }
    let find : Route Unit := ⟨"GET", "/it's/\x7bid\x7d$\x7bline\x7d", "shop.Find", none⟩
    let list : Route Unit := ⟨"GET", "/$\x7b\x7d`", "shop.List", none⟩
    let b : Binding := { bindingOf (Build.graph {}) find f f with name := "find" }
    let c : Binding := { bindingOf (Build.graph {}) list f f with name := "list" }
    (∀ p ∈ params find.path, Alphabet.wide.Legal p.toList) ∧
      (∀ values, Literal.read (names find.path.toList) values (Render.urlText b).toList =
        some (filled values (pieces find.path.toList))) ∧
      ∀ values, Literal.read (names list.path.toList) values (Render.urlText c).toList =
        some (filled values (pieces list.path.toList)) := by
  intro f find list b c
  have hlegal : ∀ p ∈ params find.path, Alphabet.wide.Legal p.toList := by decide +kernel
  have hnone : ∀ p ∈ params list.path, Alphabet.wide.Legal p.toList := by decide +kernel
  refine ⟨hlegal, ?_, ?_⟩
  · refine (address_read_back_iff Alphabet.wide (Build.graph {}) find "find" f f hlegal).2 ?_
    decide +kernel
  · refine (address_read_back_iff Alphabet.wide (Build.graph {}) list "list" f f hnone).2 ?_
    decide +kernel

/-- A quote ends the literal before the path does, and a backslash begins an escape. -/
theorem address_not_read_back :
    let f : Shape.Field Project.ClassRef := { name := "", typeName := "str" }
    let url (path : String) : List Char := (Render.urlText
      (bindingOf (Build.graph {}) (⟨"GET", path, "shop.Find", none⟩ : Route Unit) f f)).toList
    let value (path : String) : Option (List Nat) :=
      Literal.read (names path.toList) (fun _ ↦ []) (url path)
    url "/it's" = "'/it's'".toList ∧ value "/it's" = none ∧
      value "/\\new" = some (units "/\new".toList) ∧ value "/a`b/\x7bid\x7d" = none := by
  decide +kernel

end RouteClient.Draft
