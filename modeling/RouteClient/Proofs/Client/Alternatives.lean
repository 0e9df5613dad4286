import RouteClient.Client.TypeText
import RouteClient.Proofs.Text.Split

namespace RouteClient.Client.TypeText

open RouteClient.Text

def alternativesFrom (depth : Nat) (current : List Char) : List Char → List (List Char)
  | [] => [current]
  | c :: cs =>
    if c = '|' ∧ depth = 0 then current :: alternativesFrom 0 [] cs
    else
      let depth := if c = '(' then depth + 1 else if c = ')' then depth - 1 else depth
      alternativesFrom depth (current ++ [c]) cs

def nullTypes : List String := ["null", "any", "unknown"]

def isNullType (text : List Char) : Bool :=
  nullTypes.contains (String.ofList (Blank.trimBy Blank.isBlank text))

def admitsNull (text : String) : Bool := (alternativesFrom 0 [] text.toList).any isNullType

def itemText (text : String) : Option String :=
  match text.toList.reverse with
  | ']' :: '[' :: ')' :: item => some (String.ofList (item.reverse.drop 1))
  | ']' :: '[' :: item => some (String.ofList item.reverse)
  | _ => none

def IsWord (text : List Char) : Prop := ∀ c ∈ text, c ≠ '|' ∧ c ≠ '(' ∧ c ≠ ')'

-- Named, since another instance would go through all characters there are.
instance (text : List Char) : Decidable (IsWord text) := List.decidableBAll _ text

/-- A text that is read as part of one alternative, whatever stands around it. -/
def Closed (text : List Char) : Prop :=
  ∀ current rest, alternativesFrom 0 current (text ++ rest) =
    alternativesFrom 0 (current ++ text) rest

variable {text word rest current : List Char} {item : String} {itemNullable : Bool} {depth : Nat}

theorem alternativesFrom_word (h : IsWord word) :
    alternativesFrom depth current (word ++ rest) =
      alternativesFrom depth (current ++ word) rest := by
  induction word generalizing current with
  | nil => simp
  | cons c word ih =>
    obtain ⟨⟨hbar, hopen, hclose⟩, hword⟩ := List.forall_mem_cons.1 h
    simp [alternativesFrom, hbar, hopen, hclose, ih hword]

/-- Within parentheses bars are no boundaries. -/
theorem alternativesFrom_inner (h : ∀ c ∈ text, c ≠ '(' ∧ c ≠ ')') :
    alternativesFrom (depth + 1) current (text ++ rest) =
      alternativesFrom (depth + 1) (current ++ text) rest := by
  induction text generalizing current with
  | nil => simp
  | cons c text ih =>
    obtain ⟨⟨hopen, hclose⟩, htext⟩ := List.forall_mem_cons.1 h
    simp [alternativesFrom, hopen, hclose, ih htext]

theorem closed_word (h : IsWord word) : Closed word := fun _ _ ↦ alternativesFrom_word h

theorem Closed.append {more : List Char} (h : Closed text) (hmore : Closed more) :
    Closed (text ++ more) := by
  intro current rest
  rw [List.append_assoc, h, hmore, List.append_assoc]

theorem closed_parenthesized (h : ∀ c ∈ text, c ≠ '(' ∧ c ≠ ')') :
    Closed ('(' :: text ++ [')']) := by
  intro current rest
  have hinner : alternativesFrom 1 (current ++ ['(']) (text ++ (')' :: rest)) =
      alternativesFrom 1 (current ++ ['('] ++ text) (')' :: rest) := alternativesFrom_inner h
  simp [alternativesFrom, hinner]

theorem Closed.alternatives (h : Closed text) : alternativesFrom 0 [] text = [text] := by
  have hread := h [] []
  rwa [List.append_nil] at hread

theorem Closed.admitsNull_eq {text : String} (h : Closed text.toList) :
    admitsNull text = isNullType text.toList := by
  simp [admitsNull, h.alternatives]

/-- With null as a further alternative a text admits it. -/
theorem Closed.admitsNull_or_null {text : String} (h : Closed text.toList) :
    admitsNull (text ++ " | null") := by
  have hread : alternativesFrom 0 [] (text ++ " | null").toList =
      [text.toList ++ [' '], " null".toList] := by
    rw [String.toList_append, h]
    simp [alternativesFrom]
  have hnull : isNullType " null".toList := by decide +kernel
  rw [admitsNull, hread, List.any_cons, List.any_cons, hnull]
  simp

def withNull (item : String) (itemNullable : Bool) : String :=
  if itemNullable then item ++ " | null" else item

theorem no_parentheses_withNull (h : IsWord item.toList) :
    ∀ c ∈ (withNull item itemNullable).toList, c ≠ '(' ∧ c ≠ ')' := by
  intro c hc
  cases itemNullable with
  | false => exact (h c hc).2
  | true =>
    rw [withNull, if_pos rfl, String.toList_append, List.mem_append] at hc
    rcases hc with hc | hc
    · exact (h c hc).2
    · have hplain : " | null".toList.all fun c ↦ c ≠ '(' ∧ c ≠ ')' := by decide
      simpa using List.all_eq_true.1 hplain c hc

theorem arrayOf_eq : arrayOf item itemNullable =
    (if (withNull item itemNullable).toList.contains ' ' then
      "(" ++ withNull item itemNullable ++ ")" else withNull item itemNullable) ++ "[]" := rfl

/-- An array whose items are of several words has them in parentheses. -/
theorem toList_arrayOf (item : String) (itemNullable : Bool) :
    ((arrayOf item itemNullable).toList =
        '(' :: (withNull item itemNullable).toList ++ [')'] ++ ['[', ']']) ∨
      (itemNullable = false ∧ (arrayOf item itemNullable).toList = item.toList ++ ['[', ']']) := by
  rw [arrayOf_eq]
  by_cases hspace : (withNull item itemNullable).toList.contains ' '
  · left
    rw [if_pos hspace]
    simp
  · right
    rw [if_neg hspace]
    cases itemNullable with
    | false => simp [withNull]
    | true =>
      have hblank : ' ' ∈ (item ++ " | null").toList := by
        rw [String.toList_append]
        exact List.mem_append_right _ (by decide)
      exact absurd (List.contains_iff_mem.2 hblank) hspace

theorem closed_arrayOf (h : IsWord item.toList) : Closed (arrayOf item itemNullable).toList := by
  have hbrackets : Closed ['[', ']'] := closed_word (by decide)
  rcases toList_arrayOf item itemNullable with harray | ⟨_, harray⟩
  · rw [harray]
    exact (closed_parenthesized (no_parentheses_withNull h)).append hbrackets
  · rw [harray]
    exact (closed_word h).append hbrackets

/-- An array is no type that null is a value of. -/
theorem isNullType_arrayOf : isNullType (arrayOf item itemNullable).toList = false := by
  have hbracket : ']' ∈ (arrayOf item itemNullable).toList := by simp [arrayOf_eq]
  have hkept := Blank.mem_trimBy hbracket (by decide : Blank.isBlank ']' = false)
  have hnone : ∀ t ∈ nullTypes, ']' ∉ t.toList := by decide
  rw [isNullType, Bool.eq_false_iff]
  intro hmem
  refine hnone _ (List.contains_iff_mem.1 hmem) ?_
  rwa [String.toList_ofList]

theorem admitsNull_arrayOf (h : IsWord item.toList) :
    admitsNull (arrayOf item itemNullable) = false := by
  rw [(closed_arrayOf h).admitsNull_eq, isNullType_arrayOf]

theorem itemText_arrayOf (h : IsWord item.toList) :
    itemText (arrayOf item itemNullable) = some (withNull item itemNullable) := by
  rcases toList_arrayOf item itemNullable with harray | ⟨rfl, harray⟩
  · simp [itemText, harray]
  · have hlast : ∀ rest, item.toList.reverse ≠ ')' :: rest := by
      intro rest hrest
      have hmem : ')' ∈ item.toList := by
        rw [← List.mem_reverse, hrest]
        exact List.mem_cons_self
      exact (h _ hmem).2.2 rfl
    have hreverse : (arrayOf item false).toList.reverse = ']' :: '[' :: item.toList.reverse := by
      simp [harray]
    simp only [itemText, hreverse, List.reverse_reverse, String.ofList_toList]
    rfl

end RouteClient.Client.TypeText
