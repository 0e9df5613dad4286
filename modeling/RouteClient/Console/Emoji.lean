import RouteClient.Console.EmojiTable
import RouteClient.Text.Blank
import RouteClient.Text.CaseMap
import RouteClient.Text.Split

namespace RouteClient.Console.Emoji

open RouteClient.Text RouteClient.Text.Blank

def valueOf (key : String) : List String → Option String
  | k :: v :: rest => if k == key then some v else valueOf key rest
  | _ => none

def words : List String :=
  ((Split.splitBy isBlank EmojiTable.codes.toList).filter (!·.isEmpty)).map String.ofList

/-- The endings of a name that choose a picture's form, and the characters that ask for it. -/
def forms : List (List Char × Char) := [("-emoji".toList, '\ufe0f'), ("-text".toList, '\ufe0e')]

def nameAndForm (code : List Char) : List Char × List Char :=
  match forms.find? fun form ↦ form.1.isSuffixOf code with
  | some (ending, mark) => (code.take (code.length - ending.length), [mark])
  | none => (code, [])

def picture? (code : List Char) : Option (List Char) :=
  let (name, form) := nameAndForm code
  (valueOf (String.ofList (CaseMap.lower name)) words).map fun s ↦ s.toList ++ form

def shown (code : List Char) : List Char := (picture? code).getD (':' :: code ++ [':'])

def replaceFrom : Option (List Char) → List Char → List Char
  | none, [] => []
  | some held, [] => ':' :: held.reverse
  | none, c :: rest => if c == ':' then replaceFrom (some []) rest else c :: replaceFrom none rest
  | some held, c :: rest =>
    if c == ':' then shown held.reverse ++ replaceFrom none rest
    else if isBlank c then ':' :: held.reverse ++ c :: replaceFrom none rest
    else replaceFrom (some (c :: held)) rest

def replace (s : List Char) : List Char := replaceFrom none s

/-- A text without a colon has no names. -/
theorem replace_of_not_mem (s : List Char) (h : ':' ∉ s) : replace s = s := by
  induction s with
  | nil => rfl
  | cons c rest ih =>
    have hc : (c == ':') = false := by
      simp only [beq_eq_false_iff_ne]
      rintro rfl
      exact h List.mem_cons_self
    have hr : replaceFrom none rest = rest := ih fun m ↦ h (List.mem_cons_of_mem c m)
    simp [replace, replaceFrom, hc, hr]

end RouteClient.Console.Emoji
