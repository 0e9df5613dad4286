import RouteClient.Text.Quoted

namespace RouteClient

/-- The number `mantissa / 10 ^ places` is a `decimal`. -/
inductive Scalar where
  | none
  | bool (b : Bool)
  | integer (n : Int)
  | decimal (mantissa : Int) (places : Nat)
  | text (s : String)
deriving Repr, DecidableEq, Inhabited

end RouteClient

namespace RouteClient.Scalar

open RouteClient.Text

def number? : Scalar → Option (Int × Nat)
  | bool b => some (if b then 1 else 0, 0)
  | integer n => some (n, 0)
  | decimal mantissa places => some (mantissa, places)
  | _ => Option.none

def scale (places : Nat) : Nat := Nat.pow 10 places

/-- Equality of values: numbers by what they count, so that one, one point zero and true are equal.
-/
def equal (a b : Scalar) : Bool :=
  match a.number?, b.number? with
  | some (m, p), some (n, q) => m * Int.ofNat (scale q) == n * Int.ofNat (scale p)
  | Option.none, Option.none => a = b
  | _, _ => false

instance : BEq Scalar := ⟨equal⟩

def fractionDigits (n places : Nat) : List Char :=
  let digits := (Nat.toDigits 10 n).leftpad places '0'
  match (digits.reverse.dropWhile (· == '0')).reverse with
  | [] => ['0']
  | kept => kept

def decimalText (mantissa : Int) (places : Nat) : String :=
  (if mantissa < 0 then "-" else "") ++ toString (mantissa.natAbs / scale places) ++ "." ++
    String.ofList (fractionDigits (mantissa.natAbs % scale places) places)

def shown : Scalar → String
  | none => "None"
  | bool b => if b then "True" else "False"
  | integer n => toString n
  | decimal mantissa places => decimalText mantissa places
  | text s => s

def source : Scalar → String
  | text s => Quoted.quoted s
  | value => value.shown

end RouteClient.Scalar
