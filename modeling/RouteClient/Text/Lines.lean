namespace RouteClient.Text.Lines

def isBoundary (c : Char) : Bool :=
  [0xa, 0xb, 0xc, 0xd, 0x1c, 0x1d, 0x1e, 0x85, 0x2028, 0x2029].contains c.toNat

def linesFrom (held : List Char) : List Char → List (List Char)
  | [] => if held.isEmpty then [] else [held.reverse]
  | '\r' :: '\n' :: rest => held.reverse :: linesFrom [] rest
  | c :: rest =>
    if isBoundary c then held.reverse :: linesFrom [] rest else linesFrom (c :: held) rest

def lines (s : List Char) : List (List Char) := linesFrom [] s

end RouteClient.Text.Lines
