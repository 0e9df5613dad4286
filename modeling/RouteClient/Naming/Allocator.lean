import RouteClient.OrderedMap

namespace RouteClient.Naming.Allocator

abbrev Usage := OrderedMap String Int

def numbered (name : String) (k : Int) : String := name ++ toString k

def freeNumber (used : Usage) (name : String) : Nat → Int → Int
  | 0, k => k
  | count + 1, k =>
    if used.contains (numbered name k) then freeNumber used name count (k + 1) else k

/-- The name itself at its first use, otherwise the name with a number not in use. The numbers tried
give different names, so one more of them than there are entries suffices. -/
def allocate (used : Usage) (name : String) : String × Usage :=
  let count := (used.get? name).getD 0 + 1
  let counted := used.put name count
  if count = 1 then (name, counted)
  else
    let k := freeNumber counted name (counted.entries.length + 1) count
    (numbered name k, (counted.put name k).put (numbered name k) 1)

end RouteClient.Naming.Allocator
