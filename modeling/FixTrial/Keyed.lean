/-! Lists in which no key occurs twice. The first element met with a key stands for it. -/
namespace FixTrial.Keyed
variable {α κ : Type} [DecidableEq κ] (key : α → κ)

def has (k : κ) (xs : List α) : Bool := xs.any fun x => key x = k

def find? (k : κ) (xs : List α) : Option α := xs.find? fun x => key x = k

/-- `xs` with `x` at the end, unless its key is there already. -/
def insert (xs : List α) (x : α) : List α := if has key (key x) xs then xs else xs ++ [x]

def union (xs ys : List α) : List α := ys.foldl (insert key) xs

def distinct (xs : List α) : List α := union key [] xs

def without (xs ys : List α) : List α := xs.filter fun x => !has key (key x) ys

def meets (xs ys : List α) : Bool := xs.any fun x => has key (key x) ys

end FixTrial.Keyed
