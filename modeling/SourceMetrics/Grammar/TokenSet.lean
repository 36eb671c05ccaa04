/-!
# Sets of tokens

A set of token numbers, kept as the bits of one number.
-/

namespace SourceMetrics.Grammar

/-- A finite set of tokens: token `n` is a member when bit `n` is set. -/
structure TokenSet where
  bits : Nat
  deriving DecidableEq, Repr, Inhabited

namespace TokenSet

def empty : TokenSet := ⟨0⟩

def single (n : Nat) : TokenSet := ⟨1 <<< n⟩

def union (a b : TokenSet) : TokenSet := ⟨a.bits ||| b.bits⟩

def contains (a : TokenSet) (n : Nat) : Bool := a.bits.testBit n

def isEmpty (a : TokenSet) : Bool := a.bits == 0

def ofList (ns : List Nat) : TokenSet := ns.foldl (fun s n => s.union (single n)) empty

@[simp] theorem contains_empty (n : Nat) : empty.contains n = false := by
  simp [contains, empty]

@[simp] theorem contains_union (a b : TokenSet) (n : Nat) :
    (a.union b).contains n = (a.contains n || b.contains n) := by
  simp [contains, union]

@[simp] theorem contains_single (m n : Nat) : (single m).contains n = decide (m = n) := by
  simp [contains, single, Nat.shiftLeft_eq, Nat.testBit_two_pow]

end TokenSet

end SourceMetrics.Grammar
