/-!
# Parts of a list

Whether a list, such as the characters of a text, occurs within another.
-/

namespace SignerTrust

/-- Whether `part` occurs in a list. -/
def hasInfix {α : Type} [BEq α] (part : List α) : List α → Bool
  | [] => part.isEmpty
  | x :: xs => part.isPrefixOf (x :: xs) || hasInfix part xs

end SignerTrust
