import SignerTrust.Text.Base64
import SignerTrust.Text.Infix
import SignerTrust.Text.Utf8

/-!
# Armoured certificates

A block starts with a line `-----BEGIN` and a label, ends with a line `-----END`, and holds Base64
lines between them.  Other text around blocks is passed over; labels are not looked at.  Bytes are
read line by line, and a line that is no text is a broken block, or breaks the one that it is in.
-/

namespace SignerTrust.Armour

/-- A block: its bytes, or a mark that it is broken. -/
inductive Block
  | bytes (content : Bytes)
  | broken
  deriving DecidableEq, Repr

/-- Cuts bytes into lines; the part after the last line break is a line unless it is empty. -/
def lines : Bytes → List Bytes
  | [] => []
  | b :: bs =>
    if b = 0x0a then [] :: lines bs
    else match lines bs with
      | [] => [[b]]
      | l :: ls => (b :: l) :: ls

/-- The lines as texts; a line whose bytes are no text has none. -/
def textLines (bytes : Bytes) : List (Option (List Char)) :=
  (lines bytes).map Utf8.decodeChars?

/-- Characters that count as blank at the end of a line. -/
def isBlank (c : Char) : Bool :=
  let n := c.toNat
  (9 ≤ n && n ≤ 13) || n = 0x20 || n = 0x85 || n = 0xa0 || n = 0x1680
    || (0x2000 ≤ n && n ≤ 0x200a) || n = 0x2028 || n = 0x2029 || n = 0x202f || n = 0x205f
    || n = 0x3000

/-- A line without the blanks at its end. -/
def trimEnd (line : List Char) : List Char :=
  (line.reverse.dropWhile isBlank).reverse

/-- How a block starts and ends. -/
def beginMark : List Char := "-----BEGIN ".toList
def endMark : List Char := "-----END ".toList
def dashes : List Char := "-----".toList

/-- The lines of a block up to its end, joined, and the lines after it.  There is nothing to join if
the block does not end or one of its lines is no text. -/
def body : List (Option (List Char)) → Option (List Char) × List (Option (List Char))
  | [] => (none, [])
  | none :: ls => (none, ls)
  | some l :: ls =>
    if endMark.isPrefixOf l then (some [], ls)
    else
      let (text, rest) := body ls
      (text.map (trimEnd l ++ ·), rest)

/-- The block that starts at the line `header`, and the lines after it. -/
def block (header : List Char) (ls : List (Option (List Char))) :
    Block × List (Option (List Char)) :=
  if !hasInfix dashes (header.drop beginMark.length) then (.broken, ls)
  else
    let (text, rest) := body ls
    match text.bind Base64.decode? with
    | some content => (.bytes content, rest)
    | none => (.broken, rest)

/-- The blocks of a text, in order. -/
def blocks (bytes : Bytes) : List Block :=
  let ls := textLines bytes
  go ls.length ls
where
  go : Nat → List (Option (List Char)) → List Block
    | 0, _ => []
    | _ + 1, [] => []
    | fuel + 1, none :: ls => .broken :: go fuel ls
    | fuel + 1, some l :: ls =>
      if beginMark.isPrefixOf l then
        let (b, rest) := block l ls
        b :: go fuel rest
      else go fuel ls

end SignerTrust.Armour
