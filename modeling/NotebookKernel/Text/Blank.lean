/-!
Blank characters are those with the Unicode property White_Space. Trimming
removes them at the ends of a text; words are the stretches between them.
-/

namespace NotebookKernel.Text

/-- The property White_Space, without the zero-width and format characters. -/
def isBlank (c : Char) : Bool :=
  (9 ≤ c.toNat && c.toNat ≤ 13) || c.toNat == 0x20 || c.toNat == 0x85 || c.toNat == 0xA0 ||
  c.toNat == 0x1680 || (0x2000 ≤ c.toNat && c.toNat ≤ 0x200A) || c.toNat == 0x2028 ||
  c.toNat == 0x2029 || c.toNat == 0x202F || c.toNat == 0x205F || c.toNat == 0x3000

def trimLeft (cs : List Char) : List Char :=
  cs.dropWhile isBlank

def trimRight (cs : List Char) : List Char :=
  (cs.reverse.dropWhile isBlank).reverse

def trim (cs : List Char) : List Char :=
  trimRight (trimLeft cs)

/-- Cuts at every blank; the pieces may be empty. -/
def splitBlank : List Char → List (List Char)
  | [] => [[]]
  | c :: rest =>
    if isBlank c then [] :: splitBlank rest
    else match splitBlank rest with
      | [] => [[c]]
      | word :: words => (c :: word) :: words

/-- The non-empty stretches between blanks, in order. -/
def words (cs : List Char) : List (List Char) :=
  (splitBlank cs).filter fun word => !word.isEmpty

theorem trimRight_nil : trimRight [] = [] := rfl

theorem trim_nil : trim [] = [] := rfl

theorem words_nil : words [] = [] := rfl

end NotebookKernel.Text
