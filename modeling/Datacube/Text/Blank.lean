namespace Datacube.Text

-- The characters with the Unicode property White_Space. The zero-width space and the byte order
-- mark do not have it.
def isBlank (c : Char) : Bool :=
  let n := c.toNat
  (9 ≤ n && n ≤ 13) || n == 0x20 || n == 0x85 || n == 0xA0 || n == 0x1680 ||
    (0x2000 ≤ n && n ≤ 0x200A) || n == 0x2028 || n == 0x2029 || n == 0x202F || n == 0x205F ||
    n == 0x3000

-- Drop what satisfies `p` from both ends.
def stripEnds (p : Char → Bool) (cs : List Char) : List Char :=
  ((cs.dropWhile p).reverse.dropWhile p).reverse

def trimChars (cs : List Char) : List Char :=
  stripEnds isBlank cs

def trim (s : String) : String :=
  String.ofList (trimChars s.toList)

-- A text with no blank at either end.
def Trimmed (s : String) : Prop :=
  trim s = s

-- The maximal runs of characters that are not blank, in order.
def wordsOf (cs : List Char) : List (List Char) :=
  match _h : cs.dropWhile isBlank with
  | [] => []
  | c :: rest => (c :: rest.takeWhile (!isBlank ·)) :: wordsOf (rest.dropWhile (!isBlank ·))
termination_by cs.length
decreasing_by
  have hskip := (List.dropWhile_suffix isBlank (l := cs)).length_le
  have hword := (List.dropWhile_suffix (!isBlank ·) (l := rest)).length_le
  rw [_h] at hskip
  simp only [List.length_cons] at hskip
  omega

def words (s : String) : List String :=
  (wordsOf s.toList).map String.ofList

end Datacube.Text
