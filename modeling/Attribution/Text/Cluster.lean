import Attribution.Text.Width

/-!
What a terminal draws in one place: a character, the marks on it, and the characters joined to it. The
width of a text is that of its places, and a text is cut between them only.
-/

namespace Attribution.Text

/-- Joins the character after it to the place before it. -/
def joiner : Char := '\u200d'

/-- Asks for the picture of the letter before it. -/
def pictureSelector : Char := '\ufe0f'

/-- The columns a text takes, where a letter stands before it that can be widened or not. A joined
character takes none, and a widened letter takes one more. -/
def widthAfter (widens : Bool) : List Char → Nat
  | [] => 0
  | [c] =>
    if c = joiner then 0
    else if c = pictureSelector then widens.toNat
    else charWidth c
  | c :: d :: rest =>
    if c = joiner then widthAfter widens rest
    else if c = pictureSelector then widens.toNat + widthAfter false (d :: rest)
    else charWidth c + widthAfter (if charWidth c = 0 then widens else canWiden c) (d :: rest)

/-- The columns a text takes. -/
def width (s : List Char) : Nat := widthAfter false s

/-- Characters that are drawn in one place, how wide it is, and whether it can be widened. -/
structure Cluster where
  text : List Char
  width : Nat
  widens : Bool
  deriving DecidableEq, Repr

namespace Cluster

def ofChar (c : Char) : Cluster := ⟨[c], charWidth c, canWiden c⟩

/-- Takes in characters that are drawn in the same place. -/
def join (k : Cluster) (s : List Char) : Cluster := { k with text := k.text ++ s }

/-- Takes in the mark that asks for the picture of a letter. -/
def select (k : Cluster) : Cluster :=
  ⟨k.text ++ [pictureSelector], k.width + k.widens.toNat, false⟩

/-- The places of a text that goes on from a place. -/
def split (k : Cluster) : List Char → List Cluster
  | [] => [k]
  | [c] =>
    if c = pictureSelector then [k.select]
    else if c = joiner || charWidth c == 0 then [k.join [c]]
    else [k, ofChar c]
  | c :: d :: rest =>
    if c = joiner then (k.join [c, d]).split rest
    else if c = pictureSelector then k.select.split (d :: rest)
    else if charWidth c = 0 then (k.join [c]).split (d :: rest)
    else k :: (ofChar c).split (d :: rest)

theorem flatMap_split (k : Cluster) (s : List Char) :
    (k.split s).flatMap Cluster.text = k.text ++ s := by
  fun_induction k.split s <;> simp_all [join, select, ofChar]

end Cluster

/-- The places of a text. -/
def clusters : List Char → List Cluster
  | [] => []
  | c :: rest => (Cluster.ofChar c).split rest

/-- No character is lost between the places of a text. -/
theorem flatMap_clusters (s : List Char) : (clusters s).flatMap Cluster.text = s := by
  cases s with
  | nil => rfl
  | cons c rest => simpa [clusters, Cluster.ofChar] using Cluster.flatMap_split (.ofChar c) rest

end Attribution.Text
