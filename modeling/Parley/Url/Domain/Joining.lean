import Parley.Text.Canonical
import Parley.Url.Domain.Direction

/-!
# Joiners in names

Two characters that cannot be seen join what stands around them, or keep it from joining. A name may hold them only
where they make a difference (`joinersFit`): after a virama, and the one that keeps apart also between two letters that
would join, marks between them aside.
-/

namespace Parley.Url.Domain

/-- The character that keeps its neighbours from joining. -/
def nonJoiner : Char := '\u200c'

/-- The character that joins its neighbours. -/
def joiner : Char := '\u200d'

/-- Letters that join with the letters on both sides. -/
def bothSidesRanges : List Text.Range := Text.Range.ofTable
  ["620 626 628 62a-62e 633-63f 641-647 649-64a 66e-66f 678-687 69a-6bf 6c1-6c2 6cc 6ce 6d0-6d1 6fa-6fc 6ff 712-714",
   "71a-71d 71f-727 729 72b 72d-72e 74e-758 75c-76a 76d-770 772 775-777 77a-77f 7ca-7ea 841-845 848 84a-853 855 860",
   "862-865 868 886 889-88d 8a0-8a9 8af-8b0 8b3-8b8 8ba-8c8 1807 1820-1878 1887-18a8 18aa a840-a871 10ac0-10ac4",
   "10ad3-10ad6 10ad8-10adc 10ade-10ae0 10aeb-10aee 1e900-1e943"]

/-- Letters that join with the letter before them only. -/
def oneSideRanges : List Text.Range := Text.Range.ofTable
  ["622-625 627 629 62f-632 648 671-673 675-677 688-699 6c0 6c3-6cb 6cd 6cf 6d2-6d3 6d5 6ee-6ef 710 715-719 71e 728",
   "72a 72c 72f 74d 759-75b 76b-76c 771 773-774 778-779 840 846-847 849 854 856-858 867 869-86a 870-882 88e 8aa-8ac",
   "8ae 8b1-8b2 8b9 10ac5 10ac7 10ac9-10aca 10ace-10ad2 10add 10ae1 10ae4 10aef"]

/-- A letter that joins with the letter after it; there is one that joins with no other. -/
def joinsNext (c : Char) : Bool := Text.Range.anyContains c.toNat bothSidesRanges || c == '\ua872'

def joinsPrevious (c : Char) : Bool :=
  Text.Range.anyContains c.toNat bothSidesRanges || Text.Range.anyContains c.toNat oneSideRanges

/-- A sign that takes the vowel from a letter. -/
def isVirama (c : Char) : Bool := Text.Canonical.place c == 9

/-- The first letter of a text that begins with marks has the property. -/
def firstLetter (p : Char → Bool) (cs : List Char) : Bool :=
  ((cs.dropWhile fun c => Direction.ofChar c == .mark).head?.map p).getD false

/-- All joiners stand where they make a difference; `before` is what precedes the text, the latest first. -/
def joinersFit (before : List Char) : List Char → Bool
  | [] => true
  | c :: cs =>
    let afterVirama := (before.head?.map isVirama).getD false
    let fits :=
      if c = joiner then afterVirama
      else if c = nonJoiner then afterVirama || (firstLetter joinsNext before && firstLetter joinsPrevious cs)
      else true
    fits && joinersFit (c :: before) cs

end Parley.Url.Domain
