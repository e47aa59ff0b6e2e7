import PagedQuery.Text.Mark

/-!
# PagedQuery.Text.Joining

How letters of cursive scripts join their neighbours, and the two characters without a look of
their own that ask for a joint or against one.  The tables cover the characters that names may
have.
-/

namespace PagedQuery.Text

/-- Letters that join on both sides. -/
def dualJoiningBounds : List Nat := hexNumbers
  "620 621 626 627 628 629 62A 62F 633 640 641 648 649 64B 66E 670 679 688 69A 6C0 6C1 6C3 6CC
    6CD 6CE 6CF 6D0 6D2 6FA 6FD 6FF 700 712 715 71A 71E 71F 728 729 72A 72B 72C 72D 72F 74E 759
    75C 76B 76D 771 772 773 775 778 77A 780 7CA 7EB 841 846 848 849 84A 854 855 856 860 861 862
    866 868 869 886 887 889 88E 88F 897 8A0 8AA 8AF 8B1 8B3 8B9 8BA 8C9 1807 1808 1820 1880 1887
    18A9 18AA 18B0 A840 A872 10AC0 10AC5 10AD3 10AD7 10AD8 10ADD 10ADE 10AE1 10AEB 10AEF 10B80
    10B81 10B82 10B83 10B86 10B89 10B8A 10B8C 10B8D 10B8E 10B90 10B91 10BAD 10BAF 10D01 10D22
    10D23 10D24 10EC3 10EC5 10EC6 10ECB 10F30 10F33 10F34 10F45 10F51 10F54 10F70 10F74 10F76
    10F82 10FB0 10FB1 10FB2 10FB4 10FB8 10FB9 10FBB 10FBD 10FBE 10FC0 10FC1 10FC2 10FC4 10FC5
    10FCA 10FCB 1E922 1E944"

/-- Letters that join the one in front of them only. -/
def rightJoiningBounds : List Nat := hexNumbers
  "622 626 627 628 629 62A 62F 633 648 649 671 674 688 69A 6C0 6C1 6C3 6CC 6CD 6CE 6CF 6D0 6D2
    6D4 6D5 6D6 6EE 6F0 710 711 715 71A 71E 71F 728 729 72A 72B 72C 72D 72F 730 74D 74E 759 75C
    76B 76D 771 772 773 775 778 77A 840 841 846 848 849 84A 854 855 856 859 867 868 869 883 88E
    88F 8AA 8AD 8AE 8AF 8B1 8B3 8B9 8BA 10AC5 10AC6 10AC7 10AC8 10AC9 10ACB 10ACE 10AD3 10ADD
    10ADE 10AE1 10AE2 10AE4 10AE5 10AEF 10AF0 10B81 10B82 10B83 10B86 10B89 10B8A 10B8C 10B8D
    10B8E 10B90 10B91 10B99 10BA9 10BAD 10D22 10D23 10EC2 10EC3 10F33 10F34 10F54 10F55 10F74
    10F76 10FB4 10FB7 10FB9 10FBB 10FBD 10FBE 10FC2 10FC4 10FC9 10FCA"

/-- Letters that join the one behind them only. -/
def leftJoiningBounds : List Nat := hexNumbers
  "A872 A873 10ACD 10ACE 10AD7 10AD8 10D00 10D01 10FCB 10FE0"

def joinsNext (c : Char) : Bool :=
  withinBounds dualJoiningBounds c.toNat || withinBounds leftJoiningBounds c.toNat

def joinsPrevious (c : Char) : Bool :=
  withinBounds dualJoiningBounds c.toNat || withinBounds rightJoiningBounds c.toNat

/-- The one letter that joints pass over as they pass over marks. -/
def joiningNukta : Char := Char.ofNat 0x1E94B

/-- Whether joints pass over the character. -/
def isTransparent (c : Char) : Bool :=
  isNonspacing c || c == joiningNukta

def nonJoiner : Char := '\u200C'

def joiner : Char := '\u200D'

/-- Whether a joiner or non-joiner is of use between `before`, which comes backwards, and
`after`: behind a silenced vowel either is, and the non-joiner also between letters that would
join. -/
def isJoinerOfUse (c : Char) (before after : List Char) : Bool :=
  before.head?.any isVirama
    || (c == nonJoiner && (before.find? (!isTransparent ·)).any joinsNext
      && (after.find? (!isTransparent ·)).any joinsPrevious)

/-- Whether all joiners and non-joiners are of use; `before` holds what comes in front,
backwards. -/
def joinersFit (before : List Char) : List Char → Bool
  | [] => true
  | c :: after =>
    ((c != joiner && c != nonJoiner) || isJoinerOfUse c before after)
      && joinersFit (c :: before) after

end PagedQuery.Text
