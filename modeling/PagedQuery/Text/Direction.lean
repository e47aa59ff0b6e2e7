import PagedQuery.Text.Mark

/-!
# PagedQuery.Text.Direction

The directions in which characters are written.  The tables cover the characters that names
may have, and leave out the nonspacing marks.
-/

namespace PagedQuery.Text

/-- How a character behaves in a line of text. -/
inductive Direction where
  /-- Written from left to right. -/
  | left
  /-- Written from right to left. -/
  | right
  | europeanNumber
  | arabicNumber
  /-- As the mark's character. -/
  | nonspacing
  /-- As the characters around it. -/
  | neutral
deriving DecidableEq, Repr

def rightBounds : List Nat := hexNumbers
  "5BE 606 608 609 60B 60C 60D 60E 61B 660 66D 6DE 6E5 6E9 6EE 6F0 6FA 7F6 7FA 903 FBB2 FBC3
    FE73 10000 10800 1091F 10920 10B39 10B40 10D30 10D4A 10D6E 10D6F 10E60 10E80 10ED0 10F00
    11000 1E800 1EEF0"

def europeanNumberBounds : List Nat := hexNumbers
  "30 3A 6F0 6FA 102E1 10300"

def arabicNumberBounds : List Nat := hexNumbers
  "660 66A 66B 66D 10D30 10D4A 10E60 10E80"

def neutralBounds : List Nat := hexNumbers
  "0 30 3A 61 7B DF F7 F8 2B9 2BB 2C2 2D0 2D2 2EE 2EF 371 375 377 3F6 3F8 58A 5BE 606 608 609
    60B 60C 60D 60E 61B 66A 66B 6DE 6E5 6E9 6EE 7F6 7FA 9F2 9F4 9FB 9FC AF1 AF9 BF3 C01 C78 C7F
    E3F E40 F3A F3E 1390 13A0 1400 1401 169B 16A0 17DB 17DC 17F0 1810 1940 1946 19DE 1A00 200C
    214E 218A 2336 237B 2395 2396 26AC 26AD 2800 2900 2C30 2CE5 2CEC 2CF9 2D00 2E00 3005 3008
    3021 3030 3031 3037 303B 303D 3041 30A0 30A1 30FB 30FC 31C0 31F0 4DC0 4E00 A490 A4D0 A60D
    A610 A673 A681 A700 A723 A788 A789 A828 A830 A838 A840 A874 A880 AB6A ABC0 FBC3 FE73 10101
    10102 10140 1018D 10190 101D0 1091F 10920 10B39 10B40 10D6E 10D6F 10ED0 10F00 11052 11066
    11660 11680 11FD5 11FFF 16FE2 16FE3 1CC00 1CF50 1D1E9 1D2C0 1D300 1D360 1DB00 1DF00 1E2FF
    1E4D0 1EEF0 1F150 1F16D 1F170 1F1AD 1F1AE 1F260 20000"

/-- The nonspacing marks that are written from left to right all the same. -/
def leftMarks : List Char := ['\u0CBF', '\u0CC6', Char.ofNat 0x11A07, Char.ofNat 0x11A08,
  Char.ofNat 0x11C3F]

def direction (c : Char) : Direction :=
  let n := c.toNat
  if leftMarks.contains c then .left
  else if isNonspacing c then .nonspacing
  else if withinBounds rightBounds n then .right
  else if withinBounds europeanNumberBounds n then .europeanNumber
  else if withinBounds arabicNumberBounds n then .arabicNumber
  else if withinBounds neutralBounds n then .neutral
  else .left

end PagedQuery.Text
