import ToolGateway.Address.Hostname
import ToolGateway.Address.Mapping
import ToolGateway.Address.Punycode
import ToolGateway.Text.Category

/-!
Names of machines in any script.

A name is first written with the characters of `Mapping`; its labels then have to do without characters that are not
allowed, without hyphens in certain places, with their marks behind letters, and with letters of both directions only in
certain orders. Written in ASCII, the labels have to be short enough. A few characters need certain neighbours.
-/

namespace ToolGateway.Address.Idn

open Text

/-! ## Characters -/

/-- characters that no name may have, besides those without a use -/
def forbidden : CharSet :=
  CharSet.ofLines [
    "A0 A8 AF B4 B8 2D8-2DD 37A 37E 384-385 1680 1FBD 1FBF-1FC1 1FCD-1FCF 1FDD-1FDF 1FED-1FEF 1FFD-1FFE 2000-200A",
    "2017 2024-2026 202F 203C 203E 2047-2049 205F 207A 207C-207E 208A 208C-208E 2100-2101 2105-2106 2474-24B5",
    "2A74-2A76 2FF0-3000 309B-309C 31EF 3200-321E 3220-3243 33C2 33C7 33D8 FB29 FC5E-FC63 FDFA-FDFB FE10 FE12-FE16",
    "FE19 FE30 FE33-FE38 FE47-FE50 FE52 FE54-FE57 FE59-FE5C FE5F-FE62 FE64-FE66 FE68-FE6B FE70 FE72 FE74 FE76 FE78",
    "FE7A FE7C FE7E FF01-FF0C FF0F FF1A-FF20 FF3B-FF40 FF5B-FF5E FFE3 FFFC-FFFD 1F100-1F10A 1F110-1F129"]

/-- whether a character may stand in a name as it is -/
def isAllowed (c : Char) : Bool :=
  if c.toNat < 0x80 then c.isLower || c.isDigit || c = '-'
  else
    c = '\u200c' || c = '\u200d' ||
      !(forbidden.holds c || (Category.ofGroup "C").holds c || (Category.ofGroup "Z").holds c ||
        Mapping.written c != [c])

/-- marks that belong to the letter before them -/
def marks : CharSet := Category.ofGroup "M"

/-- marks that take no room of their own -/
def flatMarks : CharSet := (Category.ofCode "Mn").union (Category.ofCode "Me")

/-- signs that take the vowel from the letter before them -/
def viramas : CharSet :=
  CharSet.ofLines [
    "94D 9CD A4D ACD B4D BCD C4D CCD D3B-D3C D4D DCA E3A EBA F84 1039-103A 1714-1715 1734 17D2 1A60 1B44 1BAA-1BAB",
    "1BF2-1BF3 2D7F A806 A82C A8C4 A953 A9C0 AAF6 ABED 10A3F 11046 11070 1107F 110B9 11133-11134 111C0 11235 112EA",
    "1134D 113CE-113D0 11442 114C2 115BF 1163F 116B6 1172B 11839 1193D-1193E 119E0 11A34 11A47 11A99 11C3F",
    "11D44-11D45 11D97 11F41-11F42 1612F"]

/-! ## Joining letters -/

/-- letters that join the one behind them -/
def joiningOn : CharSet :=
  CharSet.ofLines [
    "A872 10ACD 10AD7 10D00 10FCB"]

/-- letters that join the one before them -/
def joiningBack : CharSet :=
  CharSet.ofLines [
    "622-625 627 629 62F-632 648 671-673 675-677 688-699 6C0 6C3-6CB 6CD 6CF 6D2-6D3 6D5 6EE-6EF 710 715-719 71E",
    "728 72A 72C 72F 74D 759-75B 76B-76C 771 773-774 778-779 840 846-847 849 854 856-858 867 869-86A 870-882 88E",
    "8AA-8AC 8AE 8B1-8B2 8B9 10AC5 10AC7 10AC9-10ACA 10ACE-10AD2 10ADD 10AE1 10AE4 10AEF 10B81 10B83-10B85 10B89",
    "10B8C 10B8E-10B8F 10B91 10BA9-10BAC 10D22 10EC2 10F33 10F54 10F74-10F75 10FB4-10FB6 10FB9-10FBA 10FBD",
    "10FC2-10FC3 10FC9"]

/-- letters that join both -/
def joiningBoth : CharSet :=
  CharSet.ofLines [
    "620 626 628 62A-62E 633-63F 641-647 649-64A 66E-66F 678-687 69A-6BF 6C1-6C2 6CC 6CE 6D0-6D1 6FA-6FC 6FF",
    "712-714 71A-71D 71F-727 729 72B 72D-72E 74E-758 75C-76A 76D-770 772 775-777 77A-77F 7CA-7EA 841-845 848",
    "84A-853 855 860 862-865 868 886 889-88D 88F 8A0-8A9 8AF-8B0 8B3-8B8 8BA-8C8 1807 1820-1878 1887-18A8 18AA",
    "A840-A871 10AC0-10AC4 10AD3-10AD6 10AD8-10ADC 10ADE-10AE0 10AEB-10AEE 10B80 10B82 10B86-10B88 10B8A-10B8B",
    "10B8D 10B90 10BAD-10BAE 10D01-10D21 10D23 10EC3-10EC4 10EC6-10EC7 10F30-10F32 10F34-10F44 10F51-10F53",
    "10F70-10F73 10F76-10F81 10FB0 10FB2-10FB3 10FB8 10FBB-10FBC 10FBE-10FBF 10FC1 10FC4 10FCA 1E900-1E943"]

/-- whether each sign that joins or separates letters stands behind a sign without a vowel, or, if it separates, between
letters that would join; `before` are the characters in front, the last first -/
def hasJoiners (before : List Char) : List Char → Bool
  | [] => true
  | c :: rest =>
    let isBehindVirama := before.head?.any viramas.holds
    let isBetweenJoining :=
      ((before.dropWhile flatMarks.holds).head?.any fun d => joiningOn.holds d || joiningBoth.holds d) &&
        ((rest.dropWhile flatMarks.holds).head?.any fun d => joiningBack.holds d || joiningBoth.holds d)
    (c ≠ '\u200d' || isBehindVirama) && (c ≠ '\u200c' || isBehindVirama || isBetweenJoining) &&
      hasJoiners (c :: before) rest

/-! ## Directions -/

/-- letters that are read from right to left -/
def leftward : CharSet :=
  CharSet.ofLines [
    "5BE 5C0 5C3 5C6 5D0-5F4 608 60B 60D 61B-64A 66D-66F 671-6D5 6E5-6E6 6EE-6EF 6FA-710 712-72F 74D-7A5 7B1-7EA",
    "7F4-7F5 7FA 7FE-815 81A 824 828 830-858 85E-897 8A0-8C9 FBB2-FBD2 FD90-FDCE FE73 10800-1091B 10920-10A00",
    "10A10-10A35 10A40-10AE4 10AEB-10B35 10B40-10D23 10D40-10D8F 10E80-10EA9 10EAD-10EFC 10F00-10F45 10F51-10F81",
    "10F86-10FF6 1E800-1E8CF 1E922-1E943 1E94B-1ED3D"]

/-- digits that stand among letters of the Arabic script -/
def arabicNumbers : CharSet :=
  CharSet.ofLines [
    "660-669 66B-66C 10D30-10D39 10E60-10E7E"]

/-- other digits -/
def plainNumbers : CharSet :=
  CharSet.ofLines [
    "30-39 6F0-6F9 102E1-102FB"]

/-- characters without a direction -/
def neutral : CharSet :=
  CharSet.ofLines [
    "2D A1-D7 F7 2B9-2BA 2C2-2CF 2D2-2ED 2EF-2FF 375 3F6 58A-58F 606-607 609-60A 60C 60E-60F 66A 6DE 6E9 7F6-7F9",
    "9F2-9F3 9FB AF1 BF3-BFA C78-C7E E3F F3A-F3D 1390-1399 1400 169B-169C 17DB 17F0-180A 1940-1945 19DE-19FF",
    "200C-20C1 2104-214D 218A-2335 237B-2394 2396-2426 2440-26AB 26AD-27FF 2900-2B95 2B97-2BFF 2CE5-2CEA 2CF9-2CFF",
    "2E00-3004 3008-3020 3030 3037 303D-303F 30A0 30FB 31C0-31E3 4DC0-4DFF A490-A4C6 A60D-A60F A673 A67E-A67F",
    "A700-A721 A788 A828-A82B A838-A839 A874-A877 AB6A-AB6B FD3E-FD4F FDCF-FDFF FE45-FE46 10101 10140-1018C",
    "10190-101A0 1091F 10B39-10B3F 11052-11065 11660-1166C 11FD5-11FF1 16FE2 1D1E9-1D241 1D245 1D300-1D356 1E2FF",
    "1EEF0-1F12F 1F16D-1F16F 1F1AD 1F260-1F6D7 1F6DC-1F776 1F77B-1F8B1 1F900-1FA53 1FA60-1FA88 1FA90-1FABD",
    "1FABF-1FAC5 1FACE-1FADB 1FAE0-1FAE8 1FAF0-1FBCA"]

inductive Direction where
  | rightward
  | leftward
  | arabicNumber
  | plainNumber
  | mark
  | neutral
  deriving DecidableEq, Repr

def direction (c : Char) : Direction :=
  if leftward.holds c then .leftward
  else if arabicNumbers.holds c then .arabicNumber
  else if plainNumbers.holds c then .plainNumber
  else if flatMarks.holds c then .mark
  else if neutral.holds c then .neutral
  else .rightward

/-- whether the directions of a label are in order, once some character is read from right to left: a label starts with
a letter, all other letters have its direction, and it ends with a letter or a digit -/
def isOrdered (label : List Char) : Bool :=
  let directions := label.map direction
  let last := (directions.reverse.dropWhile (· = .mark)).head?
  match directions.head? with
  | some .rightward =>
    directions.all (fun d => d ≠ .leftward && d ≠ .arabicNumber) && (last = some .rightward || last = some .plainNumber)
  | some .leftward =>
    directions.all (· ≠ .rightward) && !(directions.contains .arabicNumber && directions.contains .plainNumber) &&
      (last = some .leftward || last = some .arabicNumber || last = some .plainNumber)
  | _ => false

/-- whether a character is read from right to left -/
def isFromRight (c : Char) : Bool :=
  let d := direction c
  d = .leftward || d = .arabicNumber

/-! ## Labels -/

/-- whether a label has only allowed characters, no hyphen at its ends or in its third and fourth places, and no mark
without a letter before it -/
def isLabel (label : List Char) : Bool :=
  label ≠ [] && label.all isAllowed && label.head? ≠ some '-' && label.getLast? ≠ some '-' &&
    (label.drop 2).take 2 ≠ ['-', '-'] && !label.head?.any marks.holds && hasJoiners [] label

/-- the label that a written one stands for; one that starts with `xn--` is written in ASCII and has other characters -/
def label? (written : List Char) : Option (List Char) :=
  match written with
  | 'x' :: 'n' :: '-' :: '-' :: rest => do
    let label ← Punycode.decode? rest
    if label.all fun c => c.toNat < 0x80 then failure else return label
  | _ => some written

def asciiLabel (label : List Char) : List Char :=
  if label.all fun c => c.toNat < 0x80 then label else "xn--".toList ++ Punycode.encode label

/-! ## Neighbours -/

/-- whether a character is one of some code points -/
def isWithin (low high : Nat) (c : Char) : Bool :=
  low ≤ c.toNat && c.toNat ≤ high

/-- characters that are letters of names but are not allowed in them -/
def isExcluded (c : Char) : Bool :=
  "\u0640\u07fa\u302e\u302f\u303b".toList.contains c || isWithin 0x3031 0x3035 c

/-- whether the characters that need certain neighbours have them; `before` is the character in front -/
def hasNeighbours (before : Option Char) : List Char → Bool
  | [] => true
  | c :: rest =>
    !isExcluded c && (c ≠ '\u200d' || before.any viramas.holds) &&
      (c ≠ '\u00b7' || (before = some 'l' && rest.head? = some 'l')) &&
      (c ≠ '\u0375' || rest.head?.any (isWithin 0x370 0x3FF)) &&
      ((c ≠ '\u05f3' && c ≠ '\u05f4') || before.any (isWithin 0x590 0x5FF)) && hasNeighbours (some c) rest

/-- whether a name with the middle point of a Japanese script has other characters of such scripts, and no digits of two
Arabic kinds -/
def isConsistent (name : List Char) : Bool :=
  let isJapanese (c : Char) : Bool := c ≠ '\u30fb' && (isWithin 0x3040 0x30FF c || isWithin 0x4E00 0x9FFF c)
  (!name.contains '\u30fb' || name.any isJapanese) &&
    !(name.any (isWithin 0x660 0x669) && name.any (isWithin 0x6F0 0x6F9))

end Idn

def isIdnHostname (text : List Char) : Bool :=
  match (Text.parts '.' (text.flatMap Mapping.written)).mapM Idn.label? with
  | none => false
  | some labels =>
    let ascii := labels.map Idn.asciiLabel
    let name := ['.'].intercalate labels
    labels.all Idn.isLabel && (!name.any Idn.isFromRight || labels.all Idn.isOrdered) &&
      ascii.all (·.length ≤ 63) && (['.'].intercalate ascii).length ≤ 253 &&
      Idn.hasNeighbours none name && Idn.isConsistent name

end ToolGateway.Address
