import Telemetry.Text.CharacterTable

/-!
# The direction of labels

Every character has a direction of writing or takes part in one.  In a name with a letter that is
written from right to left each label must have a direction of its own, so that its characters are
not mixed up with those of its neighbours.
-/

namespace Telemetry
namespace Domain

/-- What a character does to the direction of writing. -/
inductive Direction where
  | leftToRight
  | rightToLeft
  | arabicLetter
  | arabicNumber
  | europeanNumber
  | europeanSeparator
  | europeanTerminator
  | commonSeparator
  | neutral
  | boundary
  /-- A mark, which follows the character before it. -/
  | follower
  deriving DecidableEq, Repr

/-- The characters of Unicode 17 that may stand in a name and are not written from left to right,
with a letter for what they do.  Ranges run over characters that may not stand in a name. -/
def directionLines : List String :=
  ["0-8=B E-1B=B 21-22=O 23-25=T 26-2A=O 2B=S 2C=C 2D=S 2E-2F=C 30-39=E 3A=C 3B-60=O 7B-7E=O",
    "7F=B A1=O A2-A5=T A6-AE=O B0-B1=T B6-D7=O F7=O 2B9-2BA=O 2C2-2CF=O 2D2-2ED=O 2EF-2FF=O",
    "300-36F=F 375=O 3F6=O 483-489=F 58A-58E=O 58F=T 591-5BD=F 5BE=R 5BF=F 5C0=R 5C1-5C2=F 5C3=R",
    "5C4-5C5=F 5C6=R 5C7=F 5D0-5F4=R 606-607=O 608=A 609-60A=T 60B=A 60C=C 60D=A 60E-60F=O",
    "610-61A=F 61B-64A=A 64B-65F=F 660-669=D 66A=T 66B-66C=D 66D-66F=A 670=F 671-6D5=A 6D6-6DC=F",
    "6DE=O 6DF-6E4=F 6E5-6E6=A 6E7-6E8=F 6E9=O 6EA-6ED=F 6EE-6EF=A 6F0-6F9=E 6FA-710=A 711=F",
    "712-72F=A 730-74A=F 74D-7A5=A 7A6-7B0=F 7B1=A 7C0-7EA=R 7EB-7F3=F 7F4-7F5=R 7F6-7F9=O 7FA=R",
    "7FD=F 7FE-815=R 816-819=F 81A=R 81B-823=F 824=R 825-827=F 828=R 829-82D=F 830-858=R",
    "859-85B=F 85E=R 860-88F=A 897-89F=F 8A0-8C9=A 8CA-902=F 93A=F 93C=F 941-948=F 94D=F",
    "951-957=F 962-963=F 981=F 9BC=F 9C1-9C4=F 9CD=F 9E2-9E3=F 9F2-9F3=T 9FB=T 9FE-A02=F A3C=F",
    "A41-A51=F A70-A71=F A75=F A81-A82=F ABC=F AC1-AC8=F ACD=F AE2-AE3=F AF1=T AFA-B01=F B3C=F",
    "B3F=F B41-B44=F B4D-B56=F B62-B63=F B82=F BC0=F BCD=F BF3-BF8=O BF9=T BFA=O C00=F C04=F",
    "C3C=F C3E-C40=F C46-C56=F C62-C63=F C78-C7E=O C81=F CBC=F CCC-CCD=F CE2-CE3=F D00-D01=F",
    "D3B-D3C=F D41-D44=F D4D=F D62-D63=F D81=F DCA=F DD2-DD6=F E31=F E34-E3A=F E3F=T E47-E4E=F",
    "EB1=F EB4-EBC=F EC8-ECE=F F18-F19=F F35=F F37=F F39=F F3A-F3D=O F71-F7E=F F80-F84=F",
    "F86-F87=F F8D-FBC=F FC6=F 102D-1030=F 1032-1037=F 1039-103A=F 103D-103E=F 1058-1059=F",
    "105E-1060=F 1071-1074=F 1082=F 1085-1086=F 108D=F 109D=F 135D-135F=F 1390-1399=O 1400=O",
    "169B-169C=O 1712-1714=F 1732-1733=F 1752-1753=F 1772-1773=F 17B7-17BD=F 17C6=F 17C9-17D3=F",
    "17DB=T 17DD=F 17F0-180A=O 1885-1886=F 18A9=F 1920-1922=F 1927-1928=F 1932=F 1939-193B=F",
    "1940-1945=O 19DE-19FF=O 1A17-1A18=F 1A1B=F 1A56=F 1A58-1A60=F 1A62=F 1A65-1A6C=F 1A73-1A7F=F",
    "1AB0-1B03=F 1B34=F 1B36-1B3A=F 1B3C=F 1B42=F 1B6B-1B73=F 1B80-1B81=F 1BA2-1BA5=F 1BA8-1BA9=F",
    "1BAB-1BAD=F 1BE6=F 1BE8-1BE9=F 1BED=F 1BEF-1BF1=F 1C2C-1C33=F 1C36-1C37=F 1CD0-1CD2=F",
    "1CD4-1CE0=F 1CE2-1CE8=F 1CED=F 1CF4=F 1CF8-1CF9=F 1DC0-1DFF=F 200C-200D=B 2010-2027=O",
    "2030-2032=T 2035-2043=O 2044=C 2045-205E=O 20A0-20C1=T 20D0-20F0=F 2104-2129=O 212E=T",
    "213A-214D=O 218A-2211=O 2212=S 2213=T 2214-2335=O 237B-2394=O 2396-26AB=O 26AD-27FF=O",
    "2900-2BFF=O 2CE5-2CEA=O 2CEF-2CF1=F 2CF9-2CFF=O 2D7F=F 2DE0-2DFF=F 2E00-3004=O 3008-3020=O",
    "302A-302D=F 3030=O 3037=O 303D-303F=O 3099-309A=F 30A0=O 30FB=O 31C0-31E5=O 4DC0-4DFF=O",
    "A490-A4C6=O A60D-A60F=O A66F-A672=F A673=O A674-A67D=F A67E-A67F=O A69E-A69F=F A6F0-A6F1=F",
    "A700-A721=O A788=O A802=F A806=F A80B=F A825-A826=F A828-A82B=O A82C=F A838-A839=T",
    "A874-A877=O A8C4-A8C5=F A8E0-A8F1=F A8FF=F A926-A92D=F A947-A951=F A980-A982=F A9B3=F",
    "A9B6-A9B9=F A9BC-A9BD=F A9E5=F AA29-AA2E=F AA31-AA32=F AA35-AA36=F AA43=F AA4C=F AA7C=F",
    "AAB0=F AAB2-AAB4=F AAB7-AAB8=F AABE-AABF=F AAC1=F AAEC-AAED=F AAF6=F AB6A-AB6B=O ABE5=F",
    "ABE8=F ABED=F FB1E=F FBB2-FBC2=A FBC3-FDFF=O FE20-FE2F=F FE45-FE46=O FE73=A 10101=O",
    "10140-1018C=O 10190-101A0=O 101FD=F 102E0=F 102E1-102FB=E 10376-1037A=F 10800-1091B=R",
    "1091F=O 10920-10A00=R 10A01-10A0F=F 10A10-10A35=R 10A38-10A3F=F 10A40-10AE4=R 10AE5-10AE6=F",
    "10AEB-10B35=R 10B39-10B3F=O 10B40-10CFF=R 10D00-10D23=A 10D24-10D27=F 10D30-10D39=D",
    "10D40-10D4F=R 10D69-10D6D=F 10D6E=O 10D6F-10D8F=R 10E60-10E7E=D 10E80-10EA9=R 10EAB-10EAC=F",
    "10EAD-10EB1=R 10EC2-10EC7=A 10ED0-10ED8=O 10EFA-10EFF=F 10F00-10F27=R 10F30-10F45=A",
    "10F46-10F50=F 10F51-10F59=A 10F70-10F81=R 10F82-10F85=F 10F86-10FF6=R 11001=F 11038-11046=F",
    "11052-11065=O 11070=F 11073-11074=F 1107F-11081=F 110B3-110B6=F 110B9-110BA=F 110C2=F",
    "11100-11102=F 11127-1112B=F 1112D-11134=F 11173=F 11180-11181=F 111B6-111BE=F 111C9-111CC=F",
    "111CF=F 1122F-11231=F 11234=F 11236-11237=F 1123E=F 11241=F 112DF=F 112E3-112EA=F",
    "11300-11301=F 1133B-1133C=F 11340=F 11366-11374=F 113BB-113C0=F 113CE=F 113D0=F 113D2=F",
    "113E1-113E2=F 11438-1143F=F 11442-11444=F 11446=F 1145E=F 114B3-114B8=F 114BA=F",
    "114BF-114C0=F 114C2-114C3=F 115B2-115B5=F 115BC-115BD=F 115BF-115C0=F 115DC-115DD=F",
    "11633-1163A=F 1163D=F 1163F-11640=F 11660-1166C=O 116AB=F 116AD=F 116B0-116B5=F 116B7=F",
    "1171D-1171F=F 11722-11725=F 11727-1172B=F 1182F-11837=F 11839-1183A=F 1193B-1193C=F 1193E=F",
    "11943=F 119D4-119DB=F 119E0=F 11A01-11A06=F 11A09-11A0A=F 11A33-11A38=F 11A3B-11A3E=F",
    "11A47=F 11A51-11A56=F 11A59-11A5B=F 11A8A-11A96=F 11A98-11A99=F 11B60=F 11B62-11B64=F",
    "11B66=F 11C30-11C3D=F 11C92-11CA7=F 11CAA-11CB0=F 11CB2-11CB3=F 11CB5-11CB6=F 11D31-11D45=F",
    "11D47=F 11D90-11D91=F 11D95=F 11D97=F 11EF3-11EF4=F 11F00-11F01=F 11F36-11F3A=F 11F40=F",
    "11F42=F 11F5A=F 11FD5-11FDC=O 11FDD-11FE0=T 11FE1-11FF1=O 13440=F 13447-13455=F",
    "1611E-16129=F 1612D-1612F=F 16AF0-16AF4=F 16B30-16B36=F 16F4F=F 16F8F-16F92=F 16FE2=O",
    "16FE4=F 1BC9D-1BC9E=F 1CC00-1CEF0=O 1CF00-1CF46=F 1D167-1D169=F 1D17B-1D182=F 1D185-1D18B=F",
    "1D1AA-1D1AD=F 1D1E9-1D241=O 1D242-1D244=F 1D245=O 1D300-1D356=O 1DA00-1DA36=F 1DA3B-1DA6C=F",
    "1DA75=F 1DA84=F 1DA9B-1DAAF=F 1E000-1E08F=F 1E130-1E136=F 1E2AE=F 1E2EC-1E2EF=F 1E2FF=T",
    "1E4EC-1E4EF=F 1E5EE-1E5EF=F 1E6E3=F 1E6E6=F 1E6EE-1E6EF=F 1E6F5=F 1E800-1E8CF=R",
    "1E8D0-1E8D6=F 1E922-1E943=R 1E944-1E94A=F 1E94B-1E95F=R 1EC71-1ED3D=A 1EEF0-1F12F=O",
    "1F16D-1F16F=O 1F1AD=O 1F260-1FBFA=O"]

/-- The direction that a letter of the table stands for. -/
def Direction.read : List Char → Direction
  | ['R'] => .rightToLeft
  | ['A'] => .arabicLetter
  | ['D'] => .arabicNumber
  | ['E'] => .europeanNumber
  | ['S'] => .europeanSeparator
  | ['T'] => .europeanTerminator
  | ['C'] => .commonSeparator
  | ['O'] => .neutral
  | ['B'] => .boundary
  | ['F'] => .follower
  | _ => .leftToRight

/-- The characters that are not written from left to right. -/
def directionTable : CharacterTable Direction := .read Direction.read directionLines

/-- What a character does to the direction of writing. -/
def direction (character : Char) : Direction :=
  (directionTable.find? character).getD .leftToRight

/-- Whether a character makes its name one with a direction. -/
def Direction.runsLeft : Direction → Bool
  | .rightToLeft | .arabicLetter | .arabicNumber => true
  | _ => false

/-- What may stand in a label of either direction. -/
def Direction.isCommon : Direction → Bool
  | .europeanNumber | .europeanSeparator | .europeanTerminator | .commonSeparator | .neutral
  | .boundary | .follower => true
  | _ => false

/-- Whether directions make a label that is written from left to right, its first one aside. -/
def keepsRight (directions : List Direction) : Bool :=
  directions.all fun direction => direction == .leftToRight || direction.isCommon

/-- Whether directions make a label that is written from right to left.  It has numbers of one kind
only. -/
def keepsLeft (directions : List Direction) : Bool :=
  (directions.all fun direction => direction.runsLeft || direction.isCommon) &&
    !(directions.contains .arabicNumber && directions.contains .europeanNumber)

/-- The last direction of a label, marks aside. -/
def lastDirection? (directions : List Direction) : Option Direction :=
  directions.reverse.find? (· != .follower)

/-- Whether the characters of a label have one direction: it begins with a letter and ends with a
letter or a number of that direction. -/
def hasDirection (label : List Char) : Bool :=
  let directions := label.map direction
  match directions with
  | [] => true
  | .leftToRight :: _ =>
      keepsRight directions &&
        (lastDirection? directions).any fun last =>
          last == .leftToRight || last == .europeanNumber
  | .rightToLeft :: _ | .arabicLetter :: _ =>
      keepsLeft directions &&
        (lastDirection? directions).any fun last => last.runsLeft || last == .europeanNumber
  | _ => false

end Domain
end Telemetry
