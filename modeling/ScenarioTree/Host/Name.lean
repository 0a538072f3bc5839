import ScenarioTree.Host.Direction
import ScenarioTree.Host.Joining
import ScenarioTree.Host.Mapping
import ScenarioTree.Host.Punycode
import ScenarioTree.Text.Parts

/-!
# Names of hosts

The name of a host consists of labels with dots between them. Labels are made of letters, digits and
hyphens, with no hyphen at either end. They are 1 to 63 characters long, and the whole name is at
most 253 characters long.

In an international name a label may have other characters. It also has a form in ASCII, which
begins with `xn--` and has to keep the limits on the length. `International.labels?` gives the
labels of an international name in their normal form.
-/

namespace ScenarioTree.Host

/-- Whether labels have the lengths that they may have, each and together. -/
def fits (lengths : List Nat) : Bool :=
  lengths.all (fun n => 1 ≤ n && n ≤ 63) && lengths.foldr (· + ·) lengths.length ≤ 254

/-- Whether a character may stand in a label of a plain name. -/
def isLabelCharacter (c : Char) : Bool := c.isAlphanum || c == '-'

/-- Whether a text is the name of a host. -/
def isName (text : List Char) : Bool :=
  let labels := Text.partsAt '.' text
  fits (labels.map List.length)
    && labels.all fun label =>
      label.all isLabelCharacter && label.head? != some '-' && label.getLast? != some '-'

namespace International

/-! ## Labels -/

/-- The marks, which no label starts with. -/
def markRanges : List (Nat × Nat) := Text.readRanges
  "300-36F 483-489 591-5BD 5BF 5C1-5C2 5C4-5C5 5C7 610-61A 64B-65F 670 6D6-6DC 6DF-6E4 6E7-6E8
  6EA-6ED 711 730-74A 7A6-7B0 7EB-7F3 7FD 816-819 81B-823 825-827 829-82D 859-85B 897-89F 8CA-903
  93A-93C 93E-94F 951-957 962-963 981-983 9BC 9BE-9CD 9D7 9E2-9E3 9FE-A03 A3C-A51 A70-A71 A75
  A81-A83 ABC ABE-ACD AE2-AE3 AFA-B03 B3C B3E-B57 B62-B63 B82 BBE-BCD BD7 C00-C04 C3C C3E-C56
  C62-C63 C81-C83 CBC CBE-CD6 CE2-CE3 CF3-D03 D3B-D3C D3E-D4D D57 D62-D63 D81-D83 DCA-DDF DF2-DF3
  E31 E34-E3A E47-E4E EB1 EB4-EBC EC8-ECE F18-F19 F35:F39 F3E-F3F F71-F84 F86-F87 F8D-FBC FC6
  102B-103E 1056-1059 105E-1060 1062-1064 1067-106D 1071-1074 1082-108D 108F 109A-109D 135D-135F
  1712-1715 1732-1734 1752-1753 1772-1773 17B4-17D3 17DD 180B-180D 180F 1885-1886 18A9 1920-193B
  1A17-1A1B 1A55-1A7F 1AB0-1B04 1B34-1B44 1B6B-1B73 1B80-1B82 1BA1-1BAD 1BE6-1BF3 1C24-1C37
  1CD0-1CD2 1CD4-1CE8 1CED 1CF4 1CF7-1CF9 1DC0-1DFF 20D0-20F0 2CEF-2CF1 2D7F 2DE0-2DFF 302A-302F
  3099-309A A66F-A672 A674-A67D A69E-A69F A6F0-A6F1 A802 A806 A80B A823-A827 A82C A880-A881
  A8B4-A8C5 A8E0-A8F1 A8FF A926-A92D A947-A953 A980-A983 A9B3-A9C0 A9E5 AA29-AA36 AA43 AA4C-AA4D
  AA7B-AA7D AAB0 AAB2-AAB4 AAB7-AAB8 AABE-AABF AAC1 AAEB-AAEF AAF5-AAF6 ABE3-ABEA ABEC-ABED FB1E
  FE00-FE0F FE20-FE2F 101FD 102E0 10376-1037A 10A01-10A0F 10A38-10A3F 10AE5-10AE6 10D24-10D27
  10D69-10D6D 10EAB-10EAC 10EFA-10EFF 10F46-10F50 10F82-10F85 11000-11002 11038-11046 11070
  11073-11074 1107F-11082 110B0-110BA 110C2 11100-11102 11127-11134 11145-11146 11173 11180-11182
  111B3-111C0 111C9-111CC 111CE-111CF 1122C-11237 1123E 11241 112DF-112EA 11300-11303 1133B-1133C
  1133E-1134D 11357 11362-11374 113B8-113D0 113D2 113E1-113E2 11435-11446 1145E 114B0-114C3
  115AF-115C0 115DC-115DD 11630-11640 116AB-116B7 1171D-1172B 1182C-1183A 11930-1193E 11940
  11942-11943 119D1-119E0 119E4 11A01-11A0A 11A33-11A39 11A3B-11A3E 11A47 11A51-11A5B 11A8A-11A99
  11B60-11B67 11C2F-11C3F 11C92-11CB6 11D31-11D45 11D47 11D8A-11D97 11EF3-11EF6 11F00-11F01 11F03
  11F34-11F42 11F5A 13440 13447-13455 1611E-1612F 16AF0-16AF4 16B30-16B36 16F4F 16F51-16F92
  16FE4-16FF1 1BC9D-1BC9E 1CF00-1CF46 1D165-1D169 1D16D-1D172 1D17B-1D182 1D185-1D18B 1D1AA-1D1AD
  1D242-1D244 1DA00-1DA36 1DA3B-1DA6C 1DA75 1DA84 1DA9B-1DAAF 1E000-1E02A 1E08F 1E130-1E136 1E2AE
  1E2EC-1E2EF 1E4EC-1E4EF 1E5EE-1E5EF 1E6E3 1E6E6 1E6EE-1E6EF 1E6F5 1E8D0-1E8D6 1E944-1E94A
  E0100-E01EF"

def hyphen : Nat := 0x2D

/-- Whether a character may stand in a label: of ASCII only those of plain names. -/
def isPermitted (n : Nat) : Bool := 0x80 ≤ n || isLabelCharacter (Char.ofNat n)

/-- Whether a label has its hyphens, marks and joiners where they may be. No label but those that
    begin with `xn--` has hyphens in the third and fourth place. -/
def isWellFormed (label : List Nat) : Bool :=
  label.all isPermitted
    && label.head? != some hyphen && label.getLast? != some hyphen
    && !((label.drop 2).take 2 == [hyphen, hyphen])
    && !label.head?.any (Text.inRanges markRanges)
    && placesJoiners [] label

/-- A label in its international form, and the length of its form in ASCII. -/
structure Label where
  text : List Nat
  length : Nat

/-- A label as it is written, with characters that stand for themselves. What a label in ASCII
    stands for must not be ASCII, nor have another form. -/
def readLabel? (label : List Nat) : Option Label :=
  match label with
  | 0x78 :: 0x6E :: 0x2D :: 0x2D :: rest =>
    if rest.all (· < 0x80) then
      match Punycode.decode? (rest.map Char.ofNat) with
      | some text =>
        if text.any (0x80 ≤ ·) && text.all isPlain && Text.normalize text == text
            && isWellFormed text then
          some ⟨text, label.length⟩
        else none
      | none => none
    else none
  | label =>
    if isWellFormed label then
      some ⟨label,
        if label.all (· < 0x80) then label.length else 4 + (Punycode.encode label).length⟩
    else none

/-- The labels of an international name. -/
def labels? (text : List Char) : Option (List (List Nat)) := do
  let characters ← text.mapM fun c => expand? c.toNat
  let labels ← (Text.partsAt 0x2E (Text.normalize characters.flatten)).mapM readLabel?
  let directions := labels.map fun label => label.text.map Direction.of
  if fits (labels.map (·.length))
      && (!(directions.any (·.any Direction.isRightward)) || directions.all Direction.agree) then
    return labels.map (·.text)
  else none

/-! ## Characters that depend on others -/

/-- Whether a character is of a script of Japan, or a Chinese character. -/
def isJapanese (n : Nat) : Bool :=
  (0x3040 ≤ n && n ≤ 0x309F) || (0x30A0 ≤ n && n ≤ 0x30FF && n != 0x30FB)
    || (0x4E00 ≤ n && n ≤ 0x9FFF)

/-- The characters that stand in no name: they stretch or repeat others, or mark tones. -/
def excluded : List Nat :=
  [0x0640, 0x07FA, 0x302E, 0x302F, 0x3031, 0x3032, 0x3033, 0x3034, 0x3035, 0x303B]

/-- Whether the characters around one allow it to stand there. -/
def isAllowedBetween (before? : Option Nat) (n : Nat) (after? : Option Nat) : Bool :=
  if n = 0xB7 then before? == some 0x6C && after? == some 0x6C
  else if n = 0x0375 then after?.any fun m => 0x0370 ≤ m && m ≤ 0x03FF
  else if n = 0x05F3 ∨ n = 0x05F4 then before?.any fun m => 0x0590 ≤ m && m ≤ 0x05FF
  else if n = joiner then before?.any (Text.combiningClass · == 9)
  else !excluded.contains n

/-- Whether every character of a text is allowed between its neighbours. -/
def allowsNeighbours : Option Nat → List Nat → Bool
  | _, [] => true
  | before?, n :: rest => isAllowedBetween before? n rest.head? && allowsNeighbours (some n) rest

end International

/-- Whether a text is an international name of a host. Digits of the two Arabic forms do not go
    together, and the middle dot of Japan needs another character of its scripts. -/
def isInternationalName (text : List Char) : Bool :=
  match International.labels? text with
  | none => false
  | some labels =>
    let name := List.intercalate [0x2E] labels
    International.allowsNeighbours none name
      && (!name.contains 0x30FB || name.any International.isJapanese)
      && !(name.any (fun n => 0x0660 ≤ n && n ≤ 0x0669)
        && name.any fun n => 0x06F0 ≤ n && n ≤ 0x06F9)

end ScenarioTree.Host
