import Overlay.Unicode.Ranges

/-!
How many columns a character takes on a terminal: none for controls, for
characters that are ignored and for those that extend or join the one before
them, two for wide and full-width characters, and one for all others.
-/

namespace Overlay.Unicode

def zeroWidthRanges : Ranges := .ofRows
  ["0-1F 7F-9F 300-36F 483-489 591-5BD 5BF 5C1-5C2 5C4-5C5 5C7 605 610-61A 61C 64B-65F 670",
   "6D6-6DC 6DF-6E4 6E7-6E8 6EA-6ED 70F 711 730-74A 7A6-7B0 7EB-7F3 7FD 816-819 81B-823",
   "825-827 829-82D 859-85B 890-891 897-89F 8CA-902 93A 93C 941-948 94D 951-957 962-963",
   "981 9BC 9BE 9C1-9C4 9CD 9D7 9E2-9E3 9FE A01-A02 A3C A41-A42 A47-A48 A4B-A4D A51",
   "A70-A71 A75 A81-A82 ABC AC1-AC5 AC7-AC8 ACD AE2-AE3 AFA-AFF B01 B3C B3E-B3F B41-B44",
   "B4D B55-B57 B62-B63 B82 BBE BC0 BCD BD7 C00 C04 C3C C3E-C40 C46-C48 C4A-C4D C55-C56",
   "C62-C63 C81 CBC CBF-CC0 CC2 CC6-CC8 CCA-CCD CD5-CD6 CE2-CE3 D00-D01 D3B-D3C D3E",
   "D41-D44 D4D D57 D62-D63 D81 DCA DCF DD2-DD4 DD6 DDF E31 E34-E3A E47-E4E EB1 EB4-EBC",
   "EC8-ECE F18-F19 F35 F37 F39 F71-F7E F80-F84 F86-F87 F8D-F97 F99-FBC FC6 102D-1030",
   "1032-1037 1039-103A 103D-103E 1058-1059 105E-1060 1071-1074 1082 1085-1086 108D 109D",
   "1160-11FF 135D-135F 1712-1715 1732-1734 1752-1753 1772-1773 17B4-17B5 17B7-17BD 17C6",
   "17C9-17D3 17DD 180B-180F 1885-1886 18A9 1920-1922 1927-1928 1932 1939-193B 1A17-1A18",
   "1A1B 1A56 1A58-1A5E 1A60 1A62 1A65-1A6C 1A73-1A7C 1A7F 1AB0-1ACE 1B00-1B03 1B34-1B3D",
   "1B42-1B44 1B6B-1B73 1B80-1B81 1BA2-1BA5 1BA8-1BAD 1BE6 1BE8-1BE9 1BED 1BEF-1BF3",
   "1C2C-1C33 1C36-1C37 1CD0-1CD2 1CD4-1CE0 1CE2-1CE8 1CED 1CF4 1CF8-1CF9 1DC0-1DFF",
   "200B-200F 202A-202E 2060-206F 20D0-20F0 2CEF-2CF1 2D7F 2DE0-2DFF 302A-302F 3099-309A",
   "3164 A66F-A672 A674-A67D A69E-A69F A6F0-A6F1 A802 A806 A80B A825-A826 A82C A8C4-A8C5",
   "A8E0-A8F1 A8FA A8FF A926-A92D A947-A951 A953 A980-A982 A9B3 A9B6-A9B9 A9BC-A9BD A9C0",
   "A9E5 AA29-AA2E AA31-AA32 AA35-AA36 AA43 AA4C AA7C AAB0 AAB2-AAB4 AAB7-AAB8 AABE-AABF",
   "AAC1 AAEC-AAED AAF6 ABE5 ABE8 ABED D7B0-D7C6 D7CB-D7FB FB1E FE00-FE0F FE20-FE2F FEFF",
   "FF9E-FFA0 FFF0-FFF8 101FD 102E0 10376-1037A 10A01-10A03 10A05-10A06 10A0C-10A0F",
   "10A38-10A3A 10A3F 10AE5-10AE6 10D24-10D27 10D69-10D6D 10EAB-10EAC 10EFC-10EFF",
   "10F46-10F50 10F82-10F85 11001 11038-11046 11070 11073-11074 1107F-11081 110B3-110B6",
   "110B9-110BA 110C2 11100-11102 11127-1112B 1112D-11134 11173 11180-11181 111B6-111BE",
   "111C0 111C9-111CC 111CF 1122F-11231 11234-11237 1123E 11241 112DF 112E3-112EA",
   "11300-11301 1133B-1133C 1133E 11340 1134D 11357 11366-1136C 11370-11374 113B8",
   "113BB-113C0 113C2 113C5 113C7-113C9 113CE-113D0 113D2 113E1-113E2 11438-1143F",
   "11442-11444 11446 1145E 114B0 114B3-114B8 114BA 114BD 114BF-114C0 114C2-114C3 115AF",
   "115B2-115B5 115BC-115BD 115BF-115C0 115DC-115DD 11633-1163A 1163D 1163F-11640 116AB",
   "116AD 116B0-116B7 1171D 1171F 11722-11725 11727-1172B 1182F-11837 11839-1183A 11930",
   "1193B-1193E 11943 119D4-119D7 119DA-119DB 119E0 11A01-11A0A 11A33-11A38 11A3B-11A3E",
   "11A47 11A51-11A56 11A59-11A5B 11A8A-11A96 11A98-11A99 11C30-11C36 11C38-11C3D 11C3F",
   "11C92-11CA7 11CAA-11CB0 11CB2-11CB3 11CB5-11CB6 11D31-11D36 11D3A 11D3C-11D3D",
   "11D3F-11D45 11D47 11D90-11D91 11D95 11D97 11EF3-11EF4 11F00-11F01 11F36-11F3A",
   "11F40-11F42 11F5A 13440 13447-13455 1611E-16129 1612D-1612F 16AF0-16AF4 16B30-16B36",
   "16F4F 16F8F-16F92 16FE4 16FF0-16FF1 1BC9D-1BC9E 1BCA0-1BCA3 1CF00-1CF2D 1CF30-1CF46",
   "1D165-1D169 1D16D-1D182 1D185-1D18B 1D1AA-1D1AD 1D242-1D244 1DA00-1DA36 1DA3B-1DA6C",
   "1DA75 1DA84 1DA9B-1DA9F 1DAA1-1DAAF 1E000-1E006 1E008-1E018 1E01B-1E021 1E023-1E024",
   "1E026-1E02A 1E08F 1E130-1E136 1E2AE 1E2EC-1E2EF 1E4EC-1E4EF 1E5EE-1E5EF 1E8D0-1E8D6",
   "1E944-1E94A E0000-E0FFF"]

def wideRanges : Ranges := .ofRows
  ["1100-115F 231A-231B 2329-232A 23E9-23EC 23F0 23F3 25FD-25FE 2614-2615 2630-2637",
   "2648-2653 267F 268A-268F 2693 26A1 26AA-26AB 26BD-26BE 26C4-26C5 26CE 26D4 26EA",
   "26F2-26F3 26F5 26FA 26FD 2705 270A-270B 2728 274C 274E 2753-2755 2757 2795-2797 27B0",
   "27BF 2B1B-2B1C 2B50 2B55 2E80-2E99 2E9B-2EF3 2F00-2FD5 2FF0-3029 3030-303E 3041-3096",
   "309B-30FF 3105-312F 3131-3163 3165-318E 3190-31E5 31EF-321E 3220-3247 3250-A48C",
   "A490-A4C6 A960-A97C AC00-D7A3 F900-FAFF FE10-FE19 FE30-FE52 FE54-FE66 FE68-FE6B",
   "FF01-FF60 FFE0-FFE6 16FE0-16FE3 17000-187F7 18800-18CD5 18CFF-18D08 1AFF0-1AFF3",
   "1AFF5-1AFFB 1AFFD-1AFFE 1B000-1B122 1B132 1B150-1B152 1B155 1B164-1B167 1B170-1B2FB",
   "1D300-1D356 1D360-1D376 1F004 1F0CF 1F18E 1F191-1F19A 1F200-1F202 1F210-1F23B",
   "1F240-1F248 1F250-1F251 1F260-1F265 1F300-1F320 1F32D-1F335 1F337-1F37C 1F37E-1F393",
   "1F3A0-1F3CA 1F3CF-1F3D3 1F3E0-1F3F0 1F3F4 1F3F8-1F43E 1F440 1F442-1F4FC 1F4FF-1F53D",
   "1F54B-1F54E 1F550-1F567 1F57A 1F595-1F596 1F5A4 1F5FB-1F64F 1F680-1F6C5 1F6CC",
   "1F6D0-1F6D2 1F6D5-1F6D7 1F6DC-1F6DF 1F6EB-1F6EC 1F6F4-1F6FC 1F7E0-1F7EB 1F7F0",
   "1F90C-1F93A 1F93C-1F945 1F947-1F9FF 1FA70-1FA7C 1FA80-1FA89 1FA8F-1FAC6 1FACE-1FADC",
   "1FADF-1FAE9 1FAF0-1FAF8 20000-2FFFD 30000-3FFFD"]

/-- The width of a code point in columns. -/
def width (n : Nat) : Nat :=
  if 0x20 ≤ n ∧ n < 0x7F then 1
  else if zeroWidthRanges.contains n then 0
  else if wideRanges.contains n then 2
  else 1

end Overlay.Unicode

namespace Overlay.Text

/-- The sum of the widths of the characters. -/
def width : Text → Nat
  | [] => 0
  | c :: t => Unicode.width c.toNat + width t

end Overlay.Text
