import BlockGraph.Text.Case

namespace BlockGraph.Text

/-- The characters that fold to one other character, written as `lowerText` is. -/
def simpleFoldText : String :=
  "41-5A:32;B5:775;C0-D6:32;D8-DE:32;100-12E:1:2;132-136:1:2;139-147:1:2;14A-176:1:2;" ++
  "178:-121;179-17D:1:2;17F:-268;181:210;182-184:1:2;186:206;187:1;189-18A:205;18B:1;" ++
  "18E:79;18F:202;190:203;191:1;193:205;194:207;196:211;197:209;198:1;19C:211;19D:213;" ++
  "19F:214;1A0-1A4:1:2;1A6:218;1A7:1;1A9:218;1AC:1;1AE:218;1AF:1;1B1-1B2:217;1B3-1B5:1:2;" ++
  "1B7:219;1B8:1;1BC:1;1C4:2;1C5:1;1C7:2;1C8:1;1CA:2;1CB-1DB:1:2;1DE-1EE:1:2;1F1:2;" ++
  "1F2-1F4:1:2;1F6:-97;1F7:-56;1F8-21E:1:2;220:-130;222-232:1:2;23A:10795;23B:1;23D:-163;" ++
  "23E:10792;241:1;243:-195;244:69;245:71;246-24E:1:2;345:116;370-372:1:2;376:1;37F:116;" ++
  "386:38;388-38A:37;38C:64;38E-38F:63;391-3A1:32;3A3-3AB:32;3C2:1;3CF:8;3D0:-30;3D1:-25;" ++
  "3D5:-15;3D6:-22;3D8-3EE:1:2;3F0:-54;3F1:-48;3F4:-60;3F5:-64;3F7:1;3F9:-7;3FA:1;" ++
  "3FD-3FF:-130;400-40F:80;410-42F:32;460-480:1:2;48A-4BE:1:2;4C0:15;4C1-4CD:1:2;" ++
  "4D0-52E:1:2;531-556:48;10A0-10C5:7264;10C7:7264;10CD:7264;13F8-13FD:-8;1C80:-6222;" ++
  "1C81:-6221;1C82:-6212;1C83-1C84:-6210;1C85:-6211;1C86:-6204;1C87:-6180;1C88:35267;" ++
  "1C90-1CBA:-3008;1CBD-1CBF:-3008;1E00-1E94:1:2;1E9B:-58;1EA0-1EFE:1:2;1F08-1F0F:-8;" ++
  "1F18-1F1D:-8;1F28-1F2F:-8;1F38-1F3F:-8;1F48-1F4D:-8;1F59-1F5F:-8:2;1F68-1F6F:-8;" ++
  "1FB8-1FB9:-8;1FBA-1FBB:-74;1FBE:-7173;1FC8-1FCB:-86;1FD8-1FD9:-8;1FDA-1FDB:-100;" ++
  "1FE8-1FE9:-8;1FEA-1FEB:-112;1FEC:-7;1FF8-1FF9:-128;1FFA-1FFB:-126;2126:-7517;212A:-8383;" ++
  "212B:-8262;2132:28;2160-216F:16;2183:1;24B6-24CF:26;2C00-2C2F:48;2C60:1;2C62:-10743;" ++
  "2C63:-3814;2C64:-10727;2C67-2C6B:1:2;2C6D:-10780;2C6E:-10749;2C6F:-10783;2C70:-10782;" ++
  "2C72:1;2C75:1;2C7E-2C7F:-10815;2C80-2CE2:1:2;2CEB-2CED:1:2;2CF2:1;A640-A66C:1:2;" ++
  "A680-A69A:1:2;A722-A72E:1:2;A732-A76E:1:2;A779-A77B:1:2;A77D:-35332;A77E-A786:1:2;" ++
  "A78B:1;A78D:-42280;A790-A792:1:2;A796-A7A8:1:2;A7AA:-42308;A7AB:-42319;A7AC:-42315;" ++
  "A7AD:-42305;A7AE:-42308;A7B0:-42258;A7B1:-42282;A7B2:-42261;A7B3:928;A7B4-A7C2:1:2;" ++
  "A7C4:-48;A7C5:-42307;A7C6:-35384;A7C7-A7C9:1:2;A7D0:1;A7D6-A7D8:1:2;A7F5:1;" ++
  "AB70-ABBF:-38864;FF21-FF3A:32;10400-10427:40;104B0-104D3:40;10570-1057A:39;" ++
  "1057C-1058A:39;1058C-10592:39;10594-10595:39;10C80-10CB2:64;118A0-118BF:32;" ++
  "16E40-16E5F:32;1E900-1E921:34;"

/-- The characters that fold to several: `c:x y …`, the character and its folding in
hexadecimal. -/
def fullFoldText : String :=
  "DF:73 73;130:69 307;149:2BC 6E;1F0:6A 30C;390:3B9 308 301;3B0:3C5 308 301;587:565 582;" ++
  "1E96:68 331;1E97:74 308;1E98:77 30A;1E99:79 30A;1E9A:61 2BE;1E9E:73 73;1F50:3C5 313;" ++
  "1F52:3C5 313 300;1F54:3C5 313 301;1F56:3C5 313 342;1F80:1F00 3B9;1F81:1F01 3B9;" ++
  "1F82:1F02 3B9;1F83:1F03 3B9;1F84:1F04 3B9;1F85:1F05 3B9;1F86:1F06 3B9;1F87:1F07 3B9;" ++
  "1F88:1F00 3B9;1F89:1F01 3B9;1F8A:1F02 3B9;1F8B:1F03 3B9;1F8C:1F04 3B9;1F8D:1F05 3B9;" ++
  "1F8E:1F06 3B9;1F8F:1F07 3B9;1F90:1F20 3B9;1F91:1F21 3B9;1F92:1F22 3B9;1F93:1F23 3B9;" ++
  "1F94:1F24 3B9;1F95:1F25 3B9;1F96:1F26 3B9;1F97:1F27 3B9;1F98:1F20 3B9;1F99:1F21 3B9;" ++
  "1F9A:1F22 3B9;1F9B:1F23 3B9;1F9C:1F24 3B9;1F9D:1F25 3B9;1F9E:1F26 3B9;1F9F:1F27 3B9;" ++
  "1FA0:1F60 3B9;1FA1:1F61 3B9;1FA2:1F62 3B9;1FA3:1F63 3B9;1FA4:1F64 3B9;1FA5:1F65 3B9;" ++
  "1FA6:1F66 3B9;1FA7:1F67 3B9;1FA8:1F60 3B9;1FA9:1F61 3B9;1FAA:1F62 3B9;1FAB:1F63 3B9;" ++
  "1FAC:1F64 3B9;1FAD:1F65 3B9;1FAE:1F66 3B9;1FAF:1F67 3B9;1FB2:1F70 3B9;1FB3:3B1 3B9;" ++
  "1FB4:3AC 3B9;1FB6:3B1 342;1FB7:3B1 342 3B9;1FBC:3B1 3B9;1FC2:1F74 3B9;1FC3:3B7 3B9;" ++
  "1FC4:3AE 3B9;1FC6:3B7 342;1FC7:3B7 342 3B9;1FCC:3B7 3B9;1FD2:3B9 308 300;" ++
  "1FD3:3B9 308 301;1FD6:3B9 342;1FD7:3B9 308 342;1FE2:3C5 308 300;1FE3:3C5 308 301;" ++
  "1FE4:3C1 313;1FE6:3C5 342;1FE7:3C5 308 342;1FF2:1F7C 3B9;1FF3:3C9 3B9;1FF4:3CE 3B9;" ++
  "1FF6:3C9 342;1FF7:3C9 342 3B9;1FFC:3C9 3B9;FB00:66 66;FB01:66 69;FB02:66 6C;" ++
  "FB03:66 66 69;FB04:66 66 6C;FB05:73 74;FB06:73 74;FB13:574 576;FB14:574 565;" ++
  "FB15:574 56B;FB16:57E 576;FB17:574 56D;"

def simpleFoldRanges : Array CaseRange := parseCaseRanges simpleFoldText

def fullFolds : List (Nat × List Char) :=
  (fullFoldText.splitOn ";").filterMap fun item =>
    match item.splitOn ":" with
    | [c, folded] => some (Unicode.parseHex c, (folded.splitOn " ").map fun x => Char.ofNat (Unicode.parseHex x))
    | _ => none

def foldChar (c : Char) : List Char :=
  if 'A' ≤ c ∧ c ≤ 'Z' then [Char.ofNat (c.toNat + 32)]
  else if c.toNat < 0xB5 then [c]
  else
    match fullFolds.lookup c.toNat with
    | some folded => folded
    | none => [mapByRanges simpleFoldRanges c]

def fold (s : String) : String := String.ofList (s.toList.flatMap foldChar)

end BlockGraph.Text
