import BlockGraph.Unicode.Table

namespace BlockGraph.Text

/-- The simple lower-case mapping: `lo-hi:delta` maps every character of the range to itself
plus `delta`, and `lo-hi:delta:2` every second one from `lo`; other characters are their own
lower case. -/
def lowerText : String :=
  "41-5A:32;C0-D6:32;D8-DE:32;100-12E:1:2;130:-199;132-136:1:2;139-147:1:2;14A-176:1:2;" ++
  "178:-121;179-17D:1:2;181:210;182-184:1:2;186:206;187:1;189-18A:205;18B:1;18E:79;18F:202;" ++
  "190:203;191:1;193:205;194:207;196:211;197:209;198:1;19C:211;19D:213;19F:214;1A0-1A4:1:2;" ++
  "1A6:218;1A7:1;1A9:218;1AC:1;1AE:218;1AF:1;1B1-1B2:217;1B3-1B5:1:2;1B7:219;1B8:1;1BC:1;" ++
  "1C4:2;1C5:1;1C7:2;1C8:1;1CA:2;1CB-1DB:1:2;1DE-1EE:1:2;1F1:2;1F2-1F4:1:2;1F6:-97;1F7:-56;" ++
  "1F8-21E:1:2;220:-130;222-232:1:2;23A:10795;23B:1;23D:-163;23E:10792;241:1;243:-195;" ++
  "244:69;245:71;246-24E:1:2;370-372:1:2;376:1;37F:116;386:38;388-38A:37;38C:64;38E-38F:63;" ++
  "391-3A1:32;3A3-3AB:32;3CF:8;3D8-3EE:1:2;3F4:-60;3F7:1;3F9:-7;3FA:1;3FD-3FF:-130;" ++
  "400-40F:80;410-42F:32;460-480:1:2;48A-4BE:1:2;4C0:15;4C1-4CD:1:2;4D0-52E:1:2;531-556:48;" ++
  "10A0-10C5:7264;10C7:7264;10CD:7264;13A0-13EF:38864;13F0-13F5:8;1C89:1;1C90-1CBA:-3008;" ++
  "1CBD-1CBF:-3008;1E00-1E94:1:2;1E9E:-7615;1EA0-1EFE:1:2;1F08-1F0F:-8;1F18-1F1D:-8;" ++
  "1F28-1F2F:-8;1F38-1F3F:-8;1F48-1F4D:-8;1F59-1F5F:-8:2;1F68-1F6F:-8;1F88-1F8F:-8;" ++
  "1F98-1F9F:-8;1FA8-1FAF:-8;1FB8-1FB9:-8;1FBA-1FBB:-74;1FBC:-9;1FC8-1FCB:-86;1FCC:-9;" ++
  "1FD8-1FD9:-8;1FDA-1FDB:-100;1FE8-1FE9:-8;1FEA-1FEB:-112;1FEC:-7;1FF8-1FF9:-128;" ++
  "1FFA-1FFB:-126;1FFC:-9;2126:-7517;212A:-8383;212B:-8262;2132:28;2160-216F:16;2183:1;" ++
  "24B6-24CF:26;2C00-2C2F:48;2C60:1;2C62:-10743;2C63:-3814;2C64:-10727;2C67-2C6B:1:2;" ++
  "2C6D:-10780;2C6E:-10749;2C6F:-10783;2C70:-10782;2C72:1;2C75:1;2C7E-2C7F:-10815;" ++
  "2C80-2CE2:1:2;2CEB-2CED:1:2;2CF2:1;A640-A66C:1:2;A680-A69A:1:2;A722-A72E:1:2;" ++
  "A732-A76E:1:2;A779-A77B:1:2;A77D:-35332;A77E-A786:1:2;A78B:1;A78D:-42280;A790-A792:1:2;" ++
  "A796-A7A8:1:2;A7AA:-42308;A7AB:-42319;A7AC:-42315;A7AD:-42305;A7AE:-42308;A7B0:-42258;" ++
  "A7B1:-42282;A7B2:-42261;A7B3:928;A7B4-A7C2:1:2;A7C4:-48;A7C5:-42307;A7C6:-35384;" ++
  "A7C7-A7C9:1:2;A7CB:-42343;A7CC-A7DA:1:2;A7DC:-42561;A7F5:1;FF21-FF3A:32;10400-10427:40;" ++
  "104B0-104D3:40;10570-1057A:39;1057C-1058A:39;1058C-10592:39;10594-10595:39;" ++
  "10C80-10CB2:64;10D50-10D65:32;118A0-118BF:32;16E40-16E5F:32;16EA0-16EB8:27;" ++
  "1E900-1E921:34;"

structure CaseRange where
  lo : Nat
  hi : Nat
  step : Nat
  delta : Int
  deriving Inhabited

def parseCaseRanges (table : String) : Array CaseRange :=
  (table.splitOn ";").toArray.filterMap fun item =>
    match item.splitOn ":" with
    | bounds :: delta :: rest =>
      let (lo, hi) := match bounds.splitOn "-" with
        | [a, b] => (Unicode.parseHex a, Unicode.parseHex b)
        | _ => (Unicode.parseHex bounds, Unicode.parseHex bounds)
      let step := if rest == ["2"] then 2 else 1
      delta.toInt?.map fun d => { lo, hi, step, delta := d }
    | _ => none

def lowerRanges : Array CaseRange := parseCaseRanges lowerText

def findCaseRange (ranges : Array CaseRange) (c : Nat) (lo hi : Nat) : Option CaseRange :=
  if lo < hi then
    let mid := (lo + hi) / 2
    match ranges[mid]? with
    | none => none
    | some r =>
      if c < r.lo then findCaseRange ranges c lo mid
      else if r.hi < c then findCaseRange ranges c (mid + 1) hi
      else some r
  else none
termination_by hi - lo

def mapByRanges (ranges : Array CaseRange) (c : Char) : Char :=
  match findCaseRange ranges c.toNat 0 ranges.size with
  | some r => if (c.toNat - r.lo) % r.step = 0 then Char.ofNat ((c.toNat : Int) + r.delta).toNat else c
  | none => c

def lowerChar (c : Char) : Char :=
  if 'A' ≤ c ∧ c ≤ 'Z' then Char.ofNat (c.toNat + 32)
  else if c.toNat < 0xC0 then c
  else mapByRanges lowerRanges c

def lower (s : String) : String := s.map lowerChar

/-- A key with ASCII letters made upper case and the two non-ASCII letters that fold onto
ASCII ones (`ſ`, the Kelvin sign) replaced by them, so that equal folded keys are equal
ignoring case. -/
def foldKey (s : String) : String :=
  s.map fun c =>
    if 'a' ≤ c ∧ c ≤ 'z' then Char.ofNat (c.toNat - 32)
    else if c.toNat = 0x17F then 'S'
    else if c.toNat = 0x212A then 'K'
    else c

end BlockGraph.Text
