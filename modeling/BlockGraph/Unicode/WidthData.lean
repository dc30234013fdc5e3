
namespace BlockGraph.Unicode

def wideText : String :=
  "1100-115F;231A-231B;2329-232A;23E9-23EC;23F0;23F3;25FD-25FE;2614-2615;2648-2653;267F;" ++
  "2693;26A1;26AA-26AB;26BD-26BE;26C4-26C5;26CE;26D4;26EA;26F2-26F3;26F5;26FA;26FD;2705;" ++
  "270A-270B;2728;274C;274E;2753-2755;2757;2795-2797;27B0;27BF;2B1B-2B1C;2B50;2B55;" ++
  "2E80-2E99;2E9B-2EF3;2F00-2FD5;2FF0-2FFB;3000-303E;3041-3096;3099-30FF;3105-312F;" ++
  "3131-318E;3190-31E3;31F0-321E;3220-3247;3250-4DBF;4E00-A48C;A490-A4C6;A960-A97C;" ++
  "AC00-D7A3;F900-FAFF;FE10-FE19;FE30-FE52;FE54-FE66;FE68-FE6B;FF01-FF60;FFE0-FFE6;" ++
  "16FE0-16FE4;16FF0-16FF1;17000-187F7;18800-18CD5;18D00-18D08;1AFF0-1AFF3;1AFF5-1AFFB;" ++
  "1AFFD-1AFFE;1B000-1B122;1B132;1B150-1B152;1B155;1B164-1B167;1B170-1B2FB;1F004;1F0CF;" ++
  "1F18E;1F191-1F19A;1F200-1F202;1F210-1F23B;1F240-1F248;1F250-1F251;1F260-1F265;" ++
  "1F300-1F320;1F32D-1F335;1F337-1F37C;1F37E-1F393;1F3A0-1F3CA;1F3CF-1F3D3;1F3E0-1F3F0;" ++
  "1F3F4;1F3F8-1F43E;1F440;1F442-1F4FC;1F4FF-1F53D;1F54B-1F54E;1F550-1F567;1F57A;" ++
  "1F595-1F596;1F5A4;1F5FB-1F64F;1F680-1F6C5;1F6CC;1F6D0-1F6D2;1F6D5-1F6D7;1F6DC-1F6DF;" ++
  "1F6EB-1F6EC;1F6F4-1F6FC;1F7E0-1F7EB;1F7F0;1F90C-1F93A;1F93C-1F945;1F947-1F9FF;" ++
  "1FA70-1FA7C;1FA80-1FA88;1FA90-1FABD;1FABF-1FAC5;1FACE-1FADB;1FAE0-1FAE8;1FAF0-1FAF8;" ++
  "20000-2FFFD;30000-3FFFD;"

/-- Characters that became Wide in Unicode 15.1: four ideographic description characters and a
CJK stroke. Column counts take them as two columns; the layout of styled text, whose tables are
those of Unicode 15.0, as one. -/
def laterWideText : String := "2FFC-2FFF;31EF;"

def emojiPresentationText : String :=
  "231A-231B;23E9-23EC;23F0;23F3;25FD-25FE;2614-2615;2648-2653;267F;2693;26A1;26AA-26AB;" ++
  "26BD-26BE;26C4-26C5;26CE;26D4;26EA;26F2-26F3;26F5;26FA;26FD;2705;270A-270B;2728;274C;" ++
  "274E;2753-2755;2757;2795-2797;27B0;27BF;2B1B-2B1C;2B50;2B55;1F004;1F0CF;1F18E;" ++
  "1F191-1F19A;1F1E6-1F1FF;1F201;1F21A;1F22F;1F232-1F236;1F238-1F23A;1F250-1F251;" ++
  "1F300-1F320;1F32D-1F335;1F337-1F37C;1F37E-1F393;1F3A0-1F3CA;1F3CF-1F3D3;1F3E0-1F3F0;" ++
  "1F3F4;1F3F8-1F43E;1F440;1F442-1F4FC;1F4FF-1F53D;1F54B-1F54E;1F550-1F567;1F57A;" ++
  "1F595-1F596;1F5A4;1F5FB-1F64F;1F680-1F6C5;1F6CC;1F6D0-1F6D2;1F6D5-1F6D7;1F6DC-1F6DF;" ++
  "1F6EB-1F6EC;1F6F4-1F6FC;1F7E0-1F7EB;1F7F0;1F90C-1F93A;1F93C-1F945;1F947-1F9FF;" ++
  "1FA70-1FA7C;1FA80-1FA88;1FA90-1FABD;1FABF-1FAC5;1FACE-1FADB;1FAE0-1FAE8;1FAF0-1FAF8;"

def combiningText : String :=
  "300-36F;483-489;7EB-7F3;C00;C04;CF3;D00-D01;135D-135F;1A7F;1AB0-1ACE;1B6B-1B73;" ++
  "1DC0-1DFF;20D0-20F0;2CEF-2CF1;2DE0-2DFF;3099-309A;A66F-A672;A674-A67D;A69E-A69F;" ++
  "A6F0-A6F1;A8E0-A8F1;FE20-FE2F;101FD;10376-1037A;10EAB-10EAC;10F46-10F50;10F82-10F85;" ++
  "11300-11301;1133B-1133C;11366-1136C;11370-11374;16AF0-16AF4;1CF00-1CF2D;1CF30-1CF46;" ++
  "1D165-1D169;1D16D-1D172;1D17B-1D182;1D185-1D18B;1D1AA-1D1AD;1D242-1D244;1E000-1E006;" ++
  "1E008-1E018;1E01B-1E021;1E023-1E024;1E026-1E02A;1E08F;1E8D0-1E8D6;"

/-- The grapheme cluster break property by number (1 `CR`, 2 `LF`, 3 `Control`, 4 `Extend`,
5 `ZWJ`, 6 `Regional_Indicator`, 7 `Prepend`, 8 `SpacingMark`, 9 `L`, 10 `V`, 11 `T`); the
precomposed Hangul syllables `AC00 … D7A3` are left out, as their property follows from their
number. -/
def graphemeBreakText : String :=
  "0-9:3;A:2;B-C:3;D;E-1F:3;7F-9F:3;AD:3;300-36F:4;483-489:4;591-5BD:4;5BF:4;5C1-5C2:4;" ++
  "5C4-5C5:4;5C7:4;600-605:7;610-61A:4;61C:3;64B-65F:4;670:4;6D6-6DC:4;6DD:7;6DF-6E4:4;" ++
  "6E7-6E8:4;6EA-6ED:4;70F:7;711:4;730-74A:4;7A6-7B0:4;7EB-7F3:4;7FD:4;816-819:4;81B-823:4;" ++
  "825-827:4;829-82D:4;859-85B:4;890-891:7;898-89F:4;8CA-8E1:4;8E2:7;8E3-902:4;903:8;93A:4;" ++
  "93B:8;93C:4;93E-940:8;941-948:4;949-94C:8;94D:4;94E-94F:8;951-957:4;962-963:4;981:4;" ++
  "982-983:8;9BC:4;9BE:4;9BF-9C0:8;9C1-9C4:4;9C7-9C8:8;9CB-9CC:8;9CD:4;9D7:4;9E2-9E3:4;" ++
  "9FE:4;A01-A02:4;A03:8;A3C:4;A3E-A40:8;A41-A42:4;A47-A48:4;A4B-A4D:4;A51:4;A70-A71:4;" ++
  "A75:4;A81-A82:4;A83:8;ABC:4;ABE-AC0:8;AC1-AC5:4;AC7-AC8:4;AC9:8;ACB-ACC:8;ACD:4;" ++
  "AE2-AE3:4;AFA-AFF:4;B01:4;B02-B03:8;B3C:4;B3E-B3F:4;B40:8;B41-B44:4;B47-B48:8;B4B-B4C:8;" ++
  "B4D:4;B55-B57:4;B62-B63:4;B82:4;BBE:4;BBF:8;BC0:4;BC1-BC2:8;BC6-BC8:8;BCA-BCC:8;BCD:4;" ++
  "BD7:4;C00:4;C01-C03:8;C04:4;C3C:4;C3E-C40:4;C41-C44:8;C46-C48:4;C4A-C4D:4;C55-C56:4;" ++
  "C62-C63:4;C81:4;C82-C83:8;CBC:4;CBE:8;CBF:4;CC0-CC1:8;CC2:4;CC3-CC4:8;CC6:4;CC7-CC8:8;" ++
  "CCA-CCB:8;CCC-CCD:4;CD5-CD6:4;CE2-CE3:4;CF3:8;D00-D01:4;D02-D03:8;D3B-D3C:4;D3E:4;" ++
  "D3F-D40:8;D41-D44:4;D46-D48:8;D4A-D4C:8;D4D:4;D4E:7;D57:4;D62-D63:4;D81:4;D82-D83:8;" ++
  "DCA:4;DCF:4;DD0-DD1:8;DD2-DD4:4;DD6:4;DD8-DDE:8;DDF:4;DF2-DF3:8;E31:4;E33:8;E34-E3A:4;" ++
  "E47-E4E:4;EB1:4;EB3:8;EB4-EBC:4;EC8-ECE:4;F18-F19:4;F35:4;F37:4;F39:4;F3E-F3F:8;" ++
  "F71-F7E:4;F7F:8;F80-F84:4;F86-F87:4;F8D-F97:4;F99-FBC:4;FC6:4;102D-1030:4;1031:8;" ++
  "1032-1037:4;1039-103A:4;103B-103C:8;103D-103E:4;1056-1057:8;1058-1059:4;105E-1060:4;" ++
  "1071-1074:4;1082:4;1084:8;1085-1086:4;108D:4;109D:4;1100-115F:9;1160-11A7:10;" ++
  "11A8-11FF:11;135D-135F:4;1712-1714:4;1715:8;1732-1733:4;1734:8;1752-1753:4;1772-1773:4;" ++
  "17B4-17B5:4;17B6:8;17B7-17BD:4;17BE-17C5:8;17C6:4;17C7-17C8:8;17C9-17D3:4;17DD:4;" ++
  "180B-180D:4;180E:3;180F:4;1885-1886:4;18A9:4;1920-1922:4;1923-1926:8;1927-1928:4;" ++
  "1929-192B:8;1930-1931:8;1932:4;1933-1938:8;1939-193B:4;1A17-1A18:4;1A19-1A1A:8;1A1B:4;" ++
  "1A55:8;1A56:4;1A57:8;1A58-1A5E:4;1A60:4;1A62:4;1A65-1A6C:4;1A6D-1A72:8;1A73-1A7C:4;" ++
  "1A7F:4;1AB0-1ACE:4;1B00-1B03:4;1B04:8;1B34-1B3A:4;1B3B:8;1B3C:4;1B3D-1B41:8;1B42:4;" ++
  "1B43-1B44:8;1B6B-1B73:4;1B80-1B81:4;1B82:8;1BA1:8;1BA2-1BA5:4;1BA6-1BA7:8;1BA8-1BA9:4;" ++
  "1BAA:8;1BAB-1BAD:4;1BE6:4;1BE7:8;1BE8-1BE9:4;1BEA-1BEC:8;1BED:4;1BEE:8;1BEF-1BF1:4;" ++
  "1BF2-1BF3:8;1C24-1C2B:8;1C2C-1C33:4;1C34-1C35:8;1C36-1C37:4;1CD0-1CD2:4;1CD4-1CE0:4;" ++
  "1CE1:8;1CE2-1CE8:4;1CED:4;1CF4:4;1CF7:8;1CF8-1CF9:4;1DC0-1DFF:4;200B:3;200C:4;200D:5;" ++
  "200E-200F:3;2028-202E:3;2060-206F:3;20D0-20F0:4;2CEF-2CF1:4;2D7F:4;2DE0-2DFF:4;" ++
  "302A-302F:4;3099-309A:4;A66F-A672:4;A674-A67D:4;A69E-A69F:4;A6F0-A6F1:4;A802:4;A806:4;" ++
  "A80B:4;A823-A824:8;A825-A826:4;A827:8;A82C:4;A880-A881:8;A8B4-A8C3:8;A8C4-A8C5:4;" ++
  "A8E0-A8F1:4;A8FF:4;A926-A92D:4;A947-A951:4;A952-A953:8;A960-A97C:9;A980-A982:4;A983:8;" ++
  "A9B3:4;A9B4-A9B5:8;A9B6-A9B9:4;A9BA-A9BB:8;A9BC-A9BD:4;A9BE-A9C0:8;A9E5:4;AA29-AA2E:4;" ++
  "AA2F-AA30:8;AA31-AA32:4;AA33-AA34:8;AA35-AA36:4;AA43:4;AA4C:4;AA4D:8;AA7C:4;AAB0:4;" ++
  "AAB2-AAB4:4;AAB7-AAB8:4;AABE-AABF:4;AAC1:4;AAEB:8;AAEC-AAED:4;AAEE-AAEF:8;AAF5:8;AAF6:4;" ++
  "ABE3-ABE4:8;ABE5:4;ABE6-ABE7:8;ABE8:4;ABE9-ABEA:8;ABEC:8;ABED:4;D7B0-D7C6:10;" ++
  "D7CB-D7FB:11;FB1E:4;FE00-FE0F:4;FE20-FE2F:4;FEFF:3;FF9E-FF9F:4;FFF0-FFFB:3;101FD:4;" ++
  "102E0:4;10376-1037A:4;10A01-10A03:4;10A05-10A06:4;10A0C-10A0F:4;10A38-10A3A:4;10A3F:4;" ++
  "10AE5-10AE6:4;10D24-10D27:4;10EAB-10EAC:4;10EFD-10EFF:4;10F46-10F50:4;10F82-10F85:4;" ++
  "11000:8;11001:4;11002:8;11038-11046:4;11070:4;11073-11074:4;1107F-11081:4;11082:8;" ++
  "110B0-110B2:8;110B3-110B6:4;110B7-110B8:8;110B9-110BA:4;110BD:7;110C2:4;110CD:7;" ++
  "11100-11102:4;11127-1112B:4;1112C:8;1112D-11134:4;11145-11146:8;11173:4;11180-11181:4;" ++
  "11182:8;111B3-111B5:8;111B6-111BE:4;111BF-111C0:8;111C2-111C3:7;111C9-111CC:4;111CE:8;" ++
  "111CF:4;1122C-1122E:8;1122F-11231:4;11232-11233:8;11234:4;11235:8;11236-11237:4;1123E:4;" ++
  "11241:4;112DF:4;112E0-112E2:8;112E3-112EA:4;11300-11301:4;11302-11303:8;1133B-1133C:4;" ++
  "1133E:4;1133F:8;11340:4;11341-11344:8;11347-11348:8;1134B-1134D:8;11357:4;11362-11363:8;" ++
  "11366-1136C:4;11370-11374:4;11435-11437:8;11438-1143F:4;11440-11441:8;11442-11444:4;" ++
  "11445:8;11446:4;1145E:4;114B0:4;114B1-114B2:8;114B3-114B8:4;114B9:8;114BA:4;" ++
  "114BB-114BC:8;114BD:4;114BE:8;114BF-114C0:4;114C1:8;114C2-114C3:4;115AF:4;115B0-115B1:8;" ++
  "115B2-115B5:4;115B8-115BB:8;115BC-115BD:4;115BE:8;115BF-115C0:4;115DC-115DD:4;" ++
  "11630-11632:8;11633-1163A:4;1163B-1163C:8;1163D:4;1163E:8;1163F-11640:4;116AB:4;116AC:8;" ++
  "116AD:4;116AE-116AF:8;116B0-116B5:4;116B6:8;116B7:4;1171D-1171F:4;11722-11725:4;11726:8;" ++
  "11727-1172B:4;1182C-1182E:8;1182F-11837:4;11838:8;11839-1183A:4;11930:4;11931-11935:8;" ++
  "11937-11938:8;1193B-1193C:4;1193D:8;1193E:4;1193F:7;11940:8;11941:7;11942:8;11943:4;" ++
  "119D1-119D3:8;119D4-119D7:4;119DA-119DB:4;119DC-119DF:8;119E0:4;119E4:8;11A01-11A0A:4;" ++
  "11A33-11A38:4;11A39:8;11A3A:7;11A3B-11A3E:4;11A47:4;11A51-11A56:4;11A57-11A58:8;" ++
  "11A59-11A5B:4;11A84-11A89:7;11A8A-11A96:4;11A97:8;11A98-11A99:4;11C2F:8;11C30-11C36:4;" ++
  "11C38-11C3D:4;11C3E:8;11C3F:4;11C92-11CA7:4;11CA9:8;11CAA-11CB0:4;11CB1:8;11CB2-11CB3:4;" ++
  "11CB4:8;11CB5-11CB6:4;11D31-11D36:4;11D3A:4;11D3C-11D3D:4;11D3F-11D45:4;11D46:7;11D47:4;" ++
  "11D8A-11D8E:8;11D90-11D91:4;11D93-11D94:8;11D95:4;11D96:8;11D97:4;11EF3-11EF4:4;" ++
  "11EF5-11EF6:8;11F00-11F01:4;11F02:7;11F03:8;11F34-11F35:8;11F36-11F3A:4;11F3E-11F3F:8;" ++
  "11F40:4;11F41:8;11F42:4;13430-1343F:3;13440:4;13447-13455:4;16AF0-16AF4:4;16B30-16B36:4;" ++
  "16F4F:4;16F51-16F87:8;16F8F-16F92:4;16FE4:4;16FF0-16FF1:8;1BC9D-1BC9E:4;1BCA0-1BCA3:3;" ++
  "1CF00-1CF2D:4;1CF30-1CF46:4;1D165:4;1D166:8;1D167-1D169:4;1D16D:8;1D16E-1D172:4;" ++
  "1D173-1D17A:3;1D17B-1D182:4;1D185-1D18B:4;1D1AA-1D1AD:4;1D242-1D244:4;1DA00-1DA36:4;" ++
  "1DA3B-1DA6C:4;1DA75:4;1DA84:4;1DA9B-1DA9F:4;1DAA1-1DAAF:4;1E000-1E006:4;1E008-1E018:4;" ++
  "1E01B-1E021:4;1E023-1E024:4;1E026-1E02A:4;1E08F:4;1E130-1E136:4;1E2AE:4;1E2EC-1E2EF:4;" ++
  "1E4EC-1E4EF:4;1E8D0-1E8D6:4;1E944-1E94A:4;1F1E6-1F1FF:6;1F3FB-1F3FF:4;E0000-E001F:3;" ++
  "E0020-E007F:4;E0080-E00FF:3;E0100-E01EF:4;E01F0-E0FFF:3;"

def pictographicText : String :=
  "A9;AE;203C;2049;2122;2139;2194-2199;21A9-21AA;231A-231B;2328;2388;23CF;23E9-23F3;" ++
  "23F8-23FA;24C2;25AA-25AB;25B6;25C0;25FB-25FE;2600-2605;2607-2612;2614-2685;2690-2705;" ++
  "2708-2712;2714;2716;271D;2721;2728;2733-2734;2744;2747;274C;274E;2753-2755;2757;" ++
  "2763-2767;2795-2797;27A1;27B0;27BF;2934-2935;2B05-2B07;2B1B-2B1C;2B50;2B55;3030;303D;" ++
  "3297;3299;1F000-1F0FF;1F10D-1F10F;1F12F;1F16C-1F171;1F17E-1F17F;1F18E;1F191-1F19A;" ++
  "1F1AD-1F1E5;1F201-1F20F;1F21A;1F22F;1F232-1F23A;1F23C-1F23F;1F249-1F3FA;1F400-1F53D;" ++
  "1F546-1F64F;1F680-1F6FF;1F774-1F77F;1F7D5-1F7FF;1F80C-1F80F;1F848-1F84F;1F85A-1F85F;" ++
  "1F888-1F88F;1F8AE-1F8FF;1F90C-1F93A;1F93C-1F945;1F947-1FAFF;1FC00-1FFFD;"

end BlockGraph.Unicode
