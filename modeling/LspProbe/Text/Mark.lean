import LspProbe.Text.Table

/-!
# Combining marks

Marks belong to the character before them. Where several follow one another, their classes say
which may change places. Data of Unicode 17, for the characters that names of hosts may contain.
-/

namespace LspProbe.Text

/-- A combining mark: whether it takes up space, and its combining class. -/
structure Mark where
  isSpacing : Bool
  combiningClass : Nat
  deriving DecidableEq, Repr

/-- The marks. The first number is 1 for a mark that takes no space and 2 for one that does, the
second is its class. -/
def marks : Table := .ofText
  "300-314=1,E6 315=1,E8 316-319=1,DC 31A=1,E8 31B=1,D8 31C-320=1,DC 321-322=1,CA 323-326=1,DC
   327-328=1,CA 329-333=1,DC 334-338=1,1 339-33C=1,DC 33D-346=1,E6 347-349=1,DC 34A-34C=1,E6
   34D-34E=1,DC 350-352=1,E6 353-356=1,DC 357=1,E6 358=1,E8 359-35A=1,DC 35B=1,E6 35C=1,E9
   35D-35E=1,EA 35F=1,E9 360-361=1,EA 362=1,E9 363-36F=1,E6 483-487=1,E6 488-489=1,0 591=1,DC
   592-595=1,E6 596=1,DC 597-599=1,E6 59A=1,DE 59B=1,DC 59C-5A1=1,E6 5A2-5A7=1,DC 5A8-5A9=1,E6
   5AA=1,DC 5AB-5AC=1,E6 5AD=1,DE 5AE=1,E4 5AF=1,E6 5B0=1,A 5B1=1,B 5B2=1,C 5B3=1,D 5B4=1,E 5B5=1,F
   5B6=1,10 5B7=1,11 5B8=1,12 5B9-5BA=1,13 5BB=1,14 5BC=1,15 5BD=1,16 5BF=1,17 5C1=1,18 5C2=1,19
   5C4=1,E6 5C5=1,DC 5C7=1,12 610-617=1,E6 618=1,1E 619=1,1F 61A=1,20 64B=1,1B 64C=1,1C 64D=1,1D
   64E=1,1E 64F=1,1F 650=1,20 651=1,21 652=1,22 653-654=1,E6 655-656=1,DC 657-65B=1,E6 65C=1,DC
   65D-65E=1,E6 65F=1,DC 670=1,23 6D6-6DC=1,E6 6DF-6E2=1,E6 6E3=1,DC 6E4=1,E6 6E7-6E8=1,E6 6EA=1,DC
   6EB-6EC=1,E6 6ED=1,DC 711=1,24 730=1,E6 731=1,DC 732-733=1,E6 734=1,DC 735-736=1,E6 737-739=1,DC
   73A=1,E6 73B-73C=1,DC 73D=1,E6 73E=1,DC 73F-741=1,E6 742=1,DC 743=1,E6 744=1,DC 745=1,E6
   746=1,DC 747=1,E6 748=1,DC 749-74A=1,E6 7A6-7B0=1,0 7EB-7F1=1,E6 7F2=1,DC 7F3=1,E6 7FD=1,DC
   816-819=1,E6 81B-823=1,E6 825-827=1,E6 829-82D=1,E6 859-85B=1,DC 897-898=1,E6 899-89B=1,DC
   89C-89F=1,E6 8CA-8CE=1,E6 8CF-8D3=1,DC 8D4-8E1=1,E6 8E3=1,DC 8E4-8E5=1,E6 8E6=1,DC 8E7-8E8=1,E6
   8E9=1,DC 8EA-8EC=1,E6 8ED-8EF=1,DC 8F0=1,1B 8F1=1,1C 8F2=1,1D 8F3-8F5=1,E6 8F6=1,DC 8F7-8F8=1,E6
   8F9-8FA=1,DC 8FB-8FF=1,E6 900-902=1,0 903=2,0 93A=1,0 93B=2,0 93C=1,7 93E-940=2,0 941-948=1,0
   949-94C=2,0 94D=1,9 94E-94F=2,0 951=1,E6 952=1,DC 953-954=1,E6 955-957=1,0 962-963=1,0 981=1,0
   982-983=2,0 9BC=1,7 9BE-9C0=2,0 9C1-9C4=1,0 9C7-9CC=2,0 9CD=1,9 9D7=2,0 9E2-9E3=1,0 9FE=1,E6
   A01-A02=1,0 A03=2,0 A3C=1,7 A3E-A40=2,0 A41-A4C=1,0 A4D=1,9 A51=1,0 A70-A71=1,0 A75=1,0
   A81-A82=1,0 A83=2,0 ABC=1,7 ABE-AC0=2,0 AC1-AC8=1,0 AC9-ACC=2,0 ACD=1,9 AE2-AE3=1,0 AFA-B01=1,0
   B02-B03=2,0 B3C=1,7 B3E=2,0 B3F=1,0 B40=2,0 B41-B44=1,0 B47-B4C=2,0 B4D=1,9 B55-B56=1,0 B57=2,0
   B62-B63=1,0 B82=1,0 BBE-BBF=2,0 BC0=1,0 BC1-BCC=2,0 BCD=1,9 BD7=2,0 C00=1,0 C01-C03=2,0 C04=1,0
   C3C=1,7 C3E-C40=1,0 C41-C44=2,0 C46-C4C=1,0 C4D=1,9 C55=1,54 C56=1,5B C62-C63=1,0 C81=1,0
   C82-C83=2,0 CBC=1,7 CBE=2,0 CBF=1,0 CC0-CC4=2,0 CC6=1,0 CC7-CCB=2,0 CCC=1,0 CCD=1,9 CD5-CD6=2,0
   CE2-CE3=1,0 CF3=2,0 D00-D01=1,0 D02-D03=2,0 D3B-D3C=1,9 D3E-D40=2,0 D41-D44=1,0 D46-D4C=2,0
   D4D=1,9 D57=2,0 D62-D63=1,0 D81=1,0 D82-D83=2,0 DCA=1,9 DCF-DD1=2,0 DD2-DD6=1,0 DD8-DDF=2,0
   DF2-DF3=2,0 E31=1,0 E34-E37=1,0 E38-E39=1,67 E3A=1,9 E47=1,0 E48-E4B=1,6B E4C-E4E=1,0 EB1=1,0
   EB4-EB7=1,0 EB8-EB9=1,76 EBA=1,9 EBB-EBC=1,0 EC8-ECB=1,7A ECC-ECE=1,0 F18-F19=1,DC F35=1,DC
   F37=1,DC F39=1,D8 F3E-F3F=2,0 F71=1,81 F72=1,82 F74=1,84 F7A-F7D=1,82 F7E=1,0 F7F=2,0 F80=1,82
   F82-F83=1,E6 F84=1,9 F86-F87=1,E6 F8D-FBC=1,0 FC6=1,DC 102B-102C=2,0 102D-1030=1,0 1031=2,0
   1032-1036=1,0 1037=1,7 1038=2,0 1039-103A=1,9 103B-103C=2,0 103D-103E=1,0 1056-1057=2,0
   1058-1059=1,0 105E-1060=1,0 1062-1064=2,0 1067-106D=2,0 1071-1074=1,0 1082=1,0 1083-1084=2,0
   1085-1086=1,0 1087-108C=2,0 108D=1,DC 108F=2,0 109A-109C=2,0 109D=1,0 135D-135F=1,E6
   1712-1713=1,0 1714=1,9 1715=2,9 1732-1733=1,0 1734=2,9 1752-1753=1,0 1772-1773=1,0 17B6=2,0
   17B7-17BD=1,0 17BE-17C5=2,0 17C6=1,0 17C7-17C8=2,0 17C9-17D1=1,0 17D2=1,9 17D3=1,0 17DD=1,E6
   1885-1886=1,0 18A9=1,E4 1920-1922=1,0 1923-1926=2,0 1927-1928=1,0 1929-1931=2,0 1932=1,0
   1933-1938=2,0 1939=1,DE 193A=1,E6 193B=1,DC 1A17=1,E6 1A18=1,DC 1A19-1A1A=2,0 1A1B=1,0 1A55=2,0
   1A56=1,0 1A57=2,0 1A58-1A5E=1,0 1A60=1,9 1A61=2,0 1A62=1,0 1A63-1A64=2,0 1A65-1A6C=1,0
   1A6D-1A72=2,0 1A73-1A74=1,0 1A75-1A7C=1,E6 1A7F=1,DC 1AB0-1AB4=1,E6 1AB5-1ABA=1,DC
   1ABB-1ABC=1,E6 1ABD=1,DC 1ABE=1,0 1ABF-1AC0=1,DC 1AC1-1AC2=1,E6 1AC3-1AC4=1,DC 1AC5-1AC9=1,E6
   1ACA=1,DC 1ACB-1ADC=1,E6 1ADD=1,DC 1AE0-1AE5=1,E6 1AE6=1,DC 1AE7-1AEA=1,E6 1AEB=1,EA
   1B00-1B03=1,0 1B04=2,0 1B34=1,7 1B35=2,0 1B36-1B3A=1,0 1B3B=2,0 1B3C=1,0 1B3D-1B41=2,0 1B42=1,0
   1B43=2,0 1B44=2,9 1B6B=1,E6 1B6C=1,DC 1B6D-1B73=1,E6 1B80-1B81=1,0 1B82=2,0 1BA1=2,0
   1BA2-1BA5=1,0 1BA6-1BA7=2,0 1BA8-1BA9=1,0 1BAA=2,9 1BAB=1,9 1BAC-1BAD=1,0 1BE6=1,7 1BE7=2,0
   1BE8-1BE9=1,0 1BEA-1BEC=2,0 1BED=1,0 1BEE=2,0 1BEF-1BF1=1,0 1BF2-1BF3=2,9 1C24-1C2B=2,0
   1C2C-1C33=1,0 1C34-1C35=2,0 1C36=1,0 1C37=1,7 1CD0-1CD2=1,E6 1CD4=1,1 1CD5-1CD9=1,DC
   1CDA-1CDB=1,E6 1CDC-1CDF=1,DC 1CE0=1,E6 1CE1=2,0 1CE2-1CE8=1,1 1CED=1,DC 1CF4=1,E6 1CF7=2,0
   1CF8-1CF9=1,E6 1DC0-1DC1=1,E6 1DC2=1,DC 1DC3-1DC9=1,E6 1DCA=1,DC 1DCB-1DCC=1,E6 1DCD=1,EA
   1DCE=1,D6 1DCF=1,DC 1DD0=1,CA 1DD1-1DF5=1,E6 1DF6=1,E8 1DF7-1DF8=1,E4 1DF9=1,DC 1DFA=1,DA
   1DFB=1,E6 1DFC=1,E9 1DFD=1,DC 1DFE=1,E6 1DFF=1,DC 20D0-20D1=1,E6 20D2-20D3=1,1 20D4-20D7=1,E6
   20D8-20DA=1,1 20DB-20DC=1,E6 20DD-20E0=1,0 20E1=1,E6 20E2-20E4=1,0 20E5-20E6=1,1 20E7=1,E6
   20E8=1,DC 20E9=1,E6 20EA-20EB=1,1 20EC-20EF=1,DC 20F0=1,E6 2CEF-2CF1=1,E6 2D7F=1,9
   2DE0-2DFF=1,E6 302A=1,DA 302B=1,E4 302C=1,E8 302D=1,DE 302E-302F=2,E0 3099-309A=1,8 A66F=1,E6
   A670-A672=1,0 A674-A67D=1,E6 A69E-A69F=1,E6 A6F0-A6F1=1,E6 A802=1,0 A806=1,9 A80B=1,0
   A823-A824=2,0 A825-A826=1,0 A827=2,0 A82C=1,9 A880-A881=2,0 A8B4-A8C3=2,0 A8C4=1,9 A8C5=1,0
   A8E0-A8F1=1,E6 A8FF=1,0 A926-A92A=1,0 A92B-A92D=1,DC A947-A951=1,0 A952=2,0 A953=2,9
   A980-A982=1,0 A983=2,0 A9B3=1,7 A9B4-A9B5=2,0 A9B6-A9B9=1,0 A9BA-A9BB=2,0 A9BC-A9BD=1,0
   A9BE-A9BF=2,0 A9C0=2,9 A9E5=1,0 AA29-AA2E=1,0 AA2F-AA30=2,0 AA31-AA32=1,0 AA33-AA34=2,0
   AA35-AA36=1,0 AA43=1,0 AA4C=1,0 AA4D=2,0 AA7B=2,0 AA7C=1,0 AA7D=2,0 AAB0=1,E6 AAB2-AAB3=1,E6
   AAB4=1,DC AAB7-AAB8=1,E6 AABE-AABF=1,E6 AAC1=1,E6 AAEB=2,0 AAEC-AAED=1,0 AAEE-AAEF=2,0 AAF5=2,0
   AAF6=1,9 ABE3-ABE4=2,0 ABE5=1,0 ABE6-ABE7=2,0 ABE8=1,0 ABE9-ABEA=2,0 ABEC=2,0 ABED=1,9 FB1E=1,1A
   FE20-FE26=1,E6 FE27-FE2D=1,DC FE2E-FE2F=1,E6 101FD=1,DC 102E0=1,DC 10376-1037A=1,E6
   10A01-10A0C=1,0 10A0D=1,DC 10A0E=1,0 10A0F=1,E6 10A38=1,E6 10A39=1,1 10A3A=1,DC 10A3F=1,9
   10AE5=1,E6 10AE6=1,DC 10D24-10D27=1,E6 10D69-10D6D=1,E6 10EAB-10EAC=1,E6 10EFA-10EFB=1,DC
   10EFC=1,0 10EFD-10EFF=1,DC 10F46-10F47=1,DC 10F48-10F4A=1,E6 10F4B=1,DC 10F4C=1,E6
   10F4D-10F50=1,DC 10F82=1,E6 10F83=1,DC 10F84=1,E6 10F85=1,DC 11000=2,0 11001=1,0 11002=2,0
   11038-11045=1,0 11046=1,9 11070=1,9 11073-11074=1,0 1107F=1,9 11080-11081=1,0 11082=2,0
   110B0-110B2=2,0 110B3-110B6=1,0 110B7-110B8=2,0 110B9=1,9 110BA=1,7 110C2=1,0 11100-11102=1,E6
   11127-1112B=1,0 1112C=2,0 1112D-11132=1,0 11133-11134=1,9 11145-11146=2,0 11173=1,7
   11180-11181=1,0 11182=2,0 111B3-111B5=2,0 111B6-111BE=1,0 111BF=2,0 111C0=2,9 111C9=1,0
   111CA=1,7 111CB-111CC=1,0 111CE=2,0 111CF=1,0 1122C-1122E=2,0 1122F-11231=1,0 11232-11233=2,0
   11234=1,0 11235=2,9 11236=1,7 11237=1,0 1123E=1,0 11241=1,0 112DF=1,0 112E0-112E2=2,0
   112E3-112E8=1,0 112E9=1,7 112EA=1,9 11300-11301=1,0 11302-11303=2,0 1133B-1133C=1,7
   1133E-1133F=2,0 11340=1,0 11341-1134C=2,0 1134D=2,9 11357=2,0 11362-11363=2,0 11366-11374=1,E6
   113B8-113BA=2,0 113BB-113C0=1,0 113C2-113CD=2,0 113CE=1,9 113CF=2,9 113D0=1,9 113D2=1,0
   113E1-113E2=1,0 11435-11437=2,0 11438-1143F=1,0 11440-11441=2,0 11442=1,9 11443-11444=1,0
   11445=2,0 11446=1,7 1145E=1,E6 114B0-114B2=2,0 114B3-114B8=1,0 114B9=2,0 114BA=1,0
   114BB-114BE=2,0 114BF-114C0=1,0 114C1=2,0 114C2=1,9 114C3=1,7 115AF-115B1=2,0 115B2-115B5=1,0
   115B8-115BB=2,0 115BC-115BD=1,0 115BE=2,0 115BF=1,9 115C0=1,7 115DC-115DD=1,0 11630-11632=2,0
   11633-1163A=1,0 1163B-1163C=2,0 1163D=1,0 1163E=2,0 1163F=1,9 11640=1,0 116AB=1,0 116AC=2,0
   116AD=1,0 116AE-116AF=2,0 116B0-116B5=1,0 116B6=2,9 116B7=1,7 1171D=1,0 1171E=2,0 1171F=1,0
   11720-11721=2,0 11722-11725=1,0 11726=2,0 11727-1172A=1,0 1172B=1,9 1182C-1182E=2,0
   1182F-11837=1,0 11838=2,0 11839=1,9 1183A=1,7 11930-11938=2,0 1193B-1193C=1,0 1193D=2,9
   1193E=1,9 11940=2,0 11942=2,0 11943=1,7 119D1-119D3=2,0 119D4-119DB=1,0 119DC-119DF=2,0
   119E0=1,9 119E4=2,0 11A01-11A0A=1,0 11A33=1,0 11A34=1,9 11A35-11A38=1,0 11A39=2,0
   11A3B-11A3E=1,0 11A47=1,9 11A51-11A56=1,0 11A57-11A58=2,0 11A59-11A5B=1,0 11A8A-11A96=1,0
   11A97=2,0 11A98=1,0 11A99=1,9 11B60=1,0 11B61=2,0 11B62-11B64=1,0 11B65=2,0 11B66=1,0 11B67=2,0
   11C2F=2,0 11C30-11C3D=1,0 11C3E=2,0 11C3F=1,9 11C92-11CA7=1,0 11CA9=2,0 11CAA-11CB0=1,0
   11CB1=2,0 11CB2-11CB3=1,0 11CB4=2,0 11CB5-11CB6=1,0 11D31-11D41=1,0 11D42=1,7 11D43=1,0
   11D44-11D45=1,9 11D47=1,0 11D8A-11D8E=2,0 11D90-11D91=1,0 11D93-11D94=2,0 11D95=1,0 11D96=2,0
   11D97=1,9 11EF3-11EF4=1,0 11EF5-11EF6=2,0 11F00-11F01=1,0 11F03=2,0 11F34-11F35=2,0
   11F36-11F3A=1,0 11F3E-11F3F=2,0 11F40=1,0 11F41=2,9 11F42=1,9 11F5A=1,0 13440=1,0
   13447-13455=1,0 1611E-16129=1,0 1612A-1612C=2,0 1612D-1612E=1,0 1612F=1,9 16AF0-16AF4=1,1
   16B30-16B36=1,E6 16F4F=1,0 16F51-16F87=2,0 16F8F-16F92=1,0 16FE4=1,0 16FF0-16FF1=2,6 1BC9D=1,0
   1BC9E=1,1 1CF00-1CF46=1,0 1D165-1D166=2,D8 1D167-1D169=1,1 1D16D=2,E2 1D16E-1D172=2,D8
   1D17B-1D182=1,DC 1D185-1D189=1,E6 1D18A-1D18B=1,DC 1D1AA-1D1AD=1,E6 1D242-1D244=1,E6
   1DA00-1DA36=1,0 1DA3B-1DA6C=1,0 1DA75=1,0 1DA84=1,0 1DA9B-1DAAF=1,0 1E000-1E08F=1,E6
   1E130-1E136=1,E6 1E2AE=1,E6 1E2EC-1E2EF=1,E6 1E4EC-1E4ED=1,E8 1E4EE=1,DC 1E4EF=1,E6 1E5EE=1,E6
   1E5EF=1,DC 1E6E3=1,E6 1E6E6=1,E6 1E6EE-1E6EF=1,E6 1E6F5=1,E6 1E8D0-1E8D6=1,DC 1E944-1E949=1,E6
   1E94A=1,7"

/-- What is known of a mark; none if a character is none. -/
def markOf? (c : Char) : Option Mark :=
  if c.toNat < 0x300 then none
  else
    match marks.values? c with
    | some [kind, combiningClass] => some ⟨kind = 2, combiningClass⟩
    | _ => none

def isMark (c : Char) : Bool := (markOf? c).isSome

/-- Whether a mark leaves no space of its own. -/
def isNonspacing (c : Char) : Bool :=
  match markOf? c with
  | some m => !m.isSpacing
  | none => false

/-- The combining class of a character; zero stands for none. -/
def combiningClass (c : Char) : Nat :=
  match markOf? c with
  | some m => m.combiningClass
  | none => 0

/-- The class of the sign that takes a vowel away. -/
def isVirama (c : Char) : Bool := combiningClass c = 9

end LspProbe.Text
