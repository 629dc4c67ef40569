import ParserSplice.Unicode.RangeText

set_option autoImplicit false

-- The full upper case of a character, which does not depend on its neighbours, as of version 17.0.

namespace ParserSplice.Unicode

/-- The code points whose upper case is one other code point. -/
def upperShifts : List Shift :=
  shiftsOf
    ("61,7A,1,-20 B5,B5,1,+2E7 E0,F6,1,-20 F8,FE,1,-20 FF,FF,1,+79 101,12F,2,-1 131,131,1,-E8 " ++
    "133,137,2,-1 13A,148,2,-1 14B,177,2,-1 17A,17E,2,-1 17F,17F,1,-12C 180,180,1,+C3 " ++
    "183,185,2,-1 188,188,1,-1 18C,18C,1,-1 192,192,1,-1 195,195,1,+61 199,199,1,-1 " ++
    "19A,19A,1,+A3 19B,19B,1,+A641 19E,19E,1,+82 1A1,1A5,2,-1 1A8,1A8,1,-1 1AD,1AD,1,-1 " ++
    "1B0,1B0,1,-1 1B4,1B6,2,-1 1B9,1B9,1,-1 1BD,1BD,1,-1 1BF,1BF,1,+38 1C5,1C5,1,-1 " ++
    "1C6,1C6,1,-2 1C8,1C8,1,-1 1C9,1C9,1,-2 1CB,1CB,1,-1 1CC,1CC,1,-2 1CE,1DC,2,-1 " ++
    "1DD,1DD,1,-4F 1DF,1EF,2,-1 1F2,1F2,1,-1 1F3,1F3,1,-2 1F5,1F5,1,-1 1F9,21F,2,-1 " ++
    "223,233,2,-1 23C,23C,1,-1 23F,240,1,+2A3F 242,242,1,-1 247,24F,2,-1 250,250,1,+2A1F " ++
    "251,251,1,+2A1C 252,252,1,+2A1E 253,253,1,-D2 254,254,1,-CE 256,257,1,-CD 259,259,1,-CA " ++
    "25B,25B,1,-CB 25C,25C,1,+A54F 260,260,1,-CD 261,261,1,+A54B 263,263,1,-CF 264,264,1,+A567 " ++
    "265,265,1,+A528 266,266,1,+A544 268,268,1,-D1 269,269,1,-D3 26A,26A,1,+A544 " ++
    "26B,26B,1,+29F7 26C,26C,1,+A541 26F,26F,1,-D3 271,271,1,+29FD 272,272,1,-D5 275,275,1,-D6 " ++
    "27D,27D,1,+29E7 280,280,1,-DA 282,282,1,+A543 283,283,1,-DA 287,287,1,+A52A 288,288,1,-DA " ++
    "289,289,1,-45 28A,28B,1,-D9 28C,28C,1,-47 292,292,1,-DB 29D,29D,1,+A515 29E,29E,1,+A512 " ++
    "345,345,1,+54 371,373,2,-1 377,377,1,-1 37B,37D,1,+82 3AC,3AC,1,-26 3AD,3AF,1,-25 " ++
    "3B1,3C1,1,-20 3C2,3C2,1,-1F 3C3,3CB,1,-20 3CC,3CC,1,-40 3CD,3CE,1,-3F 3D0,3D0,1,-3E " ++
    "3D1,3D1,1,-39 3D5,3D5,1,-2F 3D6,3D6,1,-36 3D7,3D7,1,-8 3D9,3EF,2,-1 3F0,3F0,1,-56 " ++
    "3F1,3F1,1,-50 3F2,3F2,1,+7 3F3,3F3,1,-74 3F5,3F5,1,-60 3F8,3F8,1,-1 3FB,3FB,1,-1 " ++
    "430,44F,1,-20 450,45F,1,-50 461,481,2,-1 48B,4BF,2,-1 4C2,4CE,2,-1 4CF,4CF,1,-F " ++
    "4D1,52F,2,-1 561,586,1,-30 10D0,10FA,1,+BC0 10FD,10FF,1,+BC0 13F8,13FD,1,-8 " ++
    "1C80,1C80,1,-186E 1C81,1C81,1,-186D 1C82,1C82,1,-1864 1C83,1C84,1,-1862 1C85,1C85,1,-1863 " ++
    "1C86,1C86,1,-185C 1C87,1C87,1,-1825 1C88,1C88,1,+89C2 1C8A,1C8A,1,-1 1D79,1D79,1,+8A04 " ++
    "1D7D,1D7D,1,+EE6 1D8E,1D8E,1,+8A38 1E01,1E95,2,-1 1E9B,1E9B,1,-3B 1EA1,1EFF,2,-1 " ++
    "1F00,1F07,1,+8 1F10,1F15,1,+8 1F20,1F27,1,+8 1F30,1F37,1,+8 1F40,1F45,1,+8 1F51,1F57,2,+8 " ++
    "1F60,1F67,1,+8 1F70,1F71,1,+4A 1F72,1F75,1,+56 1F76,1F77,1,+64 1F78,1F79,1,+80 " ++
    "1F7A,1F7B,1,+70 1F7C,1F7D,1,+7E 1FB0,1FB1,1,+8 1FBE,1FBE,1,-1C25 1FD0,1FD1,1,+8 " ++
    "1FE0,1FE1,1,+8 1FE5,1FE5,1,+7 214E,214E,1,-1C 2170,217F,1,-10 2184,2184,1,-1 " ++
    "24D0,24E9,1,-1A 2C30,2C5F,1,-30 2C61,2C61,1,-1 2C65,2C65,1,-2A2B 2C66,2C66,1,-2A28 " ++
    "2C68,2C6C,2,-1 2C73,2C73,1,-1 2C76,2C76,1,-1 2C81,2CE3,2,-1 2CEC,2CEE,2,-1 2CF3,2CF3,1,-1 " ++
    "2D00,2D25,1,-1C60 2D27,2D27,1,-1C60 2D2D,2D2D,1,-1C60 A641,A66D,2,-1 A681,A69B,2,-1 " ++
    "A723,A72F,2,-1 A733,A76F,2,-1 A77A,A77C,2,-1 A77F,A787,2,-1 A78C,A78C,1,-1 A791,A793,2,-1 " ++
    "A794,A794,1,+30 A797,A7A9,2,-1 A7B5,A7C3,2,-1 A7C8,A7CA,2,-1 A7CD,A7DB,2,-1 " ++
    "A7F6,A7F6,1,-1 AB53,AB53,1,-3A0 AB70,ABBF,1,-97D0 FF41,FF5A,1,-20 10428,1044F,1,-28 " ++
    "104D8,104FB,1,-28 10597,105BB,2,-27 10598,105A0,2,-27 105A4,105B0,2,-27 105B4,105B8,2,-27 " ++
    "105BC,105BC,1,-27 10CC0,10CF2,1,-40 10D70,10D85,1,-20 118C0,118DF,1,-20 16E60,16E7F,1,-20 " ++
    "16EBB,16ED3,1,-1B 1E922,1E943,1,-22")

/-- The code points whose upper case is several code points, written as words `DF=53,53`. -/
def upperExpansionText : String :=
  "DF=53,53 149=2BC,4E 1F0=4A,30C 390=399,308,301 3B0=3A5,308,301 587=535,552 1E96=48,331 " ++
  "1E97=54,308 1E98=57,30A 1E99=59,30A 1E9A=41,2BE 1F50=3A5,313 1F52=3A5,313,300 " ++
  "1F54=3A5,313,301 1F56=3A5,313,342 1F80=1F08,399 1F81=1F09,399 1F82=1F0A,399 1F83=1F0B,399 " ++
  "1F84=1F0C,399 1F85=1F0D,399 1F86=1F0E,399 1F87=1F0F,399 1F88=1F08,399 1F89=1F09,399 " ++
  "1F8A=1F0A,399 1F8B=1F0B,399 1F8C=1F0C,399 1F8D=1F0D,399 1F8E=1F0E,399 1F8F=1F0F,399 " ++
  "1F90=1F28,399 1F91=1F29,399 1F92=1F2A,399 1F93=1F2B,399 1F94=1F2C,399 1F95=1F2D,399 " ++
  "1F96=1F2E,399 1F97=1F2F,399 1F98=1F28,399 1F99=1F29,399 1F9A=1F2A,399 1F9B=1F2B,399 " ++
  "1F9C=1F2C,399 1F9D=1F2D,399 1F9E=1F2E,399 1F9F=1F2F,399 1FA0=1F68,399 1FA1=1F69,399 " ++
  "1FA2=1F6A,399 1FA3=1F6B,399 1FA4=1F6C,399 1FA5=1F6D,399 1FA6=1F6E,399 1FA7=1F6F,399 " ++
  "1FA8=1F68,399 1FA9=1F69,399 1FAA=1F6A,399 1FAB=1F6B,399 1FAC=1F6C,399 1FAD=1F6D,399 " ++
  "1FAE=1F6E,399 1FAF=1F6F,399 1FB2=1FBA,399 1FB3=391,399 1FB4=386,399 1FB6=391,342 " ++
  "1FB7=391,342,399 1FBC=391,399 1FC2=1FCA,399 1FC3=397,399 1FC4=389,399 1FC6=397,342 " ++
  "1FC7=397,342,399 1FCC=397,399 1FD2=399,308,300 1FD3=399,308,301 1FD6=399,342 " ++
  "1FD7=399,308,342 1FE2=3A5,308,300 1FE3=3A5,308,301 1FE4=3A1,313 1FE6=3A5,342 " ++
  "1FE7=3A5,308,342 1FF2=1FFA,399 1FF3=3A9,399 1FF4=38F,399 1FF6=3A9,342 1FF7=3A9,342,399 " ++
  "1FFC=3A9,399 FB00=46,46 FB01=46,49 FB02=46,4C FB03=46,46,49 FB04=46,46,4C FB05=53,54 " ++
  "FB06=53,54 FB13=544,546 FB14=544,535 FB15=544,53B FB16=54E,546 FB17=544,53D"

/-- The code points whose upper case is several code points. -/
def upperExpansions : List (Nat × List Nat) :=
  (parts ' ' upperExpansionText.toList).filterMap (fun word =>
    match parts '=' word with
    | [source, target] => some (Hex.value source, (parts ',' target).map Hex.value)
    | _ => none)

/-- The upper case of a character, which may be several characters. -/
def toUpper (c : Char) : List Char :=
  if c.toNat < 128 then [c.toUpper]
  else match upperExpansions.lookup c.toNat with
    | some target => target.map Char.ofNat
    | none =>
      match upperShifts.find? (fun s => s.moves c.toNat) with
      | some s => [Char.ofNat (s.apply c.toNat)]
      | none => [c]

end ParserSplice.Unicode
