/-
Full case mapping of Unicode 17: a character may map to several, and a capital sigma at the end of a
word has a lower-case form of its own. The single mappings are kept as runs of equal offset.
-/

import LogForwarder.Text.Property

namespace LogForwarder.Text

/-! ### Runs of equal offset -/

/-- A run of code points `first`, `first + step`, … of which each maps to itself plus `offset`. -/
structure CaseRun where
  first : Nat
  count : Nat
  step : Nat
  offset : Int

/--
Runs written as words `gap+count>offset` or `gap+count<offset`, where the gap counts from the first
code point of the run before, the sign is that of the offset, and `/2` after the count says that
only every second code point belongs to the run.
-/
def readCaseRuns (lines : List String) : Array CaseRun :=
  let step (state : Nat × Array CaseRun) (word : String) : Nat × Array CaseRun :=
    let chars := word.toList
    let gap := digitsValue (chars.takeWhile Char.isDigit)
    let afterGap := (chars.dropWhile Char.isDigit).drop 1
    let count := digitsValue (afterGap.takeWhile Char.isDigit)
    let afterCount := afterGap.dropWhile Char.isDigit
    let alternate := afterCount.head? == some '/'
    let signed := if alternate then afterCount.drop 2 else afterCount
    let size : Int := digitsValue (signed.drop 1)
    let first := state.1 + gap
    (first, state.2.push ⟨first, count, if alternate then 2 else 1,
      if signed.head? == some '<' then -size else size⟩)
  ((lines.flatMap (·.splitOn " ")).foldl step (0, #[])).2

/-- The code point that a run gives for `code`, if the run holds it. -/
def CaseRun.image? (run : CaseRun) (code : Nat) : Option Nat :=
  if run.first ≤ code && code < run.first + run.count * run.step && (code - run.first) % run.step == 0 then
    some (code + run.offset).toNat
  else
    none

/-! ### Tables -/

/-- Upper-case forms of one character outside ASCII. -/
def upperRuns : Array CaseRun :=
  readCaseRuns ["181+1>743 43+23<32 24+7<32 7+1>121 2+24/2<1 48+1<232 2+3/2<1 7+8/2<1 17+23/2<1 47+3/2<1",
    "5+1<300 1+1>195 3+2/2<1 5+1<1 4+1<1 6+1<1 3+1>97 4+1<1 1+1>163 1+1>42561 3+1>130 3+3/2<1 7+1<1",
    "5+1<1 3+1<1 4+2/2<1 5+1<1 4+1<1 2+1>56 6+1<1 1+1<2 2+1<1 1+1<2 2+1<1 1+1<2 2+8/2<1 15+1<79",
    "2+9/2<1 19+1<1 1+1<2 2+1<1 4+20/2<1 42+9/2<1 25+1<1 3+2>10815 3+1<1 5+5/2<1 9+1>10783",
    "1+1>10780 1+1>10782 1+1<210 1+1<206 2+2<205 3+1<202 2+1<203 1+1>42319 4+1<205 1+1>42315",
    "2+1<207 1+1>42343 1+1>42280 1+1>42308 2+1<209 1+1<211 1+1>42308 1+1>10743 1+1>42305 3+1<211",
    "2+1>10749 1+1<213 3+1<214 8+1>10727 3+1<218 2+1>42307 1+1<218 4+1>42282 1+1<218 1+1<69 1+2<217",
    "2+1<71 6+1<219 11+1>42261 1+1>42258 167+1>84 44+2/2<1 6+1<1 4+3>130 49+1<38 1+3<37 4+17<32",
    "17+1<31 1+9<32 9+1<64 1+2<63 3+1<62 1+1<57 4+1<47 1+1<54 1+1<8 2+12/2<1 23+1<86 1+1<80 1+1>7",
    "1+1<116 2+1<96 3+1<1 3+1<1 53+32<32 32+16<80 17+17/2<1 42+27/2<1 55+7/2<1 13+1<15 2+48/2<1",
    "144+38<48 2927+43>3008 45+3>3008 763+6<8 2184+1<6254 1+1<6253 1+1<6244 1+2<6242 2+1<6243",
    "1+1<6236 1+1<6181 1+1>35266 2+1<1 239+1>35332 4+1>3814 17+1>35384 115+75/2<1 154+1<59 6+48/2<1",
    "95+8>8 16+6>8 16+8>8 16+8>8 16+6>8 17+4/2>8 15+8>8 16+2>74 2+4>86 4+2>100 2+2>128 2+2>112",
    "2+2>126 52+2>8 14+1<7205 18+2>8 16+2>8 5+1>7 361+1<28 34+16<16 20+1<1 844+26<26 1888+48<48",
    "49+1<1 4+1<10795 1+1<10792 2+3/2<1 11+1<1 3+1<1 11+50/2<1 107+2/2<1 7+1<1 13+38<7264 39+1<7264",
    "6+1<7264 30996+23/2<1 64+14/2<1 162+7/2<1 16+31/2<1 71+2/2<1 5+5/2<1 13+1<1 5+2/2<1 3+1>48",
    "3+10/2<1 30+8/2<1 19+2/2<1 5+8/2<1 41+1<1 861+1<928 29+80<38864 21457+26<32 1255+40<40",
    "176+36<40 191+11<39 12+15<39 16+7<39 8+2<39 1797+51<64 176+22<32 2896+32<32 21920+32<32",
    "91+25<27 31335+34<34"]

/-- Upper-case forms of several characters, each after the character that has it. -/
def upperExpansions : List (Nat × List Nat) :=
  [(223, [83, 83]), (329, [700, 78]), (496, [74, 780]), (912, [921, 776, 769]),
    (944, [933, 776, 769]), (1415, [1333, 1362]), (7830, [72, 817]), (7831, [84, 776]),
    (7832, [87, 778]), (7833, [89, 778]), (7834, [65, 702]), (8016, [933, 787]),
    (8018, [933, 787, 768]), (8020, [933, 787, 769]), (8022, [933, 787, 834]), (8064, [7944, 921]),
    (8065, [7945, 921]), (8066, [7946, 921]), (8067, [7947, 921]), (8068, [7948, 921]),
    (8069, [7949, 921]), (8070, [7950, 921]), (8071, [7951, 921]), (8072, [7944, 921]),
    (8073, [7945, 921]), (8074, [7946, 921]), (8075, [7947, 921]), (8076, [7948, 921]),
    (8077, [7949, 921]), (8078, [7950, 921]), (8079, [7951, 921]), (8080, [7976, 921]),
    (8081, [7977, 921]), (8082, [7978, 921]), (8083, [7979, 921]), (8084, [7980, 921]),
    (8085, [7981, 921]), (8086, [7982, 921]), (8087, [7983, 921]), (8088, [7976, 921]),
    (8089, [7977, 921]), (8090, [7978, 921]), (8091, [7979, 921]), (8092, [7980, 921]),
    (8093, [7981, 921]), (8094, [7982, 921]), (8095, [7983, 921]), (8096, [8040, 921]),
    (8097, [8041, 921]), (8098, [8042, 921]), (8099, [8043, 921]), (8100, [8044, 921]),
    (8101, [8045, 921]), (8102, [8046, 921]), (8103, [8047, 921]), (8104, [8040, 921]),
    (8105, [8041, 921]), (8106, [8042, 921]), (8107, [8043, 921]), (8108, [8044, 921]),
    (8109, [8045, 921]), (8110, [8046, 921]), (8111, [8047, 921]), (8114, [8122, 921]),
    (8115, [913, 921]), (8116, [902, 921]), (8118, [913, 834]), (8119, [913, 834, 921]),
    (8124, [913, 921]), (8130, [8138, 921]), (8131, [919, 921]), (8132, [905, 921]),
    (8134, [919, 834]), (8135, [919, 834, 921]), (8140, [919, 921]), (8146, [921, 776, 768]),
    (8147, [921, 776, 769]), (8150, [921, 834]), (8151, [921, 776, 834]), (8162, [933, 776, 768]),
    (8163, [933, 776, 769]), (8164, [929, 787]), (8166, [933, 834]), (8167, [933, 776, 834]),
    (8178, [8186, 921]), (8179, [937, 921]), (8180, [911, 921]), (8182, [937, 834]),
    (8183, [937, 834, 921]), (8188, [937, 921]), (64256, [70, 70]), (64257, [70, 73]),
    (64258, [70, 76]), (64259, [70, 70, 73]), (64260, [70, 70, 76]), (64261, [83, 84]),
    (64262, [83, 84]), (64275, [1348, 1350]), (64276, [1348, 1333]), (64277, [1348, 1339]),
    (64278, [1358, 1350]), (64279, [1348, 1341])]

/-- Lower-case forms of one character outside ASCII. -/
def lowerRuns : Array CaseRun :=
  readCaseRuns ["192+23>32 24+7>32 40+24/2>1 50+3/2>1 7+8/2>1 17+23/2>1 46+1<121 1+3/2>1 8+1>210 1+2/2>1",
    "4+1>206 1+1>1 2+2>205 2+1>1 3+1>79 1+1>202 1+1>203 1+1>1 2+1>205 1+1>207 2+1>211 1+1>209 1+1>1",
    "4+1>211 1+1>213 2+1>214 1+3/2>1 6+1>218 1+1>1 2+1>218 3+1>1 2+1>218 1+1>1 2+2>217 2+2/2>1",
    "4+1>219 1+1>1 4+1>1 8+1>2 1+1>1 2+1>2 1+1>1 2+1>2 1+9/2>1 19+9/2>1 19+1>2 1+2/2>1 4+1<97",
    "1+1<56 1+20/2>1 40+1<130 2+9/2>1 24+1>10795 1+1>1 2+1<163 1+1>10792 3+1>1 2+1<195 1+1>69",
    "1+1>71 1+5/2>1 298+2/2>1 6+1>1 9+1>116 7+1>38 2+3>37 4+1>64 2+2>63 3+17>32 18+9>32 44+1>8",
    "9+12/2>1 28+1<60 3+1>1 2+1<7 1+1>1 3+3<130 3+16>80 16+32>32 80+17/2>1 42+27/2>1 54+1>15",
    "1+7/2>1 15+48/2>1 97+38>48 2927+38>7264 39+1>7264 6+1>7264 723+80>38864 80+6>8 2201+1>1",
    "7+43<3008 45+3<3008 323+75/2>1 158+1<7615 2+48/2>1 104+8<8 16+6<8 16+8<8 16+8<8 16+6<8",
    "17+4/2<8 15+8<8 32+8<8 16+8<8 16+8<8 16+2<8 2+2<74 2+1<9 12+4<86 4+1<9 12+2<8 2+2<100 14+2<8",
    "2+2<112 2+1<7 12+2<128 2+2<126 2+1<9 298+1<7517 4+1<8383 1+1<8262 7+1>28 46+16>16 35+1>1",
    "819+26>26 1866+48>48 96+1>1 2+1<10743 1+1<3814 1+1<10727 3+3/2>1 6+1<10780 1+1<10749 1+1<10783",
    "1+1<10782 2+1>1 3+1>1 9+2<10815 2+50/2>1 107+2/2>1 7+1>1 31054+23/2>1 64+14/2>1 162+7/2>1",
    "16+31/2>1 71+2/2>1 4+1<35332 1+5/2>1 13+1>1 2+1<42280 3+2/2>1 6+10/2>1 20+1<42308 1+1<42319",
    "1+1<42315 1+1<42305 1+1<42308 2+1<42258 1+1<42282 1+1<42261 1+1>928 1+8/2>1 16+1<48 1+1<42307",
    "1+1<35384 1+2/2>1 4+1<42343 1+8/2>1 16+1<42561 25+1>1 22316+26>32 1247+40>40 176+36>40",
    "192+11>39 12+15>39 16+7>39 8+2>39 1772+51>64 208+22>32 2896+32>32 21920+32>32 96+25>27",
    "31328+34>34"]

/-! ### Mapping texts -/

/-- The upper-case form of a character, which may be several characters. -/
def upperChar (c : Char) : List Char :=
  if c.toNat < 128 then [c.toUpper]
  else
    match upperExpansions.lookup c.toNat with
    | some codes => codes.map Char.ofNat
    | none => [((upperRuns.findSome? (·.image? c.toNat)).map Char.ofNat).getD c]

/-- A text in upper case. -/
def upper (text : String) : String :=
  String.ofList (text.toList.flatMap upperChar)

/-- The lower-case form of a character away from the end of a word. -/
def lowerChar (c : Char) : List Char :=
  if c.toNat < 128 then [c.toLower]
  else if c.toNat == 0x130 then [Char.ofNat 0x69, Char.ofNat 0x307]
  else [((lowerRuns.findSome? (·.image? c.toNat)).map Char.ofNat).getD c]

/-- Whether the nearest character that case rules do not look past has a case. -/
def nearestIsCased (chars : List Char) : Bool :=
  match chars.dropWhile caseIgnorableRuns.contains with
  | [] => false
  | c :: _ => casedRuns.contains c

/--
Lower case of `rest`, where `before` holds the characters already passed, last first. A capital
sigma after a cased letter and before none is written in its final form.
-/
def lowerFrom (before : List Char) : List Char → List Char
  | [] => []
  | c :: rest =>
    let here :=
      if c.toNat == 0x3A3 then
        if nearestIsCased before && !nearestIsCased rest then [Char.ofNat 0x3C2] else [Char.ofNat 0x3C3]
      else lowerChar c
    here ++ lowerFrom (c :: before) rest

/-- A text in lower case. -/
def lower (text : String) : String :=
  String.ofList (lowerFrom [] text.toList)

end LogForwarder.Text
