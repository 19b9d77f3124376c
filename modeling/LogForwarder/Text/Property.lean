/-
Properties of characters that messages and derived names depend on, as runs of code points of
Unicode 17. Each table is the set of one property; `CodeRuns.ofLines` says how the runs are written.
Messages quote everything that a user wrote and the program could not take, and show whatever has no
visible form as an escape.
-/

import LogForwarder.Text.CodeRuns

namespace LogForwarder.Text

/-! ### Properties -/

/-- The characters that are letters by the Alphabetic property or numbers by their category. -/
def alphanumericRuns : CodeRuns :=
  CodeRuns.ofLines ["48+10 7+26 6+26 47+1 7+2 1+1 3+2 1+3 1+23 1+31 1+458 4+12 14+5 7+1 1+1 86+1 29+18 1+2 2+4 1+1",
    "6+1 1+3 1+1 1+20 1+83 1+139 8+166 1+38 2+1 6+41 39+14 1+1 1+2 1+2 1+1 8+27 4+4 29+11 5+56 1+17",
    "4+102 1+8 4+8 4+16 2+1 16+48 13+101 14+43 9+2 4+1 5+24 2+19 19+25 7+11 5+24 1+7 7+1 8+42 10+12",
    "3+7 6+76 1+16 1+3 4+15 2+10 1+19 1+8 2+2 2+22 1+7 1+1 3+4 3+8 2+2 2+2 1+1 8+1 4+2 1+5 2+12 2+6",
    "2+1 4+3 1+6 4+2 2+22 1+7 1+2 1+2 1+2 4+5 4+2 2+2 4+1 7+4 1+1 7+16 11+3 1+9 1+3 1+22 1+7 1+2",
    "1+5 3+9 1+3 1+2 3+1 15+4 2+10 9+4 4+3 1+8 2+2 2+22 1+7 1+2 1+5 3+8 2+2 2+2 9+2 4+2 1+5 2+10",
    "1+7 10+2 1+6 3+3 1+4 3+2 1+1 1+2 3+2 3+3 3+12 4+5 3+3 1+3 3+1 6+1 14+13 13+13 1+3 1+23 1+16",
    "3+8 1+3 1+3 8+2 1+3 1+2 2+4 2+10 8+7 1+4 1+8 1+3 1+23 1+10 1+5 3+8 1+3 1+3 8+2 5+3 1+4 2+10",
    "1+3 12+13 1+3 1+41 2+8 1+3 1+3 1+1 5+16 2+19 1+6 1+3 1+18 3+24 1+9 1+1 2+7 8+6 1+1 1+8 6+10",
    "2+2 13+58 5+7 6+1 2+10 39+2 1+1 1+5 1+24 1+1 1+19 1+3 2+5 1+1 6+1 2+10 2+4 32+1 31+20 12+8",
    "1+36 4+19 4+16 1+36 67+55 1+1 2+15 6+78 2+38 1+1 5+1 2+43 1+333 1+4 2+7 1+1 1+4 2+41 1+4 2+33",
    "1+4 2+7 1+1 1+4 2+15 1+57 1+4 2+67 14+20 3+16 16+86 2+6 3+620 2+17 1+26 5+75 3+11 7+20 11+21",
    "12+20 12+13 1+3 1+2 12+52 2+19 14+1 4+1 3+10 6+10 22+10 6+89 7+43 5+70 10+31 1+12 4+9 13+40",
    "2+5 11+44 4+26 6+11 37+28 4+63 2+20 11+10 6+10 13+1 23+2 11+3 49+52 1+15 1+8 3+10 38+42 2+58",
    "1+11 14+55 9+10 3+49 2+11 5+43 2+3 41+4 1+6 1+2 3+1 5+192 19+34 11+278 2+6 2+38 2+6 2+8 1+1",
    "1+1 1+1 1+31 2+53 1+7 1+1 3+3 1+7 3+4 2+6 4+13 5+3 1+7 115+2 2+6 5+11 6+13 101+1 4+1 2+10 1+1",
    "3+5 6+1 1+1 1+1 1+4 1+11 2+4 5+5 4+1 1+58 726+60 26+74 630+30 1132+229 6+4 3+2 9+1 2+38 1+1",
    "5+1 2+56 7+1 16+23 9+7 1+7 1+7 1+7 1+7 1+7 1+7 1+7 1+32 47+1 469+3 25+9 7+5 2+5 4+86 6+3 1+90",
    "1+4 5+43 1+94 3+4 10+32 48+16 32+10 30+8 1+15 32+10 39+15 320+6592 64+22157 67+46 2+269 3+28",
    "20+47 5+8 3+113 39+9 2+103 2+82 20+21 1+33 8+6 10+52 12+68 1+1 10+10 24+6 3+1 1+46 5+35 13+29",
    "3+51 1+12 15+11 6+31 1+55 9+14 2+10 6+23 3+69 1+1 1+1 24+3 2+16 2+4 11+6 2+6 2+6 9+7 1+7 1+43",
    "1+14 6+123 5+10 6+11172 12+23 4+49 8452+366 2+106 38+7 12+5 5+12 1+13 1+5 1+1 1+2 1+2 1+108",
    "33+363 18+64 2+54 40+12 116+5 1+135 19+10 7+26 6+26 11+89 3+6 2+6 2+6 2+3 35+12 1+26 1+19 1+2",
    "1+15 2+14 34+123 12+45 12+57 17+2 244+29 3+49 16+27 4+36 9+30 5+43 5+30 2+36 4+8 1+5 42+158",
    "2+10 6+36 4+36 4+40 8+52 12+11 1+15 1+7 1+2 1+11 1+15 1+7 1+2 3+52 12+311 9+22 10+8 24+6 1+42",
    "1+9 69+6 2+1 1+44 1+2 3+1 2+23 2+31 2+38 8+9 48+19 1+2 5+33 4+26 6+26 38+56 4+20 2+50 1+2 5+8",
    "1+3 1+29 10+9 23+31 1+32 32+8 1+28 6+5 16+54 10+22 2+27 5+26 23+7 80+73 55+51 13+51 7+46 8+10",
    "6+38 3+1 5+23 218+31 1+42 1+2 3+2 16+6 50+3 3+40 8+22 11+4 27+18 46+28 20+23 9+70 12+30 1+5",
    "10+57 9+1 13+25 7+10 6+51 3+10 4+4 8+35 3+1 9+64 1+4 9+13 1+1 4+20 11+18 1+34 2+1 6+4 62+7 1+1",
    "1+4 1+15 1+10 7+57 7+10 6+4 1+8 2+2 2+22 1+7 1+2 1+5 3+8 2+2 2+2 3+1 6+1 5+7 28+10 1+1 2+1",
    "1+38 1+10 1+1 2+1 1+4 1+2 3+1 1+1 44+66 1+3 1+4 5+10 5+3 30+66 2+2 1+1 8+10 166+54 2+7 25+6",
    "34+63 1+1 3+1 11+10 38+54 2+1 7+10 6+20 28+27 2+14 5+12 4+7 185+57 103+83 12+8 2+1 2+8 1+2",
    "1+30 1+2 2+2 2+4 13+10 70+8 2+46 2+6 1+1 1+2 27+51 2+10 17+72 5+1 18+73 103+8 88+33 15+10 6+9",
    "1+45 1+7 1+1 15+29 5+30 2+22 1+14 73+7 1+2 1+44 3+1 1+2 1+3 1+1 2+2 8+10 6+6 1+2 1+37 1+2 1+4",
    "1+1 7+10 6+44 4+10 246+23 9+17 1+41 3+3 15+10 86+1 15+21 43+922 102+111 17+196 2636+97 15+1072",
    "17+6 25+3995 5+583 6841+47 1+10 1734+569 7+31 1+10 6+79 1+10 6+30 18+48 16+4 12+10 1+7 1+21",
    "5+19 432+45 3+10 198+87 9+25 2+25 44+75 4+57 7+17 64+2 1+1 12+7 9+7382 41+32 97+115 8701+4 1+7",
    "1+2 1+291 15+1 29+3 2+1 14+4 8+396 2308+107 5+13 3+9 7+10 4+1 4177+10 1478+20 12+20 108+25",
    "135+85 1+71 1+2 2+1 2+2 2+4 1+12 1+1 1+7 1+65 1+4 2+8 1+7 1+28 1+4 1+5 1+1 3+7 1+340 2+25 1+25",
    "1+31 1+25 1+31 1+25 1+31 1+25 1+31 1+25 1+8 2+50 1792+31 6+6 213+7 1+17 2+7 1+2 1+5 5+62 33+1",
    "112+45 10+7 2+10 4+1 321+30 18+44 4+10 470+28 4+10 214+30 2+11 197+31 1+22 8+2 224+7 1+4 1+2",
    "1+15 1+197 2+9 48+68 3+1 3+1 4+10 791+59 1+3 1+4 76+45 1+15 194+4 1+27 1+2 1+1 2+1 1+10 1+4",
    "1+1 1+1 6+1 4+1 1+1 1+1 1+3 1+2 1+1 2+1 1+1 1+1 1+1 1+1 1+2 1+1 2+4 1+7 1+4 1+4 1+1 1+10 1+17",
    "5+3 1+5 1+17 580+13 35+26 6+26 6+26 2662+10 1030+42720 32+4382 2+5774 2+7473 15+622 2466+542",
    "1506+4939 5+8490"]

/--
The characters without a visible form: controls, formats, private and unassigned code points, and
separators.
-/
def invisibleRuns : CodeRuns :=
  CodeRuns.ofLines ["0+32 95+34 12+1 714+2 6+4 7+1 1+1 20+1 397+1 38+2 50+2 3+1 55+8 27+4 6+17 22+1 192+1 48+2 59+2",
    "101+14 59+2 49+2 15+1 28+2 1+1 11+5 32+7 75+1 161+1 8+2 2+2 22+1 7+1 1+3 4+2 9+2 2+2 4+8 1+4",
    "2+1 5+2 25+2 3+1 6+4 2+2 22+1 7+1 2+1 2+1 2+2 1+1 5+4 2+2 3+3 1+7 4+1 1+7 17+10 3+1 9+1 3+1",
    "22+1 7+1 2+1 5+2 10+1 3+1 3+2 1+15 4+2 12+7 7+1 3+1 8+2 2+2 22+1 7+1 2+1 5+2 9+2 2+2 3+7 3+4",
    "2+1 5+2 18+10 2+1 6+3 3+1 4+3 2+1 1+1 2+3 2+3 3+3 12+4 5+3 3+1 4+2 1+6 1+14 21+5 13+1 3+1 23+1",
    "16+2 9+1 3+1 4+7 2+1 3+1 2+2 4+2 10+7 22+1 3+1 23+1 10+1 5+2 9+1 3+1 4+7 2+5 3+1 4+2 10+1 3+12",
    "13+1 3+1 51+1 3+1 6+4 16+2 26+1 3+1 18+3 24+1 9+1 1+2 7+3 1+4 6+1 1+1 8+6 10+2 3+12 58+4 29+37",
    "2+1 1+1 5+1 24+1 1+1 23+2 5+1 1+1 7+1 10+2 4+32 72+1 36+4 39+1 36+1 15+1 13+37 198+1 1+5 1+2",
    "377+1 4+2 7+1 1+1 4+2 41+1 4+2 33+1 4+2 7+1 1+1 4+2 15+1 57+1 4+2 67+2 32+3 26+6 86+2 6+2",
    "640+1 28+3 89+7 22+9 24+9 20+12 13+1 3+1 2+12 94+2 10+6 10+6 14+1 11+6 89+7 43+5 70+10 31+1",
    "12+4 12+4 1+3 42+2 5+11 44+4 26+6 11+3 62+2 65+1 29+2 11+6 10+6 14+2 46+2 12+20 77+1 166+8",
    "60+3 15+3 62+5 43+2 11+8 43+5 534+2 6+2 38+2 6+2 8+1 1+1 1+1 1+1 31+2 53+1 15+1 14+2 6+1 19+2",
    "3+1 9+17 24+8 47+17 2+2 27+1 13+3 34+14 33+15 140+4 666+22 11+21 1812+2 382+5 45+1 1+5 1+2",
    "56+7 2+14 24+9 7+1 7+1 7+1 7+1 7+1 7+1 7+1 7+1 126+34 26+1 89+12 214+26 16+1 63+1 86+2 103+5",
    "43+1 94+1 86+9 48+1 29293+3 55+9 348+20 184+8 221+20 60+3 10+6 56+8 70+8 12+6 116+11 30+3 78+1",
    "11+4 33+1 55+9 14+2 10+2 103+24 28+10 6+2 6+2 6+9 7+1 7+1 60+4 126+2 10+6 11172+12 23+4 49+4",
    "2048+6400 366+2 106+38 7+12 5+5 26+1 5+1 1+1 2+1 2+1 650+32 42+6 51+1 19+1 4+4 5+1 135+4 190+3",
    "6+2 6+2 6+2 3+3 7+1 7+13 2+2 12+1 26+1 19+1 2+1 15+2 14+34 123+5 3+4 45+3 88+1 13+3 1+47",
    "46+130 29+3 49+15 28+4 36+9 30+5 43+5 30+1 37+4 14+42 158+2 10+6 36+4 36+4 40+8 52+11 12+1",
    "15+1 7+1 2+1 11+1 15+1 7+1 2+3 52+12 311+9 22+10 8+24 6+1 42+1 9+69 6+2 1+1 44+1 2+3 1+2 23+1",
    "72+8 9+48 19+1 2+5 33+3 27+5 27+38 56+4 20+2 50+1 2+5 8+1 3+1 29+2 3+4 10+7 9+7 64+32 39+4",
    "12+9 54+3 29+2 27+5 26+7 4+12 7+80 73+55 51+13 51+7 46+8 10+6 38+3 29+8 2+208 31+1 42+1 3+2",
    "2+16 6+8 9+33 46+8 42+22 26+38 28+20 23+9 78+4 36+9 62+1 5+13 25+7 10+6 53+1 18+8 39+9 96+1",
    "20+11 18+1 47+62 7+1 1+1 4+1 15+1 11+6 59+5 10+6 4+1 8+2 2+2 22+1 7+1 2+1 5+1 10+2 2+2 3+2 1+6",
    "1+5 7+2 7+3 5+11 10+1 1+2 1+1 38+1 10+1 1+2 1+1 4+1 10+1 2+8 2+29 92+1 5+30 72+8 10+166 54+2",
    "38+34 69+11 10+6 13+19 58+6 10+6 20+28 27+2 15+4 23+185 60+100 83+12 8+2 1+2 8+1 2+1 30+1 2+2",
    "12+9 10+70 8+2 46+2 11+27 72+8 83+13 73+7 10+86 8+88 34+14 10+6 9+1 45+1 14+10 29+3 32+2 22+1",
    "14+73 7+1 2+1 44+3 1+1 2+1 9+8 10+6 6+1 2+1 37+1 2+1 6+7 10+6 44+4 10+246 25+7 17+1 41+3 29+85",
    "1+15 50+13 923+102 111+1 5+11 196+2636 99+13 1072+16 22+10 3995+5 583+6841 58+1734 569+7 31+1",
    "10+4 81+1 10+6 30+2 6+10 70+10 10+1 7+1 21+5 19+432 58+198 91+5 25+2 25+44 75+4 57+7 17+64",
    "5+11 7+9 7382+41 32+97 115+8701 4+1 7+1 2+1 291+15 1+29 3+2 1+14 4+8 396+2308 107+5 13+3 9+7",
    "10+2 4+3936 253+3 436+6 23+15 17+15 46+2 23+9 116+60 246+10 39+2 74+8 112+21 70+122 20+12",
    "20+12 87+9 25+135 85+1 71+1 2+2 1+2 2+2 4+1 12+1 1+1 7+1 65+1 4+2 8+1 7+1 28+1 4+1 5+1 1+3 7+1",
    "340+2 292+2 702+15 5+1 15+1104 31+6 6+213 7+1 17+2 7+1 2+1 5+5 62+33 1+112 45+3 14+2 10+4",
    "2+320 31+17 58+5 1+464 42+214 43+4 1+192 31+1 22+8 2+224 7+1 4+1 2+1 15+1 197+2 16+41 76+4",
    "10+4 2+785 68+76 61+194 4+1 27+1 2+1 1+2 1+1 10+1 4+1 1+1 1+6 1+4 1+1 1+1 1+1 3+1 2+1 1+2 1+1",
    "1+1 1+1 1+1 1+1 2+1 1+2 4+1 7+1 4+1 4+1 1+1 10+1 17+5 3+1 5+1 17+52 2+270 44+4 100+12 15+2",
    "15+1 15+1 37+10 174+56 29+13 44+4 9+7 2+14 6+154 985+3 17+3 13+3 218+6 12+4 1+15 12+4 56+8",
    "10+6 40+8 30+2 12+4 2+14 9+39 344+8 14+2 13+3 11+3 57+1 1+4 16+2 12+4 10+7 147+1 103+1029",
    "42720+32 4382+2 5774+2 7473+15 622+2466 542+1506 4939+5 8490+707718 240+196112"]

/-- The characters that attach to the one before them, by the Grapheme_Extend property. -/
def graphemeExtendRuns : CodeRuns :=
  CodeRuns.ofLines ["768+112 275+7 263+45 1+1 1+2 1+2 1+1 72+11 48+21 16+1 101+7 2+6 2+2 1+4 35+1 30+27 91+11 58+9",
    "9+1 24+4 1+9 1+3 1+5 43+3 59+9 42+24 1+32 55+1 1+1 4+8 4+1 3+7 10+2 29+1 58+1 1+1 2+4 8+1 9+1",
    "10+2 26+1 2+2 57+1 4+2 4+2 2+3 3+1 30+2 3+1 11+2 57+1 4+5 1+2 4+1 20+2 22+6 1+1 58+1 1+2 1+4",
    "8+1 7+3 10+2 30+1 59+1 1+1 12+1 9+1 40+1 3+1 55+1 1+3 5+3 1+4 7+2 11+2 29+1 58+1 2+2 1+1 3+3",
    "1+4 7+2 11+2 28+2 57+2 1+1 2+4 8+1 9+1 10+2 29+1 72+1 4+1 2+3 1+1 8+1 81+1 2+7 12+8 98+1 2+9",
    "11+7 73+2 27+1 1+1 1+1 55+14 1+5 1+2 5+11 1+36 9+1 102+4 1+6 1+2 2+2 25+2 4+3 16+4 13+1 2+2",
    "6+1 15+1 703+3 946+4 28+3 29+2 30+2 64+2 1+7 8+1 2+11 9+1 45+3 1+1 117+2 34+1 118+3 4+2 9+1",
    "6+3 219+2 2+1 58+1 1+7 1+1 1+1 2+8 6+10 2+1 48+46 2+12 20+4 48+10 4+3 38+9 12+2 32+4 2+6 56+1",
    "1+2 3+1 1+5 56+8 2+2 152+3 1+13 1+7 4+1 6+1 3+2 198+64 524+1 195+33 3070+3 141+1 96+32 554+6",
    "105+2 30164+4 1+10 32+2 80+2 272+1 3+1 4+1 25+2 5+1 151+2 26+18 13+1 38+8 25+11 1+1 44+3 48+1",
    "2+4 2+2 2+1 36+1 67+6 2+2 2+2 12+1 8+1 47+1 51+1 1+3 2+2 5+2 1+1 42+2 8+1 238+1 2+1 4+1",
    "20272+1 737+16 16+16 366+2 605+1 226+1 149+5 1670+3 1+2 5+4 40+3 4+1 165+2 573+4 65+5 317+2",
    "77+6 70+11 49+4 123+1 54+15 41+1 2+2 10+3 49+4 2+2 7+1 61+3 36+5 1+8 62+1 12+2 52+9 1+1 8+4",
    "2+1 95+3 2+4 6+1 2+1 157+1 3+8 21+2 57+2 1+1 1+1 12+1 9+1 14+7 3+5 67+1 2+6 1+1 2+1 1+3 4+3",
    "1+1 14+2 85+8 2+3 1+1 23+1 81+1 2+6 1+1 2+1 1+2 1+2 235+1 2+4 6+2 1+2 27+2 85+8 2+1 1+2 106+1",
    "1+1 2+8 101+1 1+1 2+4 1+5 259+9 1+2 245+1 10+4 4+1 144+4 2+2 4+1 32+10 40+6 2+4 8+1 9+6 2+3",
    "46+13 1+2 198+1 1+3 1+1 201+7 1+6 1+1 82+22 2+7 1+2 1+2 122+6 3+1 1+2 1+7 1+1 72+2 3+1 1+1",
    "347+2 11+2 52+5 5+3 23+1 5349+1 6+15 11464+12 3+3 2496+5 59+7 1048+1 63+4 81+1 11+2 19627+2",
    "4705+46 2+23 542+5 3+6 8+8 2+7 30+4 148+3 1979+55 4+50 8+1 14+1 22+5 1+15 1360+7 1+17 2+7 1+2",
    "1+5 100+1 160+7 375+1 61+4 508+4 254+2 243+1 2+1 7+2 5+1 474+7 109+7 792277+96 128+240"]

/-- The characters that have a case, by the Cased property. -/
def casedRuns : CodeRuns :=
  CodeRuns.ofLines ["65+26 6+26 47+1 10+1 4+1 5+23 1+31 1+195 1+4 4+208 2+35 7+2 30+5 96+1 42+4 2+2 2+4 1+1 6+1 1+3",
    "1+1 1+20 1+83 1+139 8+166 1+38 9+41 2839+38 1+1 5+1 2+43 1+4 672+86 2+6 2178+11 5+43 2+3",
    "64+192 64+278 2+6 2+38 2+6 2+8 1+1 1+1 1+1 1+31 2+53 1+7 1+1 3+3 1+7 3+4 2+6 4+13 5+3 1+7",
    "116+1 13+1 16+13 101+1 4+1 2+10 1+1 3+5 6+1 1+1 1+1 1+4 1+6 4+1 2+4 5+5 4+1 17+32 3+2 817+52",
    "1814+229 6+4 3+2 12+38 1+1 5+1 30994+46 18+30 132+102 3+4 1+77 20+6 1+3 821+43 1+14 6+80",
    "20288+7 12+5 1033+26 6+26 1189+80 96+36 4+36 116+11 1+15 1+7 1+2 1+11 1+15 1+7 1+2 451+1 2+3",
    "1+42 1+9 1221+51 13+51 93+22 10+22 2842+64 21856+64 32+25 2+25 25900+85 1+71 1+2 2+1 2+2 2+4",
    "1+12 1+1 1+7 1+65 1+4 2+8 1+7 1+28 1+4 1+5 1+1 3+7 1+340 2+25 1+25 1+31 1+25 1+31 1+25 1+31",
    "1+25 1+31 1+25 1+8 1844+10 1+20 6+6 261+62 2194+68 2028+26 6+26 6+26"]

/-- The characters that case rules look past, by the Case_Ignorable property. -/
def caseIgnorableRuns : CodeRuns :=
  CodeRuns.ofLines ["39+1 6+1 11+1 35+1 1+1 71+1 4+1 1+1 4+1 2+2 503+192 4+2 4+1 9+2 1+1 251+7 207+1 5+1 49+45 1+1",
    "1+2 1+2 1+1 44+1 11+6 10+11 1+1 35+1 10+21 16+1 101+8 1+10 1+4 33+1 1+1 30+27 91+11 58+11 4+1",
    "2+1 24+24 43+3 44+1 7+2 5+9 41+58 55+1 1+1 4+8 4+1 3+7 10+2 13+1 15+1 58+1 4+4 8+1 20+2 26+1",
    "2+2 57+1 4+2 4+2 2+3 3+1 30+2 3+1 11+2 57+1 4+5 1+2 4+1 20+2 22+6 1+1 58+1 2+1 1+4 8+1 7+2",
    "11+2 30+1 61+1 12+1 50+1 3+1 55+1 1+3 5+3 1+4 7+2 11+2 29+1 58+1 2+1 6+1 5+2 20+2 28+2 57+2",
    "4+4 8+1 20+2 29+1 72+1 7+3 1+1 90+1 2+7 11+9 98+1 2+9 9+1 1+7 73+2 27+1 1+1 1+1 55+14 1+5 1+2",
    "5+11 1+36 9+1 102+4 1+6 1+2 2+2 25+2 4+3 16+4 13+1 2+2 6+1 15+1 94+1 608+3 946+3 29+2 30+2",
    "30+2 64+2 1+7 8+1 2+11 3+1 5+1 45+5 51+1 65+2 34+1 118+3 4+2 9+1 6+3 219+2 2+1 58+1 1+7 1+1",
    "1+1 2+8 6+10 2+1 39+1 8+46 2+12 20+4 48+1 1+5 1+1 5+1 40+9 12+2 32+4 2+2 1+3 56+1 1+2 3+1 1+3",
    "58+8 2+2 64+6 82+3 1+13 1+7 4+1 6+1 3+2 50+63 13+1 34+101 445+1 1+3 11+3 13+3 13+3 13+2 12+5",
    "8+2 10+1 2+1 2+5 49+5 1+10 1+1 13+1 16+13 51+33 2955+2 113+3 125+1 15+1 96+32 47+1 469+1 36+4",
    "3+5 5+1 93+6 93+3 28438+1 1250+6 270+1 98+4 1+10 1+1 28+4 80+2 14+34 78+1 23+3 102+4 3+2 8+1",
    "3+1 4+1 25+2 5+1 151+2 26+18 13+1 38+8 25+11 46+3 48+1 2+4 2+2 17+1 21+2 66+6 2+2 2+2 12+1 8+1",
    "35+1 11+1 51+1 1+3 2+2 5+2 1+1 27+1 14+2 5+2 1+1 100+5 9+3 121+1 2+1 4+1 20272+1 147+17 573+16",
    "3+1 12+16 34+1 2+1 169+1 7+1 6+1 11+1 35+1 1+1 47+1 45+2 67+1 21+3 513+1 226+1 149+5 1029+6",
    "1+42 1+9 582+3 1+2 5+4 40+3 4+1 165+2 573+4 38+1 26+5 1+1 315+2 24+1 52+6 70+11 49+4 123+1",
    "54+15 41+1 2+2 10+3 49+4 2+2 2+1 4+1 10+1 50+3 36+5 1+8 62+1 12+2 52+9 10+4 2+1 95+3 2+1 1+2",
    "6+1 2+1 157+1 3+8 21+2 57+2 3+1 37+7 3+5 70+6 13+1 1+1 1+1 14+2 85+8 2+3 1+1 23+1 84+6 1+1 4+2",
    "1+2 238+4 6+2 1+2 27+2 85+8 2+1 1+2 106+1 1+1 2+6 1+1 101+1 1+1 2+4 1+5 259+9 1+2 256+2 1+1",
    "4+1 144+4 2+2 4+1 32+10 40+6 2+4 8+1 9+6 2+3 46+13 1+2 198+1 1+3 1+1 201+7 1+6 1+1 82+22 2+7",
    "1+2 1+2 122+6 3+1 1+2 1+7 1+1 72+2 3+1 1+1 65+1 281+2 11+2 52+5 5+1 1+1 23+1 5333+17 6+15",
    "11464+12 3+3 2496+5 59+7 9+4 508+3 40+2 482+1 63+17 64+2 1+2 13+2 16380+4 1+7 1+2 3230+2 1+4",
    "4700+46 2+23 544+3 9+16 2+7 30+4 148+3 1979+55 4+50 8+1 14+1 22+5 1+15 1360+7 1+17 2+7 1+2 1+5",
    "5+62 33+1 160+14 368+1 61+4 507+5 254+2 243+1 2+1 7+2 5+1 9+1 464+7 109+8 2735+5 789505+1",
    "30+96 128+240"]

/-- Whether a character is a letter or a number. -/
def isAlphanumeric (c : Char) : Bool :=
  if c.toNat < 128 then c.isAlphanum else alphanumericRuns.contains c

/-- Whether a character has a visible form of its own. -/
def isVisible (c : Char) : Bool :=
  if c.toNat < 128 then 32 ≤ c.toNat && c.toNat < 127
  else !invisibleRuns.contains c && !graphemeExtendRuns.contains c

/-! ### Quoted texts -/

/-- A number in lower-case hexadecimal digits. -/
def hexadecimal (value : Nat) : String :=
  String.ofList (Nat.toDigits 16 value)

/-- One character inside a quoted text. -/
def quotedChar (c : Char) : String :=
  if c = '"' then "\\\""
  else if c = '\\' then "\\\\"
  else if c = '\n' then "\\n"
  else if c = '\r' then "\\r"
  else if c = '\t' then "\\t"
  else if c.toNat = 0 then "\\0"
  else if isVisible c then String.singleton c
  else "\\u\x7b" ++ hexadecimal c.toNat ++ "\x7d"

/-- A text in double quotes, in the form that messages use. -/
def quoted (text : String) : String :=
  "\"" ++ String.join (text.toList.map quotedChar) ++ "\""

end LogForwarder.Text
