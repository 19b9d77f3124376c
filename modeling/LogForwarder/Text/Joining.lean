/-
Joining of letters in Unicode 17: which letters take part in a cursive script, and which characters
are looked past by it.
-/

import LogForwarder.Text.CodeRuns

namespace LogForwarder.Text

/-- The letters that join the one after them. -/
def joinsNextRuns : CodeRuns :=
  CodeRuns.ofLines ["1568+1 5+1 1+1 1+5 4+13 1+7 1+2 35+2 8+16 18+38 1+2 9+1 1+1 1+2 40+3 2+1 18+3 5+4 1+9 1+1 1+1",
    "1+2 31+11 3+15 2+4 1+1 2+3 2+6 74+33 86+5 2+1 1+10 1+1 10+1 1+4 2+1 29+1 2+5 1+1 16+10 5+2 2+6",
    "1+15 3902+1 24+89 14+34 1+1 36757+51 25165+5 8+1 5+10 1+3 10+4 145+1 1+1 3+3 1+2 1+1 2+1 28+2",
    "337+34 1+1 415+2 1+2 104+3 1+17 12+3 28+4 2+12 46+1 1+2 4+1 2+2 1+2 1+1 2+1 5+2 55604+68"]

/-- The letters that join the one before them. -/
def joinsPreviousRuns : CodeRuns :=
  CodeRuns.ofLines ["1568+1 1+30 1+10 35+2 1+3 1+95 1+1 24+2 10+3 2+1 16+1 1+30 29+51 74+33 85+25 7+1 1+4 1+4 5+19",
    "3+1 2+7 16+13 1+27 3902+1 24+89 14+34 1+1 36757+50 25166+6 1+1 1+2 3+9 1+10 2+1 6+5 144+18",
    "23+6 338+35 414+3 1+2 104+21 12+4 27+18 46+1 1+5 1+8 1+4 4+2 55605+68"]

/-- The characters that letters join across. -/
def joinTransparentRuns : CodeRuns :=
  CodeRuns.ofLines ["173+1 594+112 275+7 263+45 1+1 1+2 1+2 1+1 72+11 1+1 46+21 16+1 101+7 2+6 2+2 1+4 33+1 1+1",
    "30+27 91+11 58+9 9+1 24+4 1+9 1+3 1+5 43+3 59+9 42+24 1+32 55+1 1+1 4+8 4+1 3+7 10+2 29+1 58+1",
    "4+4 8+1 20+2 26+1 2+2 57+1 4+2 4+2 2+3 3+1 30+2 3+1 11+2 57+1 4+5 1+2 4+1 20+2 22+6 1+1 58+1",
    "2+1 1+4 8+1 7+2 11+2 30+1 61+1 12+1 50+1 3+1 55+1 1+3 5+3 1+4 7+2 11+2 29+1 58+1 2+1 6+1 5+2",
    "20+2 28+2 57+2 4+4 8+1 20+2 29+1 72+1 7+3 1+1 90+1 2+7 12+8 98+1 2+9 11+7 73+2 27+1 1+1 1+1",
    "55+14 1+5 1+2 5+11 1+36 9+1 102+4 1+6 1+2 2+2 25+2 4+3 16+4 13+1 2+2 6+1 15+1 703+3 946+3 29+2",
    "30+2 30+2 64+2 1+7 8+1 2+11 9+1 45+3 1+1 117+2 34+1 118+3 4+2 9+1 6+3 219+2 2+1 58+1 1+7 1+1",
    "1+1 2+8 6+10 2+1 48+46 2+12 20+4 48+1 1+5 1+1 5+1 40+9 12+2 32+4 2+2 1+3 56+1 1+2 3+1 1+3 58+8",
    "2+2 152+3 1+13 1+7 4+1 6+1 3+2 198+64 523+1 2+2 26+5 49+5 5+6 96+33 3070+3 141+1 96+32 554+4",
    "107+2 30164+4 1+10 32+2 80+2 272+1 3+1 4+1 25+2 5+1 151+2 26+18 13+1 38+8 25+11 46+3 48+1 2+4",
    "2+2 39+1 67+6 2+2 2+2 12+1 8+1 47+1 51+1 1+3 2+2 5+2 1+1 42+2 8+1 238+1 2+1 4+1 20272+1 737+16",
    "16+16 207+1 249+3 513+1 226+1 149+5 1670+3 1+2 5+4 40+3 4+1 165+2 573+4 65+5 317+2 77+6 70+11",
    "49+4 123+1 54+15 41+1 2+2 10+3 49+4 2+2 7+1 61+3 36+5 1+8 62+1 12+2 52+9 10+4 2+1 95+3 2+1 1+2",
    "6+1 2+1 157+1 3+8 21+2 57+2 3+1 37+7 3+5 70+6 13+1 1+1 1+1 14+2 85+8 2+3 1+1 23+1 84+6 1+1 4+2",
    "1+2 238+4 6+2 1+2 27+2 85+8 2+1 1+2 106+1 1+1 2+6 1+1 101+1 1+1 2+4 1+5 259+9 1+2 256+2 1+1",
    "4+1 144+4 2+2 4+1 32+10 40+6 2+4 8+1 9+6 2+3 46+13 1+2 198+1 1+3 1+1 201+7 1+6 1+1 82+22 2+7",
    "1+2 1+2 122+6 3+1 1+2 1+7 1+1 72+2 3+1 1+1 347+2 11+2 52+5 5+1 1+1 23+1 5333+17 6+15 11464+12",
    "3+3 2496+5 59+7 1048+1 63+4 81+1 19640+2 1+4 4700+46 2+23 544+3 9+16 2+7 30+4 148+3 1979+55",
    "4+50 8+1 14+1 22+5 1+15 1360+7 1+17 2+7 1+2 1+5 100+1 160+7 375+1 61+4 508+4 254+2 243+1 2+1",
    "7+2 5+1 474+7 109+8 792245+1 30+96 128+240"]

/-- The marks, which never stand alone. -/
def markRuns : CodeRuns :=
  CodeRuns.ofLines ["768+112 275+7 263+45 1+1 1+2 1+2 1+1 72+11 48+21 16+1 101+7 2+6 2+2 1+4 35+1 30+27 91+11 58+9",
    "9+1 24+4 1+9 1+3 1+5 43+3 59+9 42+24 1+33 54+3 1+18 1+7 10+2 29+3 56+1 1+7 2+2 2+3 9+1 10+2",
    "26+1 2+3 56+1 1+5 4+2 2+3 3+1 30+2 3+1 11+3 56+1 1+8 1+3 1+3 20+2 22+6 1+3 56+1 1+7 2+2 2+3",
    "7+3 10+2 30+1 59+5 3+3 1+4 9+1 40+5 55+1 1+7 1+3 1+4 7+2 11+2 29+3 56+1 1+7 1+3 1+4 7+2 11+2",
    "15+1 12+4 55+2 1+7 1+3 1+4 9+1 10+2 29+3 70+1 4+6 1+1 1+8 18+2 61+1 2+7 12+8 98+1 2+9 11+7",
    "73+2 27+1 1+1 1+1 4+2 49+20 1+2 5+11 1+36 9+1 100+20 23+4 4+3 1+3 2+7 3+4 13+12 1+1 10+4 703+3",
    "946+4 28+3 29+2 30+2 64+32 9+1 45+3 1+1 117+2 34+1 118+12 4+12 219+5 57+10 1+29 2+1 48+46 2+12",
    "20+5 47+17 38+9 12+3 30+13 56+14 48+20 152+3 1+21 4+1 6+1 2+3 198+64 720+33 3070+3 141+1 96+32",
    "554+6 105+2 30164+4 1+10 32+2 80+2 272+1 3+1 4+1 23+5 4+1 83+2 50+18 26+18 13+1 38+8 25+13",
    "44+4 47+14 36+1 67+14 12+1 8+2 45+3 50+1 1+3 2+2 5+2 1+1 41+5 5+2 236+8 1+2 20272+1 737+16",
    "16+16 973+1 226+1 149+5 1670+3 1+2 5+4 40+3 4+1 165+2 573+4 65+5 317+2 77+6 70+11 49+4 122+3",
    "53+15 41+1 2+2 10+4 45+11 7+1 61+3 36+14 16+2 44+1 12+3 48+14 8+4 1+2 92+12 6+1 2+1 157+12",
    "21+4 55+2 1+7 2+2 2+3 9+1 10+2 2+7 3+5 67+9 1+1 2+1 1+4 1+5 1+1 14+2 82+18 23+1 81+20 235+7",
    "2+9 27+2 82+17 106+13 101+15 256+15 245+6 1+2 2+4 1+1 1+2 141+7 2+7 3+1 28+10 40+7 1+4 8+1",
    "9+11 46+16 198+8 199+8 1+8 82+22 1+14 122+6 3+1 1+2 1+7 1+1 66+5 1+2 1+5 347+4 9+2 1+1 48+7",
    "3+5 23+1 5349+1 6+15 11464+18 2496+5 59+7 1048+1 1+55 7+4 81+1 11+2 19627+2 4705+46 2+23 542+5",
    "3+6 8+8 2+7 30+4 148+3 1979+55 4+50 8+1 14+1 22+5 1+15 1360+7 1+17 2+7 1+2 1+5 100+1 160+7",
    "375+1 61+4 508+4 254+2 243+1 2+1 7+2 5+1 474+7 109+7 792501+240"]

end LogForwarder.Text
