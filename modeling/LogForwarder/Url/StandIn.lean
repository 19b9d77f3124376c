/-
Characters of domains: each character that may be typed in a domain stands for the characters under
which the domain is looked up, in the version of Unicode 17. Letters stand for their lower-case form
where nothing else is said.
-/

import LogForwarder.Text.Case
import LogForwarder.Text.CodeRuns

namespace LogForwarder.Url

open Text

/-! ### Tables -/

/-- The characters that no domain may have. -/
def disallowedRuns : CodeRuns :=
  CodeRuns.ofLines ["128+32 728+2 6+4 7+1 1+1 20+1 397+1 38+2 50+2 3+1 55+8 27+4 6+17 22+1 192+1 48+2 59+2 101+14",
    "59+2 49+2 15+1 28+2 1+1 11+5 32+7 75+1 161+1 8+2 2+2 22+1 7+1 1+3 4+2 9+2 2+2 4+8 1+4 2+1 5+2",
    "25+2 3+1 6+4 2+2 22+1 7+1 2+1 2+1 2+2 1+1 5+4 2+2 3+3 1+7 4+1 1+7 17+10 3+1 9+1 3+1 22+1 7+1",
    "2+1 5+2 10+1 3+1 3+2 1+15 4+2 12+7 7+1 3+1 8+2 2+2 22+1 7+1 2+1 5+2 9+2 2+2 3+7 3+4 2+1 5+2",
    "18+10 2+1 6+3 3+1 4+3 2+1 1+1 2+3 2+3 3+3 12+4 5+3 3+1 4+2 1+6 1+14 21+5 13+1 3+1 23+1 16+2",
    "9+1 3+1 4+7 2+1 3+1 2+2 4+2 10+7 22+1 3+1 23+1 10+1 5+2 9+1 3+1 4+7 2+5 3+1 4+2 10+1 3+12 13+1",
    "3+1 51+1 3+1 6+4 16+2 26+1 3+1 18+3 24+1 9+1 1+2 7+3 1+4 6+1 1+1 8+6 10+2 3+12 58+4 29+37 2+1",
    "1+1 5+1 24+1 1+1 23+2 5+1 1+1 7+1 10+2 4+32 72+1 36+4 39+1 36+1 15+1 13+37 198+1 1+5 1+2 377+1",
    "4+2 7+1 1+1 4+2 41+1 4+2 33+1 4+2 7+1 1+1 4+2 15+1 57+1 4+2 67+2 32+3 26+6 86+2 6+2 640+1 28+3",
    "89+7 22+9 24+9 20+12 13+1 3+1 2+12 94+2 10+6 10+6 26+6 89+7 43+5 70+10 31+1 12+4 12+4 1+3 42+2",
    "5+11 44+4 26+6 11+3 62+2 65+1 29+2 11+6 10+6 14+2 46+2 12+20 77+1 166+8 60+3 15+3 62+5 43+2",
    "11+8 43+5 534+2 6+2 38+2 6+2 8+1 1+1 1+1 1+1 31+2 53+1 15+1 14+2 6+1 19+2 3+1 9+1 14+2 20+3",
    "1+7 54+5 8+2 27+1 13+3 34+14 33+15 140+4 666+22 11+21 40+20 1752+2 382+5 45+1 1+5 1+2 56+7",
    "2+14 24+9 7+1 7+1 7+1 7+1 7+1 7+1 7+1 7+1 126+34 26+1 89+12 214+42 64+1 86+2 103+5 43+1 94+1",
    "86+10 47+1 418+1 4+1 16+1 28852+3 55+9 348+20 184+8 221+20 60+3 10+6 56+8 70+8 12+6 116+11",
    "30+3 78+1 11+4 33+1 55+9 14+2 10+2 103+24 28+10 6+2 6+2 6+9 7+1 7+1 60+4 126+2 10+6 11172+12",
    "23+4 49+8452 366+2 106+38 7+12 5+5 26+1 5+1 1+1 2+1 2+1 650+32 34+1 6+7 16+1 33+2 19+1 4+4 5+1",
    "135+2 1+1 190+3 6+2 6+2 6+2 3+3 7+1 7+17 12+1 26+1 19+1 2+1 15+2 14+34 123+5 3+4 45+3 88+1",
    "13+3 1+47 46+130 29+3 49+15 28+4 36+9 30+5 43+5 30+1 37+4 14+42 158+2 10+6 36+4 36+4 40+8",
    "52+11 12+1 15+1 7+1 2+1 11+1 15+1 7+1 2+3 52+12 311+9 22+10 8+24 6+1 42+1 9+69 6+2 1+1 44+1",
    "2+3 1+2 23+1 72+8 9+48 19+1 2+5 33+3 27+5 27+38 56+4 20+2 50+1 2+5 8+1 3+1 29+2 3+4 10+7 9+7",
    "64+32 39+4 12+9 54+3 29+2 27+5 26+7 4+12 7+80 73+55 51+13 51+7 46+8 10+6 38+3 29+8 2+208 31+1",
    "42+1 3+2 2+16 6+8 9+33 46+8 42+22 26+38 28+20 23+9 78+4 36+9 62+1 5+13 25+7 10+6 53+1 18+8",
    "39+9 96+1 20+11 18+1 47+62 7+1 1+1 4+1 15+1 11+6 59+5 10+6 4+1 8+2 2+2 22+1 7+1 2+1 5+1 10+2",
    "2+2 3+2 1+6 1+5 7+2 7+3 5+11 10+1 1+2 1+1 38+1 10+1 1+2 1+1 4+1 10+1 2+8 2+29 92+1 5+30 72+8",
    "10+166 54+2 38+34 69+11 10+6 13+19 58+6 10+6 20+28 27+2 15+4 23+185 60+100 83+12 8+2 1+2 8+1",
    "2+1 30+1 2+2 12+9 10+70 8+2 46+2 11+27 72+8 83+13 73+7 10+86 8+88 34+14 10+6 9+1 45+1 14+10",
    "29+3 32+2 22+1 14+73 7+1 2+1 44+3 1+1 2+1 9+8 10+6 6+1 2+1 37+1 2+1 6+7 10+6 44+4 10+246 25+7",
    "17+1 41+3 29+85 1+15 50+13 923+102 111+1 5+11 196+2636 99+13 1072+16 22+10 3995+5 583+6841",
    "58+1734 569+7 31+1 10+4 81+1 10+6 30+2 6+10 70+10 10+1 7+1 21+5 19+432 58+198 91+5 25+2 25+44",
    "75+4 57+7 17+64 5+11 7+9 7382+41 32+97 115+8701 4+1 7+1 2+1 291+15 1+29 3+2 1+14 4+8 396+2308",
    "107+5 13+3 9+7 10+2 8+3932 253+3 436+6 23+15 17+15 46+2 23+9 116+60 246+10 39+2 194+21 70+122",
    "20+12 20+12 87+9 25+135 85+1 71+1 2+2 1+2 2+2 4+1 12+1 1+1 7+1 65+1 4+2 8+1 7+1 28+1 4+1 5+1",
    "1+3 7+1 340+2 292+2 702+15 5+1 15+1104 31+6 6+213 7+1 17+2 7+1 2+1 5+5 62+33 1+112 45+3 14+2",
    "10+4 2+320 31+17 58+5 1+464 42+214 43+4 1+192 31+1 22+8 2+224 7+1 4+1 2+1 15+1 197+2 16+41",
    "76+4 10+4 2+785 68+76 61+194 4+1 27+1 2+1 1+2 1+1 10+1 4+1 1+1 1+6 1+4 1+1 1+1 1+1 3+1 2+1 1+2",
    "1+1 1+1 1+1 1+1 1+1 2+1 1+2 4+1 7+1 4+1 4+1 1+1 10+1 17+5 3+1 5+1 17+52 2+270 44+4 100+12 15+2",
    "15+1 15+1 37+11 173+56 29+13 44+4 9+7 2+14 6+154 985+3 17+3 13+3 218+6 12+4 1+15 12+4 56+8",
    "10+6 40+8 30+2 12+4 2+14 9+39 344+8 14+2 13+3 11+3 57+1 1+4 16+2 12+4 10+7 147+1 103+1029",
    "42720+32 4382+2 5774+2 7473+15 622+2466 542+1506 4939+5 8490+707718 240+196112"]

/-- The characters that stand for nothing. -/
def ignoredRuns : CodeRuns :=
  CodeRuns.ofLines ["173+1 673+1 3599+2 1619+2 85+5 2043+1 84+5 5+6 4340+1 52379+16 239+1 160+1 48383+4 5327+8",
    "798597+240"]

/-- What characters stand for, apart from the lower-case form of letters. -/
def standInMap : CodeMap :=
  CodeMap.ofLines ["160=32 7=32,776 1=97 4=32,772 2+2=50 0=32,769 0=956 2=32,807 0=49 0=111 1=49,8260,52",
    "0=49,8260,50 0=51,8260,52 115=105,106 0=105,106 11=108,183 0=108,183 8=700,110 53=115",
    "68=100,382 0=100,382 0=100,382 0=108,106 0=108,106 0=108,106 0=110,106 0=110,106 0=110,106",
    "36=100,122 0=100,122 0=100,122 188=104 0=614 0=106 0=114 0=633 0=635 0=641 0=119 0=121",
    "31=32,774 0=32,775 0=32,778 0=32,808 0=32,771 0=32,779 2=611 0=108 0=115 0=120 0=661 91+2=768",
    "1=787 0=776,769 0=953 46=697 5=32,953 3=59 5=32,769 0=32,776,769 1=183 72=946 0=952 0=965",
    "0=973 0=971 0=966 0=960 25=954 0=961 0=963 2=949 3=963 397=1381,1410 237=1575,1652 0=1608,1652",
    "0=1735,1652 0=1610,1652 735=2325,2364 0=2326,2364 0=2327,2364 0=2332,2364 0=2337,2364",
    "0=2338,2364 0=2347,2364 0=2351,2364 124=2465,2492 0=2466,2492 1=2479,2492 83=2610,2620",
    "2=2616,2620 34=2582,2620 0=2583,2620 0=2588,2620 2=2603,2620 253=2849,2876 0=2850,2876",
    "725=3661,3634 127=3789,3762 40=3755,3737 0=3755,3745 46=3851 54=3906,4023 9=3916,4023",
    "4=3921,4023 4=3926,4023 4=3931,4023 12=3904,4021 9=3953,3954 1=3953,3956 0=4018,3968",
    "0=4018,3953,3968 0=4019,3968 0=4019,3953,3968 7=3953,3968 17=3986,4023 9=3996,4023 4=4001,4023",
    "4=4006,4023 4=4011,4023 12=3984,4021 322=4316 675+86=5024 2+6=5104 2178=1074 0=1076 0=1086",
    "0+2=1089 0=1090 0=1098 0=1123 0=42571 163=97 0=230 0=98 1+2=100 0=477 0+8=103 1=111 0=547",
    "0=112 0=114 0+2=116 0=119 0=97 0+2=592 0=7426 0=98 0+2=100 0=601 0+2=603 0=103 1=107 0=109",
    "0=331 0=111 0=596 0+2=7446 0=112 0+2=116 0=7453 0=623 0=118 0=7461 0+3=946 0+2=966 0=105 0=114",
    "0+2=117 0+2=946 0=961 0+2=966 13=1085 34=594 0=99 0=597 0=240 0=604 0=102 0=607 0=609 0=613",
    "0+3=616 0=7547 0=669 0=621 0=7557 0=671 0=625 0=624 0+4=626 0=632 0+2=642 0=427 0+2=649 0=7452",
    "0+2=651 0=122 0+3=656 0=952 218=97,702 0=7777 213=940 1=941 1=942 1=943 1=972 1=973 1=974",
    "2=7936,953 0=7937,953 0=7938,953 0=7939,953 0=7940,953 0=7941,953 0=7942,953 0=7943,953",
    "0=7936,953 0=7937,953 0=7938,953 0=7939,953 0=7940,953 0=7941,953 0=7942,953 0=7943,953",
    "0=7968,953 0=7969,953 0=7970,953 0=7971,953 0=7972,953 0=7973,953 0=7974,953 0=7975,953",
    "0=7968,953 0=7969,953 0=7970,953 0=7971,953 0=7972,953 0=7973,953 0=7974,953 0=7975,953",
    "0=8032,953 0=8033,953 0=8034,953 0=8035,953 0=8036,953 0=8037,953 0=8038,953 0=8039,953",
    "0=8032,953 0=8033,953 0=8034,953 0=8035,953 0=8036,953 0=8037,953 0=8038,953 0=8039,953",
    "2=8048,953 0=945,953 0=940,953 2=8118,953 3=940 0=945,953 0=32,787 0=953 0=32,787 0=32,834",
    "0=32,776,834 0=8052,953 0=951,953 0=942,953 2=8134,953 1=941 1=942 0=951,953 0=32,787,768",
    "0=32,787,769 0=32,787,834 3=912 7=943 1=32,788,768 0=32,788,769 0=32,788,834 3=944 7=973",
    "1=32,776,768 0=32,776,769 0=96 2=8060,953 0=969,953 0=974,953 2=8182,953 1=972 1=974 0=969,953",
    "0=32,769 0=32,788 1*11=32 6=8208 5=32,819 23=32 3=8242,8242 0=8242,8242,8242 1=8245,8245",
    "0=8245,8245,8245 4=33,33 1=32,773 8=63,63 0=63,33 0=33,63 13=8242,8242,8242,8242 7=32 16=48",
    "0=105 2+6=52 0=43 0=8722 0=61 0+2=40 0=110 0+10=48 0=43 0=8722 0=61 0+2=40 1=97 0=101 0=111",
    "0=120 0=601 0=104 0+4=107 0=112 0+2=115 11=114,115 87=97,47,99 0=97,47,115 0=99 0=176,99",
    "1=99,47,111 0=99,47,117 0=603 1=176,102 0+2=103 0*3=104 0=295 0*2=105 0*2=108 1=110 0=110,111",
    "2+3=112 0*2=114 2=115,109 0=116,101,108 0=116,109 1=122 3=122 3+2=98 1*2=101 0=102 1=109 0=111",
    "0+4=1488 0=105 1=102,97,120 0=960 0*2=947 0=960 0=8721 4*2=100 0=101 0+2=105 6=49,8260,55",
    "0=49,8260,57 0=49,8260,49,48 0=49,8260,51 0=50,8260,51 0=49,8260,53 0=50,8260,53 0=51,8260,53",
    "0=52,8260,53 0=49,8260,54 0=53,8260,54 0=49,8260,56 0=51,8260,56 0=53,8260,56 0=55,8260,56",
    "0=49,8260 0=105 0=105,105 0=105,105,105 0=105,118 0=118 0=118,105 0=118,105,105",
    "0=118,105,105,105 0=105,120 0=120 0=120,105 0=120,105,105 0=108 0+2=99 0=109 0=105 0=105,105",
    "0=105,105,105 0=105,118 0=118 0=118,105 0=118,105,105 0=118,105,105,105 0=105,120 0=120",
    "0=120,105 0=120,105,105 0=108 0+2=99 0=109 9=48,8260,51 162=8747,8747 0=8747,8747,8747",
    "1=8750,8750 0=8750,8750,8750 248+2=12296 309+9=49 0=49,48 0=49,49 0=49,50 0=49,51 0=49,52",
    "0=49,53 0=49,54 0=49,55 0=49,56 0=49,57 0=50,48 0=40,49,41 0=40,50,41 0=40,51,41 0=40,52,41",
    "0=40,53,41 0=40,54,41 0=40,55,41 0=40,56,41 0=40,57,41 0=40,49,48,41 0=40,49,49,41",
    "0=40,49,50,41 0=40,49,51,41 0=40,49,52,41 0=40,49,53,41 0=40,49,54,41 0=40,49,55,41",
    "0=40,49,56,41 0=40,49,57,41 0=40,50,48,41 20=40,97,41 0=40,98,41 0=40,99,41 0=40,100,41",
    "0=40,101,41 0=40,102,41 0=40,103,41 0=40,104,41 0=40,105,41 0=40,106,41 0=40,107,41",
    "0=40,108,41 0=40,109,41 0=40,110,41 0=40,111,41 0=40,112,41 0=40,113,41 0=40,114,41",
    "0=40,115,41 0=40,116,41 0=40,117,41 0=40,118,41 0=40,119,41 0=40,120,41 0=40,121,41",
    "0=40,122,41 0+26=97 0+26=97 0=48 1313=8747,8747,8747,8747 103=58,58,61 0=61,61 0=61,61,61",
    "101=10973,824 415=106 0=118 241=11617 303=27597 83=40863 12=19968 0=20008 0=20022 0=20031",
    "0=20057 0=20101 0=20108 0=20128 0=20154 0=20799 0=20837 0=20843 0=20866 0=20886 0=20907",
    "0=20960 0=20981 0=20992 0=21147 0=21241 0=21269 0=21274 0=21304 0=21313 0=21340 0=21353",
    "0=21378 0=21430 0=21448 0=21475 0=22231 0=22303 0=22763 0=22786 0=22794 0=22805 0=22823",
    "0=22899 0=23376 0=23424 0=23544 0=23567 0=23586 0=23608 0=23662 0=23665 0=24027 0=24037",
    "0=24049 0=24062 0=24178 0=24186 0=24191 0=24308 0=24318 0=24331 0=24339 0=24400 0=24417",
    "0=24435 0=24515 0=25096 0=25142 0=25163 0=25903 0=25908 0=25991 0=26007 0=26020 0=26041",
    "0=26080 0=26085 0=26352 0=26376 0=26408 0=27424 0=27490 0=27513 0=27571 0=27595 0=27604",
    "0=27611 0=27663 0=27668 0=27700 0=28779 0=29226 0=29238 0=29243 0=29247 0=29255 0=29273",
    "0=29275 0=29356 0=29572 0=29577 0=29916 0=29926 0=29976 0=29983 0=29992 0=30000 0=30091",
    "0=30098 0=30326 0=30333 0=30382 0=30399 0=30446 0=30683 0=30690 0=30707 0=31034 0=31160",
    "0=31166 0=31348 0=31435 0=31481 0=31859 0=31992 0=32566 0=32593 0=32650 0=32701 0=32769",
    "0=32780 0=32786 0=32819 0=32895 0=32905 0=33251 0=33258 0=33267 0=33276 0=33292 0=33307",
    "0=33311 0=33390 0=33394 0=33400 0=34381 0=34411 0=34880 0=34892 0=34915 0=35198 0=35211",
    "0=35282 0=35328 0=35895 0=35910 0=35925 0=35960 0=35997 0=36196 0=36208 0=36275 0=36523",
    "0=36554 0=36763 0=36784 0=36789 0=37009 0=37193 0=37318 0=37324 0=37329 0=38263 0=38272",
    "0=38428 0=38582 0=38585 0=38632 0=38737 0=38750 0=38754 0=38761 0=38859 0=38893 0=38899",
    "0=38913 0=39080 0=39131 0=39135 0=39318 0=39321 0=39340 0=39592 0=39640 0=39647 0=39717",
    "0=39727 0=39730 0=39740 0=39770 0=40165 0=40565 0=40575 0=40613 0=40635 0=40643 0=40653",
    "0=40657 0=40697 0=40701 0=40718 0=40723 0=40736 0=40763 0=40778 0=40786 0=40845 0=40860",
    "0=40864 42=32 1=46 51=12306 1=21313 0+2=21316 96=32,12441 0=32,12442 2=12424,12426",
    "95=12467,12488 49+2=4352 0=4522 0=4354 0+2=4524 0+3=4355 0+6=4528 0=4378 0+3=4358 0=4385",
    "0+10=4361 0+21=4449 1+2=4372 0+2=4551 0=4556 0=4558 0=4563 0=4567 0=4569 0=4380 0=4573 0=4575",
    "0+2=4381 0=4384 0+2=4386 0=4391 0=4393 0+5=4395 0=4402 0=4406 0=4416 0=4423 0=4428 0+2=4593",
    "0+3=4439 0+2=4484 0=4488 0+2=4497 0=4500 0=4510 0=4513 3=19968 0=20108 0=19977 0=22235 0=19978",
    "0=20013 0=19979 0=30002 0=20057 0=19993 0=19969 0=22825 0=22320 0=20154 96=40,4352,41",
    "0=40,4354,41 0=40,4355,41 0=40,4357,41 0=40,4358,41 0=40,4359,41 0=40,4361,41 0=40,4363,41",
    "0=40,4364,41 0=40,4366,41 0=40,4367,41 0=40,4368,41 0=40,4369,41 0=40,4370,41 0=40,44032,41",
    "0=40,45208,41 0=40,45796,41 0=40,46972,41 0=40,47560,41 0=40,48148,41 0=40,49324,41",
    "0=40,50500,41 0=40,51088,41 0=40,52264,41 0=40,52852,41 0=40,53440,41 0=40,54028,41",
    "0=40,54616,41 0=40,51452,41 0=40,50724,51204,41 0=40,50724,54980,41 1=40,19968,41",
    "0=40,20108,41 0=40,19977,41 0=40,22235,41 0=40,20116,41 0=40,20845,41 0=40,19971,41",
    "0=40,20843,41 0=40,20061,41 0=40,21313,41 0=40,26376,41 0=40,28779,41 0=40,27700,41",
    "0=40,26408,41 0=40,37329,41 0=40,22303,41 0=40,26085,41 0=40,26666,41 0=40,26377,41",
    "0=40,31038,41 0=40,21517,41 0=40,29305,41 0=40,36001,41 0=40,31069,41 0=40,21172,41",
    "0=40,20195,41 0=40,21628,41 0=40,23398,41 0=40,30435,41 0=40,20225,41 0=40,36039,41",
    "0=40,21332,41 0=40,31085,41 0=40,20241,41 0=40,33258,41 0=40,33267,41 0=21839 0=24188 0=25991",
    "0=31631 8=112,116,101 0=50,49 0=50,50 0=50,51 0=50,52 0=50,53 0=50,54 0=50,55 0=50,56 0=50,57",
    "0=51,48 0=51,49 0=51,50 0=51,51 0=51,52 0=51,53 0=4352 0+2=4354 0+3=4357 0=4361 0+2=4363",
    "0+5=4366 0=44032 0=45208 0=45796 0=46972 0=47560 0=48148 0=49324 0=50500 0=51088 0=52264",
    "0=52852 0=53440 0=54028 0=54616 0=52280,44256 0=51452,51032 0=50864 1=19968 0=20108 0=19977",
    "0=22235 0=20116 0=20845 0=19971 0=20843 0=20061 0=21313 0=26376 0=28779 0=27700 0=26408",
    "0=37329 0=22303 0=26085 0=26666 0=26377 0=31038 0=21517 0=29305 0=36001 0=31069 0=21172",
    "0=31192 0=30007 0=22899 0=36969 0=20778 0=21360 0=27880 0=38917 0=20241 0=20889 0=27491",
    "0=19978 0=20013 0=19979 0=24038 0=21491 0=21307 0=23447 0=23398 0=30435 0=20225 0=36039",
    "0=21332 0=22812 0=51,54 0=51,55 0=51,56 0=51,57 0=52,48 0=52,49 0=52,50 0=52,51 0=52,52",
    "0=52,53 0=52,54 0=52,55 0=52,56 0=52,57 0=53,48 0=49,26376 0=50,26376 0=51,26376 0=52,26376",
    "0=53,26376 0=54,26376 0=55,26376 0=56,26376 0=57,26376 0=49,48,26376 0=49,49,26376",
    "0=49,50,26376 0=104,103 0=101,114,103 0=101,118 0=108,116,100 0=12450 0=12452 0=12454 0=12456",
    "0+2=12458 0=12461 0=12463 0=12465 0=12467 0=12469 0=12471 0=12473 0=12475 0=12477 0=12479",
    "0=12481 0=12484 0=12486 0=12488 0+6=12490 0=12498 0=12501 0=12504 0=12507 0+5=12510 0=12516",
    "0=12518 0+6=12520 0+4=12527 0=20196,21644 0=12450,12497,12540,12488 0=12450,12523,12501,12449",
    "0=12450,12531,12506,12450 0=12450,12540,12523 0=12452,12491,12531,12464 0=12452,12531,12481",
    "0=12454,12457,12531 0=12456,12473,12463,12540,12489 0=12456,12540,12459,12540",
    "0=12458,12531,12473 0=12458,12540,12512 0=12459,12452,12522 0=12459,12521,12483,12488",
    "0=12459,12525,12522,12540 0=12460,12525,12531 0=12460,12531,12510 0=12462,12460",
    "0=12462,12491,12540 0=12461,12517,12522,12540 0=12462,12523,12480,12540 0=12461,12525",
    "0=12461,12525,12464,12521,12512 0=12461,12525,12513,12540,12488,12523",
    "0=12461,12525,12527,12483,12488 0=12464,12521,12512 0=12464,12521,12512,12488,12531",
    "0=12463,12523,12476,12452,12525 0=12463,12525,12540,12493 0=12465,12540,12473",
    "0=12467,12523,12490 0=12467,12540,12509 0=12469,12452,12463,12523",
    "0=12469,12531,12481,12540,12512 0=12471,12522,12531,12464 0=12475,12531,12481",
    "0=12475,12531,12488 0=12480,12540,12473 0=12487,12471 0=12489,12523 0=12488,12531",
    "0=12490,12494 0=12494,12483,12488 0=12495,12452,12484 0=12497,12540,12475,12531,12488",
    "0=12497,12540,12484 0=12496,12540,12524,12523 0=12500,12450,12473,12488,12523",
    "0=12500,12463,12523 0=12500,12467 0=12499,12523 0=12501,12449,12521,12483,12489",
    "0=12501,12451,12540,12488 0=12502,12483,12471,12455,12523 0=12501,12521,12531",
    "0=12504,12463,12479,12540,12523 0=12506,12477 0=12506,12491,12498 0=12504,12523,12484",
    "0=12506,12531,12473 0=12506,12540,12472 0=12505,12540,12479 0=12509,12452,12531,12488",
    "0=12508,12523,12488 0=12507,12531 0=12509,12531,12489 0=12507,12540,12523 0=12507,12540,12531",
    "0=12510,12452,12463,12525 0=12510,12452,12523 0=12510,12483,12495 0=12510,12523,12463",
    "0=12510,12531,12471,12519,12531 0=12511,12463,12525,12531 0=12511,12522",
    "0=12511,12522,12496,12540,12523 0=12513,12460 0=12513,12460,12488,12531",
    "0=12513,12540,12488,12523 0=12516,12540,12489 0=12516,12540,12523 0=12518,12450,12531",
    "0=12522,12483,12488,12523 0=12522,12521 0=12523,12500,12540 0=12523,12540,12502,12523",
    "0=12524,12512 0=12524,12531,12488,12466,12531 0=12527,12483,12488 0=48,28857 0=49,28857",
    "0=50,28857 0=51,28857 0=52,28857 0=53,28857 0=54,28857 0=55,28857 0=56,28857 0=57,28857",
    "0=49,48,28857 0=49,49,28857 0=49,50,28857 0=49,51,28857 0=49,52,28857 0=49,53,28857",
    "0=49,54,28857 0=49,55,28857 0=49,56,28857 0=49,57,28857 0=50,48,28857 0=50,49,28857",
    "0=50,50,28857 0=50,51,28857 0=50,52,28857 0=104,112,97 0=100,97 0=97,117 0=98,97,114 0=111,118",
    "0=112,99 0=100,109 0=100,109,50 0=100,109,51 0=105,117 0=24179,25104 0=26157,21644",
    "0=22823,27491 0=26126,27835 0=26666,24335,20250,31038 0=112,97 0=110,97 0=956,97 0=109,97",
    "0=107,97 0=107,98 0=109,98 0=103,98 0=99,97,108 0=107,99,97,108 0=112,102 0=110,102 0=956,102",
    "0=956,103 0=109,103 0=107,103 0=104,122 0=107,104,122 0=109,104,122 0=103,104,122",
    "0=116,104,122 0=956,108 0=109,108 0=100,108 0=107,108 0=102,109 0=110,109 0=956,109 0=109,109",
    "0=99,109 0=107,109 0=109,109,50 0=99,109,50 0=109,50 0=107,109,50 0=109,109,51 0=99,109,51",
    "0=109,51 0=107,109,51 0=109,8725,115 0=109,8725,115,50 0=112,97 0=107,112,97 0=109,112,97",
    "0=103,112,97 0=114,97,100 0=114,97,100,8725,115 0=114,97,100,8725,115,50 0=112,115 0=110,115",
    "0=956,115 0=109,115 0=112,118 0=110,118 0=956,118 0=109,118 0=107,118 0=109,118 0=112,119",
    "0=110,119 0=956,119 0=109,119 0=107,119 0=109,119 0=107,969 0=109,969 1=98,113 0=99,99",
    "0=99,100 0=99,8725,107,103 1=100,98 0=103,121 0=104,97 0=104,112 0=105,110 0=107,107 0=107,109",
    "0=107,116 0=108,109 0=108,110 0=108,111,103 0=108,120 0=109,98 0=109,105,108 0=109,111,108",
    "0=112,104 1=112,112,109 0=112,114 0=115,114 0=115,118 0=119,98 0=118,8725,109 0=97,8725,109",
    "0=49,26085 0=50,26085 0=51,26085 0=52,26085 0=53,26085 0=54,26085 0=55,26085 0=56,26085",
    "0=57,26085 0=49,48,26085 0=49,49,26085 0=49,50,26085 0=49,51,26085 0=49,52,26085 0=49,53,26085",
    "0=49,54,26085 0=49,55,26085 0=49,56,26085 0=49,57,26085 0=50,48,26085 0=50,49,26085",
    "0=50,50,26085 0=50,51,26085 0=50,52,26085 0=50,53,26085 0=50,54,26085 0=50,55,26085",
    "0=50,56,26085 0=50,57,26085 0=51,48,26085 0=51,49,26085 0=103,97,108 29340=1098 0=1100",
    "210=42863 128=115 0=99 0=102 0=113 3=295 0=339 866=42791 0=43831 0=619 0=43858 9=653 6+80=5024",
    "19776=35912 0=26356 0=36554 0=36040 0=28369 0=20018 0=21477 0*2=40860 0=22865 0=37329 0=21895",
    "0=22856 0=25078 0=30313 0=32645 0=34367 0=34746 0=35064 0=37007 0=27138 0=27931 0=28889",
    "0=29662 0=33853 0=37226 0=39409 0=20098 0=21365 0=27396 0=29211 0=34349 0=40478 0=23888",
    "0=28651 0=34253 0=35172 0=25289 0=33240 0=34847 0=24266 0=26391 0=28010 0=29436 0=37070",
    "0=20358 0=20919 0=21214 0=25796 0=27347 0=29200 0=30439 0=32769 0=34310 0=34396 0=36335",
    "0=38706 0=39791 0=40442 0=30860 0=31103 0=32160 0=33737 0=37636 0=40575 0=35542 0=22751",
    "0=24324 0=31840 0=32894 0=29282 0=30922 0=36034 0=38647 0=22744 0=23650 0=27155 0=28122",
    "0=28431 0=32047 0=32311 0=38475 0=21202 0=32907 0=20956 0=20940 0=31260 0=32190 0=33777",
    "0=38517 0=35712 0=25295 0=27138 0=35582 0=20025 0=23527 0=24594 0=29575 0=30064 0=21271",
    "0=30971 0=20415 0=24489 0=19981 0=27852 0=25976 0=32034 0=21443 0=22622 0=30465 0=33865",
    "0=35498 0=27578 0=36784 0=27784 0=25342 0=33509 0=25504 0=30053 0=20142 0=20841 0=20937",
    "0=26753 0=31975 0=33391 0=35538 0=37327 0=21237 0=21570 0=22899 0=24300 0=26053 0=28670",
    "0=31018 0=38317 0=39530 0=40599 0=40654 0=21147 0=26310 0=27511 0=36706 0=24180 0=24976",
    "0=25088 0=25754 0=28451 0=29001 0=29833 0=31178 0=32244 0=32879 0=36646 0=34030 0=36899",
    "0=37706 0=21015 0=21155 0=21693 0=28872 0=35010 0=35498 0=24265 0=24565 0=25467 0=27566",
    "0=31806 0=29557 0=20196 0=22265 0=23527 0=23994 0=24604 0=29618 0=29801 0=32666 0=32838",
    "0=37428 0=38646 0=38728 0=38936 0=20363 0=31150 0=37300 0=38584 0=24801 0=20102 0=20698",
    "0=23534 0=23615 0=26009 0=27138 0=29134 0=30274 0=34044 0=36988 0=40845 0=26248 0=38446",
    "0=21129 0=26491 0=26611 0=27969 0=28316 0=29705 0=30041 0=30827 0=32016 0=39006 0=20845",
    "0=25134 0=38520 0=20523 0=23833 0=28138 0=36650 0=24459 0=24900 0=26647 0=29575 0=38534",
    "0=21033 0=21519 0=23653 0=26131 0=26446 0=26792 0=27877 0=29702 0=30178 0=32633 0=35023",
    "0=35041 0=37324 0=38626 0=21311 0=28346 0=21533 0=29136 0=29848 0=34298 0=38563 0=40023",
    "0=40607 0=26519 0=28107 0=33256 0=31435 0=31520 0=31890 0=29376 0=28825 0=35672 0=20160",
    "0=33590 0=21050 0=20999 0=24230 0=25299 0=31958 0=23429 0=27934 0=26292 0=36667 0=34892",
    "0=38477 0=35211 0=24275 0=20800 0=21952 2=22618 1=26228 2=20958 0=29482 0=30410 0=31036",
    "0=31070 0=31077 0=31119 0=38742 0=31934 0=32701 1=34322 1=35576 2=36920 0=37117 3=39151",
    "0=39164 0=39208 0=40372 0=37086 0=38583 0=20398 0=20711 0=20813 0=21193 0=21220 0=21329",
    "0=21917 0=22022 0=22120 0=22592 0=22696 0=23652 0=23662 0=24724 0=24936 0=24974 0=25074",
    "0=25935 0=26082 0=26257 0=26757 0=28023 0=28186 0=28450 0=29038 0=29227 0=29730 0=30865",
    "0=31038 0=31049 0=31048 0=31056 0=31062 0=31069 0+2=31117 0=31296 0=31361 0=31680 0=32244",
    "0=32265 0=32321 0=32626 0=32773 0=33261 0*2=33401 0=33879 0=35088 0=35222 0=35585 0=35641",
    "0=36051 0=36104 0=36790 0=36920 0=38627 0=38911 0=38971 0=24693 0=148206 0=33304 2=20006",
    "0=20917 0=20840 0=20352 0=20805 0=20864 0=21191 0=21242 0=21917 0=21845 0=21913 0=21986",
    "0=22618 0=22707 0=22852 0=22868 0=23138 0=23336 0=24274 0=24281 0=24425 0=24493 0=24792",
    "0=24910 0=24840 0=24974 0=24928 0=25074 0=25140 0=25540 0=25628 0=25682 0=25942 0=26228",
    "0=26391 0=26395 0=26454 0=27513 0=27578 0=27969 0=28379 0=28363 0=28450 0=28702 0=29038",
    "0=30631 0=29237 0=29359 0=29482 0=29809 0=29958 0=30011 0=30237 0=30239 0=30410 0=30427",
    "0=30452 0=30538 0=30528 0=30924 0=31409 0=31680 0=31867 0=32091 0=32244 0=32574 0=32773",
    "0=33618 0=33775 0=34681 0=35137 0=35206 0=35222 0=35519 0=35576 0=35531 0=35585 0=35582",
    "0=35565 0=35641 0=35722 0=36104 0=36664 0=36978 0=37273 0=37494 0=38524 0=38627 0=38742",
    "0=38875 0=38911 0=38923 0=38971 0=39698 0=40860 0=141386 0=141380 0=144341 0=15261 0=16408",
    "0=16441 0=152137 0=154832 0=163539 0=40771 0=40846 38=102,102 0=102,105 0=102,108",
    "0=102,102,105 0=102,102,108 0=115,116 0=115,116 12=1396,1398 0=1396,1381 0=1396,1387",
    "0=1406,1398 0=1396,1389 5=1497,1460 1=1522,1463 0=1506 0=1488 0+2=1491 0+3=1499 0=1512 0=1514",
    "0=43 0=1513,1473 0=1513,1474 0=1513,1468,1473 0=1513,1468,1474 0=1488,1463 0=1488,1464",
    "0=1488,1468 0=1489,1468 0=1490,1468 0=1491,1468 0=1492,1468 0=1493,1468 0=1494,1468",
    "1=1496,1468 0=1497,1468 0=1498,1468 0=1499,1468 0=1500,1468 1=1502,1468 1=1504,1468",
    "0=1505,1468 1=1507,1468 0=1508,1468 1=1510,1468 0=1511,1468 0=1512,1468 0=1513,1468",
    "0=1514,1468 0=1493,1465 0=1489,1471 0=1499,1471 0=1508,1471 0=1488,1500 0*2=1649 0*4=1659",
    "0*4=1662 0*4=1664 0*4=1658 0*4=1663 0*4=1657 0*4=1700 0*4=1702 0*4=1668 0*4=1667 0*4=1670",
    "0*4=1671 0*2=1677 0*2=1676 0*2=1678 0*2=1672 0*2=1688 0*2=1681 0*4=1705 0*4=1711 0*4=1715",
    "0*4=1713 0*2=1722 0*4=1723 0*2=1728 0*4=1729 0*4=1726 0*2=1746 0*2=1747 33*4=1709 0*2=1735",
    "0*2=1734 0*2=1736 0=1735,1652 0*2=1739 0*2=1733 0*2=1737 0*4=1744 0*2=1609 0=1574,1575",
    "0=1574,1575 0=1574,1749 0=1574,1749 0=1574,1608 0=1574,1608 0=1574,1735 0=1574,1735",
    "0=1574,1734 0=1574,1734 0=1574,1736 0=1574,1736 0=1574,1744 0=1574,1744 0=1574,1744",
    "0=1574,1609 0=1574,1609 0=1574,1609 0*4=1740 0=1574,1580 0=1574,1581 0=1574,1605 0=1574,1609",
    "0=1574,1610 0=1576,1580 0=1576,1581 0=1576,1582 0=1576,1605 0=1576,1609 0=1576,1610",
    "0=1578,1580 0=1578,1581 0=1578,1582 0=1578,1605 0=1578,1609 0=1578,1610 0=1579,1580",
    "0=1579,1605 0=1579,1609 0=1579,1610 0=1580,1581 0=1580,1605 0=1581,1580 0=1581,1605",
    "0=1582,1580 0=1582,1581 0=1582,1605 0=1587,1580 0=1587,1581 0=1587,1582 0=1587,1605",
    "0=1589,1581 0=1589,1605 0=1590,1580 0=1590,1581 0=1590,1582 0=1590,1605 0=1591,1581",
    "0=1591,1605 0=1592,1605 0=1593,1580 0=1593,1605 0=1594,1580 0=1594,1605 0=1601,1580",
    "0=1601,1581 0=1601,1582 0=1601,1605 0=1601,1609 0=1601,1610 0=1602,1581 0=1602,1605",
    "0=1602,1609 0=1602,1610 0=1603,1575 0=1603,1580 0=1603,1581 0=1603,1582 0=1603,1604",
    "0=1603,1605 0=1603,1609 0=1603,1610 0=1604,1580 0=1604,1581 0=1604,1582 0=1604,1605",
    "0=1604,1609 0=1604,1610 0=1605,1580 0=1605,1581 0=1605,1582 0=1605,1605 0=1605,1609",
    "0=1605,1610 0=1606,1580 0=1606,1581 0=1606,1582 0=1606,1605 0=1606,1609 0=1606,1610",
    "0=1607,1580 0=1607,1605 0=1607,1609 0=1607,1610 0=1610,1580 0=1610,1581 0=1610,1582",
    "0=1610,1605 0=1610,1609 0=1610,1610 0=1584,1648 0=1585,1648 0=1609,1648 0=32,1612,1617",
    "0=32,1613,1617 0=32,1614,1617 0=32,1615,1617 0=32,1616,1617 0=32,1617,1648 0=1574,1585",
    "0=1574,1586 0=1574,1605 0=1574,1606 0=1574,1609 0=1574,1610 0=1576,1585 0=1576,1586",
    "0=1576,1605 0=1576,1606 0=1576,1609 0=1576,1610 0=1578,1585 0=1578,1586 0=1578,1605",
    "0=1578,1606 0=1578,1609 0=1578,1610 0=1579,1585 0=1579,1586 0=1579,1605 0=1579,1606",
    "0=1579,1609 0=1579,1610 0=1601,1609 0=1601,1610 0=1602,1609 0=1602,1610 0=1603,1575",
    "0=1603,1604 0=1603,1605 0=1603,1609 0=1603,1610 0=1604,1605 0=1604,1609 0=1604,1610",
    "0=1605,1575 0=1605,1605 0=1606,1585 0=1606,1586 0=1606,1605 0=1606,1606 0=1606,1609",
    "0=1606,1610 0=1609,1648 0=1610,1585 0=1610,1586 0=1610,1605 0=1610,1606 0=1610,1609",
    "0=1610,1610 0=1574,1580 0=1574,1581 0=1574,1582 0=1574,1605 0=1574,1607 0=1576,1580",
    "0=1576,1581 0=1576,1582 0=1576,1605 0=1576,1607 0=1578,1580 0=1578,1581 0=1578,1582",
    "0=1578,1605 0=1578,1607 0=1579,1605 0=1580,1581 0=1580,1605 0=1581,1580 0=1581,1605",
    "0=1582,1580 0=1582,1605 0=1587,1580 0=1587,1581 0=1587,1582 0=1587,1605 0=1589,1581",
    "0=1589,1582 0=1589,1605 0=1590,1580 0=1590,1581 0=1590,1582 0=1590,1605 0=1591,1581",
    "0=1592,1605 0=1593,1580 0=1593,1605 0=1594,1580 0=1594,1605 0=1601,1580 0=1601,1581",
    "0=1601,1582 0=1601,1605 0=1602,1581 0=1602,1605 0=1603,1580 0=1603,1581 0=1603,1582",
    "0=1603,1604 0=1603,1605 0=1604,1580 0=1604,1581 0=1604,1582 0=1604,1605 0=1604,1607",
    "0=1605,1580 0=1605,1581 0=1605,1582 0=1605,1605 0=1606,1580 0=1606,1581 0=1606,1582",
    "0=1606,1605 0=1606,1607 0=1607,1580 0=1607,1605 0=1607,1648 0=1610,1580 0=1610,1581",
    "0=1610,1582 0=1610,1605 0=1610,1607 0=1574,1605 0=1574,1607 0=1576,1605 0=1576,1607",
    "0=1578,1605 0=1578,1607 0=1579,1605 0=1579,1607 0=1587,1605 0=1587,1607 0=1588,1605",
    "0=1588,1607 0=1603,1604 0=1603,1605 0=1604,1605 0=1606,1605 0=1606,1607 0=1610,1605",
    "0=1610,1607 0=1600,1614,1617 0=1600,1615,1617 0=1600,1616,1617 0=1591,1609 0=1591,1610",
    "0=1593,1609 0=1593,1610 0=1594,1609 0=1594,1610 0=1587,1609 0=1587,1610 0=1588,1609",
    "0=1588,1610 0=1581,1609 0=1581,1610 0=1580,1609 0=1580,1610 0=1582,1609 0=1582,1610",
    "0=1589,1609 0=1589,1610 0=1590,1609 0=1590,1610 0=1588,1580 0=1588,1581 0=1588,1582",
    "0=1588,1605 0=1588,1585 0=1587,1585 0=1589,1585 0=1590,1585 0=1591,1609 0=1591,1610",
    "0=1593,1609 0=1593,1610 0=1594,1609 0=1594,1610 0=1587,1609 0=1587,1610 0=1588,1609",
    "0=1588,1610 0=1581,1609 0=1581,1610 0=1580,1609 0=1580,1610 0=1582,1609 0=1582,1610",
    "0=1589,1609 0=1589,1610 0=1590,1609 0=1590,1610 0=1588,1580 0=1588,1581 0=1588,1582",
    "0=1588,1605 0=1588,1585 0=1587,1585 0=1589,1585 0=1590,1585 0=1588,1580 0=1588,1581",
    "0=1588,1582 0=1588,1605 0=1587,1607 0=1588,1607 0=1591,1605 0=1587,1580 0=1587,1581",
    "0=1587,1582 0=1588,1580 0=1588,1581 0=1588,1582 0=1591,1605 0=1592,1605 0=1575,1611",
    "0=1575,1611 18=1578,1580,1605 0=1578,1581,1580 0=1578,1581,1580 0=1578,1581,1605",
    "0=1578,1582,1605 0=1578,1605,1580 0=1578,1605,1581 0=1578,1605,1582 0=1580,1605,1581",
    "0=1580,1605,1581 0=1581,1605,1610 0=1581,1605,1609 0=1587,1581,1580 0=1587,1580,1581",
    "0=1587,1580,1609 0=1587,1605,1581 0=1587,1605,1581 0=1587,1605,1580 0=1587,1605,1605",
    "0=1587,1605,1605 0=1589,1581,1581 0=1589,1581,1581 0=1589,1605,1605 0=1588,1581,1605",
    "0=1588,1581,1605 0=1588,1580,1610 0=1588,1605,1582 0=1588,1605,1582 0=1588,1605,1605",
    "0=1588,1605,1605 0=1590,1581,1609 0=1590,1582,1605 0=1590,1582,1605 0=1591,1605,1581",
    "0=1591,1605,1581 0=1591,1605,1605 0=1591,1605,1610 0=1593,1580,1605 0=1593,1605,1605",
    "0=1593,1605,1605 0=1593,1605,1609 0=1594,1605,1605 0=1594,1605,1610 0=1594,1605,1609",
    "0=1601,1582,1605 0=1601,1582,1605 0=1602,1605,1581 0=1602,1605,1605 0=1604,1581,1605",
    "0=1604,1581,1610 0=1604,1581,1609 0=1604,1580,1580 0=1604,1580,1580 0=1604,1582,1605",
    "0=1604,1582,1605 0=1604,1605,1581 0=1604,1605,1581 0=1605,1581,1580 0=1605,1581,1605",
    "0=1605,1581,1610 0=1605,1580,1581 0=1605,1580,1605 0=1605,1582,1580 0=1605,1582,1605",
    "2=1605,1580,1582 0=1607,1605,1580 0=1607,1605,1605 0=1606,1581,1605 0=1606,1581,1609",
    "0=1606,1580,1605 0=1606,1580,1605 0=1606,1580,1609 0=1606,1605,1610 0=1606,1605,1609",
    "0=1610,1605,1605 0=1610,1605,1605 0=1576,1582,1610 0=1578,1580,1610 0=1578,1580,1609",
    "0=1578,1582,1610 0=1578,1582,1609 0=1578,1605,1610 0=1578,1605,1609 0=1580,1605,1610",
    "0=1580,1581,1609 0=1580,1605,1609 0=1587,1582,1609 0=1589,1581,1610 0=1588,1581,1610",
    "0=1590,1581,1610 0=1604,1580,1610 0=1604,1605,1610 0=1610,1581,1610 0=1610,1580,1610",
    "0=1610,1605,1610 0=1605,1605,1610 0=1602,1605,1610 0=1606,1581,1610 0=1602,1605,1581",
    "0=1604,1581,1605 0=1593,1605,1610 0=1603,1605,1610 0=1606,1580,1581 0=1605,1582,1610",
    "0=1604,1580,1605 0=1603,1605,1605 0=1604,1580,1605 0=1606,1580,1581 0=1580,1581,1610",
    "0=1581,1580,1610 0=1605,1580,1610 0=1601,1605,1610 0=1576,1581,1610 0=1603,1605,1605",
    "0=1593,1580,1605 0=1589,1605,1605 0=1587,1582,1610 0=1606,1580,1610 40=1589,1604,1746",
    "0=1602,1604,1746 0=1575,1604,1604,1607 0=1575,1603,1576,1585 0=1605,1581,1605,1583",
    "0=1589,1604,1593,1605 0=1585,1587,1608,1604 0=1593,1604,1610,1607 0=1608,1587,1604,1605",
    "0=1589,1604,1609",
    "0=1589,1604,1609,32,1575,1604,1604,1607,32,1593,1604,1610,1607,32,1608,1587,1604,1605",
    "0=1580,1604,32,1580,1604,1575,1604,1607 0=1585,1740,1575,1604 19=44 0=12289 1+2=58 0=33 0=63",
    "0+2=12310 24=8212 0=8211 0*2=95 0+2=40 0=123 0=125 0+2=12308 0+2=12304 0+2=12298 0+2=12296",
    "0+4=12300 2=91 0=93 0=32,773 0=32,773 0=32,773 0=32,773 0*3=95 0=44 0=12289 2=59 0=58 0=63",
    "0=33 0=8212 0+2=40 0=123 0=125 0+2=12308 0=35 0=38 0+2=42 0=45 0=60 0=62 0=61 1=92 0+2=36 0=64",
    "4=32,1611 0=1600,1611 0=32,1612 1=32,1613 1=32,1614 0=1600,1614 0=32,1615 0=1600,1615",
    "0=32,1616 0=1600,1616 0=32,1617 0=1600,1617 0=32,1618 0=1600,1618 0+2=1569 0+2=1570 0+2=1571",
    "0+2=1572 0+2=1573 0*3=1574 0*2=1575 0*4=1576 0*2=1577 0*4=1578 0*4=1579 0*4=1580 0*4=1581",
    "0*4=1582 0*2=1583 0*2=1584 0*2=1585 0*2=1586 0*4=1587 0*4=1588 0*4=1589 0*4=1590 0*4=1591",
    "0*4=1592 0*4=1593 0*4=1594 0*4=1601 0*4=1602 0*4=1603 0*4=1604 0*4=1605 0*4=1606 0*4=1607",
    "0*2=1608 0*2=1609 0*4=1610 0=1604,1570 0=1604,1570 0=1604,1571 0=1604,1571 0=1604,1573",
    "0=1604,1573 0=1604,1575 0=1604,1575 4+32=33 0+26=97 0+36=91 0+2=10629 0=46 0+2=12300 0=12289",
    "0=12539 0=12530 0=12449 0=12451 0=12453 0=12455 0=12457 0=12515 0=12517 0=12519 0=12483",
    "0=12540 0=12450 0=12452 0=12454 0=12456 0+2=12458 0=12461 0=12463 0=12465 0=12467 0=12469",
    "0=12471 0=12473 0=12475 0=12477 0=12479 0=12481 0=12484 0=12486 0=12488 0+6=12490 0=12498",
    "0=12501 0=12504 0=12507 0+5=12510 0=12516 0=12518 0+6=12520 0=12527 0=12531 0+2=12441 1+2=4352",
    "0=4522 0=4354 0+2=4524 0+3=4355 0+6=4528 0=4378 0+3=4358 0=4385 0+10=4361 3+6=4449 2+6=4455",
    "2+6=4461 2+3=4467 3+2=162 0=172 0=32,772 0=166 0=165 0=8361 1=9474 0+4=8592 0=9632 0=9675",
    "1938+2=720 0=230 0=665 0=595 1=675 0=43878 0=677 0=676 0+2=598 0=7569 0=600 0=606 0=681 0=612",
    "0=610 0=608 0=667 0=295 0=668 0=615 0=644 0+2=682 0=620 0=122628 0=42894 0=622 0=122629 0=654",
    "0=122630 0=248 0+2=630 0=113 0=634 0=122632 0+2=637 0=640 0=680 0=678 0=43879 0=679 0=648",
    "0=11377 1=655 0+2=673 0=664 0+3=448 0=122634 0=122654 50459+26=97 0+10=48 1124=119127,119141",
    "0=119128,119141 0=119128,119141,119150 0=119128,119141,119151 0=119128,119141,119152",
    "0=119128,119141,119153 0=119128,119141,119154 86=119225,119141 0=119226,119141",
    "0=119225,119141,119150 0=119226,119141,119150 0=119225,119141,119151 0=119226,119141,119151",
    "575+26=97 0+26=97 0+26=97 0+7=97 1+18=105 0+26=97 0+26=97 0=97 1+2=99 2=103 2+2=106 2+4=110",
    "1+8=115 0+4=97 1=102 1+7=104 1+11=112 0+26=97 0+26=97 0+2=97 1+4=100 2+8=106 1+7=115 1+26=97",
    "0+2=97 1+4=100 1+5=105 1=111 3+7=115 1+26=97 0+26=97 0+26=97 0+26=97 0+26=97 0+26=97 0+26=97",
    "0+26=97 0+26=97 0+26=97 0+26=97 0+26=97 0+26=97 0=305 0=567 2+17=945 0=952 0+7=963 0=8711",
    "0+17=945 0*2=963 0+6=964 0=8706 0=949 0=952 0=954 0=966 0=961 0=960 0+17=945 0=952 0+7=963",
    "0=8711 0+17=945 0*2=963 0+6=964 0=8706 0=949 0=952 0=954 0=966 0=961 0=960 0+17=945 0=952",
    "0+7=963 0=8711 0+17=945 0*2=963 0+6=964 0=8706 0=949 0=952 0=954 0=966 0=961 0=960 0+17=945",
    "0=952 0+7=963 0=8711 0+17=945 0*2=963 0+6=964 0=8706 0=949 0=952 0=954 0=966 0=961 0=960",
    "0+17=945 0=952 0+7=963 0=8711 0+17=945 0*2=963 0+6=964 0=8706 0=949 0=952 0=954 0=966 0=961",
    "0=960 0*2=989 2+10=48 0+10=48 0+10=48 0+10=48 0+10=48 2096+9=1072 0+3=1082 0+11=1086 0=1099",
    "0+2=1101 0=42633 0=1241 0=1110 0=1112 0=1257 0=1199 0=1231 0+9=1072 0+2=1082 0+2=1086 0=1089",
    "0+6=1091 0+2=1098 0=1169 0=1110 0=1109 0=1119 0=1195 0=42577 0=1201 3474+2=1575 0=1580 0=1583",
    "1=1608 0=1586 0=1581 0=1591 0=1610 0+4=1603 0=1587 0=1593 0=1601 0=1589 0=1602 0=1585 0=1588",
    "0+2=1578 0=1582 0=1584 0=1590 0=1592 0=1594 0=1646 0=1722 0=1697 0=1647 1=1576 0=1580 1=1607",
    "2=1581 1=1610 0+4=1603 0=1587 0=1593 0=1601 0=1589 0=1602 1=1588 0+2=1578 0=1582 1=1590 1=1594",
    "6=1580 4=1581 1=1610 1=1604 1=1606 0=1587 0=1593 1=1589 0=1602 1=1588 2=1582 1=1590 1=1594",
    "1=1722 1=1647 1=1576 0=1580 1=1607 2=1581 0=1591 0=1610 0=1603 1+2=1605 0=1587 0=1593 0=1601",
    "0=1589 0=1602 1=1588 0+2=1578 0=1582 1=1590 0=1592 0=1594 0=1646 1=1697 1+2=1575 0=1580 0=1583",
    "0+2=1607 0=1586 0=1581 0=1591 0=1610 1+3=1604 0=1587 0=1593 0=1601 0=1589 0=1602 0=1585 0=1588",
    "0+2=1578 0=1582 0=1584 0=1590 0=1592 0=1594 5=1576 0=1580 0=1583 1=1608 0=1586 0=1581 0=1591",
    "0=1610 1+3=1604 0=1587 0=1593 0=1601 0=1589 0=1602 0=1585 0=1588 0+2=1578 0=1582 0=1584 0=1590",
    "0=1592 0=1594 581=48,44 0=49,44 0=50,44 0=51,44 0=52,44 0=53,44 0=54,44 0=55,44 0=56,44",
    "0=57,44 5=40,97,41 0=40,98,41 0=40,99,41 0=40,100,41 0=40,101,41 0=40,102,41 0=40,103,41",
    "0=40,104,41 0=40,105,41 0=40,106,41 0=40,107,41 0=40,108,41 0=40,109,41 0=40,110,41",
    "0=40,111,41 0=40,112,41 0=40,113,41 0=40,114,41 0=40,115,41 0=40,116,41 0=40,117,41",
    "0=40,118,41 0=40,119,41 0=40,120,41 0=40,121,41 0=40,122,41 0=12308,115,12309 0=99 0=114",
    "0=99,100 0=119,122 1+26=97 0=104,118 0=109,118 0=115,100 0=115,115 0=112,112,118 0=119,99",
    "26=109,99 0=109,100 0=109,114 35=100,106 111=12411,12363 0=12467,12467 0=12469 13=25163",
    "0=23383 0=21452 0=12487 0=20108 0=22810 0=35299 0=22825 0=20132 0=26144 0=28961 0=26009",
    "0=21069 0=24460 0=20877 0=26032 0=21021 0=32066 0=29983 0=36009 0=22768 0=21561 0=28436",
    "0=25237 0=25429 0=19968 0=19977 0=36938 0=24038 0=20013 0=21491 0=25351 0=36208 0=25171",
    "0=31105 0=31354 0=21512 0=28288 0=26377 0=26376 0=30003 0=21106 0=21942 0=37197",
    "4=12308,26412,12309 0=12308,19977,12309 0=12308,20108,12309 0=12308,23433,12309",
    "0=12308,28857,12309 0=12308,25171,12309 0=12308,30423,12309 0=12308,21213,12309",
    "0=12308,25943,12309 7=24471 0=21487 2462+10=48 64518=20029 0=20024 0=20033 0=131362 0=20320",
    "0=20398 0=20411 0=20482 0=20602 0=20633 0=20711 0=20687 0=13470 0=132666 0=20813 0=20820",
    "0=20836 0=20855 0=132380 0=13497 0=20839 0=20877 0=132427 0=20887 0=20900 0=20172 0=20908",
    "0=20917 0=168415 0=20981 0=20995 0=13535 0=21051 0=21062 0=21106 0=21111 0=13589 0=21191",
    "0=21193 0=21220 0=21242 0+2=21253 0=21271 0=21321 0=21329 0=21338 0=21363 0=21373 0*3=21375",
    "0=133676 0=28784 0=21450 0=21471 0=133987 0=21483 0=21489 0=21510 0=21662 0=21560 0=21576",
    "0=21608 0=21666 0=21750 0=21776 0=21843 0=21859 0*2=21892 0=21913 0=21931 0=21939 0=21954",
    "0=22294 0=22022 0=22295 0=22097 0=22132 0=20999 0=22766 0=22478 0=22516 0=22541 0=22411",
    "0=22578 0=22577 0=22700 0=136420 0=22770 0=22775 0=22790 0=22810 0=22818 0=22882 0=136872",
    "0=136938 0=23020 0=23067 0=23079 0=23000 0=23142 0=14062 0=14076 0=23304 0*2=23358 0=137672",
    "0=23491 0=23512 0=23527 0=23539 0=138008 0=23551 0=23558 0=24403 0=23586 0=14209 0=23648",
    "0=23662 0=23744 0=23693 0=138724 0=23875 0=138726 0=23918 0=23915 0=23932 0+2=24033 0=14383",
    "0=24061 0=24104 0=24125 0=24169 0=14434 0=139651 0=14460 0=24240 0=24243 0=24246 0=24266",
    "0=172946 0=24318 0*2=140081 0=33281 0*2=24354 0=14535 0=144056 0=156122 0=24418 0=24427",
    "0=14563 0=24474 0=24525 0=24535 0=24569 0=24705 0=14650 0=14620 0=24724 0=141012 0=24775",
    "0=24904 0=24908 0=24910 0=24908 0=24954 0=24974 0=25010 0=24996 0=25007 0=25054 0=25074",
    "0=25078 0=25104 0=25115 0=25181 0=25265 0=25300 0=25424 0=142092 0=25405 0=25340 0=25448",
    "0=25475 0=25572 0=142321 0=25634 0=25541 0=25513 0=14894 0=25705 0=25726 0=25757 0=25719",
    "0=14956 0=25935 0=25964 0=143370 0=26083 0=26360 0=26185 0=15129 0=26257 0=15112 0=15076",
    "0=20882 0=20885 0=26368 0=26268 0=32941 0=17369 0=26391 0=26395 0=26401 0=26462 0=26451",
    "0=144323 0=15177 0=26618 0=26501 0=26706 0=26757 0=144493 0=26766 0=26655 0=26900 0=15261",
    "0=26946 0=27043 0=27114 0=27304 0=145059 0=27355 0=15384 0=27425 0=145575 0=27476 0=15438",
    "0=27506 0=27551 0+2=27578 0=146061 0=138507 0=146170 0=27726 0=146620 0=27839 0=27853 0=27751",
    "0=27926 0=27966 0=28023 0=27969 0=28009 0=28024 0=28037 0=146718 0=27956 0=28207 0=28270",
    "0=15667 0=28363 0=28359 0=147153 0=28153 0=28526 0=147294 0=147342 0=28614 0=28729 0=28702",
    "0=28699 0=15766 0=28746 0=28797 0=28791 0=28845 0=132389 0=28997 0=148067 0=29084 0=148395",
    "0=29224 0=29237 0=29264 0=149000 0=29312 0=29333 0=149301 0=149524 0=29562 0=29579 0=16044",
    "0=29605 0*2=16056 0=29767 0=29788 0=29809 0=29829 0=29898 0=16155 0=29988 0=150582 0=30014",
    "0=150674 0=30064 0=139679 0=30224 0=151457 0=151480 0=151620 0=16380 0=16392 0=30452 0=151795",
    "0=151794 0=151833 0=151859 0+2=30494 0=30495 0=30538 0=16441 0=30603 0=16454 0=16534 0=152605",
    "0=30798 0=30860 0=30924 0=16611 0=153126 0=31062 0=153242 0=153285 0=31119 0=31211 0=16687",
    "0=31296 0=31306 0=31311 0=153980 0*2=154279 0=31470 0=16898 0=154539 0=31686 0=31689 0=16935",
    "0=154752 0=31954 0=17056 0=31976 0=31971 0=32000 0=155526 0=32099 0=17153 0=32199 0=32258",
    "0=32325 0=17204 0=156200 0=156231 0=17241 0=156377 0=32634 0=156478 0=32661 0=32762 0=32773",
    "0=156890 0=156963 0=32864 0=157096 0=32880 0=144223 0=17365 0=32946 0=33027 0=17419 0=33086",
    "0=23221 0=157607 0=157621 0=144275 0=144284 0=33281 0=33284 0=36766 0=17515 0=33425 0=33419",
    "0=33437 0=21171 0=33457 0=33459 0=33469 0=33510 0=158524 0=33509 0=33565 0=33635 0=33709",
    "0=33571 0=33725 0=33767 0=33879 0=33619 0=33738 0=33740 0=33756 0=158774 0=159083 0=158933",
    "0=17707 0=34033 0=34035 0=34070 0=160714 0=34148 0=159532 0=17757 0=17761 0=159665 0=159954",
    "0=17771 0=34384 0=34396 0=34407 0=34409 0=34473 0=34440 0=34574 0=34530 0=34681 0=34600",
    "0=34667 0=34694 0=17879 0=34785 0=34817 0=17913 0=34912 0=34915 0=161383 0=35031 0=35038",
    "0=17973 0=35066 0=13499 0=161966 0=162150 0=18110 0=18119 0=35488 0=35565 0=35722 0=35925",
    "0=162984 0=36011 0=36033 0=36123 0=36215 0=163631 0=133124 0=36299 0=36284 0=36336 0=133342",
    "0=36564 0=36664 0=165330 0=165357 0=37012 0=37105 0=37137 0=165678 0=37147 0=37432 0+2=37591",
    "0=37500 0=37881 0=37909 0=166906 0=38283 0=18837 0=38327 0=167287 0=18918 0=38595 0=23986",
    "0=38691 0=168261 0=168474 0=19054 0=19062 0=38880 0=168970 0=19122 0=169110 0*2=38923 0=38953",
    "0=169398 0=39138 0=19251 0=39209 0=39335 0=39362 0=39422 0=19406 0=170800 0=39698 0=40000",
    "0=40189 0=19662 0=19693 0=40295 0=172238 0=19704 0=172293 0=172558 0=172689 0=40635 0=19798",
    "0=40697 0=40702 0=40709 0=40719 0=40726 0=40763 0=173568"]

/-- What a character in a domain stands for, if it may stand there. -/
def standsFor? (c : Char) : Option (List Char) :=
  if disallowedRuns.contains c then none
  else if ignoredRuns.contains c then some []
  else
    match standInMap.image? c with
    | some codes => some (codes.map Char.ofNat)
    | none => some (lowerChar c)

end LogForwarder.Url
