/-
Canonical composition of Unicode 17: a letter and the marks on it have one form, in which marks
stand in the order of their classes and as much as possible is put together into single characters.
-/

import LogForwarder.Text.CodeRuns

namespace LogForwarder.Text

/-! ### Tables -/

/-- The classes of the marks that have one; characters of different classes may change places. -/
def markClasses : CodeMap :=
  CodeMap.ofLines ["768*21=230 0=232 0*4=220 0=232 0=216 0*5=220 0*2=202 0*4=220 0*2=202 0*11=220 0*5=1 0*4=220",
    "0*3=230 2=230 2=240 0=230 0*3=220 0*3=230 0*2=220 1*3=230 0*4=220 0=230 0=232 0*2=220 0=230",
    "0+2=233 0=234 0+2=233 0=234 0=233 0*13=230 275*5=230 265=220 0*4=230 0=220 0*3=230 0=222 0=220",
    "0*6=230 0*6=220 0*2=230 0=220 0*2=230 0=222 0=228 0=230 0+10=10 0+4=19 1=23 1+2=24 1=230 0=220",
    "1=18 72*8=230 0+3=30 48+8=27 0*2=230 0*2=220 0*5=230 0=220 0*2=230 0=220 16=35 101*7=230",
    "2*4=230 0=220 0=230 2*2=230 1=220 0*2=230 0=220 35=36 30=230 0=220 0*2=230 0=220 0*2=230",
    "0*3=220 0=230 0*2=220 0=230 0=220 0*3=230 0=220 0=230 0=220 0=230 0=220 0=230 0=220 0*2=230",
    "160*7=230 0=220 0=230 9=220 24*4=230 1*9=230 1*3=230 1*5=230 43*3=220 59*2=230 0*3=220 0*4=230",
    "42*5=230 0*5=220 0*14=230 1=220 0*2=230 0=220 0*2=230 0=220 0*3=230 0*3=220 0+3=27 0*3=230",
    "0=220 0*2=230 0*2=220 0*5=230 60=7 16=9 3=230 0=220 0*2=230 103=7 16=9 48=230 61=7 16=9 110=7",
    "16=9 110=7 16=9 127=9 110=7 16=9 7=84 0=91 101=7 16=9 109*2=9 16=9 124=9 109*2=103 0=9",
    "13*4=107 108*2=118 0=9 13*4=122 76*2=220 27=220 1=220 1=216 55+2=129 1=132 5*4=130 2=130",
    "1*2=230 0=9 1*2=230 62=220 112=7 1*2=9 82=220 719*3=230 948*2=9 30=9 157=9 10=230 203=228",
    "143=222 0=230 0=220 219=230 0=220 71=9 20*8=230 2=220 48*5=230 0*6=220 0*2=230 0=220 1*2=220",
    "0*2=230 0*2=220 0*5=230 0=220 0*18=230 0=220 2*6=230 0=220 0*4=230 0=234 72=7 15=9 38=230",
    "0=220 0*7=230 54*2=9 58=7 11*2=9 67=7 152*3=230 1=1 0*5=220 0*2=230 0*4=220 0=230 1*7=1 4=220",
    "6=230 3*2=230 198*2=230 0=220 0*7=230 0=220 0*2=230 0=234 0=214 0=220 0=202 0*37=230 0=232",
    "0*2=228 0=220 0=218 0=230 0=233 0=220 0=230 0=220 720*2=230 0*2=1 0*4=230 0*3=1 0*2=230 4=230",
    "3*2=1 0=230 0=220 0=230 0*2=1 0*4=220 0=230 3070*3=230 141=9 96*32=230 554=218 0=228 0=232",
    "0=222 0*2=224 105*2=8 30164=230 4*10=230 32*2=230 80*2=230 276=9 37=9 151=9 27*18=230 57*3=220",
    "37=9 95=7 12=9 239=230 1*2=230 0=220 2*2=230 5*2=230 1=230 52=9 246=9 20272=26 769*7=230",
    "0*7=220 0*2=230 973=220 226=220 149*5=230 1682=220 1=230 40=230 0=1 0=220 4=9 165=230 0=220",
    "573*4=230 65*5=230 317*2=230 77*2=220 1*3=220 70*2=220 0*3=230 0=220 0=230 0*4=220 49=230",
    "0=220 0=230 0=220 192=9 41=9 14=9 57=9 0=7 69*3=230 48*2=9 62=7 76=9 9=7 106=9 0=7 178=7 0=9",
    "80*2=7 16=9 24*7=230 3*5=230 89*3=9 113=9 3=7 23=230 99=9 0=7 251=9 0=7 126=9 118=9 0=7 115=9",
    "269=9 0=7 258*2=9 4=7 156=9 83=9 18=9 81=9 421=9 258=7 1*2=9 81=9 425*2=9 16876=9 2496*5=1",
    "59*7=230 1209*2=6 19628=1 5318*2=216 0*3=1 3=226 0*5=216 8*8=220 2*5=230 0*2=220 30*4=230",
    "148*3=230 3515*7=230 1*17=230 2*7=230 1*2=230 1*5=230 100=230 160*7=230 375=230 61*4=230",
    "508*2=232 0=220 0=230 254=230 0=220 243=230 2=230 7*2=230 5=230 474*7=220 109*6=230 0=7"]

/-- The characters that are put together from two others. -/
def composites : CodeMap :=
  CodeMap.ofLines ["192=65,768 0=65,769 0=65,770 0=65,771 0=65,776 0=65,778 1=67,807 0=69,768 0=69,769 0=69,770",
    "0=69,776 0=73,768 0=73,769 0=73,770 0=73,776 1=78,771 0=79,768 0=79,769 0=79,770 0=79,771",
    "0=79,776 2=85,768 0=85,769 0=85,770 0=85,776 0=89,769 2=97,768 0=97,769 0=97,770 0=97,771",
    "0=97,776 0=97,778 1=99,807 0=101,768 0=101,769 0=101,770 0=101,776 0=105,768 0=105,769",
    "0=105,770 0=105,776 1=110,771 0=111,768 0=111,769 0=111,770 0=111,771 0=111,776 2=117,768",
    "0=117,769 0=117,770 0=117,776 0=121,769 1=121,776 0=65,772 0=97,772 0=65,774 0=97,774 0=65,808",
    "0=97,808 0=67,769 0=99,769 0=67,770 0=99,770 0=67,775 0=99,775 0=67,780 0=99,780 0=68,780",
    "0=100,780 2=69,772 0=101,772 0=69,774 0=101,774 0=69,775 0=101,775 0=69,808 0=101,808 0=69,780",
    "0=101,780 0=71,770 0=103,770 0=71,774 0=103,774 0=71,775 0=103,775 0=71,807 0=103,807 0=72,770",
    "0=104,770 2=73,771 0=105,771 0=73,772 0=105,772 0=73,774 0=105,774 0=73,808 0=105,808 0=73,775",
    "3=74,770 0=106,770 0=75,807 0=107,807 1=76,769 0=108,769 0=76,807 0=108,807 0=76,780 0=108,780",
    "4=78,769 0=110,769 0=78,807 0=110,807 0=78,780 0=110,780 3=79,772 0=111,772 0=79,774 0=111,774",
    "0=79,779 0=111,779 2=82,769 0=114,769 0=82,807 0=114,807 0=82,780 0=114,780 0=83,769 0=115,769",
    "0=83,770 0=115,770 0=83,807 0=115,807 0=83,780 0=115,780 0=84,807 0=116,807 0=84,780 0=116,780",
    "2=85,771 0=117,771 0=85,772 0=117,772 0=85,774 0=117,774 0=85,778 0=117,778 0=85,779 0=117,779",
    "0=85,808 0=117,808 0=87,770 0=119,770 0=89,770 0=121,770 0=89,776 0=90,769 0=122,769 0=90,775",
    "0=122,775 0=90,780 0=122,780 33=79,795 0=111,795 13=85,795 0=117,795 28=65,780 0=97,780",
    "0=73,780 0=105,780 0=79,780 0=111,780 0=85,780 0=117,780 0=220,772 0=252,772 0=220,769",
    "0=252,769 0=220,780 0=252,780 0=220,768 0=252,768 1=196,772 0=228,772 0=550,772 0=551,772",
    "0=198,772 0=230,772 2=71,780 0=103,780 0=75,780 0=107,780 0=79,808 0=111,808 0=490,772",
    "0=491,772 0=439,780 0=658,780 0=106,780 3=71,769 0=103,769 2=78,768 0=110,768 0=197,769",
    "0=229,769 0=198,769 0=230,769 0=216,769 0=248,769 0=65,783 0=97,783 0=65,785 0=97,785 0=69,783",
    "0=101,783 0=69,785 0=101,785 0=73,783 0=105,783 0=73,785 0=105,785 0=79,783 0=111,783 0=79,785",
    "0=111,785 0=82,783 0=114,783 0=82,785 0=114,785 0=85,783 0=117,783 0=85,785 0=117,785 0=83,806",
    "0=115,806 0=84,806 0=116,806 2=72,780 0=104,780 6=65,775 0=97,775 0=69,807 0=101,807 0=214,772",
    "0=246,772 0=213,772 0=245,772 0=79,775 0=111,775 0=558,772 0=559,772 0=89,772 0=121,772",
    "337=168,769 0=913,769 1=917,769 0=919,769 0=921,769 1=927,769 1=933,769 0=937,769 0=970,769",
    "25=921,776 0=933,776 0=945,769 0=949,769 0=951,769 0=953,769 0=971,769 25=953,776 0=965,776",
    "0=959,769 0=965,769 0=969,769 4=978,769 0=978,776 43=1045,768 0=1045,776 1=1043,769 3=1030,776",
    "4=1050,769 0=1048,768 0=1059,774 10=1048,774 31=1080,774 22=1077,768 0=1077,776 1=1075,769",
    "3=1110,776 4=1082,769 0=1080,768 0=1091,774 23=1140,783 0=1141,783 73=1046,774 0=1078,774",
    "13=1040,774 0=1072,774 0=1040,776 0=1072,776 2=1045,774 0=1077,774 2=1240,776 0=1241,776",
    "0=1046,776 0=1078,776 0=1047,776 0=1079,776 2=1048,772 0=1080,772 0=1048,776 0=1080,776",
    "0=1054,776 0=1086,776 2=1256,776 0=1257,776 0=1069,776 0=1101,776 0=1059,772 0=1091,772",
    "0=1059,776 0=1091,776 0=1059,779 0=1091,779 0=1063,776 0=1095,776 2=1067,776 0=1099,776",
    "296=1575,1619 0=1575,1620 0=1608,1620 0=1575,1621 0=1610,1620 153=1749,1620 1=1729,1620",
    "16=1746,1620 597=2344,2364 7=2352,2364 2=2355,2364 150=2503,2494 0=2503,2519 379=2887,2902",
    "2=2887,2878 0=2887,2903 71=2962,3031 53=3014,3006 0=3015,3006 0=3014,3031 123=3142,3158",
    "119=3263,3285 6=3270,3285 0=3270,3286 1=3270,3266 0=3274,3285 126=3398,3390 0=3399,3390",
    "0=3398,3415 141=3545,3530 1=3545,3535 0=3548,3530 0=3545,3551 583=4133,4142 2783=6917,6965",
    "1=6919,6965 1=6921,6965 1=6923,6965 1=6925,6965 3=6929,6965 40=6970,6965 1=6972,6965",
    "2=6974,6965 0=6975,6965 1=6978,6965 700=65,805 0=97,805 0=66,775 0=98,775 0=66,803 0=98,803",
    "0=66,817 0=98,817 0=199,769 0=231,769 0=68,775 0=100,775 0=68,803 0=100,803 0=68,817 0=100,817",
    "0=68,807 0=100,807 0=68,813 0=100,813 0=274,768 0=275,768 0=274,769 0=275,769 0=69,813",
    "0=101,813 0=69,816 0=101,816 0=552,774 0=553,774 0=70,775 0=102,775 0=71,772 0=103,772",
    "0=72,775 0=104,775 0=72,803 0=104,803 0=72,776 0=104,776 0=72,807 0=104,807 0=72,814 0=104,814",
    "0=73,816 0=105,816 0=207,769 0=239,769 0=75,769 0=107,769 0=75,803 0=107,803 0=75,817",
    "0=107,817 0=76,803 0=108,803 0=7734,772 0=7735,772 0=76,817 0=108,817 0=76,813 0=108,813",
    "0=77,769 0=109,769 0=77,775 0=109,775 0=77,803 0=109,803 0=78,775 0=110,775 0=78,803 0=110,803",
    "0=78,817 0=110,817 0=78,813 0=110,813 0=213,769 0=245,769 0=213,776 0=245,776 0=332,768",
    "0=333,768 0=332,769 0=333,769 0=80,769 0=112,769 0=80,775 0=112,775 0=82,775 0=114,775",
    "0=82,803 0=114,803 0=7770,772 0=7771,772 0=82,817 0=114,817 0=83,775 0=115,775 0=83,803",
    "0=115,803 0=346,775 0=347,775 0=352,775 0=353,775 0=7778,775 0=7779,775 0=84,775 0=116,775",
    "0=84,803 0=116,803 0=84,817 0=116,817 0=84,813 0=116,813 0=85,804 0=117,804 0=85,816 0=117,816",
    "0=85,813 0=117,813 0=360,769 0=361,769 0=362,776 0=363,776 0=86,771 0=118,771 0=86,803",
    "0=118,803 0=87,768 0=119,768 0=87,769 0=119,769 0=87,776 0=119,776 0=87,775 0=119,775 0=87,803",
    "0=119,803 0=88,775 0=120,775 0=88,776 0=120,776 0=89,775 0=121,775 0=90,770 0=122,770 0=90,803",
    "0=122,803 0=90,817 0=122,817 0=104,817 0=116,776 0=119,778 0=121,778 1=383,775 4=65,803",
    "0=97,803 0=65,777 0=97,777 0=194,769 0=226,769 0=194,768 0=226,768 0=194,777 0=226,777",
    "0=194,771 0=226,771 0=7840,770 0=7841,770 0=258,769 0=259,769 0=258,768 0=259,768 0=258,777",
    "0=259,777 0=258,771 0=259,771 0=7840,774 0=7841,774 0=69,803 0=101,803 0=69,777 0=101,777",
    "0=69,771 0=101,771 0=202,769 0=234,769 0=202,768 0=234,768 0=202,777 0=234,777 0=202,771",
    "0=234,771 0=7864,770 0=7865,770 0=73,777 0=105,777 0=73,803 0=105,803 0=79,803 0=111,803",
    "0=79,777 0=111,777 0=212,769 0=244,769 0=212,768 0=244,768 0=212,777 0=244,777 0=212,771",
    "0=244,771 0=7884,770 0=7885,770 0=416,769 0=417,769 0=416,768 0=417,768 0=416,777 0=417,777",
    "0=416,771 0=417,771 0=416,803 0=417,803 0=85,803 0=117,803 0=85,777 0=117,777 0=431,769",
    "0=432,769 0=431,768 0=432,768 0=431,777 0=432,777 0=431,771 0=432,771 0=431,803 0=432,803",
    "0=89,768 0=121,768 0=89,803 0=121,803 0=89,777 0=121,777 0=89,771 0=121,771 6=945,787",
    "0=945,788 0=7936,768 0=7937,768 0=7936,769 0=7937,769 0=7936,834 0=7937,834 0=913,787",
    "0=913,788 0=7944,768 0=7945,768 0=7944,769 0=7945,769 0=7944,834 0=7945,834 0=949,787",
    "0=949,788 0=7952,768 0=7953,768 0=7952,769 0=7953,769 2=917,787 0=917,788 0=7960,768",
    "0=7961,768 0=7960,769 0=7961,769 2=951,787 0=951,788 0=7968,768 0=7969,768 0=7968,769",
    "0=7969,769 0=7968,834 0=7969,834 0=919,787 0=919,788 0=7976,768 0=7977,768 0=7976,769",
    "0=7977,769 0=7976,834 0=7977,834 0=953,787 0=953,788 0=7984,768 0=7985,768 0=7984,769",
    "0=7985,769 0=7984,834 0=7985,834 0=921,787 0=921,788 0=7992,768 0=7993,768 0=7992,769",
    "0=7993,769 0=7992,834 0=7993,834 0=959,787 0=959,788 0=8000,768 0=8001,768 0=8000,769",
    "0=8001,769 2=927,787 0=927,788 0=8008,768 0=8009,768 0=8008,769 0=8009,769 2=965,787 0=965,788",
    "0=8016,768 0=8017,768 0=8016,769 0=8017,769 0=8016,834 0=8017,834 1=933,788 1=8025,768",
    "1=8025,769 1=8025,834 0=969,787 0=969,788 0=8032,768 0=8033,768 0=8032,769 0=8033,769",
    "0=8032,834 0=8033,834 0=937,787 0=937,788 0=8040,768 0=8041,768 0=8040,769 0=8041,769",
    "0=8040,834 0=8041,834 0=945,768 1=949,768 1=951,768 1=953,768 1=959,768 1=965,768 1=969,768",
    "3=7936,837 0=7937,837 0=7938,837 0=7939,837 0=7940,837 0=7941,837 0=7942,837 0=7943,837",
    "0=7944,837 0=7945,837 0=7946,837 0=7947,837 0=7948,837 0=7949,837 0=7950,837 0=7951,837",
    "0=7968,837 0=7969,837 0=7970,837 0=7971,837 0=7972,837 0=7973,837 0=7974,837 0=7975,837",
    "0=7976,837 0=7977,837 0=7978,837 0=7979,837 0=7980,837 0=7981,837 0=7982,837 0=7983,837",
    "0=8032,837 0=8033,837 0=8034,837 0=8035,837 0=8036,837 0=8037,837 0=8038,837 0=8039,837",
    "0=8040,837 0=8041,837 0=8042,837 0=8043,837 0=8044,837 0=8045,837 0=8046,837 0=8047,837",
    "0=945,774 0=945,772 0=8048,837 0=945,837 0=940,837 1=945,834 0=8118,837 0=913,774 0=913,772",
    "0=913,768 1=913,837 4=168,834 0=8052,837 0=951,837 0=942,837 1=951,834 0=8134,837 0=917,768",
    "1=919,768 1=919,837 0=8127,768 0=8127,769 0=8127,834 0=953,774 0=953,772 0=970,768 3=953,834",
    "0=970,834 0=921,774 0=921,772 0=921,768 2=8190,768 0=8190,769 0=8190,834 0=965,774 0=965,772",
    "0=971,768 1=961,787 0=961,788 0=965,834 0=971,834 0=933,774 0=933,772 0=933,768 1=929,788",
    "0=168,768 4=8060,837 0=969,837 0=974,837 1=969,834 0=8182,837 0=927,768 1=937,768 1=937,837",
    "413=8592,824 0=8594,824 18=8596,824 30=8656,824 0=8660,824 0=8658,824 52=8707,824 4=8712,824",
    "2=8715,824 23=8739,824 1=8741,824 26=8764,824 2=8771,824 2=8773,824 1=8776,824 22=61,824",
    "1=8801,824 10=8781,824 0=60,824 0=62,824 0=8804,824 0=8805,824 2=8818,824 0=8819,824",
    "2=8822,824 0=8823,824 6=8826,824 0=8827,824 2=8834,824 0=8835,824 2=8838,824 0=8839,824",
    "34=8866,824 0=8872,824 0=8873,824 0=8875,824 48=8828,824 0=8829,824 0=8849,824 0=8850,824",
    "6=8882,824 0=8883,824 0=8884,824 0=8885,824 3422=12363,12441 1=12365,12441 1=12367,12441",
    "1=12369,12441 1=12371,12441 1=12373,12441 1=12375,12441 1=12377,12441 1=12379,12441",
    "1=12381,12441 1=12383,12441 1=12385,12441 2=12388,12441 1=12390,12441 1=12392,12441",
    "6=12399,12441 0=12399,12442 1=12402,12441 0=12402,12442 1=12405,12441 0=12405,12442",
    "1=12408,12441 0=12408,12442 1=12411,12441 0=12411,12442 22=12358,12441 9=12445,12441",
    "13=12459,12441 1=12461,12441 1=12463,12441 1=12465,12441 1=12467,12441 1=12469,12441",
    "1=12471,12441 1=12473,12441 1=12475,12441 1=12477,12441 1=12479,12441 1=12481,12441",
    "2=12484,12441 1=12486,12441 1=12488,12441 6=12495,12441 0=12495,12442 1=12498,12441",
    "0=12498,12442 1=12501,12441 0=12501,12442 1=12504,12441 0=12504,12442 1=12507,12441",
    "0=12507,12442 22=12454,12441 2=12527,12441 0=12528,12441 0=12529,12441 0=12530,12441",
    "3=12541,12441 54474=67026,775 26=67034,775 2741=69785,69818 1=69787,69818 14=69797,69818",
    "130=69937,69927 0=69938,69927 539=70471,70462 0=70471,70487 54=70530,70601 1=70532,70587",
    "8=70539,70594 2=70544,70601 51=70594,70594 1=70594,70584 0=70594,70601 242=70841,70842",
    "0=70841,70832 1=70841,70845 251=71096,71087 0=71097,71087 892=71989,71984 18408=90398,90398",
    "0=90398,90409 0=90398,90399 0=90409,90399 0=90398,90400 0=90401,90399 0=90402,90399",
    "0=90401,90400 3135=93543,93543 0=93539,93543 0=93545,93543"]

/-! ### Syllables -/

/--
The first code points of the syllables of Hangul, of their leading consonants, vowels and trailing
consonants.
-/
def syllableBase : Nat := 0xAC00

@[inherit_doc syllableBase]
def leadingBase : Nat := 0x1100

@[inherit_doc syllableBase]
def vowelBase : Nat := 0x1161

@[inherit_doc syllableBase]
def trailingBase : Nat := 0x11A7

/-- The number of leading consonants. -/
def leadingCount : Nat := 19

/-- The number of vowels. -/
def vowelCount : Nat := 21

/-- The number of trailing consonants, where none counts as one. -/
def trailingCount : Nat := 28

/-- The number of syllables. -/
def syllableCount : Nat := leadingCount * vowelCount * trailingCount

/-- Whether a code point is one of `count` ones from `base` on. -/
def isWithin (base count code : Nat) : Bool := base ≤ code && code < base + count

/-- The parts of a syllable. -/
def syllableParts? (code : Nat) : Option (List Nat) :=
  if isWithin syllableBase syllableCount code then
    let position := code - syllableBase
    let trailing := position % trailingCount
    let vowel := position / trailingCount % vowelCount
    let leading := position / trailingCount / vowelCount
    some ([leadingBase + leading, vowelBase + vowel] ++
      if trailing = 0 then [] else [trailingBase + trailing])
  else none

/-- The syllable that two parts make. -/
def syllable? (first second : Nat) : Option Nat :=
  if isWithin leadingBase leadingCount first && isWithin vowelBase vowelCount second then
    some (syllableBase +
      ((first - leadingBase) * vowelCount + (second - vowelBase)) * trailingCount)
  else if isWithin syllableBase syllableCount first && (first - syllableBase) % trailingCount = 0 &&
      isWithin (trailingBase + 1) (trailingCount - 1) second then
    some (first + (second - trailingBase))
  else none

/-! ### Decomposition -/

/-- The number of steps in which every composite falls into its parts. -/
def maxSteps : Nat := 4

/-- The parts of a character after some number of steps. -/
def partsOf (steps : Nat) (c : Char) : List Char :=
  match steps with
  | 0 => [c]
  | steps + 1 =>
    match syllableParts? c.toNat with
    | some parts => parts.map Char.ofNat
    | none =>
      match composites.image? c with
      | some parts => parts.flatMap fun part => partsOf steps (Char.ofNat part)
      | none => [c]

/-- The class of a character; letters have the class zero. -/
def markClass (c : Char) : Nat :=
  match markClasses.image? c with
  | some [value] => value
  | _ => 0

/-- Some marks in the order of their classes. -/
def orderMarks (marks : List Char) : List Char :=
  marks.mergeSort fun first second => markClass first ≤ markClass second

/--
A text in which the marks that follow each other are in order; `marks` are those before the text,
the last one first.
-/
def orderFrom (marks : List Char) : List Char → List Char
  | [] => orderMarks marks.reverse
  | c :: rest =>
    if markClass c = 0 then orderMarks marks.reverse ++ c :: orderFrom [] rest
    else orderFrom (c :: marks) rest

/-- A text with all composites taken apart and all marks in order. -/
def decompose (chars : List Char) : List Char := orderFrom [] (chars.flatMap (partsOf maxSteps))

/-! ### Composition -/

/-- The character that two others make. -/
def composite? (first second : Char) : Option Char :=
  match syllable? first.toNat second.toNat with
  | some code => some (Char.ofNat code)
  | none =>
    (composites.runs.find? fun run => run.image = [first.toNat, second.toNat]).map fun run =>
      Char.ofNat run.first

/--
A text whose letter `letter` has the marks `marks` after it, the last one first, that did not go
into it.
-/
def composeAfter (letter : Char) (marks : List Char) : List Char → List Char
  | [] => letter :: marks.reverse
  | c :: rest =>
    let class' := markClass c
    let isFree :=
      match marks with
      | [] => true
      | last :: _ => markClass last < class'
    match if isFree then composite? letter c else none with
    | some whole => composeAfter whole marks rest
    | none =>
      if class' = 0 then letter :: marks.reverse ++ composeAfter c [] rest
      else composeAfter letter (c :: marks) rest

/--
A text in which all that can be put together is put together. Marks before the first letter stay
alone.
-/
def composeParts : List Char → List Char
  | [] => []
  | c :: rest => if markClass c = 0 then composeAfter c [] rest else c :: composeParts rest

/-- The canonical form of a text. -/
def compose (chars : List Char) : List Char := composeParts (decompose chars)

end LogForwarder.Text
