import TypedEnv.Text.Table

/-!
# Characters of domain names

Domain names are compared after a mapping of their characters: letters become
lower case, width and font variants become ordinary characters, some
characters vanish, and the rest of the world is refused.  A character that
the mapping leaves alone is valid.
-/

namespace TypedEnv.Domain

/-- The characters beyond ASCII that the mapping accepts. -/
def allowedSet : Text.CharSet := .ofGaps
  ["128 0 32 728 2 6 4 7 1 1 1 20 1 397 1 38 2 50 2 3 1 55 8 27 4 6 17 22 1 192 1 48 2 59 2",
   "101 14 59 2 49 2 15 1 28 2 1 1 11 5 32 7 75 1 161 1 8 2 2 2 22 1 7 1 1 3 4 2 9 2 2 2 4 8",
   "1 4 2 1 5 2 25 2 3 1 6 4 2 2 22 1 7 1 2 1 2 1 2 2 1 1 5 4 2 2 3 3 1 7 4 1 1 7 17 10 3 1",
   "9 1 3 1 22 1 7 1 2 1 5 2 10 1 3 1 3 2 1 15 4 2 12 7 7 1 3 1 8 2 2 2 22 1 7 1 2 1 5 2 9 2",
   "2 2 3 7 3 4 2 1 5 2 18 10 2 1 6 3 3 1 4 3 2 1 1 1 2 3 2 3 3 3 12 4 5 3 3 1 4 2 1 6 1 14",
   "21 5 13 1 3 1 23 1 16 2 9 1 3 1 4 7 2 1 3 1 2 2 4 2 10 7 22 1 3 1 23 1 10 1 5 2 9 1 3 1",
   "4 7 2 5 3 1 4 2 10 1 3 12 13 1 3 1 51 1 3 1 6 4 16 2 26 1 3 1 18 3 24 1 9 1 1 2 7 3 1 4",
   "6 1 1 1 8 6 10 2 3 12 58 4 29 37 2 1 1 1 5 1 24 1 1 1 23 2 5 1 1 1 7 1 10 2 4 32 72 1 36",
   "4 39 1 36 1 15 1 13 37 198 1 1 5 1 2 377 1 4 2 7 1 1 1 4 2 41 1 4 2 33 1 4 2 7 1 1 1 4 2",
   "15 1 57 1 4 2 67 2 32 3 26 6 86 2 6 2 640 1 28 3 89 7 22 9 24 9 20 12 13 1 3 1 2 12 94 2",
   "10 6 10 6 26 6 89 7 43 5 70 10 31 1 12 4 12 4 1 3 42 2 5 11 44 4 26 6 11 3 62 2 65 1 29",
   "2 11 6 10 6 14 2 46 2 12 20 77 1 166 8 60 3 15 3 62 5 43 2 11 8 43 5 534 2 6 2 38 2 6 2",
   "8 1 1 1 1 1 1 1 31 2 53 1 15 1 14 2 6 1 19 2 3 1 9 1 14 2 20 3 1 7 54 5 8 2 27 1 13 3 34",
   "14 33 15 140 4 666 22 11 21 40 20 1752 2 382 5 45 1 1 5 1 2 56 7 2 14 24 9 7 1 7 1 7 1 7",
   "1 7 1 7 1 7 1 7 1 126 34 26 1 89 12 214 42 64 1 86 2 103 5 43 1 94 1 86 10 47 1 418 1 4",
   "1 16 1 28852 3 55 9 348 20 184 8 221 20 60 3 10 6 56 8 70 8 12 6 116 11 30 3 78 1 11 4",
   "33 1 55 9 14 2 10 2 103 24 28 10 6 2 6 2 6 9 7 1 7 1 60 4 126 2 10 6 11172 12 23 4 49",
   "8452 366 2 106 38 7 12 5 5 26 1 5 1 1 1 2 1 2 1 650 32 34 1 6 7 16 1 33 2 19 1 4 4 5 1",
   "135 2 1 1 190 3 6 2 6 2 6 2 3 3 7 1 7 17 12 1 26 1 19 1 2 1 15 2 14 34 123 5 3 4 45 3 88",
   "1 13 3 1 47 46 130 29 3 49 15 28 4 36 9 30 5 43 5 30 1 37 4 14 42 158 2 10 6 36 4 36 4",
   "40 8 52 11 12 1 15 1 7 1 2 1 11 1 15 1 7 1 2 3 52 12 311 9 22 10 8 24 6 1 42 1 9 69 6 2",
   "1 1 44 1 2 3 1 2 23 1 72 8 9 48 19 1 2 5 33 3 27 5 27 38 56 4 20 2 50 1 2 5 8 1 3 1 29 2",
   "3 4 10 7 9 7 64 32 39 4 12 9 54 3 29 2 27 5 26 7 4 12 7 80 73 55 51 13 51 7 46 8 10 6 38",
   "3 29 8 2 208 31 1 42 1 3 2 2 16 6 8 9 33 46 8 42 22 26 38 28 20 23 9 78 4 36 9 62 1 5 13",
   "25 7 10 6 53 1 18 8 39 9 96 1 20 11 18 1 47 62 7 1 1 1 4 1 15 1 11 6 59 5 10 6 4 1 8 2 2",
   "2 22 1 7 1 2 1 5 1 10 2 2 2 3 2 1 6 1 5 7 2 7 3 5 11 10 1 1 2 1 1 38 1 10 1 1 2 1 1 4 1",
   "10 1 2 8 2 29 92 1 5 30 72 8 10 166 54 2 38 34 69 11 10 6 13 19 58 6 10 6 20 28 27 2 15",
   "4 23 185 60 100 83 12 8 2 1 2 8 1 2 1 30 1 2 2 12 9 10 70 8 2 46 2 11 27 72 8 83 13 73 7",
   "10 86 8 88 34 14 10 6 9 1 45 1 14 10 29 3 32 2 22 1 14 73 7 1 2 1 44 3 1 1 2 1 9 8 10 6",
   "6 1 2 1 37 1 2 1 6 7 10 6 44 4 10 246 25 7 17 1 41 3 29 85 1 15 50 13 923 102 111 1 5 11",
   "196 2636 99 13 1072 16 22 10 3995 5 583 6841 58 1734 569 7 31 1 10 4 81 1 10 6 30 2 6 10",
   "70 10 10 1 7 1 21 5 19 432 58 198 91 5 25 2 25 44 75 4 57 7 17 64 5 11 7 9 7382 41 32 97",
   "115 8701 4 1 7 1 2 1 291 15 1 29 3 2 1 14 4 8 396 2308 107 5 13 3 9 7 10 2 8 3932 253 3",
   "436 6 23 15 17 15 46 2 23 9 116 60 246 10 39 2 194 21 70 122 20 12 20 12 87 9 25 135 85",
   "1 71 1 2 2 1 2 2 2 4 1 12 1 1 1 7 1 65 1 4 2 8 1 7 1 28 1 4 1 5 1 1 3 7 1 340 2 292 2",
   "702 15 5 1 15 1104 31 6 6 213 7 1 17 2 7 1 2 1 5 5 62 33 1 112 45 3 14 2 10 4 2 320 31",
   "17 58 5 1 464 42 214 43 4 1 192 31 1 22 8 2 224 7 1 4 1 2 1 15 1 197 2 16 41 76 4 10 4 2",
   "785 68 76 61 194 4 1 27 1 2 1 1 2 1 1 10 1 4 1 1 1 1 6 1 4 1 1 1 1 1 1 3 1 2 1 1 2 1 1 1",
   "1 1 1 1 1 1 1 2 1 1 2 4 1 7 1 4 1 4 1 1 1 10 1 17 5 3 1 5 1 17 52 2 270 44 4 100 12 15 2",
   "15 1 15 1 37 11 173 56 29 13 44 4 9 7 2 14 6 154 985 3 17 3 13 3 218 6 12 4 1 15 12 4 56",
   "8 10 6 40 8 30 2 12 4 2 14 9 39 344 8 14 2 13 3 11 3 57 1 1 4 16 2 12 4 10 7 147 1 103",
   "1029 42720 32 4382 2 5774 2 7473 15 622 2466 542 1506 4939 5 8490 707718 240"]

/-- The characters that the mapping drops. -/
def ignoredSet : Text.CharSet := .ofGaps
  ["173 1 673 1 3599 2 1619 2 85 5 2043 1 84 5 5 6 4340 1 52379 16 239 1 160 1 48383 4 5327",
   "8 798597 240"]

/-- The characters beyond ASCII that the mapping replaces. -/
def replacements : Text.CharMap := .ofRows
  ["160 1 1 -128 10 1 1 -73 8 2 1 -128 3 1 1 775 4 1 1 -136 1 1 1 -75 6 23 1 32 24 7 1 32 40",
   "24 2 1 52 2 2 1 5 3 2 1 8 4 2 1 9 23 2 1 46 1 1 -121 1 3 2 1 6 1 1 -268 2 1 1 210 1 2 2",
   "1 4 1 1 206 1 1 1 1 2 2 1 205 2 1 1 1 3 1 1 79 1 1 1 202 1 1 1 203 1 1 1 1 2 1 1 205 1 1",
   "1 207 2 1 1 211 1 1 1 209 1 1 1 1 4 1 1 211 1 1 1 213 2 1 1 214 1 3 2 1 6 1 1 218 1 1 1",
   "1 2 1 1 218 3 1 1 1 2 1 1 218 1 1 1 1 2 2 1 217 2 2 2 1 4 1 1 219 1 1 1 1 4 1 1 1 17 8 2",
   "1 17 9 2 1 22 1 1 1 2 1 1 -97 1 1 1 -56 1 20 2 1 40 1 1 -130 2 9 2 1 24 1 1 10795 1 1 1",
   "1 2 1 1 -163 1 1 1 10792 3 1 1 1 2 1 1 -195 1 1 1 69 1 1 1 71 1 5 2 1 106 2 2 -584 1 1 1",
   "-75 2 1 1 -577 1 1 1 -59 1 1 1 -58 1 1 1 -53 1 1 1 -576 1 1 1 -575 40 1 1 -125 1 1 1",
   "-629 1 1 1 -623 1 1 1 -619 1 1 1 -79 92 2 1 -64 3 1 1 -48 2 1 1 116 43 2 2 1 4 1 1 -187",
   "2 1 1 1 8 1 1 -835 1 1 1 116 7 1 1 38 1 1 1 -720 1 3 1 37 4 1 1 64 2 2 1 63 3 17 1 32 18",
   "9 1 32 44 1 1 8 1 1 1 -30 1 1 1 -25 1 1 1 -13 1 1 1 -6 1 1 1 -9 1 1 1 -15 1 1 1 -22 2 12",
   "2 1 24 1 1 -54 1 1 1 -48 1 1 1 -47 2 1 1 -60 1 1 1 -64 2 1 1 1 2 1 1 -54 1 1 1 1 3 3 1",
   "-130 3 16 1 80 16 32 1 32 80 17 2 1 42 27 2 1 54 1 1 15 1 7 2 1 15 48 2 1 97 38 1 48",
   "2523 1 1 -1 404 38 1 7264 39 1 1 7264 6 1 1 7264 47 1 1 -32 764 6 1 -8 2184 1 1 -6222 1",
   "1 1 -6221 1 1 1 -6212 1 2 1 -6210 2 1 1 -6211 1 1 1 -6204 1 1 1 -6180 1 1 1 35267 1 1 1",
   "1 7 43 1 -3008 45 3 1 -3008 111 1 1 -7371 1 1 1 -7239 1 2 2 -7372 3 5 2 -7372 1 1 1",
   "-6997 2 4 2 -7372 8 1 1 -7373 1 1 1 -6938 1 1 1 -7374 1 1 1 -7373 1 2 1 -7372 2 1 1",
   "-7371 1 1 1 -7394 1 2 1 -6900 2 1 1 -68 1 1 1 -7397 1 2 1 -7396 2 1 1 -6897 1 2 1 -6896",
   "2 1 1 -7398 2 1 1 -7396 1 2 2 -7395 1 1 1 -7174 2 1 1 -6911 1 2 1 -62 2 1 1 -7398 1 2 1",
   "-7395 2 1 1 -60 1 1 1 -6891 1 1 1 -7397 1 1 1 -55 1 3 1 -6571 3 2 1 -6554 2 1 1 -7417 1",
   "1 1 -7409 1 2 1 -7407 2 2 1 -6580 2 1 1 -6567 1 2 1 -6563 15 1 1 -6459 35 1 1 -6985 1 1",
   "1 -7481 1 1 1 -6984 1 1 1 -7342 1 1 1 -6979 1 1 1 -7482 1 1 1 -6978 1 1 1 -6977 1 1 1",
   "-6974 1 3 1 -6972 3 1 1 -44 1 1 1 -6923 1 1 1 -6972 1 1 1 -37 1 1 1 -6924 1 1 1 -6971 1",
   "1 1 -6973 1 4 1 -6972 4 1 1 -6970 1 2 1 -6961 2 1 1 -7178 1 2 1 -6957 2 1 1 -156 1 2 1",
   "-6958 2 1 1 -7489 1 3 1 -6956 3 1 1 -6663 65 75 2 1 155 1 1 -58 3 1 1 -7615 2 48 2 1 104",
   "8 1 -8 16 6 1 -8 16 8 1 -8 16 8 1 -8 16 6 1 -8 17 4 2 -8 15 8 1 -8 9 1 1 -7109 2 1 1",
   "-7110 2 1 1 -7111 2 1 1 -7112 2 1 1 -7085 2 1 1 -7086 2 1 1 -7087 59 2 1 -8 2 1 1 -74 1",
   "1 1 -7183 3 1 1 -7173 10 2 2 -86 1 1 1 -7196 2 1 1 -7197 8 1 1 -7235 5 2 1 -8 2 1 1 -100",
   "1 1 1 -7212 8 1 1 -7219 5 2 1 -8 2 1 1 -112 1 1 1 -7198 1 1 1 -7 3 1 1 -8079 9 1 1 -128",
   "1 2 2 -7213 1 1 1 -126 6 1 1 -8160 1 1 1 -8161 1 1 1 -8162 1 1 1 -8163 1 1 1 -8164 1 1 1",
   "-8165 1 1 1 -8166 1 1 1 -8167 1 1 1 -8168 1 1 1 -8169 1 1 1 -8170 7 1 1 -1 30 1 1 -8207",
   "48 1 1 -8255 17 1 1 -8256 1 1 1 -8200 3 6 1 -8256 6 1 1 -8271 1 1 1 407 1 1 1 -8255 1 2",
   "1 -8277 2 1 1 -8209 1 10 1 -8272 10 1 1 -8287 1 1 1 391 1 1 1 -8271 1 2 1 -8293 3 1 1",
   "-8239 1 1 1 -8236 1 1 1 -8227 1 1 1 -8219 1 1 1 -7739 1 1 1 -8237 1 4 1 -8235 4 1 1",
   "-8234 1 2 1 -8232 103 1 1 -8351 5 1 1 -7852 3 2 1 -8355 2 1 1 -8356 1 1 1 -8357 1 1 1",
   "-8358 1 1 1 -8168 1 1 1 -8359 1 1 1 -8360 1 1 1 -8358 1 2 2 -8359 6 3 1 -8361 3 1 1",
   "-8362 1 1 1 -8363 7 1 1 -8362 2 1 1 -7517 2 1 1 -8366 2 1 1 -8383 1 1 1 -8262 1 2 1",
   "-8394 3 1 1 -8394 1 2 1 -8395 2 1 1 28 1 1 1 -8390 1 1 1 -8389 1 4 1 -7013 4 1 1 -8400 3",
   "1 1 -7548 1 1 1 -7562 1 1 1 -7563 1 1 1 -7551 1 1 1 209 5 1 1 -8417 1 2 1 -8418 2 2 1",
   "-8415 24 1 1 -8439 4 1 1 -8430 5 1 1 -8433 3 1 1 -8448 1 2 1 -8458 2 1 1 -8450 1 1 1",
   "-8455 4 1 1 -8446 5 1 1 -8449 3 1 1 -8464 1 2 1 -8474 2 1 1 -8466 4 1 1 1 422 2 1 3295",
   "311 9 1 -9263 86 26 1 -9301 26 26 1 -9327 26 1 1 -9402 1814 48 1 48 96 1 1 1 2 1 1",
   "-10743 1 1 1 -3814 1 1 1 -10727 3 3 2 1 6 1 1 -10780 1 1 1 -10749 1 1 1 -10783 1 1 1",
   "-10782 2 1 1 1 3 1 1 1 7 1 1 -11282 1 1 1 -11271 1 2 1 -10815 2 50 2 1 107 2 2 1 7 1 1 1",
   "125 1 1 -14 304 1 1 15662 84 1 1 28844 13 1 1 7936 1 1 1 7975 1 1 1 7988 1 1 1 7996 1 1",
   "1 8021 1 1 1 8064 1 1 1 8070 1 1 1 8089 1 1 1 8114 1 1 1 8758 1 1 1 8795 1 1 1 8800 1 1",
   "1 8822 1 1 1 8841 1 1 1 8861 1 1 1 8913 1 1 1 8933 1 1 1 8943 1 1 1 9097 1 1 1 9190 1 1",
   "1 9217 1 1 1 9221 1 1 1 9250 1 1 1 9258 1 1 1 9284 1 1 1 9296 1 1 1 9320 1 1 1 9371 1 1",
   "1 9388 1 1 1 9414 1 1 1 10169 1 1 1 10240 1 1 1 10699 1 1 1 10721 1 1 1 10728 1 1 1",
   "10738 1 1 1 10755 1 1 1 10830 1 1 1 11306 1 1 1 11353 1 1 1 11472 1 1 1 11494 1 1 1",
   "11512 1 1 1 11533 1 1 1 11586 1 1 1 11588 1 1 1 11949 1 1 1 11958 1 1 1 11969 1 1 1",
   "11981 1 1 1 12096 1 1 1 12103 1 1 1 12107 1 1 1 12223 1 1 1 12232 1 1 1 12244 1 1 1",
   "12251 1 1 1 12311 1 1 1 12327 1 1 1 12344 1 1 1 12423 1 1 1 13003 1 1 1 13048 1 1 1",
   "13068 1 1 1 13807 1 1 1 13811 1 1 1 13893 1 1 1 13908 1 1 1 13920 1 1 1 13940 1 1 1",
   "13978 1 1 1 13982 1 1 1 14248 1 1 1 14271 1 1 1 14302 1 1 1 15317 1 1 1 15382 1 1 1",
   "15404 1 1 1 15461 1 1 1 15484 1 1 1 15492 1 1 1 15498 1 1 1 15549 1 1 1 15553 1 1 1",
   "15584 1 1 1 16662 1 1 1 17108 1 1 1 17119 1 1 1 17123 1 1 1 17126 1 1 1 17133 1 1 1",
   "17150 1 1 1 17151 1 1 1 17231 1 1 1 17446 1 1 1 17450 1 1 1 17788 1 1 1 17797 1 1 1",
   "17846 1 1 1 17852 1 1 1 17860 1 1 1 17867 1 1 1 17957 1 1 1 17963 1 1 1 18190 1 1 1",
   "18196 1 1 1 18244 1 1 1 18260 1 1 1 18306 1 1 1 18542 1 1 1 18548 1 1 1 18564 1 1 1",
   "18890 1 1 1 19015 1 1 1 19020 1 1 1 19201 1 1 1 19287 1 1 1 19332 1 1 1 19709 1 1 1",
   "19841 1 1 1 20414 1 1 1 20440 1 1 1 20496 1 1 1 20546 1 1 1 20613 1 1 1 20623 1 1 1",
   "20628 1 1 1 20660 1 1 1 20735 1 1 1 20744 1 1 1 21089 1 1 1 21095 1 1 1 21103 1 1 1",
   "21111 1 1 1 21126 1 1 1 21140 1 1 1 21143 1 1 1 21221 1 1 1 21224 1 1 1 21229 1 1 1",
   "22209 1 1 1 22238 1 1 1 22706 1 1 1 22717 1 1 1 22739 1 1 1 23021 1 1 1 23033 1 1 1",
   "23103 1 1 1 23148 1 1 1 23714 1 1 1 23728 1 1 1 23742 1 1 1 23776 1 1 1 23812 1 1 1",
   "24010 1 1 1 24021 1 1 1 24087 1 1 1 24334 1 1 1 24364 1 1 1 24572 1 1 1 24592 1 1 1",
   "24596 1 1 1 24815 1 1 1 24998 1 1 1 25122 1 1 1 25127 1 1 1 25131 1 1 1 26064 1 1 1",
   "26072 1 1 1 26227 1 1 1 26380 1 1 1 26382 1 1 1 26428 1 1 1 26532 1 1 1 26544 1 1 1",
   "26547 1 1 1 26553 1 1 1 26650 1 1 1 26683 1 1 1 26688 1 1 1 26701 1 1 1 26867 1 1 1",
   "26917 1 1 1 26920 1 1 1 27102 1 1 1 27104 1 1 1 27122 1 1 1 27373 1 1 1 27420 1 1 1",
   "27426 1 1 1 27495 1 1 1 27504 1 1 1 27506 1 1 1 27515 1 1 1 27544 1 1 1 27938 1 1 1",
   "28337 1 1 1 28346 1 1 1 28383 1 1 1 28404 1 1 1 28411 1 1 1 28420 1 1 1 28423 1 1 1",
   "28462 1 1 1 28465 1 1 1 28481 1 1 1 28485 1 1 1 28497 1 1 1 28523 1 1 1 28537 1 1 1",
   "28544 1 1 1 28602 1 1 1 28616 1 1 1 28619 43 1 1 -12256 2 1 1 -12244 52 1 1 -36 2 1 1",
   "8969 1 2 1 8971 248 2 1 -8241 2 2 2 -8073 1 1 1 -8242 2 1 1 -8073 1 3 1 -8244 3 6 1",
   "-8074 6 1 1 -8230 1 3 1 -8251 3 1 1 -8227 1 10 1 -8252 10 21 1 -8174 22 2 1 -8273 2 2 1",
   "-8096 2 1 1 -8093 1 1 1 -8092 1 1 1 -8088 1 1 1 -8085 1 1 1 -8084 1 1 1 -8274 1 1 1",
   "-8082 1 1 1 -8081 1 2 1 -8276 2 1 1 -8275 1 2 1 -8274 2 1 1 -8271 1 1 1 -8270 1 5 1",
   "-8269 5 1 1 -8267 1 1 1 -8264 1 1 1 -8255 1 1 1 -8249 1 1 1 -8245 1 2 1 -8081 2 3 1",
   "-8237 3 2 1 -8195 2 1 1 -8193 1 2 1 -8185 2 1 1 -8184 1 1 1 -8175 1 1 1 -8173 4 1 1 7278",
   "1 1 1 7417 1 1 1 7285 1 1 1 9542 1 1 1 7284 1 1 1 7318 1 1 1 7283 1 1 1 17305 1 1 1 7359",
   "1 1 1 7294 1 1 1 7269 1 1 1 10124 1 1 1 9618 1 1 1 7451 165 1 1 8971 1 1 1 11319 1 1 1",
   "13121 1 1 1 18760 25 1 1 -8544 1 2 1 -8543 2 3 1 -8542 3 1 1 -8541 1 2 1 -8540 2 5 1",
   "-8539 5 1 1 31122 1 1 1 32297 1 1 1 32884 1 1 1 34059 1 1 1 34646 1 1 1 35233 1 1 1",
   "36408 1 1 1 37583 1 1 1 38170 1 1 1 39345 1 1 1 39932 1 1 1 40519 1 1 1 41106 1 1 1",
   "41693 3 1 1 37938 2 1 1 7040 1 1 1 7179 1 1 1 7047 1 1 1 9304 1 1 1 7184 1 1 1 7912 1 1",
   "1 7037 1 1 1 7908 1 1 1 7125 1 1 1 8376 1 1 1 13438 1 1 1 15840 1 1 1 14760 1 1 1 13467",
   "1 1 1 24387 1 1 1 9360 1 1 1 13141 1 1 1 13721 1 1 1 13431 1 1 1 18091 1 1 1 8569 1 1 1",
   "16356 1 1 1 23051 1 1 1 18118 1 1 1 8220 1 1 1 18239 1 1 1 17053 1 1 1 9944 1 1 1 24013",
   "1 1 1 7821 1 1 1 8402 1 1 1 14921 1 1 1 25957 1 1 1 7280 1 1 1 7927 1 1 1 14528 1 1 1",
   "7014 1 1 1 7048 1 1 1 7013 1 1 1 11071 1 1 1 8523 1 1 1 8338 1 1 1 10477 1 1 1 10427 1 1",
   "1 17463 1 1 1 7252 1 1 1 23065 1 1 1 8357 1 1 1 9836 32 1 1 -558 1 1 1 -557 1 1 1 -556 1",
   "1 1 -555 1 2 1 -554 2 1 1 -553 1 1 1 -552 1 1 1 -551 1 1 1 -550 1 1 1 -549 1 1 1 -548 1",
   "1 1 -547 1 1 1 -546 1 1 1 -545 1 1 1 -544 1 1 1 -543 1 1 1 -541 1 1 1 -540 1 1 1 -539 1",
   "6 1 -538 6 1 1 -536 1 1 1 -534 1 1 1 -532 1 1 1 -530 1 5 1 -528 5 1 1 -527 1 1 1 -526 1",
   "6 1 -525 6 4 1 -524 29509 23 2 1 64 14 2 1 28 1 1 -41554 1 1 1 -41553 133 7 2 1 16 31 2",
   "1 62 1 1 -1 9 2 2 1 4 1 1 -35332 1 5 2 1 13 1 1 1 2 1 1 -42280 3 2 2 1 6 10 2 1 20 1 1",
   "-42308 1 1 1 -42319 1 1 1 -42315 1 1 1 -42305 1 1 1 -42308 2 1 1 -42258 1 1 1 -42282 1 1",
   "1 -42261 1 1 1 928 1 8 2 1 16 1 1 -48 1 1 1 -42307 1 1 1 -35384 1 2 2 1 4 1 1 -42343 1 8",
   "2 1 16 1 1 -42561 21 1 1 -42878 1 1 1 -42895 1 1 1 -42893 1 1 1 -42883 1 1 1 1 3 1 1",
   "-42705 1 1 1 -42662 867 1 1 -1077 1 1 1 -38 1 1 1 -43251 1 1 1 -13 10 1 1 -43228 7 80 1",
   "-38864 19856 1 1 -27832 1 1 1 -37389 1 1 1 -27192 1 1 1 -27707 1 1 1 -35379 1 1 1 -43731",
   "1 1 1 -42273 1 1 1 -22891 1 1 1 -22892 1 1 1 -40888 1 1 1 -26425 1 1 1 -41860 1 1 1",
   "-40900 1 1 1 -38679 1 1 1 -33445 1 1 1 -31114 1 1 1 -29393 1 1 1 -29015 1 1 1 -28698 1 1",
   "1 -26756 1 1 1 -36626 1 1 1 -35834 1 1 1 -34877 1 1 1 -34105 1 1 1 -29915 1 1 1 -26543 1",
   "1 1 -24361 1 1 1 -43673 1 1 1 -42407 1 1 1 -36377 1 1 1 -34563 1 1 1 -29426 1 1 1 -23298",
   "1 1 1 -39889 1 1 1 -35127 1 1 1 -29526 1 1 1 -28608 1 1 1 -38492 1 1 1 -30542 1 1 1",
   "-28936 1 1 1 -39518 1 1 1 -37394 1 1 1 -35776 1 1 1 -34351 1 1 1 -26718 1 1 1 -43431 1 1",
   "1 -42871 1 1 1 -42577 1 1 1 -37996 1 1 1 -36446 1 1 1 -34594 1 1 1 -33356 1 1 1 -31027 1",
   "1 1 -29487 1 1 1 -29402 1 1 1 -27464 1 1 1 -25094 1 1 1 -24010 1 1 1 -23360 1 1 1 -32943",
   "1 1 1 -32701 1 1 1 -31645 1 1 1 -30069 1 1 1 -26171 1 1 1 -23233 1 1 1 -28267 1 1 1",
   "-41059 1 1 1 -39487 1 1 1 -31972 1 1 1 -30919 1 1 1 -34532 1 1 1 -32893 1 1 1 -27782 1 1",
   "1 -25170 1 1 1 -41074 1 1 1 -40169 1 1 1 -36665 1 1 1 -35699 1 1 1 -35391 1 1 1 -31776 1",
   "1 1 -31513 1 1 1 -25350 1 1 1 -42624 1 1 1 -30920 1 1 1 -42872 1 1 1 -42889 1 1 1 -32570",
   "1 1 1 -31641 1 1 1 -30055 1 1 1 -25316 1 1 1 -28122 1 1 1 -38540 1 1 1 -36698 1 1 1",
   "-28255 1 1 1 -43813 1 1 1 -40312 1 1 1 -39246 1 1 1 -34266 1 1 1 -33778 1 1 1 -42572 1 1",
   "1 -32873 1 1 1 -43430 1 1 1 -39357 1 1 1 -43866 1 1 1 -35996 1 1 1 -37873 1 1 1 -31816 1",
   "1 1 -42408 1 1 1 -41230 1 1 1 -33388 1 1 1 -29989 1 1 1 -28357 1 1 1 -36278 1 1 1 -27073",
   "1 1 1 -36074 1 1 1 -38517 1 1 1 -30351 1 1 1 -38357 1 1 1 -33809 1 1 1 -43721 1 1 1",
   "-43023 1 1 1 -42928 1 1 1 -37113 1 1 1 -31892 1 1 1 -30477 1 1 1 -28331 1 1 1 -26543 1 1",
   "1 -42634 1 1 1 -42302 1 1 1 -40974 1 1 1 -39574 1 1 1 -37822 1 1 1 -35206 1 1 1 -32859 1",
   "1 1 -25561 1 1 1 -24349 1 1 1 -23281 1 1 1 -23227 1 1 1 -42735 1 1 1 -37573 1 1 1 -36373",
   "1 1 1 -27179 1 1 1 -39706 1 1 1 -38911 1 1 1 -38800 1 1 1 -38135 1 1 1 -35439 1 1 1",
   "-34890 1 1 1 -34059 1 1 1 -32715 1 1 1 -31650 1 1 1 -31016 1 1 1 -27250 1 1 1 -29867 1 1",
   "1 -26999 1 1 1 -26193 1 1 1 -42885 1 1 1 -42746 1 1 1 -42209 1 1 1 -35031 1 1 1 -28894 1",
   "1 1 -28407 1 1 1 -39641 1 1 1 -39342 1 1 1 -38441 1 1 1 -36343 1 1 1 -32104 1 1 1 -34354",
   "1 1 1 -43716 1 1 1 -41648 1 1 1 -40387 1 1 1 -39921 1 1 1 -39312 1 1 1 -34299 1 1 1",
   "-34117 1 1 1 -31253 1 1 1 -31082 1 1 1 -26493 1 1 1 -25276 1 1 1 -25195 1 1 1 -24988 1 1",
   "1 -43562 1 1 1 -32776 1 1 1 -26627 1 1 1 -25344 1 1 1 -39128 1 1 1 -43828 1 1 1 -43233 1",
   "1 1 -40398 1 1 1 -40318 1 1 1 -37925 1 1 1 -36797 1 1 1 -34802 1 1 1 -33663 1 1 1 -29894",
   "1 1 1 -26951 1 1 1 -23095 1 1 1 -37693 1 1 1 -25496 1 1 1 -42814 1 1 1 -37453 1 1 1",
   "-37334 1 1 1 -35977 1 1 1 -35631 1 1 1 -34243 1 1 1 -33908 1 1 1 -33123 1 1 1 -31935 1 1",
   "1 -24946 1 1 1 -43108 1 1 1 -38820 1 1 1 -25435 1 1 1 -43433 1 1 1 -40124 1 1 1 -35820 1",
   "1 1 -27309 1 1 1 -39501 1 1 1 -39061 1 1 1 -37315 1 1 1 -34388 1 1 1 -25430 1 1 1 -42932",
   "1 1 1 -42447 1 1 1 -40314 1 1 1 -37837 1 1 1 -37523 1 1 1 -37178 1 1 1 -36094 1 1 1",
   "-34270 1 1 1 -33795 1 1 1 -31341 1 1 1 -28952 1 1 1 -28935 1 1 1 -26653 1 1 1 -25352 1 1",
   "1 -42668 1 1 1 -35634 1 1 1 -42448 1 1 1 -34846 1 1 1 -34135 1 1 1 -29686 1 1 1 -25422 1",
   "1 1 -23963 1 1 1 -23380 1 1 1 -37469 1 1 1 -35882 1 1 1 -30734 1 1 1 -32556 1 1 1 -32472",
   "1 1 1 -32103 1 1 1 -34618 1 1 1 -35170 1 1 1 -28324 1 1 1 -43837 1 1 1 -30408 1 1 1",
   "-42949 1 1 1 -43001 1 1 1 -39771 1 1 1 -38703 1 1 1 -32045 1 1 1 -40575 1 1 1 -36071 1 1",
   "1 -37714 1 1 1 -27340 1 1 1 -29116 1 1 1 -25532 1 1 1 -28799 1 1 1 -39736 1 1 1 -43212 1",
   "1 1 -42061 3 1 1 -41398 2 1 1 -37790 3 1 1 -43063 1 1 1 -34540 1 1 1 -33613 1 1 1 -32988",
   "1 1 1 -32955 1 1 1 -32949 1 1 1 -32908 1 1 1 -25286 1 1 1 -32095 1 1 1 -31329 2 1 1",
   "-29710 2 1 1 -28458 3 1 1 -27117 1 1 1 -26921 4 1 1 -24891 1 1 1 -24879 1 1 1 -24836 1 1",
   "1 -23673 1 1 1 -26960 1 1 1 -25464 1 1 1 -43650 1 1 1 -43338 1 1 1 -43237 1 1 1 -42858 1",
   "1 1 -42832 1 1 1 -42724 1 1 1 -42137 1 1 1 -42033 1 1 1 -41936 1 1 1 -41465 1 1 1 -41362",
   "1 1 1 -40407 1 1 1 -40398 1 1 1 -39337 1 1 1 -39126 1 1 1 -39089 1 1 1 -38990 1 1 1",
   "-38130 1 1 1 -37984 1 1 1 -37810 1 1 1 -37311 1 1 1 -36046 1 1 1 -35884 1 1 1 -35621 1 1",
   "1 -35034 1 1 1 -34846 1 1 1 -34344 1 1 1 -33210 1 1 1 -33038 1 1 1 -33028 1 1 1 -33030 1",
   "1 1 -33023 1 1 1 -33018 1 1 1 -33012 1 2 1 -32965 2 1 1 -32788 1 1 1 -32724 1 1 1 -32406",
   "1 1 1 -31843 1 1 1 -31823 1 1 1 -31768 1 1 1 -31464 1 1 1 -31318 1 1 1 -30831 1 1 1",
   "-30692 1 1 1 -30693 1 1 1 -30216 1 1 1 -29008 1 1 1 -28875 1 1 1 -28513 1 1 1 -28458 1 1",
   "1 -28049 1 1 1 -27997 1 1 1 -27312 1 1 1 -27183 1 1 1 -25477 1 1 1 -25194 1 1 1 -25135 1",
   "1 1 -39414 1 1 1 84098 1 1 1 -30805 3 1 1 -44106 1 1 1 -43196 1 1 1 -43274 1 1 1 -43763",
   "1 1 1 -43311 1 1 1 -43253 1 1 1 -42927 1 1 1 -42877 1 1 1 -42203 1 1 1 -42276 1 1 1",
   "-42209 1 1 1 -42137 1 1 1 -41506 1 1 1 -41418 1 1 1 -41274 1 1 1 -41259 1 1 1 -40990 1 1",
   "1 -40793 1 1 1 -39856 1 1 1 -39850 1 1 1 -39707 1 1 1 -39640 1 1 1 -39342 1 1 1 -39225 1",
   "1 1 -39296 1 1 1 -39163 1 1 1 -39210 1 1 1 -39065 1 1 1 -39000 1 1 1 -38601 1 1 1 -38514",
   "1 1 1 -38461 1 1 1 -38202 1 1 1 -37917 1 1 1 -37755 1 1 1 -37752 1 1 1 -37694 1 1 1",
   "-36636 1 1 1 -36572 1 1 1 -36182 1 1 1 -35773 1 1 1 -35790 1 1 1 -35704 1 1 1 -35453 1 1",
   "1 -35118 1 1 1 -33526 1 1 1 -34921 1 1 1 -34800 1 1 1 -34678 1 1 1 -34352 1 1 1 -34204 1",
   "1 1 -34152 1 1 1 -33927 1 1 1 -33926 1 1 1 -33756 1 1 1 -33740 1 1 1 -33716 1 1 1 -33631",
   "1 1 1 -33642 1 1 1 -33247 1 1 1 -32763 1 1 1 -32493 1 1 1 -32307 1 1 1 -32084 1 1 1",
   "-31932 1 1 1 -31603 1 1 1 -31405 1 1 1 -30561 1 1 1 -30405 1 1 1 -29500 1 1 1 -29045 1 1",
   "1 -28977 1 1 1 -28962 1 1 1 -28666 1 1 1 -28610 1 1 1 -28656 1 1 1 -28603 1 1 1 -28607 1",
   "1 1 -28625 1 1 1 -28550 1 1 1 -28470 1 1 1 -28089 1 1 1 -27530 1 1 1 -27217 1 1 1 -26923",
   "1 1 1 -26703 1 1 1 -25674 1 1 1 -25572 1 1 1 -25458 1 1 1 -25326 1 1 1 -25291 1 1 1",
   "-25280 1 1 1 -25233 1 1 1 -24507 1 1 1 -23346 1 1 1 77179 1 1 1 77172 1 1 1 80132 1 1 1",
   "-48949 1 1 1 -47803 1 1 1 -47771 1 1 1 87924 1 1 1 90618 1 1 1 99324 1 1 1 -23445 1 1 1",
   "-23371 71 1 1 -62782 1 1 1 -62801 1 2 1 -62799 2 3 1 -62793 3 1 1 -62783 1 1 1 -62782 1",
   "1 1 -64254 39 1 1 -62687 1 1 1 -62688 1 1 1 -62679 1 1 1 -62680 1 1 1 -62681 1 1 1",
   "-62682 1 1 1 -62680 1 1 1 -62681 1 2 2 -62682 1 2 2 -62683 3 1 1 -62684 1 1 1 -62685 1 1",
   "1 -62692 1 1 1 -62693 1 1 1 -62694 1 1 1 -62695 1 1 1 -62691 1 1 1 -62692 1 1 1 -62693 1",
   "1 1 -62694 1 1 1 -62701 1 1 1 -62702 1 1 1 -62703 1 1 1 -62704 1 1 1 -62662 1 1 1 -62663",
   "1 2 2 -62664 1 2 2 -62665 3 1 1 -62666 1 1 1 -62667 1 1 1 -62702 1 1 1 -62703 1 1 1",
   "-62704 1 1 1 -62705 1 1 1 -62707 1 1 1 -62708 1 1 1 -62709 1 1 1 -62710 1 1 1 -62708 1 1",
   "1 -62709 1 1 1 -62710 1 2 1 -62711 2 1 1 -62712 1 1 1 -62713 1 1 1 -62714 1 1 1 -62709 1",
   "1 1 -62710 1 2 2 -62712 1 2 2 -62713 3 1 1 -62720 1 1 1 -62721 1 1 1 -62706 1 1 1 -62707",
   "1 1 1 -62715 1 1 1 -62716 1 1 1 -62693 1 1 1 -62694 1 1 1 -62695 1 1 1 -62696 1 1 1",
   "-62691 1 1 1 -62692 1 1 1 -62693 1 1 1 -62694 1 1 1 -62691 1 1 1 -62692 1 1 1 -62693 1 1",
   "1 -62694 1 1 1 -62697 1 1 1 -62698 1 1 1 -62699 1 1 1 -62700 1 1 1 -62692 1 2 1 -62693 2",
   "1 1 -62694 1 1 1 -62695 1 1 1 -62696 1 1 1 -62692 1 2 1 -62693 2 1 1 -62694 1 1 1 -62695",
   "1 1 1 -62696 1 1 1 -62700 1 1 1 -62701 1 1 1 -62702 1 1 1 -62703 1 1 1 -62684 1 2 1",
   "-62685 2 1 1 -62686 34 1 1 -62758 1 1 1 -62759 1 1 1 -62760 1 1 1 -62761 1 1 1 -62736 1",
   "1 1 -62737 1 2 2 -62739 1 2 2 -62740 4 1 1 -62739 1 1 1 -62740 1 1 1 -62747 1 1 1 -62748",
   "1 1 1 -62745 1 1 1 -62746 1 1 1 -62740 1 1 1 -62741 1 1 1 -62742 1 1 1 -62743 1 1 1",
   "-62879 1 1 1 -62880 19 1 1 -62768 1 1 1 -62769 1 1 1 -62770 1 1 1 -62771 529 1 1 -64996",
   "1 1 1 -52752 2 2 1 -64985 2 1 1 -65012 1 1 1 -64983 1 2 1 -52737 26 1 1 -56861 1 1 1",
   "-56863 1 1 1 -64980 1 1 1 -64981 1 2 1 -65037 2 1 1 -64956 1 1 1 -64955 1 2 1 -52773 2 2",
   "1 -52779 2 2 1 -52787 2 2 1 -52791 2 4 1 -52789 6 1 1 -65004 1 1 1 -65003 5 1 1 -65006 1",
   "1 1 -65007 1 1 1 -65008 1 1 1 -65060 1 1 1 -52816 3 1 1 -65049 1 1 1 -65051 1 1 1 -65047",
   "1 1 1 -65078 1 1 1 -56900 1 2 1 -65073 2 1 1 -64992 1 1 1 -64991 1 2 1 -52809 2 1 1",
   "-65084 1 1 1 -65082 1 2 1 -65079 2 1 1 -65078 1 1 1 -65064 1 1 1 -65063 1 1 1 -65065 2 1",
   "1 -65036 1 2 1 -65093 2 1 1 -65067 21 2 1 -63583 2 2 1 -63584 2 2 1 -63585 2 2 1 -63586",
   "2 2 1 -63587 2 1 1 -63588 1 1 1 -63589 1 2 1 -63590 2 2 1 -63591 2 1 1 -63592 1 1 1",
   "-63593 1 2 1 -63594 2 2 1 -63595 2 1 1 -63596 1 1 1 -63597 1 2 1 -63598 2 1 1 -63599 1 1",
   "1 -63600 1 2 1 -63601 2 1 1 -63602 1 1 1 -63603 1 2 1 -63604 2 1 1 -63605 1 1 1 -63606 1",
   "2 1 -63607 2 1 1 -63608 1 1 1 -63609 1 2 1 -63610 2 2 1 -63611 2 2 1 -63612 2 2 1 -63613",
   "2 2 1 -63614 2 1 1 -63615 1 1 1 -63616 1 2 1 -63617 2 1 1 -63618 1 1 1 -63619 1 2 1",
   "-63620 2 1 1 -63621 1 1 1 -63622 1 2 1 -63623 2 1 1 -63624 1 1 1 -63625 1 2 1 -63626 2 1",
   "1 -63627 1 1 1 -63628 1 2 1 -63629 2 1 1 -63630 1 1 1 -63631 1 2 1 -63632 2 1 1 -63633 1",
   "1 1 -63634 1 2 1 -63635 2 1 1 -63636 1 1 1 -63637 1 1 1 -63638 1 1 1 -63632 1 1 1 -63633",
   "1 1 1 -63634 1 2 1 -63635 2 1 1 -63636 1 1 1 -63637 1 2 1 -63638 2 1 1 -63639 1 1 1",
   "-63640 1 2 1 -63641 2 1 1 -63642 1 1 1 -63643 1 2 1 -63644 2 1 1 -63645 1 1 1 -63646 1 2",
   "1 -63647 2 1 1 -63648 1 1 1 -63649 1 2 1 -63650 2 1 1 -63651 1 1 1 -63652 1 2 1 -63653 2",
   "2 1 -63654 2 2 1 -63655 2 1 1 -63656 1 1 1 -63657 1 1 1 -63658 13 32 1 -65248 32 26 1",
   "-65216 26 36 1 -65248 36 2 1 -54746 2 1 1 -65331 1 2 1 -53078 2 1 1 -53091 1 1 1 -52842",
   "1 1 1 -52852 1 1 1 -52934 1 1 1 -52933 1 1 1 -52932 1 1 1 -52931 1 1 1 -52930 1 1 1",
   "-52873 1 1 1 -52872 1 1 1 -52871 1 1 1 -52908 1 1 1 -52852 1 1 1 -52943 1 1 1 -52942 1 1",
   "1 -52941 1 1 1 -52940 1 2 1 -52939 2 1 1 -52938 1 1 1 -52937 1 1 1 -52936 1 1 1 -52935 1",
   "1 1 -52934 1 1 1 -52933 1 1 1 -52932 1 1 1 -52931 1 1 1 -52930 1 1 1 -52929 1 1 1 -52928",
   "1 1 1 -52926 1 1 1 -52925 1 1 1 -52924 1 6 1 -52923 6 1 1 -52921 1 1 1 -52919 1 1 1",
   "-52917 1 1 1 -52915 1 5 1 -52913 5 1 1 -52912 1 1 1 -52911 1 6 1 -52910 6 1 1 -52909 1 1",
   "1 -52906 1 2 1 -52997 3 2 1 -61089 2 2 2 -60921 1 1 1 -61090 2 1 1 -60921 1 3 1 -61092 3",
   "6 1 -60922 6 1 1 -61078 1 3 1 -61099 3 1 1 -61075 1 10 1 -61100 13 6 1 -61025 8 6 1",
   "-61027 8 6 1 -61029 8 3 1 -61031 6 2 1 -65342 2 1 1 -65334 2 1 1 -65342 1 1 1 -65344 1 1",
   "1 -57149 2 1 1 -56038 1 4 1 -56921 4 1 1 -55885 1 1 1 -55843 1042 40 1 40 176 36 1 40",
   "192 19 2 39 1 5 2 39 12 7 2 39 16 3 2 39 8 1 1 39 492 2 1 -66737 2 1 1 -67229 1 1 1",
   "-66795 1 1 1 -66866 2 2 2 -66788 1 1 1 -23586 2 1 1 -66790 1 2 1 -66869 2 1 1 -59900 1 1",
   "1 -66870 1 1 1 -66865 1 1 1 -66791 1 1 1 -66861 1 1 1 -66864 1 1 1 -66867 1 1 1 -66809 1",
   "1 1 -67182 1 1 1 -66810 1 1 1 -66864 1 1 1 -66836 1 2 1 -66799 2 1 1 -66863 1 1 1 55144",
   "1 1 1 -24591 1 1 1 -66864 1 1 1 55142 1 1 1 -66834 1 1 1 55141 1 1 1 -67242 1 2 1 -66861",
   "2 1 1 -67380 1 1 1 -66860 1 1 1 55137 1 2 1 -66859 2 1 1 -66858 1 1 1 -66819 1 1 1",
   "-66822 1 1 1 -23622 1 1 1 -66823 1 1 1 -66855 1 1 1 -56127 2 1 1 -66851 1 2 1 -66834 2 1",
   "1 -66845 1 3 1 -67062 3 1 1 55121 1 1 1 55140 1222 51 1 64 208 22 1 32 2896 32 1 32",
   "21920 32 1 32 96 25 1 27 24118 26 1 -117877 26 10 1 -117952 1808 26 1 -119711 26 26 1",
   "-119737 26 26 1 -119763 26 13 2 -119789 1 3 2 -119789 8 9 2 -119789 17 26 1 -119815 26",
   "26 1 -119841 26 2 2 -119867 3 1 1 -119867 3 1 1 -119867 3 2 1 -119867 4 4 1 -119867 5 8",
   "1 -119867 8 4 1 -119893 5 11 2 -119893 3 3 2 -119893 8 5 2 -119893 10 26 1 -119919 26 26",
   "1 -119945 26 2 1 -119971 3 4 1 -119971 6 8 1 -119971 9 7 1 -119971 8 26 1 -119997 26 2 1",
   "-120023 3 4 1 -120023 5 5 1 -120023 6 1 1 -120023 4 7 1 -120023 8 26 1 -120049 26 26 1",
   "-120075 26 26 1 -120101 26 26 1 -120127 26 26 1 -120153 26 26 1 -120179 26 26 1 -120205",
   "26 26 1 -120231 26 26 1 -120257 26 26 1 -120283 26 26 1 -120309 26 26 1 -120335 26 26 1",
   "-120361 26 1 1 -120179 1 1 1 -119918 3 17 1 -119543 17 1 1 -119553 1 7 1 -119543 7 1 1",
   "-111802 1 17 1 -119569 17 1 1 -119568 1 7 1 -119569 7 1 1 -111833 1 1 1 -119591 1 1 1",
   "-119589 1 1 1 -119588 1 1 1 -119577 1 1 1 -119583 1 1 1 -119585 1 17 1 -119601 17 1 1",
   "-119611 1 7 1 -119601 7 1 1 -111860 1 17 1 -119627 17 1 1 -119626 1 7 1 -119627 7 1 1",
   "-111891 1 1 1 -119649 1 1 1 -119647 1 1 1 -119646 1 1 1 -119635 1 1 1 -119641 1 1 1",
   "-119643 1 17 1 -119659 17 1 1 -119669 1 7 1 -119659 7 1 1 -111918 1 17 1 -119685 17 1 1",
   "-119684 1 7 1 -119685 7 1 1 -111949 1 1 1 -119707 1 1 1 -119705 1 1 1 -119704 1 1 1",
   "-119693 1 1 1 -119699 1 1 1 -119701 1 17 1 -119717 17 1 1 -119727 1 7 1 -119717 7 1 1",
   "-111976 1 17 1 -119743 17 1 1 -119742 1 7 1 -119743 7 1 1 -112007 1 1 1 -119765 1 1 1",
   "-119763 1 1 1 -119762 1 1 1 -119751 1 1 1 -119757 1 1 1 -119759 1 17 1 -119775 17 1 1",
   "-119785 1 7 1 -119775 7 1 1 -112034 1 17 1 -119801 17 1 1 -119800 1 7 1 -119801 7 1 1",
   "-112065 1 1 1 -119823 1 1 1 -119821 1 1 1 -119820 1 1 1 -119809 1 1 1 -119815 1 1 1",
   "-119817 1 1 1 -119789 1 1 1 -119790 3 10 1 -120734 10 10 1 -120744 10 10 1 -120754 10 10",
   "1 -120764 10 10 1 -120774 2106 9 1 -121856 9 3 1 -121855 3 11 1 -121854 11 1 1 -121852 1",
   "2 1 -121851 2 1 1 -80321 1 1 1 -121714 1 1 1 -121846 1 1 1 -121845 1 1 1 -121701 1 1 1",
   "-121760 1 1 1 -121729 1 9 1 -121889 9 2 1 -121888 2 2 1 -121886 2 1 1 -121885 1 6 1",
   "-121884 6 2 1 -121883 2 1 1 -121814 1 1 1 -121874 1 1 1 -121876 1 1 1 -121867 1 1 1",
   "-121792 1 1 1 -80411 1 1 1 -121788 2195 34 1 34 1280 2 1 -124889 2 1 1 -124886 1 1 1",
   "-124884 2 1 1 -124861 1 1 1 -124884 1 1 1 -124890 1 1 1 -124881 1 1 1 -124863 1 4 1",
   "-124871 4 1 1 -124891 1 1 1 -124886 1 1 1 -124879 1 1 1 -124892 1 1 1 -124880 1 1 1",
   "-124898 1 1 1 -124896 1 2 1 -124907 2 1 1 -124905 1 1 1 -124904 1 1 1 -124899 1 1 1",
   "-124898 1 1 1 -124897 1 1 1 -124846 1 1 1 -124771 1 1 1 -124797 1 1 1 -124848 2 1 1",
   "-124921 1 1 1 -124918 2 1 1 -124893 3 1 1 -124922 2 1 1 -124895 1 4 1 -124903 4 1 1",
   "-124923 1 1 1 -124918 1 1 1 -124911 1 1 1 -124924 1 1 1 -124912 2 1 1 -124928 1 2 1",
   "-124939 2 1 1 -124937 2 1 1 -124931 2 1 1 -124929 7 1 1 -124950 5 1 1 -124954 2 1 1",
   "-124927 2 2 2 -124935 3 1 1 -124955 1 1 1 -124950 2 1 1 -124956 1 1 1 -124944 2 1 1",
   "-124960 3 1 1 -124969 2 1 1 -124963 2 1 1 -124961 2 1 1 -124835 2 1 1 -124912 2 1 1",
   "-124985 1 1 1 -124982 2 1 1 -124957 3 1 1 -124986 1 1 1 -124977 1 1 1 -124959 1 2 2",
   "-124967 3 1 1 -124967 1 1 1 -124987 1 1 1 -124982 1 1 1 -124975 1 1 1 -124988 1 1 1",
   "-124976 2 1 1 -124992 1 2 1 -125003 2 1 1 -125001 2 1 1 -124995 1 1 1 -124994 1 1 1",
   "-124993 1 1 1 -124942 2 1 1 -124893 2 2 1 -125017 2 1 1 -125014 1 1 1 -125012 1 2 1",
   "-124989 2 1 1 -125012 1 1 1 -125018 1 1 1 -125009 1 1 1 -124991 2 3 1 -124999 3 1 1",
   "-125019 1 1 1 -125014 1 1 1 -125007 1 1 1 -125020 1 1 1 -125008 1 1 1 -125026 1 1 1",
   "-125024 1 2 1 -125035 2 1 1 -125033 1 1 1 -125032 1 1 1 -125027 1 1 1 -125026 1 1 1",
   "-125025 6 1 1 -125049 1 1 1 -125046 1 1 1 -125044 2 1 1 -125021 1 1 1 -125044 1 1 1",
   "-125050 1 1 1 -125041 1 1 1 -125023 2 3 1 -125031 3 1 1 -125051 1 1 1 -125046 1 1 1",
   "-125039 1 1 1 -125052 1 1 1 -125040 1 1 1 -125058 1 1 1 -125056 1 2 1 -125067 2 1 1",
   "-125065 1 1 1 -125064 1 1 1 -125059 1 1 1 -125058 1 1 1 -125057 624 1 1 -127176 1 1 1",
   "-127162 4 26 1 -127183 210 1 1 -115021 14 1 1 -102341 1 1 1 -104122 1 1 1 -106054 1 1 1",
   "-115020 1 1 1 -107400 1 1 1 -104699 1 1 1 -92211 1 1 1 -104686 1 1 1 -107380 1 1 1",
   "-101369 1 1 1 -98553 1 1 1 -101506 1 1 1 -106447 1 1 1 -103057 1 1 1 -106641 1 1 1",
   "-101487 1 1 1 -106499 1 1 1 -95455 1 1 1 -97539 1 1 1 -91514 1 1 1 -104756 1 1 1 -105964",
   "1 1 1 -99090 1 1 1 -102290 1 1 1 -102099 1 1 1 -107561 1 1 1 -107553 1 1 1 -90593 1 1 1",
   "-103494 1 1 1 -107520 1 1 1 -106043 1 1 1 -102184 1 1 1 -91328 1 1 1 -102366 1 1 1",
   "-96433 1 1 1 -96185 1 1 1 -106028 1 1 1 -99253 1 1 1 -101165 1 1 1 -101167 1 1 1 -97541",
   "1 1 1 -106439 1 1 1 -105604 1 1 1 -90350 21 1 1 -103097 1 1 1 -106082 2463 10 1 -129984",
   "64528 1 1 -174531 1 1 1 -174537 1 1 1 -174529 1 1 1 -63201 1 1 1 -174244 1 1 1 -174167 1",
   "1 1 -174155 1 1 1 -174085 1 1 1 -173966 1 1 1 -173936 1 1 1 -173859 1 1 1 -173884 1 1 1",
   "-181102 1 1 1 -61907 1 1 1 -173761 1 1 1 -173755 1 1 1 -173740 1 1 1 -173722 1 1 1",
   "-62198 1 1 1 -181082 1 1 1 -173741 1 1 1 -173704 1 1 1 -62155 1 1 1 -173696 1 1 1",
   "-173684 1 1 1 -174413 1 1 1 -173678 1 1 1 -173670 1 1 1 -26173 1 1 1 -173608 1 1 1",
   "-173595 1 1 1 -181056 1 1 1 -173541 1 1 1 -173531 1 1 1 -173488 1 1 1 -173484 1 1 1",
   "-181007 1 1 1 -173406 1 1 1 -173405 1 1 1 -173379 1 1 1 -173358 1 2 1 -173348 2 1 1",
   "-173332 1 1 1 -173283 1 1 1 -173276 1 1 1 -173268 1 1 1 -173244 1 2 2 -173235 1 1 1",
   "-173234 2 1 1 -173236 1 1 1 -60936 1 1 1 -165829 1 1 1 -173164 1 1 1 -173144 1 1 1",
   "-60629 1 1 1 -173134 1 1 1 -173129 1 1 1 -173109 1 1 1 -172958 1 1 1 -173061 1 1 1",
   "-173046 1 1 1 -173015 1 1 1 -172958 1 1 1 -172875 1 1 1 -172850 1 1 1 -172784 1 1 1",
   "-172769 1 1 1 -172737 1 1 1 -172738 1 1 1 -172718 1 1 1 -172701 1 1 1 -172694 1 1 1",
   "-172680 1 1 1 -172341 1 1 1 -172614 1 1 1 -172342 1 1 1 -172541 1 1 1 -172507 1 1 1",
   "-173641 1 1 1 -171875 1 1 1 -172164 1 1 1 -172127 1 1 1 -172103 1 1 1 -172234 1 1 1",
   "-172068 1 1 1 -172070 1 1 1 -171948 1 1 1 -58229 1 1 1 -171880 1 1 1 -171876 1 1 1",
   "-171862 1 1 1 -171843 1 1 1 -171836 1 1 1 -171773 1 1 1 -57784 1 1 1 -57719 1 1 1",
   "-171638 1 1 1 -171592 1 1 1 -171581 1 1 1 -171661 1 1 1 -171520 1 1 1 -180601 1 1 1",
   "-180588 1 1 1 -171361 1 1 1 -171308 1 1 1 -171309 1 1 1 -56996 1 1 1 -171178 1 1 1",
   "-171158 1 1 1 -171144 1 1 1 -171133 1 1 1 -56665 1 1 1 -171123 1 1 1 -171117 1 1 1",
   "-170273 1 1 1 -171091 1 1 1 -180469 1 1 1 -171031 1 1 1 -171018 1 1 1 -170937 1 1 1",
   "-170989 1 2 2 -55959 1 1 1 -170809 2 1 1 -170768 1 1 1 -170772 1 1 1 -170756 1 2 1",
   "-170656 2 1 1 -180308 1 1 1 -170631 1 1 1 -170589 1 1 1 -170569 1 1 1 -170526 1 1 1",
   "-180262 1 1 1 -55046 1 1 1 -180238 1 1 1 -170459 1 1 1 -170457 1 1 1 -170455 1 1 1",
   "-170436 1 1 1 -21757 1 1 1 -170386 1 1 1 -54624 1 1 1 -54625 1 1 1 -161426 1 1 1 -170354",
   "1 1 1 -170355 1 1 1 -180175 1 1 1 -50655 1 1 1 -38590 1 1 1 -170295 1 1 1 -170287 1 1 1",
   "-180152 1 1 1 -170242 1 1 1 -170192 1 1 1 -170183 1 1 1 -170150 1 1 1 -170015 1 1 1",
   "-180071 1 1 1 -180102 1 1 1 -169999 1 1 1 -53712 1 1 1 -169950 1 1 1 -169822 1 1 1",
   "-169819 1 1 1 -169818 1 1 1 -169821 1 1 1 -169776 1 1 1 -169757 1 1 1 -169722 1 1 1",
   "-169737 1 1 1 -169727 1 1 1 -169681 1 1 1 -169662 1 1 1 -169659 1 1 1 -169634 1 1 1",
   "-169624 1 1 1 -169559 1 1 1 -169476 1 1 1 -169442 1 1 1 -169319 1 1 1 -52652 1 1 1",
   "-169340 1 1 1 -169406 1 1 1 -169299 1 1 1 -169273 1 1 1 -169177 1 1 1 -52429 1 1 1",
   "-169117 1 1 1 -169211 1 1 1 -169240 1 1 1 -179860 1 1 1 -169050 1 1 1 -169030 1 1 1",
   "-169000 1 1 1 -169039 1 1 1 -179803 1 1 1 -168825 1 1 1 -168797 1 1 1 -51392 1 1 1",
   "-168680 1 1 1 -168404 1 1 1 -168580 1 1 1 -179637 1 1 1 -168510 1 1 1 -179656 1 1 1",
   "-179693 1 1 1 -173888 1 1 1 -173886 1 1 1 -168404 1 1 1 -168505 1 1 1 -161833 1 1 1",
   "-177406 1 1 1 -168385 1 1 1 -168382 1 1 1 -168377 1 1 1 -168317 1 1 1 -168329 1 1 1",
   "-50458 1 1 1 -179605 1 1 1 -168165 1 1 1 -168283 1 1 1 -168079 1 1 1 -168029 1 1 1",
   "-50294 1 1 1 -168022 1 1 1 -168134 1 1 1 -167890 1 1 1 -179530 1 1 1 -167846 1 1 1",
   "-167750 1 1 1 -167680 1 1 1 -167491 1 1 1 -49737 1 1 1 -167442 1 1 1 -179414 1 1 1",
   "-167374 1 1 1 -49225 1 1 1 -167325 1 1 1 -179364 1 1 1 -167297 1 1 1 -167253 1 2 1",
   "-167227 2 1 1 -48746 1 1 1 -56301 1 1 1 -48639 1 1 1 -167084 1 1 1 -48191 1 1 1 -166973",
   "1 1 1 -166960 1 1 1 -167063 1 1 1 -166889 1 1 1 -166850 1 1 1 -166794 1 1 1 -166849 1 1",
   "1 -166810 1 1 1 -166796 1 1 1 -166784 1 1 1 -48104 1 1 1 -166867 1 1 1 -166617 1 1 1",
   "-166555 1 1 1 -179159 1 1 1 -166464 1 1 1 -166469 1 1 1 -47676 1 1 1 -166677 1 1 1",
   "-166305 1 1 1 -47538 1 1 1 -47491 1 1 1 -166220 1 1 1 -166106 1 1 1 -166134 1 1 1",
   "-166138 1 1 1 -179072 1 1 1 -166093 1 1 1 -166043 1 1 1 -166050 1 1 1 -165997 1 1 1",
   "-62454 1 1 1 -165847 1 1 1 -46778 1 1 1 -165762 1 1 1 -46452 1 1 1 -165624 1 1 1 -165612",
   "1 1 1 -165586 1 1 1 -45851 1 1 1 -165540 1 1 1 -165520 1 1 1 -45553 1 1 1 -45331 1 1 1",
   "-165294 1 1 1 -165278 1 1 1 -178814 1 1 1 -165254 1 1 1 -178804 1 1 1 -178805 1 1 1",
   "-165095 1 1 1 -165075 1 1 1 -165055 1 1 1 -165036 1 1 1 -164968 1 1 1 -178712 1 1 1",
   "-164880 1 1 1 -44287 1 1 1 -164856 1 1 1 -44197 1 1 1 -164808 1 1 1 -55194 1 1 1 -164650",
   "1 1 1 -43418 1 1 1 -43396 1 1 1 -43257 1 1 1 -178498 1 1 1 -178487 1 1 1 -164428 1 1 1",
   "-43086 1 1 1 -43088 1 1 1 -43050 1 1 1 -43025 1 2 1 -164391 2 1 1 -164392 1 1 1 -164350",
   "1 1 1 -178448 1 1 1 -164287 1 1 1 -178437 1 1 1 -178358 1 1 1 -42288 1 1 1 -164096 1 1 1",
   "-164035 1 1 1 -163972 1 1 1 -178286 1 1 1 -41772 1 1 1 -163837 1 1 1 -41658 1 1 1 -41616",
   "1 1 1 -163783 1 1 1 -163692 1 1 1 -178217 1 1 1 -163609 1 1 1 -163600 1 1 1 -163596 1 1",
   "1 -40928 1 1 1 -40630 1 1 1 -40631 1 1 1 -163441 1 1 1 -178014 1 1 1 -40374 1 1 1",
   "-163228 1 1 1 -163226 1 1 1 -177981 1 1 1 -40165 1 1 1 -162964 1 1 1 -177863 1 1 1",
   "-162944 1 1 1 -162950 1 1 1 -162922 1 1 1 -39397 1 1 1 -162825 1 1 1 -177772 1 1 1",
   "-162727 1 1 1 -162669 1 1 1 -162603 1 1 1 -177725 1 1 1 -38730 1 1 1 -38700 1 1 1",
   "-177691 1 1 1 -38556 1 1 1 -162300 1 1 1 -38457 1 1 1 -162275 1 1 1 -162175 1 1 1",
   "-162165 1 1 1 -38049 1 1 1 -37977 1 1 1 -162077 1 1 1 -37846 1 1 1 -162063 1 1 1 -50721",
   "1 1 1 -177580 1 1 1 -162000 1 1 1 -161920 1 1 1 -177529 1 1 1 -161863 1 1 1 -171729 1 1",
   "1 -37344 1 1 1 -37331 1 1 1 -50678 1 1 1 -50670 1 1 1 -161674 1 1 1 -161672 1 1 1",
   "-158191 1 1 1 -177443 1 1 1 -161534 1 1 1 -161541 1 1 1 -161524 1 1 1 -173791 1 1 1",
   "-161506 1 1 1 -161505 1 1 1 -161496 1 1 1 -161456 1 1 1 -36443 1 1 1 -161459 1 1 1",
   "-161404 1 1 1 -161335 1 1 1 -161262 1 1 1 -161401 1 1 1 -161248 1 1 1 -161207 1 1 1",
   "-161096 1 1 1 -161357 1 1 1 -161239 1 1 1 -161238 1 1 1 -161223 1 1 1 -36206 1 1 1",
   "-35898 1 1 1 -36049 1 1 1 -177276 1 1 1 -160951 1 1 1 -160950 1 1 1 -160916 1 1 1 -34273",
   "1 1 1 -160840 1 1 1 -35457 1 1 1 -177233 1 1 1 -177230 1 1 1 -35327 1 1 1 -35039 1 1 1",
   "-177223 1 1 1 -160611 1 1 1 -160600 1 1 1 -160590 1 1 1 -160589 1 1 1 -160526 1 1 1",
   "-160560 1 1 1 -160427 1 1 1 -160472 1 1 1 -160322 1 1 1 -160404 1 1 1 -160338 1 1 1",
   "-160312 1 1 1 -177128 1 1 1 -160223 1 1 1 -160192 1 1 1 -177097 1 1 1 -160099 1 1 1",
   "-160097 1 1 1 -33630 1 1 1 -159983 1 1 1 -159977 1 1 1 -177043 1 1 1 -159951 1 1 1",
   "-181519 1 1 1 -33053 1 1 1 -32870 1 1 1 -176911 1 1 1 -176903 1 1 1 -159535 1 1 1",
   "-159459 1 1 1 -159303 1 1 1 -159101 1 1 1 -32043 1 1 1 -159017 1 1 1 -158996 1 1 1",
   "-158907 1 1 1 -158816 1 1 1 -31401 1 1 1 -61909 1 1 1 -158735 1 1 1 -158751 1 1 1",
   "-158700 1 1 1 -61695 1 1 1 -158474 1 1 1 -158375 1 1 1 -29710 1 1 1 -29684 1 1 1 -158030",
   "1 1 1 -157938 1 1 1 -157907 1 1 1 -29367 1 1 1 -157899 1 1 1 -157615 1 2 1 -157457 2 1 1",
   "-157550 1 1 1 -157170 1 1 1 -157143 1 1 1 -28147 1 1 1 -156771 1 1 1 -176218 1 1 1",
   "-156729 1 1 1 -27770 1 1 1 -176140 1 1 1 -156464 1 1 1 -171074 1 1 1 -156370 1 1 1",
   "-26801 1 1 1 -26589 1 1 1 -176010 1 1 1 -176003 1 1 1 -156186 1 1 1 -26097 1 1 1 -175946",
   "1 1 1 -25959 1 1 1 -156147 1 1 1 -156148 1 1 1 -156119 1 1 1 -25675 1 1 1 -155936 1 1 1",
   "-175824 1 1 1 -155867 1 1 1 -155742 1 1 1 -155716 1 1 1 -155657 1 1 1 -175674 1 1 1",
   "-24281 1 1 1 -155384 1 1 1 -155083 1 1 1 -154895 1 1 1 -175423 1 1 1 -175393 1 1 1",
   "-154792 1 1 1 -22850 1 1 1 -175385 1 1 1 -22797 1 1 1 -22533 1 1 1 -22403 1 1 1 -154458",
   "1 1 1 -175296 1 1 1 -154398 1 1 1 -154394 1 1 1 -154388 1 1 1 -154379 1 1 1 -154373 1 1",
   "1 -154337 1 1 1 -21533"]
  ["168 2 32 776 7 2 32 772 5 2 32 769 4 2 32 807 4 3 49 8260 52 1 3 49 8260 50 1 3 51 8260",
   "52 114 2 105 775 2 2 105 106 1 2 105 106 12 2 108 183 1 2 108 183 9 2 700 110 123 2 100",
   "382 1 2 100 382 1 2 100 382 1 2 108 106 1 2 108 106 1 2 108 106 1 2 110 106 1 2 110 106",
   "1 2 110 106 37 2 100 122 1 2 100 122 1 2 100 122 229 2 32 774 1 2 32 775 1 2 32 778 1 2",
   "32 808 1 2 32 771 1 2 32 779 103 2 776 769 54 2 32 953 10 2 32 769 1 3 32 776 769 514 2",
   "1381 1410 238 2 1575 1652 1 2 1608 1652 1 2 1735 1652 1 2 1610 1652 736 2 2325 2364 1 2",
   "2326 2364 1 2 2327 2364 1 2 2332 2364 1 2 2337 2364 1 2 2338 2364 1 2 2347 2364 1 2 2351",
   "2364 125 2 2465 2492 1 2 2466 2492 2 2 2479 2492 84 2 2610 2620 3 2 2616 2620 35 2 2582",
   "2620 1 2 2583 2620 1 2 2588 2620 3 2 2603 2620 254 2 2849 2876 1 2 2850 2876 726 2 3661",
   "3634 128 2 3789 3762 41 2 3755 3737 1 2 3755 3745 102 2 3906 4023 10 2 3916 4023 5 2",
   "3921 4023 5 2 3926 4023 5 2 3931 4023 13 2 3904 4021 10 2 3953 3954 2 2 3953 3956 1 2",
   "4018 3968 1 3 4018 3953 3968 1 2 4019 3968 1 3 4019 3953 3968 8 2 3953 3968 18 2 3986",
   "4023 10 2 3996 4023 5 2 4001 4023 5 2 4006 4023 5 2 4011 4023 13 2 3984 4021 3809 2 97",
   "702 230 2 7936 953 1 2 7937 953 1 2 7938 953 1 2 7939 953 1 2 7940 953 1 2 7941 953 1 2",
   "7942 953 1 2 7943 953 1 2 7936 953 1 2 7937 953 1 2 7938 953 1 2 7939 953 1 2 7940 953 1",
   "2 7941 953 1 2 7942 953 1 2 7943 953 1 2 7968 953 1 2 7969 953 1 2 7970 953 1 2 7971 953",
   "1 2 7972 953 1 2 7973 953 1 2 7974 953 1 2 7975 953 1 2 7968 953 1 2 7969 953 1 2 7970",
   "953 1 2 7971 953 1 2 7972 953 1 2 7973 953 1 2 7974 953 1 2 7975 953 1 2 8032 953 1 2",
   "8033 953 1 2 8034 953 1 2 8035 953 1 2 8036 953 1 2 8037 953 1 2 8038 953 1 2 8039 953 1",
   "2 8032 953 1 2 8033 953 1 2 8034 953 1 2 8035 953 1 2 8036 953 1 2 8037 953 1 2 8038 953",
   "1 2 8039 953 3 2 8048 953 1 2 945 953 1 2 940 953 3 2 8118 953 5 2 945 953 1 2 32 787 2",
   "2 32 787 1 2 32 834 1 3 32 776 834 1 2 8052 953 1 2 951 953 1 2 942 953 3 2 8134 953 5 2",
   "951 953 1 3 32 787 768 1 3 32 787 769 1 3 32 787 834 14 3 32 788 768 1 3 32 788 769 1 3",
   "32 788 834 14 3 32 776 768 1 3 32 776 769 4 2 8060 953 1 2 969 953 1 2 974 953 3 2 8182",
   "953 5 2 969 953 1 2 32 769 1 2 32 788 25 2 32 819 28 2 8242 8242 1 3 8242 8242 8242 2 2",
   "8245 8245 1 3 8245 8245 8245 5 2 33 33 2 2 32 773 9 2 63 63 1 2 63 33 1 2 33 63 14 4",
   "8242 8242 8242 8242 81 2 114 115 88 3 97 47 99 1 3 97 47 115 2 2 176 99 2 3 99 47 111 1",
   "3 99 47 117 3 2 176 102 13 2 110 111 10 2 115 109 1 3 116 101 108 1 2 116 109 25 3 102",
   "97 120 21 3 49 8260 55 1 3 49 8260 57 1 4 49 8260 49 48 1 3 49 8260 51 1 3 50 8260 51 1",
   "3 49 8260 53 1 3 50 8260 53 1 3 51 8260 53 1 3 52 8260 53 1 3 49 8260 54 1 3 53 8260 54",
   "1 3 49 8260 56 1 3 51 8260 56 1 3 53 8260 56 1 3 55 8260 56 1 2 49 8260 2 2 105 105 1 3",
   "105 105 105 1 2 105 118 2 2 118 105 1 3 118 105 105 1 4 118 105 105 105 1 2 105 120 2 2",
   "120 105 1 3 120 105 105 6 2 105 105 1 3 105 105 105 1 2 105 118 2 2 118 105 1 3 118 105",
   "105 1 4 118 105 105 105 1 2 105 120 2 2 120 105 1 3 120 105 105 14 3 48 8260 51 163 2",
   "8747 8747 1 3 8747 8747 8747 2 2 8750 8750 1 3 8750 8750 8750 569 2 49 48 1 2 49 49 1 2",
   "49 50 1 2 49 51 1 2 49 52 1 2 49 53 1 2 49 54 1 2 49 55 1 2 49 56 1 2 49 57 1 2 50 48 1",
   "3 40 49 41 1 3 40 50 41 1 3 40 51 41 1 3 40 52 41 1 3 40 53 41 1 3 40 54 41 1 3 40 55 41",
   "1 3 40 56 41 1 3 40 57 41 1 4 40 49 48 41 1 4 40 49 49 41 1 4 40 49 50 41 1 4 40 49 51",
   "41 1 4 40 49 52 41 1 4 40 49 53 41 1 4 40 49 54 41 1 4 40 49 55 41 1 4 40 49 56 41 1 4",
   "40 49 57 41 1 4 40 50 48 41 21 3 40 97 41 1 3 40 98 41 1 3 40 99 41 1 3 40 100 41 1 3 40",
   "101 41 1 3 40 102 41 1 3 40 103 41 1 3 40 104 41 1 3 40 105 41 1 3 40 106 41 1 3 40 107",
   "41 1 3 40 108 41 1 3 40 109 41 1 3 40 110 41 1 3 40 111 41 1 3 40 112 41 1 3 40 113 41 1",
   "3 40 114 41 1 3 40 115 41 1 3 40 116 41 1 3 40 117 41 1 3 40 118 41 1 3 40 119 41 1 3 40",
   "120 41 1 3 40 121 41 1 3 40 122 41 1367 4 8747 8747 8747 8747 104 3 58 58 61 1 2 61 61 1",
   "3 61 61 61 102 2 10973 824 1471 2 32 12441 1 2 32 12442 3 2 12424 12426 96 2 12467 12488",
   "257 3 40 4352 41 1 3 40 4354 41 1 3 40 4355 41 1 3 40 4357 41 1 3 40 4358 41 1 3 40 4359",
   "41 1 3 40 4361 41 1 3 40 4363 41 1 3 40 4364 41 1 3 40 4366 41 1 3 40 4367 41 1 3 40",
   "4368 41 1 3 40 4369 41 1 3 40 4370 41 1 3 40 44032 41 1 3 40 45208 41 1 3 40 45796 41 1",
   "3 40 46972 41 1 3 40 47560 41 1 3 40 48148 41 1 3 40 49324 41 1 3 40 50500 41 1 3 40",
   "51088 41 1 3 40 52264 41 1 3 40 52852 41 1 3 40 53440 41 1 3 40 54028 41 1 3 40 54616 41",
   "1 3 40 51452 41 1 4 40 50724 51204 41 1 4 40 50724 54980 41 2 3 40 19968 41 1 3 40 20108",
   "41 1 3 40 19977 41 1 3 40 22235 41 1 3 40 20116 41 1 3 40 20845 41 1 3 40 19971 41 1 3",
   "40 20843 41 1 3 40 20061 41 1 3 40 21313 41 1 3 40 26376 41 1 3 40 28779 41 1 3 40 27700",
   "41 1 3 40 26408 41 1 3 40 37329 41 1 3 40 22303 41 1 3 40 26085 41 1 3 40 26666 41 1 3",
   "40 26377 41 1 3 40 31038 41 1 3 40 21517 41 1 3 40 29305 41 1 3 40 36001 41 1 3 40 31069",
   "41 1 3 40 21172 41 1 3 40 20195 41 1 3 40 21628 41 1 3 40 23398 41 1 3 40 30435 41 1 3",
   "40 20225 41 1 3 40 36039 41 1 3 40 21332 41 1 3 40 31085 41 1 3 40 20241 41 1 3 40 33258",
   "41 1 3 40 33267 41 13 3 112 116 101 1 2 50 49 1 2 50 50 1 2 50 51 1 2 50 52 1 2 50 53 1",
   "2 50 54 1 2 50 55 1 2 50 56 1 2 50 57 1 2 51 48 1 2 51 49 1 2 51 50 1 2 51 51 1 2 51 52",
   "1 2 51 53 29 2 52280 44256 1 2 51452 51032 52 2 51 54 1 2 51 55 1 2 51 56 1 2 51 57 1 2",
   "52 48 1 2 52 49 1 2 52 50 1 2 52 51 1 2 52 52 1 2 52 53 1 2 52 54 1 2 52 55 1 2 52 56 1",
   "2 52 57 1 2 53 48 1 2 49 26376 1 2 50 26376 1 2 51 26376 1 2 52 26376 1 2 53 26376 1 2",
   "54 26376 1 2 55 26376 1 2 56 26376 1 2 57 26376 1 3 49 48 26376 1 3 49 49 26376 1 3 49",
   "50 26376 1 2 104 103 1 3 101 114 103 1 2 101 118 1 3 108 116 100 48 2 20196 21644 1 4",
   "12450 12497 12540 12488 1 4 12450 12523 12501 12449 1 4 12450 12531 12506 12450 1 3",
   "12450 12540 12523 1 4 12452 12491 12531 12464 1 3 12452 12531 12481 1 3 12454 12457",
   "12531 1 5 12456 12473 12463 12540 12489 1 4 12456 12540 12459 12540 1 3 12458 12531",
   "12473 1 3 12458 12540 12512 1 3 12459 12452 12522 1 4 12459 12521 12483 12488 1 4 12459",
   "12525 12522 12540 1 3 12460 12525 12531 1 3 12460 12531 12510 1 2 12462 12460 1 3 12462",
   "12491 12540 1 4 12461 12517 12522 12540 1 4 12462 12523 12480 12540 1 2 12461 12525 1 5",
   "12461 12525 12464 12521 12512 1 6 12461 12525 12513 12540 12488 12523 1 5 12461 12525",
   "12527 12483 12488 1 3 12464 12521 12512 1 5 12464 12521 12512 12488 12531 1 5 12463",
   "12523 12476 12452 12525 1 4 12463 12525 12540 12493 1 3 12465 12540 12473 1 3 12467",
   "12523 12490 1 3 12467 12540 12509 1 4 12469 12452 12463 12523 1 5 12469 12531 12481",
   "12540 12512 1 4 12471 12522 12531 12464 1 3 12475 12531 12481 1 3 12475 12531 12488 1 3",
   "12480 12540 12473 1 2 12487 12471 1 2 12489 12523 1 2 12488 12531 1 2 12490 12494 1 3",
   "12494 12483 12488 1 3 12495 12452 12484 1 5 12497 12540 12475 12531 12488 1 3 12497",
   "12540 12484 1 4 12496 12540 12524 12523 1 5 12500 12450 12473 12488 12523 1 3 12500",
   "12463 12523 1 2 12500 12467 1 2 12499 12523 1 5 12501 12449 12521 12483 12489 1 4 12501",
   "12451 12540 12488 1 5 12502 12483 12471 12455 12523 1 3 12501 12521 12531 1 5 12504",
   "12463 12479 12540 12523 1 2 12506 12477 1 3 12506 12491 12498 1 3 12504 12523 12484 1 3",
   "12506 12531 12473 1 3 12506 12540 12472 1 3 12505 12540 12479 1 4 12509 12452 12531",
   "12488 1 3 12508 12523 12488 1 2 12507 12531 1 3 12509 12531 12489 1 3 12507 12540 12523",
   "1 3 12507 12540 12531 1 4 12510 12452 12463 12525 1 3 12510 12452 12523 1 3 12510 12483",
   "12495 1 3 12510 12523 12463 1 5 12510 12531 12471 12519 12531 1 4 12511 12463 12525",
   "12531 1 2 12511 12522 1 5 12511 12522 12496 12540 12523 1 2 12513 12460 1 4 12513 12460",
   "12488 12531 1 4 12513 12540 12488 12523 1 3 12516 12540 12489 1 3 12516 12540 12523 1 3",
   "12518 12450 12531 1 4 12522 12483 12488 12523 1 2 12522 12521 1 3 12523 12500 12540 1 4",
   "12523 12540 12502 12523 1 2 12524 12512 1 5 12524 12531 12488 12466 12531 1 3 12527",
   "12483 12488 1 2 48 28857 1 2 49 28857 1 2 50 28857 1 2 51 28857 1 2 52 28857 1 2 53",
   "28857 1 2 54 28857 1 2 55 28857 1 2 56 28857 1 2 57 28857 1 3 49 48 28857 1 3 49 49",
   "28857 1 3 49 50 28857 1 3 49 51 28857 1 3 49 52 28857 1 3 49 53 28857 1 3 49 54 28857 1",
   "3 49 55 28857 1 3 49 56 28857 1 3 49 57 28857 1 3 50 48 28857 1 3 50 49 28857 1 3 50 50",
   "28857 1 3 50 51 28857 1 3 50 52 28857 1 3 104 112 97 1 2 100 97 1 2 97 117 1 3 98 97 114",
   "1 2 111 118 1 2 112 99 1 2 100 109 1 3 100 109 50 1 3 100 109 51 1 2 105 117 1 2 24179",
   "25104 1 2 26157 21644 1 2 22823 27491 1 2 26126 27835 1 4 26666 24335 20250 31038 1 2",
   "112 97 1 2 110 97 1 2 956 97 1 2 109 97 1 2 107 97 1 2 107 98 1 2 109 98 1 2 103 98 1 3",
   "99 97 108 1 4 107 99 97 108 1 2 112 102 1 2 110 102 1 2 956 102 1 2 956 103 1 2 109 103",
   "1 2 107 103 1 2 104 122 1 3 107 104 122 1 3 109 104 122 1 3 103 104 122 1 3 116 104 122",
   "1 2 956 108 1 2 109 108 1 2 100 108 1 2 107 108 1 2 102 109 1 2 110 109 1 2 956 109 1 2",
   "109 109 1 2 99 109 1 2 107 109 1 3 109 109 50 1 3 99 109 50 1 2 109 50 1 3 107 109 50 1",
   "3 109 109 51 1 3 99 109 51 1 2 109 51 1 3 107 109 51 1 3 109 8725 115 1 4 109 8725 115",
   "50 1 2 112 97 1 3 107 112 97 1 3 109 112 97 1 3 103 112 97 1 3 114 97 100 1 5 114 97 100",
   "8725 115 1 6 114 97 100 8725 115 50 1 2 112 115 1 2 110 115 1 2 956 115 1 2 109 115 1 2",
   "112 118 1 2 110 118 1 2 956 118 1 2 109 118 1 2 107 118 1 2 109 118 1 2 112 119 1 2 110",
   "119 1 2 956 119 1 2 109 119 1 2 107 119 1 2 109 119 1 2 107 969 1 2 109 969 2 2 98 113 1",
   "2 99 99 1 2 99 100 1 4 99 8725 107 103 2 2 100 98 1 2 103 121 1 2 104 97 1 2 104 112 1 2",
   "105 110 1 2 107 107 1 2 107 109 1 2 107 116 1 2 108 109 1 2 108 110 1 3 108 111 103 1 2",
   "108 120 1 2 109 98 1 3 109 105 108 1 3 109 111 108 1 2 112 104 2 3 112 112 109 1 2 112",
   "114 1 2 115 114 1 2 115 118 1 2 119 98 1 3 118 8725 109 1 3 97 8725 109 1 2 49 26085 1 2",
   "50 26085 1 2 51 26085 1 2 52 26085 1 2 53 26085 1 2 54 26085 1 2 55 26085 1 2 56 26085 1",
   "2 57 26085 1 3 49 48 26085 1 3 49 49 26085 1 3 49 50 26085 1 3 49 51 26085 1 3 49 52",
   "26085 1 3 49 53 26085 1 3 49 54 26085 1 3 49 55 26085 1 3 49 56 26085 1 3 49 57 26085 1",
   "3 50 48 26085 1 3 50 49 26085 1 3 50 50 26085 1 3 50 51 26085 1 3 50 52 26085 1 3 50 53",
   "26085 1 3 50 54 26085 1 3 50 55 26085 1 3 50 56 26085 1 3 50 57 26085 1 3 51 48 26085 1",
   "3 51 49 26085 1 3 103 97 108 50945 2 102 102 1 2 102 105 1 2 102 108 1 3 102 102 105 1 3",
   "102 102 108 1 2 115 116 1 2 115 116 13 2 1396 1398 1 2 1396 1381 1 2 1396 1387 1 2 1406",
   "1398 1 2 1396 1389 6 2 1497 1460 2 2 1522 1463 11 2 1513 1473 1 2 1513 1474 1 3 1513",
   "1468 1473 1 3 1513 1468 1474 1 2 1488 1463 1 2 1488 1464 1 2 1488 1468 1 2 1489 1468 1 2",
   "1490 1468 1 2 1491 1468 1 2 1492 1468 1 2 1493 1468 1 2 1494 1468 2 2 1496 1468 1 2 1497",
   "1468 1 2 1498 1468 1 2 1499 1468 1 2 1500 1468 2 2 1502 1468 2 2 1504 1468 1 2 1505 1468",
   "2 2 1507 1468 1 2 1508 1468 2 2 1510 1468 1 2 1511 1468 1 2 1512 1468 1 2 1513 1468 1 2",
   "1514 1468 1 2 1493 1465 1 2 1489 1471 1 2 1499 1471 1 2 1508 1471 1 2 1488 1500 142 2",
   "1735 1652 13 2 1574 1575 1 2 1574 1575 1 2 1574 1749 1 2 1574 1749 1 2 1574 1608 1 2",
   "1574 1608 1 2 1574 1735 1 2 1574 1735 1 2 1574 1734 1 2 1574 1734 1 2 1574 1736 1 2 1574",
   "1736 1 2 1574 1744 1 2 1574 1744 1 2 1574 1744 1 2 1574 1609 1 2 1574 1609 1 2 1574 1609",
   "5 2 1574 1580 1 2 1574 1581 1 2 1574 1605 1 2 1574 1609 1 2 1574 1610 1 2 1576 1580 1 2",
   "1576 1581 1 2 1576 1582 1 2 1576 1605 1 2 1576 1609 1 2 1576 1610 1 2 1578 1580 1 2 1578",
   "1581 1 2 1578 1582 1 2 1578 1605 1 2 1578 1609 1 2 1578 1610 1 2 1579 1580 1 2 1579 1605",
   "1 2 1579 1609 1 2 1579 1610 1 2 1580 1581 1 2 1580 1605 1 2 1581 1580 1 2 1581 1605 1 2",
   "1582 1580 1 2 1582 1581 1 2 1582 1605 1 2 1587 1580 1 2 1587 1581 1 2 1587 1582 1 2 1587",
   "1605 1 2 1589 1581 1 2 1589 1605 1 2 1590 1580 1 2 1590 1581 1 2 1590 1582 1 2 1590 1605",
   "1 2 1591 1581 1 2 1591 1605 1 2 1592 1605 1 2 1593 1580 1 2 1593 1605 1 2 1594 1580 1 2",
   "1594 1605 1 2 1601 1580 1 2 1601 1581 1 2 1601 1582 1 2 1601 1605 1 2 1601 1609 1 2 1601",
   "1610 1 2 1602 1581 1 2 1602 1605 1 2 1602 1609 1 2 1602 1610 1 2 1603 1575 1 2 1603 1580",
   "1 2 1603 1581 1 2 1603 1582 1 2 1603 1604 1 2 1603 1605 1 2 1603 1609 1 2 1603 1610 1 2",
   "1604 1580 1 2 1604 1581 1 2 1604 1582 1 2 1604 1605 1 2 1604 1609 1 2 1604 1610 1 2 1605",
   "1580 1 2 1605 1581 1 2 1605 1582 1 2 1605 1605 1 2 1605 1609 1 2 1605 1610 1 2 1606 1580",
   "1 2 1606 1581 1 2 1606 1582 1 2 1606 1605 1 2 1606 1609 1 2 1606 1610 1 2 1607 1580 1 2",
   "1607 1605 1 2 1607 1609 1 2 1607 1610 1 2 1610 1580 1 2 1610 1581 1 2 1610 1582 1 2 1610",
   "1605 1 2 1610 1609 1 2 1610 1610 1 2 1584 1648 1 2 1585 1648 1 2 1609 1648 1 3 32 1612",
   "1617 1 3 32 1613 1617 1 3 32 1614 1617 1 3 32 1615 1617 1 3 32 1616 1617 1 3 32 1617",
   "1648 1 2 1574 1585 1 2 1574 1586 1 2 1574 1605 1 2 1574 1606 1 2 1574 1609 1 2 1574 1610",
   "1 2 1576 1585 1 2 1576 1586 1 2 1576 1605 1 2 1576 1606 1 2 1576 1609 1 2 1576 1610 1 2",
   "1578 1585 1 2 1578 1586 1 2 1578 1605 1 2 1578 1606 1 2 1578 1609 1 2 1578 1610 1 2 1579",
   "1585 1 2 1579 1586 1 2 1579 1605 1 2 1579 1606 1 2 1579 1609 1 2 1579 1610 1 2 1601 1609",
   "1 2 1601 1610 1 2 1602 1609 1 2 1602 1610 1 2 1603 1575 1 2 1603 1604 1 2 1603 1605 1 2",
   "1603 1609 1 2 1603 1610 1 2 1604 1605 1 2 1604 1609 1 2 1604 1610 1 2 1605 1575 1 2 1605",
   "1605 1 2 1606 1585 1 2 1606 1586 1 2 1606 1605 1 2 1606 1606 1 2 1606 1609 1 2 1606 1610",
   "1 2 1609 1648 1 2 1610 1585 1 2 1610 1586 1 2 1610 1605 1 2 1610 1606 1 2 1610 1609 1 2",
   "1610 1610 1 2 1574 1580 1 2 1574 1581 1 2 1574 1582 1 2 1574 1605 1 2 1574 1607 1 2 1576",
   "1580 1 2 1576 1581 1 2 1576 1582 1 2 1576 1605 1 2 1576 1607 1 2 1578 1580 1 2 1578 1581",
   "1 2 1578 1582 1 2 1578 1605 1 2 1578 1607 1 2 1579 1605 1 2 1580 1581 1 2 1580 1605 1 2",
   "1581 1580 1 2 1581 1605 1 2 1582 1580 1 2 1582 1605 1 2 1587 1580 1 2 1587 1581 1 2 1587",
   "1582 1 2 1587 1605 1 2 1589 1581 1 2 1589 1582 1 2 1589 1605 1 2 1590 1580 1 2 1590 1581",
   "1 2 1590 1582 1 2 1590 1605 1 2 1591 1581 1 2 1592 1605 1 2 1593 1580 1 2 1593 1605 1 2",
   "1594 1580 1 2 1594 1605 1 2 1601 1580 1 2 1601 1581 1 2 1601 1582 1 2 1601 1605 1 2 1602",
   "1581 1 2 1602 1605 1 2 1603 1580 1 2 1603 1581 1 2 1603 1582 1 2 1603 1604 1 2 1603 1605",
   "1 2 1604 1580 1 2 1604 1581 1 2 1604 1582 1 2 1604 1605 1 2 1604 1607 1 2 1605 1580 1 2",
   "1605 1581 1 2 1605 1582 1 2 1605 1605 1 2 1606 1580 1 2 1606 1581 1 2 1606 1582 1 2 1606",
   "1605 1 2 1606 1607 1 2 1607 1580 1 2 1607 1605 1 2 1607 1648 1 2 1610 1580 1 2 1610 1581",
   "1 2 1610 1582 1 2 1610 1605 1 2 1610 1607 1 2 1574 1605 1 2 1574 1607 1 2 1576 1605 1 2",
   "1576 1607 1 2 1578 1605 1 2 1578 1607 1 2 1579 1605 1 2 1579 1607 1 2 1587 1605 1 2 1587",
   "1607 1 2 1588 1605 1 2 1588 1607 1 2 1603 1604 1 2 1603 1605 1 2 1604 1605 1 2 1606 1605",
   "1 2 1606 1607 1 2 1610 1605 1 2 1610 1607 1 3 1600 1614 1617 1 3 1600 1615 1617 1 3 1600",
   "1616 1617 1 2 1591 1609 1 2 1591 1610 1 2 1593 1609 1 2 1593 1610 1 2 1594 1609 1 2 1594",
   "1610 1 2 1587 1609 1 2 1587 1610 1 2 1588 1609 1 2 1588 1610 1 2 1581 1609 1 2 1581 1610",
   "1 2 1580 1609 1 2 1580 1610 1 2 1582 1609 1 2 1582 1610 1 2 1589 1609 1 2 1589 1610 1 2",
   "1590 1609 1 2 1590 1610 1 2 1588 1580 1 2 1588 1581 1 2 1588 1582 1 2 1588 1605 1 2 1588",
   "1585 1 2 1587 1585 1 2 1589 1585 1 2 1590 1585 1 2 1591 1609 1 2 1591 1610 1 2 1593 1609",
   "1 2 1593 1610 1 2 1594 1609 1 2 1594 1610 1 2 1587 1609 1 2 1587 1610 1 2 1588 1609 1 2",
   "1588 1610 1 2 1581 1609 1 2 1581 1610 1 2 1580 1609 1 2 1580 1610 1 2 1582 1609 1 2 1582",
   "1610 1 2 1589 1609 1 2 1589 1610 1 2 1590 1609 1 2 1590 1610 1 2 1588 1580 1 2 1588 1581",
   "1 2 1588 1582 1 2 1588 1605 1 2 1588 1585 1 2 1587 1585 1 2 1589 1585 1 2 1590 1585 1 2",
   "1588 1580 1 2 1588 1581 1 2 1588 1582 1 2 1588 1605 1 2 1587 1607 1 2 1588 1607 1 2 1591",
   "1605 1 2 1587 1580 1 2 1587 1581 1 2 1587 1582 1 2 1588 1580 1 2 1588 1581 1 2 1588 1582",
   "1 2 1591 1605 1 2 1592 1605 1 2 1575 1611 1 2 1575 1611 19 3 1578 1580 1605 1 3 1578",
   "1581 1580 1 3 1578 1581 1580 1 3 1578 1581 1605 1 3 1578 1582 1605 1 3 1578 1605 1580 1",
   "3 1578 1605 1581 1 3 1578 1605 1582 1 3 1580 1605 1581 1 3 1580 1605 1581 1 3 1581 1605",
   "1610 1 3 1581 1605 1609 1 3 1587 1581 1580 1 3 1587 1580 1581 1 3 1587 1580 1609 1 3",
   "1587 1605 1581 1 3 1587 1605 1581 1 3 1587 1605 1580 1 3 1587 1605 1605 1 3 1587 1605",
   "1605 1 3 1589 1581 1581 1 3 1589 1581 1581 1 3 1589 1605 1605 1 3 1588 1581 1605 1 3",
   "1588 1581 1605 1 3 1588 1580 1610 1 3 1588 1605 1582 1 3 1588 1605 1582 1 3 1588 1605",
   "1605 1 3 1588 1605 1605 1 3 1590 1581 1609 1 3 1590 1582 1605 1 3 1590 1582 1605 1 3",
   "1591 1605 1581 1 3 1591 1605 1581 1 3 1591 1605 1605 1 3 1591 1605 1610 1 3 1593 1580",
   "1605 1 3 1593 1605 1605 1 3 1593 1605 1605 1 3 1593 1605 1609 1 3 1594 1605 1605 1 3",
   "1594 1605 1610 1 3 1594 1605 1609 1 3 1601 1582 1605 1 3 1601 1582 1605 1 3 1602 1605",
   "1581 1 3 1602 1605 1605 1 3 1604 1581 1605 1 3 1604 1581 1610 1 3 1604 1581 1609 1 3",
   "1604 1580 1580 1 3 1604 1580 1580 1 3 1604 1582 1605 1 3 1604 1582 1605 1 3 1604 1605",
   "1581 1 3 1604 1605 1581 1 3 1605 1581 1580 1 3 1605 1581 1605 1 3 1605 1581 1610 1 3",
   "1605 1580 1581 1 3 1605 1580 1605 1 3 1605 1582 1580 1 3 1605 1582 1605 3 3 1605 1580",
   "1582 1 3 1607 1605 1580 1 3 1607 1605 1605 1 3 1606 1581 1605 1 3 1606 1581 1609 1 3",
   "1606 1580 1605 1 3 1606 1580 1605 1 3 1606 1580 1609 1 3 1606 1605 1610 1 3 1606 1605",
   "1609 1 3 1610 1605 1605 1 3 1610 1605 1605 1 3 1576 1582 1610 1 3 1578 1580 1610 1 3",
   "1578 1580 1609 1 3 1578 1582 1610 1 3 1578 1582 1609 1 3 1578 1605 1610 1 3 1578 1605",
   "1609 1 3 1580 1605 1610 1 3 1580 1581 1609 1 3 1580 1605 1609 1 3 1587 1582 1609 1 3",
   "1589 1581 1610 1 3 1588 1581 1610 1 3 1590 1581 1610 1 3 1604 1580 1610 1 3 1604 1605",
   "1610 1 3 1610 1581 1610 1 3 1610 1580 1610 1 3 1610 1605 1610 1 3 1605 1605 1610 1 3",
   "1602 1605 1610 1 3 1606 1581 1610 1 3 1602 1605 1581 1 3 1604 1581 1605 1 3 1593 1605",
   "1610 1 3 1603 1605 1610 1 3 1606 1580 1581 1 3 1605 1582 1610 1 3 1604 1580 1605 1 3",
   "1603 1605 1605 1 3 1604 1580 1605 1 3 1606 1580 1581 1 3 1580 1581 1610 1 3 1581 1580",
   "1610 1 3 1605 1580 1610 1 3 1601 1605 1610 1 3 1576 1581 1610 1 3 1603 1605 1605 1 3",
   "1593 1580 1605 1 3 1589 1605 1605 1 3 1587 1582 1610 1 3 1606 1580 1610 41 3 1589 1604",
   "1746 1 3 1602 1604 1746 1 4 1575 1604 1604 1607 1 4 1575 1603 1576 1585 1 4 1605 1581",
   "1605 1583 1 4 1589 1604 1593 1605 1 4 1585 1587 1608 1604 1 4 1593 1604 1610 1607 1 4",
   "1608 1587 1604 1605 1 3 1589 1604 1609 1 18 1589 1604 1609 32 1575 1604 1604 1607 32",
   "1593 1604 1610 1607 32 1608 1587 1604 1605 1 8 1580 1604 32 1580 1604 1575 1604 1607 1 4",
   "1585 1740 1575 1604 77 2 32 773 1 2 32 773 1 2 32 773 1 2 32 773 36 2 32 1611 1 2 1600",
   "1611 1 2 32 1612 2 2 32 1613 2 2 32 1614 1 2 1600 1614 1 2 32 1615 1 2 1600 1615 1 2 32",
   "1616 1 2 1600 1616 1 2 32 1617 1 2 1600 1617 1 2 32 1618 1 2 1600 1618 118 2 1604 1570 1",
   "2 1604 1570 1 2 1604 1571 1 2 1604 1571 1 2 1604 1573 1 2 1604 1573 1 2 1604 1575 1 2",
   "1604 1575 231 2 32 772 53627 2 119127 119141 1 2 119128 119141 1 3 119128 119141 119150",
   "1 3 119128 119141 119151 1 3 119128 119141 119152 1 3 119128 119141 119153 1 3 119128",
   "119141 119154 87 2 119225 119141 1 2 119226 119141 1 3 119225 119141 119150 1 3 119226",
   "119141 119150 1 3 119225 119141 119151 1 3 119226 119141 119151 8001 2 48 44 1 2 49 44 1",
   "2 50 44 1 2 51 44 1 2 52 44 1 2 53 44 1 2 54 44 1 2 55 44 1 2 56 44 1 2 57 44 6 3 40 97",
   "41 1 3 40 98 41 1 3 40 99 41 1 3 40 100 41 1 3 40 101 41 1 3 40 102 41 1 3 40 103 41 1 3",
   "40 104 41 1 3 40 105 41 1 3 40 106 41 1 3 40 107 41 1 3 40 108 41 1 3 40 109 41 1 3 40",
   "110 41 1 3 40 111 41 1 3 40 112 41 1 3 40 113 41 1 3 40 114 41 1 3 40 115 41 1 3 40 116",
   "41 1 3 40 117 41 1 3 40 118 41 1 3 40 119 41 1 3 40 120 41 1 3 40 121 41 1 3 40 122 41 1",
   "3 12308 115 12309 3 2 99 100 1 2 119 122 28 2 104 118 1 2 109 118 1 2 115 100 1 2 115",
   "115 1 3 112 112 118 1 2 119 99 27 2 109 99 1 2 109 100 1 2 109 114 36 2 100 106 112 2",
   "12411 12363 1 2 12467 12467 63 3 12308 26412 12309 1 3 12308 19977 12309 1 3 12308 20108",
   "12309 1 3 12308 23433 12309 1 3 12308 28857 12309 1 3 12308 25171 12309 1 3 12308 30423",
   "12309 1 3 12308 21213 12309 1 3 12308 25943 12309"]

/-- The text that stands for a character in a domain name, or nothing when a domain name cannot
have it. -/
def mapChar (c : Char) : Option (List Char) :=
  if c.toNat < 128 then some [c.toLower]
  else if !allowedSet.contains c then none
  else if ignoredSet.contains c then some []
  else some ((replacements.find? c).getD [c])

def mapText (text : List Char) : Option (List Char) :=
  (text.mapM mapChar).map List.flatten

/-- Whether the mapping leaves a character alone. -/
def isValid (c : Char) : Bool :=
  mapChar c == some [c]

/-- The ASCII characters that a domain name must not contain: controls, blanks and the
characters with a meaning of their own in an address. -/
def isDenied (c : Char) : Bool :=
  c.toNat ≤ 32 || c.toNat == 127 || "%#/:<>?@[\\]^|".toList.contains c

end TypedEnv.Domain
