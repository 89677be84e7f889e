import TypedEnv.Text.Table

/-!
# Letter case

The Lowercase and Uppercase properties of Unicode and the full case mappings
that do not look at neighbouring characters.  A character may become several:
`ß` in upper case is `SS`.
-/

namespace TypedEnv.Text

/-- The lower case characters beyond ASCII. -/
def lowercaseSet : CharSet := .ofGaps
  ["170 1 10 1 4 1 36 24 1 8 1 1 1 1 1 1 1 1 1 1 1 1 1 1 1 1 1 1 1 1 1 1 1 1 1 1 1 1 1 1 1 1",
   "1 1 1 1 1 1 1 1 1 1 1 1 1 1 1 1 1 1 1 1 1 1 1 2 1 1 1 1 1 1 1 1 1 1 1 1 1 1 1 2 1 1 1 1",
   "1 1 1 1 1 1 1 1 1 1 1 1 1 1 1 1 1 1 1 1 1 1 1 1 1 1 1 1 1 1 1 1 1 1 1 1 1 1 1 1 1 1 2 1",
   "1 1 1 3 2 1 1 1 2 1 3 2 4 1 2 1 3 3 2 1 2 1 1 1 1 1 2 1 1 2 1 1 2 1 3 1 1 1 2 2 2 3 6 1",
   "2 1 2 1 1 1 1 1 1 1 1 1 1 1 1 1 1 1 1 2 1 1 1 1 1 1 1 1 1 1 1 1 1 1 1 1 1 2 2 1 1 1 3 1",
   "1 1 1 1 1 1 1 1 1 1 1 1 1 1 1 1 1 1 1 1 1 1 1 1 1 1 1 1 1 1 1 1 1 1 1 1 1 1 1 1 1 1 1 1",
   "1 1 1 1 1 1 1 1 1 1 1 1 1 7 2 1 2 2 1 1 4 1 1 1 1 1 1 1 1 69 2 35 7 2 30 5 96 1 43 1 1 1",
   "3 1 2 4 18 1 27 35 1 2 3 3 1 1 1 1 1 1 1 1 1 1 1 1 1 1 1 1 1 1 1 1 1 1 1 5 1 1 2 1 2 2",
   "51 48 1 1 1 1 1 1 1 1 1 1 1 1 1 1 1 1 1 1 1 1 1 1 1 1 1 1 1 1 1 1 1 1 1 1 9 1 1 1 1 1 1",
   "1 1 1 1 1 1 1 1 1 1 1 1 1 1 1 1 1 1 1 1 1 1 1 1 1 1 1 1 1 1 1 1 1 1 1 1 1 1 1 1 1 1 1 1",
   "1 1 1 2 1 1 1 1 1 1 1 1 1 1 1 1 2 1 1 1 1 1 1 1 1 1 1 1 1 1 1 1 1 1 1 1 1 1 1 1 1 1 1 1",
   "1 1 1 1 1 1 1 1 1 1 1 1 1 1 1 1 1 1 1 1 1 1 1 1 1 1 1 1 1 1 1 1 1 1 1 1 1 1 1 1 1 1 1 1",
   "1 1 1 1 1 1 1 1 1 1 1 1 1 1 1 1 1 1 1 1 1 1 1 1 1 48 41 2887 43 1 4 760 6 2178 9 1 1 117",
   "192 65 1 1 1 1 1 1 1 1 1 1 1 1 1 1 1 1 1 1 1 1 1 1 1 1 1 1 1 1 1 1 1 1 1 1 1 1 1 1 1 1 1",
   "1 1 1 1 1 1 1 1 1 1 1 1 1 1 1 1 1 1 1 1 1 1 1 1 1 1 1 1 1 1 1 1 1 1 1 1 1 1 1 1 1 1 1 1",
   "1 1 1 1 1 1 1 1 1 1 1 1 1 1 1 1 1 1 1 1 1 1 1 1 1 1 1 1 1 1 1 1 1 1 1 1 1 1 1 1 1 1 1 1",
   "1 1 1 1 1 1 1 1 1 1 1 1 1 1 1 1 1 1 1 9 1 1 1 1 1 1 1 1 1 1 1 1 1 1 1 1 1 1 1 1 1 1 1 1",
   "1 1 1 1 1 1 1 1 1 1 1 1 1 1 1 1 1 1 1 1 1 1 1 1 1 1 1 1 1 1 1 1 1 1 1 1 1 1 1 1 1 1 1 1",
   "1 1 1 1 1 1 1 1 1 1 1 1 1 1 1 1 1 1 1 1 1 1 1 1 1 1 1 1 1 9 8 6 10 8 8 8 8 6 10 8 8 8 8",
   "14 2 8 8 8 8 8 8 5 1 2 6 1 3 3 1 2 8 4 2 2 8 8 10 3 1 2 121 1 13 1 16 13 109 1 3 2 3 1",
   "27 1 4 1 4 1 2 2 8 4 4 1 33 16 4 1 843 26 1862 48 1 1 3 2 1 1 1 1 1 1 4 1 1 2 1 8 3 1 1",
   "1 1 1 1 1 1 1 1 1 1 1 1 1 1 1 1 1 1 1 1 1 1 1 1 1 1 1 1 1 1 1 1 1 1 1 1 1 1 1 1 1 1 1 1",
   "1 1 1 1 1 1 1 1 1 1 1 1 1 1 1 1 1 1 1 1 1 1 1 1 1 1 1 1 1 1 1 1 1 1 1 1 1 1 1 1 1 1 1 1",
   "1 1 1 1 1 1 1 1 2 7 1 1 1 4 1 12 38 1 1 5 1 30995 1 1 1 1 1 1 1 1 1 1 1 1 1 1 1 1 1 1 1",
   "1 1 1 1 1 1 1 1 1 1 1 1 1 1 1 1 1 1 1 1 1 1 1 1 1 1 19 1 1 1 1 1 1 1 1 1 1 1 1 1 1 1 1 1",
   "1 1 1 1 1 1 1 1 1 3 133 1 1 1 1 1 1 1 1 1 1 1 1 3 1 1 1 1 1 1 1 1 1 1 1 1 1 1 1 1 1 1 1",
   "1 1 1 1 1 1 1 1 1 1 1 1 1 1 1 1 1 1 1 1 1 1 1 1 1 1 1 1 1 1 1 1 1 1 1 1 1 1 1 1 1 1 10 1",
   "1 1 1 2 1 1 1 1 1 1 1 1 1 4 1 1 1 2 1 1 3 1 1 1 1 1 1 1 1 1 1 1 1 1 1 1 1 1 1 1 1 5 1 5",
   "1 1 1 1 1 1 1 1 1 1 1 1 1 1 1 4 1 1 1 2 1 1 1 1 1 1 1 1 1 1 1 1 1 1 1 21 4 1 1 1 3 821",
   "43 1 14 6 80 20288 7 12 5 1065 26 1229 40 136 36 155 11 1 15 1 7 1 2 451 1 2 3 1 42 1 9",
   "1285 51 125 22 2874 32 21888 32 59 25 25926 26 26 7 1 18 26 26 26 4 1 1 1 7 1 11 26 26",
   "26 26 26 26 26 26 26 26 26 26 26 26 26 26 26 28 28 25 1 6 26 25 1 6 26 25 1 6 26 25 1 6",
   "26 25 1 6 1 1 1844 10 1 20 6 6 261 62 2228 34"]

/-- The upper case characters beyond ASCII. -/
def uppercaseSet : CharSet := .ofGaps
  ["192 23 1 7 33 1 1 1 1 1 1 1 1 1 1 1 1 1 1 1 1 1 1 1 1 1 1 1 1 1 1 1 1 1 1 1 1 1 1 1 1 1",
   "1 1 1 1 1 1 1 1 1 1 1 1 1 1 1 1 1 1 2 1 1 1 1 1 1 1 1 1 1 1 1 1 1 1 2 1 1 1 1 1 1 1 1 1",
   "1 1 1 1 1 1 1 1 1 1 1 1 1 1 1 1 1 1 1 1 1 1 1 1 1 1 1 1 1 1 1 1 1 1 1 1 1 2 1 1 1 1 3 2",
   "1 1 1 2 1 3 2 4 1 2 1 3 3 2 1 2 1 1 1 1 1 2 1 1 2 1 1 2 1 3 1 1 1 2 3 1 7 1 2 1 2 1 2 1",
   "1 1 1 1 1 1 1 1 1 1 1 1 1 1 2 1 1 1 1 1 1 1 1 1 1 1 1 1 1 1 1 1 2 1 2 1 1 3 1 1 1 1 1 1",
   "1 1 1 1 1 1 1 1 1 1 1 1 1 1 1 1 1 1 1 1 1 1 1 1 1 1 1 1 1 1 1 1 1 1 1 1 1 1 1 1 1 1 1 1",
   "1 1 1 1 1 1 1 1 7 2 1 2 2 1 1 4 1 1 1 1 1 1 1 1 289 1 1 1 3 1 8 1 6 1 1 3 1 1 1 2 1 17 1",
   "9 35 1 2 3 3 1 1 1 1 1 1 1 1 1 1 1 1 1 1 1 1 1 1 1 1 1 1 1 5 1 2 1 1 2 2 51 48 1 1 1 1 1",
   "1 1 1 1 1 1 1 1 1 1 1 1 1 1 1 1 1 1 1 1 1 1 1 1 1 1 1 1 9 1 1 1 1 1 1 1 1 1 1 1 1 1 1 1",
   "1 1 1 1 1 1 1 1 1 1 1 1 1 1 1 1 1 1 1 1 1 1 1 1 1 1 1 1 1 1 1 1 1 1 1 1 1 1 1 2 1 1 1 1",
   "1 1 1 1 1 1 1 1 2 1 1 1 1 1 1 1 1 1 1 1 1 1 1 1 1 1 1 1 1 1 1 1 1 1 1 1 1 1 1 1 1 1 1 1",
   "1 1 1 1 1 1 1 1 1 1 1 1 1 1 1 1 1 1 1 1 1 1 1 1 1 1 1 1 1 1 1 1 1 1 1 1 1 1 1 1 1 1 1 1",
   "1 1 1 1 1 1 1 1 1 1 1 1 1 1 1 1 2 38 2889 38 1 1 5 1 722 86 2195 1 6 43 2 3 320 1 1 1 1",
   "1 1 1 1 1 1 1 1 1 1 1 1 1 1 1 1 1 1 1 1 1 1 1 1 1 1 1 1 1 1 1 1 1 1 1 1 1 1 1 1 1 1 1 1",
   "1 1 1 1 1 1 1 1 1 1 1 1 1 1 1 1 1 1 1 1 1 1 1 1 1 1 1 1 1 1 1 1 1 1 1 1 1 1 1 1 1 1 1 1",
   "1 1 1 1 1 1 1 1 1 1 1 1 1 1 1 1 1 1 1 1 1 1 1 1 1 1 1 1 1 1 1 1 1 1 1 1 1 1 1 1 1 1 1 1",
   "1 1 1 1 1 1 1 1 1 1 1 1 1 9 1 1 1 1 1 1 1 1 1 1 1 1 1 1 1 1 1 1 1 1 1 1 1 1 1 1 1 1 1 1",
   "1 1 1 1 1 1 1 1 1 1 1 1 1 1 1 1 1 1 1 1 1 1 1 1 1 1 1 1 1 1 1 1 1 1 1 1 1 1 1 1 1 1 1 1",
   "1 1 1 1 1 1 1 1 1 1 1 1 1 1 1 1 1 1 1 1 1 1 1 9 8 8 6 10 8 8 8 8 6 11 1 1 1 1 1 1 1 8 8",
   "72 4 12 4 12 4 12 5 11 4 262 1 4 1 3 3 2 3 2 1 3 5 6 1 1 1 1 1 1 4 2 4 10 2 5 1 26 16 19",
   "1 818 26 1840 48 48 1 1 3 2 1 1 1 1 1 1 4 1 1 2 1 8 3 1 1 1 1 1 1 1 1 1 1 1 1 1 1 1 1 1",
   "1 1 1 1 1 1 1 1 1 1 1 1 1 1 1 1 1 1 1 1 1 1 1 1 1 1 1 1 1 1 1 1 1 1 1 1 1 1 1 1 1 1 1 1",
   "1 1 1 1 1 1 1 1 1 1 1 1 1 1 1 1 1 1 1 1 1 1 1 1 1 1 1 1 1 1 1 1 1 1 1 1 1 8 1 1 1 4 1",
   "31053 1 1 1 1 1 1 1 1 1 1 1 1 1 1 1 1 1 1 1 1 1 1 1 1 1 1 1 1 1 1 1 1 1 1 1 1 1 1 1 1 1",
   "1 1 1 1 19 1 1 1 1 1 1 1 1 1 1 1 1 1 1 1 1 1 1 1 1 1 1 1 1 1 1 1 135 1 1 1 1 1 1 1 1 1 1",
   "1 1 1 3 1 1 1 1 1 1 1 1 1 1 1 1 1 1 1 1 1 1 1 1 1 1 1 1 1 1 1 1 1 1 1 1 1 1 1 1 1 1 1 1",
   "1 1 1 1 1 1 1 1 1 1 1 1 1 1 1 1 1 1 1 1 1 10 1 1 1 1 2 1 1 1 1 1 1 1 1 4 1 1 1 2 1 1 1 3",
   "1 1 1 1 1 1 1 1 1 1 1 1 1 1 1 1 1 1 1 1 5 1 5 1 1 1 1 1 1 1 1 1 1 1 1 1 1 1 4 1 1 1 2 1",
   "1 1 1 1 1 1 1 1 1 1 1 1 1 1 1 24 1 22315 26 1221 40 136 36 156 11 1 15 1 7 1 2 1770 51",
   "157 22 2874 32 21888 32 64 25 25927 26 26 26 26 26 26 1 1 2 2 1 2 2 2 4 1 8 26 26 26 2 1",
   "4 2 8 1 7 27 2 1 4 1 5 1 1 3 7 27 26 26 26 26 26 26 26 26 26 26 26 30 25 33 25 33 25 33",
   "25 33 25 33 1 4405 34 2062 26 6 26 6 26"]

/-- The characters beyond ASCII that change in lower case. -/
def lowercaseMap : CharMap := .ofRows
  ["192 23 1 32 24 7 1 32 40 24 2 1 50 3 2 1 7 8 2 1 17 23 2 1 46 1 1 -121 1 3 2 1 8 1 1 210",
   "1 2 2 1 4 1 1 206 1 1 1 1 2 2 1 205 2 1 1 1 3 1 1 79 1 1 1 202 1 1 1 203 1 1 1 1 2 1 1",
   "205 1 1 1 207 2 1 1 211 1 1 1 209 1 1 1 1 4 1 1 211 1 1 1 213 2 1 1 214 1 3 2 1 6 1 1",
   "218 1 1 1 1 2 1 1 218 3 1 1 1 2 1 1 218 1 1 1 1 2 2 1 217 2 2 2 1 4 1 1 219 1 1 1 1 4 1",
   "1 1 8 1 1 2 1 1 1 1 2 1 1 2 1 1 1 1 2 1 1 2 1 9 2 1 19 9 2 1 19 1 1 2 1 2 2 1 4 1 1 -97",
   "1 1 1 -56 1 20 2 1 40 1 1 -130 2 9 2 1 24 1 1 10795 1 1 1 1 2 1 1 -163 1 1 1 10792 3 1 1",
   "1 2 1 1 -195 1 1 1 69 1 1 1 71 1 5 2 1 298 2 2 1 6 1 1 1 9 1 1 116 7 1 1 38 2 3 1 37 4 1",
   "1 64 2 2 1 63 3 17 1 32 18 9 1 32 44 1 1 8 9 12 2 1 28 1 1 -60 3 1 1 1 2 1 1 -7 1 1 1 1",
   "3 3 1 -130 3 16 1 80 16 32 1 32 80 17 2 1 42 27 2 1 54 1 1 15 1 7 2 1 15 48 2 1 97 38 1",
   "48 2927 38 1 7264 39 1 1 7264 6 1 1 7264 723 80 1 38864 80 6 1 8 2201 1 1 1 7 43 1 -3008",
   "45 3 1 -3008 323 75 2 1 158 1 1 -7615 2 48 2 1 104 8 1 -8 16 6 1 -8 16 8 1 -8 16 8 1 -8",
   "16 6 1 -8 17 4 2 -8 15 8 1 -8 32 8 1 -8 16 8 1 -8 16 8 1 -8 16 2 1 -8 2 2 1 -74 2 1 1 -9",
   "12 4 1 -86 4 1 1 -9 12 2 1 -8 2 2 1 -100 14 2 1 -8 2 2 1 -112 2 1 1 -7 12 2 1 -128 2 2 1",
   "-126 2 1 1 -9 298 1 1 -7517 4 1 1 -8383 1 1 1 -8262 7 1 1 28 46 16 1 16 35 1 1 1 819 26",
   "1 26 1866 48 1 48 96 1 1 1 2 1 1 -10743 1 1 1 -3814 1 1 1 -10727 3 3 2 1 6 1 1 -10780 1",
   "1 1 -10749 1 1 1 -10783 1 1 1 -10782 2 1 1 1 3 1 1 1 9 2 1 -10815 2 50 2 1 107 2 2 1 7 1",
   "1 1 31054 23 2 1 64 14 2 1 162 7 2 1 16 31 2 1 71 2 2 1 4 1 1 -35332 1 5 2 1 13 1 1 1 2",
   "1 1 -42280 3 2 2 1 6 10 2 1 20 1 1 -42308 1 1 1 -42319 1 1 1 -42315 1 1 1 -42305 1 1 1",
   "-42308 2 1 1 -42258 1 1 1 -42282 1 1 1 -42261 1 1 1 928 1 8 2 1 16 1 1 -48 1 1 1 -42307",
   "1 1 1 -35384 1 2 2 1 4 1 1 -42343 1 8 2 1 16 1 1 -42561 25 1 1 1 22316 26 1 32 1247 40 1",
   "40 176 36 1 40 192 19 2 39 1 5 2 39 12 7 2 39 16 3 2 39 8 1 1 39 1771 51 1 64 208 22 1",
   "32 2896 32 1 32 21920 32 1 32 96 25 1 27 31328 34 1 34"]
  ["304 2 105 775"]

/-- The characters beyond ASCII that change in upper case. -/
def uppercaseMap : CharMap := .ofRows
  ["181 1 1 743 43 23 1 -32 24 7 1 -32 7 1 1 121 2 24 2 -1 48 1 1 -232 2 3 2 -1 7 8 2 -1 17",
   "23 2 -1 47 3 2 -1 5 1 1 -300 1 1 1 195 3 2 2 -1 5 1 1 -1 4 1 1 -1 6 1 1 -1 3 1 1 97 4 1",
   "1 -1 1 1 1 163 1 1 1 42561 3 1 1 130 3 3 2 -1 7 1 1 -1 5 1 1 -1 3 1 1 -1 4 2 2 -1 5 1 1",
   "-1 4 1 1 -1 2 1 1 56 6 1 1 -1 1 1 1 -2 2 1 1 -1 1 1 1 -2 2 1 1 -1 1 1 1 -2 2 8 2 -1 15 1",
   "1 -79 2 9 2 -1 19 1 1 -1 1 1 1 -2 2 1 1 -1 4 20 2 -1 42 9 2 -1 25 1 1 -1 3 2 1 10815 3 1",
   "1 -1 5 5 2 -1 9 1 1 10783 1 1 1 10780 1 1 1 10782 1 1 1 -210 1 1 1 -206 2 2 1 -205 3 1 1",
   "-202 2 1 1 -203 1 1 1 42319 4 1 1 -205 1 1 1 42315 2 1 1 -207 1 1 1 42343 1 1 1 42280 1",
   "1 1 42308 2 1 1 -209 1 1 1 -211 1 1 1 42308 1 1 1 10743 1 1 1 42305 3 1 1 -211 2 1 1",
   "10749 1 1 1 -213 3 1 1 -214 8 1 1 10727 3 1 1 -218 2 1 1 42307 1 1 1 -218 4 1 1 42282 1",
   "1 1 -218 1 1 1 -69 1 2 1 -217 2 1 1 -71 6 1 1 -219 11 1 1 42261 1 1 1 42258 167 1 1 84",
   "44 2 2 -1 6 1 1 -1 4 3 1 130 49 1 1 -38 1 3 1 -37 4 17 1 -32 17 1 1 -31 1 9 1 -32 9 1 1",
   "-64 1 2 1 -63 3 1 1 -62 1 1 1 -57 4 1 1 -47 1 1 1 -54 1 1 1 -8 2 12 2 -1 23 1 1 -86 1 1",
   "1 -80 1 1 1 7 1 1 1 -116 2 1 1 -96 3 1 1 -1 3 1 1 -1 53 32 1 -32 32 16 1 -80 17 17 2 -1",
   "42 27 2 -1 55 7 2 -1 13 1 1 -15 2 48 2 -1 144 38 1 -48 2927 43 1 3008 45 3 1 3008 763 6",
   "1 -8 2184 1 1 -6254 1 1 1 -6253 1 1 1 -6244 1 2 1 -6242 2 1 1 -6243 1 1 1 -6236 1 1 1",
   "-6181 1 1 1 35266 2 1 1 -1 239 1 1 35332 4 1 1 3814 17 1 1 35384 115 75 2 -1 154 1 1 -59",
   "6 48 2 -1 95 8 1 8 16 6 1 8 16 8 1 8 16 8 1 8 16 6 1 8 17 4 2 8 15 8 1 8 16 2 1 74 2 4 1",
   "86 4 2 1 100 2 2 1 128 2 2 1 112 2 2 1 126 52 2 1 8 14 1 1 -7205 18 2 1 8 16 2 1 8 5 1 1",
   "7 361 1 1 -28 34 16 1 -16 20 1 1 -1 844 26 1 -26 1888 48 1 -48 49 1 1 -1 4 1 1 -10795 1",
   "1 1 -10792 2 3 2 -1 11 1 1 -1 3 1 1 -1 11 50 2 -1 107 2 2 -1 7 1 1 -1 13 38 1 -7264 39 1",
   "1 -7264 6 1 1 -7264 30996 23 2 -1 64 14 2 -1 162 7 2 -1 16 31 2 -1 71 2 2 -1 5 5 2 -1 13",
   "1 1 -1 5 2 2 -1 3 1 1 48 3 10 2 -1 30 8 2 -1 19 2 2 -1 5 8 2 -1 41 1 1 -1 861 1 1 -928",
   "29 80 1 -38864 21457 26 1 -32 1255 40 1 -40 176 36 1 -40 191 19 2 -39 1 5 2 -39 12 7 2",
   "-39 16 3 2 -39 8 1 1 -39 1796 51 1 -64 176 22 1 -32 2896 32 1 -32 21920 32 1 -32 91 25 1",
   "-27 31335 34 1 -34"]
  ["223 2 83 83 106 2 700 78 167 2 74 780 416 3 921 776 769 32 3 933 776 769 471 2 1333 1362",
   "6415 2 72 817 1 2 84 776 1 2 87 778 1 2 89 778 1 2 65 702 182 2 933 787 2 3 933 787 768",
   "2 3 933 787 769 2 3 933 787 834 42 2 7944 921 1 2 7945 921 1 2 7946 921 1 2 7947 921 1 2",
   "7948 921 1 2 7949 921 1 2 7950 921 1 2 7951 921 1 2 7944 921 1 2 7945 921 1 2 7946 921 1",
   "2 7947 921 1 2 7948 921 1 2 7949 921 1 2 7950 921 1 2 7951 921 1 2 7976 921 1 2 7977 921",
   "1 2 7978 921 1 2 7979 921 1 2 7980 921 1 2 7981 921 1 2 7982 921 1 2 7983 921 1 2 7976",
   "921 1 2 7977 921 1 2 7978 921 1 2 7979 921 1 2 7980 921 1 2 7981 921 1 2 7982 921 1 2",
   "7983 921 1 2 8040 921 1 2 8041 921 1 2 8042 921 1 2 8043 921 1 2 8044 921 1 2 8045 921 1",
   "2 8046 921 1 2 8047 921 1 2 8040 921 1 2 8041 921 1 2 8042 921 1 2 8043 921 1 2 8044 921",
   "1 2 8045 921 1 2 8046 921 1 2 8047 921 3 2 8122 921 1 2 913 921 1 2 902 921 2 2 913 834",
   "1 3 913 834 921 5 2 913 921 6 2 8138 921 1 2 919 921 1 2 905 921 2 2 919 834 1 3 919 834",
   "921 5 2 919 921 6 3 921 776 768 1 3 921 776 769 3 2 921 834 1 3 921 776 834 11 3 933 776",
   "768 1 3 933 776 769 1 2 929 787 2 2 933 834 1 3 933 776 834 11 2 8186 921 1 2 937 921 1",
   "2 911 921 2 2 937 834 1 3 937 834 921 5 2 937 921 56068 2 70 70 1 2 70 73 1 2 70 76 1 3",
   "70 70 73 1 3 70 70 76 1 2 83 84 1 2 83 84 13 2 1348 1350 1 2 1348 1333 1 2 1348 1339 1 2",
   "1358 1350 1 2 1348 1341"]

def isLowercase (c : Char) : Bool :=
  if c.toNat < 128 then c.isLower else lowercaseSet.contains c

def isUppercase (c : Char) : Bool :=
  if c.toNat < 128 then c.isUpper else uppercaseSet.contains c

def toLowercase (c : Char) : List Char :=
  if c.toNat < 128 then [c.toLower] else (lowercaseMap.find? c).getD [c]

def toUppercase (c : Char) : List Char :=
  if c.toNat < 128 then [c.toUpper] else (uppercaseMap.find? c).getD [c]

end TypedEnv.Text
