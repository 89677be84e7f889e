import TypedEnv.Text.Table

/-!
# Canonical composition

A letter with marks can be written as one character or as several.  `compose`
brings a text into the form that uses as few characters as possible: it takes
every composite apart, sorts the marks on each letter by their class, and puts
the parts together again.  Characters that the mapping of domain names
replaces are no composites here.
-/

namespace TypedEnv.Domain

/-- The composites with their full decompositions. -/
def composites : List (Nat × List Char) := Text.CharMap.readExpansions 0 <| Text.numbers
  ["192 2 65 768 1 2 65 769 1 2 65 770 1 2 65 771 1 2 65 776 1 2 65 778 2 2 67 807 1 2 69",
   "768 1 2 69 769 1 2 69 770 1 2 69 776 1 2 73 768 1 2 73 769 1 2 73 770 1 2 73 776 2 2 78",
   "771 1 2 79 768 1 2 79 769 1 2 79 770 1 2 79 771 1 2 79 776 3 2 85 768 1 2 85 769 1 2 85",
   "770 1 2 85 776 1 2 89 769 3 2 97 768 1 2 97 769 1 2 97 770 1 2 97 771 1 2 97 776 1 2 97",
   "778 2 2 99 807 1 2 101 768 1 2 101 769 1 2 101 770 1 2 101 776 1 2 105 768 1 2 105 769 1",
   "2 105 770 1 2 105 776 2 2 110 771 1 2 111 768 1 2 111 769 1 2 111 770 1 2 111 771 1 2",
   "111 776 3 2 117 768 1 2 117 769 1 2 117 770 1 2 117 776 1 2 121 769 2 2 121 776 1 2 65",
   "772 1 2 97 772 1 2 65 774 1 2 97 774 1 2 65 808 1 2 97 808 1 2 67 769 1 2 99 769 1 2 67",
   "770 1 2 99 770 1 2 67 775 1 2 99 775 1 2 67 780 1 2 99 780 1 2 68 780 1 2 100 780 3 2 69",
   "772 1 2 101 772 1 2 69 774 1 2 101 774 1 2 69 775 1 2 101 775 1 2 69 808 1 2 101 808 1 2",
   "69 780 1 2 101 780 1 2 71 770 1 2 103 770 1 2 71 774 1 2 103 774 1 2 71 775 1 2 103 775",
   "1 2 71 807 1 2 103 807 1 2 72 770 1 2 104 770 3 2 73 771 1 2 105 771 1 2 73 772 1 2 105",
   "772 1 2 73 774 1 2 105 774 1 2 73 808 1 2 105 808 1 2 73 775 4 2 74 770 1 2 106 770 1 2",
   "75 807 1 2 107 807 2 2 76 769 1 2 108 769 1 2 76 807 1 2 108 807 1 2 76 780 1 2 108 780",
   "5 2 78 769 1 2 110 769 1 2 78 807 1 2 110 807 1 2 78 780 1 2 110 780 4 2 79 772 1 2 111",
   "772 1 2 79 774 1 2 111 774 1 2 79 779 1 2 111 779 3 2 82 769 1 2 114 769 1 2 82 807 1 2",
   "114 807 1 2 82 780 1 2 114 780 1 2 83 769 1 2 115 769 1 2 83 770 1 2 115 770 1 2 83 807",
   "1 2 115 807 1 2 83 780 1 2 115 780 1 2 84 807 1 2 116 807 1 2 84 780 1 2 116 780 3 2 85",
   "771 1 2 117 771 1 2 85 772 1 2 117 772 1 2 85 774 1 2 117 774 1 2 85 778 1 2 117 778 1 2",
   "85 779 1 2 117 779 1 2 85 808 1 2 117 808 1 2 87 770 1 2 119 770 1 2 89 770 1 2 121 770",
   "1 2 89 776 1 2 90 769 1 2 122 769 1 2 90 775 1 2 122 775 1 2 90 780 1 2 122 780 34 2 79",
   "795 1 2 111 795 14 2 85 795 1 2 117 795 29 2 65 780 1 2 97 780 1 2 73 780 1 2 105 780 1",
   "2 79 780 1 2 111 780 1 2 85 780 1 2 117 780 1 3 85 776 772 1 3 117 776 772 1 3 85 776",
   "769 1 3 117 776 769 1 3 85 776 780 1 3 117 776 780 1 3 85 776 768 1 3 117 776 768 2 3 65",
   "776 772 1 3 97 776 772 1 3 65 775 772 1 3 97 775 772 1 2 198 772 1 2 230 772 3 2 71 780",
   "1 2 103 780 1 2 75 780 1 2 107 780 1 2 79 808 1 2 111 808 1 3 79 808 772 1 3 111 808 772",
   "1 2 439 780 1 2 658 780 1 2 106 780 4 2 71 769 1 2 103 769 3 2 78 768 1 2 110 768 1 3 65",
   "778 769 1 3 97 778 769 1 2 198 769 1 2 230 769 1 2 216 769 1 2 248 769 1 2 65 783 1 2 97",
   "783 1 2 65 785 1 2 97 785 1 2 69 783 1 2 101 783 1 2 69 785 1 2 101 785 1 2 73 783 1 2",
   "105 783 1 2 73 785 1 2 105 785 1 2 79 783 1 2 111 783 1 2 79 785 1 2 111 785 1 2 82 783",
   "1 2 114 783 1 2 82 785 1 2 114 785 1 2 85 783 1 2 117 783 1 2 85 785 1 2 117 785 1 2 83",
   "806 1 2 115 806 1 2 84 806 1 2 116 806 3 2 72 780 1 2 104 780 7 2 65 775 1 2 97 775 1 2",
   "69 807 1 2 101 807 1 3 79 776 772 1 3 111 776 772 1 3 79 771 772 1 3 111 771 772 1 2 79",
   "775 1 2 111 775 1 3 79 775 772 1 3 111 775 772 1 2 89 772 1 2 121 772 338 2 168 769 1 2",
   "913 769 2 2 917 769 1 2 919 769 1 2 921 769 2 2 927 769 2 2 933 769 1 2 937 769 1 3 953",
   "776 769 26 2 921 776 1 2 933 776 1 2 945 769 1 2 949 769 1 2 951 769 1 2 953 769 1 3 965",
   "776 769 26 2 953 776 1 2 965 776 1 2 959 769 1 2 965 769 1 2 969 769 5 2 978 769 1 2 978",
   "776 44 2 1045 768 1 2 1045 776 2 2 1043 769 4 2 1030 776 5 2 1050 769 1 2 1048 768 1 2",
   "1059 774 11 2 1048 774 32 2 1080 774 23 2 1077 768 1 2 1077 776 2 2 1075 769 4 2 1110",
   "776 5 2 1082 769 1 2 1080 768 1 2 1091 774 24 2 1140 783 1 2 1141 783 74 2 1046 774 1 2",
   "1078 774 14 2 1040 774 1 2 1072 774 1 2 1040 776 1 2 1072 776 3 2 1045 774 1 2 1077 774",
   "3 2 1240 776 1 2 1241 776 1 2 1046 776 1 2 1078 776 1 2 1047 776 1 2 1079 776 3 2 1048",
   "772 1 2 1080 772 1 2 1048 776 1 2 1080 776 1 2 1054 776 1 2 1086 776 3 2 1256 776 1 2",
   "1257 776 1 2 1069 776 1 2 1101 776 1 2 1059 772 1 2 1091 772 1 2 1059 776 1 2 1091 776 1",
   "2 1059 779 1 2 1091 779 1 2 1063 776 1 2 1095 776 3 2 1067 776 1 2 1099 776 297 2 1575",
   "1619 1 2 1575 1620 1 2 1608 1620 1 2 1575 1621 1 2 1610 1620 154 2 1749 1620 2 2 1729",
   "1620 17 2 1746 1620 598 2 2344 2364 8 2 2352 2364 3 2 2355 2364 151 2 2503 2494 1 2 2503",
   "2519 380 2 2887 2902 3 2 2887 2878 1 2 2887 2903 72 2 2962 3031 54 2 3014 3006 1 2 3015",
   "3006 1 2 3014 3031 124 2 3142 3158 120 2 3263 3285 7 2 3270 3285 1 2 3270 3286 2 2 3270",
   "3266 1 3 3270 3266 3285 127 2 3398 3390 1 2 3399 3390 1 2 3398 3415 142 2 3545 3530 2 2",
   "3545 3535 1 3 3545 3535 3530 1 2 3545 3551 584 2 4133 4142 2784 2 6917 6965 2 2 6919",
   "6965 2 2 6921 6965 2 2 6923 6965 2 2 6925 6965 4 2 6929 6965 41 2 6970 6965 2 2 6972",
   "6965 3 2 6974 6965 1 2 6975 6965 2 2 6978 6965 701 2 65 805 1 2 97 805 1 2 66 775 1 2 98",
   "775 1 2 66 803 1 2 98 803 1 2 66 817 1 2 98 817 1 3 67 807 769 1 3 99 807 769 1 2 68 775",
   "1 2 100 775 1 2 68 803 1 2 100 803 1 2 68 817 1 2 100 817 1 2 68 807 1 2 100 807 1 2 68",
   "813 1 2 100 813 1 3 69 772 768 1 3 101 772 768 1 3 69 772 769 1 3 101 772 769 1 2 69 813",
   "1 2 101 813 1 2 69 816 1 2 101 816 1 3 69 807 774 1 3 101 807 774 1 2 70 775 1 2 102 775",
   "1 2 71 772 1 2 103 772 1 2 72 775 1 2 104 775 1 2 72 803 1 2 104 803 1 2 72 776 1 2 104",
   "776 1 2 72 807 1 2 104 807 1 2 72 814 1 2 104 814 1 2 73 816 1 2 105 816 1 3 73 776 769",
   "1 3 105 776 769 1 2 75 769 1 2 107 769 1 2 75 803 1 2 107 803 1 2 75 817 1 2 107 817 1 2",
   "76 803 1 2 108 803 1 3 76 803 772 1 3 108 803 772 1 2 76 817 1 2 108 817 1 2 76 813 1 2",
   "108 813 1 2 77 769 1 2 109 769 1 2 77 775 1 2 109 775 1 2 77 803 1 2 109 803 1 2 78 775",
   "1 2 110 775 1 2 78 803 1 2 110 803 1 2 78 817 1 2 110 817 1 2 78 813 1 2 110 813 1 3 79",
   "771 769 1 3 111 771 769 1 3 79 771 776 1 3 111 771 776 1 3 79 772 768 1 3 111 772 768 1",
   "3 79 772 769 1 3 111 772 769 1 2 80 769 1 2 112 769 1 2 80 775 1 2 112 775 1 2 82 775 1",
   "2 114 775 1 2 82 803 1 2 114 803 1 3 82 803 772 1 3 114 803 772 1 2 82 817 1 2 114 817 1",
   "2 83 775 1 2 115 775 1 2 83 803 1 2 115 803 1 3 83 769 775 1 3 115 769 775 1 3 83 780",
   "775 1 3 115 780 775 1 3 83 803 775 1 3 115 803 775 1 2 84 775 1 2 116 775 1 2 84 803 1 2",
   "116 803 1 2 84 817 1 2 116 817 1 2 84 813 1 2 116 813 1 2 85 804 1 2 117 804 1 2 85 816",
   "1 2 117 816 1 2 85 813 1 2 117 813 1 3 85 771 769 1 3 117 771 769 1 3 85 772 776 1 3 117",
   "772 776 1 2 86 771 1 2 118 771 1 2 86 803 1 2 118 803 1 2 87 768 1 2 119 768 1 2 87 769",
   "1 2 119 769 1 2 87 776 1 2 119 776 1 2 87 775 1 2 119 775 1 2 87 803 1 2 119 803 1 2 88",
   "775 1 2 120 775 1 2 88 776 1 2 120 776 1 2 89 775 1 2 121 775 1 2 90 770 1 2 122 770 1 2",
   "90 803 1 2 122 803 1 2 90 817 1 2 122 817 1 2 104 817 1 2 116 776 1 2 119 778 1 2 121",
   "778 2 2 383 775 5 2 65 803 1 2 97 803 1 2 65 777 1 2 97 777 1 3 65 770 769 1 3 97 770",
   "769 1 3 65 770 768 1 3 97 770 768 1 3 65 770 777 1 3 97 770 777 1 3 65 770 771 1 3 97",
   "770 771 1 3 65 803 770 1 3 97 803 770 1 3 65 774 769 1 3 97 774 769 1 3 65 774 768 1 3",
   "97 774 768 1 3 65 774 777 1 3 97 774 777 1 3 65 774 771 1 3 97 774 771 1 3 65 803 774 1",
   "3 97 803 774 1 2 69 803 1 2 101 803 1 2 69 777 1 2 101 777 1 2 69 771 1 2 101 771 1 3 69",
   "770 769 1 3 101 770 769 1 3 69 770 768 1 3 101 770 768 1 3 69 770 777 1 3 101 770 777 1",
   "3 69 770 771 1 3 101 770 771 1 3 69 803 770 1 3 101 803 770 1 2 73 777 1 2 105 777 1 2",
   "73 803 1 2 105 803 1 2 79 803 1 2 111 803 1 2 79 777 1 2 111 777 1 3 79 770 769 1 3 111",
   "770 769 1 3 79 770 768 1 3 111 770 768 1 3 79 770 777 1 3 111 770 777 1 3 79 770 771 1 3",
   "111 770 771 1 3 79 803 770 1 3 111 803 770 1 3 79 795 769 1 3 111 795 769 1 3 79 795 768",
   "1 3 111 795 768 1 3 79 795 777 1 3 111 795 777 1 3 79 795 771 1 3 111 795 771 1 3 79 795",
   "803 1 3 111 795 803 1 2 85 803 1 2 117 803 1 2 85 777 1 2 117 777 1 3 85 795 769 1 3 117",
   "795 769 1 3 85 795 768 1 3 117 795 768 1 3 85 795 777 1 3 117 795 777 1 3 85 795 771 1 3",
   "117 795 771 1 3 85 795 803 1 3 117 795 803 1 2 89 768 1 2 121 768 1 2 89 803 1 2 121 803",
   "1 2 89 777 1 2 121 777 1 2 89 771 1 2 121 771 7 2 945 787 1 2 945 788 1 3 945 787 768 1",
   "3 945 788 768 1 3 945 787 769 1 3 945 788 769 1 3 945 787 834 1 3 945 788 834 1 2 913",
   "787 1 2 913 788 1 3 913 787 768 1 3 913 788 768 1 3 913 787 769 1 3 913 788 769 1 3 913",
   "787 834 1 3 913 788 834 1 2 949 787 1 2 949 788 1 3 949 787 768 1 3 949 788 768 1 3 949",
   "787 769 1 3 949 788 769 3 2 917 787 1 2 917 788 1 3 917 787 768 1 3 917 788 768 1 3 917",
   "787 769 1 3 917 788 769 3 2 951 787 1 2 951 788 1 3 951 787 768 1 3 951 788 768 1 3 951",
   "787 769 1 3 951 788 769 1 3 951 787 834 1 3 951 788 834 1 2 919 787 1 2 919 788 1 3 919",
   "787 768 1 3 919 788 768 1 3 919 787 769 1 3 919 788 769 1 3 919 787 834 1 3 919 788 834",
   "1 2 953 787 1 2 953 788 1 3 953 787 768 1 3 953 788 768 1 3 953 787 769 1 3 953 788 769",
   "1 3 953 787 834 1 3 953 788 834 1 2 921 787 1 2 921 788 1 3 921 787 768 1 3 921 788 768",
   "1 3 921 787 769 1 3 921 788 769 1 3 921 787 834 1 3 921 788 834 1 2 959 787 1 2 959 788",
   "1 3 959 787 768 1 3 959 788 768 1 3 959 787 769 1 3 959 788 769 3 2 927 787 1 2 927 788",
   "1 3 927 787 768 1 3 927 788 768 1 3 927 787 769 1 3 927 788 769 3 2 965 787 1 2 965 788",
   "1 3 965 787 768 1 3 965 788 768 1 3 965 787 769 1 3 965 788 769 1 3 965 787 834 1 3 965",
   "788 834 2 2 933 788 2 3 933 788 768 2 3 933 788 769 2 3 933 788 834 1 2 969 787 1 2 969",
   "788 1 3 969 787 768 1 3 969 788 768 1 3 969 787 769 1 3 969 788 769 1 3 969 787 834 1 3",
   "969 788 834 1 2 937 787 1 2 937 788 1 3 937 787 768 1 3 937 788 768 1 3 937 787 769 1 3",
   "937 788 769 1 3 937 787 834 1 3 937 788 834 1 2 945 768 2 2 949 768 2 2 951 768 2 2 953",
   "768 2 2 959 768 2 2 965 768 2 2 969 768 4 3 945 787 837 1 3 945 788 837 1 4 945 787 768",
   "837 1 4 945 788 768 837 1 4 945 787 769 837 1 4 945 788 769 837 1 4 945 787 834 837 1 4",
   "945 788 834 837 1 3 913 787 837 1 3 913 788 837 1 4 913 787 768 837 1 4 913 788 768 837",
   "1 4 913 787 769 837 1 4 913 788 769 837 1 4 913 787 834 837 1 4 913 788 834 837 1 3 951",
   "787 837 1 3 951 788 837 1 4 951 787 768 837 1 4 951 788 768 837 1 4 951 787 769 837 1 4",
   "951 788 769 837 1 4 951 787 834 837 1 4 951 788 834 837 1 3 919 787 837 1 3 919 788 837",
   "1 4 919 787 768 837 1 4 919 788 768 837 1 4 919 787 769 837 1 4 919 788 769 837 1 4 919",
   "787 834 837 1 4 919 788 834 837 1 3 969 787 837 1 3 969 788 837 1 4 969 787 768 837 1 4",
   "969 788 768 837 1 4 969 787 769 837 1 4 969 788 769 837 1 4 969 787 834 837 1 4 969 788",
   "834 837 1 3 937 787 837 1 3 937 788 837 1 4 937 787 768 837 1 4 937 788 768 837 1 4 937",
   "787 769 837 1 4 937 788 769 837 1 4 937 787 834 837 1 4 937 788 834 837 1 2 945 774 1 2",
   "945 772 1 3 945 768 837 1 2 945 837 1 3 945 769 837 2 2 945 834 1 3 945 834 837 1 2 913",
   "774 1 2 913 772 1 2 913 768 2 2 913 837 5 2 168 834 1 3 951 768 837 1 2 951 837 1 3 951",
   "769 837 2 2 951 834 1 3 951 834 837 1 2 917 768 2 2 919 768 2 2 919 837 1 2 8127 768 1 2",
   "8127 769 1 2 8127 834 1 2 953 774 1 2 953 772 1 3 953 776 768 4 2 953 834 1 3 953 776",
   "834 1 2 921 774 1 2 921 772 1 2 921 768 3 2 8190 768 1 2 8190 769 1 2 8190 834 1 2 965",
   "774 1 2 965 772 1 3 965 776 768 2 2 961 787 1 2 961 788 1 2 965 834 1 3 965 776 834 1 2",
   "933 774 1 2 933 772 1 2 933 768 2 2 929 788 1 2 168 768 5 3 969 768 837 1 2 969 837 1 3",
   "969 769 837 2 2 969 834 1 3 969 834 837 1 2 927 768 2 2 937 768 2 2 937 837 414 2 8592",
   "824 1 2 8594 824 19 2 8596 824 31 2 8656 824 1 2 8660 824 1 2 8658 824 53 2 8707 824 5 2",
   "8712 824 3 2 8715 824 24 2 8739 824 2 2 8741 824 27 2 8764 824 3 2 8771 824 3 2 8773 824",
   "2 2 8776 824 23 2 61 824 2 2 8801 824 11 2 8781 824 1 2 60 824 1 2 62 824 1 2 8804 824 1",
   "2 8805 824 3 2 8818 824 1 2 8819 824 3 2 8822 824 1 2 8823 824 7 2 8826 824 1 2 8827 824",
   "3 2 8834 824 1 2 8835 824 3 2 8838 824 1 2 8839 824 35 2 8866 824 1 2 8872 824 1 2 8873",
   "824 1 2 8875 824 49 2 8828 824 1 2 8829 824 1 2 8849 824 1 2 8850 824 7 2 8882 824 1 2",
   "8883 824 1 2 8884 824 1 2 8885 824 3423 2 12363 12441 2 2 12365 12441 2 2 12367 12441 2",
   "2 12369 12441 2 2 12371 12441 2 2 12373 12441 2 2 12375 12441 2 2 12377 12441 2 2 12379",
   "12441 2 2 12381 12441 2 2 12383 12441 2 2 12385 12441 3 2 12388 12441 2 2 12390 12441 2",
   "2 12392 12441 7 2 12399 12441 1 2 12399 12442 2 2 12402 12441 1 2 12402 12442 2 2 12405",
   "12441 1 2 12405 12442 2 2 12408 12441 1 2 12408 12442 2 2 12411 12441 1 2 12411 12442 23",
   "2 12358 12441 10 2 12445 12441 14 2 12459 12441 2 2 12461 12441 2 2 12463 12441 2 2",
   "12465 12441 2 2 12467 12441 2 2 12469 12441 2 2 12471 12441 2 2 12473 12441 2 2 12475",
   "12441 2 2 12477 12441 2 2 12479 12441 2 2 12481 12441 3 2 12484 12441 2 2 12486 12441 2",
   "2 12488 12441 7 2 12495 12441 1 2 12495 12442 2 2 12498 12441 1 2 12498 12442 2 2 12501",
   "12441 1 2 12501 12442 2 2 12504 12441 1 2 12504 12442 2 2 12507 12441 1 2 12507 12442 23",
   "2 12454 12441 3 2 12527 12441 1 2 12528 12441 1 2 12529 12441 1 2 12530 12441 4 2 12541",
   "12441 54475 2 67026 775 27 2 67034 775 2742 2 69785 69818 2 2 69787 69818 15 2 69797",
   "69818 131 2 69937 69927 1 2 69938 69927 540 2 70471 70462 1 2 70471 70487 55 2 70530",
   "70601 2 2 70532 70587 9 2 70539 70594 3 2 70544 70601 52 2 70594 70594 2 2 70594 70584 1",
   "2 70594 70601 243 2 70841 70842 1 2 70841 70832 2 2 70841 70845 252 2 71096 71087 1 2",
   "71097 71087 893 2 71989 71984 18409 2 90398 90398 1 2 90398 90409 1 2 90398 90399 1 2",
   "90409 90399 1 2 90398 90400 1 3 90398 90398 90399 1 3 90398 90409 90399 1 3 90398 90398",
   "90400 3136 2 93543 93543 1 2 93539 93543 1 3 93539 93543 93543"]

/-- A block of neighbouring characters of one combining class. -/
structure ClassBlock where
  first : Nat
  count : Nat
  combiningClass : Nat

/-- Reads blocks, each as the distance from the block before, its length and its class. -/
def readClassBlocks (start : Nat) : List Int → List ClassBlock
  | gap :: count :: combiningClass :: rest =>
      let first := start + gap.toNat
      ⟨first, count.toNat, combiningClass.toNat⟩ :: readClassBlocks first rest
  | _ => []

/-- The characters that combine with a letter before them. -/
def classBlocks : List ClassBlock := readClassBlocks 0 <| Text.numbers
  ["768 21 230 21 1 232 1 4 220 4 1 232 1 1 216 1 5 220 5 2 202 2 4 220 4 2 202 2 11 220 11",
   "5 1 5 4 220 4 8 230 8 1 240 1 1 230 1 3 220 3 3 230 3 2 220 3 3 230 3 4 220 4 1 230 1 1",
   "232 1 2 220 2 1 230 1 1 233 1 2 234 2 1 233 1 2 234 2 1 233 1 13 230 288 5 230 270 1 220",
   "1 4 230 4 1 220 1 3 230 3 1 222 1 1 220 1 6 230 6 6 220 6 2 230 2 1 220 1 2 230 2 1 222",
   "1 1 228 1 1 230 1 1 10 1 1 11 1 1 12 1 1 13 1 1 14 1 1 15 1 1 16 1 1 17 1 1 18 1 2 19 2",
   "1 20 1 1 21 1 1 22 2 1 23 2 1 24 1 1 25 2 1 230 1 1 220 2 1 18 73 8 230 8 1 30 1 1 31 1",
   "1 32 49 1 27 1 1 28 1 1 29 1 1 30 1 1 31 1 1 32 1 1 33 1 1 34 1 2 230 2 2 220 2 5 230 5",
   "1 220 1 2 230 2 1 220 17 1 35 102 7 230 9 4 230 4 1 220 1 1 230 3 2 230 3 1 220 1 2 230",
   "2 1 220 36 1 36 31 1 230 1 1 220 1 2 230 2 1 220 1 2 230 2 3 220 3 1 230 1 2 220 2 1 230",
   "1 1 220 1 3 230 3 1 220 1 1 230 1 1 220 1 1 230 1 1 220 1 1 230 1 1 220 1 2 230 162 7",
   "230 7 1 220 1 1 230 10 1 220 25 4 230 5 9 230 10 3 230 4 5 230 48 3 220 62 2 230 2 3 220",
   "3 4 230 46 5 230 5 5 220 5 14 230 15 1 220 1 2 230 2 1 220 1 2 230 2 1 220 1 3 230 3 3",
   "220 3 1 27 1 1 28 1 1 29 1 3 230 3 1 220 1 2 230 2 2 220 2 5 230 65 1 7 17 1 9 4 1 230 1",
   "1 220 1 2 230 105 1 7 17 1 9 49 1 230 62 1 7 17 1 9 111 1 7 17 1 9 111 1 7 17 1 9 128 1",
   "9 111 1 7 17 1 9 8 1 84 1 1 91 102 1 7 17 1 9 110 2 9 18 1 9 125 1 9 110 2 103 2 1 9 14",
   "4 107 112 2 118 2 1 9 14 4 122 80 2 220 29 1 220 2 1 220 2 1 216 56 1 129 1 1 130 2 1",
   "132 6 4 130 6 1 130 2 2 230 2 1 9 2 2 230 64 1 220 113 1 7 2 2 9 84 1 220 720 3 230 951",
   "2 9 32 1 9 158 1 9 11 1 230 204 1 228 144 1 222 1 1 230 1 1 220 220 1 230 1 1 220 72 1 9",
   "21 8 230 10 1 220 49 5 230 5 6 220 6 2 230 2 1 220 2 2 220 2 2 230 2 2 220 2 5 230 5 1",
   "220 1 18 230 18 1 220 3 6 230 6 1 220 1 4 230 4 1 234 73 1 7 16 1 9 39 1 230 1 1 220 1 7",
   "230 61 2 9 60 1 7 12 2 9 69 1 7 153 3 230 4 1 1 1 5 220 5 2 230 2 4 220 4 1 230 2 7 1 11",
   "1 220 7 1 230 4 2 230 200 2 230 2 1 220 1 7 230 7 1 220 1 2 230 2 1 234 1 1 214 1 1 220",
   "1 1 202 1 37 230 37 1 232 1 2 228 2 1 220 1 1 218 1 1 230 1 1 233 1 1 220 1 1 230 1 1",
   "220 721 2 230 2 2 1 2 4 230 4 3 1 3 2 230 6 1 230 4 2 1 2 1 230 1 1 220 1 1 230 1 2 1 2",
   "4 220 4 1 230 3071 3 230 144 1 9 97 32 230 586 1 218 1 1 228 1 1 232 1 1 222 1 2 224 107",
   "2 8 30166 1 230 5 10 230 42 2 230 82 2 230 278 1 9 38 1 9 152 1 9 28 18 230 75 3 220 40",
   "1 9 96 1 7 13 1 9 240 1 230 2 2 230 2 1 220 3 2 230 7 2 230 3 1 230 53 1 9 247 1 9 20273",
   "1 26 770 7 230 7 7 220 7 2 230 975 1 220 227 1 220 150 5 230 1687 1 220 2 1 230 41 1 230",
   "1 1 1 1 1 220 5 1 9 166 1 230 1 1 220 574 4 230 69 5 230 322 2 230 79 2 220 3 3 220 73 2",
   "220 2 3 230 3 1 220 1 1 230 1 4 220 53 1 230 1 1 220 1 1 230 1 1 220 193 1 9 42 1 9 15 1",
   "9 58 1 9 1 1 7 70 3 230 51 2 9 64 1 7 77 1 9 10 1 7 107 1 9 1 1 7 179 1 7 1 1 9 81 2 7",
   "18 1 9 25 7 230 10 5 230 94 3 9 116 1 9 4 1 7 24 1 230 100 1 9 1 1 7 252 1 9 1 1 7 127 1",
   "9 119 1 9 1 1 7 116 1 9 270 1 9 1 1 7 259 2 9 6 1 7 157 1 9 84 1 9 19 1 9 82 1 9 422 1 9",
   "259 1 7 2 2 9 83 1 9 426 2 9 16878 1 9 2497 5 1 64 7 230 1216 2 6 19630 1 1 5319 2 216 2",
   "3 1 6 1 226 1 5 216 13 8 220 10 5 230 5 2 220 32 4 230 152 3 230 3518 7 230 8 17 230 19",
   "7 230 8 2 230 3 5 230 105 1 230 161 7 230 382 1 230 62 4 230 512 2 232 2 1 220 1 1 230",
   "255 1 230 1 1 220 244 1 230 3 1 230 8 2 230 7 1 230 475 7 220 116 6 230 6 1 7"]

/-- The combining class of a character; zero for all that begin a new letter. -/
def combiningClass (c : Char) : Nat :=
  let block? := classBlocks.find? fun block =>
    block.first ≤ c.toNat && c.toNat < block.first + block.count
  (block?.map ClassBlock.combiningClass).getD 0

/-- A character taken apart; Hangul syllables are computed. -/
def decomposeChar (c : Char) : List Char :=
  let index := c.toNat - 0xAC00
  if c.toNat < 0xC0 then [c]
  else if 0xAC00 ≤ c.toNat ∧ index < 11172 then
    let parts := [Char.ofNat (0x1100 + index / 588), Char.ofNat (0x1161 + index % 588 / 28)]
    if index % 28 = 0 then parts else parts ++ [Char.ofNat (0x11A7 + index % 28)]
  else (composites.lookup c.toNat).getD [c]

/-- Moves a mark in front of the marks of a greater class that stand before it; the text is
held in reverse. -/
def insertMark (c : Char) : List Char → List Char
  | [] => [c]
  | before :: rest =>
      if 0 < combiningClass c ∧ combiningClass c < combiningClass before then
        before :: insertMark c rest
      else c :: before :: rest

/-- A text taken apart, with the marks of each letter in the order of their classes. -/
def decompose (text : List Char) : List Char :=
  ((text.flatMap decomposeChar).foldl (fun reversed c => insertMark c reversed) []).reverse

/-- The composite of two characters; the characters before the combining marks end none. -/
def composePair? (first second : Char) : Option Char :=
  let lead := first.toNat - 0x1100
  let vowel := second.toNat - 0x1161
  let syllable := first.toNat - 0xAC00
  let trail := second.toNat - 0x11A7
  if second.toNat < 0x300 then none
  else if 0x1100 ≤ first.toNat ∧ lead < 19 ∧ 0x1161 ≤ second.toNat ∧ vowel < 21 then
    some (Char.ofNat (0xAC00 + (lead * 21 + vowel) * 28))
  else if 0xAC00 ≤ first.toNat ∧ syllable < 11172 ∧ syllable % 28 = 0 ∧
      0x11A7 < second.toNat ∧ trail < 28 then
    some (Char.ofNat (first.toNat + trail))
  else
    let parts := decomposeChar first ++ [second]
    (composites.find? fun entry => entry.2 == parts).map fun entry => Char.ofNat entry.1

/-- A text in the middle of composition, with everything before the last letter finished.  The
finished text and the marks that stay apart are held in reverse. -/
structure Composing where
  finished : List Char
  letter : Option Char
  marks : List Char

namespace Composing

def reversed (state : Composing) : List Char :=
  match state.letter with
  | none => state.marks ++ state.finished
  | some letter => state.marks ++ letter :: state.finished

/-- Whether a mark cannot reach the letter because of a mark of its own class or a greater one
between them. -/
def isBlocked (state : Composing) (c : Char) : Bool :=
  match state.marks with
  | [] => false
  | last :: _ => combiningClass c ≤ combiningClass last

def step (state : Composing) (c : Char) : Composing :=
  let composed? := do
    let letter ← state.letter
    if state.isBlocked c then none else composePair? letter c
  match composed? with
  | some composed => { state with letter := some composed }
  | none =>
      if combiningClass c = 0 then ⟨state.reversed, some c, []⟩
      else { state with marks := c :: state.marks }

end Composing

def compose (text : List Char) : List Char :=
  ((decompose text).foldl Composing.step ⟨[], none, []⟩).reversed.reverse

end TypedEnv.Domain
