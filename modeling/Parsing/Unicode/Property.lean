import Parsing.Unicode.Category

namespace Parsing.Unicode

def otherAlphabeticBounds : List Nat := [837, 838, 867, 880, 1456, 1470, 1471, 1472, 1473, 1475,
  1476, 1478, 1479, 1480, 1552, 1563, 1611, 1624, 1625, 1632, 1648, 1649, 1750, 1757, 1761, 1765,
  1767, 1769, 1773, 1774, 1809, 1810, 1840, 1856, 1958, 1969, 2070, 2072, 2075, 2084, 2085, 2088,
  2089, 2093, 2199, 2200, 2260, 2272, 2275, 2282, 2288, 2308, 2362, 2364, 2366, 2381, 2382, 2384,
  2389, 2392, 2402, 2404, 2433, 2436, 2494, 2501, 2503, 2505, 2507, 2509, 2519, 2520, 2530, 2532,
  2561, 2564, 2622, 2627, 2631, 2633, 2635, 2637, 2641, 2642, 2672, 2674, 2677, 2678, 2689, 2692,
  2750, 2758, 2759, 2762, 2763, 2765, 2786, 2788, 2810, 2813, 2817, 2820, 2878, 2885, 2887, 2889,
  2891, 2893, 2902, 2904, 2914, 2916, 2946, 2947, 3006, 3011, 3014, 3017, 3018, 3021, 3031, 3032,
  3072, 3077, 3134, 3141, 3142, 3145, 3146, 3149, 3157, 3159, 3170, 3172, 3201, 3204, 3262, 3269,
  3270, 3273, 3274, 3277, 3285, 3287, 3298, 3300, 3315, 3316, 3328, 3332, 3390, 3397, 3398, 3401,
  3402, 3405, 3415, 3416, 3426, 3428, 3457, 3460, 3535, 3541, 3542, 3543, 3544, 3552, 3570, 3572,
  3633, 3634, 3636, 3643, 3661, 3662, 3761, 3762, 3764, 3770, 3771, 3773, 3789, 3790, 3953, 3972,
  3981, 3992, 3993, 4029, 4139, 4151, 4152, 4153, 4155, 4159, 4182, 4186, 4190, 4193, 4194, 4197,
  4199, 4206, 4209, 4213, 4226, 4238, 4239, 4240, 4250, 4254, 5906, 5908, 5938, 5940, 5970, 5972,
  6002, 6004, 6070, 6089, 6277, 6279, 6313, 6314, 6432, 6444, 6448, 6457, 6679, 6684, 6741, 6751,
  6753, 6773, 6847, 6849, 6860, 6863, 6912, 6917, 6965, 6980, 7040, 7043, 7073, 7082, 7084, 7086,
  7143, 7154, 7204, 7223, 7635, 7669, 9398, 9450, 11744, 11776, 42612, 42620, 42654, 42656, 43010,
  43011, 43019, 43020, 43043, 43048, 43136, 43138, 43188, 43204, 43205, 43206, 43263, 43264,
  43302, 43307, 43335, 43347, 43392, 43396, 43444, 43456, 43493, 43494, 43561, 43575, 43587,
  43588, 43596, 43598, 43643, 43646, 43696, 43697, 43698, 43701, 43703, 43705, 43710, 43711,
  43755, 43760, 43765, 43766, 44003, 44011, 64286, 64287, 66422, 66427, 68097, 68100, 68101,
  68103, 68108, 68112, 68900, 68904, 68969, 68970, 69291, 69293, 69370, 69373, 69632, 69635,
  69688, 69702, 69747, 69749, 69760, 69763, 69808, 69817, 69826, 69827, 69888, 69891, 69927,
  69939, 69957, 69959, 70016, 70019, 70067, 70080, 70094, 70096, 70188, 70197, 70199, 70200,
  70206, 70207, 70209, 70210, 70367, 70377, 70400, 70404, 70462, 70469, 70471, 70473, 70475,
  70477, 70487, 70488, 70498, 70500, 70584, 70593, 70594, 70595, 70597, 70598, 70599, 70603,
  70604, 70606, 70709, 70722, 70723, 70726, 70832, 70850, 71087, 71094, 71096, 71103, 71132,
  71134, 71216, 71231, 71232, 71233, 71339, 71350, 71453, 71467, 71724, 71737, 71984, 71990,
  71991, 71993, 71995, 71997, 72000, 72001, 72002, 72003, 72145, 72152, 72154, 72160, 72164,
  72165, 72193, 72203, 72245, 72250, 72251, 72255, 72273, 72284, 72330, 72344, 72544, 72552,
  72751, 72759, 72760, 72767, 72850, 72872, 72873, 72887, 73009, 73015, 73018, 73019, 73020,
  73022, 73023, 73026, 73027, 73028, 73031, 73032, 73098, 73103, 73104, 73106, 73107, 73111,
  73459, 73463, 73472, 73474, 73475, 73476, 73524, 73531, 73534, 73537, 90398, 90415, 94031,
  94032, 94033, 94088, 94095, 94099, 94192, 94194, 113822, 113823, 122880, 122887, 122888, 122905,
  122907, 122914, 122915, 122917, 122918, 122923, 123023, 123024, 124643, 124644, 124646, 124647,
  124654, 124656, 124661, 124662, 125255, 125256, 127280, 127306, 127312, 127338, 127344, 127370]

def otherUppercaseBounds : List Nat := [8544, 8560, 9398, 9424, 127280, 127306, 127312, 127338,
  127344, 127370]

def otherLowercaseBounds : List Nat := [170, 171, 186, 187, 688, 697, 704, 706, 736, 741, 837,
  838, 890, 891, 4348, 4349, 7468, 7531, 7544, 7545, 7579, 7616, 8305, 8306, 8319, 8320, 8336,
  8349, 8560, 8576, 9424, 9450, 11388, 11390, 42652, 42654, 42864, 42865, 42993, 42997, 43000,
  43002, 43868, 43872, 43881, 43882, 67456, 67457, 67459, 67462, 67463, 67505, 67506, 67515,
  122928, 122990]

def otherGraphemeExtendBounds : List Nat := [2494, 2495, 2519, 2520, 2878, 2879, 2903, 2904, 3006,
  3007, 3031, 3032, 3264, 3265, 3266, 3267, 3271, 3273, 3274, 3276, 3285, 3287, 3390, 3391, 3415,
  3416, 3535, 3536, 3551, 3552, 5909, 5910, 5940, 5941, 6965, 6966, 6971, 6972, 6973, 6974, 6979,
  6981, 7082, 7083, 7154, 7156, 8204, 8205, 12334, 12336, 43347, 43348, 43456, 43457, 65438,
  65440, 70080, 70081, 70197, 70198, 70462, 70463, 70477, 70478, 70487, 70488, 70584, 70585,
  70594, 70595, 70597, 70598, 70599, 70602, 70607, 70608, 70832, 70833, 70845, 70846, 71087,
  71088, 71350, 71351, 71984, 71985, 71997, 71998, 73537, 73538, 94192, 94194, 119141, 119143,
  119149, 119155, 917536, 917632]

def whiteSpaceBounds : List Nat := [9, 14, 32, 33, 133, 134, 160, 161, 5760, 5761, 8192, 8203,
  8232, 8234, 8239, 8240, 8287, 8288, 12288, 12289]

def isAlphabetic (c : Char) : Bool :=
  Category.letter.any (·.holds c) || Category.letterNumber.holds c ||
    inside otherAlphabeticBounds c.toNat

def isNumeric (c : Char) : Bool := Category.number.any (·.holds c)

def isAlphanumeric (c : Char) : Bool := isAlphabetic c || isNumeric c

def isWhiteSpace (c : Char) : Bool := inside whiteSpaceBounds c.toNat

def isGraphemeExtend (c : Char) : Bool :=
  Category.nonspacingMark.holds c || Category.enclosingMark.holds c ||
    inside otherGraphemeExtendBounds c.toNat

def isFiller (c : Char) : Bool := c ∈ ['\u115f', '\u1160', '\u3164', '\uffa0']

def isPrintable (c : Char) : Bool :=
  c = ' ' || !(Category.other ++ Category.separator).any (·.holds c)

def isShown (c : Char) : Bool :=
  isPrintable c && !isFiller c && (Category.modifierLetter.holds c || !isGraphemeExtend c)

example : isWhiteSpace ' ' ∧ isWhiteSpace '\x85' ∧ ¬ isWhiteSpace '\u200b' := by decide

example : isAlphabetic 'a' ∧ ¬ isAlphabetic '_' ∧ isShown 'a' := by decide

end Parsing.Unicode
