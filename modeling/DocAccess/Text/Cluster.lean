import DocAccess.Text.CodeSet

/-!
# Text clusters

The cutting of a text into user-perceived characters: extended grapheme clusters, from the
`Grapheme_Cluster_Break` property and the conjunct rule of the Indic scripts.
-/

namespace DocAccess.Text

/-- Code points that never join a neighbour, carriage return and line feed excepted. -/
def clusterControlSet : CodeSet where
  edges := #[0, 10, 11, 13, 14, 32, 127, 160, 173, 174, 1564, 1565, 6158, 6159, 8203, 8204, 8206, 8208, 8232,
    8239, 8288, 8304, 65279, 65280, 65520, 65532, 78896, 78912, 113824, 113828, 119155, 119163,
    917504, 917536, 917632, 917760, 918000, 921600]

/-- Code points that extend the cluster before them. -/
def clusterExtendSet : CodeSet where
  edges := #[768, 880, 1155, 1162, 1425, 1470, 1471, 1472, 1473, 1475, 1476, 1478, 1479, 1480, 1552, 1563,
    1611, 1632, 1648, 1649, 1750, 1757, 1759, 1765, 1767, 1769, 1770, 1774, 1809, 1810, 1840,
    1867, 1958, 1969, 2027, 2036, 2045, 2046, 2070, 2074, 2075, 2084, 2085, 2088, 2089, 2094,
    2137, 2140, 2200, 2208, 2250, 2274, 2275, 2307, 2362, 2363, 2364, 2365, 2369, 2377, 2381,
    2382, 2385, 2392, 2402, 2404, 2433, 2434, 2492, 2493, 2494, 2495, 2497, 2501, 2509, 2510,
    2519, 2520, 2530, 2532, 2558, 2559, 2561, 2563, 2620, 2621, 2625, 2627, 2631, 2633, 2635,
    2638, 2641, 2642, 2672, 2674, 2677, 2678, 2689, 2691, 2748, 2749, 2753, 2758, 2759, 2761,
    2765, 2766, 2786, 2788, 2810, 2816, 2817, 2818, 2876, 2877, 2878, 2880, 2881, 2885, 2893,
    2894, 2901, 2904, 2914, 2916, 2946, 2947, 3006, 3007, 3008, 3009, 3021, 3022, 3031, 3032,
    3072, 3073, 3076, 3077, 3132, 3133, 3134, 3137, 3142, 3145, 3146, 3150, 3157, 3159, 3170,
    3172, 3201, 3202, 3260, 3261, 3263, 3264, 3266, 3267, 3270, 3271, 3276, 3278, 3285, 3287,
    3298, 3300, 3328, 3330, 3387, 3389, 3390, 3391, 3393, 3397, 3405, 3406, 3415, 3416, 3426,
    3428, 3457, 3458, 3530, 3531, 3535, 3536, 3538, 3541, 3542, 3543, 3551, 3552, 3633, 3634,
    3636, 3643, 3655, 3663, 3761, 3762, 3764, 3773, 3784, 3791, 3864, 3866, 3893, 3894, 3895,
    3896, 3897, 3898, 3953, 3967, 3968, 3973, 3974, 3976, 3981, 3992, 3993, 4029, 4038, 4039,
    4141, 4145, 4146, 4152, 4153, 4155, 4157, 4159, 4184, 4186, 4190, 4193, 4209, 4213, 4226,
    4227, 4229, 4231, 4237, 4238, 4253, 4254, 4957, 4960, 5906, 5909, 5938, 5940, 5970, 5972,
    6002, 6004, 6068, 6070, 6071, 6078, 6086, 6087, 6089, 6100, 6109, 6110, 6155, 6158, 6159,
    6160, 6277, 6279, 6313, 6314, 6432, 6435, 6439, 6441, 6450, 6451, 6457, 6460, 6679, 6681,
    6683, 6684, 6742, 6743, 6744, 6751, 6752, 6753, 6754, 6755, 6757, 6765, 6771, 6781, 6783,
    6784, 6832, 6863, 6912, 6916, 6964, 6971, 6972, 6973, 6978, 6979, 7019, 7028, 7040, 7042,
    7074, 7078, 7080, 7082, 7083, 7086, 7142, 7143, 7144, 7146, 7149, 7150, 7151, 7154, 7212,
    7220, 7222, 7224, 7376, 7379, 7380, 7393, 7394, 7401, 7405, 7406, 7412, 7413, 7416, 7418,
    7616, 7680, 8204, 8205, 8400, 8433, 11503, 11506, 11647, 11648, 11744, 11776, 12330, 12336,
    12441, 12443, 42607, 42611, 42612, 42622, 42654, 42656, 42736, 42738, 43010, 43011, 43014,
    43015, 43019, 43020, 43045, 43047, 43052, 43053, 43204, 43206, 43232, 43250, 43263, 43264,
    43302, 43310, 43335, 43346, 43392, 43395, 43443, 43444, 43446, 43450, 43452, 43454, 43493,
    43494, 43561, 43567, 43569, 43571, 43573, 43575, 43587, 43588, 43596, 43597, 43644, 43645,
    43696, 43697, 43698, 43701, 43703, 43705, 43710, 43712, 43713, 43714, 43756, 43758, 43766,
    43767, 44005, 44006, 44008, 44009, 44013, 44014, 64286, 64287, 65024, 65040, 65056, 65072,
    65438, 65440, 66045, 66046, 66272, 66273, 66422, 66427, 68097, 68100, 68101, 68103, 68108,
    68112, 68152, 68155, 68159, 68160, 68325, 68327, 68900, 68904, 69291, 69293, 69373, 69376,
    69446, 69457, 69506, 69510, 69633, 69634, 69688, 69703, 69744, 69745, 69747, 69749, 69759,
    69762, 69811, 69815, 69817, 69819, 69826, 69827, 69888, 69891, 69927, 69932, 69933, 69941,
    70003, 70004, 70016, 70018, 70070, 70079, 70089, 70093, 70095, 70096, 70191, 70194, 70196,
    70197, 70198, 70200, 70206, 70207, 70209, 70210, 70367, 70368, 70371, 70379, 70400, 70402,
    70459, 70461, 70462, 70463, 70464, 70465, 70487, 70488, 70502, 70509, 70512, 70517, 70712,
    70720, 70722, 70725, 70726, 70727, 70750, 70751, 70832, 70833, 70835, 70841, 70842, 70843,
    70845, 70846, 70847, 70849, 70850, 70852, 71087, 71088, 71090, 71094, 71100, 71102, 71103,
    71105, 71132, 71134, 71219, 71227, 71229, 71230, 71231, 71233, 71339, 71340, 71341, 71342,
    71344, 71350, 71351, 71352, 71453, 71456, 71458, 71462, 71463, 71468, 71727, 71736, 71737,
    71739, 71984, 71985, 71995, 71997, 71998, 71999, 72003, 72004, 72148, 72152, 72154, 72156,
    72160, 72161, 72193, 72203, 72243, 72249, 72251, 72255, 72263, 72264, 72273, 72279, 72281,
    72284, 72330, 72343, 72344, 72346, 72752, 72759, 72760, 72766, 72767, 72768, 72850, 72872,
    72874, 72881, 72882, 72884, 72885, 72887, 73009, 73015, 73018, 73019, 73020, 73022, 73023,
    73030, 73031, 73032, 73104, 73106, 73109, 73110, 73111, 73112, 73459, 73461, 73472, 73474,
    73526, 73531, 73536, 73537, 73538, 73539, 78912, 78913, 78919, 78934, 92912, 92917, 92976,
    92983, 94031, 94032, 94095, 94099, 94180, 94181, 113821, 113823, 118528, 118574, 118576,
    118599, 119141, 119142, 119143, 119146, 119150, 119155, 119163, 119171, 119173, 119180,
    119210, 119214, 119362, 119365, 121344, 121399, 121403, 121453, 121461, 121462, 121476,
    121477, 121499, 121504, 121505, 121520, 122880, 122887, 122888, 122905, 122907, 122914,
    122915, 122917, 122918, 122923, 123023, 123024, 123184, 123191, 123566, 123567, 123628,
    123632, 124140, 124144, 125136, 125143, 125252, 125259, 127995, 128000, 917536, 917632,
    917760, 918000]

/-- Spacing marks. -/
def clusterSpacingSet : CodeSet where
  edges := #[2307, 2308, 2363, 2364, 2366, 2369, 2377, 2381, 2382, 2384, 2434, 2436, 2495, 2497, 2503, 2505,
    2507, 2509, 2563, 2564, 2622, 2625, 2691, 2692, 2750, 2753, 2761, 2762, 2763, 2765, 2818,
    2820, 2880, 2881, 2887, 2889, 2891, 2893, 3007, 3008, 3009, 3011, 3014, 3017, 3018, 3021,
    3073, 3076, 3137, 3141, 3202, 3204, 3262, 3263, 3264, 3266, 3267, 3269, 3271, 3273, 3274,
    3276, 3315, 3316, 3330, 3332, 3391, 3393, 3398, 3401, 3402, 3405, 3458, 3460, 3536, 3538,
    3544, 3551, 3570, 3572, 3635, 3636, 3763, 3764, 3902, 3904, 3967, 3968, 4145, 4146, 4155,
    4157, 4182, 4184, 4228, 4229, 5909, 5910, 5940, 5941, 6070, 6071, 6078, 6086, 6087, 6089,
    6435, 6439, 6441, 6444, 6448, 6450, 6451, 6457, 6681, 6683, 6741, 6742, 6743, 6744, 6765,
    6771, 6916, 6917, 6971, 6972, 6973, 6978, 6979, 6981, 7042, 7043, 7073, 7074, 7078, 7080,
    7082, 7083, 7143, 7144, 7146, 7149, 7150, 7151, 7154, 7156, 7204, 7212, 7220, 7222, 7393,
    7394, 7415, 7416, 43043, 43045, 43047, 43048, 43136, 43138, 43188, 43204, 43346, 43348,
    43395, 43396, 43444, 43446, 43450, 43452, 43454, 43457, 43567, 43569, 43571, 43573, 43597,
    43598, 43755, 43756, 43758, 43760, 43765, 43766, 44003, 44005, 44006, 44008, 44009, 44011,
    44012, 44013, 69632, 69633, 69634, 69635, 69762, 69763, 69808, 69811, 69815, 69817, 69932,
    69933, 69957, 69959, 70018, 70019, 70067, 70070, 70079, 70081, 70094, 70095, 70188, 70191,
    70194, 70196, 70197, 70198, 70368, 70371, 70402, 70404, 70463, 70464, 70465, 70469, 70471,
    70473, 70475, 70478, 70498, 70500, 70709, 70712, 70720, 70722, 70725, 70726, 70833, 70835,
    70841, 70842, 70843, 70845, 70846, 70847, 70849, 70850, 71088, 71090, 71096, 71100, 71102,
    71103, 71216, 71219, 71227, 71229, 71230, 71231, 71340, 71341, 71342, 71344, 71350, 71351,
    71462, 71463, 71724, 71727, 71736, 71737, 71985, 71990, 71991, 71993, 71997, 71998, 72000,
    72001, 72002, 72003, 72145, 72148, 72156, 72160, 72164, 72165, 72249, 72250, 72279, 72281,
    72343, 72344, 72751, 72752, 72766, 72767, 72873, 72874, 72881, 72882, 72884, 72885, 73098,
    73103, 73107, 73109, 73110, 73111, 73461, 73463, 73475, 73476, 73524, 73526, 73534, 73536,
    73537, 73538, 94033, 94088, 94192, 94194, 119142, 119143, 119149, 119150]

/-- Code points that join the cluster after them. -/
def clusterPrependSet : CodeSet where
  edges := #[1536, 1542, 1757, 1758, 1807, 1808, 2192, 2194, 2274, 2275, 3406, 3407, 69821, 69822, 69837,
    69838, 70082, 70084, 71999, 72000, 72001, 72002, 72250, 72251, 72324, 72330, 73030, 73031,
    73474, 73475]

/-- Code points with the `Extended_Pictographic` property. -/
def pictographicSet : CodeSet where
  edges := #[169, 170, 174, 175, 8252, 8253, 8265, 8266, 8482, 8483, 8505, 8506, 8596, 8602, 8617, 8619,
    8986, 8988, 9000, 9001, 9096, 9097, 9167, 9168, 9193, 9204, 9208, 9211, 9410, 9411, 9642,
    9644, 9654, 9655, 9664, 9665, 9723, 9727, 9728, 9734, 9735, 9747, 9748, 9862, 9872, 9990,
    9992, 10003, 10004, 10005, 10006, 10007, 10013, 10014, 10017, 10018, 10024, 10025, 10035,
    10037, 10052, 10053, 10055, 10056, 10060, 10061, 10062, 10063, 10067, 10070, 10071, 10072,
    10083, 10088, 10133, 10136, 10145, 10146, 10160, 10161, 10175, 10176, 10548, 10550, 11013,
    11016, 11035, 11037, 11088, 11089, 11093, 11094, 12336, 12337, 12349, 12350, 12951, 12952,
    12953, 12954, 126976, 127232, 127245, 127248, 127279, 127280, 127340, 127346, 127358,
    127360, 127374, 127375, 127377, 127387, 127405, 127462, 127489, 127504, 127514, 127515,
    127535, 127536, 127538, 127547, 127548, 127552, 127561, 127995, 128000, 128318, 128326,
    128592, 128640, 128768, 128884, 128896, 128981, 129024, 129036, 129040, 129096, 129104,
    129114, 129120, 129160, 129168, 129198, 129280, 129292, 129339, 129340, 129350, 129351,
    129792, 130048, 131070]

/-- Consonants that a linker joins into a conjunct. -/
def conjunctConsonantSet : CodeSet where
  edges := #[2325, 2362, 2392, 2400, 2424, 2432, 2453, 2473, 2474, 2481, 2482, 2483, 2486, 2490, 2524, 2526,
    2527, 2528, 2544, 2546, 2709, 2729, 2730, 2737, 2738, 2740, 2741, 2746, 2809, 2810, 2837,
    2857, 2858, 2865, 2866, 2868, 2869, 2874, 2908, 2910, 2911, 2912, 2929, 2930, 3093, 3113,
    3114, 3130, 3160, 3163, 3349, 3387]

/-- Linkers of conjuncts. -/
def conjunctLinkerSet : CodeSet where
  edges := #[2381, 2382, 2509, 2510, 2765, 2766, 2893, 2894, 3149, 3150, 3405, 3406]

/-- The role of a character in the cutting of clusters. -/
inductive ClusterClass where
  | other
  | carriageReturn
  | lineFeed
  | control
  | extend
  | joiner
  | spacing
  | prepend
  | flag
  | leading
  | vowel
  | trailing
  | syllable
  | closedSyllable
  | pictographic
  deriving DecidableEq

/-- The cluster class of a character. -/
def clusterClass (c : Char) : ClusterClass :=
  let n := c.toNat
  if n == 13 then .carriageReturn
  else if n == 10 then .lineFeed
  else if n < 32 || n == 127 then .control
  else if n < 128 then .other
  else if n == 0x200D then .joiner
  else if clusterControlSet.contains n then .control
  else if clusterExtendSet.contains n then .extend
  else if clusterSpacingSet.contains n then .spacing
  else if clusterPrependSet.contains n then .prepend
  else if 0x1F1E6 ≤ n && n ≤ 0x1F1FF then .flag
  else if (0x1100 ≤ n && n < 0x1160) || (0xA960 ≤ n && n < 0xA97D) then .leading
  else if (0x1160 ≤ n && n < 0x11A8) || (0xD7B0 ≤ n && n < 0xD7C7) then .vowel
  else if (0x11A8 ≤ n && n < 0x1200) || (0xD7CB ≤ n && n < 0xD7FC) then .trailing
  else if 0xAC00 ≤ n && n ≤ 0xD7A3 then
    if (n - 0xAC00) % 28 == 0 then .syllable else .closedSyllable
  else if pictographicSet.contains n then .pictographic
  else .other

/-- What the characters passed so far say about the next boundary. -/
structure ClusterState where
  /-- The class of the last character. -/
  last : ClusterClass
  /-- Whether an odd number of flag letters ends here. -/
  oddFlags : Bool
  /-- Whether a pictograph, followed by extenders only, ends here. -/
  pictograph : Bool
  /-- Whether that run ends in a joiner. -/
  pictographJoined : Bool
  /-- Whether a conjunct consonant, followed by extenders and linkers only, ends here. -/
  consonant : Bool
  /-- Whether that run holds a linker. -/
  linked : Bool

/-- The state after one more character. -/
def ClusterState.next (s : ClusterState) (c : Char) : ClusterState :=
  let k := clusterClass c
  let extending := k == .extend || k == .joiner
  let consonant := conjunctConsonantSet.has c
  let linker := conjunctLinkerSet.has c
  { last := k
    oddFlags := k == .flag && !(s.last == .flag && s.oddFlags)
    pictograph := k == .pictographic || (s.pictograph && k == .extend)
    pictographJoined := s.pictograph && k == .joiner
    consonant := consonant || (s.consonant && (extending || linker))
    linked := !consonant && s.consonant && (linker || (s.linked && extending)) }

/-- The state before any character. -/
def ClusterState.start (c : Char) : ClusterState :=
  ClusterState.next ⟨.control, false, false, false, false, false⟩ c

/-- Whether a cluster goes on with the given character. -/
def ClusterState.joins (s : ClusterState) (c : Char) : Bool :=
  let k := clusterClass c
  match s.last, k with
  | .carriageReturn, .lineFeed => true
  | .carriageReturn, _ | .lineFeed, _ | .control, _ => false
  | _, .carriageReturn | _, .lineFeed | _, .control => false
  | _, .extend | _, .joiner | _, .spacing => true
  | .prepend, _ => true
  | .leading, .leading | .leading, .vowel | .leading, .syllable | .leading, .closedSyllable => true
  | .syllable, .vowel | .syllable, .trailing | .vowel, .vowel | .vowel, .trailing => true
  | .closedSyllable, .trailing | .trailing, .trailing => true
  | .flag, .flag => s.oddFlags
  | .joiner, .pictographic => s.pictographJoined
  | _, _ => s.consonant && s.linked && conjunctConsonantSet.has c

/-- The clusters of the characters to come; `reading` is the cluster being read, last character
first. -/
def clustersFrom (s : ClusterState) (reading : List Char) : List Char → List (List Char)
  | [] => [reading.reverse]
  | c :: rest =>
      if s.joins c then clustersFrom (s.next c) (c :: reading) rest
      else reading.reverse :: clustersFrom (.start c) [c] rest

/-- The clusters of a text, in order. -/
def clusters : List Char → List (List Char)
  | [] => []
  | c :: rest => clustersFrom (.start c) [c] rest

end DocAccess.Text
