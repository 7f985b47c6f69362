import Mathlib.Data.Nat.Notation

/-!
# Text functions of Go's standard library

`strings.ToUpper` and `strconv.Quote`, with the functions of the package
`unicode` that they call.  A text is a list of valid characters, so the escapes of
`Quote` for bytes that are no UTF-8 do not occur.  The tables are those of
Unicode 15.0.0.
-/

namespace KubeStartupCPUBoost

namespace Unicode

/-- Ranges in which every second character, from the first on, is the lower case of
the character before it. -/
def upperLowerRanges : List (Nat × Nat) :=
  [(257, 303), (307, 311), (314, 328), (331, 375), (378, 382), (387, 389), (392, 392), (396, 396),
   (402, 402), (409, 409), (417, 421), (424, 424), (429, 429), (432, 432), (436, 438), (441, 441),
   (445, 445), (453, 453), (456, 456), (459, 459), (462, 476), (479, 495), (498, 498), (501, 501),
   (505, 543), (547, 563), (572, 572), (578, 578), (583, 591), (881, 883), (887, 887), (985, 1007),
   (1016, 1016), (1019, 1019), (1121, 1153), (1163, 1215), (1218, 1230), (1233, 1327), (7681, 7829),
   (7841, 7935), (8580, 8580), (11361, 11361), (11368, 11372), (11379, 11379), (11382, 11382),
   (11393, 11491), (11500, 11502), (11507, 11507), (42561, 42605), (42625, 42651), (42787, 42799),
   (42803, 42863), (42874, 42876), (42879, 42887), (42892, 42892), (42897, 42899), (42903, 42921),
   (42933, 42947), (42952, 42954), (42961, 42961), (42967, 42969), (42998, 42998)]

/-- Ranges of lower-case characters, with the distance to their upper case. -/
def upperShifts : List (Nat × Nat × Int) :=
  [(181, 181, 743), (224, 246, -32), (248, 254, -32), (255, 255, 121), (305, 305, -232),
   (383, 383, -300), (384, 384, 195), (405, 405, 97), (410, 410, 163), (414, 414, 130),
   (447, 447, 56), (454, 454, -2), (457, 457, -2), (460, 460, -2), (477, 477, -79), (499, 499, -2),
   (575, 576, 10815), (592, 592, 10783), (593, 593, 10780), (594, 594, 10782), (595, 595, -210),
   (596, 596, -206), (598, 599, -205), (601, 601, -202), (603, 603, -203), (604, 604, 42319),
   (608, 608, -205), (609, 609, 42315), (611, 611, -207), (613, 613, 42280), (614, 614, 42308),
   (616, 616, -209), (617, 617, -211), (618, 618, 42308), (619, 619, 10743), (620, 620, 42305),
   (623, 623, -211), (625, 625, 10749), (626, 626, -213), (629, 629, -214), (637, 637, 10727),
   (640, 640, -218), (642, 642, 42307), (643, 643, -218), (647, 647, 42282), (648, 648, -218),
   (649, 649, -69), (650, 651, -217), (652, 652, -71), (658, 658, -219), (669, 669, 42261),
   (670, 670, 42258), (837, 837, 84), (891, 893, 130), (940, 940, -38), (941, 943, -37),
   (945, 961, -32), (962, 962, -31), (963, 971, -32), (972, 972, -64), (973, 974, -63),
   (976, 976, -62), (977, 977, -57), (981, 981, -47), (982, 982, -54), (983, 983, -8),
   (1008, 1008, -86), (1009, 1009, -80), (1010, 1010, 7), (1011, 1011, -116), (1013, 1013, -96),
   (1072, 1103, -32), (1104, 1119, -80), (1231, 1231, -15), (1377, 1414, -48), (4304, 4346, 3008),
   (4349, 4351, 3008), (5112, 5117, -8), (7296, 7296, -6254), (7297, 7297, -6253),
   (7298, 7298, -6244), (7299, 7300, -6242), (7301, 7301, -6243), (7302, 7302, -6236),
   (7303, 7303, -6181), (7304, 7304, 35266), (7545, 7545, 35332), (7549, 7549, 3814),
   (7566, 7566, 35384), (7835, 7835, -59), (7936, 7943, 8), (7952, 7957, 8), (7968, 7975, 8),
   (7984, 7991, 8), (8000, 8005, 8), (8017, 8017, 8), (8019, 8019, 8), (8021, 8021, 8),
   (8023, 8023, 8), (8032, 8039, 8), (8048, 8049, 74), (8050, 8053, 86), (8054, 8055, 100),
   (8056, 8057, 128), (8058, 8059, 112), (8060, 8061, 126), (8064, 8071, 8), (8080, 8087, 8),
   (8096, 8103, 8), (8112, 8113, 8), (8115, 8115, 9), (8126, 8126, -7205), (8131, 8131, 9),
   (8144, 8145, 8), (8160, 8161, 8), (8165, 8165, 7), (8179, 8179, 9), (8526, 8526, -28),
   (8560, 8575, -16), (9424, 9449, -26), (11312, 11359, -48), (11365, 11365, -10795),
   (11366, 11366, -10792), (11520, 11557, -7264), (11559, 11559, -7264), (11565, 11565, -7264),
   (42900, 42900, 48), (43859, 43859, -928), (43888, 43967, -38864), (65345, 65370, -32),
   (66600, 66639, -40), (66776, 66811, -40), (66967, 66977, -39), (66979, 66993, -39),
   (66995, 67001, -39), (67003, 67004, -39), (68800, 68850, -64), (71872, 71903, -32),
   (93792, 93823, -32), (125218, 125251, -34)]

def toUpper (char : Char) : Char :=
  let code := char.toNat
  if code ≤ 0x7F then
    if 0x61 ≤ code ∧ code ≤ 0x7A then Char.ofNat (code - 0x20) else char
  else if upperLowerRanges.any fun range =>
      range.1 ≤ code && code ≤ range.2 && (code - range.1) % 2 == 0 then
    Char.ofNat (code - 1)
  else
    match upperShifts.find? fun range => range.1 ≤ code && code ≤ range.2.1 with
    | some (_, _, shift) => Char.ofNat (code + shift).toNat
    | none => char

/-- Ranges of characters after Latin-1 that are printed, up to single gaps. -/
def printRanges : List (Nat × Nat) :=
  [(256, 887), (890, 895), (900, 1366), (1369, 1418), (1421, 1479), (1488, 1514), (1519, 1524),
   (1542, 1805), (1808, 1866), (1869, 1969), (1984, 2042), (2045, 2093), (2096, 2139), (2142, 2154),
   (2160, 2190), (2200, 2444), (2447, 2448), (2451, 2482), (2486, 2489), (2492, 2500), (2503, 2504),
   (2507, 2510), (2519, 2519), (2524, 2531), (2534, 2558), (2561, 2570), (2575, 2576), (2579, 2617),
   (2620, 2626), (2631, 2632), (2635, 2637), (2641, 2641), (2649, 2654), (2662, 2678), (2689, 2745),
   (2748, 2765), (2768, 2768), (2784, 2787), (2790, 2801), (2809, 2828), (2831, 2832), (2835, 2873),
   (2876, 2884), (2887, 2888), (2891, 2893), (2901, 2903), (2908, 2915), (2918, 2935), (2946, 2954),
   (2958, 2965), (2969, 2975), (2979, 2980), (2984, 2986), (2990, 3001), (3006, 3010), (3014, 3021),
   (3024, 3024), (3031, 3031), (3046, 3066), (3072, 3129), (3132, 3149), (3157, 3162), (3165, 3165),
   (3168, 3171), (3174, 3183), (3191, 3257), (3260, 3277), (3285, 3286), (3293, 3299), (3302, 3315),
   (3328, 3407), (3412, 3427), (3430, 3478), (3482, 3517), (3520, 3526), (3530, 3530), (3535, 3551),
   (3558, 3567), (3570, 3572), (3585, 3642), (3647, 3675), (3713, 3773), (3776, 3801), (3804, 3807),
   (3840, 3948), (3953, 4058), (4096, 4295), (4301, 4301), (4304, 4685), (4688, 4701), (4704, 4749),
   (4752, 4789), (4792, 4805), (4808, 4885), (4888, 4954), (4957, 4988), (4992, 5017), (5024, 5109),
   (5112, 5117), (5120, 5788), (5792, 5880), (5888, 5909), (5919, 5942), (5952, 5971), (5984, 6003),
   (6016, 6109), (6112, 6121), (6128, 6137), (6144, 6169), (6176, 6264), (6272, 6314), (6320, 6389),
   (6400, 6443), (6448, 6459), (6464, 6464), (6468, 6509), (6512, 6516), (6528, 6571), (6576, 6601),
   (6608, 6618), (6622, 6683), (6686, 6780), (6783, 6793), (6800, 6809), (6816, 6829), (6832, 6862),
   (6912, 6988), (6992, 7155), (7164, 7223), (7227, 7241), (7245, 7304), (7312, 7354), (7357, 7367),
   (7376, 7418), (7424, 7957), (7960, 7965), (7968, 8005), (8008, 8013), (8016, 8061), (8064, 8147),
   (8150, 8175), (8178, 8190), (8208, 8231), (8240, 8286), (8304, 8305), (8308, 8348), (8352, 8384),
   (8400, 8432), (8448, 8587), (8592, 9254), (9280, 9290), (9312, 11123), (11126, 11507),
   (11513, 11559), (11565, 11565), (11568, 11623), (11631, 11632), (11647, 11670), (11680, 11869),
   (11904, 12019), (12032, 12245), (12272, 12283), (12289, 12438), (12441, 12543), (12549, 12771),
   (12784, 42124), (42128, 42182), (42192, 42539), (42560, 42743), (42752, 42954), (42960, 42969),
   (42994, 43052), (43056, 43065), (43072, 43127), (43136, 43205), (43214, 43225), (43232, 43347),
   (43359, 43388), (43392, 43481), (43486, 43574), (43584, 43597), (43600, 43609), (43612, 43714),
   (43739, 43766), (43777, 43782), (43785, 43790), (43793, 43798), (43808, 43883), (43888, 44013),
   (44016, 44025), (44032, 55203), (55216, 55238), (55243, 55291), (63744, 64109), (64112, 64217),
   (64256, 64262), (64275, 64279), (64285, 64450), (64467, 64911), (64914, 64967), (64975, 64975),
   (65008, 65049), (65056, 65131), (65136, 65276), (65281, 65470), (65474, 65479), (65482, 65487),
   (65490, 65495), (65498, 65500), (65504, 65518), (65532, 65533), (65536, 65613), (65616, 65629),
   (65664, 65786), (65792, 65794), (65799, 65843), (65847, 65948), (65952, 65952), (66000, 66045),
   (66176, 66204), (66208, 66256), (66272, 66299), (66304, 66339), (66349, 66378), (66384, 66426),
   (66432, 66499), (66504, 66517), (66560, 66717), (66720, 66729), (66736, 66771), (66776, 66811),
   (66816, 66855), (66864, 66915), (66927, 67004), (67072, 67382), (67392, 67413), (67424, 67431),
   (67456, 67514), (67584, 67589), (67592, 67640), (67644, 67644), (67647, 67742), (67751, 67759),
   (67808, 67829), (67835, 67867), (67871, 67897), (67903, 67903), (67968, 68023), (68028, 68047),
   (68050, 68102), (68108, 68149), (68152, 68154), (68159, 68168), (68176, 68184), (68192, 68255),
   (68288, 68326), (68331, 68342), (68352, 68405), (68409, 68437), (68440, 68466), (68472, 68497),
   (68505, 68508), (68521, 68527), (68608, 68680), (68736, 68786), (68800, 68850), (68858, 68903),
   (68912, 68921), (69216, 69293), (69296, 69297), (69373, 69415), (69424, 69465), (69488, 69513),
   (69552, 69579), (69600, 69622), (69632, 69709), (69714, 69749), (69759, 69826), (69840, 69864),
   (69872, 69881), (69888, 69959), (69968, 70006), (70016, 70132), (70144, 70209), (70272, 70313),
   (70320, 70378), (70384, 70393), (70400, 70412), (70415, 70416), (70419, 70468), (70471, 70472),
   (70475, 70477), (70480, 70480), (70487, 70487), (70493, 70499), (70502, 70508), (70512, 70516),
   (70656, 70753), (70784, 70855), (70864, 70873), (71040, 71093), (71096, 71133), (71168, 71236),
   (71248, 71257), (71264, 71276), (71296, 71353), (71360, 71369), (71424, 71450), (71453, 71467),
   (71472, 71494), (71680, 71739), (71840, 71922), (71935, 71942), (71945, 71945), (71948, 71992),
   (71995, 72006), (72016, 72025), (72096, 72103), (72106, 72151), (72154, 72164), (72192, 72263),
   (72272, 72354), (72368, 72440), (72448, 72457), (72704, 72773), (72784, 72812), (72816, 72847),
   (72850, 72886), (72960, 73014), (73018, 73031), (73040, 73049), (73056, 73112), (73120, 73129),
   (73440, 73464), (73472, 73530), (73534, 73561), (73648, 73648), (73664, 73713), (73727, 74649),
   (74752, 74868), (74880, 75075), (77712, 77810), (77824, 78895), (78912, 78933), (82944, 83526),
   (92160, 92728), (92736, 92777), (92782, 92873), (92880, 92909), (92912, 92917), (92928, 92997),
   (93008, 93047), (93053, 93071), (93760, 93850), (93952, 94026), (94031, 94087), (94095, 94111),
   (94176, 94180), (94192, 94193), (94208, 100343), (100352, 101589), (101632, 101640),
   (110576, 110882), (110898, 110898), (110928, 110930), (110933, 110933), (110948, 110951),
   (110960, 111355), (113664, 113770), (113776, 113788), (113792, 113800), (113808, 113817),
   (113820, 113823), (118528, 118573), (118576, 118598), (118608, 118723), (118784, 119029),
   (119040, 119078), (119081, 119154), (119163, 119274), (119296, 119365), (119488, 119507),
   (119520, 119539), (119552, 119638), (119648, 119672), (119808, 119967), (119970, 119970),
   (119973, 119974), (119977, 120074), (120077, 120134), (120138, 120485), (120488, 120779),
   (120782, 121483), (121499, 121519), (122624, 122654), (122661, 122666), (122880, 122904),
   (122907, 122922), (122928, 122989), (123023, 123023), (123136, 123180), (123184, 123197),
   (123200, 123209), (123214, 123215), (123536, 123566), (123584, 123641), (123647, 123647),
   (124112, 124153), (124896, 125124), (125127, 125142), (125184, 125259), (125264, 125273),
   (125278, 125279), (126065, 126132), (126209, 126269), (126464, 126500), (126503, 126523),
   (126530, 126530), (126535, 126548), (126551, 126564), (126567, 126619), (126625, 126651),
   (126704, 126705), (126976, 127019), (127024, 127123), (127136, 127150), (127153, 127221),
   (127232, 127405), (127462, 127490), (127504, 127547), (127552, 127560), (127568, 127569),
   (127584, 127589), (127744, 128727), (128732, 128748), (128752, 128764), (128768, 128886),
   (128891, 128985), (128992, 129003), (129008, 129008), (129024, 129035), (129040, 129095),
   (129104, 129113), (129120, 129159), (129168, 129197), (129200, 129201), (129280, 129619),
   (129632, 129645), (129648, 129660), (129664, 129672), (129680, 129733), (129742, 129755),
   (129760, 129768), (129776, 129784), (129792, 129994), (130032, 130041), (131072, 173791),
   (173824, 177977), (177984, 178205), (178208, 183969), (183984, 191456), (194560, 195101),
   (196608, 201546), (201552, 205743), (917760, 917999)]

/-- The characters in these ranges that are not printed. -/
def printGaps : List Nat :=
  [907, 909, 930, 1328, 1424, 1564, 1757, 2111, 2143, 2274, 2436, 2473, 2481, 2526, 2564, 2601,
   2609, 2612, 2615, 2621, 2653, 2692, 2702, 2706, 2729, 2737, 2740, 2758, 2762, 2816, 2820, 2857,
   2865, 2868, 2910, 2948, 2961, 2971, 2973, 3017, 3085, 3089, 3113, 3141, 3145, 3159, 3213, 3217,
   3241, 3252, 3269, 3273, 3295, 3312, 3341, 3345, 3397, 3401, 3456, 3460, 3506, 3516, 3541, 3543,
   3715, 3717, 3723, 3748, 3750, 3781, 3783, 3791, 3912, 3992, 4029, 4045, 4294, 4681, 4695, 4697,
   4745, 4785, 4799, 4801, 4823, 4881, 5760, 5997, 6001, 6158, 6431, 6751, 7039, 8024, 8026, 8028,
   8030, 8117, 8133, 8156, 8181, 8335, 11158, 11558, 11687, 11695, 11703, 11711, 11719, 11727,
   11735, 11743, 11930, 12352, 12592, 12687, 12831, 42962, 42964, 43470, 43519, 43815, 43823, 64311,
   64317, 64319, 64322, 64325, 65107, 65127, 65141, 65511, 65548, 65575, 65595, 65598, 65935, 66462,
   66939, 66955, 66963, 66966, 66978, 66994, 67002, 67462, 67505, 67593, 67638, 67670, 67827, 68100,
   68116, 68120, 69247, 69290, 69821, 69941, 70112, 70162, 70279, 70281, 70286, 70302, 70404, 70441,
   70449, 70452, 70458, 70748, 71956, 71959, 71990, 72713, 72759, 72872, 72967, 72970, 73019, 73022,
   73062, 73065, 73103, 73106, 73489, 74863, 92767, 92863, 93018, 93026, 110580, 110588, 110591,
   119893, 119965, 119981, 119994, 119996, 120004, 120070, 120085, 120093, 120122, 120127, 120133,
   120145, 121504, 122887, 122914, 122917, 124903, 124908, 124911, 124927, 126468, 126496, 126499,
   126504, 126515, 126520, 126522, 126536, 126538, 126540, 126544, 126547, 126552, 126554, 126556,
   126558, 126560, 126563, 126571, 126579, 126584, 126589, 126591, 126602, 126628, 126634, 127168,
   127184, 129726, 129939]

/-- Letters, marks, numbers, punctuation, symbols and the space of ASCII. -/
def isPrint (char : Char) : Bool :=
  let code := char.toNat
  if code ≤ 0xFF then
    (0x20 ≤ code && code < 0x7F) || (0xA1 ≤ code && code != 0xAD)
  else
    (printRanges.any fun range => range.1 ≤ code && code ≤ range.2) && !printGaps.contains code

end Unicode

def Strings.toUpper (text : String) : String :=
  String.ofList (text.toList.map Unicode.toUpper)

example : Strings.toUpper "Beta-é" = "BETA-É" := by decide +kernel

namespace Strconv

/-- The last digits of a number in base 16. -/
def hexDigits (width number : Nat) : String :=
  String.ofList ((List.range width).reverse.map fun place =>
    Nat.digitChar (number >>> (4 * place) &&& 0xF))

def appendEscapedRune (text : String) (char : Char) : String :=
  let code := char.toNat
  -- A double quote and a backslash are always escaped.
  if code = 0x22 ∨ code = 0x5C then (text ++ "\\").push char
  else if Unicode.isPrint char then text.push char
  else
    text ++
      match code with
      | 0x07 => "\\a"
      | 0x08 => "\\b"
      | 0x0C => "\\f"
      | 0x0A => "\\n"
      | 0x0D => "\\r"
      | 0x09 => "\\t"
      | 0x0B => "\\v"
      | _ =>
          if code < 0x20 ∨ code = 0x7F then "\\x" ++ hexDigits 2 code
          else if code < 0x10000 then "\\u" ++ hexDigits 4 code
          else "\\U" ++ hexDigits 8 code

def quote (text : String) : String :=
  text.toList.foldl appendEscapedRune "\"" ++ "\""

example : quote "5 \"s\"\n" = "\"5 \\\"s\\\"\\n\"" := by decide +kernel

end Strconv

end KubeStartupCPUBoost
