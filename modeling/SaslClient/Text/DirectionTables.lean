import SaslClient.Text.CodeSet

/-!
# Direction data

The sets of Unicode 17 that give characters a direction of writing. They tell apart the characters
that names of hosts are written with; others may count as their neighbours do.

* `rightToLeft`: letters of scripts that run from right to left.
* `arabicDigits`, `digits`: digits that run with those scripts, and digits that fit either way.
* `nonspacing`: marks that stand on the character before them.
* `neutral`: signs that take the direction of what is around them.
-/

namespace SaslClient.Text

/-- Letters that run from right to left. -/
def rightToLeft : CodeSet := ⟨[
  1470, 1471, 1472, 1473, 1475, 1476, 1478, 1479, 1488, 1525, 1544, 1545, 1547, 1548, 1549, 1550,
  1563, 1611, 1645, 1648, 1649, 1750, 1765, 1767, 1774, 1776, 1786, 1809, 1810, 1840, 1869, 1958,
  1969, 2027, 2036, 2038, 2042, 2043, 2046, 2070, 2074, 2075, 2084, 2085, 2088, 2089, 2096, 2137,
  2142, 2192, 2208, 2250, 64434, 64451, 65139, 65140, 67584, 67868, 67872, 68097, 68112, 68150,
  68160, 68325, 68331, 68406, 68416, 68900, 68938, 68944, 68975, 69008, 69248, 69290, 69293,
  69320, 69376, 69446, 69457, 69506, 69510, 69623, 124928, 125136, 125218, 125252, 125259, 126270]⟩

/-- Digits that stand in text that runs from right to left. -/
def arabicDigits : CodeSet := ⟨[1632, 1642, 1643, 1645, 68912, 68922, 68928, 68938, 69216, 69247]⟩

/-- Digits that fit either direction. -/
def digits : CodeSet := ⟨[48, 58, 1776, 1786, 66273, 66300]⟩

/-- Marks that take no place of their own. -/
def nonspacing : CodeSet := ⟨[
  768, 880, 1155, 1162, 1425, 1470, 1471, 1472, 1473, 1475, 1476, 1478, 1479, 1480, 1552, 1563,
  1611, 1632, 1648, 1649, 1750, 1757, 1759, 1765, 1767, 1769, 1770, 1774, 1809, 1810, 1840, 1867,
  1958, 1969, 2027, 2036, 2045, 2046, 2070, 2074, 2075, 2084, 2085, 2088, 2089, 2094, 2137, 2140,
  2199, 2208, 2250, 2307, 2362, 2363, 2364, 2365, 2369, 2377, 2381, 2382, 2385, 2392, 2402, 2404,
  2433, 2434, 2492, 2493, 2497, 2501, 2509, 2510, 2530, 2532, 2558, 2563, 2620, 2621, 2625, 2642,
  2672, 2674, 2677, 2678, 2689, 2691, 2748, 2749, 2753, 2761, 2765, 2766, 2786, 2788, 2810, 2818,
  2876, 2877, 2879, 2880, 2881, 2885, 2893, 2903, 2914, 2916, 2946, 2947, 3008, 3009, 3021, 3022,
  3072, 3073, 3076, 3077, 3132, 3133, 3134, 3137, 3142, 3159, 3170, 3172, 3201, 3202, 3260, 3261,
  3276, 3278, 3298, 3300, 3328, 3330, 3387, 3389, 3393, 3397, 3405, 3406, 3426, 3428, 3457, 3458,
  3530, 3531, 3538, 3543, 3633, 3634, 3636, 3643, 3655, 3663, 3761, 3762, 3764, 3773, 3784, 3791,
  3864, 3866, 3893, 3894, 3895, 3896, 3897, 3898, 3953, 3967, 3968, 3973, 3974, 3976, 3981, 4029,
  4038, 4039, 4141, 4145, 4146, 4152, 4153, 4155, 4157, 4159, 4184, 4186, 4190, 4193, 4209, 4213,
  4226, 4227, 4229, 4231, 4237, 4238, 4253, 4254, 4957, 4960, 5906, 5909, 5938, 5940, 5970, 5972,
  6002, 6004, 6071, 6078, 6086, 6087, 6089, 6100, 6109, 6110, 6277, 6279, 6313, 6314, 6432, 6435,
  6439, 6441, 6450, 6451, 6457, 6460, 6679, 6681, 6683, 6684, 6742, 6743, 6744, 6753, 6754, 6755,
  6757, 6765, 6771, 6784, 6832, 6916, 6964, 6965, 6966, 6971, 6972, 6973, 6978, 6979, 7019, 7028,
  7040, 7042, 7074, 7078, 7080, 7082, 7083, 7086, 7142, 7143, 7144, 7146, 7149, 7150, 7151, 7154,
  7212, 7220, 7222, 7224, 7376, 7379, 7380, 7393, 7394, 7401, 7405, 7406, 7412, 7413, 7416, 7418,
  7616, 7680, 8400, 8433, 11503, 11506, 11647, 11648, 11744, 11776, 12330, 12334, 12441, 12443,
  42607, 42611, 42612, 42622, 42654, 42656, 42736, 42738, 43010, 43011, 43014, 43015, 43019,
  43020, 43045, 43047, 43052, 43053, 43204, 43206, 43232, 43250, 43263, 43264, 43302, 43310,
  43335, 43346, 43392, 43395, 43443, 43444, 43446, 43450, 43452, 43454, 43493, 43494, 43561,
  43567, 43569, 43571, 43573, 43575, 43587, 43588, 43596, 43597, 43644, 43645, 43696, 43697,
  43698, 43701, 43703, 43705, 43710, 43712, 43713, 43714, 43756, 43758, 43766, 43767, 44005,
  44006, 44008, 44009, 44013, 44014, 64286, 64287, 65056, 65072, 66045, 66046, 66272, 66273,
  66422, 66427, 68097, 68112, 68152, 68160, 68325, 68327, 68900, 68904, 68969, 68974, 69291,
  69293, 69370, 69376, 69446, 69457, 69506, 69510, 69633, 69634, 69688, 69703, 69744, 69745,
  69747, 69749, 69759, 69762, 69811, 69815, 69817, 69819, 69826, 69827, 69888, 69891, 69927,
  69932, 69933, 69941, 70003, 70004, 70016, 70018, 70070, 70079, 70089, 70093, 70095, 70096,
  70191, 70194, 70196, 70197, 70198, 70200, 70206, 70207, 70209, 70210, 70367, 70368, 70371,
  70379, 70400, 70402, 70459, 70461, 70464, 70465, 70502, 70517, 70587, 70593, 70606, 70607,
  70608, 70609, 70610, 70611, 70625, 70627, 70712, 70720, 70722, 70725, 70726, 70727, 70750,
  70751, 70835, 70841, 70842, 70843, 70847, 70849, 70850, 70852, 71090, 71094, 71100, 71102,
  71103, 71105, 71132, 71134, 71219, 71227, 71229, 71230, 71231, 71233, 71339, 71340, 71341,
  71342, 71344, 71350, 71351, 71352, 71453, 71454, 71455, 71456, 71458, 71462, 71463, 71468,
  71727, 71736, 71737, 71739, 71995, 71997, 71998, 71999, 72003, 72004, 72148, 72156, 72160,
  72161, 72193, 72199, 72201, 72203, 72243, 72249, 72251, 72255, 72263, 72264, 72273, 72279,
  72281, 72284, 72330, 72343, 72344, 72346, 72544, 72545, 72546, 72549, 72550, 72551, 72752,
  72766, 72850, 72872, 72874, 72881, 72882, 72884, 72885, 72887, 73009, 73030, 73031, 73032,
  73104, 73106, 73109, 73110, 73111, 73112, 73459, 73461, 73472, 73474, 73526, 73531, 73536,
  73537, 73538, 73539, 73562, 73563, 78912, 78913, 78919, 78934, 90398, 90410, 90413, 90416,
  92912, 92917, 92976, 92983, 94031, 94032, 94095, 94099, 94180, 94181, 113821, 113823, 118528,
  118599, 119143, 119146, 119163, 119171, 119173, 119180, 119210, 119214, 119362, 119365, 121344,
  121399, 121403, 121453, 121461, 121462, 121476, 121477, 121499, 121520, 122880, 123024, 123184,
  123191, 123566, 123567, 123628, 123632, 124140, 124144, 124398, 124400, 124643, 124644, 124646,
  124647, 124654, 124656, 124661, 124662, 125136, 125143, 125252, 125259]⟩

/-- Signs without a direction. -/
def neutral : CodeSet := ⟨[
  33, 48, 58, 97, 123, 216, 247, 248, 697, 699, 706, 720, 722, 750, 751, 768, 885, 886, 1014,
  1015, 1418, 1424, 1542, 1544, 1545, 1547, 1548, 1549, 1550, 1552, 1642, 1643, 1758, 1759, 1769,
  1770, 2038, 2042, 2546, 2548, 2555, 2556, 2801, 2802, 3059, 3067, 3192, 3199, 3647, 3648, 3898,
  3902, 5008, 5018, 5120, 5121, 5787, 5789, 6107, 6108, 6128, 6155, 6464, 6470, 6622, 6656, 8204,
  8386, 8452, 8526, 8586, 9014, 9083, 9109, 9110, 9900, 9901, 10240, 10496, 11264, 11493, 11499,
  11513, 11520, 11776, 12293, 12296, 12321, 12336, 12337, 12343, 12344, 12349, 12352, 12448,
  12449, 12539, 12540, 12736, 12774, 19904, 19968, 42128, 42183, 42509, 42512, 42611, 42612,
  42622, 42624, 42752, 42786, 42888, 42889, 43048, 43052, 43064, 43066, 43124, 43128, 43882,
  43884, 64451, 65024, 65093, 65095, 65793, 65794, 65856, 65933, 65936, 65953, 67871, 67872,
  68409, 68416, 68974, 68975, 69328, 69337, 69714, 69734, 71264, 71277, 73685, 73714, 94178,
  94179, 117760, 118513, 119273, 119362, 119365, 119366, 119552, 119639, 123647, 123648, 126704,
  127280, 127341, 127344, 127405, 127406, 127584, 130043]⟩

end SaslClient.Text
