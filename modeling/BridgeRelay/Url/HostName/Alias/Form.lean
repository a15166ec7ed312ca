/-!
# Forms of letters

Forms that letters take beside others, and narrow and wide forms, each of which stands for one letter.
-/

namespace BridgeRelay.Url.HostName

/-- The forms of letters, by the first of a row of neighbours and what these stand for. -/
def formAliases : List (Nat × List Nat) :=
  [(0xfb20, [0x5e2, 0x5d0, 0x5d3, 0x5d4]), (0xfb27, [0x5e8, 0x5ea, 0x2b]), (0xfb50, [0x671, 0x671, 0x67b, 0x67b,
   0x67b, 0x67b, 0x67e, 0x67e, 0x67e, 0x67e, 0x680, 0x680, 0x680, 0x680, 0x67a, 0x67a, 0x67a, 0x67a, 0x67f, 0x67f,
   0x67f, 0x67f, 0x679, 0x679, 0x679, 0x679, 0x6a4, 0x6a4, 0x6a4, 0x6a4, 0x6a6, 0x6a6, 0x6a6, 0x6a6, 0x684, 0x684,
   0x684, 0x684, 0x683, 0x683, 0x683, 0x683, 0x686, 0x686, 0x686, 0x686, 0x687, 0x687, 0x687, 0x687, 0x68d, 0x68d,
   0x68c, 0x68c, 0x68e, 0x68e, 0x688, 0x688, 0x698, 0x698, 0x691, 0x691, 0x6a9, 0x6a9, 0x6a9, 0x6a9, 0x6af, 0x6af,
   0x6af, 0x6af, 0x6b3, 0x6b3, 0x6b3, 0x6b3, 0x6b1, 0x6b1, 0x6b1, 0x6b1, 0x6ba, 0x6ba, 0x6bb, 0x6bb, 0x6bb, 0x6bb,
   0x6c0, 0x6c0, 0x6c1, 0x6c1, 0x6c1, 0x6c1, 0x6be, 0x6be, 0x6be, 0x6be, 0x6d2, 0x6d2, 0x6d3, 0x6d3]),
   (0xfbd3, [0x6ad, 0x6ad, 0x6ad, 0x6ad, 0x6c7, 0x6c7, 0x6c6, 0x6c6, 0x6c8, 0x6c8]), (0xfbde, [0x6cb, 0x6cb, 0x6c5,
   0x6c5, 0x6c9, 0x6c9, 0x6d0, 0x6d0, 0x6d0, 0x6d0, 0x649, 0x649]), (0xfbfc, [0x6cc, 0x6cc, 0x6cc, 0x6cc]),
   (0xfe10, [0x2c, 0x3001]), (0xfe13, [0x3a, 0x3b, 0x21, 0x3f, 0x3016, 0x3017]), (0xfe31, [0x2014, 0x2013, 0x5f, 0x5f,
   0x28, 0x29, 0x7b, 0x7d, 0x3014, 0x3015, 0x3010, 0x3011, 0x300a, 0x300b, 0x3008, 0x3009]), (0xfe47, [0x5b, 0x5d]),
   (0xfe4d, [0x5f, 0x5f, 0x5f, 0x2c, 0x3001]), (0xfe54, [0x3b, 0x3a, 0x3f, 0x21, 0x2014, 0x28, 0x29, 0x7b, 0x7d,
   0x3014, 0x3015, 0x23, 0x26, 0x2a, 0x2b, 0x2d, 0x3c, 0x3e, 0x3d]), (0xfe68, [0x5c, 0x24, 0x25, 0x40]),
   (0xfe80, [0x621, 0x622, 0x622, 0x623, 0x623, 0x624, 0x624, 0x625, 0x625, 0x626, 0x626, 0x626, 0x626, 0x627, 0x627,
   0x628, 0x628, 0x628, 0x628, 0x629, 0x629, 0x62a, 0x62a, 0x62a, 0x62a, 0x62b, 0x62b, 0x62b, 0x62b, 0x62c, 0x62c,
   0x62c, 0x62c, 0x62d, 0x62d, 0x62d, 0x62d, 0x62e, 0x62e, 0x62e, 0x62e, 0x62f, 0x62f, 0x630, 0x630, 0x631, 0x631,
   0x632, 0x632, 0x633, 0x633, 0x633, 0x633, 0x634, 0x634, 0x634, 0x634, 0x635, 0x635, 0x635, 0x635, 0x636, 0x636,
   0x636, 0x636, 0x637, 0x637, 0x637, 0x637, 0x638, 0x638, 0x638, 0x638, 0x639, 0x639, 0x639, 0x639, 0x63a, 0x63a,
   0x63a, 0x63a, 0x641, 0x641, 0x641, 0x641, 0x642, 0x642, 0x642, 0x642, 0x643, 0x643, 0x643, 0x643, 0x644, 0x644,
   0x644, 0x644, 0x645, 0x645, 0x645, 0x645, 0x646, 0x646, 0x646, 0x646, 0x647, 0x647, 0x647, 0x647, 0x648, 0x648,
   0x649, 0x649, 0x64a, 0x64a, 0x64a, 0x64a]), (0xff5f, [0x2985, 0x2986, 0x2e, 0x300c, 0x300d, 0x3001, 0x30fb, 0x30f2,
   0x30a1, 0x30a3, 0x30a5, 0x30a7, 0x30a9, 0x30e3, 0x30e5, 0x30e7, 0x30c3, 0x30fc, 0x30a2, 0x30a4, 0x30a6, 0x30a8,
   0x30aa, 0x30ab, 0x30ad, 0x30af, 0x30b1, 0x30b3, 0x30b5, 0x30b7, 0x30b9, 0x30bb, 0x30bd, 0x30bf, 0x30c1, 0x30c4,
   0x30c6, 0x30c8]), (0xff8b, [0x30d2, 0x30d5, 0x30d8, 0x30db]), (0xff94, [0x30e4, 0x30e6]),
   (0xff9c, [0x30ef, 0x30f3, 0x3099, 0x309a]), (0xffa1, [0x1100, 0x1101, 0x11aa, 0x1102, 0x11ac, 0x11ad]),
   (0xffb0, [0x111a]), (0xffb4, [0x1121]), (0xffe0, [0xa2, 0xa3, 0xac]), (0xffe4, [0xa6, 0xa5, 0x20a9]),
   (0xffe8, [0x2502]), (0xffed, [0x25a0, 0x25cb]), (0x1ee00, [0x627, 0x628, 0x62c, 0x62f]),
   (0x1ee05, [0x648, 0x632, 0x62d, 0x637, 0x64a]), (0x1ee0e, [0x633, 0x639, 0x641, 0x635, 0x642, 0x631, 0x634, 0x62a,
   0x62b, 0x62e, 0x630, 0x636, 0x638, 0x63a, 0x66e, 0x6ba, 0x6a1, 0x66f]), (0x1ee21, [0x628, 0x62c]),
   (0x1ee24, [0x647]), (0x1ee27, [0x62d]), (0x1ee29, [0x64a]), (0x1ee2e, [0x633, 0x639, 0x641, 0x635, 0x642]),
   (0x1ee34, [0x634, 0x62a, 0x62b, 0x62e]), (0x1ee39, [0x636]), (0x1ee3b, [0x63a]), (0x1ee42, [0x62c]),
   (0x1ee47, [0x62d]), (0x1ee49, [0x64a]), (0x1ee4b, [0x644]), (0x1ee4d, [0x646, 0x633, 0x639]),
   (0x1ee51, [0x635, 0x642]), (0x1ee54, [0x634]), (0x1ee57, [0x62e]), (0x1ee59, [0x636]), (0x1ee5b, [0x63a]),
   (0x1ee5d, [0x6ba]), (0x1ee5f, [0x66f]), (0x1ee61, [0x628, 0x62c]), (0x1ee64, [0x647]),
   (0x1ee67, [0x62d, 0x637, 0x64a, 0x643]), (0x1ee6c, [0x645, 0x646, 0x633, 0x639, 0x641, 0x635, 0x642]),
   (0x1ee74, [0x634, 0x62a, 0x62b, 0x62e]), (0x1ee79, [0x636, 0x638, 0x63a, 0x66e]), (0x1ee7e, [0x6a1]),
   (0x1ee80, [0x627, 0x628, 0x62c, 0x62f, 0x647, 0x648, 0x632, 0x62d, 0x637, 0x64a]), (0x1ee8e, [0x633, 0x639, 0x641,
   0x635, 0x642, 0x631, 0x634, 0x62a, 0x62b, 0x62e, 0x630, 0x636, 0x638, 0x63a]), (0x1eea1, [0x628, 0x62c, 0x62f]),
   (0x1eea5, [0x648, 0x632, 0x62d, 0x637, 0x64a]), (0x1eeae, [0x633, 0x639, 0x641, 0x635, 0x642, 0x631, 0x634, 0x62a,
   0x62b, 0x62e, 0x630, 0x636, 0x638, 0x63a])]

end BridgeRelay.Url.HostName
