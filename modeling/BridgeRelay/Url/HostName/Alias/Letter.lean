/-!
# Letters that stand for others

Letters and signs that stand for one other character: capitals, letters in special shapes, and letters that were given
two numbers.
-/

namespace BridgeRelay.Url.HostName

/-- The characters that stand for one other, by the first of a row of neighbours and what these stand for. -/
def letterAliases : List (Nat × List Nat) :=
  [(0xa0, [0x20]), (0xaa, [0x61]), (0xb2, [0x32, 0x33]), (0xb5, [0x3bc]), (0xb9, [0x31, 0x6f]), (0x134, [0x135]),
   (0x136, [0x137]), (0x178, [0xff]), (0x17f, [0x73]), (0x181, [0x253, 0x183]), (0x184, [0x185]),
   (0x186, [0x254, 0x188]), (0x189, [0x256, 0x257, 0x18c]), (0x18e, [0x1dd, 0x259, 0x25b, 0x192]),
   (0x193, [0x260, 0x263]), (0x196, [0x269, 0x268, 0x199]), (0x19c, [0x26f, 0x272]), (0x19f, [0x275]),
   (0x1a6, [0x280, 0x1a8]), (0x1a9, [0x283]), (0x1ac, [0x1ad]), (0x1ae, [0x288, 0x1b0]),
   (0x1b1, [0x28a, 0x28b, 0x1b4]), (0x1b5, [0x1b6]), (0x1b7, [0x292, 0x1b9]), (0x1bc, [0x1bd]), (0x1f4, [0x1f5]),
   (0x1f6, [0x195, 0x1bf]), (0x220, [0x19e]), (0x23a, [0x2c65, 0x23c]), (0x23d, [0x19a, 0x2c66]), (0x241, [0x242]),
   (0x243, [0x180, 0x289, 0x28c]), (0x2b0, [0x68, 0x266, 0x6a, 0x72, 0x279, 0x27b, 0x281, 0x77, 0x79]),
   (0x2e0, [0x263, 0x6c, 0x73, 0x78, 0x295]), (0x340, [0x300, 0x301]), (0x343, [0x313]), (0x345, [0x3b9]),
   (0x370, [0x371]), (0x372, [0x373]), (0x374, [0x2b9]), (0x376, [0x377]), (0x37e, [0x3b, 0x3f3]),
   (0x386, [0x3ac, 0xb7]), (0x38c, [0x3cc]), (0x38e, [0x3cd, 0x3ce]),
   (0x3cf, [0x3d7, 0x3b2, 0x3b8, 0x3c5, 0x3cd, 0x3cb, 0x3c6, 0x3c0]), (0x3f0, [0x3ba, 0x3c1, 0x3c3]),
   (0x3f4, [0x3b8, 0x3b5]), (0x3f7, [0x3f8]), (0x3f9, [0x3c3, 0x3fb]), (0x4c0, [0x4cf]), (0xf0c, [0xf0b]),
   (0x10c7, [0x2d27]), (0x10cd, [0x2d2d]), (0x10fc, [0x10dc]), (0x1c80, [0x432, 0x434, 0x43e, 0x441, 0x442, 0x442,
   0x44a, 0x463, 0xa64b, 0x1c8a]), (0x1d2c, [0x61, 0xe6, 0x62]), (0x1d30, [0x64, 0x65, 0x1dd]), (0x1d3c, [0x6f, 0x223,
   0x70, 0x72, 0x74, 0x75, 0x77, 0x61, 0x250, 0x251, 0x1d02, 0x62, 0x64, 0x65, 0x259, 0x25b, 0x25c, 0x67]),
   (0x1d4f, [0x6b, 0x6d, 0x14b, 0x6f, 0x254, 0x1d16, 0x1d17, 0x70, 0x74, 0x75, 0x1d1d, 0x26f, 0x76, 0x1d25]),
   (0x1d60, [0x3c6, 0x3c7, 0x69, 0x72, 0x75, 0x76, 0x3b2, 0x3b3, 0x3c1, 0x3c6, 0x3c7]), (0x1d78, [0x43d]),
   (0x1d9b, [0x252, 0x63, 0x255, 0xf0, 0x25c, 0x66, 0x25f, 0x261, 0x265]),
   (0x1da7, [0x1d7b, 0x29d, 0x26d, 0x1d85, 0x29f, 0x271, 0x270]), (0x1db2, [0x278, 0x282, 0x283, 0x1ab, 0x289, 0x28a,
   0x1d1c, 0x28b, 0x28c, 0x7a]), (0x1dbf, [0x3b8]), (0x1e9b, [0x1e61]), (0x1e9e, [0xdf]), (0x1f71, [0x3ac]),
   (0x1f73, [0x3ad]), (0x1f75, [0x3ae]), (0x1f77, [0x3af]), (0x1f79, [0x3cc]), (0x1f7b, [0x3cd]), (0x1f7d, [0x3ce]),
   (0x1fb8, [0x1fb0, 0x1fb1, 0x1f70, 0x3ac]), (0x1fbe, [0x3b9]), (0x1fc8, [0x1f72, 0x3ad, 0x1f74, 0x3ae]),
   (0x1fd3, [0x390]), (0x1fd8, [0x1fd0, 0x1fd1, 0x1f76, 0x3af]), (0x1fe3, [0x3b0]),
   (0x1fe8, [0x1fe0, 0x1fe1, 0x1f7a, 0x3cd, 0x1fe5]), (0x1fef, [0x60]), (0x1ff8, [0x1f78, 0x3cc, 0x1f7c, 0x3ce]),
   (0x2000, [0x20, 0x20, 0x20, 0x20, 0x20, 0x20, 0x20, 0x20, 0x20, 0x20, 0x20]), (0x2011, [0x2010]), (0x202f, [0x20]),
   (0x205f, [0x20]), (0x2070, [0x30, 0x69]), (0x207a, [0x2b, 0x2212, 0x3d, 0x28, 0x29, 0x6e]),
   (0x208a, [0x2b, 0x2212, 0x3d, 0x28, 0x29]), (0x2090, [0x61, 0x65, 0x6f, 0x78, 0x259, 0x68]),
   (0x209a, [0x70, 0x73, 0x74]), (0x2102, [0x63]), (0x2107, [0x25b]), (0x210a, [0x67, 0x68, 0x68, 0x68, 0x68, 0x127,
   0x69, 0x69, 0x6c, 0x6c]), (0x2115, [0x6e]), (0x211c, [0x72, 0x72]), (0x2124, [0x7a]), (0x2126, [0x3c9]),
   (0x2128, [0x7a]), (0x212a, [0x6b, 0xe5, 0x62, 0x63]), (0x212f, [0x65, 0x65, 0x66, 0x214e, 0x6d, 0x6f]),
   (0x2139, [0x69]), (0x213c, [0x3c0, 0x3b3, 0x3b3, 0x3c0, 0x2211]), (0x2145, [0x64, 0x64, 0x65, 0x69, 0x6a]),
   (0x2160, [0x69]), (0x2164, [0x76]), (0x2169, [0x78]), (0x216c, [0x6c, 0x63, 0x64, 0x6d, 0x69]), (0x2174, [0x76]),
   (0x2179, [0x78]), (0x217c, [0x6c, 0x63, 0x64, 0x6d]), (0x2183, [0x2184]), (0x2329, [0x3008, 0x3009]),
   (0x24ea, [0x30]), (0x2c60, [0x2c61]), (0x2c62, [0x26b, 0x1d7d, 0x27d]), (0x2c6d, [0x251, 0x271, 0x250, 0x252]),
   (0x2c72, [0x2c73]), (0x2c75, [0x2c76]), (0x2c7c, [0x6a, 0x76, 0x23f, 0x240]), (0x2ceb, [0x2cec]),
   (0x2ced, [0x2cee]), (0x2cf2, [0x2cf3]), (0x2d6f, [0x2d61]), (0xa69c, [0x44a, 0x44c]), (0xa770, [0xa76f]),
   (0xa779, [0xa77a]), (0xa77b, [0xa77c]), (0xa77d, [0x1d79]), (0xa78b, [0xa78c]), (0xa78d, [0x265]),
   (0xa790, [0xa791]), (0xa792, [0xa793]), (0xa7aa, [0x266, 0x25c, 0x261, 0x26c, 0x26a]),
   (0xa7b0, [0x29e, 0x287, 0x29d, 0xab53]), (0xa7c4, [0xa794, 0x282, 0x1d8e, 0xa7c8]), (0xa7c9, [0xa7ca]),
   (0xa7cb, [0x264]), (0xa7dc, [0x19b]), (0xa7f1, [0x73, 0x63, 0x66, 0x71, 0xa7f6]), (0xa7f8, [0x127, 0x153]),
   (0xab5c, [0xa727, 0xab37, 0x26b, 0xab52]), (0xab69, [0x28d]), (0x10594, [0x105bb, 0x105bc]),
   (0x10781, [0x2d0, 0x2d1, 0xe6, 0x299, 0x253]), (0x10787, [0x2a3, 0xab66, 0x2a5, 0x2a4, 0x256, 0x257, 0x1d91, 0x258,
   0x25e, 0x2a9, 0x264, 0x262, 0x260, 0x29b, 0x127, 0x29c, 0x267, 0x284, 0x2aa, 0x2ab, 0x26c, 0x1df04, 0xa78e, 0x26e,
   0x1df05, 0x28e, 0x1df06, 0xf8, 0x276, 0x277, 0x71, 0x27a, 0x1df08, 0x27d, 0x27e, 0x280, 0x2a8, 0x2a6, 0xab67,
   0x2a7, 0x288, 0x2c71]), (0x107b2, [0x28f, 0x2a1, 0x2a2, 0x298]), (0x107b9, [0x1df0a, 0x1df1e]), (0x1d49c, [0x61]),
   (0x1d49e, [0x63, 0x64]), (0x1d4a2, [0x67]), (0x1d4a5, [0x6a, 0x6b]), (0x1d4bb, [0x66]), (0x1d504, [0x61, 0x62]),
   (0x1d538, [0x61, 0x62]), (0x1d546, [0x6f]), (0x1d6a4, [0x131, 0x237]), (0x1d6b9, [0x3b8]), (0x1d6c1, [0x2207]),
   (0x1d6d3, [0x3c3]), (0x1d6db, [0x2202, 0x3b5, 0x3b8, 0x3ba, 0x3c6, 0x3c1, 0x3c0]), (0x1d6f3, [0x3b8]),
   (0x1d6fb, [0x2207]), (0x1d70d, [0x3c3]), (0x1d715, [0x2202, 0x3b5, 0x3b8, 0x3ba, 0x3c6, 0x3c1, 0x3c0]),
   (0x1d72d, [0x3b8]), (0x1d735, [0x2207]), (0x1d747, [0x3c3]),
   (0x1d74f, [0x2202, 0x3b5, 0x3b8, 0x3ba, 0x3c6, 0x3c1, 0x3c0]), (0x1d767, [0x3b8]), (0x1d76f, [0x2207]),
   (0x1d781, [0x3c3]), (0x1d789, [0x2202, 0x3b5, 0x3b8, 0x3ba, 0x3c6, 0x3c1, 0x3c0]), (0x1d7a1, [0x3b8]),
   (0x1d7a9, [0x2207]), (0x1d7bb, [0x3c3]), (0x1d7c3, [0x2202, 0x3b5, 0x3b8, 0x3ba, 0x3c6, 0x3c1, 0x3c0, 0x3dd,
   0x3dd]), (0x1e047, [0x44b, 0x44d, 0x44e, 0xa689, 0x4d9, 0x456, 0x458, 0x4e9, 0x4af, 0x4cf]),
   (0x1e05a, [0x43a, 0x43b, 0x43e, 0x43f, 0x441]), (0x1e065, [0x44a, 0x44b, 0x491, 0x456, 0x455, 0x45f, 0x4ab, 0xa651,
   0x4b1])]

end BridgeRelay.Url.HostName
