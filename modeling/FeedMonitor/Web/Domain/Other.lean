/-!
Characters that stand for others beyond ASCII in a domain name, apart from those that are in lower case
there, by the Unicode standard for internationalized domain names.

The tables of rows say what the characters from one on stand for, where that is one character each;
some stand for themselves, although they have lower case. The tables of texts list characters that
stand for more than one.
-/

namespace FeedMonitor.Web.Domain

/-- Letters and signs. -/
def letterRows : List (Nat × List Nat) :=
  [
    (0xb5, [0x3bc]), (0x2b1, [0x266]), (0x2b4, [0x279, 0x27b, 0x281]), (0x2e0, [0x263]),
    (0x2e4, [0x295]), (0x340, [0x300, 0x301]), (0x343, [0x313]), (0x345, [0x3b9]), (0x374, [0x2b9]),
    (0x387, [0xb7]), (0x3d0, [0x3b2, 0x3b8, 0x3c5, 0x3cd, 0x3cb, 0x3c6, 0x3c0]),
    (0x3f0, [0x3ba, 0x3c1, 0x3c3]), (0x3f5, [0x3b5]), (0x3f9, [0x3c3]), (0xf0c, [0xf0b]),
    (0x10fc, [0x10dc]),
    (0x13a0, [0x13a0, 0x13a1, 0x13a2, 0x13a3, 0x13a4, 0x13a5, 0x13a6, 0x13a7, 0x13a8, 0x13a9,
      0x13aa, 0x13ab, 0x13ac, 0x13ad, 0x13ae, 0x13af, 0x13b0, 0x13b1, 0x13b2, 0x13b3, 0x13b4,
      0x13b5, 0x13b6, 0x13b7, 0x13b8, 0x13b9, 0x13ba, 0x13bb, 0x13bc, 0x13bd, 0x13be, 0x13bf]),
    (0x13c0, [0x13c0, 0x13c1, 0x13c2, 0x13c3, 0x13c4, 0x13c5, 0x13c6, 0x13c7, 0x13c8, 0x13c9,
      0x13ca, 0x13cb, 0x13cc, 0x13cd, 0x13ce, 0x13cf, 0x13d0, 0x13d1, 0x13d2, 0x13d3, 0x13d4,
      0x13d5, 0x13d6, 0x13d7, 0x13d8, 0x13d9, 0x13da, 0x13db, 0x13dc, 0x13dd, 0x13de, 0x13df]),
    (0x13e0, [0x13e0, 0x13e1, 0x13e2, 0x13e3, 0x13e4, 0x13e5, 0x13e6, 0x13e7, 0x13e8, 0x13e9,
      0x13ea, 0x13eb, 0x13ec, 0x13ed, 0x13ee, 0x13ef, 0x13f0, 0x13f1, 0x13f2, 0x13f3, 0x13f4,
      0x13f5]), (0x13f8, [0x13f0, 0x13f1, 0x13f2, 0x13f3, 0x13f4, 0x13f5]),
    (0x1c80, [0x432, 0x434, 0x43e, 0x441, 0x442, 0x442, 0x44a, 0x463, 0xa64b]), (0x1d2d, [0xe6]),
    (0x1d32, [0x1dd]), (0x1d3d, [0x223]), (0x1d44, [0x250, 0x251, 0x1d02]),
    (0x1d4a, [0x259, 0x25b, 0x25c]), (0x1d51, [0x14b]), (0x1d53, [0x254, 0x1d16, 0x1d17]),
    (0x1d59, [0x1d1d, 0x26f]), (0x1d5c, [0x1d25, 0x3b2, 0x3b3, 0x3b4, 0x3c6, 0x3c7]),
    (0x1d66, [0x3b2, 0x3b3, 0x3c1, 0x3c6, 0x3c7]), (0x1d78, [0x43d]), (0x1d9b, [0x252]),
    (0x1d9d, [0x255, 0xf0, 0x25c]),
    (0x1da1, [0x25f, 0x261, 0x265, 0x268, 0x269, 0x26a, 0x1d7b, 0x29d, 0x26d, 0x1d85, 0x29f, 0x271,
      0x270, 0x272, 0x273, 0x274, 0x275, 0x278, 0x282, 0x283, 0x1ab, 0x289, 0x28a, 0x1d1c, 0x28b,
      0x28c]), (0x1dbc, [0x290, 0x291, 0x292, 0x3b8]), (0x1e9b, [0x1e61]), (0x1f71, [0x3ac]),
    (0x1f73, [0x3ad]), (0x1f75, [0x3ae]), (0x1f77, [0x3af]), (0x1f79, [0x3cc]), (0x1f7b, [0x3cd]),
    (0x1f7d, [0x3ce]), (0x1fbb, [0x3ac]), (0x1fbe, [0x3b9]), (0x1fc9, [0x3ad]), (0x1fcb, [0x3ae]),
    (0x1fd3, [0x390]), (0x1fdb, [0x3af]), (0x1fe3, [0x3b0]), (0x1feb, [0x3cd]), (0x1ff9, [0x3cc]),
    (0x1ffb, [0x3ce]), (0x2011, [0x2010]), (0x207b, [0x2212]), (0x208b, [0x2212]),
    (0x2094, [0x259]), (0x2107, [0x25b]), (0x210f, [0x127]), (0x2135, [0x5d0, 0x5d1, 0x5d2, 0x5d3]),
    (0x213c, [0x3c0, 0x3b3, 0x3b3, 0x3c0, 0x2211]), (0x2329, [0x3008, 0x3009]), (0x2d6f, [0x2d61])
  ]

/-- Parts of ideographs, and syllables of Japanese and Korean. -/
def radicalRows : List (Nat × List Nat) :=
  [
    (0x2e9f, [0x6bcd]), (0x2ef3, [0x9f9f]),
    (0x2f00, [0x4e00, 0x4e28, 0x4e36, 0x4e3f, 0x4e59, 0x4e85, 0x4e8c, 0x4ea0, 0x4eba, 0x513f,
      0x5165, 0x516b, 0x5182, 0x5196, 0x51ab, 0x51e0, 0x51f5, 0x5200, 0x529b, 0x52f9, 0x5315,
      0x531a, 0x5338, 0x5341, 0x535c, 0x5369, 0x5382, 0x53b6, 0x53c8, 0x53e3, 0x56d7, 0x571f]),
    (0x2f20, [0x58eb, 0x5902, 0x590a, 0x5915, 0x5927, 0x5973, 0x5b50, 0x5b80, 0x5bf8, 0x5c0f,
      0x5c22, 0x5c38, 0x5c6e, 0x5c71, 0x5ddb, 0x5de5, 0x5df1, 0x5dfe, 0x5e72, 0x5e7a, 0x5e7f,
      0x5ef4, 0x5efe, 0x5f0b, 0x5f13, 0x5f50, 0x5f61, 0x5f73, 0x5fc3, 0x6208, 0x6236, 0x624b]),
    (0x2f40, [0x652f, 0x6534, 0x6587, 0x6597, 0x65a4, 0x65b9, 0x65e0, 0x65e5, 0x66f0, 0x6708,
      0x6728, 0x6b20, 0x6b62, 0x6b79, 0x6bb3, 0x6bcb, 0x6bd4, 0x6bdb, 0x6c0f, 0x6c14, 0x6c34,
      0x706b, 0x722a, 0x7236, 0x723b, 0x723f, 0x7247, 0x7259, 0x725b, 0x72ac, 0x7384, 0x7389]),
    (0x2f60, [0x74dc, 0x74e6, 0x7518, 0x751f, 0x7528, 0x7530, 0x758b, 0x7592, 0x7676, 0x767d,
      0x76ae, 0x76bf, 0x76ee, 0x77db, 0x77e2, 0x77f3, 0x793a, 0x79b8, 0x79be, 0x7a74, 0x7acb,
      0x7af9, 0x7c73, 0x7cf8, 0x7f36, 0x7f51, 0x7f8a, 0x7fbd, 0x8001, 0x800c, 0x8012, 0x8033]),
    (0x2f80, [0x807f, 0x8089, 0x81e3, 0x81ea, 0x81f3, 0x81fc, 0x820c, 0x821b, 0x821f, 0x826e,
      0x8272, 0x8278, 0x864d, 0x866b, 0x8840, 0x884c, 0x8863, 0x897e, 0x898b, 0x89d2, 0x8a00,
      0x8c37, 0x8c46, 0x8c55, 0x8c78, 0x8c9d, 0x8d64, 0x8d70, 0x8db3, 0x8eab, 0x8eca, 0x8f9b]),
    (0x2fa0, [0x8fb0, 0x8fb5, 0x9091, 0x9149, 0x91c6, 0x91cc, 0x91d1, 0x9577, 0x9580, 0x961c,
      0x96b6, 0x96b9, 0x96e8, 0x9751, 0x975e, 0x9762, 0x9769, 0x97cb, 0x97ed, 0x97f3, 0x9801,
      0x98a8, 0x98db, 0x98df, 0x9996, 0x9999, 0x99ac, 0x9aa8, 0x9ad8, 0x9adf, 0x9b25, 0x9b2f]),
    (0x2fc0, [0x9b32, 0x9b3c, 0x9b5a, 0x9ce5, 0x9e75, 0x9e7f, 0x9ea5, 0x9ebb, 0x9ec3, 0x9ecd,
      0x9ed1, 0x9ef9, 0x9efd, 0x9f0e, 0x9f13, 0x9f20, 0x9f3b, 0x9f4a, 0x9f52, 0x9f8d, 0x9f9c,
      0x9fa0]), (0x3036, [0x3012]), (0x3038, [0x5341, 0x5344, 0x5345]),
    (0x3131, [0x1100, 0x1101, 0x11aa, 0x1102, 0x11ac, 0x11ad, 0x1103, 0x1104, 0x1105, 0x11b0,
      0x11b1, 0x11b2, 0x11b3, 0x11b4, 0x11b5, 0x111a, 0x1106, 0x1107, 0x1108, 0x1121, 0x1109,
      0x110a, 0x110b, 0x110c, 0x110d, 0x110e, 0x110f, 0x1110, 0x1111, 0x1112, 0x1161, 0x1162]),
    (0x3151, [0x1163, 0x1164, 0x1165, 0x1166, 0x1167, 0x1168, 0x1169, 0x116a, 0x116b, 0x116c,
      0x116d, 0x116e, 0x116f, 0x1170, 0x1171, 0x1172, 0x1173, 0x1174, 0x1175]),
    (0x3165, [0x1114, 0x1115, 0x11c7, 0x11c8, 0x11cc, 0x11ce, 0x11d3, 0x11d7, 0x11d9, 0x111c,
      0x11dd, 0x11df, 0x111d, 0x111e, 0x1120, 0x1122, 0x1123, 0x1127, 0x1129, 0x112b, 0x112c,
      0x112d, 0x112e, 0x112f, 0x1132, 0x1136, 0x1140, 0x1147, 0x114c, 0x11f1, 0x11f2, 0x1157]),
    (0x3185, [0x1158, 0x1159, 0x1184, 0x1185, 0x1188, 0x1191, 0x1192, 0x1194, 0x119e, 0x11a1]),
    (0x3192, [0x4e00, 0x4e8c, 0x4e09, 0x56db, 0x4e0a, 0x4e2d, 0x4e0b, 0x7532, 0x4e59, 0x4e19,
      0x4e01, 0x5929, 0x5730, 0x4eba]), (0x3244, [0x554f, 0x5e7c, 0x6587, 0x7b8f]),
    (0x3260, [0x1100, 0x1102, 0x1103, 0x1105, 0x1106, 0x1107, 0x1109, 0x110b, 0x110c, 0x110e,
      0x110f, 0x1110, 0x1111, 0x1112, 0xac00, 0xb098, 0xb2e4, 0xb77c, 0xb9c8, 0xbc14, 0xc0ac,
      0xc544, 0xc790, 0xcc28, 0xce74, 0xd0c0, 0xd30c, 0xd558]), (0x327e, [0xc6b0]),
    (0x3280, [0x4e00, 0x4e8c, 0x4e09, 0x56db, 0x4e94, 0x516d, 0x4e03, 0x516b, 0x4e5d, 0x5341,
      0x6708, 0x706b, 0x6c34, 0x6728, 0x91d1, 0x571f, 0x65e5, 0x682a, 0x6709, 0x793e, 0x540d,
      0x7279, 0x8ca1, 0x795d, 0x52b4, 0x79d8, 0x7537, 0x5973, 0x9069, 0x512a, 0x5370, 0x6ce8]),
    (0x32a0, [0x9805, 0x4f11, 0x5199, 0x6b63, 0x4e0a, 0x4e2d, 0x4e0b, 0x5de6, 0x53f3, 0x533b,
      0x5b97, 0x5b66, 0x76e3, 0x4f01, 0x8cc7, 0x5354, 0x591c]),
    (0x32d0, [0x30a2, 0x30a4, 0x30a6, 0x30a8, 0x30aa, 0x30ab, 0x30ad, 0x30af, 0x30b1, 0x30b3,
      0x30b5, 0x30b7, 0x30b9, 0x30bb, 0x30bd, 0x30bf, 0x30c1, 0x30c4, 0x30c6, 0x30c8, 0x30ca,
      0x30cb, 0x30cc, 0x30cd, 0x30ce, 0x30cf, 0x30d2, 0x30d5, 0x30d8, 0x30db, 0x30de, 0x30df]),
    (0x32f0, [0x30e0, 0x30e1, 0x30e2, 0x30e4, 0x30e6, 0x30e8, 0x30e9, 0x30ea, 0x30eb, 0x30ec,
      0x30ed, 0x30ef, 0x30f0, 0x30f1, 0x30f2])
  ]

/-- Letters of some languages, and ideographs with two codes. -/
def ideographRows : List (Nat × List Nat) :=
  [
    (0xa69c, [0x44a, 0x44c]), (0xa770, [0xa76f]), (0xa7f8, [0x127, 0x153]),
    (0xab5c, [0xa727, 0xab37, 0x26b, 0xab52]), (0xab69, [0x28d]),
    (0xab70, [0x13a0, 0x13a1, 0x13a2, 0x13a3, 0x13a4, 0x13a5, 0x13a6, 0x13a7, 0x13a8, 0x13a9,
      0x13aa, 0x13ab, 0x13ac, 0x13ad, 0x13ae, 0x13af, 0x13b0, 0x13b1, 0x13b2, 0x13b3, 0x13b4,
      0x13b5, 0x13b6, 0x13b7, 0x13b8, 0x13b9, 0x13ba, 0x13bb, 0x13bc, 0x13bd, 0x13be, 0x13bf]),
    (0xab90, [0x13c0, 0x13c1, 0x13c2, 0x13c3, 0x13c4, 0x13c5, 0x13c6, 0x13c7, 0x13c8, 0x13c9,
      0x13ca, 0x13cb, 0x13cc, 0x13cd, 0x13ce, 0x13cf, 0x13d0, 0x13d1, 0x13d2, 0x13d3, 0x13d4,
      0x13d5, 0x13d6, 0x13d7, 0x13d8, 0x13d9, 0x13da, 0x13db, 0x13dc, 0x13dd, 0x13de, 0x13df]),
    (0xabb0, [0x13e0, 0x13e1, 0x13e2, 0x13e3, 0x13e4, 0x13e5, 0x13e6, 0x13e7, 0x13e8, 0x13e9,
      0x13ea, 0x13eb, 0x13ec, 0x13ed, 0x13ee, 0x13ef]),
    (0xf900, [0x8c48, 0x66f4, 0x8eca, 0x8cc8, 0x6ed1, 0x4e32, 0x53e5, 0x9f9c, 0x9f9c, 0x5951,
      0x91d1, 0x5587, 0x5948, 0x61f6, 0x7669, 0x7f85, 0x863f, 0x87ba, 0x88f8, 0x908f, 0x6a02,
      0x6d1b, 0x70d9, 0x73de, 0x843d, 0x916a, 0x99f1, 0x4e82, 0x5375, 0x6b04, 0x721b, 0x862d]),
    (0xf920, [0x9e1e, 0x5d50, 0x6feb, 0x85cd, 0x8964, 0x62c9, 0x81d8, 0x881f, 0x5eca, 0x6717,
      0x6d6a, 0x72fc, 0x90ce, 0x4f86, 0x51b7, 0x52de, 0x64c4, 0x6ad3, 0x7210, 0x76e7, 0x8001,
      0x8606, 0x865c, 0x8def, 0x9732, 0x9b6f, 0x9dfa, 0x788c, 0x797f, 0x7da0, 0x83c9, 0x9304]),
    (0xf940, [0x9e7f, 0x8ad6, 0x58df, 0x5f04, 0x7c60, 0x807e, 0x7262, 0x78ca, 0x8cc2, 0x96f7,
      0x58d8, 0x5c62, 0x6a13, 0x6dda, 0x6f0f, 0x7d2f, 0x7e37, 0x964b, 0x52d2, 0x808b, 0x51dc,
      0x51cc, 0x7a1c, 0x7dbe, 0x83f1, 0x9675, 0x8b80, 0x62cf, 0x6a02, 0x8afe, 0x4e39, 0x5be7]),
    (0xf960, [0x6012, 0x7387, 0x7570, 0x5317, 0x78fb, 0x4fbf, 0x5fa9, 0x4e0d, 0x6ccc, 0x6578,
      0x7d22, 0x53c3, 0x585e, 0x7701, 0x8449, 0x8aaa, 0x6bba, 0x8fb0, 0x6c88, 0x62fe, 0x82e5,
      0x63a0, 0x7565, 0x4eae, 0x5169, 0x51c9, 0x6881, 0x7ce7, 0x826f, 0x8ad2, 0x91cf, 0x52f5]),
    (0xf980, [0x5442, 0x5973, 0x5eec, 0x65c5, 0x6ffe, 0x792a, 0x95ad, 0x9a6a, 0x9e97, 0x9ece,
      0x529b, 0x66c6, 0x6b77, 0x8f62, 0x5e74, 0x6190, 0x6200, 0x649a, 0x6f23, 0x7149, 0x7489,
      0x79ca, 0x7df4, 0x806f, 0x8f26, 0x84ee, 0x9023, 0x934a, 0x5217, 0x52a3, 0x54bd, 0x70c8]),
    (0xf9a0, [0x88c2, 0x8aaa, 0x5ec9, 0x5ff5, 0x637b, 0x6bae, 0x7c3e, 0x7375, 0x4ee4, 0x56f9,
      0x5be7, 0x5dba, 0x601c, 0x73b2, 0x7469, 0x7f9a, 0x8046, 0x9234, 0x96f6, 0x9748, 0x9818,
      0x4f8b, 0x79ae, 0x91b4, 0x96b8, 0x60e1, 0x4e86, 0x50da, 0x5bee, 0x5c3f, 0x6599, 0x6a02]),
    (0xf9c0, [0x71ce, 0x7642, 0x84fc, 0x907c, 0x9f8d, 0x6688, 0x962e, 0x5289, 0x677b, 0x67f3,
      0x6d41, 0x6e9c, 0x7409, 0x7559, 0x786b, 0x7d10, 0x985e, 0x516d, 0x622e, 0x9678, 0x502b,
      0x5d19, 0x6dea, 0x8f2a, 0x5f8b, 0x6144, 0x6817, 0x7387, 0x9686, 0x5229, 0x540f, 0x5c65]),
    (0xf9e0, [0x6613, 0x674e, 0x68a8, 0x6ce5, 0x7406, 0x75e2, 0x7f79, 0x88cf, 0x88e1, 0x91cc,
      0x96e2, 0x533f, 0x6eba, 0x541d, 0x71d0, 0x7498, 0x85fa, 0x96a3, 0x9c57, 0x9e9f, 0x6797,
      0x6dcb, 0x81e8, 0x7acb, 0x7b20, 0x7c92, 0x72c0, 0x7099, 0x8b58, 0x4ec0, 0x8336, 0x523a]),
    (0xfa00, [0x5207, 0x5ea6, 0x62d3, 0x7cd6, 0x5b85, 0x6d1e, 0x66b4, 0x8f3b, 0x884c, 0x964d,
      0x898b, 0x5ed3, 0x5140, 0x55c0]), (0xfa10, [0x585a]), (0xfa12, [0x6674]),
    (0xfa15, [0x51de, 0x732a, 0x76ca, 0x793c, 0x795e, 0x7965, 0x798f, 0x9756, 0x7cbe, 0x7fbd]),
    (0xfa20, [0x8612]), (0xfa22, [0x8af8]), (0xfa25, [0x9038, 0x90fd]),
    (0xfa2a, [0x98ef, 0x98fc, 0x9928, 0x9db4, 0x90de, 0x96b7, 0x4fae, 0x50e7, 0x514d, 0x52c9,
      0x52e4, 0x5351, 0x559d, 0x5606, 0x5668, 0x5840, 0x58a8, 0x5c64, 0x5c6e, 0x6094, 0x6168,
      0x618e, 0x61f2, 0x654f, 0x65e2, 0x6691, 0x6885, 0x6d77, 0x6e1a, 0x6f22, 0x716e, 0x722b]),
    (0xfa4a, [0x7422, 0x7891, 0x793e, 0x7949, 0x7948, 0x7950, 0x7956, 0x795d, 0x798d, 0x798e,
      0x7a40, 0x7a81, 0x7bc0, 0x7df4, 0x7e09, 0x7e41, 0x7f72, 0x8005, 0x81ed, 0x8279, 0x8279,
      0x8457, 0x8910, 0x8996, 0x8b01, 0x8b39, 0x8cd3, 0x8d08, 0x8fb6, 0x9038, 0x96e3, 0x97ff]),
    (0xfa6a, [0x983b, 0x6075, 0x242ee, 0x8218]),
    (0xfa70, [0x4e26, 0x51b5, 0x5168, 0x4f80, 0x5145, 0x5180, 0x52c7, 0x52fa, 0x559d, 0x5555,
      0x5599, 0x55e2, 0x585a, 0x58b3, 0x5944, 0x5954, 0x5a62, 0x5b28, 0x5ed2, 0x5ed9, 0x5f69,
      0x5fad, 0x60d8, 0x614e, 0x6108, 0x618e, 0x6160, 0x61f2, 0x6234, 0x63c4, 0x641c, 0x6452]),
    (0xfa90, [0x6556, 0x6674, 0x6717, 0x671b, 0x6756, 0x6b79, 0x6bba, 0x6d41, 0x6edb, 0x6ecb,
      0x6f22, 0x701e, 0x716e, 0x77a7, 0x7235, 0x72af, 0x732a, 0x7471, 0x7506, 0x753b, 0x761d,
      0x761f, 0x76ca, 0x76db, 0x76f4, 0x774a, 0x7740, 0x78cc, 0x7ab1, 0x7bc0, 0x7c7b, 0x7d5b]),
    (0xfab0, [0x7df4, 0x7f3e, 0x8005, 0x8352, 0x83ef, 0x8779, 0x8941, 0x8986, 0x8996, 0x8abf,
      0x8af8, 0x8acb, 0x8b01, 0x8afe, 0x8aed, 0x8b39, 0x8b8a, 0x8d08, 0x8f38, 0x9072, 0x9199,
      0x9276, 0x967c, 0x96e3, 0x9756, 0x97db, 0x97ff, 0x980b, 0x983b, 0x9b12, 0x9f9c, 0x2284a]),
    (0xfad0, [0x22844, 0x233d5, 0x3b9d, 0x4018, 0x4039, 0x25249, 0x25cd0, 0x27ed3, 0x9f43, 0x9f8e])
  ]

/-- Letters in the forms that they have at their places in words, and in other widths. -/
def formRows : List (Nat × List Nat) :=
  [
    (0xfb20, [0x5e2, 0x5d0, 0x5d3, 0x5d4, 0x5db, 0x5dc, 0x5dd, 0x5e8, 0x5ea]),
    (0xfb50, [0x671, 0x671, 0x67b, 0x67b, 0x67b, 0x67b, 0x67e, 0x67e, 0x67e, 0x67e, 0x680, 0x680,
      0x680, 0x680, 0x67a, 0x67a, 0x67a, 0x67a, 0x67f, 0x67f, 0x67f, 0x67f, 0x679, 0x679, 0x679,
      0x679, 0x6a4, 0x6a4, 0x6a4, 0x6a4, 0x6a6, 0x6a6]),
    (0xfb70, [0x6a6, 0x6a6, 0x684, 0x684, 0x684, 0x684, 0x683, 0x683, 0x683, 0x683, 0x686, 0x686,
      0x686, 0x686, 0x687, 0x687, 0x687, 0x687, 0x68d, 0x68d, 0x68c, 0x68c, 0x68e, 0x68e, 0x688,
      0x688, 0x698, 0x698, 0x691, 0x691, 0x6a9, 0x6a9]),
    (0xfb90, [0x6a9, 0x6a9, 0x6af, 0x6af, 0x6af, 0x6af, 0x6b3, 0x6b3, 0x6b3, 0x6b3, 0x6b1, 0x6b1,
      0x6b1, 0x6b1, 0x6ba, 0x6ba, 0x6bb, 0x6bb, 0x6bb, 0x6bb, 0x6c0, 0x6c0, 0x6c1, 0x6c1, 0x6c1,
      0x6c1, 0x6be, 0x6be, 0x6be, 0x6be, 0x6d2, 0x6d2]), (0xfbb0, [0x6d3, 0x6d3]),
    (0xfbd3, [0x6ad, 0x6ad, 0x6ad, 0x6ad, 0x6c7, 0x6c7, 0x6c6, 0x6c6, 0x6c8, 0x6c8]),
    (0xfbde, [0x6cb, 0x6cb, 0x6c5, 0x6c5, 0x6c9, 0x6c9, 0x6d0, 0x6d0, 0x6d0, 0x6d0, 0x649, 0x649]),
    (0xfbfc, [0x6cc, 0x6cc, 0x6cc, 0x6cc]), (0xfe11, [0x3001]), (0xfe17, [0x3016, 0x3017]),
    (0xfe31, [0x2014, 0x2013]),
    (0xfe39, [0x3014, 0x3015, 0x3010, 0x3011, 0x300a, 0x300b, 0x3008, 0x3009, 0x300c, 0x300d,
      0x300e, 0x300f]), (0xfe51, [0x3001]), (0xfe58, [0x2014]), (0xfe5d, [0x3014, 0x3015]),
    (0xfe80, [0x621, 0x622, 0x622, 0x623, 0x623, 0x624, 0x624, 0x625, 0x625, 0x626, 0x626, 0x626,
      0x626, 0x627, 0x627, 0x628, 0x628, 0x628, 0x628, 0x629, 0x629, 0x62a, 0x62a, 0x62a, 0x62a,
      0x62b, 0x62b, 0x62b, 0x62b, 0x62c, 0x62c, 0x62c]),
    (0xfea0, [0x62c, 0x62d, 0x62d, 0x62d, 0x62d, 0x62e, 0x62e, 0x62e, 0x62e, 0x62f, 0x62f, 0x630,
      0x630, 0x631, 0x631, 0x632, 0x632, 0x633, 0x633, 0x633, 0x633, 0x634, 0x634, 0x634, 0x634,
      0x635, 0x635, 0x635, 0x635, 0x636, 0x636, 0x636]),
    (0xfec0, [0x636, 0x637, 0x637, 0x637, 0x637, 0x638, 0x638, 0x638, 0x638, 0x639, 0x639, 0x639,
      0x639, 0x63a, 0x63a, 0x63a, 0x63a, 0x641, 0x641, 0x641, 0x641, 0x642, 0x642, 0x642, 0x642,
      0x643, 0x643, 0x643, 0x643, 0x644, 0x644, 0x644]),
    (0xfee0, [0x644, 0x645, 0x645, 0x645, 0x645, 0x646, 0x646, 0x646, 0x646, 0x647, 0x647, 0x647,
      0x647, 0x648, 0x648, 0x649, 0x649, 0x64a, 0x64a, 0x64a, 0x64a]), (0xff5f, [0x2985, 0x2986]),
    (0xff62, [0x300c, 0x300d, 0x3001, 0x30fb, 0x30f2, 0x30a1, 0x30a3, 0x30a5, 0x30a7, 0x30a9,
      0x30e3, 0x30e5, 0x30e7, 0x30c3, 0x30fc, 0x30a2, 0x30a4, 0x30a6, 0x30a8, 0x30aa, 0x30ab,
      0x30ad, 0x30af, 0x30b1, 0x30b3, 0x30b5, 0x30b7, 0x30b9, 0x30bb, 0x30bd, 0x30bf, 0x30c1]),
    (0xff82, [0x30c4, 0x30c6, 0x30c8, 0x30ca, 0x30cb, 0x30cc, 0x30cd, 0x30ce, 0x30cf, 0x30d2,
      0x30d5, 0x30d8, 0x30db, 0x30de, 0x30df, 0x30e0, 0x30e1, 0x30e2, 0x30e4, 0x30e6, 0x30e8,
      0x30e9, 0x30ea, 0x30eb, 0x30ec, 0x30ed, 0x30ef, 0x30f3, 0x3099, 0x309a]),
    (0xffa1, [0x1100, 0x1101, 0x11aa, 0x1102, 0x11ac, 0x11ad, 0x1103, 0x1104, 0x1105, 0x11b0,
      0x11b1, 0x11b2, 0x11b3, 0x11b4, 0x11b5, 0x111a, 0x1106, 0x1107, 0x1108, 0x1121, 0x1109,
      0x110a, 0x110b, 0x110c, 0x110d, 0x110e, 0x110f, 0x1110, 0x1111, 0x1112]),
    (0xffc2, [0x1161, 0x1162, 0x1163, 0x1164, 0x1165, 0x1166]),
    (0xffca, [0x1167, 0x1168, 0x1169, 0x116a, 0x116b, 0x116c]),
    (0xffd2, [0x116d, 0x116e, 0x116f, 0x1170, 0x1171, 0x1172]), (0xffda, [0x1173, 0x1174, 0x1175]),
    (0xffe0, [0xa2, 0xa3, 0xac]), (0xffe4, [0xa6, 0xa5, 0x20a9]),
    (0xffe8, [0x2502, 0x2190, 0x2191, 0x2192, 0x2193, 0x25a0, 0x25cb]),
    (0x10781, [0x2d0, 0x2d1, 0xe6, 0x299, 0x253]),
    (0x10787, [0x2a3, 0xab66, 0x2a5, 0x2a4, 0x256, 0x257, 0x1d91, 0x258, 0x25e, 0x2a9, 0x264, 0x262,
      0x260, 0x29b, 0x127, 0x29c, 0x267, 0x284, 0x2aa, 0x2ab, 0x26c, 0x1df04, 0xa78e, 0x26e,
      0x1df05, 0x28e, 0x1df06, 0xf8, 0x276, 0x277]),
    (0x107a6, [0x27a, 0x1df08, 0x27d, 0x27e, 0x280, 0x2a8, 0x2a6, 0xab67, 0x2a7, 0x288, 0x2c71]),
    (0x107b2, [0x28f, 0x2a1, 0x2a2, 0x298, 0x1c0, 0x1c1, 0x1c2, 0x1df0a, 0x1df1e])
  ]

/-- Letters in formulas. -/
def symbolRows : List (Nat × List Nat) :=
  [
    (0x1d6a4, [0x131, 0x237]),
    (0x1d6a8, [0x3b1, 0x3b2, 0x3b3, 0x3b4, 0x3b5, 0x3b6, 0x3b7, 0x3b8, 0x3b9, 0x3ba, 0x3bb, 0x3bc,
      0x3bd, 0x3be, 0x3bf, 0x3c0, 0x3c1, 0x3b8, 0x3c3, 0x3c4, 0x3c5, 0x3c6, 0x3c7, 0x3c8, 0x3c9,
      0x2207, 0x3b1, 0x3b2, 0x3b3, 0x3b4, 0x3b5, 0x3b6]),
    (0x1d6c8, [0x3b7, 0x3b8, 0x3b9, 0x3ba, 0x3bb, 0x3bc, 0x3bd, 0x3be, 0x3bf, 0x3c0, 0x3c1, 0x3c3,
      0x3c3, 0x3c4, 0x3c5, 0x3c6, 0x3c7, 0x3c8, 0x3c9, 0x2202, 0x3b5, 0x3b8, 0x3ba, 0x3c6, 0x3c1,
      0x3c0, 0x3b1, 0x3b2, 0x3b3, 0x3b4, 0x3b5, 0x3b6]),
    (0x1d6e8, [0x3b7, 0x3b8, 0x3b9, 0x3ba, 0x3bb, 0x3bc, 0x3bd, 0x3be, 0x3bf, 0x3c0, 0x3c1, 0x3b8,
      0x3c3, 0x3c4, 0x3c5, 0x3c6, 0x3c7, 0x3c8, 0x3c9, 0x2207, 0x3b1, 0x3b2, 0x3b3, 0x3b4, 0x3b5,
      0x3b6, 0x3b7, 0x3b8, 0x3b9, 0x3ba, 0x3bb, 0x3bc]),
    (0x1d708, [0x3bd, 0x3be, 0x3bf, 0x3c0, 0x3c1, 0x3c3, 0x3c3, 0x3c4, 0x3c5, 0x3c6, 0x3c7, 0x3c8,
      0x3c9, 0x2202, 0x3b5, 0x3b8, 0x3ba, 0x3c6, 0x3c1, 0x3c0, 0x3b1, 0x3b2, 0x3b3, 0x3b4, 0x3b5,
      0x3b6, 0x3b7, 0x3b8, 0x3b9, 0x3ba, 0x3bb, 0x3bc]),
    (0x1d728, [0x3bd, 0x3be, 0x3bf, 0x3c0, 0x3c1, 0x3b8, 0x3c3, 0x3c4, 0x3c5, 0x3c6, 0x3c7, 0x3c8,
      0x3c9, 0x2207, 0x3b1, 0x3b2, 0x3b3, 0x3b4, 0x3b5, 0x3b6, 0x3b7, 0x3b8, 0x3b9, 0x3ba, 0x3bb,
      0x3bc, 0x3bd, 0x3be, 0x3bf, 0x3c0, 0x3c1, 0x3c3]),
    (0x1d748, [0x3c3, 0x3c4, 0x3c5, 0x3c6, 0x3c7, 0x3c8, 0x3c9, 0x2202, 0x3b5, 0x3b8, 0x3ba, 0x3c6,
      0x3c1, 0x3c0, 0x3b1, 0x3b2, 0x3b3, 0x3b4, 0x3b5, 0x3b6, 0x3b7, 0x3b8, 0x3b9, 0x3ba, 0x3bb,
      0x3bc, 0x3bd, 0x3be, 0x3bf, 0x3c0, 0x3c1, 0x3b8]),
    (0x1d768, [0x3c3, 0x3c4, 0x3c5, 0x3c6, 0x3c7, 0x3c8, 0x3c9, 0x2207, 0x3b1, 0x3b2, 0x3b3, 0x3b4,
      0x3b5, 0x3b6, 0x3b7, 0x3b8, 0x3b9, 0x3ba, 0x3bb, 0x3bc, 0x3bd, 0x3be, 0x3bf, 0x3c0, 0x3c1,
      0x3c3, 0x3c3, 0x3c4, 0x3c5, 0x3c6, 0x3c7, 0x3c8]),
    (0x1d788, [0x3c9, 0x2202, 0x3b5, 0x3b8, 0x3ba, 0x3c6, 0x3c1, 0x3c0, 0x3b1, 0x3b2, 0x3b3, 0x3b4,
      0x3b5, 0x3b6, 0x3b7, 0x3b8, 0x3b9, 0x3ba, 0x3bb, 0x3bc, 0x3bd, 0x3be, 0x3bf, 0x3c0, 0x3c1,
      0x3b8, 0x3c3, 0x3c4, 0x3c5, 0x3c6, 0x3c7, 0x3c8]),
    (0x1d7a8, [0x3c9, 0x2207, 0x3b1, 0x3b2, 0x3b3, 0x3b4, 0x3b5, 0x3b6, 0x3b7, 0x3b8, 0x3b9, 0x3ba,
      0x3bb, 0x3bc, 0x3bd, 0x3be, 0x3bf, 0x3c0, 0x3c1, 0x3c3, 0x3c3, 0x3c4, 0x3c5, 0x3c6, 0x3c7,
      0x3c8, 0x3c9, 0x2202, 0x3b5, 0x3b8, 0x3ba, 0x3c6]), (0x1d7c8, [0x3c1, 0x3c0, 0x3dd, 0x3dd]),
    (0x1e030, [0x430, 0x431, 0x432, 0x433, 0x434, 0x435, 0x436, 0x437, 0x438, 0x43a, 0x43b, 0x43c,
      0x43e, 0x43f, 0x440, 0x441, 0x442, 0x443, 0x444, 0x445, 0x446, 0x447, 0x448, 0x44b, 0x44d,
      0x44e, 0xa689, 0x4d9, 0x456, 0x458, 0x4e9, 0x4af]),
    (0x1e050, [0x4cf, 0x430, 0x431, 0x432, 0x433, 0x434, 0x435, 0x436, 0x437, 0x438, 0x43a, 0x43b,
      0x43e, 0x43f, 0x441, 0x443, 0x444, 0x445, 0x446, 0x447, 0x448, 0x44a, 0x44b, 0x491, 0x456,
      0x455, 0x45f, 0x4ab, 0xa651, 0x4b1]), (0x1ee00, [0x627, 0x628, 0x62c, 0x62f]),
    (0x1ee05, [0x648, 0x632, 0x62d, 0x637, 0x64a, 0x643, 0x644, 0x645, 0x646, 0x633, 0x639, 0x641,
      0x635, 0x642, 0x631, 0x634, 0x62a, 0x62b, 0x62e, 0x630, 0x636, 0x638, 0x63a, 0x66e, 0x6ba,
      0x6a1, 0x66f]), (0x1ee21, [0x628, 0x62c]), (0x1ee24, [0x647]), (0x1ee27, [0x62d]),
    (0x1ee29, [0x64a, 0x643, 0x644, 0x645, 0x646, 0x633, 0x639, 0x641, 0x635, 0x642]),
    (0x1ee34, [0x634, 0x62a, 0x62b, 0x62e]), (0x1ee39, [0x636]), (0x1ee3b, [0x63a]),
    (0x1ee42, [0x62c]), (0x1ee47, [0x62d]), (0x1ee49, [0x64a]), (0x1ee4b, [0x644]),
    (0x1ee4d, [0x646, 0x633, 0x639]), (0x1ee51, [0x635, 0x642]), (0x1ee54, [0x634]),
    (0x1ee57, [0x62e]), (0x1ee59, [0x636]), (0x1ee5b, [0x63a]), (0x1ee5d, [0x6ba]),
    (0x1ee5f, [0x66f]), (0x1ee61, [0x628, 0x62c]), (0x1ee64, [0x647]),
    (0x1ee67, [0x62d, 0x637, 0x64a, 0x643]),
    (0x1ee6c, [0x645, 0x646, 0x633, 0x639, 0x641, 0x635, 0x642]),
    (0x1ee74, [0x634, 0x62a, 0x62b, 0x62e]), (0x1ee79, [0x636, 0x638, 0x63a, 0x66e]),
    (0x1ee7e, [0x6a1]),
    (0x1ee80, [0x627, 0x628, 0x62c, 0x62f, 0x647, 0x648, 0x632, 0x62d, 0x637, 0x64a]),
    (0x1ee8b, [0x644, 0x645, 0x646, 0x633, 0x639, 0x641, 0x635, 0x642, 0x631, 0x634, 0x62a, 0x62b,
      0x62e, 0x630, 0x636, 0x638, 0x63a]), (0x1eea1, [0x628, 0x62c, 0x62f]),
    (0x1eea5, [0x648, 0x632, 0x62d, 0x637, 0x64a]),
    (0x1eeab, [0x644, 0x645, 0x646, 0x633, 0x639, 0x641, 0x635, 0x642, 0x631, 0x634, 0x62a, 0x62b,
      0x62e, 0x630, 0x636, 0x638, 0x63a]), (0x1f202, [0x30b5]),
    (0x1f210, [0x624b, 0x5b57, 0x53cc, 0x30c7, 0x4e8c, 0x591a, 0x89e3, 0x5929, 0x4ea4, 0x6620,
      0x7121, 0x6599, 0x524d, 0x5f8c, 0x518d, 0x65b0, 0x521d, 0x7d42, 0x751f, 0x8ca9, 0x58f0,
      0x5439, 0x6f14, 0x6295, 0x6355, 0x4e00, 0x4e09, 0x904a, 0x5de6, 0x4e2d, 0x53f3, 0x6307]),
    (0x1f230, [0x8d70, 0x6253, 0x7981, 0x7a7a, 0x5408, 0x6e80, 0x6709, 0x6708, 0x7533, 0x5272,
      0x55b6, 0x914d]), (0x1f250, [0x5f97, 0x53ef])
  ]

/-- More ideographs with two codes. -/
def supplementRows : List (Nat × List Nat) :=
  [
    (0x2f800, [0x4e3d, 0x4e38, 0x4e41, 0x20122, 0x4f60, 0x4fae, 0x4fbb, 0x5002, 0x507a, 0x5099,
      0x50e7, 0x50cf, 0x349e, 0x2063a, 0x514d, 0x5154, 0x5164, 0x5177, 0x2051c, 0x34b9, 0x5167,
      0x518d, 0x2054b, 0x5197, 0x51a4, 0x4ecc, 0x51ac, 0x51b5, 0x291df, 0x51f5, 0x5203, 0x34df]),
    (0x2f820, [0x523b, 0x5246, 0x5272, 0x5277, 0x3515, 0x52c7, 0x52c9, 0x52e4, 0x52fa, 0x5305,
      0x5306, 0x5317, 0x5349, 0x5351, 0x535a, 0x5373, 0x537d, 0x537f, 0x537f, 0x537f, 0x20a2c,
      0x7070, 0x53ca, 0x53df, 0x20b63, 0x53eb, 0x53f1, 0x5406, 0x549e, 0x5438, 0x5448, 0x5468]),
    (0x2f840, [0x54a2, 0x54f6, 0x5510, 0x5553, 0x5563, 0x5584, 0x5584, 0x5599, 0x55ab, 0x55b3,
      0x55c2, 0x5716, 0x5606, 0x5717, 0x5651, 0x5674, 0x5207, 0x58ee, 0x57ce, 0x57f4, 0x580d,
      0x578b, 0x5832, 0x5831, 0x58ac, 0x214e4, 0x58f2, 0x58f7, 0x5906, 0x591a, 0x5922, 0x5962]),
    (0x2f860, [0x216a8, 0x216ea, 0x59ec, 0x5a1b, 0x5a27, 0x59d8, 0x5a66, 0x36ee, 0x36fc, 0x5b08,
      0x5b3e, 0x5b3e, 0x219c8, 0x5bc3, 0x5bd8, 0x5be7, 0x5bf3, 0x21b18, 0x5bff, 0x5c06, 0x5f53,
      0x5c22, 0x3781, 0x5c60, 0x5c6e, 0x5cc0, 0x5c8d, 0x21de4, 0x5d43, 0x21de6, 0x5d6e, 0x5d6b]),
    (0x2f880, [0x5d7c, 0x5de1, 0x5de2, 0x382f, 0x5dfd, 0x5e28, 0x5e3d, 0x5e69, 0x3862, 0x22183,
      0x387c, 0x5eb0, 0x5eb3, 0x5eb6, 0x5eca, 0x2a392, 0x5efe, 0x22331, 0x22331, 0x8201, 0x5f22,
      0x5f22, 0x38c7, 0x232b8, 0x261da, 0x5f62, 0x5f6b, 0x38e3, 0x5f9a, 0x5fcd, 0x5fd7, 0x5ff9]),
    (0x2f8a0, [0x6081, 0x393a, 0x391c, 0x6094, 0x226d4, 0x60c7, 0x6148, 0x614c, 0x614e, 0x614c,
      0x617a, 0x618e, 0x61b2, 0x61a4, 0x61af, 0x61de, 0x61f2, 0x61f6, 0x6210, 0x621b, 0x625d,
      0x62b1, 0x62d4, 0x6350, 0x22b0c, 0x633d, 0x62fc, 0x6368, 0x6383, 0x63e4, 0x22bf1, 0x6422]),
    (0x2f8c0, [0x63c5, 0x63a9, 0x3a2e, 0x6469, 0x647e, 0x649d, 0x6477, 0x3a6c, 0x654f, 0x656c,
      0x2300a, 0x65e3, 0x66f8, 0x6649, 0x3b19, 0x6691, 0x3b08, 0x3ae4, 0x5192, 0x5195, 0x6700,
      0x669c, 0x80ad, 0x43d9, 0x6717, 0x671b, 0x6721, 0x675e, 0x6753, 0x233c3, 0x3b49, 0x67fa]),
    (0x2f8e0, [0x6785, 0x6852, 0x6885, 0x2346d, 0x688e, 0x681f, 0x6914, 0x3b9d, 0x6942, 0x69a3,
      0x69ea, 0x6aa8, 0x236a3, 0x6adb, 0x3c18, 0x6b21, 0x238a7, 0x6b54, 0x3c4e, 0x6b72, 0x6b9f,
      0x6bba, 0x6bbb, 0x23a8d, 0x21d0b, 0x23afa, 0x6c4e, 0x23cbc, 0x6cbf, 0x6ccd, 0x6c67, 0x6d16]),
    (0x2f900, [0x6d3e, 0x6d77, 0x6d41, 0x6d69, 0x6d78, 0x6d85, 0x23d1e, 0x6d34, 0x6e2f, 0x6e6e,
      0x3d33, 0x6ecb, 0x6ec7, 0x23ed1, 0x6df9, 0x6f6e, 0x23f5e, 0x23f8e, 0x6fc6, 0x7039, 0x701e,
      0x701b, 0x3d96, 0x704a, 0x707d, 0x7077, 0x70ad, 0x20525, 0x7145, 0x24263, 0x719c, 0x243ab]),
    (0x2f920, [0x7228, 0x7235, 0x7250, 0x24608, 0x7280, 0x7295, 0x24735, 0x24814, 0x737a, 0x738b,
      0x3eac, 0x73a5, 0x3eb8, 0x3eb8, 0x7447, 0x745c, 0x7471, 0x7485, 0x74ca, 0x3f1b, 0x7524,
      0x24c36, 0x753e, 0x24c92, 0x7570, 0x2219f, 0x7610, 0x24fa1, 0x24fb8, 0x25044, 0x3ffc,
      0x4008]),
    (0x2f940, [0x76f4, 0x250f3, 0x250f2, 0x25119, 0x25133, 0x771e, 0x771f, 0x771f, 0x774a, 0x4039,
      0x778b, 0x4046, 0x4096, 0x2541d, 0x784e, 0x788c, 0x78cc, 0x40e3, 0x25626, 0x7956, 0x2569a,
      0x256c5, 0x798f, 0x79eb, 0x412f, 0x7a40, 0x7a4a, 0x7a4f, 0x2597c, 0x25aa7, 0x25aa7, 0x7aee]),
    (0x2f960, [0x4202, 0x25bab, 0x7bc6, 0x7bc9, 0x4227, 0x25c80, 0x7cd2, 0x42a0, 0x7ce8, 0x7ce3,
      0x7d00, 0x25f86, 0x7d63, 0x4301, 0x7dc7, 0x7e02, 0x7e45, 0x4334, 0x26228, 0x26247, 0x4359,
      0x262d9, 0x7f7a, 0x2633e, 0x7f95, 0x7ffa, 0x8005, 0x264da, 0x26523, 0x8060, 0x265a8, 0x8070]),
    (0x2f980, [0x2335f, 0x43d5, 0x80b2, 0x8103, 0x440b, 0x813e, 0x5ab5, 0x267a7, 0x267b5, 0x23393,
      0x2339c, 0x8201, 0x8204, 0x8f9e, 0x446b, 0x8291, 0x828b, 0x829d, 0x52b3, 0x82b1, 0x82b3,
      0x82bd, 0x82e6, 0x26b3c, 0x82e5, 0x831d, 0x8363, 0x83ad, 0x8323, 0x83bd, 0x83e7, 0x8457]),
    (0x2f9a0, [0x8353, 0x83ca, 0x83cc, 0x83dc, 0x26c36, 0x26d6b, 0x26cd5, 0x452b, 0x84f1, 0x84f3,
      0x8516, 0x273ca, 0x8564, 0x26f2c, 0x455d, 0x4561, 0x26fb1, 0x270d2, 0x456b, 0x8650, 0x865c,
      0x8667, 0x8669, 0x86a9, 0x8688, 0x870e, 0x86e2, 0x8779, 0x8728, 0x876b, 0x8786, 0x45d7]),
    (0x2f9c0, [0x87e1, 0x8801, 0x45f9, 0x8860, 0x8863, 0x27667, 0x88d7, 0x88de, 0x4635, 0x88fa,
      0x34bb, 0x278ae, 0x27966, 0x46be, 0x46c7, 0x8aa0, 0x8aed, 0x8b8a, 0x8c55, 0x27ca8, 0x8cab,
      0x8cc1, 0x8d1b, 0x8d77, 0x27f2f, 0x20804, 0x8dcb, 0x8dbc, 0x8df0, 0x208de, 0x8ed4, 0x8f38]),
    (0x2f9e0, [0x285d2, 0x285ed, 0x9094, 0x90f1, 0x9111, 0x2872e, 0x911b, 0x9238, 0x92d7, 0x92d8,
      0x927c, 0x93f9, 0x9415, 0x28bfa, 0x958b, 0x4995, 0x95b7, 0x28d77, 0x49e6, 0x96c3, 0x5db2,
      0x9723, 0x29145, 0x2921a, 0x4a6e, 0x4a76, 0x97e0, 0x2940a, 0x4ab2, 0x29496, 0x980b, 0x980b]),
    (0x2fa00, [0x9829, 0x295b6, 0x98e2, 0x4b33, 0x9929, 0x99a7, 0x99c2, 0x99fe, 0x4bce, 0x29b30,
      0x9b12, 0x9c40, 0x9cfd, 0x4cce, 0x4ced, 0x9d67, 0x2a0ce, 0x4cf8, 0x2a105, 0x2a20e, 0x2a291,
      0x9ebb, 0x4d56, 0x9ef9, 0x9efe, 0x9f05, 0x9f0f, 0x9f16, 0x9f3b, 0x2a600])
  ]

def otherRows : List (Nat × List Nat) :=
  letterRows ++ radicalRows ++ ideographRows ++ formRows ++ symbolRows ++ supplementRows

/-- Letters and signs. -/
def letterTexts : List (Nat × List Nat) :=
  [
    (0x344, [0x308, 0x301]), (0x587, [0x565, 0x582]), (0x675, [0x627, 0x674]),
    (0x676, [0x648, 0x674]), (0x677, [0x6c7, 0x674]), (0x678, [0x64a, 0x674]),
    (0x958, [0x915, 0x93c]), (0x959, [0x916, 0x93c]), (0x95a, [0x917, 0x93c]),
    (0x95b, [0x91c, 0x93c]), (0x95c, [0x921, 0x93c]), (0x95d, [0x922, 0x93c]),
    (0x95e, [0x92b, 0x93c]), (0x95f, [0x92f, 0x93c]), (0x9dc, [0x9a1, 0x9bc]),
    (0x9dd, [0x9a2, 0x9bc]), (0x9df, [0x9af, 0x9bc]), (0xa33, [0xa32, 0xa3c]),
    (0xa36, [0xa38, 0xa3c]), (0xa59, [0xa16, 0xa3c]), (0xa5a, [0xa17, 0xa3c]),
    (0xa5b, [0xa1c, 0xa3c]), (0xa5e, [0xa2b, 0xa3c]), (0xb5c, [0xb21, 0xb3c]),
    (0xb5d, [0xb22, 0xb3c]), (0xe33, [0xe4d, 0xe32]), (0xeb3, [0xecd, 0xeb2]),
    (0xedc, [0xeab, 0xe99]), (0xedd, [0xeab, 0xea1]), (0xf43, [0xf42, 0xfb7]),
    (0xf4d, [0xf4c, 0xfb7]), (0xf52, [0xf51, 0xfb7]), (0xf57, [0xf56, 0xfb7]),
    (0xf5c, [0xf5b, 0xfb7]), (0xf69, [0xf40, 0xfb5]), (0xf73, [0xf71, 0xf72]),
    (0xf75, [0xf71, 0xf74]), (0xf76, [0xfb2, 0xf80]), (0xf77, [0xfb2, 0xf71, 0xf80]),
    (0xf78, [0xfb3, 0xf80]), (0xf79, [0xfb3, 0xf71, 0xf80]), (0xf81, [0xf71, 0xf80]),
    (0xf93, [0xf92, 0xfb7]), (0xf9d, [0xf9c, 0xfb7]), (0xfa2, [0xfa1, 0xfb7]),
    (0xfa7, [0xfa6, 0xfb7]), (0xfac, [0xfab, 0xfb7]), (0xfb9, [0xf90, 0xfb5]),
    (0x1f80, [0x1f00, 0x3b9]), (0x1f81, [0x1f01, 0x3b9]), (0x1f82, [0x1f02, 0x3b9]),
    (0x1f83, [0x1f03, 0x3b9]), (0x1f84, [0x1f04, 0x3b9]), (0x1f85, [0x1f05, 0x3b9]),
    (0x1f86, [0x1f06, 0x3b9]), (0x1f87, [0x1f07, 0x3b9]), (0x1f88, [0x1f00, 0x3b9]),
    (0x1f89, [0x1f01, 0x3b9]), (0x1f8a, [0x1f02, 0x3b9]), (0x1f8b, [0x1f03, 0x3b9]),
    (0x1f8c, [0x1f04, 0x3b9]), (0x1f8d, [0x1f05, 0x3b9]), (0x1f8e, [0x1f06, 0x3b9]),
    (0x1f8f, [0x1f07, 0x3b9]), (0x1f90, [0x1f20, 0x3b9]), (0x1f91, [0x1f21, 0x3b9]),
    (0x1f92, [0x1f22, 0x3b9]), (0x1f93, [0x1f23, 0x3b9]), (0x1f94, [0x1f24, 0x3b9]),
    (0x1f95, [0x1f25, 0x3b9]), (0x1f96, [0x1f26, 0x3b9]), (0x1f97, [0x1f27, 0x3b9]),
    (0x1f98, [0x1f20, 0x3b9]), (0x1f99, [0x1f21, 0x3b9]), (0x1f9a, [0x1f22, 0x3b9]),
    (0x1f9b, [0x1f23, 0x3b9]), (0x1f9c, [0x1f24, 0x3b9]), (0x1f9d, [0x1f25, 0x3b9]),
    (0x1f9e, [0x1f26, 0x3b9]), (0x1f9f, [0x1f27, 0x3b9]), (0x1fa0, [0x1f60, 0x3b9]),
    (0x1fa1, [0x1f61, 0x3b9]), (0x1fa2, [0x1f62, 0x3b9]), (0x1fa3, [0x1f63, 0x3b9]),
    (0x1fa4, [0x1f64, 0x3b9]), (0x1fa5, [0x1f65, 0x3b9]), (0x1fa6, [0x1f66, 0x3b9]),
    (0x1fa7, [0x1f67, 0x3b9]), (0x1fa8, [0x1f60, 0x3b9]), (0x1fa9, [0x1f61, 0x3b9]),
    (0x1faa, [0x1f62, 0x3b9]), (0x1fab, [0x1f63, 0x3b9]), (0x1fac, [0x1f64, 0x3b9]),
    (0x1fad, [0x1f65, 0x3b9]), (0x1fae, [0x1f66, 0x3b9]), (0x1faf, [0x1f67, 0x3b9]),
    (0x1fb2, [0x1f70, 0x3b9]), (0x1fb3, [0x3b1, 0x3b9]), (0x1fb4, [0x3ac, 0x3b9]),
    (0x1fb7, [0x1fb6, 0x3b9]), (0x1fbc, [0x3b1, 0x3b9]), (0x1fc2, [0x1f74, 0x3b9]),
    (0x1fc3, [0x3b7, 0x3b9]), (0x1fc4, [0x3ae, 0x3b9]), (0x1fc7, [0x1fc6, 0x3b9]),
    (0x1fcc, [0x3b7, 0x3b9]), (0x1ff2, [0x1f7c, 0x3b9]), (0x1ff3, [0x3c9, 0x3b9]),
    (0x1ff4, [0x3ce, 0x3b9]), (0x1ff7, [0x1ff6, 0x3b9]), (0x1ffc, [0x3c9, 0x3b9]),
    (0x2033, [0x2032, 0x2032]), (0x2034, [0x2032, 0x2032, 0x2032]), (0x2036, [0x2035, 0x2035]),
    (0x2037, [0x2035, 0x2035, 0x2035]), (0x2057, [0x2032, 0x2032, 0x2032, 0x2032]),
    (0x222c, [0x222b, 0x222b]), (0x222d, [0x222b, 0x222b, 0x222b]), (0x222f, [0x222e, 0x222e]),
    (0x2230, [0x222e, 0x222e, 0x222e]), (0x2a0c, [0x222b, 0x222b, 0x222b, 0x222b]),
    (0x2adc, [0x2add, 0x338])
  ]

/-- Words in one square. -/
def squareTexts : List (Nat × List Nat) :=
  [
    (0x309f, [0x3088, 0x308a]), (0x30ff, [0x30b3, 0x30c8]), (0x327c, [0xcc38, 0xace0]),
    (0x327d, [0xc8fc, 0xc758]), (0x32ff, [0x4ee4, 0x548c]),
    (0x3300, [0x30a2, 0x30d1, 0x30fc, 0x30c8]), (0x3301, [0x30a2, 0x30eb, 0x30d5, 0x30a1]),
    (0x3302, [0x30a2, 0x30f3, 0x30da, 0x30a2]), (0x3303, [0x30a2, 0x30fc, 0x30eb]),
    (0x3304, [0x30a4, 0x30cb, 0x30f3, 0x30b0]), (0x3305, [0x30a4, 0x30f3, 0x30c1]),
    (0x3306, [0x30a6, 0x30a9, 0x30f3]), (0x3307, [0x30a8, 0x30b9, 0x30af, 0x30fc, 0x30c9]),
    (0x3308, [0x30a8, 0x30fc, 0x30ab, 0x30fc]), (0x3309, [0x30aa, 0x30f3, 0x30b9]),
    (0x330a, [0x30aa, 0x30fc, 0x30e0]), (0x330b, [0x30ab, 0x30a4, 0x30ea]),
    (0x330c, [0x30ab, 0x30e9, 0x30c3, 0x30c8]), (0x330d, [0x30ab, 0x30ed, 0x30ea, 0x30fc]),
    (0x330e, [0x30ac, 0x30ed, 0x30f3]), (0x330f, [0x30ac, 0x30f3, 0x30de]),
    (0x3310, [0x30ae, 0x30ac]), (0x3311, [0x30ae, 0x30cb, 0x30fc]),
    (0x3312, [0x30ad, 0x30e5, 0x30ea, 0x30fc]), (0x3313, [0x30ae, 0x30eb, 0x30c0, 0x30fc]),
    (0x3314, [0x30ad, 0x30ed]), (0x3315, [0x30ad, 0x30ed, 0x30b0, 0x30e9, 0x30e0]),
    (0x3316, [0x30ad, 0x30ed, 0x30e1, 0x30fc, 0x30c8, 0x30eb]),
    (0x3317, [0x30ad, 0x30ed, 0x30ef, 0x30c3, 0x30c8]), (0x3318, [0x30b0, 0x30e9, 0x30e0]),
    (0x3319, [0x30b0, 0x30e9, 0x30e0, 0x30c8, 0x30f3]),
    (0x331a, [0x30af, 0x30eb, 0x30bc, 0x30a4, 0x30ed]), (0x331b, [0x30af, 0x30ed, 0x30fc, 0x30cd]),
    (0x331c, [0x30b1, 0x30fc, 0x30b9]), (0x331d, [0x30b3, 0x30eb, 0x30ca]),
    (0x331e, [0x30b3, 0x30fc, 0x30dd]), (0x331f, [0x30b5, 0x30a4, 0x30af, 0x30eb]),
    (0x3320, [0x30b5, 0x30f3, 0x30c1, 0x30fc, 0x30e0]), (0x3321, [0x30b7, 0x30ea, 0x30f3, 0x30b0]),
    (0x3322, [0x30bb, 0x30f3, 0x30c1]), (0x3323, [0x30bb, 0x30f3, 0x30c8]),
    (0x3324, [0x30c0, 0x30fc, 0x30b9]), (0x3325, [0x30c7, 0x30b7]), (0x3326, [0x30c9, 0x30eb]),
    (0x3327, [0x30c8, 0x30f3]), (0x3328, [0x30ca, 0x30ce]), (0x3329, [0x30ce, 0x30c3, 0x30c8]),
    (0x332a, [0x30cf, 0x30a4, 0x30c4]), (0x332b, [0x30d1, 0x30fc, 0x30bb, 0x30f3, 0x30c8]),
    (0x332c, [0x30d1, 0x30fc, 0x30c4]), (0x332d, [0x30d0, 0x30fc, 0x30ec, 0x30eb]),
    (0x332e, [0x30d4, 0x30a2, 0x30b9, 0x30c8, 0x30eb]), (0x332f, [0x30d4, 0x30af, 0x30eb]),
    (0x3330, [0x30d4, 0x30b3]), (0x3331, [0x30d3, 0x30eb]),
    (0x3332, [0x30d5, 0x30a1, 0x30e9, 0x30c3, 0x30c9]), (0x3333, [0x30d5, 0x30a3, 0x30fc, 0x30c8]),
    (0x3334, [0x30d6, 0x30c3, 0x30b7, 0x30a7, 0x30eb]), (0x3335, [0x30d5, 0x30e9, 0x30f3]),
    (0x3336, [0x30d8, 0x30af, 0x30bf, 0x30fc, 0x30eb]), (0x3337, [0x30da, 0x30bd]),
    (0x3338, [0x30da, 0x30cb, 0x30d2]), (0x3339, [0x30d8, 0x30eb, 0x30c4]),
    (0x333a, [0x30da, 0x30f3, 0x30b9]), (0x333b, [0x30da, 0x30fc, 0x30b8]),
    (0x333c, [0x30d9, 0x30fc, 0x30bf]), (0x333d, [0x30dd, 0x30a4, 0x30f3, 0x30c8]),
    (0x333e, [0x30dc, 0x30eb, 0x30c8]), (0x333f, [0x30db, 0x30f3]),
    (0x3340, [0x30dd, 0x30f3, 0x30c9]), (0x3341, [0x30db, 0x30fc, 0x30eb]),
    (0x3342, [0x30db, 0x30fc, 0x30f3]), (0x3343, [0x30de, 0x30a4, 0x30af, 0x30ed]),
    (0x3344, [0x30de, 0x30a4, 0x30eb]), (0x3345, [0x30de, 0x30c3, 0x30cf]),
    (0x3346, [0x30de, 0x30eb, 0x30af]), (0x3347, [0x30de, 0x30f3, 0x30b7, 0x30e7, 0x30f3]),
    (0x3348, [0x30df, 0x30af, 0x30ed, 0x30f3]), (0x3349, [0x30df, 0x30ea]),
    (0x334a, [0x30df, 0x30ea, 0x30d0, 0x30fc, 0x30eb]), (0x334b, [0x30e1, 0x30ac]),
    (0x334c, [0x30e1, 0x30ac, 0x30c8, 0x30f3]), (0x334d, [0x30e1, 0x30fc, 0x30c8, 0x30eb]),
    (0x334e, [0x30e4, 0x30fc, 0x30c9]), (0x334f, [0x30e4, 0x30fc, 0x30eb]),
    (0x3350, [0x30e6, 0x30a2, 0x30f3]), (0x3351, [0x30ea, 0x30c3, 0x30c8, 0x30eb]),
    (0x3352, [0x30ea, 0x30e9]), (0x3353, [0x30eb, 0x30d4, 0x30fc]),
    (0x3354, [0x30eb, 0x30fc, 0x30d6, 0x30eb]), (0x3355, [0x30ec, 0x30e0]),
    (0x3356, [0x30ec, 0x30f3, 0x30c8, 0x30b2, 0x30f3]), (0x3357, [0x30ef, 0x30c3, 0x30c8]),
    (0x337b, [0x5e73, 0x6210]), (0x337c, [0x662d, 0x548c]), (0x337d, [0x5927, 0x6b63]),
    (0x337e, [0x660e, 0x6cbb]), (0x337f, [0x682a, 0x5f0f, 0x4f1a, 0x793e])
  ]

/-- Letters written as one. -/
def ligatureTexts : List (Nat × List Nat) :=
  [
    (0xfb13, [0x574, 0x576]), (0xfb14, [0x574, 0x565]), (0xfb15, [0x574, 0x56b]),
    (0xfb16, [0x57e, 0x576]), (0xfb17, [0x574, 0x56d]), (0xfb1d, [0x5d9, 0x5b4]),
    (0xfb1f, [0x5f2, 0x5b7]), (0xfb2a, [0x5e9, 0x5c1]), (0xfb2b, [0x5e9, 0x5c2]),
    (0xfb2c, [0x5e9, 0x5bc, 0x5c1]), (0xfb2d, [0x5e9, 0x5bc, 0x5c2]), (0xfb2e, [0x5d0, 0x5b7]),
    (0xfb2f, [0x5d0, 0x5b8]), (0xfb30, [0x5d0, 0x5bc]), (0xfb31, [0x5d1, 0x5bc]),
    (0xfb32, [0x5d2, 0x5bc]), (0xfb33, [0x5d3, 0x5bc]), (0xfb34, [0x5d4, 0x5bc]),
    (0xfb35, [0x5d5, 0x5bc]), (0xfb36, [0x5d6, 0x5bc]), (0xfb38, [0x5d8, 0x5bc]),
    (0xfb39, [0x5d9, 0x5bc]), (0xfb3a, [0x5da, 0x5bc]), (0xfb3b, [0x5db, 0x5bc]),
    (0xfb3c, [0x5dc, 0x5bc]), (0xfb3e, [0x5de, 0x5bc]), (0xfb40, [0x5e0, 0x5bc]),
    (0xfb41, [0x5e1, 0x5bc]), (0xfb43, [0x5e3, 0x5bc]), (0xfb44, [0x5e4, 0x5bc]),
    (0xfb46, [0x5e6, 0x5bc]), (0xfb47, [0x5e7, 0x5bc]), (0xfb48, [0x5e8, 0x5bc]),
    (0xfb49, [0x5e9, 0x5bc]), (0xfb4a, [0x5ea, 0x5bc]), (0xfb4b, [0x5d5, 0x5b9]),
    (0xfb4c, [0x5d1, 0x5bf]), (0xfb4d, [0x5db, 0x5bf]), (0xfb4e, [0x5e4, 0x5bf]),
    (0xfb4f, [0x5d0, 0x5dc]), (0xfbdd, [0x6c7, 0x674]), (0xfbea, [0x626, 0x627]),
    (0xfbeb, [0x626, 0x627]), (0xfbec, [0x626, 0x6d5]), (0xfbed, [0x626, 0x6d5]),
    (0xfbee, [0x626, 0x648]), (0xfbef, [0x626, 0x648]), (0xfbf0, [0x626, 0x6c7]),
    (0xfbf1, [0x626, 0x6c7]), (0xfbf2, [0x626, 0x6c6]), (0xfbf3, [0x626, 0x6c6]),
    (0xfbf4, [0x626, 0x6c8]), (0xfbf5, [0x626, 0x6c8]), (0xfbf6, [0x626, 0x6d0]),
    (0xfbf7, [0x626, 0x6d0]), (0xfbf8, [0x626, 0x6d0]), (0xfbf9, [0x626, 0x649]),
    (0xfbfa, [0x626, 0x649]), (0xfbfb, [0x626, 0x649]), (0xfc00, [0x626, 0x62c]),
    (0xfc01, [0x626, 0x62d]), (0xfc02, [0x626, 0x645]), (0xfc03, [0x626, 0x649]),
    (0xfc04, [0x626, 0x64a]), (0xfc05, [0x628, 0x62c]), (0xfc06, [0x628, 0x62d]),
    (0xfc07, [0x628, 0x62e]), (0xfc08, [0x628, 0x645]), (0xfc09, [0x628, 0x649]),
    (0xfc0a, [0x628, 0x64a]), (0xfc0b, [0x62a, 0x62c]), (0xfc0c, [0x62a, 0x62d]),
    (0xfc0d, [0x62a, 0x62e]), (0xfc0e, [0x62a, 0x645]), (0xfc0f, [0x62a, 0x649]),
    (0xfc10, [0x62a, 0x64a]), (0xfc11, [0x62b, 0x62c]), (0xfc12, [0x62b, 0x645]),
    (0xfc13, [0x62b, 0x649]), (0xfc14, [0x62b, 0x64a]), (0xfc15, [0x62c, 0x62d]),
    (0xfc16, [0x62c, 0x645]), (0xfc17, [0x62d, 0x62c]), (0xfc18, [0x62d, 0x645]),
    (0xfc19, [0x62e, 0x62c]), (0xfc1a, [0x62e, 0x62d]), (0xfc1b, [0x62e, 0x645]),
    (0xfc1c, [0x633, 0x62c]), (0xfc1d, [0x633, 0x62d]), (0xfc1e, [0x633, 0x62e]),
    (0xfc1f, [0x633, 0x645]), (0xfc20, [0x635, 0x62d]), (0xfc21, [0x635, 0x645]),
    (0xfc22, [0x636, 0x62c]), (0xfc23, [0x636, 0x62d]), (0xfc24, [0x636, 0x62e]),
    (0xfc25, [0x636, 0x645]), (0xfc26, [0x637, 0x62d]), (0xfc27, [0x637, 0x645]),
    (0xfc28, [0x638, 0x645]), (0xfc29, [0x639, 0x62c]), (0xfc2a, [0x639, 0x645]),
    (0xfc2b, [0x63a, 0x62c]), (0xfc2c, [0x63a, 0x645]), (0xfc2d, [0x641, 0x62c]),
    (0xfc2e, [0x641, 0x62d]), (0xfc2f, [0x641, 0x62e]), (0xfc30, [0x641, 0x645]),
    (0xfc31, [0x641, 0x649]), (0xfc32, [0x641, 0x64a]), (0xfc33, [0x642, 0x62d]),
    (0xfc34, [0x642, 0x645]), (0xfc35, [0x642, 0x649]), (0xfc36, [0x642, 0x64a]),
    (0xfc37, [0x643, 0x627]), (0xfc38, [0x643, 0x62c]), (0xfc39, [0x643, 0x62d]),
    (0xfc3a, [0x643, 0x62e]), (0xfc3b, [0x643, 0x644]), (0xfc3c, [0x643, 0x645]),
    (0xfc3d, [0x643, 0x649]), (0xfc3e, [0x643, 0x64a]), (0xfc3f, [0x644, 0x62c]),
    (0xfc40, [0x644, 0x62d]), (0xfc41, [0x644, 0x62e]), (0xfc42, [0x644, 0x645]),
    (0xfc43, [0x644, 0x649]), (0xfc44, [0x644, 0x64a]), (0xfc45, [0x645, 0x62c]),
    (0xfc46, [0x645, 0x62d]), (0xfc47, [0x645, 0x62e]), (0xfc48, [0x645, 0x645]),
    (0xfc49, [0x645, 0x649]), (0xfc4a, [0x645, 0x64a]), (0xfc4b, [0x646, 0x62c]),
    (0xfc4c, [0x646, 0x62d]), (0xfc4d, [0x646, 0x62e]), (0xfc4e, [0x646, 0x645]),
    (0xfc4f, [0x646, 0x649]), (0xfc50, [0x646, 0x64a]), (0xfc51, [0x647, 0x62c]),
    (0xfc52, [0x647, 0x645]), (0xfc53, [0x647, 0x649]), (0xfc54, [0x647, 0x64a]),
    (0xfc55, [0x64a, 0x62c]), (0xfc56, [0x64a, 0x62d]), (0xfc57, [0x64a, 0x62e]),
    (0xfc58, [0x64a, 0x645]), (0xfc59, [0x64a, 0x649]), (0xfc5a, [0x64a, 0x64a]),
    (0xfc5b, [0x630, 0x670]), (0xfc5c, [0x631, 0x670]), (0xfc5d, [0x649, 0x670]),
    (0xfc64, [0x626, 0x631]), (0xfc65, [0x626, 0x632]), (0xfc66, [0x626, 0x645]),
    (0xfc67, [0x626, 0x646]), (0xfc68, [0x626, 0x649]), (0xfc69, [0x626, 0x64a]),
    (0xfc6a, [0x628, 0x631]), (0xfc6b, [0x628, 0x632]), (0xfc6c, [0x628, 0x645]),
    (0xfc6d, [0x628, 0x646]), (0xfc6e, [0x628, 0x649]), (0xfc6f, [0x628, 0x64a]),
    (0xfc70, [0x62a, 0x631]), (0xfc71, [0x62a, 0x632]), (0xfc72, [0x62a, 0x645]),
    (0xfc73, [0x62a, 0x646]), (0xfc74, [0x62a, 0x649]), (0xfc75, [0x62a, 0x64a]),
    (0xfc76, [0x62b, 0x631]), (0xfc77, [0x62b, 0x632]), (0xfc78, [0x62b, 0x645]),
    (0xfc79, [0x62b, 0x646]), (0xfc7a, [0x62b, 0x649]), (0xfc7b, [0x62b, 0x64a]),
    (0xfc7c, [0x641, 0x649]), (0xfc7d, [0x641, 0x64a]), (0xfc7e, [0x642, 0x649]),
    (0xfc7f, [0x642, 0x64a]), (0xfc80, [0x643, 0x627]), (0xfc81, [0x643, 0x644]),
    (0xfc82, [0x643, 0x645]), (0xfc83, [0x643, 0x649]), (0xfc84, [0x643, 0x64a]),
    (0xfc85, [0x644, 0x645]), (0xfc86, [0x644, 0x649]), (0xfc87, [0x644, 0x64a]),
    (0xfc88, [0x645, 0x627]), (0xfc89, [0x645, 0x645]), (0xfc8a, [0x646, 0x631]),
    (0xfc8b, [0x646, 0x632]), (0xfc8c, [0x646, 0x645]), (0xfc8d, [0x646, 0x646]),
    (0xfc8e, [0x646, 0x649]), (0xfc8f, [0x646, 0x64a]), (0xfc90, [0x649, 0x670]),
    (0xfc91, [0x64a, 0x631]), (0xfc92, [0x64a, 0x632]), (0xfc93, [0x64a, 0x645]),
    (0xfc94, [0x64a, 0x646]), (0xfc95, [0x64a, 0x649]), (0xfc96, [0x64a, 0x64a]),
    (0xfc97, [0x626, 0x62c]), (0xfc98, [0x626, 0x62d]), (0xfc99, [0x626, 0x62e]),
    (0xfc9a, [0x626, 0x645]), (0xfc9b, [0x626, 0x647]), (0xfc9c, [0x628, 0x62c]),
    (0xfc9d, [0x628, 0x62d]), (0xfc9e, [0x628, 0x62e]), (0xfc9f, [0x628, 0x645]),
    (0xfca0, [0x628, 0x647]), (0xfca1, [0x62a, 0x62c]), (0xfca2, [0x62a, 0x62d]),
    (0xfca3, [0x62a, 0x62e]), (0xfca4, [0x62a, 0x645]), (0xfca5, [0x62a, 0x647]),
    (0xfca6, [0x62b, 0x645]), (0xfca7, [0x62c, 0x62d]), (0xfca8, [0x62c, 0x645]),
    (0xfca9, [0x62d, 0x62c]), (0xfcaa, [0x62d, 0x645]), (0xfcab, [0x62e, 0x62c]),
    (0xfcac, [0x62e, 0x645]), (0xfcad, [0x633, 0x62c]), (0xfcae, [0x633, 0x62d]),
    (0xfcaf, [0x633, 0x62e]), (0xfcb0, [0x633, 0x645]), (0xfcb1, [0x635, 0x62d]),
    (0xfcb2, [0x635, 0x62e]), (0xfcb3, [0x635, 0x645]), (0xfcb4, [0x636, 0x62c]),
    (0xfcb5, [0x636, 0x62d]), (0xfcb6, [0x636, 0x62e]), (0xfcb7, [0x636, 0x645]),
    (0xfcb8, [0x637, 0x62d]), (0xfcb9, [0x638, 0x645]), (0xfcba, [0x639, 0x62c]),
    (0xfcbb, [0x639, 0x645]), (0xfcbc, [0x63a, 0x62c]), (0xfcbd, [0x63a, 0x645]),
    (0xfcbe, [0x641, 0x62c]), (0xfcbf, [0x641, 0x62d]), (0xfcc0, [0x641, 0x62e]),
    (0xfcc1, [0x641, 0x645]), (0xfcc2, [0x642, 0x62d]), (0xfcc3, [0x642, 0x645]),
    (0xfcc4, [0x643, 0x62c]), (0xfcc5, [0x643, 0x62d]), (0xfcc6, [0x643, 0x62e]),
    (0xfcc7, [0x643, 0x644]), (0xfcc8, [0x643, 0x645]), (0xfcc9, [0x644, 0x62c]),
    (0xfcca, [0x644, 0x62d]), (0xfccb, [0x644, 0x62e]), (0xfccc, [0x644, 0x645]),
    (0xfccd, [0x644, 0x647]), (0xfcce, [0x645, 0x62c]), (0xfccf, [0x645, 0x62d]),
    (0xfcd0, [0x645, 0x62e]), (0xfcd1, [0x645, 0x645]), (0xfcd2, [0x646, 0x62c]),
    (0xfcd3, [0x646, 0x62d]), (0xfcd4, [0x646, 0x62e]), (0xfcd5, [0x646, 0x645]),
    (0xfcd6, [0x646, 0x647]), (0xfcd7, [0x647, 0x62c]), (0xfcd8, [0x647, 0x645]),
    (0xfcd9, [0x647, 0x670]), (0xfcda, [0x64a, 0x62c]), (0xfcdb, [0x64a, 0x62d]),
    (0xfcdc, [0x64a, 0x62e]), (0xfcdd, [0x64a, 0x645]), (0xfcde, [0x64a, 0x647]),
    (0xfcdf, [0x626, 0x645]), (0xfce0, [0x626, 0x647]), (0xfce1, [0x628, 0x645]),
    (0xfce2, [0x628, 0x647]), (0xfce3, [0x62a, 0x645]), (0xfce4, [0x62a, 0x647]),
    (0xfce5, [0x62b, 0x645]), (0xfce6, [0x62b, 0x647]), (0xfce7, [0x633, 0x645]),
    (0xfce8, [0x633, 0x647]), (0xfce9, [0x634, 0x645]), (0xfcea, [0x634, 0x647]),
    (0xfceb, [0x643, 0x644]), (0xfcec, [0x643, 0x645]), (0xfced, [0x644, 0x645]),
    (0xfcee, [0x646, 0x645]), (0xfcef, [0x646, 0x647]), (0xfcf0, [0x64a, 0x645]),
    (0xfcf1, [0x64a, 0x647]), (0xfcf2, [0x640, 0x64e, 0x651]), (0xfcf3, [0x640, 0x64f, 0x651]),
    (0xfcf4, [0x640, 0x650, 0x651]), (0xfcf5, [0x637, 0x649]), (0xfcf6, [0x637, 0x64a]),
    (0xfcf7, [0x639, 0x649]), (0xfcf8, [0x639, 0x64a]), (0xfcf9, [0x63a, 0x649]),
    (0xfcfa, [0x63a, 0x64a]), (0xfcfb, [0x633, 0x649]), (0xfcfc, [0x633, 0x64a]),
    (0xfcfd, [0x634, 0x649]), (0xfcfe, [0x634, 0x64a]), (0xfcff, [0x62d, 0x649])
  ]

/-- More letters written as one, and notes. -/
def moreTexts : List (Nat × List Nat) :=
  [
    (0xfd00, [0x62d, 0x64a]), (0xfd01, [0x62c, 0x649]), (0xfd02, [0x62c, 0x64a]),
    (0xfd03, [0x62e, 0x649]), (0xfd04, [0x62e, 0x64a]), (0xfd05, [0x635, 0x649]),
    (0xfd06, [0x635, 0x64a]), (0xfd07, [0x636, 0x649]), (0xfd08, [0x636, 0x64a]),
    (0xfd09, [0x634, 0x62c]), (0xfd0a, [0x634, 0x62d]), (0xfd0b, [0x634, 0x62e]),
    (0xfd0c, [0x634, 0x645]), (0xfd0d, [0x634, 0x631]), (0xfd0e, [0x633, 0x631]),
    (0xfd0f, [0x635, 0x631]), (0xfd10, [0x636, 0x631]), (0xfd11, [0x637, 0x649]),
    (0xfd12, [0x637, 0x64a]), (0xfd13, [0x639, 0x649]), (0xfd14, [0x639, 0x64a]),
    (0xfd15, [0x63a, 0x649]), (0xfd16, [0x63a, 0x64a]), (0xfd17, [0x633, 0x649]),
    (0xfd18, [0x633, 0x64a]), (0xfd19, [0x634, 0x649]), (0xfd1a, [0x634, 0x64a]),
    (0xfd1b, [0x62d, 0x649]), (0xfd1c, [0x62d, 0x64a]), (0xfd1d, [0x62c, 0x649]),
    (0xfd1e, [0x62c, 0x64a]), (0xfd1f, [0x62e, 0x649]), (0xfd20, [0x62e, 0x64a]),
    (0xfd21, [0x635, 0x649]), (0xfd22, [0x635, 0x64a]), (0xfd23, [0x636, 0x649]),
    (0xfd24, [0x636, 0x64a]), (0xfd25, [0x634, 0x62c]), (0xfd26, [0x634, 0x62d]),
    (0xfd27, [0x634, 0x62e]), (0xfd28, [0x634, 0x645]), (0xfd29, [0x634, 0x631]),
    (0xfd2a, [0x633, 0x631]), (0xfd2b, [0x635, 0x631]), (0xfd2c, [0x636, 0x631]),
    (0xfd2d, [0x634, 0x62c]), (0xfd2e, [0x634, 0x62d]), (0xfd2f, [0x634, 0x62e]),
    (0xfd30, [0x634, 0x645]), (0xfd31, [0x633, 0x647]), (0xfd32, [0x634, 0x647]),
    (0xfd33, [0x637, 0x645]), (0xfd34, [0x633, 0x62c]), (0xfd35, [0x633, 0x62d]),
    (0xfd36, [0x633, 0x62e]), (0xfd37, [0x634, 0x62c]), (0xfd38, [0x634, 0x62d]),
    (0xfd39, [0x634, 0x62e]), (0xfd3a, [0x637, 0x645]), (0xfd3b, [0x638, 0x645]),
    (0xfd3c, [0x627, 0x64b]), (0xfd3d, [0x627, 0x64b]), (0xfd50, [0x62a, 0x62c, 0x645]),
    (0xfd51, [0x62a, 0x62d, 0x62c]), (0xfd52, [0x62a, 0x62d, 0x62c]),
    (0xfd53, [0x62a, 0x62d, 0x645]), (0xfd54, [0x62a, 0x62e, 0x645]),
    (0xfd55, [0x62a, 0x645, 0x62c]), (0xfd56, [0x62a, 0x645, 0x62d]),
    (0xfd57, [0x62a, 0x645, 0x62e]), (0xfd58, [0x62c, 0x645, 0x62d]),
    (0xfd59, [0x62c, 0x645, 0x62d]), (0xfd5a, [0x62d, 0x645, 0x64a]),
    (0xfd5b, [0x62d, 0x645, 0x649]), (0xfd5c, [0x633, 0x62d, 0x62c]),
    (0xfd5d, [0x633, 0x62c, 0x62d]), (0xfd5e, [0x633, 0x62c, 0x649]),
    (0xfd5f, [0x633, 0x645, 0x62d]), (0xfd60, [0x633, 0x645, 0x62d]),
    (0xfd61, [0x633, 0x645, 0x62c]), (0xfd62, [0x633, 0x645, 0x645]),
    (0xfd63, [0x633, 0x645, 0x645]), (0xfd64, [0x635, 0x62d, 0x62d]),
    (0xfd65, [0x635, 0x62d, 0x62d]), (0xfd66, [0x635, 0x645, 0x645]),
    (0xfd67, [0x634, 0x62d, 0x645]), (0xfd68, [0x634, 0x62d, 0x645]),
    (0xfd69, [0x634, 0x62c, 0x64a]), (0xfd6a, [0x634, 0x645, 0x62e]),
    (0xfd6b, [0x634, 0x645, 0x62e]), (0xfd6c, [0x634, 0x645, 0x645]),
    (0xfd6d, [0x634, 0x645, 0x645]), (0xfd6e, [0x636, 0x62d, 0x649]),
    (0xfd6f, [0x636, 0x62e, 0x645]), (0xfd70, [0x636, 0x62e, 0x645]),
    (0xfd71, [0x637, 0x645, 0x62d]), (0xfd72, [0x637, 0x645, 0x62d]),
    (0xfd73, [0x637, 0x645, 0x645]), (0xfd74, [0x637, 0x645, 0x64a]),
    (0xfd75, [0x639, 0x62c, 0x645]), (0xfd76, [0x639, 0x645, 0x645]),
    (0xfd77, [0x639, 0x645, 0x645]), (0xfd78, [0x639, 0x645, 0x649]),
    (0xfd79, [0x63a, 0x645, 0x645]), (0xfd7a, [0x63a, 0x645, 0x64a]),
    (0xfd7b, [0x63a, 0x645, 0x649]), (0xfd7c, [0x641, 0x62e, 0x645]),
    (0xfd7d, [0x641, 0x62e, 0x645]), (0xfd7e, [0x642, 0x645, 0x62d]),
    (0xfd7f, [0x642, 0x645, 0x645]), (0xfd80, [0x644, 0x62d, 0x645]),
    (0xfd81, [0x644, 0x62d, 0x64a]), (0xfd82, [0x644, 0x62d, 0x649]),
    (0xfd83, [0x644, 0x62c, 0x62c]), (0xfd84, [0x644, 0x62c, 0x62c]),
    (0xfd85, [0x644, 0x62e, 0x645]), (0xfd86, [0x644, 0x62e, 0x645]),
    (0xfd87, [0x644, 0x645, 0x62d]), (0xfd88, [0x644, 0x645, 0x62d]),
    (0xfd89, [0x645, 0x62d, 0x62c]), (0xfd8a, [0x645, 0x62d, 0x645]),
    (0xfd8b, [0x645, 0x62d, 0x64a]), (0xfd8c, [0x645, 0x62c, 0x62d]),
    (0xfd8d, [0x645, 0x62c, 0x645]), (0xfd8e, [0x645, 0x62e, 0x62c]),
    (0xfd8f, [0x645, 0x62e, 0x645]), (0xfd92, [0x645, 0x62c, 0x62e]),
    (0xfd93, [0x647, 0x645, 0x62c]), (0xfd94, [0x647, 0x645, 0x645]),
    (0xfd95, [0x646, 0x62d, 0x645]), (0xfd96, [0x646, 0x62d, 0x649]),
    (0xfd97, [0x646, 0x62c, 0x645]), (0xfd98, [0x646, 0x62c, 0x645]),
    (0xfd99, [0x646, 0x62c, 0x649]), (0xfd9a, [0x646, 0x645, 0x64a]),
    (0xfd9b, [0x646, 0x645, 0x649]), (0xfd9c, [0x64a, 0x645, 0x645]),
    (0xfd9d, [0x64a, 0x645, 0x645]), (0xfd9e, [0x628, 0x62e, 0x64a]),
    (0xfd9f, [0x62a, 0x62c, 0x64a]), (0xfda0, [0x62a, 0x62c, 0x649]),
    (0xfda1, [0x62a, 0x62e, 0x64a]), (0xfda2, [0x62a, 0x62e, 0x649]),
    (0xfda3, [0x62a, 0x645, 0x64a]), (0xfda4, [0x62a, 0x645, 0x649]),
    (0xfda5, [0x62c, 0x645, 0x64a]), (0xfda6, [0x62c, 0x62d, 0x649]),
    (0xfda7, [0x62c, 0x645, 0x649]), (0xfda8, [0x633, 0x62e, 0x649]),
    (0xfda9, [0x635, 0x62d, 0x64a]), (0xfdaa, [0x634, 0x62d, 0x64a]),
    (0xfdab, [0x636, 0x62d, 0x64a]), (0xfdac, [0x644, 0x62c, 0x64a]),
    (0xfdad, [0x644, 0x645, 0x64a]), (0xfdae, [0x64a, 0x62d, 0x64a]),
    (0xfdaf, [0x64a, 0x62c, 0x64a]), (0xfdb0, [0x64a, 0x645, 0x64a]),
    (0xfdb1, [0x645, 0x645, 0x64a]), (0xfdb2, [0x642, 0x645, 0x64a]),
    (0xfdb3, [0x646, 0x62d, 0x64a]), (0xfdb4, [0x642, 0x645, 0x62d]),
    (0xfdb5, [0x644, 0x62d, 0x645]), (0xfdb6, [0x639, 0x645, 0x64a]),
    (0xfdb7, [0x643, 0x645, 0x64a]), (0xfdb8, [0x646, 0x62c, 0x62d]),
    (0xfdb9, [0x645, 0x62e, 0x64a]), (0xfdba, [0x644, 0x62c, 0x645]),
    (0xfdbb, [0x643, 0x645, 0x645]), (0xfdbc, [0x644, 0x62c, 0x645]),
    (0xfdbd, [0x646, 0x62c, 0x62d]), (0xfdbe, [0x62c, 0x62d, 0x64a]),
    (0xfdbf, [0x62d, 0x62c, 0x64a]), (0xfdc0, [0x645, 0x62c, 0x64a]),
    (0xfdc1, [0x641, 0x645, 0x64a]), (0xfdc2, [0x628, 0x62d, 0x64a]),
    (0xfdc3, [0x643, 0x645, 0x645]), (0xfdc4, [0x639, 0x62c, 0x645]),
    (0xfdc5, [0x635, 0x645, 0x645]), (0xfdc6, [0x633, 0x62e, 0x64a]),
    (0xfdc7, [0x646, 0x62c, 0x64a]), (0xfdf0, [0x635, 0x644, 0x6d2]),
    (0xfdf1, [0x642, 0x644, 0x6d2]), (0xfdf2, [0x627, 0x644, 0x644, 0x647]),
    (0xfdf3, [0x627, 0x643, 0x628, 0x631]), (0xfdf4, [0x645, 0x62d, 0x645, 0x62f]),
    (0xfdf5, [0x635, 0x644, 0x639, 0x645]), (0xfdf6, [0x631, 0x633, 0x648, 0x644]),
    (0xfdf7, [0x639, 0x644, 0x64a, 0x647]), (0xfdf8, [0x648, 0x633, 0x644, 0x645]),
    (0xfdf9, [0x635, 0x644, 0x649]), (0xfdfc, [0x631, 0x6cc, 0x627, 0x644]),
    (0xfe71, [0x640, 0x64b]), (0xfe77, [0x640, 0x64e]), (0xfe79, [0x640, 0x64f]),
    (0xfe7b, [0x640, 0x650]), (0xfe7d, [0x640, 0x651]), (0xfe7f, [0x640, 0x652]),
    (0xfef5, [0x644, 0x622]), (0xfef6, [0x644, 0x622]), (0xfef7, [0x644, 0x623]),
    (0xfef8, [0x644, 0x623]), (0xfef9, [0x644, 0x625]), (0xfefa, [0x644, 0x625]),
    (0xfefb, [0x644, 0x627]), (0xfefc, [0x644, 0x627]), (0x1d15e, [0x1d157, 0x1d165]),
    (0x1d15f, [0x1d158, 0x1d165]), (0x1d160, [0x1d158, 0x1d165, 0x1d16e]),
    (0x1d161, [0x1d158, 0x1d165, 0x1d16f]), (0x1d162, [0x1d158, 0x1d165, 0x1d170]),
    (0x1d163, [0x1d158, 0x1d165, 0x1d171]), (0x1d164, [0x1d158, 0x1d165, 0x1d172]),
    (0x1d1bb, [0x1d1b9, 0x1d165]), (0x1d1bc, [0x1d1ba, 0x1d165]),
    (0x1d1bd, [0x1d1b9, 0x1d165, 0x1d16e]), (0x1d1be, [0x1d1ba, 0x1d165, 0x1d16e]),
    (0x1d1bf, [0x1d1b9, 0x1d165, 0x1d16f]), (0x1d1c0, [0x1d1ba, 0x1d165, 0x1d16f]),
    (0x1f200, [0x307b, 0x304b]), (0x1f201, [0x30b3, 0x30b3]), (0x1f240, [0x3014, 0x672c, 0x3015]),
    (0x1f241, [0x3014, 0x4e09, 0x3015]), (0x1f242, [0x3014, 0x4e8c, 0x3015]),
    (0x1f243, [0x3014, 0x5b89, 0x3015]), (0x1f244, [0x3014, 0x70b9, 0x3015]),
    (0x1f245, [0x3014, 0x6253, 0x3015]), (0x1f246, [0x3014, 0x76d7, 0x3015]),
    (0x1f247, [0x3014, 0x52dd, 0x3015]), (0x1f248, [0x3014, 0x6557, 0x3015])
  ]

def otherTexts : List (Nat × List Nat) :=
  letterTexts ++ squareTexts ++ ligatureTexts ++ moreTexts

end FeedMonitor.Web.Domain
