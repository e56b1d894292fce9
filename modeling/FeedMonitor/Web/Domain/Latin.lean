import FeedMonitor.Text.CodeRun

/-!
Characters outside ASCII that a domain name is not written with, because they stand for ASCII
characters or for nothing, by the Unicode standard for internationalized domain names.
-/

namespace FeedMonitor.Web.Domain

/-- Characters that stand for one of ASCII. -/
def latinRuns : List Text.CodeRun :=
  [
    ⟨0xa0, 0xa0, 1, -128⟩, ⟨0xaa, 0xaa, 1, -73⟩, ⟨0xb2, 0xb3, 1, -128⟩, ⟨0xb9, 0xb9, 1, -136⟩,
    ⟨0xba, 0xba, 1, -75⟩, ⟨0x17f, 0x17f, 1, -268⟩, ⟨0x2b0, 0x2b2, 2, -584⟩,
    ⟨0x2b3, 0x2b3, 1, -577⟩, ⟨0x2b7, 0x2b7, 1, -576⟩, ⟨0x2b8, 0x2b8, 1, -575⟩,
    ⟨0x2e1, 0x2e1, 1, -629⟩, ⟨0x2e2, 0x2e2, 1, -623⟩, ⟨0x2e3, 0x2e3, 1, -619⟩,
    ⟨0x37e, 0x37e, 1, -835⟩, ⟨0x1d2c, 0x1d2c, 1, -7371⟩, ⟨0x1d2e, 0x1d30, 2, -7372⟩,
    ⟨0x1d31, 0x1d39, 2, -7372⟩, ⟨0x1d34, 0x1d3a, 2, -7372⟩, ⟨0x1d3c, 0x1d3c, 1, -7373⟩,
    ⟨0x1d3e, 0x1d3e, 1, -7374⟩, ⟨0x1d3f, 0x1d3f, 1, -7373⟩, ⟨0x1d40, 0x1d41, 1, -7372⟩,
    ⟨0x1d42, 0x1d42, 1, -7371⟩, ⟨0x1d43, 0x1d43, 1, -7394⟩, ⟨0x1d47, 0x1d47, 1, -7397⟩,
    ⟨0x1d48, 0x1d49, 1, -7396⟩, ⟨0x1d4d, 0x1d4d, 1, -7398⟩, ⟨0x1d4f, 0x1d4f, 1, -7396⟩,
    ⟨0x1d50, 0x1d52, 2, -7395⟩, ⟨0x1d56, 0x1d56, 1, -7398⟩, ⟨0x1d57, 0x1d58, 1, -7395⟩,
    ⟨0x1d5b, 0x1d5b, 1, -7397⟩, ⟨0x1d62, 0x1d62, 1, -7417⟩, ⟨0x1d63, 0x1d63, 1, -7409⟩,
    ⟨0x1d64, 0x1d65, 1, -7407⟩, ⟨0x1d9c, 0x1d9c, 1, -7481⟩, ⟨0x1da0, 0x1da0, 1, -7482⟩,
    ⟨0x1dbb, 0x1dbb, 1, -7489⟩, ⟨0x1fef, 0x1fef, 1, -8079⟩, ⟨0x2000, 0x2000, 1, -8160⟩,
    ⟨0x2001, 0x2001, 1, -8161⟩, ⟨0x2002, 0x2002, 1, -8162⟩, ⟨0x2003, 0x2003, 1, -8163⟩,
    ⟨0x2004, 0x2004, 1, -8164⟩, ⟨0x2005, 0x2005, 1, -8165⟩, ⟨0x2006, 0x2006, 1, -8166⟩,
    ⟨0x2007, 0x2007, 1, -8167⟩, ⟨0x2008, 0x2008, 1, -8168⟩, ⟨0x2009, 0x2009, 1, -8169⟩,
    ⟨0x200a, 0x200a, 1, -8170⟩, ⟨0x202f, 0x202f, 1, -8207⟩, ⟨0x205f, 0x205f, 1, -8255⟩,
    ⟨0x2070, 0x2070, 1, -8256⟩, ⟨0x2071, 0x2071, 1, -8200⟩, ⟨0x2074, 0x2079, 1, -8256⟩,
    ⟨0x207a, 0x207a, 1, -8271⟩, ⟨0x207c, 0x207c, 1, -8255⟩, ⟨0x207d, 0x207e, 1, -8277⟩,
    ⟨0x207f, 0x207f, 1, -8209⟩, ⟨0x2080, 0x2089, 1, -8272⟩, ⟨0x208a, 0x208a, 1, -8287⟩,
    ⟨0x208c, 0x208c, 1, -8271⟩, ⟨0x208d, 0x208e, 1, -8293⟩, ⟨0x2090, 0x2090, 1, -8239⟩,
    ⟨0x2091, 0x2091, 1, -8236⟩, ⟨0x2092, 0x2092, 1, -8227⟩, ⟨0x2093, 0x2093, 1, -8219⟩,
    ⟨0x2095, 0x2095, 1, -8237⟩, ⟨0x2096, 0x2099, 1, -8235⟩, ⟨0x209a, 0x209a, 1, -8234⟩,
    ⟨0x209b, 0x209c, 1, -8232⟩, ⟨0x2102, 0x2102, 1, -8351⟩, ⟨0x210a, 0x210b, 1, -8355⟩,
    ⟨0x210c, 0x210c, 1, -8356⟩, ⟨0x210d, 0x210d, 1, -8357⟩, ⟨0x210e, 0x210e, 1, -8358⟩,
    ⟨0x2110, 0x2110, 1, -8359⟩, ⟨0x2111, 0x2111, 1, -8360⟩, ⟨0x2112, 0x2112, 1, -8358⟩,
    ⟨0x2113, 0x2115, 2, -8359⟩, ⟨0x2119, 0x211b, 1, -8361⟩, ⟨0x211c, 0x211c, 1, -8362⟩,
    ⟨0x211d, 0x211d, 1, -8363⟩, ⟨0x2124, 0x2124, 1, -8362⟩, ⟨0x2128, 0x2128, 1, -8366⟩,
    ⟨0x212a, 0x212a, 1, -8383⟩, ⟨0x212c, 0x212d, 1, -8394⟩, ⟨0x212f, 0x212f, 1, -8394⟩,
    ⟨0x2130, 0x2131, 1, -8395⟩, ⟨0x2133, 0x2133, 1, -8390⟩, ⟨0x2134, 0x2134, 1, -8389⟩,
    ⟨0x2139, 0x2139, 1, -8400⟩, ⟨0x2145, 0x2145, 1, -8417⟩, ⟨0x2146, 0x2147, 1, -8418⟩,
    ⟨0x2148, 0x2149, 1, -8415⟩, ⟨0x2160, 0x2160, 1, -8439⟩, ⟨0x2164, 0x2164, 1, -8430⟩,
    ⟨0x2169, 0x2169, 1, -8433⟩, ⟨0x216c, 0x216c, 1, -8448⟩, ⟨0x216d, 0x216e, 1, -8458⟩,
    ⟨0x216f, 0x216f, 1, -8450⟩, ⟨0x2170, 0x2170, 1, -8455⟩, ⟨0x2174, 0x2174, 1, -8446⟩,
    ⟨0x2179, 0x2179, 1, -8449⟩, ⟨0x217c, 0x217c, 1, -8464⟩, ⟨0x217d, 0x217e, 1, -8474⟩,
    ⟨0x217f, 0x217f, 1, -8466⟩, ⟨0x2460, 0x2468, 1, -9263⟩, ⟨0x24b6, 0x24cf, 1, -9301⟩,
    ⟨0x24d0, 0x24e9, 1, -9327⟩, ⟨0x24ea, 0x24ea, 1, -9402⟩, ⟨0x2c7c, 0x2c7c, 1, -11282⟩,
    ⟨0x2c7d, 0x2c7d, 1, -11271⟩, ⟨0x3000, 0x3000, 1, -12256⟩, ⟨0x3002, 0x3002, 1, -12244⟩,
    ⟨0xa7f1, 0xa7f1, 1, -42878⟩, ⟨0xa7f2, 0xa7f2, 1, -42895⟩, ⟨0xa7f3, 0xa7f3, 1, -42893⟩,
    ⟨0xa7f4, 0xa7f4, 1, -42883⟩, ⟨0xfb29, 0xfb29, 1, -64254⟩, ⟨0xfe10, 0xfe10, 1, -64996⟩,
    ⟨0xfe13, 0xfe14, 1, -64985⟩, ⟨0xfe15, 0xfe15, 1, -65012⟩, ⟨0xfe16, 0xfe16, 1, -64983⟩,
    ⟨0xfe33, 0xfe33, 1, -64980⟩, ⟨0xfe34, 0xfe34, 1, -64981⟩, ⟨0xfe35, 0xfe36, 1, -65037⟩,
    ⟨0xfe37, 0xfe37, 1, -64956⟩, ⟨0xfe38, 0xfe38, 1, -64955⟩, ⟨0xfe47, 0xfe47, 1, -65004⟩,
    ⟨0xfe48, 0xfe48, 1, -65003⟩, ⟨0xfe4d, 0xfe4d, 1, -65006⟩, ⟨0xfe4e, 0xfe4e, 1, -65007⟩,
    ⟨0xfe4f, 0xfe4f, 1, -65008⟩, ⟨0xfe50, 0xfe50, 1, -65060⟩, ⟨0xfe54, 0xfe54, 1, -65049⟩,
    ⟨0xfe55, 0xfe55, 1, -65051⟩, ⟨0xfe56, 0xfe56, 1, -65047⟩, ⟨0xfe57, 0xfe57, 1, -65078⟩,
    ⟨0xfe59, 0xfe5a, 1, -65073⟩, ⟨0xfe5b, 0xfe5b, 1, -64992⟩, ⟨0xfe5c, 0xfe5c, 1, -64991⟩,
    ⟨0xfe5f, 0xfe5f, 1, -65084⟩, ⟨0xfe60, 0xfe60, 1, -65082⟩, ⟨0xfe61, 0xfe62, 1, -65079⟩,
    ⟨0xfe63, 0xfe63, 1, -65078⟩, ⟨0xfe64, 0xfe64, 1, -65064⟩, ⟨0xfe65, 0xfe65, 1, -65063⟩,
    ⟨0xfe66, 0xfe66, 1, -65065⟩, ⟨0xfe68, 0xfe68, 1, -65036⟩, ⟨0xfe69, 0xfe6a, 1, -65093⟩,
    ⟨0xfe6b, 0xfe6b, 1, -65067⟩, ⟨0xff01, 0xff20, 1, -65248⟩, ⟨0xff21, 0xff3a, 1, -65216⟩,
    ⟨0xff3b, 0xff5e, 1, -65248⟩, ⟨0xff61, 0xff61, 1, -65331⟩, ⟨0x107a5, 0x107a5, 1, -67380⟩,
    ⟨0x1ccd6, 0x1ccef, 1, -117877⟩, ⟨0x1ccf0, 0x1ccf9, 1, -117952⟩, ⟨0x1d400, 0x1d419, 1, -119711⟩,
    ⟨0x1d41a, 0x1d433, 1, -119737⟩, ⟨0x1d434, 0x1d44d, 1, -119763⟩, ⟨0x1d44e, 0x1d466, 2, -119789⟩,
    ⟨0x1d44f, 0x1d453, 2, -119789⟩, ⟨0x1d457, 0x1d467, 2, -119789⟩, ⟨0x1d468, 0x1d481, 1, -119815⟩,
    ⟨0x1d482, 0x1d49b, 1, -119841⟩, ⟨0x1d49c, 0x1d49e, 2, -119867⟩, ⟨0x1d49f, 0x1d49f, 1, -119867⟩,
    ⟨0x1d4a2, 0x1d4a2, 1, -119867⟩, ⟨0x1d4a5, 0x1d4a6, 1, -119867⟩, ⟨0x1d4a9, 0x1d4ac, 1, -119867⟩,
    ⟨0x1d4ae, 0x1d4b5, 1, -119867⟩, ⟨0x1d4b6, 0x1d4b9, 1, -119893⟩, ⟨0x1d4bb, 0x1d4cf, 2, -119893⟩,
    ⟨0x1d4be, 0x1d4c2, 2, -119893⟩, ⟨0x1d4c6, 0x1d4ce, 2, -119893⟩, ⟨0x1d4d0, 0x1d4e9, 1, -119919⟩,
    ⟨0x1d4ea, 0x1d503, 1, -119945⟩, ⟨0x1d504, 0x1d505, 1, -119971⟩, ⟨0x1d507, 0x1d50a, 1, -119971⟩,
    ⟨0x1d50d, 0x1d514, 1, -119971⟩, ⟨0x1d516, 0x1d51c, 1, -119971⟩, ⟨0x1d51e, 0x1d537, 1, -119997⟩,
    ⟨0x1d538, 0x1d539, 1, -120023⟩, ⟨0x1d53b, 0x1d53e, 1, -120023⟩, ⟨0x1d540, 0x1d544, 1, -120023⟩,
    ⟨0x1d546, 0x1d546, 1, -120023⟩, ⟨0x1d54a, 0x1d550, 1, -120023⟩, ⟨0x1d552, 0x1d56b, 1, -120049⟩,
    ⟨0x1d56c, 0x1d585, 1, -120075⟩, ⟨0x1d586, 0x1d59f, 1, -120101⟩, ⟨0x1d5a0, 0x1d5b9, 1, -120127⟩,
    ⟨0x1d5ba, 0x1d5d3, 1, -120153⟩, ⟨0x1d5d4, 0x1d5ed, 1, -120179⟩, ⟨0x1d5ee, 0x1d607, 1, -120205⟩,
    ⟨0x1d608, 0x1d621, 1, -120231⟩, ⟨0x1d622, 0x1d63b, 1, -120257⟩, ⟨0x1d63c, 0x1d655, 1, -120283⟩,
    ⟨0x1d656, 0x1d66f, 1, -120309⟩, ⟨0x1d670, 0x1d689, 1, -120335⟩, ⟨0x1d68a, 0x1d6a3, 1, -120361⟩,
    ⟨0x1d7ce, 0x1d7d7, 1, -120734⟩, ⟨0x1d7d8, 0x1d7e1, 1, -120744⟩, ⟨0x1d7e2, 0x1d7eb, 1, -120754⟩,
    ⟨0x1d7ec, 0x1d7f5, 1, -120764⟩, ⟨0x1d7f6, 0x1d7ff, 1, -120774⟩, ⟨0x1f12b, 0x1f12b, 1, -127176⟩,
    ⟨0x1f12c, 0x1f12c, 1, -127162⟩, ⟨0x1f130, 0x1f149, 1, -127183⟩, ⟨0x1fbf0, 0x1fbf9, 1, -129984⟩
  ]

/-- Characters that stand for several, some of ASCII among them. -/
def latinTexts : List (Nat × List Nat) :=
  [
    (0xa8, [0x20, 0x308]), (0xaf, [0x20, 0x304]), (0xb4, [0x20, 0x301]), (0xb8, [0x20, 0x327]),
    (0xbc, [0x31, 0x2044, 0x34]), (0xbd, [0x31, 0x2044, 0x32]), (0xbe, [0x33, 0x2044, 0x34]),
    (0x130, [0x69, 0x307]), (0x132, [0x69, 0x6a]), (0x133, [0x69, 0x6a]), (0x13f, [0x6c, 0xb7]),
    (0x140, [0x6c, 0xb7]), (0x149, [0x2bc, 0x6e]), (0x1c4, [0x64, 0x17e]), (0x1c5, [0x64, 0x17e]),
    (0x1c6, [0x64, 0x17e]), (0x1c7, [0x6c, 0x6a]), (0x1c8, [0x6c, 0x6a]), (0x1c9, [0x6c, 0x6a]),
    (0x1ca, [0x6e, 0x6a]), (0x1cb, [0x6e, 0x6a]), (0x1cc, [0x6e, 0x6a]), (0x1f1, [0x64, 0x7a]),
    (0x1f2, [0x64, 0x7a]), (0x1f3, [0x64, 0x7a]), (0x2d8, [0x20, 0x306]), (0x2d9, [0x20, 0x307]),
    (0x2da, [0x20, 0x30a]), (0x2db, [0x20, 0x328]), (0x2dc, [0x20, 0x303]), (0x2dd, [0x20, 0x30b]),
    (0x37a, [0x20, 0x3b9]), (0x384, [0x20, 0x301]), (0x385, [0x20, 0x308, 0x301]),
    (0x1e9a, [0x61, 0x2be]), (0x1fbd, [0x20, 0x313]), (0x1fbf, [0x20, 0x313]),
    (0x1fc0, [0x20, 0x342]), (0x1fc1, [0x20, 0x308, 0x342]), (0x1fcd, [0x20, 0x313, 0x300]),
    (0x1fce, [0x20, 0x313, 0x301]), (0x1fcf, [0x20, 0x313, 0x342]), (0x1fdd, [0x20, 0x314, 0x300]),
    (0x1fde, [0x20, 0x314, 0x301]), (0x1fdf, [0x20, 0x314, 0x342]), (0x1fed, [0x20, 0x308, 0x300]),
    (0x1fee, [0x20, 0x308, 0x301]), (0x1ffd, [0x20, 0x301]), (0x1ffe, [0x20, 0x314]),
    (0x2017, [0x20, 0x333]), (0x203c, [0x21, 0x21]), (0x203e, [0x20, 0x305]),
    (0x2047, [0x3f, 0x3f]), (0x2048, [0x3f, 0x21]), (0x2049, [0x21, 0x3f]), (0x20a8, [0x72, 0x73]),
    (0x2100, [0x61, 0x2f, 0x63]), (0x2101, [0x61, 0x2f, 0x73]), (0x2103, [0xb0, 0x63]),
    (0x2105, [0x63, 0x2f, 0x6f]), (0x2106, [0x63, 0x2f, 0x75]), (0x2109, [0xb0, 0x66]),
    (0x2116, [0x6e, 0x6f]), (0x2120, [0x73, 0x6d]), (0x2121, [0x74, 0x65, 0x6c]),
    (0x2122, [0x74, 0x6d]), (0x213b, [0x66, 0x61, 0x78]), (0x2150, [0x31, 0x2044, 0x37]),
    (0x2151, [0x31, 0x2044, 0x39]), (0x2152, [0x31, 0x2044, 0x31, 0x30]),
    (0x2153, [0x31, 0x2044, 0x33]), (0x2154, [0x32, 0x2044, 0x33]), (0x2155, [0x31, 0x2044, 0x35]),
    (0x2156, [0x32, 0x2044, 0x35]), (0x2157, [0x33, 0x2044, 0x35]), (0x2158, [0x34, 0x2044, 0x35]),
    (0x2159, [0x31, 0x2044, 0x36]), (0x215a, [0x35, 0x2044, 0x36]), (0x215b, [0x31, 0x2044, 0x38]),
    (0x215c, [0x33, 0x2044, 0x38]), (0x215d, [0x35, 0x2044, 0x38]), (0x215e, [0x37, 0x2044, 0x38]),
    (0x215f, [0x31, 0x2044]), (0x2161, [0x69, 0x69]), (0x2162, [0x69, 0x69, 0x69]),
    (0x2163, [0x69, 0x76]), (0x2165, [0x76, 0x69]), (0x2166, [0x76, 0x69, 0x69]),
    (0x2167, [0x76, 0x69, 0x69, 0x69]), (0x2168, [0x69, 0x78]), (0x216a, [0x78, 0x69]),
    (0x216b, [0x78, 0x69, 0x69]), (0x2171, [0x69, 0x69]), (0x2172, [0x69, 0x69, 0x69]),
    (0x2173, [0x69, 0x76]), (0x2175, [0x76, 0x69]), (0x2176, [0x76, 0x69, 0x69]),
    (0x2177, [0x76, 0x69, 0x69, 0x69]), (0x2178, [0x69, 0x78]), (0x217a, [0x78, 0x69]),
    (0x217b, [0x78, 0x69, 0x69]), (0x2189, [0x30, 0x2044, 0x33]), (0x2469, [0x31, 0x30]),
    (0x246a, [0x31, 0x31]), (0x246b, [0x31, 0x32]), (0x246c, [0x31, 0x33]), (0x246d, [0x31, 0x34]),
    (0x246e, [0x31, 0x35]), (0x246f, [0x31, 0x36]), (0x2470, [0x31, 0x37]), (0x2471, [0x31, 0x38]),
    (0x2472, [0x31, 0x39]), (0x2473, [0x32, 0x30]), (0x2474, [0x28, 0x31, 0x29]),
    (0x2475, [0x28, 0x32, 0x29]), (0x2476, [0x28, 0x33, 0x29]), (0x2477, [0x28, 0x34, 0x29]),
    (0x2478, [0x28, 0x35, 0x29]), (0x2479, [0x28, 0x36, 0x29]), (0x247a, [0x28, 0x37, 0x29]),
    (0x247b, [0x28, 0x38, 0x29]), (0x247c, [0x28, 0x39, 0x29]), (0x247d, [0x28, 0x31, 0x30, 0x29]),
    (0x247e, [0x28, 0x31, 0x31, 0x29]), (0x247f, [0x28, 0x31, 0x32, 0x29]),
    (0x2480, [0x28, 0x31, 0x33, 0x29]), (0x2481, [0x28, 0x31, 0x34, 0x29]),
    (0x2482, [0x28, 0x31, 0x35, 0x29]), (0x2483, [0x28, 0x31, 0x36, 0x29]),
    (0x2484, [0x28, 0x31, 0x37, 0x29]), (0x2485, [0x28, 0x31, 0x38, 0x29]),
    (0x2486, [0x28, 0x31, 0x39, 0x29]), (0x2487, [0x28, 0x32, 0x30, 0x29]),
    (0x249c, [0x28, 0x61, 0x29]), (0x249d, [0x28, 0x62, 0x29]), (0x249e, [0x28, 0x63, 0x29]),
    (0x249f, [0x28, 0x64, 0x29]), (0x24a0, [0x28, 0x65, 0x29]), (0x24a1, [0x28, 0x66, 0x29]),
    (0x24a2, [0x28, 0x67, 0x29]), (0x24a3, [0x28, 0x68, 0x29]), (0x24a4, [0x28, 0x69, 0x29]),
    (0x24a5, [0x28, 0x6a, 0x29]), (0x24a6, [0x28, 0x6b, 0x29]), (0x24a7, [0x28, 0x6c, 0x29]),
    (0x24a8, [0x28, 0x6d, 0x29]), (0x24a9, [0x28, 0x6e, 0x29]), (0x24aa, [0x28, 0x6f, 0x29]),
    (0x24ab, [0x28, 0x70, 0x29]), (0x24ac, [0x28, 0x71, 0x29]), (0x24ad, [0x28, 0x72, 0x29]),
    (0x24ae, [0x28, 0x73, 0x29]), (0x24af, [0x28, 0x74, 0x29]), (0x24b0, [0x28, 0x75, 0x29]),
    (0x24b1, [0x28, 0x76, 0x29]), (0x24b2, [0x28, 0x77, 0x29]), (0x24b3, [0x28, 0x78, 0x29]),
    (0x24b4, [0x28, 0x79, 0x29]), (0x24b5, [0x28, 0x7a, 0x29]), (0x2a74, [0x3a, 0x3a, 0x3d]),
    (0x2a75, [0x3d, 0x3d]), (0x2a76, [0x3d, 0x3d, 0x3d]), (0x309b, [0x20, 0x3099]),
    (0x309c, [0x20, 0x309a]), (0x3200, [0x28, 0x1100, 0x29]), (0x3201, [0x28, 0x1102, 0x29]),
    (0x3202, [0x28, 0x1103, 0x29]), (0x3203, [0x28, 0x1105, 0x29]), (0x3204, [0x28, 0x1106, 0x29]),
    (0x3205, [0x28, 0x1107, 0x29]), (0x3206, [0x28, 0x1109, 0x29]), (0x3207, [0x28, 0x110b, 0x29]),
    (0x3208, [0x28, 0x110c, 0x29]), (0x3209, [0x28, 0x110e, 0x29]), (0x320a, [0x28, 0x110f, 0x29]),
    (0x320b, [0x28, 0x1110, 0x29]), (0x320c, [0x28, 0x1111, 0x29]), (0x320d, [0x28, 0x1112, 0x29]),
    (0x320e, [0x28, 0xac00, 0x29]), (0x320f, [0x28, 0xb098, 0x29]), (0x3210, [0x28, 0xb2e4, 0x29]),
    (0x3211, [0x28, 0xb77c, 0x29]), (0x3212, [0x28, 0xb9c8, 0x29]), (0x3213, [0x28, 0xbc14, 0x29]),
    (0x3214, [0x28, 0xc0ac, 0x29]), (0x3215, [0x28, 0xc544, 0x29]), (0x3216, [0x28, 0xc790, 0x29]),
    (0x3217, [0x28, 0xcc28, 0x29]), (0x3218, [0x28, 0xce74, 0x29]), (0x3219, [0x28, 0xd0c0, 0x29]),
    (0x321a, [0x28, 0xd30c, 0x29]), (0x321b, [0x28, 0xd558, 0x29]), (0x321c, [0x28, 0xc8fc, 0x29]),
    (0x321d, [0x28, 0xc624, 0xc804, 0x29]), (0x321e, [0x28, 0xc624, 0xd6c4, 0x29]),
    (0x3220, [0x28, 0x4e00, 0x29]), (0x3221, [0x28, 0x4e8c, 0x29]), (0x3222, [0x28, 0x4e09, 0x29]),
    (0x3223, [0x28, 0x56db, 0x29]), (0x3224, [0x28, 0x4e94, 0x29]), (0x3225, [0x28, 0x516d, 0x29]),
    (0x3226, [0x28, 0x4e03, 0x29]), (0x3227, [0x28, 0x516b, 0x29]), (0x3228, [0x28, 0x4e5d, 0x29]),
    (0x3229, [0x28, 0x5341, 0x29]), (0x322a, [0x28, 0x6708, 0x29]), (0x322b, [0x28, 0x706b, 0x29]),
    (0x322c, [0x28, 0x6c34, 0x29]), (0x322d, [0x28, 0x6728, 0x29]), (0x322e, [0x28, 0x91d1, 0x29]),
    (0x322f, [0x28, 0x571f, 0x29]), (0x3230, [0x28, 0x65e5, 0x29]), (0x3231, [0x28, 0x682a, 0x29]),
    (0x3232, [0x28, 0x6709, 0x29]), (0x3233, [0x28, 0x793e, 0x29]), (0x3234, [0x28, 0x540d, 0x29]),
    (0x3235, [0x28, 0x7279, 0x29]), (0x3236, [0x28, 0x8ca1, 0x29]), (0x3237, [0x28, 0x795d, 0x29]),
    (0x3238, [0x28, 0x52b4, 0x29]), (0x3239, [0x28, 0x4ee3, 0x29]), (0x323a, [0x28, 0x547c, 0x29]),
    (0x323b, [0x28, 0x5b66, 0x29]), (0x323c, [0x28, 0x76e3, 0x29]), (0x323d, [0x28, 0x4f01, 0x29]),
    (0x323e, [0x28, 0x8cc7, 0x29]), (0x323f, [0x28, 0x5354, 0x29]), (0x3240, [0x28, 0x796d, 0x29]),
    (0x3241, [0x28, 0x4f11, 0x29]), (0x3242, [0x28, 0x81ea, 0x29]), (0x3243, [0x28, 0x81f3, 0x29]),
    (0x3250, [0x70, 0x74, 0x65]), (0x3251, [0x32, 0x31]), (0x3252, [0x32, 0x32]),
    (0x3253, [0x32, 0x33]), (0x3254, [0x32, 0x34]), (0x3255, [0x32, 0x35]), (0x3256, [0x32, 0x36]),
    (0x3257, [0x32, 0x37]), (0x3258, [0x32, 0x38]), (0x3259, [0x32, 0x39]), (0x325a, [0x33, 0x30]),
    (0x325b, [0x33, 0x31]), (0x325c, [0x33, 0x32]), (0x325d, [0x33, 0x33]), (0x325e, [0x33, 0x34]),
    (0x325f, [0x33, 0x35]), (0x32b1, [0x33, 0x36]), (0x32b2, [0x33, 0x37]), (0x32b3, [0x33, 0x38]),
    (0x32b4, [0x33, 0x39]), (0x32b5, [0x34, 0x30]), (0x32b6, [0x34, 0x31]), (0x32b7, [0x34, 0x32]),
    (0x32b8, [0x34, 0x33]), (0x32b9, [0x34, 0x34]), (0x32ba, [0x34, 0x35]), (0x32bb, [0x34, 0x36]),
    (0x32bc, [0x34, 0x37]), (0x32bd, [0x34, 0x38]), (0x32be, [0x34, 0x39]), (0x32bf, [0x35, 0x30]),
    (0x32c0, [0x31, 0x6708]), (0x32c1, [0x32, 0x6708]), (0x32c2, [0x33, 0x6708]),
    (0x32c3, [0x34, 0x6708]), (0x32c4, [0x35, 0x6708]), (0x32c5, [0x36, 0x6708]),
    (0x32c6, [0x37, 0x6708]), (0x32c7, [0x38, 0x6708]), (0x32c8, [0x39, 0x6708]),
    (0x32c9, [0x31, 0x30, 0x6708]), (0x32ca, [0x31, 0x31, 0x6708]), (0x32cb, [0x31, 0x32, 0x6708]),
    (0x32cc, [0x68, 0x67]), (0x32cd, [0x65, 0x72, 0x67]), (0x32ce, [0x65, 0x76]),
    (0x32cf, [0x6c, 0x74, 0x64]), (0x3358, [0x30, 0x70b9]), (0x3359, [0x31, 0x70b9]),
    (0x335a, [0x32, 0x70b9]), (0x335b, [0x33, 0x70b9]), (0x335c, [0x34, 0x70b9]),
    (0x335d, [0x35, 0x70b9]), (0x335e, [0x36, 0x70b9]), (0x335f, [0x37, 0x70b9]),
    (0x3360, [0x38, 0x70b9]), (0x3361, [0x39, 0x70b9]), (0x3362, [0x31, 0x30, 0x70b9]),
    (0x3363, [0x31, 0x31, 0x70b9]), (0x3364, [0x31, 0x32, 0x70b9]), (0x3365, [0x31, 0x33, 0x70b9]),
    (0x3366, [0x31, 0x34, 0x70b9]), (0x3367, [0x31, 0x35, 0x70b9]), (0x3368, [0x31, 0x36, 0x70b9]),
    (0x3369, [0x31, 0x37, 0x70b9]), (0x336a, [0x31, 0x38, 0x70b9]), (0x336b, [0x31, 0x39, 0x70b9]),
    (0x336c, [0x32, 0x30, 0x70b9]), (0x336d, [0x32, 0x31, 0x70b9]), (0x336e, [0x32, 0x32, 0x70b9]),
    (0x336f, [0x32, 0x33, 0x70b9]), (0x3370, [0x32, 0x34, 0x70b9]), (0x3371, [0x68, 0x70, 0x61]),
    (0x3372, [0x64, 0x61]), (0x3373, [0x61, 0x75]), (0x3374, [0x62, 0x61, 0x72]),
    (0x3375, [0x6f, 0x76]), (0x3376, [0x70, 0x63]), (0x3377, [0x64, 0x6d]),
    (0x3378, [0x64, 0x6d, 0x32]), (0x3379, [0x64, 0x6d, 0x33]), (0x337a, [0x69, 0x75]),
    (0x3380, [0x70, 0x61]), (0x3381, [0x6e, 0x61]), (0x3382, [0x3bc, 0x61]),
    (0x3383, [0x6d, 0x61]), (0x3384, [0x6b, 0x61]), (0x3385, [0x6b, 0x62]), (0x3386, [0x6d, 0x62]),
    (0x3387, [0x67, 0x62]), (0x3388, [0x63, 0x61, 0x6c]), (0x3389, [0x6b, 0x63, 0x61, 0x6c]),
    (0x338a, [0x70, 0x66]), (0x338b, [0x6e, 0x66]), (0x338c, [0x3bc, 0x66]),
    (0x338d, [0x3bc, 0x67]), (0x338e, [0x6d, 0x67]), (0x338f, [0x6b, 0x67]),
    (0x3390, [0x68, 0x7a]), (0x3391, [0x6b, 0x68, 0x7a]), (0x3392, [0x6d, 0x68, 0x7a]),
    (0x3393, [0x67, 0x68, 0x7a]), (0x3394, [0x74, 0x68, 0x7a]), (0x3395, [0x3bc, 0x6c]),
    (0x3396, [0x6d, 0x6c]), (0x3397, [0x64, 0x6c]), (0x3398, [0x6b, 0x6c]), (0x3399, [0x66, 0x6d]),
    (0x339a, [0x6e, 0x6d]), (0x339b, [0x3bc, 0x6d]), (0x339c, [0x6d, 0x6d]),
    (0x339d, [0x63, 0x6d]), (0x339e, [0x6b, 0x6d]), (0x339f, [0x6d, 0x6d, 0x32]),
    (0x33a0, [0x63, 0x6d, 0x32]), (0x33a1, [0x6d, 0x32]), (0x33a2, [0x6b, 0x6d, 0x32]),
    (0x33a3, [0x6d, 0x6d, 0x33]), (0x33a4, [0x63, 0x6d, 0x33]), (0x33a5, [0x6d, 0x33]),
    (0x33a6, [0x6b, 0x6d, 0x33]), (0x33a7, [0x6d, 0x2215, 0x73]),
    (0x33a8, [0x6d, 0x2215, 0x73, 0x32]), (0x33a9, [0x70, 0x61]), (0x33aa, [0x6b, 0x70, 0x61]),
    (0x33ab, [0x6d, 0x70, 0x61]), (0x33ac, [0x67, 0x70, 0x61]), (0x33ad, [0x72, 0x61, 0x64]),
    (0x33ae, [0x72, 0x61, 0x64, 0x2215, 0x73]), (0x33af, [0x72, 0x61, 0x64, 0x2215, 0x73, 0x32]),
    (0x33b0, [0x70, 0x73]), (0x33b1, [0x6e, 0x73]), (0x33b2, [0x3bc, 0x73]),
    (0x33b3, [0x6d, 0x73]), (0x33b4, [0x70, 0x76]), (0x33b5, [0x6e, 0x76]),
    (0x33b6, [0x3bc, 0x76]), (0x33b7, [0x6d, 0x76]), (0x33b8, [0x6b, 0x76]),
    (0x33b9, [0x6d, 0x76]), (0x33ba, [0x70, 0x77]), (0x33bb, [0x6e, 0x77]),
    (0x33bc, [0x3bc, 0x77]), (0x33bd, [0x6d, 0x77]), (0x33be, [0x6b, 0x77]),
    (0x33bf, [0x6d, 0x77]), (0x33c0, [0x6b, 0x3c9]), (0x33c1, [0x6d, 0x3c9]),
    (0x33c3, [0x62, 0x71]), (0x33c4, [0x63, 0x63]), (0x33c5, [0x63, 0x64]),
    (0x33c6, [0x63, 0x2215, 0x6b, 0x67]), (0x33c8, [0x64, 0x62]), (0x33c9, [0x67, 0x79]),
    (0x33ca, [0x68, 0x61]), (0x33cb, [0x68, 0x70]), (0x33cc, [0x69, 0x6e]), (0x33cd, [0x6b, 0x6b]),
    (0x33ce, [0x6b, 0x6d]), (0x33cf, [0x6b, 0x74]), (0x33d0, [0x6c, 0x6d]), (0x33d1, [0x6c, 0x6e]),
    (0x33d2, [0x6c, 0x6f, 0x67]), (0x33d3, [0x6c, 0x78]), (0x33d4, [0x6d, 0x62]),
    (0x33d5, [0x6d, 0x69, 0x6c]), (0x33d6, [0x6d, 0x6f, 0x6c]), (0x33d7, [0x70, 0x68]),
    (0x33d9, [0x70, 0x70, 0x6d]), (0x33da, [0x70, 0x72]), (0x33db, [0x73, 0x72]),
    (0x33dc, [0x73, 0x76]), (0x33dd, [0x77, 0x62]), (0x33de, [0x76, 0x2215, 0x6d]),
    (0x33df, [0x61, 0x2215, 0x6d]), (0x33e0, [0x31, 0x65e5]), (0x33e1, [0x32, 0x65e5]),
    (0x33e2, [0x33, 0x65e5]), (0x33e3, [0x34, 0x65e5]), (0x33e4, [0x35, 0x65e5]),
    (0x33e5, [0x36, 0x65e5]), (0x33e6, [0x37, 0x65e5]), (0x33e7, [0x38, 0x65e5]),
    (0x33e8, [0x39, 0x65e5]), (0x33e9, [0x31, 0x30, 0x65e5]), (0x33ea, [0x31, 0x31, 0x65e5]),
    (0x33eb, [0x31, 0x32, 0x65e5]), (0x33ec, [0x31, 0x33, 0x65e5]), (0x33ed, [0x31, 0x34, 0x65e5]),
    (0x33ee, [0x31, 0x35, 0x65e5]), (0x33ef, [0x31, 0x36, 0x65e5]), (0x33f0, [0x31, 0x37, 0x65e5]),
    (0x33f1, [0x31, 0x38, 0x65e5]), (0x33f2, [0x31, 0x39, 0x65e5]), (0x33f3, [0x32, 0x30, 0x65e5]),
    (0x33f4, [0x32, 0x31, 0x65e5]), (0x33f5, [0x32, 0x32, 0x65e5]), (0x33f6, [0x32, 0x33, 0x65e5]),
    (0x33f7, [0x32, 0x34, 0x65e5]), (0x33f8, [0x32, 0x35, 0x65e5]), (0x33f9, [0x32, 0x36, 0x65e5]),
    (0x33fa, [0x32, 0x37, 0x65e5]), (0x33fb, [0x32, 0x38, 0x65e5]), (0x33fc, [0x32, 0x39, 0x65e5]),
    (0x33fd, [0x33, 0x30, 0x65e5]), (0x33fe, [0x33, 0x31, 0x65e5]), (0x33ff, [0x67, 0x61, 0x6c]),
    (0xfb00, [0x66, 0x66]), (0xfb01, [0x66, 0x69]), (0xfb02, [0x66, 0x6c]),
    (0xfb03, [0x66, 0x66, 0x69]), (0xfb04, [0x66, 0x66, 0x6c]), (0xfb05, [0x73, 0x74]),
    (0xfb06, [0x73, 0x74]), (0xfc5e, [0x20, 0x64c, 0x651]), (0xfc5f, [0x20, 0x64d, 0x651]),
    (0xfc60, [0x20, 0x64e, 0x651]), (0xfc61, [0x20, 0x64f, 0x651]), (0xfc62, [0x20, 0x650, 0x651]),
    (0xfc63, [0x20, 0x651, 0x670]),
    (0xfdfa, [0x635, 0x644, 0x649, 0x20, 0x627, 0x644, 0x644, 0x647, 0x20, 0x639, 0x644, 0x64a, 0x647, 0x20, 0x648, 0x633, 0x644, 0x645]),
    (0xfdfb, [0x62c, 0x644, 0x20, 0x62c, 0x644, 0x627, 0x644, 0x647]), (0xfe49, [0x20, 0x305]),
    (0xfe4a, [0x20, 0x305]), (0xfe4b, [0x20, 0x305]), (0xfe4c, [0x20, 0x305]),
    (0xfe70, [0x20, 0x64b]), (0xfe72, [0x20, 0x64c]), (0xfe74, [0x20, 0x64d]),
    (0xfe76, [0x20, 0x64e]), (0xfe78, [0x20, 0x64f]), (0xfe7a, [0x20, 0x650]),
    (0xfe7c, [0x20, 0x651]), (0xfe7e, [0x20, 0x652]), (0xffe3, [0x20, 0x304]),
    (0x1f101, [0x30, 0x2c]), (0x1f102, [0x31, 0x2c]), (0x1f103, [0x32, 0x2c]),
    (0x1f104, [0x33, 0x2c]), (0x1f105, [0x34, 0x2c]), (0x1f106, [0x35, 0x2c]),
    (0x1f107, [0x36, 0x2c]), (0x1f108, [0x37, 0x2c]), (0x1f109, [0x38, 0x2c]),
    (0x1f10a, [0x39, 0x2c]), (0x1f110, [0x28, 0x61, 0x29]), (0x1f111, [0x28, 0x62, 0x29]),
    (0x1f112, [0x28, 0x63, 0x29]), (0x1f113, [0x28, 0x64, 0x29]), (0x1f114, [0x28, 0x65, 0x29]),
    (0x1f115, [0x28, 0x66, 0x29]), (0x1f116, [0x28, 0x67, 0x29]), (0x1f117, [0x28, 0x68, 0x29]),
    (0x1f118, [0x28, 0x69, 0x29]), (0x1f119, [0x28, 0x6a, 0x29]), (0x1f11a, [0x28, 0x6b, 0x29]),
    (0x1f11b, [0x28, 0x6c, 0x29]), (0x1f11c, [0x28, 0x6d, 0x29]), (0x1f11d, [0x28, 0x6e, 0x29]),
    (0x1f11e, [0x28, 0x6f, 0x29]), (0x1f11f, [0x28, 0x70, 0x29]), (0x1f120, [0x28, 0x71, 0x29]),
    (0x1f121, [0x28, 0x72, 0x29]), (0x1f122, [0x28, 0x73, 0x29]), (0x1f123, [0x28, 0x74, 0x29]),
    (0x1f124, [0x28, 0x75, 0x29]), (0x1f125, [0x28, 0x76, 0x29]), (0x1f126, [0x28, 0x77, 0x29]),
    (0x1f127, [0x28, 0x78, 0x29]), (0x1f128, [0x28, 0x79, 0x29]), (0x1f129, [0x28, 0x7a, 0x29]),
    (0x1f12a, [0x3014, 0x73, 0x3015]), (0x1f12d, [0x63, 0x64]), (0x1f12e, [0x77, 0x7a]),
    (0x1f14a, [0x68, 0x76]), (0x1f14b, [0x6d, 0x76]), (0x1f14c, [0x73, 0x64]),
    (0x1f14d, [0x73, 0x73]), (0x1f14e, [0x70, 0x70, 0x76]), (0x1f14f, [0x77, 0x63]),
    (0x1f16a, [0x6d, 0x63]), (0x1f16b, [0x6d, 0x64]), (0x1f16c, [0x6d, 0x72]),
    (0x1f190, [0x64, 0x6a])
  ]

/-- Characters that stand for nothing. -/
def ignoredRanges : List (Nat × Nat) :=
  [
    (0xad, 0xad), (0x34f, 0x34f), (0x115f, 0x1160), (0x17b4, 0x17b5), (0x180b, 0x180f),
    (0x200b, 0x200b), (0x2060, 0x2064), (0x206a, 0x206f), (0x3164, 0x3164), (0xfe00, 0xfe0f),
    (0xfeff, 0xfeff), (0xffa0, 0xffa0), (0x1bca0, 0x1bca3), (0x1d173, 0x1d17a), (0xe0100, 0xe01ef)
  ]

end FeedMonitor.Web.Domain
