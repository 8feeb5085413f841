/-!
# The tables of host names

Characters that the labels of a host name may hold, marks and letters whose neighbours matter, and pairs
that have to be written as one character. All of them are about lower case only.
-/

namespace TexMend.Text

/-- The ranges of characters that labels may hold wherever they stand: letters, marks, digits and the
hyphen. -/
def labelRanges : List (Nat × Nat) :=
  [(0x2D, 0x2D), (0x30, 0x39), (0x61, 0x7A), (0xDF, 0xF6), (0xF8, 0x131), (0x135, 0x13E),
   (0x142, 0x148), (0x14B, 0x17E), (0x180, 0x1C3), (0x1CE, 0x1F0), (0x1F5, 0x2AF), (0x2B9, 0x2C1),
   (0x2C6, 0x2D1), (0x2EC, 0x2EC), (0x2EE, 0x2EE), (0x300, 0x33F), (0x342, 0x342), (0x346, 0x34E),
   (0x350, 0x373), (0x377, 0x377), (0x37B, 0x37D), (0x390, 0x3CE), (0x3D7, 0x3EF), (0x3F3, 0x3F3),
   (0x3F8, 0x481), (0x483, 0x487), (0x48B, 0x559), (0x560, 0x586), (0x588, 0x588), (0x591, 0x5BD),
   (0x5BF, 0x5BF), (0x5C1, 0x5C2), (0x5C4, 0x5C5), (0x5C7, 0x5F2), (0x610, 0x61A), (0x620, 0x63F),
   (0x641, 0x669), (0x66E, 0x674), (0x679, 0x6D3), (0x6D5, 0x6DC), (0x6DF, 0x6E8), (0x6EA, 0x6FF),
   (0x710, 0x7F5), (0x7FD, 0x7FD), (0x800, 0x82D), (0x840, 0x85B), (0x860, 0x887), (0x889, 0x88E),
   (0x898, 0x8E1), (0x8E3, 0x957), (0x960, 0x963), (0x966, 0x96F), (0x971, 0x9D7), (0x9E0, 0x9F1),
   (0x9FC, 0x9FC), (0x9FE, 0xA32), (0xA35, 0xA35), (0xA38, 0xA51), (0xA5C, 0xA5C), (0xA66, 0xA75),
   (0xA81, 0xAEF), (0xAF9, 0xB57), (0xB5F, 0xB6F), (0xB71, 0xB71), (0xB82, 0xBEF), (0xC00, 0xC6F),
   (0xC80, 0xC83), (0xC85, 0xD4E), (0xD54, 0xD57), (0xD5F, 0xD6F), (0xD7A, 0xDF3), (0xE01, 0xE32),
   (0xE34, 0xE3A), (0xE40, 0xE4E), (0xE50, 0xE59), (0xE81, 0xEB2), (0xEB4, 0xED9), (0xEDE, 0xF00),
   (0xF0B, 0xF0B), (0xF18, 0xF19), (0xF20, 0xF29), (0xF35, 0xF35), (0xF37, 0xF37), (0xF39, 0xF39),
   (0xF3E, 0xF42), (0xF44, 0xF4C), (0xF4E, 0xF51), (0xF53, 0xF56), (0xF58, 0xF5B), (0xF5D, 0xF68),
   (0xF6A, 0xF72), (0xF74, 0xF74), (0xF7A, 0xF80), (0xF82, 0xF84), (0xF86, 0xF92), (0xF94, 0xF9C),
   (0xF9E, 0xFA1), (0xFA3, 0xFA6), (0xFA8, 0xFAB), (0xFAD, 0xFB8), (0xFBA, 0xFBC), (0xFC6, 0xFC6),
   (0x1000, 0x1049), (0x1050, 0x109D), (0x10D0, 0x10FA), (0x10FD, 0x10FF), (0x1200, 0x135F),
   (0x1380, 0x138F), (0x1401, 0x166C), (0x166F, 0x167F), (0x1681, 0x169A), (0x16A0, 0x16EA),
   (0x16F1, 0x1734), (0x1740, 0x17B3), (0x17B6, 0x17D3), (0x17D7, 0x17D7), (0x17DC, 0x17E9),
   (0x1810, 0x193B), (0x1946, 0x19D9), (0x1A00, 0x1A1B), (0x1A20, 0x1A99), (0x1AA7, 0x1AA7),
   (0x1AB0, 0x1ABD), (0x1ABF, 0x1B59), (0x1B6B, 0x1B73), (0x1B80, 0x1BF3), (0x1C00, 0x1C37),
   (0x1C40, 0x1C7D), (0x1CD0, 0x1CD2), (0x1CD4, 0x1D2B), (0x1D2F, 0x1D2F), (0x1D3B, 0x1D3B),
   (0x1D4E, 0x1D4E), (0x1D6B, 0x1D77), (0x1D79, 0x1D9A), (0x1DC0, 0x1E99), (0x1E9C, 0x1F70),
   (0x1F72, 0x1F72), (0x1F74, 0x1F74), (0x1F76, 0x1F76), (0x1F78, 0x1F78), (0x1F7A, 0x1F7A),
   (0x1F7C, 0x1F7C), (0x1FB0, 0x1FB1), (0x1FB6, 0x1FB6), (0x1FC6, 0x1FC6), (0x1FD0, 0x1FD2),
   (0x1FD6, 0x1FD7), (0x1FE0, 0x1FE2), (0x1FE4, 0x1FE7), (0x1FF6, 0x1FF6), (0x214E, 0x214E),
   (0x2184, 0x2184), (0x2C30, 0x2C7B), (0x2C81, 0x2CE4), (0x2CEC, 0x2CF3), (0x2D00, 0x2D67),
   (0x2D7F, 0x2DFF), (0x2E2F, 0x2E2F), (0x3005, 0x3007), (0x302A, 0x302D), (0x303C, 0x303C),
   (0x3041, 0x309A), (0x309D, 0x309E), (0x30A1, 0x30FA), (0x30FC, 0x30FE), (0x3105, 0x312F),
   (0x31A0, 0x31BF), (0x31F0, 0x31FF), (0x3400, 0x4DBF), (0x4E00, 0xA48C), (0xA4D0, 0xA4FD),
   (0xA500, 0xA60C), (0xA610, 0xA66F), (0xA674, 0xA67D), (0xA67F, 0xA69B), (0xA69E, 0xA6E5),
   (0xA6F0, 0xA6F1), (0xA717, 0xA71F), (0xA723, 0xA76F), (0xA771, 0xA788), (0xA78C, 0xA7D9),
   (0xA7F6, 0xA7F7), (0xA7FA, 0xA827), (0xA82C, 0xA82C), (0xA840, 0xA873), (0xA880, 0xA8C5),
   (0xA8D0, 0xA8F7), (0xA8FB, 0xA8FB), (0xA8FD, 0xA92D), (0xA930, 0xA953), (0xA980, 0xA9C0),
   (0xA9CF, 0xA9D9), (0xA9E0, 0xAA59), (0xAA60, 0xAA76), (0xAA7A, 0xAADD), (0xAAE0, 0xAAEF),
   (0xAAF2, 0xAB5A), (0xAB60, 0xAB68), (0xABC0, 0xABEA), (0xABEC, 0xD7A3), (0xFA0E, 0xFA0F),
   (0xFA11, 0xFA11), (0xFA13, 0xFA14), (0xFA1F, 0xFA1F), (0xFA21, 0xFA21), (0xFA23, 0xFA24),
   (0xFA27, 0xFA29), (0xFB1E, 0xFB1E), (0xFE20, 0xFE2F), (0xFE73, 0xFE73), (0x10000, 0x100FA),
   (0x101FD, 0x102E0), (0x10300, 0x1031F), (0x1032D, 0x10340), (0x10342, 0x10349),
   (0x10350, 0x1039D), (0x103A0, 0x103CF), (0x10428, 0x10563), (0x10597, 0x10780),
   (0x10800, 0x10855), (0x10860, 0x10876), (0x10880, 0x1089E), (0x108E0, 0x108F5),
   (0x10900, 0x10915), (0x10920, 0x10939), (0x10980, 0x109B7), (0x109BE, 0x109BF),
   (0x10A00, 0x10A3F), (0x10A60, 0x10A7C), (0x10A80, 0x10A9C), (0x10AC0, 0x10AC7),
   (0x10AC9, 0x10AE6), (0x10B00, 0x10B35), (0x10B40, 0x10B55), (0x10B60, 0x10B72),
   (0x10B80, 0x10B91), (0x10C00, 0x10CF2), (0x10D00, 0x10D39), (0x10E80, 0x10EAC),
   (0x10EB0, 0x10F1C), (0x10F27, 0x10F50), (0x10F70, 0x10F85), (0x10FB0, 0x10FC4),
   (0x10FE0, 0x11046), (0x11066, 0x110BA), (0x110C2, 0x110C2), (0x110D0, 0x1113F),
   (0x11144, 0x11173), (0x11176, 0x111C4), (0x111C9, 0x111CC), (0x111CE, 0x111DA),
   (0x111DC, 0x111DC), (0x11200, 0x11237), (0x1123E, 0x112A8), (0x112B0, 0x1144A),
   (0x11450, 0x11459), (0x1145E, 0x114C5), (0x114C7, 0x115C0), (0x115D8, 0x11640),
   (0x11644, 0x11659), (0x11680, 0x116B8), (0x116C0, 0x11739), (0x11740, 0x1183A),
   (0x118C0, 0x118E9), (0x118FF, 0x11943), (0x11950, 0x119E1), (0x119E3, 0x11A3E),
   (0x11A47, 0x11A99), (0x11A9D, 0x11A9D), (0x11AB0, 0x11C40), (0x11C50, 0x11C59),
   (0x11C72, 0x11EF6), (0x11FB0, 0x11FB0), (0x12000, 0x12399), (0x12480, 0x12FF0),
   (0x13000, 0x1342E), (0x14400, 0x16A69), (0x16A70, 0x16AF4), (0x16B00, 0x16B36),
   (0x16B40, 0x16B43), (0x16B50, 0x16B59), (0x16B63, 0x16E7F), (0x16F00, 0x16FE1),
   (0x16FE3, 0x1BC99), (0x1BC9D, 0x1BC9E), (0x1CF00, 0x1CF46), (0x1DA00, 0x1DA36),
   (0x1DA3B, 0x1DA6C), (0x1DA75, 0x1DA75), (0x1DA84, 0x1DA84), (0x1DA9B, 0x1E14E),
   (0x1E290, 0x1E2F9), (0x1E7E0, 0x1E8C4), (0x1E8D0, 0x1E959), (0x20000, 0x2EBE0),
   (0x30000, 0x3134A)]

/-- The marks that suppress the vowel of a letter. -/
def viramas : List Nat :=
  [0x94D, 0x9CD, 0xA4D, 0xACD, 0xB4D, 0xBCD, 0xC4D, 0xCCD, 0xD3B, 0xD3C, 0xD4D, 0xDCA, 0xE3A, 0xEBA,
   0xF84, 0x1039, 0x103A, 0x1714, 0x1715, 0x1734, 0x17D2, 0x1A60, 0x1B44, 0x1BAA, 0x1BAB, 0x1BF2,
   0x1BF3, 0x2D7F, 0xA806, 0xA82C, 0xA8C4, 0xA953, 0xA9C0, 0xAAF6, 0xABED, 0x10A3F, 0x11046,
   0x11070, 0x1107F, 0x110B9, 0x11133, 0x11134, 0x111C0, 0x11235, 0x112EA, 0x1134D, 0x11442,
   0x114C2, 0x115BF, 0x1163F, 0x116B6, 0x1172B, 0x11839, 0x1193D, 0x1193E, 0x119E0, 0x11A34,
   0x11A47, 0x11A99, 0x11C3F, 0x11D44, 0x11D45, 0x11D97]

/-- The ranges of Arabic letters that join with the letter before them alone. -/
def tailLetters : List (Nat × Nat) :=
  [(0x622, 0x625), (0x627, 0x627), (0x629, 0x629), (0x62F, 0x632), (0x648, 0x648), (0x671, 0x673),
   (0x675, 0x677), (0x688, 0x699), (0x6C0, 0x6C0), (0x6C3, 0x6CB), (0x6CD, 0x6CD), (0x6CF, 0x6CF),
   (0x6D2, 0x6D3), (0x6D5, 0x6D5), (0x6EE, 0x6EF)]

/-- Marks with the characters that they make one character with when they follow. -/
def compositions : List (Nat × List Nat) :=
  [(0x300, [0x61, 0x65, 0x69, 0x6E, 0x6F, 0x75, 0x77, 0x79, 0xE2, 0xEA, 0xF4, 0xFC, 0x103, 0x113,
       0x14D, 0x1A1, 0x1B0, 0x3B1, 0x3B5, 0x3B7, 0x3B9, 0x3BF, 0x3C5, 0x3C9, 0x3CA, 0x3CB, 0x435,
       0x438, 0x1F00, 0x1F01, 0x1F10, 0x1F11, 0x1F20, 0x1F21, 0x1F30, 0x1F31, 0x1F40, 0x1F41,
       0x1F50, 0x1F51, 0x1F60, 0x1F61]),
   (0x301, [0x61, 0x63, 0x65, 0x67, 0x69, 0x6B, 0x6C, 0x6D, 0x6E, 0x6F, 0x70, 0x72, 0x73, 0x75,
       0x77, 0x79, 0x7A, 0xE2, 0xE5, 0xE6, 0xE7, 0xEA, 0xEF, 0xF4, 0xF5, 0xF8, 0xFC, 0x103,
       0x113, 0x14D, 0x169, 0x1A1, 0x1B0, 0x3B1, 0x3B5, 0x3B7, 0x3B9, 0x3BF, 0x3C5, 0x3C9, 0x3CA,
       0x3CB, 0x433, 0x43A, 0x1F00, 0x1F01, 0x1F10, 0x1F11, 0x1F20, 0x1F21, 0x1F30, 0x1F31,
       0x1F40, 0x1F41, 0x1F50, 0x1F51, 0x1F60, 0x1F61]),
   (0x302, [0x61, 0x63, 0x65, 0x67, 0x68, 0x69, 0x6A, 0x6F, 0x73, 0x75, 0x77, 0x79, 0x7A, 0x1EA1,
       0x1EB9, 0x1ECD]),
   (0x303, [0x61, 0x65, 0x69, 0x6E, 0x6F, 0x75, 0x76, 0x79, 0xE2, 0xEA, 0xF4, 0x103, 0x1A1,
       0x1B0]),
   (0x304, [0x61, 0x65, 0x67, 0x69, 0x6F, 0x75, 0x79, 0xE4, 0xE6, 0xF5, 0xF6, 0xFC, 0x1EB, 0x227,
       0x22F, 0x3B1, 0x3B9, 0x3C5, 0x438, 0x443, 0x1E37, 0x1E5B]),
   (0x306, [0x61, 0x65, 0x67, 0x69, 0x6F, 0x75, 0x229, 0x3B1, 0x3B9, 0x3C5, 0x430, 0x435, 0x436,
       0x438, 0x443, 0x1EA1]),
   (0x307, [0x61, 0x62, 0x63, 0x64, 0x65, 0x66, 0x67, 0x68, 0x6D, 0x6E, 0x6F, 0x70, 0x72, 0x73,
       0x74, 0x77, 0x78, 0x79, 0x7A, 0x15B, 0x161, 0x1E63]),
   (0x308, [0x61, 0x65, 0x68, 0x69, 0x6F, 0x74, 0x75, 0x77, 0x78, 0x79, 0xF5, 0x16B, 0x3B9,
       0x3C5, 0x430, 0x435, 0x436, 0x437, 0x438, 0x43E, 0x443, 0x447, 0x44B, 0x44D, 0x456, 0x4D9,
       0x4E9]),
   (0x309, [0x61, 0x65, 0x69, 0x6F, 0x75, 0x79, 0xE2, 0xEA, 0xF4, 0x103, 0x1A1, 0x1B0]),
   (0x30A, [0x61, 0x75, 0x77, 0x79]),
   (0x30B, [0x6F, 0x75, 0x443]),
   (0x30C, [0x61, 0x63, 0x64, 0x65, 0x67, 0x68, 0x69, 0x6A, 0x6B, 0x6C, 0x6E, 0x6F, 0x72, 0x73,
       0x74, 0x75, 0x7A, 0xFC, 0x292]),
   (0x30F, [0x61, 0x65, 0x69, 0x6F, 0x72, 0x75, 0x475]),
   (0x311, [0x61, 0x65, 0x69, 0x6F, 0x72, 0x75]),
   (0x313, [0x3B1, 0x3B5, 0x3B7, 0x3B9, 0x3BF, 0x3C1, 0x3C5, 0x3C9]),
   (0x314, [0x3B1, 0x3B5, 0x3B7, 0x3B9, 0x3BF, 0x3C1, 0x3C5, 0x3C9]),
   (0x31B, [0x6F, 0x75]),
   (0x323, [0x61, 0x62, 0x64, 0x65, 0x68, 0x69, 0x6B, 0x6C, 0x6D, 0x6E, 0x6F, 0x72, 0x73, 0x74,
       0x75, 0x76, 0x77, 0x79, 0x7A, 0x1A1, 0x1B0]),
   (0x324, [0x75]),
   (0x325, [0x61]),
   (0x326, [0x73, 0x74]),
   (0x327, [0x63, 0x64, 0x65, 0x67, 0x68, 0x6B, 0x6C, 0x6E, 0x72, 0x73, 0x74]),
   (0x328, [0x61, 0x65, 0x69, 0x6F, 0x75]),
   (0x32D, [0x64, 0x65, 0x6C, 0x6E, 0x74, 0x75]),
   (0x32E, [0x68]),
   (0x330, [0x65, 0x69, 0x75]),
   (0x331, [0x62, 0x64, 0x68, 0x6B, 0x6C, 0x6E, 0x72, 0x74, 0x7A]),
   (0x342, [0x3B1, 0x3B7, 0x3B9, 0x3C5, 0x3C9, 0x3CA, 0x3CB, 0x1F00, 0x1F01, 0x1F20, 0x1F21,
       0x1F30, 0x1F31, 0x1F50, 0x1F51, 0x1F60, 0x1F61]),
   (0x653, [0x627]),
   (0x654, [0x627, 0x648, 0x64A, 0x6C1, 0x6D2, 0x6D5]),
   (0x655, [0x627]),
   (0x93C, [0x928, 0x930, 0x933]),
   (0x9BE, [0x9C7]),
   (0x9D7, [0x9C7]),
   (0xB3E, [0xB47]),
   (0xB56, [0xB47]),
   (0xB57, [0xB47]),
   (0xBBE, [0xBC6, 0xBC7]),
   (0xBD7, [0xB92, 0xBC6]),
   (0xC56, [0xC46]),
   (0xCC2, [0xCC6]),
   (0xCD5, [0xCBF, 0xCC6, 0xCCA]),
   (0xCD6, [0xCC6]),
   (0xD3E, [0xD46, 0xD47]),
   (0xD57, [0xD46]),
   (0xDCA, [0xDD9, 0xDDC]),
   (0xDCF, [0xDD9]),
   (0xDDF, [0xDD9]),
   (0x102E, [0x1025]),
   (0x1B35, [0x1B05, 0x1B07, 0x1B09, 0x1B0B, 0x1B0D, 0x1B11, 0x1B3A, 0x1B3C, 0x1B3E, 0x1B3F,
       0x1B42]),
   (0x3099, [0x3046, 0x304B, 0x304D, 0x304F, 0x3051, 0x3053, 0x3055, 0x3057, 0x3059, 0x305B,
       0x305D, 0x305F, 0x3061, 0x3064, 0x3066, 0x3068, 0x306F, 0x3072, 0x3075, 0x3078, 0x307B,
       0x309D, 0x30A6, 0x30AB, 0x30AD, 0x30AF, 0x30B1, 0x30B3, 0x30B5, 0x30B7, 0x30B9, 0x30BB,
       0x30BD, 0x30BF, 0x30C1, 0x30C4, 0x30C6, 0x30C8, 0x30CF, 0x30D2, 0x30D5, 0x30D8, 0x30DB,
       0x30EF, 0x30F0, 0x30F1, 0x30F2, 0x30FD]),
   (0x309A, [0x306F, 0x3072, 0x3075, 0x3078, 0x307B, 0x30CF, 0x30D2, 0x30D5, 0x30D8, 0x30DB]),
   (0x110BA, [0x11099, 0x1109B, 0x110A5]),
   (0x11127, [0x11131, 0x11132]),
   (0x1133E, [0x11347]),
   (0x11357, [0x11347]),
   (0x114B0, [0x114B9]),
   (0x114BA, [0x114B9]),
   (0x114BD, [0x114B9]),
   (0x115AF, [0x115B8, 0x115B9]),
   (0x11930, [0x11935])]

end TexMend.Text
