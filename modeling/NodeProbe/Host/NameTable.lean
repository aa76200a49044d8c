import NodeProbe.Text.CodeRun

/-!
# Characters in the names of hosts

What Unicode says about the characters behind ASCII when they stand in the name of a host. Some are
refused and some are dropped; some are replaced by others, which are spelled out here if they are of
ASCII, have marks among them, or are not alike. Further tables hold the direction in which
characters are written, the marks that cannot begin a name, and the letters that join their
neighbours. In these tables a character that is replaced has the properties of what replaces it.
-/

namespace NodeProbe.Host

/-- The direction in which a character is written, as far as the rules for names tell apart:
`right` is a letter written from right to left, `arabic` and `european` are digits, `neutral` goes
with its neighbours, `mark` belongs to the character before it, and `other` stands in no name that
is written from right to left. -/
inductive Direction where
  | left
  | right
  | arabic
  | european
  | neutral
  | mark
  | other
  deriving DecidableEq, Repr

/-- The ranges of characters that no name may hold. -/
def refusedRanges : List (Nat × Nat) :=
  [(0x80, 0x9F), (0x378, 0x379), (0x380, 0x383), (0x38B, 0x38B), (0x38D, 0x38D), (0x3A2, 0x3A2),
   (0x530, 0x530), (0x557, 0x558), (0x58B, 0x58C), (0x590, 0x590), (0x5C8, 0x5CF), (0x5EB, 0x5EE),
   (0x5F5, 0x605), (0x61C, 0x61C), (0x6DD, 0x6DD), (0x70E, 0x70F), (0x74B, 0x74C), (0x7B2, 0x7BF),
   (0x7FB, 0x7FC), (0x82E, 0x82F), (0x83F, 0x83F), (0x85C, 0x85D), (0x85F, 0x85F), (0x86B, 0x86F),
   (0x890, 0x896), (0x8E2, 0x8E2), (0x984, 0x984), (0x98D, 0x98E), (0x991, 0x992), (0x9A9, 0x9A9),
   (0x9B1, 0x9B1), (0x9B3, 0x9B5), (0x9BA, 0x9BB), (0x9C5, 0x9C6), (0x9C9, 0x9CA), (0x9CF, 0x9D6),
   (0x9D8, 0x9DB), (0x9DE, 0x9DE), (0x9E4, 0x9E5), (0x9FF, 0xA00), (0xA04, 0xA04), (0xA0B, 0xA0E),
   (0xA11, 0xA12), (0xA29, 0xA29), (0xA31, 0xA31), (0xA34, 0xA34), (0xA37, 0xA37), (0xA3A, 0xA3B),
   (0xA3D, 0xA3D), (0xA43, 0xA46), (0xA49, 0xA4A), (0xA4E, 0xA50), (0xA52, 0xA58), (0xA5D, 0xA5D),
   (0xA5F, 0xA65), (0xA77, 0xA80), (0xA84, 0xA84), (0xA8E, 0xA8E), (0xA92, 0xA92), (0xAA9, 0xAA9),
   (0xAB1, 0xAB1), (0xAB4, 0xAB4), (0xABA, 0xABB), (0xAC6, 0xAC6), (0xACA, 0xACA), (0xACE, 0xACF),
   (0xAD1, 0xADF), (0xAE4, 0xAE5), (0xAF2, 0xAF8), (0xB00, 0xB00), (0xB04, 0xB04), (0xB0D, 0xB0E),
   (0xB11, 0xB12), (0xB29, 0xB29), (0xB31, 0xB31), (0xB34, 0xB34), (0xB3A, 0xB3B), (0xB45, 0xB46),
   (0xB49, 0xB4A), (0xB4E, 0xB54), (0xB58, 0xB5B), (0xB5E, 0xB5E), (0xB64, 0xB65), (0xB78, 0xB81),
   (0xB84, 0xB84), (0xB8B, 0xB8D), (0xB91, 0xB91), (0xB96, 0xB98), (0xB9B, 0xB9B), (0xB9D, 0xB9D),
   (0xBA0, 0xBA2), (0xBA5, 0xBA7), (0xBAB, 0xBAD), (0xBBA, 0xBBD), (0xBC3, 0xBC5), (0xBC9, 0xBC9),
   (0xBCE, 0xBCF), (0xBD1, 0xBD6), (0xBD8, 0xBE5), (0xBFB, 0xBFF), (0xC0D, 0xC0D), (0xC11, 0xC11),
   (0xC29, 0xC29), (0xC3A, 0xC3B), (0xC45, 0xC45), (0xC49, 0xC49), (0xC4E, 0xC54), (0xC57, 0xC57),
   (0xC5B, 0xC5B), (0xC5E, 0xC5F), (0xC64, 0xC65), (0xC70, 0xC76), (0xC8D, 0xC8D), (0xC91, 0xC91),
   (0xCA9, 0xCA9), (0xCB4, 0xCB4), (0xCBA, 0xCBB), (0xCC5, 0xCC5), (0xCC9, 0xCC9), (0xCCE, 0xCD4),
   (0xCD7, 0xCDB), (0xCDF, 0xCDF), (0xCE4, 0xCE5), (0xCF0, 0xCF0), (0xCF4, 0xCFF), (0xD0D, 0xD0D),
   (0xD11, 0xD11), (0xD45, 0xD45), (0xD49, 0xD49), (0xD50, 0xD53), (0xD64, 0xD65), (0xD80, 0xD80),
   (0xD84, 0xD84), (0xD97, 0xD99), (0xDB2, 0xDB2), (0xDBC, 0xDBC), (0xDBE, 0xDBF), (0xDC7, 0xDC9),
   (0xDCB, 0xDCE), (0xDD5, 0xDD5), (0xDD7, 0xDD7), (0xDE0, 0xDE5), (0xDF0, 0xDF1), (0xDF5, 0xE00),
   (0xE3B, 0xE3E), (0xE5C, 0xE80), (0xE83, 0xE83), (0xE85, 0xE85), (0xE8B, 0xE8B), (0xEA4, 0xEA4),
   (0xEA6, 0xEA6), (0xEBE, 0xEBF), (0xEC5, 0xEC5), (0xEC7, 0xEC7), (0xECF, 0xECF), (0xEDA, 0xEDB),
   (0xEE0, 0xEFF), (0xF48, 0xF48), (0xF6D, 0xF70), (0xF98, 0xF98), (0xFBD, 0xFBD), (0xFCD, 0xFCD),
   (0xFDB, 0xFFF), (0x10C6, 0x10C6), (0x10C8, 0x10CC), (0x10CE, 0x10CF), (0x1249, 0x1249),
   (0x124E, 0x124F), (0x1257, 0x1257), (0x1259, 0x1259), (0x125E, 0x125F), (0x1289, 0x1289),
   (0x128E, 0x128F), (0x12B1, 0x12B1), (0x12B6, 0x12B7), (0x12BF, 0x12BF), (0x12C1, 0x12C1),
   (0x12C6, 0x12C7), (0x12D7, 0x12D7), (0x1311, 0x1311), (0x1316, 0x1317), (0x135B, 0x135C),
   (0x137D, 0x137F), (0x139A, 0x139F), (0x13F6, 0x13F7), (0x13FE, 0x13FF), (0x1680, 0x1680),
   (0x169D, 0x169F), (0x16F9, 0x16FF), (0x1716, 0x171E), (0x1737, 0x173F), (0x1754, 0x175F),
   (0x176D, 0x176D), (0x1771, 0x1771), (0x1774, 0x177F), (0x17DE, 0x17DF), (0x17EA, 0x17EF),
   (0x17FA, 0x17FF), (0x181A, 0x181F), (0x1879, 0x187F), (0x18AB, 0x18AF), (0x18F6, 0x18FF),
   (0x191F, 0x191F), (0x192C, 0x192F), (0x193C, 0x193F), (0x1941, 0x1943), (0x196E, 0x196F),
   (0x1975, 0x197F), (0x19AC, 0x19AF), (0x19CA, 0x19CF), (0x19DB, 0x19DD), (0x1A1C, 0x1A1D),
   (0x1A5F, 0x1A5F), (0x1A7D, 0x1A7E), (0x1A8A, 0x1A8F), (0x1A9A, 0x1A9F), (0x1AAE, 0x1AAF),
   (0x1ADE, 0x1ADF), (0x1AEC, 0x1AFF), (0x1B4D, 0x1B4D), (0x1BF4, 0x1BFB), (0x1C38, 0x1C3A),
   (0x1C4A, 0x1C4C), (0x1C8B, 0x1C8F), (0x1CBB, 0x1CBC), (0x1CC8, 0x1CCF), (0x1CFB, 0x1CFF),
   (0x1F16, 0x1F17), (0x1F1E, 0x1F1F), (0x1F46, 0x1F47), (0x1F4E, 0x1F4F), (0x1F58, 0x1F58),
   (0x1F5A, 0x1F5A), (0x1F5C, 0x1F5C), (0x1F5E, 0x1F5E), (0x1F7E, 0x1F7F), (0x1FB5, 0x1FB5),
   (0x1FC5, 0x1FC5), (0x1FD4, 0x1FD5), (0x1FDC, 0x1FDC), (0x1FF0, 0x1FF1), (0x1FF5, 0x1FF5),
   (0x1FFF, 0x1FFF), (0x200E, 0x200F), (0x2024, 0x2026), (0x2028, 0x202E), (0x2065, 0x2069),
   (0x2072, 0x2073), (0x208F, 0x208F), (0x209D, 0x209F), (0x20C2, 0x20CF), (0x20F1, 0x20FF),
   (0x218C, 0x218F), (0x242A, 0x243F), (0x244B, 0x245F), (0x2488, 0x249B), (0x2B74, 0x2B75),
   (0x2CF4, 0x2CF8), (0x2D26, 0x2D26), (0x2D28, 0x2D2C), (0x2D2E, 0x2D2F), (0x2D68, 0x2D6E),
   (0x2D71, 0x2D7E), (0x2D97, 0x2D9F), (0x2DA7, 0x2DA7), (0x2DAF, 0x2DAF), (0x2DB7, 0x2DB7),
   (0x2DBF, 0x2DBF), (0x2DC7, 0x2DC7), (0x2DCF, 0x2DCF), (0x2DD7, 0x2DD7), (0x2DDF, 0x2DDF),
   (0x2E5E, 0x2E7F), (0x2E9A, 0x2E9A), (0x2EF4, 0x2EFF), (0x2FD6, 0x2FFF), (0x3040, 0x3040),
   (0x3097, 0x3098), (0x3100, 0x3104), (0x3130, 0x3130), (0x318F, 0x318F), (0x31E6, 0x31EF),
   (0x321F, 0x321F), (0x33C2, 0x33C2), (0x33C7, 0x33C7), (0x33D8, 0x33D8), (0xA48D, 0xA48F),
   (0xA4C7, 0xA4CF), (0xA62C, 0xA63F), (0xA6F8, 0xA6FF), (0xA7DD, 0xA7F0), (0xA82D, 0xA82F),
   (0xA83A, 0xA83F), (0xA878, 0xA87F), (0xA8C6, 0xA8CD), (0xA8DA, 0xA8DF), (0xA954, 0xA95E),
   (0xA97D, 0xA97F), (0xA9CE, 0xA9CE), (0xA9DA, 0xA9DD), (0xA9FF, 0xA9FF), (0xAA37, 0xAA3F),
   (0xAA4E, 0xAA4F), (0xAA5A, 0xAA5B), (0xAAC3, 0xAADA), (0xAAF7, 0xAB00), (0xAB07, 0xAB08),
   (0xAB0F, 0xAB10), (0xAB17, 0xAB1F), (0xAB27, 0xAB27), (0xAB2F, 0xAB2F), (0xAB6C, 0xAB6F),
   (0xABEE, 0xABEF), (0xABFA, 0xABFF), (0xD7A4, 0xD7AF), (0xD7C7, 0xD7CA), (0xD7FC, 0xF8FF),
   (0xFA6E, 0xFA6F), (0xFADA, 0xFAFF), (0xFB07, 0xFB12), (0xFB18, 0xFB1C), (0xFB37, 0xFB37),
   (0xFB3D, 0xFB3D), (0xFB3F, 0xFB3F), (0xFB42, 0xFB42), (0xFB45, 0xFB45), (0xFDD0, 0xFDEF),
   (0xFE12, 0xFE12), (0xFE19, 0xFE1F), (0xFE30, 0xFE30), (0xFE52, 0xFE53), (0xFE67, 0xFE67),
   (0xFE6C, 0xFE6F), (0xFE75, 0xFE75), (0xFEFD, 0xFEFE), (0xFF00, 0xFF00), (0xFFBF, 0xFFC1),
   (0xFFC8, 0xFFC9), (0xFFD0, 0xFFD1), (0xFFD8, 0xFFD9), (0xFFDD, 0xFFDF), (0xFFE7, 0xFFE7),
   (0xFFEF, 0xFFFF), (0x1000C, 0x1000C), (0x10027, 0x10027), (0x1003B, 0x1003B),
   (0x1003E, 0x1003E), (0x1004E, 0x1004F), (0x1005E, 0x1007F), (0x100FB, 0x100FF),
   (0x10103, 0x10106), (0x10134, 0x10136), (0x1018F, 0x1018F), (0x1019D, 0x1019F),
   (0x101A1, 0x101CF), (0x101FE, 0x1027F), (0x1029D, 0x1029F), (0x102D1, 0x102DF),
   (0x102FC, 0x102FF), (0x10324, 0x1032C), (0x1034B, 0x1034F), (0x1037B, 0x1037F),
   (0x1039E, 0x1039E), (0x103C4, 0x103C7), (0x103D6, 0x103FF), (0x1049E, 0x1049F),
   (0x104AA, 0x104AF), (0x104D4, 0x104D7), (0x104FC, 0x104FF), (0x10528, 0x1052F),
   (0x10564, 0x1056E), (0x1057B, 0x1057B), (0x1058B, 0x1058B), (0x10593, 0x10593),
   (0x10596, 0x10596), (0x105A2, 0x105A2), (0x105B2, 0x105B2), (0x105BA, 0x105BA),
   (0x105BD, 0x105BF), (0x105F4, 0x105FF), (0x10737, 0x1073F), (0x10756, 0x1075F),
   (0x10768, 0x1077F), (0x10786, 0x10786), (0x107B1, 0x107B1), (0x107BB, 0x107FF),
   (0x10806, 0x10807), (0x10809, 0x10809), (0x10836, 0x10836), (0x10839, 0x1083B),
   (0x1083D, 0x1083E), (0x10856, 0x10856), (0x1089F, 0x108A6), (0x108B0, 0x108DF),
   (0x108F3, 0x108F3), (0x108F6, 0x108FA), (0x1091C, 0x1091E), (0x1093A, 0x1093E),
   (0x1095A, 0x1097F), (0x109B8, 0x109BB), (0x109D0, 0x109D1), (0x10A04, 0x10A04),
   (0x10A07, 0x10A0B), (0x10A14, 0x10A14), (0x10A18, 0x10A18), (0x10A36, 0x10A37),
   (0x10A3B, 0x10A3E), (0x10A49, 0x10A4F), (0x10A59, 0x10A5F), (0x10AA0, 0x10ABF),
   (0x10AE7, 0x10AEA), (0x10AF7, 0x10AFF), (0x10B36, 0x10B38), (0x10B56, 0x10B57),
   (0x10B73, 0x10B77), (0x10B92, 0x10B98), (0x10B9D, 0x10BA8), (0x10BB0, 0x10BFF),
   (0x10C49, 0x10C7F), (0x10CB3, 0x10CBF), (0x10CF3, 0x10CF9), (0x10D28, 0x10D2F),
   (0x10D3A, 0x10D3F), (0x10D66, 0x10D68), (0x10D86, 0x10D8D), (0x10D90, 0x10E5F),
   (0x10E7F, 0x10E7F), (0x10EAA, 0x10EAA), (0x10EAE, 0x10EAF), (0x10EB2, 0x10EC1),
   (0x10EC8, 0x10ECF), (0x10ED9, 0x10EF9), (0x10F28, 0x10F2F), (0x10F5A, 0x10F6F),
   (0x10F8A, 0x10FAF), (0x10FCC, 0x10FDF), (0x10FF7, 0x10FFF), (0x1104E, 0x11051),
   (0x11076, 0x1107E), (0x110BD, 0x110BD), (0x110C3, 0x110CF), (0x110E9, 0x110EF),
   (0x110FA, 0x110FF), (0x11135, 0x11135), (0x11148, 0x1114F), (0x11177, 0x1117F),
   (0x111E0, 0x111E0), (0x111F5, 0x111FF), (0x11212, 0x11212), (0x11242, 0x1127F),
   (0x11287, 0x11287), (0x11289, 0x11289), (0x1128E, 0x1128E), (0x1129E, 0x1129E),
   (0x112AA, 0x112AF), (0x112EB, 0x112EF), (0x112FA, 0x112FF), (0x11304, 0x11304),
   (0x1130D, 0x1130E), (0x11311, 0x11312), (0x11329, 0x11329), (0x11331, 0x11331),
   (0x11334, 0x11334), (0x1133A, 0x1133A), (0x11345, 0x11346), (0x11349, 0x1134A),
   (0x1134E, 0x1134F), (0x11351, 0x11356), (0x11358, 0x1135C), (0x11364, 0x11365),
   (0x1136D, 0x1136F), (0x11375, 0x1137F), (0x1138A, 0x1138A), (0x1138C, 0x1138D),
   (0x1138F, 0x1138F), (0x113B6, 0x113B6), (0x113C1, 0x113C1), (0x113C3, 0x113C4),
   (0x113C6, 0x113C6), (0x113CB, 0x113CB), (0x113D6, 0x113D6), (0x113D9, 0x113E0),
   (0x113E3, 0x113FF), (0x1145C, 0x1145C), (0x11462, 0x1147F), (0x114C8, 0x114CF),
   (0x114DA, 0x1157F), (0x115B6, 0x115B7), (0x115DE, 0x115FF), (0x11645, 0x1164F),
   (0x1165A, 0x1165F), (0x1166D, 0x1167F), (0x116BA, 0x116BF), (0x116CA, 0x116CF),
   (0x116E4, 0x116FF), (0x1171B, 0x1171C), (0x1172C, 0x1172F), (0x11747, 0x117FF),
   (0x1183C, 0x1189F), (0x118F3, 0x118FE), (0x11907, 0x11908), (0x1190A, 0x1190B),
   (0x11914, 0x11914), (0x11917, 0x11917), (0x11936, 0x11936), (0x11939, 0x1193A),
   (0x11947, 0x1194F), (0x1195A, 0x1199F), (0x119A8, 0x119A9), (0x119D8, 0x119D9),
   (0x119E5, 0x119FF), (0x11A48, 0x11A4F), (0x11AA3, 0x11AAF), (0x11AF9, 0x11AFF),
   (0x11B0A, 0x11B5F), (0x11B68, 0x11BBF), (0x11BE2, 0x11BEF), (0x11BFA, 0x11BFF),
   (0x11C09, 0x11C09), (0x11C37, 0x11C37), (0x11C46, 0x11C4F), (0x11C6D, 0x11C6F),
   (0x11C90, 0x11C91), (0x11CA8, 0x11CA8), (0x11CB7, 0x11CFF), (0x11D07, 0x11D07),
   (0x11D0A, 0x11D0A), (0x11D37, 0x11D39), (0x11D3B, 0x11D3B), (0x11D3E, 0x11D3E),
   (0x11D48, 0x11D4F), (0x11D5A, 0x11D5F), (0x11D66, 0x11D66), (0x11D69, 0x11D69),
   (0x11D8F, 0x11D8F), (0x11D92, 0x11D92), (0x11D99, 0x11D9F), (0x11DAA, 0x11DAF),
   (0x11DDC, 0x11DDF), (0x11DEA, 0x11EDF), (0x11EF9, 0x11EFF), (0x11F11, 0x11F11),
   (0x11F3B, 0x11F3D), (0x11F5B, 0x11FAF), (0x11FB1, 0x11FBF), (0x11FF2, 0x11FFE),
   (0x1239A, 0x123FF), (0x1246F, 0x1246F), (0x12475, 0x1247F), (0x12544, 0x12F8F),
   (0x12FF3, 0x12FFF), (0x13430, 0x1343F), (0x13456, 0x1345F), (0x143FB, 0x143FF),
   (0x14647, 0x160FF), (0x1613A, 0x167FF), (0x16A39, 0x16A3F), (0x16A5F, 0x16A5F),
   (0x16A6A, 0x16A6D), (0x16ABF, 0x16ABF), (0x16ACA, 0x16ACF), (0x16AEE, 0x16AEF),
   (0x16AF6, 0x16AFF), (0x16B46, 0x16B4F), (0x16B5A, 0x16B5A), (0x16B62, 0x16B62),
   (0x16B78, 0x16B7C), (0x16B90, 0x16D3F), (0x16D7A, 0x16E3F), (0x16E9B, 0x16E9F),
   (0x16EB9, 0x16EBA), (0x16ED4, 0x16EFF), (0x16F4B, 0x16F4E), (0x16F88, 0x16F8E),
   (0x16FA0, 0x16FDF), (0x16FE5, 0x16FEF), (0x16FF7, 0x16FFF), (0x18CD6, 0x18CFE),
   (0x18D1F, 0x18D7F), (0x18DF3, 0x1AFEF), (0x1AFF4, 0x1AFF4), (0x1AFFC, 0x1AFFC),
   (0x1AFFF, 0x1AFFF), (0x1B123, 0x1B131), (0x1B133, 0x1B14F), (0x1B153, 0x1B154),
   (0x1B156, 0x1B163), (0x1B168, 0x1B16F), (0x1B2FC, 0x1BBFF), (0x1BC6B, 0x1BC6F),
   (0x1BC7D, 0x1BC7F), (0x1BC89, 0x1BC8F), (0x1BC9A, 0x1BC9B), (0x1BCA4, 0x1CBFF),
   (0x1CCFD, 0x1CCFF), (0x1CEB4, 0x1CEB9), (0x1CED1, 0x1CEDF), (0x1CEF1, 0x1CEFF),
   (0x1CF2E, 0x1CF2F), (0x1CF47, 0x1CF4F), (0x1CFC4, 0x1CFFF), (0x1D0F6, 0x1D0FF),
   (0x1D127, 0x1D128), (0x1D1EB, 0x1D1FF), (0x1D246, 0x1D2BF), (0x1D2D4, 0x1D2DF),
   (0x1D2F4, 0x1D2FF), (0x1D357, 0x1D35F), (0x1D379, 0x1D3FF), (0x1D455, 0x1D455),
   (0x1D49D, 0x1D49D), (0x1D4A0, 0x1D4A1), (0x1D4A3, 0x1D4A4), (0x1D4A7, 0x1D4A8),
   (0x1D4AD, 0x1D4AD), (0x1D4BA, 0x1D4BA), (0x1D4BC, 0x1D4BC), (0x1D4C4, 0x1D4C4),
   (0x1D506, 0x1D506), (0x1D50B, 0x1D50C), (0x1D515, 0x1D515), (0x1D51D, 0x1D51D),
   (0x1D53A, 0x1D53A), (0x1D53F, 0x1D53F), (0x1D545, 0x1D545), (0x1D547, 0x1D549),
   (0x1D551, 0x1D551), (0x1D6A6, 0x1D6A7), (0x1D7CC, 0x1D7CD), (0x1DA8C, 0x1DA9A),
   (0x1DAA0, 0x1DAA0), (0x1DAB0, 0x1DEFF), (0x1DF1F, 0x1DF24), (0x1DF2B, 0x1DFFF),
   (0x1E007, 0x1E007), (0x1E019, 0x1E01A), (0x1E022, 0x1E022), (0x1E025, 0x1E025),
   (0x1E02B, 0x1E02F), (0x1E06E, 0x1E08E), (0x1E090, 0x1E0FF), (0x1E12D, 0x1E12F),
   (0x1E13E, 0x1E13F), (0x1E14A, 0x1E14D), (0x1E150, 0x1E28F), (0x1E2AF, 0x1E2BF),
   (0x1E2FA, 0x1E2FE), (0x1E300, 0x1E4CF), (0x1E4FA, 0x1E5CF), (0x1E5FB, 0x1E5FE),
   (0x1E600, 0x1E6BF), (0x1E6DF, 0x1E6DF), (0x1E6F6, 0x1E6FD), (0x1E700, 0x1E7DF),
   (0x1E7E7, 0x1E7E7), (0x1E7EC, 0x1E7EC), (0x1E7EF, 0x1E7EF), (0x1E7FF, 0x1E7FF),
   (0x1E8C5, 0x1E8C6), (0x1E8D7, 0x1E8FF), (0x1E94C, 0x1E94F), (0x1E95A, 0x1E95D),
   (0x1E960, 0x1EC70), (0x1ECB5, 0x1ED00), (0x1ED3E, 0x1EDFF), (0x1EE04, 0x1EE04),
   (0x1EE20, 0x1EE20), (0x1EE23, 0x1EE23), (0x1EE25, 0x1EE26), (0x1EE28, 0x1EE28),
   (0x1EE33, 0x1EE33), (0x1EE38, 0x1EE38), (0x1EE3A, 0x1EE3A), (0x1EE3C, 0x1EE41),
   (0x1EE43, 0x1EE46), (0x1EE48, 0x1EE48), (0x1EE4A, 0x1EE4A), (0x1EE4C, 0x1EE4C),
   (0x1EE50, 0x1EE50), (0x1EE53, 0x1EE53), (0x1EE55, 0x1EE56), (0x1EE58, 0x1EE58),
   (0x1EE5A, 0x1EE5A), (0x1EE5C, 0x1EE5C), (0x1EE5E, 0x1EE5E), (0x1EE60, 0x1EE60),
   (0x1EE63, 0x1EE63), (0x1EE65, 0x1EE66), (0x1EE6B, 0x1EE6B), (0x1EE73, 0x1EE73),
   (0x1EE78, 0x1EE78), (0x1EE7D, 0x1EE7D), (0x1EE7F, 0x1EE7F), (0x1EE8A, 0x1EE8A),
   (0x1EE9C, 0x1EEA0), (0x1EEA4, 0x1EEA4), (0x1EEAA, 0x1EEAA), (0x1EEBC, 0x1EEEF),
   (0x1EEF2, 0x1EFFF), (0x1F02C, 0x1F02F), (0x1F094, 0x1F09F), (0x1F0AF, 0x1F0B0),
   (0x1F0C0, 0x1F0C0), (0x1F0D0, 0x1F0D0), (0x1F0F6, 0x1F100), (0x1F1AE, 0x1F1E5),
   (0x1F203, 0x1F20F), (0x1F23C, 0x1F23F), (0x1F249, 0x1F24F), (0x1F252, 0x1F25F),
   (0x1F266, 0x1F2FF), (0x1F6D9, 0x1F6DB), (0x1F6ED, 0x1F6EF), (0x1F6FD, 0x1F6FF),
   (0x1F7DA, 0x1F7DF), (0x1F7EC, 0x1F7EF), (0x1F7F1, 0x1F7FF), (0x1F80C, 0x1F80F),
   (0x1F848, 0x1F84F), (0x1F85A, 0x1F85F), (0x1F888, 0x1F88F), (0x1F8AE, 0x1F8AF),
   (0x1F8BC, 0x1F8BF), (0x1F8C2, 0x1F8CF), (0x1F8D9, 0x1F8FF), (0x1FA58, 0x1FA5F),
   (0x1FA6E, 0x1FA6F), (0x1FA7D, 0x1FA7F), (0x1FA8B, 0x1FA8D), (0x1FAC7, 0x1FAC7),
   (0x1FAC9, 0x1FACC), (0x1FADD, 0x1FADE), (0x1FAEB, 0x1FAEE), (0x1FAF9, 0x1FAFF),
   (0x1FB93, 0x1FB93), (0x1FBFB, 0x1FFFF), (0x2A6E0, 0x2A6FF), (0x2B81E, 0x2B81F),
   (0x2CEAE, 0x2CEAF), (0x2EBE1, 0x2EBEF), (0x2EE5E, 0x2F7FF), (0x2FA1E, 0x2FFFF),
   (0x3134B, 0x3134F), (0x3347A, 0xE00FF), (0xE01F0, 0x10FFFF)]

/-- The ranges of characters that count for nothing. -/
def droppedRanges : List (Nat × Nat) :=
  [(0xAD, 0xAD), (0x34F, 0x34F), (0x115F, 0x1160), (0x17B4, 0x17B5), (0x180B, 0x180F),
   (0x200B, 0x200B), (0x2060, 0x2064), (0x206A, 0x206F), (0x3164, 0x3164), (0xFE00, 0xFE0F),
   (0xFEFF, 0xFEFF), (0xFFA0, 0xFFA0), (0x1BCA0, 0x1BCA3), (0x1D173, 0x1D17A), (0xE0100, 0xE01EF)]

/-- The runs of characters that are replaced by a single character of ASCII. -/
def spelledRuns : List Text.CodeRun :=
  [⟨0xA0, 0xA0, 1, -128⟩, ⟨0xAA, 0xAA, 1, -73⟩, ⟨0xB2, 0xB3, 1, -128⟩, ⟨0xB9, 0xB9, 1, -136⟩,
   ⟨0xBA, 0xBA, 1, -75⟩, ⟨0x17F, 0x17F, 1, -268⟩, ⟨0x2B0, 0x2B2, 2, -584⟩,
   ⟨0x2B3, 0x2B3, 1, -577⟩, ⟨0x2B7, 0x2B7, 1, -576⟩, ⟨0x2B8, 0x2B8, 1, -575⟩,
   ⟨0x2E1, 0x2E1, 1, -629⟩, ⟨0x2E2, 0x2E2, 1, -623⟩, ⟨0x2E3, 0x2E3, 1, -619⟩,
   ⟨0x37E, 0x37E, 1, -835⟩, ⟨0x1D2C, 0x1D2C, 1, -7371⟩, ⟨0x1D2E, 0x1D30, 2, -7372⟩,
   ⟨0x1D31, 0x1D33, 2, -7372⟩, ⟨0x1D34, 0x1D3A, 1, -7372⟩, ⟨0x1D3C, 0x1D3C, 1, -7373⟩,
   ⟨0x1D3E, 0x1D3E, 1, -7374⟩, ⟨0x1D3F, 0x1D3F, 1, -7373⟩, ⟨0x1D40, 0x1D41, 1, -7372⟩,
   ⟨0x1D42, 0x1D42, 1, -7371⟩, ⟨0x1D43, 0x1D43, 1, -7394⟩, ⟨0x1D47, 0x1D47, 1, -7397⟩,
   ⟨0x1D48, 0x1D49, 1, -7396⟩, ⟨0x1D4D, 0x1D4D, 1, -7398⟩, ⟨0x1D4F, 0x1D4F, 1, -7396⟩,
   ⟨0x1D50, 0x1D52, 2, -7395⟩, ⟨0x1D56, 0x1D56, 1, -7398⟩, ⟨0x1D57, 0x1D58, 1, -7395⟩,
   ⟨0x1D5B, 0x1D5B, 1, -7397⟩, ⟨0x1D62, 0x1D62, 1, -7417⟩, ⟨0x1D63, 0x1D63, 1, -7409⟩,
   ⟨0x1D64, 0x1D65, 1, -7407⟩, ⟨0x1D9C, 0x1D9C, 1, -7481⟩, ⟨0x1DA0, 0x1DA0, 1, -7482⟩,
   ⟨0x1DBB, 0x1DBB, 1, -7489⟩, ⟨0x1FEF, 0x1FEF, 1, -8079⟩, ⟨0x2000, 0x2000, 1, -8160⟩,
   ⟨0x2001, 0x2001, 1, -8161⟩, ⟨0x2002, 0x2002, 1, -8162⟩, ⟨0x2003, 0x2003, 1, -8163⟩,
   ⟨0x2004, 0x2004, 1, -8164⟩, ⟨0x2005, 0x2005, 1, -8165⟩, ⟨0x2006, 0x2006, 1, -8166⟩,
   ⟨0x2007, 0x2007, 1, -8167⟩, ⟨0x2008, 0x2008, 1, -8168⟩, ⟨0x2009, 0x2009, 1, -8169⟩,
   ⟨0x200A, 0x200A, 1, -8170⟩, ⟨0x202F, 0x202F, 1, -8207⟩, ⟨0x205F, 0x205F, 1, -8255⟩,
   ⟨0x2070, 0x2070, 1, -8256⟩, ⟨0x2071, 0x2071, 1, -8200⟩, ⟨0x2074, 0x2079, 1, -8256⟩,
   ⟨0x207A, 0x207A, 1, -8271⟩, ⟨0x207C, 0x207C, 1, -8255⟩, ⟨0x207D, 0x207E, 1, -8277⟩,
   ⟨0x207F, 0x207F, 1, -8209⟩, ⟨0x2080, 0x2089, 1, -8272⟩, ⟨0x208A, 0x208A, 1, -8287⟩,
   ⟨0x208C, 0x208C, 1, -8271⟩, ⟨0x208D, 0x208E, 1, -8293⟩, ⟨0x2090, 0x2090, 1, -8239⟩,
   ⟨0x2091, 0x2091, 1, -8236⟩, ⟨0x2092, 0x2092, 1, -8227⟩, ⟨0x2093, 0x2093, 1, -8219⟩,
   ⟨0x2095, 0x2095, 1, -8237⟩, ⟨0x2096, 0x2099, 1, -8235⟩, ⟨0x209A, 0x209A, 1, -8234⟩,
   ⟨0x209B, 0x209C, 1, -8232⟩, ⟨0x2102, 0x2102, 1, -8351⟩, ⟨0x210A, 0x210B, 1, -8355⟩,
   ⟨0x210C, 0x210C, 1, -8356⟩, ⟨0x210D, 0x210D, 1, -8357⟩, ⟨0x210E, 0x210E, 1, -8358⟩,
   ⟨0x2110, 0x2110, 1, -8359⟩, ⟨0x2111, 0x2111, 1, -8360⟩, ⟨0x2112, 0x2112, 1, -8358⟩,
   ⟨0x2113, 0x2115, 2, -8359⟩, ⟨0x2119, 0x211B, 1, -8361⟩, ⟨0x211C, 0x211C, 1, -8362⟩,
   ⟨0x211D, 0x211D, 1, -8363⟩, ⟨0x2124, 0x2124, 1, -8362⟩, ⟨0x2128, 0x2128, 1, -8366⟩,
   ⟨0x212A, 0x212A, 1, -8383⟩, ⟨0x212C, 0x212D, 1, -8394⟩, ⟨0x212F, 0x212F, 1, -8394⟩,
   ⟨0x2130, 0x2131, 1, -8395⟩, ⟨0x2133, 0x2133, 1, -8390⟩, ⟨0x2134, 0x2134, 1, -8389⟩,
   ⟨0x2139, 0x2139, 1, -8400⟩, ⟨0x2145, 0x2145, 1, -8417⟩, ⟨0x2146, 0x2147, 1, -8418⟩,
   ⟨0x2148, 0x2149, 1, -8415⟩, ⟨0x2160, 0x2160, 1, -8439⟩, ⟨0x2164, 0x2164, 1, -8430⟩,
   ⟨0x2169, 0x2169, 1, -8433⟩, ⟨0x216C, 0x216C, 1, -8448⟩, ⟨0x216D, 0x216E, 1, -8458⟩,
   ⟨0x216F, 0x216F, 1, -8450⟩, ⟨0x2170, 0x2170, 1, -8455⟩, ⟨0x2174, 0x2174, 1, -8446⟩,
   ⟨0x2179, 0x2179, 1, -8449⟩, ⟨0x217C, 0x217C, 1, -8464⟩, ⟨0x217D, 0x217E, 1, -8474⟩,
   ⟨0x217F, 0x217F, 1, -8466⟩, ⟨0x2460, 0x2468, 1, -9263⟩, ⟨0x24B6, 0x24CF, 1, -9301⟩,
   ⟨0x24D0, 0x24E9, 1, -9327⟩, ⟨0x24EA, 0x24EA, 1, -9402⟩, ⟨0x2C7C, 0x2C7C, 1, -11282⟩,
   ⟨0x2C7D, 0x2C7D, 1, -11271⟩, ⟨0x3000, 0x3000, 1, -12256⟩, ⟨0x3002, 0x3002, 1, -12244⟩,
   ⟨0xA7F1, 0xA7F1, 1, -42878⟩, ⟨0xA7F2, 0xA7F2, 1, -42895⟩, ⟨0xA7F3, 0xA7F3, 1, -42893⟩,
   ⟨0xA7F4, 0xA7F4, 1, -42883⟩, ⟨0xFB29, 0xFB29, 1, -64254⟩, ⟨0xFE10, 0xFE10, 1, -64996⟩,
   ⟨0xFE13, 0xFE14, 1, -64985⟩, ⟨0xFE15, 0xFE15, 1, -65012⟩, ⟨0xFE16, 0xFE16, 1, -64983⟩,
   ⟨0xFE33, 0xFE33, 1, -64980⟩, ⟨0xFE34, 0xFE34, 1, -64981⟩, ⟨0xFE35, 0xFE36, 1, -65037⟩,
   ⟨0xFE37, 0xFE37, 1, -64956⟩, ⟨0xFE38, 0xFE38, 1, -64955⟩, ⟨0xFE47, 0xFE47, 1, -65004⟩,
   ⟨0xFE48, 0xFE48, 1, -65003⟩, ⟨0xFE4D, 0xFE4D, 1, -65006⟩, ⟨0xFE4E, 0xFE4E, 1, -65007⟩,
   ⟨0xFE4F, 0xFE4F, 1, -65008⟩, ⟨0xFE50, 0xFE50, 1, -65060⟩, ⟨0xFE54, 0xFE54, 1, -65049⟩,
   ⟨0xFE55, 0xFE55, 1, -65051⟩, ⟨0xFE56, 0xFE56, 1, -65047⟩, ⟨0xFE57, 0xFE57, 1, -65078⟩,
   ⟨0xFE59, 0xFE5A, 1, -65073⟩, ⟨0xFE5B, 0xFE5B, 1, -64992⟩, ⟨0xFE5C, 0xFE5C, 1, -64991⟩,
   ⟨0xFE5F, 0xFE5F, 1, -65084⟩, ⟨0xFE60, 0xFE60, 1, -65082⟩, ⟨0xFE61, 0xFE62, 1, -65079⟩,
   ⟨0xFE63, 0xFE63, 1, -65078⟩, ⟨0xFE64, 0xFE64, 1, -65064⟩, ⟨0xFE65, 0xFE65, 1, -65063⟩,
   ⟨0xFE66, 0xFE66, 1, -65065⟩, ⟨0xFE68, 0xFE68, 1, -65036⟩, ⟨0xFE69, 0xFE6A, 1, -65093⟩,
   ⟨0xFE6B, 0xFE6B, 1, -65067⟩, ⟨0xFF01, 0xFF20, 1, -65248⟩, ⟨0xFF21, 0xFF3A, 1, -65216⟩,
   ⟨0xFF3B, 0xFF5E, 1, -65248⟩, ⟨0xFF61, 0xFF61, 1, -65331⟩, ⟨0x107A5, 0x107A5, 1, -67380⟩,
   ⟨0x1CCD6, 0x1CCEF, 1, -117877⟩, ⟨0x1CCF0, 0x1CCF9, 1, -117952⟩, ⟨0x1D400, 0x1D419, 1, -119711⟩,
   ⟨0x1D41A, 0x1D433, 1, -119737⟩, ⟨0x1D434, 0x1D44D, 1, -119763⟩, ⟨0x1D44E, 0x1D454, 1, -119789⟩,
   ⟨0x1D456, 0x1D467, 1, -119789⟩, ⟨0x1D468, 0x1D481, 1, -119815⟩, ⟨0x1D482, 0x1D49B, 1, -119841⟩,
   ⟨0x1D49C, 0x1D49E, 2, -119867⟩, ⟨0x1D49F, 0x1D49F, 1, -119867⟩, ⟨0x1D4A2, 0x1D4A2, 1, -119867⟩,
   ⟨0x1D4A5, 0x1D4A6, 1, -119867⟩, ⟨0x1D4A9, 0x1D4AC, 1, -119867⟩, ⟨0x1D4AE, 0x1D4B5, 1, -119867⟩,
   ⟨0x1D4B6, 0x1D4B9, 1, -119893⟩, ⟨0x1D4BB, 0x1D4BD, 2, -119893⟩, ⟨0x1D4BE, 0x1D4C3, 1, -119893⟩,
   ⟨0x1D4C5, 0x1D4CF, 1, -119893⟩, ⟨0x1D4D0, 0x1D4E9, 1, -119919⟩, ⟨0x1D4EA, 0x1D503, 1, -119945⟩,
   ⟨0x1D504, 0x1D505, 1, -119971⟩, ⟨0x1D507, 0x1D50A, 1, -119971⟩, ⟨0x1D50D, 0x1D514, 1, -119971⟩,
   ⟨0x1D516, 0x1D51C, 1, -119971⟩, ⟨0x1D51E, 0x1D537, 1, -119997⟩, ⟨0x1D538, 0x1D539, 1, -120023⟩,
   ⟨0x1D53B, 0x1D53E, 1, -120023⟩, ⟨0x1D540, 0x1D544, 1, -120023⟩, ⟨0x1D546, 0x1D546, 1, -120023⟩,
   ⟨0x1D54A, 0x1D550, 1, -120023⟩, ⟨0x1D552, 0x1D56B, 1, -120049⟩, ⟨0x1D56C, 0x1D585, 1, -120075⟩,
   ⟨0x1D586, 0x1D59F, 1, -120101⟩, ⟨0x1D5A0, 0x1D5B9, 1, -120127⟩, ⟨0x1D5BA, 0x1D5D3, 1, -120153⟩,
   ⟨0x1D5D4, 0x1D5ED, 1, -120179⟩, ⟨0x1D5EE, 0x1D607, 1, -120205⟩, ⟨0x1D608, 0x1D621, 1, -120231⟩,
   ⟨0x1D622, 0x1D63B, 1, -120257⟩, ⟨0x1D63C, 0x1D655, 1, -120283⟩, ⟨0x1D656, 0x1D66F, 1, -120309⟩,
   ⟨0x1D670, 0x1D689, 1, -120335⟩, ⟨0x1D68A, 0x1D6A3, 1, -120361⟩, ⟨0x1D7CE, 0x1D7D7, 1, -120734⟩,
   ⟨0x1D7D8, 0x1D7E1, 1, -120744⟩, ⟨0x1D7E2, 0x1D7EB, 1, -120754⟩, ⟨0x1D7EC, 0x1D7F5, 1, -120764⟩,
   ⟨0x1D7F6, 0x1D7FF, 1, -120774⟩, ⟨0x1F12B, 0x1F12B, 1, -127176⟩, ⟨0x1F12C, 0x1F12C, 1, -127162⟩,
   ⟨0x1F130, 0x1F149, 1, -127183⟩, ⟨0x1FBF0, 0x1FBF9, 1, -129984⟩]

/-- The characters that are replaced by a text that is spelled out. -/
def spelledTexts : List (Nat × List Nat) :=
  [(0xA8, [0x20, 0x308]), (0xAF, [0x20, 0x304]), (0xB4, [0x20, 0x301]), (0xB8, [0x20, 0x327]),
   (0xBC, [0x31, 0x2044, 0x34]), (0xBD, [0x31, 0x2044, 0x32]), (0xBE, [0x33, 0x2044, 0x34]),
   (0x130, [0x69, 0x307]), (0x132, [0x69, 0x6A]), (0x133, [0x69, 0x6A]), (0x13F, [0x6C, 0xB7]),
   (0x140, [0x6C, 0xB7]), (0x149, [0x2BC, 0x6E]), (0x1C4, [0x64, 0x17E]), (0x1C5, [0x64, 0x17E]),
   (0x1C6, [0x64, 0x17E]), (0x1C7, [0x6C, 0x6A]), (0x1C8, [0x6C, 0x6A]), (0x1C9, [0x6C, 0x6A]),
   (0x1CA, [0x6E, 0x6A]), (0x1CB, [0x6E, 0x6A]), (0x1CC, [0x6E, 0x6A]), (0x1F1, [0x64, 0x7A]),
   (0x1F2, [0x64, 0x7A]), (0x1F3, [0x64, 0x7A]), (0x2D8, [0x20, 0x306]), (0x2D9, [0x20, 0x307]),
   (0x2DA, [0x20, 0x30A]), (0x2DB, [0x20, 0x328]), (0x2DC, [0x20, 0x303]), (0x2DD, [0x20, 0x30B]),
   (0x340, [0x300]), (0x341, [0x301]), (0x343, [0x313]), (0x344, [0x308, 0x301]),
   (0x37A, [0x20, 0x3B9]), (0x384, [0x20, 0x301]), (0x385, [0x20, 0x308, 0x301]),
   (0x958, [0x915, 0x93C]), (0x959, [0x916, 0x93C]), (0x95A, [0x917, 0x93C]),
   (0x95B, [0x91C, 0x93C]), (0x95C, [0x921, 0x93C]), (0x95D, [0x922, 0x93C]),
   (0x95E, [0x92B, 0x93C]), (0x95F, [0x92F, 0x93C]), (0x9DC, [0x9A1, 0x9BC]),
   (0x9DD, [0x9A2, 0x9BC]), (0x9DF, [0x9AF, 0x9BC]), (0xA33, [0xA32, 0xA3C]),
   (0xA36, [0xA38, 0xA3C]), (0xA59, [0xA16, 0xA3C]), (0xA5A, [0xA17, 0xA3C]),
   (0xA5B, [0xA1C, 0xA3C]), (0xA5E, [0xA2B, 0xA3C]), (0xB5C, [0xB21, 0xB3C]),
   (0xB5D, [0xB22, 0xB3C]), (0xE33, [0xE4D, 0xE32]), (0xEB3, [0xECD, 0xEB2]),
   (0xF73, [0xF71, 0xF72]), (0xF75, [0xF71, 0xF74]), (0xF76, [0xFB2, 0xF80]),
   (0xF77, [0xFB2, 0xF71, 0xF80]), (0xF78, [0xFB3, 0xF80]), (0xF79, [0xFB3, 0xF71, 0xF80]),
   (0xF81, [0xF71, 0xF80]), (0x1E9A, [0x61, 0x2BE]), (0x1FBD, [0x20, 0x313]),
   (0x1FBF, [0x20, 0x313]), (0x1FC0, [0x20, 0x342]), (0x1FC1, [0x20, 0x308, 0x342]),
   (0x1FCD, [0x20, 0x313, 0x300]), (0x1FCE, [0x20, 0x313, 0x301]), (0x1FCF, [0x20, 0x313, 0x342]),
   (0x1FDD, [0x20, 0x314, 0x300]), (0x1FDE, [0x20, 0x314, 0x301]), (0x1FDF, [0x20, 0x314, 0x342]),
   (0x1FED, [0x20, 0x308, 0x300]), (0x1FEE, [0x20, 0x308, 0x301]), (0x1FFD, [0x20, 0x301]),
   (0x1FFE, [0x20, 0x314]), (0x2017, [0x20, 0x333]), (0x203C, [0x21, 0x21]),
   (0x203E, [0x20, 0x305]), (0x2047, [0x3F, 0x3F]), (0x2048, [0x3F, 0x21]),
   (0x2049, [0x21, 0x3F]), (0x20A8, [0x72, 0x73]), (0x2100, [0x61, 0x2F, 0x63]),
   (0x2101, [0x61, 0x2F, 0x73]), (0x2103, [0xB0, 0x63]), (0x2105, [0x63, 0x2F, 0x6F]),
   (0x2106, [0x63, 0x2F, 0x75]), (0x2109, [0xB0, 0x66]), (0x2116, [0x6E, 0x6F]),
   (0x2120, [0x73, 0x6D]), (0x2121, [0x74, 0x65, 0x6C]), (0x2122, [0x74, 0x6D]),
   (0x213B, [0x66, 0x61, 0x78]), (0x2150, [0x31, 0x2044, 0x37]), (0x2151, [0x31, 0x2044, 0x39]),
   (0x2152, [0x31, 0x2044, 0x31, 0x30]), (0x2153, [0x31, 0x2044, 0x33]),
   (0x2154, [0x32, 0x2044, 0x33]), (0x2155, [0x31, 0x2044, 0x35]), (0x2156, [0x32, 0x2044, 0x35]),
   (0x2157, [0x33, 0x2044, 0x35]), (0x2158, [0x34, 0x2044, 0x35]), (0x2159, [0x31, 0x2044, 0x36]),
   (0x215A, [0x35, 0x2044, 0x36]), (0x215B, [0x31, 0x2044, 0x38]), (0x215C, [0x33, 0x2044, 0x38]),
   (0x215D, [0x35, 0x2044, 0x38]), (0x215E, [0x37, 0x2044, 0x38]), (0x215F, [0x31, 0x2044]),
   (0x2161, [0x69, 0x69]), (0x2162, [0x69, 0x69, 0x69]), (0x2163, [0x69, 0x76]),
   (0x2165, [0x76, 0x69]), (0x2166, [0x76, 0x69, 0x69]), (0x2167, [0x76, 0x69, 0x69, 0x69]),
   (0x2168, [0x69, 0x78]), (0x216A, [0x78, 0x69]), (0x216B, [0x78, 0x69, 0x69]),
   (0x2171, [0x69, 0x69]), (0x2172, [0x69, 0x69, 0x69]), (0x2173, [0x69, 0x76]),
   (0x2175, [0x76, 0x69]), (0x2176, [0x76, 0x69, 0x69]), (0x2177, [0x76, 0x69, 0x69, 0x69]),
   (0x2178, [0x69, 0x78]), (0x217A, [0x78, 0x69]), (0x217B, [0x78, 0x69, 0x69]),
   (0x2189, [0x30, 0x2044, 0x33]), (0x2469, [0x31, 0x30]), (0x246A, [0x31, 0x31]),
   (0x246B, [0x31, 0x32]), (0x246C, [0x31, 0x33]), (0x246D, [0x31, 0x34]), (0x246E, [0x31, 0x35]),
   (0x246F, [0x31, 0x36]), (0x2470, [0x31, 0x37]), (0x2471, [0x31, 0x38]), (0x2472, [0x31, 0x39]),
   (0x2473, [0x32, 0x30]), (0x2474, [0x28, 0x31, 0x29]), (0x2475, [0x28, 0x32, 0x29]),
   (0x2476, [0x28, 0x33, 0x29]), (0x2477, [0x28, 0x34, 0x29]), (0x2478, [0x28, 0x35, 0x29]),
   (0x2479, [0x28, 0x36, 0x29]), (0x247A, [0x28, 0x37, 0x29]), (0x247B, [0x28, 0x38, 0x29]),
   (0x247C, [0x28, 0x39, 0x29]), (0x247D, [0x28, 0x31, 0x30, 0x29]),
   (0x247E, [0x28, 0x31, 0x31, 0x29]), (0x247F, [0x28, 0x31, 0x32, 0x29]),
   (0x2480, [0x28, 0x31, 0x33, 0x29]), (0x2481, [0x28, 0x31, 0x34, 0x29]),
   (0x2482, [0x28, 0x31, 0x35, 0x29]), (0x2483, [0x28, 0x31, 0x36, 0x29]),
   (0x2484, [0x28, 0x31, 0x37, 0x29]), (0x2485, [0x28, 0x31, 0x38, 0x29]),
   (0x2486, [0x28, 0x31, 0x39, 0x29]), (0x2487, [0x28, 0x32, 0x30, 0x29]),
   (0x249C, [0x28, 0x61, 0x29]), (0x249D, [0x28, 0x62, 0x29]), (0x249E, [0x28, 0x63, 0x29]),
   (0x249F, [0x28, 0x64, 0x29]), (0x24A0, [0x28, 0x65, 0x29]), (0x24A1, [0x28, 0x66, 0x29]),
   (0x24A2, [0x28, 0x67, 0x29]), (0x24A3, [0x28, 0x68, 0x29]), (0x24A4, [0x28, 0x69, 0x29]),
   (0x24A5, [0x28, 0x6A, 0x29]), (0x24A6, [0x28, 0x6B, 0x29]), (0x24A7, [0x28, 0x6C, 0x29]),
   (0x24A8, [0x28, 0x6D, 0x29]), (0x24A9, [0x28, 0x6E, 0x29]), (0x24AA, [0x28, 0x6F, 0x29]),
   (0x24AB, [0x28, 0x70, 0x29]), (0x24AC, [0x28, 0x71, 0x29]), (0x24AD, [0x28, 0x72, 0x29]),
   (0x24AE, [0x28, 0x73, 0x29]), (0x24AF, [0x28, 0x74, 0x29]), (0x24B0, [0x28, 0x75, 0x29]),
   (0x24B1, [0x28, 0x76, 0x29]), (0x24B2, [0x28, 0x77, 0x29]), (0x24B3, [0x28, 0x78, 0x29]),
   (0x24B4, [0x28, 0x79, 0x29]), (0x24B5, [0x28, 0x7A, 0x29]), (0x2A74, [0x3A, 0x3A, 0x3D]),
   (0x2A75, [0x3D, 0x3D]), (0x2A76, [0x3D, 0x3D, 0x3D]), (0x2ADC, [0x2ADD, 0x338]),
   (0x309B, [0x20, 0x3099]), (0x309C, [0x20, 0x309A]), (0x3200, [0x28, 0x1100, 0x29]),
   (0x3201, [0x28, 0x1102, 0x29]), (0x3202, [0x28, 0x1103, 0x29]), (0x3203, [0x28, 0x1105, 0x29]),
   (0x3204, [0x28, 0x1106, 0x29]), (0x3205, [0x28, 0x1107, 0x29]), (0x3206, [0x28, 0x1109, 0x29]),
   (0x3207, [0x28, 0x110B, 0x29]), (0x3208, [0x28, 0x110C, 0x29]), (0x3209, [0x28, 0x110E, 0x29]),
   (0x320A, [0x28, 0x110F, 0x29]), (0x320B, [0x28, 0x1110, 0x29]), (0x320C, [0x28, 0x1111, 0x29]),
   (0x320D, [0x28, 0x1112, 0x29]), (0x320E, [0x28, 0xAC00, 0x29]), (0x320F, [0x28, 0xB098, 0x29]),
   (0x3210, [0x28, 0xB2E4, 0x29]), (0x3211, [0x28, 0xB77C, 0x29]), (0x3212, [0x28, 0xB9C8, 0x29]),
   (0x3213, [0x28, 0xBC14, 0x29]), (0x3214, [0x28, 0xC0AC, 0x29]), (0x3215, [0x28, 0xC544, 0x29]),
   (0x3216, [0x28, 0xC790, 0x29]), (0x3217, [0x28, 0xCC28, 0x29]), (0x3218, [0x28, 0xCE74, 0x29]),
   (0x3219, [0x28, 0xD0C0, 0x29]), (0x321A, [0x28, 0xD30C, 0x29]), (0x321B, [0x28, 0xD558, 0x29]),
   (0x321C, [0x28, 0xC8FC, 0x29]), (0x321D, [0x28, 0xC624, 0xC804, 0x29]),
   (0x321E, [0x28, 0xC624, 0xD6C4, 0x29]), (0x3220, [0x28, 0x4E00, 0x29]),
   (0x3221, [0x28, 0x4E8C, 0x29]), (0x3222, [0x28, 0x4E09, 0x29]), (0x3223, [0x28, 0x56DB, 0x29]),
   (0x3224, [0x28, 0x4E94, 0x29]), (0x3225, [0x28, 0x516D, 0x29]), (0x3226, [0x28, 0x4E03, 0x29]),
   (0x3227, [0x28, 0x516B, 0x29]), (0x3228, [0x28, 0x4E5D, 0x29]), (0x3229, [0x28, 0x5341, 0x29]),
   (0x322A, [0x28, 0x6708, 0x29]), (0x322B, [0x28, 0x706B, 0x29]), (0x322C, [0x28, 0x6C34, 0x29]),
   (0x322D, [0x28, 0x6728, 0x29]), (0x322E, [0x28, 0x91D1, 0x29]), (0x322F, [0x28, 0x571F, 0x29]),
   (0x3230, [0x28, 0x65E5, 0x29]), (0x3231, [0x28, 0x682A, 0x29]), (0x3232, [0x28, 0x6709, 0x29]),
   (0x3233, [0x28, 0x793E, 0x29]), (0x3234, [0x28, 0x540D, 0x29]), (0x3235, [0x28, 0x7279, 0x29]),
   (0x3236, [0x28, 0x8CA1, 0x29]), (0x3237, [0x28, 0x795D, 0x29]), (0x3238, [0x28, 0x52B4, 0x29]),
   (0x3239, [0x28, 0x4EE3, 0x29]), (0x323A, [0x28, 0x547C, 0x29]), (0x323B, [0x28, 0x5B66, 0x29]),
   (0x323C, [0x28, 0x76E3, 0x29]), (0x323D, [0x28, 0x4F01, 0x29]), (0x323E, [0x28, 0x8CC7, 0x29]),
   (0x323F, [0x28, 0x5354, 0x29]), (0x3240, [0x28, 0x796D, 0x29]), (0x3241, [0x28, 0x4F11, 0x29]),
   (0x3242, [0x28, 0x81EA, 0x29]), (0x3243, [0x28, 0x81F3, 0x29]), (0x3250, [0x70, 0x74, 0x65]),
   (0x3251, [0x32, 0x31]), (0x3252, [0x32, 0x32]), (0x3253, [0x32, 0x33]), (0x3254, [0x32, 0x34]),
   (0x3255, [0x32, 0x35]), (0x3256, [0x32, 0x36]), (0x3257, [0x32, 0x37]), (0x3258, [0x32, 0x38]),
   (0x3259, [0x32, 0x39]), (0x325A, [0x33, 0x30]), (0x325B, [0x33, 0x31]), (0x325C, [0x33, 0x32]),
   (0x325D, [0x33, 0x33]), (0x325E, [0x33, 0x34]), (0x325F, [0x33, 0x35]), (0x32B1, [0x33, 0x36]),
   (0x32B2, [0x33, 0x37]), (0x32B3, [0x33, 0x38]), (0x32B4, [0x33, 0x39]), (0x32B5, [0x34, 0x30]),
   (0x32B6, [0x34, 0x31]), (0x32B7, [0x34, 0x32]), (0x32B8, [0x34, 0x33]), (0x32B9, [0x34, 0x34]),
   (0x32BA, [0x34, 0x35]), (0x32BB, [0x34, 0x36]), (0x32BC, [0x34, 0x37]), (0x32BD, [0x34, 0x38]),
   (0x32BE, [0x34, 0x39]), (0x32BF, [0x35, 0x30]), (0x32C0, [0x31, 0x6708]),
   (0x32C1, [0x32, 0x6708]), (0x32C2, [0x33, 0x6708]), (0x32C3, [0x34, 0x6708]),
   (0x32C4, [0x35, 0x6708]), (0x32C5, [0x36, 0x6708]), (0x32C6, [0x37, 0x6708]),
   (0x32C7, [0x38, 0x6708]), (0x32C8, [0x39, 0x6708]), (0x32C9, [0x31, 0x30, 0x6708]),
   (0x32CA, [0x31, 0x31, 0x6708]), (0x32CB, [0x31, 0x32, 0x6708]), (0x32CC, [0x68, 0x67]),
   (0x32CD, [0x65, 0x72, 0x67]), (0x32CE, [0x65, 0x76]), (0x32CF, [0x6C, 0x74, 0x64]),
   (0x3358, [0x30, 0x70B9]), (0x3359, [0x31, 0x70B9]), (0x335A, [0x32, 0x70B9]),
   (0x335B, [0x33, 0x70B9]), (0x335C, [0x34, 0x70B9]), (0x335D, [0x35, 0x70B9]),
   (0x335E, [0x36, 0x70B9]), (0x335F, [0x37, 0x70B9]), (0x3360, [0x38, 0x70B9]),
   (0x3361, [0x39, 0x70B9]), (0x3362, [0x31, 0x30, 0x70B9]), (0x3363, [0x31, 0x31, 0x70B9]),
   (0x3364, [0x31, 0x32, 0x70B9]), (0x3365, [0x31, 0x33, 0x70B9]), (0x3366, [0x31, 0x34, 0x70B9]),
   (0x3367, [0x31, 0x35, 0x70B9]), (0x3368, [0x31, 0x36, 0x70B9]), (0x3369, [0x31, 0x37, 0x70B9]),
   (0x336A, [0x31, 0x38, 0x70B9]), (0x336B, [0x31, 0x39, 0x70B9]), (0x336C, [0x32, 0x30, 0x70B9]),
   (0x336D, [0x32, 0x31, 0x70B9]), (0x336E, [0x32, 0x32, 0x70B9]), (0x336F, [0x32, 0x33, 0x70B9]),
   (0x3370, [0x32, 0x34, 0x70B9]), (0x3371, [0x68, 0x70, 0x61]), (0x3372, [0x64, 0x61]),
   (0x3373, [0x61, 0x75]), (0x3374, [0x62, 0x61, 0x72]), (0x3375, [0x6F, 0x76]),
   (0x3376, [0x70, 0x63]), (0x3377, [0x64, 0x6D]), (0x3378, [0x64, 0x6D, 0x32]),
   (0x3379, [0x64, 0x6D, 0x33]), (0x337A, [0x69, 0x75]), (0x3380, [0x70, 0x61]),
   (0x3381, [0x6E, 0x61]), (0x3382, [0x3BC, 0x61]), (0x3383, [0x6D, 0x61]),
   (0x3384, [0x6B, 0x61]), (0x3385, [0x6B, 0x62]), (0x3386, [0x6D, 0x62]), (0x3387, [0x67, 0x62]),
   (0x3388, [0x63, 0x61, 0x6C]), (0x3389, [0x6B, 0x63, 0x61, 0x6C]), (0x338A, [0x70, 0x66]),
   (0x338B, [0x6E, 0x66]), (0x338C, [0x3BC, 0x66]), (0x338D, [0x3BC, 0x67]),
   (0x338E, [0x6D, 0x67]), (0x338F, [0x6B, 0x67]), (0x3390, [0x68, 0x7A]),
   (0x3391, [0x6B, 0x68, 0x7A]), (0x3392, [0x6D, 0x68, 0x7A]), (0x3393, [0x67, 0x68, 0x7A]),
   (0x3394, [0x74, 0x68, 0x7A]), (0x3395, [0x3BC, 0x6C]), (0x3396, [0x6D, 0x6C]),
   (0x3397, [0x64, 0x6C]), (0x3398, [0x6B, 0x6C]), (0x3399, [0x66, 0x6D]), (0x339A, [0x6E, 0x6D]),
   (0x339B, [0x3BC, 0x6D]), (0x339C, [0x6D, 0x6D]), (0x339D, [0x63, 0x6D]),
   (0x339E, [0x6B, 0x6D]), (0x339F, [0x6D, 0x6D, 0x32]), (0x33A0, [0x63, 0x6D, 0x32]),
   (0x33A1, [0x6D, 0x32]), (0x33A2, [0x6B, 0x6D, 0x32]), (0x33A3, [0x6D, 0x6D, 0x33]),
   (0x33A4, [0x63, 0x6D, 0x33]), (0x33A5, [0x6D, 0x33]), (0x33A6, [0x6B, 0x6D, 0x33]),
   (0x33A7, [0x6D, 0x2215, 0x73]), (0x33A8, [0x6D, 0x2215, 0x73, 0x32]), (0x33A9, [0x70, 0x61]),
   (0x33AA, [0x6B, 0x70, 0x61]), (0x33AB, [0x6D, 0x70, 0x61]), (0x33AC, [0x67, 0x70, 0x61]),
   (0x33AD, [0x72, 0x61, 0x64]), (0x33AE, [0x72, 0x61, 0x64, 0x2215, 0x73]),
   (0x33AF, [0x72, 0x61, 0x64, 0x2215, 0x73, 0x32]), (0x33B0, [0x70, 0x73]),
   (0x33B1, [0x6E, 0x73]), (0x33B2, [0x3BC, 0x73]), (0x33B3, [0x6D, 0x73]),
   (0x33B4, [0x70, 0x76]), (0x33B5, [0x6E, 0x76]), (0x33B6, [0x3BC, 0x76]),
   (0x33B7, [0x6D, 0x76]), (0x33B8, [0x6B, 0x76]), (0x33B9, [0x6D, 0x76]), (0x33BA, [0x70, 0x77]),
   (0x33BB, [0x6E, 0x77]), (0x33BC, [0x3BC, 0x77]), (0x33BD, [0x6D, 0x77]),
   (0x33BE, [0x6B, 0x77]), (0x33BF, [0x6D, 0x77]), (0x33C0, [0x6B, 0x3C9]),
   (0x33C1, [0x6D, 0x3C9]), (0x33C3, [0x62, 0x71]), (0x33C4, [0x63, 0x63]),
   (0x33C5, [0x63, 0x64]), (0x33C6, [0x63, 0x2215, 0x6B, 0x67]), (0x33C8, [0x64, 0x62]),
   (0x33C9, [0x67, 0x79]), (0x33CA, [0x68, 0x61]), (0x33CB, [0x68, 0x70]), (0x33CC, [0x69, 0x6E]),
   (0x33CD, [0x6B, 0x6B]), (0x33CE, [0x6B, 0x6D]), (0x33CF, [0x6B, 0x74]), (0x33D0, [0x6C, 0x6D]),
   (0x33D1, [0x6C, 0x6E]), (0x33D2, [0x6C, 0x6F, 0x67]), (0x33D3, [0x6C, 0x78]),
   (0x33D4, [0x6D, 0x62]), (0x33D5, [0x6D, 0x69, 0x6C]), (0x33D6, [0x6D, 0x6F, 0x6C]),
   (0x33D7, [0x70, 0x68]), (0x33D9, [0x70, 0x70, 0x6D]), (0x33DA, [0x70, 0x72]),
   (0x33DB, [0x73, 0x72]), (0x33DC, [0x73, 0x76]), (0x33DD, [0x77, 0x62]),
   (0x33DE, [0x76, 0x2215, 0x6D]), (0x33DF, [0x61, 0x2215, 0x6D]), (0x33E0, [0x31, 0x65E5]),
   (0x33E1, [0x32, 0x65E5]), (0x33E2, [0x33, 0x65E5]), (0x33E3, [0x34, 0x65E5]),
   (0x33E4, [0x35, 0x65E5]), (0x33E5, [0x36, 0x65E5]), (0x33E6, [0x37, 0x65E5]),
   (0x33E7, [0x38, 0x65E5]), (0x33E8, [0x39, 0x65E5]), (0x33E9, [0x31, 0x30, 0x65E5]),
   (0x33EA, [0x31, 0x31, 0x65E5]), (0x33EB, [0x31, 0x32, 0x65E5]), (0x33EC, [0x31, 0x33, 0x65E5]),
   (0x33ED, [0x31, 0x34, 0x65E5]), (0x33EE, [0x31, 0x35, 0x65E5]), (0x33EF, [0x31, 0x36, 0x65E5]),
   (0x33F0, [0x31, 0x37, 0x65E5]), (0x33F1, [0x31, 0x38, 0x65E5]), (0x33F2, [0x31, 0x39, 0x65E5]),
   (0x33F3, [0x32, 0x30, 0x65E5]), (0x33F4, [0x32, 0x31, 0x65E5]), (0x33F5, [0x32, 0x32, 0x65E5]),
   (0x33F6, [0x32, 0x33, 0x65E5]), (0x33F7, [0x32, 0x34, 0x65E5]), (0x33F8, [0x32, 0x35, 0x65E5]),
   (0x33F9, [0x32, 0x36, 0x65E5]), (0x33FA, [0x32, 0x37, 0x65E5]), (0x33FB, [0x32, 0x38, 0x65E5]),
   (0x33FC, [0x32, 0x39, 0x65E5]), (0x33FD, [0x33, 0x30, 0x65E5]), (0x33FE, [0x33, 0x31, 0x65E5]),
   (0x33FF, [0x67, 0x61, 0x6C]), (0xFB00, [0x66, 0x66]), (0xFB01, [0x66, 0x69]),
   (0xFB02, [0x66, 0x6C]), (0xFB03, [0x66, 0x66, 0x69]), (0xFB04, [0x66, 0x66, 0x6C]),
   (0xFB05, [0x73, 0x74]), (0xFB06, [0x73, 0x74]), (0xFB1D, [0x5D9, 0x5B4]),
   (0xFB1F, [0x5F2, 0x5B7]), (0xFB2A, [0x5E9, 0x5C1]), (0xFB2B, [0x5E9, 0x5C2]),
   (0xFB2C, [0x5E9, 0x5BC, 0x5C1]), (0xFB2D, [0x5E9, 0x5BC, 0x5C2]), (0xFB2E, [0x5D0, 0x5B7]),
   (0xFB2F, [0x5D0, 0x5B8]), (0xFB30, [0x5D0, 0x5BC]), (0xFB31, [0x5D1, 0x5BC]),
   (0xFB32, [0x5D2, 0x5BC]), (0xFB33, [0x5D3, 0x5BC]), (0xFB34, [0x5D4, 0x5BC]),
   (0xFB35, [0x5D5, 0x5BC]), (0xFB36, [0x5D6, 0x5BC]), (0xFB38, [0x5D8, 0x5BC]),
   (0xFB39, [0x5D9, 0x5BC]), (0xFB3A, [0x5DA, 0x5BC]), (0xFB3B, [0x5DB, 0x5BC]),
   (0xFB3C, [0x5DC, 0x5BC]), (0xFB3E, [0x5DE, 0x5BC]), (0xFB40, [0x5E0, 0x5BC]),
   (0xFB41, [0x5E1, 0x5BC]), (0xFB43, [0x5E3, 0x5BC]), (0xFB44, [0x5E4, 0x5BC]),
   (0xFB46, [0x5E6, 0x5BC]), (0xFB47, [0x5E7, 0x5BC]), (0xFB48, [0x5E8, 0x5BC]),
   (0xFB49, [0x5E9, 0x5BC]), (0xFB4A, [0x5EA, 0x5BC]), (0xFB4B, [0x5D5, 0x5B9]),
   (0xFB4C, [0x5D1, 0x5BF]), (0xFB4D, [0x5DB, 0x5BF]), (0xFB4E, [0x5E4, 0x5BF]),
   (0xFC5B, [0x630, 0x670]), (0xFC5C, [0x631, 0x670]), (0xFC5D, [0x649, 0x670]),
   (0xFC5E, [0x20, 0x64C, 0x651]), (0xFC5F, [0x20, 0x64D, 0x651]), (0xFC60, [0x20, 0x64E, 0x651]),
   (0xFC61, [0x20, 0x64F, 0x651]), (0xFC62, [0x20, 0x650, 0x651]), (0xFC63, [0x20, 0x651, 0x670]),
   (0xFC90, [0x649, 0x670]), (0xFCD9, [0x647, 0x670]), (0xFCF2, [0x640, 0x64E, 0x651]),
   (0xFCF3, [0x640, 0x64F, 0x651]), (0xFCF4, [0x640, 0x650, 0x651]), (0xFD3C, [0x627, 0x64B]),
   (0xFD3D, [0x627, 0x64B]),
   (0xFDFA, [0x635, 0x644, 0x649, 0x20, 0x627, 0x644, 0x644, 0x647, 0x20, 0x639, 0x644, 0x64A,
    0x647, 0x20, 0x648, 0x633, 0x644, 0x645]),
   (0xFDFB, [0x62C, 0x644, 0x20, 0x62C, 0x644, 0x627, 0x644, 0x647]), (0xFE49, [0x20, 0x305]),
   (0xFE4A, [0x20, 0x305]), (0xFE4B, [0x20, 0x305]), (0xFE4C, [0x20, 0x305]),
   (0xFE70, [0x20, 0x64B]), (0xFE71, [0x640, 0x64B]), (0xFE72, [0x20, 0x64C]),
   (0xFE74, [0x20, 0x64D]), (0xFE76, [0x20, 0x64E]), (0xFE77, [0x640, 0x64E]),
   (0xFE78, [0x20, 0x64F]), (0xFE79, [0x640, 0x64F]), (0xFE7A, [0x20, 0x650]),
   (0xFE7B, [0x640, 0x650]), (0xFE7C, [0x20, 0x651]), (0xFE7D, [0x640, 0x651]),
   (0xFE7E, [0x20, 0x652]), (0xFE7F, [0x640, 0x652]), (0xFF9E, [0x3099]), (0xFF9F, [0x309A]),
   (0xFFE3, [0x20, 0x304]), (0x1D15E, [0x1D157, 0x1D165]), (0x1D15F, [0x1D158, 0x1D165]),
   (0x1D160, [0x1D158, 0x1D165, 0x1D16E]), (0x1D161, [0x1D158, 0x1D165, 0x1D16F]),
   (0x1D162, [0x1D158, 0x1D165, 0x1D170]), (0x1D163, [0x1D158, 0x1D165, 0x1D171]),
   (0x1D164, [0x1D158, 0x1D165, 0x1D172]), (0x1D1BB, [0x1D1B9, 0x1D165]),
   (0x1D1BC, [0x1D1BA, 0x1D165]), (0x1D1BD, [0x1D1B9, 0x1D165, 0x1D16E]),
   (0x1D1BE, [0x1D1BA, 0x1D165, 0x1D16E]), (0x1D1BF, [0x1D1B9, 0x1D165, 0x1D16F]),
   (0x1D1C0, [0x1D1BA, 0x1D165, 0x1D16F]), (0x1F101, [0x30, 0x2C]), (0x1F102, [0x31, 0x2C]),
   (0x1F103, [0x32, 0x2C]), (0x1F104, [0x33, 0x2C]), (0x1F105, [0x34, 0x2C]),
   (0x1F106, [0x35, 0x2C]), (0x1F107, [0x36, 0x2C]), (0x1F108, [0x37, 0x2C]),
   (0x1F109, [0x38, 0x2C]), (0x1F10A, [0x39, 0x2C]), (0x1F110, [0x28, 0x61, 0x29]),
   (0x1F111, [0x28, 0x62, 0x29]), (0x1F112, [0x28, 0x63, 0x29]), (0x1F113, [0x28, 0x64, 0x29]),
   (0x1F114, [0x28, 0x65, 0x29]), (0x1F115, [0x28, 0x66, 0x29]), (0x1F116, [0x28, 0x67, 0x29]),
   (0x1F117, [0x28, 0x68, 0x29]), (0x1F118, [0x28, 0x69, 0x29]), (0x1F119, [0x28, 0x6A, 0x29]),
   (0x1F11A, [0x28, 0x6B, 0x29]), (0x1F11B, [0x28, 0x6C, 0x29]), (0x1F11C, [0x28, 0x6D, 0x29]),
   (0x1F11D, [0x28, 0x6E, 0x29]), (0x1F11E, [0x28, 0x6F, 0x29]), (0x1F11F, [0x28, 0x70, 0x29]),
   (0x1F120, [0x28, 0x71, 0x29]), (0x1F121, [0x28, 0x72, 0x29]), (0x1F122, [0x28, 0x73, 0x29]),
   (0x1F123, [0x28, 0x74, 0x29]), (0x1F124, [0x28, 0x75, 0x29]), (0x1F125, [0x28, 0x76, 0x29]),
   (0x1F126, [0x28, 0x77, 0x29]), (0x1F127, [0x28, 0x78, 0x29]), (0x1F128, [0x28, 0x79, 0x29]),
   (0x1F129, [0x28, 0x7A, 0x29]), (0x1F12A, [0x3014, 0x73, 0x3015]), (0x1F12D, [0x63, 0x64]),
   (0x1F12E, [0x77, 0x7A]), (0x1F14A, [0x68, 0x76]), (0x1F14B, [0x6D, 0x76]),
   (0x1F14C, [0x73, 0x64]), (0x1F14D, [0x73, 0x73]), (0x1F14E, [0x70, 0x70, 0x76]),
   (0x1F14F, [0x77, 0x63]), (0x1F16A, [0x6D, 0x63]), (0x1F16B, [0x6D, 0x64]),
   (0x1F16C, [0x6D, 0x72]), (0x1F190, [0x64, 0x6A]), (0x1F240, [0x3014, 0x672C, 0x3015]),
   (0x1F241, [0x3014, 0x4E09, 0x3015]), (0x1F242, [0x3014, 0x4E8C, 0x3015]),
   (0x1F243, [0x3014, 0x5B89, 0x3015]), (0x1F244, [0x3014, 0x70B9, 0x3015]),
   (0x1F245, [0x3014, 0x6253, 0x3015]), (0x1F246, [0x3014, 0x76D7, 0x3015]),
   (0x1F247, [0x3014, 0x52DD, 0x3015]), (0x1F248, [0x3014, 0x6557, 0x3015])]

/-- The runs of characters that are replaced by others behind ASCII, each by some of its own kind.
The third number of a run is the distance between its characters. -/
def renamedRuns : List (Nat × Nat × Nat) :=
  [(0xB5, 0xB5, 1), (0xC0, 0xD6, 1), (0xD8, 0xDE, 1), (0x100, 0x12E, 2), (0x134, 0x136, 2),
   (0x139, 0x13D, 2), (0x141, 0x147, 2), (0x14A, 0x178, 2), (0x179, 0x17D, 2), (0x181, 0x182, 1),
   (0x184, 0x186, 2), (0x187, 0x189, 2), (0x18A, 0x18B, 1), (0x18E, 0x191, 1), (0x193, 0x194, 1),
   (0x196, 0x198, 1), (0x19C, 0x19D, 1), (0x19F, 0x1A0, 1), (0x1A2, 0x1A6, 2), (0x1A7, 0x1A9, 2),
   (0x1AC, 0x1AE, 2), (0x1AF, 0x1B1, 2), (0x1B2, 0x1B3, 1), (0x1B5, 0x1B7, 2), (0x1B8, 0x1B8, 1),
   (0x1BC, 0x1BC, 1), (0x1CD, 0x1DB, 2), (0x1DE, 0x1EE, 2), (0x1F4, 0x1F6, 2), (0x1F7, 0x1F8, 1),
   (0x1FA, 0x232, 2), (0x23A, 0x23B, 1), (0x23D, 0x23E, 1), (0x241, 0x243, 2), (0x244, 0x246, 1),
   (0x248, 0x24E, 2), (0x2B1, 0x2B1, 1), (0x2B4, 0x2B6, 1), (0x2E0, 0x2E0, 1), (0x2E4, 0x2E4, 1),
   (0x345, 0x345, 1), (0x370, 0x376, 2), (0x37F, 0x37F, 1), (0x386, 0x38A, 1), (0x38C, 0x38E, 2),
   (0x38F, 0x391, 2), (0x392, 0x3A1, 1), (0x3A3, 0x3AB, 1), (0x3CF, 0x3D6, 1), (0x3D8, 0x3F0, 2),
   (0x3F1, 0x3F2, 1), (0x3F4, 0x3F5, 1), (0x3F7, 0x3F9, 2), (0x3FA, 0x3FA, 1), (0x3FD, 0x42F, 1),
   (0x460, 0x480, 2), (0x48A, 0x4C0, 2), (0x4C1, 0x4CD, 2), (0x4D0, 0x52E, 2), (0x531, 0x556, 1),
   (0x587, 0x587, 1), (0x675, 0x678, 1), (0xEDC, 0xEDD, 1), (0xF0C, 0xF0C, 1), (0xF43, 0xF43, 1),
   (0xF4D, 0xF4D, 1), (0xF52, 0xF52, 1), (0xF57, 0xF57, 1), (0xF5C, 0xF5C, 1), (0xF69, 0xF69, 1),
   (0xF93, 0xF93, 1), (0xF9D, 0xF9D, 1), (0xFA2, 0xFA2, 1), (0xFA7, 0xFA7, 1), (0xFAC, 0xFAC, 1),
   (0xFB9, 0xFB9, 1), (0x10A0, 0x10C5, 1), (0x10C7, 0x10C7, 1), (0x10CD, 0x10CD, 1),
   (0x10FC, 0x10FC, 1), (0x13F8, 0x13FD, 1), (0x1C80, 0x1C89, 1), (0x1C90, 0x1CBA, 1),
   (0x1CBD, 0x1CBF, 1), (0x1D2D, 0x1D2D, 1), (0x1D32, 0x1D32, 1), (0x1D3D, 0x1D3D, 1),
   (0x1D44, 0x1D46, 1), (0x1D4A, 0x1D4C, 1), (0x1D51, 0x1D53, 2), (0x1D54, 0x1D55, 1),
   (0x1D59, 0x1D5A, 1), (0x1D5C, 0x1D61, 1), (0x1D66, 0x1D6A, 1), (0x1D78, 0x1D78, 1),
   (0x1D9B, 0x1D9D, 2), (0x1D9E, 0x1D9F, 1), (0x1DA1, 0x1DBA, 1), (0x1DBC, 0x1DBF, 1),
   (0x1E00, 0x1E94, 2), (0x1E9B, 0x1E9B, 1), (0x1E9E, 0x1EFE, 2), (0x1F08, 0x1F0F, 1),
   (0x1F18, 0x1F1D, 1), (0x1F28, 0x1F2F, 1), (0x1F38, 0x1F3F, 1), (0x1F48, 0x1F4D, 1),
   (0x1F59, 0x1F5F, 2), (0x1F68, 0x1F6F, 1), (0x1F71, 0x1F7D, 2), (0x1F80, 0x1FAF, 1),
   (0x1FB2, 0x1FB4, 1), (0x1FB7, 0x1FBC, 1), (0x1FBE, 0x1FBE, 1), (0x1FC2, 0x1FC4, 1),
   (0x1FC7, 0x1FCC, 1), (0x1FD3, 0x1FD3, 1), (0x1FD8, 0x1FDB, 1), (0x1FE3, 0x1FE3, 1),
   (0x1FE8, 0x1FEC, 1), (0x1FF2, 0x1FF4, 1), (0x1FF7, 0x1FFC, 1), (0x2011, 0x2011, 1),
   (0x2033, 0x2034, 1), (0x2036, 0x2037, 1), (0x2057, 0x2057, 1), (0x207B, 0x207B, 1),
   (0x208B, 0x208B, 1), (0x2094, 0x2094, 1), (0x2107, 0x2107, 1), (0x210F, 0x210F, 1),
   (0x2126, 0x2126, 1), (0x212B, 0x212B, 1), (0x2132, 0x2132, 1), (0x2135, 0x2138, 1),
   (0x213C, 0x2140, 1), (0x2183, 0x2183, 1), (0x222C, 0x222D, 1), (0x222F, 0x2230, 1),
   (0x2329, 0x232A, 1), (0x2A0C, 0x2A0C, 1), (0x2C00, 0x2C2F, 1), (0x2C60, 0x2C62, 2),
   (0x2C63, 0x2C64, 1), (0x2C67, 0x2C6D, 2), (0x2C6E, 0x2C70, 1), (0x2C72, 0x2C72, 1),
   (0x2C75, 0x2C75, 1), (0x2C7E, 0x2C80, 1), (0x2C82, 0x2CE2, 2), (0x2CEB, 0x2CED, 2),
   (0x2CF2, 0x2CF2, 1), (0x2D6F, 0x2D6F, 1), (0x2E9F, 0x2E9F, 1), (0x2EF3, 0x2EF3, 1),
   (0x2F00, 0x2FD5, 1), (0x3036, 0x3038, 2), (0x3039, 0x303A, 1), (0x309F, 0x309F, 1),
   (0x30FF, 0x30FF, 1), (0x3131, 0x3163, 1), (0x3165, 0x318E, 1), (0x3192, 0x319F, 1),
   (0x3244, 0x3247, 1), (0x3260, 0x327E, 1), (0x3280, 0x32B0, 1), (0x32D0, 0x3357, 1),
   (0x337B, 0x337F, 1), (0xA640, 0xA66C, 2), (0xA680, 0xA69C, 2), (0xA69D, 0xA69D, 1),
   (0xA722, 0xA72E, 2), (0xA732, 0xA770, 2), (0xA779, 0xA77D, 2), (0xA77E, 0xA786, 2),
   (0xA78B, 0xA78D, 2), (0xA790, 0xA792, 2), (0xA796, 0xA7AA, 2), (0xA7AB, 0xA7AE, 1),
   (0xA7B0, 0xA7B4, 1), (0xA7B6, 0xA7C4, 2), (0xA7C5, 0xA7C7, 1), (0xA7C9, 0xA7CB, 2),
   (0xA7CC, 0xA7DC, 2), (0xA7F5, 0xA7F5, 1), (0xA7F8, 0xA7F9, 1), (0xAB5C, 0xAB5F, 1),
   (0xAB69, 0xAB69, 1), (0xAB70, 0xABBF, 1), (0xF900, 0xFA0D, 1), (0xFA10, 0xFA12, 2),
   (0xFA15, 0xFA1E, 1), (0xFA20, 0xFA22, 2), (0xFA25, 0xFA26, 1), (0xFA2A, 0xFA6D, 1),
   (0xFA70, 0xFAD9, 1), (0xFB13, 0xFB17, 1), (0xFB20, 0xFB28, 1), (0xFB4F, 0xFBB1, 1),
   (0xFBD3, 0xFC5A, 1), (0xFC64, 0xFC8F, 1), (0xFC91, 0xFCD8, 1), (0xFCDA, 0xFCF1, 1),
   (0xFCF5, 0xFD3B, 1), (0xFD50, 0xFD8F, 1), (0xFD92, 0xFDC7, 1), (0xFDF0, 0xFDF9, 1),
   (0xFDFC, 0xFDFC, 1), (0xFE11, 0xFE11, 1), (0xFE17, 0xFE18, 1), (0xFE31, 0xFE32, 1),
   (0xFE39, 0xFE44, 1), (0xFE51, 0xFE51, 1), (0xFE58, 0xFE58, 1), (0xFE5D, 0xFE5E, 1),
   (0xFE80, 0xFEFC, 1), (0xFF5F, 0xFF60, 1), (0xFF62, 0xFF9D, 1), (0xFFA1, 0xFFBE, 1),
   (0xFFC2, 0xFFC7, 1), (0xFFCA, 0xFFCF, 1), (0xFFD2, 0xFFD7, 1), (0xFFDA, 0xFFDC, 1),
   (0xFFE0, 0xFFE2, 1), (0xFFE4, 0xFFE6, 1), (0xFFE8, 0xFFEE, 1), (0x10400, 0x10427, 1),
   (0x104B0, 0x104D3, 1), (0x10570, 0x1057A, 1), (0x1057C, 0x1058A, 1), (0x1058C, 0x10592, 1),
   (0x10594, 0x10595, 1), (0x10781, 0x10785, 1), (0x10787, 0x107A4, 1), (0x107A6, 0x107B0, 1),
   (0x107B2, 0x107BA, 1), (0x10C80, 0x10CB2, 1), (0x10D50, 0x10D65, 1), (0x118A0, 0x118BF, 1),
   (0x16E40, 0x16E5F, 1), (0x16EA0, 0x16EB8, 1), (0x1D6A4, 0x1D6A5, 1), (0x1D6A8, 0x1D7CB, 1),
   (0x1E030, 0x1E06D, 1), (0x1E900, 0x1E921, 1), (0x1EE00, 0x1EE03, 1), (0x1EE05, 0x1EE1F, 1),
   (0x1EE21, 0x1EE22, 1), (0x1EE24, 0x1EE24, 1), (0x1EE27, 0x1EE29, 2), (0x1EE2A, 0x1EE32, 1),
   (0x1EE34, 0x1EE37, 1), (0x1EE39, 0x1EE3B, 2), (0x1EE42, 0x1EE42, 1), (0x1EE47, 0x1EE4D, 2),
   (0x1EE4E, 0x1EE4F, 1), (0x1EE51, 0x1EE52, 1), (0x1EE54, 0x1EE54, 1), (0x1EE57, 0x1EE61, 2),
   (0x1EE62, 0x1EE64, 2), (0x1EE67, 0x1EE6A, 1), (0x1EE6C, 0x1EE72, 1), (0x1EE74, 0x1EE77, 1),
   (0x1EE79, 0x1EE7C, 1), (0x1EE7E, 0x1EE80, 2), (0x1EE81, 0x1EE89, 1), (0x1EE8B, 0x1EE9B, 1),
   (0x1EEA1, 0x1EEA3, 1), (0x1EEA5, 0x1EEA9, 1), (0x1EEAB, 0x1EEBB, 1), (0x1F200, 0x1F202, 1),
   (0x1F210, 0x1F23B, 1), (0x1F250, 0x1F251, 1), (0x2F800, 0x2FA1D, 1)]

/-- The ranges of characters that are not written from left to right. -/
def directionRanges : List (Nat × Nat × Direction) :=
  [(0x0, 0x8, .neutral), (0x9, 0xD, .other), (0xE, 0x1B, .neutral), (0x1C, 0x20, .other),
   (0x21, 0x2F, .neutral), (0x30, 0x39, .european), (0x3A, 0x60, .neutral),
   (0x7B, 0xB1, .neutral), (0xB6, 0xBF, .neutral), (0xD7, 0xD7, .neutral), (0xF7, 0xF7, .neutral),
   (0x2B9, 0x2BA, .neutral), (0x2C2, 0x2CF, .neutral), (0x2D2, 0x2DF, .neutral),
   (0x2E5, 0x2ED, .neutral), (0x2EF, 0x2FF, .neutral), (0x300, 0x344, .mark),
   (0x346, 0x36F, .mark), (0x374, 0x375, .neutral), (0x387, 0x387, .neutral),
   (0x3F6, 0x3F6, .neutral), (0x483, 0x489, .mark), (0x58A, 0x58F, .neutral),
   (0x591, 0x5BD, .mark), (0x5BE, 0x5BE, .right), (0x5BF, 0x5BF, .mark), (0x5C0, 0x5C0, .right),
   (0x5C1, 0x5C2, .mark), (0x5C3, 0x5C3, .right), (0x5C4, 0x5C5, .mark), (0x5C6, 0x5C6, .right),
   (0x5C7, 0x5C7, .mark), (0x5D0, 0x5F4, .right), (0x606, 0x607, .neutral),
   (0x608, 0x608, .right), (0x609, 0x60A, .neutral), (0x60B, 0x60B, .right),
   (0x60C, 0x60C, .neutral), (0x60D, 0x60D, .right), (0x60E, 0x60F, .neutral),
   (0x610, 0x61A, .mark), (0x61B, 0x64A, .right), (0x64B, 0x65F, .mark), (0x660, 0x669, .arabic),
   (0x66A, 0x66A, .neutral), (0x66B, 0x66C, .arabic), (0x66D, 0x66F, .right),
   (0x670, 0x670, .mark), (0x671, 0x6D5, .right), (0x6D6, 0x6DC, .mark), (0x6DE, 0x6DE, .neutral),
   (0x6DF, 0x6E4, .mark), (0x6E5, 0x6E6, .right), (0x6E7, 0x6E8, .mark), (0x6E9, 0x6E9, .neutral),
   (0x6EA, 0x6ED, .mark), (0x6EE, 0x6EF, .right), (0x6F0, 0x6F9, .european),
   (0x6FA, 0x710, .right), (0x711, 0x711, .mark), (0x712, 0x72F, .right), (0x730, 0x74A, .mark),
   (0x74D, 0x7A5, .right), (0x7A6, 0x7B0, .mark), (0x7B1, 0x7EA, .right), (0x7EB, 0x7F3, .mark),
   (0x7F4, 0x7F5, .right), (0x7F6, 0x7F9, .neutral), (0x7FA, 0x7FA, .right),
   (0x7FD, 0x7FD, .mark), (0x7FE, 0x815, .right), (0x816, 0x819, .mark), (0x81A, 0x81A, .right),
   (0x81B, 0x823, .mark), (0x824, 0x824, .right), (0x825, 0x827, .mark), (0x828, 0x828, .right),
   (0x829, 0x82D, .mark), (0x830, 0x858, .right), (0x859, 0x85B, .mark), (0x85E, 0x88F, .right),
   (0x897, 0x89F, .mark), (0x8A0, 0x8C9, .right), (0x8CA, 0x902, .mark), (0x93A, 0x93A, .mark),
   (0x93C, 0x93C, .mark), (0x941, 0x948, .mark), (0x94D, 0x94D, .mark), (0x951, 0x957, .mark),
   (0x962, 0x963, .mark), (0x981, 0x981, .mark), (0x9BC, 0x9BC, .mark), (0x9C1, 0x9C4, .mark),
   (0x9CD, 0x9CD, .mark), (0x9E2, 0x9E3, .mark), (0x9F2, 0x9F3, .neutral),
   (0x9FB, 0x9FB, .neutral), (0x9FE, 0xA02, .mark), (0xA3C, 0xA3C, .mark), (0xA41, 0xA51, .mark),
   (0xA70, 0xA71, .mark), (0xA75, 0xA75, .mark), (0xA81, 0xA82, .mark), (0xABC, 0xABC, .mark),
   (0xAC1, 0xAC8, .mark), (0xACD, 0xACD, .mark), (0xAE2, 0xAE3, .mark), (0xAF1, 0xAF1, .neutral),
   (0xAFA, 0xB01, .mark), (0xB3C, 0xB3C, .mark), (0xB3F, 0xB3F, .mark), (0xB41, 0xB44, .mark),
   (0xB4D, 0xB56, .mark), (0xB62, 0xB63, .mark), (0xB82, 0xB82, .mark), (0xBC0, 0xBC0, .mark),
   (0xBCD, 0xBCD, .mark), (0xBF3, 0xBFA, .neutral), (0xC00, 0xC00, .mark), (0xC04, 0xC04, .mark),
   (0xC3C, 0xC3C, .mark), (0xC3E, 0xC40, .mark), (0xC46, 0xC56, .mark), (0xC62, 0xC63, .mark),
   (0xC78, 0xC7E, .neutral), (0xC81, 0xC81, .mark), (0xCBC, 0xCBC, .mark), (0xCCC, 0xCCD, .mark),
   (0xCE2, 0xCE3, .mark), (0xD00, 0xD01, .mark), (0xD3B, 0xD3C, .mark), (0xD41, 0xD44, .mark),
   (0xD4D, 0xD4D, .mark), (0xD62, 0xD63, .mark), (0xD81, 0xD81, .mark), (0xDCA, 0xDCA, .mark),
   (0xDD2, 0xDD6, .mark), (0xE31, 0xE31, .mark), (0xE33, 0xE3A, .mark), (0xE3F, 0xE3F, .neutral),
   (0xE47, 0xE4E, .mark), (0xEB1, 0xEB1, .mark), (0xEB3, 0xEBC, .mark), (0xEC8, 0xECE, .mark),
   (0xF18, 0xF19, .mark), (0xF35, 0xF35, .mark), (0xF37, 0xF37, .mark), (0xF39, 0xF39, .mark),
   (0xF3A, 0xF3D, .neutral), (0xF71, 0xF7E, .mark), (0xF80, 0xF84, .mark), (0xF86, 0xF87, .mark),
   (0xF8D, 0xFBC, .mark), (0xFC6, 0xFC6, .mark), (0x102D, 0x1030, .mark), (0x1032, 0x1037, .mark),
   (0x1039, 0x103A, .mark), (0x103D, 0x103E, .mark), (0x1058, 0x1059, .mark),
   (0x105E, 0x1060, .mark), (0x1071, 0x1074, .mark), (0x1082, 0x1082, .mark),
   (0x1085, 0x1086, .mark), (0x108D, 0x108D, .mark), (0x109D, 0x109D, .mark),
   (0x135D, 0x135F, .mark), (0x1390, 0x1399, .neutral), (0x1400, 0x1400, .neutral),
   (0x169B, 0x169C, .neutral), (0x1712, 0x1714, .mark), (0x1732, 0x1733, .mark),
   (0x1752, 0x1753, .mark), (0x1772, 0x1773, .mark), (0x17B7, 0x17BD, .mark),
   (0x17C6, 0x17C6, .mark), (0x17C9, 0x17D3, .mark), (0x17DB, 0x17DB, .neutral),
   (0x17DD, 0x17DD, .mark), (0x17F0, 0x180A, .neutral), (0x1885, 0x1886, .mark),
   (0x18A9, 0x18A9, .mark), (0x1920, 0x1922, .mark), (0x1927, 0x1928, .mark),
   (0x1932, 0x1932, .mark), (0x1939, 0x193B, .mark), (0x1940, 0x1945, .neutral),
   (0x19DE, 0x19FF, .neutral), (0x1A17, 0x1A18, .mark), (0x1A1B, 0x1A1B, .mark),
   (0x1A56, 0x1A56, .mark), (0x1A58, 0x1A60, .mark), (0x1A62, 0x1A62, .mark),
   (0x1A65, 0x1A6C, .mark), (0x1A73, 0x1A7F, .mark), (0x1AB0, 0x1B03, .mark),
   (0x1B34, 0x1B34, .mark), (0x1B36, 0x1B3A, .mark), (0x1B3C, 0x1B3C, .mark),
   (0x1B42, 0x1B42, .mark), (0x1B6B, 0x1B73, .mark), (0x1B80, 0x1B81, .mark),
   (0x1BA2, 0x1BA5, .mark), (0x1BA8, 0x1BA9, .mark), (0x1BAB, 0x1BAD, .mark),
   (0x1BE6, 0x1BE6, .mark), (0x1BE8, 0x1BE9, .mark), (0x1BED, 0x1BED, .mark),
   (0x1BEF, 0x1BF1, .mark), (0x1C2C, 0x1C33, .mark), (0x1C36, 0x1C37, .mark),
   (0x1CD0, 0x1CD2, .mark), (0x1CD4, 0x1CE0, .mark), (0x1CE2, 0x1CE8, .mark),
   (0x1CED, 0x1CED, .mark), (0x1CF4, 0x1CF4, .mark), (0x1CF8, 0x1CF9, .mark),
   (0x1DC0, 0x1DFF, .mark), (0x200C, 0x208B, .neutral), (0x20A0, 0x20C0, .neutral),
   (0x20D0, 0x20F0, .mark), (0x2104, 0x2104, .neutral), (0x2108, 0x2108, .neutral),
   (0x2114, 0x2125, .neutral), (0x2127, 0x2129, .neutral), (0x212E, 0x212E, .neutral),
   (0x2135, 0x2138, .right), (0x213A, 0x213A, .neutral), (0x2140, 0x214D, .neutral),
   (0x218A, 0x2335, .neutral), (0x237B, 0x2394, .neutral), (0x2396, 0x2426, .neutral),
   (0x2440, 0x26AB, .neutral), (0x26AD, 0x27FF, .neutral), (0x2900, 0x2B95, .neutral),
   (0x2B97, 0x2BFF, .neutral), (0x2CE5, 0x2CEA, .neutral), (0x2CEF, 0x2CF1, .mark),
   (0x2CF9, 0x2CFF, .neutral), (0x2D7F, 0x2D7F, .mark), (0x2DE0, 0x2DFF, .mark),
   (0x2E00, 0x2E9E, .neutral), (0x2EA0, 0x2EF2, .neutral), (0x3001, 0x3004, .neutral),
   (0x3008, 0x3020, .neutral), (0x302A, 0x302D, .mark), (0x3030, 0x3030, .neutral),
   (0x3036, 0x3037, .neutral), (0x303D, 0x303F, .neutral), (0x3099, 0x309A, .mark),
   (0x30A0, 0x30A0, .neutral), (0x30FB, 0x30FB, .neutral), (0x31C0, 0x31E3, .neutral),
   (0x4DC0, 0x4DFF, .neutral), (0xA490, 0xA4C6, .neutral), (0xA60D, 0xA60F, .neutral),
   (0xA66F, 0xA672, .mark), (0xA673, 0xA673, .neutral), (0xA674, 0xA67D, .mark),
   (0xA67E, 0xA67F, .neutral), (0xA69E, 0xA69F, .mark), (0xA6F0, 0xA6F1, .mark),
   (0xA700, 0xA721, .neutral), (0xA788, 0xA788, .neutral), (0xA802, 0xA802, .mark),
   (0xA806, 0xA806, .mark), (0xA80B, 0xA80B, .mark), (0xA825, 0xA826, .mark),
   (0xA828, 0xA82B, .neutral), (0xA82C, 0xA82C, .mark), (0xA838, 0xA839, .neutral),
   (0xA874, 0xA877, .neutral), (0xA8C4, 0xA8C5, .mark), (0xA8E0, 0xA8F1, .mark),
   (0xA8FF, 0xA8FF, .mark), (0xA926, 0xA92D, .mark), (0xA947, 0xA951, .mark),
   (0xA980, 0xA982, .mark), (0xA9B3, 0xA9B3, .mark), (0xA9B6, 0xA9B9, .mark),
   (0xA9BC, 0xA9BD, .mark), (0xA9E5, 0xA9E5, .mark), (0xAA29, 0xAA2E, .mark),
   (0xAA31, 0xAA32, .mark), (0xAA35, 0xAA36, .mark), (0xAA43, 0xAA43, .mark),
   (0xAA4C, 0xAA4C, .mark), (0xAA7C, 0xAA7C, .mark), (0xAAB0, 0xAAB0, .mark),
   (0xAAB2, 0xAAB4, .mark), (0xAAB7, 0xAAB8, .mark), (0xAABE, 0xAABF, .mark),
   (0xAAC1, 0xAAC1, .mark), (0xAAEC, 0xAAED, .mark), (0xAAF6, 0xAAF6, .mark),
   (0xAB6A, 0xAB6B, .neutral), (0xABE5, 0xABE5, .mark), (0xABE8, 0xABE8, .mark),
   (0xABED, 0xABED, .mark), (0xFB1D, 0xFB1D, .right), (0xFB1E, 0xFB1E, .mark),
   (0xFB1F, 0xFD3D, .right), (0xFD3E, 0xFD4F, .neutral), (0xFD50, 0xFDCE, .right),
   (0xFDCF, 0xFDCF, .neutral), (0xFDF0, 0xFDFC, .right), (0xFDFD, 0xFE18, .neutral),
   (0xFE20, 0xFE2F, .mark), (0xFE31, 0xFE5E, .neutral), (0xFE71, 0xFEFC, .right),
   (0xFF5F, 0xFF65, .neutral), (0xFF9E, 0xFF9F, .mark), (0xFFE0, 0xFFEE, .neutral),
   (0x10101, 0x10101, .neutral), (0x10140, 0x1018C, .neutral), (0x10190, 0x101A0, .neutral),
   (0x101FD, 0x101FD, .mark), (0x102E0, 0x102E0, .mark), (0x102E1, 0x102FB, .european),
   (0x10376, 0x1037A, .mark), (0x10800, 0x1091B, .right), (0x1091F, 0x1091F, .neutral),
   (0x10920, 0x10A00, .right), (0x10A01, 0x10A0F, .mark), (0x10A10, 0x10A35, .right),
   (0x10A38, 0x10A3F, .mark), (0x10A40, 0x10AE4, .right), (0x10AE5, 0x10AE6, .mark),
   (0x10AEB, 0x10B35, .right), (0x10B39, 0x10B3F, .neutral), (0x10B40, 0x10D23, .right),
   (0x10D24, 0x10D27, .mark), (0x10D30, 0x10D39, .arabic), (0x10D40, 0x10D65, .right),
   (0x10D69, 0x10D6D, .mark), (0x10D6E, 0x10D8F, .right), (0x10E60, 0x10E7E, .arabic),
   (0x10E80, 0x10EA9, .right), (0x10EAB, 0x10EAC, .mark), (0x10EAD, 0x10ED8, .right),
   (0x10EFA, 0x10EFF, .mark), (0x10F00, 0x10F45, .right), (0x10F46, 0x10F50, .mark),
   (0x10F51, 0x10F81, .right), (0x10F82, 0x10F85, .mark), (0x10F86, 0x10FF6, .right),
   (0x11001, 0x11001, .mark), (0x11038, 0x11046, .mark), (0x11052, 0x11065, .neutral),
   (0x11070, 0x11070, .mark), (0x11073, 0x11074, .mark), (0x1107F, 0x11081, .mark),
   (0x110B3, 0x110B6, .mark), (0x110B9, 0x110BA, .mark), (0x110C2, 0x110C2, .mark),
   (0x11100, 0x11102, .mark), (0x11127, 0x1112B, .mark), (0x1112D, 0x11134, .mark),
   (0x11173, 0x11173, .mark), (0x11180, 0x11181, .mark), (0x111B6, 0x111BE, .mark),
   (0x111C9, 0x111CC, .mark), (0x111CF, 0x111CF, .mark), (0x1122F, 0x11231, .mark),
   (0x11234, 0x11234, .mark), (0x11236, 0x11237, .mark), (0x1123E, 0x1123E, .mark),
   (0x11241, 0x11241, .mark), (0x112DF, 0x112DF, .mark), (0x112E3, 0x112EA, .mark),
   (0x11300, 0x11301, .mark), (0x1133B, 0x1133C, .mark), (0x11340, 0x11340, .mark),
   (0x11366, 0x11374, .mark), (0x113BB, 0x113C0, .mark), (0x113CE, 0x113CE, .mark),
   (0x113D0, 0x113D0, .mark), (0x113D2, 0x113D2, .mark), (0x113E1, 0x113E2, .mark),
   (0x11438, 0x1143F, .mark), (0x11442, 0x11444, .mark), (0x11446, 0x11446, .mark),
   (0x1145E, 0x1145E, .mark), (0x114B3, 0x114B8, .mark), (0x114BA, 0x114BA, .mark),
   (0x114BF, 0x114C0, .mark), (0x114C2, 0x114C3, .mark), (0x115B2, 0x115B5, .mark),
   (0x115BC, 0x115BD, .mark), (0x115BF, 0x115C0, .mark), (0x115DC, 0x115DD, .mark),
   (0x11633, 0x1163A, .mark), (0x1163D, 0x1163D, .mark), (0x1163F, 0x11640, .mark),
   (0x11660, 0x1166C, .neutral), (0x116AB, 0x116AB, .mark), (0x116AD, 0x116AD, .mark),
   (0x116B0, 0x116B5, .mark), (0x116B7, 0x116B7, .mark), (0x1171D, 0x1171F, .mark),
   (0x11722, 0x11725, .mark), (0x11727, 0x1172B, .mark), (0x1182F, 0x11837, .mark),
   (0x11839, 0x1183A, .mark), (0x1193B, 0x1193C, .mark), (0x1193E, 0x1193E, .mark),
   (0x11943, 0x11943, .mark), (0x119D4, 0x119DB, .mark), (0x119E0, 0x119E0, .mark),
   (0x11A01, 0x11A06, .mark), (0x11A09, 0x11A0A, .mark), (0x11A33, 0x11A38, .mark),
   (0x11A3B, 0x11A3E, .mark), (0x11A47, 0x11A47, .mark), (0x11A51, 0x11A56, .mark),
   (0x11A59, 0x11A5B, .mark), (0x11A8A, 0x11A96, .mark), (0x11A98, 0x11A99, .mark),
   (0x11B60, 0x11B60, .mark), (0x11B62, 0x11B64, .mark), (0x11B66, 0x11B66, .mark),
   (0x11C30, 0x11C3D, .mark), (0x11C92, 0x11CA7, .mark), (0x11CAA, 0x11CB0, .mark),
   (0x11CB2, 0x11CB3, .mark), (0x11CB5, 0x11CB6, .mark), (0x11D31, 0x11D45, .mark),
   (0x11D47, 0x11D47, .mark), (0x11D90, 0x11D91, .mark), (0x11D95, 0x11D95, .mark),
   (0x11D97, 0x11D97, .mark), (0x11EF3, 0x11EF4, .mark), (0x11F00, 0x11F01, .mark),
   (0x11F36, 0x11F3A, .mark), (0x11F40, 0x11F40, .mark), (0x11F42, 0x11F42, .mark),
   (0x11FD5, 0x11FF1, .neutral), (0x13440, 0x13440, .mark), (0x13447, 0x13455, .mark),
   (0x1611E, 0x16129, .mark), (0x1612D, 0x1612F, .mark), (0x16AF0, 0x16AF4, .mark),
   (0x16B30, 0x16B36, .mark), (0x16F4F, 0x16F4F, .mark), (0x16F8F, 0x16F92, .mark),
   (0x16FE2, 0x16FE2, .neutral), (0x16FE4, 0x16FE4, .mark), (0x1BC9D, 0x1BC9E, .mark),
   (0x1CF00, 0x1CF46, .mark), (0x1D167, 0x1D169, .mark), (0x1D17B, 0x1D182, .mark),
   (0x1D185, 0x1D18B, .mark), (0x1D1AA, 0x1D1AD, .mark), (0x1D1E9, 0x1D241, .neutral),
   (0x1D242, 0x1D244, .mark), (0x1D245, 0x1D245, .neutral), (0x1D300, 0x1D356, .neutral),
   (0x1D6C1, 0x1D6C1, .neutral), (0x1D6DB, 0x1D6DB, .neutral), (0x1D6FB, 0x1D6FB, .neutral),
   (0x1D715, 0x1D715, .neutral), (0x1D735, 0x1D735, .neutral), (0x1D74F, 0x1D74F, .neutral),
   (0x1D76F, 0x1D76F, .neutral), (0x1D789, 0x1D789, .neutral), (0x1D7A9, 0x1D7A9, .neutral),
   (0x1D7C3, 0x1D7C3, .neutral), (0x1DA00, 0x1DA36, .mark), (0x1DA3B, 0x1DA6C, .mark),
   (0x1DA75, 0x1DA75, .mark), (0x1DA84, 0x1DA84, .mark), (0x1DA9B, 0x1DAAF, .mark),
   (0x1E000, 0x1E02A, .mark), (0x1E08F, 0x1E08F, .mark), (0x1E130, 0x1E136, .mark),
   (0x1E2AE, 0x1E2AE, .mark), (0x1E2EC, 0x1E2EF, .mark), (0x1E2FF, 0x1E2FF, .neutral),
   (0x1E4EC, 0x1E4EF, .mark), (0x1E5EE, 0x1E5EF, .mark), (0x1E6E3, 0x1E6E3, .mark),
   (0x1E6E6, 0x1E6E6, .mark), (0x1E6EE, 0x1E6EF, .mark), (0x1E6F5, 0x1E6F5, .mark),
   (0x1E800, 0x1E8CF, .right), (0x1E8D0, 0x1E8D6, .mark), (0x1E900, 0x1E943, .right),
   (0x1E944, 0x1E94A, .mark), (0x1E94B, 0x1EEBB, .right), (0x1EEF0, 0x1F12F, .neutral),
   (0x1F16D, 0x1F16F, .neutral), (0x1F1AD, 0x1F1AD, .neutral), (0x1F240, 0x1F248, .neutral),
   (0x1F260, 0x1F6D7, .neutral), (0x1F6DD, 0x1F773, .neutral), (0x1F780, 0x1F7D8, .neutral),
   (0x1F7E0, 0x1F8B1, .neutral), (0x1F900, 0x1FA53, .neutral), (0x1FA60, 0x1FA74, .neutral),
   (0x1FA78, 0x1FA86, .neutral), (0x1FA90, 0x1FAAC, .neutral), (0x1FAB0, 0x1FABA, .neutral),
   (0x1FAC0, 0x1FAC5, .neutral), (0x1FAD0, 0x1FAD9, .neutral), (0x1FAE0, 0x1FAE7, .neutral),
   (0x1FAF0, 0x1FAF6, .neutral), (0x1FB00, 0x1FBCA, .neutral)]

/-- The ranges of marks, which cannot be first in a part of a name. -/
def markRanges : List (Nat × Nat) :=
  [(0x300, 0x344), (0x346, 0x36F), (0x483, 0x489), (0x591, 0x5BD), (0x5BF, 0x5BF), (0x5C1, 0x5C2),
   (0x5C4, 0x5C5), (0x5C7, 0x5C7), (0x610, 0x61A), (0x64B, 0x65F), (0x670, 0x670), (0x6D6, 0x6DC),
   (0x6DF, 0x6E4), (0x6E7, 0x6E8), (0x6EA, 0x6ED), (0x711, 0x711), (0x730, 0x74A), (0x7A6, 0x7B0),
   (0x7EB, 0x7F3), (0x7FD, 0x7FD), (0x816, 0x819), (0x81B, 0x823), (0x825, 0x827), (0x829, 0x82D),
   (0x859, 0x85B), (0x897, 0x89F), (0x8CA, 0x903), (0x93A, 0x93C), (0x93E, 0x94F), (0x951, 0x957),
   (0x962, 0x963), (0x981, 0x983), (0x9BC, 0x9BC), (0x9BE, 0x9CD), (0x9D7, 0x9D7), (0x9E2, 0x9E3),
   (0x9FE, 0xA03), (0xA3C, 0xA51), (0xA70, 0xA71), (0xA75, 0xA75), (0xA81, 0xA83), (0xABC, 0xABC),
   (0xABE, 0xACD), (0xAE2, 0xAE3), (0xAFA, 0xB03), (0xB3C, 0xB3C), (0xB3E, 0xB57), (0xB62, 0xB63),
   (0xB82, 0xB82), (0xBBE, 0xBCD), (0xBD7, 0xBD7), (0xC00, 0xC04), (0xC3C, 0xC3C), (0xC3E, 0xC56),
   (0xC62, 0xC63), (0xC81, 0xC83), (0xCBC, 0xCBC), (0xCBE, 0xCD6), (0xCE2, 0xCE3), (0xCF3, 0xD03),
   (0xD3B, 0xD3C), (0xD3E, 0xD4D), (0xD57, 0xD57), (0xD62, 0xD63), (0xD81, 0xD83), (0xDCA, 0xDDF),
   (0xDF2, 0xDF3), (0xE31, 0xE31), (0xE33, 0xE3A), (0xE47, 0xE4E), (0xEB1, 0xEB1), (0xEB3, 0xEBC),
   (0xEC8, 0xECE), (0xF18, 0xF19), (0xF35, 0xF35), (0xF37, 0xF37), (0xF39, 0xF39), (0xF3E, 0xF3F),
   (0xF71, 0xF84), (0xF86, 0xF87), (0xF8D, 0xFBC), (0xFC6, 0xFC6), (0x102B, 0x103E),
   (0x1056, 0x1059), (0x105E, 0x1060), (0x1062, 0x1064), (0x1067, 0x106D), (0x1071, 0x1074),
   (0x1082, 0x108D), (0x108F, 0x108F), (0x109A, 0x109D), (0x135D, 0x135F), (0x1712, 0x1715),
   (0x1732, 0x1734), (0x1752, 0x1753), (0x1772, 0x1773), (0x17B6, 0x17D3), (0x17DD, 0x17DD),
   (0x1885, 0x1886), (0x18A9, 0x18A9), (0x1920, 0x193B), (0x1A17, 0x1A1B), (0x1A55, 0x1A7F),
   (0x1AB0, 0x1B04), (0x1B34, 0x1B44), (0x1B6B, 0x1B73), (0x1B80, 0x1B82), (0x1BA1, 0x1BAD),
   (0x1BE6, 0x1BF3), (0x1C24, 0x1C37), (0x1CD0, 0x1CD2), (0x1CD4, 0x1CE8), (0x1CED, 0x1CED),
   (0x1CF4, 0x1CF4), (0x1CF7, 0x1CF9), (0x1DC0, 0x1DFF), (0x20D0, 0x20F0), (0x2CEF, 0x2CF1),
   (0x2D7F, 0x2D7F), (0x2DE0, 0x2DFF), (0x302A, 0x302F), (0x3099, 0x309A), (0xA66F, 0xA672),
   (0xA674, 0xA67D), (0xA69E, 0xA69F), (0xA6F0, 0xA6F1), (0xA802, 0xA802), (0xA806, 0xA806),
   (0xA80B, 0xA80B), (0xA823, 0xA827), (0xA82C, 0xA82C), (0xA880, 0xA881), (0xA8B4, 0xA8C5),
   (0xA8E0, 0xA8F1), (0xA8FF, 0xA8FF), (0xA926, 0xA92D), (0xA947, 0xA953), (0xA980, 0xA983),
   (0xA9B3, 0xA9C0), (0xA9E5, 0xA9E5), (0xAA29, 0xAA36), (0xAA43, 0xAA43), (0xAA4C, 0xAA4D),
   (0xAA7B, 0xAA7D), (0xAAB0, 0xAAB0), (0xAAB2, 0xAAB4), (0xAAB7, 0xAAB8), (0xAABE, 0xAABF),
   (0xAAC1, 0xAAC1), (0xAAEB, 0xAAEF), (0xAAF5, 0xAAF6), (0xABE3, 0xABEA), (0xABEC, 0xABED),
   (0xFB1E, 0xFB1E), (0xFE20, 0xFE2F), (0xFF9E, 0xFF9F), (0x101FD, 0x101FD), (0x102E0, 0x102E0),
   (0x10376, 0x1037A), (0x10A01, 0x10A0F), (0x10A38, 0x10A3F), (0x10AE5, 0x10AE6),
   (0x10D24, 0x10D27), (0x10D69, 0x10D6D), (0x10EAB, 0x10EAC), (0x10EFA, 0x10EFF),
   (0x10F46, 0x10F50), (0x10F82, 0x10F85), (0x11000, 0x11002), (0x11038, 0x11046),
   (0x11070, 0x11070), (0x11073, 0x11074), (0x1107F, 0x11082), (0x110B0, 0x110BA),
   (0x110C2, 0x110C2), (0x11100, 0x11102), (0x11127, 0x11134), (0x11145, 0x11146),
   (0x11173, 0x11173), (0x11180, 0x11182), (0x111B3, 0x111C0), (0x111C9, 0x111CC),
   (0x111CE, 0x111CF), (0x1122C, 0x11237), (0x1123E, 0x1123E), (0x11241, 0x11241),
   (0x112DF, 0x112EA), (0x11300, 0x11303), (0x1133B, 0x1133C), (0x1133E, 0x1134D),
   (0x11357, 0x11357), (0x11362, 0x11374), (0x113B8, 0x113D0), (0x113D2, 0x113D2),
   (0x113E1, 0x113E2), (0x11435, 0x11446), (0x1145E, 0x1145E), (0x114B0, 0x114C3),
   (0x115AF, 0x115C0), (0x115DC, 0x115DD), (0x11630, 0x11640), (0x116AB, 0x116B7),
   (0x1171D, 0x1172B), (0x1182C, 0x1183A), (0x11930, 0x1193E), (0x11940, 0x11940),
   (0x11942, 0x11943), (0x119D1, 0x119E0), (0x119E4, 0x119E4), (0x11A01, 0x11A0A),
   (0x11A33, 0x11A39), (0x11A3B, 0x11A3E), (0x11A47, 0x11A47), (0x11A51, 0x11A5B),
   (0x11A8A, 0x11A99), (0x11B60, 0x11B67), (0x11C2F, 0x11C3F), (0x11C92, 0x11CB6),
   (0x11D31, 0x11D45), (0x11D47, 0x11D47), (0x11D8A, 0x11D97), (0x11EF3, 0x11EF6),
   (0x11F00, 0x11F01), (0x11F03, 0x11F03), (0x11F34, 0x11F42), (0x13440, 0x13440),
   (0x13447, 0x13455), (0x1611E, 0x1612F), (0x16AF0, 0x16AF4), (0x16B30, 0x16B36),
   (0x16F4F, 0x16F4F), (0x16F51, 0x16F92), (0x16FE4, 0x16FF1), (0x1BC9D, 0x1BC9E),
   (0x1CF00, 0x1CF46), (0x1D165, 0x1D169), (0x1D16D, 0x1D182), (0x1D185, 0x1D18B),
   (0x1D1AA, 0x1D1AD), (0x1D242, 0x1D244), (0x1DA00, 0x1DA36), (0x1DA3B, 0x1DA6C),
   (0x1DA75, 0x1DA75), (0x1DA84, 0x1DA84), (0x1DA9B, 0x1DAAF), (0x1E000, 0x1E02A),
   (0x1E08F, 0x1E08F), (0x1E130, 0x1E136), (0x1E2AE, 0x1E2AE), (0x1E2EC, 0x1E2EF),
   (0x1E4EC, 0x1E4EF), (0x1E5EE, 0x1E5EF), (0x1E6E3, 0x1E6E3), (0x1E6E6, 0x1E6E6),
   (0x1E6EE, 0x1E6EF), (0x1E6F5, 0x1E6F5), (0x1E8D0, 0x1E8D6), (0x1E944, 0x1E94A)]

/-- The ranges of letters that can join the letter behind them. -/
def joiningForwardRanges : List (Nat × Nat) :=
  [(0x620, 0x620), (0x626, 0x626), (0x628, 0x628), (0x62A, 0x62E), (0x633, 0x63F), (0x641, 0x647),
   (0x649, 0x64A), (0x66E, 0x66F), (0x678, 0x687), (0x69A, 0x6BF), (0x6C1, 0x6C2), (0x6CC, 0x6CC),
   (0x6CE, 0x6CE), (0x6D0, 0x6D1), (0x6FA, 0x6FC), (0x6FF, 0x6FF), (0x712, 0x714), (0x71A, 0x71D),
   (0x71F, 0x727), (0x729, 0x729), (0x72B, 0x72B), (0x72D, 0x72E), (0x74E, 0x758), (0x75C, 0x76A),
   (0x76D, 0x770), (0x772, 0x772), (0x775, 0x777), (0x77A, 0x77F), (0x7CA, 0x7EA), (0x841, 0x845),
   (0x848, 0x848), (0x84A, 0x853), (0x855, 0x855), (0x860, 0x860), (0x862, 0x865), (0x868, 0x868),
   (0x886, 0x886), (0x889, 0x88D), (0x88F, 0x88F), (0x8A0, 0x8A9), (0x8AF, 0x8B0), (0x8B3, 0x8B8),
   (0x8BA, 0x8C8), (0x1807, 0x1807), (0x1820, 0x1878), (0x1887, 0x18A8), (0x18AA, 0x18AA),
   (0xA840, 0xA872), (0xFB52, 0xFB81), (0xFB8E, 0xFBA3), (0xFBA6, 0xFBAD), (0xFBD3, 0xFBD6),
   (0xFBE4, 0xFC5A), (0xFC5D, 0xFCF1), (0xFCF5, 0xFD3B), (0xFD50, 0xFD8F), (0xFD92, 0xFDC7),
   (0xFDF0, 0xFDFC), (0xFE89, 0xFE8C), (0xFE8F, 0xFE92), (0xFE95, 0xFEA8), (0xFEB1, 0xFEEC),
   (0xFEEF, 0xFEFC), (0x10AC0, 0x10AC4), (0x10ACD, 0x10ACD), (0x10AD3, 0x10ADC),
   (0x10ADE, 0x10AE0), (0x10AEB, 0x10AEE), (0x10B80, 0x10B80), (0x10B82, 0x10B82),
   (0x10B86, 0x10B88), (0x10B8A, 0x10B8B), (0x10B8D, 0x10B8D), (0x10B90, 0x10B90),
   (0x10BAD, 0x10BAE), (0x10D00, 0x10D21), (0x10D23, 0x10D23), (0x10EC3, 0x10EC4),
   (0x10EC6, 0x10EC7), (0x10F30, 0x10F32), (0x10F34, 0x10F44), (0x10F51, 0x10F53),
   (0x10F70, 0x10F73), (0x10F76, 0x10F81), (0x10FB0, 0x10FB0), (0x10FB2, 0x10FB3),
   (0x10FB8, 0x10FB8), (0x10FBB, 0x10FBC), (0x10FBE, 0x10FBF), (0x10FC1, 0x10FC1),
   (0x10FC4, 0x10FC4), (0x10FCA, 0x10FCB), (0x1E900, 0x1E943), (0x1EE01, 0x1EE02),
   (0x1EE07, 0x1EE12), (0x1EE14, 0x1EE17), (0x1EE19, 0x1EE7E), (0x1EE81, 0x1EE82),
   (0x1EE84, 0x1EE84), (0x1EE87, 0x1EE92), (0x1EE94, 0x1EE97), (0x1EE99, 0x1EEA2),
   (0x1EEA7, 0x1EEB2), (0x1EEB4, 0x1EEB7), (0x1EEB9, 0x1EEBB)]

/-- The ranges of letters that can join the letter before them. -/
def joiningBackwardRanges : List (Nat × Nat) :=
  [(0x620, 0x620), (0x622, 0x63F), (0x641, 0x64A), (0x66E, 0x66F), (0x671, 0x673), (0x675, 0x6D3),
   (0x6D5, 0x6D5), (0x6EE, 0x6EF), (0x6FA, 0x6FC), (0x6FF, 0x6FF), (0x710, 0x710), (0x712, 0x72F),
   (0x74D, 0x77F), (0x7CA, 0x7EA), (0x840, 0x858), (0x860, 0x860), (0x862, 0x865), (0x867, 0x882),
   (0x886, 0x886), (0x889, 0x88F), (0x8A0, 0x8AC), (0x8AE, 0x8C8), (0x1807, 0x1807),
   (0x1820, 0x1878), (0x1887, 0x18A8), (0x18AA, 0x18AA), (0xA840, 0xA871), (0xFB50, 0xFBB1),
   (0xFBD3, 0xFCF1), (0xFCF5, 0xFD3D), (0xFD50, 0xFD8F), (0xFD92, 0xFDC7), (0xFDF0, 0xFDFC),
   (0xFE81, 0xFEFC), (0x10AC0, 0x10AC5), (0x10AC7, 0x10AC7), (0x10AC9, 0x10ACA),
   (0x10ACE, 0x10AD6), (0x10AD8, 0x10AE1), (0x10AE4, 0x10AE4), (0x10AEB, 0x10AEF),
   (0x10B80, 0x10B91), (0x10BA9, 0x10BAE), (0x10D01, 0x10D23), (0x10EC2, 0x10EC4),
   (0x10EC6, 0x10EC7), (0x10F30, 0x10F44), (0x10F51, 0x10F54), (0x10F70, 0x10F81),
   (0x10FB0, 0x10FB0), (0x10FB2, 0x10FB6), (0x10FB8, 0x10FBF), (0x10FC1, 0x10FC4),
   (0x10FC9, 0x10FCA), (0x1E900, 0x1E943), (0x1EE00, 0x1EEBB)]

end NodeProbe.Host
