import TrustFederation.Text.Images
/-!
# Characters in domain names

What becomes of a character beyond ASCII when a domain name is read: it may be refused, passed
over, or written differently. Characters that are written as their small letters or as their
canonical equivalents are not listed.
-/
namespace TrustFederation.Domain

open Text (ImageRun)

/-- The code points that are refused. Among them are those whose written form would hold a
character of ASCII that no name may hold. -/
def refusedRanges : List (Nat × Nat) :=
  [(0x0080, 0x00A0), (0x00A8, 0x00A8), (0x00AF, 0x00AF), (0x00B4, 0x00B4), (0x00B8, 0x00B8),
   (0x02D8, 0x02DD), (0x0378, 0x037A), (0x0380, 0x0385), (0x038B, 0x038B), (0x038D, 0x038D),
   (0x03A2, 0x03A2), (0x0530, 0x0530), (0x0557, 0x0558), (0x058B, 0x058C), (0x0590, 0x0590),
   (0x05C8, 0x05CF), (0x05EB, 0x05EE), (0x05F5, 0x0605), (0x061C, 0x061C), (0x06DD, 0x06DD),
   (0x070E, 0x070F), (0x074B, 0x074C), (0x07B2, 0x07BF), (0x07FB, 0x07FC), (0x082E, 0x082F),
   (0x083F, 0x083F), (0x085C, 0x085D), (0x085F, 0x085F), (0x086B, 0x086F), (0x0890, 0x0896),
   (0x08E2, 0x08E2), (0x0984, 0x0984), (0x098D, 0x098E), (0x0991, 0x0992), (0x09A9, 0x09A9),
   (0x09B1, 0x09B1), (0x09B3, 0x09B5), (0x09BA, 0x09BB), (0x09C5, 0x09C6), (0x09C9, 0x09CA),
   (0x09CF, 0x09D6), (0x09D8, 0x09DB), (0x09DE, 0x09DE), (0x09E4, 0x09E5), (0x09FF, 0x0A00),
   (0x0A04, 0x0A04), (0x0A0B, 0x0A0E), (0x0A11, 0x0A12), (0x0A29, 0x0A29), (0x0A31, 0x0A31),
   (0x0A34, 0x0A34), (0x0A37, 0x0A37), (0x0A3A, 0x0A3B), (0x0A3D, 0x0A3D), (0x0A43, 0x0A46),
   (0x0A49, 0x0A4A), (0x0A4E, 0x0A50), (0x0A52, 0x0A58), (0x0A5D, 0x0A5D), (0x0A5F, 0x0A65),
   (0x0A77, 0x0A80), (0x0A84, 0x0A84), (0x0A8E, 0x0A8E), (0x0A92, 0x0A92), (0x0AA9, 0x0AA9),
   (0x0AB1, 0x0AB1), (0x0AB4, 0x0AB4), (0x0ABA, 0x0ABB), (0x0AC6, 0x0AC6), (0x0ACA, 0x0ACA),
   (0x0ACE, 0x0ACF), (0x0AD1, 0x0ADF), (0x0AE4, 0x0AE5), (0x0AF2, 0x0AF8), (0x0B00, 0x0B00),
   (0x0B04, 0x0B04), (0x0B0D, 0x0B0E), (0x0B11, 0x0B12), (0x0B29, 0x0B29), (0x0B31, 0x0B31),
   (0x0B34, 0x0B34), (0x0B3A, 0x0B3B), (0x0B45, 0x0B46), (0x0B49, 0x0B4A), (0x0B4E, 0x0B54),
   (0x0B58, 0x0B5B), (0x0B5E, 0x0B5E), (0x0B64, 0x0B65), (0x0B78, 0x0B81), (0x0B84, 0x0B84),
   (0x0B8B, 0x0B8D), (0x0B91, 0x0B91), (0x0B96, 0x0B98), (0x0B9B, 0x0B9B), (0x0B9D, 0x0B9D),
   (0x0BA0, 0x0BA2), (0x0BA5, 0x0BA7), (0x0BAB, 0x0BAD), (0x0BBA, 0x0BBD), (0x0BC3, 0x0BC5),
   (0x0BC9, 0x0BC9), (0x0BCE, 0x0BCF), (0x0BD1, 0x0BD6), (0x0BD8, 0x0BE5), (0x0BFB, 0x0BFF),
   (0x0C0D, 0x0C0D), (0x0C11, 0x0C11), (0x0C29, 0x0C29), (0x0C3A, 0x0C3B), (0x0C45, 0x0C45),
   (0x0C49, 0x0C49), (0x0C4E, 0x0C54), (0x0C57, 0x0C57), (0x0C5B, 0x0C5B), (0x0C5E, 0x0C5F),
   (0x0C64, 0x0C65), (0x0C70, 0x0C76), (0x0C8D, 0x0C8D), (0x0C91, 0x0C91), (0x0CA9, 0x0CA9),
   (0x0CB4, 0x0CB4), (0x0CBA, 0x0CBB), (0x0CC5, 0x0CC5), (0x0CC9, 0x0CC9), (0x0CCE, 0x0CD4),
   (0x0CD7, 0x0CDB), (0x0CDF, 0x0CDF), (0x0CE4, 0x0CE5), (0x0CF0, 0x0CF0), (0x0CF4, 0x0CFF),
   (0x0D0D, 0x0D0D), (0x0D11, 0x0D11), (0x0D45, 0x0D45), (0x0D49, 0x0D49), (0x0D50, 0x0D53),
   (0x0D64, 0x0D65), (0x0D80, 0x0D80), (0x0D84, 0x0D84), (0x0D97, 0x0D99), (0x0DB2, 0x0DB2),
   (0x0DBC, 0x0DBC), (0x0DBE, 0x0DBF), (0x0DC7, 0x0DC9), (0x0DCB, 0x0DCE), (0x0DD5, 0x0DD5),
   (0x0DD7, 0x0DD7), (0x0DE0, 0x0DE5), (0x0DF0, 0x0DF1), (0x0DF5, 0x0E00), (0x0E3B, 0x0E3E),
   (0x0E5C, 0x0E80), (0x0E83, 0x0E83), (0x0E85, 0x0E85), (0x0E8B, 0x0E8B), (0x0EA4, 0x0EA4),
   (0x0EA6, 0x0EA6), (0x0EBE, 0x0EBF), (0x0EC5, 0x0EC5), (0x0EC7, 0x0EC7), (0x0ECF, 0x0ECF),
   (0x0EDA, 0x0EDB), (0x0EE0, 0x0EFF), (0x0F48, 0x0F48), (0x0F6D, 0x0F70), (0x0F98, 0x0F98),
   (0x0FBD, 0x0FBD), (0x0FCD, 0x0FCD), (0x0FDB, 0x0FFF), (0x10C6, 0x10C6), (0x10C8, 0x10CC),
   (0x10CE, 0x10CF), (0x1249, 0x1249), (0x124E, 0x124F), (0x1257, 0x1257), (0x1259, 0x1259),
   (0x125E, 0x125F), (0x1289, 0x1289), (0x128E, 0x128F), (0x12B1, 0x12B1), (0x12B6, 0x12B7),
   (0x12BF, 0x12BF), (0x12C1, 0x12C1), (0x12C6, 0x12C7), (0x12D7, 0x12D7), (0x1311, 0x1311),
   (0x1316, 0x1317), (0x135B, 0x135C), (0x137D, 0x137F), (0x139A, 0x139F), (0x13F6, 0x13F7),
   (0x13FE, 0x13FF), (0x1680, 0x1680), (0x169D, 0x169F), (0x16F9, 0x16FF), (0x1716, 0x171E),
   (0x1737, 0x173F), (0x1754, 0x175F), (0x176D, 0x176D), (0x1771, 0x1771), (0x1774, 0x177F),
   (0x17DE, 0x17DF), (0x17EA, 0x17EF), (0x17FA, 0x17FF), (0x181A, 0x181F), (0x1879, 0x187F),
   (0x18AB, 0x18AF), (0x18F6, 0x18FF), (0x191F, 0x191F), (0x192C, 0x192F), (0x193C, 0x193F),
   (0x1941, 0x1943), (0x196E, 0x196F), (0x1975, 0x197F), (0x19AC, 0x19AF), (0x19CA, 0x19CF),
   (0x19DB, 0x19DD), (0x1A1C, 0x1A1D), (0x1A5F, 0x1A5F), (0x1A7D, 0x1A7E), (0x1A8A, 0x1A8F),
   (0x1A9A, 0x1A9F), (0x1AAE, 0x1AAF), (0x1ADE, 0x1ADF), (0x1AEC, 0x1AFF), (0x1B4D, 0x1B4D),
   (0x1BF4, 0x1BFB), (0x1C38, 0x1C3A), (0x1C4A, 0x1C4C), (0x1C8B, 0x1C8F), (0x1CBB, 0x1CBC),
   (0x1CC8, 0x1CCF), (0x1CFB, 0x1CFF), (0x1F16, 0x1F17), (0x1F1E, 0x1F1F), (0x1F46, 0x1F47),
   (0x1F4E, 0x1F4F), (0x1F58, 0x1F58), (0x1F5A, 0x1F5A), (0x1F5C, 0x1F5C), (0x1F5E, 0x1F5E),
   (0x1F7E, 0x1F7F), (0x1FB5, 0x1FB5), (0x1FBD, 0x1FBD), (0x1FBF, 0x1FC1), (0x1FC5, 0x1FC5),
   (0x1FCD, 0x1FCF), (0x1FD4, 0x1FD5), (0x1FDC, 0x1FDF), (0x1FED, 0x1FEE), (0x1FF0, 0x1FF1),
   (0x1FF5, 0x1FF5), (0x1FFD, 0x200A), (0x200E, 0x200F), (0x2017, 0x2017), (0x2024, 0x2026),
   (0x2028, 0x202F), (0x203E, 0x203E), (0x2047, 0x2049), (0x205F, 0x205F), (0x2065, 0x2069),
   (0x2072, 0x2073), (0x208F, 0x208F), (0x209D, 0x209F), (0x20C2, 0x20CF), (0x20F1, 0x2101),
   (0x2105, 0x2106), (0x218C, 0x218F), (0x242A, 0x243F), (0x244B, 0x245F), (0x2488, 0x249B),
   (0x2A74, 0x2A74), (0x2B74, 0x2B75), (0x2CF4, 0x2CF8), (0x2D26, 0x2D26), (0x2D28, 0x2D2C),
   (0x2D2E, 0x2D2F), (0x2D68, 0x2D6E), (0x2D71, 0x2D7E), (0x2D97, 0x2D9F), (0x2DA7, 0x2DA7),
   (0x2DAF, 0x2DAF), (0x2DB7, 0x2DB7), (0x2DBF, 0x2DBF), (0x2DC7, 0x2DC7), (0x2DCF, 0x2DCF),
   (0x2DD7, 0x2DD7), (0x2DDF, 0x2DDF), (0x2E5E, 0x2E7F), (0x2E9A, 0x2E9A), (0x2EF4, 0x2EFF),
   (0x2FD6, 0x3000), (0x3040, 0x3040), (0x3097, 0x3098), (0x309B, 0x309C), (0x3100, 0x3104),
   (0x3130, 0x3130), (0x318F, 0x318F), (0x31E6, 0x31EF), (0x321F, 0x321F), (0x33C2, 0x33C2),
   (0x33C7, 0x33C7), (0x33D8, 0x33D8), (0xA48D, 0xA48F), (0xA4C7, 0xA4CF), (0xA62C, 0xA63F),
   (0xA6F8, 0xA6FF), (0xA7DD, 0xA7F0), (0xA82D, 0xA82F), (0xA83A, 0xA83F), (0xA878, 0xA87F),
   (0xA8C6, 0xA8CD), (0xA8DA, 0xA8DF), (0xA954, 0xA95E), (0xA97D, 0xA97F), (0xA9CE, 0xA9CE),
   (0xA9DA, 0xA9DD), (0xA9FF, 0xA9FF), (0xAA37, 0xAA3F), (0xAA4E, 0xAA4F), (0xAA5A, 0xAA5B),
   (0xAAC3, 0xAADA), (0xAAF7, 0xAB00), (0xAB07, 0xAB08), (0xAB0F, 0xAB10), (0xAB17, 0xAB1F),
   (0xAB27, 0xAB27), (0xAB2F, 0xAB2F), (0xAB6C, 0xAB6F), (0xABEE, 0xABEF), (0xABFA, 0xABFF),
   (0xD7A4, 0xD7AF), (0xD7C7, 0xD7CA), (0xD7FC, 0xF8FF), (0xFA6E, 0xFA6F), (0xFADA, 0xFAFF),
   (0xFB07, 0xFB12), (0xFB18, 0xFB1C), (0xFB37, 0xFB37), (0xFB3D, 0xFB3D), (0xFB3F, 0xFB3F),
   (0xFB42, 0xFB42), (0xFB45, 0xFB45), (0xFC5E, 0xFC63), (0xFDD0, 0xFDEF), (0xFDFA, 0xFDFB),
   (0xFE12, 0xFE13), (0xFE16, 0xFE16), (0xFE19, 0xFE1F), (0xFE30, 0xFE30), (0xFE47, 0xFE4C),
   (0xFE52, 0xFE53), (0xFE55, 0xFE56), (0xFE5F, 0xFE5F), (0xFE64, 0xFE65), (0xFE67, 0xFE68),
   (0xFE6A, 0xFE70), (0xFE72, 0xFE72), (0xFE74, 0xFE76), (0xFE78, 0xFE78), (0xFE7A, 0xFE7A),
   (0xFE7C, 0xFE7C), (0xFE7E, 0xFE7E), (0xFEFD, 0xFEFE), (0xFF00, 0xFF00), (0xFF03, 0xFF03),
   (0xFF05, 0xFF05), (0xFF0F, 0xFF0F), (0xFF1A, 0xFF1A), (0xFF1C, 0xFF1C), (0xFF1E, 0xFF20),
   (0xFF3B, 0xFF3E), (0xFF5C, 0xFF5C), (0xFFBF, 0xFFC1), (0xFFC8, 0xFFC9), (0xFFD0, 0xFFD1),
   (0xFFD8, 0xFFD9), (0xFFDD, 0xFFDF), (0xFFE3, 0xFFE3), (0xFFE7, 0xFFE7), (0xFFEF, 0xFFFF),
   (0x1000C, 0x1000C), (0x10027, 0x10027), (0x1003B, 0x1003B), (0x1003E, 0x1003E),
   (0x1004E, 0x1004F), (0x1005E, 0x1007F), (0x100FB, 0x100FF), (0x10103, 0x10106),
   (0x10134, 0x10136), (0x1018F, 0x1018F), (0x1019D, 0x1019F), (0x101A1, 0x101CF),
   (0x101FE, 0x1027F), (0x1029D, 0x1029F), (0x102D1, 0x102DF), (0x102FC, 0x102FF),
   (0x10324, 0x1032C), (0x1034B, 0x1034F), (0x1037B, 0x1037F), (0x1039E, 0x1039E),
   (0x103C4, 0x103C7), (0x103D6, 0x103FF), (0x1049E, 0x1049F), (0x104AA, 0x104AF),
   (0x104D4, 0x104D7), (0x104FC, 0x104FF), (0x10528, 0x1052F), (0x10564, 0x1056E),
   (0x1057B, 0x1057B), (0x1058B, 0x1058B), (0x10593, 0x10593), (0x10596, 0x10596),
   (0x105A2, 0x105A2), (0x105B2, 0x105B2), (0x105BA, 0x105BA), (0x105BD, 0x105BF),
   (0x105F4, 0x105FF), (0x10737, 0x1073F), (0x10756, 0x1075F), (0x10768, 0x1077F),
   (0x10786, 0x10786), (0x107B1, 0x107B1), (0x107BB, 0x107FF), (0x10806, 0x10807),
   (0x10809, 0x10809), (0x10836, 0x10836), (0x10839, 0x1083B), (0x1083D, 0x1083E),
   (0x10856, 0x10856), (0x1089F, 0x108A6), (0x108B0, 0x108DF), (0x108F3, 0x108F3),
   (0x108F6, 0x108FA), (0x1091C, 0x1091E), (0x1093A, 0x1093E), (0x1095A, 0x1097F),
   (0x109B8, 0x109BB), (0x109D0, 0x109D1), (0x10A04, 0x10A04), (0x10A07, 0x10A0B),
   (0x10A14, 0x10A14), (0x10A18, 0x10A18), (0x10A36, 0x10A37), (0x10A3B, 0x10A3E),
   (0x10A49, 0x10A4F), (0x10A59, 0x10A5F), (0x10AA0, 0x10ABF), (0x10AE7, 0x10AEA),
   (0x10AF7, 0x10AFF), (0x10B36, 0x10B38), (0x10B56, 0x10B57), (0x10B73, 0x10B77),
   (0x10B92, 0x10B98), (0x10B9D, 0x10BA8), (0x10BB0, 0x10BFF), (0x10C49, 0x10C7F),
   (0x10CB3, 0x10CBF), (0x10CF3, 0x10CF9), (0x10D28, 0x10D2F), (0x10D3A, 0x10D3F),
   (0x10D66, 0x10D68), (0x10D86, 0x10D8D), (0x10D90, 0x10E5F), (0x10E7F, 0x10E7F),
   (0x10EAA, 0x10EAA), (0x10EAE, 0x10EAF), (0x10EB2, 0x10EC1), (0x10EC8, 0x10ECF),
   (0x10ED9, 0x10EF9), (0x10F28, 0x10F2F), (0x10F5A, 0x10F6F), (0x10F8A, 0x10FAF),
   (0x10FCC, 0x10FDF), (0x10FF7, 0x10FFF), (0x1104E, 0x11051), (0x11076, 0x1107E),
   (0x110BD, 0x110BD), (0x110C3, 0x110CF), (0x110E9, 0x110EF), (0x110FA, 0x110FF),
   (0x11135, 0x11135), (0x11148, 0x1114F), (0x11177, 0x1117F), (0x111E0, 0x111E0),
   (0x111F5, 0x111FF), (0x11212, 0x11212), (0x11242, 0x1127F), (0x11287, 0x11287),
   (0x11289, 0x11289), (0x1128E, 0x1128E), (0x1129E, 0x1129E), (0x112AA, 0x112AF),
   (0x112EB, 0x112EF), (0x112FA, 0x112FF), (0x11304, 0x11304), (0x1130D, 0x1130E),
   (0x11311, 0x11312), (0x11329, 0x11329), (0x11331, 0x11331), (0x11334, 0x11334),
   (0x1133A, 0x1133A), (0x11345, 0x11346), (0x11349, 0x1134A), (0x1134E, 0x1134F),
   (0x11351, 0x11356), (0x11358, 0x1135C), (0x11364, 0x11365), (0x1136D, 0x1136F),
   (0x11375, 0x1137F), (0x1138A, 0x1138A), (0x1138C, 0x1138D), (0x1138F, 0x1138F),
   (0x113B6, 0x113B6), (0x113C1, 0x113C1), (0x113C3, 0x113C4), (0x113C6, 0x113C6),
   (0x113CB, 0x113CB), (0x113D6, 0x113D6), (0x113D9, 0x113E0), (0x113E3, 0x113FF),
   (0x1145C, 0x1145C), (0x11462, 0x1147F), (0x114C8, 0x114CF), (0x114DA, 0x1157F),
   (0x115B6, 0x115B7), (0x115DE, 0x115FF), (0x11645, 0x1164F), (0x1165A, 0x1165F),
   (0x1166D, 0x1167F), (0x116BA, 0x116BF), (0x116CA, 0x116CF), (0x116E4, 0x116FF),
   (0x1171B, 0x1171C), (0x1172C, 0x1172F), (0x11747, 0x117FF), (0x1183C, 0x1189F),
   (0x118F3, 0x118FE), (0x11907, 0x11908), (0x1190A, 0x1190B), (0x11914, 0x11914),
   (0x11917, 0x11917), (0x11936, 0x11936), (0x11939, 0x1193A), (0x11947, 0x1194F),
   (0x1195A, 0x1199F), (0x119A8, 0x119A9), (0x119D8, 0x119D9), (0x119E5, 0x119FF),
   (0x11A48, 0x11A4F), (0x11AA3, 0x11AAF), (0x11AF9, 0x11AFF), (0x11B0A, 0x11B5F),
   (0x11B68, 0x11BBF), (0x11BE2, 0x11BEF), (0x11BFA, 0x11BFF), (0x11C09, 0x11C09),
   (0x11C37, 0x11C37), (0x11C46, 0x11C4F), (0x11C6D, 0x11C6F), (0x11C90, 0x11C91),
   (0x11CA8, 0x11CA8), (0x11CB7, 0x11CFF), (0x11D07, 0x11D07), (0x11D0A, 0x11D0A),
   (0x11D37, 0x11D39), (0x11D3B, 0x11D3B), (0x11D3E, 0x11D3E), (0x11D48, 0x11D4F),
   (0x11D5A, 0x11D5F), (0x11D66, 0x11D66), (0x11D69, 0x11D69), (0x11D8F, 0x11D8F),
   (0x11D92, 0x11D92), (0x11D99, 0x11D9F), (0x11DAA, 0x11DAF), (0x11DDC, 0x11DDF),
   (0x11DEA, 0x11EDF), (0x11EF9, 0x11EFF), (0x11F11, 0x11F11), (0x11F3B, 0x11F3D),
   (0x11F5B, 0x11FAF), (0x11FB1, 0x11FBF), (0x11FF2, 0x11FFE), (0x1239A, 0x123FF),
   (0x1246F, 0x1246F), (0x12475, 0x1247F), (0x12544, 0x12F8F), (0x12FF3, 0x12FFF),
   (0x13430, 0x1343F), (0x13456, 0x1345F), (0x143FB, 0x143FF), (0x14647, 0x160FF),
   (0x1613A, 0x167FF), (0x16A39, 0x16A3F), (0x16A5F, 0x16A5F), (0x16A6A, 0x16A6D),
   (0x16ABF, 0x16ABF), (0x16ACA, 0x16ACF), (0x16AEE, 0x16AEF), (0x16AF6, 0x16AFF),
   (0x16B46, 0x16B4F), (0x16B5A, 0x16B5A), (0x16B62, 0x16B62), (0x16B78, 0x16B7C),
   (0x16B90, 0x16D3F), (0x16D7A, 0x16E3F), (0x16E9B, 0x16E9F), (0x16EB9, 0x16EBA),
   (0x16ED4, 0x16EFF), (0x16F4B, 0x16F4E), (0x16F88, 0x16F8E), (0x16FA0, 0x16FDF),
   (0x16FE5, 0x16FEF), (0x16FF7, 0x16FFF), (0x18CD6, 0x18CFE), (0x18D1F, 0x18D7F),
   (0x18DF3, 0x1AFEF), (0x1AFF4, 0x1AFF4), (0x1AFFC, 0x1AFFC), (0x1AFFF, 0x1AFFF),
   (0x1B123, 0x1B131), (0x1B133, 0x1B14F), (0x1B153, 0x1B154), (0x1B156, 0x1B163),
   (0x1B168, 0x1B16F), (0x1B2FC, 0x1BBFF), (0x1BC6B, 0x1BC6F), (0x1BC7D, 0x1BC7F),
   (0x1BC89, 0x1BC8F), (0x1BC9A, 0x1BC9B), (0x1BCA4, 0x1CBFF), (0x1CCFD, 0x1CCFF),
   (0x1CEB4, 0x1CEB9), (0x1CED1, 0x1CEDF), (0x1CEF1, 0x1CEFF), (0x1CF2E, 0x1CF2F),
   (0x1CF47, 0x1CF4F), (0x1CFC4, 0x1CFFF), (0x1D0F6, 0x1D0FF), (0x1D127, 0x1D128),
   (0x1D1EB, 0x1D1FF), (0x1D246, 0x1D2BF), (0x1D2D4, 0x1D2DF), (0x1D2F4, 0x1D2FF),
   (0x1D357, 0x1D35F), (0x1D379, 0x1D3FF), (0x1D455, 0x1D455), (0x1D49D, 0x1D49D),
   (0x1D4A0, 0x1D4A1), (0x1D4A3, 0x1D4A4), (0x1D4A7, 0x1D4A8), (0x1D4AD, 0x1D4AD),
   (0x1D4BA, 0x1D4BA), (0x1D4BC, 0x1D4BC), (0x1D4C4, 0x1D4C4), (0x1D506, 0x1D506),
   (0x1D50B, 0x1D50C), (0x1D515, 0x1D515), (0x1D51D, 0x1D51D), (0x1D53A, 0x1D53A),
   (0x1D53F, 0x1D53F), (0x1D545, 0x1D545), (0x1D547, 0x1D549), (0x1D551, 0x1D551),
   (0x1D6A6, 0x1D6A7), (0x1D7CC, 0x1D7CD), (0x1DA8C, 0x1DA9A), (0x1DAA0, 0x1DAA0),
   (0x1DAB0, 0x1DEFF), (0x1DF1F, 0x1DF24), (0x1DF2B, 0x1DFFF), (0x1E007, 0x1E007),
   (0x1E019, 0x1E01A), (0x1E022, 0x1E022), (0x1E025, 0x1E025), (0x1E02B, 0x1E02F),
   (0x1E06E, 0x1E08E), (0x1E090, 0x1E0FF), (0x1E12D, 0x1E12F), (0x1E13E, 0x1E13F),
   (0x1E14A, 0x1E14D), (0x1E150, 0x1E28F), (0x1E2AF, 0x1E2BF), (0x1E2FA, 0x1E2FE),
   (0x1E300, 0x1E4CF), (0x1E4FA, 0x1E5CF), (0x1E5FB, 0x1E5FE), (0x1E600, 0x1E6BF),
   (0x1E6DF, 0x1E6DF), (0x1E6F6, 0x1E6FD), (0x1E700, 0x1E7DF), (0x1E7E7, 0x1E7E7),
   (0x1E7EC, 0x1E7EC), (0x1E7EF, 0x1E7EF), (0x1E7FF, 0x1E7FF), (0x1E8C5, 0x1E8C6),
   (0x1E8D7, 0x1E8FF), (0x1E94C, 0x1E94F), (0x1E95A, 0x1E95D), (0x1E960, 0x1EC70),
   (0x1ECB5, 0x1ED00), (0x1ED3E, 0x1EDFF), (0x1EE04, 0x1EE04), (0x1EE20, 0x1EE20),
   (0x1EE23, 0x1EE23), (0x1EE25, 0x1EE26), (0x1EE28, 0x1EE28), (0x1EE33, 0x1EE33),
   (0x1EE38, 0x1EE38), (0x1EE3A, 0x1EE3A), (0x1EE3C, 0x1EE41), (0x1EE43, 0x1EE46),
   (0x1EE48, 0x1EE48), (0x1EE4A, 0x1EE4A), (0x1EE4C, 0x1EE4C), (0x1EE50, 0x1EE50),
   (0x1EE53, 0x1EE53), (0x1EE55, 0x1EE56), (0x1EE58, 0x1EE58), (0x1EE5A, 0x1EE5A),
   (0x1EE5C, 0x1EE5C), (0x1EE5E, 0x1EE5E), (0x1EE60, 0x1EE60), (0x1EE63, 0x1EE63),
   (0x1EE65, 0x1EE66), (0x1EE6B, 0x1EE6B), (0x1EE73, 0x1EE73), (0x1EE78, 0x1EE78),
   (0x1EE7D, 0x1EE7D), (0x1EE7F, 0x1EE7F), (0x1EE8A, 0x1EE8A), (0x1EE9C, 0x1EEA0),
   (0x1EEA4, 0x1EEA4), (0x1EEAA, 0x1EEAA), (0x1EEBC, 0x1EEEF), (0x1EEF2, 0x1EFFF),
   (0x1F02C, 0x1F02F), (0x1F094, 0x1F09F), (0x1F0AF, 0x1F0B0), (0x1F0C0, 0x1F0C0),
   (0x1F0D0, 0x1F0D0), (0x1F0F6, 0x1F100), (0x1F1AE, 0x1F1E5), (0x1F203, 0x1F20F),
   (0x1F23C, 0x1F23F), (0x1F249, 0x1F24F), (0x1F252, 0x1F25F), (0x1F266, 0x1F2FF),
   (0x1F6D9, 0x1F6DB), (0x1F6ED, 0x1F6EF), (0x1F6FD, 0x1F6FF), (0x1F7DA, 0x1F7DF),
   (0x1F7EC, 0x1F7EF), (0x1F7F1, 0x1F7FF), (0x1F80C, 0x1F80F), (0x1F848, 0x1F84F),
   (0x1F85A, 0x1F85F), (0x1F888, 0x1F88F), (0x1F8AE, 0x1F8AF), (0x1F8BC, 0x1F8BF),
   (0x1F8C2, 0x1F8CF), (0x1F8D9, 0x1F8FF), (0x1FA58, 0x1FA5F), (0x1FA6E, 0x1FA6F),
   (0x1FA7D, 0x1FA7F), (0x1FA8B, 0x1FA8D), (0x1FAC7, 0x1FAC7), (0x1FAC9, 0x1FACC),
   (0x1FADD, 0x1FADE), (0x1FAEB, 0x1FAEE), (0x1FAF9, 0x1FAFF), (0x1FB93, 0x1FB93),
   (0x1FBFB, 0x1FFFF), (0x2A6E0, 0x2A6FF), (0x2B81E, 0x2B81F), (0x2CEAE, 0x2CEAF),
   (0x2EBE1, 0x2EBEF), (0x2EE5E, 0x2F7FF), (0x2FA1E, 0x2FFFF), (0x3134B, 0x3134F),
   (0x3347A, 0xE00FF), (0xE01F0, 0x10FFFF)]

/-- The code points that are passed over. -/
def ignoredRanges : List (Nat × Nat) :=
  [(0x00AD, 0x00AD), (0x034F, 0x034F), (0x115F, 0x1160), (0x17B4, 0x17B5), (0x180B, 0x180F),
   (0x200B, 0x200B), (0x2060, 0x2064), (0x206A, 0x206F), (0x3164, 0x3164), (0xFE00, 0xFE0F),
   (0xFEFF, 0xFEFF), (0xFFA0, 0xFFA0), (0x1BCA0, 0x1BCA3), (0x1D173, 0x1D17A), (0xE0100, 0xE01EF)]

/-- Code points that are written as others at one distance: those from the first to the last in
steps. -/
structure Shift where
  first : Nat
  last : Nat
  step : Nat
  distance : Int
deriving DecidableEq

/-- The runs of code points that are written as others at one distance. -/
def shifts : List Shift :=
  [⟨0x13F8, 0x13FD, 1, -8⟩, ⟨0x1D33, 0x1D3A, 1, -7372⟩, ⟨0x1DAE, 0x1DB1, 1, -6972⟩,
   ⟨0x2074, 0x2079, 1, -8256⟩, ⟨0x2080, 0x2089, 1, -8272⟩, ⟨0x2096, 0x2099, 1, -8235⟩,
   ⟨0x2135, 0x2138, 1, -7013⟩, ⟨0x2460, 0x2468, 1, -9263⟩, ⟨0x24B6, 0x24CF, 1, -9301⟩,
   ⟨0x24D0, 0x24E9, 1, -9327⟩, ⟨0x313A, 0x313F, 1, -8074⟩, ⟨0x3145, 0x314E, 1, -8252⟩,
   ⟨0x314F, 0x3163, 1, -8174⟩, ⟨0x3178, 0x317C, 1, -8269⟩, ⟨0x3269, 0x326D, 1, -8539⟩,
   ⟨0x32E4, 0x32E9, 1, -538⟩, ⟨0x32EE, 0x32F2, 1, -528⟩, ⟨0x32F5, 0x32FA, 1, -525⟩,
   ⟨0x32FB, 0x32FE, 1, -524⟩, ⟨0xAB70, 0xABBF, 1, -38864⟩, ⟨0xFE41, 0xFE44, 1, -52789⟩,
   ⟨0xFF02, 0xFF06, 2, -65248⟩, ⟨0xFF07, 0xFF0E, 1, -65248⟩, ⟨0xFF10, 0xFF19, 1, -65248⟩,
   ⟨0xFF21, 0xFF3A, 1, -65216⟩, ⟨0xFF3F, 0xFF5B, 1, -65248⟩, ⟨0xFF85, 0xFF8A, 1, -52923⟩,
   ⟨0xFF8F, 0xFF93, 1, -52913⟩, ⟨0xFF96, 0xFF9B, 1, -52910⟩, ⟨0xFFAA, 0xFFAF, 1, -60922⟩,
   ⟨0xFFB5, 0xFFBE, 1, -61100⟩, ⟨0xFFC2, 0xFFC7, 1, -61025⟩, ⟨0xFFCA, 0xFFCF, 1, -61027⟩,
   ⟨0xFFD2, 0xFFD7, 1, -61029⟩, ⟨0xFFE9, 0xFFEC, 1, -56921⟩, ⟨0x1CCD6, 0x1CCEF, 1, -117877⟩,
   ⟨0x1CCF0, 0x1CCF9, 1, -117952⟩, ⟨0x1D400, 0x1D419, 1, -119711⟩, ⟨0x1D41A, 0x1D433, 1, -119737⟩,
   ⟨0x1D434, 0x1D44D, 1, -119763⟩, ⟨0x1D44E, 0x1D454, 1, -119789⟩, ⟨0x1D456, 0x1D467, 1, -119789⟩,
   ⟨0x1D468, 0x1D481, 1, -119815⟩, ⟨0x1D482, 0x1D49B, 1, -119841⟩, ⟨0x1D4A9, 0x1D4AC, 1, -119867⟩,
   ⟨0x1D4AE, 0x1D4B5, 1, -119867⟩, ⟨0x1D4B6, 0x1D4B9, 1, -119893⟩, ⟨0x1D4BD, 0x1D4C3, 1, -119893⟩,
   ⟨0x1D4C5, 0x1D4CF, 1, -119893⟩, ⟨0x1D4D0, 0x1D4E9, 1, -119919⟩, ⟨0x1D4EA, 0x1D503, 1, -119945⟩,
   ⟨0x1D507, 0x1D50A, 1, -119971⟩, ⟨0x1D50D, 0x1D514, 1, -119971⟩, ⟨0x1D516, 0x1D51C, 1, -119971⟩,
   ⟨0x1D51E, 0x1D537, 1, -119997⟩, ⟨0x1D53B, 0x1D53E, 1, -120023⟩, ⟨0x1D540, 0x1D544, 1, -120023⟩,
   ⟨0x1D54A, 0x1D550, 1, -120023⟩, ⟨0x1D552, 0x1D56B, 1, -120049⟩, ⟨0x1D56C, 0x1D585, 1, -120075⟩,
   ⟨0x1D586, 0x1D59F, 1, -120101⟩, ⟨0x1D5A0, 0x1D5B9, 1, -120127⟩, ⟨0x1D5BA, 0x1D5D3, 1, -120153⟩,
   ⟨0x1D5D4, 0x1D5ED, 1, -120179⟩, ⟨0x1D5EE, 0x1D607, 1, -120205⟩, ⟨0x1D608, 0x1D621, 1, -120231⟩,
   ⟨0x1D622, 0x1D63B, 1, -120257⟩, ⟨0x1D63C, 0x1D655, 1, -120283⟩, ⟨0x1D656, 0x1D66F, 1, -120309⟩,
   ⟨0x1D670, 0x1D689, 1, -120335⟩, ⟨0x1D68A, 0x1D6A3, 1, -120361⟩, ⟨0x1D6A8, 0x1D6B8, 1, -119543⟩,
   ⟨0x1D6BA, 0x1D6C0, 1, -119543⟩, ⟨0x1D6C2, 0x1D6D2, 1, -119569⟩, ⟨0x1D6D4, 0x1D6DA, 1, -119569⟩,
   ⟨0x1D6E2, 0x1D6F2, 1, -119601⟩, ⟨0x1D6F4, 0x1D6FA, 1, -119601⟩, ⟨0x1D6FC, 0x1D70C, 1, -119627⟩,
   ⟨0x1D70E, 0x1D714, 1, -119627⟩, ⟨0x1D71C, 0x1D72C, 1, -119659⟩, ⟨0x1D72E, 0x1D734, 1, -119659⟩,
   ⟨0x1D736, 0x1D746, 1, -119685⟩, ⟨0x1D748, 0x1D74E, 1, -119685⟩, ⟨0x1D756, 0x1D766, 1, -119717⟩,
   ⟨0x1D768, 0x1D76E, 1, -119717⟩, ⟨0x1D770, 0x1D780, 1, -119743⟩, ⟨0x1D782, 0x1D788, 1, -119743⟩,
   ⟨0x1D790, 0x1D7A0, 1, -119775⟩, ⟨0x1D7A2, 0x1D7A8, 1, -119775⟩, ⟨0x1D7AA, 0x1D7BA, 1, -119801⟩,
   ⟨0x1D7BC, 0x1D7C2, 1, -119801⟩, ⟨0x1D7CE, 0x1D7D7, 1, -120734⟩, ⟨0x1D7D8, 0x1D7E1, 1, -120744⟩,
   ⟨0x1D7E2, 0x1D7EB, 1, -120754⟩, ⟨0x1D7EC, 0x1D7F5, 1, -120764⟩, ⟨0x1D7F6, 0x1D7FF, 1, -120774⟩,
   ⟨0x1E030, 0x1E038, 1, -121856⟩, ⟨0x1E03C, 0x1E046, 1, -121854⟩, ⟨0x1E051, 0x1E059, 1, -121889⟩,
   ⟨0x1E05F, 0x1E064, 1, -121884⟩, ⟨0x1EE0A, 0x1EE0D, 1, -124871⟩, ⟨0x1EE2A, 0x1EE2D, 1, -124903⟩,
   ⟨0x1F130, 0x1F149, 1, -127183⟩, ⟨0x1FBF0, 0x1FBF9, 1, -129984⟩]

/-- The other characters that are written differently. -/
def images : List ImageRun :=
  [⟨0x00AA, 0x00AA, "a"⟩, ⟨0x00B2, 0x00B3, "2 3"⟩, ⟨0x00B5, 0x00B5, "μ"⟩, ⟨0x00B9, 0x00BA, "1 o"⟩,
   ⟨0x00BC, 0x00BE, "1⁄4 1⁄2 3⁄4"⟩, ⟨0x0130, 0x0130, "i\u0307"⟩, ⟨0x0132, 0x0133, "ij ij"⟩,
   ⟨0x013F, 0x0140, "l· l·"⟩, ⟨0x0149, 0x0149, "ʼn"⟩, ⟨0x017F, 0x017F, "s"⟩,
   ⟨0x01C4, 0x01CC, "dž dž dž lj lj lj nj nj nj"⟩, ⟨0x01F1, 0x01F3, "dz dz dz"⟩,
   ⟨0x02B0, 0x02B8, "h ɦ j r ɹ ɻ ʁ w y"⟩, ⟨0x02E0, 0x02E4, "ɣ l s x ʕ"⟩, ⟨0x0345, 0x0345, "ι"⟩,
   ⟨0x03D0, 0x03D6, "β θ υ ύ ϋ φ π"⟩, ⟨0x03F0, 0x03F2, "κ ρ σ"⟩, ⟨0x03F5, 0x03F5, "ε"⟩,
   ⟨0x03F9, 0x03F9, "σ"⟩, ⟨0x0587, 0x0587, "եւ"⟩,
   ⟨0x0675, 0x0678, "\u0627\u0674 \u0648\u0674 \u06c7\u0674 \u064a\u0674"⟩,
   ⟨0x0E33, 0x0E33, "\u0e4dา"⟩, ⟨0x0EB3, 0x0EB3, "\u0ecdາ"⟩, ⟨0x0EDC, 0x0EDD, "ຫນ ຫມ"⟩,
   ⟨0x0F0C, 0x0F0C, "་"⟩, ⟨0x0F77, 0x0F77, "\u0fb2\u0f71\u0f80"⟩,
   ⟨0x0F79, 0x0F79, "\u0fb3\u0f71\u0f80"⟩, ⟨0x10FC, 0x10FC, "ნ"⟩,
   ⟨0x1C80, 0x1C88, "в д о с т т ъ ѣ ꙋ"⟩, ⟨0x1D2C, 0x1D2E, "a æ b"⟩, ⟨0x1D30, 0x1D32, "d e ǝ"⟩,
   ⟨0x1D3C, 0x1D4D, "o ȣ p r t u w a ɐ ɑ ᴂ b d e ə ɛ ɜ g"⟩,
   ⟨0x1D4F, 0x1D6A, "k m ŋ o ɔ ᴖ ᴗ p t u ᴝ ɯ v ᴥ β γ δ φ χ i r u v β γ ρ φ χ"⟩,
   ⟨0x1D78, 0x1D78, "н"⟩, ⟨0x1D9B, 0x1DAD, "ɒ c ɕ ð ɜ f ɟ ɡ ɥ ɨ ɩ ɪ ᵻ ʝ ɭ ᶅ ʟ ɱ ɰ"⟩,
   ⟨0x1DB2, 0x1DBF, "ɸ ʂ ʃ ƫ ʉ ʊ ᴜ ʋ ʌ z ʐ ʑ ʒ θ"⟩, ⟨0x1E9A, 0x1E9B, "aʾ ṡ"⟩,
   ⟨0x1F80, 0x1F8B, "ἀι ἁι ἂι ἃι ἄι ἅι ἆι ἇι ἀι ἁι ἂι ἃι"⟩,
   ⟨0x1F8C, 0x1F97, "ἄι ἅι ἆι ἇι ἠι ἡι ἢι ἣι ἤι ἥι ἦι ἧι"⟩,
   ⟨0x1F98, 0x1F9F, "ἠι ἡι ἢι ἣι ἤι ἥι ἦι ἧι"⟩,
   ⟨0x1FA0, 0x1FAF, "ὠι ὡι ὢι ὣι ὤι ὥι ὦι ὧι ὠι ὡι ὢι ὣι ὤι ὥι ὦι ὧι"⟩,
   ⟨0x1FB2, 0x1FB4, "ὰι αι άι"⟩, ⟨0x1FB7, 0x1FB7, "ᾶι"⟩, ⟨0x1FBB, 0x1FBC, "ά αι"⟩,
   ⟨0x1FC2, 0x1FC4, "ὴι ηι ήι"⟩, ⟨0x1FC7, 0x1FC7, "ῆι"⟩, ⟨0x1FC9, 0x1FC9, "έ"⟩,
   ⟨0x1FCB, 0x1FCC, "ή ηι"⟩, ⟨0x1FDB, 0x1FDB, "ί"⟩, ⟨0x1FEB, 0x1FEB, "ύ"⟩,
   ⟨0x1FF2, 0x1FF4, "ὼι ωι ώι"⟩, ⟨0x1FF7, 0x1FF7, "ῶι"⟩, ⟨0x1FF9, 0x1FF9, "ό"⟩,
   ⟨0x1FFB, 0x1FFC, "ώ ωι"⟩, ⟨0x2011, 0x2011, "‐"⟩, ⟨0x2033, 0x2034, "′′ ′′′"⟩,
   ⟨0x2036, 0x2037, "‵‵ ‵‵‵"⟩, ⟨0x203C, 0x203C, "!!"⟩, ⟨0x2057, 0x2057, "′′′′"⟩,
   ⟨0x2070, 0x2071, "0 i"⟩, ⟨0x207A, 0x207F, "+ − = ( ) n"⟩, ⟨0x208A, 0x208E, "+ − = ( )"⟩,
   ⟨0x2090, 0x2095, "a e o x ə h"⟩, ⟨0x209A, 0x209C, "p s t"⟩, ⟨0x20A8, 0x20A8, "rs"⟩,
   ⟨0x2102, 0x2103, "c °c"⟩, ⟨0x2107, 0x2107, "ɛ"⟩, ⟨0x2109, 0x2113, "°f g h h h h ħ i i l l"⟩,
   ⟨0x2115, 0x2116, "n no"⟩, ⟨0x2119, 0x211D, "p q r r r"⟩, ⟨0x2120, 0x2122, "sm tel tm"⟩,
   ⟨0x2124, 0x2124, "z"⟩, ⟨0x2128, 0x2128, "z"⟩, ⟨0x212C, 0x212D, "b c"⟩, ⟨0x212F, 0x2131, "e e f"⟩,
   ⟨0x2133, 0x2134, "m o"⟩, ⟨0x2139, 0x2139, "i"⟩, ⟨0x213B, 0x2140, "fax π γ γ π ∑"⟩,
   ⟨0x2145, 0x2149, "d d e i j"⟩,
   ⟨0x2150, 0x2161, "1⁄7 1⁄9 1⁄10 1⁄3 2⁄3 1⁄5 2⁄5 3⁄5 4⁄5 1⁄6 5⁄6 1⁄8 3⁄8 5⁄8 7⁄8 1⁄ i ii"⟩,
   ⟨0x2162, 0x216F, "iii iv v vi vii viii ix x xi xii l c d m"⟩,
   ⟨0x2170, 0x217F, "i ii iii iv v vi vii viii ix x xi xii l c d m"⟩, ⟨0x2189, 0x2189, "0⁄3"⟩,
   ⟨0x222C, 0x222D, "∫∫ ∫∫∫"⟩, ⟨0x222F, 0x2230, "∮∮ ∮∮∮"⟩,
   ⟨0x2469, 0x247C, "10 11 12 13 14 15 16 17 18 19 20 (1) (2) (3) (4) (5) (6) (7) (8) (9)"⟩,
   ⟨0x247D, 0x2487, "(10) (11) (12) (13) (14) (15) (16) (17) (18) (19) (20)"⟩,
   ⟨0x249C, 0x24A4, "(a) (b) (c) (d) (e) (f) (g) (h) (i)"⟩,
   ⟨0x24A5, 0x24AD, "(j) (k) (l) (m) (n) (o) (p) (q) (r)"⟩,
   ⟨0x24AE, 0x24B5, "(s) (t) (u) (v) (w) (x) (y) (z)"⟩, ⟨0x24EA, 0x24EA, "0"⟩,
   ⟨0x2A0C, 0x2A0C, "∫∫∫∫"⟩, ⟨0x2A75, 0x2A76, "== ==="⟩, ⟨0x2C7C, 0x2C7D, "j v"⟩,
   ⟨0x2D6F, 0x2D6F, "ⵡ"⟩, ⟨0x2E9F, 0x2E9F, "母"⟩, ⟨0x2EF3, 0x2EF3, "龟"⟩,
   ⟨0x2F00, 0x2F1F, "一 丨 丶 丿 乙 亅 二 亠 人 儿 入 八 冂 冖 冫 几 凵 刀 力 勹 匕 匚 匸 十 卜 卩 厂 厶 又 口 囗 土"⟩,
   ⟨0x2F20, 0x2F3F, "士 夂 夊 夕 大 女 子 宀 寸 小 尢 尸 屮 山 巛 工 己 巾 干 幺 广 廴 廾 弋 弓 彐 彡 彳 心 戈 戶 手"⟩,
   ⟨0x2F40, 0x2F5F, "支 攴 文 斗 斤 方 无 日 曰 月 木 欠 止 歹 殳 毋 比 毛 氏 气 水 火 爪 父 爻 爿 片 牙 牛 犬 玄 玉"⟩,
   ⟨0x2F60, 0x2F7F, "瓜 瓦 甘 生 用 田 疋 疒 癶 白 皮 皿 目 矛 矢 石 示 禸 禾 穴 立 竹 米 糸 缶 网 羊 羽 老 而 耒 耳"⟩,
   ⟨0x2F80, 0x2F9F, "聿 肉 臣 自 至 臼 舌 舛 舟 艮 色 艸 虍 虫 血 行 衣 襾 見 角 言 谷 豆 豕 豸 貝 赤 走 足 身 車 辛"⟩,
   ⟨0x2FA0, 0x2FBF, "辰 辵 邑 酉 釆 里 金 長 門 阜 隶 隹 雨 靑 非 面 革 韋 韭 音 頁 風 飛 食 首 香 馬 骨 高 髟 鬥 鬯"⟩,
   ⟨0x2FC0, 0x2FD5, "鬲 鬼 魚 鳥 鹵 鹿 麥 麻 黃 黍 黑 黹 黽 鼎 鼓 鼠 鼻 齊 齒 龍 龜 龠"⟩, ⟨0x3002, 0x3002, "."⟩,
   ⟨0x3036, 0x3036, "〒"⟩, ⟨0x3038, 0x303A, "十 卄 卅"⟩, ⟨0x309F, 0x309F, "より"⟩, ⟨0x30FF, 0x30FF, "コト"⟩,
   ⟨0x3131, 0x3139, "ᄀ ᄁ ᆪ ᄂ ᆬ ᆭ ᄃ ᄄ ᄅ"⟩, ⟨0x3140, 0x3144, "ᄚ ᄆ ᄇ ᄈ ᄡ"⟩,
   ⟨0x3165, 0x3177, "ᄔ ᄕ ᇇ ᇈ ᇌ ᇎ ᇓ ᇗ ᇙ ᄜ ᇝ ᇟ ᄝ ᄞ ᄠ ᄢ ᄣ ᄧ ᄩ"⟩,
   ⟨0x317D, 0x318E, "ᄲ ᄶ ᅀ ᅇ ᅌ ᇱ ᇲ ᅗ ᅘ ᅙ ᆄ ᆅ ᆈ ᆑ ᆒ ᆔ ᆞ ᆡ"⟩,
   ⟨0x3192, 0x319F, "一 二 三 四 上 中 下 甲 乙 丙 丁 天 地 人"⟩,
   ⟨0x3200, 0x3208, "(ᄀ) (ᄂ) (ᄃ) (ᄅ) (ᄆ) (ᄇ) (ᄉ) (ᄋ) (ᄌ)"⟩,
   ⟨0x3209, 0x3211, "(ᄎ) (ᄏ) (ᄐ) (ᄑ) (ᄒ) (가) (나) (다) (라)"⟩,
   ⟨0x3212, 0x321E, "(마) (바) (사) (아) (자) (차) (카) (타) (파) (하) (주) (오전) (오후)"⟩,
   ⟨0x3220, 0x3228, "(一) (二) (三) (四) (五) (六) (七) (八) (九)"⟩,
   ⟨0x3229, 0x3231, "(十) (月) (火) (水) (木) (金) (土) (日) (株)"⟩,
   ⟨0x3232, 0x323F, "(有) (社) (名) (特) (財) (祝) (労) (代) (呼) (学) (監) (企) (資) (協)"⟩,
   ⟨0x3240, 0x3247, "(祭) (休) (自) (至) 問 幼 文 箏"⟩,
   ⟨0x3250, 0x3268, "pte 21 22 23 24 25 26 27 28 29 30 31 32 33 34 35 ᄀ ᄂ ᄃ ᄅ ᄆ ᄇ ᄉ ᄋ ᄌ"⟩,
   ⟨0x326E, 0x327E, "가 나 다 라 마 바 사 아 자 차 카 타 파 하 참고 주의 우"⟩,
   ⟨0x3280, 0x329F, "一 二 三 四 五 六 七 八 九 十 月 火 水 木 金 土 日 株 有 社 名 特 財 祝 労 秘 男 女 適 優 印 注"⟩,
   ⟨0x32A0, 0x32BC, "項 休 写 正 上 中 下 左 右 医 宗 学 監 企 資 協 夜 36 37 38 39 40 41 42 43 44 45 46 47"⟩,
   ⟨0x32BD, 0x32BF, "48 49 50"⟩,
   ⟨0x32C0, 0x32D8, "1月 2月 3月 4月 5月 6月 7月 8月 9月 10月 11月 12月 hg erg ev ltd ア イ ウ エ オ カ キ ク ケ"⟩,
   ⟨0x32D9, 0x32DF, "コ サ シ ス セ ソ タ"⟩, ⟨0x32E0, 0x32E3, "チ ツ テ ト"⟩, ⟨0x32EA, 0x32ED, "ヒ フ ヘ ホ"⟩,
   ⟨0x32F3, 0x32F4, "ヤ ユ"⟩, ⟨0x32FF, 0x3306, "令和 アパート アルファ アンペア アール イニング インチ ウォン"⟩,
   ⟨0x3307, 0x330E, "エスクード エーカー オンス オーム カイリ カラット カロリー ガロン"⟩,
   ⟨0x330F, 0x3316, "ガンマ ギガ ギニー キュリー ギルダー キロ キログラム キロメートル"⟩,
   ⟨0x3317, 0x331E, "キロワット グラム グラムトン クルゼイロ クローネ ケース コルナ コーポ"⟩,
   ⟨0x331F, 0x332E, "サイクル サンチーム シリング センチ セント ダース デシ ドル トン ナノ ノット ハイツ パーセント パーツ バーレル ピアストル"⟩,
   ⟨0x332F, 0x333E, "ピクル ピコ ビル ファラッド フィート ブッシェル フラン ヘクタール ペソ ペニヒ ヘルツ ペンス ページ ベータ ポイント ボルト"⟩,
   ⟨0x333F, 0x334E, "ホン ポンド ホール ホーン マイクロ マイル マッハ マルク マンション ミクロン ミリ ミリバール メガ メガトン メートル ヤード"⟩,
   ⟨0x334F, 0x335E, "ヤール ユアン リットル リラ ルピー ルーブル レム レントゲン ワット 0点 1点 2点 3点 4点 5点 6点"⟩,
   ⟨0x335F, 0x3370, "7点 8点 9点 10点 11点 12点 13点 14点 15点 16点 17点 18点 19点 20点 21点 22点 23点 24点"⟩,
   ⟨0x3371, 0x337E, "hpa da au bar ov pc dm dm2 dm3 iu 平成 昭和 大正 明治"⟩,
   ⟨0x337F, 0x3393, "株式会社 pa na μa ma ka kb mb gb cal kcal pf nf μf μg mg kg hz khz mhz ghz"⟩,
   ⟨0x3394, 0x339E, "thz μl ml dl kl fm nm μm mm cm km"⟩,
   ⟨0x339F, 0x33AF, "mm2 cm2 m2 km2 mm3 cm3 m3 km3 m∕s m∕s2 pa kpa mpa gpa rad rad∕s rad∕s2"⟩,
   ⟨0x33B0, 0x33BE, "ps ns μs ms pv nv μv mv kv mv pw nw μw mw kw"⟩, ⟨0x33BF, 0x33C1, "mw kω mω"⟩,
   ⟨0x33C3, 0x33C6, "bq cc cd c∕kg"⟩,
   ⟨0x33C8, 0x33D7, "db gy ha hp in kk km kt lm ln log lx mb mil mol ph"⟩,
   ⟨0x33D9, 0x33ED, "ppm pr sr sv wb v∕m a∕m 1日 2日 3日 4日 5日 6日 7日 8日 9日 10日 11日 12日 13日 14日"⟩,
   ⟨0x33EE, 0x33F8, "15日 16日 17日 18日 19日 20日 21日 22日 23日 24日 25日"⟩,
   ⟨0x33F9, 0x33FF, "26日 27日 28日 29日 30日 31日 gal"⟩, ⟨0xA69C, 0xA69D, "ъ ь"⟩, ⟨0xA770, 0xA770, "ꝯ"⟩,
   ⟨0xA7F1, 0xA7F4, "s c f q"⟩, ⟨0xA7F8, 0xA7F9, "ħ œ"⟩, ⟨0xAB5C, 0xAB5F, "ꜧ ꬷ ɫ ꭒ"⟩,
   ⟨0xAB69, 0xAB69, "ʍ"⟩, ⟨0xFB00, 0xFB06, "ff fi fl ffi ffl st st"⟩,
   ⟨0xFB13, 0xFB17, "մն մե մի վն մխ"⟩,
   ⟨0xFB20, 0xFB29, "\u05e2 \u05d0 \u05d3 \u05d4 \u05db \u05dc \u05dd \u05e8 \u05ea +"⟩,
   ⟨0xFB4F, 0xFB57, "\u05d0\u05dc \u0671 \u0671 \u067b \u067b \u067b \u067b \u067e \u067e"⟩,
   ⟨0xFB58, 0xFB5D, "\u067e \u067e \u0680 \u0680 \u0680 \u0680"⟩,
   ⟨0xFB5E, 0xFB63, "\u067a \u067a \u067a \u067a \u067f \u067f"⟩,
   ⟨0xFB64, 0xFB69, "\u067f \u067f \u0679 \u0679 \u0679 \u0679"⟩,
   ⟨0xFB6A, 0xFB6E, "\u06a4 \u06a4 \u06a4 \u06a4 \u06a6"⟩,
   ⟨0xFB6F, 0xFB78, "\u06a6 \u06a6 \u06a6 \u0684 \u0684 \u0684 \u0684 \u0683 \u0683 \u0683"⟩,
   ⟨0xFB79, 0xFB7E, "\u0683 \u0686 \u0686 \u0686 \u0686 \u0687"⟩,
   ⟨0xFB7F, 0xFB84, "\u0687 \u0687 \u0687 \u068d \u068d \u068c"⟩,
   ⟨0xFB85, 0xFB8E, "\u068c \u068e \u068e \u0688 \u0688 \u0698 \u0698 \u0691 \u0691 \u06a9"⟩,
   ⟨0xFB8F, 0xFB98, "\u06a9 \u06a9 \u06a9 \u06af \u06af \u06af \u06af \u06b3 \u06b3 \u06b3"⟩,
   ⟨0xFB99, 0xFB9E, "\u06b3 \u06b1 \u06b1 \u06b1 \u06b1 \u06ba"⟩,
   ⟨0xFB9F, 0xFBA4, "\u06ba \u06bb \u06bb \u06bb \u06bb \u06c0"⟩,
   ⟨0xFBA5, 0xFBAE, "\u06c0 \u06c1 \u06c1 \u06c1 \u06c1 \u06be \u06be \u06be \u06be \u06d2"⟩,
   ⟨0xFBAF, 0xFBB1, "\u06d2 \u06d3 \u06d3"⟩,
   ⟨0xFBD3, 0xFBDC, "\u06ad \u06ad \u06ad \u06ad \u06c7 \u06c7 \u06c6 \u06c6 \u06c8 \u06c8"⟩,
   ⟨0xFBDD, 0xFBE2, "\u06c7\u0674 \u06cb \u06cb \u06c5 \u06c5 \u06c9"⟩,
   ⟨0xFBE3, 0xFBE7, "\u06c9 \u06d0 \u06d0 \u06d0 \u06d0"⟩,
   ⟨0xFBE8, 0xFBEB, "\u0649 \u0649 \u0626\u0627 \u0626\u0627"⟩,
   ⟨0xFBEC, 0xFBEE, "\u0626\u06d5 \u0626\u06d5 \u0626\u0648"⟩,
   ⟨0xFBEF, 0xFBF2, "\u0626\u0648 \u0626\u06c7 \u0626\u06c7 \u0626\u06c6"⟩,
   ⟨0xFBF3, 0xFBF7, "\u0626\u06c6 \u0626\u06c8 \u0626\u06c8 \u0626\u06d0 \u0626\u06d0"⟩,
   ⟨0xFBF8, 0xFBFB, "\u0626\u06d0 \u0626\u0649 \u0626\u0649 \u0626\u0649"⟩,
   ⟨0xFBFC, 0xFBFF, "\u06cc \u06cc \u06cc \u06cc"⟩,
   ⟨0xFC00, 0xFC02, "\u0626\u062c \u0626\u062d \u0626\u0645"⟩,
   ⟨0xFC03, 0xFC05, "\u0626\u0649 \u0626\u064a \u0628\u062c"⟩,
   ⟨0xFC06, 0xFC08, "\u0628\u062d \u0628\u062e \u0628\u0645"⟩,
   ⟨0xFC09, 0xFC0B, "\u0628\u0649 \u0628\u064a \u062a\u062c"⟩,
   ⟨0xFC0C, 0xFC0E, "\u062a\u062d \u062a\u062e \u062a\u0645"⟩,
   ⟨0xFC0F, 0xFC11, "\u062a\u0649 \u062a\u064a \u062b\u062c"⟩, ⟨0xFC12, 0xFC12, "\u062b\u0645"⟩,
   ⟨0xFC13, 0xFC17, "\u062b\u0649 \u062b\u064a \u062c\u062d \u062c\u0645 \u062d\u062c"⟩,
   ⟨0xFC18, 0xFC1A, "\u062d\u0645 \u062e\u062c \u062e\u062d"⟩,
   ⟨0xFC1B, 0xFC1D, "\u062e\u0645 \u0633\u062c \u0633\u062d"⟩,
   ⟨0xFC1E, 0xFC20, "\u0633\u062e \u0633\u0645 \u0635\u062d"⟩,
   ⟨0xFC21, 0xFC23, "\u0635\u0645 \u0636\u062c \u0636\u062d"⟩,
   ⟨0xFC24, 0xFC26, "\u0636\u062e \u0636\u0645 \u0637\u062d"⟩,
   ⟨0xFC27, 0xFC29, "\u0637\u0645 \u0638\u0645 \u0639\u062c"⟩,
   ⟨0xFC2A, 0xFC2C, "\u0639\u0645 \u063a\u062c \u063a\u0645"⟩,
   ⟨0xFC2D, 0xFC2F, "\u0641\u062c \u0641\u062d \u0641\u062e"⟩,
   ⟨0xFC30, 0xFC32, "\u0641\u0645 \u0641\u0649 \u0641\u064a"⟩,
   ⟨0xFC33, 0xFC37, "\u0642\u062d \u0642\u0645 \u0642\u0649 \u0642\u064a \u0643\u0627"⟩,
   ⟨0xFC38, 0xFC3A, "\u0643\u062c \u0643\u062d \u0643\u062e"⟩,
   ⟨0xFC3B, 0xFC3D, "\u0643\u0644 \u0643\u0645 \u0643\u0649"⟩,
   ⟨0xFC3E, 0xFC40, "\u0643\u064a \u0644\u062c \u0644\u062d"⟩,
   ⟨0xFC41, 0xFC43, "\u0644\u062e \u0644\u0645 \u0644\u0649"⟩,
   ⟨0xFC44, 0xFC46, "\u0644\u064a \u0645\u062c \u0645\u062d"⟩,
   ⟨0xFC47, 0xFC49, "\u0645\u062e \u0645\u0645 \u0645\u0649"⟩,
   ⟨0xFC4A, 0xFC4C, "\u0645\u064a \u0646\u062c \u0646\u062d"⟩,
   ⟨0xFC4D, 0xFC4F, "\u0646\u062e \u0646\u0645 \u0646\u0649"⟩,
   ⟨0xFC50, 0xFC52, "\u0646\u064a \u0647\u062c \u0647\u0645"⟩,
   ⟨0xFC53, 0xFC57, "\u0647\u0649 \u0647\u064a \u064a\u062c \u064a\u062d \u064a\u062e"⟩,
   ⟨0xFC58, 0xFC5A, "\u064a\u0645 \u064a\u0649 \u064a\u064a"⟩,
   ⟨0xFC5B, 0xFC5D, "\u0630\u0670 \u0631\u0670 \u0649\u0670"⟩,
   ⟨0xFC64, 0xFC68, "\u0626\u0631 \u0626\u0632 \u0626\u0645 \u0626\u0646 \u0626\u0649"⟩,
   ⟨0xFC69, 0xFC6B, "\u0626\u064a \u0628\u0631 \u0628\u0632"⟩,
   ⟨0xFC6C, 0xFC6E, "\u0628\u0645 \u0628\u0646 \u0628\u0649"⟩,
   ⟨0xFC6F, 0xFC71, "\u0628\u064a \u062a\u0631 \u062a\u0632"⟩,
   ⟨0xFC72, 0xFC74, "\u062a\u0645 \u062a\u0646 \u062a\u0649"⟩,
   ⟨0xFC75, 0xFC77, "\u062a\u064a \u062b\u0631 \u062b\u0632"⟩,
   ⟨0xFC78, 0xFC7A, "\u062b\u0645 \u062b\u0646 \u062b\u0649"⟩,
   ⟨0xFC7B, 0xFC7D, "\u062b\u064a \u0641\u0649 \u0641\u064a"⟩,
   ⟨0xFC7E, 0xFC80, "\u0642\u0649 \u0642\u064a \u0643\u0627"⟩,
   ⟨0xFC81, 0xFC83, "\u0643\u0644 \u0643\u0645 \u0643\u0649"⟩,
   ⟨0xFC84, 0xFC88, "\u0643\u064a \u0644\u0645 \u0644\u0649 \u0644\u064a \u0645\u0627"⟩,
   ⟨0xFC89, 0xFC8B, "\u0645\u0645 \u0646\u0631 \u0646\u0632"⟩,
   ⟨0xFC8C, 0xFC8E, "\u0646\u0645 \u0646\u0646 \u0646\u0649"⟩,
   ⟨0xFC8F, 0xFC91, "\u0646\u064a \u0649\u0670 \u064a\u0631"⟩,
   ⟨0xFC92, 0xFC94, "\u064a\u0632 \u064a\u0645 \u064a\u0646"⟩,
   ⟨0xFC95, 0xFC97, "\u064a\u0649 \u064a\u064a \u0626\u062c"⟩,
   ⟨0xFC98, 0xFC9A, "\u0626\u062d \u0626\u062e \u0626\u0645"⟩,
   ⟨0xFC9B, 0xFC9D, "\u0626\u0647 \u0628\u062c \u0628\u062d"⟩,
   ⟨0xFC9E, 0xFCA0, "\u0628\u062e \u0628\u0645 \u0628\u0647"⟩,
   ⟨0xFCA1, 0xFCA3, "\u062a\u062c \u062a\u062d \u062a\u062e"⟩,
   ⟨0xFCA4, 0xFCA8, "\u062a\u0645 \u062a\u0647 \u062b\u0645 \u062c\u062d \u062c\u0645"⟩,
   ⟨0xFCA9, 0xFCAB, "\u062d\u062c \u062d\u0645 \u062e\u062c"⟩,
   ⟨0xFCAC, 0xFCAE, "\u062e\u0645 \u0633\u062c \u0633\u062d"⟩,
   ⟨0xFCAF, 0xFCB1, "\u0633\u062e \u0633\u0645 \u0635\u062d"⟩,
   ⟨0xFCB2, 0xFCB4, "\u0635\u062e \u0635\u0645 \u0636\u062c"⟩,
   ⟨0xFCB5, 0xFCB7, "\u0636\u062d \u0636\u062e \u0636\u0645"⟩,
   ⟨0xFCB8, 0xFCBA, "\u0637\u062d \u0638\u0645 \u0639\u062c"⟩,
   ⟨0xFCBB, 0xFCBD, "\u0639\u0645 \u063a\u062c \u063a\u0645"⟩,
   ⟨0xFCBE, 0xFCC0, "\u0641\u062c \u0641\u062d \u0641\u062e"⟩,
   ⟨0xFCC1, 0xFCC3, "\u0641\u0645 \u0642\u062d \u0642\u0645"⟩,
   ⟨0xFCC4, 0xFCC8, "\u0643\u062c \u0643\u062d \u0643\u062e \u0643\u0644 \u0643\u0645"⟩,
   ⟨0xFCC9, 0xFCCB, "\u0644\u062c \u0644\u062d \u0644\u062e"⟩,
   ⟨0xFCCC, 0xFCCE, "\u0644\u0645 \u0644\u0647 \u0645\u062c"⟩,
   ⟨0xFCCF, 0xFCD1, "\u0645\u062d \u0645\u062e \u0645\u0645"⟩,
   ⟨0xFCD2, 0xFCD4, "\u0646\u062c \u0646\u062d \u0646\u062e"⟩,
   ⟨0xFCD5, 0xFCD7, "\u0646\u0645 \u0646\u0647 \u0647\u062c"⟩,
   ⟨0xFCD8, 0xFCDA, "\u0647\u0645 \u0647\u0670 \u064a\u062c"⟩,
   ⟨0xFCDB, 0xFCDD, "\u064a\u062d \u064a\u062e \u064a\u0645"⟩,
   ⟨0xFCDE, 0xFCE0, "\u064a\u0647 \u0626\u0645 \u0626\u0647"⟩,
   ⟨0xFCE1, 0xFCE3, "\u0628\u0645 \u0628\u0647 \u062a\u0645"⟩,
   ⟨0xFCE4, 0xFCE8, "\u062a\u0647 \u062b\u0645 \u062b\u0647 \u0633\u0645 \u0633\u0647"⟩,
   ⟨0xFCE9, 0xFCEB, "\u0634\u0645 \u0634\u0647 \u0643\u0644"⟩,
   ⟨0xFCEC, 0xFCEE, "\u0643\u0645 \u0644\u0645 \u0646\u0645"⟩,
   ⟨0xFCEF, 0xFCF1, "\u0646\u0647 \u064a\u0645 \u064a\u0647"⟩,
   ⟨0xFCF2, 0xFCF3, "\u0640\u064e\u0651 \u0640\u064f\u0651"⟩,
   ⟨0xFCF4, 0xFCF6, "\u0640\u0650\u0651 \u0637\u0649 \u0637\u064a"⟩,
   ⟨0xFCF7, 0xFCF9, "\u0639\u0649 \u0639\u064a \u063a\u0649"⟩,
   ⟨0xFCFA, 0xFCFC, "\u063a\u064a \u0633\u0649 \u0633\u064a"⟩,
   ⟨0xFCFD, 0xFCFF, "\u0634\u0649 \u0634\u064a \u062d\u0649"⟩,
   ⟨0xFD00, 0xFD03, "\u062d\u064a \u062c\u0649 \u062c\u064a \u062e\u0649"⟩,
   ⟨0xFD04, 0xFD08, "\u062e\u064a \u0635\u0649 \u0635\u064a \u0636\u0649 \u0636\u064a"⟩,
   ⟨0xFD09, 0xFD0B, "\u0634\u062c \u0634\u062d \u0634\u062e"⟩,
   ⟨0xFD0C, 0xFD0E, "\u0634\u0645 \u0634\u0631 \u0633\u0631"⟩,
   ⟨0xFD0F, 0xFD11, "\u0635\u0631 \u0636\u0631 \u0637\u0649"⟩,
   ⟨0xFD12, 0xFD14, "\u0637\u064a \u0639\u0649 \u0639\u064a"⟩,
   ⟨0xFD15, 0xFD17, "\u063a\u0649 \u063a\u064a \u0633\u0649"⟩,
   ⟨0xFD18, 0xFD1A, "\u0633\u064a \u0634\u0649 \u0634\u064a"⟩,
   ⟨0xFD1B, 0xFD1D, "\u062d\u0649 \u062d\u064a \u062c\u0649"⟩,
   ⟨0xFD1E, 0xFD20, "\u062c\u064a \u062e\u0649 \u062e\u064a"⟩,
   ⟨0xFD21, 0xFD23, "\u0635\u0649 \u0635\u064a \u0636\u0649"⟩,
   ⟨0xFD24, 0xFD28, "\u0636\u064a \u0634\u062c \u0634\u062d \u0634\u062e \u0634\u0645"⟩,
   ⟨0xFD29, 0xFD2B, "\u0634\u0631 \u0633\u0631 \u0635\u0631"⟩,
   ⟨0xFD2C, 0xFD2E, "\u0636\u0631 \u0634\u062c \u0634\u062d"⟩,
   ⟨0xFD2F, 0xFD31, "\u0634\u062e \u0634\u0645 \u0633\u0647"⟩,
   ⟨0xFD32, 0xFD34, "\u0634\u0647 \u0637\u0645 \u0633\u062c"⟩,
   ⟨0xFD35, 0xFD37, "\u0633\u062d \u0633\u062e \u0634\u062c"⟩,
   ⟨0xFD38, 0xFD3A, "\u0634\u062d \u0634\u062e \u0637\u0645"⟩,
   ⟨0xFD3B, 0xFD3D, "\u0638\u0645 \u0627\u064b \u0627\u064b"⟩,
   ⟨0xFD50, 0xFD52, "\u062a\u062c\u0645 \u062a\u062d\u062c \u062a\u062d\u062c"⟩,
   ⟨0xFD53, 0xFD54, "\u062a\u062d\u0645 \u062a\u062e\u0645"⟩,
   ⟨0xFD55, 0xFD56, "\u062a\u0645\u062c \u062a\u0645\u062d"⟩,
   ⟨0xFD57, 0xFD58, "\u062a\u0645\u062e \u062c\u0645\u062d"⟩,
   ⟨0xFD59, 0xFD5A, "\u062c\u0645\u062d \u062d\u0645\u064a"⟩,
   ⟨0xFD5B, 0xFD5C, "\u062d\u0645\u0649 \u0633\u062d\u062c"⟩,
   ⟨0xFD5D, 0xFD5E, "\u0633\u062c\u062d \u0633\u062c\u0649"⟩,
   ⟨0xFD5F, 0xFD60, "\u0633\u0645\u062d \u0633\u0645\u062d"⟩,
   ⟨0xFD61, 0xFD62, "\u0633\u0645\u062c \u0633\u0645\u0645"⟩,
   ⟨0xFD63, 0xFD64, "\u0633\u0645\u0645 \u0635\u062d\u062d"⟩,
   ⟨0xFD65, 0xFD66, "\u0635\u062d\u062d \u0635\u0645\u0645"⟩,
   ⟨0xFD67, 0xFD68, "\u0634\u062d\u0645 \u0634\u062d\u0645"⟩,
   ⟨0xFD69, 0xFD6A, "\u0634\u062c\u064a \u0634\u0645\u062e"⟩,
   ⟨0xFD6B, 0xFD6C, "\u0634\u0645\u062e \u0634\u0645\u0645"⟩,
   ⟨0xFD6D, 0xFD6E, "\u0634\u0645\u0645 \u0636\u062d\u0649"⟩,
   ⟨0xFD6F, 0xFD6F, "\u0636\u062e\u0645"⟩,
   ⟨0xFD70, 0xFD72, "\u0636\u062e\u0645 \u0637\u0645\u062d \u0637\u0645\u062d"⟩,
   ⟨0xFD73, 0xFD74, "\u0637\u0645\u0645 \u0637\u0645\u064a"⟩,
   ⟨0xFD75, 0xFD76, "\u0639\u062c\u0645 \u0639\u0645\u0645"⟩,
   ⟨0xFD77, 0xFD78, "\u0639\u0645\u0645 \u0639\u0645\u0649"⟩,
   ⟨0xFD79, 0xFD7A, "\u063a\u0645\u0645 \u063a\u0645\u064a"⟩,
   ⟨0xFD7B, 0xFD7C, "\u063a\u0645\u0649 \u0641\u062e\u0645"⟩,
   ⟨0xFD7D, 0xFD7E, "\u0641\u062e\u0645 \u0642\u0645\u062d"⟩,
   ⟨0xFD7F, 0xFD80, "\u0642\u0645\u0645 \u0644\u062d\u0645"⟩,
   ⟨0xFD81, 0xFD82, "\u0644\u062d\u064a \u0644\u062d\u0649"⟩,
   ⟨0xFD83, 0xFD84, "\u0644\u062c\u062c \u0644\u062c\u062c"⟩,
   ⟨0xFD85, 0xFD86, "\u0644\u062e\u0645 \u0644\u062e\u0645"⟩,
   ⟨0xFD87, 0xFD88, "\u0644\u0645\u062d \u0644\u0645\u062d"⟩,
   ⟨0xFD89, 0xFD8A, "\u0645\u062d\u062c \u0645\u062d\u0645"⟩,
   ⟨0xFD8B, 0xFD8C, "\u0645\u062d\u064a \u0645\u062c\u062d"⟩,
   ⟨0xFD8D, 0xFD8E, "\u0645\u062c\u0645 \u0645\u062e\u062c"⟩,
   ⟨0xFD8F, 0xFD8F, "\u0645\u062e\u0645"⟩,
   ⟨0xFD92, 0xFD94, "\u0645\u062c\u062e \u0647\u0645\u062c \u0647\u0645\u0645"⟩,
   ⟨0xFD95, 0xFD96, "\u0646\u062d\u0645 \u0646\u062d\u0649"⟩,
   ⟨0xFD97, 0xFD98, "\u0646\u062c\u0645 \u0646\u062c\u0645"⟩,
   ⟨0xFD99, 0xFD9A, "\u0646\u062c\u0649 \u0646\u0645\u064a"⟩,
   ⟨0xFD9B, 0xFD9C, "\u0646\u0645\u0649 \u064a\u0645\u0645"⟩,
   ⟨0xFD9D, 0xFD9E, "\u064a\u0645\u0645 \u0628\u062e\u064a"⟩,
   ⟨0xFD9F, 0xFDA0, "\u062a\u062c\u064a \u062a\u062c\u0649"⟩,
   ⟨0xFDA1, 0xFDA2, "\u062a\u062e\u064a \u062a\u062e\u0649"⟩,
   ⟨0xFDA3, 0xFDA4, "\u062a\u0645\u064a \u062a\u0645\u0649"⟩,
   ⟨0xFDA5, 0xFDA6, "\u062c\u0645\u064a \u062c\u062d\u0649"⟩,
   ⟨0xFDA7, 0xFDA8, "\u062c\u0645\u0649 \u0633\u062e\u0649"⟩,
   ⟨0xFDA9, 0xFDAA, "\u0635\u062d\u064a \u0634\u062d\u064a"⟩,
   ⟨0xFDAB, 0xFDAC, "\u0636\u062d\u064a \u0644\u062c\u064a"⟩,
   ⟨0xFDAD, 0xFDAE, "\u0644\u0645\u064a \u064a\u062d\u064a"⟩,
   ⟨0xFDAF, 0xFDB0, "\u064a\u062c\u064a \u064a\u0645\u064a"⟩,
   ⟨0xFDB1, 0xFDB1, "\u0645\u0645\u064a"⟩,
   ⟨0xFDB2, 0xFDB4, "\u0642\u0645\u064a \u0646\u062d\u064a \u0642\u0645\u062d"⟩,
   ⟨0xFDB5, 0xFDB6, "\u0644\u062d\u0645 \u0639\u0645\u064a"⟩,
   ⟨0xFDB7, 0xFDB8, "\u0643\u0645\u064a \u0646\u062c\u062d"⟩,
   ⟨0xFDB9, 0xFDBA, "\u0645\u062e\u064a \u0644\u062c\u0645"⟩,
   ⟨0xFDBB, 0xFDBC, "\u0643\u0645\u0645 \u0644\u062c\u0645"⟩,
   ⟨0xFDBD, 0xFDBE, "\u0646\u062c\u062d \u062c\u062d\u064a"⟩,
   ⟨0xFDBF, 0xFDC0, "\u062d\u062c\u064a \u0645\u062c\u064a"⟩,
   ⟨0xFDC1, 0xFDC2, "\u0641\u0645\u064a \u0628\u062d\u064a"⟩,
   ⟨0xFDC3, 0xFDC4, "\u0643\u0645\u0645 \u0639\u062c\u0645"⟩,
   ⟨0xFDC5, 0xFDC7, "\u0635\u0645\u0645 \u0633\u062e\u064a \u0646\u062c\u064a"⟩,
   ⟨0xFDF0, 0xFDF2, "\u0635\u0644\u06d2 \u0642\u0644\u06d2 \u0627\u0644\u0644\u0647"⟩,
   ⟨0xFDF3, 0xFDF4, "\u0627\u0643\u0628\u0631 \u0645\u062d\u0645\u062f"⟩,
   ⟨0xFDF5, 0xFDF5, "\u0635\u0644\u0639\u0645"⟩,
   ⟨0xFDF6, 0xFDF7, "\u0631\u0633\u0648\u0644 \u0639\u0644\u064a\u0647"⟩,
   ⟨0xFDF8, 0xFDF8, "\u0648\u0633\u0644\u0645"⟩, ⟨0xFDF9, 0xFDF9, "\u0635\u0644\u0649"⟩,
   ⟨0xFDFC, 0xFDFC, "\u0631\u06cc\u0627\u0644"⟩, ⟨0xFE10, 0xFE11, ", 、"⟩, ⟨0xFE14, 0xFE15, "; !"⟩,
   ⟨0xFE17, 0xFE18, "〖 〗"⟩, ⟨0xFE31, 0xFE40, "— – _ _ ( ) \x7b \x7d 〔 〕 【 】 《 》 〈 〉"⟩,
   ⟨0xFE4D, 0xFE51, "_ _ _ , 、"⟩, ⟨0xFE54, 0xFE54, ";"⟩, ⟨0xFE57, 0xFE5E, "! — ( ) \x7b \x7d 〔 〕"⟩,
   ⟨0xFE60, 0xFE63, "& * + -"⟩, ⟨0xFE66, 0xFE66, "="⟩, ⟨0xFE69, 0xFE69, "$"⟩,
   ⟨0xFE71, 0xFE71, "\u0640\u064b"⟩, ⟨0xFE77, 0xFE77, "\u0640\u064e"⟩,
   ⟨0xFE79, 0xFE79, "\u0640\u064f"⟩, ⟨0xFE7B, 0xFE7B, "\u0640\u0650"⟩,
   ⟨0xFE7D, 0xFE7D, "\u0640\u0651"⟩,
   ⟨0xFE7F, 0xFE87, "\u0640\u0652 \u0621 \u0622 \u0622 \u0623 \u0623 \u0624 \u0624 \u0625"⟩,
   ⟨0xFE88, 0xFE8D, "\u0625 \u0626 \u0626 \u0626 \u0626 \u0627"⟩,
   ⟨0xFE8E, 0xFE93, "\u0627 \u0628 \u0628 \u0628 \u0628 \u0629"⟩,
   ⟨0xFE94, 0xFE99, "\u0629 \u062a \u062a \u062a \u062a \u062b"⟩,
   ⟨0xFE9A, 0xFE9E, "\u062b \u062b \u062b \u062c \u062c"⟩,
   ⟨0xFE9F, 0xFEA8, "\u062c \u062c \u062d \u062d \u062d \u062d \u062e \u062e \u062e \u062e"⟩,
   ⟨0xFEA9, 0xFEAE, "\u062f \u062f \u0630 \u0630 \u0631 \u0631"⟩,
   ⟨0xFEAF, 0xFEB4, "\u0632 \u0632 \u0633 \u0633 \u0633 \u0633"⟩,
   ⟨0xFEB5, 0xFEBE, "\u0634 \u0634 \u0634 \u0634 \u0635 \u0635 \u0635 \u0635 \u0636 \u0636"⟩,
   ⟨0xFEBF, 0xFEC8, "\u0636 \u0636 \u0637 \u0637 \u0637 \u0637 \u0638 \u0638 \u0638 \u0638"⟩,
   ⟨0xFEC9, 0xFECE, "\u0639 \u0639 \u0639 \u0639 \u063a \u063a"⟩,
   ⟨0xFECF, 0xFED4, "\u063a \u063a \u0641 \u0641 \u0641 \u0641"⟩,
   ⟨0xFED5, 0xFEDE, "\u0642 \u0642 \u0642 \u0642 \u0643 \u0643 \u0643 \u0643 \u0644 \u0644"⟩,
   ⟨0xFEDF, 0xFEE8, "\u0644 \u0644 \u0645 \u0645 \u0645 \u0645 \u0646 \u0646 \u0646 \u0646"⟩,
   ⟨0xFEE9, 0xFEEE, "\u0647 \u0647 \u0647 \u0647 \u0648 \u0648"⟩,
   ⟨0xFEEF, 0xFEF4, "\u0649 \u0649 \u064a \u064a \u064a \u064a"⟩,
   ⟨0xFEF5, 0xFEF7, "\u0644\u0622 \u0644\u0622 \u0644\u0623"⟩,
   ⟨0xFEF8, 0xFEFA, "\u0644\u0623 \u0644\u0625 \u0644\u0625"⟩,
   ⟨0xFEFB, 0xFEFC, "\u0644\u0627 \u0644\u0627"⟩, ⟨0xFF01, 0xFF01, "!"⟩, ⟨0xFF1B, 0xFF1B, ";"⟩,
   ⟨0xFF1D, 0xFF1D, "="⟩,
   ⟨0xFF5D, 0xFF7C, "\x7d ~ ⦅ ⦆ . 「 」 、 ・ ヲ ァ ィ ゥ ェ ォ ャ ュ ョ ッ ー ア イ ウ エ オ カ キ ク ケ コ サ シ"⟩,
   ⟨0xFF7D, 0xFF84, "ス セ ソ タ チ ツ テ ト"⟩, ⟨0xFF8B, 0xFF8E, "ヒ フ ヘ ホ"⟩, ⟨0xFF94, 0xFF95, "ヤ ユ"⟩,
   ⟨0xFF9C, 0xFF9F, "ワ ン \u3099 \u309a"⟩, ⟨0xFFA1, 0xFFA9, "ᄀ ᄁ ᆪ ᄂ ᆬ ᆭ ᄃ ᄄ ᄅ"⟩,
   ⟨0xFFB0, 0xFFB4, "ᄚ ᄆ ᄇ ᄈ ᄡ"⟩, ⟨0xFFDA, 0xFFDC, "ᅳ ᅴ ᅵ"⟩, ⟨0xFFE0, 0xFFE2, "¢ £ ¬"⟩,
   ⟨0xFFE4, 0xFFE6, "¦ ¥ ₩"⟩, ⟨0xFFE8, 0xFFE8, "│"⟩, ⟨0xFFED, 0xFFEE, "■ ○"⟩,
   ⟨0x10781, 0x10785, "ː ˑ æ ʙ ɓ"⟩,
   ⟨0x10787, 0x107A6, "ʣ ꭦ ʥ ʤ ɖ ɗ ᶑ ɘ ɞ ʩ ɤ ɢ ɠ ʛ ħ ʜ ɧ ʄ ʪ ʫ ɬ 𝼄 ꞎ ɮ 𝼅 ʎ 𝼆 ø ɶ ɷ q ɺ"⟩,
   ⟨0x107A7, 0x107B0, "𝼈 ɽ ɾ ʀ ʨ ʦ ꭧ ʧ ʈ ⱱ"⟩, ⟨0x107B2, 0x107BA, "ʏ ʡ ʢ ʘ ǀ ǁ ǂ 𝼊 𝼞"⟩,
   ⟨0x1D49C, 0x1D49C, "a"⟩, ⟨0x1D49E, 0x1D49F, "c d"⟩, ⟨0x1D4A2, 0x1D4A2, "g"⟩,
   ⟨0x1D4A5, 0x1D4A6, "j k"⟩, ⟨0x1D4BB, 0x1D4BB, "f"⟩, ⟨0x1D504, 0x1D505, "a b"⟩,
   ⟨0x1D538, 0x1D539, "a b"⟩, ⟨0x1D546, 0x1D546, "o"⟩, ⟨0x1D6A4, 0x1D6A5, "ı ȷ"⟩,
   ⟨0x1D6B9, 0x1D6B9, "θ"⟩, ⟨0x1D6C1, 0x1D6C1, "∇"⟩, ⟨0x1D6D3, 0x1D6D3, "σ"⟩,
   ⟨0x1D6DB, 0x1D6E1, "∂ ε θ κ φ ρ π"⟩, ⟨0x1D6F3, 0x1D6F3, "θ"⟩, ⟨0x1D6FB, 0x1D6FB, "∇"⟩,
   ⟨0x1D70D, 0x1D70D, "σ"⟩, ⟨0x1D715, 0x1D71B, "∂ ε θ κ φ ρ π"⟩, ⟨0x1D72D, 0x1D72D, "θ"⟩,
   ⟨0x1D735, 0x1D735, "∇"⟩, ⟨0x1D747, 0x1D747, "σ"⟩, ⟨0x1D74F, 0x1D755, "∂ ε θ κ φ ρ π"⟩,
   ⟨0x1D767, 0x1D767, "θ"⟩, ⟨0x1D76F, 0x1D76F, "∇"⟩, ⟨0x1D781, 0x1D781, "σ"⟩,
   ⟨0x1D789, 0x1D78F, "∂ ε θ κ φ ρ π"⟩, ⟨0x1D7A1, 0x1D7A1, "θ"⟩, ⟨0x1D7A9, 0x1D7A9, "∇"⟩,
   ⟨0x1D7BB, 0x1D7BB, "σ"⟩, ⟨0x1D7C3, 0x1D7CB, "∂ ε θ κ φ ρ π ϝ ϝ"⟩, ⟨0x1E039, 0x1E03B, "к л м"⟩,
   ⟨0x1E047, 0x1E050, "ы э ю ꚉ ә і ј ө ү ӏ"⟩, ⟨0x1E05A, 0x1E05E, "к л о п с"⟩,
   ⟨0x1E065, 0x1E06D, "ъ ы ґ і ѕ џ ҫ ꙑ ұ"⟩, ⟨0x1EE00, 0x1EE03, "\u0627 \u0628 \u062c \u062f"⟩,
   ⟨0x1EE05, 0x1EE09, "\u0648 \u0632 \u062d \u0637 \u064a"⟩,
   ⟨0x1EE0E, 0x1EE12, "\u0633 \u0639 \u0641 \u0635 \u0642"⟩,
   ⟨0x1EE13, 0x1EE17, "\u0631 \u0634 \u062a \u062b \u062e"⟩,
   ⟨0x1EE18, 0x1EE1F, "\u0630 \u0636 \u0638 \u063a \u066e \u06ba \u06a1 \u066f"⟩,
   ⟨0x1EE21, 0x1EE22, "\u0628 \u062c"⟩, ⟨0x1EE24, 0x1EE24, "\u0647"⟩, ⟨0x1EE27, 0x1EE27, "\u062d"⟩,
   ⟨0x1EE29, 0x1EE29, "\u064a"⟩, ⟨0x1EE2E, 0x1EE32, "\u0633 \u0639 \u0641 \u0635 \u0642"⟩,
   ⟨0x1EE34, 0x1EE37, "\u0634 \u062a \u062b \u062e"⟩, ⟨0x1EE39, 0x1EE39, "\u0636"⟩,
   ⟨0x1EE3B, 0x1EE3B, "\u063a"⟩, ⟨0x1EE42, 0x1EE42, "\u062c"⟩, ⟨0x1EE47, 0x1EE47, "\u062d"⟩,
   ⟨0x1EE49, 0x1EE49, "\u064a"⟩, ⟨0x1EE4B, 0x1EE4B, "\u0644"⟩,
   ⟨0x1EE4D, 0x1EE4F, "\u0646 \u0633 \u0639"⟩, ⟨0x1EE51, 0x1EE52, "\u0635 \u0642"⟩,
   ⟨0x1EE54, 0x1EE54, "\u0634"⟩, ⟨0x1EE57, 0x1EE57, "\u062e"⟩, ⟨0x1EE59, 0x1EE59, "\u0636"⟩,
   ⟨0x1EE5B, 0x1EE5B, "\u063a"⟩, ⟨0x1EE5D, 0x1EE5D, "\u06ba"⟩, ⟨0x1EE5F, 0x1EE5F, "\u066f"⟩,
   ⟨0x1EE61, 0x1EE62, "\u0628 \u062c"⟩, ⟨0x1EE64, 0x1EE64, "\u0647"⟩,
   ⟨0x1EE67, 0x1EE6A, "\u062d \u0637 \u064a \u0643"⟩,
   ⟨0x1EE6C, 0x1EE72, "\u0645 \u0646 \u0633 \u0639 \u0641 \u0635 \u0642"⟩,
   ⟨0x1EE74, 0x1EE77, "\u0634 \u062a \u062b \u062e"⟩,
   ⟨0x1EE79, 0x1EE7C, "\u0636 \u0638 \u063a \u066e"⟩, ⟨0x1EE7E, 0x1EE7E, "\u06a1"⟩,
   ⟨0x1EE80, 0x1EE84, "\u0627 \u0628 \u062c \u062f \u0647"⟩,
   ⟨0x1EE85, 0x1EE89, "\u0648 \u0632 \u062d \u0637 \u064a"⟩,
   ⟨0x1EE8B, 0x1EE8F, "\u0644 \u0645 \u0646 \u0633 \u0639"⟩,
   ⟨0x1EE90, 0x1EE94, "\u0641 \u0635 \u0642 \u0631 \u0634"⟩,
   ⟨0x1EE95, 0x1EE9B, "\u062a \u062b \u062e \u0630 \u0636 \u0638 \u063a"⟩,
   ⟨0x1EEA1, 0x1EEA3, "\u0628 \u062c \u062f"⟩,
   ⟨0x1EEA5, 0x1EEA9, "\u0648 \u0632 \u062d \u0637 \u064a"⟩,
   ⟨0x1EEAB, 0x1EEAF, "\u0644 \u0645 \u0646 \u0633 \u0639"⟩,
   ⟨0x1EEB0, 0x1EEB4, "\u0641 \u0635 \u0642 \u0631 \u0634"⟩,
   ⟨0x1EEB5, 0x1EEBB, "\u062a \u062b \u062e \u0630 \u0636 \u0638 \u063a"⟩,
   ⟨0x1F101, 0x1F10A, "0, 1, 2, 3, 4, 5, 6, 7, 8, 9,"⟩,
   ⟨0x1F110, 0x1F120, "(a) (b) (c) (d) (e) (f) (g) (h) (i) (j) (k) (l) (m) (n) (o) (p) (q)"⟩,
   ⟨0x1F121, 0x1F12E, "(r) (s) (t) (u) (v) (w) (x) (y) (z) 〔s〕 c r cd wz"⟩,
   ⟨0x1F14A, 0x1F14F, "hv mv sd ss ppv wc"⟩, ⟨0x1F16A, 0x1F16C, "mc md mr"⟩,
   ⟨0x1F190, 0x1F190, "dj"⟩, ⟨0x1F200, 0x1F202, "ほか ココ サ"⟩,
   ⟨0x1F210, 0x1F22F, "手 字 双 デ 二 多 解 天 交 映 無 料 前 後 再 新 初 終 生 販 声 吹 演 投 捕 一 三 遊 左 中 右 指"⟩,
   ⟨0x1F230, 0x1F23B, "走 打 禁 空 合 満 有 月 申 割 営 配"⟩,
   ⟨0x1F240, 0x1F248, "〔本〕 〔三〕 〔二〕 〔安〕 〔点〕 〔打〕 〔盗〕 〔勝〕 〔敗〕"⟩, ⟨0x1F250, 0x1F251, "得 可"⟩]

end TrustFederation.Domain
